import TinyCP.StreamExtraction
import TinyCP.TransmissionControlBlock

/-!
# Addresses from strings

`from_string` takes four numbers and three dots from a stream and shifts the numbers into
place. The stream is more lenient than the notation: white space and signs pass, a number
may be of any 32-bit size, and what follows the last one is not looked at.
-/
namespace TinyCP
open StreamExtraction

namespace IPv4Address

/-- What is left of `from_string` without the port: the condition, and the address. -/
def hostAddress (ipPart : List Char) : Option UInt32 :=
  let ss : Stream := ⟨ipPart, false⟩
  let (a, ss) := ss.getNumber 0xFFFFFFFF 0
  let (dot1, ss) := ss.getChar (Char.ofNat 0)
  let (b, ss) := ss.getNumber 0xFFFFFFFF 0
  let (dot2, ss) := ss.getChar (Char.ofNat 0)
  let (c, ss) := ss.getNumber 0xFFFFFFFF 0
  let (dot3, ss) := ss.getChar (Char.ofNat 0)
  let (d, ss) := ss.getNumber 0xFFFFFFFF 0
  if !ss.failed ∧ dot1 = '.' ∧ dot2 = '.' ∧ dot3 = '.' then
    some ((UInt32.ofNat a <<< 24) ||| (UInt32.ofNat b <<< 16) ||| (UInt32.ofNat c <<< 8) |||
      UInt32.ofNat d)
  else none

def fromString (str : List Char) : IPv4Address :=
  let colonPos := str.idxOf? ':'
  let ipPart := match colonPos with
    | some pos => str.take pos
    | none => str
  match hostAddress ipPart with
  | some ip =>
    let p := match colonPos with
      | some pos => (Stream.getNumber ⟨str.drop (pos + 1), false⟩ 0xFFFF 0).1
      | none => 0
    ⟨ip, UInt16.ofNat p⟩
  | none => ⟨0, 0⟩

end IPv4Address

/-- A decimal number in the range from zero to `max`. -/
structure Numeral (max : Nat) (text : List Char) : Prop where
  nonempty : text ≠ []
  digits : ∀ c ∈ text, c.isDigit = true
  bound : decimal text ≤ max

/-- Four octets between dots, and the address they stand for. -/
inductive DottedQuad : List Char → UInt32 → Prop
  | intro {a b c d : List Char} (first : Numeral 255 a) (second : Numeral 255 b)
      (third : Numeral 255 c) (fourth : Numeral 255 d) :
      DottedQuad (a ++ '.' :: (b ++ '.' :: (c ++ '.' :: d)))
        (UInt32.ofNat (((decimal a * 256 + decimal b) * 256 + decimal c) * 256 + decimal d))

/-- The notation for an endpoint. -/
inductive EndpointText : List Char → IPv4Address → Prop
  | host {text : List Char} {address : UInt32} (quad : DottedQuad text address) :
      EndpointText text ⟨address, 0⟩
  | hostAndPort {text port : List Char} {address : UInt32} (quad : DottedQuad text address)
      (numeral : Numeral 65535 port) :
      EndpointText (text ++ ':' :: port) ⟨address, UInt16.ofNat (decimal port)⟩

structure AcceptsExactly (s : List Char) : Prop where
  reads : ∀ address, EndpointText s address → IPv4Address.fromString s = address
  refuses : (¬ ∃ address, EndpointText s address) → IPv4Address.fromString s = ⟨0, 0⟩

/-- A string is cut at its first colon. -/
inductive CutAtColon : List Char → List Char → Option (List Char) → Prop
  | whole {s : List Char} (noColon : ':' ∉ s) : CutAtColon s s none
  | colon {host port : List Char} (first : ':' ∉ host) :
      CutAtColon (host ++ ':' :: port) host (some port)

/-- Four numbers of 32 bits with dots between, as the stream finds them; they may be
preceded by white space and signs and followed by anything. -/
inductive LooseQuad : List Char → Int → Int → Int → Int → Prop
  | intro {text r₁ r₂ r₃ r₄ r₅ r₆ r₇ : List Char} {a b c d : Int}
      (first : NumberAt text a r₁) (firstFits : a.natAbs < 2 ^ 32) (dot1 : CharAt r₁ '.' r₂)
      (second : NumberAt r₂ b r₃) (secondFits : b.natAbs < 2 ^ 32) (dot2 : CharAt r₃ '.' r₄)
      (third : NumberAt r₄ c r₅) (thirdFits : c.natAbs < 2 ^ 32) (dot3 : CharAt r₅ '.' r₆)
      (fourth : NumberAt r₆ d r₇) (fourthFits : d.natAbs < 2 ^ 32) : LooseQuad text a b c d

/-- Such numbers before the first colon, with something to show for it: one of them keeps a
bit through its shift, or there is a number other than zero behind the colon. -/
def LooseNonzero (s : List Char) : Prop :=
  ∃ host port a b c d, CutAtColon s host port ∧ LooseQuad host a b c d ∧
    (¬ 2 ^ 8 ∣ a ∨ ¬ 2 ^ 16 ∣ b ∨ ¬ 2 ^ 24 ∣ c ∨ d ≠ 0 ∨
      ∃ text ∈ port, ∃ z rest, NumberAt text z rest ∧ z ≠ 0)

theorem exists_cutAtColon (s : List Char) : ∃ host port, CutAtColon s host port := by
  by_cases colon : ':' ∈ s
  · obtain ⟨host, port, rfl, first⟩ := List.eq_append_cons_of_mem colon
    exact ⟨host, some port, .colon first⟩
  · exact ⟨s, none, .whole colon⟩

/-- The value of the port, which a failed extraction may set too. -/
def portNumber : Option (List Char) → UInt16
  | some text => UInt16.ofNat (Stream.getNumber ⟨text, false⟩ 0xFFFF 0).1
  | none => 0

namespace IPv4Address
variable {s host : List Char} {port : Option (List Char)}

theorem idxOf?_colon {port : List Char} (first : ':' ∉ host) :
    (host ++ ':' :: port).idxOf? ':' = some host.length := by
  induction host with
  | nil => rfl
  | cons c cs ih =>
    rw [List.mem_cons, not_or] at first
    obtain ⟨other, later⟩ := first
    rw [List.cons_append, List.idxOf?_cons, if_neg (by simpa using Ne.symm other), ih later]
    rfl

theorem fromString_of_cut (cut : CutAtColon s host port) :
    fromString s = match hostAddress host with
      | some ip => ⟨ip, portNumber port⟩
      | none => ⟨0, 0⟩ := by
  cases cut with
  | whole noColon =>
    have position : s.idxOf? ':' = none := List.idxOf?_eq_none_iff.mpr noColon
    simp only [fromString, position]
    rfl
  | @colon host port first =>
    have behind : (host ++ ':' :: port).drop (host.length + 1) = port := by
      rw [List.drop_append, List.drop_of_length_le (by omega)]
      simp
    simp only [fromString, idxOf?_colon first, List.take_left, behind]
    rfl

theorem hostAddress_of_loose {a b c d : Int} (quad : LooseQuad host a b c d) :
    hostAddress host = some ((UInt32.ofNat (stored 0xFFFFFFFF a) <<< 24) |||
      (UInt32.ofNat (stored 0xFFFFFFFF b) <<< 16) |||
      (UInt32.ofNat (stored 0xFFFFFFFF c) <<< 8) ||| UInt32.ofNat (stored 0xFFFFFFFF d)) := by
  obtain ⟨first, firstFits, dot1, second, secondFits, dot2, third, thirdFits, dot3, fourth,
    fourthFits⟩ := quad
  rw [hostAddress, Stream.getNumber_of_fits first (Nat.le_of_lt_succ firstFits)]
  simp only
  rw [Stream.getChar_of_charAt dot1]
  simp only
  rw [Stream.getNumber_of_fits second (Nat.le_of_lt_succ secondFits)]
  simp only
  rw [Stream.getChar_of_charAt dot2]
  simp only
  rw [Stream.getNumber_of_fits third (Nat.le_of_lt_succ thirdFits)]
  simp only
  rw [Stream.getChar_of_charAt dot3]
  simp only
  rw [Stream.getNumber_of_fits fourth (Nat.le_of_lt_succ fourthFits)]
  rfl

theorem loose_of_hostAddress {ip : UInt32} (accepted : hostAddress host = some ip) :
    ∃ a b c d, LooseQuad host a b c d := by
  rw [hostAddress] at accepted
  generalize take1 : Stream.getNumber ⟨host, false⟩ 0xFFFFFFFF 0 = x₁ at accepted
  obtain ⟨a, s₁⟩ := x₁
  simp only at accepted
  generalize take2 : s₁.getChar (Char.ofNat 0) = x₂ at accepted
  obtain ⟨dot1, s₂⟩ := x₂
  simp only at accepted
  generalize take3 : s₂.getNumber 0xFFFFFFFF 0 = x₃ at accepted
  obtain ⟨b, s₃⟩ := x₃
  simp only at accepted
  generalize take4 : s₃.getChar (Char.ofNat 0) = x₄ at accepted
  obtain ⟨dot2, s₄⟩ := x₄
  simp only at accepted
  generalize take5 : s₄.getNumber 0xFFFFFFFF 0 = x₅ at accepted
  obtain ⟨c, s₅⟩ := x₅
  simp only at accepted
  generalize take6 : s₅.getChar (Char.ofNat 0) = x₆ at accepted
  obtain ⟨dot3, s₆⟩ := x₆
  simp only at accepted
  generalize take7 : s₆.getNumber 0xFFFFFFFF 0 = x₇ at accepted
  obtain ⟨d, s₇⟩ := x₇
  simp only at accepted
  split_ifs at accepted with holds
  obtain ⟨succeeds, rfl, rfl, rfl⟩ := holds
  rw [Bool.not_eq_true'] at succeeds
  obtain ⟨ok₆, d, fourth, fourthFits, -⟩ := Stream.numberAt_of_succeeds take7 succeeds
  obtain ⟨ok₅, point3⟩ := Stream.charAt_of_succeeds take6 ok₆
  obtain ⟨ok₄, c, third, thirdFits, -⟩ := Stream.numberAt_of_succeeds take5 ok₅
  obtain ⟨ok₃, point2⟩ := Stream.charAt_of_succeeds take4 ok₄
  obtain ⟨ok₂, b, second, secondFits, -⟩ := Stream.numberAt_of_succeeds take3 ok₃
  obtain ⟨ok₁, point1⟩ := Stream.charAt_of_succeeds take2 ok₂
  obtain ⟨-, a, first, firstFits, -⟩ := Stream.numberAt_of_succeeds take1 ok₁
  exact ⟨a, b, c, d, .intro first (Nat.lt_succ_of_le firstFits) point1 second
    (Nat.lt_succ_of_le secondFits) point2 third (Nat.lt_succ_of_le thirdFits) point3 fourth
    (Nat.lt_succ_of_le fourthFits)⟩

end IPv4Address

section Shifts

theorem toNat_shifted {n : Nat} (range : n < 2 ^ 32) {k : UInt32} (short : k.toNat < 32) :
    (UInt32.ofNat n <<< k).toNat = n * 2 ^ k.toNat % 2 ^ 32 := by
  rw [UInt32.toNat_shiftLeft, UInt32.toNat_ofNat', Nat.mod_eq_of_lt range,
    Nat.mod_eq_of_lt short, Nat.shiftLeft_eq]

/-- A shifted number vanishes if the bits that remain of it are zero. -/
theorem shifted_eq_zero_iff (z : Int) {k : UInt32} (short : k.toNat < 32) :
    UInt32.ofNat (stored 0xFFFFFFFF z) <<< k = 0 ↔ (2 ^ (32 - k.toNat) : Int) ∣ z := by
  have range : stored 0xFFFFFFFF z < 2 ^ 32 := by
    rw [stored]
    omega
  have value : (stored 0xFFFFFFFF z : Int) = z % 2 ^ 32 := by
    rw [stored]
    omega
  have split : (2 : Nat) ^ 32 = 2 ^ (32 - k.toNat) * 2 ^ k.toNat := by
    rw [← pow_add, Nat.sub_add_cancel short.le]
  have divides : (2 ^ (32 - k.toNat) : Int) ∣ 2 ^ 32 := pow_dvd_pow 2 (Nat.sub_le _ _)
  calc UInt32.ofNat (stored 0xFFFFFFFF z) <<< k = 0
      ↔ stored 0xFFFFFFFF z * 2 ^ k.toNat % 2 ^ 32 = 0 := by
        rw [← UInt32.toNat_inj, toNat_shifted range short]
        rfl
    _ ↔ 2 ^ (32 - k.toNat) ∣ stored 0xFFFFFFFF z := by
        rw [← Nat.dvd_iff_mod_eq_zero, split]
        exact Nat.mul_dvd_mul_iff_right (Nat.two_pow_pos _)
    _ ↔ (2 ^ (32 - k.toNat) : Int) ∣ z := by
        rw [← Int.natCast_dvd_natCast, value, Int.natCast_pow, Int.dvd_iff_emod_eq_zero,
          Int.dvd_iff_emod_eq_zero]
        exact iff_of_eq (congrArg (· = 0) (Int.emod_emod_of_dvd z divides))

theorem or_eq_add {high low k : Nat} (short : low < 2 ^ k) :
    high * 2 ^ k ||| low = high * 2 ^ k + low := by
  rw [← Nat.shiftLeft_eq, Nat.shiftLeft_add_eq_or_of_lt short]

/-- Four octets side by side. -/
theorem shifted_octets {a b c d : Nat} (ha : a ≤ 255) (hb : b ≤ 255) (hc : c ≤ 255)
    (hd : d ≤ 255) :
    (UInt32.ofNat a <<< 24) ||| (UInt32.ofNat b <<< 16) ||| (UInt32.ofNat c <<< 8) |||
      UInt32.ofNat d = UInt32.ofNat (((a * 256 + b) * 256 + c) * 256 + d) := by
  have first : (UInt32.ofNat a <<< 24).toNat = a * 2 ^ 24 :=
    (toNat_shifted (by omega) (by decide)).trans (Nat.mod_eq_of_lt (by simp; omega))
  have second : (UInt32.ofNat b <<< 16).toNat = b * 2 ^ 16 :=
    (toNat_shifted (by omega) (by decide)).trans (Nat.mod_eq_of_lt (by simp; omega))
  have third : (UInt32.ofNat c <<< 8).toNat = c * 2 ^ 8 :=
    (toNat_shifted (by omega) (by decide)).trans (Nat.mod_eq_of_lt (by simp; omega))
  apply UInt32.toNat_inj.mp
  rw [UInt32.toNat_or, UInt32.toNat_or, UInt32.toNat_or, first, second, third,
    UInt32.toNat_ofNat', UInt32.toNat_ofNat', Nat.mod_eq_of_lt (by omega),
    Nat.mod_eq_of_lt (by omega)]
  have pair : a * 2 ^ 24 ||| b * 2 ^ 16 = (a * 256 + b) * 2 ^ 16 := by
    rw [@or_eq_add a (b * 2 ^ 16) 24 (by omega)]
    omega
  have triple : (a * 256 + b) * 2 ^ 16 ||| c * 2 ^ 8 = ((a * 256 + b) * 256 + c) * 2 ^ 8 := by
    rw [@or_eq_add (a * 256 + b) (c * 2 ^ 8) 16 (by omega)]
    omega
  rw [pair, triple]
  exact or_eq_add (by omega)

end Shifts

section Notation
variable {max : Nat} {text rest s : List Char}

theorem Numeral.numberAt (numeral : Numeral max text)
    (ends : ∀ c ∈ rest.head?, c.isDigit = false) : NumberAt (text ++ rest) (decimal text) rest := by
  have number : NumberAt ([] ++ ([] ++ (text ++ rest))) (1 * decimal text) rest :=
    .intro (fun _ none => absurd none List.not_mem_nil) .none numeral.nonempty numeral.digits ends
  rwa [one_mul] at number

theorem Numeral.numberAt_end (numeral : Numeral max text) : NumberAt text (decimal text) [] := by
  have number : NumberAt (text ++ []) (decimal text) [] :=
    numeral.numberAt fun c none => by cases none
  rwa [List.append_nil] at number

theorem charAt_dot (rest : List Char) : CharAt ('.' :: rest) '.' rest :=
  @CharAt.intro [] rest '.' (fun _ none => absurd none List.not_mem_nil) (by decide)

theorem hostAddress_of_dottedQuad {address : UInt32} (quad : DottedQuad text address) :
    IPv4Address.hostAddress text = some address := by
  cases quad with
  | @intro a b c d first second third fourth =>
    have dotEnds : ∀ rest : List Char, ∀ c ∈ ('.' :: rest).head?, c.isDigit = false := by
      rintro rest c ⟨⟩
      rfl
    have fits : ∀ {text}, Numeral 255 text → (decimal text : Int).natAbs < 2 ^ 32 := by
      intro text numeral
      have bound := numeral.bound
      omega
    have loose : LooseQuad (a ++ '.' :: (b ++ '.' :: (c ++ '.' :: d))) (decimal a) (decimal b)
        (decimal c) (decimal d) :=
      .intro (first.numberAt (dotEnds _)) (fits first) (charAt_dot _)
        (second.numberAt (dotEnds _)) (fits second) (charAt_dot _)
        (third.numberAt (dotEnds _)) (fits third) (charAt_dot _) fourth.numberAt_end (fits fourth)
    have octet : ∀ {text}, Numeral 255 text → stored 0xFFFFFFFF (decimal text) = decimal text :=
      fun numeral => stored_of_le (numeral.bound.trans (by decide))
    rw [IPv4Address.hostAddress_of_loose loose, octet first, octet second, octet third,
      octet fourth, shifted_octets first.bound second.bound third.bound fourth.bound]

theorem DottedQuad.digit_or_dot {address : UInt32} (quad : DottedQuad text address) :
    ∀ c ∈ text, c.isDigit = true ∨ c = '.' := by
  cases quad with
  | intro first second third fourth =>
    intro x member
    simp only [List.mem_append, List.mem_cons] at member
    rcases member with digit | dot | digit | dot | digit | dot | digit
    · exact .inl (first.digits x digit)
    · exact .inr dot
    · exact .inl (second.digits x digit)
    · exact .inr dot
    · exact .inl (third.digits x digit)
    · exact .inr dot
    · exact .inl (fourth.digits x digit)

theorem DottedQuad.colon_not_mem {address : UInt32} (quad : DottedQuad text address) :
    ':' ∉ text := by
  intro colon
  have impossible := quad.digit_or_dot ':' colon
  revert impossible
  decide

theorem EndpointText.digit_or_mark {address : IPv4Address} (endpoint : EndpointText s address) :
    ∀ c ∈ s, c.isDigit = true ∨ c = '.' ∨ c = ':' := by
  intro c member
  cases endpoint with
  | host quad => exact (quad.digit_or_dot c member).imp_right .inl
  | hostAndPort quad numeral =>
    rcases List.mem_append.mp member with inHost | behind
    · exact (quad.digit_or_dot c inHost).imp_right .inl
    · rcases List.mem_cons.mp behind with colon | inPort
      · exact .inr (.inr colon)
      · exact .inl (numeral.digits c inPort)

theorem portNumber_of_numeral (numeral : Numeral 65535 text) :
    portNumber (some text) = UInt16.ofNat (decimal text) := by
  rw [portNumber, Stream.getNumber_of_fits numeral.numberAt_end numeral.bound,
    stored_of_le numeral.bound]

/-- What is written in the notation is read as it is written. -/
theorem fromString_of_endpointText {address : IPv4Address} (endpoint : EndpointText s address) :
    IPv4Address.fromString s = address := by
  cases endpoint with
  | host quad =>
    rw [IPv4Address.fromString_of_cut (.whole quad.colon_not_mem), hostAddress_of_dottedQuad quad]
    rfl
  | hostAndPort quad numeral =>
    rw [IPv4Address.fromString_of_cut (.colon quad.colon_not_mem), hostAddress_of_dottedQuad quad,
      portNumber_of_numeral numeral]

end Notation

theorem portNumber_ne_zero_iff (port : Option (List Char)) :
    portNumber port ≠ 0 ↔ ∃ text ∈ port, ∃ z rest, NumberAt text z rest ∧ z ≠ 0 := by
  cases port with
  | none => simp [portNumber]
  | some text =>
    have small := Stream.getNumber_le text 0xFFFF
    have zero : portNumber (some text) = 0 ↔ (Stream.getNumber ⟨text, false⟩ 0xFFFF 0).1 = 0 := by
      rw [portNumber, ← UInt16.toNat_inj, UInt16.toNat_ofNat', Nat.mod_eq_of_lt (by omega)]
      rfl
    rw [ne_eq, zero, Stream.getNumber_eq_zero_iff (by decide)]
    simp

theorem hostAddress_ne_zero_iff {host : List Char} {a b c d : Int} {ip : UInt32}
    (loose : LooseQuad host a b c d) (accepted : IPv4Address.hostAddress host = some ip) :
    ip ≠ 0 ↔ ¬ 2 ^ 8 ∣ a ∨ ¬ 2 ^ 16 ∣ b ∨ ¬ 2 ^ 24 ∣ c ∨ d ≠ 0 := by
  have first : UInt32.ofNat (stored 0xFFFFFFFF a) <<< 24 = 0 ↔ 2 ^ 8 ∣ a :=
    shifted_eq_zero_iff a (by decide)
  have second : UInt32.ofNat (stored 0xFFFFFFFF b) <<< 16 = 0 ↔ 2 ^ 16 ∣ b :=
    shifted_eq_zero_iff b (by decide)
  have third : UInt32.ofNat (stored 0xFFFFFFFF c) <<< 8 = 0 ↔ 2 ^ 24 ∣ c :=
    shifted_eq_zero_iff c (by decide)
  have fourth : UInt32.ofNat (stored 0xFFFFFFFF d) = 0 ↔ d = 0 := by
    have small := stored_le 0xFFFFFFFF d
    have fits : d.natAbs ≤ 0xFFFFFFFF := by
      obtain ⟨_, _, _, _, _, _, _, _, _, _, fits⟩ := loose
      omega
    rw [← UInt32.toNat_inj, UInt32.toNat_ofNat', Nat.mod_eq_of_lt (by omega)]
    exact ⟨eq_zero_of_stored fits, fun zero => stored_eq_zero_iff.mpr (zero ▸ Int.dvd_zero _)⟩
  rw [IPv4Address.hostAddress_of_loose loose, Option.some.injEq] at accepted
  rw [← accepted, ne_eq, UInt32.or_eq_zero_iff, UInt32.or_eq_zero_iff, UInt32.or_eq_zero_iff,
    first, second, third, fourth, not_and_or, not_and_or, not_and_or, or_assoc, or_assoc]

theorem endpoint_ne_zero_iff {host : List Char} {a b c d : Int} {ip : UInt32}
    (loose : LooseQuad host a b c d) (accepted : IPv4Address.hostAddress host = some ip)
    (port : Option (List Char)) : IPv4Address.mk ip (portNumber port) ≠ ⟨0, 0⟩ ↔
      ¬ 2 ^ 8 ∣ a ∨ ¬ 2 ^ 16 ∣ b ∨ ¬ 2 ^ 24 ∣ c ∨ d ≠ 0 ∨
        ∃ text ∈ port, ∃ z rest, NumberAt text z rest ∧ z ≠ 0 := by
  have either : IPv4Address.mk ip (portNumber port) ≠ ⟨0, 0⟩ ↔ ip ≠ 0 ∨ portNumber port ≠ 0 := by
    rw [ne_eq, IPv4Address.mk.injEq, not_and_or]
  rw [either, hostAddress_ne_zero_iff loose accepted, portNumber_ne_zero_iff, or_assoc, or_assoc,
    or_assoc]

theorem fromString_ne_zero_iff (s : List Char) :
    IPv4Address.fromString s ≠ ⟨0, 0⟩ ↔ LooseNonzero s := by
  constructor
  · intro nonzero
    obtain ⟨host, port, cut⟩ := exists_cutAtColon s
    rw [IPv4Address.fromString_of_cut cut] at nonzero
    cases accepted : IPv4Address.hostAddress host with
    | none =>
      rw [accepted] at nonzero
      exact absurd rfl nonzero
    | some ip =>
      obtain ⟨a, b, c, d, loose⟩ := IPv4Address.loose_of_hostAddress accepted
      rw [accepted] at nonzero
      exact ⟨host, port, a, b, c, d, cut, loose,
        (endpoint_ne_zero_iff loose accepted port).mp nonzero⟩
  · rintro ⟨host, port, a, b, c, d, cut, loose, nonzero⟩
    have accepted := IPv4Address.hostAddress_of_loose loose
    rw [IPv4Address.fromString_of_cut cut, accepted]
    exact (endpoint_ne_zero_iff loose accepted port).mpr nonzero

/-- For every string: `from_string` accepts exactly the notation for endpoints if and only if
the string is in this notation or cannot be read loosely as something other than zero. -/
theorem acceptsExactly_iff (s : List Char) :
    AcceptsExactly s ↔ (∃ address, EndpointText s address) ∨ ¬ LooseNonzero s := by
  constructor
  · intro accepts
    by_cases written : ∃ address, EndpointText s address
    · exact .inl written
    · right
      rw [← fromString_ne_zero_iff, not_not]
      exact accepts.refuses written
  · intro either
    refine ⟨fun address endpoint => fromString_of_endpointText endpoint, fun foreign => ?_⟩
    rcases either with written | strict
    · exact absurd written foreign
    · rw [← fromString_ne_zero_iff, not_not] at strict
      exact strict

example : IPv4Address.fromString "10.0.0.2:8080".toList = ⟨0x0A000002, 8080⟩ := by decide

/-- What follows the fourth number passes. -/
theorem trailing_text_accepted : ¬ ∀ s : List Char, AcceptsExactly s := by
  intro accepts
  have foreign : ¬ ∃ address, EndpointText "1.2.3.4abc".toList address := by
    rintro ⟨address, endpoint⟩
    have letter := endpoint.digit_or_mark 'a' (by decide)
    revert letter
    decide
  have refused := (accepts "1.2.3.4abc".toList).refuses foreign
  revert refused
  decide

end TinyCP
