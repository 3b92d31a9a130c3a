import Mathlib.Data.List.TakeWhile
import Mathlib.Data.Int.ModEq

/-!
# Formatted extraction

Numbers and characters are taken from a stream one after the other, as `>>` takes them:
white space is skipped, a number may carry a sign, and the longest run of digits counts.
An extraction succeeds exactly where the grammar of these texts has a reading.
-/
namespace StreamExtraction

structure Stream where
  rest : List Char
  failed : Bool
  deriving DecidableEq

/-- The white space of the classic locale. -/
def isSpace (c : Char) : Bool := c == ' ' || (9 ≤ c.toNat && c.toNat ≤ 13)

def decimal (digits : List Char) : Nat := Nat.ofDigitChars 10 digits 0

def takeSign : List Char → Int × List Char
  | '-' :: field => (-1, field)
  | '+' :: field => (1, field)
  | field => (1, field)

/-- An unsigned type counts modulo the greatest of its values plus one. -/
def stored (max : Nat) (z : Int) : Nat := (z % (max + 1)).toNat

namespace Stream

/-- `>>` of an unsigned number. At the end of the stream the old value stays, without a
digit it becomes zero, and beyond the range it becomes the greatest there is. -/
def getNumber (s : Stream) (max old : Nat) : Nat × Stream :=
  if s.failed then (old, s) else
  match s.rest.dropWhile isSpace with
  | [] => (old, ⟨[], true⟩)
  | c :: cs =>
    let (sign, field) := takeSign (c :: cs)
    let digits := field.takeWhile Char.isDigit
    let rest := field.dropWhile Char.isDigit
    if digits = [] then (0, ⟨rest, true⟩)
    else if max < decimal digits then (max, ⟨rest, true⟩)
    else (stored max (sign * decimal digits), ⟨rest, false⟩)

/-- `>>` of a character. -/
def getChar (s : Stream) (old : Char) : Char × Stream :=
  if s.failed then (old, s) else
  match s.rest.dropWhile isSpace with
  | [] => (old, ⟨[], true⟩)
  | c :: rest => (c, ⟨rest, false⟩)

end Stream

inductive SignText : List Char → Int → Prop
  | none : SignText [] 1
  | plus : SignText ['+'] 1
  | minus : SignText ['-'] (-1)

/-- The text begins with a number: white space, a sign or none, digits, and no digit next. -/
inductive NumberAt : List Char → Int → List Char → Prop
  | intro {space signText digits rest : List Char} {sign : Int}
      (blank : ∀ c ∈ space, isSpace c = true) (signed : SignText signText sign)
      (nonempty : digits ≠ []) (all : ∀ c ∈ digits, c.isDigit = true)
      (ends : ∀ c ∈ rest.head?, c.isDigit = false) :
      NumberAt (space ++ (signText ++ (digits ++ rest))) (sign * decimal digits) rest

/-- The text begins with this character, white space aside. -/
inductive CharAt : List Char → Char → List Char → Prop
  | intro {space rest : List Char} {c : Char} (blank : ∀ c ∈ space, isSpace c = true)
      (visible : isSpace c = false) : CharAt (space ++ c :: rest) c rest

section Runs
variable {α : Type*} {p : α → Bool} {run rest : List α}

theorem takeWhile_eq_nil (ends : ∀ c ∈ rest.head?, p c = false) : rest.takeWhile p = [] := by
  cases rest with
  | nil => rfl
  | cons c cs => exact List.takeWhile_cons_of_neg (by simp [ends c rfl])

theorem dropWhile_eq_self (ends : ∀ c ∈ rest.head?, p c = false) : rest.dropWhile p = rest := by
  cases rest with
  | nil => rfl
  | cons c cs => exact List.dropWhile_cons_of_neg (by simp [ends c rfl])

/-- The longest run is found where it ends. -/
theorem takeWhile_run (all : ∀ c ∈ run, p c = true) (ends : ∀ c ∈ rest.head?, p c = false) :
    (run ++ rest).takeWhile p = run := by
  rw [List.takeWhile_append_of_pos all, takeWhile_eq_nil ends, List.append_nil]

theorem dropWhile_run (all : ∀ c ∈ run, p c = true) (ends : ∀ c ∈ rest.head?, p c = false) :
    (run ++ rest).dropWhile p = rest := by
  rw [List.dropWhile_append_of_pos all, dropWhile_eq_self ends]

theorem head_dropWhile (p : α → Bool) (text : List α) :
    ∀ c ∈ (text.dropWhile p).head?, p c = false := by
  intro c first
  have stopped := List.head?_dropWhile_not p text
  rw [Option.mem_def.mp first] at stopped
  exact stopped

end Runs

section Digits
variable {c : Char} {digits rest : List Char}

theorem not_isSpace_of_isDigit (digit : c.isDigit = true) : isSpace c = false := by
  have range := Char.isDigit_iff_toNat.mp digit
  have zero : '0'.toNat = 48 := rfl
  have other : c ≠ ' ' := by
    rintro rfl
    exact absurd digit (by decide)
  rw [isSpace, Bool.or_eq_false_iff, beq_eq_false_iff_ne, Bool.and_eq_false_iff]
  exact ⟨other, .inr (by rw [decide_eq_false_iff_not]; omega)⟩

theorem ne_of_isDigit (digit : c.isDigit = true) {d : Char} (other : d.isDigit = false) :
    c ≠ d := by
  rintro rfl
  rw [digit] at other
  exact absurd other (by decide)

theorem takeSign_of_isDigit (digit : c.isDigit = true) (cs : List Char) :
    takeSign (c :: cs) = (1, c :: cs) := by
  have minus := ne_of_isDigit digit (d := '-') rfl
  have plus := ne_of_isDigit digit (d := '+') rfl
  rw [takeSign.eq_3]
  · rintro field ⟨⟩
    exact minus rfl
  · rintro field ⟨⟩
    exact plus rfl

end Digits

theorem takeSign_of_signText {signText field : List Char} {sign : Int}
    (signed : SignText signText sign) (digit : ∃ c cs, field = c :: cs ∧ c.isDigit = true) :
    takeSign (signText ++ field) = (sign, field) := by
  cases signed with
  | none =>
    obtain ⟨c, cs, rfl, isDigit⟩ := digit
    exact takeSign_of_isDigit isDigit cs
  | plus => rfl
  | minus => rfl

/-- What `takeSign` takes off is a sign. -/
theorem exists_signText (text : List Char) :
    ∃ signText, SignText signText (takeSign text).1 ∧ text = signText ++ (takeSign text).2 := by
  rw [takeSign.eq_def]
  split
  · exact ⟨_, .minus, rfl⟩
  · exact ⟨_, .plus, rfl⟩
  · exact ⟨_, .none, rfl⟩

namespace Stream
variable {text rest : List Char} {z : Int} {c : Char}

theorem getNumber_of_visible (visible : text.dropWhile isSpace ≠ []) (max old : Nat) :
    getNumber ⟨text, false⟩ max old =
      let (sign, field) := takeSign (text.dropWhile isSpace)
      if field.takeWhile Char.isDigit = [] then (0, ⟨field.dropWhile Char.isDigit, true⟩)
      else if max < decimal (field.takeWhile Char.isDigit) then
        (max, ⟨field.dropWhile Char.isDigit, true⟩)
      else (stored max (sign * decimal (field.takeWhile Char.isDigit)),
        ⟨field.dropWhile Char.isDigit, false⟩) := by
  simp only [getNumber, Bool.false_eq_true, if_false]
  split
  · next atEnd => exact absurd atEnd visible
  · next c cs start => rw [start]

theorem getNumber_of_numberAt (number : NumberAt text z rest) (max old : Nat) :
    getNumber ⟨text, false⟩ max old =
      if max < z.natAbs then (max, ⟨rest, true⟩) else (stored max z, ⟨rest, false⟩) := by
  cases number with
  | @intro space signText digits rest sign blank signed nonempty all ends =>
    obtain ⟨d, ds, cut⟩ := List.exists_cons_of_ne_nil nonempty
    have digit : d.isDigit = true := all d (by simp [cut])
    have visible : ∀ c ∈ (signText ++ (digits ++ rest)).head?, isSpace c = false := by
      intro c first
      cases signed with
      | none =>
        rw [cut] at first
        cases first
        exact not_isSpace_of_isDigit digit
      | plus =>
        cases first
        rfl
      | minus =>
        cases first
        rfl
    have size : (sign * decimal digits).natAbs = decimal digits := by
      cases signed <;> simp
    have field := takeSign_of_signText signed ⟨d, ds ++ rest, congrArg (· ++ rest) cut, digit⟩
    have start := dropWhile_run blank visible
    rw [getNumber_of_visible (by simp [start, nonempty]), start, field]
    simp only
    rw [takeWhile_run all ends, dropWhile_run all ends, if_neg nonempty, size]

/-- Without a number the extraction fails, and a zero stays one. -/
theorem numberAt_or_failed (text : List Char) (max : Nat) :
    (∃ z rest, NumberAt text z rest) ∨
      (getNumber ⟨text, false⟩ max 0).1 = 0 ∧ (getNumber ⟨text, false⟩ max 0).2.failed = true := by
  by_cases visible : text.dropWhile isSpace = []
  · right
    simp [getNumber, visible]
  · obtain ⟨signText, signed, start⟩ := exists_signText (text.dropWhile isSpace)
    generalize shape : takeSign (text.dropWhile isSpace) = taken at signed start
    obtain ⟨sign, field⟩ := taken
    by_cases nonempty : field.takeWhile Char.isDigit = []
    · right
      rw [getNumber_of_visible visible, shape]
      simp only [nonempty, if_true, and_self]
    · left
      have number : NumberAt (text.takeWhile isSpace ++ (signText ++
          (field.takeWhile Char.isDigit ++ field.dropWhile Char.isDigit)))
          (sign * decimal (field.takeWhile Char.isDigit)) (field.dropWhile Char.isDigit) :=
        .intro (fun _ => List.mem_takeWhile_imp) signed nonempty
          (fun _ => List.mem_takeWhile_imp) (head_dropWhile Char.isDigit field)
      rw [List.takeWhile_append_dropWhile, ← start, List.takeWhile_append_dropWhile] at number
      exact ⟨_, _, number⟩

theorem getChar_of_charAt (char : CharAt text c rest) (old : Char) :
    getChar ⟨text, false⟩ old = (c, ⟨rest, false⟩) := by
  cases char with
  | intro blank visible =>
    have ends : ∀ d ∈ (c :: rest).head?, isSpace d = false := by
      rintro d ⟨⟩
      exact visible
    have start := dropWhile_run blank ends
    simp only [getChar, start, Bool.false_eq_true, if_false]

theorem charAt_or_failed (text : List Char) (old : Char) :
    (∃ c rest, CharAt text c rest) ∨ (getChar ⟨text, false⟩ old).2.failed = true := by
  cases start : text.dropWhile isSpace with
  | nil =>
    right
    simp only [getChar, start, Bool.false_eq_true, if_false]
  | cons c rest =>
    left
    have stopped := head_dropWhile isSpace text c (by rw [start]; rfl)
    have char : CharAt (text.takeWhile isSpace ++ c :: rest) c rest :=
      .intro (fun _ => List.mem_takeWhile_imp) stopped
    rw [← start, List.takeWhile_append_dropWhile] at char
    exact ⟨c, rest, char⟩

theorem getNumber_of_fits {max : Nat} (number : NumberAt text z rest) (fits : z.natAbs ≤ max)
    (old : Nat) : getNumber ⟨text, false⟩ max old = (stored max z, ⟨rest, false⟩) := by
  rw [getNumber_of_numberAt number, if_neg (Nat.not_lt.mpr fits)]

/-- A stream that has not failed has read a number. -/
theorem numberAt_of_succeeds {s next : Stream} {max n : Nat} (taken : s.getNumber max 0 = (n, next))
    (succeeds : next.failed = false) :
    s.failed = false ∧ ∃ z, NumberAt s.rest z next.rest ∧ z.natAbs ≤ max ∧ n = stored max z := by
  obtain ⟨text, failed⟩ := s
  cases failed with
  | true =>
    cases taken
    cases succeeds
  | false =>
    refine ⟨rfl, ?_⟩
    rcases numberAt_or_failed text max with ⟨z, rest, number⟩ | ⟨_, fails⟩
    · rw [getNumber_of_numberAt number] at taken
      split_ifs at taken with beyond
      · cases taken
        cases succeeds
      · cases taken
        exact ⟨z, number, Nat.le_of_not_lt beyond, rfl⟩
    · rw [taken, succeeds] at fails
      cases fails

theorem charAt_of_succeeds {s next : Stream} {old : Char} (taken : s.getChar old = (c, next))
    (succeeds : next.failed = false) : s.failed = false ∧ CharAt s.rest c next.rest := by
  obtain ⟨text, failed⟩ := s
  cases failed with
  | true =>
    cases taken
    cases succeeds
  | false =>
    refine ⟨rfl, ?_⟩
    rcases charAt_or_failed text old with ⟨d, rest, char⟩ | fails
    · rw [getChar_of_charAt char] at taken
      cases taken
      exact char
    · rw [taken, succeeds] at fails
      cases fails

end Stream

theorem stored_of_le {max n : Nat} (fits : n ≤ max) : stored max n = n := by
  have small : (n : Int) % (max + 1) = n := Int.emod_eq_of_lt (by omega) (by omega)
  rw [stored, small, Int.toNat_natCast]

theorem stored_eq_zero_iff {max : Nat} {z : Int} : stored max z = 0 ↔ (max + 1 : Int) ∣ z := by
  have nonneg : 0 ≤ z % (max + 1 : Int) := Int.emod_nonneg z (by omega)
  rw [stored, Int.dvd_iff_emod_eq_zero]
  omega

theorem eq_zero_of_stored {max : Nat} {z : Int} (fits : z.natAbs ≤ max)
    (zero : stored max z = 0) : z = 0 :=
  Int.eq_zero_of_dvd_of_natAbs_lt_natAbs (stored_eq_zero_iff.mp zero) (by omega)

theorem stored_le (max : Nat) (z : Int) : stored max z ≤ max := by
  have below : z % (max + 1 : Int) < max + 1 := Int.emod_lt_of_pos z (by omega)
  rw [stored]
  omega

namespace Stream

theorem getNumber_le (text : List Char) (max : Nat) : (getNumber ⟨text, false⟩ max 0).1 ≤ max := by
  rcases numberAt_or_failed text max with ⟨z, rest, number⟩ | ⟨zero, _⟩
  · rw [getNumber_of_numberAt number]
    split_ifs
    · exact le_refl max
    · exact stored_le max z
  · rw [zero]
    exact Nat.zero_le max

/-- The value is zero also after a failure, unless there is a number other than zero. -/
theorem getNumber_eq_zero_iff {max : Nat} (positive : 0 < max) (text : List Char) :
    (getNumber ⟨text, false⟩ max 0).1 = 0 ↔ ∀ z rest, NumberAt text z rest → z = 0 := by
  constructor
  · intro zero z rest number
    rw [getNumber_of_numberAt number] at zero
    split_ifs at zero with beyond
    · exact absurd zero (Nat.ne_of_gt positive)
    · exact eq_zero_of_stored (Nat.le_of_not_lt beyond) zero
  · intro zeros
    rcases numberAt_or_failed text max with ⟨z, rest, number⟩ | ⟨zero, _⟩
    · rw [getNumber_of_numberAt number, zeros z rest number]
      rfl
    · exact zero

end Stream

end StreamExtraction
