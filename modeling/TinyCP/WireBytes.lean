import Mathlib.Data.UInt
import Mathlib.Tactic.IntervalCases

/-!
# Words in memory and on the wire

The memory of a little-endian host holds the low byte of a word first, the wire
carries the high byte first, and `htons` and `htonl` swap between the two. A word
that is stored after such a swap is read back from the wire as it was.
-/
namespace WireBytes

def htons (w : UInt16) : UInt16 := (w <<< 8) ||| (w >>> 8)

def ntohs (w : UInt16) : UInt16 := htons w

def htonl (w : UInt32) : UInt32 :=
  (w <<< 24) ||| ((w <<< 8) &&& (0x00FF0000 : UInt32)) |||
    ((w >>> 8) &&& (0x0000FF00 : UInt32)) ||| (w >>> 24)

def ntohl (w : UInt32) : UInt32 := htonl w

/-- The bytes of a word in memory. -/
def store16 (w : UInt16) : List UInt8 := [w.toUInt8, (w >>> 8).toUInt8]

def store32 (w : UInt32) : List UInt8 :=
  [w.toUInt8, (w >>> 8).toUInt8, (w >>> 16).toUInt8, (w >>> 24).toUInt8]

/-- The bytes of a word on the wire. -/
def bigEndian16 (w : UInt16) : List UInt8 := [(w >>> 8).toUInt8, w.toUInt8]

def bigEndian32 (w : UInt32) : List UInt8 :=
  [(w >>> 24).toUInt8, (w >>> 16).toUInt8, (w >>> 8).toUInt8, w.toUInt8]

def word16 (high low : UInt8) : UInt16 := (high.toUInt16 <<< 8) ||| low.toUInt16

def word32 (b₀ b₁ b₂ b₃ : UInt8) : UInt32 :=
  (b₀.toUInt32 <<< 24) ||| (b₁.toUInt32 <<< 16) ||| (b₂.toUInt32 <<< 8) ||| b₃.toUInt32

/-- The big-endian word at an offset of a byte string. -/
def be16 (bytes : List UInt8) (offset : Nat) : UInt16 :=
  word16 (bytes.getD offset 0) (bytes.getD (offset + 1) 0)

def be32 (bytes : List UInt8) (offset : Nat) : UInt32 :=
  word32 (bytes.getD offset 0) (bytes.getD (offset + 1) 0) (bytes.getD (offset + 2) 0)
    (bytes.getD (offset + 3) 0)

/-- `copy_n` of some bytes to an offset of a buffer. -/
def overwrite (out : List UInt8) (offset : Nat) (bytes : List UInt8) : List UInt8 :=
  out.take offset ++ bytes ++ out.drop (offset + bytes.length)

@[simp] theorem length_store16 (w : UInt16) : (store16 w).length = 2 := rfl

@[simp] theorem length_store32 (w : UInt32) : (store32 w).length = 4 := rfl

@[simp] theorem length_bigEndian32 (w : UInt32) : (bigEndian32 w).length = 4 := rfl

/-- A mask of the `k` lowest bits. -/
theorem toNat_masked8 (v : UInt8) (k : Nat) {mask : UInt8} (low : mask.toNat = 2 ^ k - 1) :
    (v &&& mask).toNat = v.toNat % 2 ^ k := by
  rw [UInt8.toNat_and, low, Nat.and_two_pow_sub_one_eq_mod]

theorem toNat_masked16 (v : UInt16) (k : Nat) {mask : UInt16} (low : mask.toNat = 2 ^ k - 1) :
    (v &&& mask).toNat = v.toNat % 2 ^ k := by
  rw [UInt16.toNat_and, low, Nat.and_two_pow_sub_one_eq_mod]

theorem toNat_masked32 (v : UInt32) (k : Nat) {mask : UInt32} (low : mask.toNat = 2 ^ k - 1) :
    (v &&& mask).toNat = v.toNat % 2 ^ k := by
  rw [UInt32.toNat_and, low, Nat.and_two_pow_sub_one_eq_mod]

theorem htons_htons (w : UInt16) : htons (htons w) = w := by
  apply UInt16.toBitVec_inj.mp
  apply BitVec.eq_of_getLsbD_eq
  intro i hi
  simp only [htons, UInt16.toBitVec_or, UInt16.toBitVec_shiftLeft, UInt16.toBitVec_shiftRight]
  interval_cases i <;> simp

@[simp] theorem ntohs_htons (w : UInt16) : ntohs (htons w) = w := htons_htons w

theorem word16_store16 (w : UInt16) : word16 w.toUInt8 (w >>> 8).toUInt8 = ntohs w := by
  apply UInt16.toBitVec_inj.mp
  apply BitVec.eq_of_getLsbD_eq
  intro i hi
  simp only [word16, ntohs, htons, UInt16.toBitVec_or, UInt16.toBitVec_shiftLeft,
    UInt16.toBitVec_shiftRight, UInt8.toBitVec_toUInt16, UInt16.toBitVec_toUInt8]
  interval_cases i <;> simp [BitVec.getElem_setWidth]

theorem htonl_htonl (w : UInt32) : htonl (htonl w) = w := by
  apply UInt32.toBitVec_inj.mp
  apply BitVec.eq_of_getLsbD_eq
  intro i hi
  simp only [htonl, UInt32.toBitVec_or, UInt32.toBitVec_and, UInt32.toBitVec_shiftLeft,
    UInt32.toBitVec_shiftRight]
  interval_cases i <;> simp

@[simp] theorem ntohl_htonl (w : UInt32) : ntohl (htonl w) = w := htonl_htonl w

theorem word32_store32 (w : UInt32) :
    word32 w.toUInt8 (w >>> 8).toUInt8 (w >>> 16).toUInt8 (w >>> 24).toUInt8 = ntohl w := by
  apply UInt32.toBitVec_inj.mp
  apply BitVec.eq_of_getLsbD_eq
  intro i hi
  simp only [word32, ntohl, htonl, UInt32.toBitVec_or, UInt32.toBitVec_and,
    UInt32.toBitVec_shiftLeft, UInt32.toBitVec_shiftRight, UInt8.toBitVec_toUInt32,
    UInt32.toBitVec_toUInt8]
  interval_cases i <;> simp [BitVec.getElem_setWidth]

theorem store32_htonl (w : UInt32) : store32 (htonl w) = bigEndian32 w := by
  have bytes : (htonl w).toUInt8 = (w >>> 24).toUInt8 ∧
      (htonl w >>> 8).toUInt8 = (w >>> 16).toUInt8 ∧
      (htonl w >>> 16).toUInt8 = (w >>> 8).toUInt8 ∧ (htonl w >>> 24).toUInt8 = w.toUInt8 := by
    refine ⟨?_, ?_, ?_, ?_⟩ <;>
    · apply UInt8.toBitVec_inj.mp
      apply BitVec.eq_of_getLsbD_eq
      intro i hi
      simp only [htonl, UInt32.toBitVec_or, UInt32.toBitVec_and, UInt32.toBitVec_shiftLeft,
        UInt32.toBitVec_shiftRight, UInt32.toBitVec_toUInt8]
      interval_cases i <;> simp [BitVec.getElem_setWidth]
  obtain ⟨first, second, third, fourth⟩ := bytes
  rw [store32, bigEndian32, first, second, third, fourth]

theorem overwrite_zero (out bytes : List UInt8) :
    overwrite out 0 bytes = bytes ++ out.drop bytes.length := by
  rw [overwrite, Nat.zero_add, List.take_zero, List.nil_append]

theorem overwrite_append (first rest bytes : List UInt8) :
    overwrite (first ++ rest) first.length bytes = first ++ bytes ++ rest.drop bytes.length := by
  rw [overwrite, List.take_left, List.drop_append]
  simp

@[simp] theorem overwrite_nil (out : List UInt8) (offset : Nat) : overwrite out offset [] = out := by
  rw [overwrite, List.append_nil, List.length_nil, Nat.add_zero, List.take_append_drop]

section Regions
variable {out bytes : List UInt8} {offset n : Nat}

theorem length_overwrite (fits : offset + bytes.length ≤ out.length) :
    (overwrite out offset bytes).length = out.length := by
  rw [overwrite, List.length_append, List.length_append, List.length_take, List.length_drop]
  omega

theorem take_overwrite (before : n ≤ offset) (inside : offset ≤ out.length) :
    (overwrite out offset bytes).take n = out.take n := by
  have length : n ≤ (out.take offset).length := by
    rw [List.length_take]
    omega
  rw [overwrite, List.append_assoc, List.take_append_of_le_length length, List.take_take,
    Nat.min_eq_left before]

theorem drop_overwrite (after : offset + bytes.length ≤ n) (inside : offset ≤ out.length) :
    (overwrite out offset bytes).drop n = out.drop n := by
  have length : (out.take offset ++ bytes).length = offset + bytes.length := by
    rw [List.length_append, List.length_take, Nat.min_eq_left inside]
  obtain ⟨more, rfl⟩ := Nat.exists_eq_add_of_le after
  rw [overwrite, ← length, List.drop_length_add_append, List.drop_drop, length]

/-- What was written is read back. -/
theorem slice_overwrite (inside : offset ≤ out.length) :
    ((overwrite out offset bytes).drop offset).take bytes.length = bytes := by
  have length : (out.take offset).length = offset := by
    rw [List.length_take, Nat.min_eq_left inside]
  rw [overwrite, List.append_assoc, List.drop_left' length, List.take_left]

end Regions

end WireBytes
