import Mathlib.Data.UInt

/-!
# Wrapped sequence numbers

A 32-bit sequence number is a start value plus an unbounded count, taken modulo
`2 ^ 32`. Differences of two such numbers recover the difference of the counts
as long as the counts are less than one turn apart, and the signed reading of a
difference orders counts that are less than half a turn apart.
-/
namespace SequenceSpace

def seqAt (start : UInt32) (count : Nat) : UInt32 :=
  start + UInt32.ofNat count

@[simp] theorem seqAt_zero (start : UInt32) : seqAt start 0 = start := by
  simp [seqAt]

theorem seqAt_add (start : UInt32) (m n : Nat) :
    seqAt start m + UInt32.ofNat n = seqAt start (m + n) := by
  rw [seqAt, seqAt, UInt32.ofNat_add, UInt32.add_assoc]

theorem seqAt_succ (start : UInt32) (m : Nat) : seqAt start m + 1 = seqAt start (m + 1) :=
  seqAt_add start m 1

/-- The distance of two wrapped numbers is the distance of their counts. -/
theorem distance_seqAt (start : UInt32) {m n : Nat} (hmn : m ≤ n) (near : n - m < 2 ^ 32) :
    (seqAt start n - seqAt start m).toNat = n - m := by
  have counts : UInt32.ofNat n = UInt32.ofNat m + UInt32.ofNat (n - m) := by
    rw [← UInt32.ofNat_add]
    congr 1
    omega
  have cancelled : seqAt start n - seqAt start m = UInt32.ofNat (n - m) := by
    rw [seqAt, seqAt, counts]
    grind
  rw [cancelled, UInt32.toNat_ofNat', Nat.mod_eq_of_lt near]

theorem distance_add (start : UInt32) {n : Nat} (near : n < 2 ^ 32) :
    (start + UInt32.ofNat n - start).toNat = n := by
  have distance := distance_seqAt start (Nat.zero_le n) near
  rw [seqAt_zero] at distance
  exact distance

/-- A distance grows with its far end. -/
theorem distance_extend (start x : UInt32) {n : Nat} (near : (x - start).toNat + n < 2 ^ 32) :
    (x + UInt32.ofNat n - start).toNat = (x - start).toNat + n := by
  have moved : x + UInt32.ofNat n - start = (x - start) + UInt32.ofNat n := by grind
  rw [moved, UInt32.toNat_add, UInt32.toNat_ofNat']
  omega

/-- A distance shrinks when its near end moves up to a point on the way. -/
theorem distance_shrink (start x : UInt32) {y : UInt32}
    (ahead : (y - start).toNat ≤ (x - start).toNat) :
    (x - y).toNat = (x - start).toNat - (y - start).toNat := by
  have moved : x - y = (x - start) - (y - start) := by grind
  rw [moved, UInt32.toNat_sub_of_le _ _ (UInt32.le_iff_toNat_le.mpr ahead)]

theorem eq_seqAt_of_distance (start x : UInt32) (m : Nat) :
    x = seqAt start (m + (x - seqAt start m).toNat) := by
  rw [← seqAt_add, UInt32.ofNat_toNat]
  grind

theorem eq_seqAt (start x : UInt32) : x = seqAt start (x - start).toNat := by
  have there := eq_seqAt_of_distance start x 0
  rwa [seqAt_zero, Nat.zero_add] at there

theorem seqAt_inj (start : UInt32) {m n : Nat} (hmn : m ≤ n) (near : n - m < 2 ^ 32)
    (same : seqAt start m = seqAt start n) : m = n := by
  have hd := distance_seqAt start hmn near
  rw [same, UInt32.sub_self] at hd
  change 0 = n - m at hd
  omega

theorem toInt32_pos_iff (x : UInt32) : 0 < x.toInt32 ↔ 0 < x.toNat ∧ x.toNat < 2 ^ 31 := by
  have signed : x.toInt32.toInt = x.toBitVec.toInt := rfl
  have plain : x.toBitVec.toNat = x.toNat := rfl
  have small := x.toNat_lt
  rw [Int32.lt_iff_toInt_lt, signed, BitVec.toInt_eq_toNat_cond, plain]
  simp only [Int32.toInt_zero]
  split <;> omega

theorem toNat_sub_of_lt {x y : UInt32} (hlt : y.toNat < x.toNat) :
    (x - y).toNat = x.toNat - y.toNat :=
  UInt32.toNat_sub_of_le x y (UInt32.le_iff_toNat_le.mpr (Nat.le_of_lt hlt))

end SequenceSpace
