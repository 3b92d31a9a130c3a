import Mathlib.Data.Nat.ModEq

/-!
# Sums with end-around carry

In base `b` the carries out of the lowest digit are added back in until one digit is
left. A pass keeps the residue modulo `b - 1`, and it keeps whether the sum is zero.
These two determine the digit, so nothing else about the passes has to be known.
-/
namespace EndAroundCarry
variable {b sum other digit : Nat}

/-- One pass over a sum. -/
def fold (b sum : Nat) : Nat := sum % b + sum / b

/-- The digit that is left of a sum. The residue zero has two digits, of which `b - 1`
stands for every sum but the empty one. -/
structure FoldsTo (b sum digit : Nat) : Prop where
  lt : digit < b
  modEq : digit ≡ sum [MOD b - 1]
  zero : digit = 0 ↔ sum = 0

theorem fold_lt (base : 1 < b) (carries : b ≤ sum) : fold b sum < sum := by
  have some : 0 < sum / b := Nat.div_pos carries (Nat.lt_of_succ_lt base)
  have more : 2 * (sum / b) ≤ b * (sum / b) := Nat.mul_le_mul_right _ base
  have whole := Nat.mod_add_div sum b
  rw [fold]
  omega

theorem fold_modEq (base : 0 < b) : fold b sum ≡ sum [MOD b - 1] := by
  have one : 1 ≡ b [MOD b - 1] := by
    rw [Nat.modEq_iff_dvd' base]
  calc fold b sum = sum % b + 1 * (sum / b) := by rw [Nat.one_mul, fold]
    _ ≡ sum % b + b * (sum / b) [MOD b - 1] := (one.mul_right _).add_left _
    _ = sum := Nat.mod_add_div sum b

theorem fold_eq_zero_iff : fold b sum = 0 ↔ sum = 0 := by
  constructor
  · intro none
    have whole := Nat.mod_add_div sum b
    obtain ⟨low, high⟩ := Nat.add_eq_zero_iff.mp none
    rw [← whole, low, high]
    rfl
  · rintro rfl
    rw [fold, Nat.zero_mod, Nat.zero_div]

namespace FoldsTo

/-- A single digit has no carries. -/
theorem self (single : sum < b) : FoldsTo b sum sum := ⟨single, .refl sum, Iff.rfl⟩

theorem of_fold (base : 0 < b) (rest : FoldsTo b (fold b sum) digit) : FoldsTo b sum digit :=
  ⟨rest.lt, rest.modEq.trans (fold_modEq base), rest.zero.trans fold_eq_zero_iff⟩

/-- The digit depends on the residue of the sum and on whether it is zero. -/
theorem congr (folds : FoldsTo b sum digit) (same : sum ≡ other [MOD b - 1])
    (zero : sum = 0 ↔ other = 0) : FoldsTo b other digit :=
  ⟨folds.lt, folds.modEq.trans same, folds.zero.trans zero⟩

theorem unique {digit' : Nat} (first : FoldsTo b sum digit) (second : FoldsTo b sum digit') :
    digit = digit' := by
  have same : digit ≡ digit' [MOD b - 1] := first.modEq.trans second.modEq.symm
  have zero : digit = 0 ↔ digit' = 0 := first.zero.trans second.zero.symm
  have low := first.lt
  have low' := second.lt
  by_cases none : digit = 0
  · rw [none, zero.mp none]
  · have none' : digit' ≠ 0 := fun h => none (zero.mpr h)
    have shifted : digit - 1 ≡ digit' - 1 [MOD b - 1] := by
      apply Nat.ModEq.add_right_cancel' 1
      rwa [Nat.sub_add_cancel (Nat.pos_of_ne_zero none),
        Nat.sub_add_cancel (Nat.pos_of_ne_zero none')]
    have equal := shifted.eq_of_lt_of_lt (by omega) (by omega)
    omega

/-- A sum and the complement of its digit fold to the digit with all bits set. -/
theorem add_complement (base : 1 < b) (folds : FoldsTo b sum digit) :
    FoldsTo b (sum + (b - 1 - digit)) (b - 1) := by
  have low := folds.lt
  refine ⟨by omega, ?_, ?_⟩
  · calc b - 1 = digit + (b - 1 - digit) := by omega
      _ ≡ sum + (b - 1 - digit) [MOD b - 1] := folds.modEq.add_right _
  · have zero := folds.zero
    omega

end FoldsTo

end EndAroundCarry
