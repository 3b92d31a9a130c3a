import TinyCP.EventRun
import Mathlib.Data.Nat.Bitwise

/-!
# Fields that are written one at a time

The fields of a record are set by calls, each of which gives some of them a value and
leaves the others. Then a field has the value of the last call that set it. Where several
fields share a word, a call overlays some of the bits of the word; what lies within these
bits is read from the new value, and what lies apart from them is read as before.
-/
namespace FieldWrites
open EventRun
universe u v w x

section LastCall
variable {State : Type u} {Call : Type v} {Field : Type w} {Value : Type x}

/-- The value that the last of the calls to set a field gave it. -/
def lastSet (sets : Call → Field → Option Value) : List Call → Field → Option Value
  | [], _ => none
  | call :: calls, field => (lastSet sets calls field).or (sets call field)

/-- One call decides the fields that it sets, up to `truncate`, and keeps the others. -/
def WritesFields (get : State → Field → Value) (truncate : Field → Value → Value)
    (apply : State → Call → State) (sets : Call → Field → Option Value) : Prop :=
  ∀ s call field, get (apply s call) field =
    ((sets call field).map (truncate field)).getD (get s field)

theorem WritesFields.run {get : State → Field → Value} {truncate : Field → Value → Value}
    {apply : State → Call → State} {sets : Call → Field → Option Value}
    (writes : WritesFields get truncate apply sets) (s : State) (calls : List Call)
    (field : Field) : get (run apply s calls) field =
      ((lastSet sets calls field).map (truncate field)).getD (get s field) := by
  induction calls generalizing s with
  | nil => rfl
  | cons call calls ih =>
    rw [run_cons, ih, writes, lastSet]
    cases lastSet sets calls field with
    | none => rfl
    | some value => rfl

end LastCall

section Words
variable {word next v start width start' width' i : Nat}

/-- The bits of a word from `start` on, `width` of them. -/
def slice (word start width : Nat) : Nat := word / 2 ^ start % 2 ^ width

/-- The word with the bits from `start` on replaced by the low bits of `v`. -/
def Overlays (next word start width v : Nat) : Prop :=
  ∀ i, next.testBit i =
    if start ≤ i ∧ i < start + width then v.testBit (i - start) else word.testBit i

theorem testBit_slice : (slice word start width).testBit i =
    (decide (i < width) && word.testBit (i + start)) := by
  rw [slice, Nat.testBit_mod_two_pow, Nat.testBit_div_two_pow]

theorem slice_lt (word start width : Nat) : slice word start width < 2 ^ width :=
  Nat.mod_lt _ (Nat.two_pow_pos width)

theorem slice_of_lt (bound : word < 2 ^ width) : slice word 0 width = word := by
  rw [slice, pow_zero, Nat.div_one, Nat.mod_eq_of_lt bound]

/-- Two neighbours, the lower one first. -/
theorem slice_add (word start low high : Nat) :
    slice word start (low + high) =
      2 ^ low * slice word (start + low) high + slice word start low := by
  rw [slice, slice, slice, pow_add, pow_add, Nat.mod_mul, Nat.div_div_eq_div_mul, Nat.add_comm]

/-- A field of a field is one of the word. -/
theorem slice_slice (word start : Nat) (inside : start' + width' ≤ width) :
    slice (slice word start width) start' width' = slice word (start' + start) width' := by
  apply Nat.eq_of_testBit_eq
  intro i
  rw [testBit_slice, testBit_slice, testBit_slice, Nat.add_assoc]
  by_cases small : i < width'
  · have within : i + start' < width := by omega
    simp [within]
  · simp [small]

namespace Overlays

theorem slice_within (overlaid : Overlays next word start width v) (above : start ≤ start')
    (below : start' + width' ≤ start + width) :
    slice next start' width' = slice v (start' - start) width' := by
  apply Nat.eq_of_testBit_eq
  intro i
  rw [testBit_slice, testBit_slice]
  by_cases inside : i < width'
  · rw [overlaid, if_pos (by omega), Nat.add_sub_assoc above]
  · simp [inside]

theorem slice_apart (overlaid : Overlays next word start width v)
    (apart : start' + width' ≤ start ∨ start + width ≤ start') :
    slice next start' width' = slice word start' width' := by
  apply Nat.eq_of_testBit_eq
  intro i
  rw [testBit_slice, testBit_slice]
  by_cases inside : i < width'
  · rw [overlaid, if_neg (by omega)]
  · simp [inside]

/-- The field that is set has the value, as far as it fits. -/
theorem slice_self (overlaid : Overlays next word start width v) :
    slice next start width = v % 2 ^ width := by
  rw [overlaid.slice_within (Nat.le_refl _) (Nat.le_refl _), Nat.sub_self, slice, pow_zero,
    Nat.div_one]

/-- Some bits of a word of `n` bits are kept, and the others come from the value. -/
theorem of_mask {n keep : Nat} (bound : word < 2 ^ n)
    (mask : ∀ i < n, keep.testBit i = !decide (start ≤ i ∧ i < start + width)) :
    Overlays ((word &&& keep) ||| ((v % 2 ^ width) <<< start)) word start width v := by
  intro i
  rw [Nat.testBit_or, Nat.testBit_and, Nat.testBit_shiftLeft, Nat.testBit_mod_two_pow]
  have kept : (word.testBit i && keep.testBit i) =
      (word.testBit i && !decide (start ≤ i ∧ i < start + width)) := by
    by_cases small : i < n
    · rw [mask i small]
    · have none : word.testBit i = false :=
        Nat.testBit_lt_two_pow (bound.trans_le (Nat.pow_le_pow_right (by decide) (by omega)))
      rw [none, Bool.false_and, Bool.false_and]
  rw [kept]
  by_cases inside : start ≤ i ∧ i < start + width
  · have within : i - start < width := by omega
    simp [inside, within]
  · rw [if_neg inside]
    by_cases above : start ≤ i
    · have beyond : ¬ i - start < width := by omega
      simp [inside, beyond]
    · simp [above]

theorem of_bit (word start : Nat) : Overlays (word ||| 2 ^ start) word start 1 1 := by
  intro i
  rw [Nat.testBit_or, Nat.testBit_two_pow]
  by_cases same : start = i
  · simp [same]
  · rw [if_neg (by omega)]
    simp [same]

end Overlays
end Words

end FieldWrites
