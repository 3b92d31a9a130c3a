import Mathlib.Data.Nat.ModEq
import Mathlib.Logic.Function.Basic

/-!
# Loops over a cyclic store

A store is a total function on cell indices; a cursor runs through the cells
`0, ..., size - 1` and wraps. The three loops below read, skip and overwrite
consecutive cells one at a time. The lemmas say what a reader sees after a
writer has passed, as long as the two ranges together fit in the store.
-/
namespace CyclicStore
universe u
variable {T : Type u}

def readFrom (size : Nat) (store : Nat → T) : Nat → Nat → List T
  | _, 0 => []
  | pos, count + 1 => store pos :: readFrom size store ((pos + 1) % size) count

def skipFrom (size : Nat) : Nat → Nat → Nat
  | pos, 0 => pos
  | pos, count + 1 => skipFrom size ((pos + 1) % size) count

def writeFrom (size : Nat) : (Nat → T) → Nat → List T → (Nat → T) × Nat
  | store, pos, [] => (store, pos)
  | store, pos, x :: xs =>
    writeFrom size (Function.update store pos x) ((pos + 1) % size) xs

theorem cursor_lt {size pos : Nat} (hpos : pos < size) (k : Nat) : (pos + k) % size < size :=
  Nat.mod_lt _ (Nat.zero_lt_of_lt hpos)

theorem cursor_succ (size pos k : Nat) : ((pos + 1) % size + k) % size = (pos + (k + 1)) % size := by
  rw [Nat.mod_add_mod]
  congr 1
  omega

/-- Two cursors less than one turn apart point to different cells. -/
theorem cursor_ne {size : Nat} (pos : Nat) {i j : Nat} (hij : i < j) (near : j - i < size) :
    (pos + i) % size ≠ (pos + j) % size := by
  intro same
  have cancelled : i ≡ j [MOD size] := Nat.ModEq.add_left_cancel' pos same
  have divides : size ∣ j - i := (Nat.modEq_iff_dvd' (Nat.le_of_lt hij)).mp cancelled
  have := Nat.le_of_dvd (by omega) divides
  omega

theorem skipFrom_eq {size pos : Nat} (hpos : pos < size) (count : Nat) :
    skipFrom size pos count = (pos + count) % size := by
  induction count generalizing pos with
  | zero => exact (Nat.mod_eq_of_lt hpos).symm
  | succ count ih =>
    rw [skipFrom, ih (cursor_lt hpos 1), cursor_succ]

@[simp] theorem length_readFrom (size : Nat) (store : Nat → T) (pos count : Nat) :
    (readFrom size store pos count).length = count := by
  induction count generalizing pos with
  | zero => rfl
  | succ count ih => simp [readFrom, ih]

/-- Reading in a loop is reading each cell by its distance from the cursor. -/
theorem readFrom_eq_map {size : Nat} (store : Nat → T) {pos : Nat} (hpos : pos < size)
    (count : Nat) : readFrom size store pos count =
      (List.range count).map fun i => store ((pos + i) % size) := by
  induction count generalizing pos with
  | zero => rfl
  | succ count ih =>
    have first : (pos + 0) % size = pos := Nat.mod_eq_of_lt hpos
    rw [readFrom, ih (cursor_lt hpos 1), List.range_succ_eq_map, List.map_cons, List.map_map, first]
    simp only [Function.comp_def, cursor_succ, Nat.succ_eq_add_one]

theorem readFrom_add {size : Nat} (store : Nat → T) {pos : Nat} (hpos : pos < size)
    (m n : Nat) : readFrom size store pos (m + n) =
      readFrom size store pos m ++ readFrom size store ((pos + m) % size) n := by
  induction m generalizing pos with
  | zero => simp [readFrom, Nat.mod_eq_of_lt hpos]
  | succ m ih =>
    have hsplit : m + 1 + n = m + n + 1 := by omega
    rw [hsplit, readFrom, ih (cursor_lt hpos 1), cursor_succ, readFrom, List.cons_append]

theorem take_readFrom {size : Nat} (store : Nat → T) {pos : Nat} (hpos : pos < size)
    {k n : Nat} (hk : k ≤ n) :
    (readFrom size store pos n).take k = readFrom size store pos k := by
  obtain ⟨m, rfl⟩ := Nat.exists_eq_add_of_le hk
  rw [readFrom_add store hpos]
  exact List.take_left' (length_readFrom size store pos k)

theorem drop_readFrom {size : Nat} (store : Nat → T) {pos : Nat} (hpos : pos < size)
    {k n : Nat} (hk : k ≤ n) : (readFrom size store pos n).drop k =
      readFrom size store ((pos + k) % size) (n - k) := by
  obtain ⟨m, rfl⟩ := Nat.exists_eq_add_of_le hk
  rw [readFrom_add store hpos, Nat.add_sub_cancel_left]
  exact List.drop_left' (length_readFrom size store pos k)

theorem readFrom_congr {size : Nat} {before after : Nat → T} {pos : Nat} (hpos : pos < size)
    (count : Nat)
    (agree : ∀ i, i < count → after ((pos + i) % size) = before ((pos + i) % size)) :
    readFrom size after pos count = readFrom size before pos count := by
  induction count generalizing pos with
  | zero => rfl
  | succ count ih =>
    have first := agree 0 (by omega)
    rw [Nat.add_zero, Nat.mod_eq_of_lt hpos] at first
    rw [readFrom, readFrom, first, ih (cursor_lt hpos 1)]
    intro i hi
    rw [cursor_succ]
    exact agree (i + 1) (by omega)

theorem writeFrom_cursor {size : Nat} (store : Nat → T) {pos : Nat} (hpos : pos < size)
    (xs : List T) : (writeFrom size store pos xs).2 = (pos + xs.length) % size := by
  induction xs generalizing store pos with
  | nil => exact (Nat.mod_eq_of_lt hpos).symm
  | cons x xs ih => rw [writeFrom, ih _ (cursor_lt hpos 1), cursor_succ, List.length_cons]

/-- A cell that the cursor does not visit keeps its value. -/
theorem writeFrom_outside {size : Nat} (store : Nat → T) {pos : Nat} (hpos : pos < size)
    (xs : List T) (cell : Nat)
    (outside : ∀ i, i < xs.length → (pos + i) % size ≠ cell) :
    (writeFrom size store pos xs).1 cell = store cell := by
  induction xs generalizing store pos with
  | nil => rfl
  | cons x xs ih =>
    have hne : cell ≠ pos := by
      have := outside 0 (by simp)
      rw [Nat.add_zero, Nat.mod_eq_of_lt hpos] at this
      exact Ne.symm this
    rw [writeFrom, ih _ (cursor_lt hpos 1), Function.update_of_ne hne]
    intro i hi
    rw [cursor_succ]
    exact outside (i + 1) (by simpa using hi)

theorem readFrom_writeFrom {size : Nat} (store : Nat → T) {pos : Nat} (hpos : pos < size)
    (xs : List T) (fits : xs.length ≤ size) :
    readFrom size (writeFrom size store pos xs).1 pos xs.length = xs := by
  induction xs generalizing store pos with
  | nil => rfl
  | cons x xs ih =>
    have room : xs.length < size := by rw [List.length_cons] at fits; omega
    -- the rest of the write stays less than one turn ahead of the first cell
    have kept : (writeFrom size (Function.update store pos x) ((pos + 1) % size) xs).1 pos = x := by
      rw [writeFrom_outside _ (cursor_lt hpos 1), Function.update_self]
      intro i hi
      rw [cursor_succ]
      have apart := cursor_ne pos (Nat.zero_lt_succ i) (show i + 1 - 0 < size by omega)
      rw [Nat.add_zero, Nat.mod_eq_of_lt hpos] at apart
      exact apart.symm
    rw [List.length_cons, readFrom, writeFrom, kept, ih _ (cursor_lt hpos 1) (by omega)]

theorem readFrom_before_writeFrom {size : Nat} (store : Nat → T) {pos : Nat} (hpos : pos < size)
    (count : Nat) (xs : List T) (fits : count + xs.length ≤ size) :
    readFrom size (writeFrom size store ((pos + count) % size) xs).1 pos count =
      readFrom size store pos count := by
  apply readFrom_congr hpos
  intro i hi
  apply writeFrom_outside _ (cursor_lt hpos count)
  intro j hj
  rw [Nat.mod_add_mod, Nat.add_assoc]
  exact (cursor_ne pos (by omega) (by omega)).symm

/-- Writing right behind the readable range appends to what is read. -/
theorem readFrom_append {size : Nat} (store : Nat → T) {pos : Nat} (hpos : pos < size)
    (count : Nat) (xs : List T) (fits : count + xs.length ≤ size) :
    readFrom size (writeFrom size store ((pos + count) % size) xs).1 pos (count + xs.length) =
      readFrom size store pos count ++ xs := by
  rw [readFrom_add _ hpos, readFrom_before_writeFrom store hpos count xs fits,
    readFrom_writeFrom store (cursor_lt hpos count) xs (by omega)]

end CyclicStore
