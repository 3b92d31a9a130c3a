import Mathlib.Data.List.Basic

/-!
# Lists in chunks

A list is cut into chunks of a fixed positive size. All chunks but the last are full,
none is empty, and together they are the list.
-/
namespace Chunks
universe u
variable {α : Type u}

def chunk (size : Nat) (data : List α) (i : Nat) : List α :=
  (data.drop (size * i)).take size

/-- The number of chunks of a list of this length. -/
def chunkCount (size length : Nat) : Nat := (length + (size - 1)) / size

def chunks (size : Nat) (data : List α) : List (List α) :=
  (List.range (chunkCount size data.length)).map (chunk size data)

theorem lt_chunkCount_iff {size : Nat} (positive : 0 < size) (length i : Nat) :
    i < chunkCount size length ↔ size * i < length := by
  rw [chunkCount, ← Nat.succ_le_iff, Nat.le_div_iff_mul_le positive, Nat.succ_mul, Nat.mul_comm]
  omega

theorem length_chunk (size : Nat) (data : List α) (i : Nat) :
    (chunk size data i).length = min size (data.length - size * i) := by
  rw [chunk, List.length_take, List.length_drop]

/-- Only the last chunk may be short. -/
theorem length_chunk_of_succ_lt {size : Nat} (positive : 0 < size) {data : List α} {i : Nat}
    (later : i + 1 < chunkCount size data.length) : (chunk size data i).length = size := by
  rw [lt_chunkCount_iff positive, Nat.mul_succ] at later
  rw [length_chunk]
  omega

theorem length_chunk_pos {size : Nat} (positive : 0 < size) {data : List α} {i : Nat}
    (within : i < chunkCount size data.length) : 0 < (chunk size data i).length := by
  rw [lt_chunkCount_iff positive] at within
  rw [length_chunk]
  omega

theorem flatten_take_chunks (size : Nat) (data : List α) (n : Nat) :
    ((List.range n).map (chunk size data)).flatten = data.take (size * n) := by
  induction n with
  | zero => simp
  | succ n ih =>
    rw [List.range_succ, List.map_append, List.flatten_append, ih, Nat.mul_succ, List.take_add]
    simp [chunk]

theorem flatten_chunks {size : Nat} (positive : 0 < size) (data : List α) :
    (chunks size data).flatten = data := by
  have enough : data.length ≤ size * chunkCount size data.length := by
    have last := lt_chunkCount_iff positive data.length (chunkCount size data.length)
    omega
  rw [chunks, flatten_take_chunks, List.take_of_length_le enough]

end Chunks
