import TinyCP.CyclicStore

/-!
# The blocking ring buffer

Every method holds the buffer's mutex, so a call is one atomic step. The waits
of `write` and `read` are guards: the call returns `none` while its condition
variable would keep the caller waiting, and nothing has changed then. Positions
and length carry the ring invariant, so that only cells below `Size` are used.
-/
namespace TinyCP
open CyclicStore
universe u

structure BlockingBuffer (T : Type u) (Size : Nat) where
  isForcefullyWokenUp : Bool
  readPos : Nat
  writePos : Nat
  currLen : Nat
  buffer : Nat → T
  readPos_lt : readPos < Size
  currLen_le : currLen ≤ Size
  writePos_eq : writePos = (readPos + currLen) % Size

namespace BlockingBuffer
variable {T : Type u} {Size : Nat}

/-- A new buffer. The array is not initialised in the source; `cells` is what it holds. -/
def empty (cells : Nat → T) (positive : 0 < Size) : BlockingBuffer T Size where
  isForcefullyWokenUp := false
  readPos := 0
  writePos := 0
  currLen := 0
  buffer := cells
  readPos_lt := positive
  currLen_le := Nat.zero_le _
  writePos_eq := by simp

def forceWakeUp (b : BlockingBuffer T Size) : BlockingBuffer T Size :=
  { b with isForcefullyWokenUp := true }

def size (b : BlockingBuffer T Size) : Nat := b.currLen

def availableCapacity (b : BlockingBuffer T Size) : Nat := Size - b.currLen

def canWrite (b : BlockingBuffer T Size) : Bool :=
  b.currLen < Size || b.isForcefullyWokenUp

def canRead (b : BlockingBuffer T Size) : Bool :=
  0 < b.currLen || b.isForcefullyWokenUp

theorem writePos_lt (b : BlockingBuffer T Size) : b.writePos < Size := by
  rw [b.writePos_eq]
  exact cursor_lt b.readPos_lt b.currLen

/-- The critical section of `write`, with the number of elements stored. -/
def store (b : BlockingBuffer T Size) (bytes : List T) : BlockingBuffer T Size × Nat :=
  let available := Size - b.currLen
  let count := min bytes.length available
  let written := writeFrom Size b.buffer b.writePos (bytes.take count)
  ({ b with
      writePos := written.2
      currLen := b.currLen + count
      buffer := written.1
      currLen_le := by have := b.currLen_le; omega
      writePos_eq := by
        rw [writeFrom_cursor _ b.writePos_lt, b.writePos_eq, Nat.mod_add_mod, List.length_take,
          Nat.min_eq_left (Nat.min_le_left _ _), Nat.add_assoc] }, count)

def write (b : BlockingBuffer T Size) (bytes : List T) : Option (BlockingBuffer T Size × Nat) :=
  if b.canWrite then some (b.store bytes) else none

/-- The critical section of `read` and `try_read` for a span of `len` elements. -/
def fetch (b : BlockingBuffer T Size) (len : Nat) : BlockingBuffer T Size × List T :=
  let available := b.currLen
  let count := min len available
  ({ b with
      readPos := skipFrom Size b.readPos count
      currLen := b.currLen - count
      readPos_lt := by rw [skipFrom_eq b.readPos_lt]; exact cursor_lt b.readPos_lt _
      currLen_le := by have := b.currLen_le; omega
      writePos_eq := by
        rw [skipFrom_eq b.readPos_lt, b.writePos_eq, Nat.mod_add_mod]
        congr 1
        omega }, readFrom Size b.buffer b.readPos count)

def read (b : BlockingBuffer T Size) (len : Nat) : Option (BlockingBuffer T Size × List T) :=
  if b.canRead then some (b.fetch len) else none

def tryRead (b : BlockingBuffer T Size) (len : Nat) : BlockingBuffer T Size × List T :=
  if b.currLen = 0 then (b, []) else b.fetch len

def peek (b : BlockingBuffer T Size) (len offset : Nat) : List T :=
  if offset ≥ b.currLen then [] else
    let available := b.currLen - offset
    let count := min len available
    readFrom Size b.buffer ((b.readPos + offset) % Size) count

def discard (b : BlockingBuffer T Size) (count : Nat) : BlockingBuffer T Size × Nat :=
  let toDiscard := min count b.currLen
  ({ b with
      readPos := (b.readPos + toDiscard) % Size
      currLen := b.currLen - toDiscard
      readPos_lt := cursor_lt b.readPos_lt _
      currLen_le := by have := b.currLen_le; omega
      writePos_eq := by
        rw [b.writePos_eq, Nat.mod_add_mod]
        congr 1
        omega }, toDiscard)

/-- The queue a buffer stands for: its `currLen` elements from `readPos` on. -/
def contents (b : BlockingBuffer T Size) : List T :=
  readFrom Size b.buffer b.readPos b.currLen

@[simp] theorem length_contents (b : BlockingBuffer T Size) : b.contents.length = b.size :=
  length_readFrom Size b.buffer b.readPos b.currLen

theorem size_le (b : BlockingBuffer T Size) : b.size ≤ Size := b.currLen_le

theorem availableCapacity_eq (b : BlockingBuffer T Size) :
    b.availableCapacity = Size - b.size := rfl

theorem contents_eq_nil_iff (b : BlockingBuffer T Size) : b.contents = [] ↔ b.size = 0 := by
  rw [← List.length_eq_zero_iff, length_contents]

@[simp] theorem contents_forceWakeUp (b : BlockingBuffer T Size) :
    b.forceWakeUp.contents = b.contents := rfl

@[simp] theorem store_count (b : BlockingBuffer T Size) (bytes : List T) :
    (b.store bytes).2 = min bytes.length b.availableCapacity := rfl

@[simp] theorem contents_store (b : BlockingBuffer T Size) (bytes : List T) :
    (b.store bytes).1.contents = b.contents ++ bytes.take b.availableCapacity := by
  have hlen : (bytes.take (min bytes.length (Size - b.currLen))).length =
      min bytes.length (Size - b.currLen) := by
    rw [List.length_take]; omega
  have appended := readFrom_append b.buffer b.readPos_lt b.currLen
    (bytes.take (min bytes.length (Size - b.currLen))) (by have := b.currLen_le; omega)
  rw [hlen, ← b.writePos_eq] at appended
  refine appended.trans ?_
  rw [contents, availableCapacity, List.take_eq_take_min (i := Size - b.currLen), Nat.min_comm]

theorem size_store (b : BlockingBuffer T Size) (bytes : List T) :
    (b.store bytes).1.size = b.size + min bytes.length b.availableCapacity := rfl

theorem contents_store_of_fits (b : BlockingBuffer T Size) {bytes : List T}
    (fits : bytes.length ≤ b.availableCapacity) :
    (b.store bytes).1.contents = b.contents ++ bytes := by
  rw [contents_store, List.take_of_length_le fits]

@[simp] theorem fetch_bytes (b : BlockingBuffer T Size) (len : Nat) :
    (b.fetch len).2 = b.contents.take len := by
  have hmin : b.contents.take len = b.contents.take (min len b.currLen) := by
    rw [List.take_eq_take_min (i := len), length_contents, size]
  rw [hmin]
  exact (take_readFrom b.buffer b.readPos_lt (Nat.min_le_right len b.currLen)).symm

@[simp] theorem contents_fetch (b : BlockingBuffer T Size) (len : Nat) :
    (b.fetch len).1.contents = b.contents.drop len := by
  have hmin : b.contents.drop len = b.contents.drop (min len b.currLen) := by
    rw [List.drop_eq_drop_min (i := len), length_contents, size]
  rw [hmin, contents, contents,
    drop_readFrom b.buffer b.readPos_lt (Nat.min_le_right len b.currLen)]
  simp only [fetch, skipFrom_eq b.readPos_lt]

theorem size_fetch (b : BlockingBuffer T Size) (len : Nat) :
    (b.fetch len).1.size = b.size - min len b.size := rfl

@[simp] theorem peek_eq (b : BlockingBuffer T Size) (len offset : Nat) :
    b.peek len offset = (b.contents.drop offset).take len := by
  by_cases past : offset ≥ b.currLen
  · rw [peek, if_pos past, List.drop_of_length_le, List.take_nil]
    rw [length_contents]
    exact past
  · rw [peek, if_neg past, contents, drop_readFrom b.buffer b.readPos_lt (by omega),
      List.take_eq_take_min, length_readFrom,
      take_readFrom b.buffer (cursor_lt b.readPos_lt offset) (Nat.min_le_right _ _)]

@[simp] theorem contents_discard (b : BlockingBuffer T Size) (count : Nat) :
    (b.discard count).1.contents = b.contents.drop count := by
  have hmin : b.contents.drop count = b.contents.drop (min count b.currLen) := by
    rw [List.drop_eq_drop_min (i := count), length_contents, size]
  rw [hmin, contents, contents,
    drop_readFrom b.buffer b.readPos_lt (Nat.min_le_right count b.currLen)]
  rfl

theorem size_discard (b : BlockingBuffer T Size) (count : Nat) :
    (b.discard count).1.size = b.size - min count b.size := rfl

@[simp] theorem canWrite_iff (b : BlockingBuffer T Size) :
    b.canWrite = true ↔ b.size < Size ∨ b.isForcefullyWokenUp = true := by
  simp [canWrite, size]

/-- What fits never meets a full buffer. -/
theorem canWrite_of_fits {b : BlockingBuffer T Size} {data : List T} (some : data ≠ [])
    (fits : data.length ≤ b.availableCapacity) : b.canWrite = true := by
  have positive := List.length_pos_iff.mpr some
  rw [availableCapacity_eq] at fits
  rw [canWrite_iff]
  left
  omega

@[simp] theorem canRead_iff (b : BlockingBuffer T Size) :
    b.canRead = true ↔ 0 < b.size ∨ b.isForcefullyWokenUp = true := by
  simp [canRead, size]

end BlockingBuffer
end TinyCP
