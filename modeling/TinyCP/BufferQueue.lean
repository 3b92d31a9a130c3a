import TinyCP.BlockingBuffer
import TinyCP.BoundedQueue

/-!
# The ring buffer is a bounded queue

Every call on the buffer has the reply of the same call on the queue it stands for,
and leaves the buffer standing for that queue afterwards, so the two have the same
replies over every sequence of calls. An array has fewer than `2 ^ 63` cells, hence no
sum of two positions wraps.
-/
namespace TinyCP
open EventRun CyclicStore BoundedQueue
universe u

namespace BlockingBuffer
variable {T : Type u} {Size : Nat}

/-- One call with its reply; the reply is `blocked` while the caller would wait. -/
def call (b : BlockingBuffer T Size) : Call T → BlockingBuffer T Size × Reply T
  | .write bytes =>
    match b.write bytes with
    | some (b, count) => (b, .count count)
    | none => (b, .blocked)
  | .read len =>
    match b.read len with
    | some (b, bytes) => (b, .elements bytes)
    | none => (b, .blocked)
  | .tryRead len => ((b.tryRead len).1, .elements (b.tryRead len).2)
  | .peek len offset => (b, .elements (b.peek len offset))
  | .discard count => ((b.discard count).1, .count (b.discard count).2)
  | .wakeUp => (b.forceWakeUp, .woken)
  | .size => (b, .count b.size)
  | .availableCapacity => (b, .count b.availableCapacity)

def step (b : BlockingBuffer T Size) (call : Call T) : BlockingBuffer T Size := (b.call call).1

/-- The queue a buffer stands for. -/
def queue (b : BlockingBuffer T Size) : Queue T where
  contents := b.contents
  woken := b.isForcefullyWokenUp

/-- The contents are the cells from `readPos` on, around the end of the array. -/
theorem contents_eq_map (b : BlockingBuffer T Size) :
    b.contents = (List.range b.currLen).map fun i => b.buffer ((b.readPos + i) % Size) :=
  readFrom_eq_map b.buffer b.readPos_lt b.currLen

theorem fetch_refines (b : BlockingBuffer T Size) (len : Nat) :
    (b.fetch len).1.queue = b.queue.dropped len ∧
    (b.fetch len).2 = b.queue.contents.take (min len b.queue.contents.length) := by
  constructor
  · have contents := b.contents_fetch len
    rw [List.drop_eq_drop_min] at contents
    rw [queue, contents]
    rfl
  · rw [fetch_bytes, List.take_eq_take_min]
    rfl

theorem call_refines (b : BlockingBuffer T Size) (call : Call T) :
    ((b.call call).1.queue, (b.call call).2) = b.queue.call Size call := by
  have length : b.queue.contents.length = b.size := b.length_contents
  have woken : b.queue.woken = b.isForcefullyWokenUp := rfl
  obtain ⟨fetched, bytes⟩ : _ ∧ _ := ⟨fun len => (b.fetch_refines len).1,
    fun len => (b.fetch_refines len).2⟩
  cases call with
  | write elements =>
    by_cases room : b.canWrite = true
    · rw [Queue.call, if_pos (by rwa [length, woken, ← canWrite_iff]), length]
      simp only [BlockingBuffer.call, write, if_pos room, store_count, availableCapacity_eq,
        Prod.mk.injEq, and_true]
      rw [queue, contents_store, List.take_eq_take_min, Nat.min_comm]
      rfl
    · rw [Queue.call, if_neg (by rwa [length, woken, ← canWrite_iff])]
      simp only [BlockingBuffer.call, write, if_neg room]
  | read len =>
    by_cases ready : b.canRead = true
    · rw [Queue.call, if_pos (by rwa [length, woken, ← canRead_iff]), ← fetched, ← bytes]
      simp only [BlockingBuffer.call, read, if_pos ready]
    · rw [Queue.call, if_neg (by rwa [length, woken, ← canRead_iff])]
      simp only [BlockingBuffer.call, read, if_neg ready]
  | tryRead len =>
    rw [Queue.call, ← fetched, ← bytes]
    by_cases none : b.currLen = 0
    · have empty : b.contents = [] := b.contents_eq_nil_iff.mpr none
      have same : (b.fetch len).1.queue = b.queue := by
        rw [fetched, Queue.dropped, queue, empty, List.drop_nil]
      simp only [BlockingBuffer.call, tryRead, if_pos none, same, fetch_bytes, empty,
        List.take_nil]
    · simp only [BlockingBuffer.call, tryRead, if_neg none]
  | peek len offset =>
    rw [Queue.call, ← List.length_drop, ← List.take_eq_take_min, BlockingBuffer.call, peek_eq]
    rfl
  | discard count =>
    have contents := b.contents_discard count
    rw [List.drop_eq_drop_min, length_contents] at contents
    rw [Queue.call, Queue.dropped, length, BlockingBuffer.call, queue, contents]
    rfl
  | wakeUp => rfl
  | size =>
    rw [Queue.call, length]
    rfl
  | availableCapacity =>
    rw [Queue.call, length]
    rfl

theorem step_refines (b : BlockingBuffer T Size) (call : Call T) :
    (b.step call).queue = b.queue.step Size call :=
  congrArg Prod.fst (b.call_refines call)

theorem reply_refines (b : BlockingBuffer T Size) (call : Call T) :
    (b.call call).2 = (b.queue.call Size call).2 :=
  congrArg Prod.snd (b.call_refines call)

/-- The elements that a sequence of calls has written, in order. -/
def writtenBy (b : BlockingBuffer T Size) (calls : List (Call T)) : List T :=
  actionsOf step (fun b call => written call (b.call call).2) b calls

/-- The elements that a sequence of calls has read, in order. -/
def readBy (b : BlockingBuffer T Size) (calls : List (Call T)) : List T :=
  actionsOf step (fun b call => fetched call (b.call call).2) b calls

/-- The elements that a sequence of calls has read or discarded, in order. -/
def removedBy (b : BlockingBuffer T Size) (calls : List (Call T)) : List T :=
  actionsOf step (fun b call => fetched call (b.call call).2 ++
    discarded b.contents call (b.call call).2) b calls

theorem run_conserves (b : BlockingBuffer T Size) (calls : List (Call T)) :
    b.contents ++ b.writtenBy calls = b.removedBy calls ++ (run step b calls).contents := by
  have writes : b.writtenBy calls = actionsOf (Queue.step Size)
      (fun q call => written call (q.call Size call).2) b.queue calls :=
    actionsOf_commutes step_refines
      (fun b call => congrArg (written call) (b.reply_refines call)) b calls
  have removes : b.removedBy calls = actionsOf (Queue.step Size)
      (fun q call => fetched call (q.call Size call).2 ++
        discarded q.contents call (q.call Size call).2) b.queue calls :=
    actionsOf_commutes step_refines
      (fun b call => congrArg (fun reply => fetched call reply ++ discarded b.contents call reply)
        (b.reply_refines call)) b calls
  have after : (run step b calls).contents = (run (Queue.step Size) b.queue calls).contents :=
    congrArg Queue.contents (run_commutes step_refines b calls)
  rw [writes, removes, after]
  exact BoundedQueue.run_conserves Size b.queue calls

end BlockingBuffer

/-- From the initial state, any sequence of calls leaves the ring invariant in place,
the cells between the two positions hold what the bounded queue holds, every call is
answered as the queue answers it, and a read for at least one element is answered by
none only when all that was written has been read or discarded. -/
theorem blockingBuffer_refines_queue {T : Type u} {Size : Nat} (positive : 0 < Size)
    (cells : Nat → T) (calls : List (Call T)) :
    let start := BlockingBuffer.empty cells positive
    let b := run BlockingBuffer.step start calls
    let q := run (Queue.step Size) Queue.empty calls
    (b.readPos < Size ∧ b.writePos < Size ∧ b.currLen ≤ Size ∧
      b.writePos = (b.readPos + b.currLen) % Size) ∧
    (q.contents = (List.range b.currLen).map (fun i => b.buffer ((b.readPos + i) % Size)) ∧
      q.woken = b.isForcefullyWokenUp) ∧
    (∀ call, (b.call call).2 = (q.call Size call).2) ∧
    ∀ len, 0 < len → (b.call (.read len)).2 = .elements [] →
      start.writtenBy calls = start.removedBy calls := by
  intro start b q
  have stands : b.queue = q := run_commutes BlockingBuffer.step_refines start calls
  refine ⟨⟨b.readPos_lt, b.writePos_lt, b.currLen_le, b.writePos_eq⟩, ⟨?_, ?_⟩, ?_, ?_⟩
  · rw [← stands, ← b.contents_eq_map]
    rfl
  · rw [← stands]
    rfl
  · intro call
    rw [← stands]
    exact b.reply_refines call
  · intro len some nothing
    rw [b.reply_refines] at nothing
    have drained : b.contents = [] := contents_of_read_nil some nothing
    have conserved := start.run_conserves calls
    rw [drained, List.append_nil] at conserved
    exact conserved

/-- A buffer of three cells whose calls wrap around its end. -/
theorem blockingBuffer_refines_queue_three :
    let start := BlockingBuffer.empty (fun _ => 0) (by decide : 0 < 3)
    let calls : List (Call UInt8) := [.write [1, 2], .read 2, .write [3, 4, 5], .wakeUp, .read 3]
    ((run BlockingBuffer.step start calls).call (.read 1)).2 = .elements [] ∧
      start.writtenBy calls = start.removedBy calls := by
  refine ⟨by decide, ?_⟩
  exact (blockingBuffer_refines_queue (by decide) _ _).2.2.2 1 (by decide) (by decide)

/-- A woken buffer is also empty when its elements were discarded unread. -/
theorem read_nil_after_discard : ¬ ∀ (Size : Nat) (positive : 0 < Size) (cells : Nat → UInt8)
    (calls : List (Call UInt8)) (len : Nat), .wakeUp ∈ calls → 0 < len →
    ((run BlockingBuffer.step (BlockingBuffer.empty cells positive) calls).call (.read len)).2 =
      .elements [] →
    (BlockingBuffer.empty cells positive).writtenBy calls =
      (BlockingBuffer.empty cells positive).readBy calls := by
  intro allRead
  have same := allRead 1 (by decide) (fun _ => 0) [.write [7], .discard 1, .wakeUp] 1 (by simp)
    (by decide) (by decide)
  exact absurd same (by decide)

end TinyCP
