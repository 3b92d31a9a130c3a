import TinyCP.EventRun

/-!
# Bounded queues

A queue holds at most `capacity` elements and is served from the front. A call that
would have to wait is answered by `blocked` and changes nothing; once the queue has
been woken, no call waits again. Whatever has been written is either still in the
queue or has left it at the front, in the order of the writes.
-/
namespace BoundedQueue
open EventRun
universe u
variable {T : Type u}

inductive Call (T : Type u) where
  | write (elements : List T)
  | read (len : Nat)
  | tryRead (len : Nat)
  | peek (len offset : Nat)
  | discard (count : Nat)
  | wakeUp
  | size
  | availableCapacity

inductive Reply (T : Type u) where
  | blocked
  | woken
  | count (n : Nat)
  | elements (data : List T)
  deriving DecidableEq

structure Queue (T : Type u) where
  contents : List T
  woken : Bool

namespace Queue

def empty : Queue T where
  contents := []
  woken := false

/-- The queue without its first elements, at most `count` of them. -/
def dropped (q : Queue T) (count : Nat) : Queue T :=
  { q with contents := q.contents.drop (min count q.contents.length) }

def call (capacity : Nat) (q : Queue T) : Call T → Queue T × Reply T
  | .write elements =>
    if q.contents.length < capacity ∨ q.woken then
      let count := min elements.length (capacity - q.contents.length)
      ({ q with contents := q.contents ++ elements.take count }, .count count)
    else (q, .blocked)
  | .read len =>
    if 0 < q.contents.length ∨ q.woken then
      (q.dropped len, .elements (q.contents.take (min len q.contents.length)))
    else (q, .blocked)
  | .tryRead len => (q.dropped len, .elements (q.contents.take (min len q.contents.length)))
  | .peek len offset =>
    (q, .elements ((q.contents.drop offset).take (min len (q.contents.length - offset))))
  | .discard count => (q.dropped count, .count (min count q.contents.length))
  | .wakeUp => ({ q with woken := true }, .woken)
  | .size => (q, .count q.contents.length)
  | .availableCapacity => (q, .count (capacity - q.contents.length))

def step (capacity : Nat) (q : Queue T) (call : Call T) : Queue T := (q.call capacity call).1

end Queue

/-- The elements a call has put into the queue, by its reply. -/
def written : Call T → Reply T → List T
  | .write elements, .count n => elements.take n
  | _, _ => []

/-- The elements a call has handed to its caller and removed, by its reply. -/
def fetched : Call T → Reply T → List T
  | .read _, .elements data => data
  | .tryRead _, .elements data => data
  | _, _ => []

/-- The elements a call has removed unseen, of the contents before it. -/
def discarded (contents : List T) : Call T → Reply T → List T
  | .discard _, .count n => contents.take n
  | _, _ => []

/-- One call writes behind the contents and removes from their front. -/
theorem call_conserves (capacity : Nat) (q : Queue T) (call : Call T) :
    q.contents ++ written call (q.call capacity call).2 =
      (fetched call (q.call capacity call).2 ++
        discarded q.contents call (q.call capacity call).2) ++
      (q.step capacity call).contents := by
  cases call with
  | write elements =>
    rw [Queue.step, Queue.call]
    split_ifs
    · rfl
    · exact List.append_nil _
  | read len =>
    rw [Queue.step, Queue.call]
    split_ifs
    · simp [written, fetched, discarded, Queue.dropped]
    · exact List.append_nil _
  | tryRead len => simp [Queue.step, Queue.call, written, fetched, discarded, Queue.dropped]
  | peek len offset => exact List.append_nil _
  | discard count => simp [Queue.step, Queue.call, written, fetched, discarded, Queue.dropped]
  | wakeUp => exact List.append_nil _
  | size => exact List.append_nil _
  | availableCapacity => exact List.append_nil _

/-- Over a whole run: what was there and was written is what was removed and is there. -/
theorem run_conserves (capacity : Nat) (q : Queue T) (calls : List (Call T)) :
    q.contents ++ actionsOf (Queue.step capacity)
        (fun q call => written call (q.call capacity call).2) q calls =
      actionsOf (Queue.step capacity) (fun q call => fetched call (q.call capacity call).2 ++
        discarded q.contents call (q.call capacity call).2) q calls ++
      (run (Queue.step capacity) q calls).contents := by
  induction calls generalizing q with
  | nil => exact List.append_nil _
  | cons call calls ih =>
    rw [actionsOf, actionsOf, run_cons, ← List.append_assoc, call_conserves, List.append_assoc,
      ih, ← List.append_assoc]

/-- A read for at least one element is answered by none only when the queue is empty. -/
theorem contents_of_read_nil {capacity : Nat} {q : Queue T} {len : Nat} (some : 0 < len)
    (nothing : (q.call capacity (.read len)).2 = .elements []) : q.contents = [] := by
  rw [Queue.call] at nothing
  split_ifs at nothing with ready
  rw [Reply.elements.injEq, List.take_eq_nil_iff] at nothing
  rcases nothing with zero | empty
  · exact List.length_eq_zero_iff.mp (by omega)
  · exact empty

end BoundedQueue
