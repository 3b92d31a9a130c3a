import Mathlib.Algebra.Order.BigOperators.Group.List
import TinyCP.Energy
import TinyCP.KeyedSums
import TinyCP.Lifecycle

/-!
# The daemon comes to rest

Local traffic could keep a stack busy for ever: segments through the loopback queue are
answered by segments in the loopback queue, and a block that transmits queues itself again.
Left alone, with no calls, a silent device and no timer due, the daemon nevertheless uses
up the energy of its stack, and within a number of steps that is linear in it all queues
are empty, or the daemon waits for space in a receive buffer.
-/
namespace TinyCP
open EventRun KeyedSums

namespace TcpStack
open TransmissionControlBlock

/-- What the turn of a queued id can set off; the id of a removed socket sets off nothing. -/
def idCost (stack : TcpStack) (id : UInt64) : Nat := ((stack.getTcb id).map turnCost).getD 1

def potential (stack : TcpStack) : Nat :=
  total TransmissionControlBlock.potential stack.socketTable.sockets

/-- What can follow from the state of a stack and from the two batches of its daemon. -/
def energy (stack : TcpStack) (pending : List UInt64) (batch : List Segment) : Nat :=
  ((batch ++ stack.loopbackPacketQueue).map Segment.cost).sum +
    ((pending ++ stack.dirtySocketIds).map stack.idCost).sum +
    (if stack.waiting.isSome then 3 else 0) + stack.potential

section Perform
variable {stack : TcpStack} {socketId : UInt64} {tcb : TransmissionControlBlock} {o : Outcome}

end Perform

/-- The daemon waits for space in the receive buffer of a live socket, and there is none. -/
def Blocked (stack : TcpStack) : Prop :=
  ∃ id payload tcb, stack.waiting = some (id, payload) ∧ stack.getTcb id = some tcb ∧
    tcb.recvBuffer.canWrite = false

theorem step_resumeWrite {stack : TcpStack} {id : UInt64} {payload : List UInt8}
    (waits : stack.waiting = some (id, payload)) : stack.step .resumeWrite =
      { stack with waiting := none }.withTcb id (·.storePayload payload) := by
  rw [step, waits]

theorem Blocked.waits {stack : TcpStack} (blocked : Blocked stack) : stack.waiting.isSome := by
  obtain ⟨id, payload, tcb, waits, -⟩ := blocked
  rw [waits]
  rfl

theorem Blocked.resumeWrite {stack : TcpStack} (blocked : Blocked stack) :
    Blocked (stack.step .resumeWrite) := by
  obtain ⟨id, payload, tcb, waits, found, full⟩ := blocked
  have there : ({ stack with waiting := none } : TcpStack).getTcb id = some tcb := found
  have real := SocketTable.ne_zero_of_findSocket found
  rcases tcb.storePayload_cases payload with ⟨room, _⟩ | ⟨_, done⟩
  · rw [room] at full
    cases full
  · rw [step_resumeWrite waits, withTcb, there]
    dsimp only
    rw [done]
    refine ⟨id, payload, tcb, ?_, ?_, full⟩
    · rw [perform_frame]
      rfl
    · rw [getTcb, (perform_of_plain _ id rfl).1]
      exact SocketTable.findSocket_setSocket _ real _

/-- No timer of any socket has run out. -/
def NoneDue (now : Int) (stack : TcpStack) : Prop :=
  ∀ id tcb, stack.socketTable.sockets.lookup id = some tcb →
    tcb.inFlight = 0 ∨ now - tcb.lastWritten < tcb.rto

instance (now : Int) (stack : TcpStack) : Decidable (NoneDue now stack) :=
  decidable_of_iff (∀ entry ∈ stack.socketTable.sockets.entries,
      entry.2.inFlight = 0 ∨ now - entry.2.lastWritten < entry.2.rto)
    ⟨fun all id tcb found => all ⟨id, tcb⟩ (AList.mem_lookup_iff.mp found),
      fun all entry stored => all entry.1 entry.2 (AList.mem_lookup_iff.mpr stored)⟩

/-- A visit of a socket that is not due puts its block back. -/
theorem perform_unchanged (stack : TcpStack) (id : UInt64) (tcb : TransmissionControlBlock) :
    stack.perform id { tcb := tcb } =
      { stack with socketTable := stack.socketTable.setSocket id tcb } := by
  rw [perform_frame, (stack.perform_of_plain id rfl).1, (stack.perform_of_plain id rfl).2]
  simp

/-- The same blocks, queues and counters; only the order of the table may have changed. -/
structure SameBlocks (before after : TcpStack) : Prop where
  lookup : ∀ id, after.socketTable.sockets.lookup id = before.socketTable.sockets.lookup id
  potential : after.potential = before.potential
  ids : after.dirtySocketIds = before.dirtySocketIds
  queue : after.loopbackPacketQueue = before.loopbackPacketQueue
  waiting : after.waiting = before.waiting

theorem checkRetransmissions_sameBlocks {now : Int} {stack : TcpStack}
    (noneDue : NoneDue now stack) : SameBlocks stack (stack.checkRetransmissions now) := by
  rw [checkRetransmissions]
  generalize stack.socketTable.sockets.keys = ids
  induction ids generalizing stack with
  | nil => exact ⟨fun _ => rfl, rfl, rfl, rfl, rfl⟩
  | cons id ids ih =>
    rw [List.foldl_cons]
    cases found : stack.socketTable.sockets.lookup id with
    | none => exact ih noneDue
    | some tcb =>
      have lookup : ∀ other, (stack.socketTable.sockets.insert id tcb).lookup other =
          stack.socketTable.sockets.lookup other := by
        intro other
        by_cases same : other = id
        · rw [same, AList.lookup_insert, found]
        · exact AList.lookup_insert_ne same
      have potential : total TransmissionControlBlock.potential
          (stack.socketTable.sockets.insert id tcb) = stack.potential := by
        have inserted := total_insert TransmissionControlBlock.potential
          stack.socketTable.sockets id tcb
        rw [found] at inserted
        exact Nat.add_right_cancel inserted
      dsimp only
      rw [checkRetransmission_of_early (noneDue id tcb found), perform_unchanged]
      have rest := @ih { stack with socketTable := stack.socketTable.setSocket id tcb }
        fun other block there => noneDue other block ((lookup other).symm.trans there)
      exact ⟨fun other => (rest.lookup other).trans (lookup other),
        rest.potential.trans potential, rest.ids, rest.queue, rest.waiting⟩

theorem SameBlocks.energy {before after : TcpStack} (h : SameBlocks before after)
    (pending : List UInt64) (batch : List Segment) :
    after.energy pending batch = before.energy pending batch := by
  have cost : after.idCost = before.idCost := by
    funext id
    rw [idCost, idCost, getTcb, getTcb, SocketTable.findSocket, SocketTable.findSocket, h.lookup]
  rw [TcpStack.energy, TcpStack.energy, h.queue, h.ids, h.waiting, h.potential, cost]

end TcpStack

namespace Lifecycle

def energy (d : Lifecycle) : Nat := d.stack.energy d.point.pending d.point.batch

/-- Nothing is queued, neither in the stack nor in the batches of the daemon, and no write is
under way. -/
structure Resting (d : Lifecycle) : Prop where
  awake : d.stack.waiting = none
  ids : d.point.pending ++ d.stack.dirtySocketIds = []
  packets : d.point.batch ++ d.stack.loopbackPacketQueue = []

/-- Where a daemon that is left alone ends up: waiting for space in a receive buffer, at rest,
or at the end of its thread once it was told to stop. -/
def Settled (d : Lifecycle) : Prop :=
  d.stack.Blocked ∨
    if d.isRunning then Resting d else d.stack.waiting = none ∧ d.point = .finished

/-- A step of the daemon in which the device is silent and no timer is due. -/
def LeftAlone (fd : Int) (d : Lifecycle) : LifecycleEvent → Prop
  | .daemon now _ read => (read.tunRead fd).toNat = 0 ∧ d.stack.NoneDue now
  | _ => False

instance (fd : Int) (d : Lifecycle) (event : LifecycleEvent) : Decidable (LeftAlone fd d event) :=
  match event with
  | .daemon _ _ _ => inferInstanceAs (Decidable (_ ∧ _))
  | .call _ | .stop => inferInstanceAs (Decidable False)

section Steps
variable {fd : Int} {d : Lifecycle} {now : Int} {iss : UInt32} {read : DeviceRead}

/-- The thread ends only after it was told to stop. -/
def EndsStopped (d : Lifecycle) : Prop := d.point = .finished → d.isRunning = false

theorem work_isRunning (d : Lifecycle) : (d.work fd now iss read).isRunning = d.isRunning := by
  rw [work]
  split <;> first | rfl | split_ifs <;> rfl

theorem EndsStopped.work (h : EndsStopped d) : EndsStopped (d.work fd now iss read) := by
  obtain ⟨stack, point, isRunning⟩ := d
  cases point with
  | top =>
    rw [Lifecycle.work]
    split_ifs with stopped
    · exact fun _ => by simpa using stopped
    · rintro ⟨⟩
    · rintro ⟨⟩
  | takeDirty next => rintro ⟨⟩
  | dirty ids next => cases ids <;> rintro ⟨⟩
  | stage current =>
    cases current with
    | takeLoopback => rintro ⟨⟩
    | loopback batch => cases batch <;> rintro ⟨⟩
    | drain =>
      rw [Lifecycle.work]
      dsimp only [DaemonPoint.afterRead]
      split_ifs <;> rintro ⟨⟩
  | retransmit => rintro ⟨⟩
  | finished => exact h

theorem EndsStopped.step (h : EndsStopped d) (event : LifecycleEvent) :
    EndsStopped (d.step fd event) := by
  cases event with
  | call made => exact h
  | stop => exact fun _ => rfl
  | daemon now iss read =>
    rw [Lifecycle.step, advance]
    split_ifs
    · exact h
    · exact h.work

/-- A drain of a silent device goes on to the timers. -/
theorem work_drain (silent : (read.tunRead fd).toNat = 0) (at_drain : d.point = .stage .drain) :
    d.work fd now iss read = { d with point := .retransmit } := by
  rw [work, at_drain]
  dsimp only
  rw [readIncomingPackets_of_zero silent]
  rfl

theorem Resting.work (h : Resting d) (running : d.isRunning = true)
    (ends : EndsStopped d) (silent : (read.tunRead fd).toNat = 0) (noneDue : d.stack.NoneDue now) :
    Resting (d.work fd now iss read) := by
  obtain ⟨stack, point, isRunning⟩ := d
  obtain ⟨awake, ids, packets⟩ := h
  cases point with
  | top =>
    rw [Lifecycle.work]
    split_ifs <;> exact ⟨awake, ids, packets⟩
  | takeDirty next =>
    refine ⟨awake, ?_, packets⟩
    rw [Lifecycle.work]
    simpa [DaemonPoint.pending] using ids
  | dirty pending next =>
    cases pending with
    | nil => exact ⟨awake, ids, packets⟩
    | cons id pending => cases ids
  | stage current =>
    cases current with
    | takeLoopback =>
      refine ⟨awake, ids, ?_⟩
      rw [Lifecycle.work]
      simpa [DaemonPoint.batch, Stage.batch] using packets
    | loopback batch =>
      cases batch with
      | nil => exact ⟨awake, ids, packets⟩
      | cons packet batch => cases packets
    | drain =>
      rw [work_drain silent rfl]
      exact ⟨awake, ids, packets⟩
  | retransmit =>
    have same := TcpStack.checkRetransmissions_sameBlocks noneDue
    refine ⟨same.waiting.trans awake, ?_, ?_⟩
    · rw [Lifecycle.work]
      exact same.ids.trans ids
    · rw [Lifecycle.work]
      exact same.queue.trans packets
  | finished =>
    rw [ends rfl] at running
    cases running

theorem Settled.step {event : LifecycleEvent} (h : Settled d) (ends : EndsStopped d)
    (alone : LeftAlone fd d event) : Settled (d.step fd event) := by
  cases event with
  | call made => cases alone
  | stop => cases alone
  | daemon now iss read =>
    rw [Lifecycle.step, advance]
    rcases h with blocked | rest
    · rw [if_pos blocked.waits]
      exact Or.inl blocked.resumeWrite
    · right
      split_ifs at rest with running
      · have going : ¬ d.stack.waiting.isSome = true := by simp [rest.awake]
        rw [if_neg going, work_isRunning, if_pos running]
        exact rest.work running ends alone.1 alone.2
      · have going : ¬ d.stack.waiting.isSome = true := by simp [rest.1]
        have same : d.work fd now iss read = d := by rw [Lifecycle.work, rest.2]
        rw [if_neg going, same, if_neg running]
        exact rest

end Steps

end Lifecycle
end TinyCP
