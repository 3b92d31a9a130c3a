import TinyCP.HandlerSpecs
import TinyCP.EventRun

/-!
# One end of a connection, and two ends joined by channels

An endpoint is a control block together with what its threads and its stack keep
for it: how often its id stands in `dirty_socket_ids_`, and the payload on which
the daemon thread is blocked inside `recv_buffer.write`, if it is. The remaining
fields only record history. A call that would block, and a daemon step while the
daemon thread is blocked, leave the endpoint as it is.
-/
namespace TinyCP
open EventRun

structure Endpoint where
  tcb : TransmissionControlBlock
  dirty : Nat
  waiting : Option (List UInt8)
  accepted : List UInt8
  delivered : List UInt8
  emitted : List Segment

inductive Action where
  | send (data : List UInt8)
  | recv (len : Nat)
  | processBlock (now : Int)
  | processDirty (now : Int)
  | checkRetransmissions (now : Int)
  | receive (packet : Segment)
  | resumeWrite
  | close (now : Int)

namespace Endpoint

/-- An endpoint that has not done anything yet. -/
def fresh (tcb : TransmissionControlBlock) : Endpoint where
  tcb := tcb
  dirty := 0
  waiting := none
  accepted := []
  delivered := []
  emitted := []

def perform (e : Endpoint) (o : Outcome) : Endpoint × List Segment :=
  ({ e with
      tcb := o.tcb
      dirty := e.dirty + o.dirty.toNat
      waiting := o.waiting.or e.waiting
      emitted := e.emitted ++ o.out }, o.out)

/-- The daemon thread's work, skipped while the thread is blocked. -/
def daemon (e : Endpoint) (work : TransmissionControlBlock → Outcome) :
    Endpoint × List Segment :=
  if e.waiting.isSome then (e, []) else e.perform (work e.tcb)

/-- One step, with the segments it puts on the wire. -/
def act (e : Endpoint) : Action → Endpoint × List Segment
  | .send data =>
    match e.tcb.send data with
    | some (outcome, count) =>
      ({ (e.perform outcome).1 with accepted := e.accepted ++ data.take count }, [])
    | none => (e, [])
  | .recv len =>
    match e.tcb.recv len with
    | some (tcb, bytes) => ({ e with tcb := tcb, delivered := e.delivered ++ bytes }, [])
    | none => (e, [])
  | .processBlock now => e.daemon (·.processBlock now)
  | .processDirty now =>
    if e.waiting.isSome ∨ e.dirty = 0 then (e, [])
    else { e with dirty := e.dirty - 1 }.perform (e.tcb.processBlock now)
  | .checkRetransmissions now => e.daemon (·.checkRetransmission now)
  | .receive packet => e.daemon (·.receive packet)
  | .resumeWrite =>
    match e.waiting with
    | some payload => { e with waiting := none }.perform (e.tcb.storePayload payload)
    | none => (e, [])
  | .close now => e.perform (e.tcb.closeConnection now)

def step (e : Endpoint) (action : Action) : Endpoint := (e.act action).1

/-- What a step does, with the guards under which it does it. -/
inductive Done (e : Endpoint) : Action → Endpoint × List Segment → Prop where
  | stay (action : Action) : Done e action (e, [])
  | send (data : List UInt8) (room : e.tcb.sendBuffer.canWrite = true) :
      Done e (.send data)
        ({ e with
            tcb := { e.tcb with sendBuffer := (e.tcb.sendBuffer.store data).1 }
            dirty := e.dirty + 1
            accepted := e.accepted ++ data.take e.tcb.sendBuffer.availableCapacity }, [])
  | recv (len : Nat) (ready : e.tcb.recvBuffer.canRead = true) :
      Done e (.recv len)
        ({ e with
            tcb := { e.tcb with recvBuffer := (e.tcb.recvBuffer.fetch len).1 }
            delivered := e.delivered ++ e.tcb.recvBuffer.contents.take len }, [])
  | processBlock (now : Int) (awake : e.waiting = none) :
      Done e (.processBlock now) (e.perform (e.tcb.processBlock now))
  | processDirty (now : Int) (awake : e.waiting = none) (queued : 0 < e.dirty) :
      Done e (.processDirty now)
        ({ e with dirty := e.dirty - 1 }.perform (e.tcb.processBlock now))
  | checkRetransmissions (now : Int) (awake : e.waiting = none) :
      Done e (.checkRetransmissions now) (e.perform (e.tcb.checkRetransmission now))
  | receive (packet : Segment) (awake : e.waiting = none) :
      Done e (.receive packet) (e.perform (e.tcb.receive packet))
  | resumeWrite (payload : List UInt8) (blocked : e.waiting = some payload) :
      Done e .resumeWrite ({ e with waiting := none }.perform (e.tcb.storePayload payload))
  | close (now : Int) : Done e (.close now) (e.perform (e.tcb.closeConnection now))

theorem daemon_cases (e : Endpoint) (work : TransmissionControlBlock → Outcome) :
    e.daemon work = (e, []) ∨ (e.waiting = none ∧ e.daemon work = e.perform (work e.tcb)) := by
  cases hw : e.waiting with
  | none => exact Or.inr ⟨rfl, by simp [daemon, hw]⟩
  | some payload => exact Or.inl (by simp [daemon, hw])

theorem act_send {e : Endpoint} {data : List UInt8} (room : e.tcb.sendBuffer.canWrite = true) :
    e.act (.send data) =
      ({ e with
          tcb := { e.tcb with sendBuffer := (e.tcb.sendBuffer.store data).1 }
          dirty := e.dirty + 1
          accepted := e.accepted ++ data.take e.tcb.sendBuffer.availableCapacity }, []) := by
  simp only [act, TransmissionControlBlock.send, BlockingBuffer.write, if_pos room,
    Option.map_some, perform, List.append_nil, Bool.toNat_true, Option.none_or,
    BlockingBuffer.store_count]
  rw [Nat.min_comm, ← List.take_eq_take_min]

theorem act_recv {e : Endpoint} {len : Nat} (ready : e.tcb.recvBuffer.canRead = true) :
    e.act (.recv len) =
      ({ e with
          tcb := { e.tcb with recvBuffer := (e.tcb.recvBuffer.fetch len).1 }
          delivered := e.delivered ++ e.tcb.recvBuffer.contents.take len }, []) := by
  simp only [act, TransmissionControlBlock.recv, BlockingBuffer.read, if_pos ready,
    Option.map_some, BlockingBuffer.fetch_bytes]

theorem act_done (e : Endpoint) (action : Action) : Done e action (e.act action) := by
  cases action with
  | send data =>
    by_cases room : e.tcb.sendBuffer.canWrite = true
    · rw [act_send room]
      exact .send data room
    · simpa only [act, TransmissionControlBlock.send, BlockingBuffer.write, if_neg room,
        Option.map_none] using Done.stay _
  | recv len =>
    by_cases ready : e.tcb.recvBuffer.canRead = true
    · rw [act_recv ready]
      exact .recv len ready
    · simpa only [act, TransmissionControlBlock.recv, BlockingBuffer.read, if_neg ready,
        Option.map_none] using Done.stay _
  | processBlock now =>
    rcases e.daemon_cases (·.processBlock now) with h | ⟨awake, h⟩
    · rw [act, h]
      exact .stay _
    · rw [act, h]
      exact .processBlock now awake
  | processDirty now =>
    by_cases idle : e.waiting.isSome ∨ e.dirty = 0
    · rw [act, if_pos idle]
      exact .stay _
    · rw [act, if_neg idle]
      rw [not_or, Option.not_isSome_iff_eq_none] at idle
      exact .processDirty now idle.1 (Nat.pos_of_ne_zero idle.2)
  | checkRetransmissions now =>
    rcases e.daemon_cases (·.checkRetransmission now) with h | ⟨awake, h⟩
    · rw [act, h]
      exact .stay _
    · rw [act, h]
      exact .checkRetransmissions now awake
  | receive packet =>
    rcases e.daemon_cases (·.receive packet) with h | ⟨awake, h⟩
    · rw [act, h]
      exact .stay _
    · rw [act, h]
      exact .receive packet awake
  | resumeWrite =>
    cases hw : e.waiting with
    | none =>
      simp only [act, hw]
      exact .stay _
    | some payload =>
      simp only [act, hw]
      exact .resumeWrite payload hw
  | close now => exact .close now

theorem act_emitted (e : Endpoint) (action : Action) :
    (e.act action).1.emitted = e.emitted ++ (e.act action).2 := by
  have done := e.act_done action
  generalize e.act action = result at done ⊢
  cases done with
  | stay => exact (List.append_nil _).symm
  | send data _ => exact (List.append_nil _).symm
  | recv len _ => exact (List.append_nil _).symm
  | _ => rfl

/-- The actions of a connection on which no side closes. -/
def Open : Action → Prop
  | .receive packet => packet.fin = false
  | .close _ => False
  | _ => True

/-- Everything that has ever been appended to `recv_buffer`, in order. -/
def appended (e : Endpoint) : List UInt8 := e.delivered ++ e.tcb.recvBuffer.contents

end Endpoint

/-- The daemon's own work, with neither data nor a close. -/
def IsDaemonWork : Action → Prop
  | .processBlock _ | .processDirty _ | .checkRetransmissions _ => True
  | _ => False

/-- Two endpoints, and the segments in flight in each direction, oldest first. -/
structure Pair where
  a : Endpoint
  b : Endpoint
  ab : List Segment
  ba : List Segment

inductive Side where
  | a
  | b

inductive PairAction where
  | act (action : Action)
  | deliver

namespace Pair

/-- Two endpoints with nothing in flight between them. -/
def joined (a b : TransmissionControlBlock) : Pair where
  a := .fresh a
  b := .fresh b
  ab := []
  ba := []

def swap (p : Pair) : Pair where
  a := p.b
  b := p.a
  ab := p.ba
  ba := p.ab

def actA (p : Pair) (action : Action) : Pair :=
  let result := p.a.act action
  { p with a := result.1, ab := p.ab ++ result.2 }

/-- Delivery of the oldest segment for A; a blocked daemon thread takes none. -/
def deliverA (p : Pair) : Pair :=
  match p.a.waiting, p.ba with
  | none, packet :: rest => { p with ba := rest }.actA (.receive packet)
  | _, _ => p

def stepA (p : Pair) : PairAction → Pair
  | .act action => p.actA action
  | .deliver => p.deliverA

def step (p : Pair) : Side × PairAction → Pair
  | (.a, action) => p.stepA action
  | (.b, action) => (p.swap.stepA action).swap

/-- A step of B is a step of A in the mirrored pair, so an invariant and its mirror
image need a proof for A's steps only. -/
theorem step_invariant {Inv Mirror : Pair → Prop} {Allowed : PairAction → Prop}
    (mirror : ∀ p, Inv p → Mirror p.swap) (back : ∀ p, Mirror p → Inv p.swap)
    (here : ∀ p action, Allowed action → Inv p → Inv (p.stepA action))
    (there : ∀ p action, Allowed action → Mirror p → Mirror (p.stepA action))
    (p : Pair) (event : Side × PairAction) (allowed : Allowed event.2) (hp : Inv p) :
    Inv (p.step event) := by
  obtain ⟨side, action⟩ := event
  cases side with
  | a => exact here p action allowed hp
  | b => exact back _ (there p.swap action allowed (mirror p hp))

end Pair
end TinyCP
