import TinyCP.TableTeardown
import TinyCP.PacketViews

/-!
# The state diagram

The edges that the handlers and `close_connection` take, and how each of them changes
the tables. What arrives is arbitrary bytes, and the blocks of all sockets are looked
at: a step made for one socket leaves the states of the others as they are, except that
the end of a teardown removes the socket which the block's two addresses lead to.
-/
namespace TinyCP
open EventRun

/-- The edges of the diagram. No edge leads to TIME_WAIT or away from CLOSED. -/
def stateEdges : List (TcpState × TcpState) :=
  [(.synSent, .synReceived), (.synSent, .established), (.synSent, .closed),
    (.synReceived, .established), (.established, .finWait1), (.established, .closeWait),
    (.closeWait, .lastAck), (.finWait1, .finWait2), (.finWait1, .closing), (.finWait1, .closed),
    (.finWait2, .closed), (.closing, .closed), (.lastAck, .closed)]

def Edge (old new : TcpState) : Prop := (old, new) ∈ stateEdges

instance (old new : TcpState) : Decidable (Edge old new) :=
  inferInstanceAs (Decidable ((old, new) ∈ stateEdges))

theorem Edge.not_timeWait {old : TcpState} : ¬ Edge old .timeWait := by
  cases old <;> decide

theorem Edge.not_from_closed {new : TcpState} : ¬ Edge .closed new := by
  cases new <;> decide

/-- The edge that the end of a teardown takes. -/
theorem IsTearingDown.edge {state : TcpState} (tearing : IsTearingDown state) :
    Edge state .closed := by
  rcases tearing with rfl | rfl | rfl | rfl <;> decide

namespace TransmissionControlBlock

/-- Everything a segment can do to the state of the block it is handed to. -/
inductive Transition (tcb : TransmissionControlBlock) (packet : Segment) (o : Outcome) : Prop where
  | stays (same : o.tcb.currentState = tcb.currentState) (plain : o.effect = .none)
  | moves (edge : Edge tcb.currentState o.tcb.currentState)
      (away : o.tcb.currentState ≠ .established) (plain : o.effect = .none)
  | opens (edge : Edge tcb.currentState .established)
      (established : o.tcb.currentState = .established) (hack : packet.ack = true)
      (acked : packet.ackNum = tcb.snd.nxt) (una : o.tcb.snd.una = o.tcb.snd.nxt)
      (effect : o.effect = .none ∨ o.effect = .pushAccepted)
  | aborts (state : tcb.currentState = .synReceived) (closed : o.tcb.currentState = .closed)
      (effect : o.effect = .abort packet.src)
  | closes (tearing : IsTearingDown tcb.currentState) (closed : o.tcb.currentState = .closed)
      (effect : o.effect = .destroyConnection tcb.srcAddress tcb.dstAddress)

theorem handleSynSentState_transition {tcb : TransmissionControlBlock} (packet : Segment)
    (state : tcb.currentState = .synSent) :
    Transition tcb packet (tcb.handleSynSentState packet) := by
  rw [handleSynSentState]
  split_ifs with rst acked bad both syn
  · refine .moves ?_ TcpState.noConfusion rfl
    rw [state]
    exact (by decide : Edge .synSent .closed)
  · exact .stays rfl rfl
  · exact .stays rfl rfl
  · have ackNum : packet.ackNum = tcb.snd.nxt := by
      by_contra differ
      exact bad ⟨both.2, differ⟩
    refine .opens ?_ rfl both.2 ackNum ackNum (Or.inl rfl)
    rw [state]
    decide
  · refine .moves ?_ TcpState.noConfusion rfl
    rw [state]
    exact (by decide : Edge .synSent .synReceived)
  · exact .stays rfl rfl

theorem handleSynReceivedState_transition {tcb : TransmissionControlBlock} (packet : Segment)
    (state : tcb.currentState = .synReceived) :
    Transition tcb packet (tcb.handleSynReceivedState packet) := by
  rw [handleSynReceivedState]
  split_ifs with rst noAck other both
  · exact .aborts state rfl rfl
  · exact .stays rfl rfl
  · exact .stays rfl rfl
  all_goals
    refine .opens ?_ rfl (by simpa using noAck) (not_not.mp other) (not_not.mp other) (Or.inr rfl)
    rw [state]
    decide

theorem handleEstablishedState_transition {tcb : TransmissionControlBlock} (packet : Segment)
    (state : tcb.currentState = .established) :
    Transition tcb packet (tcb.handleEstablishedState packet) := by
  cases fin : packet.fin with
  | true =>
    have moved : (tcb.handleEstablishedState packet).tcb.currentState = .closeWait := by
      simp only [handleEstablishedState, fin, if_true, receiveFin]
      split_ifs <;> rfl
    refine .moves ?_ ?_ ?_
    · rw [state, moved]
      decide
    · rw [moved]
      decide
    · simp only [handleEstablishedState, fin, if_true, receiveFin]
  | false =>
    refine .stays (tcb.handleEstablishedState_sendSide fin).2.2.1 ?_
    rcases tcb.handleEstablishedState_cases fin with ⟨_, done⟩ | ⟨_, _, done⟩ | ⟨_, _, done⟩
    all_goals rw [done]

theorem closedBy_transition {tcb closing : TransmissionControlBlock} {packet : Segment}
    (tearing : IsTearingDown tcb.currentState) (out : List Segment)
    (src : closing.srcAddress = tcb.srcAddress) (dst : closing.dstAddress = tcb.dstAddress) :
    Transition tcb packet (closing.closedBy out) :=
  .closes tearing rfl (by rw [closedBy, src, dst])

theorem handleFinWait1State_transition {tcb : TransmissionControlBlock} (packet : Segment)
    (state : tcb.currentState = .finWait1) :
    Transition tcb packet (tcb.handleFinWait1State packet) := by
  rw [handleFinWait1State]
  split_ifs with acked fin fin
  · exact closedBy_transition (Or.inl state) _ rfl rfl
  · refine .moves ?_ TcpState.noConfusion rfl
    rw [state]
    exact (by decide : Edge .finWait1 .finWait2)
  · refine .moves ?_ TcpState.noConfusion rfl
    rw [state]
    exact (by decide : Edge .finWait1 .closing)
  · exact .stays rfl rfl

theorem handleFinWait2State_transition {tcb : TransmissionControlBlock} (packet : Segment)
    (state : tcb.currentState = .finWait2) :
    Transition tcb packet (tcb.handleFinWait2State packet) := by
  simp only [handleFinWait2State]
  split_ifs with fin acked
  · exact closedBy_transition (Or.inr (Or.inl state)) _ rfl rfl
  · exact closedBy_transition (Or.inr (Or.inl state)) _ rfl rfl
  · exact .stays rfl rfl

theorem awaitFinalAck_transition {tcb : TransmissionControlBlock} (packet : Segment)
    (tearing : IsTearingDown tcb.currentState) :
    Transition tcb packet (tcb.awaitFinalAck packet) := by
  rw [awaitFinalAck]
  split_ifs
  · exact closedBy_transition tearing _ rfl rfl
  · exact .stays rfl rfl

theorem receive_transition (tcb : TransmissionControlBlock) (packet : Segment) :
    Transition tcb packet (tcb.receive packet) := by
  cases state : tcb.currentState with
  | synSent =>
    simp only [receive, state]
    exact handleSynSentState_transition packet state
  | synReceived =>
    simp only [receive, state]
    exact handleSynReceivedState_transition packet state
  | established =>
    simp only [receive, state]
    exact handleEstablishedState_transition packet state
  | finWait1 =>
    simp only [receive, state]
    exact handleFinWait1State_transition packet state
  | finWait2 =>
    simp only [receive, state]
    exact handleFinWait2State_transition packet state
  | closing =>
    simp only [receive, state, handleClosingState]
    exact awaitFinalAck_transition packet (Or.inr (Or.inr (Or.inl state)))
  | lastAck =>
    simp only [receive, state, handleLastAckState]
    exact awaitFinalAck_transition packet (Or.inr (Or.inr (Or.inr state)))
  | _ =>
    simp only [receive, state]
    exact .stays rfl rfl

end TransmissionControlBlock

/-- What may happen to a stack: datagrams of arbitrary bytes, the work of the daemon
thread on one block or on all, and calls of the application. -/
inductive DiagramEvent where
  | datagram (buffer : List UInt8) (iss : UInt32)
  | processBlock (socketId : UInt64) (now : Int)
  | checkRetransmissions (now : Int)
  | resumeWrite
  | send (socketId : UInt64) (data : List UInt8)
  | close (socketId : UInt64) (now : Int)

namespace DiagramEvent

/-- The segment that a step hands to a handler, if its bytes parse. -/
def arrives : DiagramEvent → Option Segment
  | .datagram buffer _ => (parseIncoming buffer).map Arrived.segment
  | _ => none

end DiagramEvent

namespace TcpStack
open TransmissionControlBlock

/-- The step has created a socket under this id. -/
def Reissues (stack next : TcpStack) (id : UInt64) : Prop :=
  id = stack.socketTable.nextId ∧ next.socketTable.nextId ≠ stack.socketTable.nextId

/-- What a step does to the states of all sockets. A socket that a step creates is a
new one, also where the counter has come round to the id of another. -/
structure Conforms (stack next : TcpStack) (arrived : Option Segment) : Prop where
  edge : ∀ id before after, stack.getTcb id = some before → next.getTcb id = some after →
    ¬ Reissues stack next id →
    after.currentState = before.currentState ∨ Edge before.currentState after.currentState
  created : ∀ id after, next.getTcb id = some after →
    stack.getTcb id = none ∨ Reissues stack next id →
    Reissues stack next id ∧ after.currentState = .synReceived
  removed : ∀ id before, stack.getTcb id = some before → next.getTcb id = none →
    before.currentState = .synReceived ∨ ∃ socketId tcb, stack.getTcb socketId = some tcb ∧
      IsTearingDown tcb.currentState ∧ stack.findConnectionsTcb tcb.srcAddress tcb.dstAddress = id
  timeWait : ∀ id after, next.getTcb id = some after → after.currentState = .timeWait →
    ∃ before, stack.getTcb id = some before ∧ before.currentState = .timeWait
  final : ∀ id before after, stack.getTcb id = some before → next.getTcb id = some after →
    ¬ Reissues stack next id → before.currentState = .closed → after.currentState = .closed
  established : ∀ id before after, stack.getTcb id = some before → next.getTcb id = some after →
    ¬ Reissues stack next id → before.currentState ≠ .established →
    after.currentState = .established →
    ∃ packet, arrived = some packet ∧ packet.ack = true ∧ packet.ackNum = before.snd.nxt ∧
      after.snd.una = after.snd.nxt

/-- Two of the fields follow from the edges. -/
theorem Conforms.of_edges {stack next : TcpStack} {arrived : Option Segment}
    (edge : ∀ id before after, stack.getTcb id = some before → next.getTcb id = some after →
      ¬ Reissues stack next id →
      after.currentState = before.currentState ∨ Edge before.currentState after.currentState)
    (created : ∀ id after, next.getTcb id = some after →
      stack.getTcb id = none ∨ Reissues stack next id →
      Reissues stack next id ∧ after.currentState = .synReceived)
    (removed : ∀ id before, stack.getTcb id = some before → next.getTcb id = none →
      before.currentState = .synReceived ∨ ∃ socketId tcb, stack.getTcb socketId = some tcb ∧
        IsTearingDown tcb.currentState ∧
        stack.findConnectionsTcb tcb.srcAddress tcb.dstAddress = id)
    (established : ∀ id before after, stack.getTcb id = some before →
      next.getTcb id = some after → ¬ Reissues stack next id →
      before.currentState ≠ .established → after.currentState = .established →
      ∃ packet, arrived = some packet ∧ packet.ack = true ∧ packet.ackNum = before.snd.nxt ∧
        after.snd.una = after.snd.nxt) : Conforms stack next arrived := by
  refine ⟨edge, created, removed, ?_, ?_, established⟩
  · intro id after found waits
    by_cases issued : stack.getTcb id = none ∨ Reissues stack next id
    · have state := (created id after found issued).2
      rw [waits] at state
      cases state
    · rw [not_or] at issued
      obtain ⟨before, there⟩ := Option.ne_none_iff_exists'.mp issued.1
      rcases edge id before after there found issued.2 with same | step
      · exact ⟨before, there, same.symm.trans waits⟩
      · rw [waits] at step
        exact absurd step Edge.not_timeWait
  · intro id before after there found fresh closed
    rcases edge id before after there found fresh with same | step
    · exact same.trans closed
    · rw [closed] at step
      exact absurd step Edge.not_from_closed

/-- No socket comes, goes or changes its state. -/
structure SameStates (stack next : TcpStack) : Prop where
  nextId : next.socketTable.nextId = stack.socketTable.nextId
  states : ∀ id, (next.getTcb id).map currentState = (stack.getTcb id).map currentState

namespace SameStates

theorem refl (stack : TcpStack) : SameStates stack stack := ⟨rfl, fun _ => rfl⟩

theorem trans {first second third : TcpStack} (h : SameStates first second)
    (h' : SameStates second third) : SameStates first third :=
  ⟨h'.nextId.trans h.nextId, fun id => (h'.states id).trans (h.states id)⟩

theorem of_sockets {stack next : TcpStack} (same : next.socketTable = stack.socketTable) :
    SameStates stack next :=
  ⟨by rw [same], fun id => by rw [getTcb, getTcb, same]⟩

theorem perform {stack : TcpStack} {socketId : UInt64} {tcb : TransmissionControlBlock}
    (there : socketId ≠ 0 → stack.getTcb socketId = some tcb) {o : Outcome}
    (plain : o.effect = .none) (same : o.tcb.currentState = tcb.currentState) :
    SameStates stack (stack.perform socketId o) := by
  have sockets := (stack.perform_of_plain socketId plain).1
  refine ⟨by rw [sockets]; rfl, fun id => ?_⟩
  rw [getTcb, sockets]
  by_cases own : id = socketId
  · by_cases none : socketId = 0
    · rw [own, none]
      rfl
    · rw [own, SocketTable.findSocket_setSocket _ none, there none, Option.map_some, Option.map_some,
        same]
  · rw [SocketTable.findSocket_setSocket_ne _ own]
    rfl

theorem withTcb (stack : TcpStack) (socketId : UInt64) {work : TransmissionControlBlock → Outcome}
    (plain : ∀ tcb, (work tcb).effect = .none)
    (same : ∀ tcb, (work tcb).tcb.currentState = tcb.currentState) :
    SameStates stack (stack.withTcb socketId work) := by
  rw [TcpStack.withTcb]
  split
  · next tcb there => exact perform (fun _ => there) (plain tcb) (same tcb)
  · exact .refl stack

theorem processBlock (stack : TcpStack) (socketId : UInt64) (now : Int) :
    SameStates stack (stack.processBlock socketId now) :=
  withTcb stack socketId (fun tcb => (tcb.processBlock_confined now).plain)
    (fun tcb => tcb.processBlock_currentState now)

theorem checkRetransmissions (stack : TcpStack) (now : Int) :
    SameStates stack (stack.checkRetransmissions now) := by
  rw [TcpStack.checkRetransmissions]
  generalize stack.socketTable.sockets.keys = ids
  induction ids generalizing stack with
  | nil => exact .refl stack
  | cons socketId ids ih =>
    refine SameStates.trans ?_ (ih _)
    dsimp only
    split
    · next tcb entry =>
      exact perform (fun real => SocketTable.findSocket_eq_some_iff.mpr ⟨real, entry⟩)
        (tcb.checkRetransmission_confined now).plain (tcb.checkRetransmission_currentState now)
    · exact .refl stack

theorem send (stack : TcpStack) (socketId : UInt64) (data : List UInt8) :
    SameStates stack (stack.step (.send socketId data)) := by
  simp only [step, TcpSocket.send]
  split
  · exact .refl stack
  · next tcb there =>
    cases written : tcb.send data with
    | none => exact .refl stack
    | some sent =>
      obtain ⟨_, _, rfl⟩ := Option.map_eq_some_iff.mp written
      exact perform (fun _ => there) rfl rfl

theorem resumeWrite (stack : TcpStack) : SameStates stack (stack.step .resumeWrite) := by
  simp only [step]
  split
  · next socketId payload _ =>
    have woken : SameStates stack { stack with waiting := none } := of_sockets rfl
    refine woken.trans (withTcb _ socketId ?_ ?_)
    · intro tcb
      rcases tcb.storePayload_cases payload with ⟨_, h⟩ | ⟨_, h⟩ <;> rw [h]
    · intro tcb
      rcases tcb.storePayload_cases payload with ⟨_, h⟩ | ⟨_, h⟩
      · rw [h, stored]
      · rw [h]
  · exact .refl stack

theorem conforms {stack next : TcpStack} (h : SameStates stack next) (arrived : Option Segment) :
    Conforms stack next arrived := by
  have same : ∀ id before after, stack.getTcb id = some before → next.getTcb id = some after →
      after.currentState = before.currentState := by
    intro id before after there found
    have states := h.states id
    rw [there, found, Option.map_some, Option.map_some, Option.some.injEq] at states
    exact states
  refine .of_edges ?_ ?_ ?_ ?_
  · intro id before after there found _
    exact Or.inl (same id before after there found)
  · rintro id after found (absent | issued)
    · have states := h.states id
      rw [absent, found] at states
      cases states
    · exact absurd h.nextId issued.2
  · intro id before there gone
    have states := h.states id
    rw [there, gone] at states
    cases states
  · intro id before after there found _ away reached
    rw [same id before after there found] at reached
    exact absurd reached away

end SameStates

/-- What an outcome removes is its own socket, or the one that a key leads to. -/
theorem perform_removed {stack : TcpStack} {socketId id : UInt64} {o : Outcome}
    {before : TransmissionControlBlock} (there : stack.getTcb id = some before)
    (gone : (stack.perform socketId o).getTcb id = none) :
    (∃ remoteAddr, o.effect = .abort remoteAddr ∧ id = socketId) ∨
    ∃ remoteAddr localAddr, o.effect = .destroyConnection remoteAddr localAddr ∧
      stack.findConnectionsTcb remoteAddr localAddr = id := by
  have real := SocketTable.ne_zero_of_findSocket there
  have carried : (stack.carriedOut socketId o).getTcb id ≠ none := by
    rw [getTcb, carriedOut_eq]
    by_cases same : id = socketId
    · rw [same] at real ⊢
      rw [SocketTable.findSocket_setSocket _ real]
      exact Option.some_ne_none _
    · rw [SocketTable.findSocket_setSocket_ne _ same]
      exact ne_of_eq_of_ne there (Option.some_ne_none _)
  have applied : ((stack.carriedOut socketId o).applyEffect socketId o.tcb o.effect).getTcb id =
      none := gone
  cases effect : o.effect with
  | none =>
    rw [effect] at applied
    exact absurd applied carried
  | abort remoteAddr =>
    rw [effect] at applied
    by_cases same : id = socketId
    · exact Or.inl ⟨remoteAddr, rfl, same⟩
    · exact absurd ((SocketTable.findSocket_destroySocket_ne _ same).symm.trans applied) carried
  | destroyConnection remoteAddr localAddr =>
    right
    refine ⟨remoteAddr, localAddr, rfl, ?_⟩
    rw [effect] at applied
    simp only [applyEffect, destroyConnection, ConnectionTable.destroyConnection] at applied
    split at applied
    · next other entry =>
      by_cases same : id = other
      · rw [carriedOut_eq, ← same] at entry
        exact (ConnectionTable.find_eq_iff real).mpr
          ⟨entry, SocketTable.contains_of_findSocket there⟩
      · exact absurd ((SocketTable.findSocket_destroySocket_ne _ same).symm.trans applied) carried
    · exact absurd applied carried
  | pushAccepted =>
    rw [effect] at applied
    simp only [applyEffect] at applied
    split at applied
    · next listener hlistener =>
      by_cases same : id = (stack.carriedOut socketId o).listenerTable.find
          (stack.carriedOut socketId o).socketTable o.tcb.srcAddress.port
      · rw [same] at real applied
        exact absurd ((SocketTable.findSocket_setSocket _ real _).symm.trans applied)
          (Option.some_ne_none _)
      · exact absurd ((SocketTable.findSocket_setSocket_ne _ same _).symm.trans applied) carried
    · exact absurd applied carried

namespace Conforms
variable {stack : TcpStack} {socketId : UInt64} {tcb : TransmissionControlBlock} {o : Outcome}
variable {arrived : Option Segment}

/-- An outcome that takes its block along an edge, or leaves it where it is. -/
theorem perform (there : stack.getTcb socketId = some tcb)
    (edge : o.tcb.currentState = tcb.currentState ∨ Edge tcb.currentState o.tcb.currentState ∨
      ∃ remoteAddr, o.effect = .abort remoteAddr)
    (aborts : ∀ remoteAddr, o.effect = .abort remoteAddr → tcb.currentState = .synReceived)
    (destroys : ∀ remoteAddr localAddr, o.effect = .destroyConnection remoteAddr localAddr →
      IsTearingDown tcb.currentState ∧ remoteAddr = tcb.srcAddress ∧ localAddr = tcb.dstAddress)
    (established : tcb.currentState ≠ .established → o.tcb.currentState = .established →
      ∃ packet, arrived = some packet ∧ packet.ack = true ∧ packet.ackNum = tcb.snd.nxt ∧
        o.tcb.snd.una = o.tcb.snd.nxt) :
    Conforms stack (stack.perform socketId o) arrived := by
  have kept := stack.perform_nextId socketId o
  -- the block of the outcome is gone after an abort, so what is left took an edge
  have own : ∀ after, (stack.perform socketId o).getTcb socketId = some after →
      ∀ remoteAddr, o.effect ≠ .abort remoteAddr := by
    intro after found remoteAddr effect
    have applied : ((stack.carriedOut socketId o).applyEffect socketId o.tcb o.effect).getTcb
        socketId = some after := found
    rw [effect] at applied
    exact absurd ((SocketTable.findSocket_destroySocket _ socketId).symm.trans applied) (by simp)
  refine .of_edges ?_ ?_ ?_ ?_
  · intro id before after old found _
    obtain ⟨block, same, upTo⟩ := perform_block (fun _ => there) found
    rw [old, Option.some.injEq] at same
    by_cases mine : id = socketId
    · rw [if_pos mine] at upTo
      rw [mine] at old found
      rw [there, Option.some.injEq] at old
      rw [upTo, ← old]
      rcases edge with stays | moves | ⟨remoteAddr, effect⟩
      · exact Or.inl stays
      · exact Or.inr moves
      · exact absurd effect (own after found remoteAddr)
    · rw [if_neg mine, ← same] at upTo
      rw [upTo]
      exact Or.inl rfl
  · rintro id after found (absent | issued)
    · obtain ⟨block, same, _⟩ := perform_block (fun _ => there) found
      rw [absent] at same
      cases same
    · exact absurd kept issued.2
  · intro id before old gone
    rcases perform_removed old gone with ⟨remoteAddr, effect, same⟩ | ⟨remote, locally, effect, leads⟩
    · rw [same, there, Option.some.injEq] at old
      rw [← old]
      exact Or.inl (aborts remoteAddr effect)
    · obtain ⟨tearing, rfl, rfl⟩ := destroys remote locally effect
      exact Or.inr ⟨socketId, tcb, there, tearing, leads⟩
  · intro id before after old found _ away reached
    obtain ⟨block, same, upTo⟩ := perform_block (fun _ => there) found
    rw [old, Option.some.injEq] at same
    by_cases mine : id = socketId
    · rw [if_pos mine] at upTo
      rw [mine, there, Option.some.injEq] at old
      rw [upTo] at reached ⊢
      rw [← old] at away ⊢
      exact established away reached
    · rw [if_neg mine, ← same] at upTo
      rw [upTo] at reached
      exact absurd reached away

theorem receive (there : stack.getTcb socketId = some tcb) (packet : Segment) :
    Conforms stack (stack.perform socketId (tcb.receive packet)) (some packet) := by
  have transition := tcb.receive_transition packet
  generalize tcb.receive packet = o at transition
  cases transition with
  | stays same plain =>
    exact (SameStates.perform (fun _ => there) plain same).conforms _
  | moves edge away plain =>
    refine perform there (Or.inr (Or.inl edge)) ?_ ?_ ?_
    · intro _ effect
      rw [plain] at effect
      cases effect
    · intro _ _ effect
      rw [plain] at effect
      cases effect
    · intro _ reached
      exact absurd reached away
  | opens edge established hack acked una effect =>
    refine perform there (Or.inr (Or.inl (by rwa [established]))) ?_ ?_ ?_
    · intro _ aborts
      rcases effect with plain | pushes
      · rw [plain] at aborts
        cases aborts
      · rw [pushes] at aborts
        cases aborts
    · intro _ _ destroys
      rcases effect with plain | pushes
      · rw [plain] at destroys
        cases destroys
      · rw [pushes] at destroys
        cases destroys
    · intro _ _
      exact ⟨packet, rfl, hack, acked, una⟩
  | aborts state closed effect =>
    refine perform there (Or.inr (Or.inr ⟨packet.src, effect⟩)) (fun _ _ => state) ?_ ?_
    · intro _ _ destroys
      rw [effect] at destroys
      cases destroys
    · intro _ reached
      rw [closed] at reached
      cases reached
  | closes tearing closed effect =>
    refine perform there (Or.inr (Or.inl (by rw [closed]; exact tearing.edge))) ?_ ?_ ?_
    · intro _ aborts
      rw [effect] at aborts
      cases aborts
    · intro _ _ destroys
      rw [effect, TableEffect.destroyConnection.injEq] at destroys
      exact ⟨tearing, destroys.1.symm, destroys.2.symm⟩
    · intro _ reached
      rw [closed] at reached
      cases reached

/-- Both branches that `close_connection` takes here end in a state of their own,
whatever the helper has set before. -/
theorem close (there : stack.getTcb socketId = some tcb)
    (isOpen : tcb.currentState = .established ∨ tcb.currentState = .closeWait) (now : Int) :
    Conforms stack (stack.perform socketId (tcb.closeConnection now)) none := by
  have edge : Edge tcb.currentState (tcb.closeConnection now).tcb.currentState ∧
      (tcb.closeConnection now).tcb.currentState ≠ .established ∧
      (tcb.closeConnection now).effect = .none := by
    rcases isOpen with state | state
    · rw [TransmissionControlBlock.closeConnection, state]
      exact ⟨(by decide : Edge .established .finWait1), TcpState.noConfusion, rfl⟩
    · rw [TransmissionControlBlock.closeConnection, state]
      exact ⟨(by decide : Edge .closeWait .lastAck), TcpState.noConfusion, rfl⟩
  obtain ⟨edge, away, plain⟩ := edge
  refine perform there (Or.inr (Or.inl edge)) ?_ ?_ ?_
  · intro _ effect
    rw [plain] at effect
    cases effect
  · intro _ _ effect
    rw [plain] at effect
    cases effect
  · intro _ reached
    exact absurd reached away

/-- The only new sockets are those of a passive open. -/
theorem handlePassiveOpenSyn (stack : TcpStack) (packet : Segment) (iss : UInt32)
    (arrived : Option Segment) : Conforms stack (stack.handlePassiveOpenSyn packet iss) arrived := by
  have others := (stack.handlePassiveOpenSyn_others packet iss).2
  by_cases taken : stack.listenerTable.find stack.socketTable packet.dst.port ≠ 0 ∧
      packet.syn ∧ !packet.ack
  · have counted : (stack.handlePassiveOpenSyn packet iss).socketTable.nextId ≠
        stack.socketTable.nextId := handlePassiveOpenSyn_nextId_ne iss taken
    have child : stack.socketTable.nextId ≠ 0 →
        (stack.handlePassiveOpenSyn packet iss).getTcb stack.socketTable.nextId =
          some (stack.childOf packet iss) := by
      intro real
      rw [handlePassiveOpenSyn_eq iss taken real]
      exact SocketTable.findSocket_setSocket _ real _
    have kept : ∀ id, ¬ Reissues stack (stack.handlePassiveOpenSyn packet iss) id →
        (stack.handlePassiveOpenSyn packet iss).getTcb id = stack.getTcb id :=
      fun id fresh => others id fun same => fresh ⟨same, counted⟩
    refine .of_edges ?_ ?_ ?_ ?_
    · intro id before after there found fresh
      rw [kept id fresh, there, Option.some.injEq] at found
      rw [found]
      exact Or.inl rfl
    · intro id after found issued
      have same : id = stack.socketTable.nextId := by
        rcases issued with absent | issued
        · by_contra differ
          rw [others id differ, absent] at found
          cases found
        · exact issued.1
      have real := SocketTable.ne_zero_of_findSocket found
      rw [same] at real found
      rw [child real, Option.some.injEq] at found
      rw [← found]
      exact ⟨⟨same, counted⟩, rfl⟩
    · intro id before there gone
      have real := SocketTable.ne_zero_of_findSocket there
      by_cases same : id = stack.socketTable.nextId
      · rw [same] at real gone
        rw [child real] at gone
        cases gone
      · rw [others id same, there] at gone
        cases gone
    · intro id before after there found fresh away reached
      rw [kept id fresh, there, Option.some.injEq] at found
      rw [found] at away
      exact absurd reached away
  · have same : stack.handlePassiveOpenSyn packet iss = stack := if_neg taken
    rw [same]
    exact (SameStates.refl stack).conforms arrived

theorem processIncomingPacket (stack : TcpStack) (packet : Segment) (iss : UInt32) :
    Conforms stack (stack.processIncomingPacket packet iss) (some packet) := by
  cases bound : stack.registered packet.src packet.dst with
  | none =>
    rw [processIncomingPacket_of_unregistered bound]
    split_ifs
    · exact handlePassiveOpenSyn stack packet iss _
    · rw [writePackets_eq]
      apply SameStates.conforms
      exact .of_sockets rfl
  | some tcb =>
    by_cases listen : tcb.currentState = .listen
    · rw [processIncomingPacket_of_listening bound listen]
      exact handlePassiveOpenSyn stack packet iss _
    · rw [processIncomingPacket_of_bound bound listen]
      exact receive bound packet

theorem daemon (work : TcpStack → TcpStack) (done : Conforms stack (work stack) arrived) :
    Conforms stack (stack.daemon work) arrived := by
  rw [TcpStack.daemon]
  split_ifs
  · exact (SameStates.refl stack).conforms arrived
  · exact done

end Conforms

/-- Socket 2 is the ESTABLISHED child of a passive open. -/
def sampleAccepted : TcpStack :=
  run step (.new 0x0A000002)
    [.bind ⟨0x0A000002, 8080⟩ 0, .listen 1,
      .incoming { sampleSegment 100 0 65535 [] with syn := true, ack := false } 300,
      .incoming (sampleSegment 101 301 65535 []) 0]

end TcpStack
end TinyCP
