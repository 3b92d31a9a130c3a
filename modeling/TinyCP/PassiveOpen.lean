import TinyCP.HandlerSpecs
import TinyCP.StackSpecs
import TinyCP.TcpSocket

/-!
# Which sockets accept connections

`bind` enters a socket into the listener table before `listen` is called, and
`handle_passive_open_syn_` only asks whether a live socket is bound to the port. A bare
SYN is therefore answered as the state LISTEN demands exactly when every socket that
can be bound there is in that state, as long as the id counter gives a new id.
-/
namespace TinyCP
open EventRun

namespace TcpStack

/-- The block of the live socket that is bound to a port. -/
def bound (stack : TcpStack) (port : UInt16) : Option TransmissionControlBlock :=
  stack.getTcb (stack.listenerTable.find stack.socketTable port)

theorem bound_eq_none_iff (stack : TcpStack) (port : UInt16) :
    stack.bound port = none ↔ stack.listenerTable.find stack.socketTable port = 0 := by
  constructor
  · intro unbound
    by_contra real
    obtain ⟨_, live⟩ := (ListenerTable.find_eq_iff real).mp rfl
    rw [SocketTable.contains_eq_false_iff.mpr unbound] at live
    cases live
  · intro zero
    rw [bound, zero]
    rfl

def IsListening (stack : TcpStack) (port : UInt16) : Prop :=
  ∃ tcb, stack.bound port = some tcb ∧ tcb.currentState = .listen

/-- The next id is a new one: the counter has not wrapped to 0 or onto a live socket. -/
def HasFreshId (stack : TcpStack) : Prop :=
  stack.socketTable.nextId ≠ 0 ∧ stack.getTcb stack.socketTable.nextId = none

/-- A new SYN_RECEIVED block for the segment, and one SYN-ACK that answers it. -/
def OpensChild (stack next : TcpStack) (packet : Segment) : Prop :=
  ∃ childId child answer, stack.getTcb childId = none ∧ next.getTcb childId = some child ∧
    child.currentState = .synReceived ∧
    child.srcAddress = packet.dst ∧ child.dstAddress = packet.src ∧
    next.written = stack.written ++ [answer] ∧
    answer.syn = true ∧ answer.ack = true ∧ answer.rst = false ∧
    answer.src = packet.dst ∧ answer.dst = packet.src ∧ answer.ackNum = packet.seqNum + 1

/-- Nothing in the tables changes, and exactly one RST is sent back. -/
def Refuses (stack next : TcpStack) (packet : Segment) : Prop :=
  SameTables stack next ∧ ∃ answer, next.written = stack.written ++ [answer] ∧
    answer.rst = true ∧ answer.src = packet.dst ∧ answer.dst = packet.src

/-- The reaction to a bare SYN that the state LISTEN alone decides. -/
def AcceptsOnlyListening (stack next : TcpStack) (packet : Segment) : Prop :=
  (OpensChild stack next packet ↔ stack.IsListening packet.dst.port) ∧
  (¬ stack.IsListening packet.dst.port → Refuses stack next packet)

/-- A segment with SYN and neither ACK nor RST that no live connection claims. -/
structure BareSyn (stack : TcpStack) (packet : Segment) : Prop where
  syn : packet.syn = true
  noAck : packet.ack = false
  noRst : packet.rst = false
  unregistered : stack.registered packet.src packet.dst = none

namespace BareSyn
variable {stack : TcpStack} {packet : Segment}

/-- Without a live socket on the port the segment is refused. -/
theorem refused (h : BareSyn stack packet) (unbound : stack.bound packet.dst.port = none)
    (iss : UInt32) : Refuses stack (stack.processIncomingPacket packet iss) packet := by
  have zero := (stack.bound_eq_none_iff _).mp unbound
  rw [processIncomingPacket_of_unregistered h.unregistered, if_neg (fun found => found.1 zero)]
  obtain ⟨ackNum, reset⟩ : ∃ ackNum, handleClosedResetResponse packet =
      [sendRawRst packet.dst packet.src 0 ackNum true] := by
    rw [handleClosedResetResponse, h.noRst, h.noAck]
    exact ⟨_, rfl⟩
  refine ⟨stack.writePackets_sameTables _,
    ⟨sendRawRst packet.dst packet.src 0 ackNum true, ?_, rfl, rfl, rfl⟩⟩
  rw [writePackets_eq, reset]

/-- With a live socket on the port, whatever its state, the passive open is carried out. -/
theorem passive (h : BareSyn stack packet) {tcb : TransmissionControlBlock}
    (found : stack.bound packet.dst.port = some tcb) (iss : UInt32) :
    stack.processIncomingPacket packet iss = stack.handlePassiveOpenSyn packet iss ∧
    (stack.listenerTable.find stack.socketTable packet.dst.port ≠ 0 ∧
      packet.syn ∧ !packet.ack) := by
  have bareSyn : stack.listenerTable.find stack.socketTable packet.dst.port ≠ 0 ∧
      packet.syn ∧ !packet.ack := by
    refine ⟨fun zero => ?_, h.syn, by rw [h.noAck]; rfl⟩
    rw [(stack.bound_eq_none_iff _).mpr zero] at found
    cases found
  rw [processIncomingPacket_of_unregistered h.unregistered, if_pos bareSyn]
  exact ⟨rfl, bareSyn⟩

end BareSyn

theorem handlePassiveOpenSyn_not_refuses {stack : TcpStack} {packet : Segment} (iss : UInt32)
    (bareSyn : stack.listenerTable.find stack.socketTable packet.dst.port ≠ 0 ∧
      packet.syn ∧ !packet.ack) :
    ¬ Refuses stack (stack.handlePassiveOpenSyn packet iss) packet := by
  rintro ⟨tables, _⟩
  exact handlePassiveOpenSyn_nextId_ne iss bareSyn tables.nextId

theorem opensChild_iff {stack : TcpStack} {packet : Segment} (iss : UInt32)
    (bareSyn : stack.listenerTable.find stack.socketTable packet.dst.port ≠ 0 ∧
      packet.syn ∧ !packet.ack) :
    OpensChild stack (stack.handlePassiveOpenSyn packet iss) packet ↔ stack.HasFreshId := by
  constructor
  · rintro ⟨childId, child, answer, new, made, _, _, _, sent, _⟩
    by_cases wrapped : stack.socketTable.nextId = 0
    · rw [handlePassiveOpenSyn_wrapped iss bareSyn wrapped] at sent
      exact absurd (List.append_right_eq_self.mp sent.symm) (List.cons_ne_nil _ _)
    · refine ⟨wrapped, ?_⟩
      rw [handlePassiveOpenSyn_eq iss bareSyn wrapped] at made
      by_cases same : childId = stack.socketTable.nextId
      · rw [← same]
        exact new
      · have before : stack.getTcb childId = some child := by
          rw [← made]
          exact ((SocketTable.findSocket_setSocket_ne _ same _).trans
            (stack.socketTable.findSocket_createSocket_ne _ _ _ same)).symm
        rw [new] at before
        cases before
  · rintro ⟨real, new⟩
    rw [handlePassiveOpenSyn_eq iss bareSyn real]
    refine ⟨stack.socketTable.nextId, stack.childOf packet iss, _, new, ?_, rfl, rfl, rfl, rfl,
      rfl, rfl, rfl, rfl, rfl, rfl⟩
    exact SocketTable.findSocket_setSocket _ real _

end TcpStack

/-- For every stack and every bare SYN without a live connection: the child and its
SYN-ACK appear exactly for a listening socket, and otherwise the SYN is refused by one
RST, if and only if a live socket on the port is in LISTEN and the next id is new. -/
theorem acceptsOnlyListening_iff (stack : TcpStack) (packet : Segment) (iss : UInt32)
    (bare : stack.BareSyn packet) :
    TcpStack.AcceptsOnlyListening stack (stack.processIncomingPacket packet iss) packet ↔
      ∀ tcb, stack.bound packet.dst.port = some tcb →
        tcb.currentState = .listen ∧ stack.HasFreshId := by
  cases found : stack.bound packet.dst.port with
  | none =>
    have refused := bare.refused found iss
    have deaf : ¬ stack.IsListening packet.dst.port := by
      rintro ⟨tcb, bound, _⟩
      rw [found] at bound
      cases bound
    refine iff_of_true ⟨iff_of_false ?_ deaf, fun _ => refused⟩ (fun tcb bound => by cases bound)
    rintro ⟨_, _, answer, _, _, _, _, _, sent, _, _, noRst, _⟩
    obtain ⟨_, reset, written, rst, _⟩ := refused
    rw [written, List.append_cancel_left_eq] at sent
    rw [(List.cons.inj sent).1, noRst] at rst
    cases rst
  | some tcb =>
    obtain ⟨handled, bareSyn⟩ := bare.passive found iss
    have listens : stack.IsListening packet.dst.port ↔ tcb.currentState = .listen := by
      constructor
      · rintro ⟨other, bound, state⟩
        rw [found, Option.some.injEq] at bound
        rw [bound]
        exact state
      · intro state
        exact ⟨tcb, found, state⟩
    rw [handled, TcpStack.AcceptsOnlyListening, TcpStack.opensChild_iff iss bareSyn, listens]
    constructor
    · rintro ⟨opens, refuses⟩ other same
      rw [Option.some.injEq] at same
      rw [← same]
      have state : tcb.currentState = .listen := by
        by_contra deaf
        exact TcpStack.handlePassiveOpenSyn_not_refuses iss bareSyn (refuses deaf)
      exact ⟨state, opens.mpr state⟩
    · intro condition
      obtain ⟨state, fresh⟩ := condition tcb rfl
      exact ⟨iff_of_true fresh state, fun deaf => absurd state deaf⟩

/-- The SYN of a peer for port 8080. -/
def sampleSyn : Segment := { sampleSegment 100 0 65535 [] with syn := true, ack := false }

def sampleListening : TcpStack :=
  run TcpStack.step (.new 0x0A000002) [.bind ⟨0x0A000002, 8080⟩ 0, .listen 1]

theorem acceptsOnlyListening_sample :
    (∃ tcb, sampleListening.bound 8080 = some tcb ∧ tcb.currentState = .listen) ∧
    TcpStack.AcceptsOnlyListening sampleListening
      (sampleListening.processIncomingPacket sampleSyn 300) sampleSyn := by
  refine ⟨⟨_, rfl, by decide⟩, ?_⟩
  refine (acceptsOnlyListening_iff _ _ 300 ⟨rfl, rfl, rfl, ?_⟩).mpr ?_
  · exact Option.isNone_iff_eq_none.mp (by decide)
  · have state : ∀ tcb ∈ sampleListening.bound 8080, tcb.currentState = .listen := by decide
    intro tcb found
    exact ⟨state tcb found, by decide, Option.isNone_iff_eq_none.mp (by decide)⟩

/-- A socket that is bound and has never been asked to listen accepts a connection. -/
theorem bound_socket_accepts : ¬ ∀ (localAddress : UInt32) (events : List StackEvent)
    (packet : Segment) (iss : UInt32),
    (run TcpStack.step (.new localAddress) events).BareSyn packet →
    TcpStack.AcceptsOnlyListening (run TcpStack.step (.new localAddress) events)
      ((run TcpStack.step (.new localAddress) events).processIncomingPacket packet iss) packet := by
  intro accepts
  have closed : ∀ tcb ∈ (run TcpStack.step (.new 0x0A000002)
      [.bind ⟨0x0A000002, 8080⟩ 0]).bound 8080, tcb.currentState ≠ .listen := by decide
  have deaf : ¬ (run TcpStack.step (.new 0x0A000002)
      [.bind ⟨0x0A000002, 8080⟩ 0]).IsListening 8080 := by
    rintro ⟨tcb, found, state⟩
    exact closed tcb found state
  have refuses := (accepts 0x0A000002 [.bind ⟨0x0A000002, 8080⟩ 0] sampleSyn 300
    ⟨rfl, rfl, rfl, Option.isNone_iff_eq_none.mp (by decide)⟩).2 deaf
  exact absurd refuses.1.nextId (by decide)

end TinyCP
