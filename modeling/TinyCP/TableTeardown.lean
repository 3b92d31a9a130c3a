import TinyCP.HandlerSpecs
import TinyCP.StackSpecs
import TinyCP.TcpSocket

/-!
# What teardown removes from the tables

The four handlers that reach CLOSED ask for `destroy_connection(src_address,
dst_address)`, in the order of the block, while the table is keyed by the remote
address first. The entry they look up is the one of the opposite direction, so the
connection itself is removed only where the two directions coincide.
-/
namespace TinyCP
open EventRun

namespace TcpStack

/-- The tables after a handler has asked for the destruction of a connection. -/
theorem perform_destroyConnection (stack : TcpStack) (socketId : UInt64) {o : Outcome}
    {remoteAddr localAddr : IPv4Address}
    (effect : o.effect = .destroyConnection remoteAddr localAddr) :
    (stack.perform socketId o).connectionTable = (stack.connectionTable.destroyConnection
      (stack.socketTable.setSocket socketId o.tcb) remoteAddr localAddr).1 ∧
    (stack.perform socketId o).socketTable = (stack.connectionTable.destroyConnection
      (stack.socketTable.setSocket socketId o.tcb) remoteAddr localAddr).2.1 := by
  rw [perform_eq, carriedOut_eq, effect]
  exact ⟨rfl, rfl⟩

end TcpStack

/-- The states whose handlers complete a teardown. -/
def IsTearingDown (state : TcpState) : Prop :=
  state = .finWait1 ∨ state = .finWait2 ∨ state = .closing ∨ state = .lastAck

/-- All four handlers pass the two addresses of the block in the block's own order. -/
theorem TransmissionControlBlock.receive_closed {tcb : TransmissionControlBlock} {packet : Segment}
    (tearing : IsTearingDown tcb.currentState)
    (closes : (tcb.receive packet).tcb.currentState = .closed) :
    (tcb.receive packet).effect = .destroyConnection tcb.srcAddress tcb.dstAddress := by
  rcases tearing with state | state | state | state
  · simp only [receive, state, handleFinWait1State] at closes ⊢
    split_ifs at closes ⊢
    · rfl
    · cases closes
    · cases closes
    · rw [state] at closes
      cases closes
  · simp only [receive, state, handleFinWait2State] at closes ⊢
    split_ifs at closes ⊢
    · rfl
    · rfl
    · rw [state] at closes
      cases closes
  · simp only [receive, state, handleClosingState, awaitFinalAck] at closes ⊢
    split_ifs at closes ⊢
    · rfl
    · rw [state] at closes
      cases closes
  · simp only [receive, state, handleLastAckState, awaitFinalAck] at closes ⊢
    split_ifs at closes ⊢
    · rfl
    · rw [state] at closes
      cases closes

namespace TransmissionControlBlock

/-- The key under which a block's own connection is registered. -/
def connectionKey (tcb : TransmissionControlBlock) : ConnectionKey where
  srcAddress := tcb.dstAddress
  dstAddress := tcb.srcAddress

end TransmissionControlBlock

/-- The socket and its own entry are gone, and nothing else has changed. -/
structure RemovesExactly (before after : TcpStack) (socketId : UInt64)
    (tcb : TransmissionControlBlock) : Prop where
  gone : after.socketTable.contains socketId = false
  unregistered : after.connectionTable.connections.lookup tcb.connectionKey = none
  sockets : ∀ other, other ≠ socketId → after.getTcb other = before.getTcb other
  entries : ∀ key, key ≠ tcb.connectionKey →
    after.connectionTable.connections.lookup key = before.connectionTable.connections.lookup key

/-- A segment that closes the connection with this id is about to be handled. -/
structure Completes (stack : TcpStack) (packet : Segment) (socketId : UInt64)
    (tcb : TransmissionControlBlock) : Prop where
  found : stack.findConnectionsTcb packet.src packet.dst = socketId
  tcb_eq : stack.getTcb socketId = some tcb
  tearing : IsTearingDown tcb.currentState
  closes : (tcb.receive packet).tcb.currentState = .closed

namespace Completes
variable {stack : TcpStack} {packet : Segment} {socketId : UInt64} {tcb : TransmissionControlBlock}

theorem socketId_ne_zero (h : Completes stack packet socketId tcb) : socketId ≠ 0 :=
  SocketTable.ne_zero_of_findSocket h.tcb_eq

/-- Both tables afterwards: the entry of the opposite direction decides. -/
theorem tables (h : Completes stack packet socketId tcb) (iss : UInt32) :
    (stack.processIncomingPacket packet iss).connectionTable =
      (stack.connectionTable.destroyConnection
        (stack.socketTable.setSocket socketId (tcb.receive packet).tcb)
        tcb.srcAddress tcb.dstAddress).1 ∧
    (stack.processIncomingPacket packet iss).socketTable =
      (stack.connectionTable.destroyConnection
        (stack.socketTable.setSocket socketId (tcb.receive packet).tcb)
        tcb.srcAddress tcb.dstAddress).2.1 := by
  have effect := TransmissionControlBlock.receive_closed h.tearing h.closes
  have notListen : tcb.currentState ≠ .listen := by
    rcases h.tearing with state | state | state | state <;> rw [state] <;> decide
  have handled : stack.processIncomingPacket packet iss =
      stack.perform socketId (tcb.receive packet) := by
    simp only [TcpStack.processIncomingPacket, h.found, h.socketId_ne_zero, if_false, h.tcb_eq,
      notListen]
  rw [handled]
  exact stack.perform_destroyConnection socketId effect

/-- Without an entry of the opposite direction the block stays in the socket table. -/
theorem not_removed (h : Completes stack packet socketId tcb) (iss : UInt32)
    (missing : stack.connectionTable.connections.lookup ⟨tcb.srcAddress, tcb.dstAddress⟩ = none) :
    (stack.processIncomingPacket packet iss).getTcb socketId = some (tcb.receive packet).tcb := by
  rw [TcpStack.getTcb, (h.tables iss).2, ConnectionTable.destroyConnection, missing]
  exact SocketTable.findSocket_setSocket _ h.socketId_ne_zero _

theorem removed_other (h : Completes stack packet socketId tcb) (iss : UInt32) {other : UInt64}
    (entry : stack.connectionTable.connections.lookup ⟨tcb.srcAddress, tcb.dstAddress⟩ = some other) :
    (stack.processIncomingPacket packet iss).socketTable =
      ((stack.socketTable.setSocket socketId (tcb.receive packet).tcb).destroySocket other).1 ∧
    (stack.processIncomingPacket packet iss).connectionTable.connections =
      stack.connectionTable.connections.erase ⟨tcb.srcAddress, tcb.dstAddress⟩ := by
  obtain ⟨connections, sockets⟩ := h.tables iss
  rw [connections, sockets, ConnectionTable.destroyConnection, entry]
  exact ⟨rfl, rfl⟩

/-- Exactly the own connection is removed when its two ends are one address. -/
theorem removesExactly_iff (h : Completes stack packet socketId tcb) (iss : UInt32) :
    RemovesExactly stack (stack.processIncomingPacket packet iss) socketId tcb ↔
      tcb.srcAddress = tcb.dstAddress ∧
      stack.connectionTable.connections.lookup tcb.connectionKey = some socketId := by
  constructor
  · intro removes
    cases entry : stack.connectionTable.connections.lookup ⟨tcb.srcAddress, tcb.dstAddress⟩ with
    | none =>
      have gone := removes.gone
      rw [SocketTable.contains_of_findSocket (h.not_removed iss entry)] at gone
      cases gone
    | some other =>
      obtain ⟨sockets, connections⟩ := h.removed_other iss entry
      have own : (⟨tcb.srcAddress, tcb.dstAddress⟩ : ConnectionKey) = tcb.connectionKey := by
        by_contra differ
        have same := removes.entries _ differ
        rw [connections, AList.lookup_erase, entry] at same
        cases same
      have addresses : tcb.srcAddress = tcb.dstAddress := congrArg ConnectionKey.srcAddress own
      refine ⟨addresses, ?_⟩
      rw [← own, entry]
      by_contra differ
      have gone := removes.gone
      rw [SocketTable.contains_eq_isSome, sockets, SocketTable.findSocket_destroySocket_ne _
        (fun same => differ (congrArg some same.symm)),
        SocketTable.findSocket_setSocket _ h.socketId_ne_zero] at gone
      cases gone
  · rintro ⟨addresses, entry⟩
    have own : (⟨tcb.srcAddress, tcb.dstAddress⟩ : ConnectionKey) = tcb.connectionKey := by
      rw [TransmissionControlBlock.connectionKey, addresses]
    rw [← own] at entry
    obtain ⟨sockets, connections⟩ := h.removed_other iss entry
    refine ⟨?_, ?_, ?_, ?_⟩
    · rw [SocketTable.contains_eq_isSome, sockets, SocketTable.findSocket_destroySocket]
      rfl
    · rw [connections, ← own, AList.lookup_erase]
    · intro other differ
      rw [TcpStack.getTcb, sockets, SocketTable.findSocket_destroySocket_ne _ differ,
        SocketTable.findSocket_setSocket_ne _ differ]
      rfl
    · intro key differ
      rw [← own] at differ
      rw [connections, AList.lookup_erase_ne differ]

end Completes

/-- In every state that a stack reaches, a segment that completes a teardown removes
exactly the connection it closes if and only if that connection leads from its address
back to the same address and is registered under it. -/
theorem removesExactly_iff_selfConnected (localAddress : UInt32) (events : List StackEvent)
    (packet : Segment) (iss : UInt32) (socketId : UInt64) (tcb : TransmissionControlBlock)
    (completes : Completes (run TcpStack.step (.new localAddress) events) packet socketId tcb) :
    RemovesExactly (run TcpStack.step (.new localAddress) events)
      ((run TcpStack.step (.new localAddress) events).processIncomingPacket packet iss)
      socketId tcb ↔
    tcb.srcAddress = tcb.dstAddress ∧
    (run TcpStack.step (.new localAddress) events).connectionTable.connections.lookup
      tcb.connectionKey = some socketId :=
  completes.removesExactly_iff iss

/-- A socket is bound, connects to its own address and closes; its segments go through
the loopback queue, up to the one that completes the teardown. -/
def sampleSelfConnection : List StackEvent :=
  [.bind ⟨0x0A000002, 8080⟩ 0, .connect 1 ⟨0x0A000002, 8080⟩ 100, .processDirtyBlocks 0,
    .loopback 0, .loopback 0, .close 1 0, .loopback 0, .loopback 0]

def sampleSelfConnected : TcpStack := run TcpStack.step (.new 0x0A000002) sampleSelfConnection

/-- The acknowledgment of its own FIN. -/
def sampleSelfAck : Segment :=
  { sampleSegment 102 102 65535 [] with src := ⟨0x0A000002, 8080⟩ }

theorem removesExactly_sampleSelfConnected : sampleSelfConnected.loopbackPacketQueue = [sampleSelfAck] ∧
    ∀ tcb ∈ sampleSelfConnected.getTcb 1, RemovesExactly sampleSelfConnected
      (sampleSelfConnected.processIncomingPacket sampleSelfAck 0) 1 tcb := by
  refine ⟨by decide, fun tcb bound => ?_⟩
  have state : ∀ tcb ∈ sampleSelfConnected.getTcb 1, tcb.currentState = .closing ∧
      (tcb.receive sampleSelfAck).tcb.currentState = .closed ∧ tcb.srcAddress = tcb.dstAddress ∧
      sampleSelfConnected.connectionTable.connections.lookup tcb.connectionKey = some 1 := by decide
  obtain ⟨closing, closes, addresses, entry⟩ := state tcb bound
  have completes : Completes sampleSelfConnected sampleSelfAck 1 tcb :=
    ⟨by decide, bound, Or.inr (Or.inr (Or.inl closing)), closes⟩
  exact (removesExactly_iff_selfConnected _ sampleSelfConnection _ 0 1 tcb completes).mpr
    ⟨addresses, entry⟩

/-- A passive open, the peer's FIN and a close: socket 2 waits for the last ACK. -/
def samplePassiveClose : List StackEvent :=
  [.bind ⟨0x0A000002, 8080⟩ 0, .listen 1,
    .incoming { sampleSegment 100 0 65535 [] with syn := true, ack := false } 300,
    .incoming (sampleSegment 101 301 65535 []) 0,
    .incoming { sampleSegment 101 301 65535 [] with fin := true } 0, .close 2 0]

def samplePassivelyClosed : TcpStack := run TcpStack.step (.new 0x0A000002) samplePassiveClose

/-- The last ACK closes the block of socket 2 and leaves it in the table. -/
theorem passive_close_leaves_block : ¬ ∀ (localAddress : UInt32) (events : List StackEvent)
    (packet : Segment) (iss : UInt32) (socketId : UInt64) (tcb : TransmissionControlBlock),
    Completes (run TcpStack.step (.new localAddress) events) packet socketId tcb →
    RemovesExactly (run TcpStack.step (.new localAddress) events)
      ((run TcpStack.step (.new localAddress) events).processIncomingPacket packet iss)
      socketId tcb := by
  intro removes
  have state : ∃ tcb, samplePassivelyClosed.getTcb 2 = some tcb ∧ tcb.currentState = .lastAck ∧
      (tcb.receive (sampleSegment 102 302 65535 [])).tcb.currentState = .closed := by
    refine ⟨_, rfl, ?_, ?_⟩ <;> decide
  obtain ⟨tcb, bound, lastAck, closes⟩ := state
  have completes : Completes samplePassivelyClosed (sampleSegment 102 302 65535 []) 2 tcb :=
    ⟨by decide, bound, Or.inr (Or.inr (Or.inr lastAck)), closes⟩
  have gone := (removes _ samplePassiveClose _ 0 _ _ completes).gone
  have stays : (samplePassivelyClosed.processIncomingPacket (sampleSegment 102 302 65535 [])
      0).socketTable.contains 2 = true := by decide
  exact absurd (gone.symm.trans stays) Bool.false_ne_true

end TinyCP
