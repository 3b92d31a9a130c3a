import TinyCP.TableTeardown

/-!
# Closing a socket that has no connection to shut down

Outside ESTABLISHED and CLOSE_WAIT `close_connection` asks for the destruction of the
entry keyed by the block's own two addresses in the block's order. The socket is
removed exactly when that entry leads to it, which a listening or connecting socket
never arranges.
-/
namespace TinyCP
open EventRun

/-- The socket is gone, no lookup leads to it, a SYN to a port it was bound to is
refused, and everything that does not belong to it is as before; closing it once more
does nothing. -/
structure RemovedForGood (before after : TcpStack) (socketId : UInt64)
    (tcb : TransmissionControlBlock) : Prop where
  gone : after.socketTable.contains socketId = false
  unbound : after.listenerTable.find after.socketTable tcb.srcAddress.port ≠ socketId
  unregistered : after.findConnectionsTcb tcb.dstAddress tcb.srcAddress ≠ socketId
  refuses : ∀ port, before.listenerTable.listeners.lookup port = some socketId →
    after.listenerTable.contains after.socketTable port = false
  sockets : ∀ other, other ≠ socketId → after.getTcb other = before.getTcb other
  listeners : ∀ port, before.listenerTable.listeners.lookup port ≠ some socketId →
    after.listenerTable.listeners.lookup port = before.listenerTable.listeners.lookup port
  connections : ∀ key, before.connectionTable.connections.lookup key ≠ some socketId →
    after.connectionTable.connections.lookup key = before.connectionTable.connections.lookup key
  repeated : ∀ now, after.closeConnection socketId now = after

namespace TcpStack

/-- In every other state the socket's block is closed and one entry is looked up. -/
theorem closeConnection_of_neither {stack : TcpStack} {socketId : UInt64}
    {tcb : TransmissionControlBlock} (found : stack.getTcb socketId = some tcb)
    (state : tcb.currentState ≠ .established ∧ tcb.currentState ≠ .closeWait) (now : Int) :
    stack.closeConnection socketId now =
      (stack.setTcb socketId tcb.close).destroyConnection tcb.srcAddress tcb.dstAddress := by
  have outcome : tcb.closeConnection now =
      { tcb := tcb.close, effect := .destroyConnection tcb.srcAddress tcb.dstAddress } := by
    rw [TransmissionControlBlock.closeConnection]
    split
    · next established => exact absurd established state.1
    · next closeWait => exact absurd closeWait state.2
    · rfl
  rw [closeConnection, withTcb, found]
  simp only [outcome]
  rfl

theorem closeConnection_of_gone {stack : TcpStack} {socketId : UInt64}
    (gone : stack.socketTable.contains socketId = false) (now : Int) :
    stack.closeConnection socketId now = stack := by
  have none : stack.getTcb socketId = none := SocketTable.contains_eq_false_iff.mp gone
  rw [closeConnection, withTcb, none]

/-- Where the looked-up entry leads to the socket, exactly the socket is destroyed. -/
theorem destroyConnection_own {stack : TcpStack} {socketId : UInt64} {tcb : TransmissionControlBlock}
    (real : socketId ≠ 0) {remoteAddr localAddr : IPv4Address}
    (entry : stack.connectionTable.connections.lookup ⟨remoteAddr, localAddr⟩ = some socketId) :
    RemovedForGood stack ((stack.setTcb socketId tcb.close).destroyConnection remoteAddr localAddr)
      socketId tcb := by
  have done : (stack.setTcb socketId tcb.close).destroyConnection remoteAddr localAddr =
      { stack with
        connectionTable := (stack.connectionTable.erase remoteAddr localAddr).1
        socketTable := ((stack.socketTable.setSocket socketId tcb.close).destroySocket
          socketId).1 } := by
    simp only [destroyConnection, setTcb, ConnectionTable.destroyConnection, entry]
  have gone : ((stack.socketTable.setSocket socketId tcb.close).destroySocket
      socketId).1.contains socketId = false :=
    SocketTable.contains_eq_false_iff.mpr (SocketTable.findSocket_destroySocket _ _)
  rw [done]
  refine ⟨gone, ?_, ?_, ?_, ?_, fun port _ => rfl, ?_, fun now => closeConnection_of_gone gone now⟩
  · intro found
    have live := ((ListenerTable.find_eq_iff real).mp found).2
    rw [gone] at live
    cases live
  · intro found
    have live := ((ConnectionTable.find_eq_iff real).mp found).2
    rw [gone] at live
    cases live
  · intro port bound
    rw [ListenerTable.contains, bound]
    exact gone
  · intro other differ
    exact (SocketTable.findSocket_destroySocket_ne _ differ).trans
      (SocketTable.findSocket_setSocket_ne _ differ _)
  · intro key foreign
    have differ : key ≠ ⟨remoteAddr, localAddr⟩ := by
      rintro rfl
      exact foreign entry
    exact AList.lookup_erase_ne differ

/-- Where it does not, the socket stays in the table. -/
theorem destroyConnection_foreign {stack : TcpStack} {socketId : UInt64}
    (tcb : TransmissionControlBlock) (real : socketId ≠ 0) {remoteAddr localAddr : IPv4Address}
    (foreign : stack.connectionTable.connections.lookup ⟨remoteAddr, localAddr⟩ ≠ some socketId) :
    ((stack.setTcb socketId tcb).destroyConnection remoteAddr localAddr).getTcb socketId =
      some tcb := by
  simp only [getTcb, destroyConnection, setTcb, ConnectionTable.destroyConnection]
  cases entry : stack.connectionTable.connections.lookup ⟨remoteAddr, localAddr⟩ with
  | none => exact SocketTable.findSocket_setSocket _ real _
  | some other =>
    have differ : socketId ≠ other := fun same => foreign (by rw [entry, same])
    exact (SocketTable.findSocket_destroySocket_ne _ differ).trans
      (SocketTable.findSocket_setSocket _ real _)

end TcpStack

/-- For every stack and every live socket outside ESTABLISHED and CLOSE_WAIT, closing
removes it for good if and only if the connection table leads from the pair of its
local and its remote address, in this order, to the socket. -/
theorem removedForGood_iff (stack : TcpStack) (socketId : UInt64) (tcb : TransmissionControlBlock)
    (found : stack.getTcb socketId = some tcb)
    (state : tcb.currentState ≠ .established ∧ tcb.currentState ≠ .closeWait) (now : Int) :
    RemovedForGood stack (stack.closeConnection socketId now) socketId tcb ↔
      stack.connectionTable.connections.lookup ⟨tcb.srcAddress, tcb.dstAddress⟩ =
        some socketId := by
  have real := SocketTable.ne_zero_of_findSocket found
  rw [TcpStack.closeConnection_of_neither found state]
  constructor
  · intro removed
    by_contra foreign
    have kept := TcpStack.destroyConnection_foreign tcb.close real foreign
    have gone := removed.gone
    rw [SocketTable.contains_of_findSocket kept] at gone
    cases gone
  · exact TcpStack.destroyConnection_own real

/-- A socket connected to itself is found under its own pair in either order. -/
theorem removedForGood_sampleSelfConnected : ∃ tcb, sampleSelfConnected.getTcb 1 = some tcb ∧
    tcb.currentState = .closing ∧
    RemovedForGood sampleSelfConnected (sampleSelfConnected.closeConnection 1 0) 1 tcb := by
  have facts : ∀ tcb ∈ sampleSelfConnected.getTcb 1, tcb.currentState = .closing ∧
      sampleSelfConnected.connectionTable.connections.lookup ⟨tcb.srcAddress, tcb.dstAddress⟩ =
        some 1 := by decide
  obtain ⟨tcb, found⟩ := Option.isSome_iff_exists.mp
    (show (sampleSelfConnected.getTcb 1).isSome from by decide)
  obtain ⟨closing, entry⟩ := facts tcb found
  have state : tcb.currentState ≠ .established ∧ tcb.currentState ≠ .closeWait := by
    rw [closing]
    decide
  exact ⟨tcb, found, closing, (removedForGood_iff _ 1 tcb found state 0).mpr entry⟩

/-- A closed listener stays in the socket table, now in LAST_ACK. -/
theorem closed_listener_stays : ¬ ∀ (localAddress : UInt32) (events : List StackEvent)
    (socketId : UInt64) (tcb : TransmissionControlBlock) (now : Int),
    (run TcpStack.step (.new localAddress) events).getTcb socketId = some tcb →
    tcb.currentState ≠ .established ∧ tcb.currentState ≠ .closeWait →
    RemovedForGood (run TcpStack.step (.new localAddress) events)
      ((run TcpStack.step (.new localAddress) events).closeConnection socketId now)
      socketId tcb := by
  intro removes
  have listening : ∃ tcb, (run TcpStack.step (.new 0x0A000002)
      [.bind ⟨0x0A000002, 8080⟩ 0, .listen 1]).getTcb 1 = some tcb ∧
      tcb.currentState ≠ .established ∧ tcb.currentState ≠ .closeWait := by
    refine ⟨_, rfl, ?_, ?_⟩ <;> decide
  obtain ⟨tcb, found, state⟩ := listening
  exact absurd (removes _ _ _ _ 0 found state).gone (by decide)

end TinyCP
