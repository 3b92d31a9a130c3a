import TinyCP.HandshakeSides
import TinyCP.Lifecycle
import TinyCP.Routing

/-!
# What one block does to the connection of another

A block writes segments between its own two addresses only, and asks the tables only for
the two entries made of these addresses. So a connection whose addresses no other socket
has is left alone by all other sockets: its entry stays, its socket lives on, and nothing
is added to the segments under way between its two addresses.
-/
namespace TinyCP
open EventRun

namespace TransmissionControlBlock

/-- The outcome stays within the addresses of its block. -/
structure Own (tcb : TransmissionControlBlock) (o : Outcome) : Prop where
  key : o.tcb.connectionKey = tcb.connectionKey
  out : ∀ packet ∈ o.out, packet.src = tcb.srcAddress ∧ packet.dst = tcb.dstAddress
  effect : o.effect = .none ∨ o.effect = .pushAccepted ∨ o.effect = .abort tcb.dstAddress ∨
    o.effect = .destroyConnection tcb.srcAddress tcb.dstAddress

theorem Confined.own {tcb : TransmissionControlBlock} {o : Outcome} (h : Confined tcb o) :
    Own tcb o :=
  ⟨h.connectionKey, h.out, Or.inl h.plain⟩

theorem sendControlPacket_own (tcb : TransmissionControlBlock) (syn ack rst fin : Bool)
    (seqNum ackNum : UInt32) :
    (tcb.sendControlPacket syn ack rst fin seqNum ackNum).src = tcb.srcAddress ∧
    (tcb.sendControlPacket syn ack rst fin seqNum ackNum).dst = tcb.dstAddress :=
  ⟨rfl, rfl⟩

theorem storePayload_own (tcb : TransmissionControlBlock) (payload : List UInt8) :
    Own tcb (tcb.storePayload payload) := by
  rcases tcb.storePayload_cases payload with ⟨_, done⟩ | ⟨_, done⟩
  · rw [done]
    exact ⟨rfl, by simp [stored, sendAck, sendControlPacket], Or.inl rfl⟩
  · rw [done]
    exact ⟨rfl, by simp, Or.inl rfl⟩

theorem closeConnection_own (tcb : TransmissionControlBlock) (now : Int) :
    Own tcb (tcb.closeConnection now) := by
  have flushed := tcb.processBlock_confined now
  have closing : ∀ state, Own tcb (tcb.closeWithFin now state) := by
    intro state
    refine ⟨flushed.connectionKey, ?_, Or.inl rfl⟩
    intro packet hmem
    rcases List.mem_append.mp hmem with sent | fin
    · exact flushed.out packet sent
    · rw [List.mem_singleton.mp fin]
      exact ⟨flushed.src_eq, flushed.dst_eq⟩
  rw [closeConnection]
  split
  · exact closing _
  · exact closing _
  · exact ⟨rfl, by simp, Or.inr (Or.inr (Or.inr rfl))⟩

end TransmissionControlBlock

theorem handleClosedResetResponse_own {packet answer : Segment}
    (sent : answer ∈ handleClosedResetResponse packet) :
    answer.src = packet.dst ∧ answer.dst = packet.src := by
  obtain ⟨_, _, _, rfl⟩ := Handshake.mem_handleClosedResetResponse sent
  exact ⟨rfl, rfl⟩

namespace TransmissionControlBlock

theorem handleEstablishedState_own (tcb : TransmissionControlBlock) (packet : Segment) :
    (tcb.handleEstablishedState packet).effect = .none ∧
    ∀ answer ∈ (tcb.handleEstablishedState packet).out,
      answer.src = tcb.srcAddress ∧ answer.dst = tcb.dstAddress := by
  cases fin : packet.fin with
  | true =>
    rw [handleEstablishedState, if_pos fin]
    refine ⟨rfl, ?_⟩
    intro answer hmem
    rw [receiveFin, List.mem_singleton] at hmem
    rw [hmem]
    split_ifs <;> exact ⟨rfl, rfl⟩
  | false =>
    have same := tcb.afterAck_addresses packet
    rcases tcb.handleEstablishedState_cases fin with ⟨_, done⟩ | ⟨_, _, done⟩ | ⟨_, _, done⟩
    · rw [done]
      exact ⟨rfl, by simp⟩
    · rw [done]
      refine ⟨rfl, ?_⟩
      intro answer hmem
      rw [List.mem_singleton.mp hmem]
      exact same
    · rw [done]
      exact ⟨rfl, by simp⟩

/-- A segment between the two addresses of the block is answered between them. -/
theorem receive_own {tcb : TransmissionControlBlock} {packet : Segment}
    (between : tcb.connectionKey = ⟨packet.src, packet.dst⟩) : Own tcb (tcb.receive packet) := by
  obtain ⟨remote, here⟩ := ConnectionKey.mk.inj between
  refine ⟨(tcb.receive_keeps packet).1, ?_, ?_⟩
  · intro answer hmem
    rw [receive] at hmem
    split at hmem
    · obtain ⟨src, dst⟩ := handleClosedResetResponse_own hmem
      exact ⟨src.trans here.symm, dst.trans remote.symm⟩
    · cases hmem
    · rw [handleSynSentState] at hmem
      split_ifs at hmem <;> simp_all [sendControlPacket, sendAck]
    · rw [handleSynReceivedState] at hmem
      split_ifs at hmem <;> simp_all [sendControlPacket, sendAck]
    · exact (tcb.handleEstablishedState_own packet).2 answer hmem
    · rw [handleFinWait1State] at hmem
      split_ifs at hmem <;> simp_all [sendControlPacket, sendAck, closedBy]
    · rw [handleFinWait2State] at hmem
      split_ifs at hmem <;> simp_all [sendControlPacket, sendAck, closedBy]
    · rw [handleClosingState, awaitFinalAck] at hmem
      split_ifs at hmem <;> simp_all [closedBy]
    · rw [handleLastAckState, awaitFinalAck] at hmem
      split_ifs at hmem <;> simp_all [closedBy]
    · cases hmem
    · cases hmem
  · rw [receive]
    split
    · exact Or.inl rfl
    · exact Or.inl rfl
    · rw [handleSynSentState]
      split_ifs <;> exact Or.inl rfl
    · rw [handleSynReceivedState, remote]
      split_ifs <;> simp
    · exact Or.inl (tcb.handleEstablishedState_own packet).1
    · rw [handleFinWait1State]
      split_ifs <;> simp [closedBy]
    · rw [handleFinWait2State]
      split_ifs <;> simp [closedBy]
    · rw [handleClosingState, awaitFinalAck]
      split_ifs <;> simp [closedBy]
    · rw [handleLastAckState, awaitFinalAck]
      split_ifs <;> simp [closedBy]
    · exact Or.inl rfl
    · exact Or.inl rfl

end TransmissionControlBlock

def ConnectionKey.swap (key : ConnectionKey) : ConnectionKey where
  srcAddress := key.dstAddress
  dstAddress := key.srcAddress

namespace TcpStack
open TransmissionControlBlock

/-- The entry leads to this socket, and no other one has its addresses. -/
structure Owns (key : ConnectionKey) (id : UInt64) (stack : TcpStack) : Prop where
  entry : stack.connectionTable.connections.lookup key = some id
  only : ∀ other tcb, stack.getTcb other = some tcb → tcb.connectionKey = key → other = id

namespace Owns
variable {key : ConnectionKey} {id other : UInt64} {stack : TcpStack}
variable {tcb : TransmissionControlBlock} {o : Outcome}

theorem keeps {next : TcpStack} (h : Owns key id stack) (keeps : KeepsRoutes stack next)
    (entry : next.connectionTable.connections.lookup key = some id) : Owns key id next := by
  refine ⟨entry, fun other tcb found same => ?_⟩
  obtain ⟨old, before, kept⟩ := keeps.sockets other tcb found
  exact h.only other old before (kept.symm.trans same)

/-- Another socket is given a route of its own. -/
theorem gives {next : TcpStack} {route : ConnectionKey} (h : Owns key id stack)
    (gives : GivesRoute stack next other route) (apart : route ≠ key) : Owns key id next := by
  refine ⟨(gives.kept key apart.symm).trans h.entry, fun socketId tcb found same => ?_⟩
  by_cases own : socketId = other
  · rw [own] at found
    obtain ⟨block, there, routed⟩ := gives.own (SocketTable.ne_zero_of_findSocket found)
    rw [there, Option.some.injEq] at found
    exact absurd (routed.symm.trans ((congrArg connectionKey found).trans same)) apart
  · obtain ⟨old, before, kept⟩ := gives.sockets socketId tcb own found
    exact h.only socketId old before (kept.symm.trans same)

/-- What another block asks of the tables is not about this entry. -/
theorem perform (h : Owns key id stack) (found : stack.getTcb other = some tcb)
    (own : Own tcb o) (apart : other ≠ id) (away : tcb.connectionKey ≠ key.swap) :
    Owns key id (stack.perform other o) := by
  refine h.keeps (perform_keepsRoutes fun _ => ⟨tcb, found, own.key⟩) ?_
  have elsewhere : tcb.connectionKey ≠ key := fun same => apart (h.only other tcb found same)
  rcases own.effect with plain | pushed | aborted | destroyed
  · rw [(stack.perform_of_plain other plain).2]
    exact h.entry
  · rw [perform_eq, pushed, applyEffect_frame, carriedOut_eq]
    simp only [applyEffect]
    split <;> exact h.entry
  · have erased : (stack.perform other o).connectionTable.connections =
        stack.connectionTable.connections.erase ⟨tcb.dstAddress, o.tcb.srcAddress⟩ := by
      rw [perform_eq, aborted, carriedOut_eq]
      rfl
    have same : o.tcb.srcAddress = tcb.srcAddress := (ConnectionKey.mk.inj own.key).2
    rw [erased, same]
    exact (AList.lookup_erase_ne (Ne.symm elsewhere)).trans h.entry
  · rw [(stack.perform_destroyConnection other destroyed).1, ConnectionTable.destroyConnection]
    split
    · have differ : key ≠ ⟨tcb.srcAddress, tcb.dstAddress⟩ := by
        rintro rfl
        exact away rfl
      exact (AList.lookup_erase_ne differ).trans h.entry
    · exact h.entry

/-- Nor is it about the socket itself. -/
theorem survives (h : Owns key id stack) (routed : Routed stack)
    {block : TransmissionControlBlock} (live : stack.getTcb id = some block)
    (own : Own tcb o) (apart : other ≠ id)
    (away : tcb.connectionKey ≠ key.swap) : ((stack.perform other o).getTcb id).isSome := by
  have unset : (stack.socketTable.setSocket other o.tcb).findSocket id = some block :=
    (SocketTable.findSocket_setSocket_ne _ apart.symm _).trans live
  rcases own.effect with plain | pushed | aborted | destroyed
  · rw [getTcb, (stack.perform_of_plain other plain).1, unset]
    rfl
  · rw [perform_eq, pushed, carriedOut_eq]
    simp only [applyEffect, getTcb]
    split
    · next listener _ =>
      rw [TcpStack.setTcb, ← SocketTable.contains_eq_isSome, SocketTable.contains,
        if_neg (SocketTable.ne_zero_of_findSocket live)]
      obtain ⟨_, entry⟩ := SocketTable.findSocket_eq_some_iff.mp unset
      by_cases listed : id = stack.listenerTable.find
          (stack.socketTable.setSocket other o.tcb) o.tcb.srcAddress.port
      · rw [← listed]
        exact congrArg Option.isSome (AList.lookup_insert _)
      · exact congrArg Option.isSome ((AList.lookup_insert_ne listed).trans entry)
    · rw [unset]
      rfl
  · have gone : (stack.perform other o).socketTable =
        ((stack.socketTable.setSocket other o.tcb).destroySocket other).1 := by
      rw [perform_eq, aborted, carriedOut_eq]
      rfl
    rw [getTcb, gone, SocketTable.findSocket_destroySocket_ne _ apart.symm, unset]
    rfl
  · rw [getTcb, (stack.perform_destroyConnection other destroyed).2,
      ConnectionTable.destroyConnection]
    split
    · next victim entry =>
      have spared : id ≠ victim := by
        rintro rfl
        have here := routed _ _ block h.entry live
        have there := routed _ _ block entry live
        exact away (by rw [← here, there]; rfl)
      rw [SocketTable.findSocket_destroySocket_ne _ spared, unset]
      rfl
    · rw [unset]
      rfl

end Owns
end TcpStack
end TinyCP
