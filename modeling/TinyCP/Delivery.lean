import TinyCP.HandlerSpecs

/-!
# What ESTABLISHED acknowledges

A payload is counted in `RCV.NXT` before it is written to the receive buffer, and
the number that `write` returns is not looked at. A FIN is handled before the
acknowledgment and the payload of its segment, and returns. So a payload is
acknowledged as far as it is stored when it fits, and a FIN is taken as it should
be when its segment has nothing else to say.
-/
namespace TinyCP
open SequenceSpace

namespace TransmissionControlBlock

/-- The count that `recv_buffer.write` returns, and nothing while the call waits. -/
def storedCount (tcb : TransmissionControlBlock) (payload : List UInt8) : Nat :=
  match tcb.recvBuffer.write payload with
  | some written => written.2
  | none => 0

/-- `RCV.NXT` and the acknowledgment sent advance by what was stored, and the daemon
does not wait in `recv_buffer.write`. -/
structure AcknowledgesStored (tcb : TransmissionControlBlock) (payload : List UInt8)
    (o : Outcome) : Prop where
  awake : o.waiting = none
  contents_eq : o.tcb.recvBuffer.contents =
    tcb.recvBuffer.contents ++ payload.take (tcb.storedCount payload)
  advance : (o.tcb.rcv.nxt - tcb.rcv.nxt).toNat = tcb.storedCount payload
  answer : ∀ packet ∈ o.out, packet.ackNum = o.tcb.rcv.nxt

theorem storedCount_of_room {tcb : TransmissionControlBlock} (payload : List UInt8)
    (room : tcb.recvBuffer.canWrite = true) :
    tcb.storedCount payload = min payload.length tcb.recvBuffer.availableCapacity := by
  rw [storedCount, BlockingBuffer.write, if_pos room]
  exact BlockingBuffer.store_count _ _

theorem storedCount_nil (tcb : TransmissionControlBlock) : tcb.storedCount [] = 0 := by
  by_cases room : tcb.recvBuffer.canWrite = true
  · rw [storedCount_of_room [] room]
    simp
  · rw [storedCount, BlockingBuffer.write, if_neg room]

theorem afterPayload_nxt (tcb : TransmissionControlBlock) (packet : Segment) :
    (tcb.afterPayload packet).rcv.nxt = tcb.rcv.nxt + UInt32.ofNat packet.payload.length := by
  change (tcb.afterAck packet).rcv.nxt + _ = _
  rw [afterAck_rcv]

theorem afterPayload_contents (tcb : TransmissionControlBlock) (packet : Segment) :
    (tcb.afterPayload packet).recvBuffer.contents = tcb.recvBuffer.contents ++
      packet.payload.take tcb.recvBuffer.availableCapacity := by
  change ((tcb.afterAck packet).recvBuffer.store packet.payload).1.contents = _
  rw [afterAck_recvBuffer, BlockingBuffer.contents_store]

theorem acknowledges_of_fits {tcb : TransmissionControlBlock} {packet : Segment}
    (notFin : packet.fin = false)
    (fits : packet.payload.length ≤ tcb.recvBuffer.availableCapacity) :
    AcknowledgesStored tcb packet.payload (tcb.handleEstablishedState packet) := by
  rcases tcb.handleEstablishedState_cases notFin with
    ⟨nothing, done⟩ | ⟨some, room, done⟩ | ⟨some, full, _⟩
  · rw [done, nothing]
    refine ⟨rfl, ?_, ?_, by simp⟩
    · rw [afterAck_recvBuffer, List.take_nil, List.append_nil]
    · rw [afterAck_rcv, UInt32.sub_self, storedCount_nil]
      rfl
  · have count : tcb.storedCount packet.payload = packet.payload.length := by
      rw [storedCount_of_room _ room, Nat.min_eq_left fits]
    have capacity := tcb.recvCapacity_eq
    rw [done]
    refine ⟨rfl, ?_, ?_, by simp [sendAck, sendControlPacket]⟩
    · rw [afterPayload_contents, count, List.take_of_length_le fits, List.take_length]
    · rw [afterPayload_nxt, count]
      exact distance_add _ (by omega)
  · rw [BlockingBuffer.canWrite_of_fits some fits] at full
    cases full

/-- Conversely the count differs by what `write` has cut off. -/
theorem fits_of_acknowledges {tcb : TransmissionControlBlock} {packet : Segment}
    (notFin : packet.fin = false) (short : packet.payload.length < 65536)
    (stored : AcknowledgesStored tcb packet.payload (tcb.handleEstablishedState packet)) :
    packet.payload.length ≤ tcb.recvBuffer.availableCapacity := by
  rcases tcb.handleEstablishedState_cases notFin with
    ⟨nothing, _⟩ | ⟨_, room, done⟩ | ⟨_, _, done⟩
  · rw [nothing]
    exact Nat.zero_le _
  · have advance := stored.advance
    rw [done, afterPayload_nxt, storedCount_of_room _ room, distance_add _ (by omega)] at advance
    omega
  · have awake := stored.awake
    rw [done] at awake
    cases awake

/-- Only stored bytes are acknowledged exactly when the payload fits. The bound on its
length is that of every datagram. -/
theorem handleEstablishedState_acknowledges_iff (tcb : TransmissionControlBlock)
    (packet : Segment) (notFin : packet.fin = false) (short : packet.payload.length < 65536) :
    AcknowledgesStored tcb packet.payload (tcb.handleEstablishedState packet) ↔
      packet.payload.length ≤ tcb.recvBuffer.availableCapacity :=
  ⟨fits_of_acknowledges notFin short, acknowledges_of_fits notFin⟩

theorem sampleTcb_acknowledges_stored :
    (sampleSegment 0 0 65535 [1, 2]).payload.length ≤ sampleTcb.recvBuffer.availableCapacity ∧
    AcknowledgesStored sampleTcb [1, 2]
      (sampleTcb.handleEstablishedState (sampleSegment 0 0 65535 [1, 2])) :=
  ⟨by decide, (handleEstablishedState_acknowledges_iff sampleTcb (sampleSegment 0 0 65535 [1, 2])
    rfl (by decide)).mpr (by decide)⟩

/-- An established block with a single free cell in its receive buffer. -/
def nearlyFull : TransmissionControlBlock :=
  { sampleTcb with
    recvBuffer := {
      isForcefullyWokenUp := false
      readPos := 0
      writePos := 65534
      currLen := 65534
      buffer := fun _ => 0
      readPos_lt := Nat.zero_lt_succ _
      currLen_le := Nat.le_succ _
      writePos_eq := rfl } }

/-- Of two bytes one is stored and both are acknowledged. -/
theorem nearlyFull_acknowledges_cut :
    nearlyFull.currentState = .established ∧
    ¬ AcknowledgesStored nearlyFull [1, 2]
      (nearlyFull.handleEstablishedState (sampleSegment 0 0 65535 [1, 2])) := by
  refine ⟨rfl, ?_⟩
  intro stored
  have fits : 2 ≤ 1 :=
    @fits_of_acknowledges nearlyFull (sampleSegment 0 0 65535 [1, 2]) rfl (by decide) stored
  omega

/-- What ESTABLISHED has to make of a segment with FIN: the payload of one in sequence
is stored ahead of the end of file and counted, and its acknowledgment is taken as
that of a segment without FIN; one ahead of `RCV.NXT` has to wait. -/
structure DeliversFin (tcb : TransmissionControlBlock) (packet : Segment) (o : Outcome) :
    Prop where
  stored : packet.seqNum = tcb.rcv.nxt →
    packet.payload.length ≤ tcb.recvBuffer.availableCapacity →
    o.tcb.recvBuffer.contents = tcb.recvBuffer.contents ++ packet.payload
  endOfFile : packet.seqNum = tcb.rcv.nxt →
    packet.payload.length ≤ tcb.recvBuffer.availableCapacity →
    o.tcb.recvBuffer.isForcefullyWokenUp = true ∧
    ∀ len after, 0 < len → o.tcb.recv len = some (after, []) →
      tcb.recvBuffer.contents ++ packet.payload = []
  counted : packet.seqNum = tcb.rcv.nxt →
    packet.payload.length ≤ tcb.recvBuffer.availableCapacity →
    o.tcb.rcv.nxt = packet.seqNum + UInt32.ofNat packet.payload.length + 1 ∧
    ∃ answer, o.out = [answer] ∧ answer.ack = true ∧ answer.ackNum = o.tcb.rcv.nxt
  acknowledged : packet.seqNum = tcb.rcv.nxt →
    packet.payload.length ≤ tcb.recvBuffer.availableCapacity →
    packet.ack = true → (packet.ackNum - tcb.snd.una).toNat ≤ tcb.inFlight.toNat →
    o.tcb.snd.una = (tcb.handleEstablishedState { packet with fin := false }).tcb.snd.una ∧
    o.tcb.sendBuffer = (tcb.handleEstablishedState { packet with fin := false }).tcb.sendBuffer
  waits : 0 < (packet.seqNum - tcb.rcv.nxt).toInt32 →
    o.tcb.rcv.nxt = tcb.rcv.nxt ∧ o.tcb.currentState = tcb.currentState

/-- The segment acknowledges bytes that are in flight. -/
def AcksInFlight (tcb : TransmissionControlBlock) (packet : Segment) : Prop :=
  packet.ack = true ∧ (packet.ackNum - tcb.snd.una).toNat ≤ tcb.inFlight.toNat ∧
    0 < (packet.ackNum - tcb.snd.una).toInt32

/-- A FIN that is not ahead, and one in sequence that neither carries data for which
there is room nor acknowledges any. -/
def BareFin (tcb : TransmissionControlBlock) (packet : Segment) : Prop :=
  ¬ 0 < (packet.seqNum - tcb.rcv.nxt).toInt32 ∧
  (packet.seqNum = tcb.rcv.nxt → packet.payload.length ≤ tcb.recvBuffer.availableCapacity →
    packet.payload = [] ∧ ¬ AcksInFlight tcb packet)

theorem handleEstablishedState_of_fin (tcb : TransmissionControlBlock) {packet : Segment}
    (fin : packet.fin = true) :
    let o := tcb.handleEstablishedState packet
    o.tcb.recvBuffer = tcb.recvBuffer.forceWakeUp ∧ o.tcb.sendBuffer = tcb.sendBuffer ∧
    o.tcb.snd.una = tcb.snd.una ∧ o.tcb.rcv.nxt = packet.seqNum + 1 ∧
    o.tcb.currentState = .closeWait ∧
    ∃ answer, o.out = [answer] ∧ answer.ack = true ∧ answer.ackNum = packet.seqNum + 1 := by
  simp only [handleEstablishedState, fin, if_true, receiveFin]
  split_ifs <;> exact ⟨rfl, rfl, rfl, rfl, rfl, _, rfl, rfl, rfl⟩

/-- What the same segment does without its FIN to the sending side. -/
theorem handleEstablishedState_without_fin (tcb : TransmissionControlBlock) (packet : Segment) :
    (tcb.handleEstablishedState { packet with fin := false }).tcb.snd.una =
      (tcb.afterAck packet).snd.una ∧
    (tcb.handleEstablishedState { packet with fin := false }).tcb.sendBuffer =
      (tcb.afterAck packet).sendBuffer := by
  obtain ⟨snd, buffer, _⟩ :=
    @handleEstablishedState_sendSide tcb { packet with fin := false } rfl
  exact ⟨by rw [snd]; rfl, buffer⟩

theorem deliversFin_of_bare {tcb : TransmissionControlBlock} {packet : Segment}
    (fin : packet.fin = true) (bare : BareFin tcb packet) :
    DeliversFin tcb packet (tcb.handleEstablishedState packet) := by
  obtain ⟨received, send, una, nxt, _, answer, out, hack, ackNum⟩ :=
    tcb.handleEstablishedState_of_fin fin
  obtain ⟨plainUna, plainBuffer⟩ := tcb.handleEstablishedState_without_fin packet
  refine ⟨?_, ?_, ?_, ?_, fun ahead => absurd ahead bare.1⟩
  · intro inOrder fits
    rw [received, (bare.2 inOrder fits).1, List.append_nil]
    rfl
  · intro inOrder fits
    refine ⟨by rw [received]; rfl, ?_⟩
    intro len after positive read
    rw [(bare.2 inOrder fits).1, List.append_nil]
    rw [recv, received, BlockingBuffer.read] at read
    rw [if_pos (by simp [BlockingBuffer.forceWakeUp]), Option.map_some, Option.some.injEq,
      Prod.mk.injEq, BlockingBuffer.fetch_bytes] at read
    rcases List.take_eq_nil_iff.mp read.2 with zero | nothing
    · omega
    · exact nothing
  · intro inOrder fits
    rw [nxt, (bare.2 inOrder fits).1]
    exact ⟨by simp, answer, out, hack, ackNum⟩
  · intro inOrder fits hack acceptable
    have old : ¬ 0 < (packet.ackNum - tcb.snd.una).toInt32 :=
      fun ahead => (bare.2 inOrder fits).2 ⟨hack, acceptable, ahead⟩
    obtain ⟨sameUna, sameBuffer⟩ := afterAck_of_not_ahead (fun _ => old)
    rw [plainUna, plainBuffer, sameUna, sameBuffer]
    exact ⟨una, send⟩

/-- Data or an acknowledgment on the FIN is lost, and a FIN ahead is taken at once. -/
theorem bare_of_deliversFin {tcb : TransmissionControlBlock} {packet : Segment}
    (established : tcb.currentState = .established) (fin : packet.fin = true)
    (delivers : DeliversFin tcb packet (tcb.handleEstablishedState packet)) :
    BareFin tcb packet := by
  obtain ⟨received, _, una, _, state, _⟩ := tcb.handleEstablishedState_of_fin fin
  refine ⟨?_, ?_⟩
  · intro ahead
    have kept := (delivers.waits ahead).2
    rw [state, established] at kept
    cases kept
  · intro inOrder fits
    refine ⟨?_, ?_⟩
    · have contents := delivers.stored inOrder fits
      rw [received, BlockingBuffer.contents_forceWakeUp] at contents
      exact List.append_right_eq_self.mp contents.symm
    · rintro ⟨hack, acceptable, ahead⟩
      have same := (delivers.acknowledged inOrder fits hack acceptable).1
      rw [una, (tcb.handleEstablishedState_without_fin packet).1,
        (afterAck_of_ahead hack ahead).1] at same
      rw [same, UInt32.sub_self] at ahead
      exact absurd ahead (by decide)

/-- A FIN is delivered as it should be exactly when it stands alone and is not ahead. -/
theorem handleEstablishedState_deliversFin_iff (tcb : TransmissionControlBlock)
    (packet : Segment) (established : tcb.currentState = .established)
    (fin : packet.fin = true) :
    DeliversFin tcb packet (tcb.handleEstablishedState packet) ↔ BareFin tcb packet :=
  ⟨bare_of_deliversFin established fin, deliversFin_of_bare fin⟩

theorem sampleTcb_delivers_bare_fin :
    DeliversFin sampleTcb { sampleSegment 0 0 65535 [] with fin := true }
      (sampleTcb.handleEstablishedState { sampleSegment 0 0 65535 [] with fin := true }) := by
  refine (handleEstablishedState_deliversFin_iff sampleTcb
    { sampleSegment 0 0 65535 [] with fin := true } rfl rfl).mpr ⟨by decide, ?_⟩
  intro _ _
  exact ⟨rfl, fun acks => absurd acks.2.2 (by decide)⟩

/-- The last byte of a server that closes after it is lost. -/
theorem sampleTcb_loses_data_on_fin :
    ¬ DeliversFin sampleTcb { sampleSegment 0 0 65535 [7] with fin := true }
      (sampleTcb.handleEstablishedState { sampleSegment 0 0 65535 [7] with fin := true }) := by
  intro delivers
  have bare := bare_of_deliversFin rfl rfl delivers
  have nothing : [(7 : UInt8)] = [] := (bare.2 rfl (by decide)).1
  cases nothing

end TransmissionControlBlock
end TinyCP
