import TinyCP.Endpoint

/-!
# The sending side of an open connection

What one step can do to the send variables, the send buffer and the data on the
wire is said once, as an inductive relation. The alignment invariant relates the
32-bit variables to counts into the unbounded stream of accepted bytes: the send
buffer is the stream from the acknowledged count on, and every data segment ever
emitted is a slice of the stream at its own sequence number.
-/
namespace TinyCP
open SequenceSpace EventRun

namespace Endpoint

/-- What one step of an open connection does on the sending side. -/
inductive SendMove (e : Endpoint) (action : Action) (e' : Endpoint) : Prop where
  | idle (una : e'.tcb.snd.una = e.tcb.snd.una) (nxt : e'.tcb.snd.nxt = e.tcb.snd.nxt)
      (buffer : e'.tcb.sendBuffer = e.tcb.sendBuffer) (accepted : e'.accepted = e.accepted)
      (out : List Segment) (emitted : e'.emitted = e.emitted ++ out)
      (noData : ∀ packet ∈ out, packet.payload = [])
  | accept (more : List UInt8) (una : e'.tcb.snd.una = e.tcb.snd.una)
      (nxt : e'.tcb.snd.nxt = e.tcb.snd.nxt)
      (buffer : e'.tcb.sendBuffer.contents = e.tcb.sendBuffer.contents ++ more)
      (accepted : e'.accepted = e.accepted ++ more) (emitted : e'.emitted = e.emitted)
  | transmit (una : e'.tcb.snd.una = e.tcb.snd.una)
      (nxt : e'.tcb.snd.nxt = e.tcb.snd.nxt + UInt32.ofNat e.tcb.nextData.length)
      (buffer : e'.tcb.sendBuffer = e.tcb.sendBuffer) (accepted : e'.accepted = e.accepted)
      (emitted : e'.emitted =
        e.emitted ++ [e.tcb.createWriterTcpPacket e.tcb.nextData e.tcb.snd.nxt])
      (some : e.tcb.nextData ≠ [])
  | retransmit (una : e'.tcb.snd.una = e.tcb.snd.una) (nxt : e'.tcb.snd.nxt = e.tcb.snd.nxt)
      (buffer : e'.tcb.sendBuffer = e.tcb.sendBuffer) (accepted : e'.accepted = e.accepted)
      (emitted : e'.emitted =
        e.emitted ++ [e.tcb.createWriterTcpPacket e.tcb.oldestData e.tcb.snd.una])
  | acknowledge (packet : Segment) (received : action = .receive packet)
      (awake : e.waiting = none) (hack : packet.ack = true)
      (ahead : 0 < (packet.ackNum - e.tcb.snd.una).toInt32)
      (una : e'.tcb.snd.una = packet.ackNum) (nxt : e'.tcb.snd.nxt = e.tcb.snd.nxt)
      (buffer : e'.tcb.sendBuffer =
        (e.tcb.sendBuffer.discard (packet.ackNum - e.tcb.snd.una).toNat).1)
      (accepted : e'.accepted = e.accepted)
      (out : List Segment) (emitted : e'.emitted = e.emitted ++ out)
      (noData : ∀ packet ∈ out, packet.payload = [])

theorem SendMove.stay (e : Endpoint) (action : Action) : SendMove e action e :=
  .idle rfl rfl rfl rfl [] (List.append_nil _).symm (by simp)

theorem sendMove_processBlock {e : Endpoint} (action : Action)
    (established : e.tcb.currentState = .established) (dirty : Nat) (now : Int) :
    SendMove e action ({ e with dirty := dirty }.perform (e.tcb.processBlock now)).1 := by
  have sends : TransmissionControlBlock.TransmitsData e.tcb.currentState = true := by
    rw [established]; rfl
  rw [TransmissionControlBlock.processBlock_of_transmits sends]
  by_cases nothing : e.tcb.nextData = []
  · rw [if_pos nothing, TransmissionControlBlock.transmitted_of_nil nothing]
    exact .idle rfl rfl rfl rfl [] rfl (by simp)
  · rw [if_neg nothing]
    exact .transmit rfl rfl rfl rfl rfl nothing

theorem sendMove_checkRetransmission (e : Endpoint) (action : Action) (now : Int) :
    SendMove e action (e.perform (e.tcb.checkRetransmission now)).1 := by
  rcases e.tcb.checkRetransmission_cases now with same | ⟨_, _, _, sent⟩
  · rw [same]
    exact .idle rfl rfl rfl rfl [] rfl (by simp)
  · rw [sent]
    exact .retransmit rfl rfl rfl rfl rfl

theorem receive_established {tcb : TransmissionControlBlock}
    (established : tcb.currentState = .established) (packet : Segment) :
    tcb.receive packet = tcb.handleEstablishedState packet := by
  rw [TransmissionControlBlock.receive, established]

theorem step_receive_awake {e : Endpoint} (awake : e.waiting = none)
    (established : e.tcb.currentState = .established) (packet : Segment) :
    e.step (.receive packet) = (e.perform (e.tcb.handleEstablishedState packet)).1 := by
  simp [step, act, daemon, awake, receive_established established]

theorem sendMove_receive {e : Endpoint} {packet : Segment} (notFin : packet.fin = false)
    (established : e.tcb.currentState = .established) (awake : e.waiting = none) :
    SendMove e (.receive packet) (e.perform (e.tcb.receive packet)).1 := by
  obtain ⟨snd, buffer, _, answers⟩ := e.tcb.handleEstablishedState_sendSide notFin
  have nxt := e.tcb.afterAck_nxt packet
  rw [receive_established established]
  by_cases ahead : packet.ack = true ∧ 0 < (packet.ackNum - e.tcb.snd.una).toInt32
  · obtain ⟨una, discarded⟩ := TransmissionControlBlock.afterAck_of_ahead ahead.1 ahead.2
    exact .acknowledge packet rfl awake ahead.1 ahead.2 ((congrArg SendSequence.una snd).trans una)
      ((congrArg SendSequence.nxt snd).trans nxt) (buffer.trans discarded) rfl _ rfl answers
  · obtain ⟨una, kept⟩ := TransmissionControlBlock.afterAck_of_not_ahead
      (fun hack hpos => ahead ⟨hack, hpos⟩)
    exact .idle ((congrArg SendSequence.una snd).trans una)
      ((congrArg SendSequence.nxt snd).trans nxt) (buffer.trans kept) rfl _ rfl answers

theorem sendMove_storePayload (e : Endpoint) (action : Action) (payload : List UInt8) :
    SendMove e action ({ e with waiting := none }.perform (e.tcb.storePayload payload)).1 := by
  rcases e.tcb.storePayload_cases payload with ⟨_, done⟩ | ⟨_, blocked⟩
  · rw [done]
    exact .idle rfl rfl rfl rfl _ rfl
      (by simp [TransmissionControlBlock.sendAck, TransmissionControlBlock.sendControlPacket])
  · rw [blocked]
    exact .idle rfl rfl rfl rfl [] rfl (by simp)

/-- The sending side of every step, whatever the daemon thread is doing. -/
theorem step_sendMove {e : Endpoint} {action : Action} (isOpen : Open action)
    (established : e.tcb.currentState = .established) : SendMove e action (e.step action) := by
  have done := e.act_done action
  rw [step]
  generalize e.act action = result at done ⊢
  cases done with
  | stay => exact .stay e _
  | send data _ =>
    exact .accept _ rfl rfl (BlockingBuffer.contents_store _ _) rfl rfl
  | recv len _ => exact .idle rfl rfl rfl rfl [] (List.append_nil _).symm (by simp)
  | processBlock now _ => exact sendMove_processBlock _ established e.dirty now
  | processDirty now _ _ => exact sendMove_processBlock _ established (e.dirty - 1) now
  | checkRetransmissions now _ => exact sendMove_checkRetransmission e _ now
  | receive packet awake => exact sendMove_receive isOpen established awake
  | resumeWrite payload _ => exact sendMove_storePayload e _ payload
  | close now => exact False.elim isOpen

theorem step_established {e : Endpoint} {action : Action} (isOpen : Open action)
    (established : e.tcb.currentState = .established) :
    (e.step action).tcb.currentState = .established := by
  have done := e.act_done action
  rw [step]
  generalize e.act action = result at done ⊢
  cases done with
  | stay => exact established
  | send data _ => exact established
  | recv len _ => exact established
  | processBlock now _ => exact (e.tcb.processBlock_currentState now).trans established
  | processDirty now _ _ => exact (e.tcb.processBlock_currentState now).trans established
  | checkRetransmissions now _ =>
    exact (e.tcb.checkRetransmission_currentState now).trans established
  | receive packet _ =>
    rw [receive_established established]
    exact (e.tcb.handleEstablishedState_sendSide isOpen).2.2.1.trans established
  | resumeWrite payload _ =>
    rcases e.tcb.storePayload_cases payload with ⟨_, stored⟩ | ⟨_, blocked⟩
    · rw [stored]; exact established
    · rw [blocked]; exact established
  | close now => exact False.elim isOpen

end Endpoint

/-- Counts into the accepted stream stand behind the 32-bit send variables. -/
structure SendAligned (start : UInt32) (stream : List UInt8) (una nxt : Nat)
    (tcb : TransmissionControlBlock) : Prop where
  una_eq : tcb.snd.una = seqAt start una
  nxt_eq : tcb.snd.nxt = seqAt start nxt
  una_le : una ≤ nxt
  nxt_le : nxt ≤ stream.length
  contents_eq : tcb.sendBuffer.contents = stream.drop una

/-- The segment carries the stream's bytes at the offset its sequence number names. -/
def CarriesAt (start : UInt32) (stream : List UInt8) (offset : Nat) (packet : Segment) : Prop :=
  packet.seqNum = seqAt start offset ∧ packet.payload <+: stream.drop offset

theorem CarriesAt.extend {start : UInt32} {stream : List UInt8} {offset : Nat} {packet : Segment}
    (carries : CarriesAt start stream offset packet) (more : List UInt8) :
    CarriesAt start (stream ++ more) offset packet := by
  refine ⟨carries.1, carries.2.trans ?_⟩
  rw [List.drop_append]
  exact List.prefix_append _ _

theorem CarriesAt.bound {start : UInt32} {stream : List UInt8} {offset : Nat} {packet : Segment}
    (carries : CarriesAt start stream offset packet) (data : packet.payload ≠ []) :
    offset + packet.payload.length ≤ stream.length := by
  have hle := carries.2.length_le
  have hpos := List.length_pos_iff.mpr data
  rw [List.length_drop] at hle
  omega

theorem CarriesAt.byte {start : UInt32} {stream : List UInt8} {offset : Nat} {packet : Segment}
    (carries : CarriesAt start stream offset packet) {i : Nat} (hi : i < packet.payload.length) :
    packet.payload[i]? = stream[offset + i]? := by
  obtain ⟨rest, hrest⟩ := carries.2
  have same : stream[offset + i]? = (stream.drop offset)[i]? := (List.getElem?_drop).symm
  rw [same, ← hrest, List.getElem?_append_left hi]

namespace SendAligned
variable {start : UInt32} {stream : List UInt8} {una nxt : Nat} {tcb : TransmissionControlBlock}

theorem size_eq (h : SendAligned start stream una nxt tcb) :
    tcb.sendBuffer.size = stream.length - una := by
  rw [← BlockingBuffer.length_contents, h.contents_eq, List.length_drop]

theorem span (h : SendAligned start stream una nxt tcb) : stream.length - una ≤ 65535 :=
  h.size_eq ▸ tcb.sendSize_le

theorem inFlight_toNat (h : SendAligned start stream una nxt tcb) :
    tcb.inFlight.toNat = nxt - una := by
  have hspan := h.span
  have hnxt := h.nxt_le
  have huna := h.una_le
  rw [TransmissionControlBlock.inFlight, h.una_eq, h.nxt_eq, distance_seqAt start huna (by omega)]

theorem inFlight_le (h : SendAligned start stream una nxt tcb) :
    tcb.inFlight.toNat ≤ tcb.sendBuffer.size := by
  rw [h.inFlight_toNat, h.size_eq]
  exact Nat.sub_le_sub_right h.nxt_le una

theorem nextData_eq (h : SendAligned start stream una nxt tcb) : tcb.nextData =
    (stream.drop nxt).take (min (tcb.snd.wnd.toNat - (nxt - una)) 1460) := by
  rw [TransmissionControlBlock.nextData, h.contents_eq, List.drop_drop, h.inFlight_toNat,
    Nat.add_sub_of_le h.una_le]

theorem nextData_carries (h : SendAligned start stream una nxt tcb) :
    CarriesAt start stream nxt (tcb.createWriterTcpPacket tcb.nextData tcb.snd.nxt) := by
  refine ⟨h.nxt_eq, ?_⟩
  change tcb.nextData <+: stream.drop nxt
  rw [h.nextData_eq]
  exact List.take_prefix _ _

theorem oldestData_carries (h : SendAligned start stream una nxt tcb) :
    CarriesAt start stream una (tcb.createWriterTcpPacket tcb.oldestData tcb.snd.una) := by
  refine ⟨h.una_eq, ?_⟩
  change tcb.oldestData <+: stream.drop una
  rw [TransmissionControlBlock.oldestData, h.contents_eq]
  exact List.take_prefix _ _

theorem nextData_le (h : SendAligned start stream una nxt tcb) :
    nxt + tcb.nextData.length ≤ stream.length := by
  have hnxt := h.nxt_le
  rw [h.nextData_eq, List.length_take, List.length_drop]
  omega

/-- An acknowledgment of bytes that are in flight, as a count. -/
theorem acknowledged (h : SendAligned start stream una nxt tcb) {ackNum : UInt32}
    (inWindow : (ackNum - tcb.snd.una).toNat ≤ tcb.inFlight.toNat) :
    ∃ count, una ≤ count ∧ count ≤ nxt ∧ ackNum = seqAt start count ∧
      (ackNum - tcb.snd.una).toNat = count - una := by
  have huna := h.una_le
  rw [h.inFlight_toNat] at inWindow
  refine ⟨una + (ackNum - tcb.snd.una).toNat, by omega, by omega, ?_, by omega⟩
  rw [h.una_eq]
  exact eq_seqAt_of_distance start ackNum una

/-- The acknowledgment of a count in flight moves the acknowledged count there. -/
theorem afterAck (h : SendAligned start stream una nxt tcb) {packet : Segment} {count : Nat}
    (hack : packet.ack = true) (name : packet.ackNum = seqAt start count) (lower : una ≤ count)
    (upper : count ≤ nxt) : SendAligned start stream count nxt (tcb.afterAck packet) := by
  have hspan := h.span
  have hnxt := h.nxt_le
  have distance : (packet.ackNum - tcb.snd.una).toNat = count - una := by
    rw [name, h.una_eq, distance_seqAt start lower (by omega)]
  have nxt_eq := (tcb.afterAck_nxt packet).trans h.nxt_eq
  by_cases ahead : 0 < (packet.ackNum - tcb.snd.una).toInt32
  · obtain ⟨moved, buffer⟩ := TransmissionControlBlock.afterAck_of_ahead hack ahead
    refine ⟨moved.trans name, nxt_eq, upper, hnxt, ?_⟩
    rw [buffer, BlockingBuffer.contents_discard, distance, h.contents_eq, List.drop_drop,
      Nat.add_sub_of_le lower]
  · obtain ⟨kept, buffer⟩ := TransmissionControlBlock.afterAck_of_not_ahead (fun _ => ahead)
    have same : count = una := by
      rw [toInt32_pos_iff, distance] at ahead
      omega
    subst same
    exact ⟨kept.trans h.una_eq, nxt_eq, upper, hnxt, by rw [buffer, h.contents_eq]⟩

end SendAligned
end TinyCP
