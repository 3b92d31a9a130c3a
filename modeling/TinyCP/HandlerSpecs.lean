import TinyCP.SegmentHandlers
import TinyCP.SequenceSpace

/-!
# What the handlers compute

One specification per function, in terms of the contents of the two buffers.
Later modules use these equations and do not unfold the handlers again.
-/
namespace TinyCP
namespace TransmissionControlBlock
open SequenceSpace

theorem maxIPv4PacketSize_eq : maxIPv4PacketSize = 65535 := rfl

theorem sendSize_le (tcb : TransmissionControlBlock) : tcb.sendBuffer.size ≤ 65535 :=
  tcb.sendBuffer.size_le

theorem recvSize_le (tcb : TransmissionControlBlock) : tcb.recvBuffer.size ≤ 65535 :=
  tcb.recvBuffer.size_le

theorem recvCapacity_eq (tcb : TransmissionControlBlock) :
    tcb.recvBuffer.availableCapacity = 65535 - tcb.recvBuffer.size := rfl

/-- The advertised window is the free space of the receive buffer. -/
theorem freeWnd_toNat (tcb : TransmissionControlBlock) :
    tcb.freeWnd.toNat = 65535 - tcb.recvBuffer.size := by
  rw [freeWnd, recvCapacity_eq, UInt16.toNat_ofNat']
  omega

theorem usableWindow_toNat (tcb : TransmissionControlBlock) :
    tcb.usableWindow.toNat = tcb.snd.wnd.toNat - tcb.inFlight.toNat := by
  by_cases opened : tcb.snd.wnd > tcb.inFlight
  · rw [usableWindow, if_pos opened]
    exact toNat_sub_of_lt (UInt32.lt_iff_toNat_lt.mp opened)
  · have shut : ¬ tcb.inFlight.toNat < tcb.snd.wnd.toNat :=
      fun h => opened (UInt32.lt_iff_toNat_lt.mpr h)
    rw [usableWindow, if_neg opened]
    change 0 = _
    omega

theorem hasUnsentInWindow_iff (tcb : TransmissionControlBlock) :
    tcb.hasUnsentInWindow = true ↔ tcb.inFlight.toNat < tcb.sendBuffer.size ∧
      tcb.inFlight.toNat < tcb.snd.wnd.toNat := by
  simp [hasUnsentInWindow, UInt32.lt_iff_toNat_lt]

/-- The bytes that the next call of `process_block_` puts on the wire. -/
def nextData (tcb : TransmissionControlBlock) : List UInt8 :=
  (tcb.sendBuffer.contents.drop tcb.inFlight.toNat).take
    (min (tcb.snd.wnd.toNat - tcb.inFlight.toNat) 1460)

theorem length_nextData (tcb : TransmissionControlBlock) : tcb.nextData.length =
    min (min (tcb.snd.wnd.toNat - tcb.inFlight.toNat) 1460)
      (tcb.sendBuffer.size - tcb.inFlight.toNat) := by
  simp [nextData]

/-- The block after a transmission, also when there was nothing to send. -/
def transmitted (tcb : TransmissionControlBlock) (now : Int) : TransmissionControlBlock :=
  { tcb with
    lastWritten := now
    snd.nxt := tcb.snd.nxt + UInt32.ofNat tcb.nextData.length }

theorem transmitted_of_nil {tcb : TransmissionControlBlock} (nothing : tcb.nextData = [])
    (now : Int) : tcb.transmitted now = { tcb with lastWritten := now } := by
  simp [transmitted, nothing]

/-- Both early returns are the case of no data: an exhausted window sends nothing. -/
theorem processBlock_of_transmits {tcb : TransmissionControlBlock}
    (sends : TransmitsData tcb.currentState = true) (now : Int) :
    tcb.processBlock now =
      if tcb.nextData = [] then { tcb := tcb.transmitted now }
      else
        { tcb := tcb.transmitted now
          out := [tcb.createWriterTcpPacket tcb.nextData tcb.snd.nxt]
          dirty := (tcb.transmitted now).hasUnsentInWindow } := by
  have notSyn : tcb.currentState ≠ .synSent := by
    intro h
    rw [h] at sends
    cases sends
  have limit : min (min tcb.usableWindow.toNat 1460) maxIPv4PacketSize =
      min (tcb.snd.wnd.toNat - tcb.inFlight.toNat) 1460 := by
    rw [usableWindow_toNat, maxIPv4PacketSize_eq]
    omega
  have peeked : tcb.sendBuffer.peek (min (min tcb.usableWindow.toNat 1460) maxIPv4PacketSize)
      tcb.inFlight.toNat = tcb.nextData := by
    rw [BlockingBuffer.peek_eq, limit, nextData]
  have plain : ({ tcb with lastWritten := now } : TransmissionControlBlock).usableWindow =
      tcb.usableWindow := rfl
  have sameFlight : ({ tcb with lastWritten := now } : TransmissionControlBlock).inFlight =
      tcb.inFlight := rfl
  simp only [processBlock, notSyn, if_false, sends, Bool.not_true, Bool.false_eq_true, plain,
    sameFlight, peeked, List.length_eq_zero_iff]
  by_cases shut : tcb.usableWindow = 0
  · have zero : tcb.snd.wnd.toNat - tcb.inFlight.toNat = 0 := by
      rw [← usableWindow_toNat, shut]
      rfl
    have nothing : tcb.nextData = [] := by
      rw [nextData, zero, Nat.zero_min, List.take_zero]
    rw [if_pos shut, if_pos nothing, transmitted_of_nil nothing]
  · rw [if_neg shut]
    by_cases nothing : tcb.nextData = []
    · rw [if_pos nothing, if_pos nothing, transmitted_of_nil nothing]
    · rw [if_neg nothing, if_neg nothing]
      rfl

theorem nextData_eq_nil_iff (tcb : TransmissionControlBlock) :
    tcb.nextData = [] ↔ tcb.hasUnsentInWindow = false := by
  rw [← Bool.not_eq_true, tcb.hasUnsentInWindow_iff, ← List.length_eq_zero_iff, tcb.length_nextData]
  omega

/-- A block that can still send afterwards is queued again. -/
theorem processBlock_requeues {tcb : TransmissionControlBlock}
    (sends : TransmitsData tcb.currentState = true) {now : Int}
    (unsent : (tcb.processBlock now).tcb.hasUnsentInWindow = true) :
    (tcb.processBlock now).dirty = true := by
  rw [processBlock_of_transmits sends] at unsent ⊢
  by_cases nothing : tcb.nextData = []
  · rw [if_pos nothing, transmitted_of_nil nothing] at unsent
    have none := tcb.nextData_eq_nil_iff.mp nothing
    exact absurd (none.symm.trans unsent) Bool.false_ne_true
  · rw [if_neg nothing] at unsent ⊢
    exact unsent

/-- With an empty send buffer only the SYN is ever sent. -/
theorem processBlock_of_empty {tcb : TransmissionControlBlock}
    (empty : tcb.sendBuffer.contents = []) (now : Int) :
    tcb.processBlock now =
      { tcb := { tcb with lastWritten := now }
        out := if tcb.currentState = .synSent then
            [tcb.sendControlPacket true false false false tcb.snd.iss 0] else [] } := by
  by_cases syn : tcb.currentState = .synSent
  · simp only [processBlock, syn, if_true]
    rfl
  · rw [if_neg syn]
    cases sends : TransmitsData tcb.currentState with
    | false => simp [processBlock, syn, sends]
    | true =>
      have nothing : tcb.nextData = [] := by simp [nextData, empty]
      rw [processBlock_of_transmits sends, if_pos nothing, transmitted_of_nil nothing]

/-- Work that neither waits nor asks anything of the tables, and sends from the block's
own address to its peer. -/
structure Confined (tcb : TransmissionControlBlock) (o : Outcome) : Prop where
  awake : o.waiting = none
  plain : o.effect = .none
  src_eq : o.tcb.srcAddress = tcb.srcAddress
  dst_eq : o.tcb.dstAddress = tcb.dstAddress
  out : ∀ packet ∈ o.out, packet.src = tcb.srcAddress ∧ packet.dst = tcb.dstAddress

theorem processBlock_confined (tcb : TransmissionControlBlock) (now : Int) :
    Confined tcb (tcb.processBlock now) := by
  simp only [processBlock]
  split_ifs <;> refine ⟨rfl, rfl, rfl, rfl, ?_⟩ <;>
    simp [sendControlPacket, createWriterTcpPacket]

theorem processBlock_currentState (tcb : TransmissionControlBlock) (now : Int) :
    (tcb.processBlock now).tcb.currentState = tcb.currentState := by
  simp only [processBlock]
  split_ifs <;> rfl

/-- A flush sends control segments, or the next data at `SND.NXT`. -/
theorem processBlock_out (tcb : TransmissionControlBlock) (now : Int) :
    ∀ packet ∈ (tcb.processBlock now).out, packet.payload = [] ∨
      packet = tcb.createWriterTcpPacket tcb.nextData tcb.snd.nxt := by
  intro packet member
  cases sends : TransmitsData tcb.currentState with
  | false =>
    simp only [processBlock, sends, Bool.not_false, if_true] at member
    split_ifs at member
    · rw [List.mem_singleton.mp member]
      exact Or.inl rfl
    · cases member
  | true =>
    rw [processBlock_of_transmits sends] at member
    split_ifs at member
    · cases member
    · exact Or.inr (List.mem_singleton.mp member)

/-- The bytes a retransmission carries. -/
def oldestData (tcb : TransmissionControlBlock) : List UInt8 :=
  tcb.sendBuffer.contents.take (min tcb.inFlight.toNat 1460)

/-- The block after a retransmission. -/
def retransmitted (tcb : TransmissionControlBlock) (now : Int) : TransmissionControlBlock :=
  { tcb with
    lastWritten := now
    retransmitAttempts := tcb.retransmitAttempts + 1 }

theorem checkRetransmission_eq (tcb : TransmissionControlBlock) (now : Int) :
    tcb.checkRetransmission now =
      if tcb.currentState = .established ∧ tcb.rto ≤ now - tcb.lastWritten ∧ tcb.oldestData ≠ [] then
        { tcb := tcb.retransmitted now
          out := [tcb.createWriterTcpPacket tcb.oldestData tcb.snd.una] }
      else { tcb := tcb } := by
  have limit : min (min tcb.inFlight.toNat 1460) maxIPv4PacketSize =
      min tcb.inFlight.toNat 1460 := by
    rw [maxIPv4PacketSize_eq]
    omega
  have peeked : tcb.sendBuffer.peek (min (min tcb.inFlight.toNat 1460) maxIPv4PacketSize) 0 =
      tcb.oldestData := by
    rw [BlockingBuffer.peek_eq, limit, List.drop_zero, oldestData]
  -- with nothing in flight there is no oldest data either
  have inFlight : tcb.oldestData ≠ [] → tcb.inFlight > 0 := by
    intro some
    by_contra none
    have zero : tcb.inFlight.toNat = 0 := Nat.eq_zero_of_not_pos fun positive =>
      none (UInt32.lt_iff_toNat_lt.mpr positive)
    rw [oldestData, zero, Nat.zero_min, List.take_zero] at some
    exact some rfl
  simp only [checkRetransmission, peeked]
  by_cases state : tcb.currentState = .established
  · rw [if_neg (not_not_intro state)]
    by_cases some : tcb.oldestData = []
    · have data : ¬ tcb.oldestData.length > 0 := by
        rw [some]
        exact Nat.lt_irrefl 0
      rw [if_neg data, ite_self]
      exact (if_neg fun found => found.2.2 some).symm
    · have data : tcb.oldestData.length > 0 := List.length_pos_iff.mpr some
      by_cases expired : tcb.rto ≤ now - tcb.lastWritten
      · rw [if_pos ⟨inFlight some, expired⟩, if_pos data, if_pos ⟨state, expired, some⟩]
        rfl
      · rw [if_neg fun found => expired found.2, if_neg fun found => expired found.2.1]
  · rw [if_pos state, if_neg fun found => state found.1]

/-- A retransmission touches the clock and the counter, and sends at `SND.UNA`. -/
theorem checkRetransmission_cases (tcb : TransmissionControlBlock) (now : Int) :
    tcb.checkRetransmission now = { tcb := tcb } ∨
    (tcb.currentState = .established ∧ tcb.rto ≤ now - tcb.lastWritten ∧ tcb.oldestData ≠ [] ∧
      tcb.checkRetransmission now =
        { tcb := tcb.retransmitted now
          out := [tcb.createWriterTcpPacket tcb.oldestData tcb.snd.una] }) := by
  rw [checkRetransmission_eq]
  split_ifs with found
  · exact Or.inr ⟨found.1, found.2.1, found.2.2, rfl⟩
  · exact Or.inl rfl

theorem checkRetransmission_confined (tcb : TransmissionControlBlock) (now : Int) :
    Confined tcb (tcb.checkRetransmission now) := by
  rcases tcb.checkRetransmission_cases now with h | ⟨_, _, _, h⟩
  · rw [h]
    exact ⟨rfl, rfl, rfl, rfl, by simp⟩
  · rw [h]
    exact ⟨rfl, rfl, rfl, rfl, by simp [createWriterTcpPacket]⟩

theorem checkRetransmission_currentState (tcb : TransmissionControlBlock) (now : Int) :
    (tcb.checkRetransmission now).tcb.currentState = tcb.currentState := by
  rw [checkRetransmission_eq]
  split_ifs <;> rfl

theorem checkRetransmission_of_empty {tcb : TransmissionControlBlock}
    (empty : tcb.sendBuffer.contents = []) (now : Int) :
    tcb.checkRetransmission now = { tcb := tcb } := by
  rcases tcb.checkRetransmission_cases now with same | ⟨_, _, some, _⟩
  · exact same
  · exact absurd (by simp [oldestData, empty]) some

/-- A timer that is not due leaves the block as it is. -/
theorem checkRetransmission_of_early {tcb : TransmissionControlBlock} {now : Int}
    (early : tcb.inFlight = 0 ∨ now - tcb.lastWritten < tcb.rto) :
    tcb.checkRetransmission now = { tcb := tcb } := by
  have notDue : ¬ (tcb.inFlight > 0 ∧ now - tcb.lastWritten ≥ tcb.rto) := by
    rintro ⟨flying, due⟩
    rcases early with nothing | early
    · rw [nothing] at flying
      exact absurd flying (by decide)
    · omega
  rw [checkRetransmission, if_neg notDue]
  split_ifs <;> rfl

/-- The block after the acknowledgment part of a segment without FIN. -/
def afterAck (tcb : TransmissionControlBlock) (packet : Segment) : TransmissionControlBlock :=
  if packet.ack then tcb.receiveAck packet else tcb

theorem afterAck_currentState (tcb : TransmissionControlBlock) (packet : Segment) :
    (tcb.afterAck packet).currentState = tcb.currentState := by
  rw [afterAck, receiveAck]
  split_ifs <;> rfl

theorem afterAck_recvBuffer (tcb : TransmissionControlBlock) (packet : Segment) :
    (tcb.afterAck packet).recvBuffer = tcb.recvBuffer := by
  rw [afterAck, receiveAck]
  split_ifs <;> rfl

theorem afterAck_rcv (tcb : TransmissionControlBlock) (packet : Segment) :
    (tcb.afterAck packet).rcv = tcb.rcv := by
  rw [afterAck, receiveAck]
  split_ifs <;> rfl

theorem afterAck_nxt (tcb : TransmissionControlBlock) (packet : Segment) :
    (tcb.afterAck packet).snd.nxt = tcb.snd.nxt := by
  rw [afterAck, receiveAck]
  split_ifs <;> rfl

theorem afterAck_iss (tcb : TransmissionControlBlock) (packet : Segment) :
    (tcb.afterAck packet).snd.iss = tcb.snd.iss := by
  rw [afterAck, receiveAck]
  split_ifs <;> rfl

theorem afterAck_wnd (tcb : TransmissionControlBlock) (packet : Segment) (hack : packet.ack = true) :
    (tcb.afterAck packet).snd.wnd = packet.window.toUInt32 := by
  rw [afterAck, receiveAck, if_pos hack]

/-- An acknowledgment ahead of `SND.UNA` moves it there, however far that is. -/
theorem afterAck_of_ahead {tcb : TransmissionControlBlock} {packet : Segment}
    (hack : packet.ack = true) (ahead : 0 < (packet.ackNum - tcb.snd.una).toInt32) :
    (tcb.afterAck packet).snd.una = packet.ackNum ∧
    (tcb.afterAck packet).sendBuffer =
      (tcb.sendBuffer.discard (packet.ackNum - tcb.snd.una).toNat).1 := by
  rw [afterAck, receiveAck, if_pos hack, if_pos ahead]
  exact ⟨rfl, rfl⟩

theorem afterAck_of_not_ahead {tcb : TransmissionControlBlock} {packet : Segment}
    (old : packet.ack = true → ¬ 0 < (packet.ackNum - tcb.snd.una).toInt32) :
    (tcb.afterAck packet).snd.una = tcb.snd.una ∧
    (tcb.afterAck packet).sendBuffer = tcb.sendBuffer := by
  by_cases hack : packet.ack = true
  · rw [afterAck, receiveAck, if_pos hack, if_neg (old hack)]
    exact ⟨rfl, rfl⟩
  · rw [afterAck, if_neg hack]
    exact ⟨rfl, rfl⟩

theorem afterAck_addresses (tcb : TransmissionControlBlock) (packet : Segment) :
    (tcb.afterAck packet).srcAddress = tcb.srcAddress ∧
    (tcb.afterAck packet).dstAddress = tcb.dstAddress := by
  rw [afterAck, receiveAck]
  split_ifs <;> exact ⟨rfl, rfl⟩

theorem afterAck_empty {tcb : TransmissionControlBlock} (empty : tcb.sendBuffer.contents = [])
    (packet : Segment) : (tcb.afterAck packet).sendBuffer.contents = [] := by
  rw [afterAck, receiveAck]
  split_ifs <;> simp [empty]

/-- `RCV.NXT` counts the whole payload before it is stored. -/
def expecting (tcb : TransmissionControlBlock) (payload : List UInt8) : TransmissionControlBlock :=
  { tcb with rcv.nxt := tcb.rcv.nxt + UInt32.ofNat payload.length }

theorem handleEstablishedState_of_not_fin (tcb : TransmissionControlBlock) {packet : Segment}
    (notFin : packet.fin = false) : tcb.handleEstablishedState packet =
      if packet.payload = [] then
        { tcb := tcb.afterAck packet
          dirty := packet.ack && (tcb.afterAck packet).hasUnsentInWindow }
      else
        { ((tcb.afterAck packet).expecting packet.payload).storePayload packet.payload with
          dirty := packet.ack && (tcb.afterAck packet).hasUnsentInWindow } := by
  have positive : (packet.payload.length > 0) = ¬ packet.payload = [] := by
    rw [gt_iff_lt, List.length_pos_iff]
  simp only [handleEstablishedState, notFin, Bool.false_eq_true, if_false, positive, ite_not]
  rfl

/-- The block after its receive buffer has been replaced by the written one. -/
def stored (tcb : TransmissionControlBlock) (payload : List UInt8) : TransmissionControlBlock :=
  { tcb with recvBuffer := (tcb.recvBuffer.store payload).1 }

theorem storePayload_cases (tcb : TransmissionControlBlock) (payload : List UInt8) :
    (tcb.recvBuffer.canWrite = true ∧ tcb.storePayload payload =
      { tcb := tcb.stored payload, out := [(tcb.stored payload).sendAck] }) ∨
    (tcb.recvBuffer.canWrite = false ∧ tcb.storePayload payload =
      { tcb := tcb, waiting := some payload }) := by
  by_cases room : tcb.recvBuffer.canWrite = true
  · left
    refine ⟨room, ?_⟩
    rw [storePayload, BlockingBuffer.write, if_pos room]
    rfl
  · right
    refine ⟨Bool.eq_false_iff.mpr room, ?_⟩
    rw [storePayload, BlockingBuffer.write, if_neg room]

/-- The block once the payload of a segment without FIN has been stored. -/
def afterPayload (tcb : TransmissionControlBlock) (packet : Segment) : TransmissionControlBlock :=
  ((tcb.afterAck packet).expecting packet.payload).stored packet.payload

/-- Everything a segment without FIN can do in ESTABLISHED. -/
theorem handleEstablishedState_cases (tcb : TransmissionControlBlock) {packet : Segment}
    (notFin : packet.fin = false) :
    (packet.payload = [] ∧ tcb.handleEstablishedState packet =
      { tcb := tcb.afterAck packet
        dirty := packet.ack && (tcb.afterAck packet).hasUnsentInWindow }) ∨
    (packet.payload ≠ [] ∧ tcb.recvBuffer.canWrite = true ∧ tcb.handleEstablishedState packet =
      { tcb := tcb.afterPayload packet
        out := [(tcb.afterPayload packet).sendAck]
        dirty := packet.ack && (tcb.afterAck packet).hasUnsentInWindow }) ∨
    (packet.payload ≠ [] ∧ tcb.recvBuffer.canWrite = false ∧ tcb.handleEstablishedState packet =
      { tcb := (tcb.afterAck packet).expecting packet.payload
        dirty := packet.ack && (tcb.afterAck packet).hasUnsentInWindow
        waiting := some packet.payload }) := by
  rw [handleEstablishedState_of_not_fin tcb notFin]
  by_cases nothing : packet.payload = []
  · rw [if_pos nothing]
    exact Or.inl ⟨nothing, rfl⟩
  · rw [if_neg nothing]
    have buffer : ((tcb.afterAck packet).expecting packet.payload).recvBuffer = tcb.recvBuffer :=
      tcb.afterAck_recvBuffer packet
    rcases storePayload_cases ((tcb.afterAck packet).expecting packet.payload) packet.payload with
      ⟨room, done⟩ | ⟨full, blocked⟩
    · rw [buffer] at room
      rw [done]
      exact Or.inr (Or.inl ⟨nothing, room, rfl⟩)
    · rw [buffer] at full
      rw [blocked]
      exact Or.inr (Or.inr ⟨nothing, full, rfl⟩)

/-- Storing a payload leaves the sending side as the acknowledgment part left it. -/
theorem handleEstablishedState_sendSide (tcb : TransmissionControlBlock) {packet : Segment}
    (notFin : packet.fin = false) :
    (tcb.handleEstablishedState packet).tcb.snd = (tcb.afterAck packet).snd ∧
    (tcb.handleEstablishedState packet).tcb.sendBuffer = (tcb.afterAck packet).sendBuffer ∧
    (tcb.handleEstablishedState packet).tcb.currentState = tcb.currentState ∧
    ∀ answer ∈ (tcb.handleEstablishedState packet).out, answer.payload = [] := by
  have state := tcb.afterAck_currentState packet
  rcases tcb.handleEstablishedState_cases notFin with ⟨_, h⟩ | ⟨_, _, h⟩ | ⟨_, _, h⟩
  · rw [h]
    exact ⟨rfl, rfl, state, by simp⟩
  · rw [h]
    exact ⟨rfl, rfl, state, by simp [sendAck, sendControlPacket]⟩
  · rw [h]
    exact ⟨rfl, rfl, state, by simp⟩

/-- No answer to a segment carries data. -/
theorem receive_noData (tcb : TransmissionControlBlock) (packet : Segment) :
    ∀ answer ∈ (tcb.receive packet).out, answer.payload = [] := by
  cases state : tcb.currentState with
  | established =>
    simp only [receive, state]
    by_cases fin : packet.fin = true
    · simp [handleEstablishedState, fin, receiveFin, sendAck, sendControlPacket]
    · exact (tcb.handleEstablishedState_sendSide (Bool.eq_false_iff.mpr fin)).2.2.2
  | closed =>
    simp only [receive, state, handleClosedResetResponse]
    split_ifs <;> simp [sendRawRst]
  | synSent =>
    simp only [receive, state, handleSynSentState]
    split_ifs <;> simp [sendAck, sendControlPacket]
  | synReceived =>
    simp only [receive, state, handleSynReceivedState]
    split_ifs <;> simp [sendAck, sendControlPacket]
  | finWait1 =>
    simp only [receive, state, handleFinWait1State, closedBy]
    split_ifs <;> simp [sendAck, sendControlPacket]
  | finWait2 =>
    simp only [receive, state, handleFinWait2State, closedBy]
    split_ifs <;> simp [sendAck, sendControlPacket]
  | closing =>
    simp only [receive, state, handleClosingState, awaitFinalAck, closedBy]
    split_ifs <;> simp
  | lastAck =>
    simp only [receive, state, handleLastAckState, awaitFinalAck, closedBy]
    split_ifs <;> simp
  | listen | closeWait | timeWait => simp [receive, state]

/-- An acknowledgment after which data can be sent queues the block. -/
theorem handleEstablishedState_requeues {tcb : TransmissionControlBlock} {packet : Segment}
    (notFin : packet.fin = false) :
    (tcb.handleEstablishedState packet).dirty =
      (packet.ack && (tcb.afterAck packet).hasUnsentInWindow) ∧
    (tcb.handleEstablishedState packet).tcb.hasUnsentInWindow =
      (tcb.afterAck packet).hasUnsentInWindow := by
  rcases tcb.handleEstablishedState_cases notFin with ⟨_, h⟩ | ⟨_, _, h⟩ | ⟨_, _, h⟩
  all_goals
    rw [h]
    exact ⟨rfl, rfl⟩

end TransmissionControlBlock

/-- An established block between the two addresses of the teardown tests, for runs on
explicit inputs. -/
def sampleTcb : TransmissionControlBlock :=
  .new .established ⟨0x0A000002, 8080⟩ ⟨0x0A000003, 9090⟩

/-- The peer of `sampleTcb`. -/
def samplePeer : TransmissionControlBlock :=
  .new .established ⟨0x0A000003, 9090⟩ ⟨0x0A000002, 8080⟩

/-- A segment from the peer of `sampleTcb` with the ACK flag alone. -/
def sampleSegment (seqNum ackNum : UInt32) (window : UInt16) (payload : List UInt8) : Segment where
  src := ⟨0x0A000003, 9090⟩
  dst := ⟨0x0A000002, 8080⟩
  seqNum := seqNum
  ackNum := ackNum
  syn := false
  ack := true
  rst := false
  fin := false
  window := window
  payload := payload

end TinyCP
