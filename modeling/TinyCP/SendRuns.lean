import TinyCP.SendSide

/-!
# Runs of the sending side

The invariant holds along every run in which no acknowledgment passes `SND.NXT`.
The code compares an acknowledgment with `SND.UNA` only, so one that passes
`SND.NXT` is taken over, and from then on the 32-bit count of bytes in flight
exceeds the send buffer.
-/
namespace TinyCP
open SequenceSpace EventRun

/-- Some emitted segment carried the stream's byte at this position. -/
def Transmitted (start : UInt32) (stream : List UInt8) (emitted : List Segment)
    (position : Nat) : Prop :=
  ∃ packet ∈ emitted, ∃ offset, CarriesAt start stream offset packet ∧
    offset ≤ position ∧ position < offset + packet.payload.length

theorem Transmitted.extend {start : UInt32} {stream : List UInt8} {emitted : List Segment}
    {position : Nat} (sent : Transmitted start stream emitted position) (more : List UInt8)
    (out : List Segment) : Transmitted start (stream ++ more) (emitted ++ out) position := by
  obtain ⟨packet, hmem, offset, carries, lower, upper⟩ := sent
  exact ⟨packet, List.mem_append_left out hmem, offset, carries.extend more, lower, upper⟩

/-- Every data segment is a slice of the stream of at most 1460 bytes. -/
def Slices (start : UInt32) (stream : List UInt8) (emitted : List Segment) : Prop :=
  ∀ packet ∈ emitted, packet.payload ≠ [] →
    packet.payload.length ≤ 1460 ∧ ∃ offset, CarriesAt start stream offset packet

theorem Slices.extend {start : UInt32} {stream : List UInt8} {emitted : List Segment}
    (slices : Slices start stream emitted) (more : List UInt8) (out : List Segment)
    (new : ∀ packet ∈ out, packet.payload ≠ [] →
      packet.payload.length ≤ 1460 ∧ ∃ offset, CarriesAt start stream offset packet) :
    Slices start (stream ++ more) (emitted ++ out) := by
  intro packet hmem data
  have old : packet.payload.length ≤ 1460 ∧ ∃ offset, CarriesAt start stream offset packet := by
    rcases List.mem_append.mp hmem with h | h
    · exact slices packet h data
    · exact new packet h data
  obtain ⟨short, offset, carries⟩ := old
  exact ⟨short, offset, carries.extend more⟩

/-- The stream is what was in the send buffer at first, then what `send` accepted. -/
structure SendInvariant (start : UInt32) (base : List UInt8) (e : Endpoint) : Prop where
  established : e.tcb.currentState = .established
  counts : ∃ una nxt, SendAligned start (base ++ e.accepted) una nxt e.tcb ∧
    ∀ position, position < nxt → Transmitted start (base ++ e.accepted) e.emitted position
  slices : Slices start (base ++ e.accepted) e.emitted

/-- An acknowledgment that the code takes over does not pass `SND.NXT`. -/
def AcksInFlight (e : Endpoint) : Action → Prop
  | .receive packet => e.waiting = none → packet.ack = true →
      0 < (packet.ackNum - e.tcb.snd.una).toInt32 →
      (packet.ackNum - e.tcb.snd.una).toNat ≤ e.tcb.inFlight.toNat
  | _ => True

theorem SendInvariant.initial {tcb : TransmissionControlBlock}
    (established : tcb.currentState = .established) (aligned : tcb.snd.nxt = tcb.snd.una) :
    SendInvariant tcb.snd.una tcb.sendBuffer.contents (.fresh tcb) where
  established := established
  counts := by
    refine ⟨0, 0, ⟨(seqAt_zero _).symm, aligned.trans (seqAt_zero _).symm, Nat.le_refl _,
      Nat.zero_le _, ?_⟩, fun position h => absurd h (Nat.not_lt_zero _)⟩
    exact (List.append_nil _).symm
  slices := fun packet h => absurd h List.not_mem_nil

/-- The invariant after a step that adds `more` to the stream and `out` to the wire. -/
theorem SendInvariant.advance {start : UInt32} {base : List UInt8} {e e' : Endpoint}
    (h : SendInvariant start base e) (una nxt : Nat) (more : List UInt8) (out : List Segment)
    (established : e'.tcb.currentState = .established)
    (accepted : e'.accepted = e.accepted ++ more) (emitted : e'.emitted = e.emitted ++ out)
    (aligned : SendAligned start (base ++ e.accepted ++ more) una nxt e'.tcb)
    (sent : ∀ position, position < nxt →
      Transmitted start (base ++ e.accepted) (e.emitted ++ out) position)
    (new : ∀ packet ∈ out, packet.payload ≠ [] →
      packet.payload.length ≤ 1460 ∧ ∃ offset, CarriesAt start (base ++ e.accepted) offset packet) :
    SendInvariant start base e' := by
  have longer : base ++ e'.accepted = base ++ e.accepted ++ more := by
    rw [accepted, List.append_assoc]
  refine ⟨established, ⟨una, nxt, ?_, ?_⟩, ?_⟩
  · rw [longer]
    exact aligned
  · intro position hp
    have := (sent position hp).extend more []
    rwa [longer, emitted, ← List.append_nil (e.emitted ++ out)]
  · rw [longer, emitted]
    exact h.slices.extend more out new

theorem SendInvariant.step {start : UInt32} {base : List UInt8} {e : Endpoint} {action : Action}
    (h : SendInvariant start base e) (isOpen : Endpoint.Open action)
    (acks : AcksInFlight e action) : SendInvariant start base (e.step action) := by
  have established := Endpoint.step_established isOpen h.established
  obtain ⟨una, nxt, aligned, sent⟩ := h.counts
  have kept : ∀ (out : List Segment) (position : Nat), position < nxt →
      Transmitted start (base ++ e.accepted) (e.emitted ++ out) position := by
    intro out position hp
    have := (sent position hp).extend [] out
    rwa [List.append_nil] at this
  cases Endpoint.step_sendMove isOpen h.established with
  | idle huna hnxt buffer accepted out emitted noData =>
    refine h.advance una nxt [] out established (by rw [accepted, List.append_nil])
      emitted ?_ (kept out) (fun packet hmem data => absurd (noData packet hmem) data)
    rw [List.append_nil]
    exact ⟨huna.trans aligned.una_eq, hnxt.trans aligned.nxt_eq, aligned.una_le,
      aligned.nxt_le, by rw [buffer, aligned.contents_eq]⟩
  | accept more huna hnxt buffer accepted emitted =>
    refine h.advance una nxt more [] established accepted
      (by rw [emitted, List.append_nil]) ?_ (kept []) (by simp)
    have hlen : una ≤ (base ++ e.accepted).length := Nat.le_trans aligned.una_le aligned.nxt_le
    refine ⟨huna.trans aligned.una_eq, hnxt.trans aligned.nxt_eq, aligned.una_le, ?_, ?_⟩
    · rw [List.length_append]
      exact Nat.le_trans aligned.nxt_le (Nat.le_add_right _ _)
    · rw [buffer, aligned.contents_eq, List.drop_append_of_le_length hlen]
  | transmit huna hnxt buffer accepted emitted some =>
    refine h.advance una (nxt + e.tcb.nextData.length) [] _ established
      (by rw [accepted, List.append_nil]) emitted ?_ ?_ ?_
    · rw [List.append_nil]
      refine ⟨huna.trans aligned.una_eq, ?_, Nat.le_add_right_of_le aligned.una_le,
        aligned.nextData_le, by rw [buffer, aligned.contents_eq]⟩
      rw [hnxt, aligned.nxt_eq, seqAt_add]
    · intro position hp
      by_cases old : position < nxt
      · exact kept _ position old
      · exact ⟨_, List.mem_append_right _ List.mem_cons_self, nxt, aligned.nextData_carries,
          Nat.le_of_not_lt old, hp⟩
    · intro packet hmem _
      rw [List.mem_singleton.mp hmem]
      refine ⟨?_, nxt, aligned.nextData_carries⟩
      change e.tcb.nextData.length ≤ 1460
      rw [TransmissionControlBlock.length_nextData]
      omega
  | retransmit huna hnxt buffer accepted emitted =>
    refine h.advance una nxt [] _ established (by rw [accepted, List.append_nil])
      emitted ?_ (kept _) ?_
    · rw [List.append_nil]
      exact ⟨huna.trans aligned.una_eq, hnxt.trans aligned.nxt_eq, aligned.una_le,
        aligned.nxt_le, by rw [buffer, aligned.contents_eq]⟩
    · intro packet hmem _
      rw [List.mem_singleton.mp hmem]
      refine ⟨?_, una, aligned.oldestData_carries⟩
      change e.tcb.oldestData.length ≤ 1460
      rw [TransmissionControlBlock.oldestData, List.length_take]
      omega
  | acknowledge packet received awake hack ahead huna hnxt buffer accepted out emitted noData =>
    subst received
    obtain ⟨count, lower, upper, name, distance⟩ := aligned.acknowledged (acks awake hack ahead)
    refine h.advance count nxt [] out established
      (by rw [accepted, List.append_nil]) emitted ?_ (kept out)
      (fun packet hmem data => absurd (noData packet hmem) data)
    rw [List.append_nil]
    refine ⟨huna.trans name, hnxt.trans aligned.nxt_eq, upper, aligned.nxt_le, ?_⟩
    rw [buffer, BlockingBuffer.contents_discard, distance, aligned.contents_eq, List.drop_drop,
      Nat.add_sub_of_le lower]

/-- Bytes leave the send buffer only after a segment has carried them. -/
def DiscardedAfterTransmission (start : UInt32) (base : List UInt8) (e : Endpoint) : Prop :=
  ∀ position, position < (base ++ e.accepted).length - e.tcb.sendBuffer.size →
    Transmitted start (base ++ e.accepted) e.emitted position

def SendStateSound (start : UInt32) (base : List UInt8) (e : Endpoint) : Prop :=
  e.tcb.inFlight.toNat ≤ e.tcb.sendBuffer.size ∧ DiscardedAfterTransmission start base e

/-- An acknowledgment of bytes never sent leaves `SND.UNA` and the send buffer alone. -/
def UnsentAckIgnored (e : Endpoint) : Action → Prop
  | .receive packet => e.waiting = none → packet.ack = true →
      e.tcb.inFlight.toNat < (packet.ackNum - e.tcb.snd.una).toNat →
      (e.step (.receive packet)).tcb.snd.una = e.tcb.snd.una ∧
      (e.step (.receive packet)).tcb.sendBuffer = e.tcb.sendBuffer
  | _ => True

theorem SendInvariant.sound {start : UInt32} {base : List UInt8} {e : Endpoint}
    (h : SendInvariant start base e) : SendStateSound start base e := by
  obtain ⟨una, nxt, aligned, sent⟩ := h.counts
  refine ⟨aligned.inFlight_le, ?_⟩
  intro position hp
  have huna := aligned.una_le
  have hnxt := aligned.nxt_le
  rw [aligned.size_eq] at hp
  exact sent position (by omega)

/-- An acknowledgment that passes `SND.NXT` makes the next count of bytes in flight wrap. -/
theorem inFlight_of_passed {una nxt ackNum : UInt32} (ahead : (ackNum - una).toNat < 2 ^ 31)
    (passed : (nxt - una).toNat < (ackNum - una).toNat) : 2 ^ 31 < (nxt - ackNum).toNat := by
  have split : nxt - ackNum = (nxt - una) - (ackNum - una) := by grind
  rw [split, UInt32.toNat_sub]
  omega

theorem SendInvariant.detect {start : UInt32} {base : List UInt8} {e : Endpoint} {action : Action}
    (isOpen : Endpoint.Open action) (h : SendInvariant start base e)
    (next : SendStateSound start base (e.step action)) : AcksInFlight e action := by
  cases action with
  | receive packet =>
    intro awake hack ahead
    by_contra passed
    obtain ⟨snd, buffer, _, _⟩ := e.tcb.handleEstablishedState_sendSide isOpen
    have huna := (TransmissionControlBlock.afterAck_of_ahead hack ahead).1
    have wrapped : 2 ^ 31 < (e.step (.receive packet)).tcb.inFlight.toNat := by
      rw [Endpoint.step_receive_awake awake h.established]
      change 2 ^ 31 < ((e.tcb.handleEstablishedState packet).tcb.snd.nxt -
        (e.tcb.handleEstablishedState packet).tcb.snd.una).toNat
      rw [snd, huna, TransmissionControlBlock.afterAck_nxt]
      exact inFlight_of_passed ((toInt32_pos_iff _).mp ahead).2 (Nat.lt_of_not_le passed)
    have fits := Nat.le_trans next.1 (TransmissionControlBlock.sendSize_le _)
    omega
  | _ => trivial

theorem unsentAckIgnored_of_acksInFlight {e : Endpoint} {action : Action}
    (isOpen : Endpoint.Open action) (established : e.tcb.currentState = .established)
    (acks : AcksInFlight e action) : UnsentAckIgnored e action := by
  cases action with
  | receive packet =>
    intro awake hack unsent
    have old : packet.ack = true → ¬ 0 < (packet.ackNum - e.tcb.snd.una).toInt32 := by
      intro _ ahead
      have := acks awake hack ahead
      omega
    obtain ⟨snd, buffer, _, _⟩ := e.tcb.handleEstablishedState_sendSide isOpen
    obtain ⟨huna, kept⟩ := TransmissionControlBlock.afterAck_of_not_ahead old
    rw [Endpoint.step_receive_awake awake established]
    exact ⟨(congrArg SendSequence.una snd).trans huna, buffer.trans kept⟩
  | _ => trivial

/-- The send-sequence property of a whole run. -/
def SendSequenceSound (e : Endpoint) (events : List Action) : Prop :=
  Always Endpoint.step (SendStateSound e.tcb.snd.una e.tcb.sendBuffer.contents) e events ∧
  Throughout Endpoint.step UnsentAckIgnored e events

/-- Along a run of an established connection the send variables stay sound exactly
when no acknowledgment that lies ahead of `SND.UNA` passes `SND.NXT`. -/
theorem sendSequenceSound_iff (tcb : TransmissionControlBlock)
    (established : tcb.currentState = .established) (completed : tcb.snd.nxt = tcb.snd.una)
    (events : List Action) (isOpen : ∀ action ∈ events, Endpoint.Open action) :
    SendSequenceSound (.fresh tcb) events ↔
      Throughout Endpoint.step AcksInFlight (.fresh tcb) events := by
  have initial := SendInvariant.initial established completed
  have preserve : ∀ e action, Endpoint.Open action →
      SendInvariant tcb.snd.una tcb.sendBuffer.contents e → AcksInFlight e action →
      SendInvariant tcb.snd.una tcb.sendBuffer.contents (e.step action) :=
    fun e action isOpen h acks => h.step isOpen acks
  have exactly : Always Endpoint.step (SendStateSound tcb.snd.una tcb.sendBuffer.contents)
      (.fresh tcb) events ↔ Throughout Endpoint.step AcksInFlight (.fresh tcb) events :=
    always_iff_throughout preserve (fun e h => h.sound)
      (fun e action isOpen h next => SendInvariant.detect isOpen h next) initial events isOpen
  constructor
  · intro sound
    exact exactly.mp sound.1
  · intro acks
    exact ⟨exactly.mpr acks, throughout_mono preserve
      (fun e action isOpen h acks => unsentAckIgnored_of_acksInFlight isOpen h.established acks)
      initial events isOpen acks⟩

/-- Two bytes are sent and acknowledged; an acknowledgment far behind is ignored. -/
theorem sendSequenceSound_two_bytes : SendSequenceSound (.fresh sampleTcb)
    [.send [7, 8], .processBlock 0, .receive (sampleSegment 0 2 65535 []),
      .receive (sampleSegment 0 0x90000000 65535 [])] :=
  (sendSequenceSound_iff sampleTcb rfl rfl _ (by simp [Endpoint.Open, sampleSegment])).mpr
    ⟨trivial, trivial, fun _ _ _ => by decide,
      fun _ _ ahead => absurd ahead (by decide), trivial⟩

/-- One acknowledgment of a byte never sent moves `SND.UNA` past `SND.NXT`. -/
theorem unsent_ack_wraps_inFlight :
    ¬ SendSequenceSound (.fresh sampleTcb) [.receive (sampleSegment 0 1 65535 [])] := by
  intro sound
  have fits := (sound.1 [.receive (sampleSegment 0 1 65535 [])] List.prefix_rfl).1
  revert fits
  decide

/-- The acknowledgment number of a segment lies between `SND.UNA` and `SND.NXT`. -/
def AckNumInWindow (e : Endpoint) : Action → Prop
  | .receive packet => (packet.ackNum - e.tcb.snd.una).toNat ≤ e.tcb.inFlight.toNat
  | _ => True

theorem SendInvariant.run {start : UInt32} {base : List UInt8} {e : Endpoint}
    (initial : SendInvariant start base e) (events : List Action)
    (isOpen : ∀ action ∈ events, Endpoint.Open action)
    (acks : Throughout Endpoint.step AckNumInWindow e events) :
    SendInvariant start base (run Endpoint.step e events) := by
  have preserve : ∀ e action, Endpoint.Open action → SendInvariant start base e →
      AckNumInWindow e action → SendInvariant start base (e.step action) := by
    intro e action isOpen h acks
    refine h.step isOpen ?_
    cases action with
    | receive packet => exact fun _ _ _ => acks
    | _ => trivial
  exact run_invariant_of_throughout preserve initial events isOpen acks

/-- In a stream that does not outrun the sequence space, a sequence number is an offset. -/
theorem CarriesAt.offset_eq {start : UInt32} {stream : List UInt8} {offset : Nat}
    {packet : Segment} (carries : CarriesAt start stream offset packet)
    (data : packet.payload ≠ []) (short : stream.length ≤ 2 ^ 32) :
    offset = (packet.seqNum - start).toNat := by
  have hb := carries.bound data
  have hpos := List.length_pos_iff.mpr data
  have distance := distance_seqAt start (Nat.zero_le offset) (by omega)
  rw [seqAt_zero, Nat.sub_zero] at distance
  rw [carries.1, distance]

/-- No sequence number is sent with two different byte values. -/
def OneValueEach (emitted : List Segment) : Prop :=
  ∀ p ∈ emitted, ∀ q ∈ emitted, ∀ i j, i < p.payload.length → j < q.payload.length →
    p.seqNum + UInt32.ofNat i = q.seqNum + UInt32.ofNat j → p.payload[i]? = q.payload[j]?

theorem Slices.oneValueEach {start : UInt32} {stream : List UInt8} {emitted : List Segment}
    (slices : Slices start stream emitted) (short : stream.length ≤ 2 ^ 32) :
    OneValueEach emitted := by
  intro p hp q hq i j hi hj same
  have dataP : p.payload ≠ [] := List.ne_nil_of_length_pos (Nat.zero_lt_of_lt hi)
  have dataQ : q.payload ≠ [] := List.ne_nil_of_length_pos (Nat.zero_lt_of_lt hj)
  obtain ⟨_, o, carriesP⟩ := slices p hp dataP
  obtain ⟨_, r, carriesQ⟩ := slices q hq dataQ
  have boundP := carriesP.bound dataP
  have boundQ := carriesQ.bound dataQ
  rw [carriesP.1, carriesQ.1, seqAt_add, seqAt_add] at same
  have positions : o + i = r + j := by
    rcases Nat.le_total (o + i) (r + j) with hle | hle
    · exact seqAt_inj start hle (by omega) same
    · exact (seqAt_inj start hle (by omega) same.symm).symm
  rw [carriesP.byte hi, carriesQ.byte hj, positions]

/-- What a step puts on the wire lies in the part of the stream that the send buffer
still holds. That part is shorter than the sequence space, so the number of a segment
says which of its bytes the segment carries. -/
theorem SendInvariant.emits {start : UInt32} {base : List UInt8} {e : Endpoint} {action : Action}
    (h : SendInvariant start base e) (isOpen : Endpoint.Open action) :
    ∃ out, (e.step action).emitted = e.emitted ++ out ∧
      ∀ packet ∈ out, packet.payload ≠ [] → ∃ offset,
        CarriesAt start (base ++ e.accepted) offset packet ∧
        (base ++ e.accepted).length ≤ offset + e.tcb.sendBuffer.size := by
  obtain ⟨una, nxt, aligned, _⟩ := h.counts
  have size := aligned.size_eq
  have lower := aligned.una_le
  cases Endpoint.step_sendMove isOpen h.established with
  | idle _ _ _ _ out emitted noData =>
    exact ⟨out, emitted, fun packet hmem data => absurd (noData packet hmem) data⟩
  | accept _ _ _ _ _ emitted =>
    exact ⟨[], by rw [emitted, List.append_nil], by simp⟩
  | transmit _ _ _ _ emitted _ =>
    refine ⟨_, emitted, fun packet hmem _ => ?_⟩
    rw [List.mem_singleton.mp hmem]
    exact ⟨nxt, aligned.nextData_carries, by omega⟩
  | retransmit _ _ _ _ emitted =>
    refine ⟨_, emitted, fun packet hmem _ => ?_⟩
    rw [List.mem_singleton.mp hmem]
    exact ⟨una, aligned.oldestData_carries, by omega⟩
  | acknowledge _ _ _ _ _ _ _ _ _ out emitted noData =>
    exact ⟨out, emitted, fun packet hmem data => absurd (noData packet hmem) data⟩

/-- Every transmission of a byte, first or repeated, agrees with the accepted stream.
Offsets count from the start value without wrapping. A number names one offset in what
the send buffer holds, and one offset of the whole stream until the numbers are used up. -/
theorem retransmission_consistent (tcb : TransmissionControlBlock)
    (established : tcb.currentState = .established) (aligned : tcb.snd.nxt = tcb.snd.una)
    (nothing : tcb.sendBuffer.contents = []) (events : List Action)
    (isOpen : ∀ action ∈ events, Endpoint.Open action)
    (acks : Throughout Endpoint.step AckNumInWindow (.fresh tcb) events) :
    let e := run Endpoint.step (.fresh tcb) events
    let acknowledged := e.accepted.length - e.tcb.sendBuffer.size
    e.tcb.snd.una = seqAt tcb.snd.una acknowledged ∧
    e.tcb.sendBuffer.contents = e.accepted.drop acknowledged ∧
    e.tcb.inFlight.toNat ≤ e.tcb.sendBuffer.size ∧
    (∀ packet ∈ e.emitted, packet.payload ≠ [] → packet.payload.length ≤ 1460 ∧
      ∃ offset, CarriesAt tcb.snd.una e.accepted offset packet ∧
        (e.accepted.length ≤ 2 ^ 32 → offset = (packet.seqNum - tcb.snd.una).toNat)) ∧
    (∀ action, Endpoint.Open action → ∃ out, (e.step action).emitted = e.emitted ++ out ∧
      ∀ packet ∈ out, packet.payload ≠ [] → ∃ offset,
        CarriesAt tcb.snd.una e.accepted offset packet ∧ acknowledged ≤ offset) ∧
    (e.accepted.length ≤ 2 ^ 32 → OneValueEach e.emitted) := by
  have initial := SendInvariant.initial established aligned
  rw [nothing] at initial
  have final := initial.run events isOpen acks
  intro e acknowledged
  obtain ⟨una, nxt, counts, _⟩ := final.counts
  have slices := final.slices
  rw [List.nil_append] at counts slices
  have hcount : acknowledged = una := by
    have hle := Nat.le_trans counts.una_le counts.nxt_le
    have hsize := counts.size_eq
    change e.tcb.sendBuffer.size = e.accepted.length - una at hsize
    change una ≤ e.accepted.length at hle
    change e.accepted.length - e.tcb.sendBuffer.size = una
    omega
  refine ⟨?_, ?_, counts.inFlight_le, ?_, ?_, slices.oneValueEach⟩
  · rw [hcount]
    exact counts.una_eq
  · rw [hcount]
    exact counts.contents_eq
  · intro packet hmem data
    obtain ⟨short, offset, carries⟩ := slices packet hmem data
    exact ⟨short, offset, carries, carries.offset_eq data⟩
  · intro action isOpen
    obtain ⟨out, emitted, carried⟩ := final.emits isOpen
    refine ⟨out, emitted, fun packet hmem data => ?_⟩
    obtain ⟨offset, carries, within⟩ := carried packet hmem data
    rw [List.nil_append] at carries within
    exact ⟨offset, carries, Nat.sub_le_iff_le_add.mpr within⟩

/-- Three bytes, sent and sent again after the timeout, then acknowledged in part. -/
theorem retransmission_consistent_three_bytes :
    let events : List Action := [.send [1, 2, 3], .processBlock 0,
      .checkRetransmissions 500000000, .receive (sampleSegment 0 2 65535 [])]
    let e := run Endpoint.step (.fresh sampleTcb) events
    e.emitted.length = 2 ∧ e.accepted = [1, 2, 3] ∧ e.tcb.snd.una = seqAt 0 2 := by
  intro events e
  have held := retransmission_consistent sampleTcb rfl rfl rfl events
    (by simp [events, Endpoint.Open, sampleSegment])
    ⟨trivial, trivial, trivial, by change UInt32.toNat _ ≤ UInt32.toNat _; decide, trivial⟩
  exact ⟨by decide, by decide, held.1.trans (by decide)⟩

/-- An awake sender with an open window, whose stream starts at sequence number 0. -/
structure Sending (stream : List UInt8) (una nxt : Nat) (e : Endpoint) : Prop where
  established : e.tcb.currentState = .established
  awake : e.waiting = none
  wnd : e.tcb.snd.wnd = 65535
  aligned : SendAligned 0 stream una nxt e.tcb

namespace Sending
variable {stream : List UInt8} {una nxt : Nat} {e : Endpoint}

theorem accept (h : Sending stream stream.length stream.length e) (byte : UInt8) :
    Sending (stream ++ [byte]) stream.length stream.length (e.step (.send [byte])) ∧
    (e.step (.send [byte])).emitted = e.emitted := by
  have empty : e.tcb.sendBuffer.size = 0 := by
    rw [h.aligned.size_eq, Nat.sub_self]
  have room : e.tcb.sendBuffer.canWrite = true := by
    rw [BlockingBuffer.canWrite_iff, empty]
    exact Or.inl (by decide)
  have fits : [byte].length ≤ e.tcb.sendBuffer.availableCapacity := by
    rw [BlockingBuffer.availableCapacity_eq, empty, List.length_singleton]
    decide
  have contents := BlockingBuffer.contents_store_of_fits _ fits
  rw [h.aligned.contents_eq, List.drop_length, List.nil_append] at contents
  rw [Endpoint.step, Endpoint.act_send room]
  refine ⟨⟨h.established, h.awake, h.wnd, h.aligned.una_eq, h.aligned.nxt_eq, Nat.le_refl _, ?_,
    ?_⟩, rfl⟩
  · rw [List.length_append]
    exact Nat.le_add_right _ _
  · rw [List.drop_left]
    exact contents

theorem emit {byte : UInt8}
    (h : Sending (stream ++ [byte]) stream.length stream.length e) :
    Sending (stream ++ [byte]) stream.length (stream.length + 1) (e.step (.processBlock 0)) ∧
    ∃ packet, (e.step (.processBlock 0)).emitted = e.emitted ++ [packet] ∧
      packet.seqNum = seqAt 0 stream.length ∧ packet.payload = [byte] := by
  have data : e.tcb.nextData = [byte] := by
    rw [h.aligned.nextData_eq, List.drop_left, h.wnd, Nat.sub_self]
    rfl
  have transmits : TransmissionControlBlock.TransmitsData e.tcb.currentState = true := by
    rw [h.established]
    rfl
  have step : e.step (.processBlock 0) = (e.perform
      { tcb := e.tcb.transmitted 0
        out := [e.tcb.createWriterTcpPacket [byte] e.tcb.snd.nxt]
        dirty := (e.tcb.transmitted 0).hasUnsentInWindow }).1 := by
    simp [Endpoint.step, Endpoint.act, Endpoint.daemon, h.awake,
      TransmissionControlBlock.processBlock_of_transmits transmits, data]
  rw [step]
  refine ⟨⟨h.established, h.awake, h.wnd, h.aligned.una_eq, ?_, Nat.le_succ _, ?_,
    h.aligned.contents_eq⟩, _, rfl, h.aligned.nxt_eq, rfl⟩
  · change e.tcb.snd.nxt + UInt32.ofNat e.tcb.nextData.length = _
    rw [data, h.aligned.nxt_eq, seqAt_add, List.length_singleton]
  · rw [List.length_append, List.length_singleton]

/-- The peer acknowledges everything sent and advertises the same window again. -/
theorem acknowledge (h : Sending stream una nxt e) {packet : Segment} (hack : packet.ack = true)
    (notFin : packet.fin = false) (noData : packet.payload = [])
    (name : packet.ackNum = seqAt 0 nxt) (window : packet.window = 65535) :
    Sending stream nxt nxt (e.step (.receive packet)) ∧
    (e.step (.receive packet)).emitted = e.emitted ∧ AckNumInWindow e (.receive packet) := by
  have aligned := h.aligned.afterAck hack name h.aligned.una_le (Nat.le_refl nxt)
  have wnd : (e.tcb.afterAck packet).snd.wnd = 65535 := by
    rw [e.tcb.afterAck_wnd packet hack, window]
    rfl
  rw [Endpoint.step_receive_awake h.awake h.established,
    TransmissionControlBlock.handleEstablishedState_of_not_fin _ notFin, if_pos noData]
  refine ⟨⟨?_, h.awake, wnd, aligned⟩, List.append_nil _, ?_⟩
  · exact (e.tcb.afterAck_currentState packet).trans h.established
  · rw [AckNumInWindow, name, ← h.aligned.nxt_eq]
    exact Nat.le_refl _

/-- One byte goes over and is acknowledged. -/
theorem exchange (h : Sending stream stream.length stream.length e) (byte : UInt8) :
    ∃ events, (∀ action ∈ events, Endpoint.Open action) ∧
      Throughout Endpoint.step AckNumInWindow e events ∧
      Sending (stream ++ [byte]) (stream.length + 1) (stream.length + 1)
        (run Endpoint.step e events) ∧
      ∃ packet, (run Endpoint.step e events).emitted = e.emitted ++ [packet] ∧
        packet.seqNum = seqAt 0 stream.length ∧ packet.payload = [byte] := by
  obtain ⟨accepted, same⟩ := h.accept byte
  obtain ⟨sent, packet, emitted, seqNum, payload⟩ := accepted.emit
  let answer := sampleSegment 0 (seqAt 0 (stream.length + 1)) 65535 []
  obtain ⟨acknowledged, silent, within⟩ : Sending _ _ _ (Endpoint.step _ (.receive answer)) ∧ _ :=
    sent.acknowledge rfl rfl rfl rfl rfl
  refine ⟨[.send [byte], .processBlock 0, .receive answer], by simp [Endpoint.Open, answer,
    sampleSegment], ⟨trivial, trivial, within, trivial⟩, acknowledged, packet, ?_, seqNum, payload⟩
  rw [run_cons, run_cons, run_cons, run_nil, silent, emitted, same]

/-- Any number of bytes goes over, one at a time. -/
theorem exchanges (h : Sending stream stream.length stream.length e) (count : Nat) :
    ∃ events, (∀ action ∈ events, Endpoint.Open action) ∧
      Throughout Endpoint.step AckNumInWindow e events ∧
      e.emitted <+: (run Endpoint.step e events).emitted ∧
      ∃ longer, longer.length = stream.length + count ∧
        Sending longer longer.length longer.length (run Endpoint.step e events) := by
  induction count with
  | zero => exact ⟨[], by simp, trivial, List.prefix_rfl, stream, rfl, h⟩
  | succ count ih =>
    obtain ⟨events, isOpen, acks, kept, longer, length, sending⟩ := ih
    obtain ⟨more, isOpenMore, acksMore, next, packet, emitted, _⟩ := sending.exchange 0
    refine ⟨events ++ more, ?_, (throughout_append _ _).mpr ⟨acks, acksMore⟩, ?_,
      longer ++ [0], ?_, ?_⟩
    · rw [List.forall_mem_append]
      exact ⟨isOpen, isOpenMore⟩
    · rw [run_append, emitted]
      exact kept.trans (List.prefix_append _ _)
    · rw [List.length_append, List.length_singleton, length, Nat.add_assoc]
    · rw [run_append, List.length_append, List.length_singleton]
      exact next

end Sending

/-- After 2^32 bytes the numbers start again: number 0 is sent with 0 and then with 1. -/
theorem sequence_number_reused : ¬ ∀ (tcb : TransmissionControlBlock),
    tcb.currentState = .established → tcb.snd.nxt = tcb.snd.una → tcb.sendBuffer.contents = [] →
    ∀ events : List Action, (∀ action ∈ events, Endpoint.Open action) →
      Throughout Endpoint.step AckNumInWindow (.fresh tcb) events →
      OneValueEach (run Endpoint.step (.fresh tcb) events).emitted := by
  intro never
  have initial : Sending [] 0 0 (.fresh sampleTcb) :=
    ⟨rfl, rfl, rfl, rfl, rfl, Nat.le_refl _, Nat.le_refl _, rfl⟩
  obtain ⟨first, openFirst, acksFirst, started, p, emittedP, seqP, payloadP⟩ := initial.exchange 0
  obtain ⟨middle, openMiddle, acksMiddle, kept, longer, length, around⟩ :=
    Sending.exchanges started (2 ^ 32 - 1)
  obtain ⟨last, openLast, acksLast, _, q, emittedQ, seqQ, payloadQ⟩ := around.exchange 1
  have acks := (throughout_append _ _).mpr ⟨acksFirst, (throughout_append _ _).mpr
    ⟨acksMiddle, acksLast⟩⟩
  have isOpen : ∀ action ∈ first ++ (middle ++ last), Endpoint.Open action := by
    simp only [List.forall_mem_append]
    exact ⟨openFirst, openMiddle, openLast⟩
  have once := never sampleTcb rfl rfl rfl _ isOpen acks
  rw [run_append, run_append, emittedQ] at once
  have sentP : p ∈ (run Endpoint.step (run Endpoint.step (.fresh sampleTcb) first) middle).emitted := by
    apply kept.subset
    rw [emittedP]
    exact List.mem_append_right _ List.mem_cons_self
  have wrapped : q.seqNum = p.seqNum := by
    rw [seqQ, seqP, length]
    rfl
  have same := once p (List.mem_append_left _ sentP) q
    (List.mem_append_right _ List.mem_cons_self) 0 0 (by simp [payloadP]) (by simp [payloadQ])
    (by rw [wrapped])
  rw [payloadP, payloadQ] at same
  exact absurd same (by decide)

end TinyCP
