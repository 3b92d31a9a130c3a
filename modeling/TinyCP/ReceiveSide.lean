import TinyCP.SendSide

/-!
# In-order delivery on the receiving side

ESTABLISHED appends every payload to the receive buffer and never looks at its
sequence number. Segments that are true slices of a peer stream are therefore
delivered in order exactly when the slices arrive back to back; a duplicate, a
gap or an overlap is appended where the next byte of the stream should stand.
-/
namespace TinyCP
open SequenceSpace EventRun

namespace Endpoint

theorem step_receive_fits {e : Endpoint} {packet : Segment} (notFin : packet.fin = false)
    (established : e.tcb.currentState = .established) (awake : e.waiting = none)
    (fits : packet.payload.length ≤ e.tcb.recvBuffer.availableCapacity) :
    (e.step (.receive packet)).waiting = none ∧
    (e.step (.receive packet)).appended = e.appended ++ packet.payload ∧
    (e.step (.receive packet)).tcb.recvBuffer.size =
      e.tcb.recvBuffer.size + packet.payload.length ∧
    (e.step (.receive packet)).tcb.rcv.nxt =
      e.tcb.rcv.nxt + UInt32.ofNat packet.payload.length := by
  have buffer := e.tcb.afterAck_recvBuffer packet
  have rcv := e.tcb.afterAck_rcv packet
  rw [step_receive_awake awake established]
  rcases e.tcb.handleEstablishedState_cases notFin with ⟨nothing, h⟩ | ⟨_, _, h⟩ | ⟨data, full, _⟩
  · rw [h, nothing]
    refine ⟨awake, ?_, ?_, ?_⟩
    · change e.delivered ++ (e.tcb.afterAck packet).recvBuffer.contents = _
      rw [buffer, List.append_nil]
      rfl
    · change (e.tcb.afterAck packet).recvBuffer.size = _
      rw [buffer]
      rfl
    · change (e.tcb.afterAck packet).rcv.nxt = _
      rw [rcv, List.length_nil]
      exact (UInt32.add_zero _).symm
  · rw [h]
    refine ⟨awake, ?_, ?_, ?_⟩
    · change e.delivered ++ ((e.tcb.afterAck packet).recvBuffer.store packet.payload).1.contents = _
      rw [buffer, BlockingBuffer.contents_store_of_fits _ fits, ← List.append_assoc]
      rfl
    · change ((e.tcb.afterAck packet).recvBuffer.store packet.payload).1.size = _
      rw [buffer, BlockingBuffer.size_store, Nat.min_eq_left fits]
    · change (e.tcb.afterAck packet).rcv.nxt + _ = _
      rw [rcv]
  · rw [BlockingBuffer.canWrite_of_fits data fits] at full
    cases full

theorem step_recv (e : Endpoint) (len : Nat) :
    (e.step (.recv len)).waiting = e.waiting ∧
    (e.step (.recv len)).appended = e.appended ∧
    (e.step (.recv len)).tcb.recvBuffer.size =
      e.tcb.recvBuffer.size - min len e.tcb.recvBuffer.size ∧
    (e.step (.recv len)).tcb.rcv.nxt = e.tcb.rcv.nxt := by
  by_cases ready : e.tcb.recvBuffer.canRead = true
  · simp only [step, act, TransmissionControlBlock.recv, BlockingBuffer.read, if_pos ready,
      Option.map_some]
    refine ⟨trivial, ?_, BlockingBuffer.size_fetch _ _, trivial⟩
    simp only [appended, BlockingBuffer.fetch_bytes, BlockingBuffer.contents_fetch,
      List.append_assoc, List.take_append_drop]
  · have blocked : e.step (.recv len) = e := by
      simp only [step, act, TransmissionControlBlock.recv, BlockingBuffer.read, if_neg ready,
        Option.map_none]
    rw [BlockingBuffer.canRead_iff, not_or] at ready
    rw [blocked]
    exact ⟨rfl, rfl, by omega, rfl⟩

end Endpoint

/-- What happens at the receiver: a slice of the peer's stream arrives, in a segment
whose other fields are those of `header`, or the application reads. -/
inductive Arrival where
  | segment (offset len : Nat) (header : Segment)
  | drain (len : Nat)

namespace Arrival

/-- The slice at its true sequence number, in a segment without FIN. -/
def slice (first : UInt32) (stream : List UInt8) (offset len : Nat) (header : Segment) : Segment :=
  { header with
    seqNum := seqAt first offset
    fin := false
    payload := (stream.drop offset).take len }

def toAction (first : UInt32) (stream : List UInt8) : Arrival → Action
  | .segment offset len header => .receive (slice first stream offset len header)
  | .drain len => .recv len

/-- The segments are slices of a stream of this length. -/
def Within (bound : Nat) (schedule : List Arrival) : Prop :=
  ∀ offset len header, segment offset len header ∈ schedule → offset + len ≤ bound

/-- With `occupied` bytes in the buffer at first, every payload finds enough free space. -/
def Fits : Nat → List Arrival → Prop
  | _, [] => True
  | occupied, .segment _ len _ :: rest => occupied + len ≤ 65535 ∧ Fits (occupied + len) rest
  | occupied, .drain len :: rest => Fits (occupied - min len occupied) rest

/-- Each slice that carries data begins where the previous one ended. -/
def Consecutive : Nat → List Arrival → Prop
  | _, [] => True
  | next, .segment offset len _ :: rest => (len = 0 ∨ offset = next) ∧ Consecutive (next + len) rest
  | next, .drain _ :: rest => Consecutive next rest

end Arrival

/-- At every moment what was appended is a prefix of the stream, and `RCV.NXT` counts it. -/
def DeliveredInOrder (tcb : TransmissionControlBlock) (stream : List UInt8)
    (schedule : List Arrival) : Prop :=
  Always Endpoint.step
    (fun e => e.appended <+: stream ∧ e.tcb.rcv.nxt = seqAt (tcb.rcv.irs + 1) e.appended.length)
    (.fresh tcb) (schedule.map (Arrival.toAction (tcb.rcv.irs + 1) stream))

/-- The receiver after the first `next` bytes of the stream, `occupied` of them unread. -/
structure Receiving (first : UInt32) (stream : List UInt8) (next occupied : Nat)
    (e : Endpoint) : Prop where
  established : e.tcb.currentState = .established
  awake : e.waiting = none
  appended_eq : e.appended = stream.take next
  next_le : next ≤ stream.length
  size_eq : e.tcb.recvBuffer.size = occupied
  rcv_eq : e.tcb.rcv.nxt = seqAt first next

theorem Receiving.inOrder {first : UInt32} {stream : List UInt8} {next occupied : Nat}
    {e : Endpoint} (h : Receiving first stream next occupied e) :
    e.appended <+: stream ∧ e.tcb.rcv.nxt = seqAt first e.appended.length := by
  rw [h.appended_eq, List.length_take, Nat.min_eq_left h.next_le]
  exact ⟨List.take_prefix _ _, h.rcv_eq⟩

theorem Receiving.drain {first : UInt32} {stream : List UInt8} {next occupied : Nat}
    {e : Endpoint} (h : Receiving first stream next occupied e) (len : Nat) :
    Receiving first stream next (occupied - min len occupied) (e.step (.recv len)) := by
  obtain ⟨awake, appended, size, rcv⟩ := e.step_recv len
  exact ⟨Endpoint.step_established trivial h.established, awake.trans h.awake,
    appended.trans h.appended_eq, h.next_le, by rw [size, h.size_eq], rcv.trans h.rcv_eq⟩

/-- Any slice that fits is appended, wherever it belongs in the stream. -/
theorem Receiving.segment {first : UInt32} {stream : List UInt8} {next occupied : Nat}
    {e : Endpoint} (h : Receiving first stream next occupied e) {offset len : Nat}
    (header : Segment) (within : offset + len ≤ stream.length) (fits : occupied + len ≤ 65535) :
    let e' := e.step ((Arrival.segment offset len header).toAction first stream)
    e'.tcb.currentState = .established ∧ e'.waiting = none ∧
    e'.appended = stream.take next ++ (stream.drop offset).take len ∧
    e'.tcb.recvBuffer.size = occupied + len ∧ e'.tcb.rcv.nxt = seqAt first (next + len) := by
  have hlen : (Arrival.slice first stream offset len header).payload.length = len := by
    rw [Arrival.slice, List.length_take, List.length_drop]
    omega
  have room : (Arrival.slice first stream offset len header).payload.length ≤
      e.tcb.recvBuffer.availableCapacity := by
    rw [hlen, TransmissionControlBlock.recvCapacity_eq, h.size_eq]
    omega
  have notFin : (Arrival.slice first stream offset len header).fin = false := rfl
  obtain ⟨awake, appended, size, rcv⟩ :=
    Endpoint.step_receive_fits notFin h.established h.awake room
  refine ⟨Endpoint.step_established notFin h.established, awake, ?_, ?_, ?_⟩
  · rw [← h.appended_eq]
    exact appended
  · exact size.trans (by rw [h.size_eq, hlen])
  · exact rcv.trans (by rw [h.rcv_eq, hlen, seqAt_add])

theorem Receiving.nextSegment {first : UInt32} {stream : List UInt8} {next occupied : Nat}
    {e : Endpoint} (h : Receiving first stream next occupied e) {offset len : Nat}
    (header : Segment) (within : offset + len ≤ stream.length) (fits : occupied + len ≤ 65535)
    (consecutive : len = 0 ∨ offset = next) :
    Receiving first stream (next + len) (occupied + len)
      (e.step ((Arrival.segment offset len header).toAction first stream)) := by
  obtain ⟨established, awake, appended, size, rcv⟩ := h.segment header within fits
  have hnext := h.next_le
  refine ⟨established, awake, ?_, ?_, size, rcv⟩
  · rw [appended]
    rcases consecutive with rfl | rfl
    · rw [List.take_zero, List.append_nil, Nat.add_zero]
    · rw [List.take_add]
  · rcases consecutive with rfl | rfl
    · exact hnext
    · exact within

theorem Receiving.run {first : UInt32} {stream : List UInt8} {schedule : List Arrival}
    {next occupied : Nat} {e : Endpoint} (h : Receiving first stream next occupied e)
    (within : Arrival.Within stream.length schedule) (fits : Arrival.Fits occupied schedule)
    (consecutive : Arrival.Consecutive next schedule) :
    Always Endpoint.step
      (fun e => e.appended <+: stream ∧ e.tcb.rcv.nxt = seqAt first e.appended.length)
      e (schedule.map (Arrival.toAction first stream)) := by
  induction schedule generalizing next occupied e with
  | nil =>
    intro done hpre
    rw [List.map_nil, List.prefix_nil] at hpre
    subst hpre
    exact h.inOrder
  | cons arrival rest ih =>
    have withinRest : Arrival.Within stream.length rest :=
      fun offset len header hmem => within offset len header (List.mem_cons_of_mem arrival hmem)
    refine always_cons h.inOrder ?_
    cases arrival with
    | segment offset len header =>
      have inside := within offset len header List.mem_cons_self
      exact ih (h.nextSegment header inside fits.1 consecutive.1) withinRest fits.2 consecutive.2
    | drain len => exact ih (h.drain len) withinRest fits consecutive

/-- A schedule that is not consecutive confuses two fixed positions: every stream that
is delivered in order all the same has equal bytes there. -/
theorem Receiving.confused {schedule : List Arrival} {next : Nat}
    (misplaced : ¬ Arrival.Consecutive next schedule) :
    ∃ position offset, position ≠ offset ∧
      ∀ (first : UInt32) (stream : List UInt8) (occupied : Nat) (e : Endpoint),
        Receiving first stream next occupied e → Arrival.Within stream.length schedule →
        Arrival.Fits occupied schedule →
        Always Endpoint.step
          (fun e => e.appended <+: stream ∧ e.tcb.rcv.nxt = seqAt first e.appended.length)
          e (schedule.map (Arrival.toAction first stream)) →
        offset < stream.length ∧ stream[position]? = stream[offset]? := by
  induction schedule generalizing next with
  | nil => exact False.elim (misplaced trivial)
  | cons arrival rest ih =>
    have tail : ∀ bound, Arrival.Within bound (arrival :: rest) → Arrival.Within bound rest :=
      fun bound within offset len header hmem =>
        within offset len header (List.mem_cons_of_mem arrival hmem)
    cases arrival with
    | drain len =>
      obtain ⟨position, offset, different, same⟩ := ih misplaced
      refine ⟨position, offset, different, ?_⟩
      intro first stream occupied e h within fits inOrder
      exact same first stream _ _ (h.drain len) (tail _ within) fits (always_tail inOrder)
    | segment offset len header =>
      by_cases good : len = 0 ∨ offset = next
      · obtain ⟨position, wrong, different, same⟩ := ih (fun later => misplaced ⟨good, later⟩)
        refine ⟨position, wrong, different, ?_⟩
        intro first stream occupied e h within fits inOrder
        have inside := within offset len header List.mem_cons_self
        exact same first stream _ _ (h.nextSegment header inside fits.1 good) (tail _ within)
          fits.2 (always_tail inOrder)
      · rw [not_or] at good
        refine ⟨next, offset, fun h => good.2 h.symm, ?_⟩
        intro first stream occupied e h within fits inOrder
        have inside := within offset len header List.mem_cons_self
        -- the misplaced slice stands where the stream continues
        have appended := (inOrder [(Arrival.segment offset len header).toAction first stream]
          ⟨_, rfl⟩).1
        rw [run_cons, run_nil, (h.segment header inside fits.1).2.2.1] at appended
        have continues : (stream.drop offset).take len <+: stream.drop next := by
          rw [← List.prefix_append_right_inj (stream.take next), List.take_append_drop]
          exact appended
        obtain ⟨more, hmore⟩ := continues
        have nonempty : 0 < ((stream.drop offset).take len).length := by
          rw [List.length_take, List.length_drop]
          omega
        have byte : (stream.drop next)[0]? = (stream.drop offset)[0]? := by
          rw [← hmore, List.getElem?_append_left nonempty,
            List.getElem?_take_of_lt (Nat.pos_of_ne_zero good.1)]
        rw [List.getElem?_drop, List.getElem?_drop] at byte
        exact ⟨by omega, byte⟩

theorem Arrival.exists_within (schedule : List Arrival) :
    ∃ least, ∀ bound, least ≤ bound → Arrival.Within bound schedule := by
  induction schedule with
  | nil => exact ⟨0, fun _ _ _ _ _ h => absurd h List.not_mem_nil⟩
  | cons arrival rest ih =>
    obtain ⟨least, enough⟩ := ih
    cases arrival with
    | drain n =>
      refine ⟨least, fun bound hle offset len header hmem => ?_⟩
      rcases List.mem_cons.mp hmem with heq | hmem
      · cases heq
      · exact enough bound hle offset len header hmem
    | segment o l h =>
      refine ⟨max least (o + l), fun bound hle offset len header hmem => ?_⟩
      rcases List.mem_cons.mp hmem with heq | hmem
      · cases heq
        omega
      · exact enough bound (by omega) offset len header hmem

/-- Over all streams a schedule of slices that fit is delivered in order exactly when
the slices are consecutive: nothing is lost, repeated or reordered before it arrives. -/
theorem deliveredInOrder_iff (tcb : TransmissionControlBlock)
    (established : tcb.currentState = .established) (expects : tcb.rcv.nxt = tcb.rcv.irs + 1)
    (nothing : tcb.recvBuffer.contents = []) (schedule : List Arrival)
    (fits : Arrival.Fits 0 schedule) :
    (∀ stream, Arrival.Within stream.length schedule → DeliveredInOrder tcb stream schedule) ↔
      Arrival.Consecutive 0 schedule := by
  have initial : ∀ stream, Receiving (tcb.rcv.irs + 1) stream 0 0 (.fresh tcb) := fun stream =>
    { established := established
      awake := rfl
      appended_eq := nothing
      next_le := Nat.zero_le _
      size_eq := (tcb.recvBuffer.contents_eq_nil_iff).mp nothing
      rcv_eq := expects.trans (seqAt_zero _).symm }
  constructor
  · intro inOrder
    by_contra misplaced
    obtain ⟨position, offset, different, same⟩ := Receiving.confused misplaced
    obtain ⟨least, enough⟩ := Arrival.exists_within schedule
    -- a stream that marks the one position and nothing else
    let stream : List UInt8 := (List.replicate (max least (position + 1)) 0).set position 1
    have hlen : stream.length = max least (position + 1) := by
      simp only [stream, List.length_set, List.length_replicate]
    have within : Arrival.Within stream.length schedule := by
      rw [hlen]
      exact enough _ (Nat.le_max_left _ _)
    obtain ⟨inside, equal⟩ := same _ stream 0 _ (initial stream) within fits (inOrder stream within)
    have marked : stream[position]? = some 1 := by
      simp only [stream, List.getElem?_set_self', List.getElem?_replicate]
      rw [if_pos (by omega)]
      rfl
    have plain : stream[offset]? = some 0 := by
      rw [hlen] at inside
      simp only [stream, List.getElem?_set_ne different, List.getElem?_replicate]
      rw [if_pos inside]
    rw [marked, plain] at equal
    cases equal
  · intro consecutive stream within
    exact (initial stream).run within fits consecutive

/-- Three slices back to back, with a read between them. -/
theorem deliveredInOrder_three_slices :
    DeliveredInOrder { sampleTcb with rcv := { nxt := 1, irs := 0 } } [1, 2, 3, 4, 5]
      [.segment 0 2 (sampleSegment 0 0 65535 []), .segment 2 1 (sampleSegment 0 0 65535 []),
        .drain 2, .segment 3 2 (sampleSegment 0 0 65535 [])] := by
  refine (deliveredInOrder_iff { sampleTcb with rcv := { nxt := 1, irs := 0 } } rfl rfl rfl _
    (by simp [Arrival.Fits])).mpr (by simp [Arrival.Consecutive]) [1, 2, 3, 4, 5] ?_
  intro offset len header hmem
  simp only [List.mem_cons, Arrival.segment.injEq, reduceCtorEq, List.not_mem_nil, or_false,
    false_or] at hmem
  change offset + len ≤ 5
  omega

/-- A segment delivered twice, as a late acknowledgment makes the peer send it, is
appended twice. -/
theorem duplicate_breaks_order :
    ¬ DeliveredInOrder { sampleTcb with rcv := { nxt := 1, irs := 0 } } [1, 2]
      [.segment 0 2 (sampleSegment 0 0 65535 []), .segment 0 2 (sampleSegment 0 0 65535 [])] := by
  intro inOrder
  have appended := (inOrder _ List.prefix_rfl).1
  revert appended
  decide

end TinyCP
