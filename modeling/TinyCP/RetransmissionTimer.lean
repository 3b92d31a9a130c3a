import TinyCP.SendRuns

/-!
# When a retransmission is due

A segment with data starts the clock anew, and data that stays unacknowledged for RTO
after it is to be sent again. The source measures from `last_written`, which
`process_block_` sets whether it sends or not, and looks at ESTABLISHED connections
only. Two ghost variables tell what was really transmitted, and when.
-/
namespace TinyCP
open SequenceSpace EventRun

/-- An endpoint, the time of its last segment with data, and how many bytes at the
front of its send buffer have been transmitted. -/
structure Timed where
  endpoint : Endpoint
  lastData : Int
  outstanding : Nat

/-- The clock reading of an action that may transmit data. -/
def Action.clock : Action → Option Int
  | .processBlock now | .processDirty now | .checkRetransmissions now | .close now => some now
  | _ => none

namespace Timed

def fresh (tcb : TransmissionControlBlock) : Timed := ⟨.fresh tcb, 0, 0⟩

/-- Up to where the segments with data cover the send buffer, whose first byte has
the number `una`. -/
def coverage (una : UInt32) (segments : List Segment) : Nat :=
  ((segments.filter (·.payload ≠ [])).map fun packet =>
    (packet.seqNum - una).toNat + packet.payload.length).foldr max 0

def step (t : Timed) (action : Action) : Timed :=
  let (endpoint, out) := t.endpoint.act action
  { endpoint := endpoint
    lastData := if out.all (·.payload = []) then t.lastData else action.clock.getD t.lastData
    outstanding := max t.outstanding (coverage t.endpoint.tcb.snd.una out) -
      (t.endpoint.tcb.sendBuffer.size - endpoint.tcb.sendBuffer.size) }

/-- The connection has transmitted data that is not acknowledged, and RTO has passed. -/
structure Due (t : Timed) (now : Int) : Prop where
  state : TransmissionControlBlock.TransmitsData t.endpoint.tcb.currentState = true
  unacknowledged : 0 < t.outstanding
  expired : t.endpoint.tcb.rto ≤ now - t.lastData

/-- The oldest bytes go out again, at `SND.UNA`. -/
def Retransmits (t : Timed) (out : List Segment) : Prop :=
  ∃ packet ∈ out, packet.seqNum = t.endpoint.tcb.snd.una ∧
    packet.payload = t.endpoint.tcb.sendBuffer.contents.take (min t.outstanding 1460)

/-- No retransmission that is due is skipped by a check. -/
def NeverSkipped (t : Timed) (action : Action) : Prop :=
  ∀ now, action = .checkRetransmissions now → t.endpoint.waiting = none → t.Due now →
    t.Retransmits (t.endpoint.act action).2

/-- The check finds what is due: the connection is ESTABLISHED, `process_block_` has not
run on it since RTO, and as many bytes are in flight by the two sequence variables as
were transmitted. -/
structure Noticed (t : Timed) (now : Int) : Prop where
  established : t.endpoint.tcb.currentState = .established
  unprocessed : t.endpoint.tcb.rto ≤ now - t.endpoint.tcb.lastWritten
  counted : min (min t.endpoint.tcb.inFlight.toNat 1460) t.endpoint.tcb.sendBuffer.size =
    min (min t.outstanding 1460) t.endpoint.tcb.sendBuffer.size

def NoticesWhenDue (t : Timed) (action : Action) : Prop :=
  ∀ now, action = .checkRetransmissions now → t.endpoint.waiting = none → t.Due now → t.Noticed now

/-- A due retransmission is made exactly when the check finds it. -/
theorem checkRetransmission_out_iff {t : Timed} {now : Int} (due : t.Due now)
    (covered : t.outstanding ≤ t.endpoint.tcb.sendBuffer.size) :
    t.Retransmits (t.endpoint.tcb.checkRetransmission now).out ↔ t.Noticed now := by
  have positive := due.unacknowledged
  have length : t.endpoint.tcb.oldestData.length =
      min (min t.endpoint.tcb.inFlight.toNat 1460) t.endpoint.tcb.sendBuffer.size := by
    rw [TransmissionControlBlock.oldestData, List.length_take, BlockingBuffer.length_contents]
  constructor
  · rintro ⟨packet, member, _, payload⟩
    rcases t.endpoint.tcb.checkRetransmission_cases now with
      same | ⟨established, unprocessed, _, sent⟩
    · rw [same] at member
      cases member
    · rw [sent, List.mem_singleton] at member
      have bytes : t.endpoint.tcb.oldestData =
          t.endpoint.tcb.sendBuffer.contents.take (min t.outstanding 1460) := by
        rw [← payload, member]
        rfl
      refine ⟨established, unprocessed, ?_⟩
      rw [← length, bytes, List.length_take, BlockingBuffer.length_contents]
  · intro noticed
    have count := noticed.counted
    have some : t.endpoint.tcb.oldestData ≠ [] := by
      apply List.ne_nil_of_length_pos
      omega
    rw [TransmissionControlBlock.checkRetransmission_eq,
      if_pos ⟨noticed.established, noticed.unprocessed, some⟩]
    refine ⟨_, List.mem_singleton_self _, rfl, ?_⟩
    change t.endpoint.tcb.oldestData = _
    rw [TransmissionControlBlock.oldestData, List.take_eq_take_iff, BlockingBuffer.length_contents]
    exact count

theorem coverage_le {una : UInt32} {segments : List Segment} {size : Nat}
    (within : ∀ packet ∈ segments, packet.payload ≠ [] →
      (packet.seqNum - una).toNat + packet.payload.length ≤ size) :
    coverage una segments ≤ size := by
  induction segments with
  | nil => exact Nat.zero_le size
  | cons packet segments ih =>
    have rest := ih fun other member => within other (List.mem_cons_of_mem packet member)
    by_cases data : packet.payload = []
    · have skipped : coverage una (packet :: segments) = coverage una segments := by
        simp [coverage, data]
      rwa [skipped]
    · have counted : coverage una (packet :: segments) =
          max ((packet.seqNum - una).toNat + packet.payload.length) (coverage una segments) := by
        simp [coverage, data]
      rw [counted]
      exact Nat.max_le.mpr ⟨within packet List.mem_cons_self data, rest⟩

/-- The data of the segment lies in the block's send buffer. -/
def Within (tcb : TransmissionControlBlock) (packet : Segment) : Prop :=
  packet.payload ≠ [] →
    (packet.seqNum - tcb.snd.una).toNat + packet.payload.length ≤ tcb.sendBuffer.size

theorem within_processBlock (tcb : TransmissionControlBlock) (now : Int) :
    ∀ packet ∈ (tcb.processBlock now).out, Within tcb packet := by
  intro packet member data
  rcases tcb.processBlock_out now packet member with control | rfl
  · exact absurd control data
  · have length := tcb.length_nextData
    have some : 0 < tcb.nextData.length := List.length_pos_iff.mpr data
    change tcb.inFlight.toNat + tcb.nextData.length ≤ tcb.sendBuffer.size
    omega

theorem within_checkRetransmission (tcb : TransmissionControlBlock) (now : Int) :
    ∀ packet ∈ (tcb.checkRetransmission now).out, Within tcb packet := by
  intro packet member _
  rcases tcb.checkRetransmission_cases now with same | ⟨_, _, _, sent⟩
  · rw [same] at member
    cases member
  · rw [sent, List.mem_singleton] at member
    subst member
    change (tcb.snd.una - tcb.snd.una).toNat + tcb.oldestData.length ≤ _
    rw [UInt32.sub_self, TransmissionControlBlock.oldestData, List.length_take,
      BlockingBuffer.length_contents]
    change 0 + _ ≤ _
    omega

theorem within_closeConnection (tcb : TransmissionControlBlock) (now : Int) :
    ∀ packet ∈ (tcb.closeConnection now).out, Within tcb packet := by
  have withFin : ∀ state, ∀ packet ∈ (tcb.closeWithFin now state).out, Within tcb packet := by
    intro state packet member
    rcases List.mem_append.mp member with flushed | fin
    · exact within_processBlock tcb now packet flushed
    · rw [List.mem_singleton.mp fin]
      exact fun data => absurd rfl data
  rw [TransmissionControlBlock.closeConnection]
  split
  · exact withFin .finWait1
  · exact withFin .lastAck
  · intro packet member
    cases member

theorem within_act (e : Endpoint) (action : Action) :
    ∀ packet ∈ (e.act action).2, Within e.tcb packet := by
  have done := e.act_done action
  generalize e.act action = result at done ⊢
  intro packet member
  cases done with
  | stay => cases member
  | send data _ => cases member
  | recv len _ => cases member
  | processBlock now _ => exact within_processBlock e.tcb now packet member
  | processDirty now _ _ => exact within_processBlock e.tcb now packet member
  | checkRetransmissions now _ => exact within_checkRetransmission e.tcb now packet member
  | receive arrived _ => exact fun data => absurd (e.tcb.receive_noData arrived packet member) data
  | resumeWrite payload _ =>
    rcases e.tcb.storePayload_cases payload with ⟨_, stored⟩ | ⟨_, blocked⟩
    · rw [stored] at member
      rw [List.mem_singleton.mp member]
      exact fun data => absurd rfl data
    · rw [blocked] at member
      cases member
  | close now => exact within_closeConnection e.tcb now packet member

/-- What was transmitted and is not acknowledged is still in the send buffer. -/
def Covered (t : Timed) : Prop :=
  t.outstanding ≤ t.endpoint.tcb.sendBuffer.size

theorem Covered.step {t : Timed} (h : t.Covered) (action : Action) : (t.step action).Covered := by
  have new : coverage t.endpoint.tcb.snd.una (t.endpoint.act action).2 ≤
      t.endpoint.tcb.sendBuffer.size := coverage_le (within_act t.endpoint action)
  have old : t.outstanding ≤ t.endpoint.tcb.sendBuffer.size := h
  have both := Nat.max_le.mpr ⟨old, new⟩
  change max t.outstanding (coverage t.endpoint.tcb.snd.una (t.endpoint.act action).2) -
    (t.endpoint.tcb.sendBuffer.size - (t.endpoint.act action).1.tcb.sendBuffer.size) ≤
      (t.endpoint.act action).1.tcb.sendBuffer.size
  omega

theorem neverSkipped_iff {t : Timed} (h : t.Covered) (action : Action) :
    t.NeverSkipped action ↔ t.NoticesWhenDue action := by
  have check : ∀ now, t.endpoint.waiting = none →
      (t.endpoint.act (.checkRetransmissions now)).2 =
        (t.endpoint.tcb.checkRetransmission now).out := by
    intro now awake
    simp [Endpoint.act, Endpoint.daemon, awake, Endpoint.perform]
  constructor
  · rintro never now rfl awake due
    have sent := never now rfl awake due
    rw [check now awake] at sent
    exact (checkRetransmission_out_iff due h).mp sent
  · rintro notices now rfl awake due
    rw [check now awake]
    exact (checkRetransmission_out_iff due h).mpr (notices now rfl awake due)

/-- Along every run, whatever the clock reads, no due retransmission is skipped exactly when
each check that is due finds the connection ESTABLISHED, the time since `process_block_`
last ran at RTO or more, and the count of bytes in flight right. -/
theorem run_neverSkipped_iff (tcb : TransmissionControlBlock) (actions : List Action) :
    Throughout step NeverSkipped (fresh tcb) actions ↔
      Throughout step NoticesWhenDue (fresh tcb) actions := by
  have initial : (fresh tcb).Covered := Nat.zero_le _
  generalize fresh tcb = t at initial
  induction actions generalizing t with
  | nil => exact Iff.rfl
  | cons action actions ih =>
    exact and_congr (neverSkipped_iff initial action) (ih _ (initial.step action))

/-- A byte of `send` that the full window keeps back makes the daemon process the block, and
that puts the retransmission of the bytes before it off, as often as it happens. -/
theorem full_window_puts_check_off :
    ¬ Throughout step NeverSkipped (fresh { sampleTcb with snd.wnd := 3 })
      [.send [1, 2, 3], .processDirty 0, .send [4], .processDirty 400000000,
        .checkRetransmissions 600000000] := by
  intro never
  obtain ⟨packet, member, _⟩ := never.2.2.2.2.1 600000000 rfl rfl ⟨rfl, by decide, by decide⟩
  have silent : ((run step (fresh { sampleTcb with snd.wnd := 3 })
      [.send [1, 2, 3], .processDirty 0, .send [4], .processDirty 400000000]).endpoint.act
        (.checkRetransmissions 600000000)).2.length = 0 := by decide
  exact absurd (List.length_pos_of_mem member) (Nat.not_lt_of_le (Nat.le_of_eq silent))

/-- Both ways of counting the bytes in flight agree, and they are in the send buffer. -/
structure Counted (t : Timed) : Prop where
  established : t.endpoint.tcb.currentState = .established
  outstanding_eq : t.outstanding = t.endpoint.tcb.inFlight.toNat
  inFlight_le : t.endpoint.tcb.inFlight.toNat ≤ t.endpoint.tcb.sendBuffer.size

theorem coverage_of_noData {una : UInt32} {segments : List Segment}
    (noData : ∀ packet ∈ segments, packet.payload = []) : coverage una segments = 0 :=
  Nat.le_zero.mp (coverage_le fun packet member data => absurd (noData packet member) data)

theorem coverage_singleton (una : UInt32) {packet : Segment} (data : packet.payload ≠ []) :
    coverage una [packet] = (packet.seqNum - una).toNat + packet.payload.length := by
  simp [coverage, data]

theorem Counted.of_counts {t : Timed} {action : Action} {covered flight size : Nat}
    (established : (t.endpoint.step action).tcb.currentState = .established)
    (hcovered : coverage t.endpoint.tcb.snd.una (t.endpoint.act action).2 = covered)
    (hflight : (t.endpoint.step action).tcb.inFlight.toNat = flight)
    (hsize : (t.endpoint.step action).tcb.sendBuffer.size = size)
    (count : max t.outstanding covered - (t.endpoint.tcb.sendBuffer.size - size) = flight)
    (fits : flight ≤ size) : (t.step action).Counted := by
  subst hcovered hflight hsize
  exact ⟨established, count, fits⟩

/-- The invariant is kept as long as no acknowledgment passes `SND.NXT`. -/
theorem Counted.step {t : Timed} (h : t.Counted) {action : Action} (isOpen : Endpoint.Open action)
    (acks : AcksInFlight t.endpoint action) : (t.step action).Counted := by
  obtain ⟨established, outstanding, inFlight⟩ := h
  have stays := Endpoint.step_established isOpen established
  have wire : ∀ out, (t.endpoint.step action).emitted = t.endpoint.emitted ++ out →
      (t.endpoint.act action).2 = out := by
    intro out emitted
    exact List.append_cancel_left ((t.endpoint.act_emitted action).symm.trans emitted)
  have same : (t.endpoint.step action).tcb.snd.una = t.endpoint.tcb.snd.una →
      (t.endpoint.step action).tcb.snd.nxt = t.endpoint.tcb.snd.nxt →
      (t.endpoint.step action).tcb.inFlight.toNat = t.endpoint.tcb.inFlight.toNat := by
    intro una nxt
    rw [TransmissionControlBlock.inFlight, una, nxt]
    rfl
  cases Endpoint.step_sendMove isOpen established with
  | idle una nxt buffer _ out emitted noData =>
    rw [← wire out emitted] at noData
    refine .of_counts stays (coverage_of_noData noData) (same una nxt) (by rw [buffer]) ?_ inFlight
    omega
  | accept more una nxt buffer _ emitted =>
    have silent := wire [] (emitted.trans (List.append_nil _).symm)
    have size : (t.endpoint.step action).tcb.sendBuffer.size =
        t.endpoint.tcb.sendBuffer.size + more.length := by
      rw [← BlockingBuffer.length_contents, buffer, List.length_append,
        BlockingBuffer.length_contents]
    refine .of_counts stays (coverage_of_noData (by simp [silent])) (same una nxt) size ?_ ?_
    · omega
    · omega
  | transmit una nxt buffer _ emitted some =>
    have length := t.endpoint.tcb.length_nextData
    have positive := List.length_pos_iff.mpr some
    have capacity := t.endpoint.tcb.sendSize_le
    have covered : coverage t.endpoint.tcb.snd.una (t.endpoint.act action).2 =
        t.endpoint.tcb.inFlight.toNat + t.endpoint.tcb.nextData.length := by
      rw [wire _ emitted, coverage_singleton _ some]
      rfl
    have near : t.endpoint.tcb.inFlight.toNat + t.endpoint.tcb.nextData.length < 2 ^ 32 := by omega
    have flight : (t.endpoint.step action).tcb.inFlight.toNat =
        t.endpoint.tcb.inFlight.toNat + t.endpoint.tcb.nextData.length := by
      rw [TransmissionControlBlock.inFlight, una, nxt]
      exact distance_extend t.endpoint.tcb.snd.una t.endpoint.tcb.snd.nxt near
    refine .of_counts stays covered flight (by rw [buffer]) ?_ ?_
    · omega
    · omega
  | retransmit una nxt buffer _ emitted =>
    have covered : coverage t.endpoint.tcb.snd.una (t.endpoint.act action).2 ≤
        t.endpoint.tcb.inFlight.toNat := by
      rw [wire _ emitted]
      apply coverage_le
      intro packet member _
      rw [List.mem_singleton.mp member]
      change (t.endpoint.tcb.snd.una - t.endpoint.tcb.snd.una).toNat +
        t.endpoint.tcb.oldestData.length ≤ _
      rw [UInt32.sub_self, TransmissionControlBlock.oldestData, List.length_take]
      change 0 + _ ≤ _
      omega
    refine .of_counts stays rfl (same una nxt) (by rw [buffer]) ?_ inFlight
    omega
  | acknowledge packet received awake hack ahead una nxt buffer _ out emitted noData =>
    subst received
    have near := acks awake hack ahead
    rw [← wire out emitted] at noData
    have flight : (t.endpoint.step (.receive packet)).tcb.inFlight.toNat =
        t.endpoint.tcb.inFlight.toNat - (packet.ackNum - t.endpoint.tcb.snd.una).toNat := by
      rw [TransmissionControlBlock.inFlight, una, nxt]
      exact distance_shrink t.endpoint.tcb.snd.una t.endpoint.tcb.snd.nxt near
    refine .of_counts stays (coverage_of_noData noData) flight
      (by rw [buffer, BlockingBuffer.size_discard]) ?_ ?_
    · omega
    · omega

/-- On a connection on which no side closes and the peer acknowledges only what was sent,
what puts a retransmission off is that `process_block_` ran less than RTO ago. -/
theorem run_neverSkipped_iff_unprocessed (tcb : TransmissionControlBlock)
    (established : tcb.currentState = .established) (aligned : tcb.snd.nxt = tcb.snd.una)
    (actions : List Action) (isOpen : ∀ action ∈ actions, Endpoint.Open action)
    (acks : Throughout step (fun t action => AcksInFlight t.endpoint action) (fresh tcb) actions) :
    Throughout step NeverSkipped (fresh tcb) actions ↔
      Throughout step (fun t action => ∀ now, action = .checkRetransmissions now →
        t.endpoint.waiting = none → t.Due now →
        t.endpoint.tcb.rto ≤ now - t.endpoint.tcb.lastWritten) (fresh tcb) actions := by
  have initial : (fresh tcb).Counted := by
    have zero : tcb.inFlight.toNat = 0 := by
      rw [TransmissionControlBlock.inFlight, aligned, UInt32.sub_self]
      rfl
    exact ⟨established, zero.symm, zero.le.trans (Nat.zero_le _)⟩
  rw [run_neverSkipped_iff]
  generalize fresh tcb = t at initial acks
  induction actions generalizing t with
  | nil => exact Iff.rfl
  | cons action actions ih =>
    have here : t.NoticesWhenDue action ↔ ∀ now, action = .checkRetransmissions now →
        t.endpoint.waiting = none → t.Due now →
        t.endpoint.tcb.rto ≤ now - t.endpoint.tcb.lastWritten := by
      constructor
      · intro notices now check awake due
        exact (notices now check awake due).unprocessed
      · intro unprocessed now check awake due
        exact ⟨initial.established, unprocessed now check awake due, by rw [initial.outstanding_eq]⟩
    have next := initial.step (isOpen action List.mem_cons_self) acks.1
    exact and_congr here
      (ih (fun other member => isOpen other (List.mem_cons_of_mem action member)) _ next acks.2)

end Timed
end TinyCP
