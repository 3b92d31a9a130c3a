import TinyCP.Closing

/-!
# The next sequence number over whole runs

`SND.NXT` counts what has been sent: it moves by the bytes that `process_block_` puts on
the wire and by one for the FIN. Two handlers write the acknowledgment number of a
FIN,ACK into it, so the count is kept exactly when that number is `SND.NXT` already.
-/
namespace TinyCP
open EventRun SequenceSpace

namespace TransmissionControlBlock

/-- The states whose handlers copy the acknowledgment number of a FIN into `SND.NXT`. -/
def CopiesAckNum (state : TcpState) : Prop := state = .established ∨ state = .finWait2

instance (state : TcpState) : Decidable (CopiesAckNum state) :=
  inferInstanceAs (Decidable (_ ∨ _))

/-- What a segment does to `SND.NXT`, in every state. -/
theorem receive_nxt (tcb : TransmissionControlBlock) (packet : Segment) :
    (tcb.receive packet).tcb.snd.nxt =
      if CopiesAckNum tcb.currentState ∧ packet.fin = true ∧ packet.ack = true then packet.ackNum
      else tcb.snd.nxt := by
  cases state : tcb.currentState with
  | synSent =>
    simp only [receive, state, handleSynSentState, CopiesAckNum]
    split_ifs <;> simp_all [setState]
  | synReceived =>
    simp only [receive, state, handleSynReceivedState, CopiesAckNum]
    split_ifs <;> simp_all [setState]
  | established =>
    simp only [receive, state, CopiesAckNum, true_or, true_and]
    cases fin : packet.fin with
    | false =>
      have sent := (tcb.handleEstablishedState_sendSide fin).1
      rw [sent, afterAck_nxt]
      simp
    | true =>
      simp only [handleEstablishedState, fin, receiveFin]
      split_ifs <;> simp_all [setState]
  | finWait1 =>
    simp only [receive, state, handleFinWait1State, CopiesAckNum]
    split_ifs <;> simp_all [setState, closedBy]
  | finWait2 =>
    simp only [receive, state, handleFinWait2State, CopiesAckNum]
    split_ifs <;> simp_all [setState, closedBy]
  | closing =>
    simp only [receive, state, handleClosingState, awaitFinalAck, CopiesAckNum]
    split_ifs <;> simp_all [setState, closedBy]
  | lastAck =>
    simp only [receive, state, handleLastAckState, awaitFinalAck, CopiesAckNum]
    split_ifs <;> simp_all [setState, closedBy]
  | _ => simp [receive, state, CopiesAckNum]

end TransmissionControlBlock

/-- The sequence numbers that segments take up: one for each byte and one for a FIN. -/
def occupied (packets : List Segment) : Nat :=
  (packets.map fun packet => packet.payload.length + packet.fin.toNat).sum

theorem occupied_append (first rest : List Segment) :
    occupied (first ++ rest) = occupied first + occupied rest := by
  rw [occupied, occupied, occupied, List.map_append, List.sum_append]

namespace TransmissionControlBlock

theorem processBlock_nxt (tcb : TransmissionControlBlock) (now : Int) :
    (tcb.processBlock now).tcb.snd.nxt =
      seqAt tcb.snd.nxt (occupied (tcb.processBlock now).out) := by
  cases sends : TransmitsData tcb.currentState with
  | false =>
    simp only [processBlock, sends, Bool.not_false, if_true]
    split_ifs <;> simp [occupied, sendControlPacket]
  | true =>
    rw [processBlock_of_transmits sends]
    by_cases nothing : tcb.nextData = []
    · rw [if_pos nothing, transmitted_of_nil nothing]
      exact (seqAt_zero _).symm
    · rw [if_neg nothing]
      simp [occupied, createWriterTcpPacket, transmitted, seqAt]

theorem closeConnection_nxt (tcb : TransmissionControlBlock) (now : Int) :
    (tcb.closeConnection now).tcb.snd.nxt =
      seqAt tcb.snd.nxt (occupied (tcb.closeConnection now).out) := by
  have withFin : ∀ state, (tcb.closeWithFin now state).tcb.snd.nxt =
      seqAt tcb.snd.nxt (occupied (tcb.closeWithFin now state).out) := by
    intro state
    have flushed := tcb.processBlock_nxt now
    change (tcb.processBlock now).tcb.snd.nxt + 1 = _
    rw [closeWithFin, occupied_append, flushed, ← seqAt_add]
    rfl
  rw [closeConnection]
  split
  · exact withFin .finWait1
  · exact withFin .lastAck
  · exact (seqAt_zero _).symm

end TransmissionControlBlock

namespace Endpoint

/-- The sequence numbers taken by data and FIN when an action has sent `out`. Every other
action retransmits or sends control segments. -/
def newlySent (action : Action) (out : List Segment) : Nat :=
  match action with
  | .processBlock _ | .processDirty _ | .close _ => occupied out
  | _ => 0

/-- The sequence numbers taken by data and FIN over a whole run. -/
def sentBy : Endpoint → List Action → Nat
  | _, [] => 0
  | e, action :: actions => newlySent action (e.act action).2 + sentBy (e.step action) actions

/-- A FIN,ACK that is about to be handled acknowledges everything sent so far, unless
its handler does not copy the number. -/
def FinAcksAll (e : Endpoint) : Action → Prop
  | .receive packet => e.waiting = none → packet.fin = true → packet.ack = true →
      TransmissionControlBlock.CopiesAckNum e.tcb.currentState → packet.ackNum = e.tcb.snd.nxt
  | _ => True

theorem step_receive_nxt (e : Endpoint) (packet : Segment) :
    (e.step (.receive packet)).tcb.snd.nxt = e.tcb.snd.nxt ↔ e.FinAcksAll (.receive packet) := by
  rw [step, act, FinAcksAll]
  cases blocked : e.waiting with
  | some payload => simp [daemon, blocked]
  | none =>
    simp only [daemon, blocked, Option.isSome_none, Bool.false_eq_true, if_false, perform,
      TransmissionControlBlock.receive_nxt]
    split_ifs with copies
    · simp [copies]
    · simp only [true_iff]
      intro _ fin ack state
      exact absurd ⟨state, fin, ack⟩ copies

theorem newlySent_nil (action : Action) : newlySent action [] = 0 := by
  cases action <;> rfl

/-- Every step but the receipt of a segment keeps the count. -/
theorem step_nxt_of_ne_receive (e : Endpoint) {action : Action}
    (other : ∀ packet, action ≠ .receive packet) :
    (e.step action).tcb.snd.nxt = seqAt e.tcb.snd.nxt (newlySent action (e.act action).2) := by
  have done := e.act_done action
  rw [step]
  generalize e.act action = result at done ⊢
  cases done with
  | stay => rw [newlySent_nil, seqAt_zero]
  | send data _ => exact (seqAt_zero _).symm
  | recv len _ => exact (seqAt_zero _).symm
  | processBlock now _ => exact e.tcb.processBlock_nxt now
  | processDirty now _ _ => exact e.tcb.processBlock_nxt now
  | checkRetransmissions now _ =>
    rcases e.tcb.checkRetransmission_cases now with same | ⟨_, _, _, sent⟩
    · rw [same]
      exact (seqAt_zero _).symm
    · rw [sent]
      exact (seqAt_zero _).symm
  | receive packet _ => exact absurd rfl (other packet)
  | resumeWrite payload _ =>
    rcases e.tcb.storePayload_cases payload with ⟨_, stored⟩ | ⟨_, blocked⟩
    · rw [stored]
      exact (seqAt_zero _).symm
    · rw [blocked]
      exact (seqAt_zero _).symm
  | close now => exact e.tcb.closeConnection_nxt now

/-- One step keeps the count exactly when it is not a FIN,ACK below it. -/
theorem step_nxt (e : Endpoint) (action : Action) :
    (e.step action).tcb.snd.nxt = seqAt e.tcb.snd.nxt (newlySent action (e.act action).2) ↔
      e.FinAcksAll action := by
  by_cases received : ∃ packet, action = .receive packet
  · obtain ⟨packet, rfl⟩ := received
    have none : newlySent (.receive packet) (e.act (.receive packet)).2 = 0 := rfl
    rw [none, seqAt_zero]
    exact e.step_receive_nxt packet
  · have other : ∀ packet, action ≠ .receive packet := fun packet same => received ⟨packet, same⟩
    refine iff_of_true (e.step_nxt_of_ne_receive other) ?_
    cases action with
    | receive packet => exact absurd rfl (other packet)
    | _ => trivial

theorem sentBy_append (e : Endpoint) (first rest : List Action) :
    sentBy e (first ++ rest) = sentBy e first + sentBy (run step e first) rest := by
  induction first generalizing e with
  | nil => exact (Nat.zero_add _).symm
  | cons action first ih => rw [List.cons_append, sentBy, sentBy, ih, run_cons, Nat.add_assoc]

/-- In every state of the run `SND.NXT` stands behind all that was sent, the count of
which never falls, and no segment of the peer has moved it. -/
structure NeverRewound (e : Endpoint) (actions : List Action) : Prop where
  counts : ∀ done, done <+: actions →
    (run step e done).tcb.snd.nxt = seqAt e.tcb.snd.nxt (sentBy e done)
  grows : ∀ done more, done ++ more <+: actions → sentBy e done ≤ sentBy e (done ++ more)
  unmoved : ∀ done packet, done ++ [.receive packet] <+: actions →
    (run step e (done ++ [.receive packet])).tcb.snd.nxt = (run step e done).tcb.snd.nxt

theorem NeverRewound.of_counts {e : Endpoint} {actions : List Action}
    (counts : ∀ done, done <+: actions →
      (run step e done).tcb.snd.nxt = seqAt e.tcb.snd.nxt (sentBy e done)) :
    NeverRewound e actions where
  counts := counts
  grows := by
    intro done more _
    rw [sentBy_append]
    exact Nat.le_add_right _ _
  unmoved := by
    intro done packet hpre
    have none : sentBy (run step e done) [.receive packet] = 0 := rfl
    rw [counts _ hpre, counts done ((List.prefix_append done _).trans hpre), sentBy_append, none,
      Nat.add_zero]

/-- The run after its first step counts from where that step has left `SND.NXT`. -/
theorem counts_cons {e : Endpoint} {action : Action} (actions : List Action)
    (first : (e.step action).tcb.snd.nxt =
      seqAt e.tcb.snd.nxt (newlySent action (e.act action).2)) :
    (run step e (action :: actions)).tcb.snd.nxt = seqAt e.tcb.snd.nxt (sentBy e (action :: actions)) ↔
      (run step (e.step action) actions).tcb.snd.nxt =
        seqAt (e.step action).tcb.snd.nxt (sentBy (e.step action) actions) := by
  rw [run_cons, sentBy, first, seqAt, seqAt, seqAt, UInt32.ofNat_add, UInt32.add_assoc]

theorem counts_iff (e : Endpoint) (actions : List Action) :
    (∀ done, done <+: actions →
      (run step e done).tcb.snd.nxt = seqAt e.tcb.snd.nxt (sentBy e done)) ↔
    Throughout step FinAcksAll e actions := by
  induction actions generalizing e with
  | nil =>
    refine iff_of_true ?_ trivial
    intro done hpre
    rw [List.prefix_nil.mp hpre]
    exact (seqAt_zero _).symm
  | cons action actions ih =>
    rw [Throughout, ← ih, ← step_nxt]
    constructor
    · intro counts
      have first : (e.step action).tcb.snd.nxt =
          seqAt e.tcb.snd.nxt (newlySent action (e.act action).2) := by
        have one := counts [action] ⟨actions, rfl⟩
        rwa [sentBy, sentBy, Nat.add_zero] at one
      refine ⟨first, fun done hpre => ?_⟩
      exact (counts_cons done first).mp (counts _ ((List.prefix_cons_inj action).mpr hpre))
    · rintro ⟨first, later⟩ done hpre
      rcases List.prefix_cons_iff.mp hpre with rfl | ⟨rest, rfl, hrest⟩
      · exact (seqAt_zero _).symm
      · exact (counts_cons rest first).mpr (later rest hrest)

end Endpoint

/-- Over every run from every state of a connection, `SND.NXT` is never rewound if and
only if every FIN,ACK handled in ESTABLISHED or FIN_WAIT_2 acknowledges all of it. -/
theorem neverRewound_iff (e : Endpoint) (actions : List Action) :
    e.NeverRewound actions ↔ Throughout Endpoint.step Endpoint.FinAcksAll e actions := by
  rw [← Endpoint.counts_iff]
  exact ⟨fun h => h.counts, Endpoint.NeverRewound.of_counts⟩

/-- A connection is opened and sends a byte; the FIN of the peer crosses it. -/
def sampleCrossingFin : List Action :=
  [.receive { sampleSegment 300 101 65535 [] with syn := true }, .send [7], .processDirty 0,
    .receive { sampleSegment 301 101 65535 [] with fin := true }]

/-- The FIN,ACK is correct, and sets `SND.NXT` back to the byte that is in flight. -/
theorem crossing_fin_rewinds : ¬ ∀ (tcb : TransmissionControlBlock) (iss : UInt32)
    (actions : List Action), (Endpoint.fresh (tcb.connect iss)).NeverRewound actions := by
  intro never
  have counts := (never sampleTcb 100 sampleCrossingFin).unmoved
    (sampleCrossingFin.take 3) _ ⟨[], rfl⟩
  exact absurd counts (by decide)

end TinyCP
