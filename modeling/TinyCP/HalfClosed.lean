import TinyCP.SendSide

/-!
# A connection that one side has closed

A has sent its FIN and B has received it, so only B still has data to send. The
handlers of FIN_WAIT_1 and FIN_WAIT_2 look at the flags of a segment and not at its
payload, and CLOSE_WAIT falls through the dispatch altogether, while `process_block_`
goes on transmitting. What is due in the open direction is therefore never done.
-/
namespace TinyCP
open EventRun SequenceSpace

/-- A has closed and B has seen it; B's stream, its send variables and A's receive
variables are aligned, and no FIN is under way. -/
structure HalfClosed (p : Pair) : Prop where
  stateA : p.a.tcb.currentState = .finWait1 ∨ p.a.tcb.currentState = .finWait2
  stateB : p.b.tcb.currentState = .closeWait
  awakeA : p.a.waiting = none
  awakeB : p.b.waiting = none
  finReceived : p.b.tcb.rcv.nxt = p.a.tcb.snd.nxt
  aligned : ∃ start una received nxt, SendAligned start p.b.accepted una nxt p.b.tcb ∧
    una ≤ received ∧ received ≤ nxt ∧ p.a.tcb.rcv.nxt = seqAt start received ∧
    p.a.appended = p.b.accepted.take received
  noFinA : ∀ packet ∈ p.ba, packet.fin = false
  noFinB : ∀ packet ∈ p.ab, packet.fin = false

/-- The calls and deliveries of a run in which nobody closes. -/
def KeepsOpenDirection : PairAction → Prop
  | .act (.receive _) | .act (.close _) => False
  | _ => True

/-- The next segment for A is one with in-order data that fits. -/
def DataDue (p : Pair) (packet : Segment) : Prop :=
  p.a.waiting = none ∧ p.ba.head? = some packet ∧ packet.payload ≠ [] ∧
    packet.seqNum = p.a.tcb.rcv.nxt ∧
    packet.payload.length ≤ p.a.tcb.recvBuffer.availableCapacity

/-- The next segment for B acknowledges data in flight: `SND.UNA < ack_num <= SND.NXT`. -/
def AckDue (p : Pair) (packet : Segment) : Prop :=
  p.b.waiting = none ∧ p.ab.head? = some packet ∧ packet.ack = true ∧
    0 < (packet.ackNum - p.b.tcb.snd.una).toNat ∧
    (packet.ackNum - p.b.tcb.snd.una).toNat ≤ p.b.tcb.inFlight.toNat

/-- A delivery does what is due: the data is appended and acknowledged, the acknowledged
bytes are discarded and the send variables follow. -/
def DoesWhatIsDue (p : Pair) : Side × PairAction → Prop
  | (.a, .deliver) => ∀ packet, DataDue p packet →
      p.deliverA.a.tcb.recvBuffer.contents = p.a.tcb.recvBuffer.contents ++ packet.payload ∧
      ∃ answer, p.deliverA.ab = p.ab ++ [answer] ∧ answer.ack = true ∧
        answer.ackNum = packet.seqNum + UInt32.ofNat packet.payload.length
  | (.b, .deliver) => ∀ packet, AckDue p packet →
      (p.step (.b, .deliver)).b.tcb.snd.una = packet.ackNum ∧
      (p.step (.b, .deliver)).b.tcb.sendBuffer.contents = p.b.tcb.sendBuffer.contents.drop
        (packet.ackNum - p.b.tcb.snd.una).toNat ∧
      (p.step (.b, .deliver)).b.tcb.snd.wnd = packet.window.toUInt32
  | _ => True

/-- No data segment and no acknowledgment is delivered that would have to be acted on. -/
def NothingDue (p : Pair) : Side × PairAction → Prop
  | (.a, .deliver) => ∀ packet, ¬ DataDue p packet
  | (.b, .deliver) => ∀ packet, ¬ AckDue p packet
  | _ => True

/-- Every delivery of a run does what is due, and what A has got is a prefix of what B
has accepted. -/
structure CarriesOpenDirection (p : Pair) (events : List (Side × PairAction)) : Prop where
  due : Throughout Pair.step DoesWhatIsDue p events
  ordered : Always Pair.step
    (fun p => p.a.delivered ++ p.a.tcb.recvBuffer.contents <+: p.b.accepted) p events

namespace TransmissionControlBlock

/-- A transmission keeps the receive buffer, and carries no FIN. -/
theorem processBlock_keeps (tcb : TransmissionControlBlock) (now : Int) :
    (tcb.processBlock now).tcb.recvBuffer = tcb.recvBuffer ∧
    ∀ packet ∈ (tcb.processBlock now).out, packet.fin = false := by
  simp only [processBlock]
  split_ifs <;> refine ⟨rfl, ?_⟩ <;> simp [sendControlPacket, createWriterTcpPacket]

/-- In the two states of the closing side, a segment without FIN is at most an
acknowledgment of the FIN that was sent. -/
theorem receive_closing {tcb : TransmissionControlBlock} {packet : Segment}
    (state : tcb.currentState = .finWait1 ∨ tcb.currentState = .finWait2)
    (noFin : packet.fin = false) :
    ((tcb.receive packet).tcb.currentState = .finWait1 ∨
      (tcb.receive packet).tcb.currentState = .finWait2) ∧
    (tcb.receive packet).tcb.recvBuffer = tcb.recvBuffer ∧
    (tcb.receive packet).out = [] ∧ (tcb.receive packet).waiting = none := by
  rcases state with state | state
  · simp only [receive, state, handleFinWait1State, noFin, Bool.false_eq_true, if_false]
    split_ifs
    · exact ⟨Or.inr rfl, rfl, rfl, rfl⟩
    · exact ⟨Or.inl state, rfl, rfl, rfl⟩
  · have same : tcb.receive packet = { tcb := tcb } := by
      simp [receive, state, handleFinWait2State, noFin]
    rw [same]
    exact ⟨Or.inr state, rfl, rfl, rfl⟩

theorem receive_closeWait {tcb : TransmissionControlBlock} (state : tcb.currentState = .closeWait)
    (packet : Segment) : tcb.receive packet = { tcb := tcb } := by
  rw [receive, state]

end TransmissionControlBlock

namespace Endpoint

/-- What the steps of a half-closed connection leave alone on either side. -/
structure Continues (e e' : Endpoint) (out : List Segment) : Prop where
  closing : e.tcb.currentState = .finWait1 ∨ e.tcb.currentState = .finWait2 →
    e'.tcb.currentState = .finWait1 ∨ e'.tcb.currentState = .finWait2
  waits : e.tcb.currentState = .closeWait → e'.tcb.currentState = .closeWait
  awake : e'.waiting = none
  appended : e'.appended = e.appended
  accepted : e.accepted <+: e'.accepted
  noFin : ∀ packet ∈ out, packet.fin = false

namespace Continues
variable {e : Endpoint}

theorem stay (awake : e.waiting = none) : Continues e e [] :=
  ⟨id, id, awake, rfl, List.prefix_refl _, by simp⟩

/-- The daemon's own work, also when it takes the id off the dirty queue. -/
theorem processBlock (awake : e.waiting = none) (queued : Nat) (now : Int) :
    Continues e ({ e with dirty := queued }.perform (e.tcb.processBlock now)).1
      (e.tcb.processBlock now).out := by
  have state := e.tcb.processBlock_currentState now
  obtain ⟨buffer, noFin⟩ := e.tcb.processBlock_keeps now
  refine ⟨?_, ?_, ?_, ?_, List.prefix_refl _, noFin⟩
  · exact Or.imp state.trans state.trans
  · exact state.trans
  · change ((e.tcb.processBlock now).waiting.or e.waiting) = none
    rw [(e.tcb.processBlock_confined now).awake, awake]
    rfl
  · change e.delivered ++ (e.tcb.processBlock now).tcb.recvBuffer.contents = _
    rw [buffer]
    rfl

theorem receive (awake : e.waiting = none) {packet : Segment} (noFin : packet.fin = false)
    (state : (e.tcb.currentState = .finWait1 ∨ e.tcb.currentState = .finWait2) ∨
      e.tcb.currentState = .closeWait) :
    Continues e (e.perform (e.tcb.receive packet)).1 (e.tcb.receive packet).out := by
  rcases state with closing | waits
  · obtain ⟨after, buffer, silent, running⟩ :=
      TransmissionControlBlock.receive_closing closing noFin
    refine ⟨fun _ => after, ?_, ?_, ?_, List.prefix_refl _, by rw [silent]; simp⟩
    · intro waits
      rw [waits] at closing
      rcases closing with other | other <;> cases other
    · change ((e.tcb.receive packet).waiting.or e.waiting) = none
      rw [running, awake]
      rfl
    · change e.delivered ++ (e.tcb.receive packet).tcb.recvBuffer.contents = _
      rw [buffer]
      rfl
  · rw [TransmissionControlBlock.receive_closeWait waits]
    exact ⟨id, id, awake, rfl, List.prefix_refl _, by simp⟩

end Continues

theorem act_continues {e : Endpoint} {action : Action} (isOpen : Open action)
    (awake : e.waiting = none)
    (state : (e.tcb.currentState = .finWait1 ∨ e.tcb.currentState = .finWait2) ∨
      e.tcb.currentState = .closeWait) : Continues e (e.act action).1 (e.act action).2 := by
  have done := e.act_done action
  generalize e.act action = result at done ⊢
  cases done with
  | stay => exact .stay awake
  | send data _ => exact ⟨id, id, awake, rfl, List.prefix_append _ _, by simp⟩
  | recv len _ =>
    refine ⟨id, id, awake, ?_, List.prefix_refl _, by simp⟩
    simp only [appended, BlockingBuffer.contents_fetch, List.append_assoc, List.take_append_drop]
  | processBlock now _ => exact .processBlock awake e.dirty now
  | processDirty now _ _ => exact .processBlock awake (e.dirty - 1) now
  | checkRetransmissions now _ =>
    rcases e.tcb.checkRetransmission_cases now with same | ⟨established, _⟩
    · rw [same]
      exact ⟨id, id, awake, rfl, List.prefix_refl _, fun _ none => by cases none⟩
    · rw [established] at state
      rcases state with (other | other) | other <;> cases other
  | receive packet _ => exact .receive awake isOpen state
  | resumeWrite payload blocked =>
    rw [awake] at blocked
    cases blocked
  | close now => exact False.elim isOpen

end Endpoint

/-- What every run keeps from the half-closed state on. -/
structure HalfOpen (p : Pair) : Prop where
  stateA : p.a.tcb.currentState = .finWait1 ∨ p.a.tcb.currentState = .finWait2
  stateB : p.b.tcb.currentState = .closeWait
  awakeA : p.a.waiting = none
  awakeB : p.b.waiting = none
  noFinA : ∀ packet ∈ p.ba, packet.fin = false
  noFinB : ∀ packet ∈ p.ab, packet.fin = false
  ordered : p.a.appended <+: p.b.accepted

theorem HalfClosed.halfOpen {p : Pair} (h : HalfClosed p) : HalfOpen p := by
  obtain ⟨_, _, received, _, _, _, _, _, appended⟩ := h.aligned
  refine ⟨h.stateA, h.stateB, h.awakeA, h.awakeB, h.noFinA, h.noFinB, ?_⟩
  rw [appended]
  exact List.take_prefix _ _

namespace HalfOpen
variable {p : Pair}

theorem moveA (h : HalfOpen p) {a : Endpoint} {out ba : List Segment}
    (moved : Endpoint.Continues p.a a out) (taken : ba ⊆ p.ba) :
    HalfOpen { p with a := a, ab := p.ab ++ out, ba := ba } where
  stateA := moved.closing h.stateA
  stateB := h.stateB
  awakeA := moved.awake
  awakeB := h.awakeB
  noFinA := fun packet hmem => h.noFinA packet (taken hmem)
  noFinB := fun packet hmem => (List.mem_append.mp hmem).elim (h.noFinB packet) (moved.noFin packet)
  ordered := by
    change a.appended <+: p.b.accepted
    rw [moved.appended]
    exact h.ordered

theorem moveB (h : HalfOpen p) {b : Endpoint} {out ab : List Segment}
    (moved : Endpoint.Continues p.b b out) (taken : ab ⊆ p.ab) :
    HalfOpen { p with b := b, ba := p.ba ++ out, ab := ab } where
  stateA := h.stateA
  stateB := moved.waits h.stateB
  awakeA := h.awakeA
  awakeB := moved.awake
  noFinA := fun packet hmem => (List.mem_append.mp hmem).elim (h.noFinA packet) (moved.noFin packet)
  noFinB := fun packet hmem => h.noFinB packet (taken hmem)
  ordered := h.ordered.trans moved.accepted

theorem isOpen_of_keeps {action : Action} (keeps : KeepsOpenDirection (.act action)) :
    Endpoint.Open action := by
  cases action with
  | receive packet => exact False.elim keeps
  | close now => exact False.elim keeps
  | _ => trivial

/-- A delivery takes the oldest segment, and an empty channel has none. -/
theorem deliverA_cases (h : HalfOpen p) :
    (p.ba = [] ∧ p.deliverA = p) ∨ ∃ packet rest, p.ba = packet :: rest ∧
      packet.fin = false ∧ p.deliverA =
        { p with
          a := (p.a.act (.receive packet)).1
          ab := p.ab ++ (p.a.act (.receive packet)).2
          ba := rest } := by
  cases channel : p.ba with
  | nil => exact Or.inl ⟨rfl, by simp only [Pair.deliverA, h.awakeA, channel]⟩
  | cons packet rest =>
    refine Or.inr ⟨packet, rest, rfl, h.noFinA packet (by simp [channel]), ?_⟩
    simp only [Pair.deliverA, h.awakeA, channel, Pair.actA]

theorem deliverB_cases (h : HalfOpen p) :
    (p.ab = [] ∧ p.step (.b, .deliver) = p) ∨ ∃ packet rest, p.ab = packet :: rest ∧
      packet.fin = false ∧ p.step (.b, .deliver) =
        { p with
          b := (p.b.act (.receive packet)).1
          ba := p.ba ++ (p.b.act (.receive packet)).2
          ab := rest } := by
  cases channel : p.ab with
  | nil =>
    refine Or.inl ⟨rfl, ?_⟩
    simp only [Pair.step, Pair.stepA, Pair.deliverA, Pair.swap, h.awakeB, channel]
    rw [← channel]
  | cons packet rest =>
    refine Or.inr ⟨packet, rest, rfl, h.noFinB packet (by simp [channel]), ?_⟩
    simp only [Pair.step, Pair.stepA, Pair.deliverA, Pair.swap, h.awakeB, channel, Pair.actA]

theorem step (h : HalfOpen p) {event : Side × PairAction} (keeps : KeepsOpenDirection event.2) :
    HalfOpen (p.step event) := by
  obtain ⟨side, action⟩ := event
  cases side with
  | a =>
    cases action with
    | act action =>
      exact h.moveA (Endpoint.act_continues (isOpen_of_keeps keeps) h.awakeA (Or.inl h.stateA))
        (List.Subset.refl _)
    | deliver =>
      change HalfOpen p.deliverA
      rcases h.deliverA_cases with ⟨_, same⟩ | ⟨packet, rest, channel, noFin, taken⟩
      · rw [same]
        exact h
      · rw [taken]
        have isOpen : Endpoint.Open (.receive packet) := noFin
        exact h.moveA (Endpoint.act_continues isOpen h.awakeA (Or.inl h.stateA))
          (by rw [channel]; exact List.subset_cons_self _ _)
  | b =>
    cases action with
    | act action =>
      exact h.moveB (Endpoint.act_continues (isOpen_of_keeps keeps) h.awakeB (Or.inr h.stateB))
        (List.Subset.refl _)
    | deliver =>
      rcases h.deliverB_cases with ⟨_, same⟩ | ⟨packet, rest, channel, noFin, taken⟩
      · rw [same]
        exact h
      · rw [taken]
        have isOpen : Endpoint.Open (.receive packet) := noFin
        exact h.moveB (Endpoint.act_continues isOpen h.awakeB (Or.inr h.stateB))
          (by rw [channel]; exact List.subset_cons_self _ _)

/-- The closing side drops the payload of every segment. -/
theorem data_dropped (h : HalfOpen p) {packet : Segment} (due : DataDue p packet) :
    p.deliverA.a.tcb.recvBuffer = p.a.tcb.recvBuffer := by
  rcases h.deliverA_cases with ⟨empty, _⟩ | ⟨head, rest, channel, noFin, taken⟩
  · have next := due.2.1
    rw [empty] at next
    cases next
  · rw [taken]
    change (p.a.act (.receive head)).1.tcb.recvBuffer = _
    rw [Endpoint.act, Endpoint.daemon, h.awakeA]
    exact (TransmissionControlBlock.receive_closing h.stateA noFin).2.1

/-- The side that waits for its own close takes no notice of acknowledgments. -/
theorem ack_ignored (h : HalfOpen p) : (p.step (.b, .deliver)).b.tcb = p.b.tcb := by
  rcases h.deliverB_cases with ⟨_, same⟩ | ⟨packet, rest, _, _, taken⟩
  · rw [same]
  · rw [taken]
    change (p.b.act (.receive packet)).1.tcb = p.b.tcb
    rw [Endpoint.act, Endpoint.daemon, h.awakeB,
      TransmissionControlBlock.receive_closeWait h.stateB]
    rfl

/-- So a step does what is due exactly when nothing is. -/
theorem due_iff (h : HalfOpen p) (event : Side × PairAction) :
    DoesWhatIsDue p event ↔ NothingDue p event := by
  obtain ⟨side, action⟩ := event
  cases action with
  | act action => cases side <;> exact Iff.rfl
  | deliver =>
    cases side with
    | a =>
      refine ⟨fun does packet due => ?_, fun nothing packet due => absurd due (nothing packet)⟩
      obtain ⟨appended, _⟩ := does packet due
      rw [h.data_dropped due] at appended
      exact due.2.2.1 (List.append_right_eq_self.mp appended.symm)
    | b =>
      refine ⟨fun does packet due => ?_, fun nothing packet due => absurd due (nothing packet)⟩
      obtain ⟨moved, _⟩ := does packet due
      have ahead := due.2.2.2.1
      rw [h.ack_ignored] at moved
      rw [moved, UInt32.sub_self] at ahead
      exact absurd ahead (by decide)

end HalfOpen

/-- Over every run of a half-closed connection in which nobody closes, each delivery to
A is appended and acknowledged and each acknowledgment moves B's send variables, as far
as they are due, if and only if nothing is ever due: neither data in order for A nor an
acknowledgment of data in flight for B. -/
theorem carriesOpenDirection_iff (p : Pair) (h : HalfClosed p) (events : List (Side × PairAction))
    (keeps : ∀ event ∈ events, KeepsOpenDirection event.2) :
    CarriesOpenDirection p events ↔ Throughout Pair.step NothingDue p events := by
  have preserve : ∀ P : Pair → Side × PairAction → Prop, ∀ p event, KeepsOpenDirection event.2 →
      HalfOpen p → P p event → HalfOpen (p.step event) :=
    fun _ p event keeps inv _ => inv.step keeps
  have steps : ∀ p event, KeepsOpenDirection event.2 → HalfOpen p → HalfOpen (p.step event) :=
    fun p event keeps inv => inv.step keeps
  have initial := h.halfOpen
  constructor
  · intro carries
    exact throughout_mono (preserve DoesWhatIsDue)
      (fun p event _ inv => (inv.due_iff event).mp) initial events keeps carries.due
  · intro nothing
    refine ⟨throughout_mono (preserve NothingDue)
      (fun p event _ inv => (inv.due_iff event).mpr) initial events keeps nothing, ?_⟩
    intro done hpre
    have allowed : ∀ event ∈ done, KeepsOpenDirection event.2 :=
      fun event hmem => keeps event (hpre.subset hmem)
    have after : HalfOpen (run Pair.step p done) := run_invariant steps initial done allowed
    exact after.ordered

/-- A has closed, and its FIN has been received and acknowledged. -/
def sampleHalfClosed : Pair :=
  run Pair.step (.joined sampleTcb samplePeer)
    [(.a, .act (.close 0)), (.b, .deliver), (.a, .deliver)]

theorem halfClosed_sample : HalfClosed sampleHalfClosed where
  stateA := Or.inr rfl
  stateB := rfl
  awakeA := rfl
  awakeB := rfl
  finReceived := rfl
  aligned := ⟨0, 0, 0, 0, ⟨rfl, rfl, le_refl 0, le_refl 0, rfl⟩, le_refl 0, le_refl 0, rfl, rfl⟩
  noFinA := fun _ hmem => absurd hmem List.not_mem_nil
  noFinB := fun _ hmem => absurd hmem List.not_mem_nil

/-- A byte that B has sent is transmitted and not yet delivered. -/
theorem carriesOpenDirection_undelivered : CarriesOpenDirection sampleHalfClosed
    [(.b, .act (.send [1])), (.b, .act (.processBlock 0))] := by
  refine (carriesOpenDirection_iff sampleHalfClosed halfClosed_sample _ ?_).mpr
    ⟨trivial, trivial, trivial⟩
  simp [KeepsOpenDirection]

/-- Once it is delivered, it is lost: A has closed and takes no more data. -/
theorem half_closed_drops_data :
    ¬ ∀ p, HalfClosed p → ∀ events : List (Side × PairAction),
      (∀ event ∈ events, KeepsOpenDirection event.2) → CarriesOpenDirection p events := by
  intro carries
  have due := (carries sampleHalfClosed halfClosed_sample
    [(.b, .act (.send [1])), (.b, .act (.processBlock 0)), (.a, .deliver)]
    (by simp [KeepsOpenDirection])).due
  obtain ⟨appended, _⟩ := due.2.2.1 _ ⟨rfl, rfl, by decide, by decide, by decide⟩
  revert appended
  decide

end TinyCP
