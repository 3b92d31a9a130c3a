import TinyCP.Endpoint
import TinyCP.LossyNetwork

/-!
# Simultaneous open

Both ends call `connect` towards each other. Each of them keeps an invariant of its
own as long as every segment it takes with the SYN flag stands at the peer's initial
sequence number and every segment with the ACK flag acknowledges its own SYN; and
these are the only segments either of them sends.
-/
namespace TinyCP
open EventRun LossyNetwork

/-- One end on the network; the daemon thread takes whatever arrives. -/
def endpointNode : Node Endpoint Action Unit Segment where
  act := Endpoint.act
  take e _ packet := e.act (.receive packet)

namespace SimultaneousOpen

/-- A segment of the end with initial sequence number `iss`, for the one with `peer`. -/
structure Opens (iss peer : UInt32) (packet : Segment) : Prop where
  noReset : packet.rst = false
  noFin : packet.fin = false
  noData : packet.payload = []
  synAt : packet.syn = true → packet.seqNum = iss
  acks : packet.ack = true → packet.ackNum = peer + 1

/-- What each state says about the sequence variables. -/
def Phase (iss peer : UInt32) (tcb : TransmissionControlBlock) : Prop :=
  match tcb.currentState with
  | .synSent => True
  | .synReceived => tcb.rcv.nxt = peer + 1
  | .established => tcb.rcv.nxt = peer + 1 ∧ tcb.snd.una = iss + 1
  | _ => False

structure Opening (iss peer : UInt32) (tcb : TransmissionControlBlock) : Prop where
  iss_eq : tcb.snd.iss = iss
  nxt_eq : tcb.snd.nxt = iss + 1
  empty : tcb.sendBuffer.contents = []
  phase : Phase iss peer tcb

/-- A call that keeps the end in the handshake and sends segments of the handshake only. -/
structure Proceeds (iss peer : UInt32) (o : Outcome) : Prop where
  opening : Opening iss peer o.tcb
  opens : ∀ packet ∈ o.out, Opens iss peer packet
  awake : o.waiting = none

variable {iss peer : UInt32} {tcb : TransmissionControlBlock}

theorem Opens.sendAck (rcv : tcb.rcv.nxt = peer + 1) : Opens iss peer tcb.sendAck :=
  ⟨rfl, rfl, rfl, nofun, fun _ => rcv⟩

theorem Opening.connect (empty : tcb.sendBuffer.contents = []) :
    Opening iss peer (tcb.connect iss) :=
  ⟨rfl, rfl, empty, trivial⟩

theorem Opening.state_cases (h : Opening iss peer tcb) :
    tcb.currentState = .synSent ∨
    (tcb.currentState = .synReceived ∧ tcb.rcv.nxt = peer + 1) ∨
    (tcb.currentState = .established ∧ tcb.rcv.nxt = peer + 1 ∧ tcb.snd.una = iss + 1) := by
  have phase := h.phase
  rw [Phase] at phase
  split at phase
  · next state => exact Or.inl state
  · next state => exact Or.inr (Or.inl ⟨state, phase⟩)
  · next state => exact Or.inr (Or.inr ⟨state, phase⟩)
  · exact False.elim phase

theorem Opening.processBlock (h : Opening iss peer tcb) (now : Int) :
    Proceeds iss peer (tcb.processBlock now) := by
  rw [TransmissionControlBlock.processBlock_of_empty h.empty]
  refine ⟨⟨h.iss_eq, h.nxt_eq, h.empty, h.phase⟩, ?_, rfl⟩
  intro packet hmem
  split_ifs at hmem
  · rw [List.mem_singleton.mp hmem]
    exact ⟨rfl, rfl, rfl, fun _ => h.iss_eq, nofun⟩
  · cases hmem

theorem Opening.checkRetransmission (h : Opening iss peer tcb) (now : Int) :
    Proceeds iss peer (tcb.checkRetransmission now) := by
  rw [TransmissionControlBlock.checkRetransmission_of_empty h.empty]
  exact ⟨h, by simp, rfl⟩

theorem Opening.handleSynSentState (h : Opening iss peer tcb) {packet : Segment}
    (opens : Opens peer iss packet) :
    Proceeds iss peer (tcb.handleSynSentState packet) := by
  have acks : packet.ack = true → packet.ackNum = tcb.snd.nxt :=
    fun hack => (opens.acks hack).trans h.nxt_eq.symm
  have welcome : ¬ (packet.ack = true ∧ packet.ackNum ≠ tcb.snd.nxt) :=
    fun ⟨hack, hne⟩ => hne (acks hack)
  rw [TransmissionControlBlock.handleSynSentState, opens.noReset, if_neg Bool.false_ne_true,
    if_neg welcome]
  by_cases hsyn : packet.syn = true
  · by_cases hack : packet.ack = true
    · rw [if_pos ⟨hsyn, hack⟩]
      have rcv : packet.seqNum + 1 = peer + 1 := by rw [opens.synAt hsyn]
      refine ⟨⟨h.iss_eq, h.nxt_eq, h.empty, rcv, opens.acks hack⟩, ?_, rfl⟩
      intro answer hmem
      rw [List.mem_singleton.mp hmem]
      exact .sendAck rcv
    · rw [if_neg (fun both => hack both.2), if_pos hsyn]
      have rcv : packet.seqNum + 1 = peer + 1 := by rw [opens.synAt hsyn]
      refine ⟨⟨h.iss_eq, h.nxt_eq, h.empty, rcv⟩, ?_, rfl⟩
      intro answer hmem
      rw [List.mem_singleton.mp hmem]
      exact ⟨rfl, rfl, rfl, fun _ => h.iss_eq, fun _ => rcv⟩
  · rw [if_neg (fun both => hsyn both.1), if_neg hsyn]
    exact ⟨h, by simp, rfl⟩

theorem Opening.handleSynReceivedState (h : Opening iss peer tcb) (rcv : tcb.rcv.nxt = peer + 1)
    {packet : Segment} (opens : Opens peer iss packet) (hack : packet.ack = true) :
    Proceeds iss peer (tcb.handleSynReceivedState packet) := by
  have acks : packet.ackNum = tcb.snd.nxt := (opens.acks hack).trans h.nxt_eq.symm
  rw [TransmissionControlBlock.handleSynReceivedState, opens.noReset, if_neg Bool.false_ne_true]
  simp only [hack, Bool.not_true, Bool.false_eq_true, if_false, acks, ne_eq, not_true_eq_false]
  refine ⟨⟨h.iss_eq, h.nxt_eq, h.empty, rcv, h.nxt_eq⟩, ?_, rfl⟩
  intro answer hmem
  split_ifs at hmem
  · rw [List.mem_singleton.mp hmem]
    exact .sendAck rcv
  · cases hmem

theorem Opening.handleEstablishedState (h : Opening iss peer tcb)
    (state : tcb.currentState = .established) (rcv : tcb.rcv.nxt = peer + 1)
    (una : tcb.snd.una = iss + 1) {packet : Segment} (opens : Opens peer iss packet) :
    Proceeds iss peer (tcb.handleEstablishedState packet) := by
  rw [TransmissionControlBlock.handleEstablishedState_of_not_fin tcb opens.noFin,
    if_pos opens.noData]
  -- every acknowledgment names SND.UNA itself, so none of them moves it
  have old : packet.ack = true → ¬ 0 < (packet.ackNum - tcb.snd.una).toInt32 := by
    intro hack
    rw [opens.acks hack, una, UInt32.sub_self]
    decide
  obtain ⟨una', buffer⟩ := TransmissionControlBlock.afterAck_of_not_ahead old
  have phase : Phase iss peer (tcb.afterAck packet) := by
    rw [Phase, tcb.afterAck_currentState packet, state, tcb.afterAck_rcv packet, una']
    exact ⟨rcv, una⟩
  refine ⟨⟨?_, ?_, ?_, phase⟩, by simp, rfl⟩
  · rw [tcb.afterAck_iss packet, h.iss_eq]
  · rw [tcb.afterAck_nxt packet, h.nxt_eq]
  · rw [buffer, h.empty]

theorem Opening.receive (h : Opening iss peer tcb) {packet : Segment}
    (opens : Opens peer iss packet) : Proceeds iss peer (tcb.receive packet) := by
  rcases h.state_cases with state | ⟨state, rcv⟩ | ⟨state, rcv, una⟩
  · simpa only [TransmissionControlBlock.receive, state] using h.handleSynSentState opens
  · simp only [TransmissionControlBlock.receive, state]
    by_cases hack : packet.ack = true
    · exact h.handleSynReceivedState rcv opens hack
    · simp only [TransmissionControlBlock.handleSynReceivedState, opens.noReset,
        Bool.false_eq_true, if_false, hack, Bool.not_false, if_true]
      exact ⟨h, by simp, rfl⟩
  · simpa only [TransmissionControlBlock.receive, state] using
      h.handleEstablishedState state rcv una opens

/-- The end is in the handshake and its daemon thread is not blocked. -/
structure Runs (iss peer : UInt32) (e : Endpoint) : Prop where
  opening : Opening iss peer e.tcb
  awake : e.waiting = none

theorem Runs.perform {e : Endpoint} {o : Outcome} (awake : e.waiting = none)
    (proceeds : Proceeds iss peer o) :
    Runs iss peer (e.perform o).1 ∧ ∀ packet ∈ (e.perform o).2, Opens iss peer packet := by
  refine ⟨⟨proceeds.opening, ?_⟩, proceeds.opens⟩
  simp [Endpoint.perform, proceeds.awake, awake]

theorem keeps_opening (iss peer : UInt32) :
    Keeps endpointNode IsDaemonWork (Runs iss peer) (Opens iss peer) (Opens peer iss) where
  act e action allowed h := by
    have done := e.act_done action
    change Runs iss peer (e.act action).1 ∧ ∀ packet ∈ (e.act action).2, Opens iss peer packet
    generalize e.act action = result at done ⊢
    cases done with
    | stay => exact ⟨h, by simp⟩
    | processBlock now awake => exact Runs.perform awake (h.opening.processBlock now)
    | processDirty now awake _ =>
      have awake' : ({ e with dirty := e.dirty - 1 } : Endpoint).waiting = none := awake
      exact Runs.perform awake' (h.opening.processBlock now)
    | checkRetransmissions now awake => exact Runs.perform awake (h.opening.checkRetransmission now)
    | send => exact False.elim allowed
    | recv => exact False.elim allowed
    | receive => exact False.elim allowed
    | resumeWrite => exact False.elim allowed
    | close => exact False.elim allowed
  take e _ packet h opens := by
    have acted : endpointNode.take e () packet = e.perform (e.tcb.receive packet) := by
      simp [endpointNode, Endpoint.act, Endpoint.daemon, h.awake]
    rw [acted]
    exact Runs.perform h.awake (h.opening.receive opens)

/-- Both ends as `connect` leaves them, with nothing sent yet. -/
def connecting (a b : TransmissionControlBlock) (issA issB : UInt32) :
    Net Endpoint Endpoint Segment where
  a := .fresh (a.connect issA)
  b := .fresh (b.connect issB)
  toA := []
  toB := []

/-- What the handshake promises about one end. -/
structure Agrees (iss peer : UInt32) (tcb : TransmissionControlBlock) : Prop where
  notClosed : tcb.currentState ≠ .closed
  rcv_eq : tcb.currentState = .synReceived ∨ tcb.currentState = .established →
    tcb.rcv.nxt = peer + 1
  snd_eq : tcb.currentState = .established →
    tcb.snd.una = iss + 1 ∧ tcb.snd.nxt = iss + 1

theorem Opening.agrees (h : Opening iss peer tcb) : Agrees iss peer tcb := by
  have nxt := h.nxt_eq
  rcases h.state_cases with state | ⟨state, rcv⟩ | ⟨state, rcv, una⟩
  · constructor <;> simp [state]
  · constructor <;> simp [state, rcv]
  · constructor <;> simp [state, rcv, una, nxt]

end SimultaneousOpen

open SimultaneousOpen in
/-- Whatever the network loses, repeats or reorders, no end of a simultaneous open resets
or closes, and both agree on the initial sequence numbers as far as they know them. -/
theorem simultaneous_open_agrees (a b : TransmissionControlBlock) (issA issB : UInt32)
    (emptyA : a.sendBuffer.contents = []) (emptyB : b.sendBuffer.contents = [])
    (events : List (Event Action Unit Action Unit))
    (permitted : ∀ event ∈ events, Permits IsDaemonWork IsDaemonWork event) :
    let net := run (step endpointNode endpointNode) (connecting a b issA issB) events
    (∀ packet ∈ net.toA ++ net.toB, packet.rst = false) ∧
    Agrees issA issB net.a.tcb ∧ Agrees issB issA net.b.tcb ∧
    (net.a.tcb.currentState = .established → net.b.tcb.currentState = .established →
      net.a.tcb.rcv.nxt = net.b.tcb.snd.nxt ∧ net.b.tcb.rcv.nxt = net.a.tcb.snd.nxt) := by
  intro net
  have initial : Settled (Runs issA issB) (Runs issB issA) (Opens issA issB) (Opens issB issA)
      (connecting a b issA issB) :=
    ⟨⟨.connect emptyA, rfl⟩, ⟨.connect emptyB, rfl⟩, by simp [connecting], by simp [connecting]⟩
  have final : Settled (Runs issA issB) (Runs issB issA) (Opens issA issB) (Opens issB issA) net :=
    run_settled (keeps_opening issA issB) (keeps_opening issB issA) initial events permitted
  have agreesA := final.a.opening.agrees
  have agreesB := final.b.opening.agrees
  refine ⟨?_, agreesA, agreesB, ?_⟩
  · intro packet hmem
    rcases List.mem_append.mp hmem with fromB | fromA
    · exact (final.toA packet fromB).noReset
    · exact (final.toB packet fromA).noReset
  · intro establishedA establishedB
    have sndA := (agreesA.snd_eq establishedA).2
    have sndB := (agreesB.snd_eq establishedB).2
    exact ⟨(agreesA.rcv_eq (Or.inr establishedA)).trans sndB.symm,
      (agreesB.rcv_eq (Or.inr establishedB)).trans sndA.symm⟩

/-- Both SYNs cross, then both answers. -/
def sampleCrossing : List (Event Action Unit Action Unit) :=
  [.actA (.processBlock 0), .actB (.processBlock 0), .takeA () 0, .takeB () 0, .takeA () 1,
    .takeB () 1]

theorem simultaneous_open_agrees_crossing :
    let net := run (step endpointNode endpointNode)
      (SimultaneousOpen.connecting sampleTcb samplePeer 100 300) sampleCrossing
    net.a.tcb.currentState = .established ∧ net.b.tcb.currentState = .established ∧
    net.a.tcb.rcv.nxt = net.b.tcb.snd.nxt ∧ net.b.tcb.rcv.nxt = net.a.tcb.snd.nxt := by
  have permitted : ∀ event ∈ sampleCrossing, Permits IsDaemonWork IsDaemonWork event := by
    simp [sampleCrossing, Permits, IsDaemonWork]
  obtain ⟨_, _, _, agree⟩ := simultaneous_open_agrees sampleTcb samplePeer 100 300 rfl rfl
    sampleCrossing permitted
  exact ⟨by decide, by decide, agree (by decide) (by decide)⟩

end TinyCP
