import TinyCP.LoopbackTransfer
import TinyCP.Quiescence
import TinyCP.ZeroWindow

/-!
# A local transfer completes

Every byte that arrives is acknowledged at once, and data that may be sent has its id
queued. Once the daemon has come to rest, nothing is therefore left to send or to
acknowledge: all that the sender accepted has been received, or the sender knows a window
of zero.
-/
namespace TinyCP
open SequenceSpace EventRun

/-- The acknowledgment that the sender will know once the channel is empty. -/
def lastAck (channel : List Segment) (known : UInt32) : UInt32 :=
  match channel.getLast? with
  | some packet => packet.ackNum
  | none => known

theorem lastAck_cons (packet : Segment) (rest : List Segment) (known : UInt32) :
    lastAck (packet :: rest) known = lastAck rest packet.ackNum := by
  cases rest with
  | nil => rfl
  | cons next rest =>
    rw [lastAck, lastAck, List.getLast?_cons_cons]
    rfl

theorem lastAck_append (channel out : List Segment) (some : out ≠ []) (known : UInt32) :
    lastAck (channel ++ out) known = (out.getLast some).ackNum := by
  simp [lastAck, List.getLast?_append, List.getLast?_eq_getLast_of_ne_nil some]

/-- An acknowledgment between what is known and what was sent is taken as it is. -/
theorem Flow.learns {start : UInt32} {x y : Endpoint} {xy rest : List Segment} {packet : Segment}
    {una nxt received : Nat} (h : Flow start x y xy (packet :: rest) una nxt received) :
    (x.tcb.afterAck packet).snd.una = packet.ackNum := by
  obtain ⟨hack, _, count, name, lower, _, later⟩ := h.reports
  have upper := Nat.le_trans later.bounds.1 h.received_le
  exact (h.aligned.afterAck hack name lower upper).una_eq.trans name.symm

/-- The steps of a local connection other than delivery move neither `SND.UNA` nor
`RCV.NXT`. -/
theorem Endpoint.act_kept {e : Endpoint} (established : e.tcb.currentState = .established)
    {action : Action} (exchange : IsExchange (.act action)) :
    (e.act action).1.tcb.snd.una = e.tcb.snd.una ∧
      (e.act action).1.tcb.rcv.nxt = e.tcb.rcv.nxt := by
  have sends : TransmissionControlBlock.TransmitsData e.tcb.currentState = true := by
    rw [established]
    rfl
  have done := e.act_done action
  generalize e.act action = result at done ⊢
  cases done with
  | stay => exact ⟨rfl, rfl⟩
  | send data _ => exact ⟨rfl, rfl⟩
  | recv len _ => exact ⟨rfl, rfl⟩
  | processDirty now _ _ =>
    rw [TransmissionControlBlock.processBlock_of_transmits sends]
    split_ifs <;> exact ⟨rfl, rfl⟩
  | processBlock => exact exchange.elim
  | checkRetransmissions => exact exchange.elim
  | receive => exact exchange.elim
  | resumeWrite => exact exchange.elim
  | close => exact exchange.elim

/-- Unsent data of `x` is queued, and what `y` has received is acknowledged. -/
structure Heard (x y : Endpoint) (yx : List Segment) : Prop where
  queued : x.Queued
  known : lastAck yx x.tcb.snd.una = y.tcb.rcv.nxt

/-- Whatever the receiver emits acknowledges what it has received by then. -/
theorem Heard.receiver {x y y' : Endpoint} {yx out : List Segment} (h : Heard x y yx)
    (shown : ∀ packet ∈ out, Advertises y'.tcb packet)
    (silent : out = [] → y'.tcb.rcv.nxt = y.tcb.rcv.nxt) : Heard x y' (yx ++ out) := by
  refine ⟨h.queued, ?_⟩
  by_cases nothing : out = []
  · rw [silent nothing, nothing, List.append_nil]
    exact h.known
  · rw [lastAck_append yx out nothing]
    exact (shown _ (List.getLast_mem nothing)).2.2.1

structure Attended (p : Pair) : Prop where
  forth : Heard p.a p.b p.ba
  back : Heard p.b p.a p.ab

namespace Attended
variable {startA startB : UInt32} {p : Pair}

theorem mirror (h : Attended p) : Attended p.swap := ⟨h.back, h.forth⟩

theorem act (h : Attended p) (transferring : Transferring startA startB p) {action : Action}
    (exchange : IsExchange (.act action)) : Attended (p.actA action) := by
  have established := transferring.establishedA
  have flow : IsFlow (.act action) := by cases action <;> trivial
  have isOpen : Endpoint.Open action := by cases action <;> trivial
  obtain ⟨una, rcv⟩ := Endpoint.act_kept established exchange
  refine ⟨⟨h.forth.queued.act established flow, ?_⟩, ?_⟩
  · change lastAck p.ba (p.a.act action).1.tcb.snd.una = _
    rw [una]
    exact h.forth.known
  · exact h.back.receiver (Endpoint.act_advertises isOpen established) fun _ => rcv

theorem deliver (h : Attended p) (transferring : Transferring startA startB p) :
    Attended p.deliverA := by
  have established := transferring.establishedA
  have awake := transferring.awakeA
  cases hba : p.ba with
  | nil =>
    have idle : p.deliverA = p := by simp only [Pair.deliverA, awake, hba]
    rw [idle]
    exact h
  | cons packet rest =>
    obtain ⟨_, _, _, forth⟩ := transferring.forth
    obtain ⟨_, _, _, back⟩ := transferring.back
    have known := h.forth.known
    rw [hba] at forth back known
    rw [lastAck_cons] at known
    obtain ⟨hack, notFin, _⟩ := forth.reports
    have isOpen : Endpoint.Open (.receive packet) := notFin
    have room := back.head_fits
    have taken : p.deliverA = { p with ba := rest }.actA (.receive packet) := by
      simp only [Pair.deliverA, awake, hba]
    have acted := Endpoint.receive_awake awake established packet
    have queued : (p.a.act (.receive packet)).1.Queued := by
      rw [acted, ← Endpoint.receive_established established]
      exact .receive established hack notFin
    have una : (p.a.act (.receive packet)).1.tcb.snd.una = packet.ackNum := by
      rw [acted]
      exact (congrArg SendSequence.una (p.a.tcb.handleEstablishedState_sendSide notFin).1).trans
        forth.learns
    have rcv := (Endpoint.step_receive_fits notFin established awake room).2.2.2
    have silent : (p.a.act (.receive packet)).2 = [] →
        (p.a.act (.receive packet)).1.tcb.rcv.nxt = p.a.tcb.rcv.nxt := by
      intro nothing
      rw [acted] at nothing
      have empty : packet.payload = [] := by
        by_contra data
        rcases p.a.tcb.handleEstablishedState_cases notFin with ⟨none, _⟩ | ⟨_, _, sent⟩ | ⟨_, full, _⟩
        · exact data none
        · rw [sent] at nothing
          cases nothing
        · rw [BlockingBuffer.canWrite_of_fits data room] at full
          cases full
      rw [Endpoint.step, empty] at rcv
      exact rcv.trans (UInt32.add_zero _)
    rw [taken]
    refine ⟨⟨queued, ?_⟩, ?_⟩
    · change lastAck rest (p.a.act (.receive packet)).1.tcb.snd.una = _
      rw [una]
      exact known
    · exact h.back.receiver (Endpoint.act_advertises isOpen established) silent

theorem stepA (h : Attended p) (transferring : Transferring startA startB p) {action : PairAction}
    (exchange : IsExchange action) : Attended (p.stepA action) := by
  cases action with
  | act action => exact h.act transferring exchange
  | deliver => exact h.deliver transferring

theorem initial {a b : TransmissionControlBlock} (h : Handshaken a b) :
    Attended (.joined a b) := by
  have flowing := Flowing.initial h
  exact ⟨⟨flowing.queuedA, h.unaA⟩, ⟨flowing.queuedB, h.unaB⟩⟩

/-- With nothing queued and nothing in flight, everything has arrived or the window is shut. -/
theorem complete (h : Attended p) (transferring : Transferring startA startB p)
    (quietAB : p.ab = []) (quietBA : p.ba = []) (clean : p.a.dirty = 0) :
    p.a.tcb.snd.una = p.a.tcb.snd.nxt ∧
      (p.b.appended = p.a.accepted ∧ p.a.tcb.sendBuffer.contents = [] ∨ p.a.tcb.snd.wnd = 0) := by
  obtain ⟨una, nxt, received, flow⟩ := transferring.forth
  have known := h.forth.known
  have transit := flow.length_inTransit
  have below := flow.received_le
  have span := flow.aligned.inFlight_toNat
  have named := flow.rcv_eq
  rw [quietBA] at known
  rw [quietAB] at transit
  have arrived : received = nxt := Nat.le_antisymm below (Nat.le_of_sub_eq_zero transit.symm)
  have all : p.a.tcb.snd.una = p.a.tcb.snd.nxt := by
    rw [flow.aligned.nxt_eq, ← arrived, ← named]
    exact known
  have idle : p.a.tcb.inFlight.toNat = 0 := by
    rw [TransmissionControlBlock.inFlight, all, UInt32.sub_self]
    rfl
  have acked : una = nxt := by
    have le := flow.aligned.una_le
    omega
  refine ⟨all, ?_⟩
  by_cases shut : p.a.tcb.snd.wnd = 0
  · exact Or.inr shut
  · have positive : 0 < p.a.tcb.snd.wnd.toNat :=
      Nat.pos_of_ne_zero fun zero => shut (UInt32.toNat_inj.mp zero)
    have unsent : p.a.tcb.sendBuffer.size = 0 := by
      by_contra more
      have dirty := h.forth.queued (p.a.tcb.hasUnsentInWindow_iff.mpr (by omega))
      omega
    have empty := p.a.tcb.sendBuffer.contents_eq_nil_iff.mpr unsent
    have short : p.a.accepted.length ≤ received := by
      rw [arrived, ← acked]
      exact List.drop_eq_nil_iff.mp (flow.aligned.contents_eq.symm.trans empty)
    refine Or.inl ⟨?_, empty⟩
    rw [flow.appended, List.take_of_length_le short]

end Attended

theorem Handshaken.mirror {a b : TransmissionControlBlock} (h : Handshaken a b) : Handshaken b a where
  establishedA := h.establishedB
  establishedB := h.establishedA
  unaA := h.unaB
  nxtA := h.nxtB
  unaB := h.unaA
  nxtB := h.nxtA
  wndA := h.wndB
  wndB := h.wndA
  sendA := h.sendB
  sendB := h.sendA
  recvA := h.recvB
  recvB := h.recvA

/-- Whatever the two ends exchange, it stays attended. -/
theorem Exchanges.attended {startA startB : UInt32} {a b : TransmissionControlBlock} {p : Pair}
    (h : Exchanges startA startB (.joined a b) p) (handshaken : Handshaken a b) : Attended p := by
  obtain ⟨events, exchange, rfl⟩ := h.reached
  have step : ∀ {startA startB : UInt32} (p : Pair) (action : PairAction), IsExchange action →
      Transferring startA startB p ∧ Attended p →
      Transferring startA startB (p.stepA action) ∧ Attended (p.stepA action) :=
    fun p action exchange h => ⟨h.1.exchange action exchange, h.2.stepA h.1 exchange⟩
  exact (run_invariant (Pair.step_invariant (fun _ h => ⟨h.1.mirror, h.2.mirror⟩)
    (fun _ h => ⟨h.1.mirror, h.2.mirror⟩) step step)
    ⟨Transferring.initial handshaken, Attended.initial handshaken⟩ events exchange).2

namespace Lifecycle

theorem LeftAlone.isRunning {fd : Int} {d : Lifecycle} {event : LifecycleEvent}
    (alone : LeftAlone fd d event) : (d.step fd event).isRunning = d.isRunning := by
  cases event with
  | daemon now iss read =>
    rw [step, advance]
    split_ifs
    · rfl
    · exact work_isRunning d
  | call made => cases alone
  | stop => cases alone

/-- A daemon at rest leaves nothing unsent and nothing under way. -/
theorem Joined.completes {a b : UInt64} {pa pb : IPv4Address} {startA startB : UInt32}
    {tcbA tcbB : TransmissionControlBlock} {d : Lifecycle} {x y : Endpoint}
    (h : Joined a b pa pb startA startB (.joined tcbA tcbB) d x y)
    (handshaken : Handshaken tcbA tcbB) (rest : Resting d) :
    x.tcb.snd.una = x.tcb.snd.nxt ∧
      (y.appended = x.accepted ∧ x.tcb.sendBuffer.contents = [] ∨ x.tcb.snd.wnd = 0) := by
  have clean : x.dirty = 0 := by
    rw [← h.heldA.dirty, rest.ids]
    rfl
  refine (h.exchanges.attended handshaken).complete h.transferring ?_ ?_ clean
  · change between pa pb _ = []
    rw [rest.packets]
    rfl
  · change between pb pa _ = []
    rw [rest.packets]
    rfl

section Sample

end Sample
end Lifecycle
end TinyCP
