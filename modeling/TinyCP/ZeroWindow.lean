import TinyCP.Transfer

/-!
# Windows that close and open again

A sender learns the free space of its peer only from segments that the peer emits
for other reasons: `recv` sends nothing. As long as no application reads from a
receive buffer that is completely full, a window of zero that a sender knows, or
is about to learn, still describes a full buffer. A read from a full buffer opens
the window without anybody telling the sender.
-/
namespace TinyCP
open SequenceSpace EventRun

/-- The steps of the flow: the application's calls, the daemon thread with its queue of
dirty ids and its timer, and delivery. -/
def IsFlow : PairAction → Prop
  | .act (.send _) | .act (.recv _) | .act (.processDirty _) | .act (.checkRetransmissions _)
  | .act .resumeWrite | .deliver => True
  | _ => False

/-- Nothing is going on and A has unsent data, yet B could take some of it. -/
structure Stalled (p : Pair) : Prop where
  quietAB : p.ab = []
  quietBA : p.ba = []
  cleanA : p.a.dirty = 0
  cleanB : p.b.dirty = 0
  idle : p.a.tcb.snd.nxt = p.a.tcb.snd.una
  unsent : 0 < p.a.tcb.sendBuffer.size
  room : 0 < p.b.tcb.recvBuffer.availableCapacity

/-- No byte is read from a receive buffer that is completely full. -/
def ReadsBeforeFull (e : Endpoint) : PairAction → Prop
  | .act (.recv len) => len = 0 ∨ e.tcb.recvBuffer.size < maxIPv4PacketSize
  | _ => True

def Pair.ReadsBeforeFull (p : Pair) : Side × PairAction → Prop
  | (.a, action) => TinyCP.ReadsBeforeFull p.a action
  | (.b, action) => TinyCP.ReadsBeforeFull p.b action

/-- The window that the sender will know once the channel is empty. -/
def lastWindow (channel : List Segment) (known : UInt32) : UInt32 :=
  match channel.getLast? with
  | some packet => packet.window.toUInt32
  | none => known

theorem lastWindow_cons (packet : Segment) (rest : List Segment) (known : UInt32) :
    lastWindow (packet :: rest) known = lastWindow rest packet.window.toUInt32 := by
  cases rest with
  | nil => rfl
  | cons next rest => rw [lastWindow, lastWindow, List.getLast?_cons_cons]; rfl

theorem lastWindow_append (channel out : List Segment) (some : out ≠ []) (known : UInt32) :
    lastWindow (channel ++ out) known = (out.getLast some).window.toUInt32 := by
  simp [lastWindow, List.getLast?_append, List.getLast?_eq_getLast_of_ne_nil some]

theorem freeWnd_eq_zero {tcb : TransmissionControlBlock} (shut : tcb.freeWnd.toUInt32 = 0) :
    tcb.recvBuffer.size = 65535 := by
  have zero : tcb.freeWnd.toNat = 0 := by
    rw [← UInt16.toNat_toUInt32, shut]
    rfl
  have bound := tcb.recvSize_le
  rw [tcb.freeWnd_toNat] at zero
  omega

namespace Endpoint

/-- Data that may be sent has its id in the queue of dirty ids. -/
def Queued (e : Endpoint) : Prop := e.tcb.hasUnsentInWindow = true → 0 < e.dirty

theorem Queued.processDirty {e : Endpoint} (established : e.tcb.currentState = .established)
    (now : Int) : ({ e with dirty := e.dirty - 1 }.perform (e.tcb.processBlock now)).1.Queued := by
  have sends : TransmissionControlBlock.TransmitsData e.tcb.currentState = true := by
    rw [established]; rfl
  intro unsent
  have requeued := TransmissionControlBlock.processBlock_requeues sends unsent
  change 0 < e.dirty - 1 + (e.tcb.processBlock now).dirty.toNat
  rw [requeued]
  exact Nat.succ_pos _

theorem Queued.receive {e : Endpoint} (established : e.tcb.currentState = .established)
    {packet : Segment} (hack : packet.ack = true) (notFin : packet.fin = false) :
    (e.perform (e.tcb.receive packet)).1.Queued := by
  rw [receive_established established]
  obtain ⟨requeued, same⟩ :=
    @TransmissionControlBlock.handleEstablishedState_requeues e.tcb packet notFin
  intro unsent
  change 0 < e.dirty + (e.tcb.handleEstablishedState packet).dirty.toNat
  have dirty : (e.tcb.handleEstablishedState packet).dirty = true := by
    rw [requeued, hack, Bool.true_and]
    exact same.symm.trans unsent
  rw [dirty]
  exact Nat.succ_pos _

theorem Queued.act {e : Endpoint} (h : e.Queued) (established : e.tcb.currentState = .established)
    {action : Action} (flow : IsFlow (.act action)) : (e.act action).1.Queued := by
  have done := e.act_done action
  generalize e.act action = result at done ⊢
  cases done with
  | stay => exact h
  | send data _ => exact fun _ => Nat.succ_pos _
  | recv len _ => exact h
  | processDirty now _ _ => exact Queued.processDirty established now
  | checkRetransmissions now _ =>
    rcases e.tcb.checkRetransmission_cases now with same | ⟨_, _, _, sent⟩
    · rw [same]; exact h
    · rw [sent]; exact h
  | resumeWrite payload _ =>
    rcases e.tcb.storePayload_cases payload with ⟨_, stored⟩ | ⟨_, blocked⟩
    · rw [stored]; exact h
    · rw [blocked]; exact h
  | processBlock => exact False.elim flow
  | receive => exact False.elim flow
  | close => exact False.elim flow

/-- Without a segment for the peer no space is freed in a full buffer. -/
theorem act_full {e : Endpoint} {action : Action} (isOpen : Open action)
    (established : e.tcb.currentState = .established)
    (met : ReadsBeforeFull e (.act action)) (silent : (e.act action).2 = [])
    (full : e.tcb.recvBuffer.size = 65535) : (e.act action).1.tcb.recvBuffer.size = 65535 := by
  have sends : TransmissionControlBlock.TransmitsData e.tcb.currentState = true := by
    rw [established]; rfl
  have block : ∀ now, (e.tcb.processBlock now).tcb.recvBuffer.size = 65535 := by
    intro now
    rw [TransmissionControlBlock.processBlock_of_transmits sends]
    split_ifs <;> exact full
  have done := e.act_done action
  generalize e.act action = result at done silent ⊢
  cases done with
  | stay => exact full
  | send data _ => exact full
  | recv len _ =>
    rcases met with rfl | below
    · change (e.tcb.recvBuffer.fetch 0).1.size = 65535
      rw [BlockingBuffer.size_fetch, full]
      rfl
    · rw [full] at below
      exact absurd below (Nat.lt_irrefl _)
  | processBlock now _ => exact block now
  | processDirty now _ _ => exact block now
  | checkRetransmissions now _ =>
    rcases e.tcb.checkRetransmission_cases now with same | ⟨_, _, _, sent⟩
    · rw [same]; exact full
    · rw [sent]; exact full
  | receive packet _ =>
    have buffer := e.tcb.afterAck_recvBuffer packet
    rw [receive_established established] at silent ⊢
    rcases e.tcb.handleEstablishedState_cases isOpen with ⟨_, h⟩ | ⟨_, _, h⟩ | ⟨_, _, h⟩
    · rw [h]
      exact (congrArg BlockingBuffer.size buffer).trans full
    · rw [h] at silent
      cases silent
    · rw [h]
      exact (congrArg BlockingBuffer.size buffer).trans full
  | resumeWrite payload _ =>
    rcases e.tcb.storePayload_cases payload with ⟨_, stored⟩ | ⟨_, blocked⟩
    · rw [stored] at silent
      cases silent
    · rw [blocked]; exact full
  | close now => exact False.elim isOpen

theorem act_wnd {e : Endpoint} {action : Action} (flow : IsFlow (.act action))
    (established : e.tcb.currentState = .established) :
    (e.act action).1.tcb.snd.wnd = e.tcb.snd.wnd := by
  have sends : TransmissionControlBlock.TransmitsData e.tcb.currentState = true := by
    rw [established]; rfl
  have done := e.act_done action
  generalize e.act action = result at done ⊢
  cases done with
  | stay => rfl
  | send data _ => rfl
  | recv len _ => rfl
  | processDirty now _ _ =>
    rw [TransmissionControlBlock.processBlock_of_transmits sends]
    split_ifs <;> rfl
  | checkRetransmissions now _ =>
    rcases e.tcb.checkRetransmission_cases now with same | ⟨_, _, _, sent⟩
    · rw [same]; rfl
    · rw [sent]; rfl
  | resumeWrite payload _ =>
    rcases e.tcb.storePayload_cases payload with ⟨_, stored⟩ | ⟨_, blocked⟩
    · rw [stored]; rfl
    · rw [blocked]; rfl
  | processBlock => exact False.elim flow
  | receive => exact False.elim flow
  | close => exact False.elim flow

end Endpoint

/-- What the sender `x` knows, or will learn from the channel, about the space at `y`. -/
structure Informed (x y : Endpoint) (yx : List Segment) : Prop where
  plain : ∀ packet ∈ yx, packet.ack = true ∧ packet.fin = false
  full : lastWindow yx x.tcb.snd.wnd = 0 → y.tcb.recvBuffer.size = 65535

namespace Informed
variable {x y : Endpoint} {yx : List Segment}

theorem sender {x' : Endpoint} (h : Informed x y yx) (wnd : x'.tcb.snd.wnd = x.tcb.snd.wnd) :
    Informed x' y yx := by
  refine ⟨h.plain, ?_⟩
  rw [wnd]
  exact h.full

theorem sender_learns {x' : Endpoint} {packet : Segment} {rest : List Segment}
    (h : Informed x y (packet :: rest)) (wnd : x'.tcb.snd.wnd = packet.window.toUInt32) :
    Informed x' y rest := by
  refine ⟨fun other hmem => h.plain other (List.mem_cons_of_mem packet hmem), ?_⟩
  have full := h.full
  rw [lastWindow_cons] at full
  rw [wnd]
  exact full

/-- A step of the receiver either tells the sender about its buffer or frees nothing. -/
theorem receiver {y' : Endpoint} {out : List Segment} (h : Informed x y yx)
    (shown : ∀ packet ∈ out, Advertises y'.tcb packet)
    (silent : out = [] → y.tcb.recvBuffer.size = 65535 → y'.tcb.recvBuffer.size = 65535) :
    Informed x y' (yx ++ out) := by
  constructor
  · intro packet hmem
    rcases List.mem_append.mp hmem with old | new
    · exact h.plain packet old
    · exact ⟨(shown packet new).1, (shown packet new).2.1⟩
  · intro shut
    by_cases nothing : out = []
    · rw [nothing, List.append_nil] at shut
      exact silent nothing (h.full shut)
    · rw [lastWindow_append yx out nothing] at shut
      obtain ⟨_, _, _, window⟩ := shown _ (List.getLast_mem nothing)
      rw [window] at shut
      exact freeWnd_eq_zero shut

end Informed

/-- Both directions of the flow, seen from A. -/
structure Flowing (p : Pair) : Prop where
  establishedA : p.a.tcb.currentState = .established
  establishedB : p.b.tcb.currentState = .established
  queuedA : p.a.Queued
  queuedB : p.b.Queued
  informedA : Informed p.a p.b p.ba
  informedB : Informed p.b p.a p.ab

namespace Flowing
variable {p : Pair}

theorem mirror (h : Flowing p) : Flowing p.swap :=
  ⟨h.establishedB, h.establishedA, h.queuedB, h.queuedA, h.informedB, h.informedA⟩

theorem act (h : Flowing p) {action : Action} (flow : IsFlow (.act action))
    (met : ReadsBeforeFull p.a (.act action)) : Flowing (p.actA action) := by
  have isOpen : Endpoint.Open action := by cases action <;> trivial
  exact ⟨Endpoint.step_established isOpen h.establishedA, h.establishedB,
    h.queuedA.act h.establishedA flow, h.queuedB,
    h.informedA.sender (Endpoint.act_wnd flow h.establishedA),
    h.informedB.receiver (Endpoint.act_advertises isOpen h.establishedA)
      (Endpoint.act_full isOpen h.establishedA met)⟩

theorem deliver (h : Flowing p) : Flowing p.deliverA := by
  cases hw : p.a.waiting with
  | some payload =>
    have blocked : p.deliverA = p := by simp only [Pair.deliverA, hw]
    rw [blocked]
    exact h
  | none =>
    cases hba : p.ba with
    | nil =>
      have idle : p.deliverA = p := by simp only [Pair.deliverA, hw, hba]
      rw [idle]
      exact h
    | cons packet rest =>
      have informed := h.informedA
      rw [hba] at informed
      obtain ⟨hack, notFin⟩ := informed.plain packet List.mem_cons_self
      have isOpen : Endpoint.Open (.receive packet) := notFin
      have acted : p.a.act (.receive packet) = p.a.perform (p.a.tcb.receive packet) := by
        simp [Endpoint.act, Endpoint.daemon, hw]
      have taken : p.deliverA = { p with ba := rest }.actA (.receive packet) := by
        simp only [Pair.deliverA, hw, hba]
      have queued : (p.a.act (.receive packet)).1.Queued := by
        rw [acted]
        exact .receive h.establishedA hack notFin
      have wnd : (p.a.act (.receive packet)).1.tcb.snd.wnd = packet.window.toUInt32 := by
        rw [acted, Endpoint.receive_established h.establishedA]
        exact (congrArg SendSequence.wnd (p.a.tcb.handleEstablishedState_sendSide notFin).1).trans
          (p.a.tcb.afterAck_wnd packet hack)
      rw [taken]
      exact ⟨Endpoint.step_established isOpen h.establishedA, h.establishedB, queued, h.queuedB,
        informed.sender_learns wnd,
        h.informedB.receiver (Endpoint.act_advertises isOpen h.establishedA)
          (Endpoint.act_full isOpen h.establishedA trivial)⟩

theorem stepA (h : Flowing p) {action : PairAction} (flow : IsFlow action)
    (met : ReadsBeforeFull p.a action) : Flowing (p.stepA action) := by
  cases action with
  | act action => exact h.act flow met
  | deliver => exact h.deliver

theorem step (h : Flowing p) {event : Side × PairAction} (flow : IsFlow event.2)
    (met : p.ReadsBeforeFull event) : Flowing (p.step event) := by
  obtain ⟨side, action⟩ := event
  cases side with
  | a => exact h.stepA flow met
  | b => exact (h.mirror.stepA flow met).mirror

/-- Unsent data behind an idle sender means that its window is zero. -/
theorem not_stalled (h : Flowing p) : ¬ Stalled p := by
  intro stalled
  have idle : p.a.tcb.inFlight.toNat = 0 := by
    rw [TransmissionControlBlock.inFlight, stalled.idle, UInt32.sub_self]
    rfl
  have unsent := stalled.unsent
  have shut : p.a.tcb.snd.wnd = 0 := by
    by_contra opened
    have positive : 0 < p.a.tcb.snd.wnd.toNat :=
      Nat.pos_of_ne_zero fun zero => opened (UInt32.toNat_inj.mp zero)
    have dirty := h.queuedA (p.a.tcb.hasUnsentInWindow_iff.mpr (by omega))
    have clean := stalled.cleanA
    omega
  have full := h.informedA.full
  rw [stalled.quietBA] at full
  have room := stalled.room
  rw [TransmissionControlBlock.recvCapacity_eq, full shut] at room
  exact absurd room (Nat.lt_irrefl 0)

theorem initial {a b : TransmissionControlBlock} (h : Handshaken a b) : Flowing (.joined a b) := by
  have queued : ∀ tcb : TransmissionControlBlock, tcb.sendBuffer.contents = [] →
      (Endpoint.fresh tcb).Queued := by
    intro tcb empty unsent
    have size := tcb.sendBuffer.contents_eq_nil_iff.mp empty
    have positive := (tcb.hasUnsentInWindow_iff.mp unsent).1
    omega
  have informed : ∀ x y : TransmissionControlBlock, x.snd.wnd = 65535 →
      Informed (.fresh x) (.fresh y) [] := by
    intro x y wnd
    refine ⟨by simp, fun shut => ?_⟩
    have zero : x.snd.wnd = 0 := shut
    rw [wnd] at zero
    cases zero
  exact ⟨h.establishedA, h.establishedB, queued a h.sendA, queued b h.sendB,
    informed a b h.wndA, informed b a h.wndB⟩

end Flowing

/-- Runs in which no application reads from a full receive buffer never stall. -/
theorem never_stalled (a b : TransmissionControlBlock) (h : Handshaken a b)
    (events : List (Side × PairAction)) (flow : ∀ event ∈ events, IsFlow event.2)
    (met : Throughout Pair.step Pair.ReadsBeforeFull (.joined a b) events) :
    Always Pair.step (fun p => ¬ Stalled p) (.joined a b) events := by
  intro done hpre
  have preserve : ∀ p event, IsFlow event.2 → Flowing p → Pair.ReadsBeforeFull p event →
      Flowing (p.step event) := fun p event flow hp met => hp.step flow met
  have final := run_invariant_of_throughout preserve (Flowing.initial h) done
    (fun event hmem => flow event (hpre.subset hmem)) (throughout_take hpre met)
  exact final.not_stalled

/-- A byte goes over and is read from a buffer that is far from full. -/
def sampleFlow : List (Side × PairAction) :=
  [(.a, .act (.send [1, 2])), (.a, .act (.processDirty 0)), (.b, .deliver), (.b, .act (.recv 1)),
    (.a, .deliver)]

theorem never_stalled_two_bytes :
    Always Pair.step (fun p => ¬ Stalled p) (.joined sampleTcb samplePeer) sampleFlow := by
  refine never_stalled sampleTcb samplePeer handshaken_sample sampleFlow ?_ ?_
  · simp [sampleFlow, IsFlow]
  · exact ⟨trivial, trivial, trivial, Or.inr (by decide), trivial, trivial⟩

/-- A has `left` bytes to send, B has room for exactly these, and nothing is in flight. -/
structure Filling (left : Nat) (p : Pair) : Prop where
  establishedA : p.a.tcb.currentState = .established
  establishedB : p.b.tcb.currentState = .established
  awakeA : p.a.waiting = none
  awakeB : p.b.waiting = none
  quietAB : p.ab = []
  quietBA : p.ba = []
  cleanB : p.b.dirty = 0
  emptyB : p.b.tcb.sendBuffer.size = 0
  idle : p.a.tcb.snd.nxt = p.a.tcb.snd.una
  expected : p.b.tcb.rcv.nxt = p.a.tcb.snd.nxt
  size : p.a.tcb.sendBuffer.size = left
  wnd : p.a.tcb.snd.wnd.toNat = left
  room : p.b.tcb.recvBuffer.size + left = 65535
  queued : 0 < left → 0 < p.a.dirty

namespace Endpoint

theorem processDirty_sends {e : Endpoint} (established : e.tcb.currentState = .established)
    (awake : e.waiting = none) (queued : 0 < e.dirty) (data : e.tcb.nextData ≠ []) (now : Int) :
    (e.act (.processDirty now)).1.tcb = e.tcb.transmitted now ∧
    (e.act (.processDirty now)).1.waiting = none ∧
    (e.act (.processDirty now)).2 = [e.tcb.createWriterTcpPacket e.tcb.nextData e.tcb.snd.nxt] := by
  have sends : TransmissionControlBlock.TransmitsData e.tcb.currentState = true := by
    rw [established]; rfl
  have enabled : ¬ (e.waiting.isSome = true ∨ e.dirty = 0) := by
    rw [awake, not_or]
    exact ⟨Bool.false_ne_true, Nat.ne_of_gt queued⟩
  rw [act, if_neg enabled, TransmissionControlBlock.processBlock_of_transmits sends, if_neg data]
  exact ⟨rfl, awake, rfl⟩

theorem processDirty_nothing {e : Endpoint} (established : e.tcb.currentState = .established)
    (awake : e.waiting = none) (queued : 0 < e.dirty) (nothing : e.tcb.nextData = []) (now : Int) :
    e.act (.processDirty now) =
      ({ e with dirty := e.dirty - 1, tcb := { e.tcb with lastWritten := now } }, []) := by
  have sends : TransmissionControlBlock.TransmitsData e.tcb.currentState = true := by
    rw [established]; rfl
  have enabled : ¬ (e.waiting.isSome = true ∨ e.dirty = 0) := by
    rw [awake, not_or]
    exact ⟨Bool.false_ne_true, Nat.ne_of_gt queued⟩
  rw [act, if_neg enabled, TransmissionControlBlock.processBlock_of_transmits sends,
    if_pos nothing, TransmissionControlBlock.transmitted_of_nil nothing]
  simp [perform, awake]

theorem receive_awake {e : Endpoint} (awake : e.waiting = none)
    (established : e.tcb.currentState = .established) (packet : Segment) :
    e.act (.receive packet) = e.perform (e.tcb.handleEstablishedState packet) := by
  simp [act, daemon, awake, receive_established established]

/-- A data segment that fits is answered with an acknowledgment of all of it. -/
theorem receive_data {e : Endpoint} (awake : e.waiting = none)
    (established : e.tcb.currentState = .established) {packet : Segment}
    (notFin : packet.fin = false) (data : packet.payload ≠ [])
    (fits : packet.payload.length ≤ e.tcb.recvBuffer.availableCapacity)
    (empty : e.tcb.sendBuffer.size = 0) :
    (e.act (.receive packet)).2 = [(e.act (.receive packet)).1.tcb.sendAck] ∧
    (e.act (.receive packet)).1.dirty = e.dirty ∧
    (e.act (.receive packet)).1.tcb.sendBuffer.size = 0 := by
  have still : (e.tcb.afterAck packet).sendBuffer.size = 0 := by
    rw [← BlockingBuffer.contents_eq_nil_iff] at empty ⊢
    exact TransmissionControlBlock.afterAck_empty empty packet
  have nothing : (e.tcb.afterAck packet).hasUnsentInWindow = false := by
    rw [← Bool.not_eq_true, TransmissionControlBlock.hasUnsentInWindow_iff, still]
    omega
  rw [receive_awake awake established]
  rcases e.tcb.handleEstablishedState_cases notFin with ⟨none, _⟩ | ⟨_, _, h⟩ | ⟨_, full, _⟩
  · exact absurd none data
  · rw [h, nothing, Bool.and_false]
    exact ⟨rfl, rfl, still⟩
  · rw [BlockingBuffer.canWrite_of_fits data fits] at full
    cases full

/-- An acknowledgment of everything in flight, with no data of its own. -/
theorem receive_ack {e : Endpoint} (awake : e.waiting = none)
    (established : e.tcb.currentState = .established) {packet : Segment}
    (hack : packet.ack = true) (notFin : packet.fin = false) (noData : packet.payload = [])
    {count : Nat} (positive : 0 < count) (small : count ≤ 1460)
    (name : packet.ackNum = seqAt e.tcb.snd.una count) :
    (e.act (.receive packet)).1.waiting = none ∧ (e.act (.receive packet)).2 = [] ∧
    (e.act (.receive packet)).1.tcb.snd.una = packet.ackNum ∧
    (e.act (.receive packet)).1.tcb.snd.nxt = e.tcb.snd.nxt ∧
    (e.act (.receive packet)).1.tcb.snd.wnd = packet.window.toUInt32 ∧
    (e.act (.receive packet)).1.tcb.sendBuffer.size = e.tcb.sendBuffer.size - count := by
  have distance : (packet.ackNum - e.tcb.snd.una).toNat = count := by
    have known := distance_seqAt e.tcb.snd.una (Nat.zero_le count) (by omega)
    rwa [seqAt_zero, ← name, Nat.sub_zero] at known
  have ahead : 0 < (packet.ackNum - e.tcb.snd.una).toInt32 := by
    rw [toInt32_pos_iff, distance]
    omega
  obtain ⟨una, buffer⟩ := TransmissionControlBlock.afterAck_of_ahead hack ahead
  rw [receive_awake awake established,
    TransmissionControlBlock.handleEstablishedState_of_not_fin _ notFin, if_pos noData]
  refine ⟨awake, rfl, una, e.tcb.afterAck_nxt packet, e.tcb.afterAck_wnd packet hack, ?_⟩
  change (e.tcb.afterAck packet).sendBuffer.size = _
  rw [buffer, BlockingBuffer.size_discard, distance]
  omega

end Endpoint

namespace Filling
variable {left : Nat} {p : Pair}

theorem inFlight_eq (h : Filling left p) : p.a.tcb.inFlight.toNat = 0 := by
  rw [TransmissionControlBlock.inFlight, h.idle, UInt32.sub_self]
  rfl

theorem length_nextData (h : Filling left p) : p.a.tcb.nextData.length = min left 1460 := by
  rw [p.a.tcb.length_nextData, h.inFlight_eq, h.size, h.wnd]
  omega

/-- The sender after `count` bytes went out in one segment. -/
structure Sent (e : Endpoint) (count : Nat) (e' : Endpoint) (packet : Segment) : Prop where
  established : e'.tcb.currentState = .established
  awake : e'.waiting = none
  una_eq : e'.tcb.snd.una = e.tcb.snd.una
  nxt_eq : e'.tcb.snd.nxt = seqAt e.tcb.snd.una count
  size_eq : e'.tcb.sendBuffer.size = e.tcb.sendBuffer.size
  notFin : packet.fin = false
  length_eq : packet.payload.length = count

/-- The receiver after it stored them. -/
structure Stored (e : Endpoint) (count : Nat) (e' : Endpoint) : Prop where
  established : e'.tcb.currentState = .established
  awake : e'.waiting = none
  clean : e'.dirty = e.dirty
  empty : e'.tcb.sendBuffer.size = 0
  size_eq : e'.tcb.recvBuffer.size = e.tcb.recvBuffer.size + count
  rcv_eq : e'.tcb.rcv.nxt = e.tcb.rcv.nxt + UInt32.ofNat count

theorem transmit (h : Filling left p) (some : 0 < left) :
    ∃ a packet, Sent p.a (min left 1460) a packet ∧
      p.step (.a, .act (.processDirty 0)) = { p with a := a, ab := [packet] } := by
  have length := h.length_nextData
  have data : p.a.tcb.nextData ≠ [] := by
    intro nothing
    rw [nothing, List.length_nil] at length
    omega
  obtain ⟨block, awake, out⟩ :=
    Endpoint.processDirty_sends h.establishedA h.awakeA (h.queued some) data 0
  refine ⟨_, p.a.tcb.createWriterTcpPacket p.a.tcb.nextData p.a.tcb.snd.nxt,
    ⟨?_, awake, ?_, ?_, ?_, rfl, length⟩, ?_⟩
  · rw [block]; exact h.establishedA
  · rw [block]; rfl
  · rw [block, ← length, ← h.idle]; rfl
  · rw [block]; rfl
  · simp only [Pair.step, Pair.stepA, Pair.actA, out, h.quietAB, List.nil_append]

theorem store (h : Filling left p) {packet : Segment} {count : Nat} (notFin : packet.fin = false)
    (length : packet.payload.length = count) (positive : 0 < count) (within : count ≤ left)
    (a : Endpoint) :
    ∃ b, Stored p.b count b ∧ ({ p with a := a, ab := [packet] } : Pair).step (.b, .deliver) =
      { p with a := a, b := b, ab := [], ba := [b.tcb.sendAck] } := by
  have room := h.room
  have data : packet.payload ≠ [] := List.length_pos_iff.mp (by omega)
  have fits : packet.payload.length ≤ p.b.tcb.recvBuffer.availableCapacity := by
    rw [length, TransmissionControlBlock.recvCapacity_eq]
    omega
  have isOpen : Endpoint.Open (.receive packet) := notFin
  obtain ⟨awake, _, size, rcv⟩ := Endpoint.step_receive_fits notFin h.establishedB h.awakeB fits
  obtain ⟨out, dirty, empty⟩ :=
    Endpoint.receive_data h.awakeB h.establishedB notFin data fits h.emptyB
  rw [length] at size rcv
  refine ⟨_, ⟨Endpoint.step_established isOpen h.establishedB, awake, dirty, empty, size, rcv⟩, ?_⟩
  simp only [Pair.step, Pair.swap, Pair.stepA, Pair.deliverA, h.awakeB, Pair.actA, out, h.quietBA,
    List.nil_append]
  rfl

/-- The acknowledgment leaves A with the rest and with a window for exactly the rest. -/
theorem acknowledge (h : Filling left p) {count : Nat} {a b : Endpoint} {packet : Segment}
    (sent : Sent p.a count a packet) (stored : Stored p.b count b) (positive : 0 < count)
    (small : count ≤ 1460) (within : count ≤ left) :
    Filling (left - count)
      (({ p with a := a, b := b, ab := [], ba := [b.tcb.sendAck] } : Pair).step (.a, .deliver)) := by
  have room := h.room
  have rcv : b.tcb.rcv.nxt = seqAt p.a.tcb.snd.una count := by
    rw [stored.rcv_eq, h.expected, h.idle]
    rfl
  have name : b.tcb.sendAck.ackNum = seqAt a.tcb.snd.una count := by
    rw [sent.una_eq]
    exact rcv
  have isOpen : Endpoint.Open (.receive b.tcb.sendAck) := rfl
  have established : (a.act (.receive b.tcb.sendAck)).1.tcb.currentState = .established :=
    Endpoint.step_established isOpen sent.established
  obtain ⟨awake, out, una, nxt, wnd, size⟩ := Endpoint.receive_ack sent.awake sent.established
    rfl rfl rfl positive small name
  have queued : (a.act (.receive b.tcb.sendAck)).1.Queued := by
    rw [Endpoint.receive_awake sent.awake sent.established,
      ← Endpoint.receive_established sent.established]
    exact .receive sent.established rfl rfl
  generalize hnext : (a.act (.receive b.tcb.sendAck)).1 = next at *
  have taken : ({ p with a := a, b := b, ab := [], ba := [b.tcb.sendAck] } : Pair).step
      (.a, .deliver) = { p with a := next, b := b, ab := [], ba := [] } := by
    simp only [Pair.step, Pair.stepA, Pair.deliverA, sent.awake, Pair.actA, hnext, out,
      List.append_nil]
  have idle : next.tcb.snd.nxt = next.tcb.snd.una := by
    rw [nxt, una, name, sent.nxt_eq, sent.una_eq]
  have sizeLeft : next.tcb.sendBuffer.size = left - count := by
    rw [size, sent.size_eq, h.size]
  have wndLeft : next.tcb.snd.wnd.toNat = left - count := by
    have window : b.tcb.sendAck.window = b.tcb.freeWnd := rfl
    rw [wnd, UInt16.toNat_toUInt32, window, b.tcb.freeWnd_toNat, stored.size_eq]
    omega
  rw [taken]
  refine ⟨established, stored.established, awake, stored.awake, rfl, rfl,
    stored.clean.trans h.cleanB, stored.empty, idle, ?_, sizeLeft, wndLeft, ?_, ?_⟩
  · exact rcv.trans (sent.nxt_eq.symm.trans nxt.symm)
  · change b.tcb.recvBuffer.size + _ = 65535
    rw [stored.size_eq]
    omega
  · intro more
    apply queued
    rw [TransmissionControlBlock.hasUnsentInWindow_iff, TransmissionControlBlock.inFlight, idle,
      UInt32.sub_self, sizeLeft, wndLeft]
    exact ⟨more, more⟩

/-- One segment goes over and is acknowledged. -/
def round : List (Side × PairAction) :=
  [(.a, .act (.processDirty 0)), (.b, .deliver), (.a, .deliver)]

theorem run_round (h : Filling left p) (some : 0 < left) :
    Filling (left - min left 1460) (run Pair.step p round) := by
  obtain ⟨a, packet, sent, first⟩ := h.transmit some
  obtain ⟨b, stored, second⟩ :=
    h.store sent.notFin sent.length_eq (by omega) (Nat.min_le_left _ _) a
  rw [round, run_cons, run_cons, run_cons, run_nil, first, second]
  exact h.acknowledge sent stored (by omega) (Nat.min_le_right _ _) (Nat.min_le_left _ _)

/-- Every run of the flow can be continued until B is full. -/
theorem exhaust (h : Filling left p) :
    ∃ events, (∀ event ∈ events, IsFlow event.2) ∧ Filling 0 (run Pair.step p events) := by
  induction left using Nat.strongRecOn generalizing p with
  | ind left ih =>
    by_cases some : 0 < left
    · obtain ⟨events, flow, final⟩ := ih _ (by omega) (h.run_round some)
      refine ⟨round ++ events, ?_, ?_⟩
      · rw [List.forall_mem_append]
        exact ⟨by simp [round, IsFlow], flow⟩
      · rw [run_append]
        exact final
    · obtain rfl : left = 0 := by omega
      exact ⟨[], by simp, h⟩

/-- The queue of dirty ids runs empty without a segment being sent. -/
theorem drain (h : Filling 0 p) :
    ∃ events, (∀ event ∈ events, IsFlow event.2) ∧ Filling 0 (run Pair.step p events) ∧
      (run Pair.step p events).a.dirty = 0 := by
  generalize hcount : p.a.dirty = count
  induction count generalizing p with
  | zero => exact ⟨[], by simp, h, hcount⟩
  | succ count ih =>
    have nothing : p.a.tcb.nextData = [] := by
      rw [← List.length_eq_zero_iff, h.length_nextData, Nat.zero_min]
    have taken : p.step (.a, .act (.processDirty 0)) = { p with
        a := { p.a with dirty := p.a.dirty - 1, tcb := { p.a.tcb with lastWritten := 0 } } } := by
      simp only [Pair.step, Pair.stepA, Pair.actA, List.append_nil,
        Endpoint.processDirty_nothing h.establishedA h.awakeA (by omega) nothing]
    have next : Filling 0 (p.step (.a, .act (.processDirty 0))) := by
      rw [taken]
      exact ⟨h.establishedA, h.establishedB, h.awakeA, h.awakeB, h.quietAB, h.quietBA, h.cleanB,
        h.emptyB, h.idle, h.expected, h.size, h.wnd, h.room, fun some => absurd some (by omega)⟩
    have fewer : (p.step (.a, .act (.processDirty 0))).a.dirty = count := by
      rw [taken]
      change p.a.dirty - 1 = count
      omega
    obtain ⟨events, flow, final, clean⟩ := ih next fewer
    exact ⟨_ :: events, by simpa [IsFlow] using flow, final, clean⟩

/-- One call of `send` hands over as much as the window permits. -/
theorem start {a b : TransmissionControlBlock} (h : Handshaken a b) {data : List UInt8}
    (length : data.length = 65535) :
    Filling 65535 ((Pair.joined a b).step (.a, .act (.send data))) := by
  have sendA := a.sendBuffer.contents_eq_nil_iff.mp h.sendA
  have sendB := b.sendBuffer.contents_eq_nil_iff.mp h.sendB
  have recvB := b.recvBuffer.contents_eq_nil_iff.mp h.recvB
  have writable : a.sendBuffer.canWrite = true := by
    rw [BlockingBuffer.canWrite_iff, sendA]
    exact Or.inl (by decide)
  have accepted : (a.sendBuffer.store data).1.size = 65535 := by
    rw [BlockingBuffer.size_store, BlockingBuffer.availableCapacity_eq, sendA, length]
    rfl
  have opened : a.snd.wnd.toNat = 65535 := by
    rw [h.wndA]
    rfl
  have room : (Endpoint.fresh a).tcb.sendBuffer.canWrite = true := writable
  have taken : (Pair.joined a b).step (.a, .act (.send data)) = { Pair.joined a b with
      a := { Endpoint.fresh a with
        tcb := { a with sendBuffer := (a.sendBuffer.store data).1 }
        dirty := 1
        accepted := data.take a.sendBuffer.availableCapacity } } := by
    simp only [Pair.step, Pair.stepA, Pair.actA, Pair.joined, Endpoint.act_send room]
    rfl
  rw [taken]
  exact ⟨h.establishedA, h.establishedB, rfl, rfl, rfl, rfl, rfl, sendB, h.nxtA.trans h.unaA.symm,
    h.nxtA.symm, accepted, opened, by change b.recvBuffer.size + 65535 = 65535; omega,
    fun _ => Nat.one_pos⟩

/-- A byte more, and one byte read from the full buffer. -/
def reopening : List (Side × PairAction) :=
  [(.a, .act (.send [1])), (.a, .act (.processDirty 0)), (.b, .act (.recv 1))]

theorem stalls (h : Filling 0 p) (clean : p.a.dirty = 0) :
    Stalled (run Pair.step p reopening) := by
  have full := h.room
  have size := h.size
  have wnd := h.wnd
  have writable : p.a.tcb.sendBuffer.canWrite = true := by
    rw [BlockingBuffer.canWrite_iff, size]
    exact Or.inl (by decide)
  have readable : p.b.tcb.recvBuffer.canRead = true := by
    rw [BlockingBuffer.canRead_iff]
    exact Or.inl (by omega)
  obtain ⟨a, sent, established, awake, dirty, snd, buffer⟩ :
      ∃ a, p.a.act (.send [1]) = (a, []) ∧ a.tcb.currentState = .established ∧ a.waiting = none ∧
        a.dirty = 1 ∧ a.tcb.snd = p.a.tcb.snd ∧ a.tcb.sendBuffer.size = 1 := by
    refine ⟨_, Endpoint.act_send writable, h.establishedA, h.awakeA, ?_, rfl, ?_⟩
    · change p.a.dirty + 1 = 1
      rw [clean]
    · change (p.a.tcb.sendBuffer.store [1]).1.size = 1
      rw [BlockingBuffer.size_store, BlockingBuffer.availableCapacity_eq, size]
      rfl
  have nothing : a.tcb.nextData = [] := by
    rw [← List.length_eq_zero_iff, a.tcb.length_nextData, snd, wnd, Nat.zero_sub, Nat.zero_min,
      Nat.zero_min]
  have kept := Endpoint.processDirty_nothing established awake (by omega) nothing 0
  have read : p.b.act (.recv 1) = _ := Endpoint.act_recv readable
  simp only [reopening, run_cons, run_nil, Pair.step, Pair.stepA, Pair.actA, Pair.swap, sent, kept,
    read, List.append_nil]
  refine ⟨h.quietAB, h.quietBA, ?_, h.cleanB, ?_, ?_, ?_⟩
  · change a.dirty - 1 = 0
    rw [dirty]
  · change a.tcb.snd.nxt = a.tcb.snd.una
    rw [snd, h.idle]
  · change 0 < a.tcb.sendBuffer.size
    rw [buffer]
    exact Nat.one_pos
  · change 0 < (p.b.tcb.recvBuffer.fetch 1).1.availableCapacity
    rw [BlockingBuffer.availableCapacity_eq, BlockingBuffer.size_fetch]
    change 0 < 65535 - _
    omega

end Filling

/-- A filled receive buffer, one more byte to send and a read: the system stalls. -/
theorem read_from_full_stalls : ¬ ∀ (a b : TransmissionControlBlock), Handshaken a b →
    ∀ events : List (Side × PairAction), (∀ event ∈ events, IsFlow event.2) →
      ¬ Stalled (run Pair.step (.joined a b) events) := by
  intro never
  have length : (List.replicate 65535 (0 : UInt8)).length = 65535 := List.length_replicate
  have filled := Filling.start handshaken_sample length
  obtain ⟨fill, flowFill, full⟩ := filled.exhaust
  obtain ⟨drain, flowDrain, empty, clean⟩ := full.drain
  have stalled := empty.stalls clean
  rw [← run_append, ← run_append, ← run_cons] at stalled
  refine never sampleTcb samplePeer handshaken_sample _ ?_ stalled
  simp only [List.forall_mem_cons, List.forall_mem_append]
  exact ⟨trivial, flowFill, flowDrain, by simp [Filling.reopening, IsFlow]⟩

end TinyCP
