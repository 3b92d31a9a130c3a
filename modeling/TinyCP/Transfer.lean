import TinyCP.ReceiveSide

/-!
# Data transfer between two endpoints

Two established endpoints exchange segments over lossless FIFO channels. Each
direction of the transfer satisfies one invariant: the payloads in flight continue
what the receiver has appended, and the acknowledgments and windows under way
never report less than an earlier one did. The right edge of the window that the
sender knows is therefore never beyond the one the receiver can hold.
-/
namespace TinyCP
open SequenceSpace EventRun

/-- The segments report nondecreasing counts and window edges, from what the sender
knows up to what the receiver would report now. -/
def Reports (start : UInt32) : Nat → Nat → List Segment → Nat → Nat → Prop
  | count, edge, [], received, limit => count ≤ received ∧ edge ≤ limit
  | count, edge, packet :: rest, received, limit =>
    packet.ack = true ∧ packet.fin = false ∧ ∃ next, packet.ackNum = seqAt start next ∧
      count ≤ next ∧ edge ≤ next + packet.window.toNat ∧
      Reports start next (next + packet.window.toNat) rest received limit

theorem Reports.bounds {start : UInt32} {count edge received limit : Nat} {channel : List Segment}
    (h : Reports start count edge channel received limit) : count ≤ received ∧ edge ≤ limit := by
  induction channel generalizing count edge with
  | nil => exact h
  | cons packet rest ih =>
    obtain ⟨_, _, next, _, hcount, hedge, later⟩ := h
    have := ih later
    omega

theorem Reports.raise {start : UInt32} {count edge received limit more further : Nat}
    {channel : List Segment} (h : Reports start count edge channel received limit)
    (hmore : received ≤ more) (hfurther : limit ≤ further) :
    Reports start count edge channel more further := by
  induction channel generalizing count edge with
  | nil => exact ⟨Nat.le_trans h.1 hmore, Nat.le_trans h.2 hfurther⟩
  | cons packet rest ih =>
    obtain ⟨hack, notFin, next, name, hcount, hedge, later⟩ := h
    exact ⟨hack, notFin, next, name, hcount, hedge, ih later⟩

/-- A segment with the ACK flag that shows the block's `RCV.NXT` and free space. -/
def Advertises (tcb : TransmissionControlBlock) (packet : Segment) : Prop :=
  packet.ack = true ∧ packet.fin = false ∧ packet.ackNum = tcb.rcv.nxt ∧
    packet.window = tcb.freeWnd

theorem Reports.append {start : UInt32} {count edge received : Nat} {channel out : List Segment}
    {tcb : TransmissionControlBlock} (rcv : tcb.rcv.nxt = seqAt start received)
    (h : Reports start count edge channel received (received + (65535 - tcb.recvBuffer.size)))
    (shown : ∀ packet ∈ out, Advertises tcb packet) :
    Reports start count edge (channel ++ out) received
      (received + (65535 - tcb.recvBuffer.size)) := by
  induction channel generalizing count edge with
  | cons packet rest ih =>
    obtain ⟨hack, notFin, next, name, hcount, hedge, later⟩ := h
    exact ⟨hack, notFin, next, name, hcount, hedge, ih later⟩
  | nil =>
    rw [List.nil_append]
    induction out generalizing count edge with
    | nil => exact h
    | cons packet rest ih =>
      obtain ⟨hack, notFin, name, window⟩ := shown packet List.mem_cons_self
      have hwindow : packet.window.toNat = 65535 - tcb.recvBuffer.size := by
        rw [window, tcb.freeWnd_toNat]
      refine ⟨hack, notFin, received, name.trans rcv, h.1, ?_, ?_⟩
      · rw [hwindow]
        exact h.2
      · rw [hwindow]
        exact ih (fun other hmem => shown other (List.mem_cons_of_mem packet hmem))
          ⟨Nat.le_refl _, Nat.le_refl _⟩

/-- One direction of the transfer: `x` sends to `y`. -/
structure Flow (start : UInt32) (x y : Endpoint) (xy yx : List Segment)
    (una nxt received : Nat) : Prop where
  aligned : SendAligned start x.accepted una nxt x.tcb
  received_le : received ≤ nxt
  inTransit : xy.flatMap Segment.payload = (x.accepted.take nxt).drop received
  appended : y.appended = x.accepted.take received
  rcv_eq : y.tcb.rcv.nxt = seqAt start received
  inWindow : nxt ≤ una + x.tcb.snd.wnd.toNat
  reports : Reports start una (una + x.tcb.snd.wnd.toNat) yx received
    (received + (65535 - y.tcb.recvBuffer.size))

namespace Flow
variable {start : UInt32} {x y : Endpoint} {xy yx : List Segment} {una nxt received : Nat}

theorem delivered (h : Flow start x y xy yx una nxt received) : y.appended <+: x.accepted := by
  rw [h.appended]
  exact List.take_prefix _ _

/-- What is in flight fits in the free space of the receiver. -/
theorem fits (h : Flow start x y xy yx una nxt received) :
    nxt - received ≤ 65535 - y.tcb.recvBuffer.size := by
  have known := h.reports.bounds.2
  have sent := h.inWindow
  omega

theorem length_inTransit (h : Flow start x y xy yx una nxt received) :
    (xy.flatMap Segment.payload).length = nxt - received := by
  rw [h.inTransit, List.length_drop, List.length_take, Nat.min_eq_left h.aligned.nxt_le]

theorem head_fits {packet : Segment} {rest : List Segment}
    (h : Flow start x y (packet :: rest) yx una nxt received) :
    packet.payload.length ≤ y.tcb.recvBuffer.availableCapacity := by
  have total := h.length_inTransit
  have room := h.fits
  rw [List.flatMap_cons, List.length_append] at total
  rw [TransmissionControlBlock.recvCapacity_eq]
  omega

/-- A step of the sender that leaves its side of the flow alone. -/
theorem sender_same {x' : Endpoint} {out : List Segment}
    (h : Flow start x y xy yx una nxt received) (accepted : x'.accepted = x.accepted)
    (snd : x'.tcb.snd = x.tcb.snd) (buffer : x'.tcb.sendBuffer = x.tcb.sendBuffer)
    (noData : out.flatMap Segment.payload = []) :
    Flow start x' y (xy ++ out) yx una nxt received where
  aligned := by
    rw [accepted]
    exact ⟨by rw [snd, h.aligned.una_eq], by rw [snd, h.aligned.nxt_eq], h.aligned.una_le,
      h.aligned.nxt_le, by rw [buffer, h.aligned.contents_eq]⟩
  received_le := h.received_le
  inTransit := by rw [List.flatMap_append, noData, List.append_nil, h.inTransit, accepted]
  appended := by rw [accepted, h.appended]
  rcv_eq := h.rcv_eq
  inWindow := by rw [snd]; exact h.inWindow
  reports := by rw [snd]; exact h.reports

/-- A step of the receiver that leaves its side alone, save for what it advertises. -/
theorem receiver_same {y' : Endpoint} {out : List Segment}
    (h : Flow start x y xy yx una nxt received) (appended : y'.appended = y.appended)
    (rcv : y'.tcb.rcv.nxt = y.tcb.rcv.nxt)
    (size : y'.tcb.recvBuffer.size ≤ y.tcb.recvBuffer.size)
    (shown : ∀ packet ∈ out, Advertises y'.tcb packet) :
    Flow start x y' xy (yx ++ out) una nxt received where
  aligned := h.aligned
  received_le := h.received_le
  inTransit := h.inTransit
  appended := appended.trans h.appended
  rcv_eq := rcv.trans h.rcv_eq
  inWindow := h.inWindow
  reports := (h.reports.raise (Nat.le_refl _) (by omega)).append (rcv.trans h.rcv_eq) shown

theorem sender_accepts {x' : Endpoint} {more : List UInt8}
    (h : Flow start x y xy yx una nxt received) (accepted : x'.accepted = x.accepted ++ more)
    (snd : x'.tcb.snd = x.tcb.snd)
    (buffer : x'.tcb.sendBuffer.contents = x.tcb.sendBuffer.contents ++ more) :
    Flow start x' y (xy ++ []) yx una nxt received := by
  have hnxt := h.aligned.nxt_le
  have huna := h.aligned.una_le
  have hreceived := h.received_le
  refine ⟨?_, h.received_le, ?_, ?_, h.rcv_eq, ?_, ?_⟩
  · rw [accepted]
    refine ⟨by rw [snd, h.aligned.una_eq], by rw [snd, h.aligned.nxt_eq], huna, ?_, ?_⟩
    · rw [List.length_append]
      omega
    · rw [buffer, h.aligned.contents_eq, List.drop_append_of_le_length (by omega)]
  · rw [List.append_nil, h.inTransit, accepted, List.take_append_of_le_length hnxt]
  · rw [h.appended, accepted, List.take_append_of_le_length (by omega)]
  · rw [snd]
    exact h.inWindow
  · rw [snd]
    exact h.reports

theorem sender_transmits {x' : Endpoint} (h : Flow start x y xy yx una nxt received)
    (accepted : x'.accepted = x.accepted) (buffer : x'.tcb.sendBuffer = x.tcb.sendBuffer)
    (snd : x'.tcb.snd =
      { x.tcb.snd with nxt := x.tcb.snd.nxt + UInt32.ofNat x.tcb.nextData.length })
    {packet : Segment} (payload : packet.payload = x.tcb.nextData) :
    Flow start x' y (xy ++ [packet]) yx una (nxt + x.tcb.nextData.length) received := by
  have huna := h.aligned.una_le
  have hreceived := h.received_le
  have hdata := h.aligned.nextData_eq
  have hle := h.aligned.nextData_le
  have hwindow : nxt + x.tcb.nextData.length ≤ una + x.tcb.snd.wnd.toNat := by
    have hlen := x.tcb.length_nextData
    have hin := h.inWindow
    rw [h.aligned.inFlight_toNat] at hlen
    omega
  refine ⟨?_, by omega, ?_, by rw [accepted, h.appended], h.rcv_eq, ?_, ?_⟩
  · rw [accepted]
    refine ⟨by rw [snd, h.aligned.una_eq], ?_, by omega, hle, by rw [buffer, h.aligned.contents_eq]⟩
    rw [snd, h.aligned.nxt_eq, seqAt_add]
  · -- the new payload continues the bytes that were in flight
    have next : x.tcb.nextData = (x.accepted.drop nxt).take x.tcb.nextData.length := by
      conv_lhs => rw [hdata]
      rw [List.take_eq_take_iff, hdata, List.length_take, List.length_drop]
      omega
    rw [List.flatMap_append, h.inTransit, accepted, List.flatMap_singleton, payload,
      List.take_add, ← next, List.drop_append_of_le_length]
    rw [List.length_take, Nat.min_eq_left h.aligned.nxt_le]
    exact hreceived
  · rw [snd]
    exact hwindow
  · rw [snd]
    exact h.reports

/-- The sender takes the oldest report off the channel. -/
theorem sender_acknowledged {x' : Endpoint} {packet : Segment} {rest out : List Segment}
    (h : Flow start x y xy (packet :: rest) una nxt received)
    (accepted : x'.accepted = x.accepted) (snd : x'.tcb.snd = (x.tcb.afterAck packet).snd)
    (buffer : x'.tcb.sendBuffer = (x.tcb.afterAck packet).sendBuffer)
    (noData : out.flatMap Segment.payload = []) :
    ∃ count, Flow start x' y (xy ++ out) rest count nxt received := by
  obtain ⟨hack, _, count, name, lower, hedge, later⟩ := h.reports
  have upper := Nat.le_trans later.bounds.1 h.received_le
  have aligned := h.aligned.afterAck hack name lower upper
  have wnd : x'.tcb.snd.wnd.toNat = packet.window.toNat := by
    rw [snd, x.tcb.afterAck_wnd packet hack, UInt16.toNat_toUInt32]
  refine ⟨count, ?_, h.received_le, ?_, ?_, h.rcv_eq, ?_, ?_⟩
  · rw [accepted]
    exact ⟨by rw [snd, aligned.una_eq], by rw [snd, aligned.nxt_eq], aligned.una_le,
      aligned.nxt_le, by rw [buffer, aligned.contents_eq]⟩
  · rw [List.flatMap_append, noData, List.append_nil, h.inTransit, accepted]
  · rw [accepted, h.appended]
  · rw [wnd]
    exact Nat.le_trans h.inWindow hedge
  · rw [wnd]
    exact later

/-- The receiver appends the oldest payload in flight and advertises what is left. -/
theorem receiver_stores {y' : Endpoint} {packet : Segment} {rest out : List Segment}
    (h : Flow start x y (packet :: rest) yx una nxt received)
    (appended : y'.appended = y.appended ++ packet.payload)
    (rcv : y'.tcb.rcv.nxt = y.tcb.rcv.nxt + UInt32.ofNat packet.payload.length)
    (size : y'.tcb.recvBuffer.size = y.tcb.recvBuffer.size + packet.payload.length)
    (shown : ∀ packet ∈ out, Advertises y'.tcb packet) :
    Flow start x y' rest (yx ++ out) una nxt (received + packet.payload.length) := by
  have total := h.length_inTransit
  have room := h.head_fits
  have hreceived := h.received_le
  have hnxt := h.aligned.nxt_le
  have transit := h.inTransit
  rw [List.flatMap_cons] at total transit
  rw [List.length_append] at total
  rw [TransmissionControlBlock.recvCapacity_eq] at room
  have split : packet.payload = ((x.accepted.take nxt).drop received).take packet.payload.length := by
    rw [← transit, List.take_left]
  have rcv_eq : y'.tcb.rcv.nxt = seqAt start (received + packet.payload.length) := by
    rw [rcv, h.rcv_eq, seqAt_add]
  refine ⟨h.aligned, by omega, ?_, ?_, rcv_eq, h.inWindow, ?_⟩
  · rw [← List.drop_drop, ← transit, List.drop_left]
  · have whole : x.accepted.take (received + packet.payload.length) =
        x.accepted.take received ++ ((x.accepted.take nxt).drop received).take
          packet.payload.length := by
      rw [List.take_add, List.drop_take, List.take_take, Nat.min_eq_left (by omega)]
    rw [appended, h.appended, whole, ← split]
  · refine Reports.append rcv_eq ?_ shown
    exact h.reports.raise (by omega) (by omega)

end Flow

/-- Whatever an open connection emits shows the receive variables it emits it with. -/
theorem Endpoint.act_advertises {e : Endpoint} {action : Action} (isOpen : Endpoint.Open action)
    (established : e.tcb.currentState = .established) :
    ∀ packet ∈ (e.act action).2, Advertises (e.act action).1.tcb packet := by
  have sends : TransmissionControlBlock.TransmitsData e.tcb.currentState = true := by
    rw [established]; rfl
  have block : ∀ now, ∀ packet ∈ (e.tcb.processBlock now).out,
      Advertises (e.tcb.processBlock now).tcb packet := by
    intro now packet hmem
    rw [TransmissionControlBlock.processBlock_of_transmits sends] at hmem ⊢
    split_ifs at hmem ⊢ with nothing
    · cases hmem
    · rw [List.mem_singleton.mp hmem]
      exact ⟨rfl, rfl, rfl, rfl⟩
  have done := e.act_done action
  generalize e.act action = result at done ⊢
  cases done with
  | stay => simp
  | send data _ => simp
  | recv len _ => simp
  | processBlock now _ => exact block now
  | processDirty now _ _ => exact block now
  | checkRetransmissions now _ =>
    intro packet hmem
    rcases e.tcb.checkRetransmission_cases now with same | ⟨_, _, _, sent⟩
    · rw [same] at hmem
      cases hmem
    · rw [sent] at hmem ⊢
      rw [List.mem_singleton.mp hmem]
      exact ⟨rfl, rfl, rfl, rfl⟩
  | receive packet _ =>
    intro answer hmem
    rw [Endpoint.receive_established established] at hmem ⊢
    rcases e.tcb.handleEstablishedState_cases isOpen with ⟨_, h⟩ | ⟨_, _, h⟩ | ⟨_, _, h⟩
    · rw [h] at hmem
      cases hmem
    · rw [h] at hmem ⊢
      rw [List.mem_singleton.mp hmem]
      exact ⟨rfl, rfl, rfl, rfl⟩
    · rw [h] at hmem
      cases hmem
  | resumeWrite payload _ =>
    intro packet hmem
    rcases e.tcb.storePayload_cases payload with ⟨_, stored⟩ | ⟨_, blocked⟩
    · rw [stored] at hmem ⊢
      rw [List.mem_singleton.mp hmem]
      exact ⟨rfl, rfl, rfl, rfl⟩
    · rw [blocked] at hmem
      cases hmem
  | close now => exact False.elim isOpen

/-- The steps of a transfer: the application's calls, `process_block_` at any moment,
and delivery. -/
def IsTransfer : PairAction → Prop
  | .act (.send _) | .act (.recv _) | .act (.processBlock _) | .deliver => True
  | _ => False

theorem IsTransfer.isOpen {action : Action} (transfer : IsTransfer (.act action)) :
    Endpoint.Open action := by
  cases action <;> trivial

theorem IsTransfer.act_awake {e : Endpoint} {action : Action} (transfer : IsTransfer (.act action))
    (awake : e.waiting = none) : (e.act action).1.waiting = none := by
  have done := e.act_done action
  generalize e.act action = result at done ⊢
  cases done with
  | stay => exact awake
  | send data _ => exact awake
  | recv len _ => exact awake
  | processBlock now _ =>
    change ((e.tcb.processBlock now).waiting.or e.waiting) = none
    rw [(e.tcb.processBlock_confined now).awake, awake]
    rfl
  | processDirty => exact False.elim transfer
  | checkRetransmissions => exact False.elim transfer
  | receive => exact False.elim transfer
  | resumeWrite => exact False.elim transfer
  | close => exact False.elim transfer

namespace Flow
variable {start : UInt32} {x y : Endpoint} {xy yx : List Segment} {una nxt received : Nat}

theorem sender_act (h : Flow start x y xy yx una nxt received)
    (established : x.tcb.currentState = .established) {action : Action}
    (transfer : IsTransfer (.act action)) :
    ∃ next, Flow start (x.act action).1 y (xy ++ (x.act action).2) yx una next received := by
  have done := x.act_done action
  generalize x.act action = result at done ⊢
  cases done with
  | stay => exact ⟨nxt, h.sender_same rfl rfl rfl rfl⟩
  | send data _ => exact ⟨nxt, h.sender_accepts rfl rfl (BlockingBuffer.contents_store _ _)⟩
  | recv len _ => exact ⟨nxt, h.sender_same rfl rfl rfl rfl⟩
  | processBlock now _ =>
    have sends : TransmissionControlBlock.TransmitsData x.tcb.currentState = true := by
      rw [established]; rfl
    rw [TransmissionControlBlock.processBlock_of_transmits sends]
    split_ifs with nothing
    · rw [TransmissionControlBlock.transmitted_of_nil nothing]
      exact ⟨nxt, h.sender_same rfl rfl rfl rfl⟩
    · refine ⟨nxt + x.tcb.nextData.length, ?_⟩
      apply h.sender_transmits <;> rfl
  | processDirty => exact False.elim transfer
  | checkRetransmissions => exact False.elim transfer
  | receive => exact False.elim transfer
  | resumeWrite => exact False.elim transfer
  | close => exact False.elim transfer

theorem receiver_act (h : Flow start x y xy yx una nxt received)
    (established : y.tcb.currentState = .established) {action : Action}
    (transfer : IsTransfer (.act action)) :
    Flow start x (y.act action).1 xy (yx ++ (y.act action).2) una nxt received := by
  have isOpen := transfer.isOpen
  have shown := Endpoint.act_advertises isOpen established
  have done := y.act_done action
  generalize y.act action = result at done shown ⊢
  cases done with
  | stay => exact h.receiver_same rfl rfl (Nat.le_refl _) shown
  | send data _ => exact h.receiver_same rfl rfl (Nat.le_refl _) shown
  | recv len _ =>
    refine h.receiver_same ?_ rfl ?_ shown
    · simp only [Endpoint.appended, BlockingBuffer.contents_fetch, List.append_assoc,
        List.take_append_drop]
    · exact Nat.sub_le _ _
  | processBlock now _ =>
    have sends : TransmissionControlBlock.TransmitsData y.tcb.currentState = true := by
      rw [established]; rfl
    rw [TransmissionControlBlock.processBlock_of_transmits sends] at shown ⊢
    split_ifs at shown ⊢
    · exact h.receiver_same rfl rfl (Nat.le_refl _) shown
    · exact h.receiver_same rfl rfl (Nat.le_refl _) shown
  | processDirty => exact False.elim transfer
  | checkRetransmissions => exact False.elim transfer
  | receive => exact False.elim transfer
  | resumeWrite => exact False.elim transfer
  | close => exact False.elim transfer

end Flow

/-- Both directions of the transfer, seen from A. -/
structure Transferring (startA startB : UInt32) (p : Pair) : Prop where
  establishedA : p.a.tcb.currentState = .established
  establishedB : p.b.tcb.currentState = .established
  awakeA : p.a.waiting = none
  awakeB : p.b.waiting = none
  forth : ∃ una nxt received, Flow startA p.a p.b p.ab p.ba una nxt received
  back : ∃ una nxt received, Flow startB p.b p.a p.ba p.ab una nxt received

theorem Transferring.mirror {startA startB : UInt32} {p : Pair} (h : Transferring startA startB p) :
    Transferring startB startA p.swap :=
  ⟨h.establishedB, h.establishedA, h.awakeB, h.awakeA, h.back, h.forth⟩

theorem Transferring.act {startA startB : UInt32} {p : Pair} (h : Transferring startA startB p)
    {action : Action} (transfer : IsTransfer (.act action)) :
    Transferring startA startB (p.actA action) := by
  have isOpen := transfer.isOpen
  obtain ⟨una, nxt, received, forth⟩ := h.forth
  obtain ⟨una', nxt', received', back⟩ := h.back
  obtain ⟨next, sent⟩ := forth.sender_act h.establishedA transfer
  exact ⟨Endpoint.step_established transfer.isOpen h.establishedA, h.establishedB,
    transfer.act_awake h.awakeA, h.awakeB, ⟨una, next, received, sent⟩,
    ⟨una', nxt', received', back.receiver_act h.establishedA transfer⟩⟩

theorem Transferring.deliver {startA startB : UInt32} {p : Pair}
    (h : Transferring startA startB p) : Transferring startA startB p.deliverA := by
  cases hba : p.ba with
  | nil =>
    have idle : p.deliverA = p := by simp only [Pair.deliverA, h.awakeA, hba]
    rw [idle]
    exact h
  | cons packet rest =>
    obtain ⟨una, nxt, received, forth⟩ := h.forth
    obtain ⟨una', nxt', received', back⟩ := h.back
    rw [hba] at forth back
    have notFin : packet.fin = false := forth.reports.2.1
    have room := back.head_fits
    have taken : p.deliverA = { p with ba := rest }.actA (.receive packet) := by
      simp only [Pair.deliverA, h.awakeA, hba]
    have acted : p.a.act (.receive packet) = p.a.perform (p.a.tcb.handleEstablishedState packet) := by
      simp [Endpoint.act, Endpoint.daemon, h.awakeA, Endpoint.receive_established h.establishedA]
    obtain ⟨snd, buffer, _, answers⟩ := p.a.tcb.handleEstablishedState_sendSide notFin
    obtain ⟨awake, appended, size, rcv⟩ :=
      Endpoint.step_receive_fits notFin h.establishedA h.awakeA room
    have noData : (p.a.act (.receive packet)).2.flatMap Segment.payload = [] := by
      rw [List.flatMap_eq_nil_iff, acted]
      exact answers
    have acknowledged : ∃ count, Flow startA (p.a.act (.receive packet)).1 p.b
        (p.ab ++ (p.a.act (.receive packet)).2) rest count nxt received := by
      refine forth.sender_acknowledged ?_ ?_ ?_ noData
      · rw [acted]; rfl
      · rw [acted]; exact snd
      · rw [acted]; exact buffer
    obtain ⟨count, acknowledged⟩ := acknowledged
    have isOpen : Endpoint.Open (.receive packet) := notFin
    have stored := back.receiver_stores appended rcv size
      (Endpoint.act_advertises isOpen h.establishedA)
    rw [taken]
    exact ⟨Endpoint.step_established isOpen h.establishedA, h.establishedB, awake, h.awakeB,
      ⟨count, nxt, received, acknowledged⟩, ⟨_, _, _, stored⟩⟩

/-- Both ends as the handshake leaves them. -/
structure Handshaken (a b : TransmissionControlBlock) : Prop where
  establishedA : a.currentState = .established
  establishedB : b.currentState = .established
  unaA : a.snd.una = b.rcv.nxt
  nxtA : a.snd.nxt = b.rcv.nxt
  unaB : b.snd.una = a.rcv.nxt
  nxtB : b.snd.nxt = a.rcv.nxt
  wndA : a.snd.wnd = 65535
  wndB : b.snd.wnd = 65535
  sendA : a.sendBuffer.contents = []
  sendB : b.sendBuffer.contents = []
  recvA : a.recvBuffer.contents = []
  recvB : b.recvBuffer.contents = []

theorem Flow.initial {x y : TransmissionControlBlock} (una : x.snd.una = y.rcv.nxt)
    (nxt : x.snd.nxt = y.rcv.nxt) (wnd : x.snd.wnd = 65535) (send : x.sendBuffer.contents = [])
    (recv : y.recvBuffer.contents = []) :
    Flow y.rcv.nxt (.fresh x) (.fresh y) [] [] 0 0 0 where
  aligned := ⟨una.trans (seqAt_zero _).symm, nxt.trans (seqAt_zero _).symm, Nat.le_refl _,
    Nat.le_refl _, send⟩
  received_le := Nat.le_refl _
  inTransit := rfl
  appended := recv
  rcv_eq := (seqAt_zero _).symm
  inWindow := Nat.zero_le _
  reports := by
    have hwnd : x.snd.wnd.toNat = 65535 := by rw [wnd]; rfl
    have hsize : y.recvBuffer.size = 0 := y.recvBuffer.contents_eq_nil_iff.mp recv
    change 0 ≤ 0 ∧ 0 + x.snd.wnd.toNat ≤ 0 + (65535 - y.recvBuffer.size)
    omega

theorem Transferring.initial {a b : TransmissionControlBlock} (h : Handshaken a b) :
    Transferring b.rcv.nxt a.rcv.nxt (.joined a b) :=
  ⟨h.establishedA, h.establishedB, rfl, rfl,
    ⟨0, 0, 0, Flow.initial h.unaA h.nxtA h.wndA h.sendA h.recvB⟩,
    ⟨0, 0, 0, Flow.initial h.unaB h.nxtB h.wndB h.sendB h.recvA⟩⟩

theorem Transferring.stepA {startA startB : UInt32} (p : Pair) (action : PairAction)
    (transfer : IsTransfer action) (h : Transferring startA startB p) :
    Transferring startA startB (p.stepA action) := by
  cases action with
  | act action => exact h.act transfer
  | deliver => exact h.deliver

theorem Transferring.step {startA startB : UInt32} (p : Pair) (event : Side × PairAction)
    (transfer : IsTransfer event.2) (h : Transferring startA startB p) :
    Transferring startA startB (p.step event) :=
  Pair.step_invariant (fun _ hp => Transferring.mirror hp) (fun _ hp => Transferring.mirror hp)
    Transferring.stepA Transferring.stepA p event transfer h

/-- A payload that is not empty and fits finds a receive buffer that is not full. -/
theorem Flow.head_enters {start : UInt32} {x y : Endpoint} {xy yx : List Segment}
    {una nxt received : Nat} (h : Flow start x y xy yx una nxt received) (packet : Segment)
    (rest : List Segment) (head : xy = packet :: rest) :
    packet.payload.length ≤ y.tcb.recvBuffer.availableCapacity ∧
    (packet.payload ≠ [] → y.tcb.recvBuffer.size < maxIPv4PacketSize) := by
  subst head
  have room := h.head_fits
  refine ⟨room, fun data => ?_⟩
  have some : 0 < packet.payload.length := List.length_pos_iff.mpr data
  rw [TransmissionControlBlock.recvCapacity_eq] at room
  change y.tcb.recvBuffer.size < 65535
  omega

/-- Over lossless FIFO channels each application reads a prefix of what the other side's
send buffer accepted, and every payload that is delivered fits in the receive buffer. -/
theorem transfer_in_order (a b : TransmissionControlBlock) (h : Handshaken a b)
    (events : List (Side × PairAction)) (transfer : ∀ event ∈ events, IsTransfer event.2) :
    let p := run Pair.step (.joined a b) events
    p.b.delivered ++ p.b.tcb.recvBuffer.contents <+: p.a.accepted ∧
    p.a.delivered ++ p.a.tcb.recvBuffer.contents <+: p.b.accepted ∧
    p.a.tcb.currentState = .established ∧ p.b.tcb.currentState = .established ∧
    p.a.waiting = none ∧ p.b.waiting = none ∧
    (∀ packet rest, p.ab = packet :: rest →
      packet.payload.length ≤ p.b.tcb.recvBuffer.availableCapacity ∧
      (packet.payload ≠ [] → p.b.tcb.recvBuffer.size < maxIPv4PacketSize)) ∧
    (∀ packet rest, p.ba = packet :: rest →
      packet.payload.length ≤ p.a.tcb.recvBuffer.availableCapacity ∧
      (packet.payload ≠ [] → p.a.tcb.recvBuffer.size < maxIPv4PacketSize)) := by
  intro p
  have final : Transferring b.rcv.nxt a.rcv.nxt p :=
    run_invariant Transferring.step (Transferring.initial h) events transfer
  obtain ⟨_, _, _, forth⟩ := final.forth
  obtain ⟨_, _, _, back⟩ := final.back
  exact ⟨forth.delivered, back.delivered, final.establishedA, final.establishedB,
    final.awakeA, final.awakeB, forth.head_enters, back.head_enters⟩

theorem handshaken_sample : Handshaken sampleTcb samplePeer := by
  constructor <;> rfl

def sampleTransfer : List (Side × PairAction) :=
  [(.a, .act (.send [1, 2, 3])), (.a, .act (.processBlock 0)), (.b, .deliver),
    (.b, .act (.recv 2)), (.a, .deliver)]

theorem transfer_in_order_three_bytes :
    (run Pair.step (.joined sampleTcb samplePeer) sampleTransfer).b.delivered = [1, 2] ∧
    (run Pair.step (.joined sampleTcb samplePeer) sampleTransfer).b.delivered ++
      (run Pair.step (.joined sampleTcb samplePeer) sampleTransfer).b.tcb.recvBuffer.contents <+:
    (run Pair.step (.joined sampleTcb samplePeer) sampleTransfer).a.accepted := by
  refine ⟨by decide, ?_⟩
  have transfer : ∀ event ∈ sampleTransfer, IsTransfer event.2 := by
    simp [sampleTransfer, IsTransfer]
  exact (transfer_in_order sampleTcb samplePeer handshaken_sample sampleTransfer transfer).1

end TinyCP
