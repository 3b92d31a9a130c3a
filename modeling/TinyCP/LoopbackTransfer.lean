import TinyCP.LoopbackLinks
import TinyCP.Transfer

/-!
# A transfer through the loopback queue

The daemon takes the loopback queue over in batches and hands the segments back to the
stack one by one. Seen through the two addresses of a local connection this is a pair of
endpoints with FIFO channels, whatever the other sockets do and however the threads
interleave.
-/
namespace TinyCP
open EventRun

/-- The bytes that have reached the other end, and behind them those under way, are the first
bytes that the sender's calls have handed over. -/
theorem Flow.conserved {start : UInt32} {x y : Endpoint} {xy yx : List Segment}
    {una nxt received : Nat} (h : Flow start x y xy yx una nxt received) :
    y.appended ++ xy.flatMap Segment.payload <+: x.accepted := by
  have whole : x.accepted.take received ++ (x.accepted.take nxt).drop received =
      x.accepted.take nxt := by
    have first : x.accepted.take received = (x.accepted.take nxt).take received := by
      rw [List.take_take, Nat.min_eq_left h.received_le]
    rw [first, List.take_append_drop]
  rw [h.appended, h.inTransit, whole]
  exact List.take_prefix _ _

namespace Transferring
variable {startA startB : UInt32} {p : Pair}

/-- How often an id is queued is no concern of the transfer. -/
theorem queued (h : Transferring startA startB p) (count : Nat) :
    Transferring startA startB { p with a := { p.a with dirty := count } } := by
  obtain ⟨una, nxt, received, forth⟩ := h.forth
  obtain ⟨una', nxt', received', back⟩ := h.back
  have sends : Flow startA { p.a with dirty := count } p.b (p.ab ++ []) p.ba una nxt received :=
    forth.sender_same rfl rfl rfl rfl
  have receives : Flow startB p.b { p.a with dirty := count } p.ba (p.ab ++ []) una' nxt' received' :=
    back.receiver_same rfl rfl (Nat.le_refl _) (by simp)
  rw [List.append_nil] at sends receives
  exact ⟨h.establishedA, h.establishedB, h.awakeA, h.awakeB, ⟨_, _, _, sends⟩, ⟨_, _, _, receives⟩⟩

/-- The turn of a queued id is a call of `process_block_`. -/
theorem processDirty (h : Transferring startA startB p) (now : Int) :
    Transferring startA startB (p.actA (.processDirty now)) := by
  have awake := h.awakeA
  by_cases idle : p.a.dirty = 0
  · have stays : p.a.act (.processDirty now) = (p.a, []) := by
      rw [Endpoint.act, if_pos (Or.inr idle)]
    rw [Pair.actA, stays, List.append_nil]
    exact h
  · have acts : p.actA (.processDirty now) =
        { p with a := { p.a with dirty := p.a.dirty - 1 } }.actA (.processBlock now) := by
      simp [Pair.actA, Endpoint.act, Endpoint.daemon, awake, idle]
    rw [acts]
    exact (h.queued _).act trivial

end Transferring

/-- The steps of a local connection: the application's calls, the turn of a queued id, and
delivery. -/
def IsExchange : PairAction → Prop
  | .act (.send _) | .act (.recv _) | .act (.processDirty _) | .deliver => True
  | _ => False

theorem Transferring.exchange {startA startB : UInt32} {p : Pair} (h : Transferring startA startB p)
    (action : PairAction) (exchange : IsExchange action) :
    Transferring startA startB (p.stepA action) := by
  cases action with
  | deliver => exact h.deliver
  | act action =>
    cases action with
    | send data => exact h.act trivial
    | recv len => exact h.act trivial
    | processDirty now => exact h.processDirty now
    | _ => exact exchange.elim

def Side.other : Side → Side
  | .a => .b
  | .b => .a

/-- A pair that such steps lead to from where the two ends started. -/
structure Exchanges (startA startB : UInt32) (origin p : Pair) : Prop where
  transferring : Transferring startA startB p
  reached : ∃ events, (∀ event ∈ events, IsExchange event.2) ∧ run Pair.step origin events = p

namespace Exchanges
variable {startA startB : UInt32} {origin p : Pair}

/-- A run from the mirrored pair makes the mirrored steps. -/
theorem mirror (h : Exchanges startA startB origin p) :
    Exchanges startB startA origin.swap p.swap := by
  obtain ⟨events, allowed, rfl⟩ := h.reached
  refine ⟨h.transferring.mirror, events.map fun event => (event.1.other, event.2), ?_, ?_⟩
  · intro event member
    obtain ⟨original, there, rfl⟩ := List.mem_map.mp member
    exact allowed original there
  · clear h allowed
    induction events generalizing origin with
    | nil => rfl
    | cons event events ih =>
      have swapped : origin.swap.step (event.1.other, event.2) = (origin.step event).swap := by
        obtain ⟨side, action⟩ := event
        cases side <;> rfl
      rw [List.map_cons, run_cons, run_cons, swapped]
      exact ih

theorem stepA (h : Exchanges startA startB origin p) (action : PairAction)
    (exchange : IsExchange action) : Exchanges startA startB origin (p.stepA action) := by
  obtain ⟨events, allowed, reached⟩ := h.reached
  refine ⟨h.transferring.exchange action exchange, events ++ [(.a, action)], ?_, ?_⟩
  · intro event member
    rcases List.mem_append.mp member with earlier | last
    · exact allowed event earlier
    · rw [List.mem_singleton.mp last]
      exact exchange
  · rw [run_append, reached]
    rfl

/-- A call of any thread, on this end or not. -/
theorem called (h : Exchanges startA startB origin p) {event : StackEvent}
    (made : event.isCall = true) {id : UInt64} (keepsOpen : ∀ now, event ≠ .close id now)
    (stack : TcpStack) : Exchanges startA startB origin
      { p with a := run Endpoint.step p.a (stack.actionsFor id event) } := by
  have silent : ∀ action, IsExchange (.act action) → (p.a.act action).2 = [] →
      Exchanges startA startB origin { p with a := p.a.step action } := by
    intro action exchange nothing
    have acted := h.stepA _ exchange
    rw [Pair.stepA, Pair.actA, nothing, List.append_nil] at acted
    exact acted
  cases event with
  | send socketId data =>
    rw [TcpStack.actionsFor]
    split_ifs
    · refine silent (.send data) trivial ?_
      rw [Endpoint.act]
      split <;> rfl
    · exact h
  | recv socketId len =>
    rw [TcpStack.actionsFor]
    split_ifs
    · refine silent (.recv len) trivial ?_
      rw [Endpoint.act]
      split <;> rfl
    · exact h
  | close socketId now =>
    have other : socketId ≠ id := fun same => keepsOpen now (by rw [same])
    rw [TcpStack.actionsFor, if_neg other]
    exact h
  | bind | listen | connect | accept => exact h
  | _ => cases made

theorem initial {a b : TransmissionControlBlock} (h : Handshaken a b) :
    Exchanges b.rcv.nxt a.rcv.nxt (.joined a b) (.joined a b) :=
  ⟨.initial h, [], by simp, rfl⟩

end Exchanges

theorem Endpoint.processDirty_out {e : Endpoint} (awake : e.waiting = none) (queued : e.dirty ≠ 0)
    (now : Int) : (e.act (.processDirty now)).2 = (e.tcb.processBlock now).out := by
  rw [Endpoint.act, if_neg]
  · rfl
  · simp [awake, queued]

namespace TcpStack.Holds
variable {stack : TcpStack} {id : UInt64} {pending ids : List UInt64} {e : Endpoint}

theorem queued (h : Holds id (id :: ids) stack e) : e.dirty ≠ 0 := by
  have count := h.dirty
  rw [List.cons_append, List.count_cons_self] at count
  omega

theorem processBlock_performs (h : Holds id pending stack e) (now : Int) :
    stack.processBlock id now = stack.perform id (e.tcb.processBlock now) := by
  rw [processBlock, withTcb, h.block]

/-- A segment on the entry of an established socket is processed by its block alone. -/
theorem delivers (h : Holds id pending stack e) {packet : Segment}
    (entry : stack.connectionTable.connections.lookup ⟨packet.src, packet.dst⟩ = some id)
    (established : e.tcb.currentState = .established) (iss : UInt32) :
    stack.findConnectionsTcb packet.src packet.dst = id ∧
    stack.processIncomingPacket packet iss = stack.perform id (e.tcb.receive packet) ∧
    (e.tcb.receive packet).effect = .none := by
  have found : stack.findConnectionsTcb packet.src packet.dst = id :=
    (ConnectionTable.find_eq_iff h.real).mpr ⟨entry, SocketTable.contains_of_findSocket h.block⟩
  have bound : stack.registered packet.src packet.dst = some e.tcb := by
    rw [registered, found]
    exact h.block
  refine ⟨found, ?_, ?_⟩
  · rw [processIncomingPacket_of_bound bound (by rw [established]; decide), found]
  · rw [Endpoint.receive_established established]
    exact (e.tcb.handleEstablishedState_own packet).1

end TcpStack.Holds

/-- An endpoint that waits for nothing has nothing to resume. -/
theorem Endpoint.resumeWrite_awake {e : Endpoint} (awake : e.waiting = none) :
    e.step .resumeWrite = e := by
  rw [Endpoint.step, Endpoint.act, awake]

/-- Nor does it retransmit before its timer has run out. -/
theorem Endpoint.checkRetransmissions_early {e : Endpoint} {now : Int}
    (early : e.tcb.checkRetransmission now = { tcb := e.tcb }) :
    e.step (.checkRetransmissions now) = e := by
  rw [Endpoint.step, Endpoint.act, Endpoint.daemon]
  split_ifs
  · rfl
  · rw [early]
    simp [Endpoint.perform]

namespace Lifecycle

/-- Going on with a blocked write removes no socket. -/
theorem Holds.lives_resumeWrite {id : UInt64} {d : Lifecycle} {e : Endpoint} (h : Holds id d e) :
    ((d.stack.step .resumeWrite).getTcb id).isSome := by
  have alive : (d.stack.getTcb id).isSome := by
    rw [h.block]
    rfl
  rw [TcpStack.step]
  split
  · next socketId payload _ =>
    have woken : TcpStack.Holds id d.point.pending { d.stack with waiting := none }
        { e with waiting := none } := ⟨h.block, h.unlisted, h.dirty, rfl, h.emitted⟩
    rw [TcpStack.withTcb]
    split
    · next tcb _ =>
      have plain : (tcb.storePayload payload).effect = .none := by
        rcases tcb.storePayload_cases payload with ⟨_, done⟩ | ⟨_, done⟩ <;> rw [done]
      exact woken.lives_of_confined socketId plain
    · exact alive
  · exact alive

/-- The segments under way from one address to another: those of the batch that the daemon
works on, and behind them the queued ones. -/
def underWay (src dst : IPv4Address) (d : Lifecycle) : List Segment :=
  between src dst (d.point.batch ++ d.stack.loopbackPacketQueue)

/-- Nothing interferes with the connection: ids have not wrapped around, calls are not about
its two ends, the device delivers nothing between its addresses, and no timer runs out. -/
structure Undisturbed (fd : Int) (a b : UInt64) (pa pb : IPv4Address) (d : Lifecycle)
    (event : LifecycleEvent) : Prop where
  freshA : d.stack.socketTable.nextId ≠ a
  freshB : d.stack.socketTable.nextId ≠ b
  unused : ∀ key, d.stack.connectionTable.connections.lookup key ≠ some d.stack.socketTable.nextId
  zero : d.stack.socketTable.sockets.lookup 0 = none
  call : ∀ made, event = .call made → TcpStack.Spares a b pa pb d.stack made.event
  device : ∀ now iss read packet, event = .daemon now iss read → read.arrival fd = some packet →
    TcpStack.Elsewhere pa pb packet
  timely : ∀ now iss read, event = .daemon now iss read → TcpStack.Timely a b now d.stack

theorem Undisturbed.mirror {fd : Int} {a b : UInt64} {pa pb : IPv4Address} {d : Lifecycle}
    {event : LifecycleEvent} (h : Undisturbed fd a b pa pb d event) :
    Undisturbed fd b a pb pa d event where
  freshA := h.freshB
  freshB := h.freshA
  unused := h.unused
  zero := h.zero
  call made same := by
    obtain ⟨connectedA, connectedB, openA, openB, oneRoute, apart⟩ := h.call made same
    exact ⟨connectedB, connectedA, openB, openA, oneRoute, fun id route given =>
      (apart id route given).symm⟩
  device now iss read packet same arrived := (h.device now iss read packet same arrived).symm
  timely now iss read same id tcb isEnd := h.timely now iss read same id tcb isEnd.symm

/-- Two live sockets of the stack transfer data to each other. -/
structure Joined (a b : UInt64) (pa pb : IPv4Address) (startA startB : UInt32) (origin : Pair)
    (d : Lifecycle) (x y : Endpoint) : Prop where
  ends : a ≠ b
  heldA : Holds a d x
  heldB : Holds b d y
  link : d.stack.Link a b pa pb
  exchanges : Exchanges startA startB origin ⟨x, y, d.underWay pa pb, d.underWay pb pa⟩

namespace Joined
variable {fd : Int} {a b : UInt64} {pa pb : IPv4Address} {startA startB : UInt32} {origin : Pair}
variable {d next : Lifecycle} {x y : Endpoint}

theorem mirror (h : Joined a b pa pb startA startB origin d x y) :
    Joined b a pb pa startB startA origin.swap d y x :=
  ⟨h.ends.symm, h.heldB, h.heldA, h.link.mirror, h.exchanges.mirror⟩

theorem transferring (h : Joined a b pa pb startA startB origin d x y) :
    Transferring startA startB ⟨x, y, d.underWay pa pb, d.underWay pb pa⟩ :=
  h.exchanges.transferring

/-- A step that adds nothing to the segments under way. -/
theorem moved {x' y' : Endpoint} (h : Joined a b pa pb startA startB origin d x y)
    (quiet : TcpStack.Quiet a b pa pb d.stack next.stack)
    (batchAB : between pa pb next.point.batch = between pa pb d.point.batch)
    (batchBA : between pb pa next.point.batch = between pb pa d.point.batch)
    (heldA : Holds a next x') (heldB : Holds b next y')
    (exchanges : Exchanges startA startB origin
      ⟨x', y', d.underWay pa pb, d.underWay pb pa⟩) :
    Joined a b pa pb startA startB origin next x' y' := by
  have ab : next.underWay pa pb = d.underWay pa pb := by
    rw [underWay, underWay, between_append, between_append, batchAB, quiet.ab]
  have ba : next.underWay pb pa = d.underWay pb pa := by
    rw [underWay, underWay, between_append, between_append, batchBA, quiet.ba]
  refine ⟨h.ends, heldA, heldB, quiet.link, ?_⟩
  rw [ab, ba]
  exact exchanges

theorem aliveA (h : Joined a b pa pb startA startB origin d x y) : (d.stack.getTcb a).isSome := by
  rw [h.heldA.block]
  rfl

theorem awakeA (h : Joined a b pa pb startA startB origin d x y) : d.stack.waitingFor a = none :=
  h.heldA.waiting.trans h.transferring.awakeA

/-- Closing another socket leaves the first end alive. -/
theorem lives_of_close (h : Joined a b pa pb startA startB origin d x y) {event : StackEvent}
    (spares : TcpStack.Spares a b pa pb d.stack event) {socketId : UInt64} {now : Int}
    (closes : event = .close socketId now) : ((d.stack.step event).getTcb a).isSome := by
  rw [closes] at spares ⊢
  have alive := h.aliveA
  simp only [TcpStack.step, TcpSocket.close, TcpStack.closeConnection, TcpStack.withTcb]
  split_ifs
  · exact alive
  · split
    · next tcb found =>
      have notA : socketId ≠ a := fun same => spares.openA now (by rw [same])
      have notB : socketId ≠ b := fun same => spares.openB now (by rw [same])
      exact h.link.ownsA.survives h.link.routed h.heldA.block (tcb.closeConnection_own now) notA
        fun same => notB (h.link.ownsB.only socketId tcb found same)
    · exact alive

theorem call (h : Joined a b pa pb startA startB origin d x y) {made : SocketCall}
    (undisturbed : Undisturbed fd a b pa pb d (.call made)) :
    Joined a b pa pb startA startB origin (d.step fd (.call made))
      (run Endpoint.step x (d.actionsFor fd a (.call made)))
      (run Endpoint.step y (d.actionsFor fd b (.call made))) := by
  have spares := undisturbed.call made rfl
  have spares' := undisturbed.mirror.call made rfl
  refine h.moved (h.link.call made.made spares) rfl rfl ?_ ?_ ?_
  · exact TcpStack.Holds.call h.heldA made.made undisturbed.freshA spares.connectedA
      fun _ _ => h.lives_of_close spares
  · exact TcpStack.Holds.call h.heldB made.made undisturbed.freshB spares.connectedB
      fun _ _ => h.mirror.lives_of_close spares'
  · have acted := h.exchanges.called made.made spares.openA d.stack
    exact (acted.mirror.called made.made spares.openB d.stack).mirror

/-- The daemon goes on with a write for another socket. -/
theorem resumed (h : Joined a b pa pb startA startB origin d x y) :
    Joined a b pa pb startA startB origin { d with stack := d.stack.step .resumeWrite }
      (x.step .resumeWrite) (y.step .resumeWrite) := by
  refine h.moved (h.link.resumeWrite h.awakeA h.mirror.awakeA) rfl rfl
    (TcpStack.Holds.resumeWrite h.heldA h.heldA.lives_resumeWrite)
    (TcpStack.Holds.resumeWrite h.heldB h.heldB.lives_resumeWrite) ?_
  rw [Endpoint.resumeWrite_awake h.transferring.awakeA,
    Endpoint.resumeWrite_awake h.transferring.awakeB]
  exact h.exchanges

section Daemon
variable {stack : TcpStack} {isRunning : Bool}

/-- The first end's turn in `process_dirty_blocks_`. -/
theorem turnA {ids : List UInt64} {after : Stage Segment}
    (h : Joined a b pa pb startA startB origin ⟨stack, .dirty (a :: ids) after, isRunning⟩ x y) (now : Int) :
    Joined a b pa pb startA startB origin ⟨stack.processBlock a now, .dirty ids after, isRunning⟩
      (x.step (.processDirty now)) y := by
  have awake := h.transferring.awakeA
  have confined := x.tcb.processBlock_confined now
  have sent := Endpoint.processDirty_out awake (TcpStack.Holds.queued h.heldA) now
  have performed := TcpStack.Holds.processBlock_performs h.heldA now
  obtain ⟨link, ab, ba⟩ := h.link.perform_own h.ends h.heldA.block confined.own confined.plain
  rw [← performed] at link ab ba
  refine ⟨h.ends, (TcpStack.Holds.processBlock_own h.heldA awake now).1,
    TcpStack.Holds.processBlock_other h.heldB h.ends now, link, ?_⟩
  have exchanges := h.exchanges.stepA (.act (.processDirty now)) trivial
  rw [Pair.stepA, Pair.actA, sent] at exchanges
  simp only [underWay, between_append, List.append_assoc] at exchanges ab ba ⊢
  rw [ab, ba]
  exact exchanges

theorem turn {first : UInt64} {ids : List UInt64} {after : Stage Segment}
    (h : Joined a b pa pb startA startB origin ⟨stack, .dirty (first :: ids) after, isRunning⟩ x y)
    (now : Int) :
    Joined a b pa pb startA startB origin ⟨stack.processBlock first now, .dirty ids after, isRunning⟩
      (run Endpoint.step x (if first = a then [.processDirty now] else []))
      (run Endpoint.step y (if first = b then [.processDirty now] else [])) := by
  by_cases isA : first = a
  · rw [isA] at h ⊢
    rw [if_pos rfl, if_neg h.ends]
    exact h.turnA now
  · by_cases isB : first = b
    · rw [isB] at h ⊢
      rw [if_pos rfl, if_neg h.ends.symm]
      exact (h.mirror.turnA now).mirror
    · rw [if_neg isA, if_neg isB]
      refine h.moved ?_ rfl rfl (TcpStack.Holds.processBlock_other h.heldA isA now)
        (TcpStack.Holds.processBlock_other h.heldB isB now) h.exchanges
      change TcpStack.Quiet a b pa pb stack (stack.withTcb first _)
      rw [TcpStack.withTcb]
      split
      · next tcb found =>
        exact h.link.perform_other found (tcb.processBlock_confined now).own isA isB
      · exact h.link.quiet

/-- A segment for the first end is taken off the batch. -/
theorem receivesA {packet : Segment} {batch : List Segment}
    (h : Joined a b pa pb startA startB origin ⟨stack, .stage (.loopback (packet :: batch)), isRunning⟩ x y)
    (source : packet.src = pb) (target : packet.dst = pa) (awake : stack.waiting = none)
    (iss : UInt32) :
    Joined a b pa pb startA startB origin
      ⟨stack.processIncomingPacket packet iss, .takeDirty (.loopback batch), isRunning⟩
      (run Endpoint.step x (stack.receives a packet))
      (run Endpoint.step y (stack.receives b packet)) := by
  have block : stack.getTcb a = some x.tcb := h.heldA.block
  have entry : stack.connectionTable.connections.lookup ⟨packet.src, packet.dst⟩ = some a := by
    rw [source, target]
    exact h.link.ownsA.entry
  obtain ⟨found, performed, plain⟩ :=
    TcpStack.Holds.delivers h.heldA entry h.transferring.establishedA iss
  have own : TransmissionControlBlock.Own x.tcb (x.tcb.receive packet) := by
    refine TransmissionControlBlock.receive_own ((h.link.keyA block).trans ?_)
    rw [source, target]
  obtain ⟨link, ab, ba⟩ := h.link.perform_own h.ends block own plain
  have heldA := TcpStack.Holds.perform h.heldA (TcpStack.Holds.lives_of_confined h.heldA a plain)
  have heldB := TcpStack.Holds.perform_other h.heldB h.ends
    (TcpStack.Holds.lives_of_confined h.heldB a plain) (Or.inr awake)
  have idle : x.waiting = none := h.transferring.awakeA
  have acts : x.act (.receive packet) = x.perform (x.tcb.receive packet) := by
    simp [Endpoint.act, Endpoint.daemon, idle]
  have receives : stack.receives a packet = [.receive packet] := by
    simp [TcpStack.receives, awake, found]
  have nothing : stack.receives b packet = [] := by
    simp [TcpStack.receives, found, h.ends]
  rw [← performed] at link ab ba heldA heldB
  rw [receives, nothing]
  refine ⟨h.ends, ?_, heldB, link, ?_⟩
  · rw [run_cons, run_nil, Endpoint.step, acts]
    exact heldA
  · have exchanges := h.exchanges
    have head : underWay pb pa ⟨stack, .stage (.loopback (packet :: batch)), isRunning⟩ =
        packet :: between pb pa (batch ++ stack.loopbackPacketQueue) :=
      between_cons source target _
    have rest : underWay pa pb ⟨stack, .stage (.loopback (packet :: batch)), isRunning⟩ =
        between pa pb (batch ++ stack.loopbackPacketQueue) :=
      between_cons_elsewhere (fun here => h.link.differ h.ends (here.1.symm.trans source)) _
    rw [head, rest] at exchanges
    have delivered := exchanges.stepA .deliver trivial
    simp only [Pair.stepA, Pair.deliverA, idle, Pair.actA, acts, between_append, List.append_assoc] at delivered
    rw [underWay, underWay, between_append, between_append]
    dsimp only at ab ba ⊢
    rw [ab, ba, run_cons, run_nil, Endpoint.step, acts]
    exact delivered

/-- Other segments are not dispatched to the first end, and leave it alive. -/
theorem elsewhereA {packet : Segment} (h : Joined a b pa pb startA startB origin d x y)
    (elsewhere : TcpStack.Elsewhere pa pb packet) (fresh : d.stack.socketTable.nextId ≠ a)
    (iss : UInt32) : d.stack.findConnectionsTcb packet.src packet.dst ≠ a ∧
      ((d.stack.processIncomingPacket packet iss).getTcb a).isSome := by
  have block := h.heldA.block
  have alive := h.aliveA
  have real := h.heldA.real
  have apart : d.stack.findConnectionsTcb packet.src packet.dst ≠ a := by
    intro found
    obtain ⟨entry, _⟩ := (ConnectionTable.find_eq_iff real).mp found
    have key := (h.link.routed _ a _ entry block).symm.trans (h.link.keyA block)
    exact elsewhere.2 (ConnectionKey.mk.inj key)
  refine ⟨apart, ?_⟩
  have opened : ((d.stack.handlePassiveOpenSyn packet iss).getTcb a).isSome := by
    rw [(d.stack.handlePassiveOpenSyn_others packet iss).2 a fresh.symm]
    exact alive
  cases bound : d.stack.registered packet.src packet.dst with
  | none =>
    rw [TcpStack.processIncomingPacket_of_unregistered bound]
    split_ifs
    · exact opened
    · rw [TcpStack.writePackets_eq]
      exact alive
  | some tcb =>
    by_cases state : tcb.currentState = .listen
    · rw [TcpStack.processIncomingPacket_of_listening bound state]
      exact opened
    · rw [TcpStack.processIncomingPacket_of_bound bound state]
      obtain ⟨entry, _⟩ :=
        (ConnectionTable.find_eq_iff (SocketTable.ne_zero_of_findSocket bound)).mp rfl
      have key := h.link.routed _ _ tcb entry bound
      refine h.link.ownsA.survives h.link.routed block (TransmissionControlBlock.receive_own key)
        apart ?_
      rw [key]
      exact fun same => elsewhere.1 (ConnectionKey.mk.inj same)

theorem receives_elsewhere {packet : Segment} {point after : DaemonPoint Segment}
    (h : Joined a b pa pb startA startB origin ⟨stack, point, isRunning⟩ x y)
    (elsewhere : TcpStack.Elsewhere pa pb packet) (awake : stack.waiting = none)
    (freshA : stack.socketTable.nextId ≠ a) (freshB : stack.socketTable.nextId ≠ b)
    (unused : ∀ key, stack.connectionTable.connections.lookup key ≠ some stack.socketTable.nextId)
    (iss : UInt32) (idle : point.pending = []) (idle' : after.pending = [])
    (batchAB : between pa pb after.batch = between pa pb point.batch)
    (batchBA : between pb pa after.batch = between pb pa point.batch) :
    Joined a b pa pb startA startB origin ⟨stack.processIncomingPacket packet iss, after, isRunning⟩
      (run Endpoint.step x (stack.receives a packet))
      (run Endpoint.step y (stack.receives b packet)) := by
  have aside : ∀ {id : UInt64}, stack.findConnectionsTcb packet.src packet.dst ≠ id →
      stack.receives id packet = [] := by
    intro id apart
    rw [TcpStack.receives, if_pos (Or.inr apart)]
  obtain ⟨apartA, livesA⟩ := h.elsewhereA elsewhere freshA iss
  obtain ⟨apartB, livesB⟩ := h.mirror.elsewhereA elsewhere.symm freshB iss
  have heldA : stack.Holds a [] x := idle ▸ h.heldA
  have heldB : stack.Holds b [] y := idle ▸ h.heldB
  have keptA := heldA.processIncomingPacket awake freshA packet iss livesA
  have keptB := heldB.processIncomingPacket awake freshB packet iss livesB
  rw [if_neg apartA] at keptA
  rw [if_neg apartB] at keptB
  rw [aside apartA, aside apartB]
  refine h.moved (h.link.processIncomingPacket elsewhere unused iss) batchAB batchBA ?_ ?_
    h.exchanges
  · rw [Holds, idle']
    exact keptA
  · rw [Holds, idle']
    exact keptB

end Daemon

theorem retransmits (h : Joined a b pa pb startA startB origin d x y) (idle : d.point.pending = [])
    {now : Int} (timely : d.stack.Timely a b now)
    (zero : d.stack.socketTable.sockets.lookup 0 = none) {point : DaemonPoint Segment}
    (after : point.pending = []) (batch : point.batch = d.point.batch) :
    Joined a b pa pb startA startB origin
      { d with stack := d.stack.checkRetransmissions now, point := point }
      (x.step (.checkRetransmissions now)) (y.step (.checkRetransmissions now)) := by
  have heldA : d.stack.Holds a [] x := idle ▸ h.heldA
  have heldB : d.stack.Holds b [] y := idle ▸ h.heldB
  refine h.moved (h.link.checkRetransmissions h.ends timely zero) (by rw [batch]) (by rw [batch])
    ?_ ?_ ?_
  · rw [Holds, after]
    exact heldA.checkRetransmissions h.transferring.awakeA now
  · rw [Holds, after]
    exact heldB.checkRetransmissions h.transferring.awakeB now
  · rw [Endpoint.checkRetransmissions_early (timely.checkRetransmission (Or.inl rfl) h.heldA.block),
      Endpoint.checkRetransmissions_early (timely.checkRetransmission (Or.inr rfl) h.heldB.block)]
    exact h.exchanges

/-- The daemon moves between its points and its queues without touching a socket. -/
theorem passes (h : Joined a b pa pb startA startB origin d x y)
    (sockets : next.stack.socketTable = d.stack.socketTable)
    (connections : next.stack.connectionTable = d.stack.connectionTable)
    (localAddress : next.stack.localAddress = d.stack.localAddress)
    (queue : next.point.batch ++ next.stack.loopbackPacketQueue =
      d.point.batch ++ d.stack.loopbackPacketQueue)
    (heldA : Holds a next x) (heldB : Holds b next y) :
    Joined a b pa pb startA startB origin next x y := by
  refine ⟨h.ends, heldA, heldB,
    h.link.kept (.of_tables sockets connections) connections localAddress, ?_⟩
  rw [underWay, underWay, queue]
  exact h.exchanges

theorem work {now : Int} {iss : UInt32} {read : DeviceRead}
    (h : Joined a b pa pb startA startB origin d x y) (awake : d.stack.waiting = none)
    (undisturbed : Undisturbed fd a b pa pb d (.daemon now iss read)) :
    Joined a b pa pb startA startB origin (d.work fd now iss read)
      (run Endpoint.step x (d.workFor fd a now read))
      (run Endpoint.step y (d.workFor fd b now read)) := by
  obtain ⟨freshA, freshB, unused, zero, _, device, timely⟩ := undisturbed
  obtain ⟨stack, point, isRunning⟩ := d
  cases point with
  | top =>
    rw [Lifecycle.work]
    split_ifs <;> exact h.passes rfl rfl rfl rfl h.heldA h.heldB
  | takeDirty after =>
    exact h.passes rfl rfl rfl rfl (TcpStack.Holds.takeDirty h.heldA)
      (TcpStack.Holds.takeDirty h.heldB)
  | dirty ids after =>
    cases ids with
    | nil => exact h.passes rfl rfl rfl rfl h.heldA h.heldB
    | cons first ids => exact h.turn now
  | stage current =>
    cases current with
    | takeLoopback =>
      refine h.passes rfl rfl rfl (List.append_nil _) ?_ ?_
      · exact h.heldA.frame rfl h.heldA.unlisted rfl rfl (List.Sublist.refl _)
      · exact h.heldB.frame rfl h.heldB.unlisted rfl rfl (List.Sublist.refl _)
    | loopback batch =>
      cases batch with
      | nil => exact h.passes rfl rfl rfl rfl h.heldA h.heldB
      | cons packet batch =>
        by_cases toA : packet.src = pb ∧ packet.dst = pa
        · exact h.receivesA toA.1 toA.2 awake iss
        · by_cases toB : packet.src = pa ∧ packet.dst = pb
          · exact (h.mirror.receivesA toB.1 toB.2 awake iss).mirror
          · exact h.receives_elsewhere ⟨toB, toA⟩ awake freshA freshB unused iss rfl rfl
              (between_cons_elsewhere toB _).symm (between_cons_elsewhere toA _).symm
    | drain =>
      simp only [Lifecycle.work, workFor, TcpStack.readIncomingPackets_stack]
      cases arrived : read.arrival fd with
      | none =>
        refine h.passes rfl rfl rfl (by rw [DaemonPoint.batch_afterRead]; rfl) ?_ ?_
        · rw [Holds, DaemonPoint.pending_afterRead]
          exact h.heldA
        · rw [Holds, DaemonPoint.pending_afterRead]
          exact h.heldB
      | some packet =>
        simp only [Option.toList_some, List.flatMap_singleton]
        exact h.receives_elsewhere (device now iss read packet rfl arrived) awake freshA freshB
          unused iss rfl (DaemonPoint.pending_afterRead _) (by rw [DaemonPoint.batch_afterRead]; rfl)
          (by rw [DaemonPoint.batch_afterRead]; rfl)
  | retransmit => exact h.retransmits rfl (timely now iss read rfl) zero rfl rfl
  | finished => exact h

/-- Whatever thread takes the next step, the two sockets go on as the ends of one transfer. -/
theorem step {event : LifecycleEvent} (h : Joined a b pa pb startA startB origin d x y)
    (undisturbed : Undisturbed fd a b pa pb d event) :
    Joined a b pa pb startA startB origin (d.step fd event)
      (run Endpoint.step x (d.actionsFor fd a event))
      (run Endpoint.step y (d.actionsFor fd b event)) := by
  cases event with
  | call made => exact h.call undisturbed
  | stop => exact h.passes rfl rfl rfl rfl h.heldA h.heldB
  | daemon now iss read =>
    rw [Lifecycle.step, advance, Lifecycle.actionsFor, Lifecycle.actionsFor]
    by_cases blocked : d.stack.waiting.isSome
    · rw [if_pos blocked, if_pos blocked, if_pos blocked]
      exact h.resumed
    · rw [if_neg blocked, if_neg blocked, if_neg blocked]
      exact h.work (Option.not_isSome_iff_eq_none.mp blocked) undisturbed

theorem run (h : Joined a b pa pb startA startB origin d x y) (events : List LifecycleEvent)
    (undisturbed : Throughout (Lifecycle.step fd) (Undisturbed fd a b pa pb) d events) :
    Joined a b pa pb startA startB origin (EventRun.run (Lifecycle.step fd) d events)
      (EventRun.run Endpoint.step x (actionsOf (Lifecycle.step fd) (Lifecycle.actionsFor fd a) d events))
      (EventRun.run Endpoint.step y
        (actionsOf (Lifecycle.step fd) (Lifecycle.actionsFor fd b) d events)) := by
  induction events generalizing d x y with
  | nil => exact h
  | cons event events ih =>
    rw [actionsOf, actionsOf, run_append, run_append]
    exact ih (h.step undisturbed.1) undisturbed.2

theorem initial {tcbA tcbB : TransmissionControlBlock} (ends : a ≠ b)
    (heldA : Holds a d (.fresh tcbA)) (heldB : Holds b d (.fresh tcbB)) (link : d.stack.Link a b pa pb)
    (handshaken : Handshaken tcbA tcbB) (emptyAB : d.underWay pa pb = [])
    (emptyBA : d.underWay pb pa = []) :
    Joined a b pa pb tcbB.rcv.nxt tcbA.rcv.nxt (.joined tcbA tcbB) d (.fresh tcbA) (.fresh tcbB) := by
  refine ⟨ends, heldA, heldB, link, ?_⟩
  rw [emptyAB, emptyBA]
  exact .initial handshaken

end Joined

/-- Two sockets of one stack, connected to each other through the loopback queue, transfer
their bytes in order and without loss or duplication, in every interleaving of the daemon
with the calls of all threads in which nothing interferes with their connection. -/
theorem loopback_transfer_in_order (fd : Int) (a b : UInt64) (pa pb : IPv4Address) (d : Lifecycle)
    (tcbA tcbB : TransmissionControlBlock) (ends : a ≠ b) (heldA : Holds a d (.fresh tcbA))
    (heldB : Holds b d (.fresh tcbB)) (link : d.stack.Link a b pa pb)
    (handshaken : Handshaken tcbA tcbB) (emptyAB : d.underWay pa pb = [])
    (emptyBA : d.underWay pb pa = []) (events : List LifecycleEvent)
    (undisturbed : Throughout (step fd) (Undisturbed fd a b pa pb) d events) :
    let last := run (step fd) d events
    let x := run Endpoint.step (.fresh tcbA) (actionsOf (step fd) (actionsFor fd a) d events)
    let y := run Endpoint.step (.fresh tcbB) (actionsOf (step fd) (actionsFor fd b) d events)
    Holds a last x ∧ Holds b last y ∧
    y.appended ++ (last.underWay pa pb).flatMap Segment.payload <+: x.accepted ∧
    x.appended ++ (last.underWay pb pa).flatMap Segment.payload <+: y.accepted ∧
    x.tcb.currentState = .established ∧ y.tcb.currentState = .established ∧
    x.waiting = none ∧ y.waiting = none := by
  intro last x y
  have initial := Joined.initial ends heldA heldB link handshaken emptyAB emptyBA
  obtain ⟨_, finalA, finalB, _, transferring, _⟩ := initial.run events undisturbed
  obtain ⟨_, _, _, forth⟩ := transferring.forth
  obtain ⟨_, _, _, back⟩ := transferring.back
  exact ⟨finalA, finalB, forth.conserved, back.conserved, transferring.establishedA,
    transferring.establishedB, transferring.awakeA, transferring.awakeB⟩

/-- In every such interleaving the two sockets, with the segments under way between them, are
where some run of two endpoints over FIFO channels is. -/
theorem loopback_refines_pair (fd : Int) (a b : UInt64) (pa pb : IPv4Address) (d : Lifecycle)
    (tcbA tcbB : TransmissionControlBlock) (ends : a ≠ b) (heldA : Holds a d (.fresh tcbA))
    (heldB : Holds b d (.fresh tcbB)) (link : d.stack.Link a b pa pb)
    (handshaken : Handshaken tcbA tcbB) (emptyAB : d.underWay pa pb = [])
    (emptyBA : d.underWay pb pa = []) (events : List LifecycleEvent)
    (undisturbed : Throughout (step fd) (Undisturbed fd a b pa pb) d events) :
    let last := run (step fd) d events
    ∃ steps, (∀ step ∈ steps, IsExchange step.2) ∧
      (run Pair.step (.joined tcbA tcbB) steps).ab = last.underWay pa pb ∧
      (run Pair.step (.joined tcbA tcbB) steps).ba = last.underWay pb pa ∧
      Holds a last (run Pair.step (.joined tcbA tcbB) steps).a ∧
      Holds b last (run Pair.step (.joined tcbA tcbB) steps).b := by
  intro last
  have final := (Joined.initial ends heldA heldB link handshaken emptyAB emptyBA).run events
    undisturbed
  obtain ⟨steps, exchange, reached⟩ := final.exchanges.reached
  refine ⟨steps, exchange, ?_⟩
  rw [reached]
  exact ⟨rfl, rfl, final.heldA, final.heldB⟩

section Sample

/-- What the entries of the tables show of an undisturbed step with a silent device. -/
structure Calm (a b : UInt64) (d : Lifecycle) : Prop where
  fresh : d.stack.socketTable.nextId ≠ a ∧ d.stack.socketTable.nextId ≠ b
  unused : ∀ entry ∈ d.stack.connectionTable.connections.entries,
    entry.2 ≠ d.stack.socketTable.nextId
  zero : (d.stack.socketTable.sockets.lookup 0).isNone
  early : ∀ entry ∈ d.stack.socketTable.sockets.entries, 0 - entry.2.lastWritten < entry.2.rto

instance (a b : UInt64) (d : Lifecycle) : Decidable (Calm a b d) :=
  decidable_of_iff (_ ∧ _ ∧ _ ∧ _) ⟨fun ⟨fresh, unused, zero, early⟩ =>
    ⟨fresh, unused, zero, early⟩, fun ⟨fresh, unused, zero, early⟩ => ⟨fresh, unused, zero, early⟩⟩

variable {a b : UInt64} {pa pb : IPv4Address} {d : Lifecycle}

theorem Calm.undisturbed (h : Calm a b d) {event : LifecycleEvent}
    (call : ∀ made, event = .call made → TcpStack.Spares a b pa pb d.stack made.event)
    (quiet : ∀ now iss read, event = .daemon now iss read → now = 0 ∧ read = silent) :
    Undisturbed 3 a b pa pb d event where
  freshA := h.fresh.1
  freshB := h.fresh.2
  unused key entry := h.unused ⟨key, _⟩ (AList.mem_lookup_iff.mp entry) rfl
  zero := Option.isNone_iff_eq_none.mp h.zero
  call := call
  device now iss read packet same arrived := by
    have nothing : silent.arrival 3 = none := rfl
    rw [(quiet now iss read same).2, nothing] at arrived
    cases arrived
  timely now iss read same id tcb isEnd found := by
    rw [(quiet now iss read same).1]
    exact Or.inr (h.early ⟨id, tcb⟩
      (AList.mem_lookup_iff.mp (SocketTable.findSocket_eq_some_iff.mp found).2))

theorem Calm.called (h : Calm a b d) {made : SocketCall}
    (connected : ∀ id, ¬ TcpStack.Configures id made.event)
    (keepsOpen : ∀ id now, made.event ≠ .close id now)
    (keeps : d.stack.givesRoute made.event = none) :
    Undisturbed 3 a b pa pb d (.call made) := by
  refine h.undisturbed ?_ fun _ _ _ => nofun
  rintro other ⟨⟩
  refine ⟨connected a, connected b, keepsOpen a, keepsOpen b, ?_, ?_⟩
  · intro id route given
    rw [keeps] at given
    cases given
  · intro id route given
    rw [keeps] at given
    cases given

theorem Calm.worked (h : Calm a b d) : Undisturbed 3 a b pa pb d (.daemon 0 0 silent) := by
  refine h.undisturbed (fun _ => nofun) ?_
  rintro now iss read ⟨⟩
  exact ⟨rfl, rfl⟩

/-- A client and a server of one stack after their handshake. -/
def sampleLocal : Lifecycle where
  stack := run TcpStack.step (.new 0x0A000002)
    [.bind ⟨0x0A000002, 8080⟩ 0, .listen 1, .connect 0 ⟨0x0A000002, 8080⟩ 100,
      .processDirtyBlocks 0, .loopback 300, .loopback 0, .loopback 0]
  point := .top
  isRunning := true

/-- The client sends three bytes, and the server reads two of them. -/
def sampleLocalTransfer : List LifecycleEvent :=
  [.call ⟨.send 2 [1, 2, 3], rfl⟩, .daemon 0 0 silent, .daemon 0 0 silent, .daemon 0 0 silent,
    .daemon 0 0 silent, .daemon 0 0 silent, .daemon 0 0 silent, .call ⟨.recv 3 2, rfl⟩]

theorem sampleLocal_link :
    sampleLocal.stack.Link 2 3 ⟨0x0A000002, 49152⟩ ⟨0x0A000002, 8080⟩ := by
  have entries : ∀ entry ∈ sampleLocal.stack.connectionTable.connections.entries,
      ∀ tcb ∈ sampleLocal.stack.getTcb entry.2, tcb.connectionKey = entry.1 := by decide
  have only : ∀ key id, (∀ entry ∈ sampleLocal.stack.socketTable.sockets.entries,
      entry.2.connectionKey = key → entry.1 = id) → ∀ other tcb,
      sampleLocal.stack.getTcb other = some tcb → tcb.connectionKey = key → other = id := by
    intro key id all other tcb found
    exact all ⟨other, tcb⟩
      (AList.mem_lookup_iff.mp (SocketTable.findSocket_eq_some_iff.mp found).2)
  refine ⟨?_, ⟨by decide, only _ _ (by decide)⟩, ⟨by decide, only _ _ (by decide)⟩, ?_, ?_⟩
  · intro key id tcb entry found
    exact entries ⟨key, id⟩ (AList.mem_lookup_iff.mp entry) tcb found
  · intro packet source target
    rw [TcpStack.isLocal, source, target]
    rfl
  · intro packet source target
    rw [TcpStack.isLocal, source, target]
    rfl

/-- The client's block as it comes out of the handshake. -/
def sampleClientTcb : TransmissionControlBlock := (sampleLocal.stack.getTcb 2).getD sampleTcb

def sampleServerTcb : TransmissionControlBlock := (sampleLocal.stack.getTcb 3).getD sampleTcb

theorem sampleLocal_holds :
    Holds 2 sampleLocal (.fresh sampleClientTcb) ∧ Holds 3 sampleLocal (.fresh sampleServerTcb) := by
  have unlisted : ∀ id, id ≠ 1 → ∀ port,
      sampleLocal.stack.listenerTable.listeners.lookup port ≠ some id := by
    intro id differ port
    by_cases listening : port = 8080
    · rw [listening]
      exact fun found => differ (Option.some.inj found).symm
    · exact ne_of_eq_of_ne (AList.lookup_insert_ne listening)
        (by simp [TcpStack.new, ListenerTable.new])
  exact ⟨⟨rfl, unlisted 2 (by decide), by decide, by decide, List.nil_sublist _⟩,
    ⟨rfl, unlisted 3 (by decide), by decide, by decide, List.nil_sublist _⟩⟩

theorem sampleLocal_undisturbed : Throughout (step 3)
    (Undisturbed 3 2 3 ⟨0x0A000002, 49152⟩ ⟨0x0A000002, 8080⟩) sampleLocal
    sampleLocalTransfer := by
  exact ⟨Calm.called (by decide) (fun _ => id) (fun _ _ => nofun) rfl, Calm.worked (by decide), Calm.worked (by decide),
    Calm.worked (by decide), Calm.worked (by decide), Calm.worked (by decide), Calm.worked (by decide),
    Calm.called (by decide) (fun _ => id) (fun _ _ => nofun) rfl, trivial⟩

theorem sampleLocal_transfers : ∃ y : Endpoint, y.delivered = [1, 2] ∧
    Holds 3 (run (step 3) sampleLocal sampleLocalTransfer) y ∧
    y.appended ++ ((run (step 3) sampleLocal sampleLocalTransfer).underWay ⟨0x0A000002, 49152⟩
      ⟨0x0A000002, 8080⟩).flatMap Segment.payload <+: [1, 2, 3] := by
  have transfer := loopback_transfer_in_order 3 2 3 ⟨0x0A000002, 49152⟩ ⟨0x0A000002, 8080⟩ sampleLocal
    sampleClientTcb sampleServerTcb (by decide) sampleLocal_holds.1 sampleLocal_holds.2
    sampleLocal_link (by constructor <;> rfl) (by decide) (by decide) sampleLocalTransfer
    sampleLocal_undisturbed
  exact ⟨_, by decide, transfer.2.1, transfer.2.2.1⟩

/-- The pair has the server's block, in which the third byte is left. -/
theorem sampleLocal_refines : ∃ steps, (∀ step ∈ steps, IsExchange step.2) ∧
    (run Pair.step (.joined sampleClientTcb sampleServerTcb) steps).b.tcb.recvBuffer.contents =
      [3] := by
  obtain ⟨steps, exchange, _, _, _, held⟩ := loopback_refines_pair 3 2 3 ⟨0x0A000002, 49152⟩
    ⟨0x0A000002, 8080⟩ sampleLocal sampleClientTcb sampleServerTcb (by decide) sampleLocal_holds.1
    sampleLocal_holds.2 sampleLocal_link (by constructor <;> rfl) (by decide) (by decide)
    sampleLocalTransfer sampleLocal_undisturbed
  have left : ((run (step 3) sampleLocal sampleLocalTransfer).stack.getTcb 3).map
      (·.recvBuffer.contents) = some [3] := by decide
  rw [held.block] at left
  exact ⟨steps, exchange, Option.some.inj left⟩

end Sample

end Lifecycle
end TinyCP
