import TinyCP.RemoteEnds
import TinyCP.LoopbackTransfer

/-!
# One host of a transfer

A daemon holds one end of a connection to another host. Seen through the two addresses of
the connection, each step of the daemon and each call is a step of that end in a pair of
endpoints with FIFO channels: what the end sends goes to the device, and what the device
delivers between the two addresses is what the other end has sent.
-/
namespace TinyCP
open EventRun

namespace Lifecycle

/-- The segment that a step takes from the device. -/
def taken (fd : Int) (d : Lifecycle) : LifecycleEvent → Option Segment
  | .daemon _ _ read =>
    if d.stack.waiting.isSome then none
    else
      match d.point with
      | .stage .drain => read.arrival fd
      | _ => none
  | _ => none

/-- Nothing on this host interferes with the connection: ids have not wrapped around, calls
are not about its end, and no timer runs out. -/
structure LeavesAlone (a : UInt64) (pa pb : IPv4Address) (stack : TcpStack) (event : LifecycleEvent) :
    Prop where
  fresh : stack.socketTable.nextId ≠ a
  unused : ∀ key, stack.connectionTable.connections.lookup key ≠ some stack.socketTable.nextId
  zero : stack.socketTable.sockets.lookup 0 = none
  call : ∀ made, event = .call made → TcpStack.Spares a a pa pb stack made.event
  timely : ∀ now iss read, event = .daemon now iss read → TcpStack.Timely a a now stack

/-- The host holds one end, and nothing between the two addresses is queued on it. -/
structure FarEnd (a : UInt64) (pa pb : IPv4Address) (d : Lifecycle) (x : Endpoint) : Prop where
  held : Holds a d x
  remote : d.stack.Remote a pa pb
  elsewhere : ∀ packet ∈ d.point.batch ++ d.stack.loopbackPacketQueue, TcpStack.Elsewhere pa pb packet

/-- A step of this host as a step of the pair, with what it has written. -/
structure Advances (a : UInt64) (pa pb : IPv4Address) (startA startB : UInt32) (origin : Pair)
    (ab ba : List Segment) (y : Endpoint) (d next : Lifecycle) (x : Endpoint) (out : List Segment) :
    Prop where
  farEnd : FarEnd a pa pb next x
  written : next.stack.written = d.stack.written ++ out
  home : next.stack.localAddress = d.stack.localAddress
  oneWay : ∀ packet ∈ out, ¬ (packet.src = pb ∧ packet.dst = pa)
  exchanges : Exchanges startA startB origin ⟨x, y, ab ++ between pa pb out, ba⟩

namespace FarEnd
variable {fd : Int} {a : UInt64} {pa pb : IPv4Address} {startA startB : UInt32} {origin : Pair}
variable {ab ba : List Segment} {d next : Lifecycle} {x x' y : Endpoint}

/-- A step that does nothing for the connection but what the endpoint does silently. -/
theorem aside (h : FarEnd a pa pb d x) (aside : TcpStack.Aside a pa pb d.stack next.stack)
    (batch : ∀ packet ∈ next.point.batch, packet ∈ d.point.batch) (held : Holds a next x')
    (exchanges : Exchanges startA startB origin ⟨x', y, ab, ba⟩) :
    ∃ out, Advances a pa pb startA startB origin ab ba y d next x' out := by
  obtain ⟨out, writes, elsewhere⟩ := aside.wrote
  refine ⟨out, ⟨held, aside.remote, fun packet member => ?_⟩, writes.written, writes.home,
    fun packet member => (elsewhere packet member).2, ?_⟩
  · rcases List.mem_append.mp member with taken | queued
    · exact h.elsewhere packet (List.mem_append_left _ (batch packet taken))
    · rw [writes.queue] at queued
      rcases List.mem_append.mp queued with earlier | now
      · exact h.elsewhere packet (List.mem_append_right _ earlier)
      · exact elsewhere packet (List.mem_of_mem_filter now)
  · rw [between_eq_nil fun packet member => (elsewhere packet member).1, List.append_nil]
    exact exchanges

/-- The end itself writes; all of it goes to the device. -/
theorem acts {o : Outcome} (h : FarEnd a pa pb d x)
    (own : TransmissionControlBlock.Own x.tcb o) (plain : o.effect = .none)
    (performed : next.stack = d.stack.perform a o)
    (batch : ∀ packet ∈ next.point.batch, packet ∈ d.point.batch) (held : Holds a next x')
    (exchanges : Exchanges startA startB origin ⟨x', y, ab ++ o.out, ba⟩) :
    ∃ out, Advances a pa pb startA startB origin ab ba y d next x' out := by
  obtain ⟨remote, sent⟩ := h.remote.perform_own h.held.block own plain
  have writes := TcpStack.Writes.perform d.stack a o
  rw [← performed] at remote writes
  have nothing : o.out.filter d.stack.isLocal = [] := by
    rw [List.filter_eq_nil_iff]
    intro packet member isLocal
    rw [h.remote.away packet (sent packet member).1 (sent packet member).2] at isLocal
    cases isLocal
  refine ⟨o.out, ⟨held, remote, fun packet member => ?_⟩, writes.written, writes.home,
    fun packet member back => ?_, ?_⟩
  · rw [writes.queue, nothing, List.append_nil] at member
    rcases List.mem_append.mp member with taken | queued
    · exact h.elsewhere packet (List.mem_append_left _ (batch packet taken))
    · exact h.elsewhere packet (List.mem_append_right _ queued)
  · exact h.remote.differ ((sent packet member).1.symm.trans back.1)
  · rw [between_eq_self sent]
    exact exchanges

theorem alive (h : FarEnd a pa pb d x) : (d.stack.getTcb a).isSome := by
  rw [h.held.block]
  rfl

/-- Closing another socket leaves this one alive. -/
theorem lives_of_close (h : FarEnd a pa pb d x) {event : StackEvent}
    (spares : TcpStack.Spares a a pa pb d.stack event) {socketId : UInt64} {now : Int}
    (closes : event = .close socketId now) : ((d.stack.step event).getTcb a).isSome := by
  rw [closes] at spares ⊢
  simp only [TcpStack.step, TcpSocket.close, TcpStack.closeConnection, TcpStack.withTcb]
  split_ifs
  · exact h.alive
  · split
    · next tcb found =>
      have apart : socketId ≠ a := fun same => spares.openA now (by rw [same])
      exact h.remote.owns.survives h.remote.routed h.held.block (tcb.closeConnection_own now) apart
        (h.remote.vacant socketId tcb found)
    · exact h.alive

/-- Other segments are not dispatched to this end, and leave it alive. -/
theorem spared {packet : Segment} (h : FarEnd a pa pb d x)
    (elsewhere : TcpStack.Elsewhere pa pb packet) (fresh : d.stack.socketTable.nextId ≠ a)
    (iss : UInt32) : d.stack.findConnectionsTcb packet.src packet.dst ≠ a ∧
      ((d.stack.processIncomingPacket packet iss).getTcb a).isSome := by
  have block := h.held.block
  have apart : d.stack.findConnectionsTcb packet.src packet.dst ≠ a := by
    intro found
    obtain ⟨entry, _⟩ := (ConnectionTable.find_eq_iff h.held.real).mp found
    have key := (h.remote.routed _ a _ entry block).symm.trans (h.remote.key block)
    exact elsewhere.2 (ConnectionKey.mk.inj key)
  refine ⟨apart, ?_⟩
  have opened : ((d.stack.handlePassiveOpenSyn packet iss).getTcb a).isSome := by
    rw [(d.stack.handlePassiveOpenSyn_others packet iss).2 a fresh.symm]
    exact h.alive
  cases bound : d.stack.registered packet.src packet.dst with
  | none =>
    rw [TcpStack.processIncomingPacket_of_unregistered bound]
    split_ifs
    · exact opened
    · rw [TcpStack.writePackets_eq]
      exact h.alive
  | some tcb =>
    by_cases state : tcb.currentState = .listen
    · rw [TcpStack.processIncomingPacket_of_listening bound state]
      exact opened
    · rw [TcpStack.processIncomingPacket_of_bound bound state]
      obtain ⟨entry, _⟩ :=
        (ConnectionTable.find_eq_iff (SocketTable.ne_zero_of_findSocket bound)).mp rfl
      have key := h.remote.routed _ _ tcb entry bound
      refine h.remote.owns.survives h.remote.routed block (TransmissionControlBlock.receive_own key)
        apart ?_
      rw [key]
      exact fun same => elsewhere.1 (ConnectionKey.mk.inj same)

theorem receives_elsewhere {packet : Segment} {stack : TcpStack} {point after : DaemonPoint Segment}
    {isRunning : Bool} (h : FarEnd a pa pb ⟨stack, point, isRunning⟩ x)
    (exchanges : Exchanges startA startB origin ⟨x, y, ab, ba⟩)
    (elsewhere : TcpStack.Elsewhere pa pb packet) (awake : stack.waiting = none)
    (fresh : stack.socketTable.nextId ≠ a)
    (unused : ∀ key, stack.connectionTable.connections.lookup key ≠ some stack.socketTable.nextId)
    (iss : UInt32) (idle : point.pending = []) (idle' : after.pending = [])
    (batch : ∀ packet ∈ after.batch, packet ∈ point.batch) :
    ∃ out, Advances a pa pb startA startB origin ab ba y ⟨stack, point, isRunning⟩
      ⟨stack.processIncomingPacket packet iss, after, isRunning⟩
      (run Endpoint.step x (stack.receives a packet)) out := by
  obtain ⟨apart, lives⟩ := h.spared elsewhere fresh iss
  have nothing : stack.receives a packet = [] := by
    rw [TcpStack.receives, if_pos (Or.inr apart)]
  have held : stack.Holds a [] x := idle ▸ h.held
  have kept := held.processIncomingPacket awake fresh packet iss lives
  rw [if_neg apart] at kept
  rw [nothing]
  refine h.aside (h.remote.processIncomingPacket elsewhere unused iss) batch ?_ exchanges
  rw [Holds, idle']
  exact kept

/-- The device delivers a segment of the other end. -/
theorem receives_own {packet : Segment} {stack : TcpStack} {point after : DaemonPoint Segment}
    {isRunning : Bool} (h : FarEnd a pa pb ⟨stack, point, isRunning⟩ x)
    (exchanges : Exchanges startA startB origin ⟨x, y, ab, packet :: ba⟩)
    (source : packet.src = pb) (target : packet.dst = pa) (awake : stack.waiting = none)
    (iss : UInt32) (idle : point.pending = []) (idle' : after.pending = [])
    (batch : ∀ packet ∈ after.batch, packet ∈ point.batch) :
    ∃ out, Advances a pa pb startA startB origin ab ba y ⟨stack, point, isRunning⟩
      ⟨stack.processIncomingPacket packet iss, after, isRunning⟩
      (run Endpoint.step x (stack.receives a packet)) out := by
  have block : stack.getTcb a = some x.tcb := h.held.block
  have entry : stack.connectionTable.connections.lookup ⟨packet.src, packet.dst⟩ = some a := by
    rw [source, target]
    exact h.remote.owns.entry
  obtain ⟨found, performed, plain⟩ :=
    TcpStack.Holds.delivers h.held entry exchanges.transferring.establishedA iss
  have own : TransmissionControlBlock.Own x.tcb (x.tcb.receive packet) := by
    refine TransmissionControlBlock.receive_own ((h.remote.key block).trans ?_)
    rw [source, target]
  have quiet : x.waiting = none := exchanges.transferring.awakeA
  have acts : x.act (.receive packet) = x.perform (x.tcb.receive packet) := by
    simp [Endpoint.act, Endpoint.daemon, quiet]
  have receives : stack.receives a packet = [.receive packet] := by
    simp [TcpStack.receives, awake, found]
  have held : stack.Holds a [] x := idle ▸ h.held
  rw [receives, run_cons, run_nil, Endpoint.step, acts]
  refine h.acts own plain performed batch ?_ ?_
  · rw [Holds, idle']
    dsimp only
    rw [performed]
    exact held.perform (held.lives_of_confined a plain)
  · have delivered := exchanges.stepA .deliver trivial
    simp only [Pair.stepA, Pair.deliverA, quiet, Pair.actA, acts] at delivered
    exact delivered

/-- The turn of an id in `process_dirty_blocks_`. -/
theorem turn {stack : TcpStack} {first : UInt64} {ids : List UInt64} {after : Stage Segment}
    {isRunning : Bool} (h : FarEnd a pa pb ⟨stack, .dirty (first :: ids) after, isRunning⟩ x)
    (exchanges : Exchanges startA startB origin ⟨x, y, ab, ba⟩) (now : Int) :
    ∃ out, Advances a pa pb startA startB origin ab ba y ⟨stack, .dirty (first :: ids) after, isRunning⟩
      ⟨stack.processBlock first now, .dirty ids after, isRunning⟩
      (run Endpoint.step x (if first = a then [.processDirty now] else [])) out := by
  by_cases own : first = a
  · rw [own] at h ⊢
    rw [if_pos rfl]
    have awake : x.waiting = none := exchanges.transferring.awakeA
    have confined := x.tcb.processBlock_confined now
    have sent := Endpoint.processDirty_out awake (TcpStack.Holds.queued h.held) now
    refine h.acts confined.own confined.plain (TcpStack.Holds.processBlock_performs h.held now)
      (fun _ => id) (TcpStack.Holds.processBlock_own h.held awake now).1 ?_
    have stepped := exchanges.stepA (.act (.processDirty now)) trivial
    rw [Pair.stepA, Pair.actA, sent] at stepped
    exact stepped
  · rw [if_neg own]
    refine h.aside ?_ (fun _ => id) (TcpStack.Holds.processBlock_other h.held own now) exchanges
    change TcpStack.Aside a pa pb stack (stack.withTcb first _)
    rw [TcpStack.withTcb]
    split
    · next tcb found =>
      exact h.remote.perform_other found (tcb.processBlock_confined now).own own
    · exact h.remote.quiet

/-- The daemon moves between its points and its queues without touching a socket. -/
theorem passes (h : FarEnd a pa pb d x)
    (exchanges : Exchanges startA startB origin ⟨x, y, ab, ba⟩)
    (sockets : next.stack.socketTable = d.stack.socketTable)
    (connections : next.stack.connectionTable = d.stack.connectionTable)
    (writes : TcpStack.Writes [] d.stack next.stack)
    (batch : ∀ packet ∈ next.point.batch, packet ∈ d.point.batch) (held : Holds a next x) :
    ∃ out, Advances a pa pb startA startB origin ab ba y d next x out :=
  h.aside (h.remote.keeps (.of_tables sockets connections) connections writes) batch held exchanges

theorem work {now : Int} {iss : UInt32} {read : DeviceRead} (h : FarEnd a pa pb d x)
    (awake : d.stack.waiting = none) (alone : LeavesAlone a pa pb d.stack (.daemon now iss read))
    (foreign : ∀ packet, d.taken fd (.daemon now iss read) = some packet →
      ¬ (packet.src = pa ∧ packet.dst = pb))
    (exchanges : Exchanges startA startB origin
      ⟨x, y, ab, between pb pa (d.taken fd (.daemon now iss read)).toList ++ ba⟩) :
    ∃ out, Advances a pa pb startA startB origin ab ba y d (d.work fd now iss read)
      (run Endpoint.step x (d.workFor fd a now read)) out := by
  obtain ⟨fresh, unused, zero, _, timely⟩ := alone
  obtain ⟨stack, point, isRunning⟩ := d
  have running : stack.waiting.isSome = false := by rw [show stack.waiting = none from awake]; rfl
  simp only [taken, running, Bool.false_eq_true, if_false] at foreign exchanges
  have silent : TcpStack.Writes [] stack stack := .none stack
  cases point with
  | top =>
    rw [Lifecycle.work]
    split_ifs <;> exact h.passes exchanges rfl rfl silent (by simp [DaemonPoint.batch, Stage.batch]) h.held
  | takeDirty after =>
    exact h.passes exchanges rfl rfl (.of_same rfl rfl rfl) (fun _ => id)
      (TcpStack.Holds.takeDirty h.held)
  | dirty ids after =>
    cases ids with
    | nil => exact h.passes exchanges rfl rfl silent (fun _ => id) h.held
    | cons first ids => exact h.turn exchanges now
  | stage current =>
    cases current with
    | takeLoopback =>
      refine ⟨[], ⟨?_, h.remote.kept (.of_tables rfl rfl) h.remote.owns.entry rfl, ?_⟩,
        (List.append_nil _).symm, rfl, by simp, ?_⟩
      · exact h.held.frame rfl h.held.unlisted rfl rfl (List.Sublist.refl _)
      · intro packet member
        exact h.elsewhere packet (by simpa [Lifecycle.work, DaemonPoint.batch, Stage.batch] using member)
      · rw [between, List.filter_nil, List.append_nil]
        exact exchanges
    | loopback batch =>
      cases batch with
      | nil => exact h.passes exchanges rfl rfl silent (by simp [DaemonPoint.batch, Stage.batch, Lifecycle.work]) h.held
      | cons packet batch =>
        exact h.receives_elsewhere exchanges (h.elsewhere packet List.mem_cons_self) awake fresh
          unused iss rfl rfl fun _ => List.mem_cons_of_mem packet
    | drain =>
      simp only [Lifecycle.work, workFor, TcpStack.readIncomingPackets_stack]
      have idle : ∀ result, (DaemonPoint.afterRead result : DaemonPoint Segment).pending = [] :=
        DaemonPoint.pending_afterRead
      have batch : ∀ result, ∀ packet ∈ (DaemonPoint.afterRead result : DaemonPoint Segment).batch,
          packet ∈ (DaemonPoint.stage .drain : DaemonPoint Segment).batch := by
        intro result packet member
        rw [DaemonPoint.batch_afterRead] at member
        cases member
      cases arrived : read.arrival fd with
      | none =>
        rw [arrived] at exchanges
        refine h.passes exchanges rfl rfl silent (batch _) ?_
        rw [Holds, idle]
        exact h.held
      | some packet =>
        rw [arrived] at exchanges
        simp only [Option.toList_some, List.flatMap_singleton]
        by_cases own : packet.src = pb ∧ packet.dst = pa
        · rw [Option.toList_some, between_cons own.1 own.2] at exchanges
          exact h.receives_own exchanges own.1 own.2 awake iss rfl (idle _) (batch _)
        · rw [Option.toList_some, between_cons_elsewhere own] at exchanges
          exact h.receives_elsewhere exchanges ⟨foreign packet arrived, own⟩ awake fresh unused iss
            rfl (idle _) (batch _)
  | retransmit =>
    have due := timely now iss read rfl
    have held : stack.Holds a [] x := h.held
    have stays : x.step (.checkRetransmissions now) = x :=
      Endpoint.checkRetransmissions_early (due.checkRetransmission (Or.inl rfl) h.held.block)
    have checked := held.checkRetransmissions exchanges.transferring.awakeA now
    rw [stays] at checked
    refine h.aside (h.remote.checkRetransmissions due zero) (fun _ => id) ?_ ?_
    · rw [workFor, run_cons, run_nil, stays]
      exact checked
    · rw [workFor, run_cons, run_nil, stays]
      exact exchanges
  | finished => exact h.passes exchanges rfl rfl silent (fun _ => id) h.held

/-- Whatever thread of this host takes the next step, its end goes on as one of a pair. -/
theorem step {event : LifecycleEvent} (h : FarEnd a pa pb d x)
    (alone : LeavesAlone a pa pb d.stack event)
    (foreign : ∀ packet, d.taken fd event = some packet → ¬ (packet.src = pa ∧ packet.dst = pb))
    (exchanges : Exchanges startA startB origin
      ⟨x, y, ab, between pb pa (d.taken fd event).toList ++ ba⟩) :
    ∃ out, Advances a pa pb startA startB origin ab ba y d (d.step fd event)
      (run Endpoint.step x (d.actionsFor fd a event)) out := by
  cases event with
  | call made =>
    have spares := alone.call made rfl
    refine h.aside (h.remote.call made.made spares) (fun _ => id) ?_
      (exchanges.called made.made spares.openA d.stack)
    exact TcpStack.Holds.call h.held made.made alone.fresh spares.connectedA
      fun _ _ => h.lives_of_close spares
  | stop => exact h.passes exchanges rfl rfl (.none d.stack) (fun _ => id) h.held
  | daemon now iss read =>
    rw [Lifecycle.step, advance, Lifecycle.actionsFor]
    by_cases blocked : d.stack.waiting.isSome
    · rw [taken, if_pos blocked] at exchanges
      rw [if_pos blocked, if_pos blocked, run_cons, run_nil]
      have awake := exchanges.transferring.awakeA
      rw [Endpoint.resumeWrite_awake awake]
      refine h.aside (h.remote.resumeWrite (h.held.waiting.trans awake)) (fun _ => id) ?_ exchanges
      have resumed := TcpStack.Holds.resumeWrite h.held h.held.lives_resumeWrite
      rwa [Endpoint.resumeWrite_awake awake] at resumed
    · rw [if_neg blocked, if_neg blocked]
      exact h.work (Option.not_isSome_iff_eq_none.mp blocked) alone foreign exchanges

end FarEnd
end Lifecycle
end TinyCP
