import TinyCP.CallResults
import TinyCP.RemoteTransfer
import TinyCP.TwoHosts

/-!
# A transfer between two hosts

The two sockets of a connection between two hosts, with the datagrams on the cable, are a
pair of endpoints with FIFO channels, whatever the other sockets of the hosts do.
-/
namespace TinyCP
open EventRun

/-- What is sent to the other host goes to the device. -/
theorem TcpStack.Remote.between_device {a : UInt64} {pa pb : IPv4Address} {stack : TcpStack}
    (h : stack.Remote a pa pb) (out : List Segment) :
    between pa pb (out.filter fun packet => !stack.isLocal packet) = between pa pb out := by
  rw [between, between, List.filter_filter]
  refine List.filter_congr fun packet _ => ?_
  by_cases here : packet.src = pa ∧ packet.dst = pb
  · simp [here, h.away packet here.1 here.2]
  · simp [here]

namespace Hosts

/-- The two ends, and what is on the cable between their addresses. -/
structure Connected (a b : UInt64) (pa pb : IPv4Address) (startA startB : UInt32) (origin : Pair)
    (h : Hosts) (l r : Lifecycle) (x y : Endpoint) : Prop where
  running : Running h l r
  endA : l.FarEnd a pa pb x
  endB : r.FarEnd b pb pa y
  oneWayL : ∀ packet ∈ l.stack.deviceOut.drop h.leftRead, ¬ (packet.src = pb ∧ packet.dst = pa)
  oneWayR : ∀ packet ∈ r.stack.deviceOut.drop h.rightRead, ¬ (packet.src = pa ∧ packet.dst = pb)
  exchanges : Exchanges startA startB origin
    ⟨x, y, between pa pb (l.stack.deviceOut.drop h.leftRead),
      between pb pa (r.stack.deviceOut.drop h.rightRead)⟩

namespace Connected
variable {fd : Int} {a b : UInt64} {pa pb : IPv4Address} {startA startB : UInt32} {origin : Pair}
variable {h : Hosts} {l r : Lifecycle} {x y : Endpoint}

theorem mirror (c : Connected a b pa pb startA startB origin h l r x y) :
    Connected b a pb pa startB startA origin.swap h.swap r l y x :=
  ⟨c.running.mirror, c.endB, c.endA, c.oneWayR, c.oneWayL, c.exchanges.mirror⟩

theorem stepLeft (c : Connected a b pa pb startA startB origin h l r x y) (opened : 0 ≤ fd)
    (action : HostAction) (garbage : Garbage)
    (alone : Lifecycle.LeavesAlone a pa pb l.stack (h.event action)) :
    Connected a b pa pb startA startB origin (h.stepLeft fd action garbage)
      (l.step fd (h.event action)) r
      (run Endpoint.step x (l.actionsFor fd a (h.event action))) y := by
  have cable := c.running.taken_eq opened action
  have exchanges := c.exchanges
  rw [cable, between_append] at exchanges
  have foreign : ∀ packet, l.taken fd (h.event action) = some packet →
      ¬ (packet.src = pa ∧ packet.dst = pb) := by
    intro packet found
    refine c.oneWayR packet ?_
    rw [cable, found]
    exact List.mem_append_left _ (by simp)
  obtain ⟨out, advanced⟩ := c.endA.step alone foreign exchanges
  have sent : (l.step fd (h.event action)).stack.deviceOut =
      l.stack.deviceOut ++ out.filter fun packet => !l.stack.isLocal packet := by
    have same : (l.step fd (h.event action)).stack.isLocal = l.stack.isLocal := by
      funext packet
      rw [TcpStack.isLocal, TcpStack.isLocal, advanced.home]
    rw [TcpStack.deviceOut, advanced.written, List.filter_append, same]
    rfl
  have onCable : (l.step fd (h.event action)).stack.deviceOut.drop h.leftRead =
      l.stack.deviceOut.drop h.leftRead ++ out.filter fun packet => !l.stack.isLocal packet := by
    rw [sent, List.drop_append_of_le_length c.running.sentL]
  refine ⟨c.running.stepLeft fd action garbage, advanced.farEnd, c.endB, ?_, ?_, ?_⟩
  · intro packet member
    rcases List.mem_append.mp (onCable ▸ member) with earlier | now
    · exact c.oneWayL packet earlier
    · exact advanced.oneWay packet (List.mem_of_mem_filter now)
  · intro packet member
    refine c.oneWayR packet ?_
    rw [cable]
    exact List.mem_append_right _ member
  · have exchanged := advanced.exchanges
    change Exchanges startA startB origin ⟨_, y, between pa pb
      ((l.step fd (h.event action)).stack.deviceOut.drop h.leftRead), _⟩
    rw [onCable, between_append, c.endA.remote.between_device out]
    exact exchanged

end Connected
end Hosts

namespace TcpStack
variable {a : UInt64} {pa pb : IPv4Address} {stack : TcpStack} {queue log : List Segment}

theorem givesRoute_withOutput {event : StackEvent} (made : event.isCall = true) :
    (stack.withOutput queue log).givesRoute event = stack.givesRoute event := by
  cases event with
  | bind addr iss =>
    rw [givesRoute, givesRoute, completeAddress_withOutput]
    rfl
  | connect socketId addr iss =>
    simp only [givesRoute, completeAddress_withOutput, getTcb_withOutput]
    rfl
  | listen | accept | send | recv | close => rfl
  | _ => cases made

theorem Spares.of_withOutput {event : StackEvent} (made : event.isCall = true)
    (h : Spares a a pa pb (stack.withOutput queue log) event) : Spares a a pa pb stack event := by
  obtain ⟨connectedA, connectedB, openA, openB, oneRoute, apart⟩ := h
  rw [OneRoutePerSocket, givesRoute_withOutput made] at oneRoute
  rw [givesRoute_withOutput made] at apart
  exact ⟨connectedA, connectedB, openA, openB, oneRoute, apart⟩

theorem Remote.of_withOutput (h : Remote a pa pb (stack.withOutput queue log)) : Remote a pa pb stack :=
  ⟨h.routed, ⟨h.owns.entry, h.owns.only⟩, h.vacant, h.away⟩

theorem bytesSent_withOutput (id : UInt64) (event : LifecycleEvent) :
    (stack.withOutput queue log).bytesSent id event = stack.bytesSent id event := by
  have same : ∀ data, (TcpSocket.send (stack.withOutput queue log) id data).map Prod.snd =
      (TcpSocket.send stack id data).map Prod.snd := by
    intro data
    rw [TcpSocket.send, TcpSocket.send, getTcb_withOutput]
    cases stack.getTcb id with
    | none => rfl
    | some tcb =>
      dsimp only
      rw [Option.map_map, Option.map_map]
      rfl
  cases event with
  | call made =>
    obtain ⟨event, _⟩ := made
    cases event with
    | send socketId data => simp only [bytesSent, same]
    | _ => rfl
  | _ => rfl

theorem bytesReceived_withOutput (id : UInt64) (event : LifecycleEvent) :
    (stack.withOutput queue log).bytesReceived id event = stack.bytesReceived id event := by
  have same : ∀ len, (TcpSocket.recv (stack.withOutput queue log) id len).map Prod.snd =
      (TcpSocket.recv stack id len).map Prod.snd := by
    intro len
    rw [TcpSocket.recv, TcpSocket.recv, getTcb_withOutput]
    cases stack.getTcb id with
    | none => rfl
    | some tcb =>
      dsimp only
      rw [Option.map_map, Option.map_map]
      rfl
  cases event with
  | call made =>
    obtain ⟨event, _⟩ := made
    cases event with
    | recv socketId len => simp only [bytesReceived, same]
    | _ => rfl
  | _ => rfl

end TcpStack

theorem Lifecycle.LeavesAlone.of_withOutput {a : UInt64} {pa pb : IPv4Address} {stack : TcpStack}
    {queue log : List Segment} {event : LifecycleEvent}
    (h : LeavesAlone a pa pb (stack.withOutput queue log) event) : LeavesAlone a pa pb stack event :=
  ⟨h.fresh, h.unused, h.zero, fun made same => (h.call made same).of_withOutput made.made, h.timely⟩

namespace Hosts

/-- Nothing on either host interferes with the connection. -/
def Undisturbed (a b : UInt64) (pa pb : IPv4Address) (h : Hosts) : Side × HostAction × Garbage → Prop
  | (.a, action, _) => Lifecycle.LeavesAlone a pa pb h.left.tables (h.event action)
  | (.b, action, _) => Lifecycle.LeavesAlone b pb pa h.right.tables (h.swap.event action)

/-- What the calls of a step hand to the socket on the left, and take from it. -/
def sentLeft (a : UInt64) (h : Hosts) : Side × HostAction × Garbage → List UInt8
  | (.a, action, _) => h.left.tables.bytesSent a (h.event action)
  | (.b, _, _) => []

def receivedLeft (a : UInt64) (h : Hosts) : Side × HostAction × Garbage → List UInt8
  | (.a, action, _) => h.left.tables.bytesReceived a (h.event action)
  | (.b, _, _) => []

def sentRight (b : UInt64) (h : Hosts) : Side × HostAction × Garbage → List UInt8
  | (.a, _, _) => []
  | (.b, action, _) => h.right.tables.bytesSent b (h.swap.event action)

def receivedRight (b : UInt64) (h : Hosts) : Side × HostAction × Garbage → List UInt8
  | (.a, _, _) => []
  | (.b, action, _) => h.right.tables.bytesReceived b (h.swap.event action)

namespace Connected
variable {fd : Int} {a b : UInt64} {pa pb : IPv4Address} {startA startB : UInt32} {origin : Pair}
variable {h : Hosts} {l r : Lifecycle} {x y : Endpoint}

/-- The step, with what the calls on the left return. -/
theorem stepLeft_grows (c : Connected a b pa pb startA startB origin h l r x y) (opened : 0 ≤ fd)
    (action : HostAction) (garbage : Garbage)
    (alone : Lifecycle.LeavesAlone a pa pb h.left.tables (h.event action)) :
    ∃ l' x', Connected a b pa pb startA startB origin (h.stepLeft fd action garbage) l' r x' y ∧
      Endpoint.Grows x x' (h.left.tables.bytesSent a (h.event action))
        (h.left.tables.bytesReceived a (h.event action)) := by
  rw [c.running.decodesL.tables] at alone ⊢
  rw [TcpStack.bytesSent_withOutput, TcpStack.bytesReceived_withOutput]
  exact ⟨_, _, c.stepLeft opened action garbage alone.of_withOutput, c.endA.held.grows (h.event action)⟩

theorem step (c : Connected a b pa pb startA startB origin h l r x y) (opened : 0 ≤ fd)
    {event : Side × HostAction × Garbage} (undisturbed : Undisturbed a b pa pb h event) :
    ∃ l' r' x' y', Connected a b pa pb startA startB origin (h.step fd event) l' r' x' y' ∧
      Endpoint.Grows x x' (h.sentLeft a event) (h.receivedLeft a event) ∧
      Endpoint.Grows y y' (h.sentRight b event) (h.receivedRight b event) := by
  obtain ⟨side, action, garbage⟩ := event
  cases side with
  | a =>
    obtain ⟨l', x', stepped, grows⟩ := c.stepLeft_grows opened action garbage undisturbed
    exact ⟨l', r, x', y, stepped, grows, .none y⟩
  | b =>
    obtain ⟨r', y', stepped, grows⟩ := c.mirror.stepLeft_grows opened action garbage undisturbed
    exact ⟨l, r', x, y', stepped.mirror, .none x, grows⟩

theorem run (c : Connected a b pa pb startA startB origin h l r x y) (opened : 0 ≤ fd)
    (events : List (Side × HostAction × Garbage))
    (undisturbed : Throughout (Hosts.step fd) (Undisturbed a b pa pb) h events) :
    ∃ l' r' x' y',
      Connected a b pa pb startA startB origin (EventRun.run (Hosts.step fd) h events) l' r' x' y' ∧
      Endpoint.Grows x x' (actionsOf (Hosts.step fd) (sentLeft a) h events)
        (actionsOf (Hosts.step fd) (receivedLeft a) h events) ∧
      Endpoint.Grows y y' (actionsOf (Hosts.step fd) (sentRight b) h events)
        (actionsOf (Hosts.step fd) (receivedRight b) h events) := by
  induction events generalizing h l r x y with
  | nil => exact ⟨l, r, x, y, c, .none x, .none y⟩
  | cons event events ih =>
    obtain ⟨l', r', x', y', stepped, growsA, growsB⟩ := c.step opened undisturbed.1
    obtain ⟨l'', r'', x'', y'', final, growsA', growsB'⟩ := ih stepped undisturbed.2
    exact ⟨l'', r'', x'', y'', final, growsA.trans growsA', growsB.trans growsB'⟩

end Connected
end Hosts

theorem Stage.Reads.batch {raw : Stage (List UInt8)} {stage : Stage Segment} (h : raw.Reads stage) :
    raw.batch.map readBytes = stage.batch.map some := by
  cases h with
  | loopback parsed => exact parsed
  | _ => rfl

theorem DaemonPoint.Reads.batch {raw : DaemonPoint (List UInt8)} {point : DaemonPoint Segment}
    (h : raw.Reads point) : raw.batch.map readBytes = point.batch.map some := by
  cases h with
  | takeDirty reads | dirty _ reads | stage reads => exact reads.batch
  | _ => rfl

theorem DaemonPoint.Reads.pending {raw : DaemonPoint (List UInt8)} {point : DaemonPoint Segment}
    (h : raw.Reads point) : raw.pending = point.pending := by
  cases h <;> rfl

theorem WireDaemon.Decodes.queued_reads {w : WireDaemon} {d : Lifecycle} (h : Decodes w d) :
    (w.point.batch ++ w.wire.loopbackPacketQueue).map readBytes =
      (d.point.batch ++ d.stack.loopbackPacketQueue).map some := by
  rw [List.map_append, List.map_append, h.point.batch]
  exact congrArg _ h.carries.loopback

/-- The datagram does not belong to the connection. -/
def ElsewhereBytes (pa pb : IPv4Address) (bytes : List UInt8) : Prop :=
  ∀ packet, readBytes bytes = some packet → TcpStack.Elsewhere pa pb packet

theorem elsewhere_of_reads {pa pb : IPv4Address} {raw : List (List UInt8)} {packets : List Segment}
    (reads : raw.map readBytes = packets.map some) (all : ∀ bytes ∈ raw, ElsewhereBytes pa pb bytes) :
    ∀ packet ∈ packets, TcpStack.Elsewhere pa pb packet := by
  intro packet member
  have there : some packet ∈ raw.map readBytes := by
    rw [reads]
    exact List.mem_map_of_mem member
  obtain ⟨bytes, sent, parsed⟩ := List.mem_map.mp there
  exact all bytes sent packet parsed

/-- The socket is one end of a connection to another host, with this control block, and this
host has nothing left to do for it. -/
structure WireDaemon.Idle (a : UInt64) (pa pb : IPv4Address) (tcb : TransmissionControlBlock)
    (w : WireDaemon) : Prop where
  block : w.tables.getTcb a = some tcb
  unlisted : ∀ port, w.tables.listenerTable.listeners.lookup port ≠ some a
  settled : (w.point.pending ++ w.tables.dirtySocketIds).count a = 0
  awake : w.tables.waitingFor a = none
  remote : w.tables.Remote a pa pb
  elsewhere : ∀ bytes ∈ w.point.batch ++ w.wire.loopbackPacketQueue, ElsewhereBytes pa pb bytes

theorem WireDaemon.Idle.farEnd {a : UInt64} {pa pb : IPv4Address} {tcb : TransmissionControlBlock}
    {w : WireDaemon} {d : Lifecycle} (h : Idle a pa pb tcb w) (decodes : Decodes w d) :
    d.FarEnd a pa pb (.fresh tcb) := by
  obtain ⟨block, unlisted, settled, awake, remote, elsewhere⟩ := h
  rw [decodes.tables] at block unlisted settled awake remote
  rw [decodes.point.pending] at settled
  exact ⟨⟨block, unlisted, settled, awake, List.nil_sublist _⟩, remote.of_withOutput,
    elsewhere_of_reads decodes.queued_reads elsewhere⟩

namespace Hosts

/-- Two hosts in the middle of some run. -/
def Reached (fd : Int) (h : Hosts) : Prop :=
  ∃ leftAddress rightAddress history, run (step fd) (start leftAddress rightAddress) history = h

/-- The segments from one address to the other among these datagrams. -/
def onCable (pa pb : IPv4Address) (datagrams : List (List UInt8)) : List Segment :=
  between pa pb (datagrams.filterMap readBytes)

theorem filterMap_of_reads {raw : List (List UInt8)} {packets : List Segment}
    (reads : raw.map readBytes = packets.map some) : raw.filterMap readBytes = packets := by
  calc raw.filterMap readBytes = (raw.map readBytes).filterMap id := by
        rw [List.filterMap_map, Function.id_comp]
    _ = packets := by
        rw [reads, List.filterMap_map, Function.id_comp, List.filterMap_some]

/-- Both ends have come out of the handshake, and nothing of theirs is under way. -/
structure Ready (a b : UInt64) (pa pb : IPv4Address) (tcbA tcbB : TransmissionControlBlock)
    (h : Hosts) : Prop where
  endA : h.left.Idle a pa pb tcbA
  endB : h.right.Idle b pb pa tcbB
  handshaken : Handshaken tcbA tcbB
  elsewhere : ∀ bytes ∈ h.toRight ++ h.toLeft, ElsewhereBytes pa pb bytes

namespace Connected
variable {fd : Int} {a b : UInt64} {pa pb : IPv4Address} {startA startB : UInt32} {origin : Pair}
variable {h : Hosts} {l r : Lifecycle} {x y : Endpoint} {tcbA tcbB : TransmissionControlBlock}

theorem initial (running : Running h l r) (ready : Ready a b pa pb tcbA tcbB h) :
    Connected a b pa pb tcbB.rcv.nxt tcbA.rcv.nxt (.joined tcbA tcbB) h l r (.fresh tcbA)
      (.fresh tcbB) := by
  have toRight := elsewhere_of_reads running.mirror.toLeft_reads fun bytes member =>
    ready.elsewhere bytes (List.mem_append_left _ member)
  have toLeft := elsewhere_of_reads running.toLeft_reads fun bytes member =>
    ready.elsewhere bytes (List.mem_append_right _ member)
  refine ⟨running, ready.endA.farEnd running.decodesL, ready.endB.farEnd running.decodesR,
    fun packet member => (toRight packet member).2, fun packet member => (toLeft packet member).1, ?_⟩
  have emptyAB := between_eq_nil fun packet member => (toRight packet member).1
  have emptyBA := between_eq_nil fun packet member => (toLeft packet member).2
  change between pa pb (l.stack.deviceOut.drop h.leftRead) = [] at emptyAB
  rw [emptyAB, emptyBA]
  exact .initial ready.handshaken

theorem block_left (c : Connected a b pa pb startA startB origin h l r x y) :
    h.left.tables.getTcb a = some x.tcb := by
  rw [c.running.decodesL.tables]
  exact c.endA.held.block

theorem onCable_left (c : Connected a b pa pb startA startB origin h l r x y) :
    onCable pb pa h.toLeft = between pb pa (r.stack.deviceOut.drop h.rightRead) := by
  rw [onCable, filterMap_of_reads c.running.toLeft_reads]

theorem onCable_right (c : Connected a b pa pb startA startB origin h l r x y) :
    onCable pa pb h.toRight = between pa pb (l.stack.deviceOut.drop h.leftRead) :=
  c.mirror.onCable_left

end Connected

/-- In every interleaving of the two daemons with the calls of all threads of both hosts,
the two ends and the bytes on the cable between them are where a run of two endpoints over
FIFO channels is, and that run has sent and delivered what the calls have. -/
theorem hosts_refine_pair (fd : Int) (opened : 0 ≤ fd) (h : Hosts) (reached : Reached fd h)
    (a b : UInt64) (pa pb : IPv4Address) (tcbA tcbB : TransmissionControlBlock)
    (ready : Ready a b pa pb tcbA tcbB h) (events : List (Side × HostAction × Garbage))
    (undisturbed : Throughout (step fd) (Undisturbed a b pa pb) h events) :
    let last := run (step fd) h events
    ∃ steps, (∀ step ∈ steps, IsExchange step.2) ∧
      let p := run Pair.step (.joined tcbA tcbB) steps
      last.left.tables.getTcb a = some p.a.tcb ∧ last.right.tables.getTcb b = some p.b.tcb ∧
      onCable pa pb last.toRight = p.ab ∧ onCable pb pa last.toLeft = p.ba ∧
      actionsOf (step fd) (sentLeft a) h events = p.a.accepted ∧
      actionsOf (step fd) (receivedLeft a) h events = p.a.delivered ∧
      actionsOf (step fd) (sentRight b) h events = p.b.accepted ∧
      actionsOf (step fd) (receivedRight b) h events = p.b.delivered := by
  obtain ⟨leftAddress, rightAddress, history, rfl⟩ := reached
  have running := (SegmentHosts.reached opened leftAddress rightAddress history).running
  obtain ⟨l', r', x, y, final, growsA, growsB⟩ :=
    (Connected.initial running ready).run opened events undisturbed
  obtain ⟨steps, exchange, joined⟩ := final.exchanges.reached
  refine ⟨steps, exchange, ?_⟩
  rw [joined]
  exact ⟨final.block_left, final.mirror.block_left, final.onCable_right, final.onCable_left,
    growsA.accepted.symm, growsA.delivered.symm, growsB.accepted.symm, growsB.delivered.symm⟩

/-- What `recv` has returned on one host, with what is still to be read there and what is on
the cable, is the beginning of what `send` has taken on the other. -/
theorem hosts_transfer_in_order (fd : Int) (opened : 0 ≤ fd) (h : Hosts) (reached : Reached fd h)
    (a b : UInt64) (pa pb : IPv4Address) (tcbA tcbB : TransmissionControlBlock)
    (ready : Ready a b pa pb tcbA tcbB h) (events : List (Side × HostAction × Garbage))
    (undisturbed : Throughout (step fd) (Undisturbed a b pa pb) h events) :
    let last := run (step fd) h events
    ∃ x y, last.left.tables.getTcb a = some x ∧ last.right.tables.getTcb b = some y ∧
      x.currentState = .established ∧ y.currentState = .established ∧
      actionsOf (step fd) (receivedRight b) h events ++ y.recvBuffer.contents ++
        (onCable pa pb last.toRight).flatMap Segment.payload <+:
        actionsOf (step fd) (sentLeft a) h events ∧
      actionsOf (step fd) (receivedLeft a) h events ++ x.recvBuffer.contents ++
        (onCable pb pa last.toLeft).flatMap Segment.payload <+:
        actionsOf (step fd) (sentRight b) h events := by
  intro last
  obtain ⟨leftAddress, rightAddress, history, rfl⟩ := reached
  have running := (SegmentHosts.reached opened leftAddress rightAddress history).running
  obtain ⟨l', r', x, y, final, growsA, growsB⟩ :=
    (Connected.initial running ready).run opened events undisturbed
  obtain ⟨_, _, _, forth⟩ := final.exchanges.transferring.forth
  obtain ⟨_, _, _, back⟩ := final.exchanges.transferring.back
  refine ⟨x.tcb, y.tcb, final.block_left, final.mirror.block_left,
    final.exchanges.transferring.establishedA, final.exchanges.transferring.establishedB, ?_, ?_⟩
  · have conserved := forth.conserved
    rw [Endpoint.appended, growsB.delivered, growsA.accepted] at conserved
    rw [final.onCable_right]
    exact conserved
  · have conserved := back.conserved
    rw [Endpoint.appended, growsA.delivered, growsB.accepted] at conserved
    rw [final.onCable_left]
    exact conserved

section Sample

/-- Only data is handed over, and the clock stands still. -/
def plain : HostAction → Bool
  | .daemon now _ _ _ => now = 0
  | .call ⟨.send _ _, _⟩ | .call ⟨.recv _ _, _⟩ | .stop => true
  | _ => false

def CalmStep (a b : UInt64) (s : SegmentHosts) : Side × HostAction × Garbage → Prop
  | (.a, action, _) => Lifecycle.Calm a a s.left ∧ plain action = true
  | (.b, action, _) => Lifecycle.Calm b b s.right ∧ plain action = true

instance (a b : UInt64) (s : SegmentHosts) : ∀ event, Decidable (CalmStep a b s event)
  | (.a, _, _) => inferInstanceAs (Decidable (_ ∧ _))
  | (.b, _, _) => inferInstanceAs (Decidable (_ ∧ _))

variable {fd : Int} {a b : UInt64} {pa pb : IPv4Address} {d : Lifecycle} {h : Hosts} {s : SegmentHosts}

theorem leavesAlone_of_calm {w : WireDaemon} (decodes : w.Decodes d) (calm : Lifecycle.Calm a a d)
    {action : HostAction} (data : plain action = true) (h : Hosts) :
    Lifecycle.LeavesAlone a pa pb w.tables (h.event action) := by
  rw [decodes.tables]
  refine ⟨calm.fresh.1, fun key entry => calm.unused ⟨key, _⟩ (AList.mem_lookup_iff.mp entry) rfl,
    Option.isNone_iff_eq_none.mp calm.zero, fun made same => ?_, fun now iss read same => ?_⟩
  · cases action with
    | call called =>
      cases same
      obtain ⟨event, isCall⟩ := made
      cases event with
      | send | recv =>
        exact ⟨id, id, fun _ => by rintro ⟨⟩, fun _ => by rintro ⟨⟩, fun _ _ => by rintro ⟨⟩,
          fun _ _ => by rintro ⟨⟩⟩
      | _ => cases data
    | _ => cases same
  · intro id tcb isEnd found
    have early := calm.early ⟨id, tcb⟩
      (AList.mem_lookup_iff.mp (SocketTable.findSocket_eq_some_iff.mp found).2)
    cases action with
    | daemon clock _ ready answer =>
      obtain ⟨same, _⟩ := LifecycleEvent.daemon.inj same
      rw [← same, of_decide_eq_true data]
      exact Or.inr early
    | _ => cases same

theorem undisturbed_of_calm (carries : SegmentHosts.Carries h s) (opened : 0 ≤ fd)
    {events : List (Side × HostAction × Garbage)}
    (calm : Throughout (SegmentHosts.step fd) (CalmStep a b) s events) :
    Throughout (step fd) (Undisturbed a b pa pb) h events := by
  induction events generalizing h s with
  | nil => trivial
  | cons event events ih =>
    refine ⟨?_, ih (carries.step opened event) calm.2⟩
    obtain ⟨side, action, garbage⟩ := event
    cases side with
    | a => exact leavesAlone_of_calm carries.running.decodesL calm.1.1 calm.1.2 h
    | b => exact leavesAlone_of_calm carries.running.decodesR calm.1.1 calm.1.2 h.swap

theorem unlisted_of_entries {stack : TcpStack}
    (others : a ∉ stack.listenerTable.listeners.entries.map Sigma.snd) (port : UInt16) :
    stack.listenerTable.listeners.lookup port ≠ some a :=
  fun found => others (List.mem_map_of_mem (AList.mem_lookup_iff.mp found))

theorem remote_of_entries {stack : TcpStack}
    (routed : ∀ entry ∈ stack.connectionTable.connections.entries,
      ∀ tcb ∈ stack.getTcb entry.2, tcb.connectionKey = entry.1)
    (entry : stack.connectionTable.connections.lookup ⟨pb, pa⟩ = some a)
    (only : ∀ entry ∈ stack.socketTable.sockets.entries,
      (entry.2.connectionKey = ⟨pb, pa⟩ → entry.1 = a) ∧ entry.2.connectionKey ≠ ⟨pa, pb⟩)
    (away : isLocalAddress stack.localAddress pa.address pb.address = false) : stack.Remote a pa pb := by
  have listed : ∀ id tcb, stack.getTcb id = some tcb → ⟨id, tcb⟩ ∈ stack.socketTable.sockets.entries :=
    fun id tcb found => AList.mem_lookup_iff.mp (SocketTable.findSocket_eq_some_iff.mp found).2
  refine ⟨fun key id tcb there found => routed ⟨key, id⟩ (AList.mem_lookup_iff.mp there) tcb found,
    ⟨entry, fun id tcb found => (only _ (listed id tcb found)).1⟩,
    fun id tcb found => (only _ (listed id tcb found)).2, fun packet source target => ?_⟩
  rw [TcpStack.isLocal, source, target]
  exact away

theorem idle_of_segments {w : WireDaemon} {tcb : TransmissionControlBlock} (decodes : w.Decodes d)
    (held : Lifecycle.Holds a d (.fresh tcb)) (remote : d.stack.Remote a pa pb)
    (empty : d.point.batch ++ d.stack.loopbackPacketQueue = []) : w.Idle a pa pb tcb := by
  have nothing : w.point.batch ++ w.wire.loopbackPacketQueue = [] := by
    have reads := decodes.queued_reads
    rw [empty] at reads
    exact List.map_eq_nil_iff.mp reads
  have settled := held.dirty
  rw [← decodes.point.pending] at settled
  refine ⟨?_, ?_, ?_, ?_, ?_, ?_⟩
  · rw [decodes.tables]
    exact held.block
  · rw [decodes.tables]
    exact held.unlisted
  · rw [decodes.tables]
    exact settled
  · rw [decodes.tables]
    exact held.waiting
  · rw [decodes.tables]
    exact ⟨remote.routed, ⟨remote.owns.entry, remote.owns.only⟩, remote.vacant, remote.away⟩
  · rw [nothing]
    simp

def sampleCall (side : Side) (event : StackEvent) (made : event.isCall = true) :
    Side × HostAction × Garbage :=
  (side, .call ⟨event, made⟩, fun _ => (blankBuffer, blankBuffer))

def sampleTurn (side : Side) : Side × HostAction × Garbage :=
  (side, .daemon 0 300 true 60, fun _ => (blankBuffer, blankBuffer))

/-- A client on the left connects to a server on the right. -/
def sampleHandshake : List (Side × HostAction × Garbage) :=
  [sampleCall .b (.bind ⟨0x0A000003, 8080⟩ 0) rfl, sampleCall .b (.listen 1) rfl,
    sampleCall .a (.connect 0 ⟨0x0A000003, 8080⟩ 100) rfl] ++
  List.replicate 4 (sampleTurn .a) ++ List.replicate 5 (sampleTurn .b) ++
  List.replicate 3 (sampleTurn .a) ++ List.replicate 2 (sampleTurn .b)

def sampleHosts : Hosts := run (step 3) (.start 0x0A000002 0x0A000003) sampleHandshake

def sampleSegments : SegmentHosts :=
  run (SegmentHosts.step 3) (.start 0x0A000002 0x0A000003) sampleHandshake

/-- The client sends three bytes, and the server reads two of them. -/
def sampleHostTransfer : List (Side × HostAction × Garbage) :=
  [sampleCall .a (.send 1 [1, 2, 3]) rfl] ++ List.replicate 8 (sampleTurn .a) ++
  List.replicate 8 (sampleTurn .b) ++ [sampleCall .b (.recv 2 2) rfl]

def sampleLeftTcb : TransmissionControlBlock := (sampleSegments.left.stack.getTcb 1).getD sampleTcb

def sampleRightTcb : TransmissionControlBlock := (sampleSegments.right.stack.getTcb 2).getD sampleTcb

theorem sampleHosts_carried : SegmentHosts.Carries sampleHosts sampleSegments :=
  SegmentHosts.reached (by decide) 0x0A000002 0x0A000003 sampleHandshake

theorem sampleSegments_left : Lifecycle.Holds 1 sampleSegments.left (.fresh sampleLeftTcb) ∧
    sampleSegments.left.stack.Remote 1 ⟨0x0A000002, 49152⟩ ⟨0x0A000003, 8080⟩ :=
  ⟨⟨rfl, unlisted_of_entries (by decide), by decide, by decide, List.nil_sublist _⟩,
    remote_of_entries (by decide) (by decide) (by decide) (by decide)⟩

theorem sampleSegments_right : Lifecycle.Holds 2 sampleSegments.right (.fresh sampleRightTcb) ∧
    sampleSegments.right.stack.Remote 2 ⟨0x0A000003, 8080⟩ ⟨0x0A000002, 49152⟩ :=
  ⟨⟨rfl, unlisted_of_entries (by decide), by decide, by decide, List.nil_sublist _⟩,
    remote_of_entries (by decide) (by decide) (by decide) (by decide)⟩

theorem sampleHosts_ready : Ready 1 2 ⟨0x0A000002, 49152⟩ ⟨0x0A000003, 8080⟩ sampleLeftTcb
    sampleRightTcb sampleHosts := by
  have running := sampleHosts_carried.running
  have left : sampleHosts.toLeft = [] := by
    have reads := running.toLeft_reads
    rw [sampleHosts_carried.rightRead] at reads
    exact List.map_eq_nil_iff.mp reads
  have right : sampleHosts.toRight = [] := by
    have reads := running.mirror.toLeft_reads
    change _ = (sampleSegments.left.stack.deviceOut.drop sampleHosts.leftRead).map some at reads
    rw [sampleHosts_carried.leftRead] at reads
    exact List.map_eq_nil_iff.mp reads
  refine ⟨idle_of_segments running.decodesL sampleSegments_left.1 sampleSegments_left.2 (by decide),
    idle_of_segments running.decodesR sampleSegments_right.1 sampleSegments_right.2 (by decide),
    by constructor <;> rfl, ?_⟩
  rw [left, right]
  simp

theorem sampleHosts_undisturbed : Throughout (step 3)
    (Undisturbed 1 2 ⟨0x0A000002, 49152⟩ ⟨0x0A000003, 8080⟩) sampleHosts sampleHostTransfer :=
  undisturbed_of_calm sampleHosts_carried (by decide) (by decide)

/-- The third byte is left in the server's block. -/
theorem sampleHosts_unread {tcb : TransmissionControlBlock}
    (block : (run (step 3) sampleHosts sampleHostTransfer).right.tables.getTcb 2 = some tcb) :
    tcb.recvBuffer.contents = [3] := by
  have carried := sampleHosts_carried.run (by decide : (0 : Int) ≤ 3) sampleHostTransfer
  have left : ((run (SegmentHosts.step 3) sampleSegments sampleHostTransfer).right.stack.getTcb 2).map
      (·.recvBuffer.contents) = some [3] := by decide
  rw [carried.running.decodesR.tables, TcpStack.getTcb_withOutput] at block
  rw [block] at left
  exact Option.some.inj left

theorem sampleHosts_refine : ∃ steps, (∀ step ∈ steps, IsExchange step.2) ∧
    (run Pair.step (.joined sampleLeftTcb sampleRightTcb) steps).b.tcb.recvBuffer.contents = [3] := by
  obtain ⟨steps, exchange, _, right, _⟩ := hosts_refine_pair 3 (by decide) sampleHosts ⟨_, _, _, rfl⟩ 1 2
    ⟨0x0A000002, 49152⟩ ⟨0x0A000003, 8080⟩ sampleLeftTcb sampleRightTcb sampleHosts_ready
    sampleHostTransfer sampleHosts_undisturbed
  exact ⟨steps, exchange, sampleHosts_unread right⟩

theorem sampleHosts_transfer :
    actionsOf (step 3) (receivedRight 2) sampleHosts sampleHostTransfer ++ [3] <+:
      actionsOf (step 3) (sentLeft 1) sampleHosts sampleHostTransfer := by
  obtain ⟨x, y, _, right, _, _, inOrder, _⟩ := hosts_transfer_in_order 3 (by decide) sampleHosts
    ⟨_, _, _, rfl⟩ 1 2 ⟨0x0A000002, 49152⟩ ⟨0x0A000003, 8080⟩ sampleLeftTcb sampleRightTcb
    sampleHosts_ready sampleHostTransfer sampleHosts_undisturbed
  rw [sampleHosts_unread right] at inOrder
  exact (List.prefix_append _ _).trans inOrder

end Sample

end Hosts
end TinyCP
