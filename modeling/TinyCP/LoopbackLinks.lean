import TinyCP.OwnTraffic

/-!
# Local connections

Both ends of a connection may be sockets of one stack. Their segments then never reach
the device: they wait in the loopback queue, among those of all other local connections.
Whatever the stack does for another socket leaves the two entries of such a connection,
and the segments queued on it, as they are.
-/
namespace TinyCP
open EventRun

/-- The segments from one address to another, oldest first. -/
def between (src dst : IPv4Address) (packets : List Segment) : List Segment :=
  packets.filter fun packet => packet.src = src ∧ packet.dst = dst

section Between
variable {src dst : IPv4Address}

theorem between_append (first rest : List Segment) :
    between src dst (first ++ rest) = between src dst first ++ between src dst rest :=
  List.filter_append _ _

theorem between_cons {packet : Segment} (source : packet.src = src) (target : packet.dst = dst)
    (rest : List Segment) : between src dst (packet :: rest) = packet :: between src dst rest :=
  List.filter_cons_of_pos (by simpa using ⟨source, target⟩)

theorem between_cons_elsewhere {packet : Segment}
    (elsewhere : ¬ (packet.src = src ∧ packet.dst = dst)) (rest : List Segment) :
    between src dst (packet :: rest) = between src dst rest :=
  List.filter_cons_of_neg (by simpa using elsewhere)

theorem between_eq_nil {packets : List Segment}
    (elsewhere : ∀ packet ∈ packets, ¬ (packet.src = src ∧ packet.dst = dst)) :
    between src dst packets = [] := by
  rw [between, List.filter_eq_nil_iff]
  intro packet hmem
  simpa using elsewhere packet hmem

theorem between_append_elsewhere (first : List Segment) {rest : List Segment}
    (elsewhere : ∀ packet ∈ rest, ¬ (packet.src = src ∧ packet.dst = dst)) :
    between src dst (first ++ rest) = between src dst first := by
  rw [between_append, between_eq_nil elsewhere, List.append_nil]

theorem between_eq_self {packets : List Segment}
    (all : ∀ packet ∈ packets, packet.src = src ∧ packet.dst = dst) :
    between src dst packets = packets := by
  rw [between, List.filter_eq_self]
  intro packet hmem
  simpa using all packet hmem

end Between

namespace TcpStack
open TransmissionControlBlock

theorem perform_localAddress (stack : TcpStack) (socketId : UInt64) (o : Outcome) :
    (stack.perform socketId o).localAddress = stack.localAddress := by
  rw [stack.perform_frame socketId o]

/-- Two sockets of the stack are the ends of one local connection, and no other socket has
its addresses. -/
structure Link (a b : UInt64) (pa pb : IPv4Address) (stack : TcpStack) : Prop where
  routed : Routed stack
  ownsA : Owns ⟨pb, pa⟩ a stack
  ownsB : Owns ⟨pa, pb⟩ b stack
  localA : ∀ packet : Segment, packet.src = pa → packet.dst = pb → stack.isLocal packet = true
  localB : ∀ packet : Segment, packet.src = pb → packet.dst = pa → stack.isLocal packet = true

/-- The step leaves the link alone, and adds nothing to what is queued on it. -/
structure Quiet (a b : UInt64) (pa pb : IPv4Address) (before after : TcpStack) : Prop where
  link : Link a b pa pb after
  ab : between pa pb after.loopbackPacketQueue = between pa pb before.loopbackPacketQueue
  ba : between pb pa after.loopbackPacketQueue = between pb pa before.loopbackPacketQueue

namespace Link
variable {a b other : UInt64} {pa pb : IPv4Address} {stack next : TcpStack}
variable {tcb : TransmissionControlBlock} {o : Outcome}

theorem mirror (h : Link a b pa pb stack) : Link b a pb pa stack :=
  ⟨h.routed, h.ownsB, h.ownsA, h.localB, h.localA⟩

/-- No address and no entry has changed. -/
theorem kept (h : Link a b pa pb stack) (keeps : KeepsRoutes stack next)
    (connections : next.connectionTable = stack.connectionTable)
    (localAddress : next.localAddress = stack.localAddress) : Link a b pa pb next := by
  have same : next.isLocal = stack.isLocal := by
    funext packet
    rw [isLocal, isLocal, localAddress]
  refine ⟨keeps.routed h.routed, h.ownsA.keeps keeps ?_, h.ownsB.keeps keeps ?_, ?_, ?_⟩
  · rw [connections]
    exact h.ownsA.entry
  · rw [connections]
    exact h.ownsB.entry
  · rw [same]
    exact h.localA
  · rw [same]
    exact h.localB

theorem keeps (h : Link a b pa pb stack) (keeps : KeepsRoutes stack next)
    (connections : next.connectionTable = stack.connectionTable)
    (localAddress : next.localAddress = stack.localAddress)
    (queue : next.loopbackPacketQueue = stack.loopbackPacketQueue) :
    Quiet a b pa pb stack next :=
  ⟨h.kept keeps connections localAddress, by rw [queue], by rw [queue]⟩

theorem quiet (h : Link a b pa pb stack) : Quiet a b pa pb stack stack := ⟨h, rfl, rfl⟩

theorem writePackets_queue (stack : TcpStack) (packets : List Segment) {src dst : IPv4Address}
    (elsewhere : ∀ packet ∈ packets, ¬ (packet.src = src ∧ packet.dst = dst)) :
    between src dst (packets.foldl writePacket stack).loopbackPacketQueue =
      between src dst stack.loopbackPacketQueue := by
  rw [writePackets_eq]
  exact between_append_elsewhere _ fun packet hmem =>
    elsewhere packet (List.mem_of_mem_filter hmem)

theorem perform_queue (stack : TcpStack) (socketId : UInt64) (o : Outcome) (src dst : IPv4Address) :
    between src dst (stack.perform socketId o).loopbackPacketQueue =
      between src dst stack.loopbackPacketQueue ++ between src dst (o.out.filter stack.isLocal) := by
  rw [stack.perform_frame socketId o]
  exact between_append _ _

/-- A block other than the two ends. -/
theorem perform_other (h : Link a b pa pb stack) (found : stack.getTcb other = some tcb)
    (own : Own tcb o) (notA : other ≠ a) (notB : other ≠ b) :
    Quiet a b pa pb stack (stack.perform other o) := by
  have keyA : tcb.connectionKey ≠ ⟨pb, pa⟩ := fun same => notA (h.ownsA.only other tcb found same)
  have keyB : tcb.connectionKey ≠ ⟨pa, pb⟩ := fun same => notB (h.ownsB.only other tcb found same)
  have keeps : KeepsRoutes stack (stack.perform other o) :=
    perform_keepsRoutes fun _ => ⟨tcb, found, own.key⟩
  have elsewhere : ∀ src dst, tcb.connectionKey ≠ ⟨dst, src⟩ →
      between src dst (o.out.filter stack.isLocal) = [] := by
    intro src dst apart
    refine between_eq_nil fun packet hmem here => apart ?_
    obtain ⟨source, target⟩ := own.out packet (List.mem_of_mem_filter hmem)
    rw [connectionKey, ← source, ← target, here.1, here.2]
  have same : (stack.perform other o).isLocal = stack.isLocal := by
    funext packet
    rw [isLocal, isLocal, perform_localAddress]
  refine ⟨⟨keeps.routed h.routed, h.ownsA.perform found own notA keyB,
    h.ownsB.perform found own notB keyA, ?_, ?_⟩, ?_, ?_⟩
  · rw [same]
    exact h.localA
  · rw [same]
    exact h.localB
  · rw [perform_queue, elsewhere pa pb keyA, List.append_nil]
  · rw [perform_queue, elsewhere pb pa keyB, List.append_nil]

theorem keyA (h : Link a b pa pb stack) (found : stack.getTcb a = some tcb) :
    tcb.connectionKey = ⟨pb, pa⟩ :=
  h.routed _ a tcb h.ownsA.entry found

theorem differ (h : Link a b pa pb stack) (ends : a ≠ b) : pa ≠ pb := by
  rintro rfl
  exact ends (Option.some.inj (h.ownsA.entry.symm.trans h.ownsB.entry))

/-- The block of the first end, when it asks nothing of the tables: its segments are queued
behind those under way. -/
theorem perform_own (h : Link a b pa pb stack) (ends : a ≠ b) (found : stack.getTcb a = some tcb)
    (own : Own tcb o) (plain : o.effect = .none) :
    Link a b pa pb (stack.perform a o) ∧
    between pa pb (stack.perform a o).loopbackPacketQueue =
      between pa pb stack.loopbackPacketQueue ++ o.out ∧
    between pb pa (stack.perform a o).loopbackPacketQueue =
      between pb pa stack.loopbackPacketQueue := by
  have keeps : KeepsRoutes stack (stack.perform a o) :=
    perform_keepsRoutes fun _ => ⟨tcb, found, own.key⟩
  obtain ⟨target, source⟩ := ConnectionKey.mk.inj (h.keyA found)
  have sent : ∀ packet ∈ o.out, packet.src = pa ∧ packet.dst = pb := by
    intro packet hmem
    rw [(own.out packet hmem).1, (own.out packet hmem).2]
    exact ⟨source, target⟩
  have queued : o.out.filter stack.isLocal = o.out :=
    List.filter_eq_self.mpr fun packet hmem =>
      h.localA packet (sent packet hmem).1 (sent packet hmem).2
  refine ⟨h.kept keeps (stack.perform_of_plain a plain).2 (stack.perform_localAddress a o), ?_, ?_⟩
  · rw [perform_queue, queued, between_eq_self sent]
  · have nothing : between pb pa o.out = [] := between_eq_nil fun packet hmem here =>
      h.differ ends ((sent packet hmem).1.symm.trans here.1)
    rw [perform_queue, queued, nothing, List.append_nil]

/-- Another socket is given addresses of its own. -/
theorem gives {route : ConnectionKey} (h : Link a b pa pb stack)
    (gives : GivesRoute stack next other route)
    (free : other ≠ 0 → ∀ key, stack.connectionTable.connections.lookup key = some other →
      key = route)
    (apart : route ≠ ⟨pb, pa⟩ ∧ route ≠ ⟨pa, pb⟩) (localAddress : next.localAddress = stack.localAddress) :
    Link a b pa pb next := by
  have same : next.isLocal = stack.isLocal := by
    funext packet
    rw [isLocal, isLocal, localAddress]
  refine ⟨(gives.routed_iff h.routed).mpr free, h.ownsA.gives gives apart.1,
    h.ownsB.gives gives apart.2, ?_, ?_⟩
  · rw [same]
    exact h.localA
  · rw [same]
    exact h.localB

/-- Segments between other addresses are written. -/
theorem writePackets (h : Link a b pa pb stack) {packets : List Segment}
    (elsewhere : ∀ packet ∈ packets, ¬ (packet.src = pa ∧ packet.dst = pb) ∧
      ¬ (packet.src = pb ∧ packet.dst = pa)) :
    Quiet a b pa pb stack (packets.foldl writePacket stack) := by
  refine ⟨?_, writePackets_queue stack packets fun packet hmem => (elsewhere packet hmem).1,
    writePackets_queue stack packets fun packet hmem => (elsewhere packet hmem).2⟩
  rw [writePackets_eq]
  exact ⟨h.routed, ⟨h.ownsA.entry, h.ownsA.only⟩, ⟨h.ownsB.entry, h.ownsB.only⟩, h.localA, h.localB⟩

end Link

namespace Quiet
variable {a b : UInt64} {pa pb : IPv4Address} {first second third : TcpStack}

theorem trans (h : Quiet a b pa pb first second) (h' : Quiet a b pa pb second third) :
    Quiet a b pa pb first third :=
  ⟨h'.link, h'.ab.trans h.ab, h'.ba.trans h.ba⟩

end Quiet

/-- No timer of the two ends has run out. -/
def Timely (a b : UInt64) (now : Int) (stack : TcpStack) : Prop :=
  ∀ id tcb, id = a ∨ id = b → stack.getTcb id = some tcb →
    tcb.inFlight = 0 ∨ now - tcb.lastWritten < tcb.rto

/-- The segment does not belong to the connection, in either direction. -/
def Elsewhere (pa pb : IPv4Address) (packet : Segment) : Prop :=
  ¬ (packet.src = pa ∧ packet.dst = pb) ∧ ¬ (packet.src = pb ∧ packet.dst = pa)

namespace Timely
variable {a b : UInt64} {stack : TcpStack}

theorem checkRetransmission {now : Int} {socketId : UInt64}
    {tcb : TransmissionControlBlock} (timely : Timely a b now stack)
    (isEnd : socketId = a ∨ socketId = b) (found : stack.getTcb socketId = some tcb) :
    tcb.checkRetransmission now = { tcb := tcb } :=
  checkRetransmission_of_early (timely socketId tcb isEnd found)

/-- A visit leaves the blocks of the two ends as they were. -/
theorem perform {now : Int} {socketId : UInt64} {tcb : TransmissionControlBlock}
    (timely : Timely a b now stack) (found : stack.getTcb socketId = some tcb) :
    Timely a b now (stack.perform socketId (tcb.checkRetransmission now)) := by
  have plain := (tcb.checkRetransmission_confined now).plain
  intro id block isEnd there
  rw [getTcb, (stack.perform_of_plain socketId plain).1] at there
  by_cases same : id = socketId
  · rw [same] at isEnd
    rw [same, SocketTable.findSocket_setSocket _ (SocketTable.ne_zero_of_findSocket found),
      timely.checkRetransmission isEnd found, Option.some.injEq] at there
    rw [← there]
    exact timely socketId tcb isEnd found
  · rw [SocketTable.findSocket_setSocket_ne _ same] at there
    exact timely id block isEnd there

end Timely

namespace Link
variable {a b : UInt64} {pa pb : IPv4Address} {stack : TcpStack} {packet : Segment}

theorem handlePassiveOpenSyn (h : Link a b pa pb stack) (elsewhere : Elsewhere pa pb packet)
    (unused : ∀ key, stack.connectionTable.connections.lookup key ≠ some stack.socketTable.nextId)
    (iss : UInt32) : Quiet a b pa pb stack (stack.handlePassiveOpenSyn packet iss) := by
  by_cases bareSyn : stack.listenerTable.find stack.socketTable packet.dst.port ≠ 0 ∧
      packet.syn ∧ !packet.ack
  · have gives := handlePassiveOpenSyn_givesRoute iss bareSyn
    have apart : (⟨packet.src, packet.dst⟩ : ConnectionKey) ≠ ⟨pb, pa⟩ ∧
        (⟨packet.src, packet.dst⟩ : ConnectionKey) ≠ ⟨pa, pb⟩ := by
      rw [ne_eq, ne_eq, ConnectionKey.mk.injEq, ConnectionKey.mk.injEq]
      exact ⟨elsewhere.2, elsewhere.1⟩
    have linked := fun same => h.gives gives (fun _ key entry => absurd entry (unused key)) apart same
    by_cases wrapped : stack.socketTable.nextId = 0
    · rw [handlePassiveOpenSyn_wrapped iss bareSyn wrapped] at linked ⊢
      exact ⟨linked rfl, rfl, rfl⟩
    · rw [handlePassiveOpenSyn_eq iss bareSyn wrapped] at linked ⊢
      -- The SYN-ACK goes back the way the segment came.
      refine ⟨linked rfl, (writePackets_queue _ [_] ?_).trans rfl,
        (writePackets_queue _ [_] ?_).trans rfl⟩
      · rintro answer hmem ⟨source, target⟩
        rw [List.mem_singleton] at hmem
        exact elsewhere.2 ⟨by rw [← target, hmem]; rfl, by rw [← source, hmem]; rfl⟩
      · rintro answer hmem ⟨source, target⟩
        rw [List.mem_singleton] at hmem
        exact elsewhere.1 ⟨by rw [← target, hmem]; rfl, by rw [← source, hmem]; rfl⟩
  · rw [TcpStack.handlePassiveOpenSyn, if_neg bareSyn]
    exact h.quiet

theorem processIncomingPacket (h : Link a b pa pb stack) (elsewhere : Elsewhere pa pb packet)
    (unused : ∀ key, stack.connectionTable.connections.lookup key ≠ some stack.socketTable.nextId)
    (iss : UInt32) : Quiet a b pa pb stack (stack.processIncomingPacket packet iss) := by
  cases bound : stack.registered packet.src packet.dst with
  | none =>
    rw [processIncomingPacket_of_unregistered bound]
    split_ifs
    · exact h.handlePassiveOpenSyn elsewhere unused iss
    · refine h.writePackets fun answer hmem => ?_
      obtain ⟨source, target⟩ := handleClosedResetResponse_own hmem
      rw [source, target]
      exact ⟨fun here => elsewhere.2 ⟨here.2, here.1⟩, fun here => elsewhere.1 ⟨here.2, here.1⟩⟩
  | some tcb =>
    by_cases state : tcb.currentState = .listen
    · rw [processIncomingPacket_of_listening bound state]
      exact h.handlePassiveOpenSyn elsewhere unused iss
    · rw [processIncomingPacket_of_bound bound state]
      obtain ⟨entry, _⟩ := (ConnectionTable.find_eq_iff (SocketTable.ne_zero_of_findSocket bound)).mp rfl
      have key := h.routed _ _ tcb entry bound
      refine h.perform_other bound (receive_own key) ?_ ?_
      · intro same
        rw [registered, same] at bound
        exact elsewhere.2 (ConnectionKey.mk.inj (key.symm.trans (h.keyA bound)))
      · intro same
        rw [registered, same] at bound
        exact elsewhere.1 (ConnectionKey.mk.inj (key.symm.trans (h.mirror.keyA bound)))

/-- A visit of any block whose outcome stays within it; the two ends send nothing. -/
theorem visit (h : Link a b pa pb stack) (ends : a ≠ b) {socketId : UInt64}
    {tcb : TransmissionControlBlock} {o : Outcome} (found : stack.getTcb socketId = some tcb)
    (confined : Confined tcb o) (silent : socketId = a ∨ socketId = b → o.out = []) :
    Quiet a b pa pb stack (stack.perform socketId o) := by
  by_cases isA : socketId = a
  · obtain ⟨link, ab, ba⟩ := h.perform_own ends (isA ▸ found) confined.own confined.plain
    rw [silent (Or.inl isA), List.append_nil] at ab
    rw [isA]
    exact ⟨link, ab, ba⟩
  · by_cases isB : socketId = b
    · obtain ⟨link, ba, ab⟩ := h.mirror.perform_own ends.symm (isB ▸ found) confined.own confined.plain
      rw [silent (Or.inr isB), List.append_nil] at ba
      rw [isB]
      exact ⟨link.mirror, ab, ba⟩
    · exact h.perform_other found confined.own isA isB

theorem checkRetransmissions (h : Link a b pa pb stack) (ends : a ≠ b) {now : Int}
    (timely : Timely a b now stack) (zero : stack.socketTable.sockets.lookup 0 = none) :
    Quiet a b pa pb stack (stack.checkRetransmissions now) := by
  rw [TcpStack.checkRetransmissions]
  generalize stack.socketTable.sockets.keys = ids
  induction ids generalizing stack with
  | nil => exact h.quiet
  | cons id ids ih =>
    rw [List.foldl_cons]
    cases entry : stack.socketTable.sockets.lookup id with
    | none => exact ih h timely zero
    | some tcb =>
      have real : id ≠ 0 := by
        rintro rfl
        rw [zero] at entry
        cases entry
      have found : stack.getTcb id = some tcb :=
        SocketTable.findSocket_eq_some_iff.mpr ⟨real, entry⟩
      have confined := tcb.checkRetransmission_confined now
      have visited := h.visit ends found confined fun isEnd => by
        rw [timely.checkRetransmission isEnd found]
      refine visited.trans (ih visited.link (timely.perform found) ?_)
      rw [(stack.perform_of_plain id confined.plain).1]
      exact (AList.lookup_insert_ne real.symm).trans zero

/-- The daemon goes on with a write for another socket. -/
theorem resumeWrite (h : Link a b pa pb stack) (awakeA : stack.waitingFor a = none)
    (awakeB : stack.waitingFor b = none) : Quiet a b pa pb stack (stack.step .resumeWrite) := by
  rw [TcpStack.step]
  split
  · next socketId payload blocked =>
    have apart : ∀ id, stack.waitingFor id = none → socketId ≠ id := by
      rintro id awake rfl
      simp [waitingFor, blocked] at awake
    have woken : Quiet a b pa pb stack { stack with waiting := none } :=
      h.keeps (.of_tables rfl rfl) rfl rfl rfl
    refine woken.trans ?_
    rw [withTcb]
    split
    · next tcb found =>
      exact woken.link.perform_other found (tcb.storePayload_own payload) (apart a awakeA)
        (apart b awakeB)
    · exact woken.link.quiet
  · exact h.quiet

end Link

/-- The call is not about the two ends, and gives nobody else their addresses. -/
structure Spares (a b : UInt64) (pa pb : IPv4Address) (stack : TcpStack) (event : StackEvent) :
    Prop where
  connectedA : ¬ Configures a event
  connectedB : ¬ Configures b event
  openA : ∀ now, event ≠ .close a now
  openB : ∀ now, event ≠ .close b now
  oneRoute : OneRoutePerSocket stack event
  apart : ∀ id route, stack.givesRoute event = some (id, route) →
    route ≠ ⟨pb, pa⟩ ∧ route ≠ ⟨pa, pb⟩

theorem completeAddress_queue (stack : TcpStack) (addr : IPv4Address) :
    (stack.completeAddress addr).1.localAddress = stack.localAddress ∧
    (stack.completeAddress addr).1.loopbackPacketQueue = stack.loopbackPacketQueue := by
  simp only [completeAddress]
  split_ifs <;> exact ⟨rfl, rfl⟩

theorem bind_queue (stack : TcpStack) (addr : IPv4Address) (iss : UInt32) :
    (TcpSocket.bind stack addr iss).1.localAddress = stack.localAddress ∧
    (TcpSocket.bind stack addr iss).1.loopbackPacketQueue = stack.loopbackPacketQueue := by
  simp only [TcpSocket.bind]
  split <;> exact stack.completeAddress_queue addr

theorem connect_queue (stack : TcpStack) (socketId : UInt64) (addr : IPv4Address) (iss : UInt32) :
    (TcpSocket.connect stack socketId addr iss).1.localAddress = stack.localAddress ∧
    (TcpSocket.connect stack socketId addr iss).1.loopbackPacketQueue =
      stack.loopbackPacketQueue := by
  simp only [TcpSocket.connect]
  split
  · exact stack.completeAddress_queue _
  · rw [addDirtyTcb_eq]
    exact stack.completeAddress_queue _

namespace Link
variable {a b : UInt64} {pa pb : IPv4Address} {stack : TcpStack}

theorem call (h : Link a b pa pb stack) {event : StackEvent} (made : event.isCall = true)
    (spares : Spares a b pa pb stack event) : Quiet a b pa pb stack (stack.step event) := by
  have moves := stack.step_moves event
  cases event with
  | bind addr iss =>
    obtain ⟨address, queue⟩ := stack.bind_queue addr iss
    refine ⟨h.gives moves (spares.oneRoute _ _ rfl) (spares.apart _ _ rfl) address, ?_, ?_⟩
    · exact congrArg _ queue
    · exact congrArg _ queue
  | listen socketId =>
    refine h.keeps moves ?_ ?_ ?_ <;>
      · simp only [TcpStack.step, TcpSocket.listen]
        split
        · rfl
        · split_ifs <;> rfl
  | connect socketId addr iss =>
    obtain ⟨address, queue⟩ := stack.connect_queue socketId addr iss
    obtain ⟨id, route, given⟩ : ∃ id route,
        stack.givesRoute (.connect socketId addr iss) = some (id, route) := by
      rw [givesRoute]
      split <;> exact ⟨_, _, rfl⟩
    rw [given] at moves
    refine ⟨h.gives moves (spares.oneRoute _ _ given) (spares.apart _ _ given) address, ?_, ?_⟩
    · exact congrArg _ queue
    · exact congrArg _ queue
  | accept socketId =>
    refine h.keeps moves ?_ ?_ ?_ <;>
      · simp only [TcpStack.step, TcpSocket.accept]
        split
        · rfl
        · split_ifs
          · rfl
          · split <;> rfl
  | send socketId data =>
    cases found : stack.getTcb socketId with
    | none =>
      have same : stack.step (.send socketId data) = stack := by
        simp [TcpStack.step, TcpSocket.send, found]
      rw [same]
      exact h.quiet
    | some tcb =>
      cases stored : tcb.sendBuffer.write data with
      | none =>
        have same : stack.step (.send socketId data) = stack := by
          simp [TcpStack.step, TcpSocket.send, found, TransmissionControlBlock.send, stored]
        rw [same]
        exact h.quiet
      | some written =>
        have acts : stack.step (.send socketId data) = stack.perform socketId
            { tcb := { tcb with sendBuffer := written.1 }, dirty := true } := by
          simp [TcpStack.step, TcpSocket.send, found, TransmissionControlBlock.send, stored]
        rw [acts] at moves ⊢
        refine h.keeps moves (stack.perform_of_plain socketId rfl).2 ?_ ?_
        · rw [stack.perform_frame socketId]
        · rw [stack.perform_frame socketId]
          exact List.append_nil _
  | recv socketId len =>
    refine h.keeps moves ?_ ?_ ?_ <;>
      · simp only [TcpStack.step, TcpSocket.recv]
        split
        · rfl
        · next tcb _ => cases tcb.recv len <;> rfl
  | close socketId now =>
    simp only [TcpStack.step, TcpSocket.close, closeConnection, withTcb]
    split_ifs
    · exact h.quiet
    · split
      · next tcb found =>
        have notA : socketId ≠ a := fun same => spares.openA now (by rw [same])
        have notB : socketId ≠ b := fun same => spares.openB now (by rw [same])
        exact h.perform_other found (tcb.closeConnection_own now) notA notB
      · exact h.quiet
  | _ => cases made

end Link
end TcpStack

end TinyCP
