import TinyCP.TableTeardown

/-!
# Routing and the addresses of the blocks

A segment goes where the connection table leads, and a block answers from the addresses
it holds. The handlers never change these addresses; they are set when a socket is
created and by `connect`, which writes them into the block and enters one key. An entry
made for the socket before stays in the table, so the two agree exactly as long as no
socket is given addresses while another key leads to it.
-/
namespace TinyCP
open EventRun

namespace TransmissionControlBlock

/-- The handlers change neither the addresses of the block nor its accept queue. -/
theorem receive_keeps (tcb : TransmissionControlBlock) (packet : Segment) :
    (tcb.receive packet).tcb.connectionKey = tcb.connectionKey ∧
    (tcb.receive packet).tcb.acceptQueue = tcb.acceptQueue := by
  cases state : tcb.currentState with
  | synSent =>
    simp only [receive, state, handleSynSentState]
    split_ifs <;> exact ⟨rfl, rfl⟩
  | synReceived =>
    simp only [receive, state, handleSynReceivedState]
    split_ifs <;> exact ⟨rfl, rfl⟩
  | established =>
    simp only [receive, state]
    cases fin : packet.fin with
    | true =>
      simp only [handleEstablishedState, fin, receiveFin]
      split_ifs <;> exact ⟨rfl, rfl⟩
    | false =>
      have same : (tcb.afterAck packet).connectionKey = tcb.connectionKey ∧
          (tcb.afterAck packet).acceptQueue = tcb.acceptQueue := by
        rw [afterAck, receiveAck]
        split_ifs <;> exact ⟨rfl, rfl⟩
      rcases tcb.handleEstablishedState_cases fin with ⟨_, done⟩ | ⟨_, _, done⟩ | ⟨_, _, done⟩ <;>
        rw [done] <;> exact same
  | finWait1 =>
    simp only [receive, state, handleFinWait1State]
    split_ifs <;> exact ⟨rfl, rfl⟩
  | finWait2 =>
    simp only [receive, state, handleFinWait2State]
    split_ifs <;> exact ⟨rfl, rfl⟩
  | closing =>
    simp only [receive, state, handleClosingState, awaitFinalAck]
    split_ifs <;> exact ⟨rfl, rfl⟩
  | lastAck =>
    simp only [receive, state, handleLastAckState, awaitFinalAck]
    split_ifs <;> exact ⟨rfl, rfl⟩
  | _ => simp [receive, state]

theorem Confined.connectionKey {tcb : TransmissionControlBlock} {o : Outcome} (h : Confined tcb o) :
    o.tcb.connectionKey = tcb.connectionKey := by
  rw [TransmissionControlBlock.connectionKey, TransmissionControlBlock.connectionKey, h.src_eq, h.dst_eq]

theorem closeConnection_connectionKey (tcb : TransmissionControlBlock) (now : Int) :
    (tcb.closeConnection now).tcb.connectionKey = tcb.connectionKey := by
  have flushed := (tcb.processBlock_confined now).connectionKey
  rw [closeConnection]
  split
  · exact flushed
  · exact flushed
  · rfl

theorem storePayload_connectionKey (tcb : TransmissionControlBlock) (payload : List UInt8) :
    (tcb.storePayload payload).tcb.connectionKey = tcb.connectionKey := by
  rcases tcb.storePayload_cases payload with ⟨_, done⟩ | ⟨_, done⟩
  · rw [done]
    rfl
  · rw [done]

end TransmissionControlBlock

namespace TcpStack

/-- Every entry that leads to a live socket has the addresses of its block. -/
def Routed (stack : TcpStack) : Prop :=
  ∀ key id tcb, stack.connectionTable.connections.lookup key = some id →
    stack.getTcb id = some tcb → tcb.connectionKey = key

/-- A step that adds no socket and no entry and changes no address. -/
structure KeepsRoutes (before after : TcpStack) : Prop where
  sockets : ∀ id tcb, after.getTcb id = some tcb →
    ∃ old, before.getTcb id = some old ∧ tcb.connectionKey = old.connectionKey
  entries : ∀ key id, after.connectionTable.connections.lookup key = some id →
    before.connectionTable.connections.lookup key = some id

/-- A step that gives one socket its addresses, and may enter them for it. -/
structure GivesRoute (before after : TcpStack) (socketId : UInt64) (route : ConnectionKey) :
    Prop where
  own : socketId ≠ 0 → ∃ tcb, after.getTcb socketId = some tcb ∧ tcb.connectionKey = route
  sockets : ∀ id tcb, id ≠ socketId → after.getTcb id = some tcb →
    ∃ old, before.getTcb id = some old ∧ tcb.connectionKey = old.connectionKey
  entries : ∀ key id, after.connectionTable.connections.lookup key = some id →
    before.connectionTable.connections.lookup key = some id ∨ (key = route ∧ id = socketId)
  kept : ∀ key, key ≠ route →
    after.connectionTable.connections.lookup key = before.connectionTable.connections.lookup key

namespace KeepsRoutes

theorem refl (stack : TcpStack) : KeepsRoutes stack stack :=
  ⟨fun _ tcb found => ⟨tcb, found, rfl⟩, fun _ _ entry => entry⟩

theorem trans {first second third : TcpStack} (h : KeepsRoutes first second)
    (h' : KeepsRoutes second third) : KeepsRoutes first third := by
  refine ⟨?_, fun key id entry => h.entries key id (h'.entries key id entry)⟩
  intro id tcb found
  obtain ⟨middle, between, same⟩ := h'.sockets id tcb found
  obtain ⟨old, before, same'⟩ := h.sockets id middle between
  exact ⟨old, before, same.trans same'⟩

/-- Nothing but queues and counters has changed. -/
theorem of_tables {before after : TcpStack} (sockets : after.socketTable = before.socketTable)
    (connections : after.connectionTable = before.connectionTable) : KeepsRoutes before after := by
  refine ⟨fun id tcb found => ⟨tcb, ?_, rfl⟩, fun key id entry => ?_⟩
  · rwa [getTcb, ← sockets]
  · rwa [← connections]

theorem setTcb {stack : TcpStack} {socketId : UInt64} {tcb : TransmissionControlBlock}
    (found : stack.getTcb socketId = some tcb) {after : TransmissionControlBlock}
    (same : after.connectionKey = tcb.connectionKey) : KeepsRoutes stack (stack.setTcb socketId after) := by
  refine ⟨?_, fun _ _ entry => entry⟩
  intro id block there
  by_cases own : id = socketId
  · rw [own, getTcb, TcpStack.setTcb,
      SocketTable.findSocket_setSocket _ (SocketTable.ne_zero_of_findSocket found),
      Option.some.injEq] at there
    rw [own, ← there]
    exact ⟨tcb, found, same⟩
  · rw [getTcb, TcpStack.setTcb, SocketTable.findSocket_setSocket_ne _ own] at there
    exact ⟨block, there, rfl⟩

theorem routed {before after : TcpStack} (h : KeepsRoutes before after) (routed : Routed before) :
    Routed after := by
  intro key id tcb entry found
  obtain ⟨old, there, same⟩ := h.sockets id tcb found
  rw [same]
  exact routed key id old (h.entries key id entry) there

end KeepsRoutes

namespace GivesRoute
variable {before after : TcpStack} {socketId : UInt64} {route : ConnectionKey}

/-- Giving a route keeps routing consistent exactly when no other key leads to the socket. -/
theorem routed_iff (h : GivesRoute before after socketId route) (routed : Routed before) :
    Routed after ↔ (socketId ≠ 0 → ∀ key,
      before.connectionTable.connections.lookup key = some socketId → key = route) := by
  constructor
  · intro consistent real key entry
    by_contra differ
    obtain ⟨tcb, found, same⟩ := h.own real
    have there := (h.kept key differ).trans entry
    exact differ ((consistent key socketId tcb there found).symm.trans same)
  · intro free key id tcb entry found
    have real := SocketTable.ne_zero_of_findSocket found
    by_cases own : id = socketId
    · rw [own] at real entry found
      obtain ⟨block, there, same⟩ := h.own real
      rw [there, Option.some.injEq] at found
      rw [← found, same]
      rcases h.entries key socketId entry with old | ⟨new, _⟩
      · exact (free real key old).symm
      · exact new.symm
    · obtain ⟨old, there, same⟩ := h.sockets id tcb own found
      rcases h.entries key id entry with before | ⟨_, new⟩
      · rw [same]
        exact routed key id old before there
      · exact absurd new own

/-- The connection table is left alone, or the route is entered for the socket. -/
theorem of_entries (own : socketId ≠ 0 → ∃ tcb, after.getTcb socketId = some tcb ∧
      tcb.connectionKey = route)
    (sockets : ∀ id, id ≠ socketId → after.getTcb id = before.getTcb id)
    (connections : after.connectionTable = before.connectionTable ∨
      after.connectionTable.connections = before.connectionTable.connections.insert route socketId) :
    GivesRoute before after socketId route := by
  refine ⟨own, fun id tcb differ found => ⟨tcb, by rw [← sockets id differ, found], rfl⟩, ?_, ?_⟩
  · intro key id entry
    rcases connections with same | inserted
    · rw [same] at entry
      exact Or.inl entry
    · rw [inserted] at entry
      by_cases new : key = route
      · rw [new, AList.lookup_insert, Option.some.injEq] at entry
        exact Or.inr ⟨new, entry.symm⟩
      · rw [AList.lookup_insert_ne new] at entry
        exact Or.inl entry
  · intro key differ
    rcases connections with same | inserted
    · rw [same]
    · rw [inserted, AList.lookup_insert_ne differ]

/-- A new socket comes with the addresses it is created for. -/
theorem of_created {state : TcpState} {src dst : IPv4Address}
    (sockets : after.socketTable = (before.socketTable.createSocket state src dst).1)
    (connections : after.connectionTable = before.connectionTable ∨
      after.connectionTable = before.connectionTable.insert dst src before.socketTable.nextId) :
    GivesRoute before after before.socketTable.nextId ⟨dst, src⟩ := by
  refine of_entries ?_ ?_ (connections.imp_right (congrArg ConnectionTable.connections))
  · intro real
    rw [getTcb, sockets]
    exact ⟨_, before.socketTable.findSocket_createSocket state src dst real, rfl⟩
  · intro id differ
    rw [getTcb, sockets]
    exact before.socketTable.findSocket_createSocket_ne state src dst differ

/-- What a later step of the same event does to the block, at the same addresses. -/
theorem setTcb {tcb : TransmissionControlBlock} (h : GivesRoute before after socketId route)
    (found : after.getTcb socketId = some tcb) (block : TransmissionControlBlock)
    (same : block.connectionKey = tcb.connectionKey) :
    GivesRoute before (after.setTcb socketId block) socketId route := by
  have keeps := KeepsRoutes.setTcb found same
  have real := SocketTable.ne_zero_of_findSocket found
  refine ⟨fun _ => ⟨block, SocketTable.findSocket_setSocket _ real _, ?_⟩, ?_, h.entries, h.kept⟩
  · obtain ⟨old, there, routed⟩ := h.own real
    rw [found, Option.some.injEq] at there
    rw [same, there, routed]
  · intro id other differ there
    obtain ⟨middle, between, kept⟩ := keeps.sockets id other there
    obtain ⟨old, first, kept'⟩ := h.sockets id middle differ between
    exact ⟨old, first, kept.trans kept'⟩

theorem of_tables {next : TcpStack} (h : GivesRoute before after socketId route)
    (sockets : next.socketTable = after.socketTable)
    (connections : next.connectionTable = after.connectionTable) :
    GivesRoute before next socketId route := by
  have same : ∀ id, next.getTcb id = after.getTcb id := fun id => by rw [getTcb, getTcb, sockets]
  refine ⟨?_, ?_, ?_, ?_⟩
  · intro real
    rw [same]
    exact h.own real
  · intro id tcb differ found
    exact h.sockets id tcb differ ((same id).symm.trans found)
  · rw [connections]
    exact h.entries
  · rw [connections]
    exact h.kept

end GivesRoute

/-- Carrying out an outcome that leaves the addresses of its block alone. -/
theorem perform_keepsRoutes {stack : TcpStack} {socketId : UInt64} {o : Outcome}
    (same : socketId ≠ 0 → ∃ tcb, stack.getTcb socketId = some tcb ∧
      o.tcb.connectionKey = tcb.connectionKey) :
    KeepsRoutes stack (stack.perform socketId o) := by
  have carried : KeepsRoutes stack (stack.carriedOut socketId o) := by
    rw [carriedOut_eq]
    by_cases real : socketId = 0
    · refine ⟨fun id tcb found => ⟨tcb, ?_, rfl⟩, fun _ _ entry => entry⟩
      have differ : id ≠ socketId := by
        rw [real]
        exact SocketTable.ne_zero_of_findSocket found
      rwa [getTcb, SocketTable.findSocket_setSocket_ne _ differ] at found
    · obtain ⟨tcb, found, kept⟩ := same real
      exact (KeepsRoutes.setTcb found kept).trans (.of_tables rfl rfl)
  refine carried.trans ⟨?_, ?_⟩
  · intro id tcb found
    rw [perform_eq] at found
    rcases applyEffect_found found with there | ⟨_, listener, there, pushed⟩
    · exact ⟨tcb, there, rfl⟩
    · exact ⟨listener, there, by rw [pushed]; rfl⟩
  · intro key id entry
    rw [perform_eq] at entry
    exact applyEffect_lookup entry

theorem withTcb_keepsRoutes (stack : TcpStack) (socketId : UInt64)
    {work : TransmissionControlBlock → Outcome}
    (same : ∀ tcb, (work tcb).tcb.connectionKey = tcb.connectionKey) :
    KeepsRoutes stack (stack.withTcb socketId work) := by
  rw [withTcb]
  cases found : stack.getTcb socketId with
  | none => exact .refl stack
  | some tcb => exact perform_keepsRoutes fun _ => ⟨tcb, found, same tcb⟩

theorem processDirtyBlocks_keepsRoutes (stack : TcpStack) (now : Int) :
    KeepsRoutes stack (stack.processDirtyBlocks now) := by
  have rounds : ∀ (ids : List UInt64) (current : TcpStack), KeepsRoutes current
      (ids.foldl (fun stack socketId => stack.processBlock socketId now) current) := by
    intro ids
    induction ids with
    | nil => exact KeepsRoutes.refl
    | cons id ids ih =>
      intro current
      exact (current.withTcb_keepsRoutes id fun tcb =>
        (tcb.processBlock_confined now).connectionKey).trans (ih _)
  have emptied : KeepsRoutes stack { stack with dirtySocketIds := [] } := .of_tables rfl rfl
  exact emptied.trans (rounds _ _)

theorem checkRetransmissions_keepsRoutes (stack : TcpStack) (now : Int) :
    KeepsRoutes stack (stack.checkRetransmissions now) := by
  rw [checkRetransmissions]
  generalize stack.socketTable.sockets.keys = ids
  induction ids generalizing stack with
  | nil => exact .refl stack
  | cons id ids ih =>
    refine KeepsRoutes.trans ?_ (ih _)
    dsimp only
    cases found : stack.socketTable.sockets.lookup id with
    | none => exact .refl stack
    | some tcb =>
      exact perform_keepsRoutes fun real => ⟨tcb,
        SocketTable.findSocket_eq_some_iff.mpr ⟨real, found⟩,
        (tcb.checkRetransmission_confined now).connectionKey⟩

/-- A segment that starts a passive open. -/
def opensPassively (stack : TcpStack) (packet : Segment) : Bool :=
  (stack.listenerTable.find stack.socketTable packet.dst.port != 0 && packet.syn && !packet.ack) &&
    match stack.registered packet.src packet.dst with
    | none => true
    | some tcb => tcb.currentState = .listen

theorem writePackets_keepsRoutes (stack : TcpStack) (packets : List Segment) :
    KeepsRoutes stack (packets.foldl writePacket stack) := by
  rw [writePackets_eq]
  exact .of_tables rfl rfl

theorem handlePassiveOpenSyn_givesRoute {stack : TcpStack} {packet : Segment} (iss : UInt32)
    (bareSyn : stack.listenerTable.find stack.socketTable packet.dst.port ≠ 0 ∧
      packet.syn ∧ !packet.ack) :
    GivesRoute stack (stack.handlePassiveOpenSyn packet iss) stack.socketTable.nextId
      ⟨packet.src, packet.dst⟩ := by
  by_cases wrapped : stack.socketTable.nextId = 0
  · rw [handlePassiveOpenSyn_wrapped iss bareSyn wrapped]
    exact .of_created rfl (Or.inl rfl)
  · rw [handlePassiveOpenSyn_eq iss bareSyn wrapped]
    have created : GivesRoute stack
        { stack.withChild packet with
          connectionTable := stack.connectionTable.insert packet.src packet.dst
            stack.socketTable.nextId } stack.socketTable.nextId ⟨packet.src, packet.dst⟩ :=
      .of_created rfl (Or.inr rfl)
    have opened := created.setTcb
      (stack.socketTable.findSocket_createSocket .synReceived packet.dst packet.src wrapped)
      (stack.childOf packet iss) rfl
    exact opened.of_tables rfl rfl

/-- A segment starts a passive open and gives a new socket its route, or keeps all routes. -/
theorem processIncomingPacket_routes (stack : TcpStack) (packet : Segment) (iss : UInt32) :
    if stack.opensPassively packet then
      GivesRoute stack (stack.processIncomingPacket packet iss) stack.socketTable.nextId
        ⟨packet.src, packet.dst⟩
    else KeepsRoutes stack (stack.processIncomingPacket packet iss) := by
  have passive : ¬ (stack.listenerTable.find stack.socketTable packet.dst.port ≠ 0 ∧
      packet.syn ∧ !packet.ack) → stack.handlePassiveOpenSyn packet iss = stack :=
    fun ordinary => if_neg ordinary
  by_cases bareSyn : stack.listenerTable.find stack.socketTable packet.dst.port ≠ 0 ∧
      packet.syn ∧ !packet.ack
  · have taken : (stack.listenerTable.find stack.socketTable packet.dst.port != 0 && packet.syn &&
        !packet.ack) = true := by
      simpa [and_assoc] using bareSyn
    rw [opensPassively, taken, Bool.true_and]
    cases bound : stack.registered packet.src packet.dst with
    | none =>
      rw [processIncomingPacket_of_unregistered bound, if_pos bareSyn]
      exact handlePassiveOpenSyn_givesRoute iss bareSyn
    | some tcb =>
      by_cases state : tcb.currentState = .listen
      · rw [processIncomingPacket_of_listening bound state]
        simp only [state, decide_true, if_true]
        exact handlePassiveOpenSyn_givesRoute iss bareSyn
      · rw [processIncomingPacket_of_bound bound state]
        simp only [state, decide_false, Bool.false_eq_true, if_false]
        exact perform_keepsRoutes fun _ => ⟨tcb, bound, (tcb.receive_keeps packet).1⟩
  · have ordinary : (stack.listenerTable.find stack.socketTable packet.dst.port != 0 && packet.syn &&
        !packet.ack) = false := by
      rw [Bool.eq_false_iff]
      intro taken
      exact bareSyn (by simpa [and_assoc] using taken)
    rw [opensPassively, ordinary, Bool.false_and, if_neg Bool.false_ne_true]
    cases bound : stack.registered packet.src packet.dst with
    | none =>
      rw [processIncomingPacket_of_unregistered bound, if_neg bareSyn]
      exact stack.writePackets_keepsRoutes _
    | some tcb =>
      by_cases state : tcb.currentState = .listen
      · rw [processIncomingPacket_of_listening bound state, passive bareSyn]
        exact .refl stack
      · rw [processIncomingPacket_of_bound bound state]
        exact perform_keepsRoutes fun _ => ⟨tcb, bound, (tcb.receive_keeps packet).1⟩

/-- The socket that an event gives its addresses, and the key they stand for: the one
it creates, or the one it connects. A blocked daemon thread takes no segment. -/
def givesRoute (stack : TcpStack) : StackEvent → Option (UInt64 × ConnectionKey)
  | .bind addr _ =>
    some (stack.socketTable.nextId, ⟨⟨0, 0⟩, (stack.completeAddress addr).2⟩)
  | .connect socketId addr _ =>
    match stack.getTcb socketId with
    | some tcb => some (socketId, ⟨addr, (stack.completeAddress tcb.srcAddress).2⟩)
    | none => some (stack.socketTable.nextId, ⟨addr, (stack.completeAddress ⟨0, 0⟩).2⟩)
  | .incoming packet _ =>
    if stack.waiting.isNone ∧ stack.opensPassively packet then
      some (stack.socketTable.nextId, ⟨packet.src, packet.dst⟩)
    else none
  | .loopback _ =>
    match stack.loopbackPacketQueue with
    | packet :: _ =>
      if stack.waiting.isNone ∧ stack.opensPassively packet then
        some (stack.socketTable.nextId, ⟨packet.src, packet.dst⟩)
      else none
    | [] => none
  | _ => none

/-- Completing an address moves the counter for ports at most. -/
theorem completeAddress_tables (stack : TcpStack) (addr : IPv4Address) :
    (stack.completeAddress addr).1.socketTable = stack.socketTable ∧
    (stack.completeAddress addr).1.connectionTable = stack.connectionTable ∧
    (stack.completeAddress addr).1.listenerTable = stack.listenerTable := by
  simp only [completeAddress]
  split_ifs <;> exact ⟨rfl, rfl, rfl⟩

/-- What a step does to routing. -/
def Moves (stack next : TcpStack) : Option (UInt64 × ConnectionKey) → Prop
  | some (socketId, route) => GivesRoute stack next socketId route
  | none => KeepsRoutes stack next

theorem daemon_keepsRoutes (stack : TcpStack) (work : TcpStack → TcpStack)
    (keeps : KeepsRoutes stack (work stack)) : KeepsRoutes stack (stack.daemon work) := by
  rw [daemon]
  split_ifs
  · exact .refl stack
  · exact keeps

theorem bind_givesRoute (stack : TcpStack) (addr : IPv4Address) (iss : UInt32) :
    GivesRoute stack (TcpSocket.bind stack addr iss).1 stack.socketTable.nextId
      ⟨⟨0, 0⟩, (stack.completeAddress addr).2⟩ := by
  obtain ⟨sockets, connections, _⟩ := stack.completeAddress_tables addr
  simp only [TcpSocket.bind, bindSocket, ListenerTable.bindNew]
  have created : GivesRoute stack
      { (stack.completeAddress addr).1 with
        listenerTable := (stack.completeAddress addr).1.listenerTable.bind
          (stack.completeAddress addr).2.port stack.socketTable.nextId
        socketTable := (stack.socketTable.createSocket .closed (stack.completeAddress addr).2).1 }
      stack.socketTable.nextId ⟨⟨0, 0⟩, (stack.completeAddress addr).2⟩ :=
    .of_created rfl (Or.inl connections)
  rw [sockets]
  split
  · exact created
  · next tcb found => exact created.setTcb found _ rfl

/-- The rest of `connect`, once the connection is registered. -/
theorem GivesRoute.connected {stack registered : TcpStack} {socketId : UInt64}
    {route : ConnectionKey} (h : GivesRoute stack registered socketId route) (iss : UInt32) :
    GivesRoute stack (match registered.getTcb socketId with
      | none => (registered, socketId)
      | some tcb => ((registered.setTcb socketId (tcb.connect iss)).addDirtyTcb socketId,
          socketId)).1 socketId route := by
  cases found : registered.getTcb socketId with
  | none => exact h
  | some tcb =>
    dsimp only
    rw [addDirtyTcb_eq]
    exact (h.setTcb found (tcb.connect iss) rfl).of_tables rfl rfl

theorem connect_moves (stack : TcpStack) (socketId : UInt64) (addr : IPv4Address) (iss : UInt32) :
    Moves stack (TcpSocket.connect stack socketId addr iss).1
      (stack.givesRoute (.connect socketId addr iss)) := by
  simp only [TcpSocket.connect, registerConnection, ConnectionTable.registerConnection, givesRoute]
  cases found : stack.getTcb socketId with
  | none =>
    dsimp only
    obtain ⟨sockets, connections, _⟩ := stack.completeAddress_tables ⟨0, 0⟩
    have unknown : stack.socketTable.findSocket socketId = none := found
    rw [sockets, connections, unknown]
    exact GivesRoute.connected (.of_created rfl (Or.inr rfl)) iss
  | some tcb =>
    dsimp only
    obtain ⟨sockets, connections, _⟩ := stack.completeAddress_tables tcb.srcAddress
    have known : stack.socketTable.findSocket socketId = some tcb := found
    rw [sockets, connections, known]
    refine GivesRoute.connected (.of_entries ?_ ?_ (Or.inr rfl)) iss
    · intro real
      exact ⟨_, SocketTable.findSocket_setSocket _ real _, rfl⟩
    · intro id differ
      exact SocketTable.findSocket_setSocket_ne _ differ _

/-- Taking a segment off the loopback queue changes no table. -/
theorem received_moves (stack : TcpStack) (queue : List Segment) (packet : Segment) (iss : UInt32) :
    Moves stack ({ stack with loopbackPacketQueue := queue }.processIncomingPacket packet iss)
      (if stack.opensPassively packet then
        some (stack.socketTable.nextId, ⟨packet.src, packet.dst⟩) else none) := by
  have routes := ({ stack with loopbackPacketQueue := queue } :
    TcpStack).processIncomingPacket_routes packet iss
  have same : ({ stack with loopbackPacketQueue := queue } : TcpStack).opensPassively packet =
      stack.opensPassively packet := rfl
  rw [same] at routes
  split_ifs at routes ⊢
  · exact ⟨routes.own, routes.sockets, routes.entries, routes.kept⟩
  · exact ⟨routes.sockets, routes.entries⟩

/-- A blocked daemon thread leaves everything as it is. -/
theorem daemon_moves (stack : TcpStack) (work : TcpStack → TcpStack) {opens : Bool}
    {route : UInt64 × ConnectionKey}
    (moves : Moves stack (work stack) (if opens then some route else none)) :
    Moves stack (stack.daemon work)
      (if stack.waiting.isNone ∧ opens then some route else none) := by
  cases blocked : stack.waiting with
  | some _ =>
    simp only [Option.isNone_some, Bool.false_eq_true, false_and, if_false, daemon, blocked,
      Option.isSome_some, if_true]
    exact KeepsRoutes.refl stack
  | none =>
    simp only [Option.isNone_none, true_and, daemon, blocked, Option.isSome_none,
      Bool.false_eq_true, if_false]
    exact moves

theorem listen_keepsRoutes (stack : TcpStack) (socketId : UInt64) :
    KeepsRoutes stack (TcpSocket.listen stack socketId) := by
  rw [TcpSocket.listen]
  cases found : stack.getTcb socketId with
  | none => exact .refl stack
  | some tcb =>
    dsimp only
    split_ifs
    · exact .refl stack
    · exact .setTcb found rfl

theorem accept_keepsRoutes (stack : TcpStack) (socketId : UInt64) :
    KeepsRoutes stack (((TcpSocket.accept stack socketId).map Prod.fst).getD stack) := by
  rw [TcpSocket.accept]
  cases found : stack.getTcb socketId with
  | none => exact .refl stack
  | some tcb =>
    dsimp only
    split_ifs
    · exact .refl stack
    · cases tcb.acceptQueue with
      | nil => exact .refl stack
      | cons childId rest => exact .setTcb found rfl

theorem send_keepsRoutes (stack : TcpStack) (socketId : UInt64) (data : List UInt8) :
    KeepsRoutes stack (((TcpSocket.send stack socketId data).map Prod.fst).getD stack) := by
  rw [TcpSocket.send]
  cases found : stack.getTcb socketId with
  | none => exact .refl stack
  | some tcb =>
    dsimp only
    rw [TransmissionControlBlock.send]
    cases tcb.sendBuffer.write data with
    | none => exact .refl stack
    | some written => exact perform_keepsRoutes fun _ => ⟨tcb, found, rfl⟩

theorem recv_keepsRoutes (stack : TcpStack) (socketId : UInt64) (len : Nat) :
    KeepsRoutes stack (((TcpSocket.recv stack socketId len).map Prod.fst).getD stack) := by
  rw [TcpSocket.recv]
  cases found : stack.getTcb socketId with
  | none => exact .refl stack
  | some tcb =>
    dsimp only
    rw [TransmissionControlBlock.recv]
    cases tcb.recvBuffer.read len with
    | none => exact .refl stack
    | some got => exact .setTcb found rfl

theorem close_keepsRoutes (stack : TcpStack) (socketId : UInt64) (now : Int) :
    KeepsRoutes stack (TcpSocket.close stack socketId now) := by
  rw [TcpSocket.close]
  split_ifs
  · exact .refl stack
  · exact stack.withTcb_keepsRoutes socketId fun tcb => tcb.closeConnection_connectionKey now

theorem resumeWrite_keepsRoutes (stack : TcpStack) :
    KeepsRoutes stack (stack.step .resumeWrite) := by
  rw [step]
  split
  · have resumed : KeepsRoutes stack { stack with waiting := none } := .of_tables rfl rfl
    exact resumed.trans (withTcb_keepsRoutes _ _ fun tcb => tcb.storePayload_connectionKey _)
  · exact .refl stack

/-- Only bind, connect and a passive open give addresses to a socket. -/
theorem step_moves (stack : TcpStack) (event : StackEvent) :
    Moves stack (stack.step event) (stack.givesRoute event) := by
  cases event with
  | bind addr iss => exact stack.bind_givesRoute addr iss
  | listen socketId => exact stack.listen_keepsRoutes socketId
  | connect socketId addr iss => exact stack.connect_moves socketId addr iss
  | accept socketId => exact stack.accept_keepsRoutes socketId
  | send socketId data => exact stack.send_keepsRoutes socketId data
  | recv socketId len => exact stack.recv_keepsRoutes socketId len
  | close socketId now => exact stack.close_keepsRoutes socketId now
  | incoming packet iss =>
    exact stack.daemon_moves (·.processIncomingPacket packet iss)
      (stack.received_moves stack.loopbackPacketQueue packet iss)
  | loopback iss =>
    rw [step, givesRoute]
    cases queue : stack.loopbackPacketQueue with
    | nil => exact stack.daemon_keepsRoutes _ (by rw [queue]; exact .refl stack)
    | cons packet rest =>
      refine stack.daemon_moves _ ?_
      rw [queue]
      exact stack.received_moves rest packet iss
  | processDirtyBlocks now =>
    exact stack.daemon_keepsRoutes (·.processDirtyBlocks now)
      (stack.processDirtyBlocks_keepsRoutes now)
  | checkRetransmissions now =>
    exact stack.daemon_keepsRoutes (·.checkRetransmissions now)
      (stack.checkRetransmissions_keepsRoutes now)
  | resumeWrite => exact stack.resumeWrite_keepsRoutes

/-- No socket is given addresses while the connection table leads to it from other ones. -/
def OneRoutePerSocket (stack : TcpStack) (event : StackEvent) : Prop :=
  ∀ socketId route, stack.givesRoute event = some (socketId, route) → socketId ≠ 0 →
    ∀ key, stack.connectionTable.connections.lookup key = some socketId → key = route

theorem step_routed_iff {stack : TcpStack} (routed : Routed stack) (event : StackEvent) :
    Routed (stack.step event) ↔ OneRoutePerSocket stack event := by
  have moves := stack.step_moves event
  rw [OneRoutePerSocket]
  cases gives : stack.givesRoute event with
  | none =>
    rw [gives] at moves
    exact iff_of_true (KeepsRoutes.routed moves routed) (fun socketId route found => by cases found)
  | some route =>
    rw [gives] at moves
    refine (GivesRoute.routed_iff moves routed).trans ⟨?_, fun free => free _ _ rfl⟩
    rintro free socketId key same
    rw [Option.some.injEq] at same
    rw [same] at free
    exact free

/-- Every entry for a live socket has the addresses of its block, no two entries lead to
one live socket, and so a segment is handed to the block of its own two addresses. -/
structure RoutesConsistently (stack : TcpStack) : Prop where
  addresses : ∀ remoteAddr localAddr id tcb,
    stack.connectionTable.connections.lookup ⟨remoteAddr, localAddr⟩ = some id →
    stack.getTcb id = some tcb → tcb.dstAddress = remoteAddr ∧ tcb.srcAddress = localAddr
  unique : ∀ key other id, stack.connectionTable.connections.lookup key = some id →
    stack.connectionTable.connections.lookup other = some id →
    stack.socketTable.contains id = true → key = other
  delivered : ∀ remoteAddr localAddr tcb, stack.registered remoteAddr localAddr = some tcb →
    tcb.dstAddress = remoteAddr ∧ tcb.srcAddress = localAddr

theorem routesConsistently_iff_routed (stack : TcpStack) :
    RoutesConsistently stack ↔ Routed stack := by
  constructor
  · intro h key id tcb entry found
    obtain ⟨remote, here⟩ := h.addresses key.srcAddress key.dstAddress id tcb entry found
    rw [TransmissionControlBlock.connectionKey, remote, here]
  · intro routed
    have addresses : ∀ remoteAddr localAddr id tcb,
        stack.connectionTable.connections.lookup ⟨remoteAddr, localAddr⟩ = some id →
        stack.getTcb id = some tcb → tcb.dstAddress = remoteAddr ∧ tcb.srcAddress = localAddr :=
      fun remoteAddr localAddr id tcb entry found =>
        ConnectionKey.mk.inj (routed ⟨remoteAddr, localAddr⟩ id tcb entry found)
    refine ⟨addresses, ?_, ?_⟩
    · intro key other id entry again live
      rw [SocketTable.contains_eq_isSome] at live
      obtain ⟨tcb, found⟩ := Option.isSome_iff_exists.mp live
      exact (routed key id tcb entry found).symm.trans (routed other id tcb again found)
    · intro remoteAddr localAddr tcb bound
      obtain ⟨id, entry, found⟩ := registered_eq_some.mp bound
      exact addresses remoteAddr localAddr id tcb entry found

end TcpStack

/-- Over every run of a new stack, routing is consistent in every state if and only if
every step that gives a socket its addresses finds no entry for it under another key. -/
theorem routesConsistently_iff (localAddress : UInt32) (events : List StackEvent) :
    Always TcpStack.step TcpStack.RoutesConsistently (.new localAddress) events ↔
      Throughout TcpStack.step TcpStack.OneRoutePerSocket (.new localAddress) events := by
  have initial : TcpStack.Routed (.new localAddress) := by
    intro key id tcb entry
    rw [TcpStack.new, ConnectionTable.new, AList.lookup_empty] at entry
    cases entry
  have preserve : ∀ stack event, True → TcpStack.Routed stack →
      TcpStack.OneRoutePerSocket stack event → TcpStack.Routed (stack.step event) :=
    fun stack event _ routed => (TcpStack.step_routed_iff routed event).mpr
  have observe : ∀ stack, TcpStack.Routed stack → TcpStack.RoutesConsistently stack :=
    fun stack => stack.routesConsistently_iff_routed.mpr
  have detect : ∀ stack event, True → TcpStack.Routed stack →
      TcpStack.RoutesConsistently (stack.step event) → TcpStack.OneRoutePerSocket stack event := by
    intro stack event _ routed consistent
    rw [TcpStack.routesConsistently_iff_routed] at consistent
    exact (TcpStack.step_routed_iff routed event).mp consistent
  exact always_iff_throughout preserve observe detect initial events (fun _ _ => trivial)

/-- One socket connects to one peer and then to another. -/
def sampleReconnect : List StackEvent :=
  [.connect 0 ⟨0x0A000003, 9090⟩ 100, .connect 1 ⟨0x0A000004, 9090⟩ 200]

/-- A segment from the first peer is handed to the connection with the second one. -/
theorem reconnect_leaves_route : ¬ ∀ (localAddress : UInt32) (events : List StackEvent),
    Always TcpStack.step TcpStack.RoutesConsistently (.new localAddress) events := by
  intro always
  have consistent := always 0x0A000002 sampleReconnect sampleReconnect (List.prefix_refl _)
  have stale : ∀ tcb ∈ (run TcpStack.step (.new 0x0A000002) sampleReconnect).registered
      ⟨0x0A000003, 9090⟩ ⟨0x0A000002, 49152⟩, tcb.dstAddress ≠ ⟨0x0A000003, 9090⟩ := by decide
  obtain ⟨tcb, bound⟩ : ∃ tcb, (run TcpStack.step (.new 0x0A000002) sampleReconnect).registered
      ⟨0x0A000003, 9090⟩ ⟨0x0A000002, 49152⟩ = some tcb := ⟨_, rfl⟩
  exact stale tcb bound (consistent.delivered _ _ tcb bound).1

end TinyCP
