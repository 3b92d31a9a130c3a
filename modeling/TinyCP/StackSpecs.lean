import TinyCP.TcpStack

/-!
# What the stack does with a segment

Carrying out an outcome changes the tables only as its effect says, and appends its
segments to what was written. From this follows the one fact about
`process_incoming_packet_` that the protocol proofs use: how the block registered for
a pair of addresses, if there is one, changes with a segment for that pair.
-/
namespace TinyCP
namespace TcpStack

/-- Writing segments logs them all, and queues the local ones for the stack itself. -/
theorem writePackets_eq (stack : TcpStack) (packets : List Segment) :
    packets.foldl writePacket stack =
      { stack with
        written := stack.written ++ packets
        loopbackPacketQueue := stack.loopbackPacketQueue ++ packets.filter stack.isLocal } := by
  induction packets generalizing stack with
  | nil => simp only [List.foldl_nil, List.append_nil, List.filter_nil]
  | cons packet packets ih =>
    have same : (stack.writePacket packet).isLocal = stack.isLocal := rfl
    simp only [List.foldl_cons, ih, same]
    cases here : stack.isLocal packet with
    | true => simp [writePacket, here]
    | false => simp [writePacket, here]

/-- Queueing an id touches nothing but the queue, and no other id in it. -/
theorem addDirtyTcb_eq (stack : TcpStack) (socketId : UInt64) :
    stack.addDirtyTcb socketId =
      { stack with
        dirtySocketIds := stack.dirtySocketIds ++
          List.replicate (stack.socketTable.contains socketId).toNat socketId } := by
  rw [addDirtyTcb]
  cases stack.socketTable.contains socketId with
  | true => rfl
  | false => simp

/-- The stack once the block is replaced, the segments are written and the id is queued. -/
def carriedOut (stack : TcpStack) (socketId : UInt64) (o : Outcome) : TcpStack :=
  let stack := o.out.foldl writePacket (stack.setTcb socketId o.tcb)
  if o.dirty then stack.addDirtyTcb socketId else stack

theorem carriedOut_eq (stack : TcpStack) (socketId : UInt64) (o : Outcome) :
    stack.carriedOut socketId o =
      { stack with
        socketTable := stack.socketTable.setSocket socketId o.tcb
        written := stack.written ++ o.out
        loopbackPacketQueue := stack.loopbackPacketQueue ++ o.out.filter stack.isLocal
        dirtySocketIds := stack.dirtySocketIds ++
          List.replicate (o.dirty && socketId != 0).toNat socketId } := by
  have found : (stack.socketTable.setSocket socketId o.tcb).contains socketId = (socketId != 0) := by
    by_cases none : socketId = 0
    · simp [none, SocketTable.contains]
    · simp [none, SocketTable.contains_eq_isSome]
  have same : (stack.setTcb socketId o.tcb).isLocal = stack.isLocal := rfl
  rw [carriedOut, writePackets_eq, addDirtyTcb_eq, same]
  cases o.dirty with
  | true => simp [setTcb, found]
  | false => simp [setTcb]

theorem perform_eq (stack : TcpStack) (socketId : UInt64) (o : Outcome) :
    stack.perform socketId o =
      let applied := (stack.carriedOut socketId o).applyEffect socketId o.tcb o.effect
      { applied with waiting := (o.waiting.map (socketId, ·)).or applied.waiting } := rfl

/-- An effect is one on the sockets and the connections. -/
theorem applyEffect_frame (stack : TcpStack) (socketId : UInt64) (tcb : TransmissionControlBlock)
    (effect : TableEffect) :
    stack.applyEffect socketId tcb effect =
      { stack with
        socketTable := (stack.applyEffect socketId tcb effect).socketTable
        connectionTable := (stack.applyEffect socketId tcb effect).connectionTable } := by
  cases effect with
  | none => rfl
  | destroyConnection remoteAddr localAddr => rfl
  | abort remoteAddr => rfl
  | pushAccepted =>
    rw [applyEffect]
    split <;> rfl

/-- Beside the two tables, an outcome writes its segments and queues its own id. -/
theorem perform_frame (stack : TcpStack) (socketId : UInt64) (o : Outcome) :
    stack.perform socketId o =
      { stack with
        socketTable := (stack.perform socketId o).socketTable
        connectionTable := (stack.perform socketId o).connectionTable
        written := stack.written ++ o.out
        loopbackPacketQueue := stack.loopbackPacketQueue ++ o.out.filter stack.isLocal
        dirtySocketIds := stack.dirtySocketIds ++
          List.replicate (o.dirty && socketId != 0).toNat socketId
        waiting := (o.waiting.map (socketId, ·)).or stack.waiting } := by
  rw [perform_eq]
  dsimp only
  rw [applyEffect_frame, carriedOut_eq]

/-- Without an effect only the block itself is replaced. -/
theorem perform_of_plain (stack : TcpStack) (socketId : UInt64) {o : Outcome}
    (plain : o.effect = .none) :
    (stack.perform socketId o).socketTable = stack.socketTable.setSocket socketId o.tcb ∧
    (stack.perform socketId o).connectionTable = stack.connectionTable := by
  rw [perform_eq, plain, carriedOut_eq]
  exact ⟨rfl, rfl⟩

/-- No effect adds an entry to the connection table. -/
theorem applyEffect_lookup {stack : TcpStack} {socketId id : UInt64}
    {tcb : TransmissionControlBlock} {effect : TableEffect} {key : ConnectionKey}
    (entry : (stack.applyEffect socketId tcb effect).connectionTable.connections.lookup key = some id) :
    stack.connectionTable.connections.lookup key = some id := by
  have erased : ∀ other : ConnectionKey,
      (stack.connectionTable.connections.erase other).lookup key = some id →
      stack.connectionTable.connections.lookup key = some id := by
    intro other entry
    by_cases same : key = other
    · rw [same, AList.lookup_erase] at entry
      cases entry
    · rwa [AList.lookup_erase_ne same] at entry
  cases effect with
  | none => exact entry
  | destroyConnection remoteAddr localAddr =>
    simp only [applyEffect, destroyConnection, ConnectionTable.destroyConnection] at entry
    split at entry
    · exact erased _ entry
    · exact entry
  | abort remoteAddr => exact erased _ entry
  | pushAccepted =>
    simp only [applyEffect] at entry
    split at entry
    · exact entry
    · exact entry

/-- A socket that is there after an effect was there before, and is the same but for
the accept queue of a listener. -/
theorem applyEffect_sockets {stack : TcpStack} {socketId id : UInt64}
    {tcb after : TransmissionControlBlock} {effect : TableEffect}
    (found : (stack.applyEffect socketId tcb effect).socketTable.sockets.lookup id = some after) :
    stack.socketTable.sockets.lookup id = some after ∨
    (id = stack.listenerTable.find stack.socketTable tcb.srcAddress.port ∧
      ∃ listener, stack.socketTable.sockets.lookup id = some listener ∧
        after = { listener with acceptQueue := listener.acceptQueue ++ [socketId] }) := by
  have destroyed : ∀ other,
      (stack.socketTable.destroySocket other).1.sockets.lookup id = some after →
      stack.socketTable.sockets.lookup id = some after := by
    intro other found
    rw [SocketTable.destroySocket] at found
    split_ifs at found
    · exact found
    · by_cases same : id = other
      · rw [same, AList.lookup_erase] at found
        cases found
      · rwa [AList.lookup_erase_ne same] at found
  cases effect with
  | none => exact Or.inl found
  | destroyConnection remoteAddr localAddr =>
    simp only [applyEffect, destroyConnection, ConnectionTable.destroyConnection] at found
    split at found
    · exact Or.inl (destroyed _ found)
    · exact Or.inl found
  | abort remoteAddr => exact Or.inl (destroyed _ found)
  | pushAccepted =>
    simp only [applyEffect] at found
    split at found
    · next listener hlistener =>
      obtain ⟨_, entry⟩ := SocketTable.findSocket_eq_some_iff.mp hlistener
      by_cases same : id = stack.listenerTable.find stack.socketTable tcb.srcAddress.port
      · rw [← same] at found entry
        rw [setTcb, SocketTable.setSocket, AList.lookup_insert, Option.some.injEq] at found
        exact Or.inr ⟨same, listener, entry, found.symm⟩
      · rw [setTcb, SocketTable.setSocket, AList.lookup_insert_ne same] at found
        exact Or.inl found
    · exact Or.inl found

theorem applyEffect_found {stack : TcpStack} {socketId id : UInt64}
    {tcb after : TransmissionControlBlock} {effect : TableEffect}
    (found : (stack.applyEffect socketId tcb effect).getTcb id = some after) :
    stack.getTcb id = some after ∨
    (id = stack.listenerTable.find stack.socketTable tcb.srcAddress.port ∧
      ∃ listener, stack.getTcb id = some listener ∧
        after = { listener with acceptQueue := listener.acceptQueue ++ [socketId] }) := by
  obtain ⟨real, entry⟩ := SocketTable.findSocket_eq_some_iff.mp found
  rcases applyEffect_sockets entry with same | ⟨listed, listener, before, pushed⟩
  · exact Or.inl (SocketTable.findSocket_eq_some_iff.mpr ⟨real, same⟩)
  · exact Or.inr ⟨listed, listener, SocketTable.findSocket_eq_some_iff.mpr ⟨real, before⟩, pushed⟩

theorem applyEffect_nextId (stack : TcpStack) (socketId : UInt64) (tcb : TransmissionControlBlock)
    (effect : TableEffect) :
    (stack.applyEffect socketId tcb effect).socketTable.nextId = stack.socketTable.nextId := by
  have destroyed : ∀ id, (stack.socketTable.destroySocket id).1.nextId = stack.socketTable.nextId := by
    intro id
    rw [SocketTable.destroySocket]
    split_ifs <;> rfl
  cases effect with
  | none => rfl
  | destroyConnection remoteAddr localAddr =>
    simp only [applyEffect, destroyConnection, ConnectionTable.destroyConnection]
    split
    · exact destroyed _
    · rfl
  | abort remoteAddr => exact destroyed _
  | pushAccepted =>
    rw [applyEffect]
    split <;> rfl

theorem perform_nextId (stack : TcpStack) (socketId : UInt64) (o : Outcome) :
    (stack.perform socketId o).socketTable.nextId = stack.socketTable.nextId := by
  rw [perform_eq]
  exact (applyEffect_nextId _ _ _ _).trans (by rw [carriedOut_eq]; rfl)

/-- The same block but for its accept queue. -/
def UpToQueue (before after : TransmissionControlBlock) : Prop :=
  after = { before with acceptQueue := after.acceptQueue }

theorem UpToQueue.refl (tcb : TransmissionControlBlock) : UpToQueue tcb tcb := rfl

/-- A block that is there after an outcome was carried out is the one of the outcome or
was there before, up to its accept queue. -/
theorem perform_block {stack : TcpStack} {socketId : UInt64} {tcb : TransmissionControlBlock}
    (there : socketId ≠ 0 → stack.getTcb socketId = some tcb) {o : Outcome} {id : UInt64}
    {after : TransmissionControlBlock} (found : (stack.perform socketId o).getTcb id = some after) :
    ∃ before, stack.getTcb id = some before ∧
      UpToQueue (if id = socketId then o.tcb else before) after := by
  have carried : ∀ block, (stack.carriedOut socketId o).getTcb id = some block →
      ∃ before, stack.getTcb id = some before ∧
        block = if id = socketId then o.tcb else before := by
    intro block found
    have real := SocketTable.ne_zero_of_findSocket found
    rw [getTcb, carriedOut_eq] at found
    by_cases same : id = socketId
    · rw [same] at real
      rw [same, SocketTable.findSocket_setSocket _ real, Option.some.injEq] at found
      exact ⟨tcb, by rw [same]; exact there real, by rw [if_pos same, found]⟩
    · rw [SocketTable.findSocket_setSocket_ne _ same] at found
      exact ⟨block, found, by rw [if_neg same]⟩
  rw [perform_eq] at found
  rcases applyEffect_found found with same | ⟨_, listener, same, pushed⟩
  · obtain ⟨before, old, block⟩ := carried after same
    exact ⟨before, old, by rw [← block]; exact .refl after⟩
  · obtain ⟨before, old, block⟩ := carried listener same
    exact ⟨before, old, by rw [← block, pushed]; rfl⟩

/-- The block to which segments between the two addresses are dispatched. -/
def registered (stack : TcpStack) (remoteAddr localAddr : IPv4Address) :
    Option TransmissionControlBlock :=
  stack.getTcb (stack.findConnectionsTcb remoteAddr localAddr)

theorem registered_eq_some {stack : TcpStack} {remoteAddr localAddr : IPv4Address}
    {tcb : TransmissionControlBlock} :
    stack.registered remoteAddr localAddr = some tcb ↔
      ∃ id, stack.connectionTable.connections.lookup ⟨remoteAddr, localAddr⟩ = some id ∧
        stack.getTcb id = some tcb := by
  constructor
  · intro bound
    have real := SocketTable.ne_zero_of_findSocket bound
    have entry := ((ConnectionTable.find_eq_iff real).mp rfl).1
    exact ⟨_, entry, bound⟩
  · rintro ⟨id, entry, bound⟩
    have live : stack.socketTable.contains id = true := SocketTable.contains_of_findSocket bound
    have found : stack.findConnectionsTcb remoteAddr localAddr = id :=
      (ConnectionTable.find_eq_iff (SocketTable.ne_zero_of_findSocket bound)).mpr ⟨entry, live⟩
    rw [registered, found]
    exact bound

theorem findConnectionsTcb_eq_zero {stack : TcpStack} {remoteAddr localAddr : IPv4Address}
    (unregistered : stack.registered remoteAddr localAddr = none) :
    stack.findConnectionsTcb remoteAddr localAddr = 0 := by
  by_contra real
  obtain ⟨_, live⟩ := (ConnectionTable.find_eq_iff real).mp rfl
  rw [SocketTable.contains_eq_false_iff.mpr unregistered] at live
  cases live

/-- The block of a passive open that answers this SYN. -/
def childOf (stack : TcpStack) (packet : Segment) (iss : UInt32) : TransmissionControlBlock :=
  openedBy { TransmissionControlBlock.new .synReceived packet.dst packet.src with
    id := stack.socketTable.nextId } packet iss

/-- Everything a segment can do to the connection between its two addresses. -/
inductive Dispatched (stack : TcpStack) (packet : Segment) (iss : UInt32) (next : TcpStack) :
    Prop where
  | opened (unregistered : stack.registered packet.src packet.dst = none)
      (syn : packet.syn = true) (noAck : packet.ack = false)
      (bound : next.registered packet.src packet.dst = some (stack.childOf packet iss))
      (written : next.written = stack.written ++
        [(stack.childOf packet iss).sendControlPacket true true false false iss
          (packet.seqNum + 1)])
  | refused (unregistered : stack.registered packet.src packet.dst = none)
      (still : next.registered packet.src packet.dst = none) (answers : List Segment)
      (reset : answers = handleClosedResetResponse packet ∨ answers = [])
      (written : next.written = stack.written ++ answers)
  | listening (tcb : TransmissionControlBlock)
      (bound : stack.registered packet.src packet.dst = some tcb)
      (state : tcb.currentState = .listen) (passive : next = stack.handlePassiveOpenSyn packet iss)
  | handled (tcb : TransmissionControlBlock)
      (bound : stack.registered packet.src packet.dst = some tcb)
      (state : tcb.currentState ≠ .listen)
      (after : ∀ block, next.registered packet.src packet.dst = some block →
        block = { (tcb.receive packet).tcb with acceptQueue := block.acceptQueue })
      (aborted : ∀ remoteAddr, (tcb.receive packet).effect = .abort remoteAddr →
        next.registered packet.src packet.dst = none)
      (written : next.written = stack.written ++ (tcb.receive packet).out)

/-- The stack with a new socket for the segment, before its block is filled in. -/
def withChild (stack : TcpStack) (packet : Segment) : TcpStack :=
  { stack with
    socketTable := (stack.socketTable.createSocket .synReceived packet.dst packet.src).1 }

/-- When the counter has wrapped, the block gets the id that no lookup accepts. -/
theorem handlePassiveOpenSyn_wrapped {stack : TcpStack} {packet : Segment} (iss : UInt32)
    (bareSyn : stack.listenerTable.find stack.socketTable packet.dst.port ≠ 0 ∧
      packet.syn ∧ !packet.ack) (wrapped : stack.socketTable.nextId = 0) :
    stack.handlePassiveOpenSyn packet iss = stack.withChild packet := by
  have lost : (stack.withChild packet).getTcb stack.socketTable.nextId = none := by
    rw [wrapped]
    rfl
  rw [handlePassiveOpenSyn, if_pos bareSyn]
  dsimp only [withChild, SocketTable.createSocket] at lost ⊢
  rw [lost]

theorem handlePassiveOpenSyn_eq {stack : TcpStack} {packet : Segment} (iss : UInt32)
    (bareSyn : stack.listenerTable.find stack.socketTable packet.dst.port ≠ 0 ∧
      packet.syn ∧ !packet.ack) (real : stack.socketTable.nextId ≠ 0) :
    stack.handlePassiveOpenSyn packet iss =
      ({ (stack.withChild packet).setTcb stack.socketTable.nextId (stack.childOf packet iss) with
        connectionTable := stack.connectionTable.insert packet.src packet.dst
          stack.socketTable.nextId }).writePacket
        ((stack.childOf packet iss).sendControlPacket true true false false iss
          (packet.seqNum + 1)) := by
  have created : (stack.withChild packet).getTcb stack.socketTable.nextId = some
      { TransmissionControlBlock.new .synReceived packet.dst packet.src with
        id := stack.socketTable.nextId } :=
    stack.socketTable.findSocket_createSocket .synReceived packet.dst packet.src real
  rw [handlePassiveOpenSyn, if_pos bareSyn]
  dsimp only [withChild, SocketTable.createSocket] at created ⊢
  rw [created]
  rfl

/-- A passive open takes an id, also where the counter has wrapped. -/
theorem handlePassiveOpenSyn_nextId {stack : TcpStack} {packet : Segment} (iss : UInt32)
    (bareSyn : stack.listenerTable.find stack.socketTable packet.dst.port ≠ 0 ∧
      packet.syn ∧ !packet.ack) :
    (stack.handlePassiveOpenSyn packet iss).socketTable.nextId = stack.socketTable.nextId + 1 := by
  by_cases wrapped : stack.socketTable.nextId = 0
  · rw [handlePassiveOpenSyn_wrapped iss bareSyn wrapped]
    rfl
  · rw [handlePassiveOpenSyn_eq iss bareSyn wrapped]
    rfl

theorem handlePassiveOpenSyn_nextId_ne {stack : TcpStack} {packet : Segment} (iss : UInt32)
    (bareSyn : stack.listenerTable.find stack.socketTable packet.dst.port ≠ 0 ∧
      packet.syn ∧ !packet.ack) :
    (stack.handlePassiveOpenSyn packet iss).socketTable.nextId ≠ stack.socketTable.nextId := by
  rw [handlePassiveOpenSyn_nextId iss bareSyn]
  grind

/-- A passive open touches no socket but the one that it creates. -/
theorem handlePassiveOpenSyn_others (stack : TcpStack) (packet : Segment) (iss : UInt32) :
    (stack.handlePassiveOpenSyn packet iss).dirtySocketIds = stack.dirtySocketIds ∧
    ∀ id, id ≠ stack.socketTable.nextId →
      (stack.handlePassiveOpenSyn packet iss).getTcb id = stack.getTcb id := by
  by_cases bareSyn : stack.listenerTable.find stack.socketTable packet.dst.port ≠ 0 ∧
      packet.syn ∧ !packet.ack
  · have created : ∀ id, id ≠ stack.socketTable.nextId →
        (stack.withChild packet).getTcb id = stack.getTcb id :=
      fun id differ => stack.socketTable.findSocket_createSocket_ne _ _ _ differ
    by_cases wrapped : stack.socketTable.nextId = 0
    · rw [handlePassiveOpenSyn_wrapped iss bareSyn wrapped]
      exact ⟨rfl, created⟩
    · rw [handlePassiveOpenSyn_eq iss bareSyn wrapped]
      refine ⟨rfl, fun id differ => ?_⟩
      exact (SocketTable.findSocket_setSocket_ne _ differ _).trans (created id differ)
  · rw [handlePassiveOpenSyn, if_neg bareSyn]
    exact ⟨rfl, fun _ _ => rfl⟩

theorem handlePassiveOpenSyn_dispatched {stack : TcpStack} {packet : Segment} (iss : UInt32)
    (unregistered : stack.registered packet.src packet.dst = none) :
    Dispatched stack packet iss (stack.handlePassiveOpenSyn packet iss) := by
  by_cases bareSyn : stack.listenerTable.find stack.socketTable packet.dst.port ≠ 0 ∧
      packet.syn ∧ !packet.ack
  · by_cases wrapped : stack.socketTable.nextId = 0
    · rw [handlePassiveOpenSyn_wrapped iss bareSyn wrapped]
      refine .refused unregistered ?_ [] (Or.inr rfl) (List.append_nil _).symm
      by_contra bound
      obtain ⟨tcb, bound⟩ := Option.ne_none_iff_exists'.mp bound
      obtain ⟨id, entry, socket⟩ := registered_eq_some.mp bound
      have differ : id ≠ stack.socketTable.nextId := by
        rw [wrapped]
        exact SocketTable.ne_zero_of_findSocket socket
      have before : stack.getTcb id = some tcb := by
        rw [← socket]
        exact (stack.socketTable.findSocket_createSocket_ne _ _ _ differ).symm
      have already : stack.registered packet.src packet.dst = some tcb :=
        registered_eq_some.mpr ⟨id, entry, before⟩
      rw [already] at unregistered
      cases unregistered
    · rw [handlePassiveOpenSyn_eq iss bareSyn wrapped]
      refine .opened unregistered bareSyn.2.1 (by simpa using bareSyn.2.2) ?_ rfl
      refine registered_eq_some.mpr ⟨stack.socketTable.nextId, AList.lookup_insert _, ?_⟩
      exact SocketTable.findSocket_setSocket _ wrapped _
  · rw [handlePassiveOpenSyn, if_neg bareSyn]
    exact .refused unregistered unregistered [] (Or.inr rfl) (List.append_nil _).symm

/-- A block still registered after an outcome was carried out is the one of that outcome. -/
theorem perform_getTcb {stack : TcpStack} {remoteAddr localAddr : IPv4Address} {o : Outcome}
    {block : TransmissionControlBlock}
    (live : stack.findConnectionsTcb remoteAddr localAddr ≠ 0)
    (bound : (stack.perform (stack.findConnectionsTcb remoteAddr localAddr) o).registered
      remoteAddr localAddr = some block) :
    ((stack.carriedOut (stack.findConnectionsTcb remoteAddr localAddr) o).applyEffect
      (stack.findConnectionsTcb remoteAddr localAddr) o.tcb o.effect).getTcb
      (stack.findConnectionsTcb remoteAddr localAddr) = some block := by
  obtain ⟨entry, _⟩ := (ConnectionTable.find_eq_iff live).mp rfl
  obtain ⟨id, entry', socket⟩ := registered_eq_some.mp bound
  rw [perform_eq] at entry' socket
  have same := applyEffect_lookup entry'
  rw [carriedOut_eq] at same
  obtain rfl : stack.findConnectionsTcb remoteAddr localAddr = id :=
    Option.some.inj (entry.symm.trans same)
  exact socket

theorem perform_registered {stack : TcpStack} {remoteAddr localAddr : IPv4Address} {o : Outcome}
    {block : TransmissionControlBlock}
    (live : stack.findConnectionsTcb remoteAddr localAddr ≠ 0)
    (bound : (stack.perform (stack.findConnectionsTcb remoteAddr localAddr) o).registered
      remoteAddr localAddr = some block) :
    block = { o.tcb with acceptQueue := block.acceptQueue } := by
  have carried : (stack.carriedOut (stack.findConnectionsTcb remoteAddr localAddr) o).getTcb
      (stack.findConnectionsTcb remoteAddr localAddr) = some o.tcb := by
    rw [getTcb, carriedOut_eq]
    exact SocketTable.findSocket_setSocket _ live _
  rcases applyEffect_found (perform_getTcb live bound) with same | ⟨_, listener, same, pushed⟩
  · rw [← Option.some.inj (carried.symm.trans same)]
  · rw [pushed, ← Option.some.inj (carried.symm.trans same)]

theorem perform_aborted {stack : TcpStack} {remoteAddr localAddr peer : IPv4Address} {o : Outcome}
    (live : stack.findConnectionsTcb remoteAddr localAddr ≠ 0) (effect : o.effect = .abort peer) :
    (stack.perform (stack.findConnectionsTcb remoteAddr localAddr) o).registered
      remoteAddr localAddr = none := by
  by_contra bound
  obtain ⟨block, bound⟩ := Option.ne_none_iff_exists'.mp bound
  have socket := perform_getTcb live bound
  rw [effect] at socket
  have gone := SocketTable.findSocket_destroySocket (stack.carriedOut
    (stack.findConnectionsTcb remoteAddr localAddr) o).socketTable
    (stack.findConnectionsTcb remoteAddr localAddr)
  exact absurd (gone.symm.trans socket) (by simp)

theorem processIncomingPacket_of_unregistered {stack : TcpStack} {packet : Segment}
    (unregistered : stack.registered packet.src packet.dst = none) (iss : UInt32) :
    stack.processIncomingPacket packet iss =
      if stack.listenerTable.find stack.socketTable packet.dst.port ≠ 0 ∧ packet.syn ∧ !packet.ack
      then stack.handlePassiveOpenSyn packet iss
      else (handleClosedResetResponse packet).foldl writePacket stack := by
  simp only [processIncomingPacket, findConnectionsTcb_eq_zero unregistered, if_true,
    ListenerTable.contains_iff]

theorem processIncomingPacket_of_listening {stack : TcpStack} {packet : Segment}
    {tcb : TransmissionControlBlock} (bound : stack.registered packet.src packet.dst = some tcb)
    (state : tcb.currentState = .listen) (iss : UInt32) :
    stack.processIncomingPacket packet iss = stack.handlePassiveOpenSyn packet iss := by
  have live := SocketTable.ne_zero_of_findSocket bound
  rw [registered] at bound
  simp only [processIncomingPacket, live, if_false, bound, state, if_true]

theorem processIncomingPacket_of_bound {stack : TcpStack} {packet : Segment}
    {tcb : TransmissionControlBlock} (bound : stack.registered packet.src packet.dst = some tcb)
    (state : tcb.currentState ≠ .listen) (iss : UInt32) :
    stack.processIncomingPacket packet iss =
      stack.perform (stack.findConnectionsTcb packet.src packet.dst) (tcb.receive packet) := by
  have live := SocketTable.ne_zero_of_findSocket bound
  rw [registered] at bound
  simp only [processIncomingPacket, live, if_false, bound, state]

theorem processIncomingPacket_dispatched (stack : TcpStack) (packet : Segment) (iss : UInt32) :
    Dispatched stack packet iss (stack.processIncomingPacket packet iss) := by
  cases bound : stack.registered packet.src packet.dst with
  | none =>
    rw [processIncomingPacket_of_unregistered bound]
    split_ifs
    · exact handlePassiveOpenSyn_dispatched iss bound
    · rw [writePackets_eq]
      exact .refused bound bound _ (Or.inl rfl) rfl
  | some tcb =>
    have live : stack.findConnectionsTcb packet.src packet.dst ≠ 0 :=
      SocketTable.ne_zero_of_findSocket bound
    by_cases state : tcb.currentState = .listen
    · exact .listening tcb bound state (processIncomingPacket_of_listening bound state iss)
    · rw [processIncomingPacket_of_bound bound state]
      exact .handled tcb bound state (fun block => perform_registered live)
        (fun remoteAddr => perform_aborted live)
        (congrArg written (perform_frame stack _ _))

/-- Both stacks have the same counter, blocks and entries. The association lists may
differ in their order. -/
structure SameTables (before after : TcpStack) : Prop where
  nextId : after.socketTable.nextId = before.socketTable.nextId
  sockets : ∀ id, after.socketTable.sockets.lookup id = before.socketTable.sockets.lookup id
  listeners : ∀ port,
    after.listenerTable.listeners.lookup port = before.listenerTable.listeners.lookup port
  connections : ∀ key,
    after.connectionTable.connections.lookup key = before.connectionTable.connections.lookup key

/-- A refused segment is answered, and nothing else. -/
theorem writePackets_sameTables (stack : TcpStack) (packets : List Segment) :
    SameTables stack (packets.foldl writePacket stack) := by
  rw [writePackets_eq]
  exact ⟨rfl, fun _ => rfl, fun _ => rfl, fun _ => rfl⟩

end TcpStack
end TinyCP
