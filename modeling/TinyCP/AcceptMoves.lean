import TinyCP.Routing

/-!
# What a step does to the accept queues

For the accept queues a block is its state, its local port and its queue. Everything
that `bind`, `listen`, `accept`, `connect` and an incoming segment can do to these is
said once. The queue that a completed handshake ends up in is found by the local port
of the block, whoever has opened it.
-/
namespace TinyCP
open EventRun

/-- What the accept queues depend on in a block. -/
structure Slot where
  state : TcpState
  port : UInt16
  queue : List UInt64
  deriving DecidableEq

def TransmissionControlBlock.slot (tcb : TransmissionControlBlock) : Slot where
  state := tcb.currentState
  port := tcb.srcAddress.port
  queue := tcb.acceptQueue

/-- The calls that open connections, and the segments that complete them. -/
inductive OpenEvent where
  | bind (addr : IPv4Address) (iss : UInt32)
  | listen (socketId : UInt64)
  | accept (socketId : UInt64)
  | connect (socketId : UInt64) (addr : IPv4Address) (iss : UInt32)
  | incoming (packet : Segment) (iss : UInt32)

def OpenEvent.call : OpenEvent → StackEvent
  | .bind addr iss => .bind addr iss
  | .listen socketId => .listen socketId
  | .accept socketId => .accept socketId
  | .connect socketId addr iss => .connect socketId addr iss
  | .incoming packet iss => .incoming packet iss

/-- A passive open: the new socket, and the listener and the port it was opened on. -/
structure PassiveChild where
  id : UInt64
  listener : UInt64
  port : UInt16
  deriving DecidableEq

/-- What one step adds to the records of a run. -/
structure Noted where
  bound : List (UInt64 × UInt16) := []
  dialled : List UInt64 := []
  opened : List PassiveChild := []
  taken : List (UInt64 × UInt64) := []

namespace SocketTable
open Function

def slot (t : SocketTable) (id : UInt64) : Option Slot :=
  (t.findSocket id).map (·.slot)

theorem slot_eq_some {t : SocketTable} {id : UInt64} {slot : Slot} :
    t.slot id = some slot ↔ ∃ tcb, t.findSocket id = some tcb ∧ tcb.slot = slot :=
  Option.map_eq_some_iff

theorem slot_of_findSocket {t : SocketTable} {id : UInt64} {tcb : TransmissionControlBlock}
    (there : t.findSocket id = some tcb) : t.slot id = some tcb.slot := by
  rw [slot, there]
  rfl

theorem slot_setSocket (t : SocketTable) {id : UInt64} (real : id ≠ 0)
    (tcb : TransmissionControlBlock) :
    (t.setSocket id tcb).slot = update t.slot id (some tcb.slot) := by
  funext other
  by_cases same : other = id
  · rw [same, slot, findSocket_setSocket _ real, update_self]
    rfl
  · rw [slot, findSocket_setSocket_ne _ same, update_of_ne same]
    rfl

theorem slot_destroySocket (t : SocketTable) (id : UInt64) :
    (t.destroySocket id).1.slot = update t.slot id none := by
  funext other
  by_cases same : other = id
  · rw [same, slot, findSocket_destroySocket, update_self]
    rfl
  · rw [slot, findSocket_destroySocket_ne _ same, update_of_ne same]
    rfl

theorem slot_createSocket (t : SocketTable) (real : t.nextId ≠ 0) (state : TcpState)
    (src dst : IPv4Address) : (t.createSocket state src dst).1.slot =
      update t.slot t.nextId (some ⟨state, src.port, []⟩) := by
  funext other
  by_cases same : other = t.nextId
  · rw [same, slot, findSocket_createSocket _ _ _ _ real, update_self]
    rfl
  · rw [slot, findSocket_createSocket_ne _ _ _ _ same, update_of_ne same]
    rfl

end SocketTable

namespace TcpStack
open Function

def slot (stack : TcpStack) : UInt64 → Option Slot := stack.socketTable.slot

theorem slot_of_getTcb {stack : TcpStack} {id : UInt64} {tcb : TransmissionControlBlock}
    (there : stack.getTcb id = some tcb) : stack.slot id = some tcb.slot :=
  SocketTable.slot_of_findSocket there

/-- A handler writes its block back. -/
theorem carriedOut_slot (stack : TcpStack) {id : UInt64} (real : id ≠ 0) (o : Outcome) :
    (stack.carriedOut id o).slot = update stack.slot id (some o.tcb.slot) := by
  rw [carriedOut_eq]
  exact stack.socketTable.slot_setSocket real o.tcb

theorem perform_plain_slot (stack : TcpStack) {id : UInt64} (real : id ≠ 0) {o : Outcome}
    (plain : o.effect = .none) :
    (stack.perform id o).slot = update stack.slot id (some o.tcb.slot) := by
  rw [slot, (stack.perform_of_plain id plain).1]
  exact stack.socketTable.slot_setSocket real o.tcb

theorem perform_abort_slot (stack : TcpStack) {id : UInt64} (real : id ≠ 0) {o : Outcome}
    {remoteAddr : IPv4Address} (effect : o.effect = .abort remoteAddr) :
    (stack.perform id o).slot = update stack.slot id none := by
  have sockets : (stack.perform id o).socketTable =
      ((stack.carriedOut id o).socketTable.destroySocket id).1 := by
    rw [perform_eq, effect]
    rfl
  have carried := stack.carriedOut_slot real o
  rw [slot] at carried
  rw [slot, sockets, SocketTable.slot_destroySocket, carried, update_idem]

/-- The slots once `id` is pushed on the queue of `listener`, if it is there. -/
def pushOn (slots : UInt64 → Option Slot) (listener id : UInt64) : UInt64 → Option Slot :=
  match slots listener with
  | some slot => update slots listener (some { slot with queue := slot.queue ++ [id] })
  | none => slots

/-- What the end of the handshake of `id` makes of a slot. -/
def settle (listener id other : UInt64) (slot : Slot) : Slot where
  state := if other = id then .established else slot.state
  port := slot.port
  queue := if other = listener then slot.queue ++ [id] else slot.queue

theorem pushOn_established {slots : UInt64 → Option Slot} {id : UInt64} {old : Slot}
    (there : slots id = some old) (listener : UInt64) :
    pushOn (update slots id (some { old with state := .established })) listener id =
      fun other => (slots other).map (settle listener id other) := by
  have ended : update slots id (some { old with state := .established }) = fun other =>
      (slots other).map fun slot =>
        { slot with state := if other = id then .established else slot.state } := by
    funext other
    by_cases same : other = id
    · rw [same, update_self, there]
      simp
    · rw [update_of_ne same]
      cases slots other <;> simp [same]
  rw [ended, pushOn]
  cases listed : slots listener with
  | none =>
    funext other
    by_cases same : other = listener
    · simp [same, listed]
    · cases found : slots other <;> simp [found, settle, same]
  | some slot =>
    funext other
    by_cases same : other = listener
    · simp [same, listed, settle]
    · cases found : slots other <;> simp [found, settle, same]

theorem perform_push_slot {stack : TcpStack} {id : UInt64} {tcb : TransmissionControlBlock}
    (there : stack.getTcb id = some tcb) {o : Outcome} (effect : o.effect = .pushAccepted)
    (port : o.tcb.srcAddress.port = tcb.srcAddress.port) :
    (stack.perform id o).slot = pushOn (update stack.slot id (some o.tcb.slot))
      (stack.listenerTable.find stack.socketTable tcb.srcAddress.port) id := by
  have real := SocketTable.ne_zero_of_findSocket there
  have carried := stack.carriedOut_slot real o
  have live : ∀ other, (stack.socketTable.setSocket id o.tcb).contains other =
      stack.socketTable.contains other := by
    intro other
    rw [SocketTable.contains_eq_isSome, SocketTable.contains_eq_isSome]
    by_cases same : other = id
    · rw [same, SocketTable.findSocket_setSocket _ real, ← getTcb, there]
      rfl
    · rw [SocketTable.findSocket_setSocket_ne _ same]
  have found : (stack.carriedOut id o).listenerTable.find (stack.carriedOut id o).socketTable
      o.tcb.srcAddress.port = stack.listenerTable.find stack.socketTable tcb.srcAddress.port := by
    rw [carriedOut_eq, port, ListenerTable.find, ListenerTable.find]
    simp only [live]
  have sockets : (stack.perform id o).slot =
      ((stack.carriedOut id o).applyEffect id o.tcb .pushAccepted).slot := by
    rw [perform_eq, effect]
    rfl
  rw [sockets, applyEffect, found, ← carried]
  generalize stack.listenerTable.find stack.socketTable tcb.srcAddress.port = listenerId
  cases listed : (stack.carriedOut id o).getTcb listenerId with
  | none =>
    have absent : (stack.carriedOut id o).slot listenerId = none := by
      rw [slot, SocketTable.slot, ← getTcb, listed]
      rfl
    rw [pushOn, absent]
  | some listener =>
    rw [pushOn, slot_of_getTcb listed]
    exact SocketTable.slot_setSocket _ (SocketTable.ne_zero_of_findSocket listed)
      { listener with acceptQueue := listener.acceptQueue ++ [id] }

/-- The id and the port of a `bind`, the ids that `connect` and `accept` return, and the
socket of a passive open. -/
def noted (stack : TcpStack) : OpenEvent → Noted
  | .bind addr iss =>
    { bound := [((TcpSocket.bind stack addr iss).2, (stack.completeAddress addr).2.port)] }
  | .listen _ => {}
  | .accept socketId =>
    match TcpSocket.accept stack socketId with
    | some (_, childId) => if childId = 0 then {} else { taken := [(socketId, childId)] }
    | none => {}
  | .connect socketId addr iss => { dialled := [(TcpSocket.connect stack socketId addr iss).2] }
  | .incoming packet iss =>
    if (stack.step (.incoming packet iss)).socketTable.nextId = stack.socketTable.nextId then {}
    else
      { opened := [⟨stack.socketTable.nextId,
          stack.listenerTable.find stack.socketTable packet.dst.port, packet.dst.port⟩] }

def listenerAt (stack : TcpStack) (port : UInt16) : Option UInt64 :=
  stack.listenerTable.listeners.lookup port

/-- The segment completes the handshake of the block with this id. -/
structure Completing (stack : TcpStack) (event : OpenEvent) (id : UInt64)
    (tcb : TransmissionControlBlock) : Prop where
  arrives : ∃ packet iss, event = .incoming packet iss ∧
    stack.findConnectionsTcb packet.src packet.dst = id ∧ packet.rst = false ∧ packet.ack = true ∧
    packet.ackNum = tcb.snd.nxt
  idle : stack.waiting = none
  block : stack.getTcb id = some tcb
  state : tcb.currentState = .synReceived

/-- Neither the ports nor the counter for ids have changed. -/
structure SameBooks (stack after : TcpStack) : Prop where
  listeners : after.listenerAt = stack.listenerAt
  nextId : after.socketTable.nextId = stack.socketTable.nextId

/-- The stack has given out the next id, for this slot. -/
structure Issued (stack after : TcpStack) (slot : Slot) : Prop where
  real : stack.socketTable.nextId ≠ 0
  slots : after.slot = update stack.slot stack.socketTable.nextId (some slot)
  nextId : after.socketTable.nextId = stack.socketTable.nextId + 1

/-- The handshake of a block ends, and its id goes into the queue that its port leads to. -/
structure Settled (stack : TcpStack) (event : OpenEvent) (after : TcpStack) (id : UInt64)
    (tcb : TransmissionControlBlock) : Prop where
  completing : Completing stack event id tcb
  slots : ∀ other, after.slot other = (stack.slot other).map
    (settle (stack.listenerTable.find stack.socketTable tcb.srcAddress.port) id other)
  books : SameBooks stack after

/-- Everything else that an event can do to the slots. -/
inductive OpenMove (stack : TcpStack) (event : OpenEvent) (after : TcpStack) (notes : Noted) :
    Prop where
  | idle (slots : after.slot = stack.slot) (books : SameBooks stack after) (nothing : notes = {})
  | binds (port : UInt16) (issued : Issued stack after ⟨.closed, port, []⟩)
      (listeners : after.listenerAt = update stack.listenerAt port (some stack.socketTable.nextId))
      (noted : notes = { bound := [(stack.socketTable.nextId, port)] })
  | listens (id : UInt64) (slot : Slot) (there : stack.slot id = some slot)
      (closed : slot.state = .closed)
      (slots : after.slot = update stack.slot id (some { slot with state := .listen }))
      (books : SameBooks stack after) (nothing : notes = {})
  | takes (listener id : UInt64) (rest : List UInt64) (slot : Slot)
      (there : stack.slot listener = some slot) (queue : slot.queue = id :: rest)
      (slots : after.slot = update stack.slot listener (some { slot with queue := rest }))
      (books : SameBooks stack after)
      (noted : notes = if id = 0 then {} else { taken := [(listener, id)] })
  | redials (id : UInt64) (addr : IPv4Address) (iss : UInt32) (port : UInt16) (slot : Slot)
      (called : event = .connect id addr iss) (there : stack.slot id = some slot)
      (slots : after.slot = update stack.slot id (some ⟨.synSent, port, slot.queue⟩))
      (books : SameBooks stack after) (noted : notes = { dialled := [id] })
  | dials (port : UInt16) (issued : Issued stack after ⟨.synSent, port, []⟩)
      (listeners : after.listenerAt = stack.listenerAt)
      (noted : notes = { dialled := [stack.socketTable.nextId] })
  | opens (port : UInt16) (issued : Issued stack after ⟨.synReceived, port, []⟩)
      (listeners : after.listenerAt = stack.listenerAt)
      (noted : notes = { opened := [⟨stack.socketTable.nextId,
        stack.listenerTable.find stack.socketTable port, port⟩] })
  | moves (id : UInt64) (slot : Slot) (state : TcpState) (there : stack.slot id = some slot)
      (away : slot.state ≠ .synReceived) (sent : state = .synSent → slot.state = .synSent)
      (received : state = .synReceived → slot.state = .synSent) (quiet : ¬ IsTearingDown state)
      (slots : after.slot = update stack.slot id (some { slot with state := state }))
      (books : SameBooks stack after) (nothing : notes = {})
  | aborts (id : UInt64) (slot : Slot) (there : stack.slot id = some slot)
      (slots : after.slot = update stack.slot id none) (books : SameBooks stack after)
      (nothing : notes = {})

/-- A socket that is written to right after it was created. -/
theorem Issued.of_created {stack next : TcpStack} (real : stack.socketTable.nextId ≠ 0)
    {state : TcpState} {src dst : IPv4Address} (tcb : TransmissionControlBlock) {slot : Slot}
    (same : tcb.slot = slot) (sockets : next.socketTable =
      (stack.socketTable.createSocket state src dst).1.setSocket stack.socketTable.nextId tcb) :
    Issued stack next slot := by
  refine ⟨real, ?_, ?_⟩
  · rw [TcpStack.slot, sockets, SocketTable.slot_setSocket _ real,
      SocketTable.slot_createSocket _ real, update_idem, same]
    rfl
  · rw [sockets]
    rfl

theorem bind_openMove (stack : TcpStack) (real : stack.socketTable.nextId ≠ 0) (addr : IPv4Address)
    (iss : UInt32) : OpenMove stack (.bind addr iss) (stack.step (.bind addr iss))
      (stack.noted (.bind addr iss)) := by
  obtain ⟨sockets, _, listeners⟩ := stack.completeAddress_tables addr
  let created := { TransmissionControlBlock.new .closed (stack.completeAddress addr).2 ⟨0, 0⟩ with
    id := stack.socketTable.nextId }
  have found : (stack.socketTable.createSocket .closed (stack.completeAddress addr).2).1.findSocket
      stack.socketTable.nextId = some created :=
    stack.socketTable.findSocket_createSocket .closed _ _ real
  have id : (stack.socketTable.createSocket .closed (stack.completeAddress addr).2).2 =
    stack.socketTable.nextId := rfl
  simp only [step, noted, TcpSocket.bind, bindSocket, ListenerTable.bindNew, getTcb, sockets,
    listeners, id, found]
  refine .binds (stack.completeAddress addr).2.port (.of_created real
    { created with snd := { created.snd with iss := iss, nxt := iss } } rfl rfl) ?_ rfl
  funext port
  by_cases same : port = (stack.completeAddress addr).2.port
  · rw [same, update_self]
    exact AList.lookup_insert _
  · rw [update_of_ne same]
    exact AList.lookup_insert_ne same

theorem listen_openMove (stack : TcpStack) (socketId : UInt64) :
    OpenMove stack (.listen socketId) (stack.step (.listen socketId)) (stack.noted (.listen socketId)) := by
  change OpenMove stack _ (TcpSocket.listen stack socketId) {}
  rw [TcpSocket.listen]
  cases there : stack.getTcb socketId with
  | none => exact .idle rfl ⟨rfl, rfl⟩ rfl
  | some tcb =>
    dsimp only
    split_ifs with closed
    · exact .idle rfl ⟨rfl, rfl⟩ rfl
    · refine .listens socketId tcb.slot (slot_of_getTcb there) (not_not.mp closed) ?_ ⟨rfl, rfl⟩ rfl
      exact stack.socketTable.slot_setSocket (SocketTable.ne_zero_of_findSocket there)
        { tcb with currentState := .listen }

theorem accept_openMove (stack : TcpStack) (socketId : UInt64) :
    OpenMove stack (.accept socketId) (stack.step (.accept socketId)) (stack.noted (.accept socketId)) := by
  simp only [step, noted, TcpSocket.accept]
  cases there : stack.getTcb socketId with
  | none => exact .idle rfl ⟨rfl, rfl⟩ rfl
  | some tcb =>
    dsimp only
    split_ifs with listening
    · exact .idle rfl ⟨rfl, rfl⟩ rfl
    · cases queue : tcb.acceptQueue with
      | nil => exact .idle rfl ⟨rfl, rfl⟩ rfl
      | cons childId rest =>
        refine .takes socketId childId rest tcb.slot (slot_of_getTcb there) queue ?_ ⟨rfl, rfl⟩ rfl
        exact stack.socketTable.slot_setSocket (SocketTable.ne_zero_of_findSocket there)
          { tcb with acceptQueue := rest }

theorem connect_openMove (stack : TcpStack) (real : stack.socketTable.nextId ≠ 0)
    (socketId : UInt64) (addr : IPv4Address) (iss : UInt32) :
    OpenMove stack (.connect socketId addr iss) (stack.step (.connect socketId addr iss))
      (stack.noted (.connect socketId addr iss)) := by
  simp only [step, noted, TcpSocket.connect, registerConnection, ConnectionTable.registerConnection]
  cases there : stack.getTcb socketId with
  | none =>
    dsimp only
    obtain ⟨sockets, _, listeners⟩ := stack.completeAddress_tables ⟨0, 0⟩
    have unknown : stack.socketTable.findSocket socketId = none := there
    let created := { TransmissionControlBlock.new .closed (stack.completeAddress ⟨0, 0⟩).2 addr with
      id := stack.socketTable.nextId }
    have found : (stack.socketTable.createSocket .closed
        (stack.completeAddress ⟨0, 0⟩).2 addr).1.findSocket stack.socketTable.nextId =
          some created :=
      stack.socketTable.findSocket_createSocket .closed _ _ real
    have id : (stack.socketTable.createSocket .closed (stack.completeAddress ⟨0, 0⟩).2 addr).2 =
      stack.socketTable.nextId := rfl
    simp only [sockets, unknown, id, getTcb, found, addDirtyTcb_eq]
    refine .dials (stack.completeAddress ⟨0, 0⟩).2.port
      (.of_created real (created.connect iss) rfl rfl) ?_ rfl
    exact congrArg (fun table port => table.listeners.lookup port) listeners
  | some tcb =>
    dsimp only
    obtain ⟨sockets, _, listeners⟩ := stack.completeAddress_tables tcb.srcAddress
    have known : stack.socketTable.findSocket socketId = some tcb := there
    have live := SocketTable.ne_zero_of_findSocket there
    let placed := { tcb with
      srcAddress := (stack.completeAddress tcb.srcAddress).2
      dstAddress := addr }
    simp only [sockets, known, getTcb, SocketTable.findSocket_setSocket _ live, addDirtyTcb_eq]
    refine .redials socketId addr iss (stack.completeAddress tcb.srcAddress).2.port tcb.slot rfl
      (slot_of_getTcb there) ?_ ⟨?_, rfl⟩ rfl
    · change ((stack.socketTable.setSocket socketId placed).setSocket socketId
        (placed.connect iss)).slot = _
      rw [SocketTable.slot_setSocket _ live, SocketTable.slot_setSocket _ live, update_idem]
      rfl
    · exact congrArg (fun table port => table.listeners.lookup port) listeners

/-- In no state but SYN_RECEIVED does a segment have an effect on the tables, until a side
closes. -/
theorem receive_elsewhere {tcb : TransmissionControlBlock} (packet : Segment)
    (quiet : ¬ IsTearingDown tcb.currentState) (away : tcb.currentState ≠ .synReceived) :
    (tcb.receive packet).effect = .none ∧
    ¬ IsTearingDown (tcb.receive packet).tcb.currentState ∧
    ((tcb.receive packet).tcb.currentState = .synSent → tcb.currentState = .synSent) ∧
    ((tcb.receive packet).tcb.currentState = .synReceived → tcb.currentState = .synSent) := by
  cases state : tcb.currentState with
  | synReceived => exact absurd state away
  | finWait1 | finWait2 | closing | lastAck =>
    rw [state] at quiet
    simp [IsTearingDown] at quiet
  | synSent =>
    simp only [TransmissionControlBlock.receive, state, TransmissionControlBlock.handleSynSentState]
    split_ifs <;> simp [TransmissionControlBlock.setState, IsTearingDown, state]
  | established =>
    simp only [TransmissionControlBlock.receive, state]
    cases fin : packet.fin with
    | true =>
      simp only [TransmissionControlBlock.handleEstablishedState, fin, if_true,
        TransmissionControlBlock.receiveFin]
      split_ifs <;> simp [TransmissionControlBlock.setState, IsTearingDown]
    | false =>
      have same := (tcb.handleEstablishedState_sendSide fin).2.2.1
      rw [same, state]
      refine ⟨?_, by simp [IsTearingDown], by simp, by simp⟩
      rcases tcb.handleEstablishedState_cases fin with ⟨_, done⟩ | ⟨_, _, done⟩ | ⟨_, _, done⟩
      all_goals rw [done]
  | closed | listen | closeWait | timeWait =>
    simp [TransmissionControlBlock.receive, state, IsTearingDown]

/-- The handlers write the new state into the slot, and nothing else. -/
theorem receive_slot (tcb : TransmissionControlBlock) (packet : Segment) :
    (tcb.receive packet).tcb.slot =
      { tcb.slot with state := (tcb.receive packet).tcb.currentState } := by
  obtain ⟨key, queue⟩ := tcb.receive_keeps packet
  have src : (tcb.receive packet).tcb.srcAddress = tcb.srcAddress :=
    congrArg ConnectionKey.dstAddress key
  rw [TransmissionControlBlock.slot, src, queue]
  rfl

theorem perform_sameBooks (stack : TcpStack) (id : UInt64) (o : Outcome) :
    SameBooks stack (stack.perform id o) := by
  refine ⟨?_, stack.perform_nextId id o⟩
  rw [perform_frame]
  rfl

/-- A segment that ends the handshake is entered, and nothing is noted for it. -/
theorem Completing.settled {stack : TcpStack} {event : OpenEvent} {id : UInt64}
    {tcb : TransmissionControlBlock} (h : Completing stack event id tcb) :
    stack.noted event = {} ∧ Settled stack event (stack.step event.call) id tcb := by
  have completing := h
  obtain ⟨⟨packet, iss, rfl, rfl, rst, hack, acked⟩, idle, block, state⟩ := h
  have away : tcb.currentState ≠ .listen := by
    rw [state]
    exact TcpState.noConfusion
  have stepped : stack.step (.incoming packet iss) =
      stack.perform (stack.findConnectionsTcb packet.src packet.dst) (tcb.receive packet) := by
    simp only [step, daemon, idle, Option.isSome_none, Bool.false_eq_true, if_false]
    exact processIncomingPacket_of_bound block away iss
  have done : (tcb.receive packet).effect = .pushAccepted ∧
      (tcb.receive packet).tcb.currentState = .established ∧
      (tcb.receive packet).tcb.srcAddress = tcb.srcAddress := by
    simp [TransmissionControlBlock.receive, state, TransmissionControlBlock.handleSynReceivedState,
      rst, hack, acked]
  obtain ⟨effect, established, src⟩ := done
  have slots := perform_push_slot block effect (congrArg IPv4Address.port src)
  rw [receive_slot, established, pushOn_established (slot_of_getTcb block)] at slots
  constructor
  · rw [noted, stepped]
    exact if_pos (stack.perform_nextId _ _)
  · change Settled stack _ (stack.step (.incoming packet iss)) _ tcb
    rw [stepped]
    exact ⟨completing, congrFun slots, stack.perform_sameBooks _ _⟩

/-- What a segment does to the slot of the block that it is handed to. -/
theorem receive_openMove {stack : TcpStack} {event : OpenEvent} {packet : Segment} {iss : UInt32}
    {tcb : TransmissionControlBlock} (arrives : event = .incoming packet iss)
    (idle : stack.waiting = none)
    (bound : stack.registered packet.src packet.dst = some tcb)
    (quiet : ¬ IsTearingDown tcb.currentState) :
    OpenMove stack event (stack.perform (stack.findConnectionsTcb packet.src packet.dst)
      (tcb.receive packet)) {} ∨
    Completing stack event (stack.findConnectionsTcb packet.src packet.dst) tcb := by
  have real : stack.findConnectionsTcb packet.src packet.dst ≠ 0 :=
    SocketTable.ne_zero_of_findSocket bound
  have there := slot_of_getTcb bound
  have books := stack.perform_sameBooks (stack.findConnectionsTcb packet.src packet.dst)
    (tcb.receive packet)
  by_cases away : tcb.currentState ≠ .synReceived
  · obtain ⟨plain, still, sent, received⟩ := receive_elsewhere packet quiet away
    have slots := stack.perform_plain_slot real plain
    rw [receive_slot] at slots
    exact Or.inl (.moves _ tcb.slot _ there away sent received still slots books rfl)
  · have state := not_not.mp away
    have handled : tcb.receive packet = tcb.handleSynReceivedState packet := by
      rw [TransmissionControlBlock.receive, state]
    rw [handled] at books ⊢
    cases rst : packet.rst with
    | true =>
      have effect : (tcb.handleSynReceivedState packet).effect = .abort packet.src := by
        rw [TransmissionControlBlock.handleSynReceivedState, if_pos rst]
      exact Or.inl (.aborts _ tcb.slot there (stack.perform_abort_slot real effect) books rfl)
    | false =>
      by_cases acked : packet.ack = true ∧ packet.ackNum = tcb.snd.nxt
      · exact Or.inr ⟨⟨packet, iss, arrives, rfl, rst, acked.1, acked.2⟩, idle, bound, state⟩
      · have same : tcb.handleSynReceivedState packet = { tcb := tcb } := by
          simp only [TransmissionControlBlock.handleSynReceivedState, rst]
          cases hack : packet.ack with
          | false => rfl
          | true =>
            have other : packet.ackNum ≠ tcb.snd.nxt := fun same => acked ⟨hack, same⟩
            simp [other]
        rw [same] at books ⊢
        refine Or.inl (.idle ?_ books rfl)
        rw [stack.perform_plain_slot real rfl]
        exact update_eq_self_iff.mpr there.symm

theorem passiveOpen_openMove {stack : TcpStack} {event : OpenEvent} {packet : Segment} (iss : UInt32)
    (real : stack.socketTable.nextId ≠ 0) :
    OpenMove stack event (stack.handlePassiveOpenSyn packet iss)
      (if (stack.handlePassiveOpenSyn packet iss).socketTable.nextId = stack.socketTable.nextId then {}
      else
        { opened := [⟨stack.socketTable.nextId,
            stack.listenerTable.find stack.socketTable packet.dst.port, packet.dst.port⟩] }) := by
  by_cases bareSyn : stack.listenerTable.find stack.socketTable packet.dst.port ≠ 0 ∧
      packet.syn ∧ !packet.ack
  · rw [if_neg (handlePassiveOpenSyn_nextId_ne iss bareSyn), handlePassiveOpenSyn_eq iss bareSyn real]
    exact .opens packet.dst.port (.of_created real (stack.childOf packet iss) rfl rfl) rfl rfl
  · rw [handlePassiveOpenSyn, if_neg bareSyn, if_pos rfl]
    exact .idle rfl ⟨rfl, rfl⟩ rfl

theorem incoming_openMove {stack : TcpStack} (real : stack.socketTable.nextId ≠ 0)
    (quiet : ∀ id slot, stack.slot id = some slot → ¬ IsTearingDown slot.state) (packet : Segment)
    (iss : UInt32) :
    OpenMove stack (.incoming packet iss) (stack.step (.incoming packet iss))
      (stack.noted (.incoming packet iss)) ∨
    ∃ id tcb, Completing stack (.incoming packet iss) id tcb := by
  simp only [noted, step, daemon]
  by_cases blocked : stack.waiting.isSome = true
  · rw [if_pos blocked, if_pos rfl]
    exact Or.inl (.idle rfl ⟨rfl, rfl⟩ rfl)
  · rw [if_neg blocked]
    have idle := Option.not_isSome_iff_eq_none.mp blocked
    cases bound : stack.registered packet.src packet.dst with
    | none =>
      rw [processIncomingPacket_of_unregistered bound]
      by_cases opens : stack.listenerTable.find stack.socketTable packet.dst.port ≠ 0 ∧
          packet.syn ∧ !packet.ack
      · rw [if_pos opens]
        exact Or.inl (passiveOpen_openMove iss real)
      · rw [if_neg opens, writePackets_eq, if_pos rfl]
        exact Or.inl (.idle rfl ⟨rfl, rfl⟩ rfl)
    | some tcb =>
      by_cases listen : tcb.currentState = .listen
      · rw [processIncomingPacket_of_listening bound listen]
        exact Or.inl (passiveOpen_openMove iss real)
      · rw [processIncomingPacket_of_bound bound listen, if_pos (stack.perform_nextId _ _)]
        rcases receive_openMove rfl idle bound (quiet _ _ (slot_of_getTcb bound)) with move | ends
        · exact Or.inl move
        · exact Or.inr ⟨_, tcb, ends⟩

/-- Everything that a step can do, until a side closes and while ids are left. -/
theorem step_openMove {stack : TcpStack} (real : stack.socketTable.nextId ≠ 0)
    (quiet : ∀ id slot, stack.slot id = some slot → ¬ IsTearingDown slot.state)
    (event : OpenEvent) : OpenMove stack event (stack.step event.call) (stack.noted event) ∨
      ∃ id tcb, Completing stack event id tcb := by
  cases event with
  | bind addr iss => exact Or.inl (bind_openMove stack real addr iss)
  | listen socketId => exact Or.inl (listen_openMove stack socketId)
  | accept socketId => exact Or.inl (accept_openMove stack socketId)
  | connect socketId addr iss => exact Or.inl (connect_openMove stack real socketId addr iss)
  | incoming packet iss => exact incoming_openMove real quiet packet iss

end TcpStack
end TinyCP
