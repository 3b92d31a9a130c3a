import TinyCP.SocketRemoval
import TinyCP.PassiveOpen

/-!
# Segments with RST

Three branches of the dispatch test the RST flag. Everywhere else a segment with RST is
handled by its other flags and its payload, so whether it is met by silence and removes
its connection depends on the state of the connection and on these.
-/
namespace TinyCP
open EventRun

/-- No segment in response, no new socket, and no byte appended to a receive buffer or
left to be appended. -/
structure ResetContained (stack next : TcpStack) : Prop where
  silent : next.written = stack.written
  counter : next.socketTable.nextId = stack.socketTable.nextId
  noSocket : ∀ id, stack.getTcb id = none → next.getTcb id = none
  noPending : next.waiting = stack.waiting
  noByte : ∀ id before after, stack.getTcb id = some before → next.getTcb id = some after →
    after.recvBuffer.contents = before.recvBuffer.contents

/-- The connection is gone from both tables or CLOSED, and no other one has changed. -/
structure Resets (stack next : TcpStack) (packet : Segment) (socketId : UInt64) : Prop where
  gone : (next.socketTable.contains socketId = false ∧
      next.connectionTable.connections.lookup ⟨packet.src, packet.dst⟩ = none) ∨
    ∃ tcb, next.getTcb socketId = some tcb ∧ tcb.currentState = .closed
  sockets : ∀ other, other ≠ socketId → next.getTcb other = stack.getTcb other
  connections : ∀ remoteAddr localAddr, stack.findConnectionsTcb remoteAddr localAddr ≠ socketId →
    next.findConnectionsTcb remoteAddr localAddr = stack.findConnectionsTcb remoteAddr localAddr

/-- The states of a connection that a RST at the expected number is to remove. -/
def IsSynchronized : TcpState → Prop
  | .synReceived | .established | .finWait1 | .finWait2 | .closeWait | .closing | .lastAck => True
  | _ => False

structure HandlesReset (stack next : TcpStack) (packet : Segment) : Prop where
  contained : ResetContained stack next
  resets : ∀ tcb, stack.registered packet.src packet.dst = some tcb →
    IsSynchronized tcb.currentState → packet.seqNum = tcb.rcv.nxt →
    Resets stack next packet (stack.findConnectionsTcb packet.src packet.dst)

/-- A segment that the passive open takes for a connection request. -/
def TakenForSyn (stack : TcpStack) (packet : Segment) : Prop :=
  stack.listenerTable.find stack.socketTable packet.dst.port ≠ 0 ∧ packet.syn ∧ !packet.ack

/-- A segment with RST that the handler of a state does not answer. -/
def NotAnswered (packet : Segment) : TcpState → Prop
  | .established => packet.fin = false ∧ packet.payload = []
  | .finWait1 | .finWait2 => packet.fin = false
  | _ => True

/-- A segment with RST that removes the connection of the block it is handed to, or
whose block is not to be removed. -/
def Removing (stack : TcpStack) (packet : Segment) (tcb : TransmissionControlBlock) : Prop :=
  match tcb.currentState with
  | .established | .finWait1 | .finWait2 | .closeWait => False
  | .synReceived => tcb.srcAddress = packet.dst
  | .closing | .lastAck => packet.ack = true ∧ packet.ackNum = tcb.snd.nxt ∧
      (stack.findConnectionsTcb tcb.srcAddress tcb.dstAddress = 0 ∨
        (tcb.srcAddress = packet.src ∧ tcb.dstAddress = packet.dst))
  | _ => True

/-- The segments with RST that are handled as a reset, by the state before. -/
def ResetRespected (stack : TcpStack) (packet : Segment) : Prop :=
  match stack.registered packet.src packet.dst with
  | none => ¬ TakenForSyn stack packet
  | some tcb =>
    if tcb.currentState = .listen then ¬ TakenForSyn stack packet
    else NotAnswered packet tcb.currentState ∧
      (packet.seqNum = tcb.rcv.nxt → Removing stack packet tcb)

namespace TcpStack

/-- A block that is there after an outcome was carried out was there before, with the
receive buffer it has now unless it is the block of the outcome. -/
theorem perform_found {stack : TcpStack} {socketId : UInt64} {tcb : TransmissionControlBlock}
    (there : stack.getTcb socketId = some tcb) {o : Outcome} {id : UInt64}
    {after : TransmissionControlBlock} (found : (stack.perform socketId o).getTcb id = some after) :
    ∃ before, stack.getTcb id = some before ∧
      after.recvBuffer = if id = socketId then o.tcb.recvBuffer else before.recvBuffer := by
  obtain ⟨before, old, block⟩ := perform_block (fun _ => there) found
  refine ⟨before, old, ?_⟩
  rw [block]
  split_ifs <;> rfl

/-- An outcome that sends nothing, waits for nothing and keeps the receive buffer is
contained, whatever it asks of the tables. -/
theorem perform_contained {stack : TcpStack} {socketId : UInt64} {tcb : TransmissionControlBlock}
    (there : stack.getTcb socketId = some tcb) {o : Outcome} (silent : o.out = [])
    (awake : o.waiting = none) (buffer : o.tcb.recvBuffer = tcb.recvBuffer) :
    ResetContained stack (stack.perform socketId o) := by
  have frame := stack.perform_frame socketId o
  rw [silent, awake] at frame
  refine ⟨?_, ?_, ?_, ?_, ?_⟩
  · rw [frame]
    exact List.append_nil _
  · exact stack.perform_nextId socketId o
  · intro id absent
    by_contra present
    obtain ⟨after, found⟩ := Option.ne_none_iff_exists'.mp present
    obtain ⟨before, old, _⟩ := perform_found there found
    rw [absent] at old
    cases old
  · rw [frame]
    rfl
  · intro id before after old found
    obtain ⟨block, same, kept⟩ := perform_found there found
    rw [old, Option.some.injEq] at same
    rw [kept, same]
    split_ifs with own
    · rw [buffer]
      rw [own, there, Option.some.injEq] at old
      rw [old, same]
    · rfl

/-- Conversely, an answer or a pending write is seen from outside. -/
theorem not_contained {stack : TcpStack} {socketId : UInt64} {o : Outcome}
    (idle : stack.waiting = none)
    (contained : ResetContained stack (stack.perform socketId o)) :
    o.out = [] ∧ o.waiting = none := by
  have frame := stack.perform_frame socketId o
  have written := contained.silent
  have pending := contained.noPending
  rw [frame] at written pending
  refine ⟨List.append_right_eq_self.mp written, ?_⟩
  rw [idle, Option.or_none, Option.map_eq_none_iff] at pending
  exact pending

/-- A passive open creates a socket, so a segment is contained exactly when it is not
taken for a SYN. -/
theorem handlePassiveOpenSyn_contained (stack : TcpStack) (packet : Segment) (iss : UInt32) :
    ResetContained stack (stack.handlePassiveOpenSyn packet iss) ↔ ¬ TakenForSyn stack packet := by
  constructor
  · intro contained taken
    exact handlePassiveOpenSyn_nextId_ne iss taken contained.counter
  · intro ordinary
    have same : stack.handlePassiveOpenSyn packet iss = stack := if_neg ordinary
    rw [same]
    exact ⟨rfl, rfl, fun _ absent => absent, rfl,
      fun id before after old found => by rw [Option.some.inj (old.symm.trans found)]⟩

end TcpStack

namespace TransmissionControlBlock

/-- A handler that sends nothing and waits for nothing has not touched the receive buffer. -/
theorem receive_recvBuffer {tcb : TransmissionControlBlock} {packet : Segment}
    (silent : (tcb.receive packet).out = []) (awake : (tcb.receive packet).waiting = none) :
    (tcb.receive packet).tcb.recvBuffer = tcb.recvBuffer := by
  cases state : tcb.currentState with
  | synSent =>
    simp only [receive, state, handleSynSentState] at silent ⊢
    split_ifs <;> rfl
  | synReceived =>
    simp only [receive, state, handleSynReceivedState] at silent ⊢
    split_ifs <;> rfl
  | established =>
    simp only [receive, state] at silent awake ⊢
    cases fin : packet.fin with
    | true => simp [handleEstablishedState, fin, receiveFin] at silent
    | false =>
      rcases tcb.handleEstablishedState_cases fin with ⟨_, done⟩ | ⟨_, _, done⟩ | ⟨_, _, done⟩
      · rw [done]
        exact tcb.afterAck_recvBuffer packet
      · rw [done] at silent
        cases silent
      · rw [done] at awake
        cases awake
  | finWait1 =>
    simp only [receive, state, handleFinWait1State] at silent ⊢
    split_ifs <;> rfl
  | finWait2 =>
    simp only [receive, state, handleFinWait2State] at silent ⊢
    split_ifs <;> rfl
  | closing =>
    simp only [receive, state, handleClosingState, awaitFinalAck] at silent ⊢
    split_ifs <;> rfl
  | lastAck =>
    simp only [receive, state, handleLastAckState, awaitFinalAck] at silent ⊢
    split_ifs <;> rfl
  | _ => simp [receive, state]

/-- Which segments with RST a handler leaves unanswered. -/
theorem receive_silent_iff {tcb : TransmissionControlBlock} {packet : Segment}
    (rst : packet.rst = true) :
    (tcb.receive packet).out = [] ∧ (tcb.receive packet).waiting = none ↔
      NotAnswered packet tcb.currentState := by
  cases state : tcb.currentState with
  | closed => simp [receive, state, handleClosedResetResponse, rst, NotAnswered]
  | synSent =>
    simp only [receive, state, handleSynSentState, rst, if_true, NotAnswered]
    split_ifs <;> simp
  | synReceived => simp [receive, state, handleSynReceivedState, rst, NotAnswered]
  | established =>
    simp only [receive, state, NotAnswered]
    cases fin : packet.fin with
    | true => simp [handleEstablishedState, fin, receiveFin]
    | false =>
      rcases tcb.handleEstablishedState_cases fin with
        ⟨nothing, done⟩ | ⟨some, _, done⟩ | ⟨some, _, done⟩
      · simp [done, nothing]
      · simp [done, some]
      · simp [done, some]
  | finWait1 =>
    simp only [receive, state, handleFinWait1State, NotAnswered]
    split_ifs with _ fin fin <;> simp [fin, closedBy]
  | finWait2 =>
    simp only [receive, state, handleFinWait2State, NotAnswered]
    split_ifs with fin <;> simp [fin, closedBy]
  | closing =>
    simp only [receive, state, handleClosingState, awaitFinalAck, NotAnswered]
    split_ifs <;> simp [closedBy]
  | lastAck =>
    simp only [receive, state, handleLastAckState, awaitFinalAck, NotAnswered]
    split_ifs <;> simp [closedBy]
  | _ => simp [receive, state, NotAnswered]

/-- In these states a segment without FIN leaves the connection where it is. -/
theorem receive_stays {tcb : TransmissionControlBlock} {packet : Segment}
    (state : tcb.currentState = .established ∨ tcb.currentState = .finWait1 ∨
      tcb.currentState = .finWait2 ∨ tcb.currentState = .closeWait)
    (noFin : packet.fin = false) :
    (tcb.receive packet).effect = .none ∧ (tcb.receive packet).tcb.currentState ≠ .closed := by
  rcases state with state | state | state | state
  · simp only [receive, state]
    have kept := (tcb.handleEstablishedState_sendSide noFin).2.2.1
    refine ⟨?_, by rw [kept, state]; decide⟩
    rcases tcb.handleEstablishedState_cases noFin with ⟨_, done⟩ | ⟨_, _, done⟩ | ⟨_, _, done⟩ <;>
      rw [done]
  · simp only [receive, state, handleFinWait1State, noFin, Bool.false_eq_true, if_false]
    split_ifs <;> simp [setState, state]
  · simp [receive, state, handleFinWait2State, noFin]
  · simp [receive, state]

end TransmissionControlBlock

/-- A lookup that does not lead to one socket is the same when only that one changes. -/
theorem ConnectionTable.find_eq_of_others {t after : ConnectionTable}
    {sockets kept : SocketTable} {id : UInt64} (live : sockets.contains id = true)
    (others : ∀ other, other ≠ id → kept.findSocket other = sockets.findSocket other)
    {remoteAddr localAddr : IPv4Address}
    (entry : after.connections.lookup ⟨remoteAddr, localAddr⟩ =
      t.connections.lookup ⟨remoteAddr, localAddr⟩)
    (foreign : t.find sockets remoteAddr localAddr ≠ id) :
    after.find kept remoteAddr localAddr = t.find sockets remoteAddr localAddr := by
  rw [find, find, entry]
  rw [find] at foreign
  cases found : t.connections.lookup ⟨remoteAddr, localAddr⟩ with
  | none => rfl
  | some other =>
    have differ : other ≠ id := by
      rintro rfl
      rw [found] at foreign
      exact foreign (if_pos live)
    simp only [SocketTable.contains_eq_isSome, others other differ]

namespace TcpStack

/-- A connection that is still there and not CLOSED has not been reset. -/
theorem not_resets_of_plain {stack : TcpStack} {packet : Segment} {socketId : UInt64} {o : Outcome}
    (real : socketId ≠ 0) (plain : o.effect = .none) (opened : o.tcb.currentState ≠ .closed) :
    ¬ Resets stack (stack.perform socketId o) packet socketId := by
  intro resets
  have kept : (stack.perform socketId o).getTcb socketId = some o.tcb := by
    rw [getTcb, (stack.perform_of_plain socketId plain).1]
    exact SocketTable.findSocket_setSocket _ real _
  rcases resets.gone with ⟨gone, _⟩ | ⟨tcb, found, closed⟩
  · rw [SocketTable.contains_of_findSocket kept] at gone
    cases gone
  · rw [kept, Option.some.injEq] at found
    rw [found] at opened
    exact opened closed

/-- A segment is handed to the block with this id. -/
structure HandedTo (stack : TcpStack) (packet : Segment) (socketId : UInt64)
    (tcb : TransmissionControlBlock) : Prop where
  entry : stack.connectionTable.connections.lookup ⟨packet.src, packet.dst⟩ = some socketId
  found : stack.getTcb socketId = some tcb

namespace HandedTo
variable {stack : TcpStack} {packet : Segment} {socketId : UInt64} {tcb : TransmissionControlBlock}

theorem real (h : HandedTo stack packet socketId tcb) : socketId ≠ 0 :=
  SocketTable.ne_zero_of_findSocket h.found

theorem live (h : HandedTo stack packet socketId tcb) :
    stack.socketTable.contains socketId = true := SocketTable.contains_of_findSocket h.found

theorem registered_eq (h : HandedTo stack packet socketId tcb) :
    stack.registered packet.src packet.dst = some tcb :=
  registered_eq_some.mpr ⟨socketId, h.entry, h.found⟩

theorem find_eq (h : HandedTo stack packet socketId tcb) :
    stack.findConnectionsTcb packet.src packet.dst = socketId :=
  (ConnectionTable.find_eq_iff h.real).mpr ⟨h.entry, h.live⟩

/-- The block and the entry of the segment's pair are gone. -/
theorem resets_of_removed (h : HandedTo stack packet socketId tcb) {next : TcpStack}
    (gone : next.getTcb socketId = none)
    (others : ∀ other, other ≠ socketId → next.getTcb other = stack.getTcb other)
    (connections : next.connectionTable.connections =
      stack.connectionTable.connections.erase ⟨packet.src, packet.dst⟩) :
    Resets stack next packet socketId := by
  refine ⟨Or.inl ⟨SocketTable.contains_eq_false_iff.mpr gone, ?_⟩, others, ?_⟩
  · rw [connections]
    exact AList.lookup_erase _ _
  · intro remoteAddr localAddr foreign
    refine ConnectionTable.find_eq_of_others h.live others ?_ foreign
    have key : (⟨remoteAddr, localAddr⟩ : ConnectionKey) ≠ ⟨packet.src, packet.dst⟩ := by
      intro own
      obtain ⟨rfl, rfl⟩ := ConnectionKey.mk.inj own
      exact foreign h.find_eq
    rw [connections]
    exact AList.lookup_erase_ne key

/-- The block is gone, but the entry of the segment's pair is not. -/
theorem not_resets_of_entry {next : TcpStack} (gone : next.getTcb socketId = none)
    (entry : next.connectionTable.connections.lookup ⟨packet.src, packet.dst⟩ = some socketId) :
    ¬ Resets stack next packet socketId := by
  intro resets
  rcases resets.gone with ⟨_, erased⟩ | ⟨block, found, _⟩
  · rw [entry] at erased
    cases erased
  · rw [gone] at found
    cases found

/-- The abort of SYN_RECEIVED erases the entry under the block's own local address. -/
theorem resets_of_abort (h : HandedTo stack packet socketId tcb) {o : Outcome}
    (effect : o.effect = .abort packet.src) (address : o.tcb.srcAddress = tcb.srcAddress) :
    Resets stack (stack.perform socketId o) packet socketId ↔ tcb.srcAddress = packet.dst := by
  have sockets : (stack.perform socketId o).socketTable =
      ((stack.socketTable.setSocket socketId o.tcb).destroySocket socketId).1 := by
    rw [perform_eq, effect, carriedOut_eq]
    rfl
  have connections : (stack.perform socketId o).connectionTable.connections =
      stack.connectionTable.connections.erase ⟨packet.src, tcb.srcAddress⟩ := by
    rw [perform_eq, effect, carriedOut_eq, ← address]
    rfl
  have gone : (stack.perform socketId o).getTcb socketId = none := by
    rw [getTcb, sockets]
    exact SocketTable.findSocket_destroySocket _ _
  constructor
  · intro resets
    by_contra differ
    have key : (⟨packet.src, packet.dst⟩ : ConnectionKey) ≠ ⟨packet.src, tcb.srcAddress⟩ :=
      fun same => differ (congrArg ConnectionKey.dstAddress same).symm
    refine not_resets_of_entry gone ?_ resets
    rw [connections, AList.lookup_erase_ne key, h.entry]
  · intro same
    rw [same] at connections
    refine h.resets_of_removed gone ?_ connections
    intro other differ
    rw [getTcb, sockets]
    exact (SocketTable.findSocket_destroySocket_ne _ differ).trans
      (SocketTable.findSocket_setSocket_ne _ differ _)

/-- What the destruction of the entry of the swapped pair leaves, where there is one. -/
structure Destroyed (stack next : TcpStack) (socketId : UInt64) (tcb after : TransmissionControlBlock)
    (other : UInt64) : Prop where
  gone : next.getTcb other = none
  own : socketId ≠ other → next.getTcb socketId = some after
  others : ∀ id, id ≠ socketId → id ≠ other → next.getTcb id = stack.getTcb id
  connections : next.connectionTable.connections =
    stack.connectionTable.connections.erase ⟨tcb.srcAddress, tcb.dstAddress⟩

theorem destroyed_of_entry (h : HandedTo stack packet socketId tcb) {o : Outcome}
    (effect : o.effect = .destroyConnection tcb.srcAddress tcb.dstAddress) {other : UInt64}
    (entry : stack.connectionTable.connections.lookup ⟨tcb.srcAddress, tcb.dstAddress⟩ =
      some other) :
    Destroyed stack (stack.perform socketId o) socketId tcb o.tcb other := by
  obtain ⟨connections, sockets⟩ := stack.perform_destroyConnection socketId effect
  rw [ConnectionTable.destroyConnection, entry] at connections sockets
  have after : ∀ id, id ≠ other → (stack.perform socketId o).getTcb id =
      (stack.socketTable.setSocket socketId o.tcb).findSocket id := by
    intro id differ
    rw [getTcb, sockets]
    exact SocketTable.findSocket_destroySocket_ne _ differ
  refine ⟨?_, ?_, ?_, congrArg ConnectionTable.connections connections⟩
  · rw [getTcb, sockets]
    exact SocketTable.findSocket_destroySocket _ _
  · intro differ
    exact (after socketId differ).trans (SocketTable.findSocket_setSocket _ h.real _)
  · intro id foreign differ
    exact (after id differ).trans (SocketTable.findSocket_setSocket_ne _ foreign _)

/-- The entry of the swapped pair leads to a live socket, which is destroyed. -/
theorem resets_of_live_entry (h : HandedTo stack packet socketId tcb) {next : TcpStack}
    {after : TransmissionControlBlock} {other : UInt64}
    (destroyed : Destroyed stack next socketId tcb after other)
    (entry : stack.connectionTable.connections.lookup ⟨tcb.srcAddress, tcb.dstAddress⟩ =
      some other) (live : stack.socketTable.contains other = true) :
    Resets stack next packet socketId ↔
      tcb.srcAddress = packet.src ∧ tcb.dstAddress = packet.dst := by
  constructor
  · intro resets
    by_contra differ
    have key : (⟨packet.src, packet.dst⟩ : ConnectionKey) ≠ ⟨tcb.srcAddress, tcb.dstAddress⟩ := by
      intro same
      obtain ⟨src, dst⟩ := ConnectionKey.mk.inj same
      exact differ ⟨src.symm, dst.symm⟩
    by_cases same : other = socketId
    · have gone := destroyed.gone
      rw [same] at gone
      refine not_resets_of_entry gone ?_ resets
      rw [destroyed.connections, AList.lookup_erase_ne key, h.entry]
    · have stays := (resets.sockets other same).symm.trans destroyed.gone
      rw [SocketTable.contains_eq_false_iff.mpr stays] at live
      cases live
  · rintro ⟨src, dst⟩
    have same : other = socketId := by
      rw [src, dst, h.entry, Option.some.injEq] at entry
      exact entry.symm
    subst same
    refine h.resets_of_removed destroyed.gone (fun id differ => destroyed.others id differ differ) ?_
    rw [destroyed.connections, src, dst]

/-- It leads to a socket that is no longer there; only the block itself is left CLOSED. -/
theorem resets_of_dead_entry (h : HandedTo stack packet socketId tcb) {next : TcpStack}
    {after : TransmissionControlBlock} {other : UInt64}
    (destroyed : Destroyed stack next socketId tcb after other) (closed : after.currentState = .closed)
    (zero : stack.findConnectionsTcb tcb.srcAddress tcb.dstAddress = 0)
    (dead : stack.socketTable.contains other = false) : Resets stack next packet socketId := by
  have differ : socketId ≠ other := by
    rintro rfl
    rw [h.live] at dead
    cases dead
  have others : ∀ id, id ≠ socketId → next.getTcb id = stack.getTcb id := by
    intro id foreign
    by_cases same : id = other
    · rw [same, destroyed.gone]
      exact (SocketTable.contains_eq_false_iff.mp dead).symm
    · exact destroyed.others id foreign same
  refine ⟨Or.inr ⟨after, destroyed.own differ, closed⟩, others, ?_⟩
  intro remoteAddr localAddr foreign
  by_cases same : (⟨remoteAddr, localAddr⟩ : ConnectionKey) = ⟨tcb.srcAddress, tcb.dstAddress⟩
  · obtain ⟨rfl, rfl⟩ := ConnectionKey.mk.inj same
    have erased : next.connectionTable.connections.lookup ⟨tcb.srcAddress, tcb.dstAddress⟩ =
        none := by
      rw [destroyed.connections]
      exact AList.lookup_erase _ _
    rw [zero, findConnectionsTcb, ConnectionTable.find, erased]
  · refine ConnectionTable.find_eq_of_others h.live others ?_ foreign
    rw [destroyed.connections]
    exact AList.lookup_erase_ne same

/-- There is no such entry, and the block is left CLOSED. -/
theorem resets_of_no_entry (h : HandedTo stack packet socketId tcb) {o : Outcome}
    (effect : o.effect = .destroyConnection tcb.srcAddress tcb.dstAddress)
    (closed : o.tcb.currentState = .closed)
    (missing : stack.connectionTable.connections.lookup ⟨tcb.srcAddress, tcb.dstAddress⟩ = none) :
    Resets stack (stack.perform socketId o) packet socketId := by
  obtain ⟨connections, sockets⟩ := stack.perform_destroyConnection socketId effect
  rw [ConnectionTable.destroyConnection, missing] at connections sockets
  have others : ∀ other, other ≠ socketId →
      (stack.perform socketId o).getTcb other = stack.getTcb other := by
    intro other differ
    rw [getTcb, sockets]
    exact SocketTable.findSocket_setSocket_ne _ differ _
  refine ⟨Or.inr ⟨o.tcb, ?_, closed⟩, others, ?_⟩
  · rw [getTcb, sockets]
    exact SocketTable.findSocket_setSocket _ h.real _
  · intro remoteAddr localAddr foreign
    exact ConnectionTable.find_eq_of_others h.live others (by rw [connections]) foreign

/-- The end of CLOSING and LAST_ACK destroys what the swapped pair leads to. -/
theorem resets_of_destroy (h : HandedTo stack packet socketId tcb) {o : Outcome}
    (effect : o.effect = .destroyConnection tcb.srcAddress tcb.dstAddress)
    (closed : o.tcb.currentState = .closed) :
    Resets stack (stack.perform socketId o) packet socketId ↔
      stack.findConnectionsTcb tcb.srcAddress tcb.dstAddress = 0 ∨
      (tcb.srcAddress = packet.src ∧ tcb.dstAddress = packet.dst) := by
  cases entry : stack.connectionTable.connections.lookup ⟨tcb.srcAddress, tcb.dstAddress⟩ with
  | none =>
    have zero : stack.findConnectionsTcb tcb.srcAddress tcb.dstAddress = 0 := by
      rw [findConnectionsTcb, ConnectionTable.find, entry]
    exact iff_of_true (h.resets_of_no_entry effect closed entry) (Or.inl zero)
  | some other =>
    have destroyed := h.destroyed_of_entry effect entry
    cases live : stack.socketTable.contains other with
    | true =>
      have real : other ≠ 0 := by
        rintro rfl
        cases live
      have found : stack.findConnectionsTcb tcb.srcAddress tcb.dstAddress = other :=
        (ConnectionTable.find_eq_iff real).mpr ⟨entry, live⟩
      rw [found, or_iff_right real]
      exact h.resets_of_live_entry destroyed entry live
    | false =>
      have zero : stack.findConnectionsTcb tcb.srcAddress tcb.dstAddress = 0 := by
        simp only [findConnectionsTcb, ConnectionTable.find, entry, live, Bool.false_eq_true,
          if_false]
      exact iff_of_true (h.resets_of_dead_entry destroyed closed zero live) (Or.inl zero)

/-- CLOSING and LAST_ACK end with the acknowledgment of the FIN, whether it has RST or not. -/
theorem resets_of_awaitFinalAck (h : HandedTo stack packet socketId tcb)
    (state : tcb.currentState ≠ .closed) :
    Resets stack (stack.perform socketId (tcb.awaitFinalAck packet)) packet socketId ↔
      packet.ack = true ∧ packet.ackNum = tcb.snd.nxt ∧
      (stack.findConnectionsTcb tcb.srcAddress tcb.dstAddress = 0 ∨
        (tcb.srcAddress = packet.src ∧ tcb.dstAddress = packet.dst)) := by
  by_cases acked : packet.ack = true ∧ packet.ackNum = tcb.snd.nxt
  · rw [TransmissionControlBlock.awaitFinalAck, if_pos acked, ← and_assoc, and_iff_right acked]
    exact h.resets_of_destroy rfl rfl
  · rw [TransmissionControlBlock.awaitFinalAck, if_neg acked, ← and_assoc]
    exact iff_of_false (not_resets_of_plain h.real rfl state) (fun both => acked both.1)

/-- Which segments with RST, at the expected number, remove the connection. -/
theorem resets_iff (h : HandedTo stack packet socketId tcb) (rst : packet.rst = true)
    (quiet : NotAnswered packet tcb.currentState) (synchronized : IsSynchronized tcb.currentState) :
    Resets stack (stack.perform socketId (tcb.receive packet)) packet socketId ↔
      Removing stack packet tcb := by
  have stays : tcb.currentState = .established ∨ tcb.currentState = .finWait1 ∨
      tcb.currentState = .finWait2 ∨ tcb.currentState = .closeWait → packet.fin = false ∨
      tcb.currentState = .closeWait → ¬ Resets stack (stack.perform socketId (tcb.receive packet))
        packet socketId := by
    intro state noFin
    have kept : (tcb.receive packet).effect = .none ∧
        (tcb.receive packet).tcb.currentState ≠ .closed := by
      rcases noFin with noFin | closeWait
      · exact TransmissionControlBlock.receive_stays state noFin
      · simp [TransmissionControlBlock.receive, closeWait]
    exact not_resets_of_plain h.real kept.1 kept.2
  rw [Removing]
  cases state : tcb.currentState with
  | established =>
    rw [state] at quiet
    exact iff_of_false (stays (Or.inl state) (Or.inl quiet.1)) not_false
  | finWait1 =>
    rw [state] at quiet
    exact iff_of_false (stays (Or.inr (Or.inl state)) (Or.inl quiet)) not_false
  | finWait2 =>
    rw [state] at quiet
    exact iff_of_false (stays (Or.inr (Or.inr (Or.inl state))) (Or.inl quiet)) not_false
  | closeWait =>
    exact iff_of_false (stays (Or.inr (Or.inr (Or.inr state))) (Or.inr state)) not_false
  | synReceived =>
    have aborts : tcb.receive packet =
        { tcb := tcb.setState .closed, effect := .abort packet.src } := by
      simp [TransmissionControlBlock.receive, state,
        TransmissionControlBlock.handleSynReceivedState, rst]
    rw [aborts]
    exact h.resets_of_abort rfl rfl
  | closing =>
    have ends : tcb.receive packet = tcb.awaitFinalAck packet := by
      rw [TransmissionControlBlock.receive, state]
      rfl
    rw [ends]
    exact h.resets_of_awaitFinalAck (by rw [state]; decide)
  | lastAck =>
    have ends : tcb.receive packet = tcb.awaitFinalAck packet := by
      rw [TransmissionControlBlock.receive, state]
      rfl
    rw [ends]
    exact h.resets_of_awaitFinalAck (by rw [state]; decide)
  | closed => rw [state] at synchronized; exact absurd synchronized not_false
  | listen => rw [state] at synchronized; exact absurd synchronized not_false
  | synSent => rw [state] at synchronized; exact absurd synchronized not_false
  | timeWait => rw [state] at synchronized; exact absurd synchronized not_false

/-- The two parts of handling a reset, for a segment that is handed to a block. -/
theorem handlesReset_of_handed (h : HandedTo stack packet socketId tcb) (rst : packet.rst = true)
    (idle : stack.waiting = none) :
    HandlesReset stack (stack.perform socketId (tcb.receive packet)) packet ↔
      NotAnswered packet tcb.currentState ∧
      (packet.seqNum = tcb.rcv.nxt → Removing stack packet tcb) := by
  have others : ¬ IsSynchronized tcb.currentState → Removing stack packet tcb := by
    intro unsynchronized
    rw [Removing]
    cases state : tcb.currentState <;> rw [state] at unsynchronized <;>
      first | trivial | exact absurd trivial unsynchronized
  constructor
  · intro handles
    have quiet := (TransmissionControlBlock.receive_silent_iff rst).mp
      (not_contained idle handles.contained)
    refine ⟨quiet, fun expected => ?_⟩
    by_cases synchronized : IsSynchronized tcb.currentState
    · have resets := handles.resets tcb h.registered_eq synchronized expected
      rw [h.find_eq] at resets
      exact (h.resets_iff rst quiet synchronized).mp resets
    · exact others synchronized
  · rintro ⟨quiet, removing⟩
    obtain ⟨silent, awake⟩ := (TransmissionControlBlock.receive_silent_iff rst).mpr quiet
    refine ⟨perform_contained h.found silent awake
      (TransmissionControlBlock.receive_recvBuffer silent awake), ?_⟩
    intro block found synchronized expected
    rw [h.registered_eq, Option.some.injEq] at found
    rw [← found] at synchronized expected
    rw [h.find_eq]
    exact (h.resets_iff rst quiet synchronized).mpr (removing expected)

end HandedTo
end TcpStack

/-- For every stack whose daemon thread is running and every segment with RST: it is
contained, and removes a synchronized connection at the expected number, if and only if
the state and the segment are among those of `ResetRespected`. -/
theorem handlesReset_iff (stack : TcpStack) (packet : Segment) (iss : UInt32)
    (rst : packet.rst = true) (idle : stack.waiting = none) :
    HandlesReset stack (stack.processIncomingPacket packet iss) packet ↔
      ResetRespected stack packet := by
  rw [ResetRespected]
  cases bound : stack.registered packet.src packet.dst with
  | none =>
    have ignored : (handleClosedResetResponse packet).foldl TcpStack.writePacket stack = stack := by
      rw [handleClosedResetResponse, if_pos rst]
      rfl
    have passive : stack.processIncomingPacket packet iss =
        stack.handlePassiveOpenSyn packet iss := by
      rw [TcpStack.processIncomingPacket_of_unregistered bound, ignored]
      split_ifs with taken
      · rfl
      · exact (if_neg taken).symm
    rw [passive, ← stack.handlePassiveOpenSyn_contained packet iss]
    exact ⟨fun h => h.contained, fun contained => ⟨contained, fun tcb found => by
      rw [bound] at found
      cases found⟩⟩
  | some tcb =>
    by_cases listen : tcb.currentState = .listen
    · rw [TcpStack.processIncomingPacket_of_listening bound listen]
      simp only [if_pos listen]
      rw [← stack.handlePassiveOpenSyn_contained packet iss]
      refine ⟨fun h => h.contained, fun contained => ⟨contained, fun other found synchronized => ?_⟩⟩
      rw [bound, Option.some.injEq] at found
      rw [← found, listen] at synchronized
      exact absurd synchronized not_false
    · rw [TcpStack.processIncomingPacket_of_bound bound listen]
      simp only [if_neg listen]
      obtain ⟨socketId, entry, found⟩ := TcpStack.registered_eq_some.mp bound
      have handed : stack.HandedTo packet socketId tcb := ⟨entry, found⟩
      rw [handed.find_eq]
      exact handed.handlesReset_of_handed rst idle

/-- A listening socket has answered a SYN; the child waits for the handshake to complete. -/
def sampleHalfOpen : TcpStack :=
  run TcpStack.step (.new 0x0A000002)
    [.bind ⟨0x0A000002, 8080⟩ 0, .listen 1, .incoming sampleSyn 300]

/-- A RST at the expected number, with nothing else in it. -/
def sampleReset : Segment := { sampleSegment 101 0 0 [] with ack := false, rst := true }

theorem handlesReset_sampleHalfOpen :
    (∃ tcb, sampleHalfOpen.registered sampleReset.src sampleReset.dst = some tcb ∧
      tcb.currentState = .synReceived ∧ sampleReset.seqNum = tcb.rcv.nxt) ∧
    HandlesReset sampleHalfOpen (sampleHalfOpen.processIncomingPacket sampleReset 0) sampleReset := by
  refine ⟨⟨_, rfl, by decide, by decide⟩, ?_⟩
  refine (handlesReset_iff _ _ 0 rfl (Option.isNone_iff_eq_none.mp (by decide))).mpr ?_
  refine ⟨trivial, fun _ => ?_⟩
  change IPv4Address.mk 0x0A000002 8080 = sampleReset.dst
  rfl

/-- The handshake of the child is completed. -/
def sampleAccepted : List StackEvent :=
  [.bind ⟨0x0A000002, 8080⟩ 0, .listen 1, .incoming sampleSyn 300,
    .incoming (sampleSegment 101 301 65535 []) 0]

/-- An established connection takes no notice of a RST at the expected number. -/
theorem reset_ignored_in_established : ¬ ∀ (localAddress : UInt32) (events : List StackEvent)
    (packet : Segment) (iss : UInt32), packet.rst = true →
    (run TcpStack.step (.new localAddress) events).waiting = none →
    HandlesReset (run TcpStack.step (.new localAddress) events)
      ((run TcpStack.step (.new localAddress) events).processIncomingPacket packet iss) packet := by
  intro handles
  obtain ⟨tcb, bound, established, expected⟩ : ∃ tcb, (run TcpStack.step (.new 0x0A000002)
      sampleAccepted).registered sampleReset.src sampleReset.dst = some tcb ∧
      tcb.currentState = .established ∧ sampleReset.seqNum = tcb.rcv.nxt :=
    ⟨_, rfl, by decide, by decide⟩
  have resets := (handles 0x0A000002 sampleAccepted sampleReset 0 rfl
    (Option.isNone_iff_eq_none.mp (by decide))).resets tcb bound (by rw [established]; trivial) expected
  rcases resets.gone with ⟨gone, _⟩ | ⟨block, found, closed⟩
  · exact absurd gone (by decide)
  · have stays : ∀ block ∈ ((run TcpStack.step (.new 0x0A000002)
        sampleAccepted).processIncomingPacket sampleReset 0).getTcb
        ((run TcpStack.step (.new 0x0A000002) sampleAccepted).findConnectionsTcb sampleReset.src
          sampleReset.dst), block.currentState ≠ .closed := by decide
    exact stays block found closed

end TinyCP
