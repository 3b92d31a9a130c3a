import TinyCP.SendRuns
import TinyCP.StackSpecs
import TinyCP.TcpSocket

/-!
# A socket of the stack is an endpoint

One daemon thread and one queue of dirty ids serve all sockets of a stack. What the
stack keeps for one of them is an endpoint, and a step of the stack, whichever socket
it is made for, moves that endpoint by actions of its own: every run of the stack in
which the socket lives on is, for that socket, a run of its endpoint.
-/
namespace TinyCP
open EventRun

namespace TcpStack

/-- The payload on which the daemon thread is blocked for this socket. -/
def waitingFor (stack : TcpStack) (socketId : UInt64) : Option (List UInt8) :=
  (stack.waiting.filter (·.1 = socketId)).map Prod.snd

/-- The endpoint is what the stack keeps for the socket. The ids in `pending` are
those that `process_dirty_blocks_` has taken from the queue and not reached yet. -/
structure Holds (socketId : UInt64) (pending : List UInt64) (stack : TcpStack) (e : Endpoint) :
    Prop where
  block : stack.getTcb socketId = some e.tcb
  unlisted : ∀ port, stack.listenerTable.listeners.lookup port ≠ some socketId
  dirty : (pending ++ stack.dirtySocketIds).count socketId = e.dirty
  waiting : stack.waitingFor socketId = e.waiting
  emitted : e.emitted.Sublist stack.written

namespace Holds
variable {stack : TcpStack} {id other : UInt64} {pending : List UInt64} {e : Endpoint}

theorem real (h : Holds id pending stack e) : id ≠ 0 :=
  SocketTable.ne_zero_of_findSocket h.block

theorem awake (h : Holds id pending stack e) (idle : stack.waiting = none) : e.waiting = none := by
  rw [← h.waiting, waitingFor, idle]
  rfl

/-- A step that touches neither the block nor the entries of the socket. -/
theorem frame (h : Holds id pending stack e) {next : TcpStack}
    (block : next.getTcb id = stack.getTcb id)
    (unlisted : ∀ port, next.listenerTable.listeners.lookup port ≠ some id)
    (dirty : next.dirtySocketIds.count id = stack.dirtySocketIds.count id)
    (waiting : next.waitingFor id = stack.waitingFor id)
    (written : stack.written.Sublist next.written) : Holds id pending next e where
  block := block.trans h.block
  unlisted := unlisted
  dirty := by rw [List.count_append, dirty, ← List.count_append, h.dirty]
  waiting := waiting.trans h.waiting
  emitted := h.emitted.trans written

theorem setTcb_other (h : Holds id pending stack e) (differ : other ≠ id)
    (tcb : TransmissionControlBlock) : Holds id pending (stack.setTcb other tcb) e :=
  h.frame (SocketTable.findSocket_setSocket_ne _ differ.symm _) h.unlisted rfl rfl
    (List.Sublist.refl _)

theorem writePackets (h : Holds id pending stack e) (packets : List Segment) :
    Holds id pending (packets.foldl writePacket stack) e := by
  rw [writePackets_eq]
  exact h.frame rfl h.unlisted rfl rfl (List.sublist_append_left _ _)

/-- What an outcome leaves of this socket is the block it stores, if it is for this
socket, and the block that was there, if it is for another one. -/
theorem found_of_perform (h : Holds id pending stack e) {o : Outcome}
    {after : TransmissionControlBlock} (found : (stack.perform other o).getTcb id = some after) :
    (stack.socketTable.setSocket other o.tcb).findSocket id = some after := by
  have unlisted : ∀ port, (stack.carriedOut other o).listenerTable.find
      (stack.carriedOut other o).socketTable port ≠ id := by
    intro port
    apply ListenerTable.find_ne_of_unlisted h.real
    rw [carriedOut_eq]
    exact h.unlisted port
  have applied : ((stack.carriedOut other o).applyEffect other o.tcb o.effect).getTcb id =
      some after := found
  rcases applyEffect_found applied with same | ⟨listed, _⟩
  · rwa [carriedOut_eq] at same
  · exact absurd listed.symm (unlisted _)

theorem perform (h : Holds id pending stack e) {o : Outcome}
    (lives : ((stack.perform id o).getTcb id).isSome) :
    Holds id pending (stack.perform id o) (e.perform o).1 := by
  obtain ⟨after, found⟩ := Option.isSome_iff_exists.mp lives
  have block := h.found_of_perform found
  rw [SocketTable.findSocket_setSocket _ h.real] at block
  have real : (id != 0) = true := bne_iff_ne.mpr h.real
  rw [stack.perform_frame id o] at found ⊢
  constructor
  · exact found.trans block.symm
  · exact h.unlisted
  · rw [← List.append_assoc, List.count_append, h.dirty, real, Bool.and_true,
      List.count_replicate_self]
    rfl
  · change _ = o.waiting.or e.waiting
    rw [← h.waiting]
    cases o.waiting with
    | none => rfl
    | some payload => simp [waitingFor]
  · exact h.emitted.append (List.Sublist.refl _)

theorem perform_other (h : Holds id pending stack e) (differ : other ≠ id) {o : Outcome}
    (lives : ((stack.perform other o).getTcb id).isSome)
    (awake : o.waiting = none ∨ stack.waiting = none) :
    Holds id pending (stack.perform other o) e := by
  obtain ⟨after, found⟩ := Option.isSome_iff_exists.mp lives
  have block := h.found_of_perform found
  rw [SocketTable.findSocket_setSocket_ne _ differ.symm] at block
  rw [stack.perform_frame other o] at found ⊢
  apply h.frame
  · exact found.trans block.symm
  · exact h.unlisted
  · rw [List.count_append, List.count_replicate, if_neg (by simpa using differ), Nat.add_zero]
  · rcases awake with done | idle
    · rw [done]
      rfl
    · cases o.waiting with
      | none => rfl
      | some payload => simp [waitingFor, idle, differ]
  · exact List.sublist_append_left _ _

theorem lives_of_confined (h : Holds id pending stack e) (other : UInt64) {o : Outcome}
    (confined : o.effect = .none) : ((stack.perform other o).getTcb id).isSome := by
  rw [getTcb, (stack.perform_of_plain other confined).1]
  by_cases same : other = id
  · rw [same, SocketTable.findSocket_setSocket _ h.real, Option.isSome_some]
  · rw [SocketTable.findSocket_setSocket_ne _ (Ne.symm same)]
    exact Option.isSome_iff_exists.mpr ⟨e.tcb, h.block⟩

/-- One visit of a loop over the sockets whose work stays within its block. -/
theorem visit (h : Holds id pending stack e) (awake : e.waiting = none) {o : Outcome}
    (confined : o.waiting = none ∧ o.effect = .none) :
    Holds id pending (stack.perform id o) (e.perform o).1 ∧ (e.perform o).1.waiting = none := by
  refine ⟨h.perform (h.lives_of_confined id confined.2), ?_⟩
  change o.waiting.or e.waiting = none
  rw [confined.1, awake]
  rfl

theorem visit_other (h : Holds id pending stack e) (differ : other ≠ id) {o : Outcome}
    (confined : o.waiting = none ∧ o.effect = .none) :
    Holds id pending (stack.perform other o) e :=
  h.perform_other differ (h.lives_of_confined other confined.2) (Or.inl confined.1)

theorem processBlock_own {ids : List UInt64} (h : Holds id (id :: ids) stack e)
    (awake : e.waiting = none) (now : Int) :
    Holds id ids (stack.processBlock id now) (e.step (.processDirty now)) ∧
    (e.step (.processDirty now)).waiting = none := by
  have count : ids.count id + stack.dirtySocketIds.count id + 1 = e.dirty := by
    rw [← List.count_append, ← List.count_cons_self, ← List.cons_append]
    exact h.dirty
  have rest : (ids ++ stack.dirtySocketIds).count id = e.dirty - 1 := by
    rw [List.count_append, ← count, Nat.add_sub_cancel]
  have acts : e.step (.processDirty now) =
      ({ e with dirty := e.dirty - 1 }.perform (e.tcb.processBlock now)).1 := by
    rw [Endpoint.step, Endpoint.act, if_neg]
    simp only [awake, Option.isSome_none, Bool.false_eq_true, false_or]
    omega
  have visited : Holds id ids stack { e with dirty := e.dirty - 1 } :=
    ⟨h.block, h.unlisted, rest, h.waiting, h.emitted⟩
  rw [processBlock, withTcb, h.block, acts]
  have confined := e.tcb.processBlock_confined now
  exact visited.visit awake ⟨confined.awake, confined.plain⟩

theorem processBlock_other {ids : List UInt64} (h : Holds id (other :: ids) stack e)
    (differ : other ≠ id) (now : Int) : Holds id ids (stack.processBlock other now) e := by
  have rest : (ids ++ stack.dirtySocketIds).count id = e.dirty := by
    rw [← List.count_cons_of_ne differ, ← List.cons_append]
    exact h.dirty
  have visited : Holds id ids stack e := ⟨h.block, h.unlisted, rest, h.waiting, h.emitted⟩
  rw [processBlock, withTcb]
  split
  · next tcb _ =>
    have confined := tcb.processBlock_confined now
    exact visited.visit_other differ ⟨confined.awake, confined.plain⟩
  · exact visited

theorem processDirtyBlocks (h : Holds id [] stack e) (awake : e.waiting = none) (now : Int) :
    Holds id [] (stack.processDirtyBlocks now) (run Endpoint.step e
      (List.replicate (stack.dirtySocketIds.count id) (.processDirty now))) := by
  have taken : Holds id stack.dirtySocketIds { stack with dirtySocketIds := [] } e := by
    refine ⟨h.block, h.unlisted, ?_, h.waiting, h.emitted⟩
    rw [List.append_nil]
    exact h.dirty
  refine (foldl_simulates (R := fun ids s part => Holds id ids s part ∧ part.waiting = none)
    ?_ ?_ _ ⟨taken, awake⟩).1
  · rintro ids s part ⟨held, idle⟩
    exact held.processBlock_own idle now
  · rintro k ids s part differ ⟨held, idle⟩
    exact ⟨held.processBlock_other differ now, idle⟩

theorem checkRetransmissions (h : Holds id [] stack e) (awake : e.waiting = none) (now : Int) :
    Holds id [] (stack.checkRetransmissions now) (e.step (.checkRetransmissions now)) := by
  have entry : ∀ {s : TcpStack} {part : Endpoint}, Holds id [] s part →
      s.socketTable.sockets.lookup id = some part.tcb := by
    intro s part held
    exact (SocketTable.findSocket_eq_some_iff.mp held.block).2
  have once : stack.socketTable.sockets.keys.count id = 1 := by
    apply List.count_eq_one_of_mem stack.socketTable.sockets.keys_nodup
    rw [← AList.mem_keys, ← AList.lookup_isSome, entry h]
    rfl
  have single : e.step (.checkRetransmissions now) = run Endpoint.step e
      (List.replicate (stack.socketTable.sockets.keys.count id) (.checkRetransmissions now)) := by
    rw [once]
    rfl
  rw [single]
  refine (foldl_simulates (R := fun _ s part => Holds id [] s part ∧ part.waiting = none)
    ?_ ?_ _ ⟨h, awake⟩).1
  · rintro ids s part ⟨held, idle⟩
    rw [entry held]
    have acts : part.step (.checkRetransmissions now) =
        (part.perform (part.tcb.checkRetransmission now)).1 := by
      rw [Endpoint.step, Endpoint.act, Endpoint.daemon, idle]
      rfl
    rw [acts]
    have confined := part.tcb.checkRetransmission_confined now
    exact held.visit idle ⟨confined.awake, confined.plain⟩
  · rintro k ids s part differ ⟨held, idle⟩
    refine ⟨?_, idle⟩
    split
    · next tcb _ =>
      have confined := tcb.checkRetransmission_confined now
      exact held.visit_other differ ⟨confined.awake, confined.plain⟩
    · exact held

theorem createSocket (h : Holds id pending stack e) (fresh : stack.socketTable.nextId ≠ id)
    (state : TcpState) (src dst : IPv4Address) :
    Holds id pending
      { stack with socketTable := (stack.socketTable.createSocket state src dst).1 } e :=
  h.frame (SocketTable.findSocket_createSocket_ne _ _ _ _ fresh.symm) h.unlisted rfl rfl
    (List.Sublist.refl _)

theorem handlePassiveOpenSyn (h : Holds id pending stack e)
    (fresh : stack.socketTable.nextId ≠ id) (packet : Segment) (iss : UInt32) :
    Holds id pending (stack.handlePassiveOpenSyn packet iss) e := by
  have child : Holds id pending (stack.withChild packet) e := h.createSocket fresh _ _ _
  by_cases bareSyn : stack.listenerTable.find stack.socketTable packet.dst.port ≠ 0 ∧
      packet.syn ∧ !packet.ack
  · by_cases wrapped : stack.socketTable.nextId = 0
    · rw [handlePassiveOpenSyn_wrapped iss bareSyn wrapped]
      exact child
    · rw [handlePassiveOpenSyn_eq iss bareSyn wrapped]
      have opened := child.setTcb_other fresh (stack.childOf packet iss)
      have inserted : Holds id pending
          { (stack.withChild packet).setTcb stack.socketTable.nextId (stack.childOf packet iss) with
            connectionTable := stack.connectionTable.insert packet.src packet.dst
              stack.socketTable.nextId } e :=
        opened.frame rfl opened.unlisted rfl rfl (List.Sublist.refl _)
      exact inserted.writePackets [_]
  · rw [TcpStack.handlePassiveOpenSyn, if_neg bareSyn]
    exact h

/-- A segment reaches the socket when the connection table leads to it. -/
theorem processIncomingPacket (h : Holds id [] stack e) (idle : stack.waiting = none)
    (fresh : stack.socketTable.nextId ≠ id) (packet : Segment) (iss : UInt32)
    (lives : ((stack.processIncomingPacket packet iss).getTcb id).isSome) :
    Holds id [] (stack.processIncomingPacket packet iss)
      (if stack.findConnectionsTcb packet.src packet.dst = id then e.step (.receive packet)
        else e) := by
  have acts : e.step (.receive packet) = (e.perform (e.tcb.receive packet)).1 := by
    rw [Endpoint.step, Endpoint.act, Endpoint.daemon, h.awake idle]
    rfl
  by_cases same : stack.findConnectionsTcb packet.src packet.dst = id
  · have real := h.real
    rw [if_pos same, acts]
    simp only [TcpStack.processIncomingPacket, same, real, if_false, h.block] at lives ⊢
    by_cases state : e.tcb.currentState = .listen
    · have nothing : (e.perform (e.tcb.receive packet)).1 = e := by
        simp [Endpoint.perform, TransmissionControlBlock.receive, state]
      rw [if_pos state, nothing]
      exact h.handlePassiveOpenSyn fresh packet iss
    · rw [if_neg state] at lives ⊢
      exact h.perform lives
  · rw [if_neg same]
    rw [TcpStack.processIncomingPacket] at lives ⊢
    split_ifs at lives ⊢ with unknown listening
    · exact h.handlePassiveOpenSyn fresh packet iss
    · exact h.writePackets _
    · split at lives
      · exact h.writePackets _
      · split_ifs at lives ⊢ with state
        · exact h.handlePassiveOpenSyn fresh packet iss
        · exact h.perform_other same lives (Or.inr idle)

theorem completeAddress (h : Holds id pending stack e) (addr : IPv4Address) :
    Holds id pending (stack.completeAddress addr).1 e ∧
    (stack.completeAddress addr).1.socketTable = stack.socketTable := by
  simp only [TcpStack.completeAddress]
  split_ifs <;> exact ⟨h.frame rfl h.unlisted rfl rfl (List.Sublist.refl _), rfl⟩

/-- The socket that a connection is registered for is the caller's own or a new one. -/
theorem registerConnection (h : Holds id pending stack e) (fresh : stack.socketTable.nextId ≠ id)
    (differ : other ≠ id) (localAddr remoteAddr : IPv4Address) :
    Holds id pending (stack.registerConnection localAddr remoteAddr other).1 e ∧
    (stack.registerConnection localAddr remoteAddr other).2 ≠ id := by
  obtain ⟨completed, same⟩ := h.completeAddress localAddr
  rw [← same] at fresh
  simp only [TcpStack.registerConnection, ConnectionTable.registerConnection]
  split
  · have created := completed.createSocket fresh .closed (stack.completeAddress localAddr).2
      remoteAddr
    exact ⟨created.frame rfl created.unlisted rfl rfl (List.Sublist.refl _), fresh⟩
  · next tcb _ =>
    have updated := completed.setTcb_other differ { tcb with
      srcAddress := (stack.completeAddress localAddr).2, dstAddress := remoteAddr }
    exact ⟨updated.frame rfl updated.unlisted rfl rfl (List.Sublist.refl _), differ⟩

theorem addDirtyTcb_other (h : Holds id pending stack e) (differ : other ≠ id) :
    Holds id pending (stack.addDirtyTcb other) e := by
  rw [addDirtyTcb_eq]
  refine h.frame rfl h.unlisted ?_ rfl (List.Sublist.refl _)
  rw [List.count_append, List.count_replicate, if_neg (by simpa using differ), Nat.add_zero]

theorem connect_other (h : Holds id pending stack e) (fresh : stack.socketTable.nextId ≠ id)
    (differ : other ≠ id) (addr : IPv4Address) (iss : UInt32) :
    Holds id pending (TcpSocket.connect stack other addr iss).1 e := by
  have registered := fun localAddr => (h.registerConnection fresh differ localAddr addr).1
  have apart := fun localAddr => (h.registerConnection fresh differ localAddr addr).2
  simp only [TcpSocket.connect]
  split
  · exact registered _
  · exact ((registered _).setTcb_other (apart _) _).addDirtyTcb_other (apart _)

theorem bind (h : Holds id pending stack e) (fresh : stack.socketTable.nextId ≠ id)
    (addr : IPv4Address) (iss : UInt32) : Holds id pending (TcpSocket.bind stack addr iss).1 e := by
  obtain ⟨completed, same⟩ := h.completeAddress addr
  rw [← same] at fresh
  have created := completed.createSocket fresh .closed (stack.completeAddress addr).2 ⟨0, 0⟩
  have bound : Holds id pending
      ((stack.completeAddress addr).1.bindSocket (stack.completeAddress addr).2).1 e := by
    refine created.frame rfl ?_ rfl rfl (List.Sublist.refl _)
    intro port
    by_cases same : port = (stack.completeAddress addr).2.port
    · rw [same]
      simpa [bindSocket, ListenerTable.bindNew, ListenerTable.bind, SocketTable.createSocket] using
        fresh
    · have elsewhere := completed.unlisted port
      rwa [← AList.lookup_insert_ne same] at elsewhere
  simp only [TcpSocket.bind]
  split
  · exact bound
  · exact bound.setTcb_other fresh _

theorem send (h : Holds id pending stack e) (data : List UInt8) :
    Holds id pending (stack.step (.send id data)) (e.step (.send data)) := by
  simp only [TcpStack.step, TcpSocket.send, h.block, Endpoint.step, Endpoint.act]
  cases written : e.tcb.send data with
  | none => exact h
  | some sent =>
    have plain : sent.1.effect = .none := by
      obtain ⟨_, _, rfl⟩ := Option.map_eq_some_iff.mp written
      rfl
    have performed := h.perform (h.lives_of_confined id plain)
    exact ⟨performed.block, performed.unlisted, performed.dirty, performed.waiting,
      performed.emitted⟩

theorem send_other (h : Holds id pending stack e) (differ : other ≠ id) (data : List UInt8) :
    Holds id pending (stack.step (.send other data)) e := by
  simp only [TcpStack.step, TcpSocket.send]
  split
  · exact h
  · next tcb _ =>
    cases written : tcb.send data with
    | none => exact h
    | some sent =>
      have confined : sent.1.waiting = none ∧ sent.1.effect = .none := by
        obtain ⟨_, _, rfl⟩ := Option.map_eq_some_iff.mp written
        exact ⟨rfl, rfl⟩
      exact h.visit_other differ confined

theorem recv (h : Holds id pending stack e) (len : Nat) :
    Holds id pending (stack.step (.recv id len)) (e.step (.recv len)) := by
  simp only [TcpStack.step, TcpSocket.recv, h.block, Endpoint.step, Endpoint.act]
  cases e.tcb.recv len with
  | none => exact h
  | some got =>
    exact ⟨SocketTable.findSocket_setSocket _ h.real _, h.unlisted, h.dirty, h.waiting, h.emitted⟩

theorem recv_other (h : Holds id pending stack e) (differ : other ≠ id) (len : Nat) :
    Holds id pending (stack.step (.recv other len)) e := by
  simp only [TcpStack.step, TcpSocket.recv]
  split
  · exact h
  · next tcb _ =>
    cases tcb.recv len with
    | none => exact h
    | some got => exact h.setTcb_other differ _

theorem close (h : Holds id pending stack e) (now : Int)
    (lives : ((stack.step (.close id now)).getTcb id).isSome) :
    Holds id pending (stack.step (.close id now)) (e.step (.close now)) := by
  simp only [TcpStack.step, TcpSocket.close, if_neg h.real, closeConnection, withTcb, h.block]
    at lives ⊢
  exact h.perform lives

theorem close_other (h : Holds id pending stack e) (differ : other ≠ id) (now : Int)
    (lives : ((stack.step (.close other now)).getTcb id).isSome) :
    Holds id pending (stack.step (.close other now)) e := by
  simp only [TcpStack.step, TcpSocket.close, closeConnection, withTcb] at lives ⊢
  split_ifs at lives ⊢
  · exact h
  · split at lives
    · next tcb _ =>
      have done : (tcb.closeConnection now).waiting = none := by
        rw [TransmissionControlBlock.closeConnection]
        split <;> rfl
      exact h.perform_other differ lives (Or.inl done)
    · exact h

theorem accept_other (h : Holds id pending stack e) (differ : other ≠ id) :
    Holds id pending (stack.step (.accept other)) e := by
  simp only [TcpStack.step, TcpSocket.accept]
  split
  · exact h
  · split_ifs
    · exact h
    · split
      · exact h
      · exact h.setTcb_other differ _

theorem listen_other (h : Holds id pending stack e) (differ : other ≠ id) :
    Holds id pending (stack.step (.listen other)) e := by
  simp only [TcpStack.step, TcpSocket.listen]
  split
  · exact h
  · split_ifs
    · exact h
    · exact h.setTcb_other differ _

theorem resumeWrite (h : Holds id pending stack e)
    (lives : ((stack.step .resumeWrite).getTcb id).isSome) :
    Holds id pending (stack.step .resumeWrite) (e.step .resumeWrite) := by
  have waits := h.waiting
  rw [waitingFor] at waits
  simp only [TcpStack.step, Endpoint.step, Endpoint.act] at lives ⊢
  cases blocked : stack.waiting with
  | none =>
    rw [blocked] at waits
    simp only [← waits]
    exact h
  | some entry =>
    obtain ⟨other, payload⟩ := entry
    simp only [blocked, Option.filter_some] at lives waits ⊢
    by_cases same : other = id
    · have woken : Holds id pending { stack with waiting := none } { e with waiting := none } :=
        ⟨h.block, h.unlisted, h.dirty, rfl, h.emitted⟩
      have found : ({ stack with waiting := none } : TcpStack).getTcb id = some e.tcb := h.block
      simp only [same, decide_true, if_true, Option.map_some] at lives waits
      simp only [same, ← waits]
      rw [withTcb, found] at lives ⊢
      exact woken.perform lives
    · have idle : e.waiting = none := by simpa [same] using waits.symm
      have woken : Holds id pending { stack with waiting := none } e :=
        ⟨h.block, h.unlisted, h.dirty, idle.symm, h.emitted⟩
      rw [idle]
      rw [withTcb] at lives ⊢
      split at lives
      · exact woken.perform_other same lives (Or.inr rfl)
      · exact woken

end Holds

/-- The calls that set a socket up. -/
def Configures (id : UInt64) : StackEvent → Prop
  | .listen socketId => socketId = id
  | .connect socketId _ _ => socketId = id
  | .accept socketId => socketId = id
  | _ => False

/-- The step neither sets the socket up nor removes it, and ids have not wrapped around. -/
structure Serves (id : UInt64) (stack : TcpStack) (event : StackEvent) : Prop where
  fresh : stack.socketTable.nextId ≠ id
  connected : ¬ Configures id event
  lives : ((stack.step event).getTcb id).isSome

/-- The segment is dispatched to the socket, unless the daemon thread is blocked. -/
def receives (id : UInt64) (stack : TcpStack) (packet : Segment) : List Action :=
  if stack.waiting.isSome ∨ stack.findConnectionsTcb packet.src packet.dst ≠ id then []
  else [.receive packet]

/-- What a step of the stack is for the endpoint of this socket. -/
def actionsFor (id : UInt64) (stack : TcpStack) : StackEvent → List Action
  | .send socketId data => if socketId = id then [.send data] else []
  | .recv socketId len => if socketId = id then [.recv len] else []
  | .close socketId now => if socketId = id then [.close now] else []
  | .incoming packet _ => stack.receives id packet
  | .loopback _ => (stack.loopbackPacketQueue.take 1).flatMap (stack.receives id)
  | .processDirtyBlocks now =>
    if stack.waiting.isSome then []
    else List.replicate (stack.dirtySocketIds.count id) (.processDirty now)
  | .checkRetransmissions now =>
    if stack.waiting.isSome then [] else [.checkRetransmissions now]
  | .resumeWrite => [.resumeWrite]
  | _ => []

namespace Holds
variable {stack : TcpStack} {id : UInt64} {e : Endpoint}

theorem receives (h : Holds id [] stack e) (fresh : stack.socketTable.nextId ≠ id)
    (packet : Segment) (iss : UInt32)
    (lives : ((stack.daemon (·.processIncomingPacket packet iss)).getTcb id).isSome) :
    Holds id [] (stack.daemon (·.processIncomingPacket packet iss))
      (run Endpoint.step e (stack.receives id packet)) := by
  rw [TcpStack.receives]
  rw [daemon] at lives ⊢
  cases blocked : stack.waiting with
  | some entry => simpa [blocked] using h
  | none =>
    simp only [blocked, Option.isSome_none, Bool.false_eq_true, if_false, false_or] at lives ⊢
    have processed := h.processIncomingPacket blocked fresh packet iss lives
    by_cases same : stack.findConnectionsTcb packet.src packet.dst = id
    · rw [if_pos same] at processed
      rw [if_neg (not_not_intro same)]
      exact processed
    · rw [if_neg same] at processed
      rw [if_pos same]
      exact processed

theorem loopback (h : Holds id [] stack e) (fresh : stack.socketTable.nextId ≠ id) (iss : UInt32)
    (lives : ((stack.step (.loopback iss)).getTcb id).isSome) :
    Holds id [] (stack.step (.loopback iss))
      (run Endpoint.step e (actionsFor id stack (.loopback iss))) := by
  simp only [TcpStack.step, actionsFor] at lives ⊢
  cases queue : stack.loopbackPacketQueue with
  | nil =>
    rw [daemon, queue]
    split_ifs <;> exact h
  | cons packet rest =>
    have popped : Holds id [] { stack with loopbackPacketQueue := rest } e :=
      h.frame rfl h.unlisted rfl rfl (List.Sublist.refl _)
    have same : TcpStack.receives id { stack with loopbackPacketQueue := rest } packet =
        stack.receives id packet := rfl
    have received := popped.receives fresh packet iss
    rw [same] at received
    simp only [daemon, queue, List.take_succ_cons, List.take_zero, List.flatMap_singleton]
      at lives received ⊢
    cases blocked : stack.waiting with
    | some entry => simpa [TcpStack.receives, blocked] using h
    | none =>
      simp only [blocked, Option.isSome_none, Bool.false_eq_true, if_false] at lives received ⊢
      exact received lives

/-- A step of the stack is, for each socket that outlives it, the steps of its endpoint. -/
theorem step (h : Holds id [] stack e) {event : StackEvent} (serves : Serves id stack event) :
    Holds id [] (stack.step event) (run Endpoint.step e (actionsFor id stack event)) := by
  obtain ⟨fresh, connected, lives⟩ := serves
  cases event with
  | bind addr iss => exact h.bind fresh addr iss
  | listen socketId => exact h.listen_other connected
  | connect socketId addr iss => exact h.connect_other fresh connected addr iss
  | accept socketId => exact h.accept_other connected
  | send socketId data =>
    rw [actionsFor]
    by_cases same : socketId = id
    · rw [same, if_pos rfl]
      exact h.send data
    · rw [if_neg same]
      exact h.send_other same data
  | recv socketId len =>
    rw [actionsFor]
    by_cases same : socketId = id
    · rw [same, if_pos rfl]
      exact h.recv len
    · rw [if_neg same]
      exact h.recv_other same len
  | close socketId now =>
    rw [actionsFor]
    by_cases same : socketId = id
    · rw [same] at lives ⊢
      rw [if_pos rfl]
      exact h.close now lives
    · rw [if_neg same]
      exact h.close_other same now lives
  | incoming packet iss => exact h.receives fresh packet iss lives
  | loopback iss => exact h.loopback fresh iss lives
  | processDirtyBlocks now =>
    simp only [TcpStack.step, daemon, actionsFor]
    cases blocked : stack.waiting with
    | some entry => exact h
    | none => exact h.processDirtyBlocks (h.awake blocked) now
  | checkRetransmissions now =>
    simp only [TcpStack.step, daemon, actionsFor]
    cases blocked : stack.waiting with
    | some entry => exact h
    | none => exact h.checkRetransmissions (h.awake blocked) now
  | resumeWrite => exact h.resumeWrite lives

end Holds

/-- In a run of the stack through which the socket lives, whatever is done to the other
sockets and whatever arrives, the socket runs as an endpoint by itself. -/
theorem run_holds {stack : TcpStack} {id : UInt64} {e : Endpoint} (initial : Holds id [] stack e)
    (events : List StackEvent) (served : Throughout TcpStack.step (Serves id) stack events) :
    Holds id [] (run TcpStack.step stack events)
      (run Endpoint.step e (actionsOf TcpStack.step (actionsFor id) stack events)) :=
  run_simulates (fun _ _ _ serves held => held.step serves) initial events served

/-- A step stands for one segment, or for none. -/
theorem actionsFor_receive (id : UInt64) (stack : TcpStack) (event : StackEvent) :
    (∃ packet, stack.actionsFor id event = [.receive packet]) ∨
    ∀ packet, .receive packet ∉ stack.actionsFor id event := by
  have received : ∀ packet, stack.receives id packet = [] ∨
      stack.receives id packet = [.receive packet] := by
    intro packet
    rw [receives]
    split_ifs
    · exact Or.inl rfl
    · exact Or.inr rfl
  cases event with
  | incoming packet iss =>
    rcases received packet with nothing | single
    · exact Or.inr (by simp [actionsFor, nothing])
    · exact Or.inl ⟨packet, single⟩
  | loopback iss =>
    cases queue : stack.loopbackPacketQueue with
    | nil => exact Or.inr (by simp [actionsFor, queue])
    | cons packet rest =>
      rcases received packet with nothing | single
      · exact Or.inr (by simp [actionsFor, queue, nothing])
      · exact Or.inl ⟨packet, by simp [actionsFor, queue, single]⟩
  | _ => exact Or.inr (by grind [actionsFor])

/-- The step closes nothing and acknowledges only what the socket has in flight. -/
def KeepsOpen (id : UInt64) (stack : TcpStack) (event : StackEvent) : Prop :=
  ∀ action ∈ stack.actionsFor id event, Endpoint.Open action ∧
    ∀ tcb, stack.getTcb id = some tcb → AckNumInWindow (.fresh tcb) action

theorem Holds.acks {stack : TcpStack} {id : UInt64} {e : Endpoint} {event : StackEvent}
    (h : Holds id [] stack e) (keeps : KeepsOpen id stack event) :
    Throughout Endpoint.step AckNumInWindow e (stack.actionsFor id event) := by
  rcases actionsFor_receive id stack event with ⟨packet, single⟩ | nothing
  · have within := (keeps (.receive packet) (by simp [single])).2 e.tcb h.block
    rw [single]
    exact ⟨within, trivial⟩
  · clear keeps h
    generalize stack.actionsFor id event = actions at nothing
    induction actions generalizing e with
    | nil => trivial
    | cons action actions ih =>
      refine ⟨?_, ih fun packet later => nothing packet (List.mem_cons_of_mem action later)⟩
      cases action with
      | receive packet => exact absurd List.mem_cons_self (nothing packet)
      | _ => trivial

/-- The sending side of an open connection stays sound in every run of its stack. -/
theorem run_sendInvariant {stack : TcpStack} {id : UInt64} {tcb : TransmissionControlBlock}
    (initial : Holds id [] stack (.fresh tcb)) (established : tcb.currentState = .established)
    (aligned : tcb.snd.nxt = tcb.snd.una) (events : List StackEvent)
    (served : Throughout TcpStack.step
      (fun stack event => Serves id stack event ∧ KeepsOpen id stack event) stack events) :
    ∃ e, Holds id [] (run TcpStack.step stack events) e ∧
      SendInvariant tcb.snd.una tcb.sendBuffer.contents e := by
  have preserve : ∀ stack event, True →
      (∃ e, Holds id [] stack e ∧ SendInvariant tcb.snd.una tcb.sendBuffer.contents e) →
      Serves id stack event ∧ KeepsOpen id stack event →
      ∃ e, Holds id [] (stack.step event) e ∧
        SendInvariant tcb.snd.una tcb.sendBuffer.contents e := by
    rintro stack event - ⟨e, held, invariant⟩ ⟨serves, keeps⟩
    refine ⟨_, held.step serves, invariant.run _ ?_ (held.acks keeps)⟩
    intro action member
    exact (keeps action member).1
  exact run_invariant_of_throughout preserve ⟨_, initial, .initial established aligned⟩ events
    (fun _ _ => trivial) served

/-- Socket 2 of a passive open is held from the end of its handshake on. -/
example : ∃ tcb, Holds 2 [] (run TcpStack.step (.new 0x0A000002)
      [.bind ⟨0x0A000002, 8080⟩ 0, .listen 1,
        .incoming { sampleSegment 100 0 65535 [] with syn := true, ack := false } 300,
        .incoming (sampleSegment 101 301 65535 []) 0]) (.fresh tcb) ∧
    tcb.currentState = .established ∧ tcb.snd.nxt = tcb.snd.una := by
  refine ⟨_, ⟨rfl, ?_, by decide, by decide, List.nil_sublist _⟩, by decide, by decide⟩
  intro port
  by_cases listening : port = 8080
  · rw [listening]
    decide
  · exact ne_of_eq_of_ne (AList.lookup_insert_ne listening) (by simp [new, ListenerTable.new])

end TcpStack
end TinyCP
