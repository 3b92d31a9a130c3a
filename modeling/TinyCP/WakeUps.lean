import TinyCP.StateDiagram

/-!
# No wake-up is lost on the send side

The queue of dirty ids is taken out before it is worked off, so a connection that can
send more must be put back by whoever makes it so or leaves it so: `send`, the end of
`process_block_`, and an acknowledgment that opens the window. Between them they do,
for every connection that is past its handshake.
-/
namespace TinyCP
open EventRun

/-- ESTABLISHED is not entered from these states. -/
def PastHandshake (state : TcpState) : Prop := state ≠ .synSent ∧ state ≠ .synReceived

theorem PastHandshake.of_edge {old new : TcpState} (past : PastHandshake old)
    (edge : Edge old new) : PastHandshake new ∧ new ≠ .established := by
  revert past edge
  unfold PastHandshake
  cases old <;> cases new <;> decide

namespace TransmissionControlBlock

/-- In ESTABLISHED, with unsent data and a window that permits sending it. -/
def Sendable (tcb : TransmissionControlBlock) : Prop :=
  tcb.currentState = .established ∧ tcb.hasUnsentInWindow = true

theorem sendable_iff (tcb : TransmissionControlBlock) : tcb.Sendable ↔
    tcb.currentState = .established ∧ tcb.inFlight.toNat < tcb.sendBuffer.size ∧
      tcb.inFlight.toNat < tcb.snd.wnd.toNat := by
  rw [Sendable, hasUnsentInWindow_iff]

/-- An outcome that leaves its block sendable queues it, or the block was sendable. -/
structure Wakes (tcb : TransmissionControlBlock) (o : Outcome) : Prop where
  past : PastHandshake tcb.currentState → PastHandshake o.tcb.currentState
  queues : PastHandshake tcb.currentState → o.tcb.Sendable → o.dirty = true ∨ tcb.Sendable

theorem Wakes.of_same {tcb : TransmissionControlBlock} {o : Outcome}
    (state : o.tcb.currentState = tcb.currentState) (snd : o.tcb.snd = tcb.snd)
    (buffer : o.tcb.sendBuffer = tcb.sendBuffer) : Wakes tcb o := by
  refine ⟨fun past => by rwa [state], fun _ sendable => Or.inr ?_⟩
  rw [sendable_iff, inFlight, state, snd, buffer] at sendable
  rwa [sendable_iff, inFlight]

theorem handleEstablishedState_wakes {tcb : TransmissionControlBlock} {packet : Segment} :
    Wakes tcb (tcb.handleEstablishedState packet) := by
  cases fin : packet.fin with
  | true =>
    have state : (tcb.handleEstablishedState packet).tcb.currentState = .closeWait := by
      simp only [handleEstablishedState, fin, if_true, receiveFin]
      split_ifs <;> rfl
    refine ⟨fun _ => ?_, fun _ sendable => ?_⟩
    · rw [state]
      exact ⟨by decide, by decide⟩
    · exact absurd (state.symm.trans sendable.1) (by decide)
  | false =>
    obtain ⟨snd, buffer, state, _⟩ := tcb.handleEstablishedState_sendSide fin
    cases hack : packet.ack with
    | true =>
      obtain ⟨requeued, same⟩ := @handleEstablishedState_requeues tcb packet fin
      refine ⟨fun past => by rwa [state], fun _ sendable => Or.inl ?_⟩
      rw [requeued, hack, Bool.true_and, ← same]
      exact sendable.2
    | false =>
      have nothing : tcb.afterAck packet = tcb := by
        rw [afterAck, if_neg (by rw [hack]; exact Bool.false_ne_true)]
      rw [nothing] at snd buffer
      exact .of_same state snd buffer

/-- A segment, whatever it carries, in whatever state past the handshake. -/
theorem receive_wakes (tcb : TransmissionControlBlock) (packet : Segment) :
    Wakes tcb (tcb.receive packet) := by
  by_cases established : tcb.currentState = .established
  · simp only [receive, established]
    exact handleEstablishedState_wakes
  · have left : PastHandshake tcb.currentState →
        PastHandshake (tcb.receive packet).tcb.currentState ∧
        (tcb.receive packet).tcb.currentState ≠ .established := by
      intro past
      cases tcb.receive_transition packet with
      | stays same _ =>
        rw [same]
        exact ⟨past, established⟩
      | moves edge _ _ => exact past.of_edge edge
      | opens edge _ _ _ _ _ => exact absurd rfl (past.of_edge edge).2
      | aborts state _ _ => exact absurd state past.2
      | closes _ closed _ =>
        rw [closed]
        exact ⟨⟨TcpState.noConfusion, TcpState.noConfusion⟩, TcpState.noConfusion⟩
    exact ⟨fun past => (left past).1, fun past sendable => absurd sendable.1 (left past).2⟩

theorem checkRetransmission_wakes (tcb : TransmissionControlBlock) (now : Int) :
    Wakes tcb (tcb.checkRetransmission now) := by
  rcases tcb.checkRetransmission_cases now with same | ⟨_, _, _, sent⟩
  · rw [same]
    exact .of_same rfl rfl rfl
  · rw [sent]
    exact .of_same rfl rfl rfl

theorem storePayload_wakes (tcb : TransmissionControlBlock) (payload : List UInt8) :
    Wakes tcb (tcb.storePayload payload) := by
  rcases tcb.storePayload_cases payload with ⟨_, stored⟩ | ⟨_, blocked⟩
  · rw [stored]
    exact .of_same rfl rfl rfl
  · rw [blocked]
    exact .of_same rfl rfl rfl

theorem send_wakes {tcb : TransmissionControlBlock} {data : List UInt8} {sent : Outcome × Nat}
    (written : tcb.send data = some sent) : Wakes tcb sent.1 := by
  obtain ⟨_, _, rfl⟩ := Option.map_eq_some_iff.mp written
  exact ⟨fun past => past, fun _ _ => Or.inl rfl⟩

end TransmissionControlBlock

namespace TcpStack
open TransmissionControlBlock

/-- The block of this id, if there is one, is past its handshake, and queued if it can
send. The ids in `pending` are those that `process_dirty_blocks_` has yet to visit. -/
def Wakeful (id : UInt64) (pending : List UInt64) (stack : TcpStack) : Prop :=
  ∀ tcb, stack.getTcb id = some tcb → PastHandshake tcb.currentState ∧
    (tcb.Sendable → id ∈ pending ++ stack.dirtySocketIds)

namespace Wakeful
variable {id socketId : UInt64} {pending : List UInt64} {stack : TcpStack}

theorem of_same {next : TcpStack} (h : Wakeful id pending stack)
    (block : next.getTcb id = stack.getTcb id)
    (dirty : next.dirtySocketIds = stack.dirtySocketIds) : Wakeful id pending next := by
  intro tcb found
  rw [block] at found
  rw [dirty]
  exact h tcb found

/-- An outcome for another socket changes nothing, and its own one has to be queued. -/
theorem perform_of {tcb : TransmissionControlBlock}
    (there : socketId ≠ 0 → stack.getTcb socketId = some tcb) {o : Outcome}
    (others : socketId ≠ id → Wakeful id pending stack)
    (own : socketId = id → socketId ≠ 0 → PastHandshake o.tcb.currentState ∧
      (o.tcb.Sendable → o.dirty = true ∨ id ∈ pending ++ stack.dirtySocketIds)) :
    Wakeful id pending (stack.perform socketId o) := by
  intro after found
  have queue : (stack.perform socketId o).dirtySocketIds = stack.dirtySocketIds ++
      List.replicate (o.dirty && socketId != 0).toNat socketId := by
    rw [perform_frame]
  have real := SocketTable.ne_zero_of_findSocket found
  obtain ⟨before, old, block⟩ := perform_block there found
  rw [queue, ← List.append_assoc, List.mem_append]
  by_cases same : id = socketId
  · rw [if_pos same] at block
    obtain ⟨past, queued⟩ := own same.symm (same ▸ real)
    rw [block]
    refine ⟨past, fun sendable => ?_⟩
    rcases queued sendable with dirty | already
    · right
      rw [same] at real
      rw [dirty, same]
      simp [real]
    · exact Or.inl already
  · rw [if_neg same] at block
    obtain ⟨past, queued⟩ := others (Ne.symm same) before old
    rw [block]
    exact ⟨past, fun sendable => Or.inl (queued sendable)⟩

theorem perform (h : Wakeful id pending stack) {tcb : TransmissionControlBlock}
    (there : socketId ≠ 0 → stack.getTcb socketId = some tcb) {o : Outcome} (wakes : Wakes tcb o) :
    Wakeful id pending (stack.perform socketId o) := by
  refine perform_of there (fun _ => h) ?_
  rintro rfl real
  obtain ⟨past, queued⟩ := h tcb (there real)
  refine ⟨wakes.past past, fun sendable => ?_⟩
  rcases wakes.queues past sendable with dirty | before
  · exact Or.inl dirty
  · exact Or.inr (queued before)

/-- A visit takes one id off the pending ones, and queues it again where it must. -/
theorem processBlock {ids : List UInt64} (h : Wakeful id (socketId :: ids) stack) (now : Int) :
    Wakeful id ids (stack.processBlock socketId now) := by
  rw [TcpStack.processBlock, withTcb]
  split
  · next tcb there =>
    refine perform_of (fun _ => there) ?_ ?_
    · intro differ block found
      obtain ⟨past, queued⟩ := h block found
      refine ⟨past, fun sendable => ?_⟩
      rw [List.cons_append, List.mem_cons] at queued
      rcases queued sendable with same | later
      · exact absurd same.symm differ
      · exact later
    · rintro rfl _
      have state := tcb.processBlock_currentState now
      refine ⟨by rw [state]; exact (h tcb there).1, fun sendable => Or.inl ?_⟩
      have sends : TransmitsData tcb.currentState = true := by
        rw [← state, sendable.1]
        rfl
      exact processBlock_requeues sends sendable.2
  · next absent =>
    intro block found
    by_cases same : id = socketId
    · rw [same, absent] at found
      cases found
    · obtain ⟨past, queued⟩ := h block found
      refine ⟨past, fun sendable => ?_⟩
      rw [List.cons_append, List.mem_cons] at queued
      rcases queued sendable with here | later
      · exact absurd here same
      · exact later

theorem processDirtyBlocks (h : Wakeful id [] stack) (now : Int) :
    Wakeful id [] (stack.processDirtyBlocks now) := by
  have visited : ∀ (ids : List UInt64) (stack : TcpStack), Wakeful id ids stack →
      Wakeful id [] (ids.foldl (fun stack socketId => stack.processBlock socketId now) stack) := by
    intro ids
    induction ids with
    | nil => exact fun _ done => done
    | cons socketId ids ih => exact fun stack pending => ih _ (pending.processBlock now)
  refine visited stack.dirtySocketIds { stack with dirtySocketIds := [] } ?_
  intro tcb found
  rw [List.append_nil]
  exact h tcb found

theorem checkRetransmissions (h : Wakeful id pending stack) (now : Int) :
    Wakeful id pending (stack.checkRetransmissions now) := by
  rw [TcpStack.checkRetransmissions]
  generalize stack.socketTable.sockets.keys = ids
  induction ids generalizing stack with
  | nil => exact h
  | cons socketId ids ih =>
    rw [List.foldl_cons]
    apply ih
    split
    · next tcb entry =>
      exact h.perform (fun real => SocketTable.findSocket_eq_some_iff.mpr ⟨real, entry⟩)
        (tcb.checkRetransmission_wakes now)
    · exact h

theorem processIncomingPacket (h : Wakeful id pending stack)
    (fresh : stack.socketTable.nextId ≠ id) (packet : Segment) (iss : UInt32) :
    Wakeful id pending (stack.processIncomingPacket packet iss) := by
  obtain ⟨dirty, others⟩ := stack.handlePassiveOpenSyn_others packet iss
  have passive : Wakeful id pending (stack.handlePassiveOpenSyn packet iss) :=
    h.of_same (others id fresh.symm) dirty
  cases bound : stack.registered packet.src packet.dst with
  | none =>
    rw [processIncomingPacket_of_unregistered bound]
    split_ifs
    · exact passive
    · rw [writePackets_eq]
      exact h
  | some tcb =>
    by_cases listen : tcb.currentState = .listen
    · rw [processIncomingPacket_of_listening bound listen]
      exact passive
    · rw [processIncomingPacket_of_bound bound listen]
      exact h.perform (fun _ => bound) (tcb.receive_wakes packet)

theorem send (h : Wakeful id pending stack) (data : List UInt8) :
    Wakeful id pending (stack.step (.send socketId data)) := by
  simp only [step, TcpSocket.send]
  split
  · exact h
  · next tcb there =>
    cases written : tcb.send data with
    | none => exact h
    | some sent => exact h.perform (fun _ => there) (send_wakes written)

theorem recv (h : Wakeful id pending stack) (len : Nat) :
    Wakeful id pending (stack.step (.recv socketId len)) := by
  simp only [step, TcpSocket.recv]
  split
  · exact h
  · next tcb there =>
    cases taken : tcb.recv len with
    | none => exact h
    | some got =>
      obtain ⟨_, _, rfl⟩ := Option.map_eq_some_iff.mp taken
      intro after found
      by_cases same : id = socketId
      · rw [same] at found
        change (stack.socketTable.setSocket socketId _).findSocket socketId = _ at found
        rw [SocketTable.findSocket_setSocket _ (SocketTable.ne_zero_of_findSocket there),
          Option.some.injEq] at found
        rw [← found]
        exact h tcb (same ▸ there)
      · change (stack.socketTable.setSocket socketId _).findSocket id = _ at found
        rw [SocketTable.findSocket_setSocket_ne _ same] at found
        exact h after found

theorem resumeWrite (h : Wakeful id pending stack) :
    Wakeful id pending (stack.step .resumeWrite) := by
  simp only [step]
  split
  · next socketId payload _ =>
    have woken : Wakeful id pending { stack with waiting := none } := h
    rw [withTcb]
    split
    · next tcb there => exact woken.perform (fun _ => there) (tcb.storePayload_wakes payload)
    · exact woken
  · exact h

end Wakeful

/-- Sends and reads of any application, the work of the daemon thread, and whatever
arrives from the network or the stack itself. -/
def IsTraffic : StackEvent → Prop
  | .send _ _ | .recv _ _ | .incoming _ _ | .loopback _ | .processDirtyBlocks _
  | .checkRetransmissions _ | .resumeWrite => True
  | _ => False

theorem Wakeful.daemon {id : UInt64} {stack : TcpStack} (h : Wakeful id [] stack)
    {work : TcpStack → TcpStack} (done : Wakeful id [] (work stack)) :
    Wakeful id [] (stack.daemon work) := by
  rw [TcpStack.daemon]
  split_ifs
  · exact h
  · exact done

theorem Wakeful.step {id : UInt64} {stack : TcpStack} (h : Wakeful id [] stack)
    (fresh : stack.socketTable.nextId ≠ id) {event : StackEvent} (traffic : IsTraffic event) :
    Wakeful id [] (stack.step event) := by
  cases event with
  | send socketId data => exact h.send data
  | recv socketId len => exact h.recv len
  | incoming packet iss => exact h.daemon (h.processIncomingPacket fresh packet iss)
  | loopback iss =>
    refine h.daemon ?_
    split
    · next packet rest _ =>
      have popped : Wakeful id [] { stack with loopbackPacketQueue := rest } := h
      exact popped.processIncomingPacket fresh packet iss
    · exact h
  | processDirtyBlocks now => exact h.daemon (h.processDirtyBlocks now)
  | checkRetransmissions now => exact h.daemon (h.checkRetransmissions now)
  | resumeWrite => exact h.resumeWrite
  | _ => exact traffic.elim

/-- The connection with this id, while it is ESTABLISHED and can send, is in the queue. -/
def WakesSender (id : UInt64) (stack : TcpStack) : Prop :=
  ∀ tcb, stack.getTcb id = some tcb → tcb.currentState = .established →
    tcb.inFlight.toNat < tcb.sendBuffer.size → tcb.inFlight.toNat < tcb.snd.wnd.toNat →
    id ∈ stack.dirtySocketIds

/-- From an ESTABLISHED connection with nothing to send on, whatever is sent on any
socket and whatever arrives, no wake-up is lost. The id is the connection's as long as
the 64-bit counter does not come round to it. -/
theorem run_wakesSender (stack : TcpStack) (id : UInt64) (tcb : TransmissionControlBlock)
    (found : stack.getTcb id = some tcb) (established : tcb.currentState = .established)
    (empty : tcb.sendBuffer.contents = []) (events : List StackEvent)
    (traffic : ∀ event ∈ events, IsTraffic event)
    (fresh : Throughout step (fun stack _ => stack.socketTable.nextId ≠ id) stack events) :
    Always step (WakesSender id) stack events := by
  have initial : Wakeful id [] stack := by
    intro block same
    rw [found, Option.some.injEq] at same
    rw [← same]
    refine ⟨by rw [established]; exact ⟨by decide, by decide⟩, fun sendable => ?_⟩
    have size := tcb.sendBuffer.contents_eq_nil_iff.mp empty
    have unsent := (tcb.sendable_iff.mp sendable).2.1
    omega
  intro done hpre block there state unsent window
  have wakeful := run_invariant_of_throughout (fun _ _ traffic h fresh => h.step fresh traffic)
    initial done (fun event member => traffic event (hpre.subset member))
    (throughout_take hpre fresh)
  exact (wakeful block there).2 (block.sendable_iff.mpr ⟨state, unsent, window⟩)

theorem sampleAccepted_wakesSender :
    Always step (WakesSender 2) sampleAccepted
      [.send 2 [1, 2, 3], .incoming (sampleSegment 101 301 1 [9]) 0, .processDirtyBlocks 5,
        .incoming (sampleSegment 102 302 1 []) 0] := by
  have child : ∃ tcb, sampleAccepted.getTcb 2 = some tcb ∧ tcb.currentState = .established ∧
      tcb.sendBuffer.contents = [] := ⟨_, rfl, by decide, by decide⟩
  obtain ⟨tcb, found, established, empty⟩ := child
  refine run_wakesSender sampleAccepted 2 tcb found established empty _ ?_ ?_
  · simp [IsTraffic]
  · exact ⟨by decide, by decide, by decide, by decide, trivial⟩

end TcpStack
end TinyCP
