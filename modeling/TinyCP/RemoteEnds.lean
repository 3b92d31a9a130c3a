import TinyCP.LoopbackLinks
import TinyCP.Emissions

/-!
# One end of a connection to another host

The other end is on another machine, so the segments of such a socket all go to the device.
Whatever the stack does for other sockets, it writes no segment between the two addresses
of the connection.
-/
namespace TinyCP
open EventRun

namespace TcpStack
open TransmissionControlBlock

/-- The socket is one end of a connection, and the other end is not on this host. -/
structure Remote (a : UInt64) (pa pb : IPv4Address) (stack : TcpStack) : Prop where
  routed : Routed stack
  owns : Owns ⟨pb, pa⟩ a stack
  vacant : ∀ id tcb, stack.getTcb id = some tcb → tcb.connectionKey ≠ ⟨pa, pb⟩
  away : ∀ packet : Segment, packet.src = pa → packet.dst = pb → stack.isLocal packet = false

/-- The segments that have been written on the way from one stack to the next. -/
structure Writes (out : List Segment) (before after : TcpStack) : Prop where
  written : after.written = before.written ++ out
  queue : after.loopbackPacketQueue = before.loopbackPacketQueue ++ out.filter before.isLocal
  home : after.localAddress = before.localAddress

namespace Writes
variable {first second third : TcpStack} {out more : List Segment}

theorem isLocal (h : Writes out first second) : second.isLocal = first.isLocal := by
  funext packet
  rw [TcpStack.isLocal, TcpStack.isLocal, h.home]

theorem none (stack : TcpStack) : Writes [] stack stack :=
  ⟨(List.append_nil _).symm, (List.append_nil _).symm, rfl⟩

theorem of_same (written : second.written = first.written)
    (queue : second.loopbackPacketQueue = first.loopbackPacketQueue)
    (home : second.localAddress = first.localAddress) : Writes [] first second := by
  refine ⟨?_, ?_, home⟩
  · rw [written, List.append_nil]
  · rw [queue, List.filter_nil, List.append_nil]

theorem trans (h : Writes out first second) (h' : Writes more second third) :
    Writes (out ++ more) first third := by
  refine ⟨?_, ?_, h'.home.trans h.home⟩
  · rw [h'.written, h.written, List.append_assoc]
  · rw [h'.queue, h.queue, h.isLocal, List.append_assoc, List.filter_append]

theorem perform (stack : TcpStack) (socketId : UInt64) (o : Outcome) :
    Writes o.out stack (stack.perform socketId o) := by
  rw [stack.perform_frame socketId o]
  exact ⟨rfl, rfl, rfl⟩

theorem writePackets (stack : TcpStack) (packets : List Segment) :
    Writes packets stack (packets.foldl writePacket stack) := by
  rw [writePackets_eq]
  exact ⟨rfl, rfl, rfl⟩

theorem of_output {op : TcpStack → TcpStack} (h : Output op first out) : Writes out first (op first) :=
  ⟨h.written, h.queue, h.home⟩

theorem writePacket (written : second.written = first.written)
    (queue : second.loopbackPacketQueue = first.loopbackPacketQueue)
    (home : second.localAddress = first.localAddress) (packet : Segment) :
    Writes [packet] first (second.writePacket packet) :=
  (of_same written queue home).trans (.writePackets second [packet])

end Writes

/-- The step leaves the end alone and writes nothing between its two addresses. -/
structure Aside (a : UInt64) (pa pb : IPv4Address) (before after : TcpStack) : Prop where
  remote : Remote a pa pb after
  wrote : ∃ out, Writes out before after ∧ ∀ packet ∈ out, Elsewhere pa pb packet

namespace Aside
variable {a : UInt64} {pa pb : IPv4Address} {first second third : TcpStack}

theorem trans (h : Aside a pa pb first second) (h' : Aside a pa pb second third) :
    Aside a pa pb first third := by
  obtain ⟨out, writes, elsewhere⟩ := h.wrote
  obtain ⟨more, writes', elsewhere'⟩ := h'.wrote
  refine ⟨h'.remote, out ++ more, writes.trans writes', fun packet member => ?_⟩
  rcases List.mem_append.mp member with earlier | later
  · exact elsewhere packet earlier
  · exact elsewhere' packet later

theorem of_silent (remote : Remote a pa pb second) (writes : Writes [] first second) :
    Aside a pa pb first second :=
  ⟨remote, [], writes, by simp⟩

end Aside

/-- A call that gives nobody an address and closes nothing leaves the entries alone. -/
theorem call_connectionTable {stack : TcpStack} {event : StackEvent} (made : event.isCall = true)
    (keeps : stack.givesRoute event = none) (stays : ∀ socketId now, event ≠ .close socketId now) :
    (stack.step event).connectionTable = stack.connectionTable := by
  cases event with
  | bind addr iss => cases keeps
  | connect socketId addr iss =>
    rw [givesRoute] at keeps
    split at keeps <;> cases keeps
  | listen socketId =>
    simp only [TcpStack.step, TcpSocket.listen]
    split
    · rfl
    · split_ifs <;> rfl
  | accept socketId =>
    simp only [TcpStack.step, TcpSocket.accept]
    split
    · rfl
    · split_ifs
      · rfl
      · split <;> rfl
  | send socketId data =>
    simp only [TcpStack.step, TcpSocket.send]
    split
    · rfl
    · next tcb _ =>
      cases written : tcb.send data with
      | none => rfl
      | some sent =>
        have plain : sent.1.effect = .none := by
          obtain ⟨_, _, rfl⟩ := Option.map_eq_some_iff.mp written
          rfl
        exact (stack.perform_of_plain socketId plain).2
  | recv socketId len =>
    simp only [TcpStack.step, TcpSocket.recv]
    split
    · rfl
    · next tcb _ => cases tcb.recv len <;> rfl
  | close socketId now => exact absurd rfl (stays socketId now)
  | _ => cases made

namespace Remote
variable {a other : UInt64} {pa pb : IPv4Address} {stack next : TcpStack}
variable {tcb : TransmissionControlBlock} {o : Outcome} {packet : Segment}

theorem differ (h : Remote a pa pb stack) : pa ≠ pb := by
  rintro rfl
  have away := h.away ⟨pa, pa, 0, 0, false, false, false, false, 0, []⟩ rfl rfl
  simp [isLocal] at away

theorem quiet (h : Remote a pa pb stack) : Aside a pa pb stack stack :=
  .of_silent h (.none stack)

theorem kept (h : Remote a pa pb stack) (keeps : KeepsRoutes stack next)
    (entry : next.connectionTable.connections.lookup ⟨pb, pa⟩ = some a)
    (home : next.localAddress = stack.localAddress) : Remote a pa pb next := by
  have same : next.isLocal = stack.isLocal := by
    funext packet
    rw [isLocal, isLocal, home]
  refine ⟨keeps.routed h.routed, h.owns.keeps keeps entry, ?_, ?_⟩
  · intro id tcb found
    obtain ⟨old, before, unchanged⟩ := keeps.sockets id tcb found
    rw [unchanged]
    exact h.vacant id old before
  · rw [same]
    exact h.away

theorem keeps (h : Remote a pa pb stack) (keeps : KeepsRoutes stack next)
    (connections : next.connectionTable = stack.connectionTable) (writes : Writes [] stack next) :
    Aside a pa pb stack next := by
  refine .of_silent (h.kept keeps ?_ writes.home) writes
  rw [connections]
  exact h.owns.entry

theorem key (h : Remote a pa pb stack) (found : stack.getTcb a = some tcb) :
    tcb.connectionKey = ⟨pb, pa⟩ :=
  h.routed _ a tcb h.owns.entry found

/-- The segments of a block are between its own addresses. -/
theorem elsewhere_of_own (own : Own tcb o) (apart : tcb.connectionKey ≠ ⟨pb, pa⟩)
    (vacant : tcb.connectionKey ≠ ⟨pa, pb⟩) : ∀ packet ∈ o.out, Elsewhere pa pb packet := by
  intro packet member
  obtain ⟨source, target⟩ := own.out packet member
  rw [connectionKey, ← source, ← target] at apart vacant
  refine ⟨fun here => apart ?_, fun here => vacant ?_⟩
  · rw [here.1, here.2]
  · rw [here.1, here.2]

/-- A block other than this end. -/
theorem perform_other (h : Remote a pa pb stack) (found : stack.getTcb other = some tcb)
    (own : Own tcb o) (apart : other ≠ a) : Aside a pa pb stack (stack.perform other o) := by
  have differs : tcb.connectionKey ≠ ⟨pb, pa⟩ := fun same => apart (h.owns.only other tcb found same)
  have vacant := h.vacant other tcb found
  have keeps : KeepsRoutes stack (stack.perform other o) :=
    perform_keepsRoutes fun _ => ⟨tcb, found, own.key⟩
  refine ⟨h.kept keeps (h.owns.perform found own apart vacant).entry (stack.perform_localAddress other o),
    o.out, .perform stack other o, elsewhere_of_own own differs vacant⟩

/-- The block of this end, when it asks nothing of the tables. -/
theorem perform_own (h : Remote a pa pb stack) (found : stack.getTcb a = some tcb)
    (own : Own tcb o) (plain : o.effect = .none) :
    Remote a pa pb (stack.perform a o) ∧ ∀ packet ∈ o.out, packet.src = pa ∧ packet.dst = pb := by
  have keeps : KeepsRoutes stack (stack.perform a o) :=
    perform_keepsRoutes fun _ => ⟨tcb, found, own.key⟩
  obtain ⟨target, source⟩ := ConnectionKey.mk.inj (h.key found)
  refine ⟨h.kept keeps ?_ (stack.perform_localAddress a o), fun packet member => ?_⟩
  · rw [(stack.perform_of_plain a plain).2]
    exact h.owns.entry
  · rw [(own.out packet member).1, (own.out packet member).2]
    exact ⟨source, target⟩

/-- Another socket is given addresses of its own. -/
theorem gives {route : ConnectionKey} (h : Remote a pa pb stack)
    (gives : GivesRoute stack next other route)
    (free : other ≠ 0 → ∀ key, stack.connectionTable.connections.lookup key = some other →
      key = route)
    (apart : route ≠ ⟨pb, pa⟩ ∧ route ≠ ⟨pa, pb⟩) (home : next.localAddress = stack.localAddress) :
    Remote a pa pb next := by
  have same : next.isLocal = stack.isLocal := by
    funext packet
    rw [isLocal, isLocal, home]
  refine ⟨(gives.routed_iff h.routed).mpr free, h.owns.gives gives apart.1, ?_, ?_⟩
  · intro id tcb found
    by_cases own : id = other
    · rw [own] at found
      obtain ⟨block, there, routed⟩ := gives.own (SocketTable.ne_zero_of_findSocket found)
      rw [there, Option.some.injEq] at found
      rw [← found, routed]
      exact apart.2
    · obtain ⟨old, before, unchanged⟩ := gives.sockets id tcb own found
      rw [unchanged]
      exact h.vacant id old before
  · rw [same]
    exact h.away

theorem handlePassiveOpenSyn (h : Remote a pa pb stack) (elsewhere : Elsewhere pa pb packet)
    (unused : ∀ key, stack.connectionTable.connections.lookup key ≠ some stack.socketTable.nextId)
    (iss : UInt32) : Aside a pa pb stack (stack.handlePassiveOpenSyn packet iss) := by
  by_cases bareSyn : stack.listenerTable.find stack.socketTable packet.dst.port ≠ 0 ∧
      packet.syn ∧ !packet.ack
  · have gives := handlePassiveOpenSyn_givesRoute iss bareSyn
    have apart : (⟨packet.src, packet.dst⟩ : ConnectionKey) ≠ ⟨pb, pa⟩ ∧
        (⟨packet.src, packet.dst⟩ : ConnectionKey) ≠ ⟨pa, pb⟩ := by
      rw [ne_eq, ne_eq, ConnectionKey.mk.injEq, ConnectionKey.mk.injEq]
      exact ⟨elsewhere.2, elsewhere.1⟩
    have remote := fun same => h.gives gives (fun _ key entry => absurd entry (unused key)) apart same
    by_cases wrapped : stack.socketTable.nextId = 0
    · rw [handlePassiveOpenSyn_wrapped iss bareSyn wrapped] at remote ⊢
      exact .of_silent (remote rfl) (.of_same rfl rfl rfl)
    · rw [handlePassiveOpenSyn_eq iss bareSyn wrapped] at remote ⊢
      -- The SYN-ACK goes back the way the segment came.
      refine ⟨remote rfl, _, .writePacket (by rfl) (by rfl) (by rfl) _, ?_⟩
      intro answer member
      rw [List.mem_singleton] at member
      rw [member]
      exact ⟨fun here => elsewhere.2 ⟨here.2, here.1⟩, fun here => elsewhere.1 ⟨here.2, here.1⟩⟩
  · rw [TcpStack.handlePassiveOpenSyn, if_neg bareSyn]
    exact h.quiet

theorem processIncomingPacket (h : Remote a pa pb stack) (elsewhere : Elsewhere pa pb packet)
    (unused : ∀ key, stack.connectionTable.connections.lookup key ≠ some stack.socketTable.nextId)
    (iss : UInt32) : Aside a pa pb stack (stack.processIncomingPacket packet iss) := by
  cases bound : stack.registered packet.src packet.dst with
  | none =>
    rw [processIncomingPacket_of_unregistered bound]
    split_ifs
    · exact h.handlePassiveOpenSyn elsewhere unused iss
    · have writes := Writes.writePackets stack (handleClosedResetResponse packet)
      refine ⟨h.kept (.of_tables ?_ ?_) ?_ writes.home, _, writes, fun answer member => ?_⟩
      · rw [writePackets_eq]
      · rw [writePackets_eq]
      · rw [writePackets_eq]
        exact h.owns.entry
      · obtain ⟨source, target⟩ := handleClosedResetResponse_own member
        rw [Elsewhere, source, target]
        exact ⟨fun here => elsewhere.2 ⟨here.2, here.1⟩, fun here => elsewhere.1 ⟨here.2, here.1⟩⟩
  | some tcb =>
    by_cases state : tcb.currentState = .listen
    · rw [processIncomingPacket_of_listening bound state]
      exact h.handlePassiveOpenSyn elsewhere unused iss
    · rw [processIncomingPacket_of_bound bound state]
      obtain ⟨entry, _⟩ := (ConnectionTable.find_eq_iff (SocketTable.ne_zero_of_findSocket bound)).mp rfl
      have key := h.routed _ _ tcb entry bound
      refine h.perform_other bound (receive_own key) fun same => ?_
      rw [registered, same] at bound
      exact elsewhere.2 (ConnectionKey.mk.inj (key.symm.trans (h.key bound)))

theorem checkRetransmissions (h : Remote a pa pb stack) {now : Int} (timely : Timely a a now stack)
    (zero : stack.socketTable.sockets.lookup 0 = none) :
    Aside a pa pb stack (stack.checkRetransmissions now) := by
  rw [TcpStack.checkRetransmissions]
  generalize stack.socketTable.sockets.keys = ids
  induction ids generalizing stack with
  | nil => exact h.quiet
  | cons id ids ih =>
    rw [List.foldl_cons]
    cases entry : stack.socketTable.sockets.lookup id with
    | none => exact ih h timely zero
    | some tcb =>
      have real : id ≠ 0 := by
        rintro rfl
        rw [zero] at entry
        cases entry
      have found : stack.getTcb id = some tcb :=
        SocketTable.findSocket_eq_some_iff.mpr ⟨real, entry⟩
      have confined := tcb.checkRetransmission_confined now
      have visited : Aside a pa pb stack (stack.perform id (tcb.checkRetransmission now)) := by
        by_cases same : id = a
        · rw [same] at found ⊢
          have early := timely.checkRetransmission (Or.inl rfl) found
          refine .of_silent (h.perform_own found confined.own confined.plain).1 ?_
          have writes := Writes.perform stack a (tcb.checkRetransmission now)
          rwa [early] at writes ⊢
        · exact h.perform_other found confined.own same
      refine visited.trans (ih visited.remote (timely.perform found) ?_)
      rw [(stack.perform_of_plain id confined.plain).1]
      exact (AList.lookup_insert_ne real.symm).trans zero

/-- The daemon goes on with a write for another socket. -/
theorem resumeWrite (h : Remote a pa pb stack) (awake : stack.waitingFor a = none) :
    Aside a pa pb stack (stack.step .resumeWrite) := by
  rw [TcpStack.step]
  split
  · next socketId payload blocked =>
    have apart : socketId ≠ a := by
      rintro rfl
      simp [waitingFor, blocked] at awake
    have woken : Aside a pa pb stack { stack with waiting := none } :=
      h.keeps (.of_tables rfl rfl) rfl (.of_same rfl rfl rfl)
    refine woken.trans ?_
    rw [withTcb]
    split
    · next tcb found => exact woken.remote.perform_other found (tcb.storePayload_own payload) apart
    · exact woken.remote.quiet
  · exact h.quiet

theorem call (h : Remote a pa pb stack) {event : StackEvent} (made : event.isCall = true)
    (spares : Spares a a pa pb stack event) : Aside a pa pb stack (stack.step event) := by
  by_cases closes : ∃ socketId now, event = .close socketId now
  · obtain ⟨socketId, now, rfl⟩ := closes
    simp only [TcpStack.step, TcpSocket.close, closeConnection, withTcb]
    split_ifs
    · exact h.quiet
    · split
      · next tcb found =>
        have apart : socketId ≠ a := fun same => spares.openA now (by rw [same])
        exact h.perform_other found (tcb.closeConnection_own now) apart
      · exact h.quiet
  · have writes : Writes [] stack (stack.step event) :=
      .of_output (call_silent made fun socketId now same => closes ⟨socketId, now, same⟩)
    have moves := stack.step_moves event
    cases given : stack.givesRoute event with
    | none =>
      rw [given] at moves
      exact h.keeps moves (call_connectionTable made given fun socketId now same =>
        closes ⟨socketId, now, same⟩) writes
    | some gift =>
      rw [given] at moves
      exact .of_silent (h.gives moves (spares.oneRoute _ _ given) (spares.apart _ _ given)
        writes.home) writes

end Remote
end TcpStack
end TinyCP
