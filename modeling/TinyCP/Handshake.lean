import TinyCP.HandshakeSides

/-!
# The three-way handshake against a listening stack

Whatever the network does to the segments, the two sides keep explaining each other. A
child that is registered announced its numbers in one SYN-ACK, and so did the one from
which the client learned its peer's number. An established child was acknowledged with
the client's number, so both announcements carry the same sequence number and hence,
where no two children draw the same one, are the same segment.
-/
namespace TinyCP
open EventRun LossyNetwork

namespace Handshake

variable {client server : IPv4Address} {iss : UInt32} {toA : List Segment}
  {tcb : TransmissionControlBlock} {packet : Segment}

structure Agreement (client server : IPv4Address) (iss : UInt32)
    (net : Net Endpoint TcpStack Segment) : Prop where
  holds : Client client server iss net.toA net.a.tcb
  awake : net.a.waiting = none
  serves : Server client server net.toA net.a.tcb net.b
  toA : ∀ packet ∈ net.toA, FromServer client server packet
  toB : ∀ packet ∈ net.toB, FromClient client server net.a.tcb packet

variable {net : Net Endpoint TcpStack Segment}

theorem Agreement.perform (h : Agreement client server iss net) {e : Endpoint} {o : Outcome}
    (awake : e.waiting = none) (move : ClientMove client server iss net.toA net.a.tcb o) :
    Agreement client server iss (net.afterA (e.perform o)) := by
  refine ⟨move.holds, ?_, ⟨?_, h.serves.idle⟩, h.toA, ?_⟩
  · simp [Net.afterA, Endpoint.perform, move.awake, awake]
  · exact fun child bound => (h.serves.child child bound).persists move.persists
  · intro packet hmem
    rcases List.mem_append.mp hmem with old | new
    · exact (h.toB packet old).persists move.persists
    · exact move.out packet new

theorem Agreement.actA (h : Agreement client server iss net) (input : ClientStep)
    (work : IsClientWork input) :
    Agreement client server iss (net.afterA (clientNode.act net.a input)) := by
  cases input with
  | oldSyn seqNum window =>
    refine ⟨h.holds, h.awake, h.serves, h.toA, ?_⟩
    intro packet hmem
    rcases List.mem_append.mp hmem with old | new
    · exact h.toB packet old
    · rw [List.mem_singleton.mp new]
      exact ⟨h.holds.src_eq, h.holds.dst_eq, rfl, rfl, Or.inl ⟨rfl, rfl, rfl⟩⟩
  | own action =>
    have done := net.a.act_done action
    change Agreement client server iss (net.afterA (net.a.act action))
    generalize net.a.act action = result at done ⊢
    cases done with
    | stay =>
      refine ⟨h.holds, h.awake, h.serves, h.toA, ?_⟩
      simpa only [Net.afterA, List.append_nil] using h.toB
    | processBlock now awake => exact h.perform awake (h.holds.processBlock now)
    | processDirty now awake _ =>
      have awake' : ({ net.a with dirty := net.a.dirty - 1 } : Endpoint).waiting = none := awake
      exact h.perform awake' (h.holds.processBlock now)
    | checkRetransmissions now awake => exact h.perform awake (h.holds.checkRetransmission now)
    | send => exact False.elim work
    | recv => exact False.elim work
    | receive => exact False.elim work
    | resumeWrite => exact False.elim work
    | close => exact False.elim work

theorem Agreement.takeA (h : Agreement client server iss net) (sent : packet ∈ net.toA) :
    Agreement client server iss (net.afterA (clientNode.take net.a () packet)) := by
  have acted : clientNode.take net.a () packet = net.a.perform (net.a.tcb.receive packet) := by
    simp [clientNode, Endpoint.act, Endpoint.daemon, h.awake]
  rw [acted]
  exact h.perform h.awake (h.holds.receive sent (h.toA packet sent))

/-- Whatever the stack does, it keeps the agreement if its answers and its child do. -/
theorem Agreement.afterB (h : Agreement client server iss net) {stack : TcpStack}
    {answers : List Segment} (fromServer : ∀ packet ∈ answers, FromServer client server packet)
    (serves : Server client server (net.toA ++ answers) net.a.tcb stack) :
    Agreement client server iss (net.afterB (stack, answers)) := by
  refine ⟨⟨h.holds.src_eq, h.holds.dst_eq, h.holds.nxt_eq, h.holds.empty, ?_⟩, h.awake, serves,
    List.forall_mem_append.mpr ⟨h.toA, fromServer⟩, h.toB⟩
  rcases h.holds.state with state | state | ⟨state, announced⟩
  · exact Or.inl state
  · exact Or.inr (Or.inl state)
  · exact Or.inr (Or.inr ⟨state, announced.append answers⟩)

theorem Agreement.silent (h : Agreement client server iss net) {next : TcpStack}
    (silent : Silent client server net.toA net.a.tcb net.b next) :
    Agreement client server iss (net.afterB (next, sentTo client server net.b next)) := by
  rw [silent.sentTo_eq]
  exact h.afterB (by simp) (silent.serves.append [])

theorem Agreement.actB (h : Agreement client server iss net) (event : StackEvent)
    (work : IsServerWork event) :
    Agreement client server iss (net.afterB ((serverNode client server).act net.b event)) := by
  apply h.silent
  cases event with
  | accept listenerId => exact h.serves.accept listenerId
  | processDirtyBlocks now =>
    simp only [TcpStack.step, TcpStack.daemon]
    split_ifs
    · exact h.serves.silent
    · exact h.serves.processDirtyBlocks now
  | checkRetransmissions now =>
    simp only [TcpStack.step, TcpStack.daemon]
    split_ifs
    · exact h.serves.silent
    · exact h.serves.checkRetransmissions now
  | _ => exact False.elim work

theorem Agreement.takeB (h : Agreement client server iss net) (sent : packet ∈ net.toB)
    (draw : UInt32) :
    Agreement client server iss
      (net.afterB ((serverNode client server).take net.b draw packet)) := by
  have fromClient := h.toB packet sent
  simp only [serverNode, TcpStack.step, TcpStack.daemon]
  split_ifs
  · exact h.silent h.serves.silent
  have idle := h.serves.idle_processIncomingPacket fromClient draw
  have dispatched := net.b.processIncomingPacket_dispatched packet draw
  generalize net.b.processIncomingPacket packet draw = next at dispatched idle ⊢
  cases dispatched with
  | opened unregistered syn noAck bound written =>
    rw [fromClient.src_eq, fromClient.dst_eq] at bound
    have answer : ∀ answer ∈ [(net.b.childOf packet draw).sendControlPacket true true false false
        draw (packet.seqNum + 1)], FromServer client server answer := by
      intro answer hmem
      rw [List.mem_singleton.mp hmem]
      exact ⟨fromClient.dst_eq, fromClient.src_eq, rfl, rfl, Or.inr ⟨rfl, rfl, rfl⟩⟩
    rw [sentTo_eq written answer]
    refine h.afterB answer ⟨?_, idle⟩
    intro child registered
    obtain rfl := Option.some.inj (bound.symm.trans registered)
    exact ⟨⟨_, List.mem_append_right _ List.mem_cons_self, rfl, rfl, rfl⟩, rfl, Or.inl rfl⟩
  | refused unregistered still answers reset written =>
    rw [fromClient.src_eq, fromClient.dst_eq] at still
    have answer : ∀ packet ∈ answers, FromServer client server packet := by
      rcases reset with rfl | rfl
      · exact fromClient.reset_fromServer
      · simp
    rw [sentTo_eq written answer]
    refine h.afterB answer ⟨?_, idle⟩
    intro child registered
    rw [still] at registered
    cases registered
  | listening block bound state _ =>
    rw [fromClient.src_eq, fromClient.dst_eq] at bound
    rcases (h.serves.child block bound).state with other | ⟨other, _⟩
    · rw [state] at other
      cases other
    · rw [state] at other
      cases other
  | handled block bound _ after aborted written =>
    rw [fromClient.src_eq, fromClient.dst_eq] at bound after aborted
    obtain ⟨silent, _, continues⟩ := (h.serves.child block bound).receive fromClient
    rw [silent] at written
    rw [sentTo_eq written (by simp)]
    refine h.afterB (by simp) ⟨?_, idle⟩
    intro child registered
    rw [List.append_nil]
    rcases continues with ⟨peer, effect⟩ | continues
    · rw [aborted peer effect] at registered
      cases registered
    · exact continues.queue (after child registered)

theorem Agreement.step (h : Agreement client server iss net)
    (event : Event ClientStep Unit StackEvent UInt32)
    (permitted : Permits IsClientWork IsServerWork event) :
    Agreement client server iss
      (LossyNetwork.step clientNode (serverNode client server) net event) := by
  have moved : Moved clientNode (serverNode client server) net event
      (LossyNetwork.step clientNode (serverNode client server) net event) := step_moved net event
  generalize LossyNetwork.step clientNode (serverNode client server) net event = result at moved ⊢
  cases moved with
  | stay => exact h
  | actA input => exact h.actA input permitted
  | takeA _ _ packet sent => exact h.takeA sent
  | actB event => exact h.actB event permitted
  | takeB draw _ packet sent => exact h.takeB sent draw

/-- The client as `connect` leaves it, and the stack. -/
def connecting (tcb : TransmissionControlBlock) (iss : UInt32) (stack : TcpStack) :
    Net Endpoint TcpStack Segment where
  a := .fresh (tcb.connect iss)
  b := stack
  toA := []
  toB := []

theorem Agreement.initial {stack : TcpStack} (empty : tcb.sendBuffer.contents = [])
    (unregistered : stack.registered tcb.srcAddress tcb.dstAddress = none)
    (idle : AllIdle tcb.srcAddress tcb.dstAddress stack) :
    Agreement tcb.srcAddress tcb.dstAddress iss (connecting tcb iss stack) := by
  refine ⟨⟨rfl, rfl, rfl, empty, Or.inl rfl⟩, rfl, ⟨?_, idle⟩, by simp [connecting],
    by simp [connecting]⟩
  intro child bound
  rw [show (connecting tcb iss stack).b = stack from rfl, unregistered] at bound
  cases bound

/-- Two announcements of one number are one segment, where no number is announced twice. -/
theorem Announced.unique {nxt first second : UInt32}
    (distinct : ((toA.filter (·.syn)).map (·.seqNum)).Nodup) (h : Announced toA nxt first)
    (h' : Announced toA nxt second) : first = second := by
  obtain ⟨packet, sent, syn, name, expected⟩ := h
  obtain ⟨packet', sent', syn', name', expected'⟩ := h'
  have seqNum : packet.seqNum = packet'.seqNum := by
    have both := name.trans name'.symm
    simpa using both
  have same := List.inj_on_of_nodup_map distinct (List.mem_filter.mpr ⟨sent, syn⟩)
    (List.mem_filter.mpr ⟨sent', syn'⟩) seqNum
  rw [← expected, ← expected', same]

end Handshake

open Handshake in
/-- When the client is established and so is the child registered for it, the two agree
on both initial sequence numbers, whatever was lost, repeated or reordered and whichever
old SYNs the stack has answered, provided that no two of its SYN-ACKs share a number. The
stack may hold any other sockets; between the two addresses none has data or opens. -/
theorem handshake_agrees (tcb : TransmissionControlBlock) (iss : UInt32) (stack : TcpStack)
    (empty : tcb.sendBuffer.contents = [])
    (unregistered : stack.registered tcb.srcAddress tcb.dstAddress = none)
    (idle : AllIdle tcb.srcAddress tcb.dstAddress stack)
    (events : List (Event ClientStep Unit StackEvent UInt32))
    (permitted : ∀ event ∈ events, Permits IsClientWork IsServerWork event)
    (distinct : (((run (step clientNode (serverNode tcb.srcAddress tcb.dstAddress))
      (connecting tcb iss stack) events).toA.filter (·.syn)).map (·.seqNum)).Nodup) :
    let net := run (step clientNode (serverNode tcb.srcAddress tcb.dstAddress))
      (connecting tcb iss stack) events
    net.a.tcb.currentState = .established →
    ∀ child, net.b.registered tcb.srcAddress tcb.dstAddress = some child →
      child.currentState = .established →
      net.a.tcb.rcv.nxt = child.snd.nxt ∧ child.rcv.nxt = net.a.tcb.snd.nxt := by
  intro net established child bound childEstablished
  have preserve : ∀ net event, Permits IsClientWork IsServerWork event →
      Agreement tcb.srcAddress tcb.dstAddress iss net → Agreement tcb.srcAddress tcb.dstAddress iss
        (step clientNode (serverNode tcb.srcAddress tcb.dstAddress) net event) :=
    fun net event permitted h => h.step event permitted
  have final : Agreement tcb.srcAddress tcb.dstAddress iss net :=
    run_invariant preserve (Agreement.initial empty unregistered idle) events permitted
  have explained := final.serves.child child bound
  have agrees : child.snd.nxt = net.a.tcb.rcv.nxt := by
    rcases explained.state with received | ⟨_, _, agrees⟩
    · rw [received] at childEstablished
      cases childEstablished
    · exact agrees
  have announced : Announced net.toA net.a.tcb.rcv.nxt (iss + 1) := by
    rcases final.holds.state with state | state | ⟨_, announced⟩
    · rw [state] at established
      cases established
    · rw [state] at established
      cases established
    · exact announced
  have answered := explained.announced
  rw [agrees] at answered
  refine ⟨agrees.symm, ?_⟩
  rw [final.holds.nxt_eq]
  exact answered.unique distinct announced

/-- A stack that listens at the address to which `sampleTcb` connects. -/
def sampleListener : TcpStack :=
  run TcpStack.step (.new 0x0A000003) [.bind ⟨0x0A000003, 9090⟩ 0, .listen 1]

theorem allIdle_sampleListener (client server : IPv4Address) :
    Handshake.AllIdle client server sampleListener := by
  intro id block found _ _
  have keys : sampleListener.socketTable.sockets.keys = [1] := by decide
  have known : id ∈ sampleListener.socketTable.sockets.keys := by
    rw [← AList.mem_keys, ← AList.lookup_isSome, found]
    rfl
  rw [keys, List.mem_singleton] at known
  have listener : ∀ block ∈ sampleListener.socketTable.sockets.lookup 1,
      block.sendBuffer.contents = [] ∧ block.currentState = .listen := by decide
  rw [known] at found
  obtain ⟨empty, state⟩ := listener block found
  refine ⟨empty, ?_⟩
  rw [state]
  decide

/-- An old SYN opens a child that the client resets; then the handshake proper, with
the server's daemon and application at work. -/
def sampleOldDuplicate : List (Event Handshake.ClientStep Unit StackEvent UInt32) :=
  [.actA (.oldSyn 5 65535), .takeB 300 0, .actB (.checkRetransmissions 0), .takeA () 0, .takeB 0 1,
    .actA (.own (.processBlock 0)), .takeB 700 2, .takeA () 1, .actB (.processDirtyBlocks 0),
    .takeB 0 3, .actB (.accept 1)]

theorem handshake_agrees_oldDuplicate :
    let net := run (step Handshake.clientNode
      (Handshake.serverNode sampleTcb.srcAddress sampleTcb.dstAddress))
      (Handshake.connecting sampleTcb 100 sampleListener) sampleOldDuplicate
    ∃ child, net.b.registered sampleTcb.srcAddress sampleTcb.dstAddress = some child ∧
      child.currentState = .established ∧
      net.a.tcb.rcv.nxt = child.snd.nxt ∧ child.rcv.nxt = net.a.tcb.snd.nxt := by
  have permitted : ∀ event ∈ sampleOldDuplicate,
      Permits Handshake.IsClientWork Handshake.IsServerWork event := by
    simp [sampleOldDuplicate, Permits, Handshake.IsClientWork, Handshake.IsServerWork,
      IsDaemonWork]
  have agrees := handshake_agrees sampleTcb 100 sampleListener rfl (by rfl)
    (allIdle_sampleListener _ _) sampleOldDuplicate permitted (by decide)
  refine ⟨_, rfl, by decide, agrees (by decide) _ rfl (by decide)⟩

end TinyCP
