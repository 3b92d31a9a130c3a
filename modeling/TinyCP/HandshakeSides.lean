import TinyCP.Endpoint
import TinyCP.LossyNetwork
import TinyCP.StackSpecs
import TinyCP.TcpSocket

/-!
# The two sides of a three-way handshake

A client in SYN_SENT and a whole stack that listens for it, each as a node on an
unreliable network on which old SYNs of the client turn up as well. A segment from one
side is explained by the block that sent it: every SYN-ACK announces the numbers of one
child of the stack, and every acknowledgment repeats what an established client was told.
-/
namespace TinyCP
open EventRun LossyNetwork

namespace Handshake

/-- What happens on the client's side of the network by itself: the daemon's work, and
SYNs of earlier connections that the network still holds. -/
inductive ClientStep where
  | own (action : Action)
  | oldSyn (seqNum : UInt32) (window : UInt16)

def oldSyn (tcb : TransmissionControlBlock) (seqNum : UInt32) (window : UInt16) : Segment where
  src := tcb.srcAddress
  dst := tcb.dstAddress
  seqNum := seqNum
  ackNum := 0
  syn := true
  ack := false
  rst := false
  fin := false
  window := window
  payload := []

def clientNode : Node Endpoint ClientStep Unit Segment where
  act e
    | .own action => e.act action
    | .oldSyn seqNum window => (e, [oldSyn e.tcb seqNum window])
  take e _ packet := e.act (.receive packet)

/-- What the stack wrote for the client in a step. -/
def sentTo (client server : IPv4Address) (stack next : TcpStack) : List Segment :=
  (next.written.drop stack.written.length).filter
    fun packet => packet.src = server ∧ packet.dst = client

/-- The stack, which draws a sequence number for each segment it may have to answer. -/
def serverNode (client server : IPv4Address) : Node TcpStack StackEvent UInt32 Segment where
  act stack event :=
    let next := stack.step event
    (next, sentTo client server stack next)
  take stack iss packet :=
    let next := stack.step (.incoming packet iss)
    (next, sentTo client server stack next)

def IsClientWork : ClientStep → Prop
  | .own action => IsDaemonWork action
  | .oldSyn _ _ => True

/-- The daemon's own work, and an application that may accept at any moment. -/
def IsServerWork : StackEvent → Prop
  | .accept _ | .processDirtyBlocks _ | .checkRetransmissions _ => True
  | _ => False

/-- A block on which the daemon has nothing to send by itself. -/
def Idle (block : TransmissionControlBlock) : Prop :=
  block.sendBuffer.contents = [] ∧ block.currentState ≠ .synSent

/-- A SYN-ACK on the wire says that its sender's next number is `nxt` and that it
expects `expected`. -/
def Announced (wire : List Segment) (nxt expected : UInt32) : Prop :=
  ∃ packet ∈ wire, packet.syn = true ∧ packet.seqNum + 1 = nxt ∧ packet.ackNum = expected

/-- The segments of the stack for the client: resets and SYN-ACKs. -/
structure FromServer (client server : IPv4Address) (packet : Segment) : Prop where
  src_eq : packet.src = server
  dst_eq : packet.dst = client
  noFin : packet.fin = false
  noData : packet.payload = []
  kind : (packet.rst = true ∧ packet.syn = false) ∨
    (packet.rst = false ∧ packet.syn = true ∧ packet.ack = true)

/-- The segments from the client's address: SYNs, resets without an acknowledgment, and
the acknowledgment of an established client. -/
structure FromClient (client server : IPv4Address) (tcb : TransmissionControlBlock)
    (packet : Segment) : Prop where
  src_eq : packet.src = client
  dst_eq : packet.dst = server
  noFin : packet.fin = false
  noData : packet.payload = []
  kind : (packet.rst = false ∧ packet.syn = true ∧ packet.ack = false) ∨
    (packet.rst = true ∧ packet.syn = false ∧ packet.ack = false) ∨
    (packet.rst = false ∧ packet.syn = false ∧ packet.ack = true ∧
      tcb.currentState = .established ∧ packet.ackNum = tcb.rcv.nxt)

structure Client (client server : IPv4Address) (iss : UInt32) (toA : List Segment)
    (tcb : TransmissionControlBlock) : Prop where
  src_eq : tcb.srcAddress = client
  dst_eq : tcb.dstAddress = server
  nxt_eq : tcb.snd.nxt = iss + 1
  empty : tcb.sendBuffer.contents = []
  state : tcb.currentState = .synSent ∨ tcb.currentState = .closed ∨
    (tcb.currentState = .established ∧ Announced toA tcb.rcv.nxt (iss + 1))

/-- The block registered at the stack, as the client's block and the wire explain it. -/
structure Child (toA : List Segment) (tcb child : TransmissionControlBlock) : Prop where
  announced : Announced toA child.snd.nxt child.rcv.nxt
  empty : child.sendBuffer.contents = []
  state : child.currentState = .synReceived ∨
    (child.currentState = .established ∧ tcb.currentState = .established ∧
      child.snd.nxt = tcb.rcv.nxt)

/-- An established client stays established and keeps its peer's number. -/
def Persists (tcb next : TransmissionControlBlock) : Prop :=
  tcb.currentState = .established → next.currentState = .established ∧ next.rcv.nxt = tcb.rcv.nxt

variable {client server : IPv4Address} {iss : UInt32} {toA : List Segment}
  {tcb next child : TransmissionControlBlock} {packet : Segment}

theorem Announced.append {nxt expected : UInt32} (h : Announced toA nxt expected)
    (more : List Segment) : Announced (toA ++ more) nxt expected := by
  obtain ⟨packet, sent, rest⟩ := h
  exact ⟨packet, List.mem_append_left more sent, rest⟩

theorem FromClient.persists (h : FromClient client server tcb packet) (persists : Persists tcb next) :
    FromClient client server next packet := by
  refine ⟨h.src_eq, h.dst_eq, h.noFin, h.noData, ?_⟩
  rcases h.kind with syn | reset | ⟨noReset, noSyn, hack, established, name⟩
  · exact Or.inl syn
  · exact Or.inr (Or.inl reset)
  · obtain ⟨still, same⟩ := persists established
    exact Or.inr (Or.inr ⟨noReset, noSyn, hack, still, name.trans same.symm⟩)

theorem Child.persists (h : Child toA tcb child) (persists : Persists tcb next) :
    Child toA next child := by
  refine ⟨h.announced, h.empty, ?_⟩
  rcases h.state with received | ⟨established, open', agrees⟩
  · exact Or.inl received
  · obtain ⟨still, same⟩ := persists open'
    exact Or.inr ⟨established, still, agrees.trans same.symm⟩

/-- The outcome of a call of the client's daemon. -/
structure ClientMove (client server : IPv4Address) (iss : UInt32) (toA : List Segment)
    (tcb : TransmissionControlBlock) (o : Outcome) : Prop where
  holds : Client client server iss toA o.tcb
  persists : Persists tcb o.tcb
  out : ∀ packet ∈ o.out, FromClient client server o.tcb packet
  awake : o.waiting = none

theorem Persists.refl (tcb : TransmissionControlBlock) : Persists tcb tcb := fun state => ⟨state, rfl⟩

theorem Client.processBlock (h : Client client server iss toA tcb) (now : Int) :
    ClientMove client server iss toA tcb (tcb.processBlock now) := by
  rw [TransmissionControlBlock.processBlock_of_empty h.empty]
  refine ⟨⟨h.src_eq, h.dst_eq, h.nxt_eq, h.empty, h.state⟩, Persists.refl tcb, ?_, rfl⟩
  intro packet hmem
  split_ifs at hmem
  · rw [List.mem_singleton.mp hmem]
    exact ⟨h.src_eq, h.dst_eq, rfl, rfl, Or.inl ⟨rfl, rfl, rfl⟩⟩
  · cases hmem

theorem Client.checkRetransmission (h : Client client server iss toA tcb) (now : Int) :
    ClientMove client server iss toA tcb (tcb.checkRetransmission now) := by
  rw [TransmissionControlBlock.checkRetransmission_of_empty h.empty]
  exact ⟨h, Persists.refl tcb, by simp, rfl⟩

theorem Client.handleSynSentState (h : Client client server iss toA tcb)
    (state : tcb.currentState = .synSent) (sent : packet ∈ toA)
    (fromServer : FromServer client server packet) :
    ClientMove client server iss toA tcb (tcb.handleSynSentState packet) := by
  have unopened : ∀ next, Persists tcb next := by
    intro next established
    rw [state] at established
    cases established
  rw [TransmissionControlBlock.handleSynSentState]
  rcases fromServer.kind with ⟨reset, _⟩ | ⟨noReset, syn, hack⟩
  · rw [if_pos reset]
    split_ifs
    · exact ⟨⟨h.src_eq, h.dst_eq, h.nxt_eq, h.empty, Or.inr (Or.inl rfl)⟩, unopened _, by simp, rfl⟩
    · exact ⟨h, unopened _, by simp, rfl⟩
  · rw [noReset, if_neg Bool.false_ne_true]
    by_cases acks : packet.ackNum = tcb.snd.nxt
    · -- the SYN-ACK for this very SYN
      rw [if_neg (fun refused => refused.2 acks), if_pos ⟨syn, hack⟩]
      have announced : Announced toA (packet.seqNum + 1) (iss + 1) :=
        ⟨packet, sent, syn, rfl, acks.trans h.nxt_eq⟩
      refine ⟨⟨h.src_eq, h.dst_eq, h.nxt_eq, h.empty, Or.inr (Or.inr ⟨rfl, announced⟩)⟩,
        unopened _, ?_, rfl⟩
      intro answer hmem
      rw [List.mem_singleton.mp hmem]
      exact ⟨h.src_eq, h.dst_eq, rfl, rfl, Or.inr (Or.inr ⟨rfl, rfl, rfl, rfl, rfl⟩)⟩
    · rw [if_pos ⟨hack, acks⟩]
      refine ⟨h, unopened _, ?_, rfl⟩
      intro answer hmem
      rw [List.mem_singleton.mp hmem]
      exact ⟨h.src_eq, h.dst_eq, rfl, rfl, Or.inr (Or.inl ⟨rfl, rfl, rfl⟩)⟩

/-- A late segment moves at most `SND.UNA` and the window of an established client. -/
theorem Client.handleEstablishedState (h : Client client server iss toA tcb)
    (state : tcb.currentState = .established) (announced : Announced toA tcb.rcv.nxt (iss + 1))
    (fromServer : FromServer client server packet) :
    ClientMove client server iss toA tcb (tcb.handleEstablishedState packet) := by
  rw [TransmissionControlBlock.handleEstablishedState_of_not_fin tcb fromServer.noFin,
    if_pos fromServer.noData]
  have still : (tcb.afterAck packet).currentState = .established :=
    (tcb.afterAck_currentState packet).trans state
  have rcv := tcb.afterAck_rcv packet
  refine ⟨⟨?_, ?_, ?_, ?_, Or.inr (Or.inr ⟨still, ?_⟩)⟩, fun _ => ⟨still, ?_⟩, by simp, rfl⟩
  · exact (tcb.afterAck_addresses packet).1.trans h.src_eq
  · exact (tcb.afterAck_addresses packet).2.trans h.dst_eq
  · exact (tcb.afterAck_nxt packet).trans h.nxt_eq
  · exact TransmissionControlBlock.afterAck_empty h.empty packet
  · rw [rcv]; exact announced
  · rw [rcv]

theorem Client.receive (h : Client client server iss toA tcb) (sent : packet ∈ toA)
    (fromServer : FromServer client server packet) :
    ClientMove client server iss toA tcb (tcb.receive packet) := by
  rcases h.state with state | state | ⟨state, announced⟩
  · simpa only [TransmissionControlBlock.receive, state] using
      h.handleSynSentState state sent fromServer
  · simp only [TransmissionControlBlock.receive, state]
    refine ⟨h, Persists.refl tcb, ?_, rfl⟩
    intro answer hmem
    rw [handleClosedResetResponse] at hmem
    rcases fromServer.kind with ⟨reset, _⟩ | ⟨noReset, _, hack⟩
    · rw [if_pos reset] at hmem
      cases hmem
    · rw [noReset, if_neg Bool.false_ne_true, if_pos hack] at hmem
      rw [List.mem_singleton.mp hmem]
      exact ⟨fromServer.dst_eq, fromServer.src_eq, rfl, rfl, Or.inr (Or.inl ⟨rfl, rfl, rfl⟩)⟩
  · simpa only [TransmissionControlBlock.receive, state] using
      h.handleEstablishedState state announced fromServer

theorem Child.idle (h : Child toA tcb child) : Idle child := by
  refine ⟨h.empty, ?_⟩
  rcases h.state with state | ⟨state, _⟩
  · simp [state]
  · simp [state]

/-- What a registered child does with a segment of the client: it never answers. -/
theorem Child.receive (h : Child toA tcb child) (fromClient : FromClient client server tcb packet) :
    (child.receive packet).out = [] ∧ Idle (child.receive packet).tcb ∧
    ((∃ peer, (child.receive packet).effect = .abort peer) ∨
      Child toA tcb (child.receive packet).tcb) := by
  rcases h.state with state | ⟨state, opened, agrees⟩
  · simp only [TransmissionControlBlock.receive, state,
      TransmissionControlBlock.handleSynReceivedState]
    rcases fromClient.kind with ⟨noReset, _, noAck⟩ | ⟨reset, _, _⟩ |
      ⟨noReset, noSyn, hack, established, name⟩
    · simp only [noReset, noAck, Bool.false_eq_true, if_false, Bool.not_false, if_true]
      exact ⟨trivial, h.idle, Or.inr h⟩
    · simp only [reset, if_true]
      exact ⟨trivial, ⟨h.empty, TcpState.noConfusion⟩, Or.inl ⟨_, rfl⟩⟩
    · simp only [noReset, hack, Bool.false_eq_true, if_false, Bool.not_true]
      by_cases acks : packet.ackNum = child.snd.nxt
      · simp only [acks, ne_eq, not_true_eq_false, if_false, noSyn, Bool.false_eq_true, false_and]
        exact ⟨trivial, ⟨h.empty, TcpState.noConfusion⟩,
          Or.inr ⟨h.announced, h.empty, Or.inr ⟨rfl, established, acks.symm.trans name⟩⟩⟩
      · simp only [ne_eq, acks, not_false_eq_true, if_true]
        exact ⟨trivial, h.idle, Or.inr h⟩
  · have rcv := child.afterAck_rcv packet
    have nxt := child.afterAck_nxt packet
    have still := (child.afterAck_currentState packet).trans state
    have empty := TransmissionControlBlock.afterAck_empty h.empty packet
    have continues : Child toA tcb (child.afterAck packet) := by
      refine ⟨?_, empty, Or.inr ⟨still, opened, nxt.trans agrees⟩⟩
      rw [rcv, nxt]
      exact h.announced
    simp only [TransmissionControlBlock.receive, state,
      TransmissionControlBlock.handleEstablishedState_of_not_fin child fromClient.noFin,
      fromClient.noData, if_true]
    exact ⟨trivial, continues.idle, Or.inr continues⟩

/-- A child is the same whatever stands in its accept queue. -/
theorem Child.queue (h : Child toA tcb child) {block : TransmissionControlBlock}
    (same : block = { child with acceptQueue := block.acceptQueue }) : Child toA tcb block := by
  rw [same]
  exact ⟨h.announced, h.empty, h.state⟩

theorem Child.append (h : Child toA tcb child) (more : List Segment) :
    Child (toA ++ more) tcb child :=
  ⟨h.announced.append more, h.empty, h.state⟩

/-- What the daemon does with a block that it visits. -/
structure Visited (block : TransmissionControlBlock) (o : Outcome) : Prop where
  confined : TransmissionControlBlock.Confined block o
  idle : Idle block → ∃ time, o = { tcb := { block with lastWritten := time } }

theorem visited_processBlock (block : TransmissionControlBlock) (now : Int) :
    Visited block (block.processBlock now) := by
  refine ⟨block.processBlock_confined now, ?_⟩
  rintro ⟨empty, notSyn⟩
  refine ⟨now, ?_⟩
  rw [TransmissionControlBlock.processBlock_of_empty empty, if_neg notSyn]

theorem visited_checkRetransmission (block : TransmissionControlBlock) (now : Int) :
    Visited block (block.checkRetransmission now) := by
  refine ⟨block.checkRetransmission_confined now, ?_⟩
  rintro ⟨empty, _⟩
  exact ⟨block.lastWritten, TransmissionControlBlock.checkRetransmission_of_empty empty now⟩

/-- No socket between the two addresses has anything to send by itself. -/
def AllIdle (client server : IPv4Address) (stack : TcpStack) : Prop :=
  ∀ id block, stack.socketTable.sockets.lookup id = some block →
    block.srcAddress = server → block.dstAddress = client → Idle block

structure Server (client server : IPv4Address) (toA : List Segment)
    (tcb : TransmissionControlBlock) (stack : TcpStack) : Prop where
  child : ∀ child, stack.registered client server = some child → Child toA tcb child
  idle : AllIdle client server stack

theorem Server.append {stack : TcpStack} (h : Server client server toA tcb stack)
    (more : List Segment) : Server client server (toA ++ more) tcb stack :=
  ⟨fun child bound => (h.child child bound).append more, h.idle⟩

/-- A visit of the daemon sends the client nothing. -/
theorem Server.visit {stack : TcpStack} {id : UInt64} {block : TransmissionControlBlock}
    {o : Outcome} (h : Server client server toA tcb stack)
    (entry : stack.socketTable.sockets.lookup id = some block) (visited : Visited block o) :
    Server client server toA tcb (stack.perform id o) ∧
    ∀ packet ∈ o.out, ¬ (packet.src = server ∧ packet.dst = client) := by
  obtain ⟨sockets, connections⟩ := stack.perform_of_plain id visited.confined.plain
  refine ⟨⟨?_, ?_⟩, ?_⟩
  · intro child bound
    obtain ⟨other, table, socket⟩ := TcpStack.registered_eq_some.mp bound
    rw [connections] at table
    obtain ⟨real, found⟩ := SocketTable.findSocket_eq_some_iff.mp socket
    rw [sockets, SocketTable.setSocket] at found
    by_cases same : other = id
    · rw [same] at table real found
      rw [AList.lookup_insert, Option.some.injEq] at found
      have before : stack.registered client server = some block :=
        TcpStack.registered_eq_some.mpr
          ⟨id, table, SocketTable.findSocket_eq_some_iff.mpr ⟨real, entry⟩⟩
      have known := h.child block before
      obtain ⟨time, rfl⟩ := visited.idle known.idle
      rw [← found]
      exact ⟨known.announced, known.empty, known.state⟩
    · rw [AList.lookup_insert_ne same] at found
      exact h.child child (TcpStack.registered_eq_some.mpr
        ⟨other, table, SocketTable.findSocket_eq_some_iff.mpr ⟨real, found⟩⟩)
  · intro other after found src dst
    rw [sockets, SocketTable.setSocket] at found
    by_cases same : other = id
    · rw [same, AList.lookup_insert, Option.some.injEq] at found
      rw [← found, visited.confined.src_eq] at src
      rw [← found, visited.confined.dst_eq] at dst
      have quiet := h.idle id block entry src dst
      obtain ⟨time, rfl⟩ := visited.idle quiet
      rw [← found]
      exact quiet
    · rw [AList.lookup_insert_ne same] at found
      exact h.idle other after found src dst
  · rintro packet hmem ⟨src, dst⟩
    obtain ⟨fromBlock, toPeer⟩ := visited.confined.out packet hmem
    obtain ⟨time, rfl⟩ :=
      visited.idle (h.idle id block entry (fromBlock.symm.trans src) (toPeer.symm.trans dst))
    cases hmem

/-- From the first stack on, the client was sent nothing. -/
structure Silent (client server : IPv4Address) (toA : List Segment)
    (tcb : TransmissionControlBlock) (first stack : TcpStack) : Prop where
  serves : Server client server toA tcb stack
  out : ∃ out, stack.written = first.written ++ out ∧
    ∀ packet ∈ out, ¬ (packet.src = server ∧ packet.dst = client)

theorem Silent.sentTo_eq {first stack : TcpStack}
    (h : Silent client server toA tcb first stack) : sentTo client server first stack = [] := by
  obtain ⟨out, written, others⟩ := h.out
  rw [sentTo, written, List.drop_left, List.filter_eq_nil_iff]
  simpa using others

theorem Silent.visit {first stack : TcpStack} {id : UInt64} {block : TransmissionControlBlock}
    {o : Outcome} (h : Silent client server toA tcb first stack)
    (entry : stack.socketTable.sockets.lookup id = some block) (visited : Visited block o) :
    Silent client server toA tcb first (stack.perform id o) := by
  obtain ⟨out, written, others⟩ := h.out
  obtain ⟨serves, silent⟩ := h.serves.visit entry visited
  refine ⟨serves, out ++ o.out, ?_, List.forall_mem_append.mpr ⟨others, silent⟩⟩
  rw [stack.perform_frame id o, written, List.append_assoc]

theorem Server.silent {stack : TcpStack} (h : Server client server toA tcb stack) :
    Silent client server toA tcb stack stack :=
  ⟨h, [], (List.append_nil _).symm, by simp⟩

theorem Server.processDirtyBlocks {stack : TcpStack} (h : Server client server toA tcb stack)
    (now : Int) : Silent client server toA tcb stack (stack.processDirtyBlocks now) := by
  have visit : ∀ (s : TcpStack) (id : UInt64), True → Silent client server toA tcb stack s →
      Silent client server toA tcb stack (s.processBlock id now) := by
    intro s id _ silent
    rw [TcpStack.processBlock, TcpStack.withTcb]
    cases found : s.getTcb id with
    | none => exact silent
    | some block =>
      exact silent.visit (SocketTable.findSocket_eq_some_iff.mp found).2
        (visited_processBlock block now)
  have taken : Silent client server toA tcb stack { stack with dirtySocketIds := [] } :=
    ⟨⟨h.child, h.idle⟩, [], (List.append_nil _).symm, by simp⟩
  exact run_invariant visit taken stack.dirtySocketIds (fun _ _ => trivial)

theorem Server.checkRetransmissions {stack : TcpStack} (h : Server client server toA tcb stack)
    (now : Int) : Silent client server toA tcb stack (stack.checkRetransmissions now) := by
  refine run_invariant (fun s id (_ : True) silent => ?_) h.silent
    stack.socketTable.sockets.keys (fun _ _ => trivial)
  cases found : s.socketTable.sockets.lookup id with
  | none => exact silent
  | some block => exact silent.visit found (visited_checkRetransmission block now)

/-- Accepting takes an id off the queue of a listening block, which is no child. -/
theorem Server.accept {stack : TcpStack} (h : Server client server toA tcb stack)
    (listenerId : UInt64) : Silent client server toA tcb stack (stack.step (.accept listenerId)) := by
  simp only [TcpStack.step, TcpSocket.accept]
  cases listener : stack.getTcb listenerId with
  | none => exact h.silent
  | some block =>
    by_cases listening : block.currentState = .listen
    · simp only [listening, ne_eq, not_true_eq_false, if_false]
      cases block.acceptQueue with
      | nil => exact h.silent
      | cons childId rest =>
        obtain ⟨_, entry⟩ := SocketTable.findSocket_eq_some_iff.mp listener
        refine ⟨⟨fun child bound => ?_, fun id after found src dst => ?_⟩, [],
          (List.append_nil _).symm, by simp⟩
        · obtain ⟨id, table, socket⟩ := TcpStack.registered_eq_some.mp bound
          by_cases own : id = listenerId
          · have already : stack.registered client server = some block :=
              TcpStack.registered_eq_some.mpr ⟨id, table, own ▸ listener⟩
            rcases (h.child block already).state with other | ⟨other, _⟩
            · rw [listening] at other
              cases other
            · rw [listening] at other
              cases other
          · change (stack.socketTable.setSocket listenerId _).findSocket id = some child at socket
            rw [SocketTable.findSocket_setSocket_ne _ own] at socket
            exact h.child child (TcpStack.registered_eq_some.mpr ⟨id, table, socket⟩)
        · change (stack.socketTable.setSocket listenerId _).sockets.lookup id = some after at found
          rw [SocketTable.setSocket] at found
          by_cases own : id = listenerId
          · rw [own, AList.lookup_insert, Option.some.injEq] at found
            rw [← found] at src dst ⊢
            exact ⟨(h.idle listenerId block entry src dst).1, by simp⟩
          · rw [AList.lookup_insert_ne own] at found
            exact h.idle id after found src dst
    · simp only [ne_eq, listening, not_false_eq_true, if_true]
      exact h.silent

theorem mem_handleClosedResetResponse {answer : Segment}
    (hmem : answer ∈ handleClosedResetResponse packet) :
    ∃ seqNum ackNum flag, answer = sendRawRst packet.dst packet.src seqNum ackNum flag := by
  rw [handleClosedResetResponse] at hmem
  by_cases reset : packet.rst = true
  · rw [if_pos reset] at hmem
    cases hmem
  · rw [if_neg reset] at hmem
    by_cases hack : packet.ack = true
    · rw [if_pos hack] at hmem
      exact ⟨_, _, _, List.mem_singleton.mp hmem⟩
    · rw [if_neg hack] at hmem
      exact ⟨_, _, _, List.mem_singleton.mp hmem⟩

theorem FromClient.reset_fromServer (h : FromClient client server tcb packet) :
    ∀ answer ∈ handleClosedResetResponse packet, FromServer client server answer := by
  intro answer hmem
  obtain ⟨seqNum, ackNum, flag, rfl⟩ := mem_handleClosedResetResponse hmem
  exact ⟨h.dst_eq, h.src_eq, rfl, rfl, Or.inl ⟨rfl, rfl⟩⟩

theorem sentTo_eq {stack next : TcpStack} {answers : List Segment}
    (written : next.written = stack.written ++ answers)
    (fromServer : ∀ packet ∈ answers, FromServer client server packet) :
    sentTo client server stack next = answers := by
  rw [sentTo, written, List.drop_left, List.filter_eq_self]
  intro packet hmem
  simp [(fromServer packet hmem).src_eq, (fromServer packet hmem).dst_eq]

/-- A passive open adds a block that waits for the client's acknowledgment. -/
theorem AllIdle.handlePassiveOpenSyn {stack : TcpStack} (h : AllIdle client server stack)
    (packet : Segment) (iss : UInt32) :
    AllIdle client server (stack.handlePassiveOpenSyn packet iss) := by
  have waits : TcpState.synReceived ≠ .synSent := by decide
  have child : ∀ id block, (stack.withChild packet).socketTable.sockets.lookup id = some block →
      block.srcAddress = server → block.dstAddress = client → Idle block := by
    intro id block found src dst
    rw [TcpStack.withChild, SocketTable.createSocket] at found
    by_cases new : id = stack.socketTable.nextId
    · rw [new, AList.lookup_insert, Option.some.injEq] at found
      rw [← found]
      exact ⟨rfl, waits⟩
    · rw [AList.lookup_insert_ne new] at found
      exact h id block found src dst
  by_cases bareSyn : stack.listenerTable.find stack.socketTable packet.dst.port ≠ 0 ∧
      packet.syn ∧ !packet.ack
  · by_cases wrapped : stack.socketTable.nextId = 0
    · rw [TcpStack.handlePassiveOpenSyn_wrapped iss bareSyn wrapped]
      exact child
    · rw [TcpStack.handlePassiveOpenSyn_eq iss bareSyn wrapped]
      intro id block found src dst
      change ((stack.withChild packet).socketTable.setSocket _ _).sockets.lookup id = _ at found
      rw [SocketTable.setSocket] at found
      by_cases new : id = stack.socketTable.nextId
      · rw [new, AList.lookup_insert, Option.some.injEq] at found
        rw [← found]
        exact ⟨rfl, waits⟩
      · rw [AList.lookup_insert_ne new] at found
        exact child id block found src dst
  · rw [TcpStack.handlePassiveOpenSyn, if_neg bareSyn]
    exact h

theorem AllIdle.perform {stack : TcpStack} (h : AllIdle client server stack) (id : UInt64)
    {o : Outcome} (own : Idle o.tcb) : AllIdle client server (stack.perform id o) := by
  have carried : AllIdle client server (stack.carriedOut id o) := by
    intro other block found src dst
    rw [TcpStack.carriedOut_eq] at found
    change (stack.socketTable.sockets.insert id o.tcb).lookup other = some block at found
    by_cases same : other = id
    · rw [same, AList.lookup_insert, Option.some.injEq] at found
      rw [← found]
      exact own
    · rw [AList.lookup_insert_ne same] at found
      exact h other block found src dst
  intro other block found src dst
  have applied : ((stack.carriedOut id o).applyEffect id o.tcb o.effect).socketTable.sockets.lookup
      other = some block := found
  rcases TcpStack.applyEffect_sockets applied with same | ⟨_, listener, before, pushed⟩
  · exact carried other block same src dst
  · rw [pushed] at src dst ⊢
    exact carried other listener before src dst

theorem Server.idle_processIncomingPacket {stack : TcpStack}
    (h : Server client server toA tcb stack) (fromClient : FromClient client server tcb packet)
    (iss : UInt32) : AllIdle client server (stack.processIncomingPacket packet iss) := by
  have answered : ∀ answers : List Segment,
      AllIdle client server (answers.foldl TcpStack.writePacket stack) := by
    intro answers
    rw [TcpStack.writePackets_eq]
    exact h.idle
  rw [TcpStack.processIncomingPacket]
  split_ifs
  · exact h.idle.handlePassiveOpenSyn packet iss
  · exact answered _
  · cases bound : stack.getTcb (stack.findConnectionsTcb packet.src packet.dst) with
    | none => exact answered _
    | some block =>
      by_cases listening : block.currentState = .listen
      · simp only [listening, if_true]
        exact h.idle.handlePassiveOpenSyn packet iss
      · simp only [listening, if_false]
        rw [fromClient.src_eq, fromClient.dst_eq] at bound
        exact h.idle.perform _ ((h.child block bound).receive fromClient).2.1

end Handshake
end TinyCP
