import TinyCP.HandlerSpecs
import TinyCP.HandshakeSides
import TinyCP.Lifecycle
import TinyCP.StackSpecs

/-!
# What a stack puts on the wire

Every operation of a stack emits a list of segments that depends on the tables alone, not
on what is queued already or was written before, and all of it is of a few forms: data
goes out on plain acknowledgments only and in pieces of at most 1460 bytes, six
combinations of the flags occur, and a segment without ACK acknowledges nothing.
-/
namespace TinyCP
open EventRun

/-- SYN, SYN-ACK, ACK, FIN-ACK, RST and RST-ACK, as the flags SYN, ACK, RST and FIN. -/
def emittedFlags : List (Bool × Bool × Bool × Bool) :=
  [(true, false, false, false), (true, true, false, false), (false, true, false, false),
    (false, true, false, true), (false, false, true, false), (false, true, true, false)]

structure Segment.Formed (packet : Segment) : Prop where
  flags : (packet.syn, packet.ack, packet.rst, packet.fin) ∈ emittedFlags
  data : packet.payload ≠ [] → (packet.syn, packet.ack, packet.rst, packet.fin) =
    (false, true, false, false)
  size : packet.payload.length ≤ 1460
  unacked : packet.ack = false → packet.ackNum = 0

namespace TransmissionControlBlock

def Emits (out : List Segment) : Prop := ∀ packet ∈ out, packet.Formed

theorem emits_nil : Emits [] := nofun

theorem emits_singleton {packet : Segment} (formed : packet.Formed) : Emits [packet] := by
  intro other member
  rw [List.mem_singleton.mp member]
  exact formed

theorem sendControlPacket_formed (tcb : TransmissionControlBlock) {syn ack rst fin : Bool}
    (flags : (syn, ack, rst, fin) ∈ emittedFlags) {ackNum : UInt32}
    (unacked : ack = true ∨ ackNum = 0) (seqNum : UInt32) :
    (tcb.sendControlPacket syn ack rst fin seqNum ackNum).Formed := by
  refine ⟨flags, fun data => absurd rfl data, Nat.zero_le _, fun plain => ?_⟩
  exact unacked.resolve_left (ne_of_eq_of_ne plain Bool.false_ne_true)

theorem sendAck_formed (tcb : TransmissionControlBlock) : tcb.sendAck.Formed := by
  rw [sendAck]
  exact tcb.sendControlPacket_formed (by decide) (Or.inl rfl) _

theorem createWriterTcpPacket_formed (tcb : TransmissionControlBlock) {data : List UInt8}
    (small : data.length ≤ 1460) (seqNum : UInt32) :
    (tcb.createWriterTcpPacket data seqNum).Formed :=
  ⟨by simp [createWriterTcpPacket, emittedFlags], fun _ => rfl, small, nofun⟩

theorem processBlock_emits (tcb : TransmissionControlBlock) (now : Int) :
    Emits (tcb.processBlock now).out := by
  simp only [processBlock]
  split_ifs
  · exact emits_singleton (sendControlPacket_formed _ (by decide) (Or.inr rfl) _)
  · exact emits_nil
  · exact emits_nil
  · exact emits_nil
  · refine emits_singleton (createWriterTcpPacket_formed _ ?_ _)
    rw [BlockingBuffer.peek_eq, List.length_take]
    omega

theorem checkRetransmission_emits (tcb : TransmissionControlBlock) (now : Int) :
    Emits (tcb.checkRetransmission now).out := by
  simp only [checkRetransmission]
  split_ifs
  · exact emits_nil
  · refine emits_singleton (createWriterTcpPacket_formed _ ?_ _)
    rw [BlockingBuffer.peek_eq, List.length_take]
    omega
  · exact emits_nil
  · exact emits_nil

theorem closeConnection_emits (tcb : TransmissionControlBlock) (now : Int) :
    Emits (tcb.closeConnection now).out := by
  have closing : ∀ state, Emits (tcb.closeWithFin now state).out := by
    intro state packet member
    rcases List.mem_append.mp member with flushed | fin
    · exact tcb.processBlock_emits now packet flushed
    · rw [List.mem_singleton.mp fin]
      exact sendControlPacket_formed _ (by decide) (Or.inl rfl) _
  rw [closeConnection]
  split
  · exact closing _
  · exact closing _
  · exact emits_nil

theorem storePayload_emits (tcb : TransmissionControlBlock) (payload : List UInt8) :
    Emits (tcb.storePayload payload).out := by
  rcases tcb.storePayload_cases payload with ⟨_, done⟩ | ⟨_, done⟩
  · rw [done]
    exact emits_singleton (sendAck_formed _)
  · rw [done]
    exact emits_nil

theorem handleEstablishedState_emits (tcb : TransmissionControlBlock) (packet : Segment) :
    Emits (tcb.handleEstablishedState packet).out := by
  cases fin : packet.fin with
  | true =>
    rw [handleEstablishedState, if_pos fin]
    exact emits_singleton (sendAck_formed _)
  | false =>
    rcases tcb.handleEstablishedState_cases fin with ⟨_, done⟩ | ⟨_, _, done⟩ | ⟨_, _, done⟩
    · rw [done]
      exact emits_nil
    · rw [done]
      exact emits_singleton (sendAck_formed _)
    · rw [done]
      exact emits_nil

end TransmissionControlBlock

open TransmissionControlBlock in
theorem handleClosedResetResponse_emits (packet : Segment) :
    Emits (handleClosedResetResponse packet) := by
  have resets : ∀ seqNum ackNum flag, (flag = true ∨ ackNum = 0) →
      (sendRawRst packet.dst packet.src seqNum ackNum flag).Formed := by
    intro seqNum ackNum flag unacked
    refine ⟨?_, fun data => absurd rfl data, Nat.zero_le _, fun plain => ?_⟩
    · cases flag <;> simp [sendRawRst, emittedFlags]
    · exact unacked.resolve_left (ne_of_eq_of_ne plain Bool.false_ne_true)
  rw [handleClosedResetResponse]
  split_ifs
  · exact emits_nil
  · exact emits_singleton (resets _ _ _ (Or.inr rfl))
  · exact emits_singleton (resets _ _ _ (Or.inl rfl))
  · exact emits_singleton (resets _ _ _ (Or.inl rfl))

namespace TransmissionControlBlock

theorem receive_emits (tcb : TransmissionControlBlock) (packet : Segment) :
    Emits (tcb.receive packet).out := by
  have answers : ∀ other : TransmissionControlBlock, Emits [other.sendAck] :=
    fun other => emits_singleton other.sendAck_formed
  rw [receive]
  split
  · exact handleClosedResetResponse_emits packet
  · exact emits_nil
  · rw [handleSynSentState]
    split_ifs
    · exact emits_nil
    · exact emits_nil
    · exact emits_singleton (sendControlPacket_formed _ (by decide) (Or.inr rfl) _)
    · exact answers _
    · exact emits_singleton (sendControlPacket_formed _ (by decide) (Or.inl rfl) _)
    · exact emits_nil
  · rw [handleSynReceivedState]
    split_ifs
    · exact emits_nil
    · exact emits_nil
    · exact emits_nil
    · exact answers _
    · exact emits_nil
  · exact tcb.handleEstablishedState_emits packet
  · rw [handleFinWait1State]
    split_ifs
    · exact answers _
    · exact emits_nil
    · exact answers _
    · exact emits_nil
  · rw [handleFinWait2State]
    split_ifs
    · exact answers _
    · exact answers _
    · exact emits_nil
  · rw [handleClosingState, awaitFinalAck]
    split_ifs <;> exact emits_nil
  · rw [handleLastAckState, awaitFinalAck]
    split_ifs <;> exact emits_nil
  · exact emits_nil
  · exact emits_nil

end TransmissionControlBlock

namespace TcpStack
open TransmissionControlBlock

def withOutput (stack : TcpStack) (queue log : List Segment) : TcpStack :=
  { stack with loopbackPacketQueue := queue, written := log }

/-- An operation adds these segments to whatever is queued and was written before, and does
to the rest of the stack what it would do without. -/
structure Output (op : TcpStack → TcpStack) (stack : TcpStack) (out : List Segment) : Prop where
  formed : Emits out
  onto : ∀ queue log, op (stack.withOutput queue log) =
    (op stack).withOutput (queue ++ out.filter stack.isLocal) (log ++ out)
  home : (op stack).localAddress = stack.localAddress

section Operations
variable {stack : TcpStack}

/-- An operation on the tables, which writes nothing. -/
theorem Output.of_silent (op : TcpStack → TcpStack)
    (onto : ∀ queue log, op (stack.withOutput queue log) = (op stack).withOutput queue log)
    (home : (op stack).localAddress = stack.localAddress) : Output op stack [] where
  formed := emits_nil
  onto queue log := by
    rw [List.filter_nil, List.append_nil, List.append_nil]
    exact onto queue log
  home := home

theorem Output.of_eq {op other : TcpStack → TcpStack} {out : List Segment}
    (h : Output op stack out)
    (same : ∀ queue log, other (stack.withOutput queue log) = op (stack.withOutput queue log)) :
    Output other stack out := by
  have here : other stack = op stack := same stack.loopbackPacketQueue stack.written
  refine ⟨h.formed, fun queue log => ?_, ?_⟩
  · rw [here, same]
    exact h.onto queue log
  · rw [here]
    exact h.home

theorem Output.comp {first second : TcpStack → TcpStack} {out more : List Segment}
    (h : Output first stack out) (next : Output second (first stack) more) :
    Output (fun stack => second (first stack)) stack (out ++ more) := by
  refine ⟨?_, ?_, next.home.trans h.home⟩
  · intro packet member
    rcases List.mem_append.mp member with earlier | later
    · exact h.formed packet earlier
    · exact next.formed packet later
  · intro queue log
    have same : (first stack).isLocal = stack.isLocal := by
      funext packet
      rw [isLocal, isLocal, h.home]
    rw [h.onto, next.onto, same, List.filter_append, List.append_assoc, List.append_assoc]

theorem writePackets_output {packets : List Segment} (formed : Emits packets) :
    Output (fun stack => packets.foldl writePacket stack) stack packets := by
  refine ⟨formed, fun queue log => ?_, ?_⟩
  · rw [writePackets_eq, writePackets_eq]
    rfl
  · rw [writePackets_eq]

theorem applyEffect_withOutput (stack : TcpStack) (queue log : List Segment) (socketId : UInt64)
    (tcb : TransmissionControlBlock) (effect : TableEffect) :
    (stack.withOutput queue log).applyEffect socketId tcb effect =
      (stack.applyEffect socketId tcb effect).withOutput queue log := by
  cases effect with
  | none => rfl
  | destroyConnection remoteAddr localAddr => rfl
  | abort remoteAddr => rfl
  | pushAccepted =>
    have same : (stack.withOutput queue log).getTcb ((stack.withOutput queue log).listenerTable.find
        (stack.withOutput queue log).socketTable tcb.srcAddress.port) =
        stack.getTcb (stack.listenerTable.find stack.socketTable tcb.srcAddress.port) := rfl
    simp only [applyEffect, same]
    cases stack.getTcb (stack.listenerTable.find stack.socketTable tcb.srcAddress.port) <;> rfl

theorem perform_output (socketId : UInt64) {o : Outcome} (formed : Emits o.out) :
    Output (fun stack => stack.perform socketId o) stack o.out := by
  refine ⟨formed, fun queue log => ?_, ?_⟩
  · have carried : (stack.withOutput queue log).carriedOut socketId o =
        (stack.carriedOut socketId o).withOutput (queue ++ o.out.filter stack.isLocal)
          (log ++ o.out) := by
      rw [carriedOut_eq, carriedOut_eq]
      rfl
    rw [perform_eq, perform_eq, carried, applyEffect_withOutput]
    rfl
  · rw [perform_frame]

theorem Output.none : Output (fun stack => stack) stack [] :=
  .of_silent _ (fun _ _ => rfl) rfl

theorem withTcb_output (socketId : UInt64) {work : TransmissionControlBlock → Outcome}
    (formed : ∀ tcb, Emits (work tcb).out) :
    ∃ out, Output (fun stack => stack.withTcb socketId work) stack out := by
  cases found : stack.getTcb socketId with
  | none =>
    refine ⟨[], Output.none.of_eq fun queue log => ?_⟩
    have same : (stack.withOutput queue log).getTcb socketId = Option.none := found
    rw [withTcb, same]
  | some tcb =>
    refine ⟨_, (perform_output socketId (formed tcb)).of_eq fun queue log => ?_⟩
    have same : (stack.withOutput queue log).getTcb socketId = some tcb := found
    rw [withTcb, same]

theorem handlePassiveOpenSyn_output (packet : Segment) (iss : UInt32) :
    ∃ out, Output (fun stack => stack.handlePassiveOpenSyn packet iss) stack out := by
  by_cases bareSyn : stack.listenerTable.find stack.socketTable packet.dst.port ≠ 0 ∧
      packet.syn ∧ !packet.ack
  · by_cases wrapped : stack.socketTable.nextId = 0
    · have created : Output (fun stack => stack.withChild packet) stack [] :=
        .of_silent _ (fun _ _ => rfl) rfl
      exact ⟨[], created.of_eq fun queue log => handlePassiveOpenSyn_wrapped iss bareSyn wrapped⟩
    · have answer : Emits [(stack.childOf packet iss).sendControlPacket true true false false iss
          (packet.seqNum + 1)] :=
        emits_singleton (sendControlPacket_formed _ (by decide) (Or.inl rfl) _)
      have opened : Output (fun stack => { (stack.withChild packet).setTcb stack.socketTable.nextId
          (stack.childOf packet iss) with
          connectionTable := stack.connectionTable.insert packet.src packet.dst
            stack.socketTable.nextId }) stack [] := .of_silent _ (fun _ _ => rfl) rfl
      refine ⟨_, (opened.comp (writePackets_output answer)).of_eq fun queue log => ?_⟩
      exact handlePassiveOpenSyn_eq iss bareSyn wrapped
  · exact ⟨[], Output.none.of_eq fun queue log => if_neg bareSyn⟩

theorem processIncomingPacket_output (packet : Segment) (iss : UInt32) :
    ∃ out, Output (fun stack => stack.processIncomingPacket packet iss) stack out := by
  obtain ⟨out, opens⟩ := @handlePassiveOpenSyn_output stack packet iss
  have resets : Output (fun stack => (handleClosedResetResponse packet).foldl writePacket stack)
      stack _ := writePackets_output (handleClosedResetResponse_emits packet)
  cases bound : stack.registered packet.src packet.dst with
  | none =>
    have there : ∀ queue log, (stack.withOutput queue log).registered packet.src packet.dst = none :=
      fun _ _ => bound
    by_cases bareSyn : stack.listenerTable.find stack.socketTable packet.dst.port ≠ 0 ∧
        packet.syn ∧ !packet.ack
    · refine ⟨out, opens.of_eq fun queue log => ?_⟩
      exact (processIncomingPacket_of_unregistered (there queue log) iss).trans (if_pos bareSyn)
    · refine ⟨_, resets.of_eq fun queue log => ?_⟩
      exact (processIncomingPacket_of_unregistered (there queue log) iss).trans (if_neg bareSyn)
  | some tcb =>
    have there : ∀ queue log,
        (stack.withOutput queue log).registered packet.src packet.dst = some tcb := fun _ _ => bound
    by_cases state : tcb.currentState = .listen
    · refine ⟨out, opens.of_eq fun queue log => ?_⟩
      exact processIncomingPacket_of_listening (there queue log) state iss
    · have handled := @perform_output stack (stack.findConnectionsTcb packet.src packet.dst) _
        (tcb.receive_emits packet)
      refine ⟨_, handled.of_eq fun queue log => ?_⟩
      exact processIncomingPacket_of_bound (there queue log) state iss

/-- A loop over ids. -/
theorem Output.foldl {visit : TcpStack → UInt64 → TcpStack}
    (each : ∀ id stack, ∃ out, Output (visit · id) stack out) (ids : List UInt64) (stack : TcpStack) :
    ∃ out, Output (fun stack => ids.foldl visit stack) stack out := by
  induction ids generalizing stack with
  | nil => exact ⟨[], Output.none⟩
  | cons id ids ih =>
    obtain ⟨first, visited⟩ := each id stack
    obtain ⟨rest, remaining⟩ := ih (visit stack id)
    exact ⟨_, visited.comp remaining⟩

theorem checkRetransmissions_output (now : Int) :
    ∃ out, Output (fun stack => stack.checkRetransmissions now) stack out := by
  have each : ∀ id stack, ∃ out, Output (fun stack : TcpStack =>
      ((stack.socketTable.sockets.lookup id).map fun tcb =>
        stack.perform id (tcb.checkRetransmission now)).getD stack) stack out := by
    intro id stack
    cases found : stack.socketTable.sockets.lookup id with
    | none =>
      refine ⟨[], Output.none.of_eq fun queue log => ?_⟩
      have same : (stack.withOutput queue log).socketTable.sockets.lookup id = Option.none := found
      rw [same]
      rfl
    | some tcb =>
      refine ⟨_, (perform_output id (tcb.checkRetransmission_emits now)).of_eq fun queue log => ?_⟩
      have same : (stack.withOutput queue log).socketTable.sockets.lookup id = some tcb := found
      rw [same]
      rfl
  obtain ⟨out, all⟩ := Output.foldl each stack.socketTable.sockets.keys stack
  refine ⟨out, all.of_eq fun queue log => ?_⟩
  rw [checkRetransmissions]
  congr 1
  funext stack id
  cases stack.socketTable.sockets.lookup id <;> rfl

theorem resumeWrite_output : ∃ out, Output (fun stack => stack.step .resumeWrite) stack out := by
  cases waits : stack.waiting with
  | none =>
    refine ⟨[], Output.none.of_eq fun queue log => ?_⟩
    have same : (stack.withOutput queue log).waiting = none := waits
    rw [step, same]
  | some write =>
    have woken : Output (fun stack => { stack with waiting := Option.none }) stack [] :=
      .of_silent _ (fun _ _ => rfl) rfl
    obtain ⟨out, stores⟩ := @withTcb_output { stack with waiting := none } write.1
      (·.storePayload write.2) (·.storePayload_emits write.2)
    refine ⟨_, (woken.comp stores).of_eq fun queue log => ?_⟩
    have same : (stack.withOutput queue log).waiting = some write := waits
    rw [step, same]

theorem findEphemeralPort_withOutput (queue log : List Segment) (attempts : Nat) (nextPort : UInt16) :
    (stack.withOutput queue log).findEphemeralPort attempts nextPort =
      stack.findEphemeralPort attempts nextPort := by
  induction attempts generalizing nextPort with
  | zero => rfl
  | succ attempts ih =>
    rw [findEphemeralPort, findEphemeralPort, ih]
    rfl

theorem completeAddress_withOutput (queue log : List Segment) (addr : IPv4Address) :
    (stack.withOutput queue log).completeAddress addr =
      ((stack.completeAddress addr).1.withOutput queue log, (stack.completeAddress addr).2) := by
  have same : (stack.withOutput queue log).findEphemeralPort 16384
      (stack.withOutput queue log).nextPort = stack.findEphemeralPort 16384 stack.nextPort :=
    findEphemeralPort_withOutput queue log 16384 stack.nextPort
  rw [completeAddress, completeAddress, allocateEphemeralPort, allocateEphemeralPort, same]
  generalize stack.findEphemeralPort 16384 stack.nextPort = found
  dsimp only [withOutput]
  split_ifs <;> rfl

theorem completeAddress_home (addr : IPv4Address) :
    (stack.completeAddress addr).1.localAddress = stack.localAddress := by
  rw [completeAddress]
  dsimp only
  split_ifs <;> rfl

@[simp] theorem getTcb_withOutput (queue log : List Segment) (socketId : UInt64) :
    (stack.withOutput queue log).getTcb socketId = stack.getTcb socketId := rfl

theorem bind_output (addr : IPv4Address) (iss : UInt32) :
    Output (fun stack => stack.step (.bind addr iss)) stack [] := by
  have home := @completeAddress_home stack addr
  have bound : ∀ (stack : TcpStack) (addr : IPv4Address) (queue log : List Segment),
      (stack.withOutput queue log).bindSocket addr =
        ((stack.bindSocket addr).1.withOutput queue log, (stack.bindSocket addr).2) :=
    fun _ _ _ _ => rfl
  refine .of_silent _ (fun queue log => ?_) ?_
  · simp only [step, TcpSocket.bind, completeAddress_withOutput, bound, getTcb_withOutput]
    split <;> rfl
  · simp only [step, TcpSocket.bind]
    split <;> exact home

theorem connect_output (socketId : UInt64) (addr : IPv4Address) (iss : UInt32) :
    Output (fun stack => stack.step (.connect socketId addr iss)) stack [] := by
  have registered : ∀ (localAddr : IPv4Address) (queue log : List Segment),
      (stack.withOutput queue log).registerConnection localAddr addr socketId =
        ((stack.registerConnection localAddr addr socketId).1.withOutput queue log,
          (stack.registerConnection localAddr addr socketId).2) := by
    intro localAddr queue log
    rw [registerConnection, completeAddress_withOutput]
    rfl
  have dirty : ∀ (stack : TcpStack) (id : UInt64) (tcb : TransmissionControlBlock)
      (queue log : List Segment), ((stack.withOutput queue log).setTcb id tcb).addDirtyTcb id =
        ((stack.setTcb id tcb).addDirtyTcb id).withOutput queue log := by
    intro stack id tcb queue log
    have same : ((stack.withOutput queue log).setTcb id tcb).socketTable =
        (stack.setTcb id tcb).socketTable := rfl
    rw [addDirtyTcb, addDirtyTcb, same]
    split_ifs <;> rfl
  have home : ∀ localAddr, (stack.registerConnection localAddr addr socketId).1.localAddress =
      stack.localAddress := fun _ => completeAddress_home _
  refine .of_silent _ (fun queue log => ?_) ?_
  · simp only [step, TcpSocket.connect, getTcb_withOutput, registered]
    split
    · rfl
    · exact dirty _ _ _ queue log
  · simp only [step, TcpSocket.connect]
    split
    · exact home _
    · rw [addDirtyTcb]
      split_ifs <;> exact home _

/-- No call but `close` writes a segment itself. -/
theorem call_silent {event : StackEvent} (made : event.isCall = true)
    (stays : ∀ socketId now, event ≠ .close socketId now) :
    Output (fun stack => stack.step event) stack [] := by
  cases event with
  | bind addr iss => exact bind_output addr iss
  | listen socketId =>
    refine .of_silent _ (fun queue log => ?_) ?_
    · simp only [step, TcpSocket.listen, getTcb_withOutput]
      split
      · rfl
      · split_ifs <;> rfl
    · simp only [step, TcpSocket.listen]
      split
      · rfl
      · split_ifs <;> rfl
  | connect socketId addr iss => exact connect_output socketId addr iss
  | accept socketId =>
    refine .of_silent _ (fun queue log => ?_) ?_
    · simp only [step, TcpSocket.accept, getTcb_withOutput]
      split
      · rfl
      · split_ifs
        · rfl
        · split <;> rfl
    · simp only [step, TcpSocket.accept]
      split
      · rfl
      · split_ifs
        · rfl
        · split <;> rfl
  | send socketId data =>
    cases found : stack.getTcb socketId with
    | none =>
      refine Output.none.of_eq fun queue log => ?_
      rw [step, TcpSocket.send, getTcb_withOutput, found]
      rfl
    | some tcb =>
      cases written : tcb.send data with
      | none =>
        refine Output.none.of_eq fun queue log => ?_
        rw [step, TcpSocket.send, getTcb_withOutput, found]
        dsimp only
        rw [written]
        rfl
      | some sent =>
        have silent : sent.1.out = [] := by
          obtain ⟨_, _, rfl⟩ := Option.map_eq_some_iff.mp written
          rfl
        have performed := @perform_output stack socketId sent.1 (silent ▸ emits_nil)
        rw [silent] at performed
        refine performed.of_eq fun queue log => ?_
        rw [step, TcpSocket.send, getTcb_withOutput, found]
        dsimp only
        rw [written]
        rfl
  | recv socketId len =>
    refine .of_silent _ (fun queue log => ?_) ?_
    · simp only [step, TcpSocket.recv, getTcb_withOutput]
      split
      · rfl
      · next tcb _ => cases tcb.recv len <;> rfl
    · simp only [step, TcpSocket.recv]
      split
      · rfl
      · next tcb _ => cases tcb.recv len <;> rfl
  | close socketId now => exact absurd rfl (stays socketId now)
  | _ => cases made

theorem call_output {event : StackEvent} (made : event.isCall = true) :
    ∃ out, Output (fun stack => stack.step event) stack out := by
  cases event with
  | close socketId now =>
    by_cases unbound : socketId = 0
    · exact ⟨[], Output.none.of_eq fun queue log => if_pos unbound⟩
    · obtain ⟨out, closes⟩ := @withTcb_output stack socketId (·.closeConnection now)
        (·.closeConnection_emits now)
      exact ⟨out, closes.of_eq fun queue log => if_neg unbound⟩
  | _ =>
    refine ⟨[], call_silent made ?_⟩
    rintro socketId now ⟨⟩

theorem processIncomingBytes_output (bytes : List UInt8) (iss : UInt32) :
    ∃ out, Output (fun stack => stack.processIncomingBytes bytes iss) stack out := by
  simp only [processIncomingBytes]
  cases parseIncoming bytes with
  | none => exact ⟨[], Output.none⟩
  | some arrived => exact processIncomingPacket_output arrived.segment iss

theorem readIncomingPackets_output (fd : Int) (read : DeviceRead) (iss : UInt32) :
    ∃ out, Output (fun stack => (stack.readIncomingPackets fd read iss).stack) stack out := by
  simp only [readIncomingPackets_stack]
  cases arrived : read.arrival fd with
  | none => exact ⟨[], Output.none⟩
  | some packet => exact processIncomingPacket_output packet iss

theorem Output.queue {op : TcpStack → TcpStack} {out : List Segment} (h : Output op stack out) :
    (op stack).loopbackPacketQueue = stack.loopbackPacketQueue ++ out.filter stack.isLocal :=
  congrArg TcpStack.loopbackPacketQueue (h.onto stack.loopbackPacketQueue stack.written)

theorem Output.written {op : TcpStack → TcpStack} {out : List Segment} (h : Output op stack out) :
    (op stack).written = stack.written ++ out :=
  congrArg TcpStack.written (h.onto stack.loopbackPacketQueue stack.written)

end Operations
end TcpStack

namespace Lifecycle
open TransmissionControlBlock

theorem work_written (fd : Int) (d : Lifecycle) (now : Int) (iss : UInt32) (read : DeviceRead) :
    ∃ out, Emits out ∧ (d.work fd now iss read).stack.written = d.stack.written ++ out := by
  have emitted : ∀ {op : TcpStack → TcpStack}, (∃ out, TcpStack.Output op d.stack out) →
      ∃ out, Emits out ∧ (op d.stack).written = d.stack.written ++ out :=
    fun ⟨out, output⟩ => ⟨out, output.formed, output.written⟩
  have silent : ∃ out, Emits out ∧ d.stack.written = d.stack.written ++ out :=
    ⟨[], emits_nil, (List.append_nil _).symm⟩
  obtain ⟨stack, point, isRunning⟩ := d
  cases point with
  | top =>
    rw [work]
    split_ifs <;> exact silent
  | takeDirty next => exact silent
  | dirty ids next =>
    cases ids with
    | nil => exact silent
    | cons id ids => exact emitted (TcpStack.withTcb_output id (·.processBlock_emits now))
  | stage current =>
    cases current with
    | takeLoopback => exact silent
    | loopback batch =>
      cases batch with
      | nil => exact silent
      | cons packet batch => exact emitted (TcpStack.processIncomingPacket_output packet iss)
    | drain => exact emitted (TcpStack.readIncomingPackets_output fd read iss)
  | retransmit => exact emitted (TcpStack.checkRetransmissions_output now)
  | finished => exact silent

theorem step_written (fd : Int) (d : Lifecycle) (event : LifecycleEvent) :
    ∃ out, Emits out ∧ (d.step fd event).stack.written = d.stack.written ++ out := by
  cases event with
  | call made =>
    obtain ⟨out, output⟩ := @TcpStack.call_output d.stack made.event made.made
    exact ⟨out, output.formed, output.written⟩
  | stop => exact ⟨[], emits_nil, (List.append_nil _).symm⟩
  | daemon now iss read =>
    rw [step, advance]
    split_ifs
    · obtain ⟨out, output⟩ := @TcpStack.resumeWrite_output d.stack
      exact ⟨out, output.formed, output.written⟩
    · exact d.work_written fd now iss read

/-- Whatever arrives and whatever is called, in every interleaving, a stack emits segments of
the six kinds only. -/
theorem emitted_formed (fd : Int) (localAddress : UInt32) (events : List LifecycleEvent) :
    Emits (run (step fd) (start localAddress) events).stack.written := by
  have preserve : ∀ (d : Lifecycle) (event : LifecycleEvent), True → Emits d.stack.written →
      Emits (d.step fd event).stack.written := by
    intro d event _ formed packet member
    obtain ⟨out, emits, written⟩ := d.step_written fd event
    rw [written] at member
    rcases List.mem_append.mp member with earlier | now
    · exact formed packet earlier
    · exact emits packet now
  exact @run_invariant _ _ (step fd) (fun d => Emits d.stack.written) (fun _ => True) preserve
    (start localAddress) emits_nil events fun _ _ => trivial

end Lifecycle
end TinyCP
