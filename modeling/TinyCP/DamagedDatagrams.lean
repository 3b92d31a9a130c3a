import TinyCP.ResetHandling
import TinyCP.PacketViews
import TinyCP.Checksum

/-!
# Damaged and foreign datagrams

The writers compute both checksums and set the protocol field. On the way in the views
look at the version and the lengths only, so a datagram that is damaged, is not TCP or
is a fragment is taken like any other. It has no effect exactly when a sound segment
with the same fields would have none.
-/
namespace TinyCP
open EventRun WireBytes

def IPv4PacketView.ChecksumVerifies (view : IPv4PacketView) : Prop :=
  onesComplementChecksum (view.bytes.take view.headerLength.toNat) = 0

/-- The checksum over pseudo-header, header and payload. -/
def TcpPacketView.ChecksumVerifies (view : TcpPacketView) (source destination : UInt32) : Prop :=
  computeTcpChecksum (htonl source) (htonl destination)
    (view.bytes.take view.headerLength.toNat) view.payload = 0

/-- A checksum does not verify, the protocol is not TCP, or the datagram is a fragment. -/
def Damaged (buffer : List UInt8) : Prop :=
  let ip : IPv4PacketView := ⟨buffer⟩
  let tcp : TcpPacketView := ⟨ip.payload⟩
  ¬ ip.ChecksumVerifies ∨
  ¬ tcp.ChecksumVerifies ip.sourceAddressNtoh ip.destinationAddressNtoh ∨
  ip.protocol ≠ 6 ∨ ip.fragmentOffset ≠ 0 ∨ ip.flags &&& 1 ≠ 0

/-- No packet is emitted, and tables, blocks, accept queues and dirty queue stay. -/
structure Unaffected (stack next : TcpStack) : Prop where
  silent : next.written = stack.written
  tables : TcpStack.SameTables stack next
  dirty : next.dirtySocketIds = stack.dirtySocketIds

theorem Unaffected.refl (stack : TcpStack) : Unaffected stack stack :=
  ⟨rfl, ⟨rfl, fun _ => rfl, fun _ => rfl, fun _ => rfl⟩, rfl⟩

def IgnoresDamage (stack : TcpStack) (buffer : List UInt8) (iss : UInt32) : Prop :=
  Damaged buffer → Unaffected stack (stack.processIncomingBytes buffer iss)

def AcksNext (packet : Segment) (tcb : TransmissionControlBlock) : Prop :=
  packet.ack = true ∧ packet.ackNum = tcb.snd.nxt

/-- An acknowledgment that brings nothing new, and after which nothing can be sent. -/
structure StaleAck (packet : Segment) (tcb : TransmissionControlBlock) : Prop where
  behind : ¬ 0 < (packet.ackNum - tcb.snd.una).toInt32
  window : packet.window.toUInt32 = tcb.snd.wnd
  acked : tcb.hasRecivedAck = true
  drained : tcb.hasUnsentInWindow = false

/-- The segments of which the handler of the block's state takes no notice. -/
def Inert (packet : Segment) (tcb : TransmissionControlBlock) : Prop :=
  match tcb.currentState with
  | .closed => packet.rst = true
  | .synSent =>
    if packet.rst then ¬ AcksNext packet tcb
    else packet.syn = false ∧ (packet.ack = true → packet.ackNum = tcb.snd.nxt)
  | .synReceived => packet.rst = false ∧ ¬ AcksNext packet tcb
  | .established =>
    packet.fin = false ∧ packet.payload = [] ∧ (packet.ack = true → StaleAck packet tcb)
  | .finWait1 => packet.fin = false ∧ ¬ AcksNext packet tcb
  | .finWait2 => packet.fin = false
  | .closing | .lastAck => ¬ AcksNext packet tcb
  | .listen | .closeWait | .timeWait => True

/-- The segments of which the stack takes no notice. -/
def Ignored (stack : TcpStack) (packet : Segment) : Prop :=
  match stack.registered packet.src packet.dst with
  | none => packet.rst = true ∧ ¬ TakenForSyn stack packet
  | some tcb =>
    if tcb.currentState = .listen then ¬ TakenForSyn stack packet else Inert packet tcb

/-- What an outcome without any effect on the rest of the stack leaves of a block. -/
structure Traceless (tcb : TransmissionControlBlock) (o : Outcome) : Prop where
  silent : o.out = []
  clean : o.dirty = false
  state : o.tcb.currentState = tcb.currentState
  snd : o.tcb.snd = tcb.snd
  rcv : o.tcb.rcv = tcb.rcv
  acked : o.tcb.hasRecivedAck = tcb.hasRecivedAck

namespace TransmissionControlBlock
variable {tcb : TransmissionControlBlock} {packet : Segment}

theorem receiveAck_eq_self (behind : ¬ 0 < (packet.ackNum - tcb.snd.una).toInt32)
    (window : packet.window.toUInt32 = tcb.snd.wnd) (acked : tcb.hasRecivedAck = true) :
    tcb.receiveAck packet = tcb := by
  simp only [receiveAck, behind, if_false, window]
  cases tcb
  simp only at acked
  rw [acked]

theorem handleEstablishedState_of_inert (noFin : packet.fin = false) (empty : packet.payload = [])
    (stale : packet.ack = true → StaleAck packet tcb) :
    tcb.handleEstablishedState packet = { tcb := tcb } := by
  simp only [handleEstablishedState, noFin, empty, Bool.false_eq_true, if_false, List.length_nil,
    gt_iff_lt, lt_irrefl]
  cases ack : packet.ack with
  | true =>
    obtain ⟨behind, window, acked, drained⟩ := stale ack
    simp [receiveAck_eq_self behind window acked, drained]
  | false => rfl

theorem handleSynSentState_of_inert (inert : if packet.rst then ¬ AcksNext packet tcb
    else packet.syn = false ∧ (packet.ack = true → packet.ackNum = tcb.snd.nxt)) :
    tcb.handleSynSentState packet = { tcb := tcb } := by
  rw [handleSynSentState]
  split_ifs at inert ⊢ with rst acks refused opened syn
  · exact absurd acks inert
  · rfl
  · exact absurd (inert.2 refused.1) refused.2
  · rw [inert.1] at opened
    exact absurd opened.1 Bool.false_ne_true
  · rw [inert.1] at syn
    exact absurd syn Bool.false_ne_true
  · rfl

theorem handleSynReceivedState_of_inert (noRst : packet.rst = false)
    (unacked : ¬ AcksNext packet tcb) : tcb.handleSynReceivedState packet = { tcb := tcb } := by
  simp only [handleSynReceivedState, noRst, Bool.false_eq_true, if_false]
  by_cases ack : packet.ack = true
  · have other : packet.ackNum ≠ tcb.snd.nxt := fun next => unacked ⟨ack, next⟩
    simp only [ack, Bool.not_true, Bool.false_eq_true, if_false, ne_eq, other, not_false_eq_true,
      if_true]
  · simp only [ack, Bool.not_false, if_true]

theorem receive_of_inert (inert : Inert packet tcb) : tcb.receive packet = { tcb := tcb } := by
  rw [Inert] at inert
  rw [receive]
  cases state : tcb.currentState with
  | closed =>
    rw [state] at inert
    simp only [handleClosedResetResponse, inert, if_true]
  | listen => rfl
  | synSent =>
    rw [state] at inert
    exact handleSynSentState_of_inert inert
  | synReceived =>
    rw [state] at inert
    exact handleSynReceivedState_of_inert inert.1 inert.2
  | established =>
    rw [state] at inert
    exact handleEstablishedState_of_inert inert.1 inert.2.1 inert.2.2
  | finWait1 =>
    rw [state] at inert
    have noFin : ¬ packet.fin = true := by simp [inert.1]
    exact (if_neg inert.2).trans (if_neg noFin)
  | finWait2 =>
    rw [state] at inert
    have noFin : ¬ packet.fin = true := by simp [inert]
    exact if_neg noFin
  | closeWait => rfl
  | closing =>
    rw [state] at inert
    exact if_neg inert
  | lastAck =>
    rw [state] at inert
    exact if_neg inert
  | timeWait => rfl

theorem inert_of_traceless_synSent (state : tcb.currentState = .synSent)
    (traceless : Traceless tcb (tcb.handleSynSentState packet)) :
    if packet.rst then ¬ AcksNext packet tcb
    else packet.syn = false ∧ (packet.ack = true → packet.ackNum = tcb.snd.nxt) := by
  have silent := traceless.silent
  have same := traceless.state.trans state
  rw [handleSynSentState] at silent same
  split_ifs at silent same ⊢ with rst acks refused opened syn
  · cases same
  · exact acks
  · exact ⟨by simpa using syn, fun ack => not_not.mp fun other => refused ⟨ack, other⟩⟩

theorem inert_of_traceless_synReceived (state : tcb.currentState = .synReceived)
    (traceless : Traceless tcb (tcb.handleSynReceivedState packet)) :
    packet.rst = false ∧ ¬ AcksNext packet tcb := by
  have same := traceless.state.trans state
  rw [handleSynReceivedState] at same
  split_ifs at same with rst noAck other
  · cases same
  · exact ⟨by simpa using rst, fun acks => by simp [acks.1] at noAck⟩
  · exact ⟨by simpa using rst, fun acks => other acks.2⟩

theorem inert_of_traceless_finWait1 (state : tcb.currentState = .finWait1)
    (traceless : Traceless tcb (tcb.handleFinWait1State packet)) :
    packet.fin = false ∧ ¬ AcksNext packet tcb := by
  have same := traceless.state.trans state
  rw [handleFinWait1State] at same
  split_ifs at same with acks fin fin
  · cases same
  · cases same
  · cases same
  · exact ⟨by simpa using fin, acks⟩

theorem inert_of_traceless_finWait2 (state : tcb.currentState = .finWait2)
    (traceless : Traceless tcb (tcb.handleFinWait2State packet)) : packet.fin = false := by
  have same := traceless.state.trans state
  cases fin : packet.fin with
  | true =>
    simp only [handleFinWait2State, fin, if_true] at same
    cases same
  | false => rfl

theorem inert_of_traceless_finalAck (state : tcb.currentState ≠ .closed)
    (traceless : Traceless tcb (tcb.awaitFinalAck packet)) : ¬ AcksNext packet tcb := by
  intro acks
  have same := traceless.state
  have closes : tcb.awaitFinalAck packet = tcb.closedBy [] := if_pos acks
  rw [closes] at same
  exact state same.symm

theorem inert_of_traceless_established (bound : packet.payload.length < 2 ^ 32)
    (traceless : Traceless tcb (tcb.handleEstablishedState packet)) :
    packet.fin = false ∧ packet.payload = [] ∧ (packet.ack = true → StaleAck packet tcb) := by
  have noFin : packet.fin = false := by
    cases fin : packet.fin with
    | true =>
      have silent := traceless.silent
      simp only [handleEstablishedState, fin, if_true] at silent
      cases silent
    | false => rfl
  rcases tcb.handleEstablishedState_cases noFin with
    ⟨empty, same⟩ | ⟨_, _, same⟩ | ⟨data, _, same⟩ <;> rw [same] at traceless
  · refine ⟨noFin, empty, fun ack => ?_⟩
    have sent := traceless.snd
    have clean := traceless.clean
    have behind : ¬ 0 < (packet.ackNum - tcb.snd.una).toInt32 := by
      intro ahead
      have moved := (afterAck_of_ahead ack ahead).1
      rw [sent] at moved
      rw [moved, UInt32.sub_self] at ahead
      exact absurd ahead (by decide)
    have window : packet.window.toUInt32 = tcb.snd.wnd := by
      rw [← afterAck_wnd tcb packet ack, sent]
    have acked : tcb.hasRecivedAck = true := by
      rw [← traceless.acked, afterAck, if_pos ack]
      rfl
    have unmoved : tcb.afterAck packet = tcb := by
      rw [afterAck, if_pos ack, receiveAck_eq_self behind window acked]
    rw [unmoved, ack, Bool.true_and] at clean
    exact ⟨behind, window, acked, clean⟩
  · cases traceless.silent
  · have counted : (tcb.afterAck packet).rcv.nxt + UInt32.ofNat packet.payload.length =
        tcb.rcv.nxt := congrArg ReceiveSequence.nxt traceless.rcv
    rw [afterAck_rcv] at counted
    have none : (UInt32.ofNat packet.payload.length).toNat = 0 :=
      congrArg UInt32.toNat (add_eq_left.mp counted)
    rw [UInt32.toNat_ofNat', Nat.mod_eq_of_lt bound] at none
    exact absurd (List.length_eq_zero_iff.mp none) data

/-- Conversely, each handler leaves a trace of what it takes notice of. -/
theorem inert_of_traceless (bound : packet.payload.length < 2 ^ 32)
    (traceless : Traceless tcb (tcb.receive packet)) : Inert packet tcb := by
  rw [receive] at traceless
  rw [Inert]
  cases state : tcb.currentState with
  | closed =>
    rw [state] at traceless
    have silent := traceless.silent
    simp only [handleClosedResetResponse] at silent
    split_ifs at silent with rst
    exact rst
  | listen => trivial
  | synSent =>
    rw [state] at traceless
    exact inert_of_traceless_synSent state traceless
  | synReceived =>
    rw [state] at traceless
    exact inert_of_traceless_synReceived state traceless
  | established =>
    rw [state] at traceless
    exact inert_of_traceless_established bound traceless
  | finWait1 =>
    rw [state] at traceless
    exact inert_of_traceless_finWait1 state traceless
  | finWait2 =>
    rw [state] at traceless
    exact inert_of_traceless_finWait2 state traceless
  | closeWait => trivial
  | closing =>
    rw [state] at traceless
    exact inert_of_traceless_finalAck (by rw [state]; decide) traceless
  | lastAck =>
    rw [state] at traceless
    exact inert_of_traceless_finalAck (by rw [state]; decide) traceless
  | timeWait => trivial

end TransmissionControlBlock

namespace TcpStack
variable {stack : TcpStack} {socketId : UInt64} {tcb : TransmissionControlBlock}

/-- Putting a block back where it was found changes nothing. -/
theorem perform_same (found : stack.getTcb socketId = some tcb) :
    Unaffected stack (stack.perform socketId { tcb := tcb }) := by
  obtain ⟨_, entry⟩ := SocketTable.findSocket_eq_some_iff.mp found
  have frame := stack.perform_frame socketId { tcb := tcb }
  obtain ⟨sockets, connections⟩ := @perform_of_plain stack socketId { tcb := tcb } rfl
  refine ⟨?_, ⟨?_, ?_, ?_, ?_⟩, ?_⟩
  · rw [frame]
    exact List.append_nil _
  · rw [sockets]
    rfl
  · intro id
    rw [sockets, SocketTable.setSocket]
    by_cases same : id = socketId
    · rw [same, AList.lookup_insert, entry]
    · rw [AList.lookup_insert_ne same]
  · intro port
    rw [frame]
  · intro key
    rw [connections]
  · rw [frame]
    exact List.append_nil _

/-- An outcome that is not seen from outside has left its block as it was. -/
theorem traceless_of_unaffected (found : stack.getTcb socketId = some tcb) {o : Outcome}
    (unaffected : Unaffected stack (stack.perform socketId o)) : Traceless tcb o := by
  have real := SocketTable.ne_zero_of_findSocket found
  have frame := stack.perform_frame socketId o
  have silent : o.out = [] := by
    have written := unaffected.silent
    rw [frame] at written
    exact List.append_right_eq_self.mp written
  have clean : o.dirty = false := by
    have queued := unaffected.dirty
    rw [frame] at queued
    have none := List.append_right_eq_self.mp queued
    cases dirty : o.dirty with
    | true => simp [dirty, real] at none
    | false => rfl
  have carried : (stack.carriedOut socketId o).getTcb socketId = some o.tcb := by
    rw [getTcb, carriedOut_eq]
    exact SocketTable.findSocket_setSocket _ real _
  have kept : (stack.perform socketId o).getTcb socketId = some tcb := by
    rw [getTcb, SocketTable.findSocket_eq_some_iff, unaffected.tables.sockets]
    exact SocketTable.findSocket_eq_some_iff.mp found
  rw [perform_eq] at kept
  rcases applyEffect_found kept with same | ⟨_, listener, same, pushed⟩
  · rw [carried, Option.some.injEq] at same
    rw [← same]
    exact ⟨silent, clean, rfl, rfl, rfl, rfl⟩
  · rw [carried, Option.some.injEq] at same
    rw [pushed, ← same]
    exact ⟨silent, clean, rfl, rfl, rfl, rfl⟩

/-- A passive open takes an id. -/
theorem handlePassiveOpenSyn_unaffected (packet : Segment) (iss : UInt32) :
    Unaffected stack (stack.handlePassiveOpenSyn packet iss) ↔ ¬ TakenForSyn stack packet := by
  constructor
  · intro unaffected taken
    exact handlePassiveOpenSyn_nextId_ne iss taken unaffected.tables.nextId
  · intro ordinary
    have same : stack.handlePassiveOpenSyn packet iss = stack := if_neg ordinary
    rw [same]
    exact .refl stack

/-- The answer to a segment for a closed port is itself an effect. -/
theorem closedResetResponse_unaffected (packet : Segment) :
    Unaffected stack ((handleClosedResetResponse packet).foldl writePacket stack) ↔
      packet.rst = true := by
  constructor
  · intro unaffected
    have written := unaffected.silent
    rw [writePackets_eq] at written
    have none := List.append_right_eq_self.mp written
    rw [handleClosedResetResponse] at none
    split_ifs at none with rst
    exact rst
  · intro rst
    rw [handleClosedResetResponse, if_pos rst]
    exact .refl stack

theorem processIncomingPacket_unaffected_iff (packet : Segment)
    (bound : packet.payload.length < 2 ^ 32) (iss : UInt32) :
    Unaffected stack (stack.processIncomingPacket packet iss) ↔ Ignored stack packet := by
  rw [Ignored]
  cases found : stack.registered packet.src packet.dst with
  | none =>
    rw [processIncomingPacket_of_unregistered found]
    split_ifs with taken
    · rw [handlePassiveOpenSyn_unaffected]
      exact ⟨fun ordinary => absurd taken ordinary, fun ignored => ignored.2⟩
    · rw [closedResetResponse_unaffected]
      exact ⟨fun rst => ⟨rst, taken⟩, fun ignored => ignored.1⟩
  | some tcb =>
    by_cases listen : tcb.currentState = .listen
    · rw [processIncomingPacket_of_listening found listen]
      simp only [if_pos listen]
      exact handlePassiveOpenSyn_unaffected packet iss
    · rw [processIncomingPacket_of_bound found listen]
      simp only [if_neg listen]
      constructor
      · intro unaffected
        exact TransmissionControlBlock.inert_of_traceless bound
          (traceless_of_unaffected found unaffected)
      · intro inert
        rw [TransmissionControlBlock.receive_of_inert inert]
        exact perform_same found

end TcpStack

/-- For every stack and every buffer: a damaged or foreign datagram has no effect if and
only if a view refuses it or its segment is one of which the stack takes no notice. -/
theorem ignoresDamage_iff (stack : TcpStack) (buffer : List UInt8) (iss : UInt32) :
    IgnoresDamage stack buffer iss ↔
      (Damaged buffer → ∀ arrived, parseIncoming buffer = some arrived →
        Ignored stack arrived.segment) := by
  rw [IgnoresDamage, TcpStack.processIncomingBytes]
  cases parsed : parseIncoming buffer with
  | none =>
    constructor
    · intro _ _ arrived refused
      cases refused
    · intro _ _
      exact .refl stack
  | some arrived =>
    have bound : arrived.segment.payload.length < 2 ^ 32 := by
      have short := length_payload_lt parsed
      change arrived.packet.payload.length < 2 ^ 32
      omega
    have ignored := stack.processIncomingPacket_unaffected_iff arrived.segment bound iss
    constructor
    · rintro unaffected damaged _ ⟨⟩
      exact ignored.mp (unaffected damaged)
    · intro unnoticed damaged
      exact ignored.mpr (unnoticed damaged arrived rfl)

/-- A SYN for port 8080 of 10.0.0.2 with both checksum fields zero. -/
def sampleDamaged : List UInt8 :=
  [0x45, 0, 0, 40, 0, 0, 0, 0, 255, 6, 0, 0, 10, 0, 0, 3, 10, 0, 0, 2,
    0x23, 0x82, 0x1F, 0x90, 0, 0, 0, 100, 0, 0, 0, 0, 0x50, 2, 255, 255, 0, 0, 0, 0]

/-- A stack without a single socket answers it with a RST. -/
theorem damaged_syn_answered : ¬ ∀ (stack : TcpStack) (buffer : List UInt8) (iss : UInt32),
    IgnoresDamage stack buffer iss := by
  intro ignores
  have damaged : Damaged sampleDamaged := by
    left
    rw [IPv4PacketView.ChecksumVerifies]
    decide +kernel
  have silent := (ignores (.new 0x0A000002) sampleDamaged 0 damaged).silent
  have answered := congrArg List.length silent
  revert answered
  decide

end TinyCP
