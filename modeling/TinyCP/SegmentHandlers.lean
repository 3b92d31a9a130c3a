import TinyCP.TransmissionControlBlock

/-!
# The state machine of one connection

Each function below is the part of a `TcpStack` or `TcpSocket` method that works
on one control block, after the lookup by socket id has succeeded. The tables
are only asked for something through the outcome's effect.
-/
namespace TinyCP
namespace TransmissionControlBlock

def createWriterTcpPacket (tcb : TransmissionControlBlock) (data : List UInt8)
    (seqNum : UInt32) : Segment where
  src := tcb.srcAddress
  dst := tcb.dstAddress
  seqNum := seqNum
  ackNum := tcb.rcv.nxt
  syn := false
  ack := true
  rst := false
  fin := false
  window := tcb.freeWnd
  payload := data

def sendControlPacket (tcb : TransmissionControlBlock) (syn ack rst fin : Bool)
    (seqNum ackNum : UInt32) (windowSize : UInt16 := 65535) : Segment where
  src := tcb.srcAddress
  dst := tcb.dstAddress
  seqNum := seqNum
  ackNum := ackNum
  syn := syn
  ack := ack
  rst := rst
  fin := fin
  window := if windowSize = 65535 then tcb.freeWnd else windowSize
  payload := []

/-- `<SEQ=SND.NXT><ACK=RCV.NXT><CTL=ACK>`, the answer most handlers give. -/
def sendAck (tcb : TransmissionControlBlock) : Segment :=
  tcb.sendControlPacket false true false false tcb.snd.nxt tcb.rcv.nxt

/-- The states in which `process_block_` transmits data. -/
def TransmitsData : TcpState → Bool
  | .established | .closeWait | .finWait1 | .lastAck => true
  | _ => false

def usableWindow (tcb : TransmissionControlBlock) : UInt32 :=
  if tcb.snd.wnd > tcb.inFlight then tcb.snd.wnd - tcb.inFlight else 0

def processBlock (tcb : TransmissionControlBlock) (now : Int) : Outcome :=
  let tcb := { tcb with lastWritten := now }
  if tcb.currentState = .synSent then
    { tcb := tcb, out := [tcb.sendControlPacket true false false false tcb.snd.iss 0] }
  else if !TransmitsData tcb.currentState then
    { tcb := tcb }
  else if tcb.usableWindow = 0 then
    { tcb := tcb }
  else
    let maxToSend := min (min tcb.usableWindow.toNat 1460) maxIPv4PacketSize
    let data := tcb.sendBuffer.peek maxToSend tcb.inFlight.toNat
    if data.length = 0 then
      { tcb := tcb }
    else
      let packet := tcb.createWriterTcpPacket data tcb.snd.nxt
      let tcb := { tcb with snd.nxt := tcb.snd.nxt + UInt32.ofNat data.length }
      { tcb := tcb, out := [packet], dirty := tcb.hasUnsentInWindow }

/-- The body of the loop over all sockets in `check_retransmissions_`. -/
def checkRetransmission (tcb : TransmissionControlBlock) (now : Int) : Outcome :=
  if tcb.currentState ≠ .established then
    { tcb := tcb }
  else if tcb.inFlight > 0 ∧ now - tcb.lastWritten ≥ tcb.rto then
    let maxToRetransmit := min (min tcb.inFlight.toNat 1460) maxIPv4PacketSize
    let data := tcb.sendBuffer.peek maxToRetransmit 0
    if data.length > 0 then
      let packet := tcb.createWriterTcpPacket data tcb.snd.una
      { tcb := { tcb with
          lastWritten := now
          retransmitAttempts := tcb.retransmitAttempts + 1 }
        out := [packet] }
    else
      { tcb := tcb }
  else
    { tcb := tcb }

/-- Both closing branches of `close_connection`: flush, then a FIN at `SND.NXT`. -/
def closeWithFin (tcb : TransmissionControlBlock) (now : Int) (state : TcpState) : Outcome :=
  let flushed := tcb.processBlock now
  let tcb := flushed.tcb.close.setState state
  let fin := tcb.sendControlPacket false true false true tcb.snd.nxt tcb.rcv.nxt
  { tcb := { tcb with snd.nxt := tcb.snd.nxt + 1 }
    out := flushed.out ++ [fin]
    dirty := flushed.dirty }

def closeConnection (tcb : TransmissionControlBlock) (now : Int) : Outcome :=
  match tcb.currentState with
  | .established => tcb.closeWithFin now .finWait1
  | .closeWait => tcb.closeWithFin now .lastAck
  | _ =>
    { tcb := tcb.close
      effect := .destroyConnection tcb.srcAddress tcb.dstAddress }

/-- `TcpSocket::connect` on its registered block, up to the wait for the handshake. -/
def connect (tcb : TransmissionControlBlock) (iss : UInt32) : TransmissionControlBlock :=
  { tcb with
    snd := { tcb.snd with iss := iss, una := iss, nxt := iss + 1 }
    currentState := .synSent }

/-- `TcpSocket::send`, with the number of bytes accepted; `none` while it blocks. -/
def send (tcb : TransmissionControlBlock) (data : List UInt8) : Option (Outcome × Nat) :=
  (tcb.sendBuffer.write data).map fun written =>
    ({ tcb := { tcb with sendBuffer := written.1 }, dirty := true }, written.2)

/-- `TcpSocket::recv` into a span of `len` bytes; `none` while it blocks. -/
def recv (tcb : TransmissionControlBlock) (len : Nat) :
    Option (TransmissionControlBlock × List UInt8) :=
  (tcb.recvBuffer.read len).map fun got => ({ tcb with recvBuffer := got.1 }, got.2)

def handleSynSentState (tcb : TransmissionControlBlock) (packet : Segment) : Outcome :=
  if packet.rst then
    if packet.ack ∧ packet.ackNum = tcb.snd.nxt then
      { tcb := tcb.setState .closed }
    else
      { tcb := tcb }
  else if packet.ack ∧ packet.ackNum ≠ tcb.snd.nxt then
    { tcb := tcb, out := [tcb.sendControlPacket false false true false packet.ackNum 0] }
  else if packet.syn ∧ packet.ack then
    let tcb := { tcb with
      rcv := { irs := packet.seqNum, nxt := packet.seqNum + 1 }
      snd := { tcb.snd with una := packet.ackNum, wnd := packet.window.toUInt32 }
      currentState := .established }
    { tcb := tcb, out := [tcb.sendAck] }
  else if packet.syn then
    let tcb := { tcb with
      rcv := { irs := packet.seqNum, nxt := packet.seqNum + 1 }
      snd := { tcb.snd with wnd := packet.window.toUInt32 }
      currentState := .synReceived }
    { tcb := tcb, out := [tcb.sendControlPacket true true false false tcb.snd.iss tcb.rcv.nxt] }
  else
    { tcb := tcb }

def handleSynReceivedState (tcb : TransmissionControlBlock) (packet : Segment) : Outcome :=
  if packet.rst then
    { tcb := tcb.setState .closed, effect := .abort packet.src }
  else if !packet.ack then
    { tcb := tcb }
  else if packet.ackNum ≠ tcb.snd.nxt then
    { tcb := tcb }
  else
    let tcb := { tcb with
      snd := { tcb.snd with una := packet.ackNum, wnd := packet.window.toUInt32 }
      currentState := .established }
    { tcb := tcb
      out := if packet.syn ∧ packet.ack then [tcb.sendAck] else []
      effect := .pushAccepted }

/-- The FIN branch of `handle_established_state_`. -/
def receiveFin (tcb : TransmissionControlBlock) (packet : Segment) : Outcome :=
  let tcb := { tcb with rcv.nxt := packet.seqNum + 1 }
  let tcb := if packet.ack then
      { tcb with snd := { tcb.snd with nxt := packet.ackNum, wnd := packet.window.toUInt32 } }
    else tcb
  { tcb := { tcb.setState .closeWait with recvBuffer := tcb.recvBuffer.forceWakeUp }
    out := [tcb.sendAck] }

/-- The acknowledgment part: only the lower end of the acknowledged range is compared. -/
def receiveAck (tcb : TransmissionControlBlock) (packet : Segment) : TransmissionControlBlock :=
  let ackNum := packet.ackNum
  let tcb := if 0 < (ackNum - tcb.snd.una).toInt32 then
      { tcb with
        sendBuffer := (tcb.sendBuffer.discard (ackNum - tcb.snd.una).toNat).1
        snd.una := ackNum }
    else tcb
  { tcb with
    snd.wnd := packet.window.toUInt32
    hasRecivedAck := true }

/-- `recv_buffer.write` and the ACK that follows it; the write may have to wait. -/
def storePayload (tcb : TransmissionControlBlock) (payload : List UInt8) : Outcome :=
  match tcb.recvBuffer.write payload with
  | some written =>
    let tcb := { tcb with recvBuffer := written.1 }
    { tcb := tcb, out := [tcb.sendAck] }
  | none => { tcb := tcb, waiting := some payload }

def handleEstablishedState (tcb : TransmissionControlBlock) (packet : Segment) : Outcome :=
  if packet.fin then
    tcb.receiveFin packet
  else
    let tcb := if packet.ack then tcb.receiveAck packet else tcb
    let dirty := packet.ack && tcb.hasUnsentInWindow
    if packet.payload.length > 0 then
      let tcb := { tcb with rcv.nxt := tcb.rcv.nxt + UInt32.ofNat packet.payload.length }
      { tcb.storePayload packet.payload with dirty := dirty }
    else
      { tcb := tcb, dirty := dirty }

/-- The two addresses are handed to `destroy_connection` in the block's own order. -/
def closedBy (tcb : TransmissionControlBlock) (out : List Segment) : Outcome :=
  { tcb := tcb.setState .closed
    out := out
    effect := .destroyConnection tcb.srcAddress tcb.dstAddress }

def handleFinWait1State (tcb : TransmissionControlBlock) (packet : Segment) : Outcome :=
  if packet.ack ∧ packet.ackNum = tcb.snd.nxt then
    if packet.fin then
      let tcb := { tcb with rcv.nxt := packet.seqNum + 1 }
      tcb.closedBy [tcb.sendAck]
    else
      { tcb := tcb.setState .finWait2 }
  else if packet.fin then
    let tcb := { tcb with rcv.nxt := packet.seqNum + 1 }
    { tcb := tcb.setState .closing, out := [tcb.sendAck] }
  else
    { tcb := tcb }

def handleFinWait2State (tcb : TransmissionControlBlock) (packet : Segment) : Outcome :=
  if packet.fin then
    let tcb := { tcb with rcv.nxt := packet.seqNum + 1 }
    let tcb := if packet.ack then { tcb with snd.nxt := packet.ackNum } else tcb
    tcb.closedBy [tcb.sendAck]
  else
    { tcb := tcb }

/-- `handle_closing_state_` and `handle_last_ack_state_` have the same body. -/
def awaitFinalAck (tcb : TransmissionControlBlock) (packet : Segment) : Outcome :=
  if packet.ack ∧ packet.ackNum = tcb.snd.nxt then tcb.closedBy [] else { tcb := tcb }

def handleClosingState (tcb : TransmissionControlBlock) (packet : Segment) : Outcome :=
  tcb.awaitFinalAck packet

def handleLastAckState (tcb : TransmissionControlBlock) (packet : Segment) : Outcome :=
  tcb.awaitFinalAck packet

end TransmissionControlBlock

def sendRawRst (src dst : IPv4Address) (seqNum ackNum : UInt32) (ackFlag : Bool) : Segment where
  src := src
  dst := dst
  seqNum := seqNum
  ackNum := ackNum
  syn := false
  ack := ackFlag
  rst := true
  fin := false
  window := 0
  payload := []

def handleClosedResetResponse (packet : Segment) : List Segment :=
  if packet.rst then
    []
  else if packet.ack then
    [sendRawRst packet.dst packet.src packet.ackNum 0 false]
  else
    let ackVal := packet.seqNum + UInt32.ofNat packet.payload.length + (if packet.syn then 1 else 0)
    [sendRawRst packet.dst packet.src 0 ackVal true]

/-- The switch of `process_incoming_packet_` on the state of a found block. A block
in LISTEN is left to the passive open of the stack. -/
def TransmissionControlBlock.receive (tcb : TransmissionControlBlock) (packet : Segment) : Outcome :=
  match tcb.currentState with
  | .closed => { tcb := tcb, out := handleClosedResetResponse packet }
  | .listen => { tcb := tcb }
  | .synSent => tcb.handleSynSentState packet
  | .synReceived => tcb.handleSynReceivedState packet
  | .established => tcb.handleEstablishedState packet
  | .finWait1 => tcb.handleFinWait1State packet
  | .finWait2 => tcb.handleFinWait2State packet
  | .closing => tcb.handleClosingState packet
  | .lastAck => tcb.handleLastAckState packet
  | .closeWait | .timeWait => { tcb := tcb }

end TinyCP
