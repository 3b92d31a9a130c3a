import TinyCP.SegmentHandlers
import TinyCP.Tables
import TinyCP.EventRun

/-!
# The stack

A stack is its three tables, the queue of dirty ids, the in-memory loopback queue
and whatever the daemon thread is blocked on. A handler looks up its block by id,
computes the outcome for that block, and the stack carries the outcome out. Initial
sequence numbers and clock readings are arguments. `written` records every segment
that was handed to `write_packet_`.
-/
namespace TinyCP
open EventRun

structure TcpStack where
  socketTable : SocketTable
  listenerTable : ListenerTable
  connectionTable : ConnectionTable
  dirtySocketIds : List UInt64
  loopbackPacketQueue : List Segment
  localAddress : UInt32
  nextPort : UInt16
  waiting : Option (UInt64 × List UInt8)
  written : List Segment

namespace TcpStack

def new (localAddress : UInt32) : TcpStack where
  socketTable := .new
  listenerTable := .new
  connectionTable := .new
  dirtySocketIds := []
  loopbackPacketQueue := []
  localAddress := localAddress
  nextPort := 49152
  waiting := none
  written := []

def getTcb (stack : TcpStack) (socketId : UInt64) : Option TransmissionControlBlock :=
  stack.socketTable.findSocket socketId

def setTcb (stack : TcpStack) (socketId : UInt64) (tcb : TransmissionControlBlock) : TcpStack :=
  { stack with socketTable := stack.socketTable.setSocket socketId tcb }

def findConnectionsTcb (stack : TcpStack) (srcAddress dstAddress : IPv4Address) : UInt64 :=
  stack.connectionTable.find stack.socketTable srcAddress dstAddress

def addDirtyTcb (stack : TcpStack) (socketId : UInt64) : TcpStack :=
  if stack.socketTable.contains socketId then
    { stack with dirtySocketIds := stack.dirtySocketIds ++ [socketId] }
  else stack

/-- Traffic for the stack itself does not reach the TUN device. -/
def isLocal (stack : TcpStack) (packet : Segment) : Bool :=
  packet.src.address = packet.dst.address || packet.dst.address >>> 24 = 127 ||
    packet.dst.address = stack.localAddress

def writePacket (stack : TcpStack) (packet : Segment) : TcpStack :=
  { stack with
    written := stack.written ++ [packet]
    loopbackPacketQueue :=
      if stack.isLocal packet then stack.loopbackPacketQueue ++ [packet]
      else stack.loopbackPacketQueue }

def destroyConnection (stack : TcpStack) (remoteAddr localAddr : IPv4Address) : TcpStack :=
  let (connections, sockets, _) :=
    stack.connectionTable.destroyConnection stack.socketTable remoteAddr localAddr
  { stack with connectionTable := connections, socketTable := sockets }

/-- What the handler of the block `tcb` with this id asks of the tables. -/
def applyEffect (stack : TcpStack) (socketId : UInt64) (tcb : TransmissionControlBlock) :
    TableEffect → TcpStack
  | .none => stack
  | .destroyConnection remoteAddr localAddr => stack.destroyConnection remoteAddr localAddr
  | .abort remoteAddr =>
    { stack with
      connectionTable := (stack.connectionTable.erase remoteAddr tcb.srcAddress).1
      socketTable := (stack.socketTable.destroySocket socketId).1 }
  | .pushAccepted =>
    let listenerId := stack.listenerTable.find stack.socketTable tcb.srcAddress.port
    match stack.getTcb listenerId with
    | some listener =>
      stack.setTcb listenerId { listener with acceptQueue := listener.acceptQueue ++ [socketId] }
    | none => stack

def perform (stack : TcpStack) (socketId : UInt64) (o : Outcome) : TcpStack :=
  let stack := stack.setTcb socketId o.tcb
  let stack := o.out.foldl writePacket stack
  let stack := if o.dirty then stack.addDirtyTcb socketId else stack
  let stack := stack.applyEffect socketId o.tcb o.effect
  { stack with waiting := (o.waiting.map (socketId, ·)).or stack.waiting }

def withTcb (stack : TcpStack) (socketId : UInt64) (work : TransmissionControlBlock → Outcome) :
    TcpStack :=
  match stack.getTcb socketId with
  | some tcb => stack.perform socketId (work tcb)
  | none => stack

def processBlock (stack : TcpStack) (socketId : UInt64) (now : Int) : TcpStack :=
  stack.withTcb socketId (·.processBlock now)

def processDirtyBlocks (stack : TcpStack) (now : Int) : TcpStack :=
  stack.dirtySocketIds.foldl (fun stack socketId => stack.processBlock socketId now)
    { stack with dirtySocketIds := [] }

/-- The sockets are visited in the order of the list; the map's own order is unspecified. -/
def checkRetransmissions (stack : TcpStack) (now : Int) : TcpStack :=
  stack.socketTable.sockets.keys.foldl
    (fun stack socketId =>
      match stack.socketTable.sockets.lookup socketId with
      | some tcb => stack.perform socketId (tcb.checkRetransmission now)
      | none => stack) stack

def closeConnection (stack : TcpStack) (socketId : UInt64) (now : Int) : TcpStack :=
  stack.withTcb socketId (·.closeConnection now)

/-- The loop of `allocate_ephemeral_port` with the attempts left; returns the port and
the value that `next_port` is left with. -/
def findEphemeralPort (stack : TcpStack) : Nat → UInt16 → UInt16 × UInt16
  | 0, nextPort => (nextPort, nextPort + 1)
  | attempts + 1, nextPort =>
    let wraps := nextPort ≥ 65535 || nextPort < 49152
    let candidate := if wraps then 49152 else nextPort
    let nextPort := if wraps then 49152 else nextPort + 1
    if stack.listenerTable.contains stack.socketTable candidate then
      stack.findEphemeralPort attempts nextPort
    else (candidate, nextPort)

def allocateEphemeralPort (stack : TcpStack) : TcpStack × UInt16 :=
  let (port, nextPort) := stack.findEphemeralPort 16384 stack.nextPort
  ({ stack with nextPort := nextPort }, port)

/-- Both callers replace an address or a port of zero. -/
def completeAddress (stack : TcpStack) (addr : IPv4Address) : TcpStack × IPv4Address :=
  let addr := if addr.address = 0 then { addr with address := stack.localAddress } else addr
  if addr.port = 0 then
    let (stack, port) := stack.allocateEphemeralPort
    (stack, { addr with port := port })
  else (stack, addr)

def bindSocket (stack : TcpStack) (addr : IPv4Address) : TcpStack × UInt64 :=
  let (listeners, sockets, socketId) := stack.listenerTable.bindNew stack.socketTable addr
  ({ stack with listenerTable := listeners, socketTable := sockets }, socketId)

def registerConnection (stack : TcpStack) (localAddr remoteAddr : IPv4Address)
    (socketId : UInt64) : TcpStack × UInt64 :=
  let (stack, localAddr) := stack.completeAddress localAddr
  let (connections, sockets, socketId) :=
    stack.connectionTable.registerConnection stack.socketTable localAddr remoteAddr socketId
  ({ stack with connectionTable := connections, socketTable := sockets }, socketId)

/-- The block of a passive open, which answers the SYN with `iss` of its own. -/
def openedBy (child : TransmissionControlBlock) (packet : Segment) (iss : UInt32) :
    TransmissionControlBlock :=
  { child with
    rcv := { irs := packet.seqNum, nxt := packet.seqNum + 1 }
    snd := { child.snd with
      wnd := packet.window.toUInt32
      iss := iss
      una := iss
      nxt := iss + 1 } }

def handlePassiveOpenSyn (stack : TcpStack) (packet : Segment) (iss : UInt32) : TcpStack :=
  let listenerId := stack.listenerTable.find stack.socketTable packet.dst.port
  if listenerId ≠ 0 ∧ packet.syn ∧ !packet.ack then
    let (sockets, childId) :=
      stack.socketTable.createSocket .synReceived packet.dst packet.src
    let stack := { stack with socketTable := sockets }
    match stack.getTcb childId with
    | none => stack
    | some child =>
      let child := openedBy child packet iss
      let stack := stack.setTcb childId child
      let stack := { stack with
        connectionTable := stack.connectionTable.insert packet.src packet.dst childId }
      stack.writePacket
        (child.sendControlPacket true true false false child.snd.iss child.rcv.nxt)
  else stack

/-- `process_incoming_packet_` from the point where both headers are parsed. -/
def processIncomingPacket (stack : TcpStack) (packet : Segment) (iss : UInt32) : TcpStack :=
  let socketId := stack.findConnectionsTcb packet.src packet.dst
  if socketId = 0 then
    if stack.listenerTable.contains stack.socketTable packet.dst.port ∧ packet.syn ∧ !packet.ack then
      stack.handlePassiveOpenSyn packet iss
    else
      (handleClosedResetResponse packet).foldl writePacket stack
  else
    match stack.getTcb socketId with
    | none => (handleClosedResetResponse packet).foldl writePacket stack
    | some tcb =>
      if tcb.currentState = .listen then stack.handlePassiveOpenSyn packet iss
      else stack.perform socketId (tcb.receive packet)

end TcpStack
end TinyCP
