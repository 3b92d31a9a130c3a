import TinyCP.TcpStack

/-!
# Sockets, and the runs of a stack

The calls of `TcpSocket` on the id the handle holds, where 0 is an unbound handle;
a call that would block has no result yet. A run of a stack interleaves these calls
with the work of its daemon thread and with arbitrary segments from the network.
-/
namespace TinyCP
open EventRun

namespace TcpSocket

def bind (stack : TcpStack) (addr : IPv4Address) (iss : UInt32) : TcpStack × UInt64 :=
  let (stack, addr) := stack.completeAddress addr
  let (stack, socketId) := stack.bindSocket addr
  match stack.getTcb socketId with
  | none => (stack, socketId)
  | some tcb =>
    (stack.setTcb socketId { tcb with snd := { tcb.snd with iss := iss, nxt := iss } }, socketId)

def listen (stack : TcpStack) (socketId : UInt64) : TcpStack :=
  match stack.getTcb socketId with
  | none => stack
  | some tcb =>
    if tcb.currentState ≠ .closed then stack
    else stack.setTcb socketId { tcb with currentState := .listen }

/-- `connect` up to the wait for the handshake. -/
def connect (stack : TcpStack) (socketId : UInt64) (addr : IPv4Address) (iss : UInt32) :
    TcpStack × UInt64 :=
  let localAddr := match stack.getTcb socketId with
    | some tcb => tcb.srcAddress
    | none => ⟨0, 0⟩
  let (stack, socketId) := stack.registerConnection localAddr addr socketId
  match stack.getTcb socketId with
  | none => (stack, socketId)
  | some tcb => ((stack.setTcb socketId (tcb.connect iss)).addDirtyTcb socketId, socketId)

def accept (stack : TcpStack) (socketId : UInt64) : Option (TcpStack × UInt64) :=
  match stack.getTcb socketId with
  | none => some (stack, 0)
  | some tcb =>
    if tcb.currentState ≠ .listen then some (stack, 0)
    else match tcb.acceptQueue with
      | [] => none
      | childId :: rest => some (stack.setTcb socketId { tcb with acceptQueue := rest }, childId)

def send (stack : TcpStack) (socketId : UInt64) (data : List UInt8) : Option (TcpStack × Nat) :=
  match stack.getTcb socketId with
  | none => some (stack, 0)
  | some tcb => (tcb.send data).map fun sent => (stack.perform socketId sent.1, sent.2)

def recv (stack : TcpStack) (socketId : UInt64) (len : Nat) : Option (TcpStack × List UInt8) :=
  match stack.getTcb socketId with
  | none => some (stack, [])
  | some tcb => (tcb.recv len).map fun got => (stack.setTcb socketId got.1, got.2)

def close (stack : TcpStack) (socketId : UInt64) (now : Int) : TcpStack :=
  if socketId = 0 then stack else stack.closeConnection socketId now

end TcpSocket

inductive StackEvent where
  | bind (addr : IPv4Address) (iss : UInt32)
  | listen (socketId : UInt64)
  | connect (socketId : UInt64) (addr : IPv4Address) (iss : UInt32)
  | accept (socketId : UInt64)
  | send (socketId : UInt64) (data : List UInt8)
  | recv (socketId : UInt64) (len : Nat)
  | close (socketId : UInt64) (now : Int)
  | incoming (packet : Segment) (iss : UInt32)
  | loopback (iss : UInt32)
  | processDirtyBlocks (now : Int)
  | checkRetransmissions (now : Int)
  | resumeWrite

namespace TcpStack

/-- The daemon thread's work, skipped while the thread is blocked. -/
def daemon (stack : TcpStack) (work : TcpStack → TcpStack) : TcpStack :=
  if stack.waiting.isSome then stack else work stack

def step (stack : TcpStack) : StackEvent → TcpStack
  | .bind addr iss => (TcpSocket.bind stack addr iss).1
  | .listen socketId => TcpSocket.listen stack socketId
  | .connect socketId addr iss => (TcpSocket.connect stack socketId addr iss).1
  | .accept socketId => ((TcpSocket.accept stack socketId).map Prod.fst).getD stack
  | .send socketId data => ((TcpSocket.send stack socketId data).map Prod.fst).getD stack
  | .recv socketId len => ((TcpSocket.recv stack socketId len).map Prod.fst).getD stack
  | .close socketId now => TcpSocket.close stack socketId now
  | .incoming packet iss => stack.daemon (·.processIncomingPacket packet iss)
  | .loopback iss => stack.daemon fun stack =>
    match stack.loopbackPacketQueue with
    | packet :: rest =>
      { stack with loopbackPacketQueue := rest }.processIncomingPacket packet iss
    | [] => stack
  | .processDirtyBlocks now => stack.daemon (·.processDirtyBlocks now)
  | .checkRetransmissions now => stack.daemon (·.checkRetransmissions now)
  | .resumeWrite =>
    match stack.waiting with
    | some (socketId, payload) =>
      { stack with waiting := none }.withTcb socketId (·.storePayload payload)
    | none => stack

end TcpStack
end TinyCP
