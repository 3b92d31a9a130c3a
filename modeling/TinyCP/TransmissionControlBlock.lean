import TinyCP.BlockingBuffer
import Mathlib.Data.UInt

/-!
# Segments and transmission control blocks

A segment is what the stack sees of a datagram once both headers are parsed:
the two endpoints, the sequence and acknowledgment numbers, the four flags that
the state machine reads, the window and the payload. Sequence variables are
32-bit words and wrap; clock readings are integers in nanoseconds.
-/
namespace TinyCP

structure IPv4Address where
  address : UInt32
  port : UInt16
  deriving DecidableEq

inductive TcpState where
  | closed
  | listen
  | synSent
  | synReceived
  | established
  | finWait1
  | finWait2
  | closeWait
  | closing
  | lastAck
  | timeWait
  deriving DecidableEq

structure Segment where
  src : IPv4Address
  dst : IPv4Address
  seqNum : UInt32
  ackNum : UInt32
  syn : Bool
  ack : Bool
  rst : Bool
  fin : Bool
  window : UInt16
  payload : List UInt8
  deriving DecidableEq

def maxIPv4PacketSize : Nat := 65535

structure SendSequence where
  una : UInt32
  nxt : UInt32
  wnd : UInt32
  iss : UInt32
  deriving DecidableEq

structure ReceiveSequence where
  nxt : UInt32
  irs : UInt32
  deriving DecidableEq

structure TransmissionControlBlock where
  lastWritten : Int
  hasRecivedAck : Bool
  id : UInt64
  currentState : TcpState
  acceptQueue : List UInt64
  srcAddress : IPv4Address
  dstAddress : IPv4Address
  snd : SendSequence
  rcv : ReceiveSequence
  rto : Int
  retransmitAttempts : Int
  sendBuffer : BlockingBuffer UInt8 maxIPv4PacketSize
  recvBuffer : BlockingBuffer UInt8 maxIPv4PacketSize

/-- What a handler asks of the tables, beside the changes to its own block. -/
inductive TableEffect where
  | none
  | destroyConnection (remoteAddr localAddr : IPv4Address)
  | abort (remoteAddr : IPv4Address)
  | pushAccepted
  deriving DecidableEq

/-- The effect of one call on one block: the block afterwards, the segments handed
to `write_packet_` in order, whether `add_dirty_tcb` was called, what is asked of
the tables, and the payload on which the caller still waits in `recv_buffer.write`. -/
structure Outcome where
  tcb : TransmissionControlBlock
  out : List Segment := []
  dirty : Bool := false
  effect : TableEffect := .none
  waiting : Option (List UInt8) := Option.none

def emptyBuffer : BlockingBuffer UInt8 maxIPv4PacketSize :=
  BlockingBuffer.empty (fun _ => 0) (by decide)

namespace TransmissionControlBlock

def new (state : TcpState) (src dst : IPv4Address) : TransmissionControlBlock where
  lastWritten := 0
  hasRecivedAck := false
  id := 0
  currentState := state
  acceptQueue := []
  srcAddress := src
  dstAddress := dst
  snd := { una := 0, nxt := 0, wnd := 65535, iss := 0 }
  rcv := { nxt := 0, irs := 0 }
  rto := 500000000
  retransmitAttempts := 0
  sendBuffer := emptyBuffer
  recvBuffer := emptyBuffer

def setState (tcb : TransmissionControlBlock) (newState : TcpState) : TransmissionControlBlock :=
  { tcb with currentState := newState }

/-- Wakes both buffers; the state it sets is overwritten by every caller that sends a FIN. -/
def close (tcb : TransmissionControlBlock) : TransmissionControlBlock :=
  { tcb with
    recvBuffer := tcb.recvBuffer.forceWakeUp
    sendBuffer := tcb.sendBuffer.forceWakeUp
    currentState := if tcb.currentState = .established then .finWait1 else .lastAck }

def inFlight (tcb : TransmissionControlBlock) : UInt32 := tcb.snd.nxt - tcb.snd.una

/-- The test that re-queues a socket: unsent data, and a window that permits sending it. -/
def hasUnsentInWindow (tcb : TransmissionControlBlock) : Bool :=
  tcb.sendBuffer.size > tcb.inFlight.toNat && tcb.snd.wnd > tcb.inFlight

def freeWnd (tcb : TransmissionControlBlock) : UInt16 :=
  UInt16.ofNat (min tcb.recvBuffer.availableCapacity 65535)

end TransmissionControlBlock
end TinyCP
