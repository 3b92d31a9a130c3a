import TinyCP.WireBytes
import TinyCP.TcpStack

/-!
# Views of raw bytes

A view reads the fields of a header straight from the bytes of a datagram. The getters
index the span without a check; where a view is valid, everything they read is inside.
-/
namespace TinyCP
open WireBytes

structure IPv4PacketView where
  bytes : List UInt8

namespace IPv4PacketView

def versionIhl (view : IPv4PacketView) : UInt8 := view.bytes.getD 0 0

def typeOfService (view : IPv4PacketView) : UInt8 := view.bytes.getD 1 0

def totalLength (view : IPv4PacketView) : UInt16 := ntohs (be16 view.bytes 2)

def identification (view : IPv4PacketView) : UInt16 := ntohs (be16 view.bytes 4)

def flagsFragmentOffset (view : IPv4PacketView) : UInt16 := ntohs (be16 view.bytes 6)

def ttl (view : IPv4PacketView) : UInt8 := view.bytes.getD 8 0

def checksum (view : IPv4PacketView) : UInt16 := ntohs (be16 view.bytes 10)

def sourceAddress (view : IPv4PacketView) : UInt32 := ntohl (be32 view.bytes 12)

def destinationAddress (view : IPv4PacketView) : UInt32 := ntohl (be32 view.bytes 16)

def version (view : IPv4PacketView) : UInt8 := view.bytes.getD 0 0 >>> 4

def ihl (view : IPv4PacketView) : UInt8 := view.bytes.getD 0 0 &&& 0x0F

def headerLength (view : IPv4PacketView) : UInt8 := view.ihl * 4

def totalLengthNtoh (view : IPv4PacketView) : UInt16 := be16 view.bytes 2

def identificationNtoh (view : IPv4PacketView) : UInt16 := be16 view.bytes 4

def flags (view : IPv4PacketView) : UInt8 := (be16 view.bytes 6 >>> 13).toUInt8

def fragmentOffset (view : IPv4PacketView) : UInt16 := be16 view.bytes 6 &&& 0x1FFF

def flagsFragmentOffsetNtoh (view : IPv4PacketView) : UInt16 := be16 view.bytes 6

def protocol (view : IPv4PacketView) : UInt8 := view.bytes.getD 9 0

def checksumNtoh (view : IPv4PacketView) : UInt16 := be16 view.bytes 10

def sourceAddressNtoh (view : IPv4PacketView) : UInt32 := be32 view.bytes 12

def destinationAddressNtoh (view : IPv4PacketView) : UInt32 := be32 view.bytes 16

def valid (view : IPv4PacketView) : Bool :=
  view.bytes.length ≥ 20 && view.version = 4 &&
    view.totalLengthNtoh.toNat ≥ view.headerLength.toNat &&
    view.totalLengthNtoh.toNat ≤ view.bytes.length

def payload (view : IPv4PacketView) : List UInt8 :=
  (view.bytes.drop view.headerLength.toNat).take
    (view.totalLengthNtoh.toNat - view.headerLength.toNat)

def parse (bytes : List UInt8) : Option IPv4PacketView :=
  let view : IPv4PacketView := ⟨bytes⟩
  if !view.valid then none else some view

theorem parse_eq_some_iff {bytes : List UInt8} {view : IPv4PacketView} :
    parse bytes = some view ↔ (mk bytes).valid ∧ view = ⟨bytes⟩ := by
  cases valid : (mk bytes).valid with
  | false => simp [parse, valid]
  | true => simp [parse, valid, eq_comm]

end IPv4PacketView

structure TcpPacketView where
  bytes : List UInt8

namespace TcpPacketView

def sourcePort (view : TcpPacketView) : UInt16 := ntohs (be16 view.bytes 0)

def destPort (view : TcpPacketView) : UInt16 := ntohs (be16 view.bytes 2)

def seqNum (view : TcpPacketView) : UInt32 := ntohl (be32 view.bytes 4)

def ackNum (view : TcpPacketView) : UInt32 := ntohl (be32 view.bytes 8)

def dataOffsetAndReservedAndControlBits (view : TcpPacketView) : UInt16 :=
  ntohs (be16 view.bytes 12)

def window (view : TcpPacketView) : UInt16 := ntohs (be16 view.bytes 14)

def checksum (view : TcpPacketView) : UInt16 := ntohs (be16 view.bytes 16)

def urgentPointer (view : TcpPacketView) : UInt16 := ntohs (be16 view.bytes 18)

def sourcePortNtoh (view : TcpPacketView) : UInt16 := be16 view.bytes 0

def destPortNtoh (view : TcpPacketView) : UInt16 := be16 view.bytes 2

def seqNumNtoh (view : TcpPacketView) : UInt32 := be32 view.bytes 4

def ackNumNtoh (view : TcpPacketView) : UInt32 := be32 view.bytes 8

def controlWord (view : TcpPacketView) : UInt16 := be16 view.bytes 12

def dataOffset (view : TcpPacketView) : UInt8 := (view.controlWord >>> 12).toUInt8

def headerLength (view : TcpPacketView) : UInt8 := view.dataOffset * 4

def flags (view : TcpPacketView) : UInt16 := view.controlWord &&& 0x3F

def flag (view : TcpPacketView) (bit : UInt16) : Bool := (view.flags >>> bit) &&& 1 ≠ 0

def urg (view : TcpPacketView) : Bool := view.flag 5

def ack (view : TcpPacketView) : Bool := view.flag 4

def psh (view : TcpPacketView) : Bool := view.flag 3

def rst (view : TcpPacketView) : Bool := view.flag 2

def syn (view : TcpPacketView) : Bool := view.flag 1

def fin (view : TcpPacketView) : Bool := view.flag 0

def windowNtoh (view : TcpPacketView) : UInt16 := be16 view.bytes 14

def checksumNtoh (view : TcpPacketView) : UInt16 := be16 view.bytes 16

def urgentPointerNtoh (view : TcpPacketView) : UInt16 := be16 view.bytes 18

def valid (view : TcpPacketView) : Bool :=
  view.bytes.length ≥ 20 && view.headerLength.toNat ≥ 20 &&
    view.headerLength.toNat ≤ view.bytes.length

def payload (view : TcpPacketView) : List UInt8 := view.bytes.drop view.headerLength.toNat

end TcpPacketView

/-- What `process_incoming_packet_` has in hand after both checks. -/
structure Arrived where
  src : IPv4Address
  dst : IPv4Address
  packet : TcpPacketView

def parseIncoming (buffer : List UInt8) : Option Arrived :=
  let tmp : IPv4PacketView := ⟨buffer⟩
  if !tmp.valid then none else
    let packet : TcpPacketView := ⟨tmp.payload⟩
    if !packet.valid then none else
      some { src := ⟨tmp.sourceAddressNtoh, packet.sourcePortNtoh⟩
             dst := ⟨tmp.destinationAddressNtoh, packet.destPortNtoh⟩
             packet := packet }

/-- The part of it that the handlers read. -/
def Arrived.segment (arrived : Arrived) : Segment where
  src := arrived.src
  dst := arrived.dst
  seqNum := arrived.packet.seqNumNtoh
  ackNum := arrived.packet.ackNumNtoh
  syn := arrived.packet.syn
  ack := arrived.packet.ack
  rst := arrived.packet.rst
  fin := arrived.packet.fin
  window := arrived.packet.windowNtoh
  payload := arrived.packet.payload

/-- `process_incoming_packet_` on the bytes of a datagram. -/
def TcpStack.processIncomingBytes (stack : TcpStack) (buffer : List UInt8) (iss : UInt32) :
    TcpStack :=
  match parseIncoming buffer with
  | none => stack
  | some arrived => stack.processIncomingPacket arrived.segment iss

theorem parseIncoming_of_valid {buffer : List UInt8} (valid : (IPv4PacketView.mk buffer).valid)
    (validTcp : (TcpPacketView.mk (IPv4PacketView.mk buffer).payload).valid) :
    parseIncoming buffer = some
      { src := ⟨(IPv4PacketView.mk buffer).sourceAddressNtoh,
          (TcpPacketView.mk (IPv4PacketView.mk buffer).payload).sourcePortNtoh⟩
        dst := ⟨(IPv4PacketView.mk buffer).destinationAddressNtoh,
          (TcpPacketView.mk (IPv4PacketView.mk buffer).payload).destPortNtoh⟩
        packet := ⟨(IPv4PacketView.mk buffer).payload⟩ } := by
  simp only [parseIncoming, valid, validTcp, Bool.not_true, Bool.false_eq_true, if_false]

theorem packet_of_parseIncoming {buffer : List UInt8} {arrived : Arrived}
    (parsed : parseIncoming buffer = some arrived) :
    arrived.packet = ⟨(IPv4PacketView.mk buffer).payload⟩ := by
  simp only [parseIncoming] at parsed
  split_ifs at parsed
  rw [← Option.some.inj parsed]

/-- A payload is shorter than the total length field can count. -/
theorem length_payload_lt {buffer : List UInt8} {arrived : Arrived}
    (parsed : parseIncoming buffer = some arrived) : arrived.packet.payload.length < 65536 := by
  have total := (IPv4PacketView.mk buffer).totalLengthNtoh.toNat_lt
  rw [packet_of_parseIncoming parsed, TcpPacketView.payload, List.length_drop,
    IPv4PacketView.payload, List.length_take]
  omega

end TinyCP
