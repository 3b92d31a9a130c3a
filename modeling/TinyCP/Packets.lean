import TinyCP.Checksum
import TinyCP.TransmissionControlBlock

/-!
# Packets for the wire

The header classes keep their fields as they lie in a datagram, in network byte order;
the setters swap on the way in and the interpreted getters on the way out, and
`serialize` copies the memory of the packed class. The host is little-endian.
-/
namespace TinyCP
open WireBytes

structure TcpHeader where
  sourcePort : UInt16
  destPort : UInt16
  seqNum : UInt32
  ackNum : UInt32
  dataOffsetAndReservedAndControlBits : UInt16
  window : UInt16
  checksum : UInt16
  urgentPointer : UInt16
  deriving DecidableEq

namespace TcpHeader

/-- `TcpHeader header{}`. -/
def empty : TcpHeader := ⟨0, 0, 0, 0, 0, 0, 0, 0⟩

def sourcePortNtoh (h : TcpHeader) : UInt16 := ntohs h.sourcePort

def destPortNtoh (h : TcpHeader) : UInt16 := ntohs h.destPort

def seqNumNtoh (h : TcpHeader) : UInt32 := ntohl h.seqNum

def ackNumNtoh (h : TcpHeader) : UInt32 := ntohl h.ackNum

/-- Data offset, reserved bits and control bits in host byte order. -/
def controlWord (h : TcpHeader) : UInt16 := ntohs h.dataOffsetAndReservedAndControlBits

def dataOffset (h : TcpHeader) : UInt8 := (h.controlWord >>> 12).toUInt8

def headerLength (h : TcpHeader) : UInt8 := h.dataOffset * 4

def flags (h : TcpHeader) : UInt16 := h.controlWord &&& 0x3F

def flag (h : TcpHeader) (bit : UInt16) : Bool := (h.flags >>> bit) &&& 1 ≠ 0

def urg (h : TcpHeader) : Bool := h.flag 5

def ack (h : TcpHeader) : Bool := h.flag 4

def psh (h : TcpHeader) : Bool := h.flag 3

def rst (h : TcpHeader) : Bool := h.flag 2

def syn (h : TcpHeader) : Bool := h.flag 1

def fin (h : TcpHeader) : Bool := h.flag 0

def windowNtoh (h : TcpHeader) : UInt16 := ntohs h.window

def checksumNtoh (h : TcpHeader) : UInt16 := ntohs h.checksum

def urgentPointerNtoh (h : TcpHeader) : UInt16 := ntohs h.urgentPointer

def setSourcePort (h : TcpHeader) (port : UInt16) : TcpHeader := { h with sourcePort := htons port }

def setDestPort (h : TcpHeader) (port : UInt16) : TcpHeader := { h with destPort := htons port }

def setSeqNum (h : TcpHeader) (seq : UInt32) : TcpHeader := { h with seqNum := htonl seq }

def setAckNum (h : TcpHeader) (ack : UInt32) : TcpHeader := { h with ackNum := htonl ack }

def setControlWord (h : TcpHeader) (word : UInt16) : TcpHeader :=
  { h with dataOffsetAndReservedAndControlBits := htons word }

def setDataOffset (h : TcpHeader) (words : UInt8) : TcpHeader :=
  h.setControlWord ((h.controlWord &&& (0x0FFF : UInt16)) ||| ((words &&& 0xF).toUInt16 <<< 12))

/-- The length is in bytes. -/
def setHeaderLength (h : TcpHeader) (bytes : UInt8) : TcpHeader := h.setDataOffset (bytes / 4)

/-- All control bits at once. -/
def setFlags (h : TcpHeader) (flags : UInt16) : TcpHeader :=
  h.setControlWord ((h.controlWord &&& (0xFFC0 : UInt16)) ||| (flags &&& (0x3F : UInt16)))

def setFlag (h : TcpHeader) (bit : UInt16) (set : Bool) : TcpHeader :=
  let mask := (1 : UInt16) <<< bit
  h.setControlWord (if set then h.controlWord ||| mask else h.controlWord &&& ~~~ mask)

def setUrg (h : TcpHeader) (set : Bool) : TcpHeader := h.setFlag 5 set

def setAck (h : TcpHeader) (set : Bool) : TcpHeader := h.setFlag 4 set

def setPsh (h : TcpHeader) (set : Bool) : TcpHeader := h.setFlag 3 set

def setRst (h : TcpHeader) (set : Bool) : TcpHeader := h.setFlag 2 set

def setSyn (h : TcpHeader) (set : Bool) : TcpHeader := h.setFlag 1 set

def setFin (h : TcpHeader) (set : Bool) : TcpHeader := h.setFlag 0 set

def setWindow (h : TcpHeader) (window : UInt16) : TcpHeader := { h with window := htons window }

def setChecksum (h : TcpHeader) (checksum : UInt16) : TcpHeader :=
  { h with checksum := htons checksum }

def setUrgentPointer (h : TcpHeader) (pointer : UInt16) : TcpHeader :=
  { h with urgentPointer := htons pointer }

/-- `memcpy` of the packed class. -/
def serialize (h : TcpHeader) : List UInt8 :=
  store16 h.sourcePort ++ store16 h.destPort ++ store32 h.seqNum ++ store32 h.ackNum ++
    store16 h.dataOffsetAndReservedAndControlBits ++ store16 h.window ++ store16 h.checksum ++
    store16 h.urgentPointer

def computeChecksum (h : TcpHeader) (srcIpNet dstIpNet : UInt32) (payload : List UInt8) : UInt16 :=
  computeTcpChecksum srcIpNet dstIpNet h.serialize payload

@[simp] theorem length_serialize (h : TcpHeader) : h.serialize.length = 20 := rfl

end TcpHeader

structure TcpPacket where
  header : TcpHeader
  payload : List UInt8
  deriving DecidableEq

namespace TcpPacket

/-- The header that `write` puts on the wire: a data offset, if there was none, and a
fresh checksum. -/
def sealedHeader (packet : TcpPacket) (srcIpNet dstIpNet : UInt32) : TcpHeader :=
  let hdr := packet.header
  let hdr := if hdr.dataOffset = 0 then hdr.setDataOffset 5 else hdr
  let hdr := hdr.setChecksum 0
  hdr.setChecksum (hdr.computeChecksum srcIpNet dstIpNet packet.payload)

/-- The buffer after the call and the number of bytes written, zero when they do not fit. -/
def write (packet : TcpPacket) (out : List UInt8) (srcIpNet dstIpNet : UInt32) :
    List UInt8 × Nat :=
  let headerLen := if packet.header.headerLength > 0 then packet.header.headerLength.toNat else 20
  let total := headerLen + packet.payload.length
  if out.length < total then
    (out, 0)
  else
    let out := overwrite out 0 (packet.sealedHeader srcIpNet dstIpNet).serialize
    let out := if packet.payload = [] then out else overwrite out headerLen packet.payload
    (out, total)

/-- The header of `write` without addresses, which keeps the checksum that it finds. -/
def plainHeader (packet : TcpPacket) : TcpHeader :=
  if packet.header.dataOffset = 0 then packet.header.setDataOffset 5 else packet.header

/-- `write` without addresses. -/
def writePlain (packet : TcpPacket) (out : List UInt8) : List UInt8 × Nat :=
  let headerLen := if packet.header.headerLength > 0 then packet.header.headerLength.toNat else 20
  let total := headerLen + packet.payload.length
  if out.length < total then
    (out, 0)
  else
    let out := overwrite out 0 packet.plainHeader.serialize
    let out := if packet.payload = [] then out else overwrite out headerLen packet.payload
    (out, total)

def writeFor (packet : TcpPacket) (out : List UInt8) (src dst : IPv4Address) : List UInt8 × Nat :=
  packet.write out (htonl src.address) (htonl dst.address)

end TcpPacket

structure IPv4Header where
  versionIhl : UInt8
  typeOfService : UInt8
  totalLength : UInt16
  identification : UInt16
  flagsFragmentOffset : UInt16
  ttl : UInt8
  protocol : UInt8
  checksum : UInt16
  sourceAddress : UInt32
  destinationAddress : UInt32
  deriving DecidableEq

namespace IPv4Header

/-- `IPv4Header ip_header{}`. -/
def empty : IPv4Header := ⟨0, 0, 0, 0, 0, 0, 0, 0, 0, 0⟩

def version (h : IPv4Header) : UInt8 := h.versionIhl >>> 4

def ihl (h : IPv4Header) : UInt8 := h.versionIhl &&& 0x0F

def headerLength (h : IPv4Header) : UInt8 := h.ihl * 4

def totalLengthNtoh (h : IPv4Header) : UInt16 := ntohs h.totalLength

def identificationNtoh (h : IPv4Header) : UInt16 := ntohs h.identification

def flags (h : IPv4Header) : UInt8 := (ntohs h.flagsFragmentOffset >>> 13).toUInt8

def fragmentOffset (h : IPv4Header) : UInt16 := ntohs h.flagsFragmentOffset &&& 0x1FFF

def flagsFragmentOffsetNtoh (h : IPv4Header) : UInt16 := ntohs h.flagsFragmentOffset

def checksumNtoh (h : IPv4Header) : UInt16 := ntohs h.checksum

def sourceAddressNtoh (h : IPv4Header) : UInt32 := ntohl h.sourceAddress

def destinationAddressNtoh (h : IPv4Header) : UInt32 := ntohl h.destinationAddress

def setVersion (h : IPv4Header) (version : UInt8) : IPv4Header :=
  { h with versionIhl := (h.versionIhl &&& (0x0F : UInt8)) ||| ((version &&& 0x0F) <<< 4) }

def setIhl (h : IPv4Header) (ihl : UInt8) : IPv4Header :=
  { h with versionIhl := (h.versionIhl &&& 0xF0) ||| (ihl &&& 0x0F) }

def setHeaderLength (h : IPv4Header) (bytes : UInt8) : IPv4Header := h.setIhl (bytes / 4)

def setTypeOfService (h : IPv4Header) (typeOfService : UInt8) : IPv4Header :=
  { h with typeOfService := typeOfService }

def setTotalLength (h : IPv4Header) (totalLength : UInt16) : IPv4Header :=
  { h with totalLength := htons totalLength }

def setIdentification (h : IPv4Header) (identification : UInt16) : IPv4Header :=
  { h with identification := htons identification }

/-- The three flags, with the fragment offset as it was. -/
def setFlags (h : IPv4Header) (flags : UInt8) : IPv4Header :=
  { h with
    flagsFragmentOffset :=
      htons ((ntohs h.flagsFragmentOffset &&& (0x1FFF : UInt16)) |||
        ((flags &&& 0x7).toUInt16 <<< 13)) }

def setFragmentOffset (h : IPv4Header) (offset : UInt16) : IPv4Header :=
  { h with
    flagsFragmentOffset :=
      htons ((ntohs h.flagsFragmentOffset &&& 0xE000) ||| (offset &&& 0x1FFF)) }

def setTtl (h : IPv4Header) (ttl : UInt8) : IPv4Header := { h with ttl := ttl }

def setProtocol (h : IPv4Header) (protocol : UInt8) : IPv4Header := { h with protocol := protocol }

def setChecksum (h : IPv4Header) (checksum : UInt16) : IPv4Header :=
  { h with checksum := htons checksum }

def setSourceAddress (h : IPv4Header) (address : UInt32) : IPv4Header :=
  { h with sourceAddress := htonl address }

def setDestinationAddress (h : IPv4Header) (address : UInt32) : IPv4Header :=
  { h with destinationAddress := htonl address }

def serialize (h : IPv4Header) : List UInt8 :=
  [h.versionIhl, h.typeOfService] ++ store16 h.totalLength ++ store16 h.identification ++
    store16 h.flagsFragmentOffset ++ [h.ttl, h.protocol] ++ store16 h.checksum ++
    store32 h.sourceAddress ++ store32 h.destinationAddress

def computeChecksum (h : IPv4Header) : UInt16 :=
  onesComplementChecksum (overwrite h.serialize 10 [0, 0])

@[simp] theorem length_serialize (h : IPv4Header) : h.serialize.length = 20 := rfl

end IPv4Header

structure IPv4Packet where
  header : IPv4Header
  payload : List UInt8
  deriving DecidableEq

namespace IPv4Packet

/-- The header that `write` puts on the wire for a datagram of `total` bytes. -/
def sealedHeader (packet : IPv4Packet) (total : Nat) : IPv4Header :=
  let hdr := packet.header.setTotalLength (UInt16.ofNat total)
  hdr.setChecksum hdr.computeChecksum

def write (packet : IPv4Packet) (out : List UInt8) : List UInt8 × Nat :=
  let headerLen := if packet.header.headerLength > 0 then packet.header.headerLength.toNat else 20
  let total := headerLen + packet.payload.length
  if out.length < total then
    (out, 0)
  else
    let out := overwrite out 0 (packet.sealedHeader total).serialize
    let out := overwrite out headerLen packet.payload
    (out, total)

end IPv4Packet

/-- The two copies of `write`. -/
def place (out wire : List UInt8) (headerLen : Nat) (payload : List UInt8) : List UInt8 :=
  overwrite (overwrite out 0 wire) headerLen payload

/-- After a header of the length that was claimed for it. -/
theorem take_place (out wire payload : List UInt8) :
    (place out wire wire.length payload).take (wire.length + payload.length) = wire ++ payload := by
  rw [place, overwrite_zero, overwrite_append]
  exact List.take_left' (by rw [List.length_append])

namespace TcpPacket

/-- Where the payload starts. -/
def headerLen (packet : TcpPacket) : Nat :=
  if packet.header.headerLength > 0 then packet.header.headerLength.toNat else 20

/-- The copy is skipped for an empty payload, where it would do nothing. -/
theorem write_eq (packet : TcpPacket) (out : List UInt8) (srcIpNet dstIpNet : UInt32) :
    packet.write out srcIpNet dstIpNet =
      if out.length < packet.headerLen + packet.payload.length then (out, 0)
      else (place out (packet.sealedHeader srcIpNet dstIpNet).serialize packet.headerLen
        packet.payload, packet.headerLen + packet.payload.length) := by
  by_cases empty : packet.payload = []
  · simp only [write, headerLen, place, empty, if_true, overwrite_nil]
  · simp only [write, headerLen, place, empty, if_false]
    rfl

theorem writePlain_eq (packet : TcpPacket) (out : List UInt8) :
    packet.writePlain out =
      if out.length < packet.headerLen + packet.payload.length then (out, 0)
      else (place out packet.plainHeader.serialize packet.headerLen packet.payload,
        packet.headerLen + packet.payload.length) := by
  by_cases empty : packet.payload = []
  · simp only [writePlain, headerLen, place, empty, if_true, overwrite_nil]
  · simp only [writePlain, headerLen, place, empty, if_false]
    rfl

end TcpPacket

namespace IPv4Packet

def headerLen (packet : IPv4Packet) : Nat :=
  if packet.header.headerLength > 0 then packet.header.headerLength.toNat else 20

def total (packet : IPv4Packet) : Nat := packet.headerLen + packet.payload.length

theorem write_eq (packet : IPv4Packet) (out : List UInt8) :
    packet.write out =
      if out.length < packet.total then (out, 0)
      else (place out (packet.sealedHeader packet.total).serialize packet.headerLen
        packet.payload, packet.total) := rfl

end IPv4Packet

end TinyCP
