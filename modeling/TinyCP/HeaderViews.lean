import TinyCP.Packets
import TinyCP.PacketViews

/-!
# A header and the views of its bytes

The header classes swap the words of their memory, the views put words together from
bytes. Over the bytes of a serialized header every getter of the view returns what the
getter with its name returns of the header, in both byte orders.
-/
namespace TinyCP
open WireBytes

/-- Swapping the value back gives the word in memory. -/
theorem ntohs_eq_of_swapped {v w : UInt16} (swapped : v = ntohs w) : ntohs v = w := by
  rw [swapped]
  exact htons_htons w

theorem ntohl_eq_of_swapped {v w : UInt32} (swapped : v = ntohl w) : ntohl v = w := by
  rw [swapped]
  exact htonl_htonl w

namespace TcpPacketView

/-- All getters that a view shares with a header. -/
structure Mirrors (view : TcpPacketView) (h : TcpHeader) : Prop where
  sourcePort : view.sourcePort = h.sourcePort
  destPort : view.destPort = h.destPort
  seqNum : view.seqNum = h.seqNum
  ackNum : view.ackNum = h.ackNum
  dataOffsetAndReservedAndControlBits :
    view.dataOffsetAndReservedAndControlBits = h.dataOffsetAndReservedAndControlBits
  window : view.window = h.window
  checksum : view.checksum = h.checksum
  urgentPointer : view.urgentPointer = h.urgentPointer
  sourcePortNtoh : view.sourcePortNtoh = h.sourcePortNtoh
  destPortNtoh : view.destPortNtoh = h.destPortNtoh
  seqNumNtoh : view.seqNumNtoh = h.seqNumNtoh
  ackNumNtoh : view.ackNumNtoh = h.ackNumNtoh
  controlWord : view.controlWord = h.controlWord
  dataOffset : view.dataOffset = h.dataOffset
  headerLength : view.headerLength = h.headerLength
  flags : view.flags = h.flags
  urg : view.urg = h.urg
  ack : view.ack = h.ack
  psh : view.psh = h.psh
  rst : view.rst = h.rst
  syn : view.syn = h.syn
  fin : view.fin = h.fin
  windowNtoh : view.windowNtoh = h.windowNtoh
  checksumNtoh : view.checksumNtoh = h.checksumNtoh
  urgentPointerNtoh : view.urgentPointerNtoh = h.urgentPointerNtoh

/-- Whatever follows the header. -/
theorem mirrors_serialize (h : TcpHeader) (rest : List UInt8) :
    (mk (h.serialize ++ rest)).Mirrors h := by
  have sourcePort : (mk (h.serialize ++ rest)).sourcePortNtoh = h.sourcePortNtoh :=
    word16_store16 h.sourcePort
  have destPort : (mk (h.serialize ++ rest)).destPortNtoh = h.destPortNtoh :=
    word16_store16 h.destPort
  have seqNum : (mk (h.serialize ++ rest)).seqNumNtoh = h.seqNumNtoh := word32_store32 h.seqNum
  have ackNum : (mk (h.serialize ++ rest)).ackNumNtoh = h.ackNumNtoh := word32_store32 h.ackNum
  have word : (mk (h.serialize ++ rest)).controlWord = h.controlWord :=
    word16_store16 h.dataOffsetAndReservedAndControlBits
  have window : (mk (h.serialize ++ rest)).windowNtoh = h.windowNtoh := word16_store16 h.window
  have checksum : (mk (h.serialize ++ rest)).checksumNtoh = h.checksumNtoh :=
    word16_store16 h.checksum
  have urgentPointer : (mk (h.serialize ++ rest)).urgentPointerNtoh = h.urgentPointerNtoh :=
    word16_store16 h.urgentPointer
  have offset : (mk (h.serialize ++ rest)).dataOffset = h.dataOffset := by
    rw [dataOffset, word]
    rfl
  have bits : (mk (h.serialize ++ rest)).flags = h.flags := by
    rw [flags, word]
    rfl
  -- The flags are bits of one word, so they agree together.
  have bit : ∀ i, (mk (h.serialize ++ rest)).flag i = h.flag i := by
    intro i
    rw [flag, bits]
    rfl
  exact {
    sourcePort := ntohs_eq_of_swapped sourcePort
    destPort := ntohs_eq_of_swapped destPort
    seqNum := ntohl_eq_of_swapped seqNum
    ackNum := ntohl_eq_of_swapped ackNum
    dataOffsetAndReservedAndControlBits := ntohs_eq_of_swapped word
    window := ntohs_eq_of_swapped window
    checksum := ntohs_eq_of_swapped checksum
    urgentPointer := ntohs_eq_of_swapped urgentPointer
    sourcePortNtoh := sourcePort
    destPortNtoh := destPort
    seqNumNtoh := seqNum
    ackNumNtoh := ackNum
    controlWord := word
    dataOffset := offset
    headerLength := congrArg (· * 4) offset
    flags := bits
    urg := bit 5
    ack := bit 4
    psh := bit 3
    rst := bit 2
    syn := bit 1
    fin := bit 0
    windowNtoh := window
    checksumNtoh := checksum
    urgentPointerNtoh := urgentPointer }

end TcpPacketView

namespace IPv4PacketView

structure Mirrors (view : IPv4PacketView) (h : IPv4Header) : Prop where
  versionIhl : view.versionIhl = h.versionIhl
  typeOfService : view.typeOfService = h.typeOfService
  totalLength : view.totalLength = h.totalLength
  identification : view.identification = h.identification
  flagsFragmentOffset : view.flagsFragmentOffset = h.flagsFragmentOffset
  ttl : view.ttl = h.ttl
  protocol : view.protocol = h.protocol
  checksum : view.checksum = h.checksum
  sourceAddress : view.sourceAddress = h.sourceAddress
  destinationAddress : view.destinationAddress = h.destinationAddress
  version : view.version = h.version
  ihl : view.ihl = h.ihl
  headerLength : view.headerLength = h.headerLength
  totalLengthNtoh : view.totalLengthNtoh = h.totalLengthNtoh
  identificationNtoh : view.identificationNtoh = h.identificationNtoh
  flags : view.flags = h.flags
  fragmentOffset : view.fragmentOffset = h.fragmentOffset
  flagsFragmentOffsetNtoh : view.flagsFragmentOffsetNtoh = h.flagsFragmentOffsetNtoh
  checksumNtoh : view.checksumNtoh = h.checksumNtoh
  sourceAddressNtoh : view.sourceAddressNtoh = h.sourceAddressNtoh
  destinationAddressNtoh : view.destinationAddressNtoh = h.destinationAddressNtoh

theorem mirrors_serialize (h : IPv4Header) (rest : List UInt8) :
    (mk (h.serialize ++ rest)).Mirrors h := by
  have totalLength : (mk (h.serialize ++ rest)).totalLengthNtoh = h.totalLengthNtoh :=
    word16_store16 h.totalLength
  have identification : (mk (h.serialize ++ rest)).identificationNtoh = h.identificationNtoh :=
    word16_store16 h.identification
  have word : (mk (h.serialize ++ rest)).flagsFragmentOffsetNtoh = h.flagsFragmentOffsetNtoh :=
    word16_store16 h.flagsFragmentOffset
  have checksum : (mk (h.serialize ++ rest)).checksumNtoh = h.checksumNtoh :=
    word16_store16 h.checksum
  have source : (mk (h.serialize ++ rest)).sourceAddressNtoh = h.sourceAddressNtoh :=
    word32_store32 h.sourceAddress
  have destination : (mk (h.serialize ++ rest)).destinationAddressNtoh =
      h.destinationAddressNtoh := word32_store32 h.destinationAddress
  exact {
    versionIhl := rfl
    typeOfService := rfl
    totalLength := ntohs_eq_of_swapped totalLength
    identification := ntohs_eq_of_swapped identification
    flagsFragmentOffset := ntohs_eq_of_swapped word
    ttl := rfl
    protocol := rfl
    checksum := ntohs_eq_of_swapped checksum
    sourceAddress := ntohl_eq_of_swapped source
    destinationAddress := ntohl_eq_of_swapped destination
    version := rfl
    ihl := rfl
    headerLength := rfl
    totalLengthNtoh := totalLength
    identificationNtoh := identification
    flags := congrArg (fun w : UInt16 => (w >>> 13).toUInt8) word
    fragmentOffset := congrArg (· &&& 0x1FFF) word
    flagsFragmentOffsetNtoh := word
    checksumNtoh := checksum
    sourceAddressNtoh := source
    destinationAddressNtoh := destination }

end IPv4PacketView

end TinyCP
