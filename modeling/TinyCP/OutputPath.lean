import TinyCP.HeaderViews

/-!
# From a packet to the wire and back

`write_packet_` serializes a segment into one stack buffer and the datagram around it
into another. Both buffers hold arbitrary bytes before. What is read of the result by
the two views is what went in.
-/
namespace TinyCP
open WireBytes

/-- `uint8_t buffer[MAX_IPV4_PACKET_SIZE]`, not initialised. -/
def PacketBuffer := { bytes : List UInt8 // bytes.length = maxIPv4PacketSize }

/-- The header that `write_packet_` puts in front of a segment. -/
def ipHeaderFor (srcAddress dstAddress : IPv4Address) : IPv4Header :=
  let ipHeader := IPv4Header.empty
  let ipHeader := ipHeader.setVersion 4
  let ipHeader := ipHeader.setIhl 5
  let ipHeader := ipHeader.setTtl 255
  let ipHeader := ipHeader.setSourceAddress srcAddress.address
  let ipHeader := ipHeader.setDestinationAddress dstAddress.address
  let ipHeader := ipHeader.setProtocol 6
  ipHeader.setFragmentOffset 0

theorem versionIhl_ipHeaderFor (srcAddress dstAddress : IPv4Address) :
    (ipHeaderFor srcAddress dstAddress).versionIhl = 0x45 := by
  change ((IPv4Header.empty.setVersion 4).setIhl 5).versionIhl = 0x45
  decide

theorem headerLength_ipHeaderFor (srcAddress dstAddress : IPv4Address) :
    (ipHeaderFor srcAddress dstAddress).headerLength = 20 := by
  rw [IPv4Header.headerLength, IPv4Header.ihl, versionIhl_ipHeaderFor]
  decide

/-- The bytes that leave `write_packet_`. -/
def datagram (srcAddress dstAddress : IPv4Address) (packet : TcpPacket)
    (ipPacketBuffer tcpPacketBuffer : PacketBuffer) : List UInt8 :=
  let (tcpPacketBuffer, payloadSize) := packet.writeFor tcpPacketBuffer.val srcAddress dstAddress
  let packetToSend : IPv4Packet :=
    { header := ipHeaderFor srcAddress dstAddress
      payload := tcpPacketBuffer.take payloadSize }
  let (ipPacketBuffer, ipPayloadSize) := packetToSend.write ipPacketBuffer.val
  ipPacketBuffer.take ipPayloadSize

/-- The two ways out of a stack. -/
structure Wire where
  loopbackPacketQueue : List (List UInt8)
  tunDevice : List (List UInt8)

def isLocalAddress (localAddress srcAddress dstAddress : UInt32) : Bool :=
  srcAddress = dstAddress || dstAddress >>> 24 = 127 || dstAddress = localAddress

def Wire.writePacket (wire : Wire) (localAddress : UInt32) (srcAddress dstAddress : IPv4Address)
    (packet : TcpPacket) (ipPacketBuffer tcpPacketBuffer : PacketBuffer) : Wire :=
  let bytes := datagram srcAddress dstAddress packet ipPacketBuffer tcpPacketBuffer
  if isLocalAddress localAddress srcAddress.address dstAddress.address then
    { wire with loopbackPacketQueue := wire.loopbackPacketQueue ++ [bytes] }
  else
    { wire with tunDevice := wire.tunDevice ++ [bytes] }

/-- What a caller sees of the buffer after `write`. -/
theorem TcpPacket.written_eq {packet : TcpPacket} (offset : packet.header.dataOffset = 5)
    {out : List UInt8} (fits : 20 + packet.payload.length ≤ out.length)
    (srcIpNet dstIpNet : UInt32) :
    (packet.write out srcIpNet dstIpNet).1.take (packet.write out srcIpNet dstIpNet).2 =
      (packet.sealedHeader srcIpNet dstIpNet).serialize ++ packet.payload := by
  have headerLen : packet.headerLen = 20 := by
    rw [TcpPacket.headerLen, TcpHeader.headerLength, offset]
    rfl
  rw [write_eq, headerLen, if_neg (Nat.not_lt.mpr fits)]
  exact take_place out (packet.sealedHeader srcIpNet dstIpNet).serialize packet.payload

theorem IPv4Packet.written_eq {packet : IPv4Packet} (length : packet.header.headerLength = 20)
    {out : List UInt8} (fits : 20 + packet.payload.length ≤ out.length) :
    (packet.write out).1.take (packet.write out).2 =
      (packet.sealedHeader (20 + packet.payload.length)).serialize ++ packet.payload := by
  have headerLen : packet.headerLen = 20 := by
    rw [IPv4Packet.headerLen, length]
    rfl
  rw [write_eq, total, headerLen, if_neg (Nat.not_lt.mpr fits)]
  exact take_place out (packet.sealedHeader (20 + packet.payload.length)).serialize packet.payload

/-- The segment inside a datagram. -/
def segmentBytes (srcAddress dstAddress : IPv4Address) (packet : TcpPacket) : List UInt8 :=
  (packet.sealedHeader (htonl srcAddress.address) (htonl dstAddress.address)).serialize ++
    packet.payload

theorem length_segmentBytes (srcAddress dstAddress : IPv4Address) (packet : TcpPacket) :
    (segmentBytes srcAddress dstAddress packet).length = 20 + packet.payload.length := by
  rw [segmentBytes, List.length_append, TcpHeader.length_serialize]

/-- Nothing of what was in the buffers is left in the datagram. -/
theorem datagram_eq (srcAddress dstAddress : IPv4Address) {packet : TcpPacket}
    (offset : packet.header.dataOffset = 5) (fits : packet.payload.length ≤ 65495)
    (ipPacketBuffer tcpPacketBuffer : PacketBuffer) :
    datagram srcAddress dstAddress packet ipPacketBuffer tcpPacketBuffer =
      (IPv4Packet.sealedHeader ⟨ipHeaderFor srcAddress dstAddress,
        segmentBytes srcAddress dstAddress packet⟩ (20 + (20 + packet.payload.length))).serialize ++
      segmentBytes srcAddress dstAddress packet := by
  have room : ∀ buffer : PacketBuffer, buffer.val.length = 65535 := fun buffer => buffer.property
  have segment : (packet.writeFor tcpPacketBuffer.val srcAddress dstAddress).1.take
      (packet.writeFor tcpPacketBuffer.val srcAddress dstAddress).2 =
      segmentBytes srcAddress dstAddress packet := by
    rw [TcpPacket.writeFor, segmentBytes]
    exact TcpPacket.written_eq offset (by rw [room]; omega) _ _
  have around := @IPv4Packet.written_eq
    ⟨ipHeaderFor srcAddress dstAddress, segmentBytes srcAddress dstAddress packet⟩
    (headerLength_ipHeaderFor srcAddress dstAddress) ipPacketBuffer.val
    (by rw [room, length_segmentBytes]; omega)
  rw [length_segmentBytes] at around
  rw [← around, datagram]
  simp only [segment]

namespace TcpPacketView
variable (h : TcpHeader) (rest : List UInt8)

theorem valid_serialize (offset : h.dataOffset = 5) : (mk (h.serialize ++ rest)).valid := by
  have length : (mk (h.serialize ++ rest)).headerLength.toNat = 20 := by
    rw [(mirrors_serialize h rest).headerLength, TcpHeader.headerLength, offset]
    rfl
  simp only [valid, length, List.length_append, TcpHeader.length_serialize]
  simp

theorem payload_serialize (offset : h.dataOffset = 5) :
    (mk (h.serialize ++ rest)).payload = rest := by
  have length : (mk (h.serialize ++ rest)).headerLength.toNat = h.serialize.length := by
    rw [(mirrors_serialize h rest).headerLength, TcpHeader.headerLength, offset]
    rfl
  rw [payload, length, List.drop_left]

end TcpPacketView

namespace IPv4PacketView
variable (h : IPv4Header) (rest : List UInt8)

/-- A header of five words that gives the length of the whole. -/
structure Encloses (h : IPv4Header) (rest : List UInt8) : Prop where
  versionIhl : h.versionIhl = 0x45
  totalLength : h.totalLength = htons (UInt16.ofNat (20 + rest.length))
  bound : 20 + rest.length ≤ maxIPv4PacketSize

variable {h rest}

theorem headerLength_serialize (encloses : Encloses h rest) :
    (mk (h.serialize ++ rest)).headerLength.toNat = 20 := by
  change ((h.versionIhl &&& 0x0F) * 4).toNat = 20
  rw [encloses.versionIhl]
  rfl

theorem totalLength_serialize (encloses : Encloses h rest) :
    (mk (h.serialize ++ rest)).totalLengthNtoh.toNat = 20 + rest.length := by
  rw [(mirrors_serialize h rest).totalLengthNtoh, IPv4Header.totalLengthNtoh, encloses.totalLength,
    ntohs_htons, UInt16.toNat_ofNat']
  have bound : 20 + rest.length ≤ 65535 := encloses.bound
  exact Nat.mod_eq_of_lt (by omega)

theorem valid_serialize (encloses : Encloses h rest) : (mk (h.serialize ++ rest)).valid := by
  have version : (mk (h.serialize ++ rest)).version = 4 := by
    change h.versionIhl >>> 4 = 4
    rw [encloses.versionIhl]
    decide
  simp only [valid, version, headerLength_serialize encloses, totalLength_serialize encloses,
    List.length_append, IPv4Header.length_serialize]
  simp

theorem payload_serialize (encloses : Encloses h rest) :
    (mk (h.serialize ++ rest)).payload = rest := by
  rw [payload, headerLength_serialize encloses, totalLength_serialize encloses,
    Nat.add_sub_cancel_left, List.drop_left' (IPv4Header.length_serialize h), List.take_length]

end IPv4PacketView

/-- What was handed to `write_packet_`, as `process_incoming_packet_` has it. -/
structure Delivers (arrived : Arrived) (src dst : IPv4Address) (packet : TcpPacket) : Prop where
  src : arrived.src = ⟨src.address, packet.header.sourcePortNtoh⟩
  dst : arrived.dst = ⟨dst.address, packet.header.destPortNtoh⟩
  seqNum : arrived.packet.seqNumNtoh = packet.header.seqNumNtoh
  ackNum : arrived.packet.ackNumNtoh = packet.header.ackNumNtoh
  urg : arrived.packet.urg = packet.header.urg
  ack : arrived.packet.ack = packet.header.ack
  psh : arrived.packet.psh = packet.header.psh
  rst : arrived.packet.rst = packet.header.rst
  syn : arrived.packet.syn = packet.header.syn
  fin : arrived.packet.fin = packet.header.fin
  window : arrived.packet.windowNtoh = packet.header.windowNtoh
  urgentPointer : arrived.packet.urgentPointerNtoh = packet.header.urgentPointerNtoh
  payload : arrived.packet.payload = packet.payload

/-- Sealing a header with a data offset changes its checksum only. -/
theorem TcpPacket.sealedHeader_eq {packet : TcpPacket} (offset : packet.header.dataOffset = 5)
    (srcIpNet dstIpNet : UInt32) : ∃ checksum,
    packet.sealedHeader srcIpNet dstIpNet = { packet.header with checksum := checksum } := by
  have given : ¬ packet.header.dataOffset = 0 := by
    rw [offset]
    decide
  refine ⟨(packet.sealedHeader srcIpNet dstIpNet).checksum, ?_⟩
  simp only [sealedHeader, given, if_false]
  rfl

theorem segmentBytes_delivers {src dst : IPv4Address} {packet : TcpPacket}
    (offset : packet.header.dataOffset = 5) :
    let view : TcpPacketView := ⟨segmentBytes src dst packet⟩
    view.valid ∧ Delivers
      { src := ⟨src.address, view.sourcePortNtoh⟩
        dst := ⟨dst.address, view.destPortNtoh⟩
        packet := view } src dst packet := by
  obtain ⟨checksum, same⟩ :=
    TcpPacket.sealedHeader_eq offset (htonl src.address) (htonl dst.address)
  have kept : ({ packet.header with checksum := checksum } : TcpHeader).dataOffset = 5 := offset
  simp only [segmentBytes, same]
  have mirrors := TcpPacketView.mirrors_serialize { packet.header with checksum := checksum }
    packet.payload
  refine ⟨TcpPacketView.valid_serialize _ _ kept, ?_⟩
  exact {
    src := congrArg (IPv4Address.mk src.address) mirrors.sourcePortNtoh
    dst := congrArg (IPv4Address.mk dst.address) mirrors.destPortNtoh
    seqNum := mirrors.seqNumNtoh
    ackNum := mirrors.ackNumNtoh
    urg := mirrors.urg
    ack := mirrors.ack
    psh := mirrors.psh
    rst := mirrors.rst
    syn := mirrors.syn
    fin := mirrors.fin
    window := mirrors.windowNtoh
    urgentPointer := mirrors.urgentPointerNtoh
    payload := TcpPacketView.payload_serialize _ _ kept }

theorem encloses_segmentBytes (src dst : IPv4Address) {packet : TcpPacket}
    (fits : packet.payload.length ≤ 65495) :
    IPv4PacketView.Encloses (IPv4Packet.sealedHeader ⟨ipHeaderFor src dst,
      segmentBytes src dst packet⟩ (20 + (20 + packet.payload.length)))
      (segmentBytes src dst packet) where
  versionIhl := versionIhl_ipHeaderFor src dst
  totalLength := by
    rw [length_segmentBytes]
    rfl
  bound := by
    rw [length_segmentBytes, maxIPv4PacketSize]
    omega

theorem datagram_read_back (src dst : IPv4Address) {packet : TcpPacket}
    (offset : packet.header.dataOffset = 5) (fits : packet.payload.length ≤ 65495)
    (ipPacketBuffer tcpPacketBuffer : PacketBuffer) :
    let bytes := datagram src dst packet ipPacketBuffer tcpPacketBuffer
    (IPv4PacketView.mk bytes).valid ∧
    (TcpPacketView.mk (IPv4PacketView.mk bytes).payload).valid ∧
    ∃ arrived, parseIncoming bytes = some arrived ∧ Delivers arrived src dst packet := by
  intro bytes
  obtain ⟨validTcp, delivers⟩ := @segmentBytes_delivers src dst packet offset
  have encloses := encloses_segmentBytes src dst fits
  have written : bytes = _ := datagram_eq src dst offset fits ipPacketBuffer tcpPacketBuffer
  have valid : (IPv4PacketView.mk bytes).valid := by
    rw [written]
    exact IPv4PacketView.valid_serialize encloses
  have inner : (IPv4PacketView.mk bytes).payload = segmentBytes src dst packet := by
    rw [written]
    exact IPv4PacketView.payload_serialize encloses
  have source : (IPv4PacketView.mk bytes).sourceAddressNtoh = src.address := by
    rw [written, (IPv4PacketView.mirrors_serialize _ _).sourceAddressNtoh]
    exact ntohl_htonl src.address
  have destination : (IPv4PacketView.mk bytes).destinationAddressNtoh = dst.address := by
    rw [written, (IPv4PacketView.mirrors_serialize _ _).destinationAddressNtoh]
    exact ntohl_htonl dst.address
  rw [← inner] at validTcp delivers
  refine ⟨valid, validTcp, _, parseIncoming_of_valid valid validTcp, ?_⟩
  rw [source, destination]
  exact delivers

/-- The datagram of every packet without options is read back as it was given, whatever
was in the two buffers and whichever way it leaves. -/
theorem written_packet_read_back (wire : Wire) (localAddress : UInt32) (src dst : IPv4Address)
    (packet : TcpPacket) (offset : packet.header.dataOffset = 5)
    (fits : packet.payload.length ≤ 65495) (ipPacketBuffer tcpPacketBuffer : PacketBuffer) :
    ∃ bytes,
      wire.writePacket localAddress src dst packet ipPacketBuffer tcpPacketBuffer =
        (if isLocalAddress localAddress src.address dst.address then
          { wire with loopbackPacketQueue := wire.loopbackPacketQueue ++ [bytes] }
        else { wire with tunDevice := wire.tunDevice ++ [bytes] }) ∧
      (IPv4PacketView.mk bytes).valid ∧
      (TcpPacketView.mk (IPv4PacketView.mk bytes).payload).valid ∧
      ∃ arrived, parseIncoming bytes = some arrived ∧ Delivers arrived src dst packet ∧
        (packet.header.sourcePortNtoh = src.port → arrived.src = src) ∧
        (packet.header.destPortNtoh = dst.port → arrived.dst = dst) := by
  obtain ⟨valid, validTcp, arrived, parsed, delivers⟩ :=
    datagram_read_back src dst offset fits ipPacketBuffer tcpPacketBuffer
  refine ⟨_, rfl, valid, validTcp, arrived, parsed, delivers, ?_, ?_⟩
  · intro port
    rw [delivers.src, port]
  · intro port
    rw [delivers.dst, port]

/-- Three bytes for a stack from its neighbour. -/
def samplePacket : TcpPacket where
  header := (((TcpHeader.empty.setSourcePort 9090).setDestPort 8080).setDataOffset 5).setAck true
  payload := [1, 2, 3]

def blankBuffer : PacketBuffer := ⟨List.replicate 65535 0, List.length_replicate⟩

theorem written_packet_read_back_sample :
    ∃ bytes arrived, (Wire.mk [] []).writePacket 0x0A000002 ⟨0x0A000003, 9090⟩ ⟨0x0A000002, 8080⟩
      samplePacket blankBuffer blankBuffer = Wire.mk [bytes] [] ∧
    parseIncoming bytes = some arrived ∧ arrived.src = ⟨0x0A000003, 9090⟩ ∧
    arrived.packet.ack = true ∧ arrived.packet.payload = [1, 2, 3] := by
  obtain ⟨bytes, written, _, _, arrived, parsed, delivers, source, _⟩ :=
    written_packet_read_back (Wire.mk [] []) 0x0A000002 ⟨0x0A000003, 9090⟩ ⟨0x0A000002, 8080⟩
      samplePacket (by decide) (by decide) blankBuffer blankBuffer
  have flagged : samplePacket.header.ack = true := by decide
  exact ⟨bytes, arrived, written, parsed, source (by decide), delivers.ack.trans flagged,
    delivers.payload⟩

/-- The header that `send_control_packet_` builds. The other two builders leave out
setters whose bits or fields are zero already. -/
def Segment.tcpHeader (segment : Segment) : TcpHeader :=
  let header := TcpHeader.empty
  let header := header.setSourcePort segment.src.port
  let header := header.setDestPort segment.dst.port
  let header := header.setDataOffset 5
  let header := header.setSyn segment.syn
  let header := header.setAck segment.ack
  let header := header.setRst segment.rst
  let header := header.setFin segment.fin
  let header := header.setSeqNum segment.seqNum
  let header := header.setAckNum segment.ackNum
  header.setWindow segment.window

def Segment.tcpPacket (segment : Segment) : TcpPacket := ⟨segment.tcpHeader, segment.payload⟩

/-- The header of `create_writer_tcp_packet_`. -/
def TransmissionControlBlock.writerHeader (tcb : TransmissionControlBlock) (seqNum : UInt32) :
    TcpHeader :=
  let header := TcpHeader.empty
  let header := header.setSourcePort tcb.srcAddress.port
  let header := header.setDestPort tcb.dstAddress.port
  let header := header.setDataOffset 5
  let header := header.setAck true
  let header := header.setSeqNum seqNum
  let header := header.setAckNum tcb.rcv.nxt
  header.setWindow tcb.freeWnd

/-- The header of `send_raw_rst_`. -/
def rawRstHeader (src dst : IPv4Address) (seqNum ackNum : UInt32) (ackFlag : Bool) : TcpHeader :=
  let header := TcpHeader.empty
  let header := header.setSourcePort src.port
  let header := header.setDestPort dst.port
  let header := header.setDataOffset 5
  let header := header.setRst true
  let header := header.setAck ackFlag
  let header := header.setSeqNum seqNum
  header.setAckNum ackNum

/-- The word with the data offset and the flags depends on the flags alone. -/
def controlBits (syn ack rst fin : Bool) : TcpHeader :=
  ((((TcpHeader.empty.setDataOffset 5).setSyn syn).setAck ack).setRst rst).setFin fin

theorem controlBits_read_back (syn ack rst fin : Bool) :
    (controlBits syn ack rst fin).dataOffset = 5 ∧ (controlBits syn ack rst fin).syn = syn ∧
    (controlBits syn ack rst fin).ack = ack ∧ (controlBits syn ack rst fin).rst = rst ∧
    (controlBits syn ack rst fin).fin = fin := by
  cases syn <;> cases ack <;> cases rst <;> cases fin <;> decide

theorem Segment.tcpHeader_eq (segment : Segment) : segment.tcpHeader =
    { controlBits segment.syn segment.ack segment.rst segment.fin with
      sourcePort := htons segment.src.port
      destPort := htons segment.dst.port
      seqNum := htonl segment.seqNum
      ackNum := htonl segment.ackNum
      window := htons segment.window } := by
  simp only [tcpHeader, controlBits, TcpHeader.setSourcePort, TcpHeader.setDestPort,
    TcpHeader.setDataOffset, TcpHeader.setSyn, TcpHeader.setAck, TcpHeader.setRst,
    TcpHeader.setFin, TcpHeader.setFlag, TcpHeader.setControlWord, TcpHeader.controlWord,
    TcpHeader.setSeqNum, TcpHeader.setAckNum, TcpHeader.setWindow]

theorem TransmissionControlBlock.writerHeader_eq (tcb : TransmissionControlBlock)
    (data : List UInt8) (seqNum : UInt32) :
    (tcb.createWriterTcpPacket data seqNum).tcpHeader = tcb.writerHeader seqNum := by
  have bits : controlBits false true false false =
      (TcpHeader.empty.setDataOffset 5).setAck true := by
    decide
  rw [Segment.tcpHeader_eq]
  simp only [createWriterTcpPacket, bits]
  simp only [writerHeader, TcpHeader.setSourcePort, TcpHeader.setDestPort,
    TcpHeader.setDataOffset, TcpHeader.setAck, TcpHeader.setFlag, TcpHeader.setControlWord,
    TcpHeader.controlWord, TcpHeader.setSeqNum, TcpHeader.setAckNum, TcpHeader.setWindow]

theorem rawRstHeader_eq (src dst : IPv4Address) (seqNum ackNum : UInt32) (ackFlag : Bool) :
    (sendRawRst src dst seqNum ackNum ackFlag).tcpHeader =
      rawRstHeader src dst seqNum ackNum ackFlag := by
  have bits : controlBits false ackFlag true false =
      ((TcpHeader.empty.setDataOffset 5).setRst true).setAck ackFlag := by
    cases ackFlag <;> decide
  have zero : htons 0 = 0 := by decide
  rw [Segment.tcpHeader_eq]
  simp only [sendRawRst, bits]
  simp only [rawRstHeader, TcpHeader.setSourcePort, TcpHeader.setDestPort,
    TcpHeader.setDataOffset, TcpHeader.setRst, TcpHeader.setAck, TcpHeader.setFlag,
    TcpHeader.setControlWord, TcpHeader.controlWord, TcpHeader.setSeqNum, TcpHeader.setAckNum,
    TcpHeader.empty, zero]

theorem Segment.controlWord_tcpHeader (segment : Segment) : segment.tcpHeader.controlWord =
    (controlBits segment.syn segment.ack segment.rst segment.fin).controlWord := by
  rw [tcpHeader_eq]
  rfl

theorem Segment.dataOffset_tcpHeader (segment : Segment) : segment.tcpHeader.dataOffset = 5 := by
  rw [TcpHeader.dataOffset, controlWord_tcpHeader]
  exact (controlBits_read_back segment.syn segment.ack segment.rst segment.fin).1

theorem Segment.flag_tcpHeader (segment : Segment) (bit : UInt16) : segment.tcpHeader.flag bit =
    (controlBits segment.syn segment.ack segment.rst segment.fin).flag bit := by
  rw [TcpHeader.flag, TcpHeader.flags, controlWord_tcpHeader]
  rfl

/-- A segment survives the way through the wire. -/
theorem Segment.read_back (segment : Segment) (fits : segment.payload.length ≤ 65495)
    (ipPacketBuffer tcpPacketBuffer : PacketBuffer) :
    (parseIncoming (datagram segment.src segment.dst segment.tcpPacket ipPacketBuffer
      tcpPacketBuffer)).map Arrived.segment = some segment := by
  obtain ⟨_, syn, ack, rst, fin⟩ :=
    controlBits_read_back segment.syn segment.ack segment.rst segment.fin
  obtain ⟨_, _, arrived, parsed, delivers⟩ := @datagram_read_back segment.src segment.dst
    segment.tcpPacket segment.dataOffset_tcpHeader fits ipPacketBuffer tcpPacketBuffer
  have getters : segment.tcpHeader.sourcePortNtoh = segment.src.port ∧
      segment.tcpHeader.destPortNtoh = segment.dst.port ∧
      segment.tcpHeader.seqNumNtoh = segment.seqNum ∧
      segment.tcpHeader.ackNumNtoh = segment.ackNum ∧
      segment.tcpHeader.windowNtoh = segment.window := by
    rw [tcpHeader_eq]
    exact ⟨ntohs_htons _, ntohs_htons _, ntohl_htonl _, ntohl_htonl _, ntohs_htons _⟩
  obtain ⟨source, destination, seqNum, ackNum, window⟩ := getters
  rw [parsed, Option.map_some, Option.some_inj, Segment.mk.injEq]
  refine ⟨delivers.src.trans ?_, delivers.dst.trans ?_, delivers.seqNum.trans seqNum,
    delivers.ackNum.trans ackNum, ?_, ?_, ?_, ?_, delivers.window.trans window, delivers.payload⟩
  · rw [tcpPacket, source]
  · rw [tcpPacket, destination]
  · exact delivers.syn.trans ((segment.flag_tcpHeader 1).trans syn)
  · exact delivers.ack.trans ((segment.flag_tcpHeader 4).trans ack)
  · exact delivers.rst.trans ((segment.flag_tcpHeader 2).trans rst)
  · exact delivers.fin.trans ((segment.flag_tcpHeader 0).trans fin)

/-- The bytes on both ways out parse to the segments that the stack has written. -/
structure Wire.Carries (wire : Wire) (stack : TcpStack) : Prop where
  loopback : wire.loopbackPacketQueue.map (fun bytes => (parseIncoming bytes).map Arrived.segment) =
    stack.loopbackPacketQueue.map some
  tun : wire.tunDevice.map (fun bytes => (parseIncoming bytes).map Arrived.segment) =
    (stack.written.filter (fun packet => !stack.isLocal packet)).map some

theorem Wire.Carries.writePacket {wire : Wire} {stack : TcpStack} (h : wire.Carries stack)
    {segment : Segment} (fits : segment.payload.length ≤ 65495)
    (ipPacketBuffer tcpPacketBuffer : PacketBuffer) :
    (wire.writePacket stack.localAddress segment.src segment.dst segment.tcpPacket ipPacketBuffer
      tcpPacketBuffer).Carries (stack.writePacket segment) := by
  have back := segment.read_back fits ipPacketBuffer tcpPacketBuffer
  have same : isLocalAddress stack.localAddress segment.src.address segment.dst.address =
    stack.isLocal segment := rfl
  have kept : (stack.writePacket segment).isLocal = stack.isLocal := rfl
  cases toSelf : stack.isLocal segment with
  | true =>
    constructor
    · simp [Wire.writePacket, TcpStack.writePacket, same, toSelf, h.loopback, back]
    · rw [kept]
      simp [Wire.writePacket, TcpStack.writePacket, same, toSelf, h.tun]
  | false =>
    constructor
    · simp [Wire.writePacket, TcpStack.writePacket, same, toSelf, h.loopback]
    · rw [kept]
      simp [Wire.writePacket, TcpStack.writePacket, same, toSelf, h.tun, back]

/-- And so does everything that an outcome sends, one write after the other. -/
theorem Wire.Carries.writePackets {wire : Wire} {stack : TcpStack} (h : wire.Carries stack)
    (packets : List Segment) (fits : ∀ packet ∈ packets, packet.payload.length ≤ 65495)
    (ipPacketBuffer tcpPacketBuffer : PacketBuffer) :
    (packets.foldl (fun wire packet => wire.writePacket stack.localAddress packet.src packet.dst
      packet.tcpPacket ipPacketBuffer tcpPacketBuffer) wire).Carries
      (packets.foldl TcpStack.writePacket stack) := by
  induction packets generalizing wire stack with
  | nil => exact h
  | cons packet packets ih =>
    have first := h.writePacket (fits packet List.mem_cons_self) ipPacketBuffer tcpPacketBuffer
    exact ih first (fun other hmem => fits other (List.mem_cons_of_mem packet hmem))

/-- What comes out of the loopback queue is the segment that went in. -/
theorem Wire.Carries.loopback_head {wire : Wire} {stack : TcpStack} (h : wire.Carries stack)
    {bytes : List UInt8} {rest : List (List UInt8)}
    (head : wire.loopbackPacketQueue = bytes :: rest) :
    ∃ packet more, stack.loopbackPacketQueue = packet :: more ∧
      ∀ (receiver : TcpStack) (iss : UInt32),
        receiver.processIncomingBytes bytes iss = receiver.processIncomingPacket packet iss := by
  have queue := h.loopback
  rw [head, List.map_cons] at queue
  cases segments : stack.loopbackPacketQueue with
  | nil =>
    rw [segments] at queue
    cases queue
  | cons packet more =>
    rw [segments, List.map_cons, List.cons.injEq, Option.map_eq_some_iff] at queue
    obtain ⟨⟨arrived, parsed, rfl⟩, _⟩ := queue
    refine ⟨arrived.segment, more, rfl, fun receiver iss => ?_⟩
    rw [TcpStack.processIncomingBytes, parsed]

end TinyCP
