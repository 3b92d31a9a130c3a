import TinyCP.ChecksumSums
import TinyCP.PacketWriters

/-!
# The checksums of packets

The TCP checksum adds up five pieces one after the other. As each piece but the last has
an even length, it is the checksum of the one string that the pieces make up. A writer
that puts it where a zero was makes the whole add up to a string of ones, and so do the
20 bytes of an IPv4 header.
-/
namespace TinyCP
open WireBytes

/-- The overload for addresses in host byte order. -/
def computeTcpChecksumFor (src dst : IPv4Address) (headerBytes payloadBytes : List UInt8) : UInt16 :=
  computeTcpChecksum (htonl src.address) (htonl dst.address) headerBytes payloadBytes

/-- Source, destination, zero, the protocol and the length of the segment. -/
def pseudoHeader (src dst : IPv4Address) (tcpLength : UInt16) : List UInt8 :=
  bigEndian32 src.address ++ bigEndian32 dst.address ++ [0, 6] ++ bigEndian16 tcpLength

@[simp] theorem length_pseudoHeader (src dst : IPv4Address) (tcpLength : UInt16) :
    (pseudoHeader src dst tcpLength).length = 12 := rfl

/-- The sum of the five pieces without the machine arithmetic. -/
def segmentSum (srcIpNet dstIpNet : UInt32) (headerBytes payloadBytes : List UInt8) : Nat :=
  wordSum (store32 srcIpNet) + wordSum (store32 dstIpNet) + 6 +
    (headerBytes.length + payloadBytes.length) % 65536 + wordSum headerBytes + wordSum payloadBytes

theorem toUInt32_ofNat (length : Nat) :
    (UInt16.ofNat length).toUInt32 = UInt32.ofNat (length % 65536) := by
  apply UInt32.toNat_inj.mp
  rw [UInt16.toNat_toUInt32, UInt16.toNat_ofNat', UInt32.toNat_ofNat']
  omega

theorem computeTcpChecksum_eq (srcIpNet dstIpNet : UInt32) (headerBytes payloadBytes : List UInt8) :
    computeTcpChecksum srcIpNet dstIpNet headerBytes payloadBytes =
      complementSum (UInt32.ofNat (segmentSum srcIpNet dstIpNet headerBytes payloadBytes)) := by
  simp only [computeTcpChecksum, sumWords_eq, toUInt32_ofNat, segmentSum, UInt32.ofNat_add,
    UInt32.zero_add]
  rfl

theorem wordSum_bigEndian16 (w : UInt16) : wordSum (bigEndian16 w) = w.toNat := by
  have bound := w.toNat_lt
  rw [bigEndian16, wordSum_cons, UInt16.toNat_toUInt8, UInt16.toNat_toUInt8,
    UInt16.toNat_shiftRight, Nat.shiftRight_eq_div_pow]
  change 256 * (w.toNat / 256 % 256) + w.toNat % 256 + 0 = _
  omega

/-- For every even header and every payload the streaming function agrees with the flat one. -/
theorem computeTcpChecksumFor_eq (src dst : IPv4Address) (headerBytes payloadBytes : List UInt8)
    (even : headerBytes.length % 2 = 0) :
    computeTcpChecksumFor src dst headerBytes payloadBytes =
      onesComplementChecksum
        (pseudoHeader src dst (UInt16.ofNat (headerBytes.length + payloadBytes.length)) ++
          headerBytes ++ payloadBytes) := by
  have pseudo : wordSum (pseudoHeader src dst
      (UInt16.ofNat (headerBytes.length + payloadBytes.length))) =
      wordSum (bigEndian32 src.address) + wordSum (bigEndian32 dst.address) + 6 +
        (headerBytes.length + payloadBytes.length) % 65536 := by
    rw [pseudoHeader, wordSum_append (by simp), wordSum_append (by simp), wordSum_append (by simp),
      wordSum_bigEndian16, UInt16.toNat_ofNat']
    rfl
  have front : (pseudoHeader src dst
      (UInt16.ofNat (headerBytes.length + payloadBytes.length)) ++ headerBytes).length % 2 = 0 := by
    rw [List.length_append, length_pseudoHeader]
    omega
  rw [computeTcpChecksumFor, computeTcpChecksum_eq, onesComplementChecksum_eq, segmentSum,
    store32_htonl, store32_htonl, wordSum_append front, wordSum_append (by simp), pseudo]

/-- A header of two bytes, two bytes of payload and the odd one. -/
theorem computeTcpChecksumFor_sample :
    computeTcpChecksumFor ⟨0x0A000003, 0⟩ ⟨0x0A000002, 0⟩ [0x50, 2] [1, 2, 3] =
      onesComplementChecksum
        (pseudoHeader ⟨0x0A000003, 0⟩ ⟨0x0A000002, 0⟩ 5 ++ [0x50, 2] ++ [1, 2, 3]) :=
  computeTcpChecksumFor_eq ⟨0x0A000003, 0⟩ ⟨0x0A000002, 0⟩ [0x50, 2] [1, 2, 3] (by decide)

theorem wordSum_store16 (w : UInt16) : wordSum (store16 w) = (ntohs w).toNat := by
  rw [← word16_store16, toNat_word16, store16, wordSum_cons]
  rfl

/-- The checksum field is one word of the header. -/
theorem wordSum_field (front rest : List UInt8) (even : front.length % 2 = 0) (checksum : UInt16) :
    wordSum (front ++ (store16 (htons checksum) ++ rest)) =
      wordSum (front ++ (store16 (htons 0) ++ rest)) + checksum.toNat := by
  rw [wordSum_append even, wordSum_append even, wordSum_append (by simp), wordSum_append (by simp),
    wordSum_store16, wordSum_store16, ntohs_htons, ntohs_htons]
  change _ = _ + (0 + _) + _
  omega

theorem TcpHeader.wordSum_setChecksum (h : TcpHeader) (checksum : UInt16) :
    wordSum (h.setChecksum checksum).serialize =
      wordSum (h.setChecksum 0).serialize + checksum.toNat :=
  wordSum_field (store16 h.sourcePort ++ store16 h.destPort ++ store32 h.seqNum ++
    store32 h.ackNum ++ store16 h.dataOffsetAndReservedAndControlBits ++ store16 h.window)
    (store16 h.urgentPointer) (by simp) checksum

theorem IPv4Header.wordSum_setChecksum (h : IPv4Header) (checksum : UInt16) :
    wordSum (h.setChecksum checksum).serialize =
      wordSum (h.setChecksum 0).serialize + checksum.toNat :=
  wordSum_field ([h.versionIhl, h.typeOfService] ++ store16 h.totalLength ++
    store16 h.identification ++ store16 h.flagsFragmentOffset ++ [h.ttl, h.protocol])
    (store32 h.sourceAddress ++ store32 h.destinationAddress) (by simp) checksum

/-- Zeroing the two bytes of the serialized header is zeroing the field. -/
theorem IPv4Header.computeChecksum_eq (h : IPv4Header) :
    h.computeChecksum = onesComplementChecksum (h.setChecksum 0).serialize := by
  have zero : store16 (htons 0) = [0, 0] := by decide
  have replaced := overwrite_append ([h.versionIhl, h.typeOfService] ++ store16 h.totalLength ++
    store16 h.identification ++ store16 h.flagsFragmentOffset ++ [h.ttl, h.protocol])
    (store16 h.checksum ++ (store32 h.sourceAddress ++ store32 h.destinationAddress)) [0, 0]
  rw [computeChecksum, serialize, serialize, setChecksum]
  simp only [zero, List.append_assoc] at replaced ⊢
  exact congrArg onesComplementChecksum replaced

theorem segmentSum_setChecksum (srcIpNet dstIpNet : UInt32) (h : TcpHeader) (checksum : UInt16)
    (payload : List UInt8) :
    segmentSum srcIpNet dstIpNet (h.setChecksum checksum).serialize payload =
      segmentSum srcIpNet dstIpNet (h.setChecksum 0).serialize payload + checksum.toNat := by
  rw [segmentSum, segmentSum, h.wordSum_setChecksum checksum, TcpHeader.length_serialize,
    TcpHeader.length_serialize]
  omega

/-- A segment that fits the length field does not fill the accumulator. -/
theorem segmentSum_lt (srcIpNet dstIpNet : UInt32) (headerBytes payload : List UInt8)
    (bound : headerBytes.length + payload.length ≤ 65535) :
    segmentSum srcIpNet dstIpNet headerBytes payload < 2 ^ 32 - 65536 := by
  have source := wordSum_le (store32 srcIpNet)
  have destination := wordSum_le (store32 dstIpNet)
  have header := wordSum_le headerBytes
  have data := wordSum_le payload
  rw [length_store32] at source destination
  rw [segmentSum]
  omega

/-- The segment that `write` seals sums up to nothing. -/
theorem TcpPacket.sealedHeader_verifies (packet : TcpPacket) (srcIpNet dstIpNet : UInt32)
    (bound : packet.payload.length ≤ 65515) :
    computeTcpChecksum srcIpNet dstIpNet (packet.sealedHeader srcIpNet dstIpNet).serialize
      packet.payload = 0 := by
  have sealed : packet.sealedHeader srcIpNet dstIpNet = packet.plainHeader.setChecksum
      (computeTcpChecksum srcIpNet dstIpNet (packet.plainHeader.setChecksum 0).serialize
        packet.payload) := rfl
  have small := segmentSum_lt srcIpNet dstIpNet (packet.plainHeader.setChecksum 0).serialize
    packet.payload (by rw [TcpHeader.length_serialize]; omega)
  rw [sealed, computeTcpChecksum_eq, computeTcpChecksum_eq, segmentSum_setChecksum]
  refine complementSum_add_complement ?_
  have checksum := (complementSum (UInt32.ofNat (segmentSum srcIpNet dstIpNet
    (packet.plainHeader.setChecksum 0).serialize packet.payload))).toNat_lt
  omega

theorem IPv4Packet.sealedHeader_verifies (packet : IPv4Packet) (total : Nat) :
    onesComplementChecksum (packet.sealedHeader total).serialize = 0 := by
  have sealed : packet.sealedHeader total =
      (packet.header.setTotalLength (UInt16.ofNat total)).setChecksum
        (packet.header.setTotalLength (UInt16.ofNat total)).computeChecksum := rfl
  have small := wordSum_le
    ((packet.header.setTotalLength (UInt16.ofNat total)).setChecksum 0).serialize
  rw [IPv4Header.length_serialize] at small
  rw [sealed, IPv4Header.computeChecksum_eq, onesComplementChecksum_eq, onesComplementChecksum_eq,
    IPv4Header.wordSum_setChecksum]
  refine complementSum_add_complement ?_
  have checksum := (complementSum (UInt32.ofNat (wordSum
    ((packet.header.setTotalLength (UInt16.ofNat total)).setChecksum 0).serialize))).toNat_lt
  omega

/-- A header without options, which the data offset may leave to the writer. -/
def TcpPacket.IsPlain (packet : TcpPacket) : Prop :=
  packet.header.dataOffset = 0 ∨ packet.header.dataOffset = 5

theorem TcpPacket.IsPlain.headerLen {packet : TcpPacket} (plain : packet.IsPlain) :
    packet.headerLen = 20 := by
  rcases plain with none | five
  · exact headerLen_of_none none
  · rw [headerLen_of_some (by rw [five]; decide), five]
    rfl

end TinyCP
