import TinyCP.HeaderFields
import TinyCP.OutputPath

/-!
# What the packet writers leave in a buffer

Both writers compare the buffer with the header length that the packet claims, but copy
the 20 bytes of their header class in any case. A claimed length below 20 makes the
header overlap the payload, or the end of the buffer. The TCP writer gives a header
without a data offset the right one; the IPv4 writer makes room for 20 bytes and leaves
the IHL at zero, and it counts the length of the whole in 16 bits.
-/
namespace TinyCP
open WireBytes

/-- Nothing but the first `result.2` bytes of the buffer was written. A longer list stands
for writes past the end of the buffer. -/
structure WritesPrefix (out : List UInt8) (result : List UInt8 × Nat) : Prop where
  within : result.2 ≤ out.length
  size : result.1.length = out.length
  rest : result.1.drop result.2 = out.drop result.2

theorem getD_of_take_eq {first second : List UInt8} {n i : Nat}
    (same : first.take n = second.take n) (inside : i < n) :
    first.getD i 0 = second.getD i 0 := by
  have equal := congrArg (fun bytes => bytes.getD i 0) same
  simpa [List.getD_eq_getElem?_getD, List.getElem?_take, inside] using equal

section Place
variable {out wire payload : List UInt8} {headerLen : Nat}

theorem length_placed (fits : headerLen + payload.length ≤ out.length)
    (short : wire.length ≤ headerLen + payload.length) :
    (place out wire headerLen payload).length = out.length := by
  have first : (overwrite out 0 wire).length = out.length := length_overwrite (by omega)
  rw [place, length_overwrite (by omega), first]

theorem writesPrefix_placed (fits : headerLen + payload.length ≤ out.length)
    (short : wire.length ≤ headerLen + payload.length) :
    WritesPrefix out (place out wire headerLen payload, headerLen + payload.length) where
  within := fits
  size := length_placed fits short
  rest := by
    have first : (overwrite out 0 wire).length = out.length := length_overwrite (by omega)
    rw [place, drop_overwrite (Nat.le_refl _) (by omega), drop_overwrite (by omega) (Nat.zero_le _)]

/-- The part of the header that the payload does not reach. -/
theorem take_placed (fits : headerLen + payload.length ≤ out.length)
    (short : wire.length ≤ headerLen + payload.length) {n : Nat} (header : n ≤ headerLen)
    (inside : n ≤ wire.length) :
    ((place out wire headerLen payload).take (headerLen + payload.length)).take n =
      wire.take n := by
  have first : (overwrite out 0 wire).length = out.length := length_overwrite (by omega)
  rw [List.take_take, Nat.min_eq_left (by omega), place, take_overwrite header (by omega),
    overwrite_zero, List.take_append_of_le_length inside]

theorem drop_placed (fits : headerLen + payload.length ≤ out.length)
    (short : wire.length ≤ headerLen + payload.length) :
    ((place out wire headerLen payload).take (headerLen + payload.length)).drop headerLen =
      payload := by
  have first : (overwrite out 0 wire).length = out.length := length_overwrite (by omega)
  rw [List.drop_take, Nat.add_sub_cancel_left, place, slice_overwrite (by omega)]

end Place

theorem length_written {out : List UInt8} {result : List UInt8 × Nat}
    (written : WritesPrefix out result) : (result.1.take result.2).length = result.2 := by
  rw [List.length_take, written.size, Nat.min_eq_left written.within]

namespace TcpPacket
variable {packet : TcpPacket} {out : List UInt8}

/-- The packet does not fit, or what was written can be read back. -/
def WritesDecodably (packet : TcpPacket) (out : List UInt8) (result : List UInt8 × Nat) : Prop :=
  result = (out, 0) ∨
    WritesPrefix out result ∧ (TcpPacketView.mk (result.1.take result.2)).valid ∧
      (TcpPacketView.mk (result.1.take result.2)).payload = packet.payload

/-- The data offset that both headers of `write` have. -/
def Repairs (packet : TcpPacket) (hdr : TcpHeader) : Prop :=
  hdr.dataOffset = if packet.header.dataOffset = 0 then 5 else packet.header.dataOffset

theorem repairs_plainHeader (packet : TcpPacket) : packet.Repairs packet.plainHeader := by
  rw [Repairs, plainHeader]
  split_ifs with none
  · exact UInt8.toNat_inj.mp (packet.header.fieldValue_setDataOffset 5 .dataOffset)
  · rfl

theorem repairs_sealedHeader (packet : TcpPacket) (srcIpNet dstIpNet : UInt32) :
    packet.Repairs (packet.sealedHeader srcIpNet dstIpNet) := packet.repairs_plainHeader

theorem headerLen_pos (packet : TcpPacket) : 0 < packet.headerLen := by
  rw [headerLen]
  split_ifs with given
  · exact given
  · decide

/-- A data offset that a header can have, or none. -/
def HasHeaderRoom (packet : TcpPacket) : Prop :=
  packet.header.dataOffset = 0 ∨ 5 ≤ packet.header.dataOffset.toNat

theorem headerLen_of_none (none : packet.header.dataOffset = 0) : packet.headerLen = 20 := by
  rw [headerLen, TcpHeader.headerLength, none]
  rfl

theorem headerLen_of_some (some : packet.header.dataOffset ≠ 0) :
    packet.headerLen = 4 * packet.header.dataOffset.toNat := by
  have length := packet.header.toNat_headerLength
  have positive : packet.header.dataOffset.toNat ≠ 0 := fun zero =>
    some (UInt8.toNat_inj.mp zero)
  have given : packet.header.headerLength > 0 := by
    change (0 : UInt8).toNat < packet.header.headerLength.toNat
    rw [length]
    exact Nat.mul_pos (by decide) (Nat.pos_of_ne_zero positive)
  rw [headerLen, if_pos given, length]

/-- Where there is room for the header, the view finds the payload behind it. -/
theorem placed_decodable (room : packet.HasHeaderRoom) {hdr : TcpHeader}
    (repairs : packet.Repairs hdr)
    (fits : packet.headerLen + packet.payload.length ≤ out.length) :
    packet.WritesDecodably out (place out hdr.serialize packet.headerLen packet.payload,
      packet.headerLen + packet.payload.length) := by
  have length : hdr.headerLength.toNat = packet.headerLen ∧ 20 ≤ packet.headerLen := by
    rw [hdr.toNat_headerLength, repairs]
    split_ifs with none
    · rw [headerLen_of_none none]
      decide
    · rw [headerLen_of_some none]
      rcases room with zero | large
      · exact absurd zero none
      · omega
  obtain ⟨same, large⟩ := length
  have short : hdr.serialize.length ≤ packet.headerLen + packet.payload.length := by
    rw [TcpHeader.length_serialize]
    omega
  have written := writesPrefix_placed fits short
  have size := length_written written
  have header := take_placed fits short (n := 20) large (by rw [TcpHeader.length_serialize])
  right
  refine ⟨written, ?_⟩
  have payload := drop_placed fits short
  revert size header payload
  generalize (place out hdr.serialize packet.headerLen packet.payload).take
    (packet.headerLen + packet.payload.length) = bytes
  intro size header payload
  have split : bytes = hdr.serialize ++ bytes.drop 20 := by
    rw [List.take_of_length_le (Nat.le_of_eq hdr.length_serialize)] at header
    rw [← header, List.take_append_drop]
  have view : (TcpPacketView.mk bytes).headerLength.toNat = packet.headerLen := by
    rw [split, (TcpPacketView.mirrors_serialize hdr _).headerLength, same]
  constructor
  · simp only [TcpPacketView.valid, view, size, Bool.and_eq_true, decide_eq_true_eq]
    omega
  · rw [TcpPacketView.payload, view, payload]

/-- A view over a header that is claimed to be shorter than 20 bytes is invalid, or has a
payload of another length. -/
theorem not_decodable_of_short (short : packet.headerLen < 20) {result : List UInt8 × Nat}
    (total : result.2 = packet.headerLen + packet.payload.length) :
    ¬ packet.WritesDecodably out result := by
  rintro (untouched | ⟨written, valid, payload⟩)
  · have positive := packet.headerLen_pos
    rw [untouched] at total
    change 0 = _ at total
    omega
  · have size := length_written written
    have length := congrArg List.length payload
    simp only [TcpPacketView.valid, Bool.and_eq_true, decide_eq_true_eq] at valid
    rw [TcpPacketView.payload, List.length_drop] at length
    simp only [size] at valid length
    omega

theorem placed_decodable_iff {hdr : TcpHeader} (repairs : packet.Repairs hdr)
    (fits : packet.headerLen + packet.payload.length ≤ out.length) :
    packet.WritesDecodably out (place out hdr.serialize packet.headerLen packet.payload,
      packet.headerLen + packet.payload.length) ↔ packet.HasHeaderRoom := by
  constructor
  · intro decodable
    by_contra none
    rw [HasHeaderRoom, not_or] at none
    have short : packet.headerLen < 20 := by
      rw [headerLen_of_some none.1]
      omega
    exact not_decodable_of_short short rfl decodable
  · intro room
    exact placed_decodable room repairs fits

end TcpPacket

namespace IPv4Packet
variable {packet : IPv4Packet} {out : List UInt8}

def WritesDecodably (packet : IPv4Packet) (out : List UInt8) (result : List UInt8 × Nat) : Prop :=
  result = (out, 0) ∨
    WritesPrefix out result ∧ (IPv4PacketView.mk (result.1.take result.2)).valid ∧
      (IPv4PacketView.mk (result.1.take result.2)).payload = packet.payload

theorem headerLen_of_none (none : packet.header.ihl = 0) : packet.headerLen = 20 := by
  rw [headerLen, IPv4Header.headerLength, none]
  rfl

theorem headerLen_of_some (some : packet.header.ihl ≠ 0) :
    packet.headerLen = packet.header.headerLength.toNat ∧ 4 ≤ packet.headerLen := by
  have length := packet.header.toNat_headerLength
  have positive : packet.header.ihl.toNat ≠ 0 := fun zero => some (UInt8.toNat_inj.mp zero)
  have given : packet.header.headerLength > 0 := by
    change (0 : UInt8).toNat < packet.header.headerLength.toNat
    rw [length]
    exact Nat.mul_pos (by decide) (Nat.pos_of_ne_zero positive)
  rw [headerLen, if_pos given, length]
  exact ⟨rfl, by omega⟩

theorem four_le_headerLen (packet : IPv4Packet) : 4 ≤ packet.headerLen := by
  by_cases none : packet.header.ihl = 0
  · rw [headerLen_of_none none]
    decide
  · exact (headerLen_of_some none).2

/-- The first four bytes are those of the header, whatever the IHL, and they hold all that
the view decides by. -/
structure ReadsLengths (packet : IPv4Packet) (view : IPv4PacketView) : Prop where
  version : view.version = packet.header.version
  headerLength : view.headerLength = packet.header.headerLength
  totalLength : view.totalLengthNtoh.toNat = packet.total % 65536

theorem readsLengths_placed (fits : packet.total ≤ out.length) (large : 20 ≤ packet.total) :
    packet.ReadsLengths ⟨(place out (packet.sealedHeader packet.total).serialize packet.headerLen
      packet.payload).take packet.total⟩ := by
  have front := take_placed (n := 4) fits
    (show (packet.sealedHeader packet.total).serialize.length ≤ packet.total from large)
    packet.four_le_headerLen (by rw [IPv4Header.length_serialize]; decide)
  have byte : ∀ i < 4, ((place out (packet.sealedHeader packet.total).serialize packet.headerLen
      packet.payload).take packet.total).getD i 0 =
      (packet.sealedHeader packet.total).serialize.getD i 0 :=
    fun i inside => getD_of_take_eq front inside
  constructor
  · rw [IPv4PacketView.version, byte 0 (by decide)]
    rfl
  · rw [IPv4PacketView.headerLength, IPv4PacketView.ihl, byte 0 (by decide)]
    rfl
  · have counted : (packet.sealedHeader packet.total).totalLength =
        htons (UInt16.ofNat packet.total) := rfl
    rw [IPv4PacketView.totalLengthNtoh, be16, byte 2 (by decide), byte 3 (by decide)]
    change (word16 (packet.sealedHeader packet.total).totalLength.toUInt8
      ((packet.sealedHeader packet.total).totalLength >>> 8).toUInt8).toNat = _
    rw [word16_store16, counted, ntohs_htons, UInt16.toNat_ofNat']

/-- A header length other than zero, and a datagram that is long enough for the view and
short enough to be counted. -/
structure Countable (packet : IPv4Packet) : Prop where
  some : packet.header.ihl ≠ 0
  large : 20 ≤ packet.total
  bound : packet.total ≤ 65535

theorem ReadsLengths.finds_payload {bytes : List UInt8} (reads : packet.ReadsLengths ⟨bytes⟩)
    (version : packet.header.version = 4) (countable : packet.Countable)
    (size : bytes.length = packet.total) (payload : bytes.drop packet.headerLen = packet.payload) :
    (IPv4PacketView.mk bytes).valid ∧ (IPv4PacketView.mk bytes).payload = packet.payload := by
  obtain ⟨length, _⟩ := headerLen_of_some countable.some
  have large := countable.large
  have whole : packet.total = packet.headerLen + packet.payload.length := rfl
  have counted := reads.totalLength
  rw [Nat.mod_eq_of_lt (Nat.lt_succ_of_le countable.bound)] at counted
  constructor
  · simp only [IPv4PacketView.valid, reads.version, version, reads.headerLength, ← length, counted,
      size, Bool.and_eq_true, decide_eq_true_eq]
    exact ⟨⟨⟨large, trivial⟩, by omega⟩, Nat.le_refl _⟩
  · rw [IPv4PacketView.payload, reads.headerLength, ← length, counted, payload, whole,
      Nat.add_sub_cancel_left, List.take_length]

theorem placed_decodable (version : packet.header.version = 4) (countable : packet.Countable)
    (fits : packet.total ≤ out.length) :
    packet.WritesDecodably out (place out (packet.sealedHeader packet.total).serialize
      packet.headerLen packet.payload, packet.total) := by
  have short : (packet.sealedHeader packet.total).serialize.length ≤ packet.total :=
    countable.large
  have written := writesPrefix_placed fits short
  exact Or.inr ⟨written, (readsLengths_placed fits countable.large).finds_payload version countable
    (length_written written) (drop_placed fits short)⟩

/-- Otherwise the view refuses the bytes, or it takes the header for payload, or it counts
too few bytes. -/
theorem ReadsLengths.misses_payload {bytes : List UInt8} (reads : packet.ReadsLengths ⟨bytes⟩)
    (size : bytes.length = packet.total) (some : packet.header.ihl = 0 ∨ 65535 < packet.total)
    (valid : (IPv4PacketView.mk bytes).valid) :
    (IPv4PacketView.mk bytes).payload ≠ packet.payload := by
  intro payload
  have length := congrArg List.length payload
  have whole : packet.total = packet.headerLen + packet.payload.length := rfl
  have counted := reads.totalLength
  simp only [IPv4PacketView.valid, reads.headerLength, size, Bool.and_eq_true,
    decide_eq_true_eq] at valid
  rw [IPv4PacketView.payload, List.length_take, List.length_drop, reads.headerLength, size] at length
  by_cases none : packet.header.ihl = 0
  · have empty : packet.header.headerLength.toNat = 0 := by
      rw [IPv4Header.headerLength, none]
      rfl
    have room := headerLen_of_none none
    omega
  · obtain ⟨same, _⟩ := headerLen_of_some none
    have long := some.resolve_left none
    omega

theorem placed_decodable_iff (version : packet.header.version = 4)
    (fits : packet.total ≤ out.length) :
    packet.WritesDecodably out (place out (packet.sealedHeader packet.total).serialize
      packet.headerLen packet.payload, packet.total) ↔ packet.Countable := by
  constructor
  · rintro (untouched | ⟨written, valid, payload⟩)
    · have positive := packet.four_le_headerLen
      have none : packet.headerLen + packet.payload.length = 0 := congrArg Prod.snd untouched
      omega
    · have size := length_written written
      have large : 20 ≤ packet.total := by
        simp only [IPv4PacketView.valid, Bool.and_eq_true, decide_eq_true_eq] at valid
        have long := valid.1.1.1
        exact Nat.le_trans long (Nat.le_of_eq size)
      have reads := readsLengths_placed fits large
      refine ⟨fun none => ?_, large, Nat.le_of_not_lt fun long => ?_⟩
      · exact reads.misses_payload size (.inl none) valid payload
      · exact reads.misses_payload size (.inr long) valid payload
  · intro countable
    exact placed_decodable version countable fits

end IPv4Packet

theorem TcpPacket.write_decodable_iff (packet : TcpPacket) (out : List UInt8)
    (srcIpNet dstIpNet : UInt32) :
    packet.WritesDecodably out (packet.write out srcIpNet dstIpNet) ↔
      out.length < packet.headerLen + packet.payload.length ∨ packet.HasHeaderRoom := by
  rw [write_eq]
  split_ifs with small
  · exact ⟨fun _ => .inl small, fun _ => .inl rfl⟩
  · rw [placed_decodable_iff (packet.repairs_sealedHeader srcIpNet dstIpNet)
      (Nat.le_of_not_lt small), or_iff_right small]

theorem TcpPacket.writePlain_decodable_iff (packet : TcpPacket) (out : List UInt8) :
    packet.WritesDecodably out (packet.writePlain out) ↔
      out.length < packet.headerLen + packet.payload.length ∨ packet.HasHeaderRoom := by
  rw [writePlain_eq]
  split_ifs with small
  · exact ⟨fun _ => .inl small, fun _ => .inl rfl⟩
  · rw [placed_decodable_iff packet.repairs_plainHeader (Nat.le_of_not_lt small),
      or_iff_right small]

theorem IPv4Packet.write_decodable_iff {packet : IPv4Packet} (version : packet.header.version = 4)
    (out : List UInt8) :
    packet.WritesDecodably out (packet.write out) ↔
      out.length < packet.total ∨ packet.Countable := by
  rw [write_eq]
  split_ifs with small
  · exact ⟨fun _ => .inl small, fun _ => .inl rfl⟩
  · rw [placed_decodable_iff version (Nat.le_of_not_lt small), or_iff_right small]

/-- Each writer, given a buffer that is too small, leaves it alone; otherwise what it writes
can be read back exactly when there is room for the header and the length can be
counted. -/
theorem writesDecodably_iff (segment : TcpPacket) (datagram : IPv4Packet) (out : List UInt8)
    (srcIpNet dstIpNet : UInt32) :
    (segment.WritesDecodably out (segment.write out srcIpNet dstIpNet) ↔
      out.length < segment.headerLen + segment.payload.length ∨ segment.HasHeaderRoom) ∧
    (segment.WritesDecodably out (segment.writePlain out) ↔
      out.length < segment.headerLen + segment.payload.length ∨ segment.HasHeaderRoom) ∧
    (datagram.header.version = 4 →
      (datagram.WritesDecodably out (datagram.write out) ↔
        out.length < datagram.total ∨ datagram.Countable)) :=
  ⟨segment.write_decodable_iff out srcIpNet dstIpNet, segment.writePlain_decodable_iff out,
    fun version => IPv4Packet.write_decodable_iff version out⟩

/-- A datagram with the shortest header. -/
def sampleDatagram : IPv4Packet := ⟨(IPv4Header.empty.setVersion 4).setIhl 5, [1, 2, 3]⟩

theorem sampleDatagram_writesDecodably :
    sampleDatagram.WritesDecodably (List.replicate 40 0)
      (sampleDatagram.write (List.replicate 40 0)) :=
  ((writesDecodably_iff ⟨.empty, []⟩ sampleDatagram (List.replicate 40 0) 0 0).2.2
    (by decide)).mpr (.inr ⟨by decide, by decide, by decide⟩)

/-- A header of version 4 with the IHL that it was created with. -/
def sampleDefaultIhl : IPv4Packet := ⟨IPv4Header.empty.setVersion 4, []⟩

/-- Room is made for 20 bytes, and the view takes all of them for payload. -/
theorem default_ihl_not_decodable :
    ¬ ((∀ (packet : TcpPacket) (out : List UInt8) (srcIpNet dstIpNet : UInt32),
        packet.WritesDecodably out (packet.write out srcIpNet dstIpNet)) ∧
      (∀ (packet : TcpPacket) (out : List UInt8),
        packet.WritesDecodably out (packet.writePlain out)) ∧
      (∀ (packet : IPv4Packet) (out : List UInt8), packet.header.version = 4 →
        packet.WritesDecodably out (packet.write out))) := by
  rintro ⟨_, _, always⟩
  have version : sampleDefaultIhl.header.version = 4 := by decide
  have decodable := always sampleDefaultIhl (List.replicate 20 0) version
  rcases (IPv4Packet.write_decodable_iff version _).mp decodable with small | countable
  · revert small
    decide
  · exact countable.some (by decide)

end TinyCP
