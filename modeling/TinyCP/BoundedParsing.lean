import TinyCP.SpanReads
import TinyCP.WellFormedDatagrams

/-!
# Parsing inside the buffer

The two views again, this time as spans of the one buffer that `process_incoming_packet_`
is given, with every byte they read. `valid` reads a field only after it has seen that
the fixed header is there, and it is what the other getters rely on.
-/
namespace TinyCP
open WireBytes SpanReads

/-- `total_length_ntoh() - header_length()` as a `size_t`. -/
def sizeDifference (total : UInt16) (header : UInt8) : Nat :=
  (((total.toNat : Int) - header.toNat) % 2 ^ 64).toNat

def readBE16 (bytes : Span) (offset : Nat) : Reading UInt8 UInt16 := do
  let high ← bytes.read offset
  let low ← bytes.read (offset + 1)
  pure (word16 high low)

def readBE32 (bytes : Span) (offset : Nat) : Reading UInt8 UInt32 := do
  let b₀ ← bytes.read offset
  let b₁ ← bytes.read (offset + 1)
  let b₂ ← bytes.read (offset + 2)
  let b₃ ← bytes.read (offset + 3)
  pure (word32 b₀ b₁ b₂ b₃)

/-- The getters of `IPv4PacketView`. -/
structure IPv4Span where
  bytes : Span

namespace IPv4Span

def version (view : IPv4Span) : Reading UInt8 UInt8 := do
  let first ← view.bytes.read 0
  pure (first >>> 4)

def headerLength (view : IPv4Span) : Reading UInt8 UInt8 := do
  let first ← view.bytes.read 0
  pure ((first &&& 0x0F) * 4)

def totalLengthNtoh (view : IPv4Span) : Reading UInt8 UInt16 := readBE16 view.bytes 2

def sourceAddressNtoh (view : IPv4Span) : Reading UInt8 UInt32 := readBE32 view.bytes 12

def destinationAddressNtoh (view : IPv4Span) : Reading UInt8 UInt32 := readBE32 view.bytes 16

def isVersion4 (view : IPv4Span) : Reading UInt8 Bool := do
  let version ← view.version
  pure (version = 4)

def coversHeader (view : IPv4Span) : Reading UInt8 Bool := do
  let total ← view.totalLengthNtoh
  let header ← view.headerLength
  pure (total.toNat ≥ header.toNat)

def fitsBuffer (view : IPv4Span) : Reading UInt8 Bool := do
  let total ← view.totalLengthNtoh
  pure (total.toNat ≤ view.bytes.size)

def valid (view : IPv4Span) : Reading UInt8 Bool :=
  (((pure (view.bytes.size ≥ 20) : Reading UInt8 Bool).andThen view.isVersion4).andThen
    view.coversHeader).andThen view.fitsBuffer

def payload (view : IPv4Span) : Reading UInt8 Span := do
  let offset ← view.headerLength
  let total ← view.totalLengthNtoh
  let header ← view.headerLength
  view.bytes.subspan offset.toNat (sizeDifference total header)

end IPv4Span

/-- The getters of `TcpPacketView`. -/
structure TcpSpan where
  bytes : Span

namespace TcpSpan

def sourcePortNtoh (view : TcpSpan) : Reading UInt8 UInt16 := readBE16 view.bytes 0

def destPortNtoh (view : TcpSpan) : Reading UInt8 UInt16 := readBE16 view.bytes 2

def seqNumNtoh (view : TcpSpan) : Reading UInt8 UInt32 := readBE32 view.bytes 4

def ackNumNtoh (view : TcpSpan) : Reading UInt8 UInt32 := readBE32 view.bytes 8

def headerLength (view : TcpSpan) : Reading UInt8 UInt8 := do
  let word ← readBE16 view.bytes 12
  pure ((word >>> 12).toUInt8 * 4)

def flag (view : TcpSpan) (bit : UInt16) : Reading UInt8 Bool := do
  let word ← readBE16 view.bytes 12
  pure (((word &&& 0x3F) >>> bit) &&& 1 ≠ 0)

def windowNtoh (view : TcpSpan) : Reading UInt8 UInt16 := readBE16 view.bytes 14

def hasHeader (view : TcpSpan) : Reading UInt8 Bool := do
  let header ← view.headerLength
  pure (header.toNat ≥ 20)

def fitsBuffer (view : TcpSpan) : Reading UInt8 Bool := do
  let header ← view.headerLength
  pure (header.toNat ≤ view.bytes.size)

def valid (view : TcpSpan) : Reading UInt8 Bool :=
  ((pure (view.bytes.size ≥ 20) : Reading UInt8 Bool).andThen view.hasHeader).andThen
    view.fitsBuffer

/-- The rest of the span from the end of the header on. -/
def payload (view : TcpSpan) : Reading UInt8 Span := do
  let header ← view.headerLength
  view.bytes.subspan header.toNat (view.bytes.size - header.toNat)

end TcpSpan

/-- What `process_incoming_packet_` has in hand, with the segment as a span. -/
structure ArrivedSpan where
  src : IPv4Address
  dst : IPv4Address
  packet : TcpSpan

/-- The parsing at the start of `process_incoming_packet_`. -/
def readIncoming (buffer : Span) : Reading UInt8 (Option ArrivedSpan) := do
  let tmp : IPv4Span := ⟨buffer⟩
  if !(← tmp.valid) then pure none else
    let packet : TcpSpan := ⟨← tmp.payload⟩
    if !(← packet.valid) then pure none else
      let srcAddress ← tmp.sourceAddressNtoh
      let srcPort ← packet.sourcePortNtoh
      let dstAddress ← tmp.destinationAddressNtoh
      let dstPort ← packet.destPortNtoh
      pure (some ⟨⟨srcAddress, srcPort⟩, ⟨dstAddress, dstPort⟩, packet⟩)

section Words
variable {s : Span} {buffer : List UInt8} {offset : Nat}

@[simp] theorem value_readBE16 (within : offset + 1 < s.size) :
    (readBE16 s offset).value buffer = be16 (s.contents buffer) offset := by
  simp only [readBE16, Reading.value_bind, Reading.value_pure, Span.value_read within,
    Span.value_read (Nat.lt_of_succ_lt within)]
  rfl

@[simp] theorem value_readBE32 (within : offset + 3 < s.size) :
    (readBE32 s offset).value buffer = be32 (s.contents buffer) offset := by
  have first : offset < s.size := by omega
  have second : offset + 1 < s.size := by omega
  have third : offset + 2 < s.size := by omega
  simp only [readBE32, Reading.value_bind, Reading.value_pure, Span.value_read within,
    Span.value_read first, Span.value_read second, Span.value_read third]
  rfl

theorem inBounds_readBE16 (inside : s.Inside buffer) (within : offset + 1 < s.size) :
    (readBE16 s offset).InBounds buffer := by
  simp only [readBE16, Reading.inBounds_bind, Reading.inBounds_pure, and_true]
  exact ⟨Span.inBounds_read inside (by omega), Span.inBounds_read inside within⟩

theorem inBounds_readBE32 (inside : s.Inside buffer) (within : offset + 3 < s.size) :
    (readBE32 s offset).InBounds buffer := by
  simp only [readBE32, Reading.inBounds_bind, Reading.inBounds_pure, and_true]
  exact ⟨Span.inBounds_read inside (by omega), Span.inBounds_read inside (by omega),
    Span.inBounds_read inside (by omega), Span.inBounds_read inside within⟩

end Words

/-- The subtraction does not wrap where the total length covers the header. -/
theorem sizeDifference_eq {total : UInt16} {header : UInt8} (covers : header.toNat ≤ total.toNat) :
    sizeDifference total header = total.toNat - header.toNat := by
  have bound := total.toNat_lt
  rw [sizeDifference]
  omega

namespace IPv4Span
variable {s : Span} {buffer : List UInt8}

theorem value_version (complete : 20 ≤ s.size) :
    (version ⟨s⟩).value buffer = (IPv4PacketView.mk (s.contents buffer)).version := by
  have first : 0 < s.size := by omega
  simp only [version, Reading.value_bind, Reading.value_pure, Span.value_read first]
  rfl

theorem value_headerLength (complete : 20 ≤ s.size) :
    (headerLength ⟨s⟩).value buffer = (IPv4PacketView.mk (s.contents buffer)).headerLength := by
  have first : 0 < s.size := by omega
  simp only [headerLength, Reading.value_bind, Reading.value_pure, Span.value_read first]
  rfl

theorem value_totalLengthNtoh (complete : 20 ≤ s.size) :
    (totalLengthNtoh ⟨s⟩).value buffer =
      (IPv4PacketView.mk (s.contents buffer)).totalLengthNtoh := by
  have second : 2 + 1 < s.size := by omega
  simp only [totalLengthNtoh, value_readBE16 second]
  rfl

/-- The values of the getters on a span are those of the view over its bytes. -/
theorem value_valid (inside : s.Inside buffer) :
    (valid ⟨s⟩).value buffer = (IPv4PacketView.mk (s.contents buffer)).valid := by
  rw [IPv4PacketView.valid, Span.length_contents inside]
  by_cases complete : 20 ≤ s.size
  · simp only [valid, isVersion4, coversHeader, fitsBuffer, Reading.value_andThen,
      Reading.value_bind, Reading.value_pure, value_version complete, value_headerLength complete,
      value_totalLengthNtoh complete]
  · simp [valid, complete]

theorem inBounds_headerLength (inside : s.Inside buffer) (complete : 20 ≤ s.size) :
    (headerLength ⟨s⟩).InBounds buffer := by
  simp only [headerLength, Reading.inBounds_bind, Reading.inBounds_pure, and_true]
  exact Span.inBounds_read inside (by omega)

theorem inBounds_totalLengthNtoh (inside : s.Inside buffer) (complete : 20 ≤ s.size) :
    (totalLengthNtoh ⟨s⟩).InBounds buffer :=
  inBounds_readBE16 inside (by change 2 + 1 < s.size; omega)

/-- Nothing is read of a span that is too short for the fixed header. -/
theorem inBounds_valid (inside : s.Inside buffer) : (valid ⟨s⟩).InBounds buffer := by
  by_cases complete : 20 ≤ s.size
  · refine Reading.inBounds_andThen (Reading.inBounds_andThen (Reading.inBounds_andThen
      (Reading.inBounds_pure _ _) fun _ => ?_) fun _ => ?_) fun _ => ?_
    · simp only [isVersion4, version, Reading.inBounds_bind, Reading.inBounds_pure, and_true]
      exact Span.inBounds_read inside (by omega)
    · simp only [coversHeader, Reading.inBounds_bind, Reading.inBounds_pure, and_true]
      exact ⟨inBounds_totalLengthNtoh inside complete, inBounds_headerLength inside complete⟩
    · simp only [fitsBuffer, Reading.inBounds_bind, Reading.inBounds_pure, and_true]
      exact inBounds_totalLengthNtoh inside complete
  · refine Reading.inBounds_andThen (Reading.inBounds_andThen (Reading.inBounds_andThen
      (Reading.inBounds_pure _ _) ?_) ?_) ?_ <;>
    · intro holds
      simp [complete] at holds

/-- The payload of a valid view. -/
theorem payload_of_valid (inside : s.Inside buffer)
    (valid : (IPv4PacketView.mk (s.contents buffer)).valid) :
    (payload ⟨s⟩).InBounds buffer ∧
    ((payload ⟨s⟩).value buffer).Inside buffer ∧
    (payload ⟨s⟩).value buffer = ⟨s.start + headerLengthOf (s.contents buffer),
      totalLengthOf (s.contents buffer) - headerLengthOf (s.contents buffer)⟩ ∧
    ((payload ⟨s⟩).value buffer).contents buffer =
      (IPv4PacketView.mk (s.contents buffer)).payload := by
  obtain ⟨complete, _, covers, fits⟩ := (IPv4PacketView.valid_iff _).mp valid
  rw [Span.length_contents inside] at complete fits
  have difference : sizeDifference (IPv4PacketView.mk (s.contents buffer)).totalLengthNtoh
      (IPv4PacketView.mk (s.contents buffer)).headerLength =
      totalLengthOf (s.contents buffer) - headerLengthOf (s.contents buffer) := by
    rw [sizeDifference_eq, IPv4PacketView.toNat_totalLengthNtoh,
      IPv4PacketView.toNat_headerLength]
    rw [IPv4PacketView.toNat_totalLengthNtoh, IPv4PacketView.toNat_headerLength]
    exact covers
  have value : (payload ⟨s⟩).value buffer = ⟨s.start + headerLengthOf (s.contents buffer),
      totalLengthOf (s.contents buffer) - headerLengthOf (s.contents buffer)⟩ := by
    simp only [payload, Reading.value_bind, Span.value_subspan, value_headerLength complete,
      value_totalLengthNtoh complete, difference, IPv4PacketView.toNat_headerLength]
  have within : headerLengthOf (s.contents buffer) +
      (totalLengthOf (s.contents buffer) - headerLengthOf (s.contents buffer)) ≤ s.size := by
    omega
  refine ⟨?_, ?_, value, ?_⟩
  · simp only [payload, Reading.inBounds_bind, value_headerLength complete,
      value_totalLengthNtoh complete, difference, IPv4PacketView.toNat_headerLength]
    exact ⟨inBounds_headerLength inside complete, inBounds_totalLengthNtoh inside complete,
      inBounds_headerLength inside complete, Span.inBounds_subspan inside within⟩
  · rw [value]
    exact Span.inside_subspan inside within
  · rw [value, Span.contents_subspan within, IPv4PacketView.payload,
      IPv4PacketView.toNat_headerLength, IPv4PacketView.toNat_totalLengthNtoh]

end IPv4Span

/-- The length of a TCP header as its bytes give it. -/
def dataOffsetOf (b : List UInt8) : Nat := 4 * ((b.getD 12 0).toNat / 16)

theorem TcpPacketView.toNat_headerLength (b : List UInt8) :
    (TcpPacketView.mk b).headerLength.toNat = dataOffsetOf b := by
  have high := (b.getD 12 0).toNat_lt
  have low := (b.getD (12 + 1) 0).toNat_lt
  rw [headerLength, dataOffset, controlWord, UInt8.toNat_mul, UInt16.toNat_toUInt8,
    UInt16.toNat_shiftRight, be16, toNat_word16, Nat.shiftRight_eq_div_pow, dataOffsetOf]
  change (256 * (b.getD 12 0).toNat + (b.getD (12 + 1) 0).toNat) / 4096 % 256 * 4 % 256 = _
  omega

namespace TcpSpan
variable {s : Span} {buffer : List UInt8}

/-- The getters that the handlers call on a segment. -/
structure GettersInBounds (view : TcpSpan) (buffer : List UInt8) : Prop where
  seqNum : view.seqNumNtoh.InBounds buffer
  ackNum : view.ackNumNtoh.InBounds buffer
  flag : ∀ bit, (view.flag bit).InBounds buffer
  window : view.windowNtoh.InBounds buffer
  payload : view.payload.InBounds buffer

theorem value_headerLength (complete : 20 ≤ s.size) :
    (headerLength ⟨s⟩).value buffer = (TcpPacketView.mk (s.contents buffer)).headerLength := by
  have within : 12 + 1 < s.size := by omega
  simp only [headerLength, Reading.value_bind, Reading.value_pure, value_readBE16 within]
  rfl

theorem value_valid (inside : s.Inside buffer) :
    (valid ⟨s⟩).value buffer = (TcpPacketView.mk (s.contents buffer)).valid := by
  rw [TcpPacketView.valid, Span.length_contents inside]
  by_cases complete : 20 ≤ s.size
  · simp only [valid, hasHeader, fitsBuffer, Reading.value_andThen, Reading.value_bind,
      Reading.value_pure, value_headerLength complete]
  · simp [valid, complete]

theorem inBounds_headerLength (inside : s.Inside buffer) (complete : 20 ≤ s.size) :
    (headerLength ⟨s⟩).InBounds buffer := by
  simp only [headerLength, Reading.inBounds_bind, Reading.inBounds_pure, and_true]
  exact inBounds_readBE16 inside (by omega)

theorem inBounds_valid (inside : s.Inside buffer) : (valid ⟨s⟩).InBounds buffer := by
  by_cases complete : 20 ≤ s.size
  · refine Reading.inBounds_andThen (Reading.inBounds_andThen (Reading.inBounds_pure _ _)
      fun _ => ?_) fun _ => ?_
    · simp only [hasHeader, Reading.inBounds_bind, Reading.inBounds_pure, and_true]
      exact inBounds_headerLength inside complete
    · simp only [fitsBuffer, Reading.inBounds_bind, Reading.inBounds_pure, and_true]
      exact inBounds_headerLength inside complete
  · refine Reading.inBounds_andThen (Reading.inBounds_andThen (Reading.inBounds_pure _ _) ?_) ?_ <;>
    · intro holds
      simp [complete] at holds

/-- Where the payload of a valid segment lies. -/
theorem value_payload (complete : 20 ≤ s.size) :
    (payload ⟨s⟩).value buffer = ⟨s.start + dataOffsetOf (s.contents buffer),
      s.size - dataOffsetOf (s.contents buffer)⟩ := by
  simp only [payload, Reading.value_bind, Span.value_subspan, value_headerLength complete,
    TcpPacketView.toNat_headerLength]

theorem gettersInBounds (inside : s.Inside buffer) (complete : 20 ≤ s.size)
    (fits : dataOffsetOf (s.contents buffer) ≤ s.size) : GettersInBounds ⟨s⟩ buffer where
  seqNum := inBounds_readBE32 inside (by change 4 + 3 < s.size; omega)
  ackNum := inBounds_readBE32 inside (by change 8 + 3 < s.size; omega)
  flag bit := by
    simp only [flag, Reading.inBounds_bind, Reading.inBounds_pure, and_true]
    exact inBounds_readBE16 inside (by omega)
  window := inBounds_readBE16 inside (by change 14 + 1 < s.size; omega)
  payload := by
    simp only [payload, Reading.inBounds_bind, value_headerLength complete,
      TcpPacketView.toNat_headerLength]
    exact ⟨inBounds_headerLength inside complete, Span.inBounds_subspan inside (by omega)⟩

end TcpSpan

/-- The segment that the handlers see. -/
def ArrivedSpan.arrived (a : ArrivedSpan) (buffer : List UInt8) : Arrived :=
  ⟨a.src, a.dst, ⟨a.packet.bytes.contents buffer⟩⟩

theorem contents_whole (buffer : List UInt8) :
    (Span.mk 0 buffer.length).contents buffer = buffer := List.take_length

/-- The bytes between the IPv4 header and the end of the datagram. -/
def segmentSpan (buffer : List UInt8) : Span :=
  ⟨headerLengthOf buffer, totalLengthOf buffer - headerLengthOf buffer⟩

theorem payload_whole {buffer : List UInt8} (valid : (IPv4PacketView.mk buffer).valid) :
    (IPv4Span.payload ⟨⟨0, buffer.length⟩⟩).InBounds buffer ∧
    (segmentSpan buffer).Inside buffer ∧
    (IPv4Span.payload ⟨⟨0, buffer.length⟩⟩).value buffer = segmentSpan buffer ∧
    (segmentSpan buffer).contents buffer = (IPv4PacketView.mk buffer).payload := by
  have inside : (Span.mk 0 buffer.length).Inside buffer := Nat.le_of_eq (Nat.zero_add _)
  have facts := @IPv4Span.payload_of_valid ⟨0, buffer.length⟩ buffer inside
  rw [contents_whole, Nat.zero_add] at facts
  obtain ⟨reads, within, value, contents⟩ := facts valid
  rw [value] at within contents
  exact ⟨reads, within, value, contents⟩

/-- The parsing stays in the buffer and has the outcome that the views have on its bytes. -/
structure ReadsTo (buffer : List UInt8) (outcome : Option ArrivedSpan) : Prop where
  inBounds : (readIncoming ⟨0, buffer.length⟩).InBounds buffer
  value : (readIncoming ⟨0, buffer.length⟩).value buffer = outcome
  agrees : outcome.map (·.arrived buffer) = parseIncoming buffer

section Outcomes
variable {buffer : List UInt8}

theorem inside_whole (buffer : List UInt8) : (Span.mk 0 buffer.length).Inside buffer :=
  Nat.le_of_eq (Nat.zero_add _)

theorem value_valid_whole (buffer : List UInt8) :
    (IPv4Span.valid ⟨⟨0, buffer.length⟩⟩).value buffer = (IPv4PacketView.mk buffer).valid := by
  rw [IPv4Span.value_valid (inside_whole buffer), contents_whole]

theorem readsTo_of_invalid (invalid : (IPv4PacketView.mk buffer).valid = false) :
    ReadsTo buffer none where
  inBounds := by
    simp only [readIncoming, Reading.inBounds_bind, value_valid_whole, invalid, Bool.not_false,
      if_true, Reading.inBounds_pure, and_true]
    exact IPv4Span.inBounds_valid (inside_whole buffer)
  value := by
    simp only [readIncoming, Reading.value_bind, value_valid_whole, invalid, Bool.not_false,
      if_true, Reading.value_pure]
  agrees := by
    simp only [parseIncoming, invalid, Bool.not_false, if_true, Option.map_none]

theorem readsTo_of_invalidTcp (valid : (IPv4PacketView.mk buffer).valid = true)
    (invalid : (TcpPacketView.mk (IPv4PacketView.mk buffer).payload).valid = false) :
    ReadsTo buffer none := by
  obtain ⟨reads, within, value, contents⟩ := payload_whole valid
  have inner := TcpSpan.value_valid within
  rw [contents, invalid] at inner
  constructor
  · simp only [readIncoming, Reading.inBounds_bind, value_valid_whole, valid, Bool.not_true,
      Bool.false_eq_true, if_false, value, inner, Bool.not_false, if_true, Reading.inBounds_pure,
      and_true]
    exact ⟨IPv4Span.inBounds_valid (inside_whole buffer), reads, TcpSpan.inBounds_valid within⟩
  · simp only [readIncoming, Reading.value_bind, value_valid_whole, valid, Bool.not_true,
      Bool.false_eq_true, if_false, value, inner, Bool.not_false, if_true, Reading.value_pure]
  · simp only [parseIncoming, valid, invalid, Bool.not_true, Bool.false_eq_true, if_false,
      Bool.not_false, if_true, Option.map_none]

/-- What both checks let through. -/
def acceptedSpan (buffer : List UInt8) : ArrivedSpan where
  src := ⟨(IPv4PacketView.mk buffer).sourceAddressNtoh,
    (TcpPacketView.mk (IPv4PacketView.mk buffer).payload).sourcePortNtoh⟩
  dst := ⟨(IPv4PacketView.mk buffer).destinationAddressNtoh,
    (TcpPacketView.mk (IPv4PacketView.mk buffer).payload).destPortNtoh⟩
  packet := ⟨segmentSpan buffer⟩

theorem readsTo_of_valid (valid : (IPv4PacketView.mk buffer).valid = true)
    (validTcp : (TcpPacketView.mk (IPv4PacketView.mk buffer).payload).valid = true)
    (size : 20 ≤ (segmentSpan buffer).size) : ReadsTo buffer (some (acceptedSpan buffer)) := by
  obtain ⟨reads, within, value, contents⟩ := payload_whole valid
  have inner := TcpSpan.value_valid within
  rw [contents, validTcp] at inner
  have complete := ((IPv4PacketView.valid_iff buffer).mp valid).1
  have source : 12 + 3 < (Span.mk 0 buffer.length).size := by
    change 15 < buffer.length
    omega
  have destination : 16 + 3 < (Span.mk 0 buffer.length).size := by
    change 19 < buffer.length
    omega
  have sourcePort : 0 + 1 < (segmentSpan buffer).size := by omega
  have destPort : 2 + 1 < (segmentSpan buffer).size := by omega
  constructor
  · simp only [readIncoming, Reading.inBounds_bind, value_valid_whole, valid, Bool.not_true,
      Bool.false_eq_true, if_false, value, inner, Reading.inBounds_pure, and_true]
    exact ⟨IPv4Span.inBounds_valid (inside_whole buffer), reads, TcpSpan.inBounds_valid within,
      inBounds_readBE32 (inside_whole buffer) source, inBounds_readBE16 within sourcePort,
      inBounds_readBE32 (inside_whole buffer) destination, inBounds_readBE16 within destPort⟩
  · simp only [readIncoming, Reading.value_bind, value_valid_whole, valid, Bool.not_true,
      Bool.false_eq_true, if_false, value, inner, IPv4Span.sourceAddressNtoh,
      IPv4Span.destinationAddressNtoh, TcpSpan.sourcePortNtoh, TcpSpan.destPortNtoh,
      value_readBE32 source, value_readBE32 destination, value_readBE16 sourcePort,
      value_readBE16 destPort, Reading.value_pure, contents_whole, contents]
    rfl
  · rw [parseIncoming_of_valid valid validTcp, Option.map_some, ArrivedSpan.arrived, acceptedSpan,
      contents]

end Outcomes

/-- The segment of an accepted buffer is long enough for what it claims. -/
theorem dataOffset_fits {buffer : List UInt8} (valid : (IPv4PacketView.mk buffer).valid)
    (validTcp : (TcpPacketView.mk (IPv4PacketView.mk buffer).payload).valid) :
    20 ≤ (segmentSpan buffer).size ∧
    dataOffsetOf ((segmentSpan buffer).contents buffer) ≤ (segmentSpan buffer).size := by
  obtain ⟨_, within, _, contents⟩ := payload_whole valid
  rw [← contents] at validTcp
  simp only [TcpPacketView.valid, Bool.and_eq_true, decide_eq_true_eq, Span.length_contents within,
    TcpPacketView.toNat_headerLength] at validTcp
  exact ⟨validTcp.1.1, validTcp.2⟩

/-- The data offset is read behind the IPv4 header. -/
theorem dataOffsetOf_segment {buffer : List UInt8} (size : 20 ≤ (segmentSpan buffer).size) :
    dataOffsetOf ((segmentSpan buffer).contents buffer) =
      4 * ((buffer.getD (headerLengthOf buffer + 12) 0).toNat / 16) := by
  have read : ((segmentSpan buffer).read 12).value buffer =
      ((segmentSpan buffer).contents buffer).getD 12 default := Span.value_read (by omega)
  change buffer.getD (headerLengthOf buffer + 12) 0 =
    ((segmentSpan buffer).contents buffer).getD 12 0 at read
  rw [dataOffsetOf, ← read]

/-- The IHL and the data offset, in bytes. -/
def payloadOffsetOf (buffer : List UInt8) : Nat :=
  headerLengthOf buffer + 4 * ((buffer.getD (headerLengthOf buffer + 12) 0).toNat / 16)

/-- The payload of a segment is the rest of the datagram behind both headers, and it is what
the handlers are given. -/
structure PayloadExtent (buffer : List UInt8) (view : TcpSpan) : Prop where
  covers : payloadOffsetOf buffer ≤ totalLengthOf buffer
  inside : totalLengthOf buffer ≤ buffer.length
  span : view.payload.value buffer =
    ⟨payloadOffsetOf buffer, totalLengthOf buffer - payloadOffsetOf buffer⟩
  contents : (view.payload.value buffer).contents buffer =
    (buffer.take (totalLengthOf buffer)).drop (payloadOffsetOf buffer)
  handed : (view.payload.value buffer).contents buffer =
    (TcpPacketView.mk (view.bytes.contents buffer)).payload

theorem payloadExtent_of_valid {buffer : List UInt8} (valid : (IPv4PacketView.mk buffer).valid)
    (validTcp : (TcpPacketView.mk (IPv4PacketView.mk buffer).payload).valid) :
    PayloadExtent buffer ⟨segmentSpan buffer⟩ := by
  obtain ⟨size, fits⟩ := dataOffset_fits valid validTcp
  obtain ⟨_, within, _, _⟩ := payload_whole valid
  have total := ((IPv4PacketView.valid_iff buffer).mp valid).2.2
  have span := @TcpSpan.value_payload (segmentSpan buffer) buffer size
  have length := Span.length_contents within
  have room : dataOffsetOf ((segmentSpan buffer).contents buffer) ≤
      totalLengthOf buffer - headerLengthOf buffer := fits
  have cut : ∀ {n : Nat}, n = dataOffsetOf ((segmentSpan buffer).contents buffer) →
      Span.contents ⟨headerLengthOf buffer + n, (segmentSpan buffer).size - n⟩ buffer =
        ((segmentSpan buffer).contents buffer).drop n := by
    rintro n rfl
    have part := @Span.contents_subspan _ (segmentSpan buffer) buffer _
      ((segmentSpan buffer).size - dataOffsetOf ((segmentSpan buffer).contents buffer))
      (show dataOffsetOf ((segmentSpan buffer).contents buffer) + _ ≤ _ by omega)
    refine part.trans (List.take_of_length_le ?_)
    rw [List.length_drop, length]
  have segment : (segmentSpan buffer).contents buffer =
      (buffer.take (totalLengthOf buffer)).drop (headerLengthOf buffer) := by
    rw [List.drop_take]
    rfl
  have start : payloadOffsetOf buffer =
      headerLengthOf buffer + dataOffsetOf ((segmentSpan buffer).contents buffer) := by
    rw [dataOffsetOf_segment size, payloadOffsetOf]
  refine ⟨by omega, total.2, ?_, ?_, ?_⟩
  · rw [span, start, Nat.sub_add_eq]
    rfl
  · rw [span]
    refine (cut rfl).trans ?_
    rw [start, ← List.drop_drop, ← segment]
  · rw [span, TcpPacketView.payload, TcpPacketView.toNat_headerLength]
    exact cut rfl

/-- Every byte that is read of a buffer, whatever it holds, lies inside it, and so does every
span that is cut; and the payload that the handlers are given lies between the two headers
and the end of the datagram. -/
theorem parsing_in_bounds (buffer : List UInt8) :
    (readIncoming ⟨0, buffer.length⟩).InBounds buffer ∧
    ((readIncoming ⟨0, buffer.length⟩).value buffer).map (·.arrived buffer) =
      parseIncoming buffer ∧
    ∀ a, (readIncoming ⟨0, buffer.length⟩).value buffer = some a →
      a.packet.GettersInBounds buffer ∧ PayloadExtent buffer a.packet := by
  cases valid : (IPv4PacketView.mk buffer).valid with
  | false =>
    obtain ⟨inBounds, value, agrees⟩ := readsTo_of_invalid valid
    refine ⟨inBounds, value ▸ agrees, fun a arrived => ?_⟩
    rw [value] at arrived
    cases arrived
  | true =>
    cases validTcp : (TcpPacketView.mk (IPv4PacketView.mk buffer).payload).valid with
    | false =>
      obtain ⟨inBounds, value, agrees⟩ := readsTo_of_invalidTcp valid validTcp
      refine ⟨inBounds, value ▸ agrees, fun a arrived => ?_⟩
      rw [value] at arrived
      cases arrived
    | true =>
      obtain ⟨_, within, _, _⟩ := payload_whole valid
      obtain ⟨size, fits⟩ := dataOffset_fits valid validTcp
      obtain ⟨inBounds, value, agrees⟩ := readsTo_of_valid valid validTcp size
      refine ⟨inBounds, value ▸ agrees, fun a arrived => ?_⟩
      rw [value] at arrived
      obtain rfl := Option.some.inj arrived
      exact ⟨TcpSpan.gettersInBounds within size fits, payloadExtent_of_valid valid validTcp⟩

end TinyCP
