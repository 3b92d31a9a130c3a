import TinyCP.FuelLoop
import TinyCP.WellFormedDatagrams

/-!
# Reading a capture file

The reader of `--file` parses what is left of the file, dumps the datagram and moves on by
its total length. The view lets a total length of zero through, together with an IHL of
zero, and then the reader does not move.
-/
namespace TinyCP
open FuelLoop

structure DumpState where
  offset : Nat
  packetCount : Nat
  dumped : List IPv4PacketView

/-- What was dumped, and the number of trailing bytes if the reader complains of any. -/
structure DumpReport where
  packetCount : Nat
  dumped : List IPv4PacketView
  skipped : Option Nat

/-- One round of the loop of `DumpFromFile`. -/
def dumpRound (data : List UInt8) (s : DumpState) : DumpState ⊕ DumpReport :=
  if s.offset < data.length then
    match IPv4PacketView.parse (data.drop s.offset) with
    | none => .inr ⟨s.packetCount, s.dumped, some (data.length - s.offset)⟩
    | some packet =>
      .inl ⟨s.offset + packet.totalLengthNtoh.toNat, s.packetCount + 1, s.dumped ++ [packet]⟩
  else .inr ⟨s.packetCount, s.dumped, none⟩

/-- `DumpFromFile` on a file with this content ends with this report. -/
def DumpsFromFile (data : List UInt8) (report : DumpReport) : Prop :=
  Returns (dumpRound data) ⟨0, 0, []⟩ report

/-- The bytes of a dumped datagram. -/
def IPv4PacketView.datagram (view : IPv4PacketView) : List UInt8 :=
  view.bytes.take view.totalLengthNtoh.toNat

/-- The datagrams lie in the file one after the other from its start, and the trailing
bytes are the rest of it. -/
structure Replays (data : List UInt8) (report : DumpReport) : Prop where
  covers : ∃ rest, (report.dumped.map IPv4PacketView.datagram).flatten ++ rest = data ∧
    rest.length = report.skipped.getD 0
  positive : ∀ packet ∈ report.dumped, 0 < packet.datagram.length
  count : report.packetCount = report.dumped.length

/-- Stepping over datagrams from the start of these bytes one comes to one of version 4
with neither a header length nor a total length. -/
inductive MeetsEmptyDatagram : List UInt8 → Prop where
  | here {bytes : List UInt8} (complete : 20 ≤ bytes.length) (versionIhl : bytes.getD 0 0 = 0x40)
      (empty : totalLengthOf bytes = 0) : MeetsEmptyDatagram bytes
  | later {bytes : List UInt8} (valid : (IPv4PacketView.mk bytes).valid)
      (rest : MeetsEmptyDatagram (bytes.drop (totalLengthOf bytes))) : MeetsEmptyDatagram bytes

/-- A datagram without a single byte that the view accepts has no header either. -/
theorem empty_of_valid {bytes : List UInt8} (valid : (IPv4PacketView.mk bytes).valid)
    (empty : totalLengthOf bytes = 0) : MeetsEmptyDatagram bytes := by
  obtain ⟨complete, version, total, _⟩ := (IPv4PacketView.valid_iff bytes).mp valid
  refine .here complete ?_ empty
  rw [versionOf] at version
  rw [empty, headerLengthOf] at total
  apply UInt8.toNat_inj.mp
  change (bytes.getD 0 0).toNat = 64
  omega

theorem valid_of_empty {bytes : List UInt8} (complete : 20 ≤ bytes.length)
    (versionIhl : bytes.getD 0 0 = 0x40) (empty : totalLengthOf bytes = 0) :
    (IPv4PacketView.mk bytes).valid := by
  have version : versionOf bytes = 4 := by
    rw [versionOf, versionIhl]
    rfl
  have header : headerLengthOf bytes = 0 := by
    rw [headerLengthOf, versionIhl]
    rfl
  refine (IPv4PacketView.valid_iff bytes).mpr ⟨complete, version, ?_, ?_⟩
  · rw [header, empty]
  · rw [empty]
    exact Nat.zero_le _

/-- A round that goes on has dumped a datagram that the view accepts. -/
theorem dumpRound_valid {data : List UInt8} {s : DumpState}
    (valid : (IPv4PacketView.mk (data.drop s.offset)).valid) :
    dumpRound data s = .inl ⟨s.offset + totalLengthOf (data.drop s.offset), s.packetCount + 1,
      s.dumped ++ [⟨data.drop s.offset⟩]⟩ := by
  have parsed := IPv4PacketView.parse_eq_some_iff.mpr ⟨valid, rfl⟩
  have inside : s.offset < data.length := by
    have complete := ((IPv4PacketView.valid_iff _).mp valid).1
    rw [List.length_drop] at complete
    omega
  simp only [dumpRound, if_pos inside, parsed, IPv4PacketView.toNat_totalLengthNtoh]

theorem dumpRound_invalid {data : List UInt8} {s : DumpState}
    (invalid : ¬ (IPv4PacketView.mk (data.drop s.offset)).valid) :
    dumpRound data s = .inr ⟨s.packetCount, s.dumped,
      if s.offset < data.length then some (data.length - s.offset) else none⟩ := by
  have parsed : IPv4PacketView.parse (data.drop s.offset) = none := by
    rw [IPv4PacketView.parse, if_pos (by simpa using invalid)]
  rw [dumpRound, parsed]
  split_ifs <;> rfl

/-- Before a round: what was dumped covers the file up to the offset. -/
structure Replaying (data : List UInt8) (s : DumpState) : Prop where
  inside : s.offset ≤ data.length
  covers : (s.dumped.map IPv4PacketView.datagram).flatten = data.take s.offset
  positive : ∀ packet ∈ s.dumped, 0 < packet.datagram.length
  count : s.packetCount = s.dumped.length
  moves : ¬ MeetsEmptyDatagram (data.drop s.offset)

theorem Replaying.round {data : List UInt8} {s next : DumpState} (h : Replaying data s)
    (stays : dumpRound data s = .inl next) :
    Replaying data next ∧ data.length - next.offset < data.length - s.offset := by
  have valid : (IPv4PacketView.mk (data.drop s.offset)).valid := by
    by_contra invalid
    rw [dumpRound_invalid invalid] at stays
    cases stays
  rw [dumpRound_valid valid] at stays
  obtain rfl := Sum.inl.inj stays
  have total := ((IPv4PacketView.valid_iff _).mp valid).2.2.2
  have some : totalLengthOf (data.drop s.offset) ≠ 0 := fun none =>
    h.moves (empty_of_valid valid none)
  have slice : (IPv4PacketView.mk (data.drop s.offset)).datagram =
      (data.drop s.offset).take (totalLengthOf (data.drop s.offset)) := by
    rw [IPv4PacketView.datagram, IPv4PacketView.toNat_totalLengthNtoh]
  have room := total
  rw [List.length_drop] at room
  refine ⟨⟨by change s.offset + _ ≤ _; omega, ?_, ?_, ?_, ?_⟩, by change _ - (s.offset + _) < _; omega⟩
  · rw [List.map_append, List.flatten_append, h.covers, List.map_singleton, List.flatten_singleton,
      slice, List.take_add]
  · intro packet member
    rcases List.mem_append.mp member with before | last
    · exact h.positive packet before
    · rw [List.mem_singleton.mp last, slice, List.length_take, Nat.min_eq_left total]
      exact Nat.pos_of_ne_zero some
  · rw [List.length_append, ← h.count]
    rfl
  · intro meets
    rw [← List.drop_drop] at meets
    exact h.moves (.later valid meets)

theorem Replaying.exit {data : List UInt8} {s : DumpState} {report : DumpReport}
    (h : Replaying data s) (leaves : dumpRound data s = .inr report) : Replays data report := by
  have invalid : ¬ (IPv4PacketView.mk (data.drop s.offset)).valid := by
    intro valid
    rw [dumpRound_valid valid] at leaves
    cases leaves
  rw [dumpRound_invalid invalid] at leaves
  obtain rfl := Sum.inr.inj leaves
  refine ⟨⟨data.drop s.offset, ?_, ?_⟩, h.positive, h.count⟩
  · rw [h.covers, List.take_append_drop]
  · have inside := h.inside
    rw [List.length_drop]
    split_ifs with more
    · rfl
    · change data.length - s.offset = 0
      omega

/-- At an empty datagram, or on the way to one, the reader goes on. -/
theorem dumpRound_meets {data : List UInt8} (s : DumpState)
    (meets : MeetsEmptyDatagram (data.drop s.offset)) :
    ∃ next, dumpRound data s = .inl next ∧ MeetsEmptyDatagram (data.drop next.offset) := by
  cases meets with
  | here complete versionIhl empty =>
    refine ⟨_, dumpRound_valid (valid_of_empty complete versionIhl empty), ?_⟩
    rw [empty, Nat.add_zero]
    exact .here complete versionIhl empty
  | later valid rest =>
    refine ⟨_, dumpRound_valid valid, ?_⟩
    rw [List.drop_drop] at rest
    exact rest

theorem not_dumps_of_meets {data : List UInt8} (meets : MeetsEmptyDatagram data)
    (report : DumpReport) : ¬ DumpsFromFile data report :=
  not_returns_of_closed (fun s : DumpState => MeetsEmptyDatagram (data.drop s.offset))
    dumpRound_meets (s := ⟨0, 0, []⟩) meets report

/-- For every file: the reader ends, having cut the file into datagrams, if and only if it
does not come to an empty datagram. -/
theorem dumpsFromFile_iff (data : List UInt8) :
    (∃ report, DumpsFromFile data report ∧ Replays data report) ↔ ¬ MeetsEmptyDatagram data := by
  constructor
  · rintro ⟨report, ends, _⟩ meets
    exact not_dumps_of_meets meets report ends
  · intro moves
    refine returns_of_decreasing (Replaying data) (fun s => data.length - s.offset)
      (fun _ _ kept stays => kept.round stays) (fun _ _ kept leaves => kept.exit leaves) ?_
    refine ⟨Nat.zero_le _, rfl, ?_, rfl, moves⟩
    intro packet none
    cases none

/-- A first byte of 0x40 and nineteen zeros. -/
def sampleEmptyDatagram : List UInt8 := 0x40 :: List.replicate 19 0

/-- The reader dumps the first zero bytes of it again and again. -/
theorem empty_datagram_replayed_forever :
    ¬ ∀ data : List UInt8, ∃ report, DumpsFromFile data report ∧ Replays data report := by
  intro always
  obtain ⟨report, ends, _⟩ := always sampleEmptyDatagram
  have meets : MeetsEmptyDatagram sampleEmptyDatagram := .here (by decide) (by decide) (by decide)
  exact not_dumps_of_meets meets report ends

end TinyCP
