import TinyCP.PacketViews
import TinyCP.ChecksumSums

/-!
# What counts as a datagram

A well-formed datagram has at least the 20 bytes of a header, of version 4, an IHL that
covers these bytes, and a total length between the header and the buffer. The view
checks everything but the IHL.
-/
namespace TinyCP
open WireBytes

/-- The fields by which the extent of a datagram is decided. -/
def versionOf (b : List UInt8) : Nat := (b.getD 0 0).toNat / 16

def headerLengthOf (b : List UInt8) : Nat := 4 * ((b.getD 0 0).toNat % 16)

def totalLengthOf (b : List UInt8) : Nat := 256 * (b.getD 2 0).toNat + (b.getD 3 0).toNat

structure WellFormed (b : List UInt8) : Prop where
  complete : 20 ≤ b.length
  version : versionOf b = 4
  header : 20 ≤ headerLengthOf b
  total : headerLengthOf b ≤ totalLengthOf b
  inside : totalLengthOf b ≤ b.length

/-- An IHL below five, in a datagram that is in order otherwise. -/
structure HasShortHeader (b : List UInt8) : Prop where
  complete : 20 ≤ b.length
  version : versionOf b = 4
  short : headerLengthOf b < 20
  total : headerLengthOf b ≤ totalLengthOf b
  inside : totalLengthOf b ≤ b.length

/-- The payload is what lies between the header and the end of the datagram, and none of
it is among the 20 fixed bytes. -/
structure ParsesExactly (b : List UInt8) : Prop where
  accepts : (IPv4PacketView.parse b).isSome ↔ WellFormed b
  payload : ∀ view, IPv4PacketView.parse b = some view →
    view.payload = (b.take (totalLengthOf b)).drop (headerLengthOf b)
  disjoint : ∀ view, IPv4PacketView.parse b = some view →
    ∀ i, headerLengthOf b ≤ i → i < totalLengthOf b → 20 ≤ i

namespace IPv4PacketView
variable (b : List UInt8)

theorem version_eq_iff : (mk b).version = 4 ↔ versionOf b = 4 := by
  rw [version, versionOf, ← UInt8.toNat_inj, UInt8.toNat_shiftRight, Nat.shiftRight_eq_div_pow]
  exact Iff.rfl

theorem toNat_headerLength : (mk b).headerLength.toNat = headerLengthOf b := by
  have low : ((b.getD 0 0) &&& (0x0F : UInt8)).toNat = (b.getD 0 0).toNat % 16 :=
    toNat_masked8 _ 4 rfl
  rw [headerLength, ihl, UInt8.toNat_mul, low, headerLengthOf]
  change (b.getD 0 0).toNat % 16 * 4 % 256 = _
  omega

theorem toNat_totalLengthNtoh : (mk b).totalLengthNtoh.toNat = totalLengthOf b :=
  toNat_word16 _ _

theorem valid_iff : (mk b).valid ↔
    20 ≤ b.length ∧ versionOf b = 4 ∧ headerLengthOf b ≤ totalLengthOf b ∧
      totalLengthOf b ≤ b.length := by
  simp only [valid, toNat_headerLength, toNat_totalLengthNtoh, Bool.and_eq_true,
    decide_eq_true_eq, version_eq_iff, ge_iff_le, and_assoc]

theorem parse_isSome_iff : (parse b).isSome ↔ (mk b).valid := by
  rw [Option.isSome_iff_exists]
  constructor
  · rintro ⟨view, parsed⟩
    exact (parse_eq_some_iff.mp parsed).1
  · intro valid
    exact ⟨_, parse_eq_some_iff.mpr ⟨valid, rfl⟩⟩

/-- The view accepts the well-formed datagrams and those with a short header. -/
theorem valid_iff_wellFormed_or : (mk b).valid ↔ WellFormed b ∨ HasShortHeader b := by
  rw [valid_iff]
  constructor
  · rintro ⟨complete, version, total, inside⟩
    rcases Nat.lt_or_ge (headerLengthOf b) 20 with short | header
    · exact .inr ⟨complete, version, short, total, inside⟩
    · exact .inl ⟨complete, version, header, total, inside⟩
  · rintro (h | h)
    · exact ⟨h.complete, h.version, h.total, h.inside⟩
    · exact ⟨h.complete, h.version, h.total, h.inside⟩

theorem payload_eq : (mk b).payload = (b.take (totalLengthOf b)).drop (headerLengthOf b) := by
  rw [payload, toNat_headerLength, toNat_totalLengthNtoh, List.drop_take]

end IPv4PacketView

/-- Exactly the datagrams with a short header are taken for well-formed ones. -/
theorem parsesExactly_iff (b : List UInt8) : ParsesExactly b ↔ ¬ HasShortHeader b := by
  constructor
  · intro exact short
    have valid := (IPv4PacketView.valid_iff_wellFormed_or b).mpr (.inr short)
    have wellFormed := exact.accepts.mp ((IPv4PacketView.parse_isSome_iff b).mpr valid)
    exact absurd wellFormed.header (Nat.not_le_of_lt short.short)
  · intro long
    have accepts : (IPv4PacketView.parse b).isSome ↔ WellFormed b := by
      rw [IPv4PacketView.parse_isSome_iff, IPv4PacketView.valid_iff_wellFormed_or,
        or_iff_left long]
    refine ⟨accepts, ?_, ?_⟩
    · intro view parsed
      rw [(IPv4PacketView.parse_eq_some_iff.mp parsed).2, IPv4PacketView.payload_eq]
    · intro view parsed i from_header _
      have wellFormed := accepts.mp (Option.isSome_iff_exists.mpr ⟨view, parsed⟩)
      exact Nat.le_trans wellFormed.header from_header

/-- Twenty bytes with an IHL of zero. -/
def sampleShortHeader : List UInt8 := [0x40, 0, 0, 20, 0, 0, 0, 0, 0, 0, 0, 0, 0, 0, 0, 0, 0, 0, 0, 0]

/-- The header is taken for the payload. -/
theorem short_header_accepted : ¬ ∀ b : List UInt8, ParsesExactly b := by
  intro always
  have wellFormed := (always sampleShortHeader).accepts.mp (by decide)
  exact absurd wellFormed.header (by decide)

end TinyCP
