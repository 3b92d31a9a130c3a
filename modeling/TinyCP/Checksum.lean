import TinyCP.WireBytes
import TinyCP.EndAroundCarry

/-!
# The Internet checksum

Both functions add up big-endian 16-bit words in a 32-bit accumulator, fold the
carries back in and complement the sum. A receiver that runs the same function over
bytes with a correct checksum field gets zero.
-/
namespace TinyCP
open WireBytes EndAroundCarry

/-- The summing loop over one stretch of bytes; an odd last byte is padded with zero on
the right. -/
def sumWords (sum : UInt32) : List UInt8 → UInt32
  | high :: low :: rest => sumWords (sum + (word16 high low).toUInt32) rest
  | [last] => sum + (word16 last 0).toUInt32
  | [] => sum

/-- The body of the carry-folding loop. -/
def foldOnce (sum : UInt32) : UInt32 := (sum &&& (0xFFFF : UInt32)) + (sum >>> 16)

theorem toNat_highHalf (sum : UInt32) : (sum >>> 16).toNat = sum.toNat / 65536 := by
  simp [UInt32.toNat_shiftRight, Nat.shiftRight_eq_div_pow]

theorem noCarries_iff (sum : UInt32) : sum >>> 16 = 0 ↔ sum.toNat < 65536 := by
  rw [← UInt32.toNat_inj, toNat_highHalf]
  change sum.toNat / 65536 = 0 ↔ _
  omega

theorem toNat_foldOnce (sum : UInt32) : (foldOnce sum).toNat = fold 65536 sum.toNat := by
  have low : (sum &&& (0xFFFF : UInt32)).toNat = sum.toNat % 65536 := toNat_masked32 sum 16 rfl
  have bound := sum.toNat_lt
  rw [foldOnce, UInt32.toNat_add, toNat_highHalf, low, fold]
  omega

theorem foldCarries_decreases {sum : UInt32} (carries : ¬ sum >>> 16 = 0) :
    ((sum &&& (0xFFFF : UInt32)) + (sum >>> 16)).toNat < sum.toNat := by
  have large : 65536 ≤ sum.toNat := by
    by_contra small
    exact carries ((noCarries_iff sum).mpr (Nat.lt_of_not_le small))
  calc (foldOnce sum).toNat = fold 65536 sum.toNat := toNat_foldOnce sum
    _ < sum.toNat := fold_lt (by decide) large

/-- `while (sum >> 16)`. -/
def foldCarries (sum : UInt32) : UInt32 :=
  if sum >>> 16 = 0 then sum else foldCarries ((sum &&& (0xFFFF : UInt32)) + (sum >>> 16))
termination_by sum.toNat
decreasing_by exact foldCarries_decreases ‹_›

def complementSum (sum : UInt32) : UInt16 := (~~~ (foldCarries sum) &&& 0xFFFF).toUInt16

def onesComplementChecksum (data : List UInt8) : UInt16 := complementSum (sumWords 0 data)

/-- The addresses are in network byte order, as they lie in memory; the header has an
even number of bytes. -/
def computeTcpChecksum (srcIpNet dstIpNet : UInt32) (headerBytes payloadBytes : List UInt8) :
    UInt16 :=
  let sum := sumWords 0 (store32 srcIpNet)
  let sum := sumWords sum (store32 dstIpNet)
  let sum := sum + 6
  let tcpLen := UInt16.ofNat (headerBytes.length + payloadBytes.length)
  let sum := sum + tcpLen.toUInt32
  let sum := sumWords sum headerBytes
  let sum := sumWords sum payloadBytes
  complementSum sum

end TinyCP
