import TinyCP.Checksum
import TinyCP.EndAroundCarry

/-!
# What the checksum computes

Without the machine arithmetic a checksum is the sum of the 16-bit words of the
bytes, folded with end-around carry and complemented. The 32-bit accumulator holds
that sum exactly for up to 131074 bytes, the longest string whose words cannot
overflow it.
-/
namespace TinyCP
open WireBytes EndAroundCarry

/-- The big-endian 16-bit words of a byte string, an odd last byte padded with zero. -/
def words : List UInt8 → List Nat
  | high :: low :: rest => (256 * high.toNat + low.toNat) :: words rest
  | [last] => [256 * last.toNat]
  | [] => []

def wordSum (data : List UInt8) : Nat := (words data).sum

theorem toNat_word16 (high low : UInt8) :
    (word16 high low).toNat = 256 * high.toNat + low.toNat := by
  have small := high.toNat_lt
  have below := low.toNat_lt
  have shifted : (high.toUInt16 <<< 8).toNat = 256 * high.toNat := by
    rw [UInt16.toNat_shiftLeft, UInt8.toNat_toUInt16]
    change high.toNat <<< 8 % 65536 = _
    rw [Nat.shiftLeft_eq]
    omega
  have disjoint := Nat.two_pow_add_eq_or_of_lt below high.toNat
  rw [word16, UInt16.toNat_or, shifted, UInt8.toNat_toUInt16]
  exact disjoint.symm

theorem wordSum_cons (high low : UInt8) (rest : List UInt8) :
    wordSum (high :: low :: rest) = 256 * high.toNat + low.toNat + wordSum rest := by
  rw [wordSum, words, List.sum_cons, wordSum]

/-- Only the last of several pieces can have a padded byte inside. -/
theorem wordSum_append {first : List UInt8} (even : first.length % 2 = 0) (rest : List UInt8) :
    wordSum (first ++ rest) = wordSum first + wordSum rest := by
  induction first using words.induct with
  | case1 high low first ih =>
    have shorter : first.length % 2 = 0 := by
      rw [List.length_cons, List.length_cons] at even
      omega
    rw [List.cons_append, List.cons_append, wordSum_cons, wordSum_cons, ih shorter]
    omega
  | case2 last => cases even
  | case3 => rw [List.nil_append, wordSum, wordSum, words, List.sum_nil, Nat.zero_add]

theorem wordSum_le (data : List UInt8) : wordSum data ≤ 65535 * ((data.length + 1) / 2) := by
  induction data using words.induct with
  | case1 high low rest ih =>
    have small := high.toNat_lt
    have below := low.toNat_lt
    rw [wordSum_cons, List.length_cons, List.length_cons]
    omega
  | case2 last =>
    have small := last.toNat_lt
    rw [wordSum, words, List.sum_singleton, List.length_singleton]
    omega
  | case3 => exact Nat.zero_le _

theorem wordSum_eq_zero_iff (data : List UInt8) : wordSum data = 0 ↔ ∀ word ∈ words data, word = 0 :=
  List.sum_eq_zero_iff_forall_eq_nat

theorem toUInt32_word16 (high low : UInt8) :
    (word16 high low).toUInt32 = UInt32.ofNat (256 * high.toNat + low.toNat) := by
  have small := high.toNat_lt
  have below := low.toNat_lt
  apply UInt32.toNat_inj.mp
  rw [UInt16.toNat_toUInt32, toNat_word16, UInt32.toNat_ofNat']
  omega

/-- The summing loop, wrapping as the accumulator does. -/
theorem sumWords_eq (sum : UInt32) (data : List UInt8) :
    sumWords sum data = sum + UInt32.ofNat (wordSum data) := by
  induction data using words.induct generalizing sum with
  | case1 high low rest ih =>
    rw [sumWords, ih, toUInt32_word16, wordSum_cons, UInt32.ofNat_add _ (wordSum rest),
      UInt32.add_assoc]
  | case2 last =>
    rw [sumWords, toUInt32_word16, wordSum, words]
    rfl
  | case3 =>
    rw [sumWords, wordSum, words, List.sum_nil]
    exact (UInt32.add_zero sum).symm

/-- The loop leaves the digit of its sum. -/
theorem foldCarries_foldsTo (sum : UInt32) :
    FoldsTo 65536 sum.toNat (foldCarries sum).toNat := by
  induction sum using foldCarries.induct with
  | case1 sum none =>
    rw [foldCarries, if_pos none]
    exact .self ((noCarries_iff sum).mp none)
  | case2 sum some ih =>
    change FoldsTo 65536 (foldOnce sum).toNat (foldCarries (foldOnce sum)).toNat at ih
    rw [toNat_foldOnce] at ih
    rw [foldCarries, if_neg some]
    exact ih.of_fold (by decide)

theorem toNat_complementSum (sum : UInt32) :
    (complementSum sum).toNat = 65535 - (foldCarries sum).toNat := by
  have digit := (foldCarries_foldsTo sum).lt
  have kept : (~~~ foldCarries sum &&& (0xFFFF : UInt32)).toNat =
      (~~~ foldCarries sum).toNat % 65536 := toNat_masked32 _ 16 rfl
  rw [complementSum, UInt32.toNat_toUInt16, kept, UInt32.toNat_not, UInt32.size]
  omega

/-- A sum that fits the accumulator is complemented to what its digit leaves of 65535. -/
theorem complementSum_foldsTo {sum : Nat} (fits : sum < 2 ^ 32) :
    FoldsTo 65536 sum (65535 - (complementSum (UInt32.ofNat sum)).toNat) := by
  have folds := foldCarries_foldsTo (UInt32.ofNat sum)
  have digit := folds.lt
  rw [UInt32.toNat_ofNat', Nat.mod_eq_of_lt fits] at folds
  rw [toNat_complementSum, Nat.sub_sub_self (Nat.le_of_lt_succ digit)]
  exact folds

/-- A sum to which its own complement was added leaves nothing. -/
theorem complementSum_add_complement {sum : Nat}
    (fits : sum + (complementSum (UInt32.ofNat sum)).toNat < 2 ^ 32) :
    complementSum (UInt32.ofNat (sum + (complementSum (UInt32.ofNat sum)).toNat)) = 0 := by
  have small := (complementSum (UInt32.ofNat sum)).toNat_lt
  have folds := (complementSum_foldsTo (Nat.lt_of_le_of_lt (Nat.le_add_right _ _) fits))
  have completed := folds.add_complement (by decide)
  rw [Nat.sub_sub_self (Nat.le_of_lt_succ small)] at completed
  have full := (complementSum_foldsTo fits).unique completed
  apply UInt16.toNat_inj.mp
  change (complementSum _).toNat = 0
  omega

theorem onesComplementChecksum_eq (data : List UInt8) :
    onesComplementChecksum data = complementSum (UInt32.ofNat (wordSum data)) := by
  rw [onesComplementChecksum, sumWords_eq, UInt32.zero_add]

/-- Two rounds bring every 32-bit sum below 65536. -/
theorem foldOnce_foldOnce_noCarries (sum : UInt32) : foldOnce (foldOnce sum) >>> 16 = 0 := by
  have bound := sum.toNat_lt
  rw [noCarries_iff, toNat_foldOnce, toNat_foldOnce, fold, fold]
  omega

/-- The loop runs for as many rounds as there are carries to fold. -/
def FoldedAfter (rounds : Nat) (sum : UInt32) : Prop :=
  (∀ earlier < rounds, ¬ foldOnce^[earlier] sum >>> 16 = 0) ∧ foldOnce^[rounds] sum >>> 16 = 0 ∧
    foldCarries sum = foldOnce^[rounds] sum

theorem exists_foldedAfter (sum : UInt32) : ∃ rounds ≤ 2, FoldedAfter rounds sum := by
  have last : ∀ {s : UInt32}, s >>> 16 = 0 → foldCarries s = s := by
    intro s none
    rw [foldCarries, if_pos none]
  have next : ∀ {s : UInt32}, ¬ s >>> 16 = 0 → foldCarries s = foldCarries (foldOnce s) := by
    intro s some
    rw [foldCarries, if_neg some, foldOnce]
  by_cases first : sum >>> 16 = 0
  · exact ⟨0, by decide, by simp, first, last first⟩
  · by_cases second : foldOnce sum >>> 16 = 0
    · refine ⟨1, by decide, ?_, second, (next first).trans (last second)⟩
      intro earlier none
      rw [Nat.lt_one_iff.mp none]
      exact first
    · have third := foldOnce_foldOnce_noCarries sum
      refine ⟨2, Nat.le_refl _, ?_, third, (next first).trans ((next second).trans (last third))⟩
      intro earlier few
      have early : earlier = 0 ∨ earlier = 1 := by omega
      rcases early with rfl | rfl
      · exact first
      · exact second

/-- What RFC 1071 asks of the checksum of these bytes. -/
structure MeetsRfc1071 (data : List UInt8) : Prop where
  modEq : 65535 - (onesComplementChecksum data).toNat ≡ wordSum data [MOD 65535]
  zero : 65535 - (onesComplementChecksum data).toNat = 0 ↔ ∀ word ∈ words data, word = 0
  terminates : ∃ rounds, FoldedAfter rounds (sumWords 0 data)
  order : ∀ other, (words other).Perm (words data) →
    onesComplementChecksum other = onesComplementChecksum data

theorem onesComplementChecksum_meetsRfc1071 (data : List UInt8) (bound : data.length ≤ 131074) :
    MeetsRfc1071 data := by
  have short := wordSum_le data
  have folds := complementSum_foldsTo (show wordSum data < 2 ^ 32 by omega)
  rw [← onesComplementChecksum_eq] at folds
  obtain ⟨rounds, _, folded⟩ := exists_foldedAfter (sumWords 0 data)
  refine ⟨folds.modEq, ?_, ⟨rounds, folded⟩, ?_⟩
  · exact folds.zero.trans (wordSum_eq_zero_iff data)
  · intro other permuted
    rw [onesComplementChecksum_eq, onesComplementChecksum_eq, wordSum, wordSum, permuted.sum_nat]

/-- An odd number of bytes, with a carry to fold. -/
theorem sampleBytes_meetsRfc1071 : MeetsRfc1071 [0xFF, 0xFE, 0x00, 0x03, 0x01] :=
  onesComplementChecksum_meetsRfc1071 _ (by decide)

end TinyCP
