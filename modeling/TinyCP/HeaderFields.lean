import TinyCP.FieldWrites
import TinyCP.HeaderViews

/-!
# Header fields

A field of a header has the value that was last set for it, cut down to its width, or the
one it started with. Fields that share a word are set by masks, which leave the rest of
the word alone, and the views decode the serialized bytes to the same values.
-/
namespace TinyCP
open WireBytes EventRun FieldWrites

inductive TcpFlag where
  | urg
  | ack
  | psh
  | rst
  | syn
  | fin
  deriving DecidableEq

/-- The position of a flag in the control word. -/
def TcpFlag.bit : TcpFlag → Nat
  | .urg => 5
  | .ack => 4
  | .psh => 3
  | .rst => 2
  | .syn => 1
  | .fin => 0

/-- A call of one of the setters. -/
inductive TcpSetter where
  | sourcePort (port : UInt16)
  | destPort (port : UInt16)
  | seqNum (seq : UInt32)
  | ackNum (ack : UInt32)
  | dataOffset (words : UInt8)
  | headerLength (bytes : UInt8)
  | flags (flags : UInt16)
  | flag (flag : TcpFlag) (set : Bool)
  | window (window : UInt16)
  | checksum (checksum : UInt16)
  | urgentPointer (pointer : UInt16)

inductive TcpField where
  | sourcePort
  | destPort
  | seqNum
  | ackNum
  | dataOffset
  | reserved
  | flag (flag : TcpFlag)
  | window
  | checksum
  | urgentPointer

namespace TcpHeader

def flagOf (h : TcpHeader) : TcpFlag → Bool
  | .urg => h.urg
  | .ack => h.ack
  | .psh => h.psh
  | .rst => h.rst
  | .syn => h.syn
  | .fin => h.fin

def setFlagOf (h : TcpHeader) (set : Bool) : TcpFlag → TcpHeader
  | .urg => h.setUrg set
  | .ack => h.setAck set
  | .psh => h.setPsh set
  | .rst => h.setRst set
  | .syn => h.setSyn set
  | .fin => h.setFin set

def call (h : TcpHeader) : TcpSetter → TcpHeader
  | .sourcePort port => h.setSourcePort port
  | .destPort port => h.setDestPort port
  | .seqNum seq => h.setSeqNum seq
  | .ackNum ack => h.setAckNum ack
  | .dataOffset words => h.setDataOffset words
  | .headerLength bytes => h.setHeaderLength bytes
  | .flags flags => h.setFlags flags
  | .flag flag set => h.setFlagOf set flag
  | .window window => h.setWindow window
  | .checksum checksum => h.setChecksum checksum
  | .urgentPointer pointer => h.setUrgentPointer pointer

/-- The reserved bits have no getter of their own. -/
def reserved (h : TcpHeader) : UInt16 := (h.controlWord >>> 6) &&& 0x3F

/-- What the getter of a field returns. -/
def fieldValue (h : TcpHeader) : TcpField → Nat
  | .sourcePort => h.sourcePortNtoh.toNat
  | .destPort => h.destPortNtoh.toNat
  | .seqNum => h.seqNumNtoh.toNat
  | .ackNum => h.ackNumNtoh.toNat
  | .dataOffset => h.dataOffset.toNat
  | .reserved => h.reserved.toNat
  | .flag flag => (h.flagOf flag).toNat
  | .window => h.windowNtoh.toNat
  | .checksum => h.checksumNtoh.toNat
  | .urgentPointer => h.urgentPointerNtoh.toNat

end TcpHeader

def TcpField.width : TcpField → Nat
  | .seqNum | .ackNum => 32
  | .dataOffset => 4
  | .reserved => 6
  | .flag _ => 1
  | .sourcePort | .destPort | .window | .checksum | .urgentPointer => 16

/-- Where a field of the control word starts. -/
def TcpField.controlStart : TcpField → Option Nat
  | .dataOffset => some 12
  | .reserved => some 6
  | .flag f => some f.bit
  | _ => none

theorem TcpFlag.bit_lt (flag : TcpFlag) : flag.bit < 6 := by
  cases flag <;> decide

/-- The value that a call sets for a field, if it sets it. -/
def TcpSetter.sets : TcpSetter → TcpField → Option Nat
  | .sourcePort v, .sourcePort => some v.toNat
  | .destPort v, .destPort => some v.toNat
  | .seqNum v, .seqNum => some v.toNat
  | .ackNum v, .ackNum => some v.toNat
  | .dataOffset v, .dataOffset => some v.toNat
  | .headerLength v, .dataOffset => some (v.toNat / 4)
  | .flags v, .flag f => some (v.toNat / 2 ^ f.bit)
  | .flag called v, .flag f => if called = f then some v.toNat else none
  | .window v, .window => some v.toNat
  | .checksum v, .checksum => some v.toNat
  | .urgentPointer v, .urgentPointer => some v.toNat
  | _, _ => none

theorem toNat_swapped16 (v : UInt16) : (ntohs (htons v)).toNat = v.toNat % 2 ^ 16 := by
  rw [ntohs_htons, Nat.mod_eq_of_lt v.toNat_lt]

theorem toNat_swapped32 (v : UInt32) : (ntohl (htonl v)).toNat = v.toNat % 2 ^ 32 := by
  rw [ntohl_htonl, Nat.mod_eq_of_lt v.toNat_lt]

/-- A shift that moves no bit out of the word. -/
theorem toNat_shifted16 {v : UInt8} {k : UInt16} (short : k.toNat < 16)
    (fits : v.toNat * 2 ^ k.toNat < 2 ^ 16) : (v.toUInt16 <<< k).toNat = v.toNat <<< k.toNat := by
  rw [UInt16.toNat_shiftLeft, UInt8.toNat_toUInt16, Nat.mod_eq_of_lt short, Nat.shiftLeft_eq,
    Nat.mod_eq_of_lt fits]

namespace TcpHeader
variable (h : TcpHeader)

theorem controlWord_setControlWord (word : UInt16) : (h.setControlWord word).controlWord = word :=
  ntohs_htons word

theorem toNat_dataOffset : h.dataOffset.toNat = slice h.controlWord.toNat 12 4 := by
  have word := h.controlWord.toNat_lt
  rw [dataOffset, UInt16.toNat_toUInt8, UInt16.toNat_shiftRight, Nat.shiftRight_eq_div_pow, slice]
  change h.controlWord.toNat / 4096 % 256 = h.controlWord.toNat / 4096 % 16
  omega

theorem toNat_reserved : h.reserved.toNat = slice h.controlWord.toNat 6 6 := by
  rw [reserved, toNat_masked16 _ 6 rfl, UInt16.toNat_shiftRight, Nat.shiftRight_eq_div_pow]
  rfl

theorem toNat_flags : h.flags.toNat = slice h.controlWord.toNat 0 6 := by
  rw [flags, slice, pow_zero, Nat.div_one]
  exact toNat_masked16 _ 6 rfl

theorem flagOf_eq (flag : TcpFlag) : h.flagOf flag = h.flag (UInt16.ofNat flag.bit) := by
  cases flag <;> rfl

theorem setFlagOf_eq (set : Bool) (flag : TcpFlag) :
    h.setFlagOf set flag = h.setFlag (UInt16.ofNat flag.bit) set := by
  cases flag <;> rfl

theorem toNat_flagOf (f : TcpFlag) : (h.flagOf f).toNat = slice h.controlWord.toNat f.bit 1 := by
  have value : ((h.flags >>> UInt16.ofNat f.bit) &&& 1).toNat =
      slice h.controlWord.toNat f.bit 1 := by
    have shift : (UInt16.ofNat f.bit).toNat % 16 = f.bit := by
      cases f <;> rfl
    rw [toNat_masked16 _ 1 rfl, UInt16.toNat_shiftRight, shift, toNat_flags,
      Nat.shiftRight_eq_div_pow]
    exact slice_slice h.controlWord.toNat 0 f.bit_lt
  have small : slice h.controlWord.toNat f.bit 1 < 2 := Nat.mod_lt _ (by decide)
  rw [flagOf_eq, flag]
  by_cases clear : (h.flags >>> UInt16.ofNat f.bit) &&& 1 = 0
  · rw [← value, clear]
    rfl
  · have set : ((h.flags >>> UInt16.ofNat f.bit) &&& 1).toNat ≠ 0 :=
      fun zero => clear (UInt16.toNat_inj.mp zero)
    rw [decide_eq_true clear]
    change 1 = _
    omega

theorem overlays_setDataOffset (words : UInt8) :
    Overlays (h.setDataOffset words).controlWord.toNat h.controlWord.toNat 12 4 words.toNat := by
  have low : (words &&& 0xF).toNat = words.toNat % 2 ^ 4 := toNat_masked8 words 4 rfl
  have value : ((words &&& 0xF).toUInt16 <<< 12).toNat = (words.toNat % 2 ^ 4) <<< 12 := by
    rw [toNat_shifted16 (by decide) (by rw [low]; change _ * 4096 < 65536; omega), low]
    rfl
  rw [setDataOffset, controlWord_setControlWord, UInt16.toNat_or, UInt16.toNat_and, value]
  exact .of_mask h.controlWord.toNat_lt (by decide)

theorem overlays_setFlags (v : UInt16) :
    Overlays (h.setFlags v).controlWord.toNat h.controlWord.toNat 0 6 v.toNat := by
  have value : (v &&& (0x3F : UInt16)).toNat = (v.toNat % 2 ^ 6) <<< 0 := toNat_masked16 v 6 rfl
  rw [setFlags, controlWord_setControlWord, UInt16.toNat_or, UInt16.toNat_and, value]
  exact .of_mask h.controlWord.toNat_lt (by decide)

theorem overlays_setFlagOf (set : Bool) (f : TcpFlag) :
    Overlays (h.setFlagOf set f).controlWord.toNat h.controlWord.toNat f.bit 1 set.toNat := by
  rw [setFlagOf_eq, setFlag, controlWord_setControlWord]
  cases set with
  | true =>
    have mask : ((1 : UInt16) <<< UInt16.ofNat f.bit).toNat = 2 ^ f.bit := by
      cases f <;> rfl
    rw [if_pos rfl, UInt16.toNat_or, mask]
    exact .of_bit _ _
  | false =>
    have mask : ∀ i < 16, (~~~ ((1 : UInt16) <<< UInt16.ofNat f.bit)).toNat.testBit i =
        !decide (f.bit ≤ i ∧ i < f.bit + 1) := by
      cases f <;> decide
    have overlaid :=
      @Overlays.of_mask h.controlWord.toNat 0 f.bit 1 16 _ h.controlWord.toNat_lt mask
    rw [Nat.zero_mod, Nat.zero_shiftLeft, Nat.or_zero] at overlaid
    rw [if_neg Bool.false_ne_true, UInt16.toNat_and]
    exact overlaid

theorem fieldValue_eq_slice {field : TcpField} {start : Nat}
    (shared : field.controlStart = some start) :
    h.fieldValue field = slice h.controlWord.toNat start field.width := by
  cases field with
  | dataOffset =>
    cases shared
    exact h.toNat_dataOffset
  | reserved =>
    cases shared
    exact h.toNat_reserved
  | flag f =>
    cases shared
    exact h.toNat_flagOf f
  | _ => cases shared

variable {h}

/-- The fields of the control word that a mask leaves alone. -/
theorem fieldValue_apart {next : TcpHeader} {start width v start' : Nat} {field : TcpField}
    (overlaid : Overlays next.controlWord.toNat h.controlWord.toNat start width v)
    (shared : field.controlStart = some start')
    (apart : start' + field.width ≤ start ∨ start + width ≤ start') :
    next.fieldValue field = h.fieldValue field := by
  rw [next.fieldValue_eq_slice shared, h.fieldValue_eq_slice shared, overlaid.slice_apart apart]

variable (h)

theorem fieldValue_setDataOffset (words : UInt8) (field : TcpField) :
    (h.setDataOffset words).fieldValue field =
      (((TcpSetter.dataOffset words).sets field).map (· % 2 ^ field.width)).getD
        (h.fieldValue field) := by
  have overlaid := h.overlays_setDataOffset words
  cases field with
  | dataOffset => exact (toNat_dataOffset _).trans overlaid.slice_self
  | reserved => exact fieldValue_apart overlaid rfl (by decide)
  | flag f => exact fieldValue_apart overlaid rfl (.inl (f.bit_lt.trans (by decide)))
  | _ => rfl

theorem fieldValue_setFlags (v : UInt16) (field : TcpField) :
    (h.setFlags v).fieldValue field =
      (((TcpSetter.flags v).sets field).map (· % 2 ^ field.width)).getD (h.fieldValue field) := by
  have overlaid := h.overlays_setFlags v
  cases field with
  | dataOffset => exact fieldValue_apart overlaid rfl (by decide)
  | reserved => exact fieldValue_apart overlaid rfl (by decide)
  | flag f => exact (toNat_flagOf _ f).trans (overlaid.slice_within (Nat.zero_le _) f.bit_lt)
  | _ => rfl

theorem fieldValue_setFlagOf (called : TcpFlag) (set : Bool) (field : TcpField) :
    (h.setFlagOf set called).fieldValue field =
      (((TcpSetter.flag called set).sets field).map (· % 2 ^ field.width)).getD
        (h.fieldValue field) := by
  have overlaid := h.overlays_setFlagOf set called
  have low : called.bit + 1 ≤ 6 := called.bit_lt
  cases field with
  | dataOffset => exact fieldValue_apart overlaid rfl (.inr (low.trans (by decide)))
  | reserved => exact fieldValue_apart overlaid rfl (.inr low)
  | flag f =>
    by_cases same : called = f
    · subst same
      simp only [TcpSetter.sets, if_true]
      exact (toNat_flagOf _ called).trans overlaid.slice_self
    · have apart : f.bit + 1 ≤ called.bit ∨ called.bit + 1 ≤ f.bit := by
        revert same
        cases called <;> cases f <;> decide
      simp only [TcpSetter.sets, if_neg same]
      exact fieldValue_apart overlaid rfl apart
  | _ => cases called <;> rfl

/-- One call of a setter. -/
theorem writesFields :
    WritesFields fieldValue (fun field v => v % 2 ^ field.width) call TcpSetter.sets := by
  intro h setter field
  cases setter with
  | sourcePort port =>
    cases field with
    | sourcePort => exact toNat_swapped16 port
    | _ => rfl
  | destPort port =>
    cases field with
    | destPort => exact toNat_swapped16 port
    | _ => rfl
  | seqNum seq =>
    cases field with
    | seqNum => exact toNat_swapped32 seq
    | _ => rfl
  | ackNum ack =>
    cases field with
    | ackNum => exact toNat_swapped32 ack
    | _ => rfl
  | dataOffset words => exact h.fieldValue_setDataOffset words field
  | headerLength bytes =>
    have same : (TcpSetter.headerLength bytes).sets field =
        (TcpSetter.dataOffset (bytes / 4)).sets field := by
      cases field with
      | dataOffset => exact congrArg some (UInt8.toNat_div bytes 4).symm
      | _ => rfl
    rw [same]
    exact h.fieldValue_setDataOffset (bytes / 4) field
  | flags v => exact h.fieldValue_setFlags v field
  | flag called set => exact h.fieldValue_setFlagOf called set field
  | window v =>
    cases field with
    | window => exact toNat_swapped16 v
    | _ => rfl
  | checksum v =>
    cases field with
    | checksum => exact toNat_swapped16 v
    | _ => rfl
  | urgentPointer v =>
    cases field with
    | urgentPointer => exact toNat_swapped16 v
    | _ => rfl

/-- The getters of several fields together, and the words as they lie in memory. -/
structure Composed (h : TcpHeader) : Prop where
  headerLength : h.headerLength.toNat = 4 * h.dataOffset.toNat
  flags : h.flags.toNat = 32 * h.urg.toNat + 16 * h.ack.toNat + 8 * h.psh.toNat +
    4 * h.rst.toNat + 2 * h.syn.toNat + h.fin.toNat
  controlWord : h.controlWord.toNat =
    4096 * h.dataOffset.toNat + 64 * h.reserved.toNat + h.flags.toNat
  sourcePort : h.sourcePort = htons h.sourcePortNtoh
  destPort : h.destPort = htons h.destPortNtoh
  seqNum : h.seqNum = htonl h.seqNumNtoh
  ackNum : h.ackNum = htonl h.ackNumNtoh
  dataOffsetAndReservedAndControlBits :
    h.dataOffsetAndReservedAndControlBits = htons h.controlWord
  window : h.window = htons h.windowNtoh
  checksum : h.checksum = htons h.checksumNtoh
  urgentPointer : h.urgentPointer = htons h.urgentPointerNtoh

theorem toNat_headerLength : h.headerLength.toNat = 4 * h.dataOffset.toNat := by
  have small : h.dataOffset.toNat < 2 ^ 4 := by
    rw [toNat_dataOffset]
    exact slice_lt _ _ _
  rw [headerLength, UInt8.toNat_mul]
  change h.dataOffset.toNat * 4 % 256 = _
  omega

theorem slice_flagOf (f : TcpFlag) : slice h.controlWord.toNat 0 (f.bit + 1) =
    2 ^ f.bit * (h.flagOf f).toNat + slice h.controlWord.toNat 0 f.bit := by
  rw [slice_add, toNat_flagOf, Nat.zero_add]

theorem composed : h.Composed where
  headerLength := h.toNat_headerLength
  flags := by
    -- One bit after the other, from the highest.
    have urg := h.slice_flagOf .urg
    have ack := h.slice_flagOf .ack
    have psh := h.slice_flagOf .psh
    have rst := h.slice_flagOf .rst
    have syn := h.slice_flagOf .syn
    have fin := h.slice_flagOf .fin
    have none : slice h.controlWord.toNat 0 0 = 0 := Nat.mod_one _
    simp only [TcpFlag.bit, flagOf, Nat.reduceAdd, Nat.reducePow] at urg ack psh rst syn fin
    rw [toNat_flags]
    omega
  controlWord := by
    have high := slice_add h.controlWord.toNat 0 12 4
    have low := slice_add h.controlWord.toNat 0 6 6
    rw [slice_of_lt h.controlWord.toNat_lt] at high
    rw [toNat_dataOffset, toNat_reserved, toNat_flags, Nat.add_assoc]
    exact high.trans (congrArg _ low)
  sourcePort := (htons_htons _).symm
  destPort := (htons_htons _).symm
  seqNum := (htonl_htonl _).symm
  ackNum := (htonl_htonl _).symm
  dataOffsetAndReservedAndControlBits := (htons_htons _).symm
  window := (htons_htons _).symm
  checksum := (htons_htons _).symm
  urgentPointer := (htons_htons _).symm

/-- What has become of a header by some calls of its setters. -/
structure Follows (next : TcpHeader) (calls : List TcpSetter) : Prop where
  fields : ∀ field, next.fieldValue field =
    ((lastSet TcpSetter.sets calls field).map (· % 2 ^ field.width)).getD (h.fieldValue field)
  composed : next.Composed
  size : next.serialize.length = 20
  mirrored : (TcpPacketView.mk next.serialize).Mirrors next

theorem run_follows (calls : List TcpSetter) : h.Follows (run call h calls) calls where
  fields := writesFields.run h calls
  composed := composed _
  size := length_serialize _
  mirrored := by
    have mirrors := TcpPacketView.mirrors_serialize (run call h calls) []
    rwa [List.append_nil] at mirrors

end TcpHeader

inductive IPv4Setter where
  | version (version : UInt8)
  | ihl (ihl : UInt8)
  | headerLength (bytes : UInt8)
  | typeOfService (typeOfService : UInt8)
  | totalLength (totalLength : UInt16)
  | identification (identification : UInt16)
  | flags (flags : UInt8)
  | fragmentOffset (offset : UInt16)
  | ttl (ttl : UInt8)
  | protocol (protocol : UInt8)
  | checksum (checksum : UInt16)
  | sourceAddress (address : UInt32)
  | destinationAddress (address : UInt32)

inductive IPv4Field where
  | version
  | ihl
  | typeOfService
  | totalLength
  | identification
  | flags
  | fragmentOffset
  | ttl
  | protocol
  | checksum
  | sourceAddress
  | destinationAddress

def IPv4Field.width : IPv4Field → Nat
  | .version | .ihl => 4
  | .flags => 3
  | .fragmentOffset => 13
  | .typeOfService | .ttl | .protocol => 8
  | .totalLength | .identification | .checksum => 16
  | .sourceAddress | .destinationAddress => 32

def IPv4Setter.sets : IPv4Setter → IPv4Field → Option Nat
  | .version v, .version => some v.toNat
  | .ihl v, .ihl => some v.toNat
  | .headerLength v, .ihl => some (v.toNat / 4)
  | .typeOfService v, .typeOfService => some v.toNat
  | .totalLength v, .totalLength => some v.toNat
  | .identification v, .identification => some v.toNat
  | .flags v, .flags => some v.toNat
  | .fragmentOffset v, .fragmentOffset => some v.toNat
  | .ttl v, .ttl => some v.toNat
  | .protocol v, .protocol => some v.toNat
  | .checksum v, .checksum => some v.toNat
  | .sourceAddress v, .sourceAddress => some v.toNat
  | .destinationAddress v, .destinationAddress => some v.toNat
  | _, _ => none

namespace IPv4Header

def call (h : IPv4Header) : IPv4Setter → IPv4Header
  | .version v => h.setVersion v
  | .ihl v => h.setIhl v
  | .headerLength v => h.setHeaderLength v
  | .typeOfService v => h.setTypeOfService v
  | .totalLength v => h.setTotalLength v
  | .identification v => h.setIdentification v
  | .flags v => h.setFlags v
  | .fragmentOffset v => h.setFragmentOffset v
  | .ttl v => h.setTtl v
  | .protocol v => h.setProtocol v
  | .checksum v => h.setChecksum v
  | .sourceAddress v => h.setSourceAddress v
  | .destinationAddress v => h.setDestinationAddress v

def fieldValue (h : IPv4Header) : IPv4Field → Nat
  | .version => h.version.toNat
  | .ihl => h.ihl.toNat
  | .typeOfService => h.typeOfService.toNat
  | .totalLength => h.totalLengthNtoh.toNat
  | .identification => h.identificationNtoh.toNat
  | .flags => h.flags.toNat
  | .fragmentOffset => h.fragmentOffset.toNat
  | .ttl => h.ttl.toNat
  | .protocol => h.protocol.toNat
  | .checksum => h.checksumNtoh.toNat
  | .sourceAddress => h.sourceAddressNtoh.toNat
  | .destinationAddress => h.destinationAddressNtoh.toNat

variable (h : IPv4Header)

theorem toNat_version : h.version.toNat = slice h.versionIhl.toNat 4 4 := by
  have byte := h.versionIhl.toNat_lt
  rw [version, UInt8.toNat_shiftRight, Nat.shiftRight_eq_div_pow, slice]
  change h.versionIhl.toNat / 16 = h.versionIhl.toNat / 16 % 16
  omega

theorem toNat_ihl : h.ihl.toNat = slice h.versionIhl.toNat 0 4 := by
  rw [ihl, slice, pow_zero, Nat.div_one]
  exact toNat_masked8 _ 4 rfl

theorem toNat_flags : h.flags.toNat = slice h.flagsFragmentOffsetNtoh.toNat 13 3 := by
  have word := h.flagsFragmentOffsetNtoh.toNat_lt
  rw [flags, UInt16.toNat_toUInt8, UInt16.toNat_shiftRight, Nat.shiftRight_eq_div_pow, slice]
  change h.flagsFragmentOffsetNtoh.toNat / 8192 % 256 = h.flagsFragmentOffsetNtoh.toNat / 8192 % 8
  omega

theorem toNat_fragmentOffset :
    h.fragmentOffset.toNat = slice h.flagsFragmentOffsetNtoh.toNat 0 13 := by
  rw [fragmentOffset, slice, pow_zero, Nat.div_one]
  exact toNat_masked16 _ 13 rfl

theorem overlays_setVersion (v : UInt8) :
    Overlays (h.setVersion v).versionIhl.toNat h.versionIhl.toNat 4 4 v.toNat := by
  have value : ((v &&& 0x0F) <<< 4).toNat = (v.toNat % 2 ^ 4) <<< 4 := by
    rw [UInt8.toNat_shiftLeft, toNat_masked8 v 4 rfl]
    refine Nat.mod_eq_of_lt ?_
    change (v.toNat % 2 ^ 4) <<< 4 < 2 ^ 8
    rw [Nat.shiftLeft_eq]
    omega
  rw [setVersion, UInt8.toNat_or, UInt8.toNat_and, value]
  exact .of_mask h.versionIhl.toNat_lt (by decide)

theorem overlays_setIhl (v : UInt8) :
    Overlays (h.setIhl v).versionIhl.toNat h.versionIhl.toNat 0 4 v.toNat := by
  have value : (v &&& 0x0F).toNat = (v.toNat % 2 ^ 4) <<< 0 := toNat_masked8 v 4 rfl
  rw [setIhl, UInt8.toNat_or, UInt8.toNat_and, value]
  exact .of_mask h.versionIhl.toNat_lt (by decide)

theorem overlays_setFlags (v : UInt8) :
    Overlays (h.setFlags v).flagsFragmentOffsetNtoh.toNat h.flagsFragmentOffsetNtoh.toNat 13 3
      v.toNat := by
  have low : (v &&& 0x7).toNat = v.toNat % 2 ^ 3 := toNat_masked8 v 3 rfl
  have value : ((v &&& 0x7).toUInt16 <<< 13).toNat = (v.toNat % 2 ^ 3) <<< 13 := by
    rw [toNat_shifted16 (by decide) (by rw [low]; change _ * 8192 < 65536; omega), low]
    rfl
  rw [flagsFragmentOffsetNtoh, setFlags, ntohs_htons, UInt16.toNat_or, UInt16.toNat_and, value]
  exact .of_mask h.flagsFragmentOffsetNtoh.toNat_lt (by decide)

theorem overlays_setFragmentOffset (v : UInt16) :
    Overlays (h.setFragmentOffset v).flagsFragmentOffsetNtoh.toNat h.flagsFragmentOffsetNtoh.toNat
      0 13 v.toNat := by
  have value : (v &&& 0x1FFF).toNat = (v.toNat % 2 ^ 13) <<< 0 := toNat_masked16 v 13 rfl
  rw [flagsFragmentOffsetNtoh, setFragmentOffset, ntohs_htons, UInt16.toNat_or, UInt16.toNat_and,
    value]
  exact .of_mask h.flagsFragmentOffsetNtoh.toNat_lt (by decide)

theorem fieldValue_setIhl (v : UInt8) (field : IPv4Field) :
    (h.setIhl v).fieldValue field =
      (((IPv4Setter.ihl v).sets field).map (· % 2 ^ field.width)).getD (h.fieldValue field) := by
  have overlaid := h.overlays_setIhl v
  cases field with
  | version =>
    change (h.setIhl v).version.toNat = h.version.toNat
    rw [toNat_version, toNat_version, overlaid.slice_apart (by decide)]
  | ihl => exact (toNat_ihl _).trans overlaid.slice_self
  | _ => rfl

theorem fieldValue_setVersion (v : UInt8) (field : IPv4Field) :
    (h.setVersion v).fieldValue field =
      (((IPv4Setter.version v).sets field).map (· % 2 ^ field.width)).getD
        (h.fieldValue field) := by
  have overlaid := h.overlays_setVersion v
  cases field with
  | version => exact (toNat_version _).trans overlaid.slice_self
  | ihl =>
    change (h.setVersion v).ihl.toNat = h.ihl.toNat
    rw [toNat_ihl, toNat_ihl, overlaid.slice_apart (by decide)]
  | _ => rfl

theorem fieldValue_setFlags (v : UInt8) (field : IPv4Field) :
    (h.setFlags v).fieldValue field =
      (((IPv4Setter.flags v).sets field).map (· % 2 ^ field.width)).getD (h.fieldValue field) := by
  have overlaid := h.overlays_setFlags v
  cases field with
  | flags => exact (toNat_flags _).trans overlaid.slice_self
  | fragmentOffset =>
    change (h.setFlags v).fragmentOffset.toNat = h.fragmentOffset.toNat
    rw [toNat_fragmentOffset, toNat_fragmentOffset, overlaid.slice_apart (by decide)]
  | _ => rfl

theorem fieldValue_setFragmentOffset (v : UInt16) (field : IPv4Field) :
    (h.setFragmentOffset v).fieldValue field =
      (((IPv4Setter.fragmentOffset v).sets field).map (· % 2 ^ field.width)).getD
        (h.fieldValue field) := by
  have overlaid := h.overlays_setFragmentOffset v
  cases field with
  | flags =>
    change (h.setFragmentOffset v).flags.toNat = h.flags.toNat
    rw [toNat_flags, toNat_flags, overlaid.slice_apart (by decide)]
  | fragmentOffset => exact (toNat_fragmentOffset _).trans overlaid.slice_self
  | _ => rfl

theorem writesFields :
    WritesFields fieldValue (fun field v => v % 2 ^ field.width) call IPv4Setter.sets := by
  intro h setter field
  cases setter with
  | version v => exact h.fieldValue_setVersion v field
  | ihl v => exact h.fieldValue_setIhl v field
  | headerLength bytes =>
    have same : (IPv4Setter.headerLength bytes).sets field =
        (IPv4Setter.ihl (bytes / 4)).sets field := by
      cases field with
      | ihl => exact congrArg some (UInt8.toNat_div bytes 4).symm
      | _ => rfl
    rw [same]
    exact h.fieldValue_setIhl (bytes / 4) field
  | typeOfService v =>
    cases field with
    | typeOfService => exact (Nat.mod_eq_of_lt v.toNat_lt).symm
    | _ => rfl
  | totalLength v =>
    cases field with
    | totalLength => exact toNat_swapped16 v
    | _ => rfl
  | identification v =>
    cases field with
    | identification => exact toNat_swapped16 v
    | _ => rfl
  | flags v => exact h.fieldValue_setFlags v field
  | fragmentOffset v => exact h.fieldValue_setFragmentOffset v field
  | ttl v =>
    cases field with
    | ttl => exact (Nat.mod_eq_of_lt v.toNat_lt).symm
    | _ => rfl
  | protocol v =>
    cases field with
    | protocol => exact (Nat.mod_eq_of_lt v.toNat_lt).symm
    | _ => rfl
  | checksum v =>
    cases field with
    | checksum => exact toNat_swapped16 v
    | _ => rfl
  | sourceAddress v =>
    cases field with
    | sourceAddress => exact toNat_swapped32 v
    | _ => rfl
  | destinationAddress v =>
    cases field with
    | destinationAddress => exact toNat_swapped32 v
    | _ => rfl

structure Composed (h : IPv4Header) : Prop where
  headerLength : h.headerLength.toNat = 4 * h.ihl.toNat
  versionIhl : h.versionIhl.toNat = 16 * h.version.toNat + h.ihl.toNat
  flagsFragmentOffsetNtoh :
    h.flagsFragmentOffsetNtoh.toNat = 8192 * h.flags.toNat + h.fragmentOffset.toNat
  totalLength : h.totalLength = htons h.totalLengthNtoh
  identification : h.identification = htons h.identificationNtoh
  flagsFragmentOffset : h.flagsFragmentOffset = htons h.flagsFragmentOffsetNtoh
  checksum : h.checksum = htons h.checksumNtoh
  sourceAddress : h.sourceAddress = htonl h.sourceAddressNtoh
  destinationAddress : h.destinationAddress = htonl h.destinationAddressNtoh

theorem toNat_headerLength : h.headerLength.toNat = 4 * h.ihl.toNat := by
  have small : h.ihl.toNat < 2 ^ 4 := by
    rw [toNat_ihl]
    exact slice_lt _ _ _
  rw [headerLength, UInt8.toNat_mul]
  change h.ihl.toNat * 4 % 256 = _
  omega

theorem composed : h.Composed where
  headerLength := h.toNat_headerLength
  versionIhl := by
    have split := slice_add h.versionIhl.toNat 0 4 4
    rw [slice_of_lt h.versionIhl.toNat_lt] at split
    rw [toNat_version, toNat_ihl]
    exact split
  flagsFragmentOffsetNtoh := by
    have split := slice_add h.flagsFragmentOffsetNtoh.toNat 0 13 3
    rw [slice_of_lt h.flagsFragmentOffsetNtoh.toNat_lt] at split
    rw [toNat_flags, toNat_fragmentOffset]
    exact split
  totalLength := (htons_htons _).symm
  identification := (htons_htons _).symm
  flagsFragmentOffset := (htons_htons _).symm
  checksum := (htons_htons _).symm
  sourceAddress := (htonl_htonl _).symm
  destinationAddress := (htonl_htonl _).symm

structure Follows (next : IPv4Header) (calls : List IPv4Setter) : Prop where
  fields : ∀ field, next.fieldValue field =
    ((lastSet IPv4Setter.sets calls field).map (· % 2 ^ field.width)).getD (h.fieldValue field)
  composed : next.Composed
  size : next.serialize.length = 20
  mirrored : (IPv4PacketView.mk next.serialize).Mirrors next

theorem run_follows (calls : List IPv4Setter) : h.Follows (run call h calls) calls where
  fields := writesFields.run h calls
  composed := composed _
  size := length_serialize _
  mirrored := by
    have mirrors := IPv4PacketView.mirrors_serialize (run call h calls) []
    rwa [List.append_nil] at mirrors

end IPv4Header

/-- After any calls of their setters, in any order, both headers have in each field what was
last set there, as far as it fits, or what was there before, and the views of their bytes
return the same as their own getters. -/
theorem headers_follow_setters (tcp : TcpHeader) (tcpCalls : List TcpSetter) (ip : IPv4Header)
    (ipCalls : List IPv4Setter) :
    tcp.Follows (run TcpHeader.call tcp tcpCalls) tcpCalls ∧
      ip.Follows (run IPv4Header.call ip ipCalls) ipCalls :=
  ⟨tcp.run_follows tcpCalls, ip.run_follows ipCalls⟩

example : (run TcpHeader.call .empty
    [.flags 0xFFFF, .flag .syn false, .dataOffset 21]).controlWord = 0x503D := by decide

end TinyCP
