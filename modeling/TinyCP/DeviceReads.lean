import TinyCP.DamagedDatagrams
import TinyCP.OutputPath
import Mathlib.Data.List.GetD

/-!
# Reads from the device

The daemon drains the device in a loop that ends when `read_incoming_packets_` returns
zero. What `read` returns goes through three functions as a `size_t`, so that an error
passes for a length, and the test for errors is one for zero.
-/
namespace TinyCP
open EventRun WireBytes

/-- One call of `tun_read` with its environment: what `poll` and `read` return, the memory
from the start of the buffer on when they have, and what the device takes of an answer. -/
structure DeviceRead where
  pollResult : Int
  pollIn : Bool
  result : Int
  memory : Nat → UInt8
  taken : Nat
  low : -1 ≤ result
  high : result ≤ maxIPv4PacketSize

namespace DeviceRead

def polledRead (r : DeviceRead) : UInt64 :=
  if r.pollResult = 0 then 0 else if r.pollIn then UInt64.ofInt r.result else 0

def tunRead (fd : Int) (r : DeviceRead) : UInt64 := if fd < 0 then 0 else r.polledRead

/-- A span of this many bytes from the start of the buffer. -/
def span (r : DeviceRead) (size : Nat) : List UInt8 := (List.range size).map r.memory

/-- `read` is called. -/
def Performed (fd : Int) (r : DeviceRead) : Prop := 0 ≤ fd ∧ r.pollResult ≠ 0 ∧ r.pollIn = true

/-- `read` is called and fails. -/
def Fails (fd : Int) (r : DeviceRead) : Prop := r.Performed fd ∧ r.result = -1

end DeviceRead

namespace TcpStack

/-- What `write_packet_` returns for a packet without data. -/
def writeResult (stack : TcpStack) (src dst : IPv4Address) (taken : Nat) : Nat :=
  if isLocalAddress stack.localAddress src.address dst.address then 40 else taken

def closedResetResult (stack : TcpStack) (packet : Segment) (taken : Nat) : Nat :=
  if packet.rst then 0 else stack.writeResult packet.dst packet.src taken

def passiveOpenResult (stack : TcpStack) (packet : Segment) (taken : Nat) : Nat :=
  let listenerId := stack.listenerTable.find stack.socketTable packet.dst.port
  if listenerId ≠ 0 ∧ packet.syn ∧ !packet.ack then
    let (sockets, childId) :=
      stack.socketTable.createSocket .synReceived packet.dst packet.src
    match sockets.findSocket childId with
    | none => 0
    | some _ => stack.writeResult packet.dst packet.src taken
  else 0

end TcpStack

/-- What the handler of each state returns, where `written` is what `write_packet_` did. The
first two states are dealt with before. -/
def TransmissionControlBlock.receiveResult (tcb : TransmissionControlBlock) (packet : Segment)
    (written : Nat) : Nat :=
  match tcb.currentState with
  | .closed | .listen => 0
  | .synSent =>
    if packet.rst then 0
    else if packet.ack ∧ packet.ackNum ≠ tcb.snd.nxt then written
    else if packet.syn then written else 0
  | .synReceived =>
    if packet.rst then 0
    else if !packet.ack then 0
    else if packet.ackNum ≠ tcb.snd.nxt then 0
    else if packet.syn then written else 0
  | .established =>
    if packet.fin then 1 else if packet.payload.length > 0 then written else 0
  | .finWait1 =>
    if packet.ack ∧ packet.ackNum = tcb.snd.nxt then 1 else if packet.fin then 1 else 0
  | .finWait2 => if packet.fin then 1 else 0
  | .closing | .lastAck => if packet.ack ∧ packet.ackNum = tcb.snd.nxt then 1 else 0
  | .closeWait | .timeWait => 0

namespace TcpStack

/-- What `process_incoming_packet_` returns. -/
def incomingResult (stack : TcpStack) (packet : Segment) (taken : Nat) : Nat :=
  let socketId := stack.findConnectionsTcb packet.src packet.dst
  if socketId = 0 then
    if stack.listenerTable.contains stack.socketTable packet.dst.port ∧ packet.syn ∧ !packet.ack then
      stack.passiveOpenResult packet taken
    else stack.closedResetResult packet taken
  else
    match stack.getTcb socketId with
    | none => stack.closedResetResult packet taken
    | some tcb =>
      if tcb.currentState = .closed then stack.closedResetResult packet taken
      else if tcb.currentState = .listen then stack.passiveOpenResult packet taken
      else tcb.receiveResult packet (stack.writeResult tcb.srcAddress tcb.dstAddress taken)

def incomingBytesResult (stack : TcpStack) (buffer : List UInt8) (taken : Nat) : Nat :=
  match parseIncoming buffer with
  | none => 0
  | some arrived => stack.incomingResult arrived.segment taken

end TcpStack

/-- The outcome of `read_incoming_packets_`, with the span it passed on. -/
structure Received where
  stack : TcpStack
  result : Nat
  handed : Option (List UInt8)

def TcpStack.readIncomingPackets (stack : TcpStack) (fd : Int) (r : DeviceRead) (iss : UInt32) :
    Received :=
  let readSize := r.tunRead fd
  if readSize ≤ 0 then ⟨stack, 0, none⟩
  else
    let buffer := r.span readSize.toNat
    ⟨stack.processIncomingBytes buffer iss, stack.incomingBytesResult buffer r.taken, some buffer⟩

/-- The daemon at its drain loop, with a record of all spans passed on. -/
structure ReceiveLoop where
  stack : TcpStack
  draining : Bool
  handed : List (List UInt8)

inductive ReceiveEvent where
  | enter
  | read (r : DeviceRead) (iss : UInt32) (now : Int)
  | other (event : StackEvent)

namespace ReceiveLoop

/-- A read is made in the loop only, and not while the daemon is blocked. -/
def Ready (s : ReceiveLoop) : Prop := s.draining = true ∧ s.stack.waiting = none

instance (s : ReceiveLoop) : Decidable s.Ready := inferInstanceAs (Decidable (_ ∧ _))

def step (fd : Int) (s : ReceiveLoop) : ReceiveEvent → ReceiveLoop
  | .enter => { s with draining := true }
  | .read r iss now =>
    if s.Ready then
      let received := s.stack.readIncomingPackets fd r iss
      { stack := if received.result > 0 then received.stack.daemon (·.processDirtyBlocks now)
          else received.stack
        draining := received.result > 0
        handed := s.handed ++ received.handed.toList }
    else s
  | .other event => { s with stack := s.stack.step event }

end ReceiveLoop

section LongerSpans
variable {bytes : List UInt8} {offset : Nat}

theorem be16_append (within : offset + 1 < bytes.length) (rest : List UInt8) :
    be16 (bytes ++ rest) offset = be16 bytes offset := by
  rw [be16, be16, List.getD_append _ _ _ _ (by omega), List.getD_append _ _ _ _ within]

theorem be32_append (within : offset + 3 < bytes.length) (rest : List UInt8) :
    be32 (bytes ++ rest) offset = be32 bytes offset := by
  rw [be32, be32, List.getD_append _ _ _ _ (by omega), List.getD_append _ _ _ _ (by omega),
    List.getD_append _ _ _ _ (by omega), List.getD_append _ _ _ _ within]

namespace IPv4PacketView
variable (rest : List UInt8)

theorem headerLength_append (nonempty : 0 < bytes.length) :
    (mk (bytes ++ rest)).headerLength = (mk bytes).headerLength := by
  rw [headerLength, ihl, List.getD_append _ _ _ _ nonempty]
  rfl

theorem totalLengthNtoh_append (header : 20 ≤ bytes.length) :
    (mk (bytes ++ rest)).totalLengthNtoh = (mk bytes).totalLengthNtoh :=
  be16_append (by omega) rest

/-- A valid datagram is one also at the start of a longer span. -/
theorem valid_append (valid : (mk bytes).valid) : (mk (bytes ++ rest)).valid := by
  simp only [IPv4PacketView.valid, Bool.and_eq_true, decide_eq_true_eq] at valid ⊢
  obtain ⟨⟨⟨header, version⟩, least⟩, most⟩ := valid
  have sameVersion : (mk (bytes ++ rest)).version = 4 := by
    rw [IPv4PacketView.version, List.getD_append _ _ _ _ (by omega)]
    exact version
  rw [headerLength_append rest (by omega), totalLengthNtoh_append rest header, List.length_append]
  exact ⟨⟨⟨by omega, sameVersion⟩, least⟩, by omega⟩

theorem payload_append (valid : (mk bytes).valid) :
    (mk (bytes ++ rest)).payload = (mk bytes).payload := by
  simp only [IPv4PacketView.valid, Bool.and_eq_true, decide_eq_true_eq] at valid
  obtain ⟨⟨⟨header, version⟩, least⟩, most⟩ := valid
  rw [payload, headerLength_append rest (by omega), totalLengthNtoh_append rest header,
    List.drop_append_of_le_length (by omega),
    List.take_append_of_le_length (by rw [List.length_drop]; omega)]
  rfl

end IPv4PacketView

/-- Behind the end of a datagram nothing is looked at. -/
theorem parseIncoming_append {arrived : Arrived} (parsed : parseIncoming bytes = some arrived)
    (rest : List UInt8) : parseIncoming (bytes ++ rest) = some arrived := by
  have valid : (IPv4PacketView.mk bytes).valid = true := by
    by_contra invalid
    simp [parseIncoming, invalid] at parsed
  have header : 20 ≤ bytes.length := by
    simp only [IPv4PacketView.valid, Bool.and_eq_true, decide_eq_true_eq] at valid
    exact valid.1.1.1
  have source : (IPv4PacketView.mk (bytes ++ rest)).sourceAddressNtoh =
      (IPv4PacketView.mk bytes).sourceAddressNtoh := be32_append (by omega) rest
  have destination : (IPv4PacketView.mk (bytes ++ rest)).destinationAddressNtoh =
      (IPv4PacketView.mk bytes).destinationAddressNtoh := be32_append (by omega) rest
  rw [← parsed]
  simp only [parseIncoming, valid, IPv4PacketView.valid_append rest valid,
    IPv4PacketView.payload_append rest valid, source, destination]

end LongerSpans

namespace DeviceRead
variable {fd : Int} {r : DeviceRead}

theorem tunRead_of_performed (performed : r.Performed fd) :
    r.tunRead fd = UInt64.ofInt r.result := by
  obtain ⟨opened, polled, ready⟩ := performed
  rw [tunRead, if_neg (Int.not_lt.mpr opened), polledRead, if_neg polled, if_pos ready]

theorem tunRead_of_not_performed (idle : ¬ r.Performed fd) : r.tunRead fd = 0 := by
  rw [tunRead, polledRead]
  split_ifs with closed none ready
  · rfl
  · rfl
  · exact absurd ⟨Int.not_lt.mp closed, none, ready⟩ idle
  · rfl

/-- A length survives the conversion. -/
theorem toNat_tunRead (performed : r.Performed fd) (length : 0 ≤ r.result) :
    (r.tunRead fd).toNat = r.result.toNat := by
  have small : r.result ≤ 65535 := r.high
  rw [tunRead_of_performed performed, UInt64.ofInt, UInt64.toNat_ofNat']
  omega

/-- An error comes out as the greatest length there is. -/
theorem toNat_tunRead_of_fails (fails : r.Fails fd) : (r.tunRead fd).toNat = 2 ^ 64 - 1 := by
  rw [tunRead_of_performed fails.1, fails.2]
  rfl

theorem span_add (r : DeviceRead) (size more : Nat) : ∃ rest,
    r.span (size + more) = r.span size ++ rest := by
  rw [span, List.range_add, List.map_append]
  exact ⟨_, rfl⟩

end DeviceRead

theorem readIncomingPackets_of_zero {stack : TcpStack} {fd : Int} {r : DeviceRead}
    (empty : (r.tunRead fd).toNat = 0) (iss : UInt32) :
    stack.readIncomingPackets fd r iss = ⟨stack, 0, none⟩ := by
  have zero : r.tunRead fd ≤ 0 := UInt64.le_iff_toNat_le.mpr (Nat.le_of_eq empty)
  exact if_pos zero

theorem readIncomingPackets_of_pos {stack : TcpStack} {fd : Int} {r : DeviceRead}
    (nonempty : 0 < (r.tunRead fd).toNat) (iss : UInt32) :
    stack.readIncomingPackets fd r iss =
      ⟨stack.processIncomingBytes (r.span (r.tunRead fd).toNat) iss,
        stack.incomingBytesResult (r.span (r.tunRead fd).toNat) r.taken,
        some (r.span (r.tunRead fd).toNat)⟩ := by
  have positive : ¬ r.tunRead fd ≤ 0 := by
    rw [UInt64.le_iff_toNat_le]
    exact Nat.not_le.mpr nonempty
  exact if_neg positive

namespace ReceiveLoop
variable {fd : Int} {s : ReceiveLoop} {r : DeviceRead}

/-- The bytes that were read are passed on, and nothing else is; without any the call has no
effect but to end the loop. -/
structure HandsOverReads (fd : Int) (s : ReceiveLoop) (r : DeviceRead) (iss : UInt32)
    (now : Int) : Prop where
  data : r.Performed fd → 0 < r.result →
    (s.step fd (.read r iss now)).handed = s.handed ++ [r.span r.result.toNat]
  noData : ¬ (r.Performed fd ∧ 0 < r.result) → (s.step fd (.read r iss now)).stack = s.stack ∧
    (s.step fd (.read r iss now)).handed = s.handed ∧
    (s.step fd (.read r iss now)).draining = false

theorem step_read (ready : s.Ready) (r : DeviceRead) (iss : UInt32) (now : Int) :
    s.step fd (.read r iss now) =
      { stack := if (s.stack.readIncomingPackets fd r iss).result > 0 then
          (s.stack.readIncomingPackets fd r iss).stack.daemon (·.processDirtyBlocks now)
          else (s.stack.readIncomingPackets fd r iss).stack
        draining := (s.stack.readIncomingPackets fd r iss).result > 0
        handed := s.handed ++ (s.stack.readIncomingPackets fd r iss).handed.toList } :=
  if_pos ready

theorem step_read_of_zero (ready : s.Ready) (empty : (r.tunRead fd).toNat = 0) (iss : UInt32)
    (now : Int) : s.step fd (.read r iss now) = ⟨s.stack, false, s.handed⟩ := by
  rw [step_read ready, readIncomingPackets_of_zero empty]
  simp

theorem handed_of_pos (ready : s.Ready) (nonempty : 0 < (r.tunRead fd).toNat) (iss : UInt32)
    (now : Int) : (s.step fd (.read r iss now)).handed =
      s.handed ++ [r.span (r.tunRead fd).toNat] := by
  rw [step_read ready, readIncomingPackets_of_pos nonempty]
  rfl

theorem handsOverReads_iff (ready : s.Ready) (iss : UInt32) (now : Int) :
    s.HandsOverReads fd r iss now ↔ ¬ r.Fails fd := by
  constructor
  · rintro ⟨_, noData⟩ fails
    have error : r.result = -1 := fails.2
    have huge := DeviceRead.toNat_tunRead_of_fails fails
    have passed := handed_of_pos ready (by rw [huge]; decide) iss now
    rw [(noData fun h => by omega).2.1] at passed
    exact absurd passed (by simp)
  · intro succeeds
    constructor
    · intro performed positive
      have length := DeviceRead.toNat_tunRead performed (Int.le_of_lt positive)
      rw [handed_of_pos ready (by omega), length]
    · intro noData
      have empty : (r.tunRead fd).toNat = 0 := by
        by_cases performed : r.Performed fd
        · have low := r.low
          have error : r.result ≠ -1 := fun error => succeeds ⟨performed, error⟩
          have nothing : ¬ 0 < r.result := fun positive => noData ⟨performed, positive⟩
          rw [DeviceRead.toNat_tunRead performed (by omega)]
          omega
        · rw [DeviceRead.tunRead_of_not_performed performed]
          rfl
      rw [step_read_of_zero ready empty]
      exact ⟨rfl, rfl, rfl⟩

/-- In every run of the receive loop, among whatever else happens to the stack: the reads are
handed over as they are if and only if none of them fails. -/
theorem run_handsOverReads_iff (fd : Int) (s : ReceiveLoop) (events : List ReceiveEvent) :
    Throughout (step fd) (fun s event => ∀ r iss now, event = .read r iss now → s.Ready →
      s.HandsOverReads fd r iss now) s events ↔
    Throughout (step fd) (fun s event => ∀ r iss now, event = .read r iss now → s.Ready →
      ¬ r.Fails fd) s events := by
  induction events generalizing s with
  | nil => exact Iff.rfl
  | cons event events ih =>
    refine and_congr ?_ (ih _)
    refine forall_congr' fun r => forall_congr' fun iss => forall_congr' fun now => ?_
    exact forall_congr' fun _ => forall_congr' fun ready => handsOverReads_iff ready iss now

/-- A read that fails while the memory of the buffer still holds an earlier datagram. -/
def sampleFailure : DeviceRead where
  pollResult := 1
  pollIn := true
  result := -1
  memory i := sampleDamaged.getD i 0
  taken := 40
  low := by decide
  high := by decide

/-- The datagram is taken once more, and answered once more. -/
theorem failed_read_answered : ¬ ∀ (fd : Int) (s : ReceiveLoop) (events : List ReceiveEvent),
    Throughout (step fd) (fun s event => ∀ r iss now, event = .read r iss now → s.Ready →
      s.HandsOverReads fd r iss now) s events := by
  intro handsOver
  have fails : sampleFailure.Fails 3 := ⟨⟨by decide, by decide, rfl⟩, rfl⟩
  have size := DeviceRead.toNat_tunRead_of_fails fails
  -- The span starts with the 40 bytes, and they are all that is looked at.
  have stale : parseIncoming (sampleFailure.span (2 ^ 64 - 1)) =
      parseIncoming (sampleFailure.span 40) := by
    obtain ⟨rest, longer⟩ := sampleFailure.span_add 40 (2 ^ 64 - 1 - 40)
    obtain ⟨arrived, parsed⟩ : ∃ arrived, parseIncoming (sampleFailure.span 40) = some arrived :=
      Option.isSome_iff_exists.mp (by decide)
    rw [show 2 ^ 64 - 1 = 40 + (2 ^ 64 - 1 - 40) from rfl, longer, parsed]
    exact parseIncoming_append parsed rest
  have nonempty : 0 < (sampleFailure.tunRead 3).toNat := by
    rw [size]
    decide
  have read := @readIncomingPackets_of_pos (.new 0x0A000002) 3 sampleFailure nonempty 0
  rw [size] at read
  rw [TcpStack.processIncomingBytes, TcpStack.incomingBytesResult, stale] at read
  have ready : Ready ⟨.new 0x0A000002, true, []⟩ := ⟨rfl, rfl⟩
  have kept := ((handsOver 3 _ [.read sampleFailure 0 0]).1 sampleFailure 0 0 rfl ready).noData
    (fun data => absurd data.2 (by decide))
  have answered := congrArg (·.written.length) kept.1
  rw [step_read ready, read] at answered
  revert answered
  decide

end ReceiveLoop

end TinyCP
