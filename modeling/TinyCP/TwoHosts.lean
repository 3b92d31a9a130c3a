import TinyCP.RemoteTransfer
import TinyCP.SoundTraffic

/-!
# Two hosts

Two machines each run a stack, and a cable joins their devices: what one writes to its
device is what the other reads from its own, byte for byte and in order, some time later.
The hosts do what two daemons on segments do that hand the segments over directly.
-/
namespace TinyCP
open EventRun

/-- A read that hands over a datagram. `taken` is what the device takes of an answer. -/
def DeviceRead.carrying (bytes : List UInt8) (taken : Nat) : DeviceRead where
  pollResult := 1
  pollIn := true
  result := min bytes.length maxIPv4PacketSize
  memory i := bytes.getD i 0
  taken := taken
  low := by omega
  high := by omega

theorem DeviceRead.arrival_carrying {fd : Int} (opened : 0 ≤ fd) {bytes : List UInt8}
    (fits : bytes.length ≤ maxIPv4PacketSize) (taken : Nat) :
    (DeviceRead.carrying bytes taken).arrival fd = readBytes bytes := by
  have size : ((DeviceRead.carrying bytes taken).tunRead fd).toNat = bytes.length := by
    have nonneg : 0 ≤ (DeviceRead.carrying bytes taken).result := by
      change 0 ≤ min (bytes.length : Int) maxIPv4PacketSize
      omega
    rw [toNat_tunRead ⟨opened, Int.one_ne_zero, rfl⟩ nonneg]
    change (min (bytes.length : Int) maxIPv4PacketSize).toNat = bytes.length
    omega
  have whole : (DeviceRead.carrying bytes taken).span bytes.length = bytes := by
    refine List.ext_getElem (by simp [span]) fun i _ inside => ?_
    simp [span, carrying, inside]
  rw [arrival, size, whole]
  split_ifs with empty
  · rw [List.length_eq_zero_iff.mp empty]
    rfl
  · rfl

/-- The daemon is about to read the device. -/
def DaemonPoint.drains {Packet : Type} : DaemonPoint Packet → Bool
  | .stage .drain => true
  | _ => false

theorem DaemonPoint.Reads.drains {raw : DaemonPoint (List UInt8)} {point : DaemonPoint Segment}
    (reads : raw.Reads point) : raw.drains = point.drains := by
  cases reads with
  | stage reads => cases reads <;> rfl
  | _ => rfl

theorem DaemonPoint.eq_drain {point : DaemonPoint Segment} (drains : point.drains = true) :
    point = .stage .drain := by
  unfold DaemonPoint.drains at drains
  split at drains
  · rfl
  · cases drains

/-- The hosts, with how many datagrams of each have been handed over to the other. -/
structure Hosts where
  left : WireDaemon
  right : WireDaemon
  leftRead : Nat
  rightRead : Nat

/-- A step of one host. For the daemon, `ready` says that the device has noticed the next
datagram, if there is one. -/
inductive HostAction where
  | daemon (now : Int) (iss : UInt32) (ready : Bool) (taken : Nat)
  | call (made : SocketCall)
  | stop

namespace Hosts

def start (leftAddress rightAddress : UInt32) : Hosts where
  left := .start leftAddress
  right := .start rightAddress
  leftRead := 0
  rightRead := 0

def swap (h : Hosts) : Hosts where
  left := h.right
  right := h.left
  leftRead := h.rightRead
  rightRead := h.leftRead

/-- The datagrams on their way to the right, and to the left. -/
def toRight (h : Hosts) : List (List UInt8) := h.left.wire.tunDevice.drop h.leftRead

def toLeft (h : Hosts) : List (List UInt8) := h.right.wire.tunDevice.drop h.rightRead

/-- The daemon of the left host reads its device next. -/
def drains (h : Hosts) : Bool := h.left.tables.waiting.isNone && h.left.point.drains

/-- The datagram that the left device hands over in a step. -/
def handsOver (h : Hosts) : HostAction → Option (List UInt8)
  | .daemon _ _ ready _ => if ready && h.drains then h.toLeft.head? else none
  | _ => none

/-- The step of the left host, with the device as it finds it. -/
def event (h : Hosts) (action : HostAction) : LifecycleEvent :=
  match action with
  | .daemon now iss _ taken =>
    .daemon now iss ((h.handsOver action).elim Lifecycle.silent (.carrying · taken))
  | .call made => .call made
  | .stop => .stop

def stepLeft (fd : Int) (h : Hosts) (action : HostAction) (garbage : Garbage) : Hosts :=
  { h with
    left := h.left.step fd (h.event action, garbage)
    rightRead := h.rightRead + (h.handsOver action).toList.length }

def step (fd : Int) (h : Hosts) : Side × HostAction × Garbage → Hosts
  | (.a, action, garbage) => h.stepLeft fd action garbage
  | (.b, action, garbage) => (h.swap.stepLeft fd action garbage).swap

end Hosts

/-- The segments that went to the device. -/
def TcpStack.deviceOut (stack : TcpStack) : List Segment :=
  stack.written.filter fun packet => !stack.isLocal packet

theorem WireDaemon.Decodes.deviceOut_length {w : WireDaemon} {d : Lifecycle} (h : Decodes w d) :
    w.wire.tunDevice.length = d.stack.deviceOut.length := by
  simpa [TcpStack.deviceOut] using congrArg List.length h.carries.tun

theorem Wire.writeAll_device (wire : Wire) (localAddress : UInt32) (garbage : Garbage)
    (packets : List Segment) :
    wire.tunDevice <+: (wire.writeAll localAddress garbage packets).tunDevice := by
  induction packets generalizing wire garbage with
  | nil => exact List.prefix_rfl
  | cons packet packets ih =>
    refine List.IsPrefix.trans ?_ (ih _ _)
    rw [Wire.writePacket]
    split_ifs
    · exact List.prefix_rfl
    · exact List.prefix_append _ _

/-- What the device has been given is not taken back. -/
theorem WireDaemon.step_device (fd : Int) (w : WireDaemon) (event : LifecycleEvent × Garbage) :
    w.wire.tunDevice <+: (w.step fd event).wire.tunDevice := by
  obtain ⟨event, garbage⟩ := event
  have operates : ∀ op, w.wire.tunDevice <+: (w.operate garbage op).wire.tunDevice := fun op =>
    w.wire.writeAll_device (op w.tables).localAddress garbage (op w.tables).written
  cases event with
  | call made => exact operates _
  | stop => exact List.prefix_rfl
  | daemon now iss read =>
    rw [step, advance]
    split_ifs
    · exact operates _
    · rw [work]
      split
      · split_ifs <;> exact List.prefix_rfl
      · exact List.prefix_rfl
      · exact List.prefix_rfl
      · exact operates (·.processBlock _ now)
      · exact List.prefix_rfl
      · exact List.prefix_rfl
      · exact operates (·.processIncomingBytes _ iss)
      · exact operates fun stack => (stack.readIncomingPackets fd read iss).stack
      · exact operates (·.checkRetransmissions now)
      · exact List.prefix_rfl

namespace Hosts

/-- The two daemons as daemons on segments, with what each has sent to the other. -/
structure Running (h : Hosts) (l r : Lifecycle) : Prop where
  decodesL : h.left.Decodes l
  decodesR : h.right.Decodes r
  soundL : h.left.wire.AllSound
  soundR : h.right.wire.AllSound
  sentL : h.leftRead ≤ l.stack.deviceOut.length
  sentR : h.rightRead ≤ r.stack.deviceOut.length

namespace Running
variable {h : Hosts} {l r : Lifecycle}

theorem mirror (c : Running h l r) : Running h.swap r l :=
  ⟨c.decodesR, c.decodesL, c.soundR, c.soundL, c.sentR, c.sentL⟩

/-- What is on the cable decodes to what the right stack has sent. -/
theorem toLeft_reads (c : Running h l r) :
    h.toLeft.map readBytes = (r.stack.deviceOut.drop h.rightRead).map some := by
  rw [toLeft, List.map_drop, List.map_drop]
  exact congrArg (List.drop h.rightRead) c.decodesR.carries.tun

/-- The daemons on bytes and on segments are at the device at the same time. -/
theorem drains_eq (c : Running h l r) : h.drains = (l.stack.waiting.isNone && l.point.drains) := by
  rw [drains, c.decodesL.point.drains, c.decodesL.tables]
  rfl

theorem at_drain (c : Running h l r) (drains : h.drains = true) :
    l.stack.waiting = none ∧ l.point = .stage .drain := by
  rw [c.drains_eq] at drains
  obtain ⟨awake, there⟩ := Bool.and_eq_true_iff.mp drains
  exact ⟨Option.isNone_iff_eq_none.mp awake, DaemonPoint.eq_drain there⟩

/-- The device hands over the segment that comes next on the cable. -/
theorem handed {fd : Int} (c : Running h l r) (opened : 0 ≤ fd) {now : Int} {iss : UInt32} {ready : Bool}
    {answer : Nat} {bytes : List UInt8}
    (handed : h.handsOver (.daemon now iss ready answer) = some bytes) :
    ∃ packet later, r.stack.deviceOut.drop h.rightRead = packet :: later ∧
      l.stack.waiting = none ∧ l.point = .stage .drain ∧
      (DeviceRead.carrying bytes answer).arrival fd = some packet := by
  have ready : ready && h.drains := by
    by_contra not
    rw [handsOver, if_neg not] at handed
    cases handed
  rw [handsOver, if_pos ready] at handed
  obtain ⟨rest, queued⟩ := List.head?_eq_some_iff.mp handed
  have reads := c.toLeft_reads
  rw [queued, List.map_cons] at reads
  obtain ⟨packet, later, onCable, parsed, _⟩ := List.map_eq_cons_iff.mp reads.symm
  have sent : bytes ∈ h.right.wire.tunDevice :=
    List.mem_of_mem_drop (queued ▸ List.mem_cons_self : bytes ∈ h.toLeft)
  have fits : bytes.length ≤ maxIPv4PacketSize :=
    (c.soundR bytes (List.mem_append_right _ sent)).fits.trans (by decide)
  have arrives := DeviceRead.arrival_carrying opened fits answer
  obtain ⟨awake, point⟩ := c.at_drain (Bool.and_eq_true_iff.mp ready).2
  exact ⟨packet, later, onCable, awake, point, arrives.trans parsed.symm⟩

/-- The segment that the left daemon takes is the one that its device hands over. -/
theorem taken_eq {fd : Int} (c : Running h l r) (opened : 0 ≤ fd) (action : HostAction) :
    r.stack.deviceOut.drop h.rightRead = (l.taken fd (h.event action)).toList ++
      r.stack.deviceOut.drop (h.rightRead + (h.handsOver action).toList.length) := by
  cases action with
  | call made => rfl
  | stop => rfl
  | daemon now iss ready answer =>
    have event : h.event (.daemon now iss ready answer) = .daemon now iss
        ((h.handsOver (.daemon now iss ready answer)).elim Lifecycle.silent (.carrying · answer)) := rfl
    cases handed : h.handsOver (.daemon now iss ready answer) with
    | none =>
      have nothing : Lifecycle.silent.arrival fd = none := by
        have empty : Lifecycle.silent.tunRead fd = 0 := by
          rw [DeviceRead.tunRead]
          split_ifs <;> rfl
        rw [DeviceRead.arrival, empty]
        rfl
      have none : l.taken fd (h.event (.daemon now iss ready answer)) = none := by
        rw [event, handed, Option.elim_none, Lifecycle.taken, nothing]
        split_ifs
        · rfl
        · split <;> rfl
      rw [none]
      rfl
    | some bytes =>
      obtain ⟨packet, later, onCable, awake, point, arrives⟩ := c.handed opened handed
      have took : l.taken fd (.daemon now iss (.carrying bytes answer)) = some packet := by
        rw [Lifecycle.taken, awake, point]
        exact arrives
      have rest : r.stack.deviceOut.drop (h.rightRead + 1) = later := by
        rw [← List.drop_drop, onCable]
        rfl
      rw [event, handed, Option.elim_some, took, onCable]
      exact congrArg (packet :: ·) rest.symm

theorem handsOver_le (c : Running h l r) (action : HostAction) :
    h.rightRead + (h.handsOver action).toList.length ≤ r.stack.deviceOut.length := by
  have sent := c.sentR
  cases handed : h.handsOver action with
  | none => exact sent
  | some bytes =>
    have there : h.toLeft ≠ [] := by
      cases action with
      | daemon now iss ready answer =>
        rw [handsOver] at handed
        split_ifs at handed
        intro empty
        rw [empty] at handed
        cases handed
      | _ => cases handed
    have same : h.toLeft.length = (r.stack.deviceOut.drop h.rightRead).length := by
      simpa using congrArg List.length c.toLeft_reads
    rw [List.length_drop] at same
    have positive := List.length_pos_iff.mpr there
    change h.rightRead + 1 ≤ _
    omega

theorem stepLeft (c : Running h l r) (fd : Int) (action : HostAction) (garbage : Garbage) :
    Running (h.stepLeft fd action garbage) (l.step fd (h.event action)) r := by
  have decodes : (h.left.step fd (h.event action, garbage)).Decodes (l.step fd (h.event action)) :=
    c.decodesL.step (h.event action, garbage)
  refine ⟨decodes, c.decodesR, WireDaemon.step_sound c.decodesL c.soundL (h.event action, garbage),
    c.soundR, ?_, c.handsOver_le action⟩
  have kept := (h.left.step_device fd (h.event action, garbage)).length_le
  rw [c.decodesL.deviceOut_length, decodes.deviceOut_length] at kept
  exact c.sentL.trans kept

end Running

end Hosts

/-- The result of `read_incoming_packets_` is that of the segment it reads. -/
theorem TcpStack.readIncomingPackets_result {stack : TcpStack} {fd : Int} {read : DeviceRead}
    {packet : Segment} (arrives : read.arrival fd = some packet) (iss : UInt32) :
    (stack.readIncomingPackets fd read iss).result = stack.incomingResult packet read.taken := by
  rw [DeviceRead.arrival] at arrives
  split_ifs at arrives with empty
  rw [readIncomingPackets_of_pos (Nat.pos_of_ne_zero empty), incomingBytesResult]
  obtain ⟨arrived, parsed, same⟩ := Option.map_eq_some_iff.mp arrives
  rw [parsed, ← same]

/-- Two daemons on segments, with how many segments of each have been handed over. -/
structure SegmentHosts where
  left : Lifecycle
  right : Lifecycle
  leftRead : Nat
  rightRead : Nat

namespace SegmentHosts

def start (leftAddress rightAddress : UInt32) : SegmentHosts where
  left := .start leftAddress
  right := .start rightAddress
  leftRead := 0
  rightRead := 0

def swap (s : SegmentHosts) : SegmentHosts where
  left := s.right
  right := s.left
  leftRead := s.rightRead
  rightRead := s.leftRead

def handsOver (s : SegmentHosts) : HostAction → Option Segment
  | .daemon _ _ ready _ =>
    if ready && (s.left.stack.waiting.isNone && s.left.point.drains) then
      (s.right.stack.deviceOut.drop s.rightRead).head?
    else none
  | _ => none

/-- What a step makes of the left daemon. -/
def next (fd : Int) (s : SegmentHosts) : HostAction → Lifecycle
  | .daemon now iss ready taken =>
    match s.handsOver (.daemon now iss ready taken) with
    | some packet =>
      { s.left with
        stack := s.left.stack.processIncomingPacket packet iss
        point := .afterRead (s.left.stack.incomingResult packet taken) }
    | none => s.left.step fd (.daemon now iss Lifecycle.silent)
  | .call made => s.left.step fd (.call made)
  | .stop => s.left.step fd .stop

def stepLeft (fd : Int) (s : SegmentHosts) (action : HostAction) : SegmentHosts :=
  { s with
    left := s.next fd action
    rightRead := s.rightRead + (s.handsOver action).toList.length }

def step (fd : Int) (s : SegmentHosts) : Side × HostAction × Garbage → SegmentHosts
  | (.a, action, _) => s.stepLeft fd action
  | (.b, action, _) => (s.swap.stepLeft fd action).swap

/-- The hosts on bytes are where those on segments are. -/
structure Carries (h : Hosts) (s : SegmentHosts) : Prop where
  running : Hosts.Running h s.left s.right
  leftRead : h.leftRead = s.leftRead
  rightRead : h.rightRead = s.rightRead

namespace Carries
variable {fd : Int} {h : Hosts} {s : SegmentHosts}

theorem mirror (c : Carries h s) : Carries h.swap s.swap :=
  ⟨c.running.mirror, c.rightRead, c.leftRead⟩

theorem handsOver (c : Carries h s) (action : HostAction) :
    (h.handsOver action).map readBytes = (s.handsOver action).map some := by
  cases action with
  | call made => rfl
  | stop => rfl
  | daemon now iss ready taken =>
    rw [Hosts.handsOver, SegmentHosts.handsOver, c.running.drains_eq]
    split_ifs
    · rw [← List.head?_map, ← List.head?_map, c.running.toLeft_reads, c.rightRead]
    · rfl

theorem next (c : Carries h s) (opened : 0 ≤ fd) (action : HostAction) :
    s.left.step fd (h.event action) = s.next fd action := by
  cases action with
  | call made => rfl
  | stop => rfl
  | daemon now iss ready taken =>
    have same := c.handsOver (.daemon now iss ready taken)
    rw [Hosts.event, SegmentHosts.next]
    cases handed : h.handsOver (.daemon now iss ready taken) with
    | none =>
      rw [handed] at same
      rw [Option.map_eq_none_iff.mp same.symm]
      rfl
    | some bytes =>
      obtain ⟨packet, later, onCable, awake, point, arrives⟩ := c.running.handed opened handed
      have reads : ready && (s.left.stack.waiting.isNone && s.left.point.drains) := by
        by_contra not
        rw [Hosts.handsOver, c.running.drains_eq, if_neg not] at handed
        cases handed
      have next : s.handsOver (.daemon now iss ready taken) = some packet := by
        rw [SegmentHosts.handsOver, if_pos reads, ← c.rightRead, onCable]
        rfl
      rw [next, Option.elim_some, Lifecycle.step, Lifecycle.advance, awake, Option.isSome_none,
        if_neg Bool.false_ne_true, Lifecycle.work, point]
      dsimp only
      rw [TcpStack.readIncomingPackets_stack, arrives, TcpStack.readIncomingPackets_result arrives]
      rfl

theorem stepLeft (c : Carries h s) (opened : 0 ≤ fd) (action : HostAction) (garbage : Garbage) :
    Carries (h.stepLeft fd action garbage) (s.stepLeft fd action) := by
  have running := c.running.stepLeft fd action garbage
  rw [c.next opened] at running
  have count : (h.handsOver action).toList.length = (s.handsOver action).toList.length := by
    have same := congrArg Option.isSome (c.handsOver action)
    rw [Option.isSome_map, Option.isSome_map] at same
    rw [Option.length_toList, Option.length_toList, same]
  refine ⟨running, c.leftRead, ?_⟩
  change h.rightRead + _ = s.rightRead + _
  rw [c.rightRead, count]

theorem step (c : Carries h s) (opened : 0 ≤ fd) (event : Side × HostAction × Garbage) :
    Carries (h.step fd event) (s.step fd event) := by
  obtain ⟨side, action, garbage⟩ := event
  cases side with
  | a => exact c.stepLeft opened action garbage
  | b => exact (c.mirror.stepLeft opened action garbage).mirror

theorem run (c : Carries h s) (opened : 0 ≤ fd) (events : List (Side × HostAction × Garbage)) :
    Carries (EventRun.run (Hosts.step fd) h events) (EventRun.run (SegmentHosts.step fd) s events) := by
  induction events generalizing h s with
  | nil => exact c
  | cons event events ih => exact ih (c.step opened event)

end Carries

/-- From their start on, two hosts with a cable between them do what two daemons do that hand
their segments over. -/
theorem reached {fd : Int} (opened : 0 ≤ fd) (leftAddress rightAddress : UInt32)
    (history : List (Side × HostAction × Garbage)) :
    Carries (run (Hosts.step fd) (.start leftAddress rightAddress) history)
      (run (step fd) (start leftAddress rightAddress) history) := by
  have initial : Carries (.start leftAddress rightAddress) (start leftAddress rightAddress) := by
    refine ⟨⟨⟨rfl, ⟨rfl, rfl⟩, .top, rfl⟩, ⟨rfl, ⟨rfl, rfl⟩, .top, rfl⟩, ?_, ?_, Nat.zero_le _,
      Nat.zero_le _⟩, rfl, rfl⟩
    · intro bytes none
      cases none
    · intro bytes none
      cases none
  exact initial.run opened history

end SegmentHosts
end TinyCP
