import TinyCP.Emissions
import TinyCP.OutputPath

/-!
# The daemon on bytes

What the stack really queues for itself are the bytes of datagrams: `write_packet_`
serializes every segment, and `process_incoming_packet_` parses it again when its turn
comes. The daemon below keeps the loopback queue, its batch and what went to the device as
bytes, and has arbitrary bytes in the buffers of each write. It does, step by step, what
the daemon does on segments.
-/
namespace TinyCP
open EventRun

/-- What the two buffers of each call of `write_packet_` hold before. -/
def Garbage := Nat → PacketBuffer × PacketBuffer

namespace Wire

/-- The segments of one operation, written one after the other. -/
def writeAll (localAddress : UInt32) : Wire → Garbage → List Segment → Wire
  | wire, _, [] => wire
  | wire, garbage, packet :: packets =>
    writeAll localAddress
      (wire.writePacket localAddress packet.src packet.dst packet.tcpPacket (garbage 0).1
        (garbage 0).2)
      (fun n => garbage (n + 1)) packets

theorem Carries.of_same {wire : Wire} {stack next : TcpStack} (h : wire.Carries stack)
    (queue : next.loopbackPacketQueue = stack.loopbackPacketQueue)
    (written : next.written = stack.written) (home : next.localAddress = stack.localAddress) :
    wire.Carries next := by
  have same : next.isLocal = stack.isLocal := by
    funext packet
    rw [TcpStack.isLocal, TcpStack.isLocal, home]
  exact ⟨by rw [queue, h.loopback], by rw [written, same, h.tun]⟩

theorem Carries.writeAll {wire : Wire} {stack : TcpStack} (h : wire.Carries stack)
    {packets : List Segment} (formed : ∀ packet ∈ packets, packet.Formed) (garbage : Garbage) :
    (wire.writeAll stack.localAddress garbage packets).Carries
      (packets.foldl TcpStack.writePacket stack) := by
  induction packets generalizing wire stack garbage with
  | nil => exact h
  | cons packet packets ih =>
    have small := (formed packet List.mem_cons_self).size
    exact ih (h.writePacket (by omega) (garbage 0).1 (garbage 0).2)
      (fun other member => formed other (List.mem_cons_of_mem packet member)) _

end Wire

/-- The segment that `process_incoming_packet_` reads from these bytes. -/
def readBytes (bytes : List UInt8) : Option Segment := (parseIncoming bytes).map Arrived.segment

theorem processIncomingBytes_eq {bytes : List UInt8} {packet : Segment}
    (parsed : readBytes bytes = some packet) (stack : TcpStack) (iss : UInt32) :
    stack.processIncomingBytes bytes iss = stack.processIncomingPacket packet iss := by
  obtain ⟨arrived, found, rfl⟩ := Option.map_eq_some_iff.mp parsed
  rw [TcpStack.processIncomingBytes, found]

structure WireDaemon where
  tables : TcpStack
  wire : Wire
  point : DaemonPoint (List UInt8)
  isRunning : Bool

namespace WireDaemon

def start (localAddress : UInt32) : WireDaemon where
  tables := .new localAddress
  wire := ⟨[], []⟩
  point := .top
  isRunning := true

/-- An operation on the tables, with every segment it emits put on the wire. Between two
operations the tables hold no segments. -/
def operate (w : WireDaemon) (garbage : Garbage) (op : TcpStack → TcpStack) : WireDaemon :=
  let tables := op w.tables
  { w with
    tables := tables.withOutput [] []
    wire := w.wire.writeAll tables.localAddress garbage tables.written }

def work (fd : Int) (w : WireDaemon) (garbage : Garbage) (now : Int) (iss : UInt32)
    (read : DeviceRead) : WireDaemon :=
  match w.point with
  | .top =>
    if !w.isRunning then { w with point := .finished }
    else if w.tables.dirtySocketIds = [] then { w with point := .stage .takeLoopback }
    else { w with point := .takeDirty .takeLoopback }
  | .takeDirty next =>
    { w with
      tables := { w.tables with dirtySocketIds := [] }
      point := .dirty w.tables.dirtySocketIds next }
  | .dirty [] next => { w with point := .stage next }
  | .dirty (socketId :: ids) next =>
    { w.operate garbage (·.processBlock socketId now) with point := .dirty ids next }
  | .stage .takeLoopback =>
    { w with
      wire := { w.wire with loopbackPacketQueue := [] }
      point := .stage (.loopback w.wire.loopbackPacketQueue) }
  | .stage (.loopback []) => { w with point := .stage .drain }
  | .stage (.loopback (rawPkt :: batch)) =>
    { w.operate garbage (·.processIncomingBytes rawPkt iss) with
      point := .takeDirty (.loopback batch) }
  | .stage .drain =>
    { w.operate garbage fun stack => (stack.readIncomingPackets fd read iss).stack with
      point := .afterRead (w.tables.readIncomingPackets fd read iss).result }
  | .retransmit => { w.operate garbage (·.checkRetransmissions now) with point := .top }
  | .finished => w

def advance (fd : Int) (w : WireDaemon) (garbage : Garbage) (now : Int) (iss : UInt32)
    (read : DeviceRead) : WireDaemon :=
  if w.tables.waiting.isSome then w.operate garbage (·.step .resumeWrite)
  else w.work fd garbage now iss read

def step (fd : Int) (w : WireDaemon) : LifecycleEvent × Garbage → WireDaemon
  | (.daemon now iss read, garbage) => w.advance fd garbage now iss read
  | (.call made, garbage) => w.operate garbage (·.step made.event)
  | (.stop, _) => { w with isRunning := false }

end WireDaemon

/-- The same stage, with the bytes of the segments. -/
inductive Stage.Reads : Stage (List UInt8) → Stage Segment → Prop where
  | takeLoopback : Reads .takeLoopback .takeLoopback
  | loopback {raw : List (List UInt8)} {batch : List Segment}
      (parsed : raw.map readBytes = batch.map some) : Reads (.loopback raw) (.loopback batch)
  | drain : Reads .drain .drain

inductive DaemonPoint.Reads : DaemonPoint (List UInt8) → DaemonPoint Segment → Prop where
  | top : Reads .top .top
  | takeDirty {raw : Stage (List UInt8)} {next : Stage Segment} (reads : raw.Reads next) :
      Reads (.takeDirty raw) (.takeDirty next)
  | dirty (ids : List UInt64) {raw : Stage (List UInt8)} {next : Stage Segment}
      (reads : raw.Reads next) : Reads (.dirty ids raw) (.dirty ids next)
  | stage {raw : Stage (List UInt8)} {current : Stage Segment} (reads : raw.Reads current) :
      Reads (.stage raw) (.stage current)
  | retransmit : Reads .retransmit .retransmit
  | finished : Reads .finished .finished

theorem DaemonPoint.Reads.afterRead (result : Nat) :
    Reads (.afterRead result) (.afterRead result) := by
  rw [DaemonPoint.afterRead, DaemonPoint.afterRead]
  split_ifs
  · exact .takeDirty .drain
  · exact .retransmit

namespace WireDaemon

/-- The daemon on bytes stands where the one on segments does. -/
structure Decodes (w : WireDaemon) (d : Lifecycle) : Prop where
  tables : w.tables = d.stack.withOutput [] []
  carries : w.wire.Carries d.stack
  point : w.point.Reads d.point
  isRunning : w.isRunning = d.isRunning

namespace Decodes
variable {w : WireDaemon} {d : Lifecycle}

/-- Whatever an operation emits arrives on the wire. -/
theorem operate (h : Decodes w d) {op : TcpStack → TcpStack}
    (output : ∃ out, TcpStack.Output op d.stack out) (garbage : Garbage)
    {raw : DaemonPoint (List UInt8)} {point : DaemonPoint Segment} (reads : raw.Reads point) :
    Decodes { w.operate garbage op with point := raw }
      { d with stack := op d.stack, point := point } := by
  obtain ⟨out, output⟩ := output
  have emitted : op w.tables = (op d.stack).withOutput (out.filter d.stack.isLocal) out := by
    rw [h.tables]
    exact output.onto [] []
  have all := h.carries.writeAll output.formed garbage
  rw [TcpStack.writePackets_eq] at all
  refine ⟨?_, ?_, reads, h.isRunning⟩
  · change (op w.tables).withOutput [] [] = _
    rw [emitted]
    rfl
  · change (w.wire.writeAll (op w.tables).localAddress garbage (op w.tables).written).Carries _
    have home : (op w.tables).localAddress = d.stack.localAddress := by
      rw [emitted]
      exact output.home
    rw [home, emitted]
    exact all.of_same output.queue output.written output.home

theorem work (h : Decodes w d) {fd : Int} (garbage : Garbage) (now : Int) (iss : UInt32)
    (read : DeviceRead) :
    Decodes (w.work fd garbage now iss read) (d.work fd now iss read) := by
  have dirty : w.tables.dirtySocketIds = d.stack.dirtySocketIds := by
    rw [h.tables]
    rfl
  obtain ⟨tables, wire, raw, running⟩ := w
  obtain ⟨stack, point, isRunning⟩ := d
  have same : tables = stack.withOutput [] [] := h.tables
  have carries : wire.Carries stack := h.carries
  cases h.point with
  | top =>
    have runs : running = isRunning := h.isRunning
    rw [WireDaemon.work, Lifecycle.work]
    dsimp only at dirty ⊢
    rw [runs, dirty]
    split_ifs
    · exact ⟨same, carries, .finished, rfl⟩
    · exact ⟨same, carries, .stage .takeLoopback, rfl⟩
    · exact ⟨same, carries, .takeDirty .takeLoopback, rfl⟩
  | @takeDirty raw next reads =>
    refine ⟨?_, ⟨carries.loopback, carries.tun⟩, ?_, h.isRunning⟩
    · change { tables with dirtySocketIds := [] } = _
      rw [same]
      rfl
    · change DaemonPoint.Reads (.dirty tables.dirtySocketIds raw) (.dirty stack.dirtySocketIds next)
      rw [dirty]
      exact .dirty _ reads
  | dirty ids reads =>
    cases ids with
    | nil => exact ⟨same, carries, .stage reads, h.isRunning⟩
    | cons id ids =>
      exact h.operate (TcpStack.withTcb_output id (·.processBlock_emits now)) garbage (.dirty ids reads)
  | stage reads =>
    cases reads with
    | takeLoopback =>
      exact ⟨same, ⟨rfl, carries.tun⟩, .stage (.loopback carries.loopback), h.isRunning⟩
    | @loopback raw batch parsed =>
      cases raw with
      | nil =>
        cases batch with
        | nil => exact ⟨same, carries, .stage .drain, h.isRunning⟩
        | cons packet batch => cases parsed
      | cons rawPkt raw =>
        cases batch with
        | nil => cases parsed
        | cons packet batch =>
          obtain ⟨first, rest⟩ := List.cons.inj parsed
          simp only [WireDaemon.work, Lifecycle.work, processIncomingBytes_eq first]
          exact h.operate (TcpStack.processIncomingPacket_output packet iss) garbage
            (.takeDirty (.loopback rest))
    | drain =>
      have result : (tables.readIncomingPackets fd read iss).result =
          (stack.readIncomingPackets fd read iss).result := by
        rw [same, TcpStack.readIncomingPackets, TcpStack.readIncomingPackets]
        dsimp only
        split_ifs <;> rfl
      simp only [WireDaemon.work, Lifecycle.work, result]
      exact h.operate (TcpStack.readIncomingPackets_output fd read iss) garbage (.afterRead _)
  | retransmit => exact h.operate (TcpStack.checkRetransmissions_output now) garbage .top
  | finished => exact h

theorem step (h : Decodes w d) {fd : Int} (event : LifecycleEvent × Garbage) :
    Decodes (w.step fd event) (d.step fd event.1) := by
  obtain ⟨event, garbage⟩ := event
  cases event with
  | call made => exact h.operate (TcpStack.call_output made.made) garbage h.point
  | stop => exact ⟨h.tables, h.carries, h.point, rfl⟩
  | daemon now iss read =>
    have waiting : w.tables.waiting = d.stack.waiting := by
      rw [h.tables]
      rfl
    rw [WireDaemon.step, advance, Lifecycle.step, Lifecycle.advance, waiting]
    split_ifs
    · exact h.operate TcpStack.resumeWrite_output garbage h.point
    · exact h.work garbage now iss read

end Decodes

/-- The daemon on bytes keeps step with the daemon on segments in every run, whatever the
buffers of its writes hold before. -/
theorem run_decodes (fd : Int) {w : WireDaemon} {d : Lifecycle} (initial : Decodes w d)
    (events : List (LifecycleEvent × Garbage)) :
    Decodes (run (step fd) w events) (run (Lifecycle.step fd) d (events.map Prod.fst)) := by
  induction events generalizing w d with
  | nil => exact initial
  | cons event events ih => exact ih (initial.step event)

/-- From its start on, the tables of a stack are those of the daemon on segments, and the
bytes in its queues and at its device parse to that daemon's segments. -/
theorem wire_refines_segments (fd : Int) (localAddress : UInt32)
    (events : List (LifecycleEvent × Garbage)) :
    Decodes (run (step fd) (start localAddress) events)
      (run (Lifecycle.step fd) (.start localAddress) (events.map Prod.fst)) :=
  run_decodes fd ⟨rfl, ⟨rfl, rfl⟩, .top, rfl⟩ events

end WireDaemon
end TinyCP
