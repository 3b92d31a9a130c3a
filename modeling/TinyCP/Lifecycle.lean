import TinyCP.SocketEndpoint
import TinyCP.DeviceReads

/-!
# The daemon thread

`lifecycle_` takes the dirty ids and the loopback packets over in batches and works on
them one after the other, while other threads call into the stack. A step of the daemon
is what it does between two such calls: it takes a queue over, processes one block or
one packet, or visits all sockets under the lock of their table. The point at which the
daemon stands holds the part of a batch that is left. For each socket that lives on,
the daemon's steps and the calls of all threads are again the steps of one endpoint.
-/
namespace TinyCP
open EventRun

namespace StackEvent

/-- The events that are calls of `TcpSocket`. -/
def isCall : StackEvent → Bool
  | .bind .. | .listen .. | .connect .. | .accept .. | .send .. | .recv .. | .close .. => true
  | _ => false

end StackEvent

structure SocketCall where
  event : StackEvent
  made : event.isCall = true

/-- The parts of one iteration between which `process_dirty_blocks_` is called, for packets
in any representation. -/
inductive Stage (Packet : Type) where
  | takeLoopback
  | loopback (batch : List Packet)
  | drain

def Stage.batch {Packet : Type} : Stage Packet → List Packet
  | .loopback packets => packets
  | _ => []

/-- Where the daemon stands. `takeDirty` and `dirty` are the two parts of
`process_dirty_blocks_`, with what comes after the call. -/
inductive DaemonPoint (Packet : Type) where
  | top
  | takeDirty (next : Stage Packet)
  | dirty (ids : List UInt64) (next : Stage Packet)
  | stage (current : Stage Packet)
  | retransmit
  | finished

namespace DaemonPoint
variable {Packet : Type}

/-- The ids that were taken from the queue and are not processed yet. -/
def pending : DaemonPoint Packet → List UInt64
  | .dirty ids _ => ids
  | _ => []

/-- The packets that were taken from the loopback queue and are not processed yet. -/
def batch : DaemonPoint Packet → List Packet
  | .takeDirty next | .dirty _ next | .stage next => next.batch
  | _ => []

/-- The loop over the device goes on as long as `read_incoming_packets_` returns something. -/
def afterRead (result : Nat) : DaemonPoint Packet :=
  if result > 0 then .takeDirty .drain else .retransmit

@[simp] theorem pending_afterRead (result : Nat) :
    (afterRead result : DaemonPoint Packet).pending = [] := by
  rw [afterRead]
  split_ifs <;> rfl

@[simp] theorem batch_afterRead (result : Nat) :
    (afterRead result : DaemonPoint Packet).batch = [] := by
  rw [afterRead]
  split_ifs <;> rfl

end DaemonPoint

structure Lifecycle where
  stack : TcpStack
  point : DaemonPoint Segment
  isRunning : Bool

/-- A step of the daemon comes with the clock, the random number and the device as it finds
them. -/
inductive LifecycleEvent where
  | daemon (now : Int) (iss : UInt32) (read : DeviceRead)
  | call (made : SocketCall)
  | stop

namespace Lifecycle

def start (localAddress : UInt32) : Lifecycle where
  stack := .new localAddress
  point := .top
  isRunning := true

/-- The next step of the daemon when it is not blocked. -/
def work (fd : Int) (d : Lifecycle) (now : Int) (iss : UInt32) (read : DeviceRead) : Lifecycle :=
  match d.point with
  | .top =>
    if !d.isRunning then { d with point := .finished }
    else if d.stack.dirtySocketIds = [] then { d with point := .stage .takeLoopback }
    else { d with point := .takeDirty .takeLoopback }
  | .takeDirty next =>
    { d with
      stack := { d.stack with dirtySocketIds := [] }
      point := .dirty d.stack.dirtySocketIds next }
  | .dirty [] next => { d with point := .stage next }
  | .dirty (socketId :: ids) next =>
    { d with stack := d.stack.processBlock socketId now, point := .dirty ids next }
  | .stage .takeLoopback =>
    { d with
      stack := { d.stack with loopbackPacketQueue := [] }
      point := .stage (.loopback d.stack.loopbackPacketQueue) }
  | .stage (.loopback []) => { d with point := .stage .drain }
  | .stage (.loopback (packet :: batch)) =>
    { d with
      stack := d.stack.processIncomingPacket packet iss
      point := .takeDirty (.loopback batch) }
  | .stage .drain =>
    let received := d.stack.readIncomingPackets fd read iss
    { d with
      stack := received.stack
      point := .afterRead received.result }
  | .retransmit => { d with stack := d.stack.checkRetransmissions now, point := .top }
  | .finished => d

/-- Inside `recv_buffer.write` the daemon can only try to go on with the write. -/
def advance (fd : Int) (d : Lifecycle) (now : Int) (iss : UInt32) (read : DeviceRead) :
    Lifecycle :=
  if d.stack.waiting.isSome then { d with stack := d.stack.step .resumeWrite }
  else d.work fd now iss read

def step (fd : Int) (d : Lifecycle) : LifecycleEvent → Lifecycle
  | .daemon now iss read => d.advance fd now iss read
  | .call made => { d with stack := d.stack.step made.event }
  | .stop => { d with isRunning := false }

end Lifecycle

/-- The segment that `read_incoming_packets_` passes on, if the device has one. -/
def DeviceRead.arrival (fd : Int) (r : DeviceRead) : Option Segment :=
  if (r.tunRead fd).toNat = 0 then none
  else (parseIncoming (r.span (r.tunRead fd).toNat)).map Arrived.segment

theorem TcpStack.readIncomingPackets_stack (stack : TcpStack) (fd : Int) (r : DeviceRead)
    (iss : UInt32) : (stack.readIncomingPackets fd r iss).stack =
      ((r.arrival fd).map (stack.processIncomingPacket · iss)).getD stack := by
  rw [DeviceRead.arrival]
  split_ifs with empty
  · rw [readIncomingPackets_of_zero empty]
    rfl
  · rw [readIncomingPackets_of_pos (Nat.pos_of_ne_zero empty), processIncomingBytes]
    cases parseIncoming (r.span (r.tunRead fd).toNat) with
    | none => rfl
    | some arrived => rfl

namespace TcpStack.Holds
variable {stack : TcpStack} {id : UInt64} {pending : List UInt64} {e : Endpoint}

/-- A call of any thread, made while the daemon has a batch of ids left. -/
theorem call (h : Holds id pending stack e) {event : StackEvent} (made : event.isCall = true)
    (fresh : stack.socketTable.nextId ≠ id) (connected : ¬ Configures id event)
    (lives : ∀ socketId now, event = .close socketId now →
      ((stack.step event).getTcb id).isSome) :
    Holds id pending (stack.step event) (run Endpoint.step e (stack.actionsFor id event)) := by
  cases event with
  | bind addr iss => exact h.bind fresh addr iss
  | listen socketId => exact h.listen_other connected
  | connect socketId addr iss => exact h.connect_other fresh connected addr iss
  | accept socketId => exact h.accept_other connected
  | send socketId data =>
    rw [actionsFor]
    by_cases same : socketId = id
    · rw [same, if_pos rfl]
      exact h.send data
    · rw [if_neg same]
      exact h.send_other same data
  | recv socketId len =>
    rw [actionsFor]
    by_cases same : socketId = id
    · rw [same, if_pos rfl]
      exact h.recv len
    · rw [if_neg same]
      exact h.recv_other same len
  | close socketId now =>
    rw [actionsFor]
    by_cases same : socketId = id
    · rw [same] at lives ⊢
      rw [if_pos rfl]
      exact h.close now (lives id now rfl)
    · rw [if_neg same]
      exact h.close_other same now (lives socketId now rfl)
  | _ => cases made

/-- The queue of dirty ids is taken over. -/
theorem takeDirty (h : Holds id [] stack e) :
    Holds id stack.dirtySocketIds { stack with dirtySocketIds := [] } e := by
  refine ⟨h.block, h.unlisted, ?_, h.waiting, h.emitted⟩
  rw [List.append_nil]
  exact h.dirty

/-- One turn of the loop of `process_dirty_blocks_`. -/
theorem turn {first : UInt64} {ids : List UInt64} (h : Holds id (first :: ids) stack e)
    (awake : e.waiting = none) (now : Int) :
    Holds id ids (stack.processBlock first now)
      (run Endpoint.step e (if first = id then [.processDirty now] else [])) := by
  by_cases same : first = id
  · rw [if_pos same]
    rw [same] at h ⊢
    exact (h.processBlock_own awake now).1
  · rw [if_neg same]
    exact h.processBlock_other same now

end TcpStack.Holds

namespace Lifecycle

/-- What the daemon's next step is for the endpoint of this socket. -/
def workFor (fd : Int) (id : UInt64) (d : Lifecycle) (now : Int) (read : DeviceRead) :
    List Action :=
  match d.point with
  | .dirty (socketId :: _) _ => if socketId = id then [.processDirty now] else []
  | .stage (.loopback (packet :: _)) => d.stack.receives id packet
  | .stage .drain => (read.arrival fd).toList.flatMap (d.stack.receives id)
  | .retransmit => [.checkRetransmissions now]
  | _ => []

/-- What a step of any thread is for it. -/
def actionsFor (fd : Int) (id : UInt64) (d : Lifecycle) : LifecycleEvent → List Action
  | .call made => d.stack.actionsFor id made.event
  | .stop => []
  | .daemon now _ read =>
    if d.stack.waiting.isSome then [.resumeWrite] else d.workFor fd id now read

/-- The step neither sets the socket up nor removes it, and ids have not wrapped around. -/
structure Serves (fd : Int) (id : UInt64) (d : Lifecycle) (event : LifecycleEvent) : Prop where
  fresh : d.stack.socketTable.nextId ≠ id
  connected : ∀ made, event = .call made → ¬ TcpStack.Configures id made.event
  lives : ((d.step fd event).stack.getTcb id).isSome

/-- The endpoint is what the stack and the daemon keep for the socket. -/
def Holds (id : UInt64) (d : Lifecycle) (e : Endpoint) : Prop :=
  d.stack.Holds id d.point.pending e

namespace Holds
variable {fd : Int} {id : UInt64} {d : Lifecycle} {e : Endpoint}

theorem work (h : Holds id d e) (awake : d.stack.waiting = none)
    (fresh : d.stack.socketTable.nextId ≠ id) (now : Int) (iss : UInt32) (read : DeviceRead)
    (lives : ((d.work fd now iss read).stack.getTcb id).isSome) :
    Holds id (d.work fd now iss read) (run Endpoint.step e (d.workFor fd id now read)) := by
  obtain ⟨stack, point, isRunning⟩ := d
  dsimp only at awake fresh
  have received : ∀ packet, stack.Holds id [] e →
      ((stack.processIncomingPacket packet iss).getTcb id).isSome →
      (stack.processIncomingPacket packet iss).Holds id []
        (run Endpoint.step e (stack.receives id packet)) := by
    intro packet held lives
    have through := held.receives fresh packet iss
    simp only [TcpStack.daemon, awake, Option.isSome_none, Bool.false_eq_true, if_false] at through
    exact through lives
  cases point with
  | top =>
    rw [Lifecycle.work]
    split_ifs <;> exact h
  | takeDirty next => exact TcpStack.Holds.takeDirty h
  | dirty ids next =>
    cases ids with
    | nil => exact h
    | cons socketId ids => exact TcpStack.Holds.turn h (TcpStack.Holds.awake h awake) now
  | stage current =>
    cases current with
    | takeLoopback => exact h.frame rfl h.unlisted rfl rfl (List.Sublist.refl _)
    | loopback batch =>
      cases batch with
      | nil => exact h
      | cons packet batch => exact received packet h lives
    | drain =>
      simp only [Lifecycle.work, Holds, DaemonPoint.pending_afterRead, workFor, TcpStack.readIncomingPackets_stack]
        at lives ⊢
      cases arrived : read.arrival fd with
      | none => exact h
      | some packet =>
        rw [arrived] at lives
        simpa using received packet h lives
  | retransmit => exact TcpStack.Holds.checkRetransmissions h (TcpStack.Holds.awake h awake) now
  | finished => exact h

theorem step (h : Holds id d e) {event : LifecycleEvent} (serves : Serves fd id d event) :
    Holds id (d.step fd event) (run Endpoint.step e (d.actionsFor fd id event)) := by
  obtain ⟨fresh, connected, lives⟩ := serves
  cases event with
  | call made =>
    exact TcpStack.Holds.call h made.made fresh (connected made rfl) fun _ _ _ => lives
  | stop => exact h
  | daemon now iss read =>
    rw [Lifecycle.step, advance] at lives ⊢
    by_cases blocked : d.stack.waiting.isSome
    · rw [if_pos blocked] at lives ⊢
      rw [Lifecycle.actionsFor, if_pos blocked]
      exact TcpStack.Holds.resumeWrite h lives
    · rw [if_neg blocked] at lives ⊢
      rw [Lifecycle.actionsFor, if_neg blocked]
      exact h.work (Option.not_isSome_iff_eq_none.mp blocked) fresh now iss read lives

end Holds

/-- However the calls of the other threads fall between the steps of the daemon, each socket
that lives on runs as an endpoint by itself. -/
theorem interleaved_run_holds {fd : Int} {d : Lifecycle} {id : UInt64} {e : Endpoint} (initial : Holds id d e)
    (events : List LifecycleEvent) (served : Throughout (step fd) (Serves fd id) d events) :
    Holds id (run (step fd) d events)
      (run Endpoint.step e (actionsOf (step fd) (actionsFor fd id) d events)) :=
  run_simulates (fun _ _ _ serves held => held.step serves) initial events served

/-- A device that has nothing to read. -/
def silent : DeviceRead where
  pollResult := 0
  pollIn := false
  result := 0
  memory _ := 0
  taken := 0
  low := by decide
  high := by decide

/-- The daemon at the top of its loop, with socket 2 established by a passive open. -/
def sampleServer : Lifecycle where
  stack := run TcpStack.step (.new 0x0A000002)
    [.bind ⟨0x0A000002, 8080⟩ 0, .listen 1,
      .incoming { sampleSegment 100 0 65535 [] with syn := true, ack := false } 300,
      .incoming (sampleSegment 101 301 65535 []) 0]
  point := .top
  isRunning := true

/-- The second call falls between the two parts of `process_dirty_blocks_`. -/
def sampleInterleaving : List LifecycleEvent :=
  [.call ⟨.send 2 [1, 2], rfl⟩, .daemon 0 0 silent, .daemon 0 0 silent,
    .call ⟨.send 2 [3], rfl⟩, .daemon 0 0 silent]

theorem sampleServer_interleaved :
    (run Endpoint.step (.fresh sampleTcb) (actionsOf (step 3) (actionsFor 3 2) sampleServer
      sampleInterleaving)).accepted = [1, 2, 3] ∧
    ∃ tcb, Holds 2 (run (step 3) sampleServer sampleInterleaving)
      (run Endpoint.step (.fresh tcb) (actionsOf (step 3) (actionsFor 3 2) sampleServer
        sampleInterleaving)) := by
  refine ⟨by decide, _, interleaved_run_holds ⟨rfl, ?_, by decide, by decide, List.nil_sublist _⟩
    sampleInterleaving ?_⟩
  · intro port
    by_cases listening : port = 8080
    · rw [listening]
      decide
    · exact ne_of_eq_of_ne (AList.lookup_insert_ne listening)
        (by simp [TcpStack.new, ListenerTable.new])
  · have served : ∀ made : SocketCall, ¬ TcpStack.Configures 2 made.event →
        ∀ other, LifecycleEvent.call made = .call other → ¬ TcpStack.Configures 2 other.event := by
      rintro made apart other ⟨⟩
      exact apart
    refine ⟨⟨by decide, served _ (by simp [TcpStack.Configures]), by decide⟩,
      ⟨by decide, fun _ => nofun, by decide⟩, ⟨by decide, fun _ => nofun, by decide⟩,
      ⟨by decide, served _ (by simp [TcpStack.Configures]), by decide⟩,
      ⟨by decide, fun _ => nofun, by decide⟩, trivial⟩

end Lifecycle
end TinyCP
