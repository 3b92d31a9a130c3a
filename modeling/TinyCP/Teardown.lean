import TinyCP.Closing

/-!
# Teardown of a connection from both sides

Without data in flight the closing handlers only depend on the state of the block
and on which of the two FINs a segment carries or acknowledges. The finite machine
below says this with no sequence numbers in it, and its reachable configurations
are few enough to be listed. Two endpoints refine it for every pair of start values.
-/
namespace TinyCP
open EventRun

namespace Teardown

/-- A FIN, with or without an acknowledgment of the peer's FIN, or that
acknowledgment alone. -/
inductive Message where
  | fin (acksFin : Bool)
  | ack
  deriving DecidableEq

def finSent : TcpState → Bool
  | .established | .closeWait => false
  | _ => true

def finReceived : TcpState → Bool
  | .closeWait | .lastAck | .closing | .closed => true
  | _ => false

/-- A call of `close_connection`, where it is permitted. -/
def close : TcpState → Option (TcpState × List Message)
  | .established => some (.finWait1, [.fin false])
  | .closeWait => some (.lastAck, [.fin true])
  | _ => none

/-- What an end does with a message it can meet; no other combination occurs. -/
def receive : TcpState → Message → Option (TcpState × List Message)
  | .established, .fin false => some (.closeWait, [.ack])
  | .finWait1, .ack => some (.finWait2, [])
  | .finWait1, .fin false => some (.closing, [.ack])
  | .finWait2, .fin true => some (.closed, [.ack])
  | .closing, .ack => some (.closed, [])
  | .lastAck, .ack => some (.closed, [])
  | _, _ => none

structure Config where
  a : TcpState
  b : TcpState
  ab : List Message
  ba : List Message
  deriving DecidableEq

namespace Config

def swap (c : Config) : Config where
  a := c.b
  b := c.a
  ab := c.ba
  ba := c.ab

def closeA (c : Config) : Option Config :=
  (close c.a).map fun next => { c with a := next.1, ab := c.ab ++ next.2 }

def deliverA (c : Config) : Option Config :=
  match c.ba with
  | [] => some c
  | message :: rest =>
    (receive c.a message).map fun next => { c with a := next.1, ab := c.ab ++ next.2, ba := rest }

def successors (c : Config) : List Config :=
  [c.closeA, c.deliverA, c.swap.closeA.map swap, c.swap.deliverA.map swap].reduceOption

/-- The configurations within the given number of steps of those listed. -/
def explore : Nat → List Config → List Config
  | 0, configs => configs
  | n + 1, configs => explore n (configs ++ configs.flatMap successors).dedup

end Config

/-- Two closes and four deliveries exhaust the machine. -/
def configs : List Config := Config.explore 6 [⟨.established, .established, [], []⟩]

theorem swap_mem : ∀ c ∈ configs, c.swap ∈ configs := by decide +kernel

theorem closeA_mem : ∀ c ∈ configs, ∀ c' ∈ c.closeA, c' ∈ configs := by decide +kernel

theorem deliverA_mem : ∀ c ∈ configs, ∃ c' ∈ configs, c.deliverA = some c' := by decide +kernel

/-- Once both ends have sent a FIN and nothing is in flight, both are closed. -/
theorem closed_of_quiet : ∀ c ∈ configs, c.ab = [] → c.ba = [] → finSent c.a = true →
    finSent c.b = true → c.a = .closed ∧ c.b = .closed := by decide +kernel

theorem finSent_close {state next : TcpState} {out : List Message}
    (h : close state = some (next, out)) : finSent next = true := by
  cases state <;> cases h <;> rfl

theorem finSent_receive {state next : TcpState} {message : Message} {out : List Message}
    (sent : finSent state = true) (h : receive state message = some (next, out)) :
    finSent next = true := by
  revert sent h
  fun_cases receive state message <;> rintro sent ⟨⟩
  · cases sent
  all_goals rfl

/-- The sequence number after a FIN at `start`, if there is one. -/
def after (start : UInt32) (sent : Bool) : UInt32 := if sent then start + 1 else start

theorem ne_succ (start : UInt32) : start ≠ start + 1 := by
  simp

/-- The segment says what the message says, between ends with these start values. -/
def Carries (mine peer : UInt32) (packet : Segment) : Message → Prop
  | .fin acksFin => packet.fin = true ∧ packet.ack = true ∧ packet.rst = false ∧
      packet.seqNum = mine ∧ packet.ackNum = after peer acksFin
  | .ack => packet.fin = false ∧ packet.ack = true ∧ packet.rst = false ∧
      packet.ackNum = peer + 1

theorem noReset_of_carries {mine peer : UInt32} {packets : List Segment} {messages : List Message}
    (carries : List.Forall₂ (Carries mine peer) packets messages) :
    ∀ packet ∈ packets, packet.rst = false := by
  induction carries with
  | nil => simp
  | @cons packet message _ _ here _ ih =>
    have head : packet.rst = false := by
      cases message with
      | fin acksFin => exact here.2.2.1
      | ack => exact here.2.2.1
    simpa only [List.forall_mem_cons] using ⟨head, ih⟩

/-- The block stands where the machine does: its two sequence variables count the FINs. -/
structure Stands (mine peer : UInt32) (tcb : TransmissionControlBlock) (state : TcpState) :
    Prop where
  state_eq : tcb.currentState = state
  nxt_eq : tcb.snd.nxt = after mine (finSent state)
  rcv_eq : tcb.rcv.nxt = after peer (finReceived state)
  empty : tcb.sendBuffer.contents = []

/-- The outcome of a call is the one the machine predicts. -/
structure Follows (mine peer : UInt32) (o : Outcome) (next : TcpState × List Message) : Prop where
  stands : Stands mine peer o.tcb next.1
  carries : List.Forall₂ (Carries mine peer) o.out next.2
  awake : o.waiting = none

theorem Stands.close {mine peer : UInt32} {tcb : TransmissionControlBlock} {state : TcpState}
    (h : Stands mine peer tcb state) {next : TcpState × List Message}
    (permitted : Teardown.close state = some next) (now : Int) :
    Follows mine peer (tcb.closeConnection now) next := by
  have nothing : tcb.nextData = [] := by
    simp [TransmissionControlBlock.nextData, h.empty]
  obtain ⟨state_eq, nxt_eq, rcv_eq, empty⟩ := h
  have closing : ∀ final acks, TransmissionControlBlock.TransmitsData tcb.currentState = true →
      tcb.snd.nxt = mine → tcb.rcv.nxt = after peer acks → finSent final = true →
      finReceived final = acks →
      Follows mine peer (tcb.closeWithFin now final) (final, [.fin acks]) := by
    intro final acks sends nxt rcv sent received
    obtain ⟨out, block⟩ := TransmissionControlBlock.closeWithFin_eq sends now final
    refine ⟨⟨?_, ?_, ?_, ?_⟩, ?_, ?_⟩
    · rw [block]
    · simp [block, nothing, nxt, sent, after]
    · simpa only [block, received] using rcv
    · simpa only [block, BlockingBuffer.contents_forceWakeUp] using empty
    · simp only [out, TransmissionControlBlock.flushOut, nothing, if_true, List.nil_append]
      refine .cons ⟨rfl, rfl, rfl, ?_, rcv⟩ .nil
      simpa [TransmissionControlBlock.sendControlPacket] using nxt
    · rfl
  revert permitted
  fun_cases Teardown.close state <;> rintro ⟨⟩
  · simp only [TransmissionControlBlock.closeConnection, state_eq]
    exact closing .finWait1 false (by rw [state_eq]; rfl) nxt_eq rcv_eq rfl rfl
  · simp only [TransmissionControlBlock.closeConnection, state_eq]
    exact closing .lastAck true (by rw [state_eq]; rfl) nxt_eq rcv_eq rfl rfl

theorem Stands.receive {mine peer : UInt32} {tcb : TransmissionControlBlock} {state : TcpState}
    (h : Stands mine peer tcb state) {packet : Segment} {message : Message}
    (carries : Carries peer mine packet message) {next : TcpState × List Message}
    (taken : Teardown.receive state message = some next) :
    Follows mine peer (tcb.receive packet) next := by
  obtain ⟨state_eq, nxt_eq, rcv_eq, empty⟩ := h
  revert taken
  fun_cases Teardown.receive state message <;> rintro ⟨⟩
  · -- the FIN in ESTABLISHED: its acknowledgment number is the own start value
    obtain ⟨fin, ack, _, seqNum, ackNum⟩ := carries
    simp only [TransmissionControlBlock.receive, state_eq,
      TransmissionControlBlock.handleEstablishedState, fin, if_true,
      TransmissionControlBlock.receiveFin, ack, seqNum, ackNum]
    exact ⟨⟨rfl, rfl, rfl, empty⟩, .cons ⟨rfl, rfl, rfl, rfl⟩ .nil, rfl⟩
  · obtain ⟨fin, ack, _, ackNum⟩ := carries
    have acks : packet.ackNum = tcb.snd.nxt := ackNum.trans nxt_eq.symm
    simp only [TransmissionControlBlock.receive, state_eq,
      TransmissionControlBlock.handleFinWait1State, ack, acks, and_self, if_true, fin,
      Bool.false_eq_true, if_false]
    exact ⟨⟨rfl, nxt_eq, rcv_eq, empty⟩, .nil, rfl⟩
  · -- the two FINs have crossed
    obtain ⟨fin, _, _, seqNum, ackNum⟩ := carries
    have early : packet.ackNum ≠ tcb.snd.nxt := by
      rw [ackNum, nxt_eq]
      exact ne_succ mine
    simp only [TransmissionControlBlock.receive, state_eq,
      TransmissionControlBlock.handleFinWait1State, early, and_false, if_false, fin, if_true,
      seqNum]
    exact ⟨⟨rfl, nxt_eq, rfl, empty⟩, .cons ⟨rfl, rfl, rfl, rfl⟩ .nil, rfl⟩
  · obtain ⟨fin, ack, _, seqNum, ackNum⟩ := carries
    simp only [TransmissionControlBlock.receive, state_eq,
      TransmissionControlBlock.handleFinWait2State, fin, if_true, ack, seqNum, ackNum]
    exact ⟨⟨rfl, rfl, rfl, empty⟩, .cons ⟨rfl, rfl, rfl, rfl⟩ .nil, rfl⟩
  · obtain ⟨_, ack, _, ackNum⟩ := carries
    have acks : packet.ackNum = tcb.snd.nxt := ackNum.trans nxt_eq.symm
    simp only [TransmissionControlBlock.receive, state_eq,
      TransmissionControlBlock.handleClosingState, TransmissionControlBlock.awaitFinalAck, ack,
      acks, and_self, if_true]
    exact ⟨⟨rfl, nxt_eq, rcv_eq, empty⟩, .nil, rfl⟩
  · obtain ⟨_, ack, _, ackNum⟩ := carries
    have acks : packet.ackNum = tcb.snd.nxt := ackNum.trans nxt_eq.symm
    simp only [TransmissionControlBlock.receive, state_eq,
      TransmissionControlBlock.handleLastAckState, TransmissionControlBlock.awaitFinalAck, ack,
      acks, and_self, if_true]
    exact ⟨⟨rfl, nxt_eq, rcv_eq, empty⟩, .nil, rfl⟩

/-- The pair of endpoints refines a configuration of the machine. -/
structure Refines (startA startB : UInt32) (p : Pair) (c : Config) : Prop where
  standsA : Stands startA startB p.a.tcb c.a
  standsB : Stands startB startA p.b.tcb c.b
  carriesAB : List.Forall₂ (Carries startA startB) p.ab c.ab
  carriesBA : List.Forall₂ (Carries startB startA) p.ba c.ba
  awakeA : p.a.waiting = none
  awakeB : p.b.waiting = none
  noResetA : ∀ packet ∈ p.a.emitted, packet.rst = false
  noResetB : ∀ packet ∈ p.b.emitted, packet.rst = false

theorem Refines.mirror {startA startB : UInt32} {p : Pair} {c : Config}
    (h : Refines startA startB p c) : Refines startB startA p.swap c.swap :=
  ⟨h.standsB, h.standsA, h.carriesBA, h.carriesAB, h.awakeB, h.awakeA, h.noResetB, h.noResetA⟩

/-- A call that follows the machine keeps the refinement. -/
theorem Refines.perform {startA startB : UInt32} {p : Pair} {c : Config}
    (h : Refines startA startB p c) {o : Outcome} {next : TcpState × List Message}
    (follows : Follows startA startB o next) :
    Refines startA startB
      { p with a := (p.a.perform o).1, ab := p.ab ++ (p.a.perform o).2 }
      { c with a := next.1, ab := c.ab ++ next.2 } := by
  refine ⟨follows.stands, h.standsB, List.rel_append h.carriesAB follows.carries, h.carriesBA,
    ?_, h.awakeB, ?_, h.noResetB⟩
  · simp [Endpoint.perform, follows.awake, h.awakeA]
  · intro packet hmem
    rcases List.mem_append.mp hmem with old | new
    · exact h.noResetA packet old
    · exact noReset_of_carries follows.carries packet new

/-- Closing where it is permitted, and delivery. -/
def MayClose (p : Pair) : Side × PairAction → Prop
  | (.a, .act (.close _)) =>
    p.a.tcb.currentState = .established ∨ p.a.tcb.currentState = .closeWait
  | (.b, .act (.close _)) =>
    p.b.tcb.currentState = .established ∨ p.b.tcb.currentState = .closeWait
  | (_, .deliver) => True
  | _ => False

theorem close_of_permitted {state : TcpState}
    (permitted : state = .established ∨ state = .closeWait) :
    ∃ next, Teardown.close state = some next := by
  rcases permitted with rfl | rfl
  · exact ⟨_, rfl⟩
  · exact ⟨_, rfl⟩

theorem Refines.closeA {startA startB : UInt32} {p : Pair} {c : Config}
    (h : Refines startA startB p c) (member : c ∈ configs)
    (permitted : p.a.tcb.currentState = .established ∨ p.a.tcb.currentState = .closeWait)
    (now : Int) :
    ∃ c' ∈ configs, Refines startA startB (p.actA (.close now)) c' ∧
      finSent c'.a = true ∧ c'.b = c.b := by
  rw [h.standsA.state_eq] at permitted
  obtain ⟨next, closes⟩ := close_of_permitted permitted
  have moved : c.closeA = some { c with a := next.1, ab := c.ab ++ next.2 } := by
    simp only [Config.closeA, closes, Option.map_some]
  exact ⟨_, closeA_mem c member _ moved, h.perform (h.standsA.close closes now),
    finSent_close closes, rfl⟩

theorem Refines.deliverA {startA startB : UInt32} {p : Pair} {c : Config}
    (h : Refines startA startB p c) (member : c ∈ configs) :
    ∃ c' ∈ configs, Refines startA startB p.deliverA c' ∧
      (finSent c.a = true → finSent c'.a = true) ∧ c'.b = c.b := by
  obtain ⟨c', member', moved⟩ := deliverA_mem c member
  refine ⟨c', member', ?_⟩
  have carries := h.carriesBA
  cases hba : p.ba with
  | nil =>
    rw [hba, List.forall₂_nil_left_iff] at carries
    simp only [Config.deliverA, carries, Option.some.injEq] at moved
    have idle : p.deliverA = p := by simp only [Pair.deliverA, h.awakeA, hba]
    rw [idle, ← moved]
    exact ⟨h, id, rfl⟩
  | cons packet rest =>
    rw [hba, List.forall₂_cons_left_iff] at carries
    obtain ⟨message, messages, here, later, cba⟩ := carries
    simp only [Config.deliverA, cba, Option.map_eq_some_iff] at moved
    obtain ⟨next, taken, rfl⟩ := moved
    refine ⟨?_, fun sent => finSent_receive sent taken, rfl⟩
    have without : Refines startA startB { p with ba := rest } { c with ba := messages } :=
      ⟨h.standsA, h.standsB, h.carriesAB, later, h.awakeA, h.awakeB, h.noResetA, h.noResetB⟩
    have acted : p.deliverA = { p with
        a := (p.a.perform (p.a.tcb.receive packet)).1
        ab := p.ab ++ (p.a.perform (p.a.tcb.receive packet)).2
        ba := rest } := by
      simp [Pair.deliverA, h.awakeA, hba, Pair.actA, Endpoint.act, Endpoint.daemon]
    rw [acted]
    exact without.perform (h.standsA.receive here taken)

/-- The pair is where the machine can be. -/
def Reached (startA startB : UInt32) (p : Pair) : Prop :=
  ∃ c ∈ configs, Refines startA startB p c

def HasClosed (e : Endpoint) : Prop := finSent e.tcb.currentState = true

/-- What one permitted step does to the pair: no end takes its FIN back. -/
structure Progress (startA startB : UInt32) (p p' : Pair) : Prop where
  reached : Reached startA startB p'
  keepsA : HasClosed p.a → HasClosed p'.a
  keepsB : HasClosed p.b → HasClosed p'.b

theorem Progress.of_refines {startA startB : UInt32} {p p' : Pair} {c c' : Config}
    (h : Refines startA startB p c) (member : c' ∈ configs) (h' : Refines startA startB p' c')
    (keepsA : finSent c.a = true → finSent c'.a = true) (sameB : c'.b = c.b) :
    Progress startA startB p p' := by
  refine ⟨⟨c', member, h'⟩, ?_, ?_⟩
  · simpa only [HasClosed, h.standsA.state_eq, h'.standsA.state_eq] using keepsA
  · simp only [HasClosed, h.standsB.state_eq, h'.standsB.state_eq, sameB, imp_self]

theorem Progress.mirror {startA startB : UInt32} {p p' : Pair}
    (h : Progress startB startA p.swap p') : Progress startA startB p p'.swap := by
  obtain ⟨c, member, refines⟩ := h.reached
  exact ⟨⟨c.swap, swap_mem c member, refines.mirror⟩, h.keepsB, h.keepsA⟩

theorem Reached.mirror {startA startB : UInt32} {p : Pair} (h : Reached startA startB p) :
    Reached startB startA p.swap := by
  obtain ⟨c, member, refines⟩ := h
  exact ⟨c.swap, swap_mem c member, refines.mirror⟩

theorem Reached.closeA {startA startB : UInt32} {p : Pair} (h : Reached startA startB p)
    (permitted : p.a.tcb.currentState = .established ∨ p.a.tcb.currentState = .closeWait)
    (now : Int) :
    Progress startA startB p (p.actA (.close now)) ∧ HasClosed (p.actA (.close now)).a := by
  obtain ⟨c, member, refines⟩ := h
  obtain ⟨c', member', refines', sent, same⟩ := refines.closeA member permitted now
  refine ⟨.of_refines refines member' refines' (fun _ => sent) same, ?_⟩
  simpa only [HasClosed, refines'.standsA.state_eq] using sent

theorem Reached.deliverA {startA startB : UInt32} {p : Pair} (h : Reached startA startB p) :
    Progress startA startB p p.deliverA := by
  obtain ⟨c, member, refines⟩ := h
  obtain ⟨c', member', refines', keeps, same⟩ := refines.deliverA member
  exact .of_refines refines member' refines' keeps same

/-- The events that are a close of the given side. -/
def Closes (side : Side) (event : Side × PairAction) : Prop :=
  ∃ now, event = (side, .act (.close now))

theorem Reached.step {startA startB : UInt32} {p : Pair} (h : Reached startA startB p)
    {event : Side × PairAction} (permitted : MayClose p event) :
    Progress startA startB p (p.step event) ∧
    (Closes .a event → HasClosed (p.step event).a) ∧
    (Closes .b event → HasClosed (p.step event).b) := by
  obtain ⟨side, action⟩ := event
  cases action with
  | deliver =>
    refine ⟨?_, by rintro ⟨now, ⟨⟩⟩, by rintro ⟨now, ⟨⟩⟩⟩
    cases side with
    | a => exact h.deliverA
    | b => exact h.mirror.deliverA.mirror
  | act action =>
    cases action with
    | close now =>
      cases side with
      | a =>
        obtain ⟨progress, closed⟩ := h.closeA permitted now
        exact ⟨progress, fun _ => closed, by rintro ⟨now, ⟨⟩⟩⟩
      | b =>
        obtain ⟨progress, closed⟩ := h.mirror.closeA permitted now
        exact ⟨progress.mirror, by rintro ⟨now, ⟨⟩⟩, fun _ => closed⟩
    | _ => cases side <;> exact False.elim permitted

end Teardown

/-- Two established ends with nothing to send and nothing in flight. -/
structure Quiet (a b : TransmissionControlBlock) : Prop where
  establishedA : a.currentState = .established
  establishedB : b.currentState = .established
  nxtA : a.snd.nxt = b.rcv.nxt
  nxtB : b.snd.nxt = a.rcv.nxt
  sendA : a.sendBuffer.contents = []
  sendB : b.sendBuffer.contents = []

namespace Teardown

theorem Reached.initial {a b : TransmissionControlBlock} (h : Quiet a b) :
    Reached a.snd.nxt b.snd.nxt (.joined a b) := by
  refine ⟨⟨.established, .established, [], []⟩, by decide +kernel, ?_⟩
  exact ⟨⟨h.establishedA, rfl, h.nxtB.symm, h.sendA⟩, ⟨h.establishedB, rfl, h.nxtA.symm, h.sendB⟩,
    .nil, .nil, rfl, rfl, by simp [Pair.joined, Endpoint.fresh],
    by simp [Pair.joined, Endpoint.fresh]⟩

end Teardown

open Teardown in
/-- However closes and deliveries interleave, no reset is ever sent, and once both sides
have closed and the channels are empty both blocks are CLOSED and agree on all numbers. -/
theorem teardown_completes (a b : TransmissionControlBlock) (h : Quiet a b)
    (events : List (Side × PairAction))
    (permitted : Throughout Pair.step MayClose (.joined a b) events) :
    let p := run Pair.step (.joined a b) events
    (∀ packet ∈ p.a.emitted ++ p.b.emitted, packet.rst = false) ∧
    ((∃ now, (.a, .act (.close now)) ∈ events) → (∃ now, (.b, .act (.close now)) ∈ events) →
      p.ab = [] → p.ba = [] →
      p.a.tcb.currentState = .closed ∧ p.b.tcb.currentState = .closed ∧
      p.a.tcb.rcv.nxt = p.b.tcb.snd.nxt ∧ p.b.tcb.rcv.nxt = p.a.tcb.snd.nxt) := by
  intro p
  have start := Reached.initial h
  have preserve : ∀ p event, Reached a.snd.nxt b.snd.nxt p → MayClose p event →
      Reached a.snd.nxt b.snd.nxt (p.step event) :=
    fun p event reached met => (reached.step met).1.reached
  have final : Reached a.snd.nxt b.snd.nxt p :=
    run_invariant_of_throughout (fun s e _ => preserve s e) start events (fun _ _ => trivial) permitted
  obtain ⟨c, member, refines⟩ := final
  constructor
  · intro packet hmem
    rcases List.mem_append.mp hmem with fromA | fromB
    · exact refines.noResetA packet fromA
    · exact refines.noResetB packet fromB
  · rintro ⟨nowA, closesA⟩ ⟨nowB, closesB⟩ quietAB quietBA
    have closedA : HasClosed p.a := run_invariant_after preserve
      (fun s e trigger reached met => (reached.step met).2.1 trigger)
      (fun s e reached closed met => (reached.step met).1.keepsA closed)
      start events permitted (Or.inr ⟨_, closesA, nowA, rfl⟩)
    have closedB : HasClosed p.b := run_invariant_after preserve
      (fun s e trigger reached met => (reached.step met).2.2 trigger)
      (fun s e reached closed met => (reached.step met).1.keepsB closed)
      start events permitted (Or.inr ⟨_, closesB, nowB, rfl⟩)
    have cab := refines.carriesAB
    have cba := refines.carriesBA
    rw [quietAB, List.forall₂_nil_left_iff] at cab
    rw [quietBA, List.forall₂_nil_left_iff] at cba
    rw [HasClosed, refines.standsA.state_eq] at closedA
    rw [HasClosed, refines.standsB.state_eq] at closedB
    obtain ⟨isClosedA, isClosedB⟩ := closed_of_quiet c member cab cba closedA closedB
    have standsA := refines.standsA
    have standsB := refines.standsB
    rw [isClosedA] at standsA
    rw [isClosedB] at standsB
    exact ⟨standsA.state_eq, standsB.state_eq, standsA.rcv_eq.trans standsB.nxt_eq.symm,
      standsB.rcv_eq.trans standsA.nxt_eq.symm⟩

/-- Both sides close before either FIN arrives. -/
def sampleSimultaneousClose : List (Side × PairAction) :=
  [(.a, .act (.close 0)), (.b, .act (.close 0)), (.a, .deliver), (.b, .deliver),
    (.a, .deliver), (.b, .deliver)]

theorem teardown_completes_simultaneous :
    (run Pair.step (.joined sampleTcb samplePeer) sampleSimultaneousClose).a.tcb.currentState =
      .closed ∧
    (run Pair.step (.joined sampleTcb samplePeer) sampleSimultaneousClose).b.tcb.currentState =
      .closed := by
  have quiet : Quiet sampleTcb samplePeer := by constructor <;> rfl
  have permitted : Throughout Pair.step Teardown.MayClose (.joined sampleTcb samplePeer)
      sampleSimultaneousClose :=
    ⟨Or.inl rfl, Or.inl rfl, trivial, trivial, trivial, trivial, trivial⟩
  obtain ⟨_, completes⟩ :=
    teardown_completes sampleTcb samplePeer quiet sampleSimultaneousClose permitted
  obtain ⟨closedA, closedB, _⟩ := completes ⟨0, by simp [sampleSimultaneousClose]⟩
    ⟨0, by simp [sampleSimultaneousClose]⟩ (by decide) (by decide)
  exact ⟨closedA, closedB⟩

end TinyCP
