import TinyCP.EventRun

/-!
# Two nodes on an unreliable network

Every message that a node has ever sent stays on the wire and may be delivered at
any later step, so a run can lose, repeat and reorder messages as it likes: what
is never delivered is lost. A node acts by itself or takes a message; `Input` and
`Draw` are what the surroundings supply for the one and the other.
-/
namespace LossyNetwork
open EventRun
universe u

/-- What a node does, with the messages it sends. -/
structure Node (State Input Draw Message : Type u) where
  act : State → Input → State × List Message
  take : State → Draw → Message → State × List Message

structure Net (S T Message : Type u) where
  a : S
  b : T
  toA : List Message
  toB : List Message

inductive Event (I D J E : Type u) where
  | actA (input : I)
  | takeA (draw : D) (index : Nat)
  | actB (input : J)
  | takeB (draw : E) (index : Nat)

variable {S T I D J E Message : Type u}

/-- The net after a step of A with this result. -/
def Net.afterA (net : Net S T Message) (result : S × List Message) : Net S T Message :=
  { net with a := result.1, toB := net.toB ++ result.2 }

def Net.afterB (net : Net S T Message) (result : T × List Message) : Net S T Message :=
  { net with b := result.1, toA := net.toA ++ result.2 }

variable (nodeA : Node S I D Message) (nodeB : Node T J E Message)

def step (net : Net S T Message) : Event I D J E → Net S T Message
  | .actA input => net.afterA (nodeA.act net.a input)
  | .takeA draw index =>
    match net.toA[index]? with
    | some message => net.afterA (nodeA.take net.a draw message)
    | none => net
  | .actB input => net.afterB (nodeB.act net.b input)
  | .takeB draw index =>
    match net.toB[index]? with
    | some message => net.afterB (nodeB.take net.b draw message)
    | none => net

/-- A step from which the position of the delivered message is gone. -/
inductive Moved (net : Net S T Message) : Event I D J E → Net S T Message → Prop where
  | stay (event : Event I D J E) : Moved net event net
  | actA (input : I) : Moved net (.actA input) (net.afterA (nodeA.act net.a input))
  | takeA (draw : D) (index : Nat) (message : Message) (sent : message ∈ net.toA) :
      Moved net (.takeA draw index) (net.afterA (nodeA.take net.a draw message))
  | actB (input : J) : Moved net (.actB input) (net.afterB (nodeB.act net.b input))
  | takeB (draw : E) (index : Nat) (message : Message) (sent : message ∈ net.toB) :
      Moved net (.takeB draw index) (net.afterB (nodeB.take net.b draw message))

variable {nodeA nodeB}

theorem step_moved (net : Net S T Message) (event : Event I D J E) :
    Moved nodeA nodeB net event (step nodeA nodeB net event) := by
  cases event with
  | actA input => exact .actA input
  | takeA draw index =>
    cases found : net.toA[index]? with
    | none => simpa only [step, found] using .stay _
    | some message =>
      simpa only [step, found] using .takeA draw index message (List.mem_of_getElem? found)
  | actB input => exact .actB input
  | takeB draw index =>
    cases found : net.toB[index]? with
    | none => simpa only [step, found] using .stay _
    | some message =>
      simpa only [step, found] using .takeB draw index message (List.mem_of_getElem? found)

/-- A node keeps its own invariant and sends only messages of its own kind, provided
that it takes only messages of the other kind. -/
structure Keeps (node : Node S I D Message) (Allowed : I → Prop) (Inv : S → Prop)
    (Mine Peer : Message → Prop) : Prop where
  act : ∀ s input, Allowed input → Inv s →
    Inv (node.act s input).1 ∧ ∀ message ∈ (node.act s input).2, Mine message
  take : ∀ s draw message, Inv s → Peer message →
    Inv (node.take s draw message).1 ∧ ∀ answer ∈ (node.take s draw message).2, Mine answer

/-- The events in which both nodes do only what is allowed. -/
def Permits (AllowedA : I → Prop) (AllowedB : J → Prop) : Event I D J E → Prop
  | .actA input => AllowedA input
  | .actB input => AllowedB input
  | _ => True

structure Settled (InvA : S → Prop) (InvB : T → Prop) (FromA FromB : Message → Prop)
    (net : Net S T Message) : Prop where
  a : InvA net.a
  b : InvB net.b
  toA : ∀ message ∈ net.toA, FromB message
  toB : ∀ message ∈ net.toB, FromA message

variable {InvA : S → Prop} {InvB : T → Prop} {FromA FromB : Message → Prop}
  {AllowedA : I → Prop} {AllowedB : J → Prop}

theorem Settled.afterA {net : Net S T Message} (h : Settled InvA InvB FromA FromB net)
    {result : S × List Message}
    (kept : InvA result.1 ∧ ∀ message ∈ result.2, FromA message) :
    Settled InvA InvB FromA FromB (net.afterA result) :=
  ⟨kept.1, h.b, h.toA, List.forall_mem_append.mpr ⟨h.toB, kept.2⟩⟩

theorem Settled.afterB {net : Net S T Message} (h : Settled InvA InvB FromA FromB net)
    {result : T × List Message}
    (kept : InvB result.1 ∧ ∀ message ∈ result.2, FromB message) :
    Settled InvA InvB FromA FromB (net.afterB result) :=
  ⟨h.a, kept.1, List.forall_mem_append.mpr ⟨h.toA, kept.2⟩, h.toB⟩

/-- Two nodes that keep their own invariants on the other's messages keep them in every run. -/
theorem run_settled (keepsA : Keeps nodeA AllowedA InvA FromA FromB)
    (keepsB : Keeps nodeB AllowedB InvB FromB FromA) {net : Net S T Message}
    (initial : Settled InvA InvB FromA FromB net) (events : List (Event I D J E))
    (permitted : ∀ event ∈ events, Permits AllowedA AllowedB event) :
    Settled InvA InvB FromA FromB (run (step nodeA nodeB) net events) := by
  refine run_invariant ?_ initial events permitted
  intro net event allowed h
  have moved : Moved nodeA nodeB net event (step nodeA nodeB net event) := step_moved net event
  generalize step nodeA nodeB net event = next at moved ⊢
  cases moved with
  | stay => exact h
  | actA input => exact h.afterA (keepsA.act net.a input allowed h.a)
  | takeA draw _ message sent => exact h.afterA (keepsA.take net.a draw message h.a (h.toA _ sent))
  | actB input => exact h.afterB (keepsB.act net.b input allowed h.b)
  | takeB draw _ message sent => exact h.afterB (keepsB.take net.b draw message h.b (h.toB _ sent))

end LossyNetwork
