import TinyCP.AcceptMoves

/-!
# What a step completes and enters

The completed handshakes and the new entries of the accept queues are read off the
stacks before and after a step. The end of a handshake is the only step with either.
-/
namespace TinyCP

namespace TcpStack

def queueOf (stack : TcpStack) (id : UInt64) : List UInt64 :=
  ((stack.slot id).map Slot.queue).getD []

def stateOf (stack : TcpStack) (id : UInt64) : Option TcpState :=
  (stack.slot id).map Slot.state

/-- The sockets that have gone from SYN_RECEIVED to ESTABLISHED. -/
def completions (before after : TcpStack) : List UInt64 :=
  after.socketTable.sockets.keys.filter fun id =>
    before.stateOf id = some .synReceived ∧ after.stateOf id = some .established

/-- What has been added behind the queues that were there before, with the listener. -/
def pushes (before after : TcpStack) : List (UInt64 × UInt64) :=
  after.socketTable.sockets.keys.flatMap fun listener =>
    ((after.queueOf listener).drop (before.queueOf listener).length).map (listener, ·)

theorem mem_keys_of_slot {stack : TcpStack} {id : UInt64} {slot : Slot}
    (there : stack.slot id = some slot) : id ∈ stack.socketTable.sockets.keys := by
  obtain ⟨tcb, found, _⟩ := SocketTable.slot_eq_some.mp there
  obtain ⟨_, entry⟩ := SocketTable.findSocket_eq_some_iff.mp found
  rw [← AList.mem_keys, ← AList.lookup_isSome, entry]
  rfl

theorem completions_eq_nil {before after : TcpStack}
    (none : ∀ id, before.stateOf id = some .synReceived → after.stateOf id ≠ some .established) :
    before.completions after = [] := by
  apply List.filter_eq_nil_iff.mpr
  intro id _ completed
  have both := of_decide_eq_true completed
  exact none id both.1 both.2

theorem pushes_eq_nil {before after : TcpStack}
    (shorter : ∀ id, (after.queueOf id).length ≤ (before.queueOf id).length) :
    before.pushes after = [] := by
  apply List.flatMap_eq_nil_iff.mpr
  intro listener _
  rw [List.drop_eq_nil_of_le (shorter listener)]
  rfl

theorem completions_eq_singleton {before after : TcpStack} {id : UInt64}
    (started : before.stateOf id = some .synReceived) (ended : after.stateOf id = some .established)
    (others : ∀ other, other ≠ id → before.stateOf other = some .synReceived →
      after.stateOf other ≠ some .established) :
    before.completions after = [id] := by
  have alone : ∀ other ∈ after.socketTable.sockets.keys,
      decide (before.stateOf other = some .synReceived ∧ after.stateOf other = some .established) =
        decide (other = id) := by
    intro other _
    apply decide_eq_decide.mpr
    constructor
    · rintro ⟨open_, done_⟩
      by_contra differ
      exact others other differ open_ done_
    · rintro rfl
      exact ⟨started, ended⟩
  obtain ⟨slot, there, _⟩ := Option.map_eq_some_iff.mp ended
  have once : after.socketTable.sockets.keys.count id = 1 :=
    List.count_eq_one_of_mem after.socketTable.sockets.keys_nodup (mem_keys_of_slot there)
  rw [completions, List.filter_congr alone, List.filter_eq, once]
  rfl

theorem pushes_eq_singleton {before after : TcpStack} {listener id : UInt64} {slot : Slot}
    (there : after.slot listener = some slot)
    (longer : after.queueOf listener = before.queueOf listener ++ [id])
    (others : ∀ other, other ≠ listener →
      (after.queueOf other).length ≤ (before.queueOf other).length) :
    before.pushes after = [(listener, id)] := by
  have nodup := after.socketTable.sockets.keys_nodup
  obtain ⟨first, rest, split⟩ := List.append_of_mem (mem_keys_of_slot there)
  rw [split, List.nodup_middle, List.nodup_cons, List.mem_append, not_or] at nodup
  have silent : ∀ keys : List UInt64, listener ∉ keys → (keys.flatMap fun other =>
      ((after.queueOf other).drop (before.queueOf other).length).map (other, ·)) = [] := by
    intro keys absent
    apply List.flatMap_eq_nil_iff.mpr
    intro other member
    have differ : other ≠ listener := fun same => absent (same ▸ member)
    rw [List.drop_eq_nil_of_le (others other differ)]
    rfl
  rw [pushes, split, List.flatMap_append, List.flatMap_cons, silent first nodup.1.1,
    silent rest nodup.1.2, longer, List.drop_left]
  rfl

/-- A step that changes one slot, neither completing its handshake nor lengthening its queue. -/
theorem logs_of_update {before after : TcpStack} {id : UInt64} {new : Option Slot}
    (slots : after.slot = Function.update before.slot id new)
    (shorter : ∀ slot, new = some slot → slot.queue.length ≤ (before.queueOf id).length)
    (incomplete : ∀ slot, new = some slot → before.stateOf id = some .synReceived →
      slot.state ≠ .established) :
    before.completions after = [] ∧ before.pushes after = [] := by
  constructor
  · apply completions_eq_nil
    intro other started ended
    rw [stateOf, slots] at ended
    by_cases same : other = id
    · rw [same, Function.update_self] at ended
      rw [same] at started
      obtain ⟨slot, rfl, established⟩ := Option.map_eq_some_iff.mp ended
      exact incomplete slot rfl started established
    · rw [Function.update_of_ne same, ← stateOf, started] at ended
      cases ended
  · apply pushes_eq_nil
    intro other
    rw [queueOf, slots]
    by_cases same : other = id
    · rw [same, Function.update_self]
      cases new with
      | none => exact Nat.zero_le _
      | some slot => exact shorter slot rfl
    · rw [Function.update_of_ne same]
      exact Nat.le_refl _

/-- Only the end of a handshake completes anything or makes an entry. -/
theorem OpenMove.logs {before after : TcpStack} {event : OpenEvent} {notes : Noted}
    (move : OpenMove before event after notes) (fresh : before.slot before.socketTable.nextId = none) :
    before.completions after = [] ∧ before.pushes after = [] := by
  have held : ∀ {id slot}, before.slot id = some slot →
      before.queueOf id = slot.queue ∧ before.stateOf id = some slot.state := by
    intro id slot there
    rw [queueOf, stateOf, there]
    exact ⟨rfl, rfl⟩
  have issued : ∀ {slot : Slot}, slot.queue = [] → before.Issued after slot →
      before.completions after = [] ∧ before.pushes after = [] := by
    intro slot empty issued
    apply logs_of_update issued.slots
    · rintro _ ⟨⟩
      rw [empty]
      exact Nat.zero_le _
    · intro _ _ started
      rw [stateOf, fresh] at started
      cases started
  cases move with
  | idle slots _ _ =>
    have nowhere : after.slot = Function.update before.slot 0 none := by
      rw [slots]
      exact (Function.update_eq_self_iff.mpr rfl).symm
    apply logs_of_update nowhere
    · intro _ none
      cases none
    · intro _ none
      cases none
  | binds port new _ _ => exact issued rfl new
  | listens id slot there closed slots _ _ =>
    apply logs_of_update slots
    · rintro _ ⟨⟩
      rw [(held there).1]
    · rintro _ ⟨⟩ _
      exact TcpState.noConfusion
  | takes listener id rest slot there queue slots _ _ =>
    apply logs_of_update slots
    · rintro _ ⟨⟩
      rw [(held there).1, queue]
      exact Nat.le_succ _
    · rintro _ ⟨⟩ started
      rw [(held there).2, Option.some.injEq] at started
      change slot.state ≠ .established
      rw [started]
      exact TcpState.noConfusion
  | redials id addr iss port slot _ there slots _ _ =>
    apply logs_of_update slots
    · rintro _ ⟨⟩
      rw [(held there).1]
    · rintro _ ⟨⟩ _
      exact TcpState.noConfusion
  | dials port new _ _ => exact issued rfl new
  | opens port new _ _ => exact issued rfl new
  | moves id slot state there away _ _ _ slots _ _ =>
    apply logs_of_update slots
    · rintro _ ⟨⟩
      rw [(held there).1]
    · rintro _ ⟨⟩ started
      rw [(held there).2, Option.some.injEq] at started
      exact absurd started away
  | aborts id slot there slots _ _ =>
    apply logs_of_update slots
    · intro _ none
      cases none
    · intro _ none
      cases none

/-- The entry that the end of a handshake makes in the queue of a live listener. -/
def delivery (listener id : UInt64) : List (UInt64 × UInt64) :=
  if listener = 0 then [] else [(listener, id)]

theorem logs_of_settle {before after : TcpStack} {listener id : UInt64} {old : Slot}
    (there : before.slot id = some old) (received : old.state = .synReceived)
    (live : listener ≠ 0 → ∃ slot, before.slot listener = some slot)
    (slots : ∀ other, after.slot other = (before.slot other).map (settle listener id other)) :
    before.completions after = [id] ∧ before.pushes after = delivery listener id := by
  constructor
  · apply completions_eq_singleton
    · rw [stateOf, there, Option.map_some, received]
    · rw [stateOf, slots, there]
      simp [settle]
    · intro other differ started
      obtain ⟨was, found, state⟩ := Option.map_eq_some_iff.mp started
      simp [stateOf, slots, found, settle, differ, state]
  · have others : ∀ other, other ≠ listener →
        (after.queueOf other).length ≤ (before.queueOf other).length := by
      intro other differ
      rw [queueOf, slots, queueOf]
      cases before.slot other <;> simp [settle, differ]
    rw [delivery]
    split_ifs with none
    · apply pushes_eq_nil
      intro other
      by_cases same : other = listener
      · rw [same, none, queueOf, slots]
        exact Nat.zero_le _
      · exact others other same
    · obtain ⟨slot, found⟩ := live none
      have kept : after.slot listener = some (settle listener id listener slot) := by
        rw [slots, found]
        rfl
      apply pushes_eq_singleton kept _ others
      rw [queueOf, queueOf, kept, found]
      simp [settle]

/-- The listener that a completed handshake is entered for is live, and bound to its port. -/
theorem find_listed {stack : TcpStack} {port : UInt16}
    (real : stack.listenerTable.find stack.socketTable port ≠ 0) :
    stack.listenerAt port = some (stack.listenerTable.find stack.socketTable port) ∧
    ∃ slot, stack.slot (stack.listenerTable.find stack.socketTable port) = some slot := by
  obtain ⟨entry, live⟩ := (ListenerTable.find_eq_iff real).mp rfl
  rw [SocketTable.contains_eq_isSome] at live
  obtain ⟨tcb, found⟩ := Option.isSome_iff_exists.mp live
  exact ⟨entry, tcb.slot, SocketTable.slot_of_findSocket found⟩

/-- What the end of a handshake is entered as. -/
theorem Completing.logs {stack : TcpStack} {event : OpenEvent} {id : UInt64}
    {tcb : TransmissionControlBlock} (h : Completing stack event id tcb) :
    stack.completions (stack.step event.call) = [id] ∧
    stack.pushes (stack.step event.call) =
      delivery (stack.listenerTable.find stack.socketTable tcb.srcAddress.port) id :=
  logs_of_settle (slot_of_getTcb h.block) h.state (fun real => (find_listed real).2)
    h.settled.2.slots

end TcpStack

end TinyCP
