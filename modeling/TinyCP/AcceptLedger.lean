import TinyCP.AcceptLogs

/-!
# The records of a run

Along a run the bindings, the active and the passive opens, the completed handshakes,
the entries of the accept queues and the results of `accept` are recorded, the last
three as they are seen in the stack before and after a step. The invariant has three
parts: an id stands for one socket, a socket leaves its opening states at most once, and
a queue holds what was entered and not taken yet.
-/
namespace TinyCP
open EventRun

/-- A stack, and the records of its run. -/
structure Ledger where
  stack : TcpStack
  /-- The ids and ports of `bind`. -/
  bound : List (UInt64 × UInt16)
  /-- The ids that `connect` has returned. -/
  dialled : List UInt64
  opened : List PassiveChild
  completed : List UInt64
  /-- The entries ever made in an accept queue, each with its listener. -/
  pushed : List (UInt64 × UInt64)
  /-- The ids that `accept` has returned, each with its listener. -/
  taken : List (UInt64 × UInt64)

namespace Ledger

def new (localAddress : UInt32) : Ledger := ⟨.new localAddress, [], [], [], [], [], []⟩

def step (l : Ledger) (event : OpenEvent) : Ledger :=
  let after := l.stack.step event.call
  let notes := l.stack.noted event
  { stack := after
    bound := l.bound ++ notes.bound
    dialled := l.dialled ++ notes.dialled
    opened := l.opened ++ notes.opened
    completed := l.completed ++ l.stack.completions after
    pushed := l.pushed ++ l.stack.pushes after
    taken := l.taken ++ notes.taken }

/-- The entries of a record that belong to one listener. -/
def entriesOf (records : List (UInt64 × UInt64)) (listener : UInt64) : List UInt64 :=
  (records.filter (·.1 = listener)).map Prod.snd

/-- `connect` is called once on a socket, and not on what `accept` has returned: its handle
is new or one that was bound. -/
def ConnectsOnce (l : Ledger) : OpenEvent → Prop
  | .connect socketId _ _ => socketId = 0 ∨
      (∃ port, (socketId, port) ∈ l.bound) ∧ socketId ∉ l.dialled
  | _ => True

/-- The id was issued to a socket of the run. -/
def Known (l : Ledger) (id : UInt64) : Prop :=
  (∃ port, (id, port) ∈ l.bound) ∨ id ∈ l.dialled ∨ ∃ child ∈ l.opened, child.id = id

/-- The id is one of a connection, opened actively or passively. -/
def Opens (l : Ledger) (id : UInt64) : Prop :=
  id ∈ l.dialled ∨ ∃ child ∈ l.opened, child.id = id

/-- Ids stand for one socket each. -/
structure Identified (l : Ledger) : Prop where
  counter : l.stack.socketTable.nextId ≠ 0
  live : ∀ id slot, l.stack.slot id = some slot → id < l.stack.socketTable.nextId
  known : ∀ id, l.Known id → id ≠ 0 ∧ id < l.stack.socketTable.nextId
  apart : ∀ child ∈ l.opened, child.id ∉ l.dialled ∧ ∀ port, (child.id, port) ∉ l.bound
  listeners : ∀ port id, l.stack.listenerAt port = some id → (id, port) ∈ l.bound

/-- A connection leaves its opening states at most once. -/
structure Phased (l : Ledger) : Prop where
  quiet : ∀ id slot, l.stack.slot id = some slot → ¬ IsTearingDown slot.state
  opening : ∀ id slot, l.stack.slot id = some slot →
    slot.state = .synSent ∨ slot.state = .synReceived → l.Opens id ∧ id ∉ l.completed
  completed : ∀ id ∈ l.completed, l.Opens id
  once : l.completed.Nodup
  port : ∀ child ∈ l.opened, ∀ slot, l.stack.slot child.id = some slot → slot.port = child.port

/-- The queues hold what was pushed on them and not taken yet. -/
structure Accounted (l : Ledger) : Prop where
  pushed : (l.pushed.map Prod.snd).Sublist l.completed
  passive : ∀ listener id, (listener, id) ∈ l.pushed →
    ∃ child ∈ l.opened, child.id = id ∧ (listener, child.port) ∈ l.bound
  taken : ∀ listener, entriesOf l.taken listener <+: entriesOf l.pushed listener
  queued : ∀ listener slot, l.stack.slot listener = some slot →
    entriesOf l.pushed listener = entriesOf l.taken listener ++ slot.queue

structure Sound (l : Ledger) : Prop where
  identified : l.Identified
  phased : l.Phased
  accounted : l.Accounted

theorem new_sound (localAddress : UInt32) : (new localAddress).Sound := by
  have absent : ∀ id, (new localAddress).stack.slot id = none := by
    intro id
    simp [new, TcpStack.new, TcpStack.slot, SocketTable.new, SocketTable.slot, SocketTable.findSocket]
  have unlisted : ∀ port, (new localAddress).stack.listenerAt port = none := by
    intro port
    simp [new, TcpStack.new, TcpStack.listenerAt, ListenerTable.new]
  refine ⟨⟨(by decide : (1 : UInt64) ≠ 0), ?_, ?_, ?_, ?_⟩, ⟨?_, ?_, ?_, List.nodup_nil, ?_⟩,
    ⟨List.Sublist.refl [], ?_, ?_, ?_⟩⟩
  · intro id slot there
    rw [absent] at there
    cases there
  · rintro id (⟨_, none⟩ | none | ⟨_, none, _⟩) <;> cases none
  · intro child none
    cases none
  · intro port id entry
    rw [unlisted] at entry
    cases entry
  · intro id slot there
    rw [absent] at there
    cases there
  · intro id slot there
    rw [absent] at there
    cases there
  · intro id none
    cases none
  · intro child none
    cases none
  · intro listener id none
    cases none
  · intro listener
    exact List.prefix_rfl
  · intro listener slot there
    rw [absent] at there
    cases there

theorem lt_add_one_of_ne {n : UInt64} (more : n + 1 ≠ 0) {id : UInt64} (low : id ≤ n) :
    id < n + 1 := by
  have positive : (n + 1).toNat ≠ 0 := fun zero => more (UInt64.toNat_inj.mp zero)
  rw [UInt64.toNat_add] at positive
  rw [UInt64.le_iff_toNat_le] at low
  rw [UInt64.lt_iff_toNat_lt, UInt64.toNat_add]
  have bound := n.toNat_lt
  change (n.toNat + 1) % 2 ^ 64 ≠ 0 at positive
  change id.toNat < (n.toNat + 1) % 2 ^ 64
  omega

theorem Identified.of_slots {l : Ledger} (h : l.Identified) {after : TcpStack}
    (books : l.stack.SameBooks after)
    (slots : ∀ id new, after.slot id = some new → ∃ old, l.stack.slot id = some old) :
    ({ l with stack := after } : Ledger).Identified := by
  refine ⟨?_, ?_, ?_, h.apart, ?_⟩
  · exact ne_of_eq_of_ne books.nextId h.counter
  · intro id new there
    obtain ⟨old, before⟩ := slots id new there
    exact (h.live id old before).trans_eq books.nextId.symm
  · intro id known
    obtain ⟨real, low⟩ := h.known id known
    exact ⟨real, low.trans_eq books.nextId.symm⟩
  · intro port id entry
    exact h.listeners port id ((congrFun books.listeners port).symm.trans entry)

theorem Phased.of_slots {l : Ledger} (h : l.Phased) {after : TcpStack}
    (slots : ∀ id new, after.slot id = some new → ∃ old, l.stack.slot id = some old ∧
      new.port = old.port ∧ ¬ IsTearingDown new.state ∧
      (new.state = .synSent ∨ new.state = .synReceived →
        old.state = .synSent ∨ old.state = .synReceived)) :
    ({ l with stack := after } : Ledger).Phased := by
  refine ⟨?_, ?_, h.completed, h.once, ?_⟩
  · intro id new there
    obtain ⟨_, _, _, quiet, _⟩ := slots id new there
    exact quiet
  · intro id new there opening
    obtain ⟨old, before, _, _, was⟩ := slots id new there
    exact h.opening id old before (was opening)
  · intro child member new there
    obtain ⟨old, before, port, _⟩ := slots child.id new there
    exact port.trans (h.port child member old before)

/-- A step that changes one slot, or removes it, and leaves its port and its queue alone.
No state becomes an opening one. -/
theorem Sound.change {l : Ledger} (h : l.Sound) {after : TcpStack} (books : l.stack.SameBooks after)
    {id : UInt64} {new : Option Slot} (slots : after.slot = Function.update l.stack.slot id new)
    (kept : ∀ slot, new = some slot → ∃ old, l.stack.slot id = some old ∧ slot.port = old.port ∧
      slot.queue = old.queue ∧ ¬ IsTearingDown slot.state ∧
      (slot.state = .synSent ∨ slot.state = .synReceived →
        old.state = .synSent ∨ old.state = .synReceived)) :
    ({ l with stack := after } : Ledger).Sound := by
  obtain ⟨identified, phased, accounted⟩ := h
  have all : ∀ other found, after.slot other = some found → ∃ was, l.stack.slot other = some was ∧
      found.port = was.port ∧ found.queue = was.queue ∧ ¬ IsTearingDown found.state ∧
      (found.state = .synSent ∨ found.state = .synReceived →
        was.state = .synSent ∨ was.state = .synReceived) := by
    intro other found now
    rw [slots] at now
    by_cases same : other = id
    · rw [same, Function.update_self] at now
      rw [same]
      exact kept found now
    · rw [Function.update_of_ne same] at now
      exact ⟨found, now, rfl, rfl, phased.quiet other found now, fun opening => opening⟩
  refine ⟨identified.of_slots books ?_, phased.of_slots ?_,
    ⟨accounted.pushed, accounted.passive, accounted.taken, ?_⟩⟩
  · intro other found now
    obtain ⟨was, before, _⟩ := all other found now
    exact ⟨was, before⟩
  · intro other found now
    obtain ⟨was, before, port, _, quiet, opening⟩ := all other found now
    exact ⟨was, before, port, quiet, opening⟩
  · intro listener found now
    obtain ⟨was, before, _, queue, _⟩ := all listener found now
    rw [queue]
    exact accounted.queued listener was before

theorem Opens.known {l : Ledger} {id : UInt64} (h : l.Opens id) : l.Known id := Or.inr h

theorem Identified.fresh {l : Ledger} (h : l.Identified) :
    l.stack.slot l.stack.socketTable.nextId = none ∧ ¬ l.Known l.stack.socketTable.nextId := by
  constructor
  · by_contra there
    obtain ⟨slot, there⟩ := Option.ne_none_iff_exists'.mp there
    exact UInt64.lt_irrefl _ (h.live _ slot there)
  · intro known
    exact UInt64.lt_irrefl _ (h.known _ known).2

theorem mem_entriesOf {records : List (UInt64 × UInt64)} {listener id : UInt64} :
    id ∈ entriesOf records listener ↔ (listener, id) ∈ records := by
  simp [entriesOf]

theorem entriesOf_append (records more : List (UInt64 × UInt64)) (listener : UInt64) :
    entriesOf (records ++ more) listener = entriesOf records listener ++ entriesOf more listener := by
  simp [entriesOf]

/-- Nothing was ever pushed on a queue that nobody was bound to. -/
theorem Accounted.entries_nil {l : Ledger} (h : l.Accounted) {listener : UInt64}
    (unbound : ∀ port, (listener, port) ∉ l.bound) :
    entriesOf l.pushed listener = [] ∧ entriesOf l.taken listener = [] := by
  have pushed : entriesOf l.pushed listener = [] := by
    apply List.eq_nil_iff_forall_not_mem.mpr
    intro id member
    obtain ⟨child, _, _, bound⟩ := h.passive listener id (mem_entriesOf.mp member)
    exact unbound child.port bound
  refine ⟨pushed, ?_⟩
  have taken := h.taken listener
  rw [pushed] at taken
  exact List.prefix_nil.mp taken

/-- The next id goes to a socket with an empty queue, which is bound, dialled or opened. -/
structure Issues (l : Ledger) (after : TcpStack) (slot : Slot) (notes : Noted) : Prop where
  issued : l.stack.Issued after slot
  more : l.stack.socketTable.nextId + 1 ≠ 0
  empty : slot.queue = []
  quiet : ¬ IsTearingDown slot.state
  listeners : ∀ port id, after.listenerAt port = some id →
    l.stack.listenerAt port = some id ∨ (id, port) ∈ notes.bound
  bound : ∀ id port, (id, port) ∈ notes.bound → id = l.stack.socketTable.nextId
  dialled : ∀ id ∈ notes.dialled, id = l.stack.socketTable.nextId
  opened : ∀ child ∈ notes.opened, child.id = l.stack.socketTable.nextId ∧
    child.port = slot.port ∧ notes.dialled = [] ∧ notes.bound = []
  opening : slot.state = .synSent ∨ slot.state = .synReceived →
    l.stack.socketTable.nextId ∈ notes.dialled ∨
      ∃ child ∈ notes.opened, child.id = l.stack.socketTable.nextId

def issue (l : Ledger) (after : TcpStack) (notes : Noted) : Ledger :=
  { l with
    stack := after
    bound := l.bound ++ notes.bound
    dialled := l.dialled ++ notes.dialled
    opened := l.opened ++ notes.opened }

theorem Opens.issue {l : Ledger} {id : UInt64} (h : l.Opens id) (after : TcpStack) (notes : Noted) :
    (l.issue after notes).Opens id := by
  rcases h with dialled | ⟨child, opened, same⟩
  · exact Or.inl (List.mem_append_left _ dialled)
  · exact Or.inr ⟨child, List.mem_append_left _ opened, same⟩

namespace Issues
variable {l : Ledger} {after : TcpStack} {slot : Slot} {notes : Noted}

theorem known (h : l.Issues after slot notes) {id : UInt64} (known : (l.issue after notes).Known id) :
    l.Known id ∨ id = l.stack.socketTable.nextId := by
  rcases known with ⟨port, bound⟩ | dialled | ⟨child, opened, same⟩
  · rcases List.mem_append.mp bound with old | new
    · exact Or.inl (Or.inl ⟨port, old⟩)
    · exact Or.inr (h.bound id port new)
  · rcases List.mem_append.mp dialled with old | new
    · exact Or.inl (Or.inr (Or.inl old))
    · exact Or.inr (h.dialled id new)
  · rcases List.mem_append.mp opened with old | new
    · exact Or.inl (Or.inr (Or.inr ⟨child, old, same⟩))
    · exact Or.inr (same.symm.trans (h.opened child new).1)

/-- A slot after the step is the new one or was there before. -/
theorem slots (h : l.Issues after slot notes) {id : UInt64} {found : Slot}
    (there : after.slot id = some found) :
    (id = l.stack.socketTable.nextId ∧ found = slot) ∨
    (id ≠ l.stack.socketTable.nextId ∧ l.stack.slot id = some found) := by
  rw [h.issued.slots] at there
  by_cases same : id = l.stack.socketTable.nextId
  · rw [same, Function.update_self, Option.some.injEq] at there
    exact Or.inl ⟨same, there.symm⟩
  · rw [Function.update_of_ne same] at there
    exact Or.inr ⟨same, there⟩

theorem identified (h : l.Issues after slot notes) (ids : l.Identified) :
    (l.issue after notes).Identified := by
  obtain ⟨_, unknown⟩ := ids.fresh
  refine ⟨?_, ?_, ?_, ?_, ?_⟩
  · exact ne_of_eq_of_ne h.issued.nextId h.more
  · intro id found there
    apply lt_of_lt_of_eq (lt_add_one_of_ne h.more ?_) h.issued.nextId.symm
    rcases h.slots there with ⟨same, _⟩ | ⟨_, before⟩
    · exact UInt64.le_of_eq same
    · exact UInt64.le_of_lt (ids.live id found before)
  · intro id known
    rcases h.known known with old | rfl
    · obtain ⟨real, low⟩ := ids.known id old
      exact ⟨real, lt_of_lt_of_eq (lt_add_one_of_ne h.more (UInt64.le_of_lt low)) h.issued.nextId.symm⟩
    · exact ⟨ids.counter, lt_of_lt_of_eq (lt_add_one_of_ne h.more (UInt64.le_refl _)) h.issued.nextId.symm⟩
  · intro child member
    rcases List.mem_append.mp member with old | new
    · have differ : child.id ≠ l.stack.socketTable.nextId := by
        intro same
        exact unknown (Or.inr (Or.inr ⟨child, old, same⟩))
      obtain ⟨notDialled, notBound⟩ := ids.apart child old
      constructor
      · intro dialled
        rcases List.mem_append.mp dialled with before | now
        · exact notDialled before
        · exact differ (h.dialled _ now)
      · intro port bound
        rcases List.mem_append.mp bound with before | now
        · exact notBound port before
        · exact differ (h.bound _ port now)
    · obtain ⟨same, _, noDialled, noBound⟩ := h.opened child new
      rw [same]
      constructor
      · intro dialled
        rcases List.mem_append.mp dialled with before | now
        · exact unknown (Or.inr (Or.inl before))
        · rw [noDialled] at now
          cases now
      · intro port bound
        rcases List.mem_append.mp bound with before | now
        · exact unknown (Or.inl ⟨port, before⟩)
        · rw [noBound] at now
          cases now
  · intro port id entry
    rcases h.listeners port id entry with before | now
    · exact List.mem_append_left _ (ids.listeners port id before)
    · exact List.mem_append_right _ now

theorem phased (h : l.Issues after slot notes) (ids : l.Identified) (phases : l.Phased) :
    (l.issue after notes).Phased := by
  obtain ⟨_, unknown⟩ := ids.fresh
  refine ⟨?_, ?_, ?_, phases.once, ?_⟩
  · intro id found there
    rcases h.slots there with ⟨_, same⟩ | ⟨_, before⟩
    · rw [same]
      exact h.quiet
    · exact phases.quiet id found before
  · intro id found there opening
    rcases h.slots there with ⟨rfl, rfl⟩ | ⟨_, before⟩
    · refine ⟨?_, fun completed => unknown (phases.completed _ completed).known⟩
      rcases h.opening opening with dialled | ⟨child, opened, same⟩
      · exact Or.inl (List.mem_append_right _ dialled)
      · exact Or.inr ⟨child, List.mem_append_right _ opened, same⟩
    · obtain ⟨opens, fresh⟩ := phases.opening id found before opening
      exact ⟨opens.issue after notes, fresh⟩
  · intro id completed
    exact (phases.completed id completed).issue after notes
  · intro child member found there
    rcases List.mem_append.mp member with old | new
    · rcases h.slots there with ⟨same, _⟩ | ⟨_, before⟩
      · exact absurd (Or.inr (Or.inr ⟨child, old, same⟩)) unknown
      · exact phases.port child old found before
    · obtain ⟨same, port, _⟩ := h.opened child new
      rcases h.slots there with ⟨_, rfl⟩ | ⟨differ, _⟩
      · exact port.symm
      · exact absurd same differ

theorem accounted (h : l.Issues after slot notes) (ids : l.Identified) (accounts : l.Accounted) :
    (l.issue after notes).Accounted := by
  obtain ⟨_, unknown⟩ := ids.fresh
  refine ⟨accounts.pushed, ?_, accounts.taken, ?_⟩
  · intro listener id member
    obtain ⟨child, opened, same, bound⟩ := accounts.passive listener id member
    exact ⟨child, List.mem_append_left _ opened, same, List.mem_append_left _ bound⟩
  · intro listener found there
    rcases h.slots there with ⟨rfl, rfl⟩ | ⟨_, before⟩
    · obtain ⟨pushed, taken⟩ := accounts.entries_nil fun port bound => unknown (Or.inl ⟨port, bound⟩)
      change entriesOf l.pushed _ = entriesOf l.taken _ ++ found.queue
      rw [pushed, taken, h.empty]
      rfl
    · exact accounts.queued listener found before

theorem sound (h : l.Issues after slot notes) (before : l.Sound) : (l.issue after notes).Sound :=
  ⟨h.identified before.identified, h.phased before.identified before.phased,
    h.accounted before.identified before.accounted⟩

section Calls
variable {port : UInt16} (more : l.stack.socketTable.nextId + 1 ≠ 0)
include more

theorem of_bind (issued : l.stack.Issued after ⟨.closed, port, []⟩)
    (listeners : after.listenerAt =
      Function.update l.stack.listenerAt port (some l.stack.socketTable.nextId)) :
    l.Issues after ⟨.closed, port, []⟩ { bound := [(l.stack.socketTable.nextId, port)] } := by
  refine ⟨issued, more, rfl, by simp [IsTearingDown], ?_, ?_, ?_, ?_, ?_⟩
  · intro other id entry
    rw [listeners] at entry
    by_cases same : other = port
    · rw [same, Function.update_self, Option.some.injEq] at entry
      rw [same, ← entry]
      exact Or.inr (List.mem_singleton_self _)
    · rw [Function.update_of_ne same] at entry
      exact Or.inl entry
  · intro id other member
    exact (Prod.mk.inj (List.mem_singleton.mp member)).1
  · intro id none
    cases none
  · intro child none
    cases none
  · simp

theorem of_dial (issued : l.stack.Issued after ⟨.synSent, port, []⟩)
    (listeners : after.listenerAt = l.stack.listenerAt) :
    l.Issues after ⟨.synSent, port, []⟩ { dialled := [l.stack.socketTable.nextId] } := by
  refine ⟨issued, more, rfl, by simp [IsTearingDown], ?_, ?_, ?_, ?_, ?_⟩
  · intro other id entry
    exact Or.inl ((congrFun listeners other).symm.trans entry)
  · intro id other none
    cases none
  · intro id member
    exact List.mem_singleton.mp member
  · intro child none
    cases none
  · intro _
    exact Or.inl (List.mem_singleton_self _)

theorem of_passiveOpen (issued : l.stack.Issued after ⟨.synReceived, port, []⟩)
    (listeners : after.listenerAt = l.stack.listenerAt) (listener : UInt64) :
    l.Issues after ⟨.synReceived, port, []⟩
      { opened := [⟨l.stack.socketTable.nextId, listener, port⟩] } := by
  refine ⟨issued, more, rfl, by simp [IsTearingDown], ?_, ?_, ?_, ?_, ?_⟩
  · intro other id entry
    exact Or.inl ((congrFun listeners other).symm.trans entry)
  · intro id other none
    cases none
  · intro id none
    cases none
  · intro child member
    rw [List.mem_singleton.mp member]
    exact ⟨rfl, rfl, rfl, rfl⟩
  · intro _
    exact Or.inr ⟨_, List.mem_singleton_self _, rfl⟩

end Calls
end Issues

/-- `accept` takes the oldest entry of a queue. -/
theorem Sound.take {l : Ledger} (h : l.Sound) {after : TcpStack} (books : l.stack.SameBooks after)
    {listener id : UInt64} {rest : List UInt64} {slot : Slot}
    (there : l.stack.slot listener = some slot) (queue : slot.queue = id :: rest)
    (slots : after.slot = Function.update l.stack.slot listener (some { slot with queue := rest })) :
    ({ l with stack := after, taken := l.taken ++ [(listener, id)] } : Ledger).Sound := by
  obtain ⟨identified, phased, accounted⟩ := h
  have all : ∀ other found, after.slot other = some found → ∃ was, l.stack.slot other = some was ∧
      found.port = was.port ∧ found.state = was.state ∧
      was.queue = (if other = listener then [id] else []) ++ found.queue := by
    intro other found now
    rw [slots] at now
    by_cases same : other = listener
    · rw [same, Function.update_self, Option.some.injEq] at now
      rw [same, if_pos rfl, ← now]
      exact ⟨slot, there, rfl, rfl, queue⟩
    · rw [Function.update_of_ne same] at now
      rw [if_neg same]
      exact ⟨found, now, rfl, rfl, rfl⟩
  have new : ∀ other, entriesOf [(listener, id)] other = if other = listener then [id] else [] := by
    intro other
    by_cases same : other = listener
    · simp [entriesOf, same]
    · simp [entriesOf, same, Ne.symm same]
  have kept : ({ l with stack := after } : Ledger).Identified := by
    apply identified.of_slots books
    intro other found now
    obtain ⟨was, before, _⟩ := all other found now
    exact ⟨was, before⟩
  have phases : ({ l with stack := after } : Ledger).Phased := by
    apply phased.of_slots
    intro other found now
    obtain ⟨was, before, port, state, _⟩ := all other found now
    rw [state]
    exact ⟨was, before, port, phased.quiet other was before, fun opening => opening⟩
  refine ⟨⟨kept.counter, kept.live, kept.known, kept.apart, kept.listeners⟩,
    ⟨phases.quiet, phases.opening, phases.completed, phases.once, phases.port⟩,
    ⟨accounted.pushed, accounted.passive, ?_, ?_⟩⟩
  · intro other
    change entriesOf (l.taken ++ [(listener, id)]) other <+: entriesOf l.pushed other
    rw [entriesOf_append, new]
    by_cases same : other = listener
    · rw [same, if_pos rfl, accounted.queued listener slot there, queue]
      exact ⟨rest, by rw [List.append_assoc]; rfl⟩
    · rw [if_neg same, List.append_nil]
      exact accounted.taken other
  · intro other found now
    obtain ⟨was, before, _, _, queue⟩ := all other found now
    change entriesOf l.pushed other = entriesOf (l.taken ++ [(listener, id)]) other ++ found.queue
    rw [entriesOf_append, new, List.append_assoc, ← queue]
    exact accounted.queued other was before

section Redial
variable {l : Ledger} {after : TcpStack} {id : UInt64} {port bound : UInt16} {slot : Slot}

/-- The ledger after `connect` on a socket that was there. -/
def redial (l : Ledger) (after : TcpStack) (id : UInt64) : Ledger :=
  { l with stack := after, dialled := l.dialled ++ [id] }

/-- Only the slot of the caller has another state and another port. -/
def Redialled (l : Ledger) (after : TcpStack) (id : UInt64) : Prop :=
  ∀ other found, after.slot other = some found → ∃ was, l.stack.slot other = some was ∧
    found.queue = was.queue ∧ (other ≠ id → found = was) ∧ (other = id → found.state = .synSent)

theorem redialled_of_update (there : l.stack.slot id = some slot)
    (slots : after.slot =
      Function.update l.stack.slot id (some ⟨.synSent, port, slot.queue⟩)) :
    l.Redialled after id := by
  intro other found now
  rw [slots] at now
  by_cases same : other = id
  · rw [same, Function.update_self, Option.some.injEq] at now
    rw [same, ← now]
    exact ⟨slot, there, rfl, fun differ => absurd rfl differ, fun _ => rfl⟩
  · rw [Function.update_of_ne same] at now
    exact ⟨found, now, rfl, fun _ => rfl, fun same' => absurd same' same⟩

theorem Identified.not_opened (h : l.Identified) (isBound : (id, bound) ∈ l.bound) :
    ∀ child ∈ l.opened, child.id ≠ id := by
  rintro child member rfl
  exact (h.apart child member).2 bound isBound

theorem Opens.redial {other : UInt64} (h : l.Opens other) (after : TcpStack) (id : UInt64) :
    (l.redial after id).Opens other := by
  rcases h with dialled | opened
  · exact Or.inl (List.mem_append_left _ dialled)
  · exact Or.inr opened

theorem Identified.redial (h : l.Identified) (books : l.stack.SameBooks after)
    (slots : l.Redialled after id) (isBound : (id, bound) ∈ l.bound) :
    (l.redial after id).Identified := by
  have kept : ({ l with stack := after } : Ledger).Identified := by
    apply h.of_slots books
    intro other found now
    obtain ⟨was, before, _⟩ := slots other found now
    exact ⟨was, before⟩
  refine ⟨kept.counter, kept.live, ?_, ?_, kept.listeners⟩
  · rintro other (old | dialled | opened)
    · exact kept.known other (Or.inl old)
    · rcases List.mem_append.mp dialled with old | now
      · exact kept.known other (Or.inr (Or.inl old))
      · rw [List.mem_singleton.mp now]
        exact kept.known id (Or.inl ⟨bound, isBound⟩)
    · exact kept.known other (Or.inr (Or.inr opened))
  · intro child member
    refine ⟨?_, (h.apart child member).2⟩
    intro dialled
    rcases List.mem_append.mp dialled with old | now
    · exact (h.apart child member).1 old
    · exact h.not_opened isBound child member (List.mem_singleton.mp now)

theorem Phased.redial (h : l.Phased) (slots : l.Redialled after id)
    (notOpened : ∀ child ∈ l.opened, child.id ≠ id) (first : id ∉ l.dialled) :
    (l.redial after id).Phased := by
  have uncompleted : id ∉ l.completed := by
    intro completed
    rcases h.completed id completed with dialled | ⟨child, opened, same⟩
    · exact first dialled
    · exact notOpened child opened same
  refine ⟨?_, ?_, ?_, h.once, ?_⟩
  · intro other found now
    obtain ⟨was, before, _, same, state⟩ := slots other found now
    by_cases own : other = id
    · rw [state own]
      simp [IsTearingDown]
    · rw [same own]
      exact h.quiet other was before
  · intro other found now opening
    obtain ⟨was, before, _, same, _⟩ := slots other found now
    by_cases own : other = id
    · rw [own]
      exact ⟨Or.inl (List.mem_append_right _ (List.mem_singleton_self id)), uncompleted⟩
    · rw [same own] at opening
      obtain ⟨opened, fresh⟩ := h.opening other was before opening
      exact ⟨opened.redial after id, fresh⟩
  · intro other completed
    exact (h.completed other completed).redial after id
  · intro child member found now
    obtain ⟨was, before, _, same, _⟩ := slots child.id found now
    rw [same (notOpened child member)]
    exact h.port child member was before

theorem Accounted.redial (h : l.Accounted) (slots : l.Redialled after id) :
    (l.redial after id).Accounted := by
  refine ⟨h.pushed, h.passive, h.taken, ?_⟩
  intro listener found now
  obtain ⟨was, before, queue, _⟩ := slots listener found now
  rw [queue]
  exact h.queued listener was before

/-- The socket was bound, and has not connected yet. -/
theorem Sound.redial (h : l.Sound) (books : l.stack.SameBooks after)
    (slots : l.Redialled after id) (isBound : (id, bound) ∈ l.bound) (first : id ∉ l.dialled) :
    (l.redial after id).Sound :=
  ⟨h.identified.redial books slots isBound,
    h.phased.redial slots (h.identified.not_opened isBound) first, h.accounted.redial slots⟩

end Redial

theorem entriesOf_delivery {listener id other : UInt64} (real : other ≠ 0) :
    entriesOf (TcpStack.delivery listener id) other = if other = listener then [id] else [] := by
  rw [TcpStack.delivery]
  split_ifs with none same same
  · exact absurd (same.trans none) real
  · rfl
  · simp [entriesOf, same]
  · simp [entriesOf, Ne.symm same]

section Complete
variable {l : Ledger} {after : TcpStack} {listener id : UInt64} {old : Slot}

/-- The ledger after the handshake of `id`. -/
def complete (l : Ledger) (after : TcpStack) (listener id : UInt64) : Ledger :=
  { l with
    stack := after
    completed := l.completed ++ [id]
    pushed := l.pushed ++ TcpStack.delivery listener id }

theorem Phased.complete (h : l.Phased) (there : l.stack.slot id = some old)
    (received : old.state = .synReceived)
    (slots : ∀ other, after.slot other = (l.stack.slot other).map
      (TcpStack.settle listener id other)) :
    (l.complete after listener id).Phased := by
  obtain ⟨opens, uncompleted⟩ := h.opening id old there (Or.inr received)
  have all : ∀ other found, after.slot other = some found → ∃ was,
      l.stack.slot other = some was ∧ found = TcpStack.settle listener id other was := by
    intro other found now
    rw [slots] at now
    obtain ⟨was, before, same⟩ := Option.map_eq_some_iff.mp now
    exact ⟨was, before, same.symm⟩
  have elsewhere : ∀ other was, other ≠ id →
      (TcpStack.settle listener id other was).state = was.state := fun _ _ differ => if_neg differ
  refine ⟨?_, ?_, ?_, ?_, ?_⟩
  · intro other found now
    obtain ⟨was, before, rfl⟩ := all other found now
    by_cases same : other = id
    · simp [TcpStack.settle, same, IsTearingDown]
    · rw [elsewhere other was same]
      exact h.quiet other was before
  · intro other found now opening
    obtain ⟨was, before, rfl⟩ := all other found now
    by_cases same : other = id
    · simp [TcpStack.settle, same] at opening
    · rw [elsewhere other was same] at opening
      obtain ⟨opened, fresh⟩ := h.opening other was before opening
      refine ⟨opened, ?_⟩
      intro completed
      rcases List.mem_append.mp completed with earlier | now
      · exact fresh earlier
      · exact same (List.mem_singleton.mp now)
  · intro other completed
    rcases List.mem_append.mp completed with earlier | now
    · exact h.completed other earlier
    · rw [List.mem_singleton.mp now]
      exact opens
  · apply List.nodup_append.mpr
    refine ⟨h.once, List.nodup_singleton id, ?_⟩
    rintro other earlier last now rfl
    exact uncompleted (List.mem_singleton.mp now ▸ earlier)
  · intro child member found now
    obtain ⟨was, before, rfl⟩ := all child.id found now
    exact h.port child member was before

/-- Only a passive open may be entered, and it is entered where its own port is bound. -/
theorem Accounted.complete (h : l.Accounted) (ids : l.Identified) (phases : l.Phased)
    (there : l.stack.slot id = some old) (received : old.state = .synReceived)
    (listed : listener ≠ 0 → l.stack.listenerAt old.port = some listener)
    (active : id ∈ l.dialled → listener = 0)
    (slots : ∀ other, after.slot other = (l.stack.slot other).map
      (TcpStack.settle listener id other)) :
    (l.complete after listener id).Accounted := by
  refine ⟨?_, ?_, ?_, ?_⟩
  · change (List.map Prod.snd (l.pushed ++ TcpStack.delivery listener id)).Sublist (l.completed ++ [id])
    rw [List.map_append]
    apply h.pushed.append
    rw [TcpStack.delivery]
    split_ifs
    · exact List.nil_sublist _
    · exact List.Sublist.refl _
  · intro other entry member
    rcases List.mem_append.mp member with earlier | now
    · exact h.passive other entry earlier
    · rw [TcpStack.delivery] at now
      split_ifs at now with none
      · cases now
      · obtain ⟨rfl, rfl⟩ := Prod.mk.inj (List.mem_singleton.mp now)
        rcases (phases.opening entry old there (Or.inr received)).1 with
          dialled | ⟨child, opened, rfl⟩
        · exact absurd (active dialled) none
        · have bound := ids.listeners old.port other (listed none)
          rw [phases.port child opened old there] at bound
          exact ⟨child, opened, rfl, bound⟩
  · intro other
    change entriesOf l.taken other <+: entriesOf (l.pushed ++ TcpStack.delivery listener id) other
    rw [entriesOf_append]
    exact (h.taken other).trans (List.prefix_append _ _)
  · intro other found now
    have real : other ≠ 0 := by
      rintro rfl
      cases now
    change after.slot other = some found at now
    rw [slots] at now
    obtain ⟨was, before, rfl⟩ := Option.map_eq_some_iff.mp now
    change entriesOf (l.pushed ++ TcpStack.delivery listener id) other = entriesOf l.taken other ++
      if other = listener then was.queue ++ [id] else was.queue
    rw [entriesOf_append, entriesOf_delivery real, h.queued other was before, List.append_assoc]
    split_ifs
    · rfl
    · rw [List.append_nil]

theorem Sound.complete (h : l.Sound) (books : l.stack.SameBooks after)
    (there : l.stack.slot id = some old) (received : old.state = .synReceived)
    (listed : listener ≠ 0 → l.stack.listenerAt old.port = some listener)
    (active : id ∈ l.dialled → listener = 0)
    (slots : ∀ other, after.slot other = (l.stack.slot other).map
      (TcpStack.settle listener id other)) :
    (l.complete after listener id).Sound := by
  have kept : ({ l with stack := after } : Ledger).Identified := by
    apply h.identified.of_slots books
    intro other found now
    rw [slots] at now
    obtain ⟨was, before, _⟩ := Option.map_eq_some_iff.mp now
    exact ⟨was, before⟩
  exact ⟨⟨kept.counter, kept.live, kept.known, kept.apart, kept.listeners⟩,
    h.phased.complete there received slots,
    h.accounted.complete h.identified h.phased there received listed active slots⟩

end Complete

theorem Sound.step_quiet {l : Ledger} (h : l.Sound) {event : OpenEvent}
    (connects : l.ConnectsOnce event) (more : l.stack.socketTable.nextId + 1 ≠ 0)
    (move : l.stack.OpenMove event (l.stack.step event.call) (l.stack.noted event)) :
    (l.step event).Sound := by
  obtain ⟨completions, pushes⟩ := move.logs h.identified.fresh.1
  rw [step, completions, pushes]
  simp only [List.append_nil]
  generalize l.stack.step event.call = after at move ⊢
  generalize l.stack.noted event = notes at move ⊢
  cases move with
  | idle slots books nothing =>
    subst nothing
    simp only [List.append_nil]
    have nowhere : after.slot = Function.update l.stack.slot 0 none := by
      rw [slots]
      exact (Function.update_eq_self_iff.mpr rfl).symm
    exact h.change books nowhere fun _ none => by cases none
  | binds port issued listeners noted =>
    subst noted
    simpa only [issue, List.append_nil] using (Issues.of_bind more issued listeners).sound h
  | listens id slot there closed slots books nothing =>
    subst nothing
    simp only [List.append_nil]
    refine h.change books slots ?_
    rintro _ ⟨⟩
    exact ⟨slot, there, rfl, rfl, by simp [IsTearingDown], by simp⟩
  | takes listener id rest slot there queue slots books noted =>
    have real : id ≠ 0 := by
      have pushed : id ∈ entriesOf l.pushed listener := by
        rw [h.accounted.queued listener slot there, queue]
        exact List.mem_append_right _ List.mem_cons_self
      obtain ⟨child, opened, same, _⟩ := h.accounted.passive listener id (mem_entriesOf.mp pushed)
      exact (h.identified.known id (Or.inr (Or.inr ⟨child, opened, same⟩))).1
    rw [if_neg real] at noted
    subst noted
    simp only [List.append_nil]
    exact h.take books there queue slots
  | redials id addr iss port slot called there slots books noted =>
    subst called noted
    simp only [List.append_nil]
    rcases connects with zero | ⟨⟨bound, isBound⟩, first⟩
    · rw [zero] at there
      cases there
    · exact h.redial books (redialled_of_update there slots) isBound first
  | dials port issued listeners noted =>
    subst noted
    simpa only [issue, List.append_nil] using (Issues.of_dial more issued listeners).sound h
  | opens port issued listeners noted =>
    subst noted
    simpa only [issue, List.append_nil] using
      (Issues.of_passiveOpen more issued listeners _).sound h
  | moves id slot state there away sent received quiet slots books nothing =>
    subst nothing
    simp only [List.append_nil]
    refine h.change books slots ?_
    rintro _ ⟨⟩
    refine ⟨slot, there, rfl, rfl, quiet, ?_⟩
    rintro (isSent | isReceived)
    · exact Or.inl (sent isSent)
    · exact Or.inl (received isReceived)
  | aborts id slot there slots books nothing =>
    subst nothing
    simp only [List.append_nil]
    exact h.change books slots fun _ none => by cases none

end Ledger
end TinyCP
