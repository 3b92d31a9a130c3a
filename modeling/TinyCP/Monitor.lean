import TinyCP.EventRun
import Mathlib.Data.List.Perm.Basic

/-!
# Monitors

Threads call operations on shared data. A call that locks holds the mutex while it runs, and
may have to wait on a condition variable until its predicate holds: it finds the predicate
false, goes to sleep and releases the mutex in one step, and checks again when it has been
woken. Between the check and the sleep other calls are shut out, except those that do not
lock. A notification wakes one sleeper or all of them; it is made before the mutex is
released or some time after. A thread is known here by the call it is in.
-/
namespace Monitor
open EventRun
universe u
variable {Shared Call Cond : Type u}

inductive Signal (Cond : Type u) where
  | one (cond : Cond)
  | all (cond : Cond)
  deriving DecidableEq

/-- The operations of a monitor: whether a call locks, what it waits on and for, what it does
and whom it notifies, in the data as it finds them. -/
structure Object (Shared Call Cond : Type u) where
  locks : Call → Bool
  cond : Call → Option Cond
  ready : Shared → Call → Bool
  body : Shared → Call → Shared
  inside : Shared → Call → List (Signal Cond)
  outside : Shared → Call → List (Signal Cond)
  ready_of_cond : ∀ shared call, cond call = none → ready shared call = true
  cond_of_locks : ∀ call, locks call = false → cond call = none

structure State (Shared Call Cond : Type u) where
  shared : Shared
  /-- The call that holds the mutex, has found its predicate false and goes to sleep next. -/
  deciding : Option Call
  asleep : List Call
  /-- The calls that have been woken and check again when they get the mutex. -/
  woken : List Call
  /-- The notifications that are still to be made. -/
  pending : List (Signal Cond)

/-- Which sleeper or which pending notification is next is up to the scheduler. -/
inductive Event (Call : Type u) where
  | enter (call : Call) (pick : Nat)
  | resume (index pick : Nat)
  | sleep
  | notify (index pick : Nat)
  | spurious (index : Nat)

namespace State

def start (shared : Shared) : State Shared Call Cond where
  shared := shared
  deciding := none
  asleep := []
  woken := []
  pending := []

/-- The calls that have begun and not returned. -/
def inProgress (s : State Shared Call Cond) : List Call := s.deciding.toList ++ s.asleep ++ s.woken

variable [DecidableEq Call] [DecidableEq Cond]
variable (o : Object Shared Call Cond) (s : State Shared Call Cond)

def wake (pick : Nat) : Signal Cond → State Shared Call Cond
  | .all cond =>
    { s with
      asleep := s.asleep.filter fun call => o.cond call ≠ some cond
      woken := s.woken ++ s.asleep.filter fun call => o.cond call = some cond }
  | .one cond =>
    let sleepers := s.asleep.filter fun call => o.cond call = some cond
    match sleepers[pick % sleepers.length]? with
    | none => s
    | some call => { s with asleep := s.asleep.erase call, woken := s.woken ++ [call] }

/-- The caller has the mutex, or needs none. -/
def enter (call : Call) (pick : Nat) : State Shared Call Cond :=
  if o.ready s.shared call then
    (o.inside s.shared call).foldl (fun s signal => s.wake o pick signal)
      { s with
        shared := o.body s.shared call
        pending := s.pending ++ o.outside s.shared call }
  else { s with deciding := some call }

def step : Event Call → State Shared Call Cond
  | .enter call pick =>
    if o.locks call = true ∧ s.deciding.isSome then s else s.enter o call pick
  | .resume index pick =>
    if s.deciding.isSome then s
    else
      match s.woken[index]? with
      | none => s
      | some call => enter o { s with woken := s.woken.eraseIdx index } call pick
  | .sleep =>
    match s.deciding with
    | none => s
    | some call => { s with deciding := none, asleep := s.asleep ++ [call] }
  | .notify index pick =>
    match s.pending[index]? with
    | none => s
    | some signal => wake o { s with pending := s.pending.eraseIdx index } pick signal
  | .spurious index =>
    match s.asleep[index]? with
    | none => s
    | some call => { s with asleep := s.asleep.eraseIdx index, woken := s.woken ++ [call] }

end State

section Wake
variable [DecidableEq Call] [DecidableEq Cond] {o : Object Shared Call Cond}
variable {s : State Shared Call Cond}

/-- A notification changes neither the data nor who holds the mutex. -/
theorem State.wake_frame (s : State Shared Call Cond) (pick : Nat) (signal : Signal Cond) :
    (s.wake o pick signal).shared = s.shared ∧ (s.wake o pick signal).deciding = s.deciding ∧
    (s.wake o pick signal).pending = s.pending := by
  cases signal with
  | all cond => exact ⟨rfl, rfl, rfl⟩
  | one cond =>
    rw [wake]
    split <;> exact ⟨rfl, rfl, rfl⟩

theorem State.wake_asleep (s : State Shared Call Cond) (pick : Nat) (signal : Signal Cond) :
    (s.wake o pick signal).asleep.Sublist s.asleep := by
  cases signal with
  | all cond => exact List.filter_sublist
  | one cond =>
    rw [wake]
    split
    · exact List.Sublist.refl _
    · exact List.erase_sublist

/-- Sleepers become woken calls. -/
theorem State.wake_inProgress (s : State Shared Call Cond) (pick : Nat) (signal : Signal Cond) :
    (s.wake o pick signal).inProgress.Perm s.inProgress := by
  rw [List.perm_iff_count]
  intro call
  cases signal with
  | all cond =>
    have parts := (List.filter_append_perm (fun call => o.cond call = some cond) s.asleep).count_eq call
    simp only [inProgress, wake, List.count_append, decide_not, ne_eq] at parts ⊢
    omega
  | one cond =>
    rw [wake]
    split
    · rfl
    · next other found =>
      have sleeps : other ∈ s.asleep := List.mem_of_mem_filter (List.mem_of_getElem? found)
      have parts := (List.perm_cons_erase sleeps).count_eq call
      simp only [inProgress, List.count_append, List.count_cons, List.count_nil] at parts ⊢
      omega

/-- The calls in progress that wait on a condition, if they wait. -/
def State.users (o : Object Shared Call Cond) (cond : Cond) (s : State Shared Call Cond) : Nat :=
  s.inProgress.countP fun call => o.cond call = some cond

/-- Nobody sleeps on the condition. -/
def State.Roused (o : Object Shared Call Cond) (cond : Cond) (s : State Shared Call Cond) : Prop :=
  ∀ call ∈ s.asleep, o.cond call ≠ some cond

theorem State.Roused.wake {cond : Cond} (h : s.Roused o cond) (pick : Nat) (signal : Signal Cond) :
    (s.wake o pick signal).Roused o cond :=
  fun call sleeps => h call ((s.wake_asleep pick signal).subset sleeps)

theorem State.wake_all (s : State Shared Call Cond) (pick : Nat) (cond : Cond) :
    (s.wake o pick (.all cond)).Roused o cond := by
  intro call sleeps
  simpa using List.of_mem_filter sleeps

/-- One notification is enough for a single user. -/
theorem State.wake_one {cond : Cond} (sole : s.users o cond ≤ 1) (pick : Nat) :
    (s.wake o pick (.one cond)).Roused o cond := by
  rw [users, inProgress, List.countP_append, List.countP_append] at sole
  intro call sleeps waits
  have there : 0 < s.asleep.countP fun call => o.cond call = some cond :=
    List.countP_pos_iff.mpr ⟨call, (s.wake_asleep pick (.one cond)).subset sleeps, by simpa using waits⟩
  rw [wake] at sleeps
  split at sleeps
  · next missing =>
    rw [List.countP_eq_length_filter] at there
    rw [List.getElem?_eq_none_iff] at missing
    exact absurd (Nat.mod_lt pick there) (by omega)
  · next other found =>
    have waiting := List.mem_of_getElem? found
    -- The one that is woken was the only one, so none of the others waits on the condition.
    have left : 0 < (s.asleep.erase other).countP fun call => o.cond call = some cond :=
      List.countP_pos_iff.mpr ⟨call, sleeps, by simpa using waits⟩
    have parts := (List.perm_cons_erase (List.mem_of_mem_filter waiting)).countP_eq
      fun call => o.cond call = some cond
    rw [List.countP_cons_of_pos (List.of_mem_filter waiting)] at parts
    omega

/-- The notifications of one call, made one after the other. -/
theorem State.wakes_frame (s : State Shared Call Cond) (pick : Nat) (signals : List (Signal Cond)) :
    let last := signals.foldl (fun s signal => s.wake o pick signal) s
    last.shared = s.shared ∧ last.deciding = s.deciding ∧ last.pending = s.pending ∧
    last.asleep.Sublist s.asleep ∧ last.inProgress.Perm s.inProgress := by
  induction signals generalizing s with
  | nil => exact ⟨rfl, rfl, rfl, .refl _, .refl _⟩
  | cons signal signals ih =>
    obtain ⟨shared, deciding, pending⟩ := s.wake_frame (o := o) pick signal
    obtain ⟨shared', deciding', pending', asleep, inProgress⟩ := ih (s.wake o pick signal)
    exact ⟨shared'.trans shared, deciding'.trans deciding, pending'.trans pending,
      asleep.trans (s.wake_asleep pick signal), inProgress.trans (s.wake_inProgress pick signal)⟩

theorem State.Roused.wakes {cond : Cond} (h : s.Roused o cond) (pick : Nat)
    (signals : List (Signal Cond)) :
    (signals.foldl (fun s signal => s.wake o pick signal) s).Roused o cond := by
  induction signals generalizing s with
  | nil => exact h
  | cons signal signals ih => exact ih (h.wake pick signal)

/-- A condition that a call notifies has no sleepers left, if all were notified or there is a
single user of it. -/
theorem State.wakes_roused {cond : Cond} {signals : List (Signal Cond)}
    (notified : .all cond ∈ signals ∨ .one cond ∈ signals ∧ s.users o cond ≤ 1) (pick : Nat) :
    (signals.foldl (fun s signal => s.wake o pick signal) s).Roused o cond := by
  induction signals generalizing s with
  | nil => exact absurd notified (by simp)
  | cons signal signals ih =>
    rw [List.foldl_cons]
    have users : (s.wake o pick signal).users o cond = s.users o cond :=
      (s.wake_inProgress pick signal).countP_eq _
    rcases notified with all | ⟨one, sole⟩
    · rcases List.mem_cons.mp all with rfl | later
      · exact (s.wake_all pick cond).wakes pick signals
      · exact ih (Or.inl later)
    · rcases List.mem_cons.mp one with rfl | later
      · exact (State.wake_one sole pick).wakes pick signals
      · exact ih (Or.inr ⟨later, by rwa [users]⟩)

end Wake

section Heeded
variable [DecidableEq Call] [DecidableEq Cond]
variable (o : Object Shared Call Cond) (solo : Cond → Prop)

/-- A sleeper whose predicate holds is going to be notified. -/
def Heeded (s : State Shared Call Cond) : Prop :=
  ∀ call ∈ s.asleep, ∀ cond, o.cond call = some cond → o.ready s.shared call = true →
    .all cond ∈ s.pending

/-- The predicate has come to hold between the check and the sleep, and the notification has
already been made. -/
def Overtaken (s : State Shared Call Cond) (event : Event Call) : Prop :=
  ∃ call cond, event = .sleep ∧ s.deciding = some call ∧ o.cond call = some cond ∧
    o.ready s.shared call = true ∧ .all cond ∉ s.pending

/-- Whoever makes the predicate of another call true notifies it. One notification is enough
on the conditions that have a single user at a time. -/
def Covers (call : Call) : Prop :=
  ∀ shared other cond, o.cond other = some cond → o.ready shared call = true →
    o.ready shared other = false → o.ready (o.body shared call) other = true →
    .all cond ∈ o.inside shared call ∨ .all cond ∈ o.outside shared call ∨
      .one cond ∈ o.inside shared call ∧ solo cond

/-- A call on a condition with a single user begins when no other is in progress. -/
def InTurn (s : State Shared Call Cond) (event : Event Call) : Prop :=
  ∀ call pick cond, event = .enter call pick → o.cond call = some cond → solo cond →
    s.users o cond = 0

/-- What every run keeps up. -/
structure Orderly (s : State Shared Call Cond) : Prop where
  heeded : Heeded o s
  covers : ∀ call ∈ s.inProgress, Covers o solo call
  sole : ∀ cond, solo cond → s.users o cond ≤ 1

theorem perm_of_getElem? {α : Type u} {l : List α} {index : Nat} {a : α}
    (found : l[index]? = some a) : l.Perm (a :: l.eraseIdx index) := by
  obtain ⟨inside, rfl⟩ := List.getElem?_eq_some_iff.mp found
  exact (List.getElem_cons_eraseIdx_perm inside).symm

namespace Orderly
variable {o solo} {s next : State Shared Call Cond}

omit [DecidableEq Call] in
/-- Calls have left, or have changed places. -/
theorem of_subperm (h : Orderly o solo s) (inProgress : next.inProgress.Subperm s.inProgress)
    (heeded : Heeded o next) : Orderly o solo next :=
  ⟨heeded, fun call member => h.covers call (inProgress.subset member), fun cond single =>
    (inProgress.countP_le _).trans (h.sole cond single)⟩

omit [DecidableEq Call] in
theorem start (shared : Shared) : Orderly o solo (.start shared) :=
  ⟨nofun, nofun, fun _ _ => Nat.zero_le _⟩

theorem enter (h : Orderly o solo s) {call : Call} (covers : Covers o solo call)
    (turn : ∀ cond, o.cond call = some cond → solo cond → s.users o cond = 0) (pick : Nat) :
    Orderly o solo (s.enter o call pick) := by
  rw [State.enter]
  split_ifs with ready
  · -- The call runs: those whose predicate it makes true are notified.
    generalize acted : ({ s with
      shared := o.body s.shared call
      pending := s.pending ++ o.outside s.shared call } : State Shared Call Cond) = next
    have data : next.shared = o.body s.shared call := by rw [← acted]
    have due : next.pending = s.pending ++ o.outside s.shared call := by rw [← acted]
    have same : next.asleep = s.asleep ∧ next.inProgress = s.inProgress := by
      rw [← acted]
      exact ⟨rfl, rfl⟩
    have single : ∀ cond, solo cond → next.users o cond ≤ 1 := by
      intro cond alone
      rw [State.users, same.2]
      exact h.sole cond alone
    obtain ⟨shared, _, pending, asleep, inProgress⟩ :=
      next.wakes_frame (o := o) pick (o.inside s.shared call)
    refine ⟨?_, fun other member => h.covers other (same.2 ▸ inProgress.subset member),
      fun cond alone => (inProgress.countP_eq _).trans_le (single cond alone)⟩
    intro other sleeps cond waits enabled
    rw [shared, data] at enabled
    rw [pending, due]
    have slept : other ∈ s.asleep := same.1 ▸ asleep.subset sleeps
    cases before : o.ready s.shared other with
    | true => exact List.mem_append_left _ (h.heeded other slept cond waits before)
    | false =>
      rcases covers s.shared other cond waits ready before enabled with all | later | ⟨one, alone⟩
      · exact absurd waits (State.wakes_roused (Or.inl all) pick other sleeps)
      · exact List.mem_append_right _ later
      · exact absurd waits
          (State.wakes_roused (Or.inr ⟨one, single cond alone⟩) pick other sleeps)
  · -- The call is going to sleep; the predicates have not changed.
    refine ⟨h.heeded, ?_, ?_⟩
    · intro other member
      rw [State.inProgress, Option.toList_some, List.append_assoc, List.singleton_append,
        List.mem_cons] at member
      rcases member with rfl | earlier
      · exact covers
      · refine h.covers other ?_
        rw [State.inProgress, List.append_assoc]
        exact List.mem_append_right _ earlier
    · intro cond alone
      have before := h.sole cond alone
      have free := turn cond
      simp only [State.users, State.inProgress, List.countP_append] at before free ⊢
      rw [Option.toList_some, List.countP_singleton]
      split_ifs with waits
      · have none := free (of_decide_eq_true waits) alone
        omega
      · omega

theorem step (h : Orderly o solo s) {event : Event Call}
    (covers : ∀ call pick, event = .enter call pick → Covers o solo call)
    (turn : InTurn o solo s event) (inTime : ¬ Overtaken o s event) :
    Orderly o solo (s.step o event) := by
  cases event with
  | enter call pick =>
    rw [State.step]
    split_ifs
    · exact h
    · exact h.enter (covers call pick rfl) (fun cond => turn call pick cond rfl) pick
  | resume index pick =>
    rw [State.step]
    split_ifs
    · exact h
    · split
      · exact h
      · next call found =>
        have parts := perm_of_getElem? found
        have whole : (s.deciding.toList ++ s.asleep ++ s.woken).Perm
            (call :: (s.deciding.toList ++ s.asleep ++ s.woken.eraseIdx index)) :=
          (parts.append_left _).trans List.perm_middle
        have left : Orderly o solo { s with woken := s.woken.eraseIdx index } :=
          h.of_subperm ((List.sublist_cons_self _ _).subperm.trans whole.symm.subperm) h.heeded
        refine left.enter (h.covers call (whole.symm.subset List.mem_cons_self)) ?_ pick
        intro cond waits alone
        have before := h.sole cond alone
        rw [State.users, State.inProgress, whole.countP_eq, List.countP_cons_of_pos (by simpa using waits)]
          at before
        exact Nat.le_zero.mp (Nat.le_of_succ_le_succ before)
  | sleep =>
    rw [State.step]
    split
    · exact h
    · next call found =>
      have moved : (s.asleep ++ [call] ++ s.woken).Perm (s.deciding.toList ++ s.asleep ++ s.woken) := by
        rw [found, Option.toList_some]
        exact List.perm_append_comm.append_right _
      refine h.of_subperm moved.subperm ?_
      intro other sleeps cond waits enabled
      rcases List.mem_append.mp sleeps with earlier | now
      · exact h.heeded other earlier cond waits enabled
      · rw [List.mem_singleton.mp now] at waits enabled
        by_contra missed
        exact inTime ⟨call, cond, rfl, found, waits, enabled, missed⟩
  | notify index pick =>
    rw [State.step]
    split
    · exact h
    · next signal found =>
      obtain ⟨shared, _, pending⟩ :=
        State.wake_frame (o := o) { s with pending := s.pending.eraseIdx index } pick signal
      refine h.of_subperm (State.wake_inProgress _ pick signal).subperm ?_
      intro other sleeps cond waits enabled
      rw [shared] at enabled
      rw [pending]
      have slept : other ∈ s.asleep :=
        (State.wake_asleep { s with pending := s.pending.eraseIdx index } pick signal).subset sleeps
      have notified := h.heeded other slept cond waits enabled
      rcases List.mem_cons.mp ((perm_of_getElem? found).subset notified) with made | later
      · rw [← made] at sleeps
        exact absurd waits (State.wake_all _ pick cond other sleeps)
      · exact later
  | spurious index =>
    rw [State.step]
    split
    · exact h
    · next call found =>
      have moved : (s.deciding.toList ++ s.asleep.eraseIdx index ++ (s.woken ++ [call])).Perm
          (s.deciding.toList ++ s.asleep ++ s.woken) := by
        rw [List.append_assoc, List.append_assoc]
        refine List.Perm.append_left _ ?_
        refine (List.perm_append_comm.append_left _).trans ?_
        rw [← List.append_assoc]
        refine List.Perm.append_right _ ?_
        exact List.perm_append_comm.trans (perm_of_getElem? found).symm
      exact h.of_subperm moved.subperm fun other sleeps =>
        h.heeded other (List.mem_of_mem_eraseIdx sleeps)

end Orderly

/-- When nothing but a late sleep can go wrong, no sleeper is ever forgotten exactly if no
thread goes to sleep too late. -/
theorem always_heeded_iff {o solo} {s : State Shared Call Cond} (orderly : Orderly o solo s)
    (events : List (Event Call))
    (covers : ∀ call pick, .enter call pick ∈ events → Covers o solo call)
    (turns : Throughout (State.step o) (InTurn o solo) s events) :
    Always (State.step o) (Heeded o) s events ↔
      Throughout (State.step o) (fun s event => ¬ Overtaken o s event) s events := by
  induction events generalizing s with
  | nil =>
    refine iff_of_true ?_ trivial
    intro done hpre
    rw [List.prefix_nil.mp hpre]
    exact orderly.heeded
  | cons event events ih =>
    have covered : ∀ call pick, event = .enter call pick → Covers o solo call :=
      fun call pick same => covers call pick (same ▸ List.mem_cons_self)
    have rest : ∀ call pick, .enter call pick ∈ events → Covers o solo call :=
      fun call pick later => covers call pick (List.mem_cons_of_mem _ later)
    constructor
    · intro always
      have heeded : Heeded o (s.step o event) := always [event] ⟨events, rfl⟩
      have inTime : ¬ Overtaken o s event := by
        rintro ⟨call, cond, rfl, found, waits, enabled, missed⟩
        rw [State.step, found] at heeded
        exact missed (heeded call (by simp) cond waits enabled)
      have next := orderly.step covered turns.1 inTime
      exact ⟨inTime, (ih next rest turns.2).mp (always_tail always)⟩
    · rintro ⟨inTime, later⟩
      have next := orderly.step covered turns.1 inTime
      exact always_cons orderly.heeded ((ih next rest turns.2).mpr later)

omit [DecidableEq Call] [DecidableEq Cond] in
/-- What the thread that goes to sleep has found. -/
def Found (P : Shared → Call → Prop) (s : State Shared Call Cond) : Prop :=
  ∀ call, s.deciding = some call → P s.shared call

namespace Found
variable {o} {P : Shared → Call → Prop} {s : State Shared Call Cond}

omit [DecidableEq Call] [DecidableEq Cond] in
theorem of_free (free : s.deciding = none) : Found P s := by
  intro call found
  rw [free] at found
  cases found

theorem enter (idle : ∀ shared call, o.ready shared call = false → P shared call) (h : Found P s)
    {call : Call} (kept : s.deciding = none ∨
      ∀ shared other, P shared other → P (o.body shared call) other) (pick : Nat) :
    Found P (s.enter o call pick) := by
  rw [State.enter]
  split_ifs with ready
  · intro other found
    obtain ⟨shared, deciding, _⟩ := State.wakes_frame (o := o)
      { s with
        shared := o.body s.shared call
        pending := s.pending ++ o.outside s.shared call } pick (o.inside s.shared call)
    rw [deciding] at found
    rw [shared]
    rcases kept with free | kept
    · rw [free] at found
      cases found
    · exact kept s.shared other (h other found)
  · rintro other ⟨⟩
    exact idle _ _ (by simpa using ready)

/-- While a thread holds the mutex, only calls that do not lock can undo what it has found. -/
theorem step (idle : ∀ shared call, o.ready shared call = false → P shared call) (h : Found P s)
    {event : Event Call} (kept : ∀ call pick, event = .enter call pick → o.locks call = true ∨
      ∀ shared other, P shared other → P (o.body shared call) other) :
    Found P (s.step o event) := by
  cases event with
  | enter call pick =>
    rw [State.step]
    split_ifs with shut
    · exact h
    · refine enter idle h ((kept call pick rfl).imp_left fun locks => ?_) pick
      simpa [locks] using shut
  | resume index pick =>
    rw [State.step]
    split_ifs with shut
    · exact h
    · split
      · exact h
      · exact enter (s := { s with woken := s.woken.eraseIdx index }) idle h
          (Or.inl (by simpa using shut)) pick
  | sleep =>
    rw [State.step]
    split
    · exact h
    · exact nofun
  | notify index pick =>
    rw [State.step]
    split
    · exact h
    · next signal _ =>
      intro call found
      obtain ⟨shared, deciding, _⟩ :=
        State.wake_frame (o := o) { s with pending := s.pending.eraseIdx index } pick signal
      rw [deciding] at found
      rw [shared]
      exact h call found
  | spurious index =>
    rw [State.step]
    split <;> exact h

end Found

end Heeded

section Order
variable [DecidableEq Call] [DecidableEq Cond]
variable (o : Object Shared Call Cond) (s : State Shared Call Cond)

/-- The call that does its work in this step. -/
def State.ran : Event Call → Option Call
  | .enter call _ =>
    if o.locks call = true ∧ s.deciding.isSome then none
    else if o.ready s.shared call then some call else none
  | .resume index _ => if s.deciding.isSome then none else s.woken[index]?.filter (o.ready s.shared)
  | _ => none

end Order
end Monitor
