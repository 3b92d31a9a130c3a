import Mathlib.Data.List.Infix

/-!
# Runs of a step function

A run folds a total step function over a list of events; an event that is not
enabled leaves the state as it is. An invariant may rest on a condition that
every step of the run meets in the state before it, and when breaking that
condition always breaks the observed property at once, the two are equivalent.
-/
namespace EventRun
universe u v
variable {State : Type u} {Event : Type v} (step : State → Event → State)

def run (s : State) (events : List Event) : State := events.foldl step s

/-- Every step of the run meets `P` in the state in which it is made. -/
def Throughout (P : State → Event → Prop) : State → List Event → Prop
  | _, [] => True
  | s, e :: events => P s e ∧ Throughout P (step s e) events

instance decidableThroughout {P : State → Event → Prop} [∀ s e, Decidable (P s e)] :
    ∀ s events, Decidable (Throughout step P s events)
  | _, [] => .isTrue trivial
  | s, e :: events => @instDecidableAnd _ _ _ (decidableThroughout (step s e) events)

/-- `Q` holds in every state the run passes through, the first one included. -/
def Always (Q : State → Prop) (s : State) (events : List Event) : Prop :=
  ∀ done, done <+: events → Q (run step s done)

@[simp] theorem run_nil (s : State) : run step s [] = s := rfl

@[simp] theorem run_cons (s : State) (e : Event) (events : List Event) :
    run step s (e :: events) = run step (step s e) events := rfl

theorem run_append (s : State) (first rest : List Event) :
    run step s (first ++ rest) = run step (run step s first) rest :=
  List.foldl_append

variable {step}

theorem run_invariant {Inv : State → Prop} {Allowed : Event → Prop}
    (preserve : ∀ s e, Allowed e → Inv s → Inv (step s e)) {s : State} (initial : Inv s)
    (events : List Event) (allowed : ∀ e ∈ events, Allowed e) : Inv (run step s events) := by
  induction events generalizing s with
  | nil => exact initial
  | cons e events ih =>
    exact ih (preserve s e (allowed e List.mem_cons_self) initial)
      (fun e' h => allowed e' (List.mem_cons_of_mem e h))

theorem run_invariant_of_throughout {Inv : State → Prop} {P : State → Event → Prop}
    {Allowed : Event → Prop}
    (preserve : ∀ s e, Allowed e → Inv s → P s e → Inv (step s e)) {s : State} (initial : Inv s)
    (events : List Event) (allowed : ∀ e ∈ events, Allowed e)
    (met : Throughout step P s events) : Inv (run step s events) := by
  induction events generalizing s with
  | nil => exact initial
  | cons e events ih =>
    exact ih (preserve s e (allowed e List.mem_cons_self) initial met.1)
      (fun e' h => allowed e' (List.mem_cons_of_mem e h)) met.2

/-- A property that one kind of event brings about, and that no later step destroys,
holds at the end of every run in which such an event occurs. -/
theorem run_invariant_after {Inv After : State → Prop} {P : State → Event → Prop}
    {Trigger : Event → Prop} (preserve : ∀ s e, Inv s → P s e → Inv (step s e))
    (enter : ∀ s e, Trigger e → Inv s → P s e → After (step s e))
    (stay : ∀ s e, Inv s → After s → P s e → After (step s e)) {s : State} (initial : Inv s)
    (events : List Event) (met : Throughout step P s events)
    (happens : After s ∨ ∃ e ∈ events, Trigger e) : After (run step s events) := by
  induction events generalizing s with
  | nil =>
    rcases happens with already | ⟨e, hmem, _⟩
    · exact already
    · cases hmem
  | cons e events ih =>
    apply ih (preserve s e initial met.1) met.2
    rcases happens with already | ⟨e', hmem, trigger⟩
    · exact Or.inl (stay s e initial already met.1)
    · rcases List.mem_cons.mp hmem with rfl | later
      · exact Or.inl (enter s e' trigger initial met.1)
      · exact Or.inr ⟨e', later, trigger⟩

theorem throughout_of_mem {P : State → Event → Prop} (s : State) (events : List Event)
    (all : ∀ s, ∀ e ∈ events, P s e) : Throughout step P s events := by
  induction events generalizing s with
  | nil => trivial
  | cons e events ih =>
    exact ⟨all s e List.mem_cons_self,
      ih (step s e) fun s e' later => all s e' (List.mem_cons_of_mem e later)⟩

theorem throughout_take {P : State → Event → Prop} {s : State} {done events : List Event}
    (hpre : done <+: events) (met : Throughout step P s events) :
    Throughout step P s done := by
  induction done generalizing s events with
  | nil => trivial
  | cons e done ih =>
    obtain ⟨rest, rfl⟩ := hpre
    exact ⟨met.1, ih (List.prefix_append done rest) met.2⟩

theorem throughout_append {P : State → Event → Prop} {s : State} (first rest : List Event) :
    Throughout step P s (first ++ rest) ↔
      Throughout step P s first ∧ Throughout step P (run step s first) rest := by
  induction first generalizing s with
  | nil => exact (and_iff_right trivial).symm
  | cons e first ih =>
    rw [List.cons_append, Throughout, Throughout, ih, run_cons, and_assoc]

/-- A stronger condition on the steps gives a weaker one where the invariant holds. -/
theorem throughout_mono {Inv : State → Prop} {P R : State → Event → Prop}
    {Allowed : Event → Prop}
    (preserve : ∀ s e, Allowed e → Inv s → P s e → Inv (step s e))
    (weaken : ∀ s e, Allowed e → Inv s → P s e → R s e) {s : State} (initial : Inv s)
    (events : List Event) (allowed : ∀ e ∈ events, Allowed e)
    (met : Throughout step P s events) : Throughout step R s events := by
  induction events generalizing s with
  | nil => trivial
  | cons e events ih =>
    have here := allowed e List.mem_cons_self
    exact ⟨weaken s e here initial met.1, ih (preserve s e here initial met.1)
      (fun e' h => allowed e' (List.mem_cons_of_mem e h)) met.2⟩

theorem always_tail {Q : State → Prop} {s : State} {e : Event} {events : List Event}
    (always : Always step Q s (e :: events)) : Always step Q (step s e) events :=
  fun done hpre => always (e :: done) ((List.prefix_cons_inj e).mpr hpre)

theorem always_cons {Q : State → Prop} {s : State} {e : Event} {events : List Event}
    (here : Q s) (later : Always step Q (step s e) events) : Always step Q s (e :: events) := by
  intro done hpre
  rcases List.prefix_cons_iff.mp hpre with rfl | ⟨rest, rfl, hrest⟩
  · exact here
  · exact later rest hrest

/-- The property is observed along the whole run exactly when every step meets
the condition, provided the invariant carries the good steps and every other
step is seen in the next state. -/
theorem always_iff_throughout {Inv Q : State → Prop} {P : State → Event → Prop}
    {Allowed : Event → Prop}
    (preserve : ∀ s e, Allowed e → Inv s → P s e → Inv (step s e)) (observe : ∀ s, Inv s → Q s)
    (detect : ∀ s e, Allowed e → Inv s → Q (step s e) → P s e)
    {s : State} (initial : Inv s) (events : List Event) (allowed : ∀ e ∈ events, Allowed e) :
    Always step Q s events ↔ Throughout step P s events := by
  constructor
  · intro always
    induction events generalizing s with
    | nil => trivial
    | cons e events ih =>
      have next : Q (step s e) := always [e] ⟨events, rfl⟩
      have here := allowed e List.mem_cons_self
      have met := detect s e here initial next
      exact ⟨met, ih (preserve s e here initial met)
        (fun e' h => allowed e' (List.mem_cons_of_mem e h)) (always_tail always)⟩
  · intro met done hpre
    exact observe _ (run_invariant_of_throughout preserve initial done
      (fun e h => allowed e (hpre.subset h)) (throughout_take hpre met))

section Simulation
universe w x
variable {Part : Type w} {Action : Type x} {act : Part → Action → Part}
variable {actions : State → Event → List Action}

variable (step actions) in
/-- The actions of one part of the system along a run, where a step stands for several. -/
def actionsOf : State → List Event → List Action
  | _, [] => []
  | s, e :: events => actions s e ++ actionsOf (step s e) events

/-- When every step of the system moves a part of it by that part's own actions, so does
every run. -/
theorem run_simulates {R : State → Part → Prop} {P : State → Event → Prop}
    (simulate : ∀ s e part, P s e → R s part → R (step s e) (run act part (actions s e)))
    {s : State} {part : Part} (initial : R s part) (events : List Event)
    (met : Throughout step P s events) :
    R (run step s events) (run act part (actionsOf step actions s events)) := by
  induction events generalizing s part with
  | nil => exact initial
  | cons e events ih =>
    rw [actionsOf, run_append]
    exact ih (simulate s e part met.1 initial) met.2

/-- A function that commutes with every step commutes with every run. -/
theorem run_commutes {next : Part → Event → Part} {f : State → Part}
    (commute : ∀ s e, f (step s e) = next (f s) e) (s : State) (events : List Event) :
    f (run step s events) = run next (f s) events := by
  induction events generalizing s with
  | nil => rfl
  | cons e events ih => rw [run_cons, run_cons, ih, commute]

/-- So do the actions along the run, when those of each step are the same. -/
theorem actionsOf_commutes {next : Part → Event → Part} {f : State → Part}
    {abstracted : Part → Event → List Action} (commute : ∀ s e, f (step s e) = next (f s) e)
    (same : ∀ s e, actions s e = abstracted (f s) e) (s : State) (events : List Event) :
    actionsOf step actions s events = actionsOf next abstracted (f s) events := by
  induction events generalizing s with
  | nil => rfl
  | cons e events ih => rw [actionsOf, actionsOf, ih, commute, same]

/-- A loop over many parts acts on one of them as often as it visits it. -/
theorem foldl_simulates {Key : Type v} [DecidableEq Key] {visit : State → Key → State} {key : Key}
    {action : Action} {R : List Key → State → Part → Prop}
    (own : ∀ keys s part, R (key :: keys) s part → R keys (visit s key) (act part action))
    (other : ∀ k keys s part, k ≠ key → R (k :: keys) s part → R keys (visit s k) part)
    (keys : List Key) {s : State} {part : Part} (initial : R keys s part) :
    R [] (keys.foldl visit s) (run act part (List.replicate (keys.count key) action)) := by
  induction keys generalizing s part with
  | nil => exact initial
  | cons k keys ih =>
    by_cases same : k = key
    · rw [same] at initial ⊢
      rw [List.count_cons_self, List.replicate_succ, run_cons]
      exact ih (own keys s part initial)
    · rw [List.count_cons_of_ne same]
      exact ih (other k keys s part same initial)

end Simulation

end EventRun
