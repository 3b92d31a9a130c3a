/-!
# Loops that may not end

A loop repeats its body until the body leaves it with a result. A run with fuel is
what can be computed of it; the loop returns when some fuel is enough. Two rules
decide whether it does: a measure that every round decreases, or a set of states that
the body never leaves.
-/
namespace FuelLoop
universe u v
variable {State : Type u} {Result : Type v} {body : State → State ⊕ Result}

def run (body : State → State ⊕ Result) : Nat → State → Option Result
  | 0, _ => none
  | fuel + 1, s =>
    match body s with
    | .inl next => run body fuel next
    | .inr result => some result

def Returns (body : State → State ⊕ Result) (s : State) (result : Result) : Prop :=
  ∃ fuel, run body fuel s = some result

theorem Returns.exit {s : State} {result : Result} (leaves : body s = .inr result) :
    Returns body s result := ⟨1, by rw [run, leaves]⟩

theorem Returns.round {s next : State} {result : Result} (stays : body s = .inl next)
    (rest : Returns body next result) : Returns body s result := by
  obtain ⟨fuel, enough⟩ := rest
  exact ⟨fuel + 1, by rw [run, stays]; exact enough⟩

/-- A loop whose rounds keep an invariant and decrease a measure returns, with what the
last round makes of the invariant. -/
theorem returns_of_decreasing (Inv : State → Prop) {Post : Result → Prop} (measure : State → Nat)
    (keeps : ∀ s next, Inv s → body s = .inl next → Inv next ∧ measure next < measure s)
    (leaves : ∀ s result, Inv s → body s = .inr result → Post result) {s : State} (initial : Inv s) :
    ∃ result, Returns body s result ∧ Post result := by
  induction size : measure s using Nat.strongRecOn generalizing s with
  | ind size' ih =>
    cases round : body s with
    | inl next =>
      obtain ⟨kept, less⟩ := keeps s next initial round
      obtain ⟨result, returns, post⟩ := ih (measure next) (size ▸ less) kept rfl
      exact ⟨result, returns.round round, post⟩
    | inr result => exact ⟨result, .exit round, leaves s result initial round⟩

/-- A loop in a set of states that its body never leaves does not return. -/
theorem not_returns_of_closed (Stuck : State → Prop)
    (closed : ∀ s, Stuck s → ∃ next, body s = .inl next ∧ Stuck next) {s : State}
    (stuck : Stuck s) (result : Result) : ¬ Returns body s result := by
  rintro ⟨fuel, enough⟩
  induction fuel generalizing s with
  | zero => cases enough
  | succ fuel ih =>
    obtain ⟨next, stays, kept⟩ := closed s stuck
    rw [run, stays] at enough
    exact ih kept enough

end FuelLoop
