import Mathlib

/-!
# Sums over the entries of an association list

A total of weights over all entries moves with an insertion by the difference of the two
weights, and an erasure never raises it.
-/
namespace KeyedSums
universe u v
variable {α : Type u} {β : Type v} [DecidableEq α]

section Entries
variable (weight : β → Nat)

/-- The weights of all entries. -/
def sumOf (entries : List (Sigma fun _ : α => β)) : Nat :=
  (entries.map fun entry => weight entry.2).sum

theorem sumOf_kerase (key : α) (entries : List (Sigma fun _ : α => β)) :
    sumOf weight (entries.kerase key) + ((entries.dlookup key).map weight).getD 0 =
      sumOf weight entries := by
  induction entries with
  | nil => rfl
  | cons entry entries ih =>
    obtain ⟨other, value⟩ := entry
    by_cases same : other = key
    · subst same
      have erased : (⟨other, value⟩ :: entries : List (Sigma fun _ : α => β)).kerase other =
          entries := List.kerase_cons_eq rfl
      rw [erased, List.dlookup_cons_eq]
      simp only [sumOf, List.map_cons, List.sum_cons, Option.map_some, Option.getD_some]
      omega
    · have kept : (⟨other, value⟩ :: entries : List (Sigma fun _ : α => β)).kerase key =
          ⟨other, value⟩ :: entries.kerase key := List.kerase_cons_ne (Ne.symm same)
      have found : (⟨other, value⟩ :: entries : List (Sigma fun _ : α => β)).dlookup key =
          entries.dlookup key := List.dlookup_cons_ne entries _ (Ne.symm same)
      rw [kept, found]
      simp only [sumOf, List.map_cons, List.sum_cons] at ih ⊢
      omega

end Entries

variable (weight : β → Nat) (entries : AList fun _ : α => β)

def total : Nat := sumOf weight entries.entries

theorem total_insert (key : α) (value : β) :
    total weight (entries.insert key value) + ((entries.lookup key).map weight).getD 0 =
      total weight entries + weight value := by
  have split := sumOf_kerase weight key entries.entries
  change weight value + sumOf weight (entries.entries.kerase key) +
    ((entries.entries.dlookup key).map weight).getD 0 = sumOf weight entries.entries + weight value
  omega

end KeyedSums
