import Mathlib.Tactic.TypeStar

/-!
# What a loop collects

A loop over a list that only ever adds to what it has collected: whether something has been
collected at the end depends on the start and on the single rounds, and not on their order.
`Collect.foldl_iff` says so for one predicate on the state of the loop, and
`Collect.foldl_eq` for what the rounds leave alone.
-/

namespace Collect

variable {σ α β : Type*} {f : σ → α → σ}

/-- **What a loop collects** is what there was and what one of its rounds adds. -/
theorem foldl_iff {P : σ → Prop} {A : α → Prop} (h : ∀ s x, P (f s x) ↔ P s ∨ A x)
    (l : List α) (s : σ) : P (l.foldl f s) ↔ P s ∨ ∃ x ∈ l, A x := by
  induction l generalizing s with
  | nil => simp
  | cons x l ih => simp [ih, h, or_assoc]

/-- What no round of a loop changes is what it was. -/
theorem foldl_eq {g : σ → β} (h : ∀ s x, g (f s x) = g s) (l : List α) (s : σ) :
    g (l.foldl f s) = g s := by
  induction l generalizing s with
  | nil => rfl
  | cons x l ih => rw [List.foldl_cons, ih, h]

end Collect
