import Mathlib.Data.List.Basic

/-!
# Runs whose steps meet a condition

A property of states that every step keeps, where the step meets a condition on the state before it,
holds at the end of every run whose steps all meet the condition.
-/

namespace Guarded

variable {σ α : Type*} {step : σ → α → σ} {ok : σ → α → Prop}

/-- Every step of the run meets the condition in the state before it. -/
def Run (step : σ → α → σ) (ok : σ → α → Prop) : σ → List α → Prop
  | _, [] => True
  | s, a :: l => ok s a ∧ Run step ok (step s a) l

lemma Run.invariant {motive : σ → Prop} {s : σ} {l : List α} (hr : Run step ok s l) (hs : motive s)
    (ht : ∀ s a, motive s → ok s a → motive (step s a)) : motive (l.foldl step s) := by
  induction l generalizing s with
  | nil => exact hs
  | cons a l ih => exact ih hr.2 (ht s a hs hr.1)

instance [∀ s a, Decidable (ok s a)] : ∀ (s : σ) (l : List α), Decidable (Run step ok s l)
  | _, [] => isTrue trivial
  | s, a :: l =>
    have := instDecidableRun (step s a) l
    inferInstanceAs (Decidable (_ ∧ _))

end Guarded
