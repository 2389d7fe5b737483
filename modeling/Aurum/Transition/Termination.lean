import Mathlib.Logic.Hydra

/-!
# Runs that come to rest

A step that uses up one thing and makes any number of things of smaller rank is
a move of the hydra game: however the moves are chosen, only finitely many can
be made.
-/

namespace Aurum.Transition

universe u v

variable {σ : Type u} {α : Type v} {step : σ → σ → Prop}

/-- When every step is a move on the ranks of what a state holds, steps cannot
be taken for ever. -/
theorem wellFounded_of_cutExpand [LT α] [WellFoundedLT α] (ranks : σ → Multiset α)
    (moves : ∀ state next, step state next →
      Relation.CutExpand (· < ·) (ranks next) (ranks state)) :
    WellFounded (flip step) := by
  have game : WellFounded (Relation.CutExpand fun first second : α => first < second) :=
    WellFounded.cutExpand wellFounded_lt
  apply Subrelation.wf _ (InvImage.wf ranks game)
  intro next state taken
  exact moves state next taken

/-- A run that goes on until it rests comes to rest. -/
theorem exists_rest (terminates : WellFounded (flip step)) {rests : σ → Prop} {run : ℕ → σ}
    (goes : ∀ k, ¬rests (run k) → step (run k) (run (k + 1))) : ∃ k, rests (run k) := by
  have ends : IsWellFounded σ (flip step) := ⟨terminates⟩
  have stops : ∃ k, ¬flip step (run (k + 1)) (run k) :=
    WellFounded.not_rel_apply_succ run
  rcases stops with ⟨k, last⟩
  refine ⟨k, ?_⟩
  by_contra busy
  exact last (goes k busy)

/-- From every state there is a run that goes on while it can. -/
theorem exists_run (step : σ → σ → Prop) (start : σ) :
    ∃ run : ℕ → σ, run 0 = start ∧
      ∀ k, (∃ next, step (run k) next) → step (run k) (run (k + 1)) := by
  classical
  refine ⟨Nat.rec start fun _ state =>
    if possible : ∃ next, step state next then possible.choose else state, rfl, ?_⟩
  intro k possible
  simp only [dif_pos possible]
  exact possible.choose_spec

/-- A run that goes on while it can, from a state with a property that steps
keep and from which steps cannot be taken for ever, comes to rest. -/
theorem exists_rest_keeping {holds : σ → Prop}
    (terminates : WellFounded (flip fun state next => holds state ∧ step state next))
    (kept : ∀ state next, holds state → step state next → holds next)
    {run : ℕ → σ} (starts : holds (run 0))
    (goes : ∀ k, (∃ next, step (run k) next) → step (run k) (run (k + 1))) :
    ∃ k, holds (run k) ∧ ¬∃ next, step (run k) next := by
  by_contra unending
  have goesOn : ∀ k, holds (run k) → step (run k) (run (k + 1)) := by
    intro k held
    by_contra still
    exact unending ⟨k, held, fun possible => still (goes k possible)⟩
  have throughout : ∀ k, holds (run k) := by
    intro k
    induction k with
    | zero => exact starts
    | succ k ih => exact kept _ _ ih (goesOn k ih)
  rcases @exists_rest σ _ terminates (fun _ => False) run
    (fun k _ => ⟨throughout k, goesOn k (throughout k)⟩) with ⟨_, impossible⟩
  exact impossible

/-- Steps that lower a measure cannot be taken for ever. -/
theorem wellFounded_of_measure (measure : σ → ℕ) {holds : σ → Prop}
    (lowers : ∀ state next, holds state → step state next → measure next < measure state) :
    WellFounded (flip fun state next => holds state ∧ step state next) := by
  apply Subrelation.wf _ (InvImage.wf measure Nat.lt_wfRel.wf)
  rintro next state ⟨held, taken⟩
  exact lowers state next held taken

end Aurum.Transition
