import Aurum.Transition.Machine

/-!
# Runs step by step

A run as the list of its events, each with the state it leads to.
-/

namespace Aurum.Transition

universe u v

namespace Machine

variable {σ : Type u} {ε : Type v}

/-- The steps of a run that starts in a given state. -/
inductive Path (machine : Machine σ ε) : σ → List (ε × σ) → Prop
  | nil (state : σ) : Path machine state []
  | cons {state next : σ} {event : ε} {steps : List (ε × σ)}
      (taken : machine.step state event next) (rest : Path machine next steps) :
      Path machine state ((event, next) :: steps)

/-- The state that a run ends in. -/
def finish : σ → List (ε × σ) → σ
  | state, [] => state
  | _, (_, next) :: steps => finish next steps

/-- The states of a run. -/
def states (state : σ) (steps : List (ε × σ)) : List σ :=
  state :: steps.map Prod.snd

theorem finish_append (state : σ) (first second : List (ε × σ)) :
    finish state (first ++ second) = finish (finish state first) second := by
  induction first generalizing state with
  | nil => rfl
  | cons step first ih => exact ih step.2

theorem path_append_iff {machine : Machine σ ε} {state : σ} {first second : List (ε × σ)} :
    machine.Path state (first ++ second) ↔
      machine.Path state first ∧ machine.Path (finish state first) second := by
  induction first generalizing state with
  | nil => exact ⟨fun path => ⟨.nil state, path⟩, And.right⟩
  | cons step first ih =>
      constructor
      · intro path
        cases path with
        | cons taken rest =>
            rcases ih.mp rest with ⟨front, back⟩
            exact ⟨.cons taken front, back⟩
      · rintro ⟨front, back⟩
        cases front with
        | cons taken rest => exact .cons taken (ih.mpr ⟨rest, back⟩)

theorem finish_mem_states (state : σ) (steps : List (ε × σ)) :
    finish state steps ∈ states state steps := by
  induction steps generalizing state with
  | nil => exact List.mem_cons_self
  | cons step steps ih =>
      rcases step with ⟨event, next⟩
      exact List.mem_cons_of_mem state (ih next)

/-- The states up to some point of a run are states of the run. -/
theorem states_subset_append (state : σ) (first second : List (ε × σ)) :
    states state first ⊆ states state (first ++ second) := by
  intro visited member
  rcases List.mem_cons.mp member with rfl | later
  · exact List.mem_cons_self
  · apply List.mem_cons_of_mem
    rw [List.map_append]
    exact List.mem_append_left _ later

theorem Path.reachable {machine : Machine σ ε} {state : σ} {steps : List (ε × σ)}
    (path : machine.Path state steps) (starts : machine.Reachable state) :
    machine.Reachable (finish state steps) := by
  induction path with
  | nil state => exact starts
  | cons taken rest ih => exact ih (.step starts taken)

end Machine

end Aurum.Transition
