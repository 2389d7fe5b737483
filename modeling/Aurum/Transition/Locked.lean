import Aurum.Transition.Machine
import Mathlib.Logic.Function.Basic

/-!
# Objects behind a lock

Threads call operations on one object.  An operation is a row of actions, each
of which changes the object in one step; a thread takes the lock, carries out
its actions and lets the lock go, while other threads go on in between.
Whenever the lock is free, the object is what the operations make of it one
after another, in the order in which they took the lock.
-/

namespace Aurum.Transition

universe u v w

namespace Locked

/-- How far a thread is in its call. -/
inductive Phase (κ : Type v) (σ : Type w)
  | idle
  /-- The thread waits for the lock. -/
  | waiting (operation : κ)
  /-- The thread holds the lock; these actions are left. -/
  | inside (left : List (σ → σ))

/-- The threads and the object they share. -/
structure Configuration (ι : Type u) (κ : Type v) (σ : Type w) where
  object : σ
  holder : Option ι
  phase : ι → Phase κ σ
  /-- The operations that have taken the lock, in order. -/
  admitted : List κ

/-- What a thread does next. -/
inductive Event (ι : Type u) (κ : Type v)
  | call (thread : ι) (operation : κ)
  | acquire (thread : ι)
  | act (thread : ι)
  | release (thread : ι)

variable {ι : Type u} {κ : Type v} {σ : Type w}

/-- Carry out a row of actions. -/
def carryOut (actions : List (σ → σ)) (object : σ) : σ :=
  actions.foldl (fun object action => action object) object

/-- Carry out operations one after another. -/
def sequential (actions : κ → List (σ → σ)) (operations : List κ) (object : σ) : σ :=
  operations.foldl (fun object operation => carryOut (actions operation) object) object

theorem sequential_concat (actions : κ → List (σ → σ)) (operations : List κ) (operation : κ)
    (object : σ) :
    sequential actions (operations ++ [operation]) object =
      carryOut (actions operation) (sequential actions operations object) := by
  rw [sequential, List.foldl_append]
  rfl

/-- What every operation keeps, a sequence of operations keeps. -/
theorem sequential_invariant {actions : κ → List (σ → σ)} {holds : σ → Prop}
    (kept : ∀ operation object, holds object → holds (carryOut (actions operation) object))
    (operations : List κ) {object : σ} (starts : holds object) :
    holds (sequential actions operations object) := by
  induction operations generalizing object with
  | nil => exact starts
  | cons operation operations ih => exact ih (kept operation object starts)

variable [DecidableEq ι]

/-- The steps of the threads. -/
inductive Step (actions : κ → List (σ → σ)) (configuration : Configuration ι κ σ) :
    Event ι κ → Configuration ι κ σ → Prop
  | call (thread : ι) (operation : κ) (idle : configuration.phase thread = .idle) :
      Step actions configuration (.call thread operation)
        { configuration with
          phase := Function.update configuration.phase thread (.waiting operation) }
  | acquire (thread : ι) (operation : κ) (free : configuration.holder = none)
      (waits : configuration.phase thread = .waiting operation) :
      Step actions configuration (.acquire thread)
        { configuration with
          holder := some thread
          phase := Function.update configuration.phase thread (.inside (actions operation))
          admitted := configuration.admitted ++ [operation] }
  | act (thread : ι) (action : σ → σ) (left : List (σ → σ))
      (busy : configuration.phase thread = .inside (action :: left)) :
      Step actions configuration (.act thread)
        { configuration with
          object := action configuration.object
          phase := Function.update configuration.phase thread (.inside left) }
  | release (thread : ι) (done : configuration.phase thread = .inside []) :
      Step actions configuration (.release thread)
        { configuration with
          holder := none
          phase := Function.update configuration.phase thread .idle }

/-- Threads that call operations on an object, starting with none in a call. -/
def machine (ι : Type u) [DecidableEq ι] (actions : κ → List (σ → σ)) (object : σ) :
    Machine (Configuration ι κ σ) (Event ι κ) where
  start configuration := configuration = ⟨object, none, fun _ => .idle, []⟩
  step := Step actions

/-! ## One at a time -/

/-- What the object will be once the thread with the lock, if there is one, has
carried out what is left of its operation. -/
def Settles (holder : Option ι) (phase : ι → Phase κ σ) (object settled : σ) : Prop :=
  match holder with
  | none => object = settled
  | some thread => ∃ left, phase thread = .inside left ∧ carryOut left object = settled

/-- Only the thread with the lock is at its actions, and with what is left of
them the operations admitted have been carried out one after another. -/
structure Exclusive (actions : κ → List (σ → σ)) (object : σ)
    (configuration : Configuration ι κ σ) : Prop where
  alone : ∀ thread left, configuration.phase thread = .inside left →
    configuration.holder = some thread
  settles : Settles configuration.holder configuration.phase configuration.object
    (sequential actions configuration.admitted object)

variable {actions : κ → List (σ → σ)} {object : σ} {configuration next : Configuration ι κ σ}

/-- After one thread has moved, the others are where they were. -/
theorem inside_of_update {phase : ι → Phase κ σ} {thread other : ι} {moved : Phase κ σ}
    {left : List (σ → σ)} (inside : Function.update phase thread moved other = .inside left) :
    (other = thread ∧ moved = .inside left) ∨ (other ≠ thread ∧ phase other = .inside left) := by
  by_cases same : other = thread
  · subst same
    rw [Function.update_self] at inside
    exact Or.inl ⟨rfl, inside⟩
  · rw [Function.update_of_ne same] at inside
    exact Or.inr ⟨same, inside⟩

theorem Exclusive.step (exclusive : Exclusive actions object configuration) {event : Event ι κ}
    (taken : Step actions configuration event next) : Exclusive actions object next := by
  rcases exclusive with ⟨alone, settles⟩
  cases taken with
  | call thread operation idle =>
      constructor
      · intro other left inside
        rcases inside_of_update inside with ⟨_, moved⟩ | ⟨_, older⟩
        · cases moved
        · exact alone other left older
      · unfold Settles at settles ⊢
        cases held : configuration.holder with
        | none =>
            rw [held] at settles
            exact settles
        | some holder =>
            rw [held] at settles
            rcases settles with ⟨left, inside, settled⟩
            have differs : holder ≠ thread := by
              rintro rfl
              rw [idle] at inside
              cases inside
            exact ⟨left, (Function.update_of_ne differs _ _).trans inside, settled⟩
  | acquire thread operation free waits =>
      rw [free] at settles
      constructor
      · intro other left inside
        rcases inside_of_update inside with ⟨same, _⟩ | ⟨_, older⟩
        · rw [same]
        · have held := alone other left older
          rw [free] at held
          cases held
      · refine ⟨actions operation, Function.update_self _ _ _, ?_⟩
        rw [sequential_concat]
        exact congrArg (carryOut (actions operation)) settles
  | act thread action left busy =>
      have held := alone thread _ busy
      rw [held] at settles
      rcases settles with ⟨remaining, inside, settled⟩
      rw [busy] at inside
      cases inside
      constructor
      · intro other left inside
        rcases inside_of_update inside with ⟨same, _⟩ | ⟨_, older⟩
        · rw [same]
          exact held
        · exact alone other left older
      · rw [held]
        exact ⟨left, Function.update_self _ _ _, settled⟩
  | release thread done =>
      have held := alone thread _ done
      rw [held] at settles
      rcases settles with ⟨remaining, inside, settled⟩
      rw [done] at inside
      cases inside
      constructor
      · intro other left inside
        rcases inside_of_update inside with ⟨_, moved⟩ | ⟨differs, older⟩
        · cases moved
        · have alsoHeld := alone other left older
          rw [held] at alsoHeld
          cases alsoHeld
          exact absurd rfl differs
      · exact settled

theorem exclusive_of_reachable
    (reachable : (machine ι actions object).Reachable configuration) :
    Exclusive actions object configuration := by
  apply reachable.invariant
  · rintro start rfl
    constructor
    · intro thread left inside
      cases inside
    · exact rfl
  · intro before event next _ exclusive taken
    exact exclusive.step taken

/-- While no thread has the lock, the object is what the operations admitted
make of it one after another. -/
theorem sequential_of_free
    (reachable : (machine ι actions object).Reachable configuration)
    (free : configuration.holder = none) :
    configuration.object = sequential actions configuration.admitted object := by
  have settles := (exclusive_of_reachable reachable).settles
  rw [free] at settles
  exact settles

end Locked

end Aurum.Transition
