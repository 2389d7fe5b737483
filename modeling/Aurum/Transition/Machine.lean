import Mathlib.Logic.Basic

/-!
# Machines and their runs

A machine takes labelled steps from its start states.  `under` keeps only the
steps that meet a condition on the state they start in and their label, so
that "in every run whose steps all meet the condition" is reachability in the
restricted machine.
-/

namespace Aurum.Transition

universe u v

/-- A labelled transition system with start states. -/
structure Machine (σ : Type u) (ε : Type v) where
  start : σ → Prop
  step : σ → ε → σ → Prop

namespace Machine

variable {σ : Type u} {ε : Type v}

/-- The states that a run of the machine can be in. -/
inductive Reachable (machine : Machine σ ε) : σ → Prop
  | start {state : σ} (starts : machine.start state) : Reachable machine state
  | step {state next : σ} {event : ε} (before : Reachable machine state)
      (taken : machine.step state event next) : Reachable machine next

/-- The machine that takes only the steps allowed. -/
def under (machine : Machine σ ε) (allowed : σ → ε → Prop) : Machine σ ε where
  start := machine.start
  step state event next := allowed state event ∧ machine.step state event next

/-- A property of the start states that every step keeps holds in every state
reached. -/
theorem Reachable.invariant {machine : Machine σ ε} {holds : σ → Prop}
    (starts : ∀ state, machine.start state → holds state)
    (steps : ∀ state event next, machine.Reachable state → holds state →
      machine.step state event next → holds next)
    {state : σ} (reachable : machine.Reachable state) : holds state := by
  induction reachable with
  | start starting => exact starts _ starting
  | step before taken ih => exact steps _ _ _ before ih taken

/-- When every step of one machine is, through an abstraction of its states,
a step of another machine or no change at all, the abstraction of a state
reached is reached. -/
theorem Reachable.simulates {τ : Type u} {δ : Type v} {machine : Machine σ ε}
    {model : Machine τ δ} (abstraction : σ → τ)
    (starts : ∀ state, machine.start state → model.start (abstraction state))
    (steps : ∀ state event next, machine.Reachable state → machine.step state event next →
      abstraction next = abstraction state ∨
        ∃ abstract, model.step (abstraction state) abstract (abstraction next))
    {state : σ} (reachable : machine.Reachable state) :
    model.Reachable (abstraction state) := by
  induction reachable with
  | start starting => exact .start (starts _ starting)
  | step before taken ih =>
      rcases steps _ _ _ before taken with unchanged | ⟨abstract, step⟩
      · rw [unchanged]
        exact ih
      · exact .step ih step

/-- A run that meets a condition is a run. -/
theorem Reachable.of_under {machine : Machine σ ε} {allowed : σ → ε → Prop} {state : σ}
    (reachable : (machine.under allowed).Reachable state) : machine.Reachable state := by
  induction reachable with
  | start starting => exact .start starting
  | step before taken ih => exact .step ih taken.2

/-- A run that meets a condition meets any weaker one. -/
theorem Reachable.weaken {machine : Machine σ ε} {allowed weaker : σ → ε → Prop} {state : σ}
    (reachable : (machine.under allowed).Reachable state)
    (implies : ∀ state event, allowed state event → weaker state event) :
    (machine.under weaker).Reachable state := by
  induction reachable with
  | start starting => exact .start starting
  | step before taken ih => exact .step ih ⟨implies _ _ taken.1, taken.2⟩

/-- Carry out an event, if it is possible. -/
def carry (possible : σ → ε → Prop) [∀ state, DecidablePred (possible state)]
    (perform : σ → ε → Option σ) (state : σ) (event : ε) : Option σ :=
  if possible state event then perform state event else none

theorem carry_eq_some_iff {possible : σ → ε → Prop} [∀ state, DecidablePred (possible state)]
    {perform : σ → ε → Option σ} {state next : σ} {event : ε} :
    carry possible perform state event = some next ↔
      possible state event ∧ perform state event = some next := by
  unfold carry
  split
  · rename_i holds
    exact ⟨fun carried => ⟨holds, carried⟩, And.right⟩
  · rename_i fails
    constructor
    · intro carried
      cases carried
    · exact fun both => absurd both.1 fails

/-- Carrying out a list of events ends in a state reached. -/
theorem Reachable.foldlM {machine : Machine σ ε} {perform : σ → ε → Option σ}
    (steps : ∀ state event next, perform state event = some next → machine.step state event next)
    {events : List ε} {state next : σ} (reachable : machine.Reachable state)
    (ran : events.foldlM perform state = some next) : machine.Reachable next := by
  induction events generalizing state with
  | nil =>
      cases ran
      exact reachable
  | cons event events ih =>
      rw [List.foldlM_cons] at ran
      rcases Option.bind_eq_some_iff.mp ran with ⟨middle, performed, rest⟩
      exact ih (.step reachable (steps state event middle performed)) rest

/-- Carrying out events that are all allowed ends in a state reached by steps
that are allowed. -/
theorem Reachable.foldlM_under {machine : Machine σ ε} {allowed : ε → Prop}
    {perform : σ → ε → Option σ}
    (steps : ∀ state event next, perform state event = some next → machine.step state event next)
    {events : List ε} (all : ∀ event ∈ events, allowed event) {state next : σ}
    (reachable : (machine.under fun _ event => allowed event).Reachable state)
    (ran : events.foldlM perform state = some next) :
    (machine.under fun _ event => allowed event).Reachable next := by
  induction events generalizing state with
  | nil =>
      cases ran
      exact reachable
  | cons event events ih =>
      rw [List.foldlM_cons] at ran
      rcases Option.bind_eq_some_iff.mp ran with ⟨middle, performed, rest⟩
      have taken := steps state event middle performed
      exact ih (fun later member => all later (List.mem_cons_of_mem event member))
        (.step reachable ⟨all event List.mem_cons_self, taken⟩) rest

/-- Carrying out events as long as each is allowed in the state it meets. -/
theorem Reachable.foldlM_carry {machine : Machine σ ε} {allowed : σ → ε → Prop}
    [∀ state, DecidablePred (allowed state)] {perform : σ → ε → Option σ}
    (steps : ∀ state event next, perform state event = some next → machine.step state event next)
    {events : List ε} {state next : σ} (reachable : (machine.under allowed).Reachable state)
    (ran : events.foldlM (carry allowed perform) state = some next) :
    (machine.under allowed).Reachable next := by
  refine reachable.foldlM ?_ ran
  intro before event after carried
  rcases carry_eq_some_iff.mp carried with ⟨isAllowed, performed⟩
  exact ⟨isAllowed, steps before event after performed⟩

end Machine

end Aurum.Transition
