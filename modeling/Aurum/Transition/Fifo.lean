import Aurum.Transition.Machine
import Mathlib.Data.List.Basic

/-!
# First in, first out

A channel as what has been put in and what has come out.  It neither loses nor
repeats nor reorders: what has come out is a prefix of what has been put in.
-/

namespace Aurum.Transition

universe u

/-- What has been put into a channel and what has come out of it. -/
structure Fifo (α : Type u) where
  accepted : List α
  delivered : List α

namespace Fifo

variable {α : Type u}

inductive Event (α : Type u)
  | accept (item : α)
  | deliver

/-- A channel takes any item and delivers the oldest that is still inside. -/
inductive Step (channel : Fifo α) : Event α → Fifo α → Prop
  | accept (item : α) :
      Step channel (.accept item) ⟨channel.accepted ++ [item], channel.delivered⟩
  | deliver (item : α) (rest : List α)
      (oldest : channel.accepted = channel.delivered ++ item :: rest) :
      Step channel .deliver ⟨channel.accepted, channel.delivered ++ [item]⟩

/-- A channel that starts with nothing inside. -/
def machine (α : Type u) : Machine (Fifo α) (Event α) where
  start channel := channel = ⟨[], []⟩
  step := Step

theorem delivered_prefix_of_reachable {channel : Fifo α}
    (reachable : (machine α).Reachable channel) : channel.delivered <+: channel.accepted := by
  apply reachable.invariant
  · rintro start rfl
    exact List.prefix_rfl
  · intro before event next _ inOrder taken
    cases taken with
    | accept item => exact inOrder.trans (List.prefix_append _ _)
    | deliver item rest oldest =>
        refine ⟨rest, ?_⟩
        rw [List.append_assoc]
        exact oldest.symm

end Fifo

end Aurum.Transition
