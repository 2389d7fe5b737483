import Aurum.Node.Frames

/-!
# Outbound connections

Which operations dial, and what that shows: the list of dialed endpoints only
grows, and visiting endpoints leaves it alone exactly when all of them are
connected already.
-/

namespace Aurum.Node

open Aurum.Protocol
open Aurum.Container

namespace State

variable {env : Environment}

theorem openSession_dialed {withDiscovery : Bool} {connectionsPerNode : UInt16}
    {state next : State} {connected : Bool}
    (step : state.openSession env withDiscovery connectionsPerNode = .ok (connected, next)) :
    next.dialed = state.dialed := by
  unfold openSession at step
  simp only at step
  split at step
  · obtain ⟨buffer, _, result⟩ := Result.bind_eq_ok_iff.mp step
    cases result
    cases withDiscovery <;> rfl
  · cases step
    rfl

/-- A connect is recorded, whether it succeeds or not. -/
theorem connect_dialed {host : Bytes} {port : UInt16} {withDiscovery : Bool}
    {connectionsPerNode : UInt16} {state next : State} {connected : Bool}
    (step : state.connect env host port withDiscovery connectionsPerNode =
      .ok (connected, next)) :
    next.dialed = state.dialed ++ [⟨host, port⟩] := by
  unfold connect at step
  simp only at step
  split at step
  · exact openSession_dialed step
  · cases step
    rfl

end State

namespace Handlers

variable {env : Environment}

theorem visitEndpoint_dialed {endpoint : Endpoint} {state next : State}
    (step : visitEndpoint env endpoint state = .ok next) :
    next.dialed = state.dialed ++ if alreadyConnected endpoint state then [] else [endpoint] := by
  unfold visitEndpoint at step
  split at step
  · rename_i connected
    cases step
    rw [if_pos connected, List.append_nil]
  · rename_i unconnected
    obtain ⟨⟨connected, dialed⟩, dial, result⟩ := Result.bind_eq_ok_iff.mp step
    cases result
    rw [if_neg unconnected]
    exact State.connect_dialed dial

theorem visitAll_dialed {endpoints : List Endpoint} {state next : State}
    (step : visitAll env endpoints state = .ok next) : state.dialed <+: next.dialed := by
  induction endpoints generalizing state with
  | nil =>
      cases step
      exact List.prefix_rfl
  | cons endpoint endpoints ih =>
      obtain ⟨middle, visit, rest⟩ := Result.bind_eq_ok_iff.mp step
      rw [visitAll] at step
      exact (visitEndpoint_dialed visit ▸ List.prefix_append _ _).trans (ih rest)

/-- Connected endpoints are passed over. -/
theorem visitAll_of_connected {endpoints : List Endpoint} {state : State}
    (connected : ∀ endpoint ∈ endpoints, alreadyConnected endpoint state) :
    visitAll env endpoints state = .ok state := by
  induction endpoints with
  | nil => rfl
  | cons endpoint endpoints ih =>
      have first : visitEndpoint env endpoint state = .ok state :=
        if_pos (connected endpoint List.mem_cons_self)
      rw [visitAll, first]
      exact ih fun other member => connected other (List.mem_cons_of_mem endpoint member)

/-- An unconnected endpoint makes the node dial. -/
theorem visitAll_dials {endpoints : List Endpoint} {state next : State}
    (unconnected : ¬∀ endpoint ∈ endpoints, alreadyConnected endpoint state)
    (step : visitAll env endpoints state = .ok next) :
    state.dialed.length < next.dialed.length := by
  induction endpoints with
  | nil => simp at unconnected
  | cons endpoint endpoints ih =>
      obtain ⟨middle, visit, rest⟩ := Result.bind_eq_ok_iff.mp step
      have grown := visitEndpoint_dialed visit
      by_cases first : alreadyConnected endpoint state
      · have passed : visitEndpoint env endpoint state = .ok state := if_pos first
        rw [passed] at visit
        cases visit
        refine ih ?_ rest
        intro others
        apply unconnected
        intro other member
        rcases List.mem_cons.mp member with rfl | member
        · exact first
        · exact others other member
      · rw [if_neg first] at grown
        have longer := (visitAll_dialed rest).length_le
        rw [grown, List.length_append, List.length_singleton] at longer
        omega

end Handlers

/-- No handler call forgets a dialed endpoint. -/
theorem Effect.dialed {env : Environment} {session : Ref} {message : Submessage}
    {state next : State} (effect : Effect env session message state next) :
    state.dialed <+: next.dialed := by
  cases effect with
  | discovered next opcode response visited => exact Handlers.visitAll_dialed visited
  | _ => exact List.prefix_rfl

end Aurum.Node
