import Aurum.Node.Placeholders

/-!
# Streams that open and close

Sessions are closed when they are removed and opened when their handshake is
done.  Whatever else these operations do to registry and messages, the session
objects keep everything but whether they are open, and the counters of
`send_to_node` stay.
-/

namespace Aurum.Node

open Aurum.Protocol
open Aurum.Container

/-- Session objects have changed in nothing but whether they are open, and the
counters not at all. -/
structure OnlyOpenness (state next : State) : Prop where
  memory : ∀ ref, next.memory ref =
    { state.memory ref with isOpen := (next.memory ref).isOpen }
  roundRobin : next.roundRobin = state.roundRobin

namespace OnlyOpenness

variable {env : Environment} {state middle next : State}

theorem of_eq (memory : next.memory = state.memory)
    (roundRobin : next.roundRobin = state.roundRobin) : OnlyOpenness state next where
  memory := by
    intro ref
    rw [memory]
  roundRobin := roundRobin

theorem trans (first : OnlyOpenness state middle) (second : OnlyOpenness middle next) :
    OnlyOpenness state next where
  memory := by
    intro ref
    rw [second.memory ref, first.memory ref]
  roundRobin := second.roundRobin.trans first.roundRobin

theorem setOpen (ref : Ref) (isOpen : Bool) (state : State) :
    OnlyOpenness state (state.setOpen ref isOpen) where
  memory := by
    intro other
    by_cases same : other = ref
    · subst same
      rw [State.setOpen, State.update_memory_self]
    · rw [State.setOpen, State.update_memory_of_ne same]
  roundRobin := rfl

theorem broadcastToNodes (message : Bytes) (state : State) :
    OnlyOpenness state (state.broadcastToNodes message) := by
  rw [State.broadcastToNodes_eq]
  exact of_eq rfl rfl

theorem closeStream (ref : Ref) (state : State) : OnlyOpenness state (state.closeStream ref) := by
  have recorded : OnlyOpenness state
      { state with disconnected := state.disconnected ++ [ref] } := of_eq rfl rfl
  unfold State.closeStream
  simp only
  split
  · exact recorded.trans (setOpen ref false _)
  · exact recorded

theorem disconnectSession {ref : Ref} (step : state.disconnectSession env ref = .ok next) :
    OnlyOpenness state next := by
  unfold State.disconnectSession at step
  split at step
  · cases step
    exact closeStream ref state
  · rcases Result.bind_eq_ok_iff.mp step with ⟨data, _, broadcast⟩
    cases broadcast
    have drawn : OnlyOpenness (state.closeStream ref) (state.closeStream ref).draw :=
      of_eq rfl rfl
    exact ((closeStream ref state).trans drawn).trans (broadcastToNodes data _)

theorem removeSession {id : Uuid} {removed : Bool}
    (step : state.removeSession env id = .ok (removed, next)) : OnlyOpenness state next := by
  unfold State.removeSession at step
  split at step
  · rcases Result.bind_eq_ok_iff.mp step with ⟨closing, disconnected, result⟩
    cases result
    have erased : OnlyOpenness state
        { state with sessions := state.sessions.eraseById id } := of_eq rfl rfl
    exact erased.trans (disconnectSession disconnected)
  · cases step
    exact of_eq rfl rfl

theorem removeSessions {ids : List Uuid} (step : state.removeSessions env ids = .ok next) :
    OnlyOpenness state next := by
  induction ids generalizing state with
  | nil =>
      cases step
      exact of_eq rfl rfl
  | cons id ids ih =>
      rcases Result.bind_eq_ok_iff.mp step with ⟨⟨removed, middle⟩, first, rest⟩
      exact (removeSession first).trans (ih rest)

theorem onAccept {ref : Ref} {failed : Bool} (step : state.onAccept env ref failed = .ok next) :
    OnlyOpenness state next := by
  unfold State.onAccept at step
  split at step
  · rcases Result.bind_eq_ok_iff.mp step with ⟨⟨removed, middle⟩, removal, result⟩
    cases result
    exact removeSession removal
  · rcases Result.bind_eq_ok_iff.mp step with ⟨data, _, result⟩
    cases result
    have drawn : OnlyOpenness (state.setOpen ref true) (state.setOpen ref true).draw :=
      of_eq rfl rfl
    exact ((setOpen ref true state).trans drawn).trans (broadcastToNodes data _)

end OnlyOpenness

end Aurum.Node
