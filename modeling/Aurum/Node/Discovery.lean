import Aurum.Node.Handlers

/-!
# The endpoints of a discovery response

Which endpoints the response branch of the discovery handler reads depends on
the payload alone.  `listed` is that list, and the branch visits its members in
order.
-/

namespace Aurum.Node

open Aurum.Protocol
open Aurum.Wire
open Aurum.Wire.LittleEndian

namespace Handlers

/-- The endpoints read from a cursor on, up to the announced number. -/
def readEndpoints (payload : Bytes) : Nat → Nat → List Endpoint
  | 0, _ => []
  | remaining + 1, offset =>
      match readEndpoint payload offset with
      | .ok (some (endpoint, next)) => endpoint :: readEndpoints payload remaining next
      | _ => []

/-- The endpoints the response branch reads out of a payload. -/
def listed (payload : Bytes) : List Endpoint :=
  match readU32 payload 0 with
  | .ok nodesCount => readEndpoints payload nodesCount.toNat 4
  | .error _ => []

/-- Visit endpoints one after the other. -/
def visitAll (env : Environment) : List Endpoint → State → Result State
  | [], state => .ok state
  | endpoint :: endpoints, state => do
      let state ← visitEndpoint env endpoint state
      visitAll env endpoints state

/-- Reading an endpoint stays inside the payload. -/
theorem readEndpoint_ok (payload : Bytes) (offset : Nat) :
    ∃ read, readEndpoint payload offset = .ok read := by
  unfold readEndpoint
  split
  · exact ⟨none, rfl⟩
  · rename_i headed
    rw [readU16_of_le (by omega), readU16_of_le (by omega)]
    simp only [bind, Except.bind]
    split
    · exact ⟨none, rfl⟩
    · rename_i hosted
      rw [readBytes_of_le (by omega)]
      exact ⟨_, rfl⟩

/-- The loop visits the endpoints it reads, in order. -/
theorem visitEndpoints_eq (env : Environment) (payload : Bytes) (remaining offset : Nat)
    (state : State) :
    visitEndpoints env payload remaining offset state =
      visitAll env (readEndpoints payload remaining offset) state := by
  induction remaining generalizing offset state with
  | zero => rfl
  | succ remaining ih =>
      obtain ⟨read, readEq⟩ := readEndpoint_ok payload offset
      rw [visitEndpoints, readEndpoints, readEq]
      cases read with
      | none => rfl
      | some entry =>
          simp only [bind, Except.bind, visitAll]
          cases visitEndpoint env entry.1 state with
          | error failure => rfl
          | ok middle => exact ih entry.2 middle

theorem listed_of_short {payload : Bytes} (short : payload.length < 4) : listed payload = [] := by
  have outside : readU32 payload 0 = .error .outOfBounds := by
    rw [readU32, readBytes, slice, if_neg (by omega)]
    rfl
  rw [listed, outside]

/-- The response branch visits the listed endpoints and queues nothing. -/
theorem discovery_response_eq (env : Environment) (session : Ref) (builder : ResponseBuilder)
    (transactionId : Uuid) (payload : Bytes) (state : State) :
    discovery env session .response builder transactionId payload state =
      (visitAll env (listed payload) state).map fun next => (builder, next) := by
  unfold discovery
  rw [if_neg (by decide), if_pos rfl]
  split
  · rename_i short
    rw [listed_of_short short]
    rfl
  · rename_i long
    have counted : readU32 payload 0 = .ok (ofLe32 ((payload.drop 0).take 4)) :=
      readU32_of_le (by omega)
    rw [listed, counted]
    simp only [bind, Except.bind, visitEndpoints_eq]
    cases visitAll env _ state <;> rfl

end Handlers

end Aurum.Node
