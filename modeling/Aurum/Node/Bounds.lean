import Aurum.Node.DiscoveryCodec
import Aurum.Protocol.Points

/-!
# Reading inside the buffers

The kernel and the handlers stay inside the frame, whatever it holds.  The loop
of the discovery handler over the endpoints of a response ends after as many as
the payload has room for, reads them from consecutive stretches of it, and
reads from the front of a payload the front of the list.
-/

namespace Aurum.Node

open Aurum.Protocol
open Aurum.Wire
open Aurum.Wire.LittleEndian

theorem handlersInBounds (env : Environment) (session : Ref) :
    Kernel.HandlersInBounds (handlers env session) := by
  intro message builder state left
  rcases invoke_ok env session message builder state with ⟨result, returned⟩
  rw [returned] at left
  cases left

/-- Handling a frame stays inside it: at every point that a call comes to, the
cursor is where the lengths handled so far put it and not behind the
checksummed bytes; the call ends, no read having left the frame; and no handler
reads outside the payload it is given. -/
theorem handle_inBounds (env : Environment) (frame : Bytes) (session : Ref) (state : State) :
    (∀ point next, (Kernel.machine (handlers env session)
          (decide ((state.memory session).type = .tcp)) frame state).Reachable (point, next) →
        Kernel.InBounds frame point) ∧
      (Kernel.machine (handlers env session)
          (decide ((state.memory session).type = .tcp)) frame state).Reachable
        (.ended (handle env frame session state).outcome, (handle env frame session state).state) ∧
      (handle env frame session state).outcome ≠ .thrown .outOfBounds ∧
      ∀ (message : Submessage) (builder : ResponseBuilder) (state : State),
        ∃ result, Kernel.invoke (handlers env session) message builder state = .ok result := by
  have handlers := handlersInBounds env session
  have ends := Kernel.handle_reachable (Node.handlers env session)
    (decide ((state.memory session).type = .tcp)) frame state
  refine ⟨?_, ends, ?_, invoke_ok env session⟩
  · intro point next reachable
    exact Kernel.inBounds_of_reachable handlers reachable
  · exact Kernel.inBounds_of_reachable handlers ends

namespace Handlers

/-! ## The rounds of the discovery loop -/

/-- The cursors at which the loop reads the record of an endpoint. -/
def considered (payload : Bytes) : Nat → Nat → List Nat
  | 0, _ => []
  | remaining + 1, offset =>
      if offset + 4 > payload.length then
        []
      else
        match readEndpoint payload offset with
        | .ok (some (_, next)) => offset :: considered payload remaining next
        | _ => [offset]

/-- The endpoints the loop reads, with the cursor at which each starts. -/
def regions (payload : Bytes) : Nat → Nat → List (Nat × Endpoint)
  | 0, _ => []
  | remaining + 1, offset =>
      match readEndpoint payload offset with
      | .ok (some (endpoint, next)) => (offset, endpoint) :: regions payload remaining next
      | _ => []

/-- Each endpoint is the record and the host at its cursor, which is where the
one before it ends. -/
def Consecutive (payload : Bytes) : Nat → List (Nat × Endpoint) → Prop
  | _, [] => True
  | start, (offset, endpoint) :: rest =>
      offset = start ∧
        slice payload offset (4 + endpoint.host.length) =
          some (endpoint.record ++ endpoint.host) ∧
        Consecutive payload (offset + 4 + endpoint.host.length) rest

/-- The number of endpoints that a response announces. -/
def nodesCount (payload : Bytes) : Nat :=
  (ofLe32 (payload.take 4)).toNat

theorem readEndpoint_next {payload : Bytes} {offset next : Nat} {endpoint : Endpoint}
    (read : readEndpoint payload offset = .ok (some (endpoint, next))) :
    next = offset + 4 + endpoint.host.length ∧ next ≤ payload.length := by
  unfold readEndpoint at read
  split at read
  · cases read
  rename_i headed
  rw [readU16_of_le (by omega), readU16_of_le (by omega)] at read
  simp only [bind, Except.bind] at read
  split at read
  · cases read
  rename_i hosted
  rw [readBytes_of_le (by omega)] at read
  cases read
  rw [List.length_take, List.length_drop]
  omega

theorem considered_length_le_count (payload : Bytes) (remaining offset : Nat) :
    (considered payload remaining offset).length ≤ remaining := by
  induction remaining generalizing offset with
  | zero => exact Nat.le_refl 0
  | succ remaining ih =>
      rw [considered]
      split
      · exact Nat.zero_le _
      split
      · exact Nat.succ_le_succ (ih _)
      · exact Nat.le_add_left 1 remaining

/-- Every record takes four bytes. -/
theorem considered_length_le_room (payload : Bytes) (remaining offset : Nat) :
    (considered payload remaining offset).length ≤ (payload.length - offset) / 4 := by
  induction remaining generalizing offset with
  | zero => exact Nat.zero_le _
  | succ remaining ih =>
      rw [considered]
      split
      · exact Nat.zero_le _
      rename_i headed
      split
      · rename_i endpoint next read
        have rest := ih next
        have advanced := (readEndpoint_next read).1
        rw [List.length_cons]
        omega
      · rw [List.length_singleton]
        omega

theorem regions_map_snd (payload : Bytes) (remaining offset : Nat) :
    (regions payload remaining offset).map Prod.snd = readEndpoints payload remaining offset := by
  induction remaining generalizing offset with
  | zero => rfl
  | succ remaining ih =>
      rw [regions, readEndpoints]
      cases found : readEndpoint payload offset with
      | error failure => rfl
      | ok entry =>
          cases entry with
          | none => rfl
          | some entry =>
              simp only [List.map_cons]
              rw [ih]

/-- All endpoints read have been considered; the last one considered may be cut
off. -/
theorem regions_map_fst_prefix (payload : Bytes) (remaining offset : Nat) :
    (regions payload remaining offset).map Prod.fst <+: considered payload remaining offset := by
  induction remaining generalizing offset with
  | zero => exact List.prefix_rfl
  | succ remaining ih =>
      rw [regions, considered]
      cases found : readEndpoint payload offset with
      | error failure => exact List.nil_prefix
      | ok entry =>
          cases entry with
          | none => exact List.nil_prefix
          | some entry =>
              rcases entry with ⟨endpoint, next⟩
              have advanced := readEndpoint_next found
              rw [if_neg (by omega)]
              simp only [List.map_cons]
              exact (List.prefix_cons_inj offset).mpr (ih next)

theorem regions_consecutive (payload : Bytes) (remaining offset : Nat) :
    Consecutive payload offset (regions payload remaining offset) := by
  induction remaining generalizing offset with
  | zero => trivial
  | succ remaining ih =>
      rw [regions]
      split
      · rename_i endpoint next read
        have advanced := readEndpoint_next read
        have sound := readEndpoint_sound read
        have width : (endpoint.record ++ endpoint.host).length = 4 + endpoint.host.length := by
          rw [List.length_append, Endpoint.record_length]
        refine ⟨rfl, ?_, ?_⟩
        · rw [slice_of_le (by omega), sound, ← List.append_assoc, ← width, List.take_left]
        · rw [← advanced.1]
          exact ih next
      · trivial

/-- What is read at a cursor is read there as well when more bytes follow. -/
theorem readEndpoint_extend {front back : Bytes} {offset next : Nat} {endpoint : Endpoint}
    (read : readEndpoint front offset = .ok (some (endpoint, next))) :
    readEndpoint (front ++ back) offset = .ok (some (endpoint, next)) := by
  have advanced := readEndpoint_next read
  have short : endpoint.host.length ≤ 65535 := by
    unfold readEndpoint at read
    split at read
    · cases read
    rename_i headed
    rw [readU16_of_le (by omega), readU16_of_le (by omega)] at read
    simp only [bind, Except.bind] at read
    split at read
    · cases read
    rename_i hosted
    rw [readBytes_of_le (by omega)] at read
    cases read
    rw [List.length_take]
    exact Nat.le_trans (Nat.min_le_left _ _) (Nat.le_of_lt_succ (UInt16.toNat_lt _))
  have position : offset = (front.take offset).length := by
    rw [List.length_take]
    omega
  have split : front ++ back =
      front.take offset ++ (endpoint.record ++ (endpoint.host ++ (front.drop next ++ back))) := by
    conv => lhs; rw [← List.take_append_drop offset front, readEndpoint_sound read]
    simp only [List.append_assoc]
  rw [split, readEndpoint_append position short, ← advanced.1]

theorem readEndpoints_prefix {front payload : Bytes} (isPrefix : front <+: payload)
    (remaining offset : Nat) :
    readEndpoints front remaining offset <+: readEndpoints payload remaining offset := by
  rcases isPrefix with ⟨back, rfl⟩
  induction remaining generalizing offset with
  | zero => exact List.prefix_rfl
  | succ remaining ih =>
      rw [readEndpoints]
      split
      · rename_i endpoint next read
        rw [readEndpoints, readEndpoint_extend read]
        exact (List.prefix_cons_inj endpoint).mpr (ih next)
      · exact List.nil_prefix

theorem listed_eq {payload : Bytes} (long : 4 ≤ payload.length) :
    listed payload = readEndpoints payload (nodesCount payload) 4 := by
  rw [listed, readU32_of_le (by omega), List.drop_zero]
  rfl

/-- The response branch decodes any payload with a count: it ends, having
considered no more endpoints than announced and than there is room for; it
reads them from consecutive stretches of the payload; and from the front of a
payload it decodes the front of the list. -/
theorem decoder_bounded (env : Environment) (session : Ref) (builder : ResponseBuilder)
    (transactionId : Uuid) (state : State) {payload : Bytes} (long : 4 ≤ payload.length) :
    (∃ next, discovery env session .response builder transactionId payload state =
        .ok (builder, next) ∧ visitAll env (listed payload) state = .ok next) ∧
      (considered payload (nodesCount payload) 4).length ≤
        min (nodesCount payload) ((payload.length - 4) / 4) ∧
      (regions payload (nodesCount payload) 4).map Prod.snd = listed payload ∧
      (regions payload (nodesCount payload) 4).map Prod.fst <+:
        considered payload (nodesCount payload) 4 ∧
      Consecutive payload 4 (regions payload (nodesCount payload) 4) ∧
      ∀ front, front <+: payload → 4 ≤ front.length → listed front <+: listed payload := by
  refine ⟨?_, ?_, ?_, regions_map_fst_prefix _ _ _, regions_consecutive _ _ _, ?_⟩
  · rcases visitAll_ok env (listed payload) state with ⟨next, visited⟩
    refine ⟨next, ?_, visited⟩
    rw [discovery_response_eq, visited]
    rfl
  · exact Nat.le_min.mpr
      ⟨considered_length_le_count _ _ _, considered_length_le_room _ _ _⟩
  · rw [regions_map_snd, listed_eq long]
  · intro front isPrefix counted
    have sameCount : nodesCount front = nodesCount payload := by
      rcases isPrefix with ⟨back, rfl⟩
      rw [nodesCount, nodesCount, List.take_append_of_le_length counted]
    rw [listed_eq counted, listed_eq long, sameCount]
    exact readEndpoints_prefix isPrefix _ _

/-- A response that announces two endpoints and is cut off in the second. -/
theorem decoder_bounded_cut :
    listed [2, 0, 0, 0, 88, 27, 1, 0, 97, 88] = [⟨[97], 7000⟩] ∧
      (considered [2, 0, 0, 0, 88, 27, 1, 0, 97, 88] 2 4).length ≤ 1 ∧
      (listed [2, 0, 0, 0, 88, 27, 1, 0]) <+: [⟨[97], 7000⟩] := by
  have long : 4 ≤ ([2, 0, 0, 0, 88, 27, 1, 0, 97, 88] : Bytes).length := by decide
  have read : listed [2, 0, 0, 0, 88, 27, 1, 0, 97, 88] = [⟨[97], 7000⟩] := by decide
  rcases decoder_bounded (.plain (fun _ => Uuid.nil) fun _ => false) 0 {} Uuid.nil
    (.initial Uuid.nil 0) long with ⟨_, bounded, _, _, _, stable⟩
  have kept := stable [2, 0, 0, 0, 88, 27, 1, 0] ⟨[97, 88], rfl⟩ (by decide)
  rw [read] at kept
  exact ⟨read, bounded, kept⟩

end Handlers

end Aurum.Node
