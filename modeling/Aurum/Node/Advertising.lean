import Aurum.Node.Descriptions
import Aurum.Node.Orphans

/-!
# What a discovery request is answered with

The reply lists host and port of every registered session that carries neither
the node id of the requester nor the local one.  Host and port are recorded on
a session only by an identify request with both; on dialed and on unidentified
links, and on placeholders, they are empty and zero, and are listed like that.
-/

namespace Aurum.Node

open Aurum.Protocol
open Aurum.Container
open Aurum.Transition

/-! ## Placeholders have no endpoint -/

/-- No placeholder has a host or a port. -/
def BlankPlaceholders (state : State) : Prop :=
  ∀ ref, IsPlaceholder state ref →
    (state.memory ref).host = [] ∧ (state.memory ref).port = 0

/-- Only TCP sessions are described, and no placeholder is one. -/
theorem objects_blankPlaceholders : Objects BlankPlaceholders where
  quiet := by
    intro state next blank memory _ ref placeholder
    rw [IsPlaceholder, memory] at placeholder
    rw [memory]
    exact blank ref placeholder
  opens := by
    intro state next blank changed _ ref placeholder
    rw [IsPlaceholder, changed.memory ref] at placeholder
    rw [changed.memory ref]
    exact blank ref placeholder
  builds := by
    intro state session new blank ref placeholder
    by_cases isNew : ref = state.allocated
    · subst isNew
      rw [IsPlaceholder, State.allocate_memory_self] at placeholder
      rw [State.allocate_memory_self]
      apply new
      intro external
      rw [external] at placeholder
      exact placeholder
    · rw [IsPlaceholder, State.allocate_memory_of_ne session isNew] at placeholder
      rw [State.allocate_memory_of_ne session isNew]
      exact blank ref placeholder
  describes := by
    intro state session id port host posted wellFormed tcp blank ref placeholder
    by_cases same : ref = session
    · subst same
      exfalso
      have joined : IsPlaceholder state ref := by
        rw [IsPlaceholder, State.retag] at placeholder
        rw [IsPlaceholder]
        simpa [State.update] using placeholder
      exact not_tcp_of_placeholder wellFormed joined tcp
    · have untouched : (state.retag session id port host posted).memory ref =
          state.memory ref := Function.update_of_ne same _ _
      rw [IsPlaceholder, untouched] at placeholder
      rw [untouched]
      exact blank ref placeholder

theorem blankPlaceholders_of_reachable {env : Environment} {state : State}
    (reachable : (machine env).Reachable state) : BlankPlaceholders state := by
  apply reachable.invariant
  · rintro start ⟨nodeId, tcpPort, rfl⟩
    exact fun ref placeholder => placeholder.elim
  · rintro before event next reached blank ⟨enabled, step⟩
    exact objects_blankPlaceholders.perform enabled step (wellFormed_of_reachable reached) blank

/-! ## The list -/

/-- A registered session of neither the requester nor the local node. -/
def Remote (session : Ref) (state : State) (ref : Ref) : Prop :=
  ref ∈ state.sessions.refs ∧ (state.memory ref).nodeId ≠ (state.memory session).nodeId ∧
    (state.memory ref).nodeId ≠ state.nodeId

/-- The endpoints are usable, are those of remote nodes and differ. -/
structure Advertises (session : Ref) (state : State) (endpoints : List Endpoint) : Prop where
  usable : ∀ endpoint ∈ endpoints, endpoint.host ≠ [] ∧ endpoint.port ≠ 0
  remote : ∀ endpoint ∈ endpoints, ∃ ref, Remote session state ref ∧
    endpoint = ⟨(state.memory ref).host, (state.memory ref).port⟩
  distinct : endpoints.Nodup

/-- No placeholder of a remote node is registered; every other session of one
has been told a host and a port, and no two of them the same. -/
structure Described (session : Ref) (state : State) : Prop where
  noPlaceholder : ∀ ref, Remote session state ref → ¬IsPlaceholder state ref
  told : ∀ ref, Remote session state ref → ¬IsPlaceholder state ref →
    (state.memory ref).host ≠ [] ∧ (state.memory ref).port ≠ 0
  apart : ∀ ref other, Remote session state ref → Remote session state other →
    (state.memory ref).host = (state.memory other).host →
      (state.memory ref).port = (state.memory other).port → ref = other

theorem mem_knownEndpoints_iff {session : Ref} {state : State} {endpoint : Endpoint} :
    endpoint ∈ Handlers.knownEndpoints session state ↔ ∃ ref, Remote session state ref ∧
      endpoint = ⟨(state.memory ref).host, (state.memory ref).port⟩ := by
  simp only [Handlers.knownEndpoints, List.mem_map, List.mem_filter, decide_eq_true_eq, Remote]
  constructor
  · rintro ⟨ref, remote, rfl⟩
    exact ⟨ref, remote, rfl⟩
  · rintro ⟨ref, remote, rfl⟩
    exact ⟨ref, remote, rfl⟩

/-- No endpoint is listed twice exactly when no two remote sessions have been
told the same. -/
theorem knownEndpoints_nodup_iff {session : Ref} {state : State} (wellFormed : WellFormed state) :
    (Handlers.knownEndpoints session state).Nodup ↔
      ∀ ref other, Remote session state ref → Remote session state other →
        (state.memory ref).host = (state.memory other).host →
          (state.memory ref).port = (state.memory other).port → ref = other := by
  rw [Handlers.knownEndpoints, List.nodup_map_iff_inj_on (wellFormed.refs_nodup.filter _)]
  simp only [List.mem_filter, decide_eq_true_eq, Endpoint.mk.injEq, Remote]
  constructor
  · intro injective ref other remote otherRemote sameHost samePort
    exact injective ref remote other otherRemote ⟨sameHost, samePort⟩
  · rintro apart ref remote other otherRemote ⟨sameHost, samePort⟩
    exact apart ref other remote otherRemote sameHost samePort

/-- A discovery request on any session of any node reached is answered with the
endpoints recorded.  These are usable and distinct exactly when the remote
sessions registered have been described. -/
theorem discovery_advertises_iff {env : Environment} {state : State}
    (reachable : (machine env).Reachable state) (session : Ref) (builder : ResponseBuilder)
    (transactionId : Uuid) (payload : Bytes) :
    Handlers.discovery env session .request builder transactionId payload state =
        .ok (builder.addDiscovery transactionId (Handlers.knownEndpoints session state), state) ∧
      (Advertises session state (Handlers.knownEndpoints session state) ↔
        Described session state) := by
  refine ⟨if_pos rfl, ?_⟩
  have wellFormed := wellFormed_of_reachable reachable
  constructor
  · intro advertises
    have usable : ∀ ref, Remote session state ref →
        (state.memory ref).host ≠ [] ∧ (state.memory ref).port ≠ 0 := by
      intro ref remote
      exact advertises.usable _ (mem_knownEndpoints_iff.mpr ⟨ref, remote, rfl⟩)
    constructor
    · intro ref remote placeholder
      exact (usable ref remote).1 (blankPlaceholders_of_reachable reachable ref placeholder).1
    · exact fun ref remote _ => usable ref remote
    · exact (knownEndpoints_nodup_iff wellFormed).mp advertises.distinct
  · intro described
    constructor
    · intro endpoint member
      rcases mem_knownEndpoints_iff.mp member with ⟨ref, remote, rfl⟩
      exact described.told ref remote (described.noPlaceholder ref remote)
    · intro endpoint member
      exact mem_knownEndpoints_iff.mp member
    · exact (knownEndpoints_nodup_iff wellFormed).mpr described.apart

/-- An identify request of a node that listens on a port of the local host. -/
def describing (node : Uuid) (port : UInt16) : Bytes :=
  frameOf [⟨OpCode.identify.byte, .request, Uuid.nil,
    Handlers.identifyPayload node 0 port State.localHost⟩]

/-- Three nodes link up and describe themselves. -/
def threePeers : List Event :=
  [.acceptTcp, .acceptTcp, .acceptTcp, .frame 0 (describing (Uuid.filled 6) 7000),
    .frame 1 (describing (Uuid.filled 7) 7001), .frame 2 (describing (Uuid.filled 8) 7002)]

/-- The first of them is told of the two others. -/
theorem discovery_advertises_iff_threePeers :
    ∃ state ∈ run countingEnvironment (fun _ _ => True) threePeers,
      Handlers.knownEndpoints 0 state = [⟨State.localHost, 7002⟩, ⟨State.localHost, 7001⟩] ∧
        Advertises 0 state (Handlers.knownEndpoints 0 state) := by
  have ran : ∃ state ∈ run countingEnvironment (fun _ _ => True) threePeers,
      Handlers.knownEndpoints 0 state = [⟨State.localHost, 7002⟩, ⟨State.localHost, 7001⟩] ∧
        ∀ ref ∈ state.sessions.refs, ref ≠ 0 → (state.memory ref).origin = .accepted ∧
          (state.memory ref).host = State.localHost ∧
            (state.memory ref).port.toNat = 7000 + ref := by
    decide +kernel
  rcases ran with ⟨state, ran, listed, others⟩
  refine ⟨state, ran, listed, ?_⟩
  have facts : ∀ ref, Remote 0 state ref → (state.memory ref).origin = .accepted ∧
      (state.memory ref).host = State.localHost ∧
        (state.memory ref).port.toNat = 7000 + ref := by
    rintro ref ⟨member, differs, _⟩
    apply others ref member
    rintro rfl
    exact differs rfl
  have described : Described 0 state := by
    constructor
    · intro ref remote placeholder
      rw [IsPlaceholder, (facts ref remote).1] at placeholder
      exact placeholder
    · intro ref remote _
      rcases facts ref remote with ⟨_, hostEq, portEq⟩
      refine ⟨by rw [hostEq]; decide, ?_⟩
      intro none
      rw [none] at portEq
      exact absurd portEq (Nat.ne_of_lt (Nat.add_pos_left (by decide) ref))
    · intro ref other remote otherRemote _ samePort
      have portEq := (facts ref remote).2.2
      have otherPortEq := (facts other otherRemote).2.2
      rw [samePort, otherPortEq] at portEq
      exact (Nat.add_left_cancel portEq).symm
  have reachable := (reachable_of_run ran).of_under
  exact (discovery_advertises_iff reachable 0 {} Uuid.nil []).2.mpr described

/-- The first of two peers has identified itself. -/
def oneIdentified : State :=
  twoLinks.receive countingEnvironment 0 identifyFrame

/-- It is told of the second, of which nothing is known. -/
theorem discovery_unusable :
    (machine countingEnvironment).Reachable oneIdentified ∧
      Handlers.discovery countingEnvironment 0 .request {} Uuid.nil [] oneIdentified =
        .ok (({} : ResponseBuilder).addDiscovery Uuid.nil [⟨[], 0⟩], oneIdentified) ∧
      ¬Advertises 0 oneIdentified [⟨[], 0⟩] := by
  have identified : (machine countingEnvironment).step twoLinks (.frame 0 identifyFrame)
      oneIdentified :=
    ⟨by decide, rfl⟩
  have listed : Handlers.knownEndpoints 0 oneIdentified = [⟨[], 0⟩] := by
    decide +kernel
  refine ⟨.step twoLinks_reachable identified, ?_, ?_⟩
  · rw [Handlers.discovery, if_pos rfl, listed]
  · intro advertises
    exact (advertises.usable _ List.mem_cons_self).1 rfl

end Aurum.Node
