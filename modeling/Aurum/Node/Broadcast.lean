import Aurum.Node.Runs

/-!
# Whom a broadcast reaches

A TCP session leads to one remote node from the moment it is connected.  Which
one, the session knows only when its identify exchange has been handled; until
then it carries the nil node id, and so do all other sessions in that state.
-/

namespace Aurum.Node

open Aurum.Protocol
open Aurum.Container

namespace State

/-- The registered TCP sessions, in iteration order. -/
def tcpRefs (state : State) : List Ref :=
  state.sessions.refs.filter fun ref => (state.memory ref).type = .tcp

/-- The session carries the node id of its peer. -/
def Identified (state : State) (ref : Ref) : Prop :=
  (state.memory ref).nodeId ≠ Uuid.nil

/-- The node a session leads to: the one it has identified as, or else the one
at the other end of its connection. -/
def remote (peer : Ref → Uuid) (state : State) (ref : Ref) : Uuid :=
  if (state.memory ref).nodeId = Uuid.nil then peer ref else (state.memory ref).nodeId

/-- What a broadcast sends, and on which sessions. -/
def broadcastSent (message : Bytes) (state : State) : List (Ref × Bytes) :=
  (state.broadcastToNodes message).sent.drop state.sent.length

/-- The unidentified session that the iteration comes upon first. -/
def firstUnidentified (state : State) : Option Ref :=
  state.tcpRefs.find? fun ref => (state.memory ref).nodeId = Uuid.nil

variable {peer : Ref → Uuid} {state : State} {ref : Ref}

theorem mem_tcpRefs_iff :
    ref ∈ state.tcpRefs ↔ ref ∈ state.sessions.refs ∧ (state.memory ref).type = .tcp := by
  rw [tcpRefs, List.mem_filter, decide_eq_true_eq]

theorem remote_of_identified (identified : state.Identified ref) :
    state.remote peer ref = (state.memory ref).nodeId :=
  if_neg identified

theorem remote_of_not_identified (unidentified : ¬state.Identified ref) :
    state.remote peer ref = peer ref :=
  if_pos (not_not.mp unidentified)

/-- A session is chosen when it is the first TCP session of its node id, and
that node id has not been visited. -/
theorem mem_broadcastTargets_iff {memory : Ref → Session} {refs : List Ref} {visited : List Uuid}
    {target : Ref} :
    target ∈ broadcastTargets memory refs visited ↔
      (memory target).nodeId ∉ visited ∧
        (refs.filter fun ref => (memory ref).type = .tcp).find?
          (fun ref => (memory ref).nodeId = (memory target).nodeId) = some target := by
  induction refs generalizing visited with
  | nil => simp [broadcastTargets]
  | cons ref refs ih =>
      rw [broadcastTargets]
      by_cases tcp : (memory ref).type = .tcp
      · rw [if_neg (not_not.mpr tcp), List.filter_cons_of_pos (by simpa using tcp)]
        by_cases seen : (memory ref).nodeId ∈ visited
        · rw [if_pos seen, ih, List.find?_cons]
          constructor
          · rintro ⟨unvisited, found⟩
            have differs : (memory ref).nodeId ≠ (memory target).nodeId :=
              fun same => unvisited (same ▸ seen)
            simp only [differs, decide_false]
            exact ⟨unvisited, found⟩
          · rintro ⟨unvisited, found⟩
            have differs : (memory ref).nodeId ≠ (memory target).nodeId :=
              fun same => unvisited (same ▸ seen)
            simp only [differs, decide_false] at found
            exact ⟨unvisited, found⟩
        · rw [if_neg seen, List.mem_cons, ih, List.find?_cons]
          by_cases same : (memory ref).nodeId = (memory target).nodeId
          · simp only [same, decide_true, Option.some.injEq, List.mem_append, List.mem_singleton,
              or_true, not_true_eq_false, false_and, or_false]
            constructor
            · rintro rfl
              exact ⟨seen, rfl⟩
            · rintro ⟨_, first⟩
              exact first.symm
          · have other : target ≠ ref := by
              rintro rfl
              exact same rfl
            simp only [same, decide_false, other, false_or, List.mem_append, List.mem_singleton,
              Ne.symm same, or_false]
      · rw [if_pos tcp, List.filter_cons_of_neg (by simpa using tcp), ih]

theorem mem_of_mem_broadcastTargets {memory : Ref → Session} {refs : List Ref}
    {visited : List Uuid} {target : Ref} (chosen : target ∈ broadcastTargets memory refs visited) :
    target ∈ refs :=
  List.mem_of_mem_filter (List.mem_of_find?_eq_some (mem_broadcastTargets_iff.mp chosen).2)

/-- A broadcast goes to some TCP session of every node id that was not visited
before and is that of one. -/
theorem exists_broadcastTarget {memory : Ref → Session} {refs : List Ref} {visited : List Uuid}
    {ref : Ref} (member : ref ∈ refs) (tcp : (memory ref).type = .tcp)
    (unvisited : (memory ref).nodeId ∉ visited) :
    ∃ target ∈ broadcastTargets memory refs visited, (memory target).type = .tcp ∧
      (memory target).nodeId = (memory ref).nodeId := by
  have found : ((refs.filter fun ref => (memory ref).type = .tcp).find? fun other =>
      (memory other).nodeId = (memory ref).nodeId).isSome := by
    rw [List.find?_isSome]
    exact ⟨ref, List.mem_filter.mpr ⟨member, by simpa using tcp⟩, by simp⟩
  rcases Option.isSome_iff_exists.mp found with ⟨target, first⟩
  have same : (memory target).nodeId = (memory ref).nodeId := by
    simpa using List.find?_some first
  have isTcp : (memory target).type = .tcp := by
    simpa using List.of_mem_filter (List.mem_of_find?_eq_some first)
  refine ⟨target, mem_broadcastTargets_iff.mpr ⟨?_, ?_⟩, isTcp, same⟩
  · rw [same]
    exact unvisited
  · rw [same]
    exact first

/-- No two sessions chosen carry the same node id. -/
theorem broadcastTargets_nodup (memory : Ref → Session) (refs : List Ref) (visited : List Uuid) :
    ((broadcastTargets memory refs visited).map fun ref => (memory ref).nodeId).Nodup := by
  induction refs generalizing visited with
  | nil => exact List.nodup_nil
  | cons ref refs ih =>
      rw [broadcastTargets]
      split
      · exact ih visited
      split
      · exact ih visited
      · rw [List.map_cons, List.nodup_cons]
        constructor
        · intro again
          rcases List.mem_map.mp again with ⟨target, chosen, same⟩
          have unvisited := (mem_broadcastTargets_iff.mp chosen).1
          rw [same] at unvisited
          exact unvisited (List.mem_append_right _ (List.mem_singleton_self _))
        · exact ih _

theorem broadcastSent_eq (message : Bytes) (state : State) :
    state.broadcastSent message =
      (broadcastTargets state.memory state.sessions.refs []).map fun ref => (ref, message) := by
  rw [broadcastSent, broadcastToNodes_eq, List.drop_left]

theorem mem_broadcastSent_iff {message data : Bytes} :
    (ref, data) ∈ state.broadcastSent message ↔ data = message ∧
      state.tcpRefs.find? (fun other => (state.memory other).nodeId = (state.memory ref).nodeId) =
        some ref := by
  rw [broadcastSent_eq, List.mem_map]
  constructor
  · rintro ⟨target, chosen, equal⟩
    cases equal
    exact ⟨rfl, (mem_broadcastTargets_iff.mp chosen).2⟩
  · rintro ⟨rfl, first⟩
    exact ⟨ref, mem_broadcastTargets_iff.mpr ⟨List.not_mem_nil, first⟩, rfl⟩

/-- For every TCP session there is one with the same node id on which a
broadcast is sent. -/
theorem exists_broadcastSent (message : Bytes) (registered : ref ∈ state.tcpRefs) :
    ∃ target ∈ state.tcpRefs, (target, message) ∈ state.broadcastSent message ∧
      (state.memory target).nodeId = (state.memory ref).nodeId := by
  rcases mem_tcpRefs_iff.mp registered with ⟨member, tcp⟩
  rcases exists_broadcastTarget member tcp List.not_mem_nil with ⟨target, chosen, targetTcp, same⟩
  refine ⟨target, mem_tcpRefs_iff.mpr ⟨mem_of_mem_broadcastTargets chosen, targetTcp⟩, ?_, same⟩
  rw [broadcastSent_eq]
  exact List.mem_map_of_mem chosen

end State

/-- A broadcast sends its message to every connected node, and no more often
than it has to. -/
structure ReachesAll (peer : Ref → Uuid) (message : Bytes) (state : State) : Prop where
  unaltered : ∀ sent ∈ state.broadcastSent message, sent.2 = message
  /-- Every node with a registered TCP session gets it on one of them. -/
  covers : ∀ ref ∈ state.tcpRefs, ∃ sent ∈ state.broadcastSent message,
    sent.1 ∈ state.tcpRefs ∧ state.remote peer sent.1 = state.remote peer ref
  /-- A node that is identified on all its sessions gets it once. -/
  once : ∀ node, (∀ ref ∈ state.tcpRefs, state.remote peer ref = node → state.Identified ref) →
    ((state.broadcastSent message).filter fun sent => state.remote peer sent.1 = node).length ≤ 1
  noWebsocket : ∀ sent ∈ state.broadcastSent message, (state.memory sent.1).type ≠ .websocket

/-- Every unidentified session leads to a node that is identified on another
session, or to the node of the first unidentified session. -/
def OneUnidentified (peer : Ref → Uuid) (state : State) : Prop :=
  ∀ ref ∈ state.tcpRefs, ¬state.Identified ref →
    (∃ other ∈ state.tcpRefs, state.Identified other ∧ state.remote peer other = peer ref) ∨
      state.firstUnidentified.map peer = some (peer ref)

section

variable {peer : Ref → Uuid} {message : Bytes} {state : State}

theorem OneUnidentified.covers (one : OneUnidentified peer state) {ref : Ref}
    (registered : ref ∈ state.tcpRefs) :
    ∃ sent ∈ state.broadcastSent message,
      sent.1 ∈ state.tcpRefs ∧ state.remote peer sent.1 = state.remote peer ref := by
  -- An identified session is represented by one with the same, known, node id.
  have represented : ∀ other ∈ state.tcpRefs, state.Identified other →
      ∃ sent ∈ state.broadcastSent message,
        sent.1 ∈ state.tcpRefs ∧ state.remote peer sent.1 = state.remote peer other := by
    intro other within identified
    rcases State.exists_broadcastSent message within with ⟨target, chosen, sent, same⟩
    have known : state.Identified target := by
      rw [State.Identified, same]
      exact identified
    refine ⟨_, sent, chosen, ?_⟩
    rw [State.remote_of_identified known, State.remote_of_identified identified, same]
  by_cases identified : state.Identified ref
  · exact represented ref registered identified
  rw [State.remote_of_not_identified identified]
  rcases one ref registered identified with ⟨other, within, known, leads⟩ | shared
  · rcases represented other within known with ⟨sent, member, chosen, same⟩
    exact ⟨sent, member, chosen, same.trans leads⟩
  · rcases Option.map_eq_some_iff.mp shared with ⟨first, found, leads⟩
    have unknown : (state.memory first).nodeId = Uuid.nil := by
      simpa using List.find?_some found
    refine ⟨(first, message), State.mem_broadcastSent_iff.mpr ⟨rfl, ?_⟩,
      List.mem_of_find?_eq_some found, ?_⟩
    · rw [unknown]
      exact found
    · rw [State.remote_of_not_identified (not_not.mpr unknown)]
      exact leads

theorem ReachesAll.oneUnidentified (reaches : ReachesAll peer message state) :
    OneUnidentified peer state := by
  intro ref registered unidentified
  rcases reaches.covers ref registered with ⟨⟨target, data⟩, sent, within, same⟩
  rw [State.remote_of_not_identified unidentified] at same
  by_cases identified : state.Identified target
  · exact Or.inl ⟨target, within, identified, same⟩
  · right
    have first := (State.mem_broadcastSent_iff.mp sent).2
    rw [not_not.mp identified] at first
    rw [State.firstUnidentified, first, Option.map_some, ← same,
      State.remote_of_not_identified identified]

theorem broadcastSent_once {node : Uuid}
    (identified : ∀ ref ∈ state.tcpRefs, state.remote peer ref = node → state.Identified ref) :
    ((state.broadcastSent message).filter fun sent =>
      state.remote peer sent.1 = node).length ≤ 1 := by
  have distinct := State.broadcastTargets_nodup state.memory state.sessions.refs []
  -- All sessions counted carry the same node id, and no two chosen ones do.
  have carries : ∀ sent ∈ (state.broadcastSent message).filter
      (fun sent => state.remote peer sent.1 = node), (state.memory sent.1).nodeId = node := by
    rintro ⟨target, data⟩ member
    rcases List.mem_filter.mp member with ⟨sent, leads⟩
    have leads : state.remote peer target = node := by simpa using leads
    have within := List.mem_of_find?_eq_some (State.mem_broadcastSent_iff.mp sent).2
    rw [State.remote_of_identified (identified target within leads)] at leads
    exact leads
  have ids : ((state.broadcastSent message).map fun sent =>
      (state.memory sent.1).nodeId).Nodup := by
    rw [State.broadcastSent_eq, List.map_map]
    exact distinct
  have few := ids.sublist ((List.filter_sublist
    (p := fun sent => decide (state.remote peer sent.1 = node))).map _)
  rw [List.map_congr_left (g := fun _ => node) carries, List.map_const'] at few
  exact List.nodup_replicate.mp few

/-- A broadcast reaches every connected node exactly when the unidentified
sessions do not hide a node from it. -/
theorem broadcast_reaches_iff (peer : Ref → Uuid) (message : Bytes) (state : State) :
    ReachesAll peer message state ↔ OneUnidentified peer state := by
  constructor
  · exact ReachesAll.oneUnidentified
  · intro one
    constructor
    · rintro ⟨target, data⟩ sent
      exact (State.mem_broadcastSent_iff.mp sent).1
    · intro ref registered
      exact one.covers registered
    · intro node identified
      exact broadcastSent_once identified
    · rintro ⟨target, data⟩ sent websocket
      have within := List.mem_of_find?_eq_some (State.mem_broadcastSent_iff.mp sent).2
      rw [(State.mem_tcpRefs_iff.mp within).2] at websocket
      cases websocket

end

/-- Two peers have connected and neither has identified itself: a broadcast is
sent to one of them only. -/
theorem broadcast_misses_peer :
    (machine countingEnvironment).Reachable twoLinks ∧
      ¬ReachesAll (fun ref => Uuid.filled (UInt8.ofNat (ref + 8))) [1] twoLinks := by
  constructor
  · exact twoLinks_reachable
  · intro reaches
    have registered : 0 ∈ twoLinks.tcpRefs := by decide
    rcases reaches.covers 0 registered with ⟨sent, member, _, same⟩
    have only : twoLinks.broadcastSent [1] = [(1, [1])] := by decide
    rw [only, List.mem_singleton] at member
    subst member
    revert same
    decide

end Aurum.Node
