import Aurum.Node.Runs

/-!
# Placeholders

A node keeps a placeholder for every websocket session that a peer has
announced.  This module says what installing a session and handling a join or
a leave do to the placeholders held under a node id.
-/

namespace Aurum.Node

open Aurum.Protocol
open Aurum.Container

namespace State

/-- Build a session object and register it. -/
def install (env : Environment) (session : Session) (state : State) : State :=
  ((state.allocate session).addSession env state.allocated).2

/-- A websocket session with the given identifier is registered under a node
id. -/
def Holds (node id : Uuid) (state : State) : Prop :=
  ∃ entry ∈ state.sessions, (state.memory entry.elem).type = .websocket ∧
    (state.memory entry.elem).nodeId = node ∧ (state.memory entry.elem).id = id

instance (node id : Uuid) (state : State) : Decidable (state.Holds node id) :=
  inferInstanceAs (Decidable (∃ entry ∈ state.sessions, _ ∧ _ ∧ _))

theorem acceptTcp_eq (env : Environment) (state : State) :
    state.acceptTcp env = state.draw.install env (tcpSession (state.nextUuid env) .accepted) :=
  rfl

/-- Closing a stream touches no field of a session but its openness. -/
theorem closeStream_memory (ref : Ref) (state : State) (other : Ref) :
    (state.closeStream ref).memory other = state.memory other ∨
      (state.closeStream ref).memory other =
        { state.memory other with isOpen := false } := by
  unfold closeStream
  simp only
  split
  · by_cases same : other = ref
    · subst same
      exact Or.inr (update_memory_self _ _ _)
    · exact Or.inl (update_memory_of_ne same _ _)
  · exact Or.inl rfl

theorem closeStream_memory_of_ne {ref other : Ref} (differs : other ≠ ref) (state : State) :
    (state.closeStream ref).memory other = state.memory other := by
  unfold closeStream
  simp only
  split
  · exact update_memory_of_ne differs _ _
  · rfl

@[simp]
theorem closeStream_sessions (ref : Ref) (state : State) :
    (state.closeStream ref).sessions = state.sessions := by
  unfold closeStream
  simp only
  split <;> rfl

@[simp]
theorem closeStream_sent (ref : Ref) (state : State) :
    (state.closeStream ref).sent = state.sent := by
  unfold closeStream
  simp only
  split <;> rfl

theorem closeStream_id (ref : Ref) (state : State) (other : Ref) :
    ((state.closeStream ref).memory other).id = (state.memory other).id := by
  rcases closeStream_memory ref state other with same | closed
  · rw [same]
  · rw [closed]

/-! ## Installing a session -/

section Install

variable (env : Environment) (session : Session) (state : State)

@[simp]
theorem install_memory_self : (state.install env session).memory state.allocated = session :=
  allocate_memory_self session state

variable {state}

theorem install_memory_of_lt {ref : Ref} (older : ref < state.allocated) :
    (state.install env session).memory ref = state.memory ref :=
  allocate_memory_of_ne session (Nat.ne_of_lt older)

private theorem install_sessions (state : State) : (state.install env session).sessions =
    (insertUnique Key.id env.placement state.sessions ⟨state.allocated, session.key⟩).2 := by
  have filed : ((state.allocate session).memory state.allocated).key = session.key := by
    rw [allocate_memory_self]
  rw [install, addSession, filed]
  rfl

variable {session}

/-- A session with a taken identifier is not registered. -/
theorem install_of_taken {entry : Entry} (member : entry ∈ state.sessions)
    (taken : entry.key.id = session.id) :
    (state.install env session).sessions = state.sessions := by
  have refused : insertUnique Key.id env.placement state.sessions ⟨state.allocated, session.key⟩ =
      (false, state.sessions) := insertUnique_of_taken member taken
  rw [install_sessions, refused]

theorem mem_install_iff (free : ∀ entry ∈ state.sessions, entry.key.id ≠ session.id)
    (entry : Entry) :
    entry ∈ (state.install env session).sessions ↔
      entry = ⟨state.allocated, session.key⟩ ∨ entry ∈ state.sessions := by
  have added : insertUnique Key.id env.placement state.sessions ⟨state.allocated, session.key⟩ =
      (true, env.placement.place state.sessions ⟨state.allocated, session.key⟩) :=
    insertUnique_of_free free
  rw [install_sessions, added]
  exact env.placement.mem_place_iff _ _ _

variable (state)

/-- The session of an accepted websocket client. -/
def clientSession : Session :=
  { websocketSession (state.nextUuid env) .client with nodeId := state.nodeId }

theorem acceptWebsocket_eq :
    state.acceptWebsocket env = state.draw.install env (state.clientSession env) := by
  rw [install, clientSession, ← setNodeId_allocate]
  rfl

theorem acceptWebsocket_sent : (state.acceptWebsocket env).sent = state.sent := by
  rw [acceptWebsocket_eq]
  rfl

theorem acceptWebsocket_memory_self :
    (state.acceptWebsocket env).memory state.allocated = state.clientSession env := by
  rw [acceptWebsocket_eq]
  exact install_memory_self env (state.clientSession env) state.draw

variable {state}

theorem acceptWebsocket_memory_of_lt {ref : Ref} (older : ref < state.allocated) :
    (state.acceptWebsocket env).memory ref = state.memory ref := by
  rw [acceptWebsocket_eq]
  have old : ref < state.draw.allocated := older
  exact install_memory_of_lt env (state.clientSession env) old

theorem mem_acceptWebsocket_iff
    (free : ∀ entry ∈ state.sessions, entry.key.id ≠ state.nextUuid env) (entry : Entry) :
    entry ∈ (state.acceptWebsocket env).sessions ↔
      entry = ⟨state.allocated, (state.clientSession env).key⟩ ∨ entry ∈ state.sessions := by
  rw [acceptWebsocket_eq]
  have freeDrawn : ∀ entry ∈ state.draw.sessions,
      entry.key.id ≠ (state.clientSession env).id := free
  exact mem_install_iff env freeDrawn entry

end Install

end State

namespace WellFormed

variable {state : State}

theorem install (wellFormed : WellFormed state) (env : Environment) {session : Session}
    (placeholder : ∀ node, session.origin = .joined node → session.type = .websocket) :
    WellFormed (state.install env session) :=
  (closed_wellFormed env).addSession state.allocated (Nat.lt_succ_self _)
    ((closed_wellFormed env).allocate session placeholder wellFormed)

/-- No session object is registered twice. -/
theorem refs_nodup (wellFormed : WellFormed state) :
    state.sessions.refs.Nodup := by
  apply List.Nodup.of_map fun ref => (state.memory ref).id
  have sameIds : state.sessions.refs.map (fun ref => (state.memory ref).id) =
      state.sessions.map fun entry => entry.key.id := by
    rw [Registry.refs, List.map_map]
    apply List.map_congr_left
    intro entry member
    exact (wellFormed.filed entry member).1.symm
  rw [sameIds]
  exact wellFormed.distinct

/-- Nothing is registered under an identifier that no session object has. -/
theorem free_of_fresh (wellFormed : WellFormed state) {id : Uuid}
    (fresh : ∀ ref < state.allocated, (state.memory ref).id ≠ id) :
    ∀ entry ∈ state.sessions, entry.key.id ≠ id := by
  intro entry member
  rw [(wellFormed.filed entry member).1]
  exact fresh entry.elem (wellFormed.allocated entry member)

/-- A join adds the identifier it names, unless something else is registered
under it. -/
theorem holds_join (wellFormed : WellFormed state) (env : Environment) {node joining : Uuid}
    (own : ∀ entry ∈ state.sessions, entry.key.id = joining →
      (state.memory entry.elem).type = .websocket ∧ (state.memory entry.elem).nodeId = node)
    (id : Uuid) :
    (state.install env
        { websocketSession joining (.joined node) with nodeId := node }).Holds node id ↔
      id = joining ∨ state.Holds node id := by
  by_cases taken : ∃ entry ∈ state.sessions, entry.key.id = joining
  · rcases taken with ⟨entry, member, keyEq⟩
    have held : state.Holds node joining := by
      obtain ⟨typed, tagged⟩ := own entry member keyEq
      exact ⟨entry, member, typed, tagged, (wellFormed.filed entry member).1.symm.trans keyEq⟩
    have same : (state.install env
        { websocketSession joining (.joined node) with nodeId := node }).Holds node id ↔
          state.Holds node id := by
      rw [State.Holds, State.Holds, State.install_of_taken env member keyEq]
      constructor
      · rintro ⟨other, registered, facts⟩
        rw [State.install_memory_of_lt _ _ (wellFormed.allocated other registered)] at facts
        exact ⟨other, registered, facts⟩
      · rintro ⟨other, registered, facts⟩
        refine ⟨other, registered, ?_⟩
        rw [State.install_memory_of_lt _ _ (wellFormed.allocated other registered)]
        exact facts
    rw [same]
    constructor
    · exact Or.inr
    · rintro (rfl | held)
      · exact held
      · exact held
  · have free : ∀ entry ∈ state.sessions, entry.key.id ≠
        ({ websocketSession joining (.joined node) with nodeId := node } : Session).id :=
      fun entry member keyEq => taken ⟨entry, member, keyEq⟩
    constructor
    · rintro ⟨entry, member, typed, tagged, named⟩
      rcases (State.mem_install_iff _ free _).mp member with rfl | old
      · rw [State.install_memory_self] at named
        exact Or.inl named.symm
      · rw [State.install_memory_of_lt _ _ (wellFormed.allocated entry old)] at typed tagged named
        exact Or.inr ⟨entry, old, typed, tagged, named⟩
    · rintro (rfl | ⟨entry, member, held⟩)
      · refine ⟨_, (State.mem_install_iff _ free _).mpr (Or.inl rfl), ?_⟩
        rw [State.install_memory_self]
        exact ⟨rfl, rfl, rfl⟩
      · refine ⟨entry, (State.mem_install_iff _ free _).mpr (Or.inr member), ?_⟩
        rw [State.install_memory_of_lt _ _ (wellFormed.allocated entry member)]
        exact held

/-- A leave removes the identifier it names. -/
theorem holds_leave (wellFormed : WellFormed state) (node leaving id : Uuid) :
    State.Holds node id { state with
        sessions := state.sessions.filter fun entry => entry.key.id ≠ leaving } ↔
      state.Holds node id ∧ id ≠ leaving := by
  constructor
  · rintro ⟨entry, member, typed, tagged, named⟩
    obtain ⟨registered, differs⟩ := List.mem_filter.mp member
    refine ⟨⟨entry, registered, typed, tagged, named⟩, ?_⟩
    rw [← named]
    change (state.memory entry.elem).id ≠ leaving
    rw [← (wellFormed.filed entry registered).1]
    simpa using differs
  · rintro ⟨⟨entry, registered, typed, tagged, named⟩, differs⟩
    refine ⟨entry, List.mem_filter.mpr ⟨registered, ?_⟩, typed, tagged, named⟩
    rw [(wellFormed.filed entry registered).1, named]
    simpa using differs

end WellFormed

end Aurum.Node
