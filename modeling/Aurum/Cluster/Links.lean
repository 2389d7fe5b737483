import Aurum.Cluster.Steps
import Aurum.Node.Broadcast

/-!
# Links stay links

A node that goes on keeps the identifier, type, node id and origin of every
session object it has, and a new link is made of new ones.  So the links that
are up stay linked.
-/

namespace Aurum.Cluster

open Aurum.Protocol
open Aurum.Container
open Aurum.Node
open Aurum.Replication

/-- A node that has gone on. -/
structure Extends (before after : State) : Prop where
  nodeId : after.nodeId = before.nodeId
  grows : before.allocated ≤ after.allocated
  same : ∀ ref < before.allocated, (after.memory ref).key = (before.memory ref).key ∧
    (after.memory ref).origin = (before.memory ref).origin

namespace Extends

variable {before after : State}

theorem id_eq (extends_ : Extends before after) {ref : Ref} (older : ref < before.allocated) :
    (after.memory ref).id = (before.memory ref).id :=
  congrArg Key.id (extends_.same ref older).1

theorem type_eq (extends_ : Extends before after) {ref : Ref} (older : ref < before.allocated) :
    (after.memory ref).type = (before.memory ref).type :=
  congrArg Key.type (extends_.same ref older).1

theorem nodeId_eq (extends_ : Extends before after) {ref : Ref}
    (older : ref < before.allocated) : (after.memory ref).nodeId = (before.memory ref).nodeId :=
  congrArg Key.nodeId (extends_.same ref older).1

theorem of_memory (nodeId : after.nodeId = before.nodeId)
    (allocated : after.allocated = before.allocated) (memory : after.memory = before.memory) :
    Extends before after :=
  ⟨nodeId, Nat.le_of_eq allocated.symm, fun ref _ => by rw [memory]; exact ⟨rfl, rfl⟩⟩

theorem refl (state : State) : Extends state state :=
  of_memory rfl rfl rfl

theorem install (env : Environment) (session : Session) (state : State) :
    Extends state (state.install env session) where
  nodeId := rfl
  grows := Nat.le_succ _
  same := by
    intro ref older
    rw [State.install_memory_of_lt env session older]
    exact ⟨rfl, rfl⟩

theorem setOpen (ref : Ref) (isOpen : Bool) (state : State) :
    Extends state (state.setOpen ref isOpen) where
  nodeId := rfl
  grows := Nat.le_refl _
  same := by
    intro other _
    by_cases same : other = ref
    · subst same
      rw [State.setOpen, State.update_memory_self]
      exact ⟨rfl, rfl⟩
    · rw [State.setOpen, State.update_memory_of_ne same]
      exact ⟨rfl, rfl⟩

theorem closeStream (ref : Ref) (state : State) : Extends state (state.closeStream ref) := by
  unfold State.closeStream
  simp only
  split
  · exact ⟨rfl, Nat.le_refl _,
      (setOpen ref false { state with disconnected := state.disconnected ++ [ref] }).same⟩
  · exact of_memory rfl rfl rfl

theorem acceptWebsocket (env : Environment) (state : State) :
    Extends state (state.acceptWebsocket env) where
  nodeId := by
    rw [State.acceptWebsocket_eq]
    rfl
  grows := by
    rw [State.acceptWebsocket_eq]
    exact Nat.le_succ _
  same := by
    intro ref older
    rw [State.acceptWebsocket_memory_of_lt env older]
    exact ⟨rfl, rfl⟩

end Extends

/-! ## New links -/

section OpenLink

variable {env : Environment} {peer : Uuid} {state : State}

theorem openLink_memory_of_lt {ref : Ref} (older : ref < state.allocated) :
    (openLink env peer state).memory ref = state.memory ref := by
  rw [openLink, State.setNodeId, State.update_memory_of_ne (Nat.ne_of_lt older),
    State.acceptTcp_eq]
  have old : ref < state.draw.allocated := older
  exact State.install_memory_of_lt env _ old

theorem openLink_memory_self : (openLink env peer state).memory state.allocated =
    { tcpSession (state.nextUuid env) .accepted with nodeId := peer } := by
  rw [openLink, State.setNodeId, State.update_memory_self, State.acceptTcp_eq]
  have created : (state.draw.install env (tcpSession (state.nextUuid env) .accepted)).memory
      state.allocated = tcpSession (state.nextUuid env) .accepted :=
    State.install_memory_self env _ state.draw
  rw [created]

theorem mem_openLink_iff (wellFormed : WellFormed state)
    (fresh : Fresh (state.nextUuid env) state) (entry : Entry) :
    entry ∈ (openLink env peer state).sessions ↔
      entry = ⟨state.allocated, (tcpSession (state.nextUuid env) .accepted).key⟩ ∨
        entry ∈ state.sessions := by
  have free : ∀ entry ∈ state.draw.sessions,
      entry.key.id ≠ (tcpSession (state.nextUuid env) .accepted).id :=
    wellFormed.free_of_fresh fresh
  exact State.mem_install_iff env free entry

/-- A new link adds no placeholder. -/
theorem holds_openLink_iff (wellFormed : WellFormed state)
    (fresh : Fresh (state.nextUuid env) state) (node id : Uuid) :
    (openLink env peer state).Holds node id ↔ state.Holds node id := by
  constructor
  · rintro ⟨entry, member, websocket, facts⟩
    rcases (mem_openLink_iff wellFormed fresh entry).mp member with rfl | old
    · rw [openLink_memory_self] at websocket
      cases websocket
    · rw [openLink_memory_of_lt (wellFormed.allocated entry old)] at websocket facts
      exact ⟨entry, old, websocket, facts⟩
  · rintro ⟨entry, member, facts⟩
    refine ⟨entry, (mem_openLink_iff wellFormed fresh entry).mpr (Or.inr member), ?_⟩
    rw [openLink_memory_of_lt (wellFormed.allocated entry member)]
    exact facts

theorem openLink_wellFormed (wellFormed : WellFormed state) :
    WellFormed (openLink env peer state) :=
  ((closed_wellFormed env).acceptTcp wellFormed).setNodeId state.allocated peer

end OpenLink

/-! ## Linked nodes -/

namespace Linked

variable {a b nextA nextB : State} {far : Ref → Option Ref}

theorem near_allocated (linked : Linked a b far) {near : Ref} (isLink : (far near).isSome) :
    near < b.allocated := by
  obtain ⟨⟨entry, member, rfl⟩, _⟩ := linked.nearEnd near isLink
  exact linked.formedB.allocated entry member

/-- Links outlast what the two nodes do, as long as B keeps its TCP sessions
registered and registers no others. -/
theorem extend (linked : Linked a b far) (extendsA : Extends a nextA)
    (formedA : WellFormed nextA) (extendsB : Extends b nextB) (formedB : WellFormed nextB)
    (kept : ∀ entry ∈ b.sessions, (b.memory entry.elem).type = .tcp → entry ∈ nextB.sessions)
    (added : ∀ entry ∈ nextB.sessions, entry ∈ b.sessions ∨
      (nextB.memory entry.elem).type = .websocket) :
    Linked nextA nextB far where
  formedA := formedA
  formedB := formedB
  some := linked.some
  nearEnd := by
    intro near isLink
    have older := linked.near_allocated isLink
    obtain ⟨⟨entry, member, isNear⟩, tcp, tagged⟩ := linked.nearEnd near isLink
    refine ⟨⟨entry, kept entry member (by rw [isNear]; exact tcp), isNear⟩, ?_, ?_⟩
    · rw [extendsB.type_eq older]
      exact tcp
    · rw [extendsB.nodeId_eq older, extendsA.nodeId]
      exact tagged
  farEnd := by
    intro near other isLink
    obtain ⟨older, tcp, tagged⟩ := linked.farEnd near other isLink
    refine ⟨Nat.lt_of_lt_of_le older extendsA.grows, ?_, ?_⟩
    · rw [extendsA.type_eq older]
      exact tcp
    · rw [extendsA.nodeId_eq older, extendsB.nodeId]
      exact tagged
  only := by
    intro entry member tcp tagged
    rcases added entry member with old | websocket
    · have older := linked.formedB.allocated entry old
      rw [extendsB.type_eq older] at tcp
      rw [extendsB.nodeId_eq older, extendsA.nodeId] at tagged
      exact linked.only entry old tcp tagged
    · rw [tcp] at websocket
      cases websocket

/-- A node that changes nothing but what it has sent, drawn or closed. -/
theorem quiet (linked : Linked a b far) (nodeId : nextB.nodeId = b.nodeId)
    (memory : nextB.memory = b.memory) (allocated : nextB.allocated = b.allocated)
    (sessions : nextB.sessions = b.sessions) (env : Environment) : Linked a nextB far := by
  refine linked.extend (.refl a) linked.formedA (.of_memory nodeId allocated memory)
    ((closed_wellFormed env).quiet linked.formedB nodeId memory allocated sessions) ?_ ?_
  · rw [sessions]
    exact fun entry member _ => member
  · rw [sessions]
    exact fun entry member => Or.inl member

/-- A further link. -/
theorem linkUp (linked : Linked a b far) {envA envB : Environment}
    (freshB : Fresh (b.nextUuid envB) b) :
    Linked (openLink envA b.nodeId a) (openLink envB a.nodeId b)
      (Function.update far b.allocated (.some a.allocated)) where
  formedA := openLink_wellFormed linked.formedA
  formedB := openLink_wellFormed linked.formedB
  some := ⟨b.allocated, by simp⟩
  nearEnd := by
    intro near isLink
    by_cases isNew : near = b.allocated
    · subst isNew
      rw [openLink_memory_self]
      exact ⟨⟨_, (mem_openLink_iff linked.formedB freshB _).mpr (Or.inl rfl), rfl⟩, rfl, rfl⟩
    · rw [Function.update_of_ne isNew] at isLink
      obtain ⟨⟨entry, member, isNear⟩, facts⟩ := linked.nearEnd near isLink
      rw [openLink_memory_of_lt (linked.near_allocated isLink)]
      exact ⟨⟨entry, (mem_openLink_iff linked.formedB freshB _).mpr (Or.inr member), isNear⟩, facts⟩
  farEnd := by
    intro near other isLink
    by_cases isNew : near = b.allocated
    · subst isNew
      rw [Function.update_self] at isLink
      cases isLink
      rw [openLink_memory_self]
      exact ⟨Nat.lt_succ_self _, rfl, rfl⟩
    · rw [Function.update_of_ne isNew] at isLink
      obtain ⟨older, facts⟩ := linked.farEnd near other isLink
      rw [openLink_memory_of_lt older]
      exact ⟨Nat.lt_succ_of_lt older, facts⟩
  only := by
    intro entry member tcp tagged
    rcases (mem_openLink_iff linked.formedB freshB _).mp member with rfl | old
    · simp
    · have older := linked.formedB.allocated entry old
      rw [openLink_memory_of_lt older] at tcp tagged
      rw [Function.update_of_ne (Nat.ne_of_lt older)]
      exact linked.only entry old tcp tagged

/-- Broadcasts go to registered sessions. -/
theorem target_registered {target : Ref}
    (chosen : target ∈ State.broadcastTargets b.memory b.sessions.refs []) :
    ∃ entry ∈ b.sessions, entry.elem = target :=
  List.mem_map.mp (State.mem_of_mem_broadcastTargets chosen)

theorem target_allocated (linked : Linked a b far) {target : Ref}
    (chosen : target ∈ State.broadcastTargets b.memory b.sessions.refs []) :
    target < b.allocated := by
  obtain ⟨entry, member, rfl⟩ := target_registered chosen
  exact linked.formedB.allocated entry member

/-- A broadcast of B reaches A: one of its targets is a link. -/
theorem exists_target (linked : Linked a b far) :
    ∃ target ∈ State.broadcastTargets b.memory b.sessions.refs [], (far target).isSome := by
  obtain ⟨near, isLink⟩ := linked.some
  obtain ⟨⟨entry, member, rfl⟩, tcp, tagged⟩ := linked.nearEnd near isLink
  have notVisited : (b.memory entry.elem).nodeId ∉ ([] : List Uuid) := List.not_mem_nil
  obtain ⟨target, chosen, targetTcp, targetTagged⟩ := State.exists_broadcastTarget
    (List.mem_map.mpr ⟨entry, member, rfl⟩) tcp notVisited
  obtain ⟨other, registered, rfl⟩ := target_registered chosen
  exact ⟨_, chosen, linked.only other registered targetTcp (targetTagged.trans tagged)⟩

end Linked

end Aurum.Cluster
