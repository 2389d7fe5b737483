import Aurum.Node.Orphans
import Aurum.Node.Speech

/-!
# Identifiers drawn and identifiers told

A node draws a random identifier for every session that it opens or accepts; a
placeholder carries the one that a join has told.  Sessions are told apart by
their identifiers alone: one whose identifier is taken is not registered, and a
leave erases whatever carries the identifier that it names.

As long as the identifiers drawn are distinct and those told belong to no TCP
session, every TCP session that a node has built is registered, unless the node
has disconnected it itself.
-/

namespace Aurum.Node

open Aurum.Protocol
open Aurum.Container

/-- The first identifiers drawn are distinct. -/
def DistinctBelow (env : Environment) (bound : Nat) : Prop :=
  ∀ first < bound, ∀ second < bound, env.uuid first = env.uuid second → first = second

theorem DistinctBelow.weaken {env : Environment} {bound less : Nat}
    (distinct : DistinctBelow env bound) (lower : less ≤ bound) : DistinctBelow env less :=
  fun first below second alsoBelow =>
    distinct first (below.trans_le lower) second (alsoBelow.trans_le lower)

/-! ## Steps -/

/-- A session of the node's own: it is no placeholder, and the websocket sessions
are those of clients. -/
structure OwnSession (session : Session) : Prop where
  built : ¬session.origin.IsJoined
  client : session.origin = .client ↔ session.type = .websocket

/-- What a node does to its session objects and its registry: an identifier of
its own is the next one drawn, and others it has been told. -/
inductive Course (env : Environment) (told : Uuid → Prop) : State → State → Prop
  | quiet {state next : State} (allocated : next.allocated = state.allocated)
      (same : SameIdentity state next) (sessions : next.sessions = state.sessions)
      (disconnected : next.disconnected = state.disconnected)
      (drawn : state.drawn ≤ next.drawn) : Course env told state next
  | own (state : State) (session : Session) (isOwn : OwnSession session)
      (named : session.id = state.nextUuid env) :
      Course env told state (state.draw.install env session)
  | placeholder (state : State) (id node : Uuid) (isTold : told id) :
      Course env told state
        (state.install env { websocketSession id (.joined node) with nodeId := node })
  | left (state : State) (id : Uuid) (isTold : told id) :
      Course env told state
        { state with sessions := state.sessions.filter fun entry => entry.key.id ≠ id }
  | removed (state : State) (entry : Entry) (registered : entry ∈ state.sessions) :
      Course env told state { state with
        sessions := state.sessions.eraseById entry.key.id
        disconnected := state.disconnected ++ [entry.elem] }
  | trans {state middle next : State} (first : Course env told state middle)
      (second : Course env told middle next) : Course env told state next

namespace Course

variable {env : Environment} {told : Uuid → Prop} {state next : State}

/-- Changes outside session objects and registry. -/
theorem of_eq (memory : next.memory = state.memory) (allocated : next.allocated = state.allocated)
    (sessions : next.sessions = state.sessions)
    (disconnected : next.disconnected = state.disconnected)
    (drawn : state.drawn ≤ next.drawn) : Course env told state next :=
  .quiet allocated (Ages.of_memory memory allocated).same sessions disconnected drawn

theorem refl (state : State) : Course env told state state :=
  of_eq rfl rfl rfl rfl (Nat.le_refl _)

theorem drawn (course : Course env told state next) : state.drawn ≤ next.drawn := by
  induction course with
  | quiet allocated same sessions disconnected drawn => exact drawn
  | own state session isOwn named => exact Nat.le_succ _
  | placeholder state id node isTold => exact Nat.le_refl _
  | left state id isTold => exact Nat.le_refl _
  | removed state entry registered => exact Nat.le_refl _
  | trans _ _ first second => exact first.trans second

/-! ### Connections -/

theorem openSession {withDiscovery : Bool} {connectionsPerNode : UInt16} {connected : Bool}
    (step : state.openSession env withDiscovery connectionsPerNode = .ok (connected, next)) :
    Course env told state next := by
  have installed : Course env told state
      (state.draw.install env (tcpSession (state.nextUuid env) .dialed)) :=
    .own state _ ⟨id, nofun, nofun⟩ rfl
  unfold State.openSession at step
  simp only at step
  split at step
  · rcases Result.bind_eq_ok_iff.mp step with ⟨data, _, result⟩
    cases result
    cases withDiscovery
    · exact installed.trans (of_eq rfl rfl rfl rfl (Nat.le_succ _))
    · exact installed.trans (of_eq rfl rfl rfl rfl (Nat.le_add_right _ 2))
  · cases step
    exact installed

theorem connect {host : Bytes} {port : UInt16} {withDiscovery : Bool} {connectionsPerNode : UInt16}
    {connected : Bool}
    (step : state.connect env host port withDiscovery connectionsPerNode = .ok (connected, next)) :
    Course env told state next := by
  have counted : Course env told state { state with dialed := state.dialed ++ [⟨host, port⟩] } :=
    of_eq rfl rfl rfl rfl (Nat.le_refl _)
  unfold State.connect at step
  simp only at step
  split at step
  · exact counted.trans (openSession step)
  · cases step
    exact counted

theorem runPosted (step : state.runPosted env = .ok next) : Course env told state next := by
  unfold State.runPosted at step
  split at step
  · cases step
    exact refl _
  · rename_i endpoint posted _
    rcases Result.bind_eq_ok_iff.mp step with ⟨⟨connected, dialed⟩, dial, result⟩
    cases result
    have taken : Course env told state { state with posted := posted } :=
      of_eq rfl rfl rfl rfl (Nat.le_refl _)
    exact taken.trans (connect dial)

theorem visitAll {endpoints : List Endpoint}
    (step : Handlers.visitAll env endpoints state = .ok next) : Course env told state next := by
  induction endpoints generalizing state with
  | nil =>
      cases step
      exact refl _
  | cons endpoint endpoints ih =>
      rcases Result.bind_eq_ok_iff.mp step with ⟨middle, visit, rest⟩
      have first : Course env told state middle := by
        unfold Handlers.visitEndpoint at visit
        split at visit
        · cases visit
          exact refl _
        · rcases Result.bind_eq_ok_iff.mp visit with ⟨⟨connected, dialed⟩, dial, result⟩
          cases result
          exact connect dial
      exact first.trans (ih rest)

theorem acceptTcp (env : Environment) (told : Uuid → Prop) (state : State) :
    Course env told state (state.acceptTcp env) :=
  .own state (tcpSession (state.nextUuid env) .accepted) ⟨id, nofun, nofun⟩ rfl

theorem acceptWebsocket (env : Environment) (told : Uuid → Prop) (state : State) :
    Course env told state (state.acceptWebsocket env) := by
  rw [State.acceptWebsocket_eq]
  exact .own state (state.clientSession env) ⟨id, fun _ => rfl, fun _ => rfl⟩ rfl

theorem sendToNode (env : Environment) (node : Uuid) (message : Bytes) (state : State) :
    Course env told state (state.sendToNode env node message) := by
  unfold State.sendToNode
  simp only
  split
  · split
    · exact of_eq rfl rfl rfl rfl (Nat.le_refl _)
    · exact of_eq rfl rfl rfl rfl (Nat.le_refl _)
  · exact refl state

/-! ### Removal -/

theorem drawn_disconnectSession {ref : Ref} (step : state.disconnectSession env ref = .ok next) :
    state.drawn ≤ next.drawn := by
  have shut : (state.closeStream ref).drawn = state.drawn := by
    unfold State.closeStream
    simp only
    split <;> rfl
  unfold State.disconnectSession at step
  split at step
  · cases step
    exact shut.ge
  · rcases Result.bind_eq_ok_iff.mp step with ⟨data, _, broadcast⟩
    cases broadcast
    rw [State.broadcastToNodes_eq, ← shut]
    exact Nat.le_succ _

theorem removeSession {id : Uuid} {removed : Bool}
    (step : state.removeSession env id = .ok (removed, next)) : Course env told state next := by
  rcases Removes.removeSession_cases step with rfl | ⟨entry, registered, rfl, disconnected⟩
  · exact refl _
  · obtain ⟨allocated, same, disconnectedEq, sessions⟩ := Removes.disconnectSession disconnected
    have drawn := drawn_disconnectSession disconnected
    exact (Course.removed state entry registered).trans
      (.quiet allocated same sessions disconnectedEq drawn)

theorem removeSessions {ids : List Uuid} (step : state.removeSessions env ids = .ok next) :
    Course env told state next := by
  induction ids generalizing state with
  | nil =>
      cases step
      exact refl _
  | cons id ids ih =>
      rcases Result.bind_eq_ok_iff.mp step with ⟨⟨removed, middle⟩, first, rest⟩
      exact (removeSession first).trans (ih rest)

theorem onAccept {ref : Ref} {failed : Bool} (step : state.onAccept env ref failed = .ok next) :
    Course env told state next := by
  unfold State.onAccept at step
  split at step
  · rcases Result.bind_eq_ok_iff.mp step with ⟨⟨removed, middle⟩, removal, result⟩
    cases result
    exact removeSession removal
  · rcases Result.bind_eq_ok_iff.mp step with ⟨data, _, broadcast⟩
    cases broadcast
    have opened := Descends.update state ref (fun session => { session with isOpen := true })
      fun _ => ⟨rfl, rfl, rfl⟩
    rw [State.broadcastToNodes_eq]
    exact .quiet rfl opened.same rfl rfl (Nat.le_succ _)

/-! ### Frames -/

/-- One handler call on a session on which only what is given is announced and
withdrawn. -/
theorem effect {session : Ref} {message : Submessage}
    (tells : (state.memory session).type = .tcp →
      message.opcode = OpCode.join.byte ∨ message.opcode = OpCode.leave.byte →
        message.type ≠ .response → ∀ id, readUuid message.payload 0 = .ok id → told id)
    (effect : Effect env session message state next) : Course env told state next := by
  cases effect with
  | none => exact refl _
  | identified id port host posted opcode tcp named =>
      have described := Descends.update state session
        (fun session => { session with nodeId := id, port := port, host := host })
        fun _ => ⟨rfl, rfl, rfl⟩
      exact .quiet rfl described.same rfl rfl (Nat.le_refl _)
  | discovered next opcode response visited => exact visitAll visited
  | joined id opcode request tcp named =>
      exact .placeholder state id _ (tells tcp (Or.inl opcode) request id named)
  | left id opcode request tcp named =>
      exact .left state id (tells tcp (Or.inr opcode) request id named)

theorem receive {session : Ref} (created : session < state.allocated) {frame : Bytes}
    (tells : (state.memory session).type = .tcp → ∀ message ∈ Kernel.dispatched frame,
      message.opcode = OpCode.join.byte ∨ message.opcode = OpCode.leave.byte →
        message.type ≠ .response → ∀ id, readUuid message.payload 0 = .ok id → told id) :
    Course env told state (state.receive env session frame) := by
  have handled : Descends state (handle env frame session state).state ∧
      Course env told state (handle env frame session state).state := by
    apply handle_keeps
      (fun next => Descends state next ∧ Course env told state next) _ ⟨.refl state, refl state⟩
    rintro call member ⟨descends, before⟩
    rcases Kernel.mem_calls member with ⟨within, builder, result, invoked⟩
    have done := invoke_effect invoked
    refine ⟨descends.trans (.effect done), before.trans (effect ?_ done)⟩
    intro tcp
    exact tells ((descends.same session created).2.1 ▸ tcp) call.message within
  rcases exists_receive_eq env session frame state with ⟨sent, received⟩
  rw [received]
  exact handled.2.trans (of_eq rfl rfl rfl rfl (Nat.le_refl _))

/-- An event that is neither a frame nor the work of a caller outside the
node. -/
theorem perform {event : Event} (notFrame : ∀ ref bytes, event ≠ .frame ref bytes)
    (notCreate : ∀ built, event ≠ .create built) (notAdd : ∀ ref, event ≠ .addSession ref)
    (step : state.perform env event = .ok next) : Course env told state next := by
  cases event with
  | acceptTcp =>
      cases step
      exact acceptTcp env told state
  | acceptWebsocket =>
      cases step
      exact acceptWebsocket env told state
  | handshake ref failed => exact onAccept step
  | connect host port withDiscovery connectionsPerNode =>
      rcases Result.bind_eq_ok_iff.mp step with ⟨⟨connected, middle⟩, dial, result⟩
      cases result
      exact connect dial
  | runPosted => exact runPosted step
  | create built => exact absurd rfl (notCreate built)
  | addSession ref => exact absurd rfl (notAdd ref)
  | removeSession id =>
      rcases Result.bind_eq_ok_iff.mp step with ⟨⟨removed, middle⟩, removal, result⟩
      cases result
      exact removeSession removal
  | disconnect node => exact removeSessions step
  | disconnectAll => exact removeSessions step
  | sendToNode node message =>
      cases step
      exact sendToNode env node message state
  | frame ref bytes => exact absurd rfl (notFrame ref bytes)

end Course

/-! ## Registered or disconnected -/

/-- The session is registered. -/
def State.Registers (state : State) (ref : Ref) : Prop :=
  ∃ entry ∈ state.sessions, entry.elem = ref

/-- Sessions of the node's own carry distinct identifiers that it has drawn, and
placeholders such that it has been told; those of TCP sessions are not among the
latter, and every TCP session is registered or has been disconnected. -/
structure Orderly (env : Environment) (told : Uuid → Prop) (state : State) : Prop where
  allocated : ∀ entry ∈ state.sessions, entry.elem < state.allocated
  filed : ∀ entry ∈ state.sessions, entry.key.id = (state.memory entry.elem).id
  kinds : ∀ ref < state.allocated, OwnSession (state.memory ref) ∨
    (state.memory ref).origin.IsJoined ∧ (state.memory ref).type = .websocket ∧
      told (state.memory ref).id
  drawn : ∀ ref < state.allocated, OwnSession (state.memory ref) →
    ∃ draw < state.drawn, (state.memory ref).id = env.uuid draw
  distinct : ∀ first < state.allocated, ∀ second < state.allocated,
    OwnSession (state.memory first) → OwnSession (state.memory second) →
      (state.memory first).id = (state.memory second).id → first = second
  apart : ∀ ref < state.allocated, (state.memory ref).type = .tcp → ¬told (state.memory ref).id
  kept : ∀ ref < state.allocated, (state.memory ref).type = .tcp →
    state.Registers ref ∨ ref ∈ state.disconnected

/-- What holds of the session objects there are and of a new one. -/
theorem forall_install {env : Environment} {session : Session} {state : State}
    (holds : Ref → Session → Prop)
    (old : ∀ ref < state.allocated, holds ref (state.memory ref))
    (new : holds state.allocated session) :
    ∀ ref < (state.install env session).allocated,
      holds ref ((state.install env session).memory ref) := by
  intro ref below
  by_cases created : ref < state.allocated
  · rw [State.install_memory_of_lt env session created]
    exact old ref created
  · have isNew : ref = state.allocated :=
      Nat.le_antisymm (Nat.le_of_lt_succ below) (Nat.not_lt.mp created)
    rw [isNew, State.install_memory_self]
    exact new

namespace Orderly

variable {env : Environment} {told : Uuid → Prop} {state next : State}

theorem initial (env : Environment) (told : Uuid → Prop) (nodeId : Uuid) (tcpPort : UInt16) :
    Orderly env told (.initial nodeId tcpPort) where
  allocated := by simp [State.initial]
  filed := by simp [State.initial]
  kinds := fun _ => nofun
  drawn := fun _ => nofun
  distinct := fun _ => nofun
  apart := fun _ => nofun
  kept := fun _ => nofun

theorem own_of_tcp (orderly : Orderly env told state) {ref : Ref} (created : ref < state.allocated)
    (tcp : (state.memory ref).type = .tcp) : OwnSession (state.memory ref) := by
  rcases orderly.kinds ref created with own | ⟨_, websocket, _⟩
  · exact own
  · rw [tcp] at websocket
    cases websocket

theorem quiet (orderly : Orderly env told state) (allocated : next.allocated = state.allocated)
    (same : SameIdentity state next) (sessions : next.sessions = state.sessions)
    (disconnected : next.disconnected = state.disconnected)
    (drawn : state.drawn ≤ next.drawn) : Orderly env told next := by
  have own : ∀ ref < state.allocated,
      (OwnSession (next.memory ref) ↔ OwnSession (state.memory ref)) := by
    intro ref created
    obtain ⟨_, typeEq, originEq⟩ := same ref created
    constructor
    · rintro ⟨built, client⟩
      rw [typeEq, originEq] at client
      exact ⟨originEq ▸ built, client⟩
    · rintro ⟨built, client⟩
      refine ⟨originEq ▸ built, ?_⟩
      rw [typeEq, originEq]
      exact client
  constructor
  · rw [sessions, allocated]
    exact orderly.allocated
  · intro entry member
    rw [sessions] at member
    rw [(same entry.elem (orderly.allocated entry member)).1]
    exact orderly.filed entry member
  · intro ref created
    rw [allocated] at created
    obtain ⟨idEq, typeEq, originEq⟩ := same ref created
    rw [own ref created, idEq, typeEq, originEq]
    exact orderly.kinds ref created
  · intro ref created isOwn
    rw [allocated] at created
    rw [(same ref created).1]
    rcases orderly.drawn ref created ((own ref created).mp isOwn) with ⟨draw, early, named⟩
    exact ⟨draw, early.trans_le drawn, named⟩
  · intro first firstCreated second secondCreated firstOwn secondOwn equal
    rw [allocated] at firstCreated secondCreated
    rw [(same first firstCreated).1, (same second secondCreated).1] at equal
    exact orderly.distinct first firstCreated second secondCreated
      ((own first firstCreated).mp firstOwn) ((own second secondCreated).mp secondOwn) equal
  · intro ref created
    rw [allocated] at created
    obtain ⟨idEq, typeEq, _⟩ := same ref created
    rw [idEq, typeEq]
    exact orderly.apart ref created
  · intro ref created
    rw [allocated] at created
    rw [(same ref created).2.1, disconnected, State.Registers, sessions]
    exact orderly.kept ref created

/-- Building a session and registering it. -/
theorem install (orderly : Orderly env told state) {session : Session}
    (kind : OwnSession session ∨
      session.origin.IsJoined ∧ session.type = .websocket ∧ told session.id)
    (drawn : OwnSession session → ∃ draw < state.drawn, session.id = env.uuid draw)
    (distinct : OwnSession session → ∀ ref < state.allocated, OwnSession (state.memory ref) →
      (state.memory ref).id ≠ session.id)
    (apart : session.type = .tcp → ¬told session.id)
    (free : session.type = .tcp → ∀ entry ∈ state.sessions, entry.key.id ≠ session.id) :
    Orderly env told (state.install env session) where
  allocated := by
    intro entry member
    rcases mem_insertUnique member with rfl | old
    · exact Nat.lt_succ_self _
    · exact Nat.lt_succ_of_lt (orderly.allocated entry old)
  filed := by
    intro entry member
    rcases mem_insertUnique member with rfl | old
    · rfl
    · rw [State.install_memory_of_lt env session (orderly.allocated entry old)]
      exact orderly.filed entry old
  kinds := forall_install (fun _ session => OwnSession session ∨
    session.origin.IsJoined ∧ session.type = .websocket ∧ told session.id) orderly.kinds kind
  drawn := forall_install (fun _ session => OwnSession session →
    ∃ draw < state.drawn, session.id = env.uuid draw) orderly.drawn drawn
  distinct := by
    apply forall_install fun first former => ∀ second < (state.install env session).allocated,
      OwnSession former → OwnSession ((state.install env session).memory second) →
        former.id = ((state.install env session).memory second).id → first = second
    · intro first created
      apply forall_install fun second latter => OwnSession (state.memory first) →
        OwnSession latter → (state.memory first).id = latter.id → first = second
      · exact orderly.distinct first created
      · exact fun firstOwn own equal => absurd equal (distinct own first created firstOwn)
    · apply forall_install fun second latter => OwnSession session →
        OwnSession latter → session.id = latter.id → state.allocated = second
      · exact fun second created own secondOwn equal =>
          absurd equal.symm (distinct own second created secondOwn)
      · exact fun _ _ _ => rfl
  apart := forall_install (fun _ session => session.type = .tcp → ¬told session.id)
    orderly.apart apart
  kept := by
    apply forall_install fun ref built => built.type = .tcp →
      (state.install env session).Registers ref ∨ ref ∈ state.disconnected
    · intro ref created tcp
      rcases orderly.kept ref created tcp with ⟨entry, member, isRef⟩ | disconnected
      · exact Or.inl ⟨entry, mem_insertUnique_of_mem member, isRef⟩
      · exact Or.inr disconnected
    · intro tcp
      exact Or.inl ⟨_, (State.mem_install_iff env (free tcp) _).mpr (Or.inl rfl), rfl⟩

/-- A session under the next identifier drawn. -/
theorem own (orderly : Orderly env told state) {session : Session} (isOwn : OwnSession session)
    (named : session.id = state.nextUuid env) (distinct : DistinctBelow env (state.drawn + 1))
    (fresh : ¬told (env.uuid state.drawn)) :
    Orderly env told (state.draw.install env session) := by
  have drawn : Orderly env told state.draw :=
    orderly.quiet rfl (Ages.of_memory rfl rfl).same rfl rfl (Nat.le_succ _)
  have new : ∀ ref < state.allocated, (state.memory ref).id ≠ session.id := by
    intro ref created equal
    rw [named] at equal
    rcases orderly.kinds ref created with old | ⟨_, _, told⟩
    · rcases orderly.drawn ref created old with ⟨draw, early, drawnId⟩
      have same := distinct draw (early.trans (Nat.lt_succ_self _)) state.drawn
        (Nat.lt_succ_self _) (drawnId.symm.trans equal)
      exact Nat.ne_of_lt early same
    · rw [equal] at told
      exact fresh told
  apply drawn.install (Or.inl isOwn)
  · exact fun _ => ⟨state.drawn, Nat.lt_succ_self _, named⟩
  · exact fun _ ref created _ => new ref created
  · intro _ isTold
    rw [named] at isTold
    exact fresh isTold
  · intro _ entry member
    rw [orderly.filed entry member]
    exact new entry.elem (orderly.allocated entry member)

/-- A placeholder under an identifier told. -/
theorem placeholder (orderly : Orderly env told state) {id node : Uuid} (isTold : told id) :
    Orderly env told
      (state.install env { websocketSession id (.joined node) with nodeId := node }) := by
  have joined : ({ websocketSession id (.joined node) with nodeId := node } :
      Session).origin.IsJoined := trivial
  apply orderly.install (Or.inr ⟨joined, rfl, isTold⟩)
  · exact fun own => absurd joined own.built
  · exact fun own => absurd joined own.built
  · exact nofun
  · exact nofun

/-- Registry entries have been taken out, none of them that of a TCP session that
is not disconnected. -/
theorem erase (orderly : Orderly env told state) {kept : Registry}
    (sublist : kept.Sublist state.sessions) {disconnected : List Ref}
    (spares : ∀ entry ∈ state.sessions, (state.memory entry.elem).type = .tcp →
      entry ∈ kept ∨ entry.elem ∈ disconnected) :
    Orderly env told { state with
      sessions := kept, disconnected := state.disconnected ++ disconnected } where
  allocated := fun entry member => orderly.allocated entry (sublist.subset member)
  filed := fun entry member => orderly.filed entry (sublist.subset member)
  kinds := orderly.kinds
  drawn := orderly.drawn
  distinct := orderly.distinct
  apart := orderly.apart
  kept := by
    intro ref created tcp
    rcases orderly.kept ref created tcp with ⟨entry, member, rfl⟩ | before
    · rcases spares entry member tcp with still | shut
      · exact Or.inl ⟨entry, still, rfl⟩
      · exact Or.inr (List.mem_append_right _ shut)
    · exact Or.inr (List.mem_append_left _ before)

/-- A leave that names an identifier told erases no TCP session. -/
theorem left (orderly : Orderly env told state) {id : Uuid} (isTold : told id) :
    Orderly env told
      { state with sessions := state.sessions.filter fun entry => entry.key.id ≠ id } := by
  have erased : Orderly env told { state with
      sessions := state.sessions.filter fun entry => entry.key.id ≠ id
      disconnected := state.disconnected ++ [] } := by
    apply orderly.erase List.filter_sublist
    intro entry member tcp
    refine Or.inl (List.mem_filter.mpr ⟨member, ?_⟩)
    rw [decide_eq_true_eq, orderly.filed entry member]
    rintro rfl
    exact orderly.apart entry.elem (orderly.allocated entry member) tcp isTold
  simpa only [List.append_nil] using erased

/-- What is removed by identifier is disconnected, if it is a TCP session. -/
theorem removed (orderly : Orderly env told state) {entry : Entry}
    (registered : entry ∈ state.sessions) :
    Orderly env told { state with
      sessions := state.sessions.eraseById entry.key.id
      disconnected := state.disconnected ++ [entry.elem] } := by
  apply orderly.erase (eraseUnique_sublist Key.id entry.key.id state.sessions)
  intro other member tcp
  by_cases same : other.key.id = entry.key.id
  · right
    have otherCreated := orderly.allocated other member
    have created := orderly.allocated entry registered
    rw [orderly.filed other member, orderly.filed entry registered] at same
    rcases orderly.kinds entry.elem created with own | ⟨_, _, isTold⟩
    · rw [orderly.distinct other.elem otherCreated entry.elem created
        (orderly.own_of_tcp otherCreated tcp) own same]
      exact List.mem_singleton_self _
    · rw [← same] at isTold
      exact absurd isTold (orderly.apart other.elem otherCreated tcp)
  · left
    exact (List.mem_eraseP_of_neg (by simpa using same)).mpr member

end Orderly

/-- A node goes on in good order while the identifiers that it draws are new. -/
theorem Course.orderly {env : Environment} {told : Uuid → Prop} {state next : State}
    (course : Course env told state next) (distinct : DistinctBelow env next.drawn)
    (fresh : ∀ draw, state.drawn ≤ draw → draw < next.drawn → ¬told (env.uuid draw))
    (orderly : Orderly env told state) : Orderly env told next := by
  induction course with
  | quiet allocated same sessions disconnected drawn =>
      exact orderly.quiet allocated same sessions disconnected drawn
  | own state session isOwn named =>
      exact orderly.own isOwn named distinct (fresh _ (Nat.le_refl _) (Nat.lt_succ_self _))
  | placeholder state id node isTold => exact orderly.placeholder isTold
  | left state id isTold => exact orderly.left isTold
  | removed state entry registered => exact orderly.removed registered
  | trans first second firstOrderly secondOrderly =>
      apply secondOrderly distinct
      · exact fun draw late early => fresh draw (first.drawn.trans late) early
      · apply firstOrderly (distinct.weaken second.drawn)
        · exact fun draw late early => fresh draw late (early.trans_le second.drawn)
        · exact orderly

end Aurum.Node
