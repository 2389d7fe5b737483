import Aurum.Node.Announcements
import Aurum.Node.Leaving

/-!
# Placeholders without a link

A join registers a placeholder under the node id of the TCP session that it
arrives on.  From then on the two are registered and removed on their own:
every path takes out the sessions that it names and no others, so a placeholder
outlives the last TCP session with its node id unless it is named as well.
-/

namespace Aurum.Node

open Aurum.Protocol
open Aurum.Container
open Aurum.Transition

/-- The join handler has built the object. -/
def Origin.IsJoined : Origin → Prop
  | .joined _ => True
  | _ => False

instance : DecidablePred Origin.IsJoined := fun origin => by
  unfold Origin.IsJoined
  split <;> infer_instance

/-- The session is a placeholder. -/
def IsPlaceholder (state : State) (ref : Ref) : Prop :=
  (state.memory ref).origin.IsJoined

instance (state : State) (ref : Ref) : Decidable (IsPlaceholder state ref) :=
  inferInstanceAs (Decidable (Origin.IsJoined _))

/-- The session is a TCP session with the node id of another session. -/
def LinkOf (state : State) (ref link : Ref) : Prop :=
  (state.memory link).type = .tcp ∧ (state.memory link).nodeId = (state.memory ref).nodeId

instance (state : State) (ref link : Ref) : Decidable (LinkOf state ref link) :=
  inferInstanceAs (Decidable (_ ∧ _))

/-- Every placeholder registered has a link registered. -/
def NoOrphans (state : State) : Prop :=
  ∀ entry ∈ state.sessions, IsPlaceholder state entry.elem →
    ∃ link ∈ state.sessions, LinkOf state entry.elem link.elem

instance : DecidablePred NoOrphans := fun _ =>
  inferInstanceAs (Decidable (∀ entry ∈ _, _ → ∃ link ∈ _, _))

/-- A placeholder that is not named has a link that is not named. -/
def Spares (state : State) (ids : List Uuid) : Prop :=
  ∀ entry ∈ state.sessions, IsPlaceholder state entry.elem → entry.key.id ∉ ids →
    ∃ link ∈ state.sessions, LinkOf state entry.elem link.elem ∧ link.key.id ∉ ids

instance (state : State) (ids : List Uuid) : Decidable (Spares state ids) :=
  inferInstanceAs (Decidable (∀ entry ∈ _, _ → _ → ∃ link ∈ _, _ ∧ _))

/-- A placeholder has a link even when a session is given another node id. -/
def SparesRetag (state : State) (session : Ref) (id : Uuid) : Prop :=
  ∀ entry ∈ state.sessions, IsPlaceholder state entry.elem →
    ∃ link ∈ state.sessions, LinkOf state entry.elem link.elem ∧
      (link.elem ≠ session ∨ id = (state.memory entry.elem).nodeId)

instance (state : State) (session : Ref) (id : Uuid) : Decidable (SparesRetag state session id) :=
  inferInstanceAs (Decidable (∀ entry ∈ _, _ → ∃ link ∈ _, _ ∧ (_ ∨ _)))

/-- A call takes the last link of no placeholder away, and a join arrives on a
registered session. -/
def CallKeepsLinks (session : Ref) (call : Kernel.Call State) : Prop :=
  match readUuid call.message.payload 0 with
  | .error _ => True
  | .ok id =>
      (call.before.memory session).type = .tcp →
        (call.message.opcode = OpCode.identify.byte → SparesRetag call.before session id) ∧
          (call.message.type ≠ .response →
            (call.message.opcode = OpCode.leave.byte → Spares call.before [id]) ∧
              (call.message.opcode = OpCode.join.byte →
                ∃ entry ∈ call.before.sessions, entry.elem = session))

instance (session : Ref) : DecidablePred (CallKeepsLinks session) := fun call => by
  unfold CallKeepsLinks
  split <;> infer_instance

/-- An event takes the last link of no placeholder away, and placeholders are
registered by joins on registered sessions alone. -/
def KeepsLinks (env : Environment) (state : State) : Event → Prop
  | .frame session bytes => ∀ call ∈ calls env bytes session state, CallKeepsLinks session call
  | .addSession ref => ¬IsPlaceholder state ref
  | event => Spares state (Host.removalIds env state event)

instance (env : Environment) (state : State) : DecidablePred (KeepsLinks env state)
  | .frame session bytes =>
      inferInstanceAs (Decidable (∀ call ∈ calls env bytes session state, _))
  | .addSession ref => inferInstanceAs (Decidable (¬IsPlaceholder state ref))
  | .acceptTcp | .acceptWebsocket | .handshake _ _ | .connect _ _ _ _ | .runPosted | .create _
  | .removeSession _ | .disconnect _ | .disconnectAll | .sendToNode _ _ =>
      inferInstanceAs (Decidable (Spares state (Host.removalIds env state _)))

/-- An event removes sessions registered under an identifier. -/
def Event.Names (env : Environment) (state : State) (id : Uuid) : Event → Prop
  | .frame session bytes => ∃ call ∈ calls env bytes session state, Leaves call.message id
  | event => id ∈ Host.removalIds env state event

/-- The event is neither a frame nor a call of `add_session`. -/
def Event.Plain : Event → Prop
  | .frame _ _ | .addSession _ => False
  | _ => True

theorem Event.Plain.keepsLinks_iff {env : Environment} {state : State} {event : Event}
    (plain : event.Plain) :
    KeepsLinks env state event ↔ Spares state (Host.removalIds env state event) := by
  cases event with
  | frame session bytes => exact plain.elim
  | addSession ref => exact plain.elim
  | _ => exact Iff.rfl

theorem Event.Plain.names_iff {env : Environment} {state : State} {event : Event}
    (plain : event.Plain) (id : Uuid) :
    event.Names env state id ↔ id ∈ Host.removalIds env state event := by
  cases event with
  | frame session bytes => exact plain.elim
  | addSession ref => exact plain.elim
  | _ => exact Iff.rfl

/-! ## Steps that remove nothing -/

/-- The placeholders of the later state are those of the earlier one, and every
session registered still is, under the same node id. -/
structure Extends (state next : State) : Prop where
  older : state.allocated ≤ next.allocated
  labels : ∀ ref < state.allocated, (next.memory ref).type = (state.memory ref).type ∧
    (next.memory ref).nodeId = (state.memory ref).nodeId ∧
    (next.memory ref).origin = (state.memory ref).origin
  newcomers : ∀ ref, state.allocated ≤ ref → ref < next.allocated → ¬IsPlaceholder next ref
  kept : ∀ entry ∈ state.sessions, entry ∈ next.sessions
  registered : ∀ entry ∈ next.sessions, entry ∈ state.sessions ∨ state.allocated ≤ entry.elem

namespace Extends

variable {env : Environment} {state middle next : State}

theorem of_eq (memory : next.memory = state.memory) (allocated : next.allocated = state.allocated)
    (sessions : next.sessions = state.sessions) : Extends state next where
  older := allocated.ge
  labels := by
    intro ref _
    rw [memory]
    exact ⟨rfl, rfl, rfl⟩
  newcomers := by
    intro ref from_ below
    rw [allocated] at below
    exact absurd below (Nat.not_lt.mpr from_)
  kept := by
    rw [sessions]
    exact fun _ => id
  registered := by
    rw [sessions]
    exact fun _ => Or.inl

theorem trans (first : Extends state middle) (second : Extends middle next) :
    Extends state next where
  older := first.older.trans second.older
  labels := by
    intro ref created
    rcases first.labels ref created with ⟨firstType, firstNode, firstOrigin⟩
    obtain ⟨secondType, secondNode, secondOrigin⟩ :=
      second.labels ref (created.trans_le first.older)
    exact ⟨secondType.trans firstType, secondNode.trans firstNode,
      secondOrigin.trans firstOrigin⟩
  newcomers := by
    intro ref from_ below
    by_cases early : ref < middle.allocated
    · rw [IsPlaceholder, (second.labels ref early).2.2]
      exact first.newcomers ref from_ early
    · exact second.newcomers ref (Nat.not_lt.mp early) below
  kept := fun entry member => second.kept entry (first.kept entry member)
  registered := by
    intro entry member
    rcases second.registered entry member with before | late
    · exact first.registered entry before
    · exact Or.inr (first.older.trans late)

/-- Overwriting a session but for its type, node id and origin. -/
theorem update (state : State) (ref : Ref) (change : Session → Session)
    (unchanged : ∀ session, (change session).type = session.type ∧
      (change session).nodeId = session.nodeId ∧ (change session).origin = session.origin) :
    Extends state (state.update ref change) where
  older := Nat.le_refl _
  labels := by
    intro other _
    by_cases isRef : other = ref
    · subst isRef
      rw [State.update_memory_self]
      exact unchanged _
    · rw [State.update_memory_of_ne isRef]
      exact ⟨rfl, rfl, rfl⟩
  newcomers := fun _ from_ below => absurd below (Nat.not_lt.mpr from_)
  kept := fun _ => id
  registered := fun _ => Or.inl

theorem allocate (session : Session) (state : State) (others : ¬session.origin.IsJoined) :
    Extends state (state.allocate session) where
  older := Nat.le_succ _
  labels := by
    intro ref created
    rw [State.allocate_memory_of_ne session (Nat.ne_of_lt created)]
    exact ⟨rfl, rfl, rfl⟩
  newcomers := by
    intro ref from_ below
    have new : ref = state.allocated := Nat.le_antisymm (Nat.le_of_lt_succ below) from_
    rw [IsPlaceholder, new, State.allocate_memory_self]
    exact others
  kept := fun _ => id
  registered := fun _ => Or.inl

/-- Building a session and registering it. -/
theorem install (env : Environment) (session : Session) (state : State)
    (others : ¬session.origin.IsJoined) : Extends state (state.install env session) :=
  have built := allocate session state others
  { built with
    kept := fun _ member => mem_insertUnique_of_mem member
    registered := by
      intro entry member
      rcases mem_insertUnique member with rfl | old
      · exact Or.inr (Nat.le_refl _)
      · exact Or.inl old }

theorem of_links (links : Links env state next) : Extends state next := by
  induction links with
  | quiet memory allocated sessions _ => exact of_eq memory allocated sessions
  | install state id origin isLink =>
      apply install env (tcpSession id origin) state
      rcases isLink with rfl | rfl
      · exact fun joined => joined
      · exact fun joined => joined
  | trans _ _ first second => exact first.trans second

theorem acceptWebsocket (env : Environment) (state : State) :
    Extends state (state.acceptWebsocket env) := by
  rw [State.acceptWebsocket_eq]
  have drawn : Extends state state.draw := of_eq rfl rfl rfl
  exact drawn.trans (install env (state.clientSession env) state.draw id)

/-- A placeholder that is new is not registered. -/
theorem old_of_placeholder (extends_ : Extends state next) (formed : WellFormed next)
    {entry : Entry} (member : entry ∈ next.sessions)
    (placeholder : IsPlaceholder next entry.elem) : entry ∈ state.sessions := by
  rcases extends_.registered entry member with before | late
  · exact before
  · exact absurd placeholder
      (extends_.newcomers entry.elem late (formed.allocated entry member))

theorem noOrphans (extends_ : Extends state next) (wellFormed : WellFormed state)
    (formed : WellFormed next) (backed : NoOrphans state) : NoOrphans next := by
  intro entry member placeholder
  have before := extends_.old_of_placeholder formed member placeholder
  rcases extends_.labels entry.elem (wellFormed.allocated entry before) with ⟨_, nodeEq, originEq⟩
  rw [IsPlaceholder, originEq] at placeholder
  rcases backed entry before placeholder with ⟨link, linked, tcp, sameNode⟩
  rcases extends_.labels link.elem (wellFormed.allocated link linked) with ⟨linkType, linkNode, _⟩
  exact ⟨link, extends_.kept link linked, linkType.trans tcp,
    linkNode.trans (sameNode.trans nodeEq.symm)⟩

end Extends

/-! ## Steps that remove sessions -/

/-- Exactly the sessions registered under some identifiers are gone. -/
structure TakesOut (ids : List Uuid) (state next : State) : Prop where
  allocated : next.allocated = state.allocated
  labels : ∀ ref, (next.memory ref).type = (state.memory ref).type ∧
    (next.memory ref).nodeId = (state.memory ref).nodeId ∧
    (next.memory ref).origin = (state.memory ref).origin
  registered : ∀ entry, entry ∈ next.sessions ↔ entry ∈ state.sessions ∧ entry.key.id ∉ ids

namespace TakesOut

variable {env : Environment} {state next : State}

theorem disconnectSession_labels {ref : Ref} (step : state.disconnectSession env ref = .ok next)
    (other : Ref) : (next.memory other).type = (state.memory other).type ∧
      (next.memory other).nodeId = (state.memory other).nodeId ∧
      (next.memory other).origin = (state.memory other).origin := by
  have closed : ((state.closeStream ref).memory other).type = (state.memory other).type ∧
      ((state.closeStream ref).memory other).nodeId = (state.memory other).nodeId ∧
      ((state.closeStream ref).memory other).origin = (state.memory other).origin := by
    rcases State.closeStream_memory ref state other with same | shut
    · rw [same]
      exact ⟨rfl, rfl, rfl⟩
    · rw [shut]
      exact ⟨rfl, rfl, rfl⟩
  unfold State.disconnectSession at step
  split at step
  · cases step
    exact closed
  · rcases Result.bind_eq_ok_iff.mp step with ⟨data, _, broadcast⟩
    cases broadcast
    rw [State.broadcastToNodes_eq]
    exact closed

theorem removeSession (wellFormed : WellFormed state) {id : Uuid} {removed : Bool}
    (step : state.removeSession env id = .ok (removed, next)) : TakesOut [id] state next := by
  unfold State.removeSession at step
  cases found : state.sessions.findById id with
  | none =>
      rw [found] at step
      cases step
      refine ⟨rfl, fun _ => ⟨rfl, rfl, rfl⟩, ?_⟩
      intro entry
      have others := (findUnique_eq_none_iff Key.id id _).mp found
      simp only [List.mem_singleton]
      exact ⟨fun member => ⟨member, others entry member⟩, And.left⟩
  | some entry =>
      rw [found] at step
      rcases Result.bind_eq_ok_iff.mp step with ⟨closing, disconnected, result⟩
      cases result
      rcases Removes.disconnectSession disconnected with ⟨allocatedEq, _, _, sessionsEq⟩
      have labels := disconnectSession_labels disconnected
      refine ⟨allocatedEq, labels, ?_⟩
      intro other
      rw [sessionsEq, List.mem_singleton]
      exact wellFormed.distinct.mem_eraseUnique_iff id other

theorem removeSessions {ids : List Uuid} (wellFormed : WellFormed state)
    (step : state.removeSessions env ids = .ok next) : TakesOut ids state next := by
  induction ids generalizing state with
  | nil =>
      cases step
      refine ⟨rfl, fun _ => ⟨rfl, rfl, rfl⟩, ?_⟩
      exact fun entry => ⟨fun member => ⟨member, List.not_mem_nil⟩, And.left⟩
  | cons id ids ih =>
      rcases Result.bind_eq_ok_iff.mp step with ⟨⟨removed, middle⟩, first, rest⟩
      have one := removeSession wellFormed first
      have others := ih ((closed_wellFormed env).removeSession first wellFormed) rest
      refine ⟨others.allocated.trans one.allocated, ?_, ?_⟩
      · intro ref
        rcases one.labels ref with ⟨firstType, firstNode, firstOrigin⟩
        rcases others.labels ref with ⟨secondType, secondNode, secondOrigin⟩
        exact ⟨secondType.trans firstType, secondNode.trans firstNode,
          secondOrigin.trans firstOrigin⟩
      · intro entry
        rw [others.registered entry, one.registered entry, List.mem_singleton, List.mem_cons,
          not_or, and_assoc]

/-- Removal that spares the links of placeholders leaves no orphan. -/
theorem noOrphans {ids : List Uuid} (takes : TakesOut ids state next) (spares : Spares state ids) :
    NoOrphans next := by
  intro entry member placeholder
  rcases (takes.registered entry).mp member with ⟨before, unnamed⟩
  rcases takes.labels entry.elem with ⟨_, nodeEq, originEq⟩
  rw [IsPlaceholder, originEq] at placeholder
  rcases spares entry before placeholder unnamed with ⟨link, linked, ⟨tcp, sameNode⟩, linkUnnamed⟩
  rcases takes.labels link.elem with ⟨linkType, linkNode, _⟩
  exact ⟨link, (takes.registered link).mpr ⟨linked, linkUnnamed⟩, linkType.trans tcp,
    linkNode.trans (sameNode.trans nodeEq.symm)⟩

end TakesOut

theorem not_tcp_of_placeholder {state : State} (wellFormed : WellFormed state) {ref : Ref}
    (placeholder : IsPlaceholder state ref) : (state.memory ref).type ≠ .tcp := by
  unfold IsPlaceholder Origin.IsJoined at placeholder
  split at placeholder
  · rename_i node joined
    rw [wellFormed.placeholder ref node joined]
    exact SessionType.noConfusion
  · exact placeholder.elim

/-- A handler call that takes no last link away leaves no orphan. -/
theorem noOrphans_effect {env : Environment} {session : Ref} {call : Kernel.Call State}
    (effect : Effect env session call.message call.before call.after)
    (keeps : CallKeepsLinks session call) (wellFormed : WellFormed call.before)
    (formed : WellFormed call.after) (backed : NoOrphans call.before) :
    NoOrphans call.after := by
  rcases call with ⟨message, before, after⟩
  simp only at effect wellFormed formed backed ⊢
  unfold CallKeepsLinks at keeps
  simp only at keeps
  cases effect with
  | none => exact backed
  | identified id port host posted opcode tcp named =>
      rw [named] at keeps
      have spares := (keeps tcp).1 opcode
      have self : ((before.retag session id port host posted).memory session).type = .tcp ∧
          ((before.retag session id port host posted).memory session).nodeId = id ∧
          ((before.retag session id port host posted).memory session).origin =
            (before.memory session).origin := by
        have object : (before.retag session id port host posted).memory session =
            { before.memory session with nodeId := id, port := port, host := host } :=
          State.update_memory_self session
            (fun session => { session with nodeId := id, port := port, host := host }) before
        rw [object]
        exact ⟨tcp, rfl, rfl⟩
      have others : ∀ other ≠ session,
          (before.retag session id port host posted).memory other = before.memory other :=
        fun other differs => State.update_memory_of_ne differs
          (fun session => { session with nodeId := id, port := port, host := host }) before
      intro entry member placeholder
      -- A placeholder is no TCP session, so it keeps its node id.
      have differs : entry.elem ≠ session := by
        intro isSession
        rw [isSession, IsPlaceholder, self.2.2] at placeholder
        exact not_tcp_of_placeholder wellFormed placeholder tcp
      rw [IsPlaceholder, others _ differs] at placeholder
      rcases spares entry member placeholder with ⟨link, linked, ⟨linkTcp, sameNode⟩, stays⟩
      refine ⟨link, linked, ?_⟩
      by_cases isSession : link.elem = session
      · have tagged := stays.resolve_left (not_not_intro isSession)
        rw [LinkOf, isSession, others _ differs]
        exact ⟨self.1, self.2.1.trans tagged⟩
      · rw [LinkOf, others _ isSession, others _ differs]
        exact ⟨linkTcp, sameNode⟩
  | discovered next opcode response visited =>
      exact (Extends.of_links (.visitAll visited)).noOrphans wellFormed formed backed
  | joined id opcode request tcp named =>
      rw [named] at keeps
      rcases ((keeps tcp).2 request).2 opcode with ⟨own, registered, rfl⟩
      have created := wellFormed.allocated own registered
      have older : ∀ ref < before.allocated, (before.install env
          { websocketSession id (.joined (before.memory own.elem).nodeId) with
            nodeId := (before.memory own.elem).nodeId }).memory ref = before.memory ref :=
        fun ref below => State.install_memory_of_lt env _ below
      have newest : ((before.install env
          { websocketSession id (.joined (before.memory own.elem).nodeId) with
            nodeId := (before.memory own.elem).nodeId }).memory before.allocated).nodeId =
          (before.memory own.elem).nodeId := by
        rw [State.install_memory_self]
      intro entry member placeholder
      rcases mem_insertUnique member with rfl | old
      · refine ⟨own, mem_insertUnique_of_mem registered, ?_, ?_⟩
        · exact (congrArg Session.type (older own.elem created)).trans tcp
        · exact (congrArg Session.nodeId (older own.elem created)).trans newest.symm
      · have entryCreated := wellFormed.allocated entry old
        have was : IsPlaceholder before entry.elem := by
          rw [IsPlaceholder, ← older _ entryCreated]
          exact placeholder
        rcases backed entry old was with ⟨link, linked, linkTcp, sameNode⟩
        have linkCreated := wellFormed.allocated link linked
        refine ⟨link, mem_insertUnique_of_mem linked, ?_, ?_⟩
        · exact (congrArg Session.type (older link.elem linkCreated)).trans linkTcp
        · exact ((congrArg Session.nodeId (older link.elem linkCreated)).trans sameNode).trans
            (congrArg Session.nodeId (older entry.elem entryCreated)).symm
  | left id opcode request tcp named =>
      rw [named] at keeps
      have spares := ((keeps tcp).2 request).1 opcode
      have takes : TakesOut [id] before { before with
          sessions := before.sessions.filter fun entry => entry.key.id ≠ id } := by
        refine ⟨rfl, fun _ => ⟨rfl, rfl, rfl⟩, ?_⟩
        intro entry
        simp
      exact takes.noOrphans spares

/-! ## Events -/

theorem noOrphans_addSession {env : Environment} {state : State} {ref : Ref}
    (others : ¬IsPlaceholder state ref) (backed : NoOrphans state) :
    NoOrphans (state.addSession env ref).2 := by
  intro entry member placeholder
  rcases mem_insertUnique member with rfl | before
  · exact absurd placeholder others
  · rcases backed entry before placeholder with ⟨link, linked, isLink⟩
    exact ⟨link, mem_insertUnique_of_mem linked, isLink⟩

/-- A finished handshake opens the stream of its session and only sends. -/
theorem extends_greet {env : Environment} {state next : State} {ref : Ref}
    (step : state.onAccept env ref false = .ok next) : Extends state next := by
  rcases Result.bind_eq_ok_iff.mp step with ⟨data, _, broadcast⟩
  cases broadcast
  have opened := Extends.update state ref (fun session => { session with isOpen := true })
    (fun _ => ⟨rfl, rfl, rfl⟩)
  rw [State.broadcastToNodes_eq]
  exact opened.trans (.of_eq rfl rfl rfl)

/-- A handler call removes what a leave names. -/
theorem registered_effect {env : Environment} {session : Ref} {message : Submessage}
    {state next : State} (effect : Effect env session message state next) {entry : Entry}
    (registered : entry ∈ state.sessions) (unnamed : ¬Leaves message entry.key.id) :
    entry ∈ next.sessions := by
  cases effect with
  | none => exact registered
  | identified => exact registered
  | discovered _ _ _ visited => exact (Extends.of_links (.visitAll visited)).kept entry registered
  | joined => exact mem_insertUnique_of_mem registered
  | left id opcode request _ named =>
      apply List.mem_filter.mpr
      refine ⟨registered, ?_⟩
      rw [decide_eq_true_eq]
      rintro rfl
      exact unnamed ⟨opcode, request, named⟩

section Events

variable {env : Environment} {state next : State} (wellFormed : WellFormed state)

include wellFormed

theorem noOrphans_receive {session : Ref} {bytes : Bytes}
    (keeps : ∀ call ∈ calls env bytes session state, CallKeepsLinks session call)
    (backed : NoOrphans state) : NoOrphans (state.receive env session bytes) := by
  have handled : NoOrphans (Node.handle env bytes session state).state := by
    apply handle_keeps NoOrphans _ backed
    intro call member before
    rcases Kernel.mem_calls member with ⟨_, builder, result, invoked⟩
    rcases wellFormed.calls bytes session call member with ⟨formedBefore, formedAfter⟩
    exact noOrphans_effect (invoke_effect invoked) (keeps call member) formedBefore formedAfter
      before
  rcases exists_receive_eq env session bytes state with ⟨sent, received⟩
  rw [received]
  exact handled

/-- What an event does to the registry: it adds to it, it takes out what it
names, it registers an existing object, or it handles a frame. -/
inductive Happens (env : Environment) (state : State) : Event → State → Prop
  | adds (event : Event) (next : State) (extends_ : Extends state next) :
      Happens env state event next
  | removes (event : Event) (next : State) (plain : event.Plain)
      (takes : TakesOut (Host.removalIds env state event) state next) :
      Happens env state event next
  | files (ref : Ref) : Happens env state (.addSession ref) (state.addSession env ref).2
  | receives (session : Ref) (bytes : Bytes) :
      Happens env state (.frame session bytes) (state.receive env session bytes)

theorem happens_of_perform {event : Event} (enabled : event.Enabled state)
    (step : state.perform env event = .ok next) : Happens env state event next := by
  have single : ∀ {id : Uuid}, state.perform env (.removeSession id) = .ok next →
      state.removeSessions env [id] = .ok next := fun removal => removal
  cases event with
  | acceptTcp =>
      cases step
      exact .adds _ _ (.of_links (.acceptTcp env state))
  | acceptWebsocket =>
      cases step
      exact .adds _ _ (.acceptWebsocket env state)
  | handshake ref failed =>
      cases failed with
      | true =>
          exact .removes _ _ trivial
            (.removeSessions wellFormed (single step))
      | false => exact .adds _ _ (extends_greet step)
  | connect host port withDiscovery connectionsPerNode =>
      rcases Result.bind_eq_ok_iff.mp step with ⟨⟨connected, dialed⟩, dial, result⟩
      cases result
      exact .adds _ _ (.of_links (.connect dial))
  | runPosted => exact .adds _ _ (.of_links (.runPosted step))
  | create session =>
      cases step
      apply Happens.adds _ _ (.allocate session state _)
      have external : session.origin = .external := enabled
      rw [external]
      exact fun joined => joined
  | addSession ref =>
      cases step
      exact .files ref
  | removeSession id =>
      exact .removes _ _ trivial
        (.removeSessions wellFormed (single step))
  | disconnect node =>
      exact .removes _ _ trivial
        (.removeSessions wellFormed step)
  | disconnectAll =>
      exact .removes _ _ trivial
        (.removeSessions wellFormed step)
  | sendToNode node message =>
      cases step
      exact .adds _ _ (.of_links (.sendToNode env node message state))
  | frame ref bytes =>
      cases step
      exact .receives ref bytes

omit wellFormed in
/-- A session whose identifier an event does not name stays registered. -/
theorem registered_of_unnamed {event : Event} (happens : Happens env state event next)
    {entry : Entry} (registered : entry ∈ state.sessions)
    (unnamed : ¬event.Names env state entry.key.id) : entry ∈ next.sessions := by
  cases happens with
  | adds _ _ extends_ => exact extends_.kept entry registered
  | removes _ _ plain takes =>
      rw [plain.names_iff] at unnamed
      exact (takes.registered entry).mpr ⟨registered, unnamed⟩
  | files ref => exact mem_insertUnique_of_mem registered
  | receives session bytes =>
      have handled : entry ∈ (Node.handle env bytes session state).state.sessions := by
        apply handle_keeps (fun state => entry ∈ state.sessions) _ registered
        intro call member before
        rcases Kernel.mem_calls member with ⟨_, builder, result, invoked⟩
        apply registered_effect (invoke_effect invoked) before
        exact fun leaves => unnamed ⟨call, member, leaves⟩
      rcases exists_receive_eq env session bytes state with ⟨sent, received⟩
      rw [received]
      exact handled

theorem noOrphans_perform {event : Event} (happens : Happens env state event next)
    (formed : WellFormed next) (keeps : KeepsLinks env state event) (backed : NoOrphans state) :
    NoOrphans next := by
  cases happens with
  | adds _ _ extends_ => exact extends_.noOrphans wellFormed formed backed
  | removes _ _ plain takes => exact takes.noOrphans (plain.keepsLinks_iff.mp keeps)
  | files ref => exact noOrphans_addSession keeps backed
  | receives session bytes => exact noOrphans_receive wellFormed keeps backed

end Events

/-- The identify request of node `7…7`. -/
def identifyFrame : Bytes :=
  match (({} : RequestBuilder).addIdentify (Uuid.filled 7) 0 (Uuid.filled 8) 0
    State.localHost).getData true with
  | .ok data => data.drop 4
  | .error _ => []

/-- A node links up and announces its client `9…9`. -/
def announcement : List Event :=
  [.acceptTcp, .frame 0 identifyFrame, .frame 0 Host.joinFrame]

end Aurum.Node
