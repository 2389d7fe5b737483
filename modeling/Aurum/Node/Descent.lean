import Aurum.Node.Placeholders

/-!
# Where sessions come from and go

`Links` are the changes that accepting and dialing TCP sessions makes.
`Descends` says what an operation that disconnects nothing leaves alone: the
identity of every session object, and the registration of every session it did
not build itself.  `Removes` says what the removal of sessions does.
-/

namespace Aurum.Node

open Aurum.Protocol
open Aurum.Container

/-- TCP sessions have been accepted or dialed and registered; no other session
object, and no other registration, has changed. -/
inductive Links (env : Environment) : State → State → Prop
  | quiet {state next : State} (memory : next.memory = state.memory)
      (allocated : next.allocated = state.allocated) (sessions : next.sessions = state.sessions)
      (disconnected : next.disconnected = state.disconnected)
      (broadcast : next.broadcast = state.broadcast) : Links env state next
  | install (state : State) (id : Uuid) (origin : Origin)
      (isLink : origin = .accepted ∨ origin = .dialed) :
      Links env state (state.install env (tcpSession id origin))
  | trans {state middle next : State} (first : Links env state middle)
      (second : Links env middle next) : Links env state next

namespace Links

variable {env : Environment} {state next : State}

theorem refl (env : Environment) (state : State) : Links env state state :=
  .quiet rfl rfl rfl rfl rfl

theorem openSession {withDiscovery : Bool} {connectionsPerNode : UInt16} {connected : Bool}
    (step : state.openSession env withDiscovery connectionsPerNode = .ok (connected, next)) :
    Links env state next := by
  have drawn : Links env state state.draw := .quiet rfl rfl rfl rfl rfl
  have installed := drawn.trans
    (.install state.draw (state.nextUuid env) .dialed (Or.inr rfl))
  unfold State.openSession at step
  simp only at step
  split at step
  · rcases Result.bind_eq_ok_iff.mp step with ⟨buffer, _, result⟩
    cases result
    apply installed.trans
    cases withDiscovery
    · exact .quiet rfl rfl rfl rfl rfl
    · exact .quiet rfl rfl rfl rfl rfl
  · cases step
    exact installed

theorem connect {host : Bytes} {port : UInt16} {withDiscovery : Bool}
    {connectionsPerNode : UInt16} {connected : Bool}
    (step : state.connect env host port withDiscovery connectionsPerNode = .ok (connected, next)) :
    Links env state next := by
  unfold State.connect at step
  simp only at step
  have counted : Links env state { state with dialed := state.dialed ++ [⟨host, port⟩] } :=
    .quiet rfl rfl rfl rfl rfl
  split at step
  · exact counted.trans (openSession step)
  · cases step
    exact counted

theorem runPosted (step : state.runPosted env = .ok next) : Links env state next := by
  unfold State.runPosted at step
  split at step
  · cases step
    exact refl env _
  · rename_i endpoint posted _
    rcases Result.bind_eq_ok_iff.mp step with ⟨⟨connected, dialed⟩, dial, result⟩
    cases result
    have taken : Links env state { state with posted := posted } := .quiet rfl rfl rfl rfl rfl
    exact taken.trans (connect dial)

theorem acceptTcp (env : Environment) (state : State) : Links env state (state.acceptTcp env) := by
  have drawn : Links env state state.draw := .quiet rfl rfl rfl rfl rfl
  exact drawn.trans (install state.draw (state.nextUuid env) .accepted (Or.inl rfl))

theorem sendToNode (env : Environment) (node : Uuid) (message : Bytes) (state : State) :
    Links env state (state.sendToNode env node message) := by
  unfold State.sendToNode
  simp only
  split
  · split
    · exact .quiet rfl rfl rfl rfl rfl
    · exact .quiet rfl rfl rfl rfl rfl
  · exact refl env state

theorem visitEndpoint {endpoint : Endpoint}
    (step : Handlers.visitEndpoint env endpoint state = .ok next) : Links env state next := by
  unfold Handlers.visitEndpoint at step
  split at step
  · cases step
    exact refl env _
  · rcases Result.bind_eq_ok_iff.mp step with ⟨⟨connected, dialed⟩, dial, result⟩
    cases result
    exact connect dial

theorem visitAll {endpoints : List Endpoint}
    (step : Handlers.visitAll env endpoints state = .ok next) : Links env state next := by
  induction endpoints generalizing state with
  | nil =>
      cases step
      exact refl env _
  | cons endpoint endpoints ih =>
      rcases Result.bind_eq_ok_iff.mp step with ⟨middle, visit, rest⟩
      exact (visitEndpoint visit).trans (ih rest)

/-- Links are made without a broadcast. -/
theorem broadcast (links : Links env state next) : next.broadcast = state.broadcast := by
  induction links with
  | quiet memory allocated sessions disconnected broadcast => exact broadcast
  | install state id origin isLink => rfl
  | trans first second firstKept secondKept => exact secondKept.trans firstKept

end Links

/-- Neither identifier, type nor origin of an existing session object has
changed. -/
def SameIdentity (state next : State) : Prop :=
  ∀ ref < state.allocated, (next.memory ref).id = (state.memory ref).id ∧
    (next.memory ref).type = (state.memory ref).type ∧
    (next.memory ref).origin = (state.memory ref).origin

/-- Nothing has been disconnected, and whatever is newly registered is a new
session that is no websocket client. -/
structure Descends (state next : State) : Prop where
  older : state.allocated ≤ next.allocated
  same : SameIdentity state next
  newcomers : ∀ ref, state.allocated ≤ ref → ref < next.allocated →
    (next.memory ref).origin ≠ .client
  registered : ∀ entry ∈ next.sessions, entry ∈ state.sessions ∨ state.allocated ≤ entry.elem
  disconnected : next.disconnected = state.disconnected

namespace Descends

variable {env : Environment} {state middle next : State}

/-- Changes outside memory and registry. -/
theorem of_eq (memory : next.memory = state.memory) (allocated : next.allocated = state.allocated)
    (sessions : next.sessions = state.sessions)
    (disconnected : next.disconnected = state.disconnected) : Descends state next where
  older := allocated.ge
  same := by
    intro ref _
    rw [memory]
    exact ⟨rfl, rfl, rfl⟩
  newcomers := by
    intro ref from_ below
    rw [allocated] at below
    exact absurd below (Nat.not_lt.mpr from_)
  registered := by
    intro entry member
    rw [sessions] at member
    exact Or.inl member
  disconnected := disconnected

/-- A websocket client of a later state is one of the earlier state. -/
theorem client (descends : Descends state next) {ref : Ref} (created : ref < next.allocated)
    (client : (next.memory ref).origin = .client) :
    ref < state.allocated ∧ (state.memory ref).origin = .client ∧
      (next.memory ref).id = (state.memory ref).id := by
  by_cases old : ref < state.allocated
  · rcases descends.same ref old with ⟨idEq, _, originEq⟩
    exact ⟨old, originEq ▸ client, idEq⟩
  · exact absurd client (descends.newcomers ref (Nat.not_lt.mp old) created)

theorem refl (state : State) : Descends state state :=
  of_eq rfl rfl rfl rfl

theorem trans (first : Descends state middle) (second : Descends middle next) :
    Descends state next where
  older := first.older.trans second.older
  same := by
    intro ref created
    rcases first.same ref created with ⟨firstId, firstType, firstOrigin⟩
    obtain ⟨secondId, secondType, secondOrigin⟩ :=
      second.same ref (created.trans_le first.older)
    exact ⟨secondId.trans firstId, secondType.trans firstType, secondOrigin.trans firstOrigin⟩
  newcomers := by
    intro ref from_ below
    by_cases early : ref < middle.allocated
    · rw [(second.same ref early).2.2]
      exact first.newcomers ref from_ early
    · exact second.newcomers ref (Nat.not_lt.mp early) below
  registered := by
    intro entry member
    rcases second.registered entry member with member | late
    · exact first.registered entry member
    · exact Or.inr (first.older.trans late)
  disconnected := second.disconnected.trans first.disconnected

/-- Overwriting a session but for its identity. -/
theorem update (state : State) (ref : Ref) (change : Session → Session)
    (unchanged : ∀ session, (change session).id = session.id ∧
      (change session).type = session.type ∧ (change session).origin = session.origin) :
    Descends state (state.update ref change) where
  older := Nat.le_refl _
  same := by
    intro other _
    by_cases isRef : other = ref
    · subst isRef
      rw [State.update_memory_self]
      exact unchanged _
    · rw [State.update_memory_of_ne isRef]
      exact ⟨rfl, rfl, rfl⟩
  newcomers := fun _ from_ below => absurd below (Nat.not_lt.mpr from_)
  registered := fun _ => Or.inl
  disconnected := rfl

/-- Building a session and registering it. -/
theorem install (env : Environment) (session : Session) (state : State)
    (notClient : session.origin ≠ .client) : Descends state (state.install env session) where
  older := Nat.le_succ _
  same := by
    intro ref created
    rw [State.install_memory_of_lt env session created]
    exact ⟨rfl, rfl, rfl⟩
  newcomers := by
    intro ref from_ below
    have new : ref = state.allocated := Nat.le_antisymm (Nat.le_of_lt_succ below) from_
    rw [new, State.install_memory_self]
    exact notClient
  registered := by
    intro entry member
    rcases mem_insertUnique member with rfl | old
    · exact Or.inr (Nat.le_refl _)
    · exact Or.inl old
  disconnected := rfl

theorem of_links (links : Links env state next) : Descends state next := by
  induction links with
  | quiet memory allocated sessions disconnected =>
      exact of_eq memory allocated sessions disconnected
  | install state id origin isLink =>
      apply install env (tcpSession id origin) state
      rcases isLink with rfl | rfl
      · exact Origin.noConfusion
      · exact Origin.noConfusion
  | trans _ _ first second => exact first.trans second

/-- One handler call. -/
theorem effect {session : Ref} {message : Submessage}
    (effect : Effect env session message state next) : Descends state next := by
  cases effect with
  | none => exact refl _
  | identified id port host posted opcode tcp named =>
      have described := update state session
        (fun session => { session with nodeId := id, port := port, host := host })
        (fun _ => ⟨rfl, rfl, rfl⟩)
      exact described.trans (of_eq rfl rfl rfl rfl)
  | discovered next opcode response visited => exact of_links (.visitAll visited)
  | joined id opcode request tcp named =>
      exact install env { websocketSession id (.joined (state.memory session).nodeId) with
        nodeId := (state.memory session).nodeId } state (by simp [websocketSession])
  | left id opcode request tcp named =>
      constructor
      · exact Nat.le_refl _
      · exact fun ref _ => ⟨rfl, rfl, rfl⟩
      · exact fun ref from_ below => absurd below (Nat.not_lt.mpr from_)
      · exact fun entry member => Or.inl (List.mem_of_mem_filter member)
      · rfl

theorem handle (env : Environment) (frame : Bytes) (session : Ref) (state : State) :
    Descends state (Node.handle env frame session state).state := by
  apply handle_keeps (Descends state) _ (refl state)
  intro call member before
  rcases Kernel.mem_calls member with ⟨_, builder, result, invoked⟩
  exact before.trans (effect (invoke_effect invoked))

theorem receive (env : Environment) (session : Ref) (frame : Bytes) (state : State) :
    Descends state (state.receive env session frame) := by
  rcases exists_receive_eq env session frame state with ⟨sent, received⟩
  rw [received]
  exact (handle env frame session state).trans (of_eq rfl rfl rfl rfl)

end Descends

/-! ## Removal -/

/-- Sessions filed under some identifiers have been taken out of the registry
and disconnected, each once. -/
structure Removes (ids : List Uuid) (refs : List Ref) (state next : State) : Prop where
  allocated : next.allocated = state.allocated
  same : SameIdentity state next
  disconnected : next.disconnected = state.disconnected ++ refs
  registered : ∀ entry ∈ next.sessions, entry ∈ state.sessions ∧ entry.elem ∉ refs
  removed : ∀ ref ∈ refs, ∃ entry ∈ state.sessions, entry.elem = ref ∧ entry.key.id ∈ ids
  nodup : refs.Nodup

namespace Removes

variable {env : Environment} {state middle next : State}

theorem none (ids : List Uuid) (state : State) : Removes ids [] state state where
  allocated := rfl
  same := fun _ _ => ⟨rfl, rfl, rfl⟩
  disconnected := (List.append_nil _).symm
  registered := fun _ member => ⟨member, List.not_mem_nil⟩
  removed := fun _ member => absurd member List.not_mem_nil
  nodup := List.nodup_nil

theorem trans {ids more : List Uuid} {refs others : List Ref}
    (first : Removes ids refs state middle) (second : Removes more others middle next) :
    Removes (ids ++ more) (refs ++ others) state next where
  allocated := second.allocated.trans first.allocated
  same := by
    intro ref created
    rcases first.same ref created with ⟨firstId, firstType, firstOrigin⟩
    obtain ⟨secondId, secondType, secondOrigin⟩ :=
      second.same ref (by rw [first.allocated]; exact created)
    exact ⟨secondId.trans firstId, secondType.trans firstType, secondOrigin.trans firstOrigin⟩
  disconnected := by
    rw [second.disconnected, first.disconnected, List.append_assoc]
  registered := by
    intro entry member
    rcases second.registered entry member with ⟨still, notSecond⟩
    rcases first.registered entry still with ⟨before, notFirst⟩
    refine ⟨before, ?_⟩
    rw [List.mem_append, not_or]
    exact ⟨notFirst, notSecond⟩
  removed := by
    intro ref member
    rcases List.mem_append.mp member with early | late
    · rcases first.removed ref early with ⟨entry, registered, isRef, named⟩
      exact ⟨entry, registered, isRef, List.mem_append_left _ named⟩
    · rcases second.removed ref late with ⟨entry, registered, isRef, named⟩
      exact ⟨entry, (first.registered entry registered).1, isRef, List.mem_append_right _ named⟩
  nodup := by
    apply List.nodup_append.mpr
    refine ⟨first.nodup, second.nodup, ?_⟩
    intro ref early other late same
    rcases second.removed other late with ⟨entry, registered, isOther, _⟩
    apply (first.registered entry registered).2
    rw [isOther, ← same]
    exact early

/-- `disconnect()` of a session leaves everything but its stream. -/
theorem disconnectSession {ref : Ref} (step : state.disconnectSession env ref = .ok next) :
    next.allocated = state.allocated ∧ SameIdentity state next ∧
      next.disconnected = state.disconnected ++ [ref] ∧ next.sessions = state.sessions := by
  have closed : (state.closeStream ref).allocated = state.allocated ∧
      SameIdentity state (state.closeStream ref) ∧
      (state.closeStream ref).disconnected = state.disconnected ++ [ref] ∧
      (state.closeStream ref).sessions = state.sessions := by
    refine ⟨?_, ?_, ?_, State.closeStream_sessions ref state⟩
    · unfold State.closeStream
      simp only
      split <;> rfl
    · intro other _
      rcases State.closeStream_memory ref state other with same | shut
      · rw [same]
        exact ⟨rfl, rfl, rfl⟩
      · rw [shut]
        exact ⟨rfl, rfl, rfl⟩
    · unfold State.closeStream
      simp only
      split <;> rfl
  unfold State.disconnectSession at step
  split at step
  · cases step
    exact closed
  · rcases Result.bind_eq_ok_iff.mp step with ⟨data, _, broadcast⟩
    cases broadcast
    rw [State.broadcastToNodes_eq]
    exact closed

/-- Either nothing is registered under an identifier, or its session is taken
out of the registry and disconnected. -/
theorem removeSession_cases {id : Uuid} {removed : Bool}
    (step : state.removeSession env id = .ok (removed, next)) :
    next = state ∨ ∃ entry ∈ state.sessions, entry.key.id = id ∧
      State.disconnectSession env entry.elem
        { state with sessions := state.sessions.eraseById id } = .ok next := by
  unfold State.removeSession at step
  cases found : state.sessions.findById id with
  | none =>
      rw [found] at step
      cases step
      exact Or.inl rfl
  | some entry =>
      rw [found] at step
      rcases Result.bind_eq_ok_iff.mp step with ⟨closing, disconnected, result⟩
      cases result
      rcases mem_of_findUnique found with ⟨member, keyEq⟩
      exact Or.inr ⟨entry, member, keyEq, disconnected⟩

theorem single (wellFormed : WellFormed state) {entry : Entry} (member : entry ∈ state.sessions)
    (step : State.disconnectSession env entry.elem
      { state with sessions := state.sessions.eraseById entry.key.id } = .ok next) :
    Removes [entry.key.id] [entry.elem] state next := by
  rcases disconnectSession step with ⟨allocatedEq, same, disconnectedEq, sessionsEq⟩
  refine ⟨allocatedEq, same, disconnectedEq, ?_, ?_, List.nodup_singleton _⟩
  · intro other still
    rw [sessionsEq] at still
    rcases (wellFormed.distinct.mem_eraseUnique_iff _ other).mp still with ⟨before, otherId⟩
    refine ⟨before, ?_⟩
    rw [List.mem_singleton]
    intro sameRef
    apply otherId
    rw [(wellFormed.filed other before).1, sameRef, ← (wellFormed.filed entry member).1]
  · intro ref isRef
    rw [List.mem_singleton] at isRef
    exact ⟨entry, member, isRef.symm, List.mem_singleton_self _⟩

end Removes

end Aurum.Node
