import Aurum.Node.Requests

/-!
# Announcing websocket clients

A node broadcasts a join request when the handshake of a websocket session
succeeds, and every `disconnect()` of a websocket session broadcasts a leave
request.  `disconnect()` does not look at whether the session has been
announced, nor at whether it is a placeholder for a client of another node.
-/

namespace Aurum.Node

open Aurum.Protocol
open Aurum.Container
open Aurum.Replication
open Aurum.Transition

/-- A node with its websocket listener. -/
structure Host where
  node : State
  /-- The sessions of the listener whose handshake has not finished. -/
  pending : List Ref

/-- The requests about an identifier, in order. -/
def about (id : Uuid) (ops : List (Op Uuid)) : List (Op Uuid) :=
  ops.filter fun op => op.item = id

namespace Host

def initial (nodeId : Uuid) (tcpPort : UInt16) : Host :=
  { node := State.initial nodeId tcpPort, pending := [] }

/-- Sessions come from the listeners, from `connect` and from the join handler
alone, every handshake finishes once, and the listener draws an identifier that
no session has or has had.  What a caller of `send_to_node` provides is no join
or leave request. -/
def Enabled (env : Environment) (host : Host) : Event → Prop
  | .create _ | .addSession _ => False
  | .acceptWebsocket =>
      ∀ ref < host.node.allocated, (host.node.memory ref).id ≠ host.node.nextUuid env
  | .handshake ref _ => ref ∈ host.pending
  | .frame ref _ => ref < host.node.allocated
  | .sendToNode _ message => Requestless message
  | _ => True

instance (env : Environment) (host : Host) : DecidablePred (host.Enabled env)
  | .create _ | .addSession _ => inferInstanceAs (Decidable False)
  | .acceptWebsocket =>
      inferInstanceAs (Decidable (∀ ref < host.node.allocated, (host.node.memory ref).id ≠ _))
  | .handshake ref _ => inferInstanceAs (Decidable (ref ∈ host.pending))
  | .frame ref _ => inferInstanceAs (Decidable (ref < host.node.allocated))
  | .sendToNode _ message => inferInstanceAs (Decidable (Requestless message))
  | .acceptTcp | .connect _ _ _ _ | .runPosted | .removeSession _ | .disconnect _
  | .disconnectAll => inferInstanceAs (Decidable True)

/-- The handshakes that have not finished after an event. -/
def waiting (host : Host) : Event → List Ref
  | .acceptWebsocket => host.pending ++ [host.node.allocated]
  | .handshake ref _ => host.pending.erase ref
  | _ => host.pending

def perform (env : Environment) (host : Host) (event : Event) : Result Host := do
  let node ← host.node.perform env event
  return { node := node, pending := host.waiting event }

/-- A hosting node with its events. -/
def machine (env : Environment) : Machine Host Event where
  start host := ∃ nodeId tcpPort, host = initial nodeId tcpPort
  step host event next := host.Enabled env event ∧ host.perform env event = .ok next

/-- The requests broadcast about an identifier, in order. -/
def history (host : Host) (id : Uuid) : List (Op Uuid) :=
  about id host.node.announced

/-- The requests about an identifier sent on a TCP session, in order. -/
def told (host : Host) (ref : Ref) (id : Uuid) : List (Op Uuid) :=
  about id (requests ref host.node.sent)

/-- The identifiers that an event passes to `remove_session`. -/
def removalIds (env : Environment) (state : State) : Event → List Uuid
  | .handshake ref true => [(state.memory ref).id]
  | .removeSession id => [id]
  | .disconnect node =>
      (env.order (state.sessions.byNodeId node)).map fun ref => (state.memory ref).id
  | .disconnectAll => state.sessions.refs.map fun ref => (state.memory ref).id
  | _ => []

/-- A handshake finishes, or sessions are to be removed. -/
def Announcing (env : Environment) (host : Host) (event : Event) : Prop :=
  (∃ ref, event = .handshake ref false) ∨ removalIds env host.node event ≠ []

/-- The session was accepted by the listener and its handshake has finished. -/
def Settled (host : Host) (ref : Ref) : Prop :=
  (host.node.memory ref).origin = .client ∧ ref ∉ host.pending

/-- The websocket sessions that an event has `remove_session` remove were
accepted by the listener and have finished their handshake. -/
def RemovesSettled (env : Environment) (host : Host) (event : Event) : Prop :=
  ∀ id ∈ removalIds env host.node event, ∀ entry ∈ host.node.sessions, entry.key.id = id →
    (host.node.memory entry.elem).type = .websocket → host.Settled entry.elem

instance (env : Environment) (host : Host) : DecidablePred (host.RemovesSettled env) :=
  fun _ => inferInstanceAs (Decidable (∀ id ∈ _, ∀ entry ∈ _, _ → _ → _ ∧ _))

/-! ## What an event does -/

variable {env : Environment} {host : Host} {next : State}

/-- What an event does to node and sessions, with the requests it broadcasts. -/
inductive Happens (env : Environment) (host : Host) : Event → State → List (Op Uuid) → Prop
  | quiet (event : Event) (next : State) (descends : Descends host.node next)
      (unfinished : host.waiting event = host.pending)
      (announces : Announces [] host.node next) : Happens env host event next []
  | accepted (next : State) (result : next = host.node.acceptWebsocket env)
      (announces : Announces [] host.node next) : Happens env host .acceptWebsocket next []
  | greeted (ref : Ref) (next : State) (descends : Descends host.node next)
      (announces : Announces [.join (host.node.memory ref).id] host.node next) :
      Happens env host (.handshake ref false) next [.join (host.node.memory ref).id]
  | removed (event : Event) (next : State) (refs : List Ref)
      (removes : Removes (removalIds env host.node event) refs host.node next)
      (announces : Announces (leaves next refs) host.node next)
      (finished : host.waiting event = host.pending ∨ ∃ ref, event = .handshake ref true) :
      Happens env host event next (leaves next refs)

theorem Happens.announces {event : Event} {ops : List (Op Uuid)}
    (happens : Happens env host event next ops) : Announces ops host.node next := by
  cases happens with
  | quiet _ _ _ _ announces => exact announces
  | accepted _ _ announces => exact announces
  | greeted _ _ _ announces => exact announces
  | removed _ _ _ _ announces _ => exact announces

/-- Other events broadcast nothing. -/
theorem Happens.announcing {event : Event} {ops : List (Op Uuid)}
    (happens : Happens env host event next ops) (some : ops ≠ []) : host.Announcing env event := by
  cases happens with
  | quiet _ _ _ _ _ => exact absurd rfl some
  | accepted _ _ _ => exact absurd rfl some
  | greeted ref _ _ _ => exact Or.inl ⟨ref, rfl⟩
  | removed _ _ refs removes _ _ =>
      right
      intro none
      apply some
      cases refs with
      | nil => rfl
      | cons ref refs =>
          rcases removes.removed ref List.mem_cons_self with ⟨_, _, _, named⟩
          rw [none] at named
          cases named

theorem happens_of_perform {event : Event} (wellFormed : WellFormed host.node)
    (enabled : host.Enabled env event) (step : host.node.perform env event = .ok next) :
    ∃ ops, Happens env host event next ops := by
  have voice := voice_requestless env host.node.nodeId
  have removed : host.node.removeSessions env (removalIds env host.node event) = .ok next →
      (host.waiting event = host.pending ∨ ∃ ref, event = .handshake ref true) →
      ∃ ops, Happens env host event next ops := by
    intro removal finished
    obtain ⟨refs, removes, announces⟩ := Announces.removeSessions wellFormed removal
    exact ⟨_, .removed event next refs removes announces finished⟩
  have single : ∀ {id : Uuid}, host.node.perform env (.removeSession id) = .ok next →
      host.node.removeSessions env [id] = .ok next := by
    intro id removal
    exact removal
  have linked : Links env host.node next → host.waiting event = host.pending →
      Utters (OnTcp Requestless) host.node next → ∃ ops, Happens env host event next ops :=
    fun links unfinished utters =>
      ⟨_, .quiet event next (.of_links links) unfinished (.quiet utters links.broadcast)⟩
  cases event with
  | create session => exact absurd enabled id
  | addSession ref => exact absurd enabled id
  | acceptTcp =>
      cases step
      exact linked (.acceptTcp env host.node) rfl (.acceptTcp env host.node)
  | acceptWebsocket =>
      cases step
      exact ⟨_, .accepted _ rfl acceptWebsocket_announces⟩
  | handshake ref failed =>
      cases failed with
      | true => exact removed (single step) (Or.inr ⟨ref, rfl⟩)
      | false =>
          rcases Announces.greet step with ⟨descends, announces⟩
          exact ⟨_, .greeted ref next descends announces⟩
  | connect host port withDiscovery connectionsPerNode =>
      rcases Result.bind_eq_ok_iff.mp step with ⟨⟨connected, dialed⟩, dial, result⟩
      cases result
      exact linked (.connect dial) rfl (voice.connect rfl dial)
  | runPosted => exact linked (.runPosted step) rfl (voice.runPosted rfl step)
  | removeSession id => exact removed (single step) (Or.inl rfl)
  | disconnect node => exact removed step (Or.inl rfl)
  | disconnectAll => exact removed step (Or.inl rfl)
  | sendToNode node message =>
      cases step
      exact linked (.sendToNode env node message host.node) rfl
        (.sendToNode env wellFormed fun _ => enabled)
  | frame ref bytes =>
      cases step
      exact ⟨_, .quiet _ _ (.receive env ref bytes host.node) rfl (receive_announces enabled)⟩

/-! ## Bracketing -/

/-- What is known about the announcements of a host that removes settled
sessions only. -/
structure Bracketed (host : Host) (announced : List (Op Uuid)) : Prop where
  wellFormed : WellFormed host.node
  websocket : ∀ ref < host.node.allocated, (host.node.memory ref).origin = .client →
    (host.node.memory ref).type = .websocket
  /-- Clients have identifiers of their own. -/
  distinct : ∀ ref < host.node.allocated, ∀ other < host.node.allocated,
    (host.node.memory ref).origin = .client → (host.node.memory other).origin = .client →
    (host.node.memory ref).id = (host.node.memory other).id → ref = other
  pending : ∀ ref ∈ host.pending, ref < host.node.allocated ∧
    (host.node.memory ref).origin = .client ∧ about (host.node.memory ref).id announced = []
  once : host.pending.Nodup
  /-- A client that is registered and greeted has been announced. -/
  greeted : ∀ entry ∈ host.node.sessions, host.Settled entry.elem →
    about (host.node.memory entry.elem).id announced = [.join (host.node.memory entry.elem).id]
  prefixes : ∀ id, about id announced <+: [.join id, .leave id]
  hosted : ∀ id, about id announced ≠ [] → ∃ ref < host.node.allocated,
    (host.node.memory ref).origin = .client ∧ (host.node.memory ref).id = id

theorem bracketed_initial (nodeId : Uuid) (tcpPort : UInt16) :
    Bracketed (initial nodeId tcpPort) [] where
  wellFormed := WellFormed.initial nodeId tcpPort
  websocket := fun _ below => absurd below (Nat.not_lt_zero _)
  distinct := fun _ below => absurd below (Nat.not_lt_zero _)
  pending := fun _ member => absurd member List.not_mem_nil
  once := List.nodup_nil
  greeted := fun _ member => absurd member List.not_mem_nil
  prefixes := fun _ => List.nil_prefix
  hosted := fun _ nonempty => absurd rfl nonempty

theorem about_append (id : Uuid) (ops more : List (Op Uuid)) :
    about id (ops ++ more) = about id ops ++ about id more :=
  List.filter_append _ _

/-- How many of some sessions are websocket sessions with an identifier is how
many leaves of it their disconnection broadcasts. -/
theorem about_leaves (state : State) (refs : List Ref) (id : Uuid) :
    about id (leaves state refs) =
      List.replicate (refs.countP fun ref => (state.memory ref).type = .websocket ∧
        (state.memory ref).id = id) (.leave id) := by
  induction refs with
  | nil => rfl
  | cons ref refs ih =>
      have split : leaves state (ref :: refs) = leaves state [ref] ++ leaves state refs :=
        leaves_append state [ref] refs
      rw [split, about_append, ih, List.countP_cons]
      by_cases websocket : (state.memory ref).type = .websocket
      · by_cases named : (state.memory ref).id = id
        · simp [about, leaves, websocket, named, Op.item, List.replicate_succ]
        · simp [about, leaves, websocket, named, Op.item]
      · simp [about, leaves, websocket]

/-- An identifier that no removed client has keeps its history. -/
theorem about_of_unnamed {announced : List (Op Uuid)} {refs : List Ref} {id : Uuid}
    (unnamed : ∀ ref ∈ refs, (host.node.memory ref).type = .websocket →
      (host.node.memory ref).id ≠ id) :
    about id (announced ++ leaves host.node refs) =
      about id announced := by
  have none : (refs.countP fun ref => (host.node.memory ref).type = .websocket ∧
      (host.node.memory ref).id = id) = 0 := by
    apply List.countP_eq_zero.mpr
    intro ref member found
    rcases of_decide_eq_true found with ⟨websocket, named⟩
    exact unnamed ref member websocket named
  rw [about_append, about_leaves, none]
  exact List.append_nil _

namespace Bracketed

variable {announced : List (Op Uuid)} (bracketed : Bracketed host announced)

include bracketed

theorem descend (descends : Descends host.node next) (formed : WellFormed next) :
    Bracketed ⟨next, host.pending⟩ announced where
  wellFormed := formed
  websocket := by
    intro ref created client
    rcases descends.client created client with ⟨old, oldClient, _⟩
    rw [(descends.same ref old).2.1]
    exact bracketed.websocket ref old oldClient
  distinct := by
    intro ref created other otherCreated client otherClient sameId
    rcases descends.client created client with ⟨old, oldClient, idEq⟩
    rcases descends.client otherCreated otherClient with ⟨otherOld, otherOldClient, otherIdEq⟩
    apply bracketed.distinct ref old other otherOld oldClient otherOldClient
    rw [← idEq, ← otherIdEq]
    exact sameId
  pending := by
    intro ref member
    rcases bracketed.pending ref member with ⟨created, client, silent⟩
    rcases descends.same ref created with ⟨idEq, _, originEq⟩
    refine ⟨created.trans_le descends.older, originEq.trans client, ?_⟩
    rw [idEq]
    exact silent
  once := bracketed.once
  greeted := by
    rintro entry member ⟨client, done⟩
    have created := formed.allocated entry member
    rcases descends.client created client with ⟨old, oldClient, idEq⟩
    rcases descends.registered entry member with registered | late
    · rw [idEq]
      exact bracketed.greeted entry registered ⟨oldClient, done⟩
    · exact absurd old (Nat.not_lt.mpr late)
  prefixes := bracketed.prefixes
  hosted := by
    intro id nonempty
    rcases bracketed.hosted id nonempty with ⟨ref, created, client, named⟩
    rcases descends.same ref created with ⟨idEq, _, originEq⟩
    exact ⟨ref, created.trans_le descends.older, originEq.trans client, idEq.trans named⟩

/-- A finished handshake announces its session. -/
theorem greet {ref : Ref} (member : ref ∈ host.pending) :
    Bracketed ⟨host.node, host.pending.erase ref⟩
      (announced ++ [.join (host.node.memory ref).id]) := by
  rcases bracketed.pending ref member with ⟨created, client, silent⟩
  have self : about (host.node.memory ref).id
      (announced ++ [.join (host.node.memory ref).id]) = [.join (host.node.memory ref).id] := by
    rw [about_append, silent]
    simp [about, Op.item]
  have others : ∀ id, id ≠ (host.node.memory ref).id →
      about id (announced ++ [.join (host.node.memory ref).id]) = about id announced := by
    intro id differs
    rw [about_append]
    simp [about, Op.item, Ne.symm differs]
  constructor
  · exact bracketed.wellFormed
  · exact bracketed.websocket
  · exact bracketed.distinct
  · intro other still
    rcases bracketed.once.mem_erase_iff.mp still with ⟨differs, waiting⟩
    rcases bracketed.pending other waiting with ⟨otherCreated, otherClient, otherSilent⟩
    refine ⟨otherCreated, otherClient, ?_⟩
    rw [others _ fun sameId =>
      differs (bracketed.distinct other otherCreated ref created otherClient client sameId)]
    exact otherSilent
  · exact bracketed.once.erase ref
  · rintro entry registered ⟨entryClient, done⟩
    by_cases isRef : entry.elem = ref
    · rw [isRef]
      exact self
    · have entryCreated := bracketed.wellFormed.allocated entry registered
      rw [others _ fun sameId =>
        isRef (bracketed.distinct _ entryCreated ref created entryClient client sameId)]
      apply bracketed.greeted entry registered
      refine ⟨entryClient, ?_⟩
      intro waiting
      exact done (bracketed.once.mem_erase_iff.mpr ⟨isRef, waiting⟩)
  · intro id
    by_cases isRef : id = (host.node.memory ref).id
    · rw [isRef, self]
      exact ⟨[.leave (host.node.memory ref).id], rfl⟩
    · rw [others _ isRef]
      exact bracketed.prefixes id
  · intro id nonempty
    by_cases isRef : id = (host.node.memory ref).id
    · exact ⟨ref, created, client, isRef.symm⟩
    · rw [others _ isRef] at nonempty
      exact bracketed.hosted id nonempty

/-- A session that is not registered can be dropped from the pending ones. -/
theorem forget {ref : Ref} (gone : ∀ entry ∈ host.node.sessions, entry.elem ≠ ref) :
    Bracketed ⟨host.node, host.pending.erase ref⟩ announced where
  wellFormed := bracketed.wellFormed
  websocket := bracketed.websocket
  distinct := bracketed.distinct
  pending := fun other still => bracketed.pending other (List.mem_of_mem_erase still)
  once := bracketed.once.erase ref
  greeted := by
    rintro entry registered ⟨client, done⟩
    apply bracketed.greeted entry registered
    refine ⟨client, ?_⟩
    intro waiting
    exact done (bracketed.once.mem_erase_iff.mpr ⟨gone entry registered, waiting⟩)
  prefixes := bracketed.prefixes
  hosted := bracketed.hosted

/-- The listener accepts a session under an identifier of its own. -/
theorem accept (fresh : ∀ ref < host.node.allocated,
      (host.node.memory ref).id ≠ host.node.nextUuid env)
    (formed : WellFormed (host.node.acceptWebsocket env)) :
    Bracketed ⟨host.node.acceptWebsocket env, host.pending ++ [host.node.allocated]⟩
      announced := by
  have older : ∀ ref < host.node.allocated,
      (host.node.acceptWebsocket env).memory ref = host.node.memory ref :=
    fun ref created => State.acceptWebsocket_memory_of_lt env created
  have newest : (host.node.acceptWebsocket env).memory host.node.allocated =
      host.node.clientSession env := State.acceptWebsocket_memory_self env host.node
  have cases : ∀ ref < (host.node.acceptWebsocket env).allocated,
      ref < host.node.allocated ∨ ref = host.node.allocated :=
    fun ref created => Nat.lt_succ_iff_lt_or_eq.mp created
  have unheard : about (host.node.nextUuid env) announced = [] := by
    by_contra nonempty
    rcases bracketed.hosted _ nonempty with ⟨ref, created, _, named⟩
    exact fresh ref created named
  have free : ∀ entry ∈ host.node.sessions, entry.key.id ≠ host.node.nextUuid env :=
    bracketed.wellFormed.free_of_fresh fresh
  constructor
  · exact formed
  · intro ref created client
    rcases cases ref created with old | rfl
    · rw [older ref old] at client ⊢
      exact bracketed.websocket ref old client
    · rw [newest]
      rfl
  · intro ref created other otherCreated client otherClient sameId
    rcases cases ref created with old | rfl
    · rcases cases other otherCreated with otherOld | rfl
      · rw [older ref old] at client sameId
        rw [older other otherOld] at otherClient sameId
        exact bracketed.distinct ref old other otherOld client otherClient sameId
      · rw [older ref old, newest] at sameId
        exact absurd sameId (fresh ref old)
    · rcases cases other otherCreated with otherOld | rfl
      · rw [older other otherOld, newest] at sameId
        exact absurd sameId.symm (fresh other otherOld)
      · rfl
  · intro ref member
    rcases List.mem_append.mp member with waiting | new
    · rcases bracketed.pending ref waiting with ⟨created, client, silent⟩
      rw [older ref created]
      exact ⟨Nat.lt_succ_of_lt created, client, silent⟩
    · rw [List.mem_singleton.mp new, newest]
      exact ⟨Nat.lt_succ_self _, rfl, unheard⟩
  · apply List.nodup_append.mpr
    refine ⟨bracketed.once, List.nodup_singleton _, ?_⟩
    intro ref waiting other new same
    rw [List.mem_singleton.mp new] at same
    exact absurd (bracketed.pending ref waiting).1 (Nat.not_lt.mpr same.ge)
  · rintro entry registered ⟨client, done⟩
    rcases (State.mem_acceptWebsocket_iff env free entry).mp registered with rfl | before
    · exact absurd (List.mem_append_right _ (List.mem_singleton_self _)) done
    · have created := bracketed.wellFormed.allocated entry before
      rw [older _ created] at client ⊢
      apply bracketed.greeted entry before
      exact ⟨client, fun waiting => done (List.mem_append_left _ waiting)⟩
  · exact bracketed.prefixes
  · intro id nonempty
    rcases bracketed.hosted id nonempty with ⟨ref, created, client, named⟩
    refine ⟨ref, Nat.lt_succ_of_lt created, ?_⟩
    rw [older ref created]
    exact ⟨client, named⟩

/-- What is removed has been created. -/
theorem created {ids : List Uuid} {refs : List Ref} (removes : Removes ids refs host.node next)
    {ref : Ref} (member : ref ∈ refs) : ref < host.node.allocated := by
  rcases removes.removed ref member with ⟨entry, registered, isRef, _⟩
  rw [← isRef]
  exact bracketed.wellFormed.allocated entry registered

/-- A removed client has been announced, and its leave follows. -/
theorem about_of_removed {ids : List Uuid} {refs : List Ref}
    (removes : Removes ids refs host.node next)
    (settled : ∀ ref ∈ refs, (host.node.memory ref).type = .websocket → host.Settled ref)
    {ref : Ref} (member : ref ∈ refs) (websocket : (host.node.memory ref).type = .websocket) :
    about (host.node.memory ref).id (announced ++ leaves host.node refs) =
      [.join (host.node.memory ref).id, .leave (host.node.memory ref).id] := by
  have done := settled ref member websocket
  rcases removes.removed ref member with ⟨entry, registered, isRef, _⟩
  have joined := bracketed.greeted entry registered (isRef ▸ done)
  rw [isRef] at joined
  have one : (refs.countP fun other => (host.node.memory other).type = .websocket ∧
      (host.node.memory other).id = (host.node.memory ref).id) = refs.count ref := by
    apply List.countP_congr
    intro other otherMember
    simp only [decide_eq_true_eq, beq_iff_eq]
    constructor
    · rintro ⟨otherWebsocket, sameId⟩
      exact bracketed.distinct other (bracketed.created removes otherMember) ref
        (bracketed.created removes member) (settled other otherMember otherWebsocket).1 done.1
        sameId
    · rintro rfl
      exact ⟨websocket, rfl⟩
  rw [about_append, about_leaves, one, List.count_eq_one_of_mem removes.nodup member,
    joined]
  rfl

/-- Removing settled sessions withdraws each of them once. -/
theorem remove {ids : List Uuid} {refs : List Ref} (removes : Removes ids refs host.node next)
    (formed : WellFormed next)
    (settled : ∀ ref ∈ refs, (host.node.memory ref).type = .websocket → host.Settled ref) :
    Bracketed ⟨next, host.pending⟩ (announced ++ leaves next refs) := by
  have created : ∀ ref ∈ refs, ref < host.node.allocated :=
    fun ref member => bracketed.created removes member
  rw [leaves_congr removes.same created]
  have keptClient : ∀ ref < host.node.allocated, (host.node.memory ref).origin = .client →
      ref ∉ refs →
      about (host.node.memory ref).id (announced ++ leaves host.node refs) =
        about (host.node.memory ref).id announced := by
    intro ref old client stays
    apply about_of_unnamed
    intro other member websocket sameId
    have same := bracketed.distinct other (created other member) ref old
      (settled other member websocket).1 client sameId
    exact stays (same ▸ member)
  have client_of : ∀ ref < next.allocated, (next.memory ref).origin = .client →
      ref < host.node.allocated ∧ (host.node.memory ref).origin = .client ∧
        (next.memory ref).id = (host.node.memory ref).id := by
    intro ref below client
    rw [removes.allocated] at below
    rcases removes.same ref below with ⟨idEq, _, originEq⟩
    exact ⟨below, originEq ▸ client, idEq⟩
  constructor
  · exact formed
  · intro ref below client
    rcases client_of ref below client with ⟨old, oldClient, _⟩
    rw [(removes.same ref old).2.1]
    exact bracketed.websocket ref old oldClient
  · intro ref below other otherBelow client otherClient sameId
    rcases client_of ref below client with ⟨old, oldClient, idEq⟩
    rcases client_of other otherBelow otherClient with ⟨otherOld, otherOldClient, otherIdEq⟩
    apply bracketed.distinct ref old other otherOld oldClient otherOldClient
    rw [← idEq, ← otherIdEq]
    exact sameId
  · intro ref waiting
    rcases bracketed.pending ref waiting with ⟨old, client, silent⟩
    rcases removes.same ref old with ⟨idEq, _, originEq⟩
    refine ⟨by rw [removes.allocated]; exact old, originEq.trans client, ?_⟩
    rw [idEq, keptClient ref old client, silent]
    intro removed
    exact (settled ref removed (bracketed.websocket ref old client)).2 waiting
  · exact bracketed.once
  · rintro entry registered ⟨client, done⟩
    rcases removes.registered entry registered with ⟨before, stays⟩
    obtain ⟨old, oldClient, idEq⟩ :=
      client_of entry.elem (formed.allocated entry registered) client
    rw [idEq, keptClient _ old oldClient stays]
    exact bracketed.greeted entry before ⟨oldClient, done⟩
  · intro id
    by_cases named : ∃ ref ∈ refs, (host.node.memory ref).type = .websocket ∧
        (host.node.memory ref).id = id
    · rcases named with ⟨ref, member, websocket, rfl⟩
      exact (bracketed.about_of_removed removes settled member websocket).symm ▸
        List.prefix_refl _
    · rw [about_of_unnamed fun ref member websocket sameId =>
        named ⟨ref, member, websocket, sameId⟩]
      exact bracketed.prefixes id
  · intro id nonempty
    by_cases named : ∃ ref ∈ refs, (host.node.memory ref).type = .websocket ∧
        (host.node.memory ref).id = id
    · rcases named with ⟨ref, member, websocket, rfl⟩
      rcases removes.same ref (created ref member) with ⟨idEq, _, originEq⟩
      exact ⟨ref, by rw [removes.allocated]; exact created ref member,
        originEq.trans (settled ref member websocket).1, idEq⟩
    · rw [about_of_unnamed fun ref member websocket sameId =>
        named ⟨ref, member, websocket, sameId⟩] at nonempty
      rcases bracketed.hosted id nonempty with ⟨ref, old, client, sameId⟩
      rcases removes.same ref old with ⟨idEq, _, originEq⟩
      exact ⟨ref, by rw [removes.allocated]; exact old, originEq.trans client, idEq.trans sameId⟩

/-- An event that removes settled sessions only keeps the brackets. -/
theorem happen {event : Event} {ops : List (Op Uuid)} (enabled : host.Enabled env event)
    (happens : Happens env host event next ops) (formed : WellFormed next)
    (sound : host.RemovesSettled env event) :
    Bracketed ⟨next, host.waiting event⟩ (announced ++ ops) := by
  cases happens with
  | quiet _ _ descends unfinished _ =>
      rw [unfinished, List.append_nil]
      exact bracketed.descend descends formed
  | accepted _ result _ =>
      subst result
      rw [List.append_nil]
      exact bracketed.accept enabled formed
  | greeted ref _ descends _ =>
      have greeted := bracketed.greet enabled
      have later : Descends (Host.node ⟨host.node, host.pending.erase ref⟩) next := descends
      exact greeted.descend later formed
  | removed _ _ refs removes _ finished =>
      have settled : ∀ ref ∈ refs, (host.node.memory ref).type = .websocket →
          host.Settled ref := by
        intro ref member websocket
        rcases removes.removed ref member with ⟨entry, registered, rfl, named⟩
        exact sound _ named entry registered rfl websocket
      have removed := bracketed.remove removes formed settled
      rcases finished with unfinished | ⟨ref, rfl⟩
      · rw [unfinished]
        exact removed
      · -- The session of a failed handshake is not settled, so it was not registered.
        apply removed.forget
        intro entry registered isRef
        rcases removes.registered entry registered with ⟨before, stays⟩
        rcases bracketed.pending ref enabled with ⟨created, client, _⟩
        have named : entry.key.id = (host.node.memory ref).id := by
          rw [(bracketed.wellFormed.filed entry before).1, isRef]
        have done := sound _ (List.mem_singleton_self _) entry before named
          (isRef ▸ bracketed.websocket ref created client)
        rw [isRef] at done
        exact done.2 enabled

/-- The session objects that an event of a host names exist. -/
theorem event_enabled {event : Event} (enabled : host.Enabled env event) :
    event.Enabled host.node := by
  cases event with
  | create session => exact absurd enabled id
  | addSession ref => exact absurd enabled id
  | handshake ref failed => exact (bracketed.pending ref enabled).1
  | frame ref bytes => exact enabled
  | acceptTcp => trivial
  | acceptWebsocket => trivial
  | connect host port withDiscovery connectionsPerNode => trivial
  | runPosted => trivial
  | removeSession id => trivial
  | disconnect node => trivial
  | disconnectAll => trivial
  | sendToNode node message => trivial

end Bracketed

/-- On TCP sessions no join or leave request has been sent but those broadcast. -/
structure SendsAnnounced (state : State) : Prop where
  created : ∀ sent ∈ state.sent, sent.1 < state.allocated
  requests : ∀ ref, (state.memory ref).type = .tcp →
    (requests ref state.sent).Sublist state.announced

theorem SendsAnnounced.step {state : State} {ops : List (Op Uuid)} (kept : SendsAnnounced state)
    (utters : Utters (fun _ _ => True) state next) (announces : Announces ops state next) :
    SendsAnnounced next where
  created := by
    have said : Said (fun _ _ => True) state := fun sent member =>
      ⟨kept.created sent member, trivial⟩
    exact fun sent member => (said.utter utters sent member).1
  requests := by
    intro ref tcp
    rcases announces.sends with ⟨sends, sentEq, once, _⟩
    rw [sentEq, requests_append, announces.recorded]
    by_cases older : ref < state.allocated
    · have wasTcp := (utters.same ref older).2.1.symm.trans tcp
      exact (kept.requests ref wasTcp).append (once ref tcp)
    · -- Nothing has been sent on a session that did not exist.
      have none : Node.requests ref state.sent = [] := by
        rw [Node.requests, List.filter_eq_nil_iff.mpr]
        · rfl
        · intro sent member isRef
          have sameRef : sent.1 = ref := by simpa using isRef
          exact older (sameRef ▸ kept.created sent member)
      rw [none, List.nil_append]
      exact (once ref tcp).trans (List.sublist_append_right _ _)

/-- What holds in a run that removes settled websocket sessions only. -/
theorem bracketed_of_reachable {host : Host}
    (reachable : ((machine env).under (RemovesSettled env)).Reachable host) :
    Bracketed host host.node.announced ∧ SendsAnnounced host.node := by
  apply reachable.invariant
  · rintro start ⟨nodeId, tcpPort, rfl⟩
    refine ⟨bracketed_initial nodeId tcpPort, fun sent member => absurd member List.not_mem_nil, ?_⟩
    exact fun _ _ => List.nil_sublist _
  · rintro before event next _ ⟨bracketed, kept⟩ ⟨sound, enabled, step⟩
    rcases Result.bind_eq_ok_iff.mp step with ⟨node, performed, result⟩
    cases result
    have formed : WellFormed node :=
      (closed_wellFormed env).perform (bracketed.event_enabled enabled) performed
        (fun session _ _ _ _ called id _ => called.setNodeId session id) bracketed.wellFormed
    rcases happens_of_perform bracketed.wellFormed enabled performed with ⟨ops, happens⟩
    have utters :=
      utters_of_perform bracketed.wellFormed (bracketed.event_enabled enabled) performed
    refine ⟨?_, kept.step utters happens.announces⟩
    have recorded : State.announced node = before.node.announced ++ ops :=
      happens.announces.recorded
    rw [recorded]
    exact bracketed.happen enabled happens formed sound

/-- In a run that removes settled websocket sessions only, what the node
broadcasts about an identifier is nothing, a join, or a join and a leave, and is
about a client that its listener accepted.  No TCP session is sent other join or
leave requests, or in another order; finished handshakes and removals alone send
any, to all nodes with a registered session. -/
theorem announcements_bracketed {host : Host}
    (reachable : ((machine env).under (RemovesSettled env)).Reachable host) (id : Uuid) :
    host.history id <+: [.join id, .leave id] ∧
      (host.history id ≠ [] → ∃ ref < host.node.allocated,
        (host.node.memory ref).origin = .client ∧ (host.node.memory ref).id = id) ∧
      (∀ ref, (host.node.memory ref).type = .tcp →
        (host.told ref id).Sublist (host.history id)) ∧
      ∀ event next, (machine env).step host event next →
        ∃ ops, Announces ops host.node next.node ∧ (ops ≠ [] → host.Announcing env event) := by
  rcases bracketed_of_reachable reachable with ⟨bracketed, sends⟩
  refine ⟨bracketed.prefixes id, bracketed.hosted id, ?_, ?_⟩
  · intro ref tcp
    exact (sends.requests ref tcp).filter _
  · rintro event next ⟨enabled, step⟩
    rcases Result.bind_eq_ok_iff.mp step with ⟨node, performed, result⟩
    cases result
    rcases happens_of_perform bracketed.wellFormed enabled performed with ⟨ops, happens⟩
    exact ⟨ops, happens.announces, happens.announcing⟩

/-! ## Three runs -/

section

variable (env : Environment) (allowed : Host → Event → Prop) [∀ host, DecidablePred (allowed host)]

/-- The host after some events, if each was possible and allowed. -/
def run (events : List Event) : Option Host :=
  events.foldlM
    (Machine.carry (fun host event => allowed host event ∧ host.Enabled env event)
      fun host event => (host.perform env event).toOption)
    (initial (Uuid.filled 1) 0)

variable {env allowed}

theorem reachable_of_run {events : List Event} {result : Host}
    (ran : run env allowed events = some result) :
    ((machine env).under allowed).Reachable result := by
  have starts : ((machine env).under allowed).Reachable (initial (Uuid.filled 1) 0) :=
    .start ⟨Uuid.filled 1, 0, rfl⟩
  refine starts.foldlM ?_ ran
  intro before event next carried
  rcases Machine.carry_eq_some_iff.mp carried with ⟨⟨isAllowed, enabled⟩, performed⟩
  exact ⟨isAllowed, enabled, Result.toOption_eq_some_iff.mp performed⟩

end

/-- With a peer linked, a client is accepted and greeted, and it leaves. -/
def visit : List Event :=
  [.acceptTcp, .acceptWebsocket, .handshake 1 false, .removeSession (Uuid.filled 3)]

/-- The peer is told of both. -/
theorem announcements_bracketed_visit :
    ∃ host ∈ run countingEnvironment (RemovesSettled countingEnvironment) visit,
      host.told 0 (Uuid.filled 3) = [.join (Uuid.filled 3), .leave (Uuid.filled 3)] ∧
      host.history (Uuid.filled 3) <+: [.join (Uuid.filled 3), .leave (Uuid.filled 3)] ∧
      (host.history (Uuid.filled 3) ≠ [] → ∃ ref < host.node.allocated,
        (host.node.memory ref).origin = .client ∧ (host.node.memory ref).id = Uuid.filled 3) ∧
      (host.told 0 (Uuid.filled 3)).Sublist (host.history (Uuid.filled 3)) ∧
      ∀ event next, (machine countingEnvironment).step host event next →
        ∃ ops, Announces ops host.node next.node ∧
          (ops ≠ [] → host.Announcing countingEnvironment event) := by
  have ran : ∃ host ∈ run countingEnvironment (RemovesSettled countingEnvironment) visit,
      (host.node.memory 0).type = .tcp ∧
        host.told 0 (Uuid.filled 3) = [.join (Uuid.filled 3), .leave (Uuid.filled 3)] := by
    decide +kernel
  rcases ran with ⟨host, ran, tcp, whole⟩
  rcases announcements_bracketed (reachable_of_run ran) (Uuid.filled 3) with
    ⟨bracketed, hosted, told, reaches⟩
  exact ⟨host, ran, whole, bracketed, hosted, told 0 tcp, reaches⟩

/-- With a peer linked, the handshake of a client fails. -/
def refusal : List Event :=
  [.acceptTcp, .acceptWebsocket, .handshake 1 true]

/-- The join request for client `9…9`, as a peer sends it. -/
def joinFrame : Bytes :=
  match (({} : RequestBuilder).addJoin (Uuid.filled 9) (Uuid.filled 8)).getData true with
  | .ok data => data.drop 4
  | .error _ => []

/-- A peer announces its client `9…9` before all sessions are disconnected. -/
def echo : List Event :=
  [.acceptTcp, .frame 0 joinFrame, .disconnectAll]

/-- A client whose handshake fails is withdrawn without having been announced,
and the client of a peer is withdrawn by a node that never accepted it; the peer
is told so in both runs. -/
theorem announcements_unbalanced :
    (∃ host, (machine countingEnvironment).Reachable host ∧
        host.told 0 (Uuid.filled 3) = [.leave (Uuid.filled 3)] ∧
        host.history (Uuid.filled 3) = [.leave (Uuid.filled 3)] ∧
        ¬host.history (Uuid.filled 3) <+: [.join (Uuid.filled 3), .leave (Uuid.filled 3)]) ∧
      ∃ host, (machine countingEnvironment).Reachable host ∧
        host.told 0 (Uuid.filled 9) = [.leave (Uuid.filled 9)] ∧
        host.history (Uuid.filled 9) = [.leave (Uuid.filled 9)] ∧
        ∀ ref < host.node.allocated, (host.node.memory ref).origin ≠ .client := by
  have refused : ∃ host ∈ run countingEnvironment (fun _ _ => True) refusal,
      host.told 0 (Uuid.filled 3) = [.leave (Uuid.filled 3)] ∧
      host.history (Uuid.filled 3) = [.leave (Uuid.filled 3)] := by
    decide +kernel
  have echoed : ∃ host ∈ run countingEnvironment (fun _ _ => True) echo,
      host.told 0 (Uuid.filled 9) = [.leave (Uuid.filled 9)] ∧
      host.history (Uuid.filled 9) = [.leave (Uuid.filled 9)] ∧
      ∀ ref < host.node.allocated, (host.node.memory ref).origin ≠ .client := by
    decide +kernel
  rcases refused with ⟨refused, refusedRan, told, withdrawn⟩
  rcases echoed with ⟨echoed, echoedRan, others⟩
  constructor
  · refine ⟨refused, (reachable_of_run refusedRan).of_under, told, withdrawn, ?_⟩
    rw [withdrawn]
    decide
  · exact ⟨echoed, (reachable_of_run echoedRan).of_under, others⟩

end Host

end Aurum.Node
