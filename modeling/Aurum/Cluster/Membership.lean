import Aurum.Cluster.Frames
import Aurum.Node.Sections
import Mathlib.Data.Finset.Dedup
import Mathlib.Data.Finset.Erase
import Mathlib.Data.Finset.Insert

/-!
# The websocket sessions of one peer

The join and leave requests of a peer insert identifiers into a set and delete
them from it, and are answered with whether the identifier is registered, or
was.  Nothing else in the registry changes.
-/

namespace Aurum.Cluster

open Aurum.Protocol
open Aurum.Container
open Aurum.Node
open Aurum.Replication

/-! ## The set -/

namespace Members

/-- The identifiers registered after an operation. -/
def apply (held : Finset Uuid) : Op Uuid → Finset Uuid
  | .join id => insert id held
  | .leave id => held.erase id

/-- The count an operation is answered with. -/
def count (held : Finset Uuid) : Op Uuid → UInt64
  | .join _ => 1
  | .leave id => if id ∈ held then 1 else 0

end Members

/-- The identifiers sessions are registered under. -/
def ids (state : State) : Finset Uuid :=
  (state.sessions.map fun entry => entry.key.id).toFinset

theorem mem_ids_iff {state : State} {id : Uuid} :
    id ∈ ids state ↔ ∃ entry ∈ state.sessions, entry.key.id = id := by
  simp [ids]

theorem findById_isSome_iff {state : State} {id : Uuid} :
    (state.sessions.findById id).isSome ↔ id ∈ ids state := by
  rw [mem_ids_iff, Registry.findById]
  cases found : findUnique Key.id id state.sessions with
  | none =>
      have others := (findUnique_eq_none_iff Key.id id state.sessions).mp found
      simp only [Option.isSome_none, Bool.false_eq_true, false_iff, not_exists, not_and]
      exact others
  | some entry =>
      rcases mem_of_findUnique found with ⟨member, keyEq⟩
      simp only [Option.isSome_some, true_iff]
      exact ⟨entry, member, keyEq⟩

/-! ## The erase loop -/

/-- The erase loop stops when nothing is found. -/
theorem eraseFound_of_none {id : Uuid} {sessions : Registry} (absent : sessions.findById id = none)
    (fuel : Nat) (removed : UInt64) :
    Handlers.eraseFound id fuel sessions removed = (sessions, removed) := by
  cases fuel with
  | zero => rfl
  | succ fuel => rw [Handlers.eraseFound, absent]

/-- In a registry with distinct identifiers the erase loop finds one entry at
most, and however many rounds it may take, it ends after the next search. -/
theorem eraseFound_eq {id : Uuid} {sessions : Registry}
    (distinct : UniqueKeys Key.id sessions) (fuel : Nat) (removed : UInt64) :
    Handlers.eraseFound id (fuel + 1) sessions removed =
      (sessions.eraseById id,
        if (sessions.findById id).isSome then removed + 1 else removed) := by
  have gone : (sessions.eraseById id).findById id = none := by
    apply (findUnique_eq_none_iff Key.id id _).mpr
    intro entry member
    exact ((distinct.mem_eraseUnique_iff id entry).mp member).2
  rw [Handlers.eraseFound]
  cases found : sessions.findById id with
  | none =>
      have others := (findUnique_eq_none_iff Key.id id sessions).mp found
      have same : sessions.eraseById id = sessions := by
        apply List.eraseP_of_forall_not
        intro entry member
        simpa using others entry member
      simp [same]
  | some entry => simp [eraseFound_of_none gone]

/-! ## Requests -/

/-- A sub-message to be handled on a session, behind what is queued for the
reply already. -/
structure Request where
  session : Ref
  builder : ResponseBuilder
  message : Submessage

namespace Request

/-- The operation a join or a leave request asks for. -/
def op (request : Request) : Op Uuid :=
  let id := (Uuid.ofBytes (request.message.payload.take 16)).getD Uuid.nil
  if request.message.opcode = OpCode.join.byte then .join id else .leave id

/-- The reply with a count. -/
def reply (request : Request) (count : UInt64) : ResponseBuilder :=
  match request.op with
  | .join _ => request.builder.addJoin request.message.transactionId count
  | .leave _ => request.builder.addLeave request.message.transactionId count

/-- A join or a leave request with an identifier in its payload, on a TCP
session of a node. -/
structure From (node : Uuid) (state : State) (request : Request) : Prop where
  created : request.session < state.allocated
  tcp : (state.memory request.session).type = .tcp
  ofNode : (state.memory request.session).nodeId = node
  opcode : request.message.opcode = OpCode.join.byte ∨ request.message.opcode = OpCode.leave.byte
  typed : request.message.type = .request
  long : 16 ≤ request.message.payload.length

end Request

/-- Handle requests one after another; the builders of their replies and the
state left. -/
def serve (env : Environment) : List Request → State → Result (List ResponseBuilder × State)
  | [], state => .ok ([], state)
  | request :: requests, state => do
      let (builder, state) ← Kernel.invoke (handlers env request.session) request.message
        request.builder state
      let (builders, state) ← serve env requests state
      return (builder :: builders, state)

/-- The replies that a set answers requests with. -/
def replies : List Request → Finset Uuid → List ResponseBuilder
  | [], _ => []
  | request :: requests, held =>
      request.reply (Members.count held request.op) ::
        replies requests (Members.apply held request.op)

theorem Request.op_requests {node : Uuid} {state : State} {request : Request}
    (isFrom : request.From node state) : Requests request.message request.op := by
  have within : 0 + 16 ≤ request.message.payload.length := by
    simpa using isFrom.long
  rcases readUuid_of_le within with ⟨id, named, data⟩
  rw [List.drop_zero] at data
  have notResponse : request.message.type ≠ .response := by
    rw [isFrom.typed]
    decide
  have read : (Uuid.ofBytes (request.message.payload.take 16)).getD Uuid.nil = id := by
    rw [← data, Uuid.ofBytes_data]
    rfl
  unfold Requests op
  rw [read]
  rcases isFrom.opcode with isJoin | isLeave
  · rw [if_pos isJoin]
    exact ⟨isJoin, notResponse, named⟩
  · have notJoin : request.message.opcode ≠ OpCode.join.byte := by
      rw [isLeave]
      decide
    rw [if_neg notJoin]
    exact ⟨isLeave, notResponse, named⟩

/-! ## One request -/

/-- The session object that a join builds for a node. -/
def placeholder (node id : Uuid) : Session :=
  { websocketSession id (.joined node) with nodeId := node }

section Request

variable {env : Environment} {node : Uuid} {state : State} {request : Request}

theorem carryOut_join (id : Uuid) :
    carryOut env node state (.join id) = state.install env (placeholder node id) :=
  rfl

/-- A join registers its placeholder unless the identifier is taken. -/
theorem mem_carryOut_join_iff {id : Uuid} {entry : Entry} :
    entry ∈ (carryOut env node state (.join id)).sessions ↔
      entry ∈ state.sessions ∨
        (id ∉ ids state ∧ entry = ⟨state.allocated, (placeholder node id).key⟩) := by
  rw [carryOut_join]
  by_cases taken : id ∈ ids state
  · rcases mem_ids_iff.mp taken with ⟨holder, member, keyEq⟩
    have isTaken : holder.key.id = (placeholder node id).id := keyEq
    rw [State.install_of_taken env member isTaken]
    constructor
    · exact Or.inl
    · rintro (registered | ⟨free, _⟩)
      · exact registered
      · exact absurd taken free
  · have free : ∀ entry ∈ state.sessions, entry.key.id ≠ (placeholder node id).id :=
      fun holder member keyEq => taken (mem_ids_iff.mpr ⟨holder, member, keyEq⟩)
    rw [State.mem_install_iff env free]
    constructor
    · rintro (isNew | registered)
      · exact Or.inr ⟨taken, isNew⟩
      · exact Or.inl registered
    · rintro (registered | ⟨_, isNew⟩)
      · exact Or.inr registered
      · exact Or.inl isNew

/-- The registry follows the set. -/
theorem ids_carryOut (op : Op Uuid) :
    ids (carryOut env node state op) = Members.apply (ids state) op := by
  ext id
  cases op with
  | join joining =>
      rw [Members.apply, Finset.mem_insert, mem_ids_iff, mem_ids_iff]
      simp only [mem_carryOut_join_iff]
      constructor
      · rintro ⟨entry, registered | ⟨_, rfl⟩, keyEq⟩
        · exact Or.inr ⟨entry, registered, keyEq⟩
        · exact Or.inl keyEq.symm
      · rintro (rfl | ⟨entry, registered, keyEq⟩)
        · by_cases held : id ∈ ids state
          · rcases mem_ids_iff.mp held with ⟨entry, registered, keyEq⟩
            exact ⟨entry, Or.inl registered, keyEq⟩
          · exact ⟨_, Or.inr ⟨held, rfl⟩, rfl⟩
        · exact ⟨entry, Or.inl registered, keyEq⟩
  | leave leaving =>
      rw [Members.apply, Finset.mem_erase, mem_ids_iff, mem_ids_iff]
      simp only [carryOut, List.mem_filter, decide_eq_true_eq]
      constructor
      · rintro ⟨entry, ⟨member, differs⟩, rfl⟩
        exact ⟨differs, entry, member, rfl⟩
      · rintro ⟨differs, entry, member, rfl⟩
        exact ⟨entry, ⟨member, differs⟩, rfl⟩

/-- A request is carried out and answered with the count of its identifier. -/
theorem invoke_request (env : Environment) (wellFormed : WellFormed state)
    (isFrom : request.From node state) :
    Kernel.invoke (handlers env request.session) request.message request.builder state =
      .ok (request.reply (Members.count (ids state) request.op),
        carryOut env node state request.op) := by
  have requests := Request.op_requests isFrom
  have reads : ¬Ignored state request.session request.message.type request.message.payload := by
    rintro ((websocket | response) | short)
    · rw [isFrom.tcp] at websocket
      cases websocket
    · exact requests.2.1 response
    · exact Nat.not_lt.mpr isFrom.long short
  rcases requests with ⟨opcode, _, named⟩
  cases asked : request.op with
  | join id =>
      rw [asked] at opcode named
      have carried : ((state.buildPlaceholder request.session id).addSession env
          state.allocated).2 = carryOut env node state (.join id) := by
        rw [State.buildPlaceholder, State.setNodeId_allocate, isFrom.ofNode]
        rfl
      have counted : (carryOut env node state (.join id)).countFound id = 1 := by
        rw [State.countFound, if_pos]
        rw [findById_isSome_iff, ids_carryOut]
        exact Finset.mem_insert_self id (ids state)
      have joined := Handlers.join_sections env request.session request.message.type
        request.builder request.message.transactionId request.message.payload state
      rw [if_neg reads, named] at joined
      simp only [Op.item, bind, Except.bind, carried, counted] at joined
      rw [Kernel.invoke, handlers, opcode, Request.reply, asked]
      exact joined
  | leave id =>
      rw [asked] at opcode named
      have counted : (state.takeOutAll id).1 = Members.count (ids state) (.leave id) := by
        rw [State.takeOutAll, eraseFound_eq wellFormed.distinct]
        simp only [Members.count, findById_isSome_iff]
        rfl
      have carried : (state.takeOutAll id).2 = carryOut env node state (.leave id) := by
        simp only [State.takeOutAll, carryOut]
        rw [Handlers.eraseFound_fst id 0 (Nat.lt_succ_self _)]
      have left := Handlers.leave_sections request.session request.message.type
        request.builder request.message.transactionId request.message.payload state
      rw [if_neg reads, named] at left
      simp only [Op.item, bind, Except.bind, carried, counted] at left
      rw [Kernel.invoke, handlers, opcode, Request.reply, asked]
      exact left

theorem carryOut_allocated (op : Op Uuid) :
    state.allocated ≤ (carryOut env node state op).allocated := by
  cases op with
  | join id => exact Nat.le_succ _
  | leave id => exact Nat.le_refl _

/-- Session objects that exist stay as they are. -/
theorem carryOut_memory (op : Op Uuid) {ref : Ref} (older : ref < state.allocated) :
    (carryOut env node state op).memory ref = state.memory ref := by
  cases op with
  | join id =>
      rw [carryOut_join]
      exact State.install_memory_of_lt env (placeholder node id) older
  | leave id => rfl

theorem wellFormed_carryOut (wellFormed : WellFormed state) (op : Op Uuid) :
    WellFormed (carryOut env node state op) := by
  cases op with
  | join id => exact wellFormed.install env fun _ _ => rfl
  | leave id => exact (closed_wellFormed env).erase _ List.filter_sublist wellFormed

/-- Sessions registered under other identifiers stay registered. -/
theorem mem_carryOut_iff {op : Op Uuid} {entry : Entry} (other : entry.key.id ≠ op.item) :
    entry ∈ (carryOut env node state op).sessions ↔ entry ∈ state.sessions := by
  cases op with
  | join id =>
      rw [mem_carryOut_join_iff]
      constructor
      · rintro (registered | ⟨_, rfl⟩)
        · exact registered
        · exact absurd rfl other
      · exact Or.inl
  | leave id =>
      have differs : entry.key.id ≠ id := other
      simp [carryOut, differs]

/-- Whatever is registered anew is a placeholder. -/
theorem mem_carryOut {op : Op Uuid} {entry : Entry}
    (member : entry ∈ (carryOut env node state op).sessions) :
    entry ∈ state.sessions ∨ (entry.elem = state.allocated ∧
      (carryOut env node state op).memory entry.elem = placeholder node op.item) := by
  cases op with
  | join id =>
      rcases mem_carryOut_join_iff.mp member with registered | ⟨_, rfl⟩
      · exact Or.inl registered
      · exact Or.inr ⟨rfl, State.install_memory_self env (placeholder node id) state⟩
  | leave id => exact Or.inl (List.mem_of_mem_filter member)

/-- A session stays a TCP session of its node. -/
theorem Request.From.carryOut (isFrom : request.From node state) (op : Op Uuid) :
    request.From node (carryOut env node state op) where
  created := isFrom.created.trans_le (carryOut_allocated op)
  tcp := by
    rw [carryOut_memory op isFrom.created]
    exact isFrom.tcp
  ofNode := by
    rw [carryOut_memory op isFrom.created]
    exact isFrom.ofNode
  opcode := isFrom.opcode
  typed := isFrom.typed
  long := isFrom.long

end Request

/-! ## Any number of requests -/

/-- The requests of a node have been carried out on its registered sessions. -/
structure Served (node : Uuid) (requests : List Request) (state final : State) : Prop where
  grows : state.allocated ≤ final.allocated
  /-- The identifiers registered follow the set. -/
  registered : ids final = (requests.map Request.op).foldl Members.apply (ids state)
  /-- Other identifiers stay registered for the same session objects. -/
  others : ∀ entry, (∀ request ∈ requests, entry.key.id ≠ request.op.item) →
    (entry ∈ final.sessions ↔ entry ∈ state.sessions)
  /-- No session object that existed before is touched. -/
  objects : ∀ ref < state.allocated, final.memory ref = state.memory ref
  /-- Whatever is registered anew is a placeholder of the node. -/
  added : ∀ entry ∈ final.sessions, entry ∈ state.sessions ∨ (state.allocated ≤ entry.elem ∧
    ∃ id, final.memory entry.elem = placeholder node id)

section Serve

variable {env : Environment} {node : Uuid} {state middle final : State} {request : Request}
  {requests : List Request}

theorem Served.refl (node : Uuid) (state : State) : Served node [] state state where
  grows := Nat.le_refl _
  registered := rfl
  others := fun _ _ => Iff.rfl
  objects := fun _ _ => rfl
  added := fun _ member => Or.inl member

/-- One request, and those behind it. -/
theorem Served.cons (wellFormed : WellFormed state)
    (served : Served node requests (carryOut env node state request.op) final) :
    Served node (request :: requests) state final where
  grows := (carryOut_allocated request.op).trans served.grows
  registered := by
    rw [served.registered, ids_carryOut]
    rfl
  others := by
    intro entry differs
    rw [served.others entry fun later member => differs later (List.mem_cons_of_mem _ member)]
    exact mem_carryOut_iff (differs request List.mem_cons_self)
  objects := by
    intro ref older
    rw [served.objects ref (older.trans_le (carryOut_allocated request.op))]
    exact carryOut_memory request.op older
  added := by
    intro entry member
    rcases served.added entry member with registered | ⟨newer, placed⟩
    · have created := (wellFormed_carryOut wellFormed request.op).allocated entry registered
      rcases mem_carryOut registered with older | ⟨isNew, placed⟩
      · exact Or.inl older
      · rw [← served.objects entry.elem created] at placed
        exact Or.inr ⟨isNew.ge, _, placed⟩
    · exact Or.inr ⟨(carryOut_allocated request.op).trans newer, placed⟩

/-- Any sequence of requests of a node is served. -/
theorem serve_eq (wellFormed : WellFormed state)
    (asked : ∀ request ∈ requests, request.From node state) :
    ∃ final, serve env requests state = .ok (replies requests (ids state), final) ∧
      WellFormed final ∧ Served node requests state final := by
  induction requests generalizing state with
  | nil => exact ⟨state, rfl, wellFormed, Served.refl node state⟩
  | cons request requests ih =>
      have first := invoke_request env wellFormed (asked request List.mem_cons_self)
      have later : ∀ other ∈ requests, other.From node (carryOut env node state request.op) :=
        fun other member => (asked other (List.mem_cons_of_mem _ member)).carryOut request.op
      rcases ih (wellFormed_carryOut wellFormed request.op) later with
        ⟨final, rest, finalFormed, served⟩
      refine ⟨final, ?_, finalFormed, Served.cons wellFormed served⟩
      rw [ids_carryOut] at rest
      rw [serve, first]
      simp only [bind, Except.bind, rest]
      rfl

end Serve

/-- From any state reached, the requests of one node insert identifiers into
the set of those registered and delete them from it, and are answered from that
set: a join with one, a leave with whether its identifier was registered.
Whatever came before, a repeated join leaves the registry and all session
objects as they are, and the erase loop of a leave ends, with nothing left to be
found, however many more rounds it may take. -/
theorem joins_and_leaves_refine {env : Environment} {node : Uuid} {state : State}
    (reachable : (Node.machine env).Reachable state) {requests : List Request}
    (asked : ∀ request ∈ requests, request.From node state) :
    ∃ final, serve env requests state = .ok (replies requests (ids state), final) ∧
      Served node requests state final ∧
      (∀ request : Request, request.From node final → ∀ id, request.op = .join id →
        id ∈ ids final → ∃ next, Kernel.invoke (handlers env request.session) request.message
            request.builder final = .ok (request.reply 1, next) ∧
          next.sessions = final.sessions ∧
          ∀ ref < final.allocated, next.memory ref = final.memory ref) ∧
      ∀ id fuel removed, Handlers.eraseFound id (fuel + 1) final.sessions removed =
          Handlers.eraseFound id 1 final.sessions removed ∧
        (Handlers.eraseFound id 1 final.sessions removed).1.findById id = none := by
  rcases serve_eq (wellFormed_of_reachable reachable) asked with
    ⟨final, ran, finalFormed, served⟩
  refine ⟨final, ran, served, ?_, ?_⟩
  · intro request isFrom id joins held
    have handled := invoke_request env finalFormed isFrom
    rw [joins] at handled
    rcases mem_ids_iff.mp held with ⟨entry, member, keyEq⟩
    refine ⟨_, handled, ?_, ?_⟩
    · rw [carryOut_join]
      exact State.install_of_taken env member keyEq
    · intro ref older
      exact carryOut_memory (.join id) older
  · intro id fuel removed
    rw [eraseFound_eq finalFormed.distinct, eraseFound_eq finalFormed.distinct 0]
    refine ⟨rfl, ?_⟩
    apply (findUnique_eq_none_iff Key.id id _).mpr
    intro entry member
    exact ((finalFormed.distinct.mem_eraseUnique_iff id entry).mp member).2

/-- A join or a leave request on the first session of a node. -/
def onFirst (opcode : OpCode) (id : Uuid) : Request :=
  ⟨0, {}, ⟨opcode.byte, .request, Uuid.nil, id.data⟩⟩

/-- A peer joins twice and leaves twice with one identifier. -/
def joinsAndLeaves : List Request :=
  [onFirst .join (Uuid.filled 9), onFirst .join (Uuid.filled 9), onFirst .leave (Uuid.filled 9),
    onFirst .leave (Uuid.filled 9)]

theorem joins_and_leaves_refine_twice :
    ∃ final, serve stillEnvironment joinsAndLeaves oneLink = .ok
        ([({} : ResponseBuilder).addJoin Uuid.nil 1, ({} : ResponseBuilder).addJoin Uuid.nil 1,
          ({} : ResponseBuilder).addLeave Uuid.nil 1, ({} : ResponseBuilder).addLeave Uuid.nil 0],
          final) ∧
      Served Uuid.nil joinsAndLeaves oneLink final := by
  have asked : ∀ request ∈ joinsAndLeaves, request.From Uuid.nil oneLink := by
    intro request member
    simp only [joinsAndLeaves, List.mem_cons, List.not_mem_nil, or_false] at member
    rcases member with rfl | rfl | rfl | rfl <;>
      exact ⟨by decide, rfl, rfl, by decide, rfl, by decide⟩
  rcases joins_and_leaves_refine oneLink_reachable asked with ⟨final, ran, served, _⟩
  have answered : replies joinsAndLeaves (ids oneLink) =
      [({} : ResponseBuilder).addJoin Uuid.nil 1, ({} : ResponseBuilder).addJoin Uuid.nil 1,
        ({} : ResponseBuilder).addLeave Uuid.nil 1,
        ({} : ResponseBuilder).addLeave Uuid.nil 0] := by
    decide
  rw [answered] at ran
  exact ⟨final, ran, served⟩

end Aurum.Cluster
