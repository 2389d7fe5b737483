import Aurum.Cluster.Clients

/-!
# What holds along every run

The links stay linked, B's registry agrees with how far it is with each of its
clients, every frame on its way to A is the join or leave of a client, and A
has nothing but placeholders of B registered under the identifiers of clients.
-/

namespace Aurum.Cluster

open Aurum.Protocol
open Aurum.Container
open Aurum.Node
open Aurum.Replication
open Aurum.Transition

namespace Pair

def status (pair : Pair) (id : Uuid) : Status :=
  (pair.phase id).status

theorem status_setPhase (id : Uuid) (phase : Phase) (pair : Pair) :
    (pair.setPhase id phase).status = Function.update pair.status id phase.status := by
  funext other
  by_cases same : other = id
  · subst same
    simp [status, setPhase]
  · simp [status, setPhase, same]

end Pair

/-- A message and targets chosen for the broadcast of an operation. -/
structure Chosen (b : State) (far : Ref → Option Ref) (op : Op Uuid) (message : Bytes)
    (targets : List Ref) : Prop where
  nonempty : message ≠ []
  carries : opOf message = some op
  created : ∀ target ∈ targets, target < b.allocated
  reaches : ∃ target ∈ targets, (far target).isSome

theorem chosenPhase_inj {op other : Op Uuid} {message text : Bytes} {targets refs : List Ref}
    (item : op.item = other.item)
    (equal : chosenPhase op message targets = chosenPhase other text refs) :
    op = other ∧ message = text ∧ targets = refs := by
  cases op <;> cases other <;> cases equal <;> cases item <;> exact ⟨rfl, rfl, rfl⟩

structure Invariant (pair : Pair) : Prop where
  linked : Linked pair.a pair.b pair.far
  clients : Clients pair.status pair.object pair.b
  placed : ∀ entry ∈ pair.a.sessions, pair.status entry.key.id ≠ .absent →
    (pair.a.memory entry.elem).type = .websocket ∧
      (pair.a.memory entry.elem).nodeId = pair.b.nodeId
  travelling : ∀ near, (pair.far near).isSome → ∀ frame ∈ pair.pending near,
    ∃ op, opOf frame = some op ∧ pair.status op.item ≠ .absent
  chosen : ∀ op message targets, pair.phase op.item = chosenPhase op message targets →
    Chosen pair.b pair.far op message targets
  answers : ∀ near, ∀ frame ∈ pair.back near, Answers frame

namespace Invariant

variable {pair : Pair} {envA envB : Environment}

theorem start (identified : pair.Identified) : Invariant pair := by
  have absent : ∀ id, pair.status id = .absent := by
    intro id
    rw [Pair.status, identified.absent id]
    rfl
  have nothing : ∀ near, pair.pending near = [] := by
    intro near
    obtain ⟨noFrame, noneRead, _⟩ := identified.idle near
    rw [Pair.pending, noFrame, noneRead]
    rfl
  constructor
  · exact identified.linked
  · constructor
    · exact fun id known => absurd (absent id) known
    · exact fun id listed => absurd (absent id) listed.ne_absent
    · exact fun entry member isClient => absurd isClient (identified.noClient entry member)
    · intro id connecting
      rw [absent id] at connecting
      cases connecting
    · intro id connected
      rw [absent id] at connected
      cases connected
  · exact fun entry _ known => absurd (absent entry.key.id) known
  · intro near _ frame member
    rw [nothing near] at member
    cases member
  · intro op message targets chosen
    rw [identified.absent op.item] at chosen
    cases op <;> cases chosen
  · intro near frame member
    rw [(identified.idle near).2.2] at member
    cases member

/-- A further link comes up. -/
theorem linkUp (invariant : Invariant pair) (freshAtB : Fresh (pair.a.nextUuid envA) pair.b)
    (freshA : Fresh (pair.a.nextUuid envA) pair.a)
    (freshB : Fresh (pair.b.nextUuid envB) pair.b) : Invariant (pair.linkUp envA envB) := by
  have formedA := invariant.linked.formedA
  have formedB := invariant.linked.formedB
  constructor
  · exact invariant.linked.linkUp freshB
  · refine invariant.clients.grow formedB (Nat.le_succ _)
      (fun ref older => openLink_memory_of_lt older) ?_ ?_
    · exact fun entry member => (mem_openLink_iff formedB freshB _).mpr (Or.inr member)
    · intro entry member
      rcases (mem_openLink_iff formedB freshB _).mp member with rfl | old
      · right
        change ((openLink envB pair.a.nodeId pair.b).memory pair.b.allocated).origin ≠ .client
        rw [openLink_memory_self]
        exact Origin.noConfusion
      · exact Or.inl old
  · intro entry member known
    rcases (mem_openLink_iff formedA freshA _).mp member with rfl | old
    · exact absurd (invariant.clients.absent_of_fresh freshAtB) known
    · change ((openLink envA pair.b.nodeId pair.a).memory entry.elem).type = _ ∧
        ((openLink envA pair.b.nodeId pair.a).memory entry.elem).nodeId = _
      rw [openLink_memory_of_lt (formedA.allocated entry old)]
      exact invariant.placed entry old known
  · intro near isLink frame member
    by_cases isNew : near = pair.b.allocated
    · subst isNew
      simp [Pair.pending, Pair.linkUp] at member
    · simp only [Pair.linkUp, Pair.pending, Function.update_of_ne isNew] at isLink member
      exact invariant.travelling near isLink frame member
  · intro op message targets chosen
    obtain ⟨nonempty, carries, created, target, member, isLink⟩ :=
      invariant.chosen op message targets chosen
    refine ⟨nonempty, carries, fun other among => Nat.lt_succ_of_lt (created other among),
      target, member, ?_⟩
    simp only [Pair.linkUp, Function.update_of_ne (Nat.ne_of_lt (created target member))]
    exact isLink
  · intro near frame member
    by_cases isNew : near = pair.b.allocated
    · subst isNew
      simp [Pair.linkUp] at member
    · simp only [Pair.linkUp, Function.update_of_ne isNew] at member
      exact invariant.answers near frame member

/-- A step of B with one of its clients. -/
theorem advance (invariant : Invariant pair) (next : State) (id : Uuid) (phase : Phase)
    (object : Uuid → Ref) (extends_ : Extends pair.b next) (formed : WellFormed next)
    (kept : ∀ entry ∈ pair.b.sessions, (pair.b.memory entry.elem).type = .tcp →
      entry ∈ next.sessions)
    (added : ∀ entry ∈ next.sessions, entry ∈ pair.b.sessions ∨
      (next.memory entry.elem).type = .websocket)
    (clients : Clients (Function.update pair.status id phase.status) object next)
    (known : phase.status ≠ .absent)
    (free : pair.status id = .absent → ∀ entry ∈ pair.a.sessions, entry.key.id ≠ id)
    (sent : ∀ near, ∀ frame ∈ carried pair.b next near, ∃ op, opOf frame = some op ∧ op.item = id)
    (chosen : ∀ op message targets, op.item = id → phase = chosenPhase op message targets →
      Chosen pair.b pair.far op message targets) :
    Invariant { (pair.setB next).setPhase id phase with object := object } := by
  have statusEq : ({ (pair.setB next).setPhase id phase with object := object } : Pair).status =
      Function.update pair.status id phase.status :=
    Pair.status_setPhase id phase (pair.setB next)
  have stillKnown : ∀ {other}, pair.status other ≠ .absent →
      Function.update pair.status id phase.status other ≠ .absent := by
    intro other otherKnown
    by_cases same : other = id
    · rw [same, Function.update_self]
      exact known
    · rwa [Function.update_of_ne same]
  constructor
  · exact invariant.linked.extend (.refl pair.a) invariant.linked.formedA extends_ formed kept
      added
  · rw [statusEq]
    exact clients
  · intro entry member otherKnown
    rw [statusEq] at otherKnown
    change _ ∧ _ = next.nodeId
    rw [extends_.nodeId]
    apply invariant.placed entry member
    by_cases same : entry.key.id = id
    · intro absent
      rw [same] at absent
      exact free absent entry member same
    · rwa [Function.update_of_ne same] at otherKnown
  · intro near isLink frame member
    rw [statusEq]
    rcases List.mem_append.mp member with read | onWire
    · obtain ⟨op, carries, opKnown⟩ := invariant.travelling near isLink frame
        (List.mem_append_left _ read)
      exact ⟨op, carries, stillKnown opKnown⟩
    · rcases List.mem_append.mp onWire with old | new
      · obtain ⟨op, carries, opKnown⟩ := invariant.travelling near isLink frame
          (List.mem_append_right _ old)
        exact ⟨op, carries, stillKnown opKnown⟩
      · obtain ⟨op, carries, rfl⟩ := sent near frame new
        exact ⟨op, carries, by rwa [Function.update_self]⟩
  · intro op message targets isChosen
    have before : Chosen pair.b pair.far op message targets := by
      by_cases same : op.item = id
      · have phaseEq : phase = chosenPhase op message targets := by
          rw [← isChosen, same]
          exact (Pair.setPhase_self id phase (pair.setB next)).symm
        exact chosen op message targets same phaseEq
      · refine invariant.chosen op message targets ?_
        rw [← isChosen]
        exact (Function.update_of_ne same phase pair.phase).symm
    exact ⟨before.nonempty, before.carries,
      fun target member => Nat.lt_of_lt_of_le (before.created target member) extends_.grows,
      before.reaches⟩
  · exact invariant.answers

/-- A step of B with one of its clients that leaves sessions and registry alone
and the client at the same status. -/
theorem advance_quiet (invariant : Invariant pair) {next : State} {id : Uuid} {phase : Phase}
    (nodeId : next.nodeId = pair.b.nodeId) (memory : next.memory = pair.b.memory)
    (allocated : next.allocated = pair.b.allocated) (sessions : next.sessions = pair.b.sessions)
    (same : phase.status = pair.status id) (known : phase.status ≠ .absent)
    (sent : ∀ near, ∀ frame ∈ carried pair.b next near, ∃ op, opOf frame = some op ∧ op.item = id)
    (chosen : ∀ op message targets, op.item = id → phase = chosenPhase op message targets →
      Chosen pair.b pair.far op message targets) :
    Invariant ((pair.setB next).setPhase id phase) := by
  have formed := (closed_wellFormed stillEnvironment).quiet invariant.linked.formedB nodeId memory
    allocated sessions
  refine invariant.advance next id phase pair.object (.of_memory nodeId allocated memory) formed
    ?_ ?_ ?_ known ?_ sent
    chosen
  · rw [sessions]
    exact fun entry member _ => member
  · rw [sessions]
    exact fun entry member => Or.inl member
  · rw [same, Function.update_eq_self]
    exact invariant.clients.quiet memory allocated sessions
  · intro absent
    rw [same] at known
    exact absurd absent known

theorem connects (invariant : Invariant pair) (freshA : Fresh (pair.b.nextUuid envB) pair.a)
    (freshB : Fresh (pair.b.nextUuid envB) pair.b) : Invariant (pair.connects envB) := by
  have formed := invariant.linked.formedB
  have registered := State.mem_acceptWebsocket_iff envB (formed.free_of_fresh freshB)
  refine invariant.advance (pair.b.acceptWebsocket envB) (pair.b.nextUuid envB) .connecting _
    (.acceptWebsocket envB pair.b) ((closed_wellFormed envB).acceptWebsocket formed) ?_ ?_
    (invariant.clients.connects formed freshB) Status.noConfusion ?_ ?_ ?_
  · exact fun entry member _ => (registered entry).mpr (Or.inr member)
  · intro entry member
    rcases (registered entry).mp member with rfl | old
    · right
      rw [State.acceptWebsocket_memory_self]
      rfl
    · exact Or.inl old
  · exact fun _ => invariant.linked.formedA.free_of_fresh freshA
  · exact fun near frame member => absurd member
      (Pair.not_mem_carried (State.acceptWebsocket_sent envB pair.b))
  · intro op message targets _ isChosen
    cases op <;> cases isChosen

theorem opens (invariant : Invariant pair) {id : Uuid}
    (connecting : pair.phase id = .connecting) :
    Invariant ((pair.setB (pair.b.setOpen (pair.object id) true)).setPhase id .joining) := by
  have formed := invariant.linked.formedB
  have isConnecting : pair.status id = .connecting := by
    rw [Pair.status, connecting]
    rfl
  refine invariant.advance (pair.b.setOpen (pair.object id) true) id .joining pair.object
    (.setOpen (pair.object id) true pair.b)
    ((closed_wellFormed stillEnvironment).setOpen (pair.object id) true formed) ?_ ?_
    (invariant.clients.opens formed isConnecting) Status.noConfusion ?_ ?_ ?_
  · exact fun entry member _ => member
  · exact fun entry member => Or.inl member
  · intro absent
    rw [isConnecting] at absent
    cases absent
  · exact fun near frame member => absurd member (Pair.not_mem_carried rfl)
  · intro op message targets _ isChosen
    cases op <;> cases isChosen

/-- The registered session of a client is the one unregistered. -/
theorem unregister_eq (invariant : Invariant pair) {id : Uuid}
    (listed : (pair.status id).Listed) :
    pair.unregister id =
      (pair.setB (State.closeStream (pair.object id)
        { pair.b with sessions := pair.b.sessions.eraseById id })).setPhase id .leaving := by
  obtain ⟨entry, found, isObject⟩ := invariant.clients.find invariant.linked.formedB listed
  rw [Pair.unregister, found]
  simp only [isObject]

theorem closes (invariant : Invariant pair) {id : Uuid} (listed : (pair.status id).Listed) :
    Invariant (pair.unregister id) := by
  have formed := invariant.linked.formedB
  let erased : State := { pair.b with sessions := pair.b.sessions.eraseById id }
  have remaining : ∀ entry, entry ∈ (erased.closeStream (pair.object id)).sessions ↔
      entry ∈ pair.b.sessions ∧ entry.key.id ≠ id := by
    intro entry
    rw [State.closeStream_sessions]
    exact formed.distinct.mem_eraseUnique_iff id entry
  have closedExtends := Extends.closeStream (pair.object id) erased
  rw [invariant.unregister_eq listed]
  have shrunk : WellFormed erased := (closed_wellFormed stillEnvironment).erase _
    (eraseUnique_sublist Key.id id pair.b.sessions) formed
  refine invariant.advance (erased.closeStream (pair.object id)) id .leaving pair.object
    ⟨closedExtends.nodeId, closedExtends.grows, closedExtends.same⟩
    ((closed_wellFormed stillEnvironment).closeStream (pair.object id) shrunk)
    ?_ ?_ (invariant.clients.closes formed listed) Status.noConfusion ?_ ?_ ?_
  · -- A TCP session is not the session of the client.
    intro entry member tcp
    refine (remaining entry).mpr ⟨member, ?_⟩
    intro keyEq
    obtain ⟨found, foundEq, isObject⟩ := invariant.clients.find formed listed
    have same := formed.distinct.findUnique_of_mem member
    rw [keyEq] at same
    change pair.b.sessions.findById id = some entry at same
    rw [foundEq] at same
    cases same
    rw [isObject, (invariant.clients.created id listed.ne_absent).2.2.1] at tcp
    cases tcp
  · exact fun entry member => Or.inl ((remaining entry).mp member).1
  · exact fun absent => absurd absent listed.ne_absent
  · intro near frame member
    have same : (erased.closeStream (pair.object id)).sent = pair.b.sent :=
      State.closeStream_sent (pair.object id) erased
    exact absurd member (Pair.not_mem_carried same)
  · intro op message targets _ isChosen
    cases op <;> cases isChosen

theorem listed_of_active {id : Uuid}
    (active : pair.phase id = .connecting ∨ pair.phase id = .joined) :
    (pair.status id).Listed := by
  rcases active with connecting | joined
  · exact Or.inl (by rw [Pair.status, connecting]; rfl)
  · exact Or.inr (by rw [Pair.status, joined]; rfl)

theorem status_ready (op : Op Uuid) : (readyPhase op).status = (donePhase op).status := by
  cases op <;> rfl

theorem status_chosen (op : Op Uuid) (message : Bytes) (targets : List Ref) :
    (chosenPhase op message targets).status = (donePhase op).status := by
  cases op <;> rfl

theorem status_done (op : Op Uuid) : (donePhase op).status ≠ .absent := by
  cases op <;> exact Status.noConfusion

/-- The targets of a broadcast are chosen. -/
theorem chooses (invariant : Invariant pair) {op : Op Uuid} {message : Bytes}
    (ready : pair.phase op.item = readyPhase op) (nonempty : message ≠ [])
    (carries : opOf message = some op) :
    Invariant ((pair.setB pair.b.draw).setPhase op.item (chosenPhase op message pair.targets)) := by
  have same : (chosenPhase op message pair.targets).status = pair.status op.item := by
    rw [Pair.status, ready, status_chosen, status_ready]
  refine invariant.advance_quiet rfl rfl rfl rfl same ?_ ?_ ?_
  · rw [status_chosen]
    exact status_done op
  · exact fun near frame member => absurd member (Pair.not_mem_carried rfl)
  · intro other text targets item isChosen
    obtain ⟨rfl, rfl, rfl⟩ := chosenPhase_inj item.symm isChosen
    exact ⟨nonempty, carries, fun target member => invariant.linked.target_allocated member,
      invariant.linked.exists_target⟩

/-- The message of a broadcast is sent. -/
theorem sends (invariant : Invariant pair) {op : Op Uuid} {message : Bytes} {targets : List Ref}
    (chosen : pair.phase op.item = chosenPhase op message targets) :
    Invariant ((pair.sendAll message targets).setPhase op.item (donePhase op)) := by
  have same : (donePhase op).status = pair.status op.item := by
    rw [Pair.status, chosen, status_chosen]
  have sent := State.foldl_send_eq message targets
    { pair.b with broadcast := pair.b.broadcast ++ [message] }
  refine invariant.advance_quiet ?_ ?_ ?_ ?_ same (status_done op) ?_ ?_
  · rw [sent]
  · rw [sent]
  · rw [sent]
  · rw [sent]
  · intro near frame member
    rw [Pair.carried_of_append (by rw [sent])] at member
    obtain ⟨⟨target, text⟩, among, rfl⟩ := List.mem_map.mp member
    obtain ⟨other, _, equal⟩ := List.mem_map.mp (List.mem_of_mem_filter among)
    cases equal
    exact ⟨op, (invariant.chosen op message targets chosen).carries, rfl⟩
  · intro other text refs _ isChosen
    cases op <;> cases other <;> cases isChosen

/-! ## Steps of A and of the links -/

/-- What A makes of the frame it has read on a link. -/
theorem receive_eq (invariant : Invariant pair) (envA : Environment) {near far : Ref}
    {frame : Bytes} (link : pair.far near = some far) (next : pair.handling near = some frame) :
    ∃ (op : Op Uuid) (replies : List Bytes),
      (opOf frame = some op ∧ pair.status op.item ≠ .absent) ∧ (∀ reply ∈ replies, Answers reply) ∧
        pair.a.receive envA far (frame.drop 4) =
          { carryOut envA pair.b.nodeId pair.a op with
            sent := pair.a.sent ++ replies.map fun reply => (far, reply) } := by
  obtain ⟨_, tcp, tagged⟩ := invariant.linked.farEnd near far link
  have isLink : (pair.far near).isSome := by simp [link]
  obtain ⟨op, carries, known⟩ := invariant.travelling near isLink frame
    (by simp [Pair.pending, next])
  have received := receive_op envA tcp carries
  rw [tagged] at received
  rcases received with ⟨replies, isAnswer, equal⟩
  exact ⟨op, replies, ⟨carries, known⟩, isAnswer, equal⟩

theorem reads (invariant : Invariant pair) {near : Ref} {frame : Bytes} {rest : List Bytes}
    (idle : pair.handling near = none) (next : pair.wire near = frame :: rest) :
    Invariant { pair with
      wire := Function.update pair.wire near rest
      handling := Function.update pair.handling near (some frame) } := by
  refine ⟨invariant.linked, invariant.clients, invariant.placed, ?_, invariant.chosen,
    invariant.answers⟩
  rw [Pair.pending_read idle next]
  exact invariant.travelling

/-- Carrying out an operation keeps what A has registered under the identifiers
of clients. -/
theorem placed_carryOut {env : Environment} {node : Uuid} {state : State} (known : Uuid → Prop)
    (formed : WellFormed state)
    (placed : ∀ entry ∈ state.sessions, known entry.key.id →
      (state.memory entry.elem).type = .websocket ∧ (state.memory entry.elem).nodeId = node)
    (op : Op Uuid) :
    ∀ entry ∈ (carryOut env node state op).sessions, known entry.key.id →
      ((carryOut env node state op).memory entry.elem).type = .websocket ∧
        ((carryOut env node state op).memory entry.elem).nodeId = node := by
  cases op with
  | join id =>
      let session : Session := { websocketSession id (.joined node) with nodeId := node }
      change ∀ entry ∈ (state.install env session).sessions, _ →
        ((state.install env session).memory entry.elem).type = .websocket ∧
          ((state.install env session).memory entry.elem).nodeId = node
      intro entry member isKnown
      have old : entry ∈ state.sessions →
          ((state.install env session).memory entry.elem).type = .websocket ∧
            ((state.install env session).memory entry.elem).nodeId = node := by
        intro registered
        rw [State.install_memory_of_lt env session (formed.allocated entry registered)]
        exact placed entry registered isKnown
      by_cases taken : ∃ other ∈ state.sessions, other.key.id = session.id
      · rcases taken with ⟨other, registered, keyEq⟩
        rw [State.install_of_taken env registered keyEq] at member
        exact old member
      · have free : ∀ other ∈ state.sessions, other.key.id ≠ session.id :=
          fun other registered keyEq => taken ⟨other, registered, keyEq⟩
        rcases (State.mem_install_iff env free entry).mp member with rfl | registered
        · rw [State.install_memory_self]
          exact ⟨rfl, rfl⟩
        · exact old registered
  | leave id => exact fun entry member => placed entry (List.mem_of_mem_filter member)

theorem extends_carryOut (env : Environment) (node : Uuid) (state : State) (op : Op Uuid) :
    Extends state (carryOut env node state op) := by
  cases op with
  | join id => exact Extends.install env _ state
  | leave id => exact .of_memory rfl rfl rfl

/-- A handles a frame of a link. -/
theorem handles (invariant : Invariant pair) {near far : Ref} {frame : Bytes}
    (link : pair.far near = some far) (next : pair.handling near = some frame) :
    Invariant { pair with
      a := pair.a.receive envA far (frame.drop 4)
      handling := Function.update pair.handling near none
      back := Function.update pair.back near
        (pair.back near ++ carried pair.a (pair.a.receive envA far (frame.drop 4)) far) } := by
  have formed := invariant.linked.formedA
  have stillFormed : WellFormed (pair.a.receive envA far (frame.drop 4)) :=
    (closed_wellFormed envA).receive (fun _ _ before id _ => before.setNodeId far id) formed
  obtain ⟨op, replies, known, isAnswer, received⟩ := invariant.receive_eq envA link next
  have extends_ := extends_carryOut envA pair.b.nodeId pair.a op
  constructor
  · refine invariant.linked.extend ?_ stillFormed (.refl pair.b) invariant.linked.formedB
      (fun entry member _ => member) (fun entry member => Or.inl member)
    rw [received]
    exact ⟨extends_.nodeId, extends_.grows, extends_.same⟩
  · exact invariant.clients
  · rw [received]
    exact placed_carryOut (pair.status · ≠ .absent) formed invariant.placed op
  · intro other isLink waiting member
    refine invariant.travelling other isLink waiting ?_
    by_cases same : other = near
    · subst same
      simp only [Pair.pending, Function.update_self] at member
      exact List.mem_append_right _ member
    · simpa only [Pair.pending, Function.update_of_ne same] using member
  · exact invariant.chosen
  · intro other reply member
    by_cases same : other = near
    · subst same
      simp only [Function.update_self] at member
      rcases List.mem_append.mp member with old | new
      · exact invariant.answers other reply old
      · rw [Pair.carried_of_append (by rw [received])] at new
        obtain ⟨⟨target, text⟩, among, rfl⟩ := List.mem_map.mp new
        obtain ⟨answer, isReply, equal⟩ := List.mem_map.mp (List.mem_of_mem_filter among)
        cases equal
        exact isAnswer _ isReply
    · simp only [Function.update_of_ne same] at member
      exact invariant.answers other reply member

/-- B handles an answer of A. -/
theorem answered (invariant : Invariant pair) {near : Ref} {frame : Bytes} {rest : List Bytes}
    (next : pair.back near = frame :: rest) :
    Invariant { pair.setB (pair.b.receive envB near (frame.drop 4)) with
      back := Function.update pair.back near rest } := by
  have isAnswer : Answers frame := invariant.answers near frame (by simp [next])
  obtain ⟨sent, silent⟩ := Pair.setB_receive_answer envB pair near isAnswer
  rw [silent]
  constructor
  · exact invariant.linked.quiet rfl rfl rfl rfl envB
  · exact invariant.clients.quiet rfl rfl rfl
  · exact invariant.placed
  · exact invariant.travelling
  · intro op message targets isChosen
    obtain ⟨nonempty, carries, created, reaches⟩ := invariant.chosen op message targets isChosen
    exact ⟨nonempty, carries, created, reaches⟩
  · intro other reply member
    by_cases same : other = near
    · subst same
      simp only [Function.update_self] at member
      exact invariant.answers other reply (by rw [next]; exact List.mem_cons_of_mem _ member)
    · simp only [Function.update_of_ne same] at member
      exact invariant.answers other reply member

end Invariant

/-- Every step keeps the invariant. -/
theorem Invariant.step {pair next : Pair} {envA envB : Environment} {event : Event}
    (invariant : Invariant pair) (change : pair.Change envA envB event next) : Invariant next := by
  cases change with
  | linkUp freshA freshAtB freshB => exact invariant.linkUp freshAtB freshA freshB
  | connects freshA freshB => exact invariant.connects freshA freshB
  | opened id connecting => exact invariant.opens connecting
  | closed id active => exact invariant.closes (Invariant.listed_of_active active)
  | chose op message ready nonempty carries => exact invariant.chooses ready nonempty carries
  | sent op message targets chosen => exact invariant.sends chosen
  | read near frame rest idle next => exact invariant.reads idle next
  | handled near far frame link next => exact invariant.handles link next
  | answered near frame rest next => exact invariant.answered next

theorem invariant_of_reachable {envA envB : Environment} {pair : Pair}
    (reachable : (Pair.machine envA envB).Reachable pair) : Invariant pair := by
  refine reachable.invariant ?_ ?_
  · exact fun start identified => Invariant.start identified
  · exact fun before event next _ invariant taken =>
      invariant.step (Pair.change_of_perform taken)

end Aurum.Cluster
