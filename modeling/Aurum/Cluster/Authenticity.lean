import Aurum.Cluster.Mesh

/-!
# Whom the nodes of a mesh take each other for

A session between two nodes never carries the node id of a third one.  When no
stranger announces clients, every placeholder stands for a client that the node
it is filed under has accepted.
-/

namespace Aurum.Cluster

open Aurum.Protocol
open Aurum.Node
open Aurum.Transition

universe u

namespace Mesh

variable {ι : Type u}

/-- The node ids that a session may carry. -/
def Believable (mesh : Mesh ι) (place : ι × Ref) (id : Uuid) : Prop :=
  match mesh.far place with
  | .nobody => id = Uuid.nil
  | .stranger => True
  | .session other _ => id = Uuid.nil ∨ id = (mesh.nodes other).nodeId

/-- Links are pairs of TCP sessions, no session carries a node id of a third
node, and the nodes tell each other the truth. -/
structure Sound (mesh : Mesh ι) : Prop where
  formed : ∀ node, WellFormed (mesh.nodes node)
  paired : ∀ node ref other far, mesh.far (node, ref) = .session other far →
    mesh.far (other, far) = .session node ref
  links : ∀ node ref, mesh.far (node, ref) ≠ .nobody →
    ref < (mesh.nodes node).allocated ∧ ((mesh.nodes node).memory ref).type = .tcp
  said : ∀ node, (mesh.nodes node).Honest
  tagged : ∀ node ref, ref < (mesh.nodes node).allocated →
    ((mesh.nodes node).memory ref).type = .tcp →
      mesh.Believable (node, ref) ((mesh.nodes node).memory ref).nodeId
  dialed : ∀ node ref, ref < (mesh.nodes node).allocated →
    ((mesh.nodes node).memory ref).origin = .dialed → ((mesh.nodes node).memory ref).type = .tcp

theorem Believable.nil {mesh : Mesh ι} {place : ι × Ref} : mesh.Believable place Uuid.nil := by
  unfold Believable
  split
  · rfl
  · trivial
  · exact Or.inl rfl

/-- A client with the identifier has been accepted by a node, with the given id
unless that is none. -/
def Backed (mesh : Mesh ι) (nodeId client : Uuid) : Prop :=
  ∃ node, (mesh.nodes node).Accepted client ∧
    (nodeId = Uuid.nil ∨ nodeId = (mesh.nodes node).nodeId)

/-- Every placeholder is tagged with the node it was built for, and backed. -/
def Founded (mesh : Mesh ι) : Prop :=
  ∀ node ref, ref < (mesh.nodes node).allocated → ∀ id,
    ((mesh.nodes node).memory ref).origin = .joined id →
      ((mesh.nodes node).memory ref).nodeId = id ∧
        mesh.Backed id ((mesh.nodes node).memory ref).id

/-- A node goes on: it tells the truth, and on one of its sessions it may be told
a believable node id and, as long as strangers are silent, of backed clients. -/
inductive Goes (mesh : Mesh ι) (silent : Prop) (node : ι) (next : State) : Prop
  | intro (session : Ref) (named joined : Uuid → Prop) (formed : WellFormed next)
      (utters : Utters (OnTcp (mesh.nodes node).Speech) (mesh.nodes node) next)
      (tags : Tags session named joined (mesh.nodes node) next)
      (outside : ∀ ref, (mesh.nodes node).allocated ≤ ref → ref < next.allocated → ref ≠ session)
      (believed : ∀ id, named id → mesh.Believable (node, session) id)
      (backed : silent → ∀ id client, named id → joined client → mesh.Backed id client)

theorem sound_of_fresh {mesh : Mesh ι} (fresh : mesh.Fresh) : mesh.Sound where
  formed := by
    intro node
    obtain ⟨nodeId, tcpPort, same⟩ := fresh.nodes node
    rw [same]
    exact WellFormed.initial nodeId tcpPort
  paired := by
    intro node ref other far linked
    rw [fresh.far] at linked
    cases linked
  links := fun node ref linked => absurd (fresh.far (node, ref)) linked
  said := by
    intro node sent member
    obtain ⟨nodeId, tcpPort, same⟩ := fresh.nodes node
    rw [same] at member
    cases member
  tagged := by
    intro node ref created
    obtain ⟨nodeId, tcpPort, same⟩ := fresh.nodes node
    rw [same] at created
    cases created
  dialed := by
    intro node ref created
    obtain ⟨nodeId, tcpPort, same⟩ := fresh.nodes node
    rw [same] at created
    cases created

theorem founded_of_fresh {mesh : Mesh ι} (fresh : mesh.Fresh) : mesh.Founded := by
  intro node ref created
  obtain ⟨nodeId, tcpPort, same⟩ := fresh.nodes node
  rw [same] at created
  cases created

section Goes

variable {mesh : Mesh ι} {node : ι} {next : State} {silent : Prop}

/-- A node that is told nothing goes on. -/
theorem Goes.of_silence (formed : WellFormed next)
    (utters : Utters (OnTcp (mesh.nodes node).Speech) (mesh.nodes node) next)
    (tags : Tags next.allocated (fun _ => False) (fun _ => False) (mesh.nodes node) next) :
    mesh.Goes silent node next :=
  .intro next.allocated _ _ formed utters tags (fun _ _ below => Nat.ne_of_lt below)
    (fun _ => False.elim) fun _ _ _ => False.elim

theorem Goes.nodeId (goes : mesh.Goes silent node next) :
    next.nodeId = (mesh.nodes node).nodeId := by
  cases goes with
  | intro session named joined formed utters tags outside believed backed => exact utters.nodeId

theorem Goes.ages (goes : mesh.Goes silent node next) : Ages (mesh.nodes node) next := by
  cases goes with
  | intro session named joined formed utters tags outside believed backed => exact tags.toAges

/-- The node ids of the TCP sessions stay believable, and dialed sessions are TCP
sessions. -/
theorem Goes.tagged (goes : mesh.Goes silent node next) (sound : mesh.Sound) {ref : Ref}
    (created : ref < next.allocated) :
    ((next.memory ref).type = .tcp → mesh.Believable (node, ref) (next.memory ref).nodeId) ∧
      ((next.memory ref).origin = .dialed → (next.memory ref).type = .tcp) := by
  cases goes with
  | intro session named joined formed utters tags outside believed backed =>
      by_cases old : ref < (mesh.nodes node).allocated
      · obtain ⟨_, typeEq, originEq⟩ := tags.same ref old
        rw [typeEq, originEq]
        refine ⟨?_, sound.dialed node ref old⟩
        intro tcp
        rcases tags.kept ref old with unchanged | ⟨rfl, _, isNamed⟩
        · rw [unchanged]
          exact sound.tagged node ref old tcp
        · exact believed _ isNamed
      · have new := Nat.not_lt.mp old
        cases tags.built ref new created (outside ref new created) with
        | link tcp untagged _ =>
            rw [untagged]
            exact ⟨fun _ => .nil, fun _ => tcp⟩
        | client websocket origin => simp [websocket, origin]
        | placeholder id websocket origin _ _ _ => simp [websocket, origin]

/-- The placeholders of the node stay backed. -/
theorem Goes.founded (goes : mesh.Goes silent node next) (silence : silent) (sound : mesh.Sound)
    (founded : mesh.Founded) {ref : Ref} (created : ref < next.allocated) {id : Uuid}
    (joined : (next.memory ref).origin = .joined id) :
    (next.memory ref).nodeId = id ∧ mesh.Backed id (next.memory ref).id := by
  cases goes with
  | intro session named announced formed utters tags outside believed backed =>
      by_cases old : ref < (mesh.nodes node).allocated
      · obtain ⟨idEq, typeEq, originEq⟩ := tags.same ref old
        rw [originEq] at joined
        rw [idEq]
        obtain ⟨tagged, isBacked⟩ := founded node ref old id joined
        refine ⟨?_, isBacked⟩
        rcases tags.kept ref old with unchanged | ⟨_, tcp, _⟩
        · exact unchanged.trans tagged
        · rw [(sound.formed node).placeholder ref id joined] at tcp
          cases tcp
      · have new := Nat.not_lt.mp old
        cases tags.built ref new created (outside ref new created) with
        | link _ _ origin =>
            rw [joined] at origin
            simp at origin
        | client _ origin =>
            rw [joined] at origin
            cases origin
        | placeholder other _ origin tagged ofNode isAnnounced =>
            rw [joined] at origin
            cases origin
            exact ⟨tagged, backed silence _ _ ofNode isAnnounced⟩

end Goes

/-- Sessions without another end have got one. -/
theorem Sound.changeFar {mesh : Mesh ι} (sound : mesh.Sound) (far : ι × Ref → Far ι)
    (paired : ∀ node ref other distant, far (node, ref) = .session other distant →
      far (other, distant) = .session node ref)
    (changed : ∀ node ref, far (node, ref) = mesh.far (node, ref) ∨
      mesh.far (node, ref) = .nobody ∧ ref < (mesh.nodes node).allocated ∧
        ((mesh.nodes node).memory ref).type = .tcp) :
    Sound { mesh with far := far } where
  formed := sound.formed
  paired := paired
  links := by
    intro node ref linked
    rcases changed node ref with same | ⟨_, created, tcp⟩
    · apply sound.links node ref
      rw [← same]
      exact linked
    · exact ⟨created, tcp⟩
  said := sound.said
  tagged := by
    intro node ref created tcp
    have before := sound.tagged node ref created tcp
    rcases changed node ref with same | ⟨nobody, _, _⟩
    · unfold Believable at before ⊢
      simp only [same]
      exact before
    · unfold Believable at before
      rw [nobody] at before
      change Believable _ _ ((mesh.nodes node).memory ref).nodeId
      rw [before]
      exact .nil
  dialed := sound.dialed

section Steps

variable {mesh : Mesh ι} {node : ι} {next : State}

/-- What a message of another node may name and announce. -/
theorem Sound.receive_tags {other : ι} (sound : mesh.Sound)
    {env : Environment} {sent : Ref × Bytes} {far : Ref} (within : sent ∈ (mesh.nodes node).sent)
    (linked : mesh.far (node, sent.1) = .session other far) :
    Tags far (fun id => mesh.Believable (other, far) id) (mesh.nodes node).Accepted
      (mesh.nodes other) ((mesh.nodes other).receive env far (sent.2.drop 4)) := by
  have back := sound.paired node sent.1 other far linked
  have sentTcp := (sound.links node sent.1 (by simp [linked])).2
  obtain ⟨created, tcp⟩ := sound.links other far (by simp [back])
  have speaks := (sound.said node sent within).2 sentTcp
  apply Tags.receive created
  · exact sound.tagged other far created
  · intro _ message member opcode id named
    unfold Believable
    rw [back]
    exact Or.inr ((speaks message member).identifies opcode id named)
  · intro _ message member opcode request id named
    exact (speaks message member).announces opcode request id named

/-- A node takes an event that is no message of another node. -/
theorem Sound.goes_act {env : ι → Environment} (sound : mesh.Sound) {event : Node.Event}
    (isLocal : mesh.Local node event) (fits : mesh.RepliesFit env (.act node event))
    (step : (mesh.nodes node).perform (env node) event = .ok next) :
    mesh.Goes (mesh.StrangersSilent (.act node event)) node next := by
  have enabled := isLocal.enabled
  have own : event.OwnWords (env node) (mesh.nodes node) := by
    constructor
    · rintro ref rfl
      exact isLocal.2
    · rintro target message rfl
      exact isLocal
    · rintro session frame rfl
      exact fits
  have utters := utters_of_ownWords (sound.formed node) enabled own step
  have formed : WellFormed next := (closed_wellFormed (env node)).perform enabled step
    (fun session _ _ _ _ called id _ => called.setNodeId session id) (sound.formed node)
  by_cases isFrame : ∃ ref bytes, event = .frame ref bytes
  · rcases isFrame with ⟨ref, bytes, rfl⟩
    cases step
    have strange : ((mesh.nodes node).memory ref).type = .tcp →
        ∀ id, mesh.Believable (node, ref) id := by
      intro tcp id
      rcases isLocal.2 with websocket | stranger
      · rw [tcp] at websocket
        cases websocket
      · unfold Believable
        rw [stranger]
        trivial
    have tags : Tags ref (fun id => mesh.Believable (node, ref) id)
        (fun _ => ¬mesh.StrangersSilent (.act node (.frame ref bytes)))
        (mesh.nodes node) ((mesh.nodes node).receive (env node) ref bytes) := by
      apply Tags.receive isLocal.1
      · exact fun tcp => strange tcp _
      · exact fun tcp _ _ _ id _ => strange tcp id
      · intro tcp message member opcode request _ _ silent
        exact request (silent tcp message member opcode)
    exact .intro ref _ _ formed utters tags
      (fun other new _ isRef => absurd isLocal.1 (isRef ▸ Nat.not_lt.mpr new)) (fun _ => id)
      fun silent _ _ _ announced => absurd silent announced
  · apply Goes.of_silence formed utters
    apply Tags.perform _ _ step
    · exact fun ref bytes is => isFrame ⟨ref, bytes, is⟩
    · rintro built rfl
      exact isLocal

/-- A node accepts a connection. -/
theorem Sound.goes_acceptTcp (sound : mesh.Sound) (env : Environment) (node : ι) (silent : Prop) :
    mesh.Goes silent node ((mesh.nodes node).acceptTcp env) :=
  .of_silence ((closed_wellFormed env).acceptTcp (sound.formed node)) (.acceptTcp env _)
    (.of_links (.acceptTcp env _))

/-- A message of another node arrives. -/
theorem Sound.goes_deliver {env : ι → Environment} (sound : mesh.Sound) {position : Nat}
    {sent : Ref × Bytes} {other : ι} {far : Ref}
    (within : (mesh.nodes node).sent[position]? = some sent)
    (linked : mesh.far (node, sent.1) = .session other far)
    (fits : mesh.RepliesFit env (.deliver node position)) (silent : Prop) :
    mesh.Goes silent other ((mesh.nodes other).receive (env other) far (sent.2.drop 4)) := by
  have back := sound.paired node sent.1 other far linked
  have created := (sound.links other far (by simp [back])).1
  have arriving := fits.deliver (incoming_eq within linked)
  have own : Event.OwnWords (env other) (mesh.nodes other) (.frame far (sent.2.drop 4)) := by
    constructor
    · rintro ref ⟨⟩
    · rintro target message ⟨⟩
    · rintro session frame ⟨⟩ _
      exact arriving
  have enabled : Node.Event.Enabled (mesh.nodes other) (.frame far (sent.2.drop 4)) := created
  have formed : WellFormed ((mesh.nodes other).receive (env other) far (sent.2.drop 4)) :=
    (closed_wellFormed (env other)).receive (fun _ _ called id _ => called.setNodeId far id)
      (sound.formed other)
  refine .intro far _ _ formed (utters_of_ownWords (sound.formed other) enabled own rfl)
    (sound.receive_tags (List.mem_of_getElem? within) linked)
    (fun ref new _ isFar => absurd created (isFar ▸ Nat.not_lt.mpr new)) (fun _ => id) ?_
  intro _ id client believable accepted
  unfold Believable at believable
  rw [back] at believable
  exact ⟨node, accepted, believable⟩

end Steps

/-! ## The mesh -/

variable [DecidableEq ι] {mesh : Mesh ι} {node : ι} {next : State}

@[simp]
theorem setNode_nodes_self (node : ι) (next : State) (mesh : Mesh ι) :
    (mesh.setNode node next).nodes node = next :=
  Function.update_self _ _ _

theorem setNode_nodes_of_ne {other : ι} (differs : other ≠ node) :
    (mesh.setNode node next).nodes other = mesh.nodes other :=
  Function.update_of_ne differs _ _

@[simp]
theorem setFar_far_self (place : ι × Ref) (far : Far ι) (mesh : Mesh ι) :
    (mesh.setFar place far).far place = far :=
  Function.update_self _ _ _

theorem setFar_far_of_ne {place other : ι × Ref} (differs : other ≠ place) (far : Far ι)
    (mesh : Mesh ι) : (mesh.setFar place far).far other = mesh.far other :=
  Function.update_of_ne differs _ _

/-- What holds of a node that has gone on and of the other nodes as they were,
holds of all of them. -/
theorem forall_setNode (holds : ι → State → Prop) (here : holds node next)
    (others : ∀ other, holds other (mesh.nodes other)) (other : ι) :
    holds other ((mesh.setNode node next).nodes other) := by
  by_cases same : other = node
  · subst same
    rw [setNode_nodes_self]
    exact here
  · rw [setNode_nodes_of_ne same]
    exact others other

theorem setNode_ages (ages : Ages (mesh.nodes node) next) (other : ι) :
    Ages (mesh.nodes other) ((mesh.setNode node next).nodes other) :=
  forall_setNode (fun other state => Ages (mesh.nodes other) state) ages
    (fun _ => .of_memory rfl rfl) other

theorem setNode_nodeId (same : next.nodeId = (mesh.nodes node).nodeId) (other : ι) :
    ((mesh.setNode node next).nodes other).nodeId = (mesh.nodes other).nodeId :=
  forall_setNode (fun other state => state.nodeId = (mesh.nodes other).nodeId) same
    (fun _ => rfl) other

theorem believable_setNode (same : next.nodeId = (mesh.nodes node).nodeId) (place : ι × Ref)
    (id : Uuid) : (mesh.setNode node next).Believable place id ↔ mesh.Believable place id := by
  have far : (mesh.setNode node next).far place = mesh.far place := rfl
  unfold Believable
  rw [far]
  cases mesh.far place with
  | nobody => rfl
  | stranger => rfl
  | session other far => simp only [setNode_nodeId same]

theorem Backed.setNode {nodeId client : Uuid} (backed : mesh.Backed nodeId client)
    (ages : Ages (mesh.nodes node) next) (same : next.nodeId = (mesh.nodes node).nodeId) :
    (mesh.setNode node next).Backed nodeId client := by
  rcases backed with ⟨other, accepted, tagged⟩
  refine ⟨other, accepted.age (setNode_ages ages other), ?_⟩
  rw [setNode_nodeId same]
  exact tagged

/-- A node has gone on, and the placeholders are still backed. -/
theorem Founded.setNode {silent : Prop} (founded : mesh.Founded) (sound : mesh.Sound)
    (silence : silent) (goes : mesh.Goes silent node next) :
    (mesh.setNode node next).Founded := by
  have here : ∀ ref, ref < next.allocated → ∀ id, (next.memory ref).origin = .joined id →
      (next.memory ref).nodeId = id ∧ mesh.Backed id (next.memory ref).id :=
    fun ref created id joined => goes.founded silence sound founded created joined
  intro other ref created id joined
  obtain ⟨tagged, backed⟩ := forall_setNode (fun _ state => ∀ ref, ref < state.allocated →
    ∀ id, (state.memory ref).origin = .joined id → (state.memory ref).nodeId = id ∧
      mesh.Backed id (state.memory ref).id) here founded other ref created id joined
  exact ⟨tagged, backed.setNode goes.ages goes.nodeId⟩

namespace Sound

/-- A session object that does not exist is no end of a link. -/
theorem nobody (sound : mesh.Sound) {ref : Ref} (new : (mesh.nodes node).allocated ≤ ref) :
    mesh.far (node, ref) = .nobody := by
  by_contra linked
  exact absurd (sound.links node ref linked).1 (Nat.not_lt.mpr new)

theorem setNode {silent : Prop} (sound : mesh.Sound) (goes : mesh.Goes silent node next) :
    (mesh.setNode node next).Sound where
  formed := by
    have here : WellFormed next := by
      cases goes with
      | intro session named joined formed utters tags outside believed backed => exact formed
    exact forall_setNode (fun _ => WellFormed) here sound.formed
  paired := sound.paired
  links := by
    have here : ∀ ref, mesh.far (node, ref) ≠ .nobody →
        ref < next.allocated ∧ (next.memory ref).type = .tcp := by
      intro ref linked
      rcases sound.links node ref linked with ⟨created, tcp⟩
      exact ⟨created.trans_le goes.ages.older, (goes.ages.same ref created).2.1.trans tcp⟩
    exact forall_setNode (fun other state => ∀ ref, mesh.far (other, ref) ≠ .nobody →
      ref < state.allocated ∧ (state.memory ref).type = .tcp) here sound.links
  said := by
    have here : next.Honest := by
      cases goes with
      | intro session named joined formed utters tags outside believed backed =>
          exact (sound.said node).utter utters
    exact forall_setNode (fun _ => State.Honest) here sound.said
  tagged := by
    have here : ∀ ref, ref < next.allocated → (next.memory ref).type = .tcp →
        mesh.Believable (node, ref) (next.memory ref).nodeId :=
      fun ref created => (goes.tagged sound created).1
    intro other ref created tcp
    rw [believable_setNode goes.nodeId]
    exact forall_setNode (fun other state => ∀ ref, ref < state.allocated →
      (state.memory ref).type = .tcp → mesh.Believable (other, ref) (state.memory ref).nodeId)
      here sound.tagged other ref created tcp
  dialed := by
    have here : ∀ ref, ref < next.allocated → (next.memory ref).origin = .dialed →
        (next.memory ref).type = .tcp := fun ref created => (goes.tagged sound created).2
    exact forall_setNode (fun _ state => ∀ ref, ref < state.allocated →
      (state.memory ref).origin = .dialed → (state.memory ref).type = .tcp) here sound.dialed

/-! ## Links -/

/-- The connection of a session ends at a stranger. -/
theorem setStranger (sound : mesh.Sound) {ref : Ref}
    (created : ref < (mesh.nodes node).allocated)
    (tcp : ((mesh.nodes node).memory ref).type = .tcp) (free : mesh.far (node, ref) = .nobody) :
    (mesh.setFar (node, ref) .stranger).Sound := by
  refine sound.changeFar (mesh.setFar (node, ref) .stranger).far ?_ ?_
  · intro other distant third far linked
    by_cases isPlace : (other, distant) = (node, ref)
    · rw [isPlace, setFar_far_self] at linked
      cases linked
    · rw [setFar_far_of_ne isPlace] at linked
      have back := sound.paired other distant third far linked
      rw [setFar_far_of_ne]
      · exact back
      · intro isPlace
        rw [isPlace, free] at back
        cases back
  · intro other distant
    by_cases isPlace : (other, distant) = (node, ref)
    · cases isPlace
      exact Or.inr ⟨free, created, tcp⟩
    · exact Or.inl (setFar_far_of_ne isPlace _ _)

/-- Two sessions become the ends of a link. -/
theorem link (sound : mesh.Sound) {other : ι} {ref far : Ref}
    (differ : (node, ref) ≠ (other, far)) (created : ref < (mesh.nodes node).allocated)
    (tcp : ((mesh.nodes node).memory ref).type = .tcp) (free : mesh.far (node, ref) = .nobody)
    (farCreated : far < (mesh.nodes other).allocated)
    (farTcp : ((mesh.nodes other).memory far).type = .tcp)
    (farFree : mesh.far (other, far) = .nobody) :
    ((mesh.setFar (node, ref) (.session other far)).setFar (other, far)
      (.session node ref)).Sound := by
  refine sound.changeFar ((mesh.setFar (node, ref) (.session other far)).setFar
    (other, far) (.session node ref)).far ?_ ?_
  · intro third distant fourth last linked
    by_cases isFar : (third, distant) = (other, far)
    · rw [isFar, setFar_far_self] at linked
      cases linked
      rw [setFar_far_of_ne differ, setFar_far_self]
      cases isFar
      rfl
    rw [setFar_far_of_ne isFar] at linked
    by_cases isNear : (third, distant) = (node, ref)
    · rw [isNear, setFar_far_self] at linked
      cases linked
      rw [setFar_far_self]
      cases isNear
      rfl
    rw [setFar_far_of_ne isNear] at linked
    have back := sound.paired third distant fourth last linked
    rw [setFar_far_of_ne, setFar_far_of_ne]
    · exact back
    · intro isNear
      rw [isNear, free] at back
      cases back
    · intro isFar
      rw [isFar, farFree] at back
      cases back
  · intro third distant
    by_cases isFar : (third, distant) = (other, far)
    · cases isFar
      exact Or.inr ⟨farFree, farCreated, farTcp⟩
    by_cases isNear : (third, distant) = (node, ref)
    · cases isNear
      exact Or.inr ⟨free, created, tcp⟩
    · left
      rw [setFar_far_of_ne isFar, setFar_far_of_ne isNear]

/-- The session of a connection just accepted. -/
theorem accepted (sound : mesh.Sound) (env : Environment) (node : ι) :
    let after := mesh.setNode node ((mesh.nodes node).acceptTcp env)
    (mesh.nodes node).allocated < (after.nodes node).allocated ∧
      ((after.nodes node).memory (mesh.nodes node).allocated).type = .tcp ∧
        after.far (node, (mesh.nodes node).allocated) = .nobody := by
  refine ⟨?_, ?_, sound.nobody (Nat.le_refl _)⟩
  · rw [setNode_nodes_self]
    exact Nat.lt_succ_self _
  · have built : ((mesh.nodes node).acceptTcp env).memory (mesh.nodes node).allocated =
        tcpSession ((mesh.nodes node).nextUuid env) .accepted :=
      State.install_memory_self env _ (mesh.nodes node).draw
    rw [setNode_nodes_self, built]
    rfl

/-- The connection of a stranger has been accepted. -/
theorem welcome (sound : mesh.Sound) (env : ι → Environment) (node : ι) :
    ((mesh.setNode node ((mesh.nodes node).acceptTcp (env node))).setFar
      (node, (mesh.nodes node).allocated) .stranger).Sound := by
  obtain ⟨created, tcp, free⟩ := sound.accepted (env node) node
  exact (sound.setNode (sound.goes_acceptTcp (env node) node True)).setStranger created tcp free

/-- The connection of another node has been accepted. -/
theorem accept (sound : mesh.Sound) (env : ι → Environment) {ref : Ref} {other : ι}
    (dialing : mesh.Dialing node ref) :
    (((mesh.setNode other ((mesh.nodes other).acceptTcp (env other))).setFar (node, ref)
      (.session other (mesh.nodes other).allocated)).setFar
        (other, (mesh.nodes other).allocated) (.session node ref)).Sound := by
  rcases dialing with ⟨created, dialed, free⟩
  obtain ⟨farCreated, farTcp, farFree⟩ := sound.accepted (env other) other
  have goes := sound.goes_acceptTcp (env other) other True
  have aged := setNode_ages goes.ages node
  refine (sound.setNode goes).link ?_ (created.trans_le aged.older) ?_ free farCreated farTcp
    farFree
  · rintro ⟨⟩
    exact Nat.lt_irrefl _ created
  · exact (aged.same ref created).2.1.trans (sound.dialed node ref created dialed)

/-- Every step of the mesh keeps it sound. -/
theorem step {env : ι → Environment} {event : Event ι} {after : Mesh ι} (sound : mesh.Sound)
    (fits : mesh.RepliesFit env event) (step : Step env mesh event after) : after.Sound := by
  cases step with
  | act node event next isLocal performed =>
      exact sound.setNode (sound.goes_act isLocal fits performed)
  | accept node ref other dialing => exact sound.accept env dialing
  | stray node ref dialing =>
      exact sound.setStranger dialing.1 (sound.dialed node ref dialing.1 dialing.2.1) dialing.2.2
  | welcome node => exact sound.welcome env node
  | deliver node position sent other far within linked =>
      exact sound.setNode (sound.goes_deliver within linked fits True)

end Sound

theorem sound_of_reachable {env : ι → Environment}
    (reachable : ((machine env).under (RepliesFit env)).Reachable mesh) : mesh.Sound := by
  refine reachable.invariant ?_ ?_
  · exact fun start fresh => sound_of_fresh fresh
  · rintro before event next _ sound ⟨fits, performed⟩
    exact sound.step fits (step_of_perform performed)

/-- Whatever strangers and clients send, and in whatever order messages arrive,
arrive again or get lost: a session between two nodes carries no node id or that
of the node at its other end. -/
theorem identities_authentic {env : ι → Environment}
    (reachable : ((machine env).under (RepliesFit env)).Reachable mesh) {ref far : Ref}
    {other : ι} (linked : mesh.far (node, ref) = .session other far) :
    ((mesh.nodes node).memory ref).nodeId = Uuid.nil ∨
      ((mesh.nodes node).memory ref).nodeId = (mesh.nodes other).nodeId := by
  have sound := sound_of_reachable reachable
  obtain ⟨created, tcp⟩ := sound.links node ref (by simp [linked])
  have tagged := sound.tagged node ref created tcp
  unfold Believable at tagged
  rw [linked] at tagged
  exact tagged

/-- The replies fit, and no stranger announces clients. -/
def Quietly (env : ι → Environment) (mesh : Mesh ι) (event : Event ι) : Prop :=
  mesh.RepliesFit env event ∧ mesh.StrangersSilent event

instance (env : ι → Environment) (mesh : Mesh ι) : DecidablePred (mesh.Quietly env) :=
  fun _ => inferInstanceAs (Decidable (_ ∧ _))

theorem Founded.step {env : ι → Environment} {event : Event ι} {after : Mesh ι}
    (founded : mesh.Founded) (sound : mesh.Sound) (quietly : mesh.Quietly env event)
    (step : Step env mesh event after) : after.Founded := by
  cases step with
  | act node event next isLocal performed =>
      exact founded.setNode sound quietly.2 (sound.goes_act isLocal quietly.1 performed)
  | accept node ref other dialing =>
      exact founded.setNode sound trivial (sound.goes_acceptTcp (env other) other True)
  | stray node ref dialing => exact founded
  | welcome node => exact founded.setNode sound trivial (sound.goes_acceptTcp (env node) node True)
  | deliver node position sent other far within linked =>
      exact founded.setNode sound trivial (sound.goes_deliver within linked quietly.1 True)

/-- As long as no stranger announces clients, every placeholder of every node
stands for a client that a node has accepted, and is filed under the id of that
node or under none. -/
theorem placeholders_founded {env : ι → Environment}
    (reachable : ((machine env).under (Quietly env)).Reachable mesh) {ref : Ref}
    (created : ref < (mesh.nodes node).allocated) {id : Uuid}
    (joined : ((mesh.nodes node).memory ref).origin = .joined id) :
    ((mesh.nodes node).memory ref).nodeId = id ∧
      ∃ other, (mesh.nodes other).Accepted ((mesh.nodes node).memory ref).id ∧
        (id = Uuid.nil ∨ id = (mesh.nodes other).nodeId) := by
  have founded : mesh.Founded := by
    refine reachable.invariant ?_ ?_
    · exact fun start fresh => founded_of_fresh fresh
    · rintro before event next run founded ⟨quietly, performed⟩
      have sound := sound_of_reachable (run.weaken fun _ _ quietly => quietly.1)
      exact founded.step sound quietly (step_of_perform performed)
  exact founded node ref created id joined

/-! ## Two nodes and a client -/

section

variable (env : ι → Environment) (allowed : Mesh ι → Event ι → Prop)
  [∀ mesh, DecidablePred (allowed mesh)] (start : Mesh ι)

/-- The mesh after some events, if each was possible and allowed. -/
def run (events : List (Event ι)) : Option (Mesh ι) :=
  events.foldlM (Machine.carry allowed (Machine.carry Possible (perform env))) start

variable {env allowed start}

theorem reachable_of_run {events : List (Event ι)} (fresh : start.Fresh)
    (ran : run env allowed start events = some mesh) :
    ((machine env).under allowed).Reachable mesh := by
  have starts : ((machine env).under allowed).Reachable start := .start fresh
  exact starts.foldlM_carry (fun _ _ _ carried => carried) ran

end

/-- Every connect succeeds, and the random identifiers of two nodes differ. -/
def twoEnvironments (node : Bool) : Environment :=
  .plain (fun drawn => Uuid.filled (UInt8.ofNat (drawn + if node then 100 else 10)))
    fun _ => true

/-- Nodes `1…1` and `2…2`. -/
def twoNodes : Mesh Bool where
  nodes node := .initial (Uuid.filled (if node then 2 else 1)) 7000
  far _ := .nobody

/-- The nodes are linked and identified, and the second accepts a client. -/
def courtesies : List (Event Bool) :=
  [.act false (.connect [97] 7000 false 0), .accept false 0 true, .deliver false 0,
    .deliver true 0, .act true .acceptWebsocket, .act true (.handshake 1 false), .deliver true 1]

theorem twoNodes_fresh : twoNodes.Fresh :=
  ⟨fun _ => ⟨_, _, rfl⟩, fun _ => rfl⟩

/-- Afterwards the first node lists the client under the id of the second. -/
theorem courtesies_run :
    ∃ mesh ∈ run twoEnvironments (Quietly twoEnvironments) twoNodes courtesies,
      mesh.far (false, 0) = .session true 0 ∧
      ((mesh.nodes false).memory 0).nodeId = Uuid.filled 2 ∧
      1 < (mesh.nodes false).allocated ∧
      ((mesh.nodes false).memory 1).origin = .joined (Uuid.filled 2) ∧
      ((mesh.nodes false).memory 1).id = Uuid.filled 101 := by
  decide +kernel

theorem identities_authentic_courtesies :
    ∃ mesh ∈ run twoEnvironments (Quietly twoEnvironments) twoNodes courtesies,
      ((mesh.nodes false).memory 0).nodeId = Uuid.filled 2 ∧
        (((mesh.nodes false).memory 0).nodeId = Uuid.nil ∨
          ((mesh.nodes false).memory 0).nodeId = (mesh.nodes true).nodeId) := by
  rcases courtesies_run with ⟨mesh, ran, linked, identified, _⟩
  have reachable := (reachable_of_run twoNodes_fresh ran).weaken fun _ _ quietly => quietly.1
  exact ⟨mesh, ran, identified, identities_authentic reachable linked⟩

theorem placeholders_founded_courtesies :
    ∃ mesh ∈ run twoEnvironments (Quietly twoEnvironments) twoNodes courtesies,
      ((mesh.nodes false).memory 1).nodeId = Uuid.filled 2 ∧
        ∃ other, (mesh.nodes other).Accepted ((mesh.nodes false).memory 1).id ∧
          (Uuid.filled 2 = Uuid.nil ∨ Uuid.filled 2 = (mesh.nodes other).nodeId) := by
  rcases courtesies_run with ⟨mesh, ran, _, _, created, joined, _⟩
  exact ⟨mesh, ran, placeholders_founded (reachable_of_run twoNodes_fresh ran) created joined⟩

end Mesh

end Aurum.Cluster
