import Aurum.Cluster.Authenticity
import Aurum.Node.Draws

/-!
# No link of a mesh is lost

A leave erases whatever carries the identifier that it names, and a session
under an identifier that is taken is not registered.  In a mesh whose random
identifiers are distinct, the nodes withdraw nothing but websocket sessions of
nodes of the mesh.  So a TCP session stays registered until its own node
disconnects it, whatever the order in which messages arrive, arrive again or get
lost.
-/

namespace Aurum.Cluster

open Aurum.Protocol
open Aurum.Node
open Aurum.Transition

universe u

namespace Mesh

variable {ι : Type u}

/-- The identifiers of the clients that the nodes have accepted. -/
def Told (mesh : Mesh ι) (id : Uuid) : Prop :=
  ∃ node, (mesh.nodes node).Accepted id

/-- No two of the identifiers that the nodes have drawn are the same. -/
def Distinct (env : ι → Environment) (mesh : Mesh ι) : Prop :=
  ∀ node other, ∀ first < (mesh.nodes node).drawn, ∀ second < (mesh.nodes other).drawn,
    (env node).uuid first = (env other).uuid second → node = other ∧ first = second

/-- The replies fit, and strangers send no other messages than those they may. -/
def Decently (may : Submessage → Prop) (env : ι → Environment) (mesh : Mesh ι)
    (event : Event ι) : Prop :=
  mesh.RepliesFit env event ∧ mesh.StrangersSay may event

instance (may : Submessage → Prop) [DecidablePred may] (env : ι → Environment) (mesh : Mesh ι) :
    DecidablePred (mesh.Decently may env) :=
  fun _ => inferInstanceAs (Decidable (_ ∧ _))

/-- A message that neither announces nor withdraws a client. -/
def Mute (message : Submessage) : Prop :=
  message.opcode = OpCode.join.byte ∨ message.opcode = OpCode.leave.byte →
    message.type = .response

instance : DecidablePred Mute :=
  fun _ => inferInstanceAs (Decidable (_ → _))

/-- The replies fit, and strangers are mute. -/
def Peacefully (env : ι → Environment) (mesh : Mesh ι) (event : Event ι) : Prop :=
  mesh.Decently Mute env event

instance (env : ι → Environment) (mesh : Mesh ι) : DecidablePred (mesh.Peacefully env) :=
  fun event => inferInstanceAs (Decidable (mesh.Decently Mute env event))

/-- Every node is in good order. -/
def AllOrderly (env : ι → Environment) (told : Uuid → Prop) (mesh : Mesh ι) : Prop :=
  ∀ node, Orderly (env node) told (mesh.nodes node)

/-- The nodes are in good order while their random identifiers are distinct. -/
def InOrder (env : ι → Environment) (mesh : Mesh ι) : Prop :=
  mesh.Distinct env → mesh.AllOrderly env mesh.Told

theorem Distinct.below {env : ι → Environment} {mesh : Mesh ι} (distinct : mesh.Distinct env)
    (node : ι) : DistinctBelow (env node) (mesh.nodes node).drawn :=
  fun first below second alsoBelow equal =>
    (distinct node node first below second alsoBelow equal).2

theorem allOrderly_of_fresh {env : ι → Environment} {told : Uuid → Prop} {mesh : Mesh ι}
    (fresh : mesh.Fresh) : mesh.AllOrderly env told := by
  intro node
  obtain ⟨nodeId, tcpPort, same⟩ := fresh.nodes node
  rw [same]
  exact .initial (env node) told nodeId tcpPort

section Orderly

variable {env : ι → Environment} {told : Uuid → Prop} {mesh : Mesh ι}

/-- The identifier of a client has been drawn by the node that has accepted
it. -/
theorem AllOrderly.drawn_of_told (orderly : mesh.AllOrderly env told) {id : Uuid}
    (isTold : mesh.Told id) :
    ∃ node ref, ref < (mesh.nodes node).allocated ∧
      ((mesh.nodes node).memory ref).type = .websocket ∧
      OwnSession ((mesh.nodes node).memory ref) ∧ ((mesh.nodes node).memory ref).id = id ∧
      ∃ draw < (mesh.nodes node).drawn, id = (env node).uuid draw := by
  rcases isTold with ⟨node, ref, created, client, rfl⟩
  have own : OwnSession ((mesh.nodes node).memory ref) := by
    rcases (orderly node).kinds ref created with own | ⟨joined, _, _⟩
    · exact own
    · rw [client] at joined
      exact joined.elim
  exact ⟨node, ref, created, own.client.mp client, own, rfl, (orderly node).drawn ref created own⟩

/-- The identifiers of clients may be told. -/
theorem AllOrderly.retell (orderly : mesh.AllOrderly env told) (distinct : mesh.Distinct env)
    (wider : ∀ id, told id → mesh.Told id) : mesh.AllOrderly env mesh.Told := by
  intro node
  have before := orderly node
  refine ⟨before.allocated, before.filed, ?_, before.drawn, before.distinct, ?_, before.kept⟩
  · intro ref created
    rcases before.kinds ref created with own | ⟨joined, websocket, isTold⟩
    · exact Or.inl own
    · exact Or.inr ⟨joined, websocket, wider _ isTold⟩
  · intro ref created tcp isTold
    have own := before.own_of_tcp created tcp
    rcases before.drawn ref created own with ⟨draw, early, named⟩
    rcases orderly.drawn_of_told isTold with
      ⟨other, client, clientCreated, websocket, clientOwn, same, drawn, drawnEarly, drawnId⟩
    obtain ⟨rfl, _⟩ := distinct node other draw early drawn drawnEarly (named.symm.trans drawnId)
    have isRef := before.distinct client clientCreated ref created clientOwn own same
    rw [isRef, tcp] at websocket
    cases websocket

/-- A node withdraws the identifiers of clients only. -/
theorem AllOrderly.told_of_lists (orderly : mesh.AllOrderly env mesh.Told) {node : ι} {id : Uuid}
    (listed : (mesh.nodes node).Lists id) : mesh.Told id := by
  rcases listed with ⟨ref, created, websocket, rfl⟩
  rcases (orderly node).kinds ref created with own | ⟨_, _, isTold⟩
  · exact ⟨node, ref, created, own.client.mpr websocket, rfl⟩
  · exact isTold

variable {node : ι} {next : State}

/-- A message that a node of the mesh has sent announces and withdraws clients
only. -/
theorem AllOrderly.course_deliver (orderly : mesh.AllOrderly env mesh.Told) (sound : mesh.Sound)
    {sent : Ref × Bytes} {other : ι} {far : Ref} (within : sent ∈ (mesh.nodes node).sent)
    (linked : mesh.far (node, sent.1) = .session other far) :
    Course (env other) mesh.Told (mesh.nodes other)
      ((mesh.nodes other).receive (env other) far (sent.2.drop 4)) := by
  have back := sound.paired node sent.1 other far linked
  have sentTcp := (sound.links node sent.1 (by simp [linked])).2
  have speaks := (sound.said node sent within).2 sentTcp
  apply Course.receive (sound.links other far (by simp [back])).1
  rintro _ message member (opcode | opcode) request id named
  · exact ⟨node, (speaks message member).announces opcode request id named⟩
  · exact orderly.told_of_lists ((speaks message member).withdraws opcode request id named)

/-- An event at a node at which strangers are mute. -/
theorem course_act (told : Uuid → Prop) {event : Node.Event} (isLocal : mesh.Local node event)
    (mute : mesh.StrangersSay Mute (.act node event))
    (step : (mesh.nodes node).perform (env node) event = .ok next) :
    Course (env node) told (mesh.nodes node) next := by
  by_cases isFrame : ∃ ref bytes, event = .frame ref bytes
  · rcases isFrame with ⟨ref, bytes, rfl⟩
    cases step
    apply Course.receive isLocal.1
    exact fun tcp message member opcode request =>
      absurd (mute tcp message member opcode) request
  · apply Course.perform _ _ _ step
    · exact fun ref bytes is => isFrame ⟨ref, bytes, is⟩
    · rintro built rfl
      exact isLocal
    · rintro ref rfl
      exact isLocal

variable [DecidableEq ι]

theorem drawn_setNode (drawn : (mesh.nodes node).drawn ≤ next.drawn) (other : ι) :
    (mesh.nodes other).drawn ≤ ((mesh.setNode node next).nodes other).drawn :=
  forall_setNode (fun other state => (mesh.nodes other).drawn ≤ state.drawn) drawn
    (fun _ => Nat.le_refl _) other

/-- A node that goes on leaves all of them in good order, if the identifiers
are still distinct. -/
theorem InOrder.setNode (inOrder : mesh.InOrder env)
    (older : (mesh.nodes node).drawn ≤ next.drawn)
    (course : mesh.AllOrderly env mesh.Told → Course (env node) mesh.Told (mesh.nodes node) next)
    (ages : Ages (mesh.nodes node) next) : (mesh.setNode node next).InOrder env := by
  intro distinct
  have drawn := drawn_setNode older
  have before : mesh.AllOrderly env mesh.Told := by
    apply inOrder
    intro first second early below late alsoBelow
    exact distinct first second early (below.trans_le (drawn first)) late
      (alsoBelow.trans_le (drawn second))
  have below : DistinctBelow (env node) next.drawn := by
    have here := distinct.below node
    rwa [setNode_nodes_self] at here
  have here : Orderly (env node) mesh.Told next := by
    refine (course before).orderly below ?_ (before node)
    intro draw late early isTold
    rcases before.drawn_of_told isTold with ⟨other, _, _, _, _, _, former, formerEarly, drawnId⟩
    obtain ⟨rfl, rfl⟩ := distinct node other draw (by rw [setNode_nodes_self]; exact early) former
      (formerEarly.trans_le (drawn other)) drawnId
    exact absurd formerEarly (Nat.not_lt.mpr late)
  have all : (mesh.setNode node next).AllOrderly env mesh.Told :=
    forall_setNode (fun other state => Orderly (env other) mesh.Told state) here before
  apply all.retell distinct
  rintro id ⟨other, accepted⟩
  exact ⟨other, accepted.age (setNode_ages ages other)⟩

theorem InOrder.step {event : Event ι} {after : Mesh ι} (inOrder : mesh.InOrder env)
    (sound : mesh.Sound) (peacefully : mesh.Peacefully env event)
    (step : Step env mesh event after) : after.InOrder env := by
  cases step with
  | act node event next isLocal performed =>
      have course := course_act mesh.Told isLocal peacefully.2 performed
      exact inOrder.setNode course.drawn (fun _ => course)
        (sound.goes_act isLocal peacefully.1 performed).ages
  | accept node ref other dialing =>
      have course := Course.acceptTcp (env other) mesh.Told (mesh.nodes other)
      exact inOrder.setNode course.drawn (fun _ => course)
        (sound.goes_acceptTcp (env other) other True).ages
  | stray node ref dialing => exact inOrder
  | welcome node =>
      have course := Course.acceptTcp (env node) mesh.Told (mesh.nodes node)
      exact inOrder.setNode course.drawn (fun _ => course)
        (sound.goes_acceptTcp (env node) node True).ages
  | deliver node position sent other far within linked =>
      have back := sound.paired node sent.1 other far linked
      have created := (sound.links other far (by simp [back])).1
      have anything : Course (env other) (fun _ => True) (mesh.nodes other)
          ((mesh.nodes other).receive (env other) far (sent.2.drop 4)) :=
        .receive created fun _ _ _ _ _ _ _ => trivial
      exact inOrder.setNode anything.drawn
        (fun orderly => orderly.course_deliver sound (List.mem_of_getElem? within) linked)
        (sound.goes_deliver within linked peacefully.1 True).ages

/-- In a mesh whose random identifiers are distinct and in which strangers are
mute, every TCP session that a node has built is registered, unless the node has
disconnected it: no message of another node has ever taken it away, and none has
kept it from being registered. -/
theorem links_kept (reachable : ((machine env).under (Peacefully env)).Reachable mesh)
    (distinct : mesh.Distinct env) {ref : Ref} (created : ref < (mesh.nodes node).allocated)
    (tcp : ((mesh.nodes node).memory ref).type = .tcp) :
    (mesh.nodes node).Registers ref ∨ ref ∈ (mesh.nodes node).disconnected := by
  have inOrder : mesh.InOrder env := by
    refine reachable.invariant ?_ ?_
    · exact fun start fresh _ => allOrderly_of_fresh fresh
    · rintro before event next run inOrder ⟨peacefully, performed⟩
      have sound := sound_of_reachable (run.weaken fun _ _ peacefully => peacefully.1)
      exact inOrder.step sound peacefully (step_of_perform performed)
  exact (inOrder distinct node).kept ref created tcp

end Orderly

/-! ## A client comes and goes -/

/-- The client of the second node leaves again. -/
def farewell : List (Event Bool) :=
  courtesies ++ [.act true (.removeSession (Uuid.filled 101)), .deliver true 2]

instance (env : Bool → Environment) (mesh : Mesh Bool) : Decidable (mesh.Distinct env) := by
  unfold Distinct
  infer_instance

/-- Afterwards the first node has dropped the placeholder. -/
theorem farewell_run : ∃ mesh ∈ run twoEnvironments (Peacefully twoEnvironments) twoNodes farewell,
    mesh.Distinct twoEnvironments ∧ 0 < (mesh.nodes false).allocated ∧
      ((mesh.nodes false).memory 0).type = .tcp ∧
      (mesh.nodes false).sessions.refs = [0] := by
  decide +kernel

theorem links_kept_farewell :
    ∃ mesh ∈ run twoEnvironments (Peacefully twoEnvironments) twoNodes farewell,
      (mesh.nodes false).sessions.refs = [0] ∧
        ((mesh.nodes false).Registers 0 ∨ 0 ∈ (mesh.nodes false).disconnected) := by
  rcases farewell_run with ⟨mesh, ran, distinct, created, tcp, refs⟩
  exact ⟨mesh, ran, refs,
    links_kept (reachable_of_run twoNodes_fresh ran) distinct created tcp⟩

end Mesh

end Aurum.Cluster
