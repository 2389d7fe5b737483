import Aurum.Cluster.Permanence

/-!
# The mesh over its wires

Between two nodes of a mesh lie, in each direction, the write queue of one
session, a stream of bytes and the read loop of the other.  The nodes go on as in
the mesh, but no message arrives in one piece: the bytes of a message are taken,
carried and read a few at a time, and a body is handled once its last byte has
been read.

Whatever the wires do, the nodes are in a state that the mesh reaches, in which
messages arrive whole.
-/

namespace Aurum.Cluster

open Aurum.Protocol
open Aurum.Container
open Aurum.Node
open Aurum.Transition

universe u

/-- The messages that a TCP session has been told to send. -/
def outgoing (ref : Ref) (state : State) : List Bytes :=
  if (state.memory ref).type = .tcp then state.messages ref else []

/-- What a line hands over is handled elsewhere. -/
def elsewhere (_ : Bytes) (_ : Unit) : Option Bytes × Unit :=
  (none, ())

/-- A mesh with a line out of every session, up to the read loop at its other
end. -/
structure Wired (ι : Type u) where
  mesh : Mesh ι
  lines : ι × Ref → Transport Unit

namespace Wired

variable {ι : Type u}

inductive Event (ι : Type u)
  /-- Something happens in the mesh other than that a message arrives. -/
  | mesh (event : Mesh.Event ι)
  /-- A step of the line out of a session, which `send` does not take. -/
  | line (node : ι) (ref : Ref) (event : Transport.Event)

/-- No node has done anything yet. -/
structure Fresh (wired : Wired ι) : Prop where
  mesh : wired.mesh.Fresh
  lines : ∀ place, wired.lines place = .start ()

/-- The strand of a session has been handed messages. -/
def post (messages : List Bytes) (line : Transport Unit) : Transport Unit :=
  { line with
    writer := { line.writer with
      sent := line.writer.sent ++ messages
      posted := line.writer.posted ++ messages } }

/-- The mesh has gone on, and what its nodes have sent is posted. -/
def goOn (wired : Wired ι) (mesh : Mesh ι) : Wired ι where
  mesh := mesh
  lines place := post ((outgoing place.2 (mesh.nodes place.1)).drop
    (outgoing place.2 (wired.mesh.nodes place.1)).length) (wired.lines place)

def setLine [DecidableEq ι] (place : ι × Ref) (line : Transport Unit) (wired : Wired ι) : Wired ι :=
  { wired with lines := Function.update wired.lines place line }

@[simp]
theorem setLine_lines_self [DecidableEq ι] (place : ι × Ref) (line : Transport Unit)
    (wired : Wired ι) : (wired.setLine place line).lines place = line :=
  Function.update_self _ _ _

theorem setLine_lines_of_ne [DecidableEq ι] {place other : ι × Ref} (differs : other ≠ place)
    (line : Transport Unit) (wired : Wired ι) :
    (wired.setLine place line).lines other = wired.lines other :=
  Function.update_of_ne differs _ _

/-- The body that the outstanding read at the end of a line completes. -/
def handed (line : Transport Unit) : Option Bytes :=
  match line.receiver.reading with
  | .body headerLength =>
      if headerLength.toNat ≤ line.receiver.stream.length then
        some (line.receiver.stream.take headerLength.toNat)
      else
        none
  | _ => none

/-- The body and the session that it is handled on. -/
def arriving (wired : Wired ι) (node : ι) (ref : Ref) : Option (Frame ι) :=
  match wired.mesh.far (node, ref) with
  | .session other far => (handed (wired.lines (node, ref))).map fun body => ⟨other, far, body⟩
  | _ => none

section Perform

variable [DecidableEq ι] (env : ι → Environment)

/-- A callback of a session asks its node to remove it. -/
def removeAt (mesh : Mesh ι) (node : ι) (ref : Ref) : Option (Mesh ι) :=
  mesh.perform env (.act node (.removeSession ((mesh.nodes node).memory ref).id))

/-- What the nodes do about a step of a line; `none` when it cannot be taken. -/
def follow (wired : Wired ι) (node : ι) (ref : Ref) : Transport.Event → Option (Mesh ι)
  | .write (.send _) => none
  | .write (.onWrite _ true) => removeAt env wired.mesh node ref
  | .read =>
      match wired.mesh.far (node, ref) with
      | .session _ _ =>
          match wired.arriving node ref with
          | some frame => some (wired.mesh.setNode frame.node
              ((wired.mesh.nodes frame.node).receive (env frame.node) frame.session frame.bytes))
          | none => some wired.mesh
      | _ => none
  | .fail =>
      match wired.mesh.far (node, ref) with
      | .session other far => removeAt env wired.mesh other far
      | _ => none
  | _ => some wired.mesh

/-- One event; `none` when it cannot happen. -/
def perform (wired : Wired ι) : Event ι → Option (Wired ι)
  | .mesh (.deliver _ _) => none
  | .mesh event =>
      (Machine.carry Mesh.Possible (Mesh.perform env) wired.mesh event).map wired.goOn
  | .line node ref event =>
      (Machine.carry Transport.Possible (Transport.perform elsewhere)
        (wired.lines (node, ref)) event).bind fun line =>
          (wired.follow env node ref event).map
            (wired.setLine (node, ref) line).goOn

/-- The mesh over its wires. -/
def machine : Machine (Wired ι) (Event ι) where
  start := Fresh
  step wired event next := wired.perform env event = some next

end Perform

/-- The replies fit, and strangers send no other messages than those they may. -/
def Decently (may : Submessage → Prop) (env : ι → Environment) (wired : Wired ι) :
    Event ι → Prop
  | .mesh event => wired.mesh.Decently may env event
  | .line node ref .read => ∀ frame ∈ wired.arriving node ref,
      Node.RepliesFit (env frame.node) frame.session frame.bytes (wired.mesh.nodes frame.node)
  | _ => True

/-! ## Messages are posted -/

/-- The lines carry framed messages, and those are what the nodes have sent. -/
structure Tracks (wired : Wired ι) : Prop where
  framed : ∀ node, Said (OnTcp Framed) (wired.mesh.nodes node)
  lines : ∀ place, (Transport.properMachine elsewhere ()).Reachable (wired.lines place)
  sent : ∀ node ref,
    (wired.lines (node, ref)).writer.sent = outgoing ref (wired.mesh.nodes node)

theorem reachable_post {line : Transport Unit}
    (reachable : (Transport.properMachine elsewhere ()).Reachable line) {messages : List Bytes}
    (framed : ∀ message ∈ messages, Framed message) :
    (Transport.properMachine elsewhere ()).Reachable (post messages line) := by
  induction messages generalizing line with
  | nil =>
      have same : post [] line = line := by simp [post]
      rw [same]
      exact reachable
  | cons message messages ih =>
      have sent : (Transport.properMachine elsewhere ()).step line (.write (.send message))
          (post [message] line) := by
        refine ⟨?_, rfl⟩
        rintro _ ⟨⟩
        exact framed message List.mem_cons_self
      have split : post (message :: messages) line = post messages (post [message] line) := by
        simp [post]
      rw [split]
      exact ih (.step reachable sent) fun other member =>
        framed other (List.mem_cons_of_mem message member)

/-- A session object that does not exist has sent nothing. -/
theorem messages_of_new {tells : SessionType → Bytes → Prop} {state : State}
    (said : Said tells state) {ref : Ref} (new : state.allocated ≤ ref) :
    state.messages ref = [] := by
  have none : state.sent.filter (fun sent => sent.1 = ref) = [] := by
    apply List.filter_eq_nil_iff.mpr
    intro sent member
    have created := (said sent member).1
    simpa using Nat.ne_of_lt (created.trans_le new)
  rw [State.messages, none, List.map_nil]

/-- What a TCP session sends later comes behind what it has sent. -/
theorem exists_outgoing {tells : Bytes → Prop} {state next : State}
    (uttered : Utters (OnTcp tells) state next) (said : Said (OnTcp Framed) state) (ref : Ref) :
    ∃ late, outgoing ref next = outgoing ref state ++ late ∧ ∀ message ∈ late, tells message := by
  rcases uttered.messages ref with ⟨late, messagesEq, told⟩
  by_cases tcp : (next.memory ref).type = .tcp
  · refine ⟨late, ?_, fun message member => told message member tcp⟩
    rw [outgoing, if_pos tcp, messagesEq, outgoing]
    by_cases created : ref < state.allocated
    · rw [if_pos ((uttered.same ref created).2.1 ▸ tcp)]
    · rw [messages_of_new said (Nat.not_lt.mp created), ite_self]
  · refine ⟨[], ?_, fun _ member => absurd member List.not_mem_nil⟩
    rw [outgoing, if_neg tcp, outgoing, List.append_nil]
    by_cases created : ref < state.allocated
    · rw [if_neg ((uttered.same ref created).2.1 ▸ tcp)]
    · rw [messages_of_new said (Nat.not_lt.mp created), ite_self]

section

variable {wired : Wired ι}

theorem tracks_of_fresh (fresh : wired.Fresh) : wired.Tracks where
  framed := by
    intro node sent member
    obtain ⟨nodeId, tcpPort, same⟩ := fresh.mesh.nodes node
    rw [same] at member
    cases member
  lines := by
    intro place
    rw [fresh.lines place]
    exact .start rfl
  sent := by
    intro node ref
    obtain ⟨nodeId, tcpPort, same⟩ := fresh.mesh.nodes node
    have silent : (State.initial nodeId tcpPort).messages ref = [] := rfl
    rw [fresh.lines, same, outgoing, silent, ite_self]
    rfl

/-- The nodes have sent framed messages. -/
theorem Tracks.goOn (tracks : wired.Tracks) {next : Mesh ι}
    (uttered : ∀ node, Utters (OnTcp Framed) (wired.mesh.nodes node) (next.nodes node)) :
    (wired.goOn next).Tracks where
  framed := fun node => (tracks.framed node).utter (uttered node)
  lines := by
    rintro ⟨node, ref⟩
    rcases exists_outgoing (uttered node) (tracks.framed node) ref with ⟨late, outgoingEq, framed⟩
    apply reachable_post (tracks.lines (node, ref))
    intro message member
    simp only [outgoingEq, List.drop_left] at member
    exact framed message member
  sent := by
    intro node ref
    rcases exists_outgoing (uttered node) (tracks.framed node) ref with ⟨late, outgoingEq, _⟩
    simp only [Wired.goOn, post, tracks.sent node ref, outgoingEq, List.drop_left]

/-- A line has moved, and nothing has been sent on it. -/
theorem Tracks.setLine [DecidableEq ι] (tracks : wired.Tracks) {node : ι} {ref : Ref}
    {line : Transport Unit} (reachable : (Transport.properMachine elsewhere ()).Reachable line)
    (sent : line.writer.sent = (wired.lines (node, ref)).writer.sent) :
    (wired.setLine (node, ref) line).Tracks where
  framed := tracks.framed
  lines := by
    intro place
    by_cases isPlace : place = (node, ref)
    · rw [isPlace, setLine_lines_self]
      exact reachable
    · rw [setLine_lines_of_ne isPlace]
      exact tracks.lines place
  sent := by
    intro other distant
    refine Eq.trans ?_ (tracks.sent other distant)
    by_cases isPlace : (other, distant) = (node, ref)
    · rw [isPlace, setLine_lines_self, sent]
    · rw [setLine_lines_of_ne isPlace]

/-- Whatever is handed over is the body of a message that the session has
sent. -/
theorem Tracks.exists_message (tracks : wired.Tracks) {node : ι} {ref : Ref} {body : Bytes}
    (isHanded : handed (wired.lines (node, ref)) = some body) :
    ∃ (position : Nat) (message : Bytes),
      (wired.mesh.nodes node).sent[position]? = some (ref, message) ∧
        message ≠ [] ∧ message.drop 4 = body := by
  have aligned := Transport.aligned_of_reachable (tracks.lines (node, ref))
  unfold handed at isHanded
  split at isHanded
  · rename_i headerLength reading
    split at isHanded
    · rename_i arrived
      cases isHanded
      rcases aligned.next_body reading arrived with ⟨rest, oldest⟩
      have front : (wired.lines (node, ref)).receiver.stream.take headerLength.toNat ∈
          bodies (wired.lines (node, ref)).writer.ran := by
        rw [oldest]
        exact List.mem_append_right _ List.mem_cons_self
      rcases List.mem_map.mp front with ⟨message, kept, isBody⟩
      rcases List.mem_filter.mp kept with ⟨ran, nonempty⟩
      have told : message ∈ outgoing ref (wired.mesh.nodes node) := by
        rw [← tracks.sent node ref]
        exact aligned.consistent.conserved.subset (List.mem_append_left _ ran)
      have isSent : (ref, message) ∈ (wired.mesh.nodes node).sent := by
        unfold outgoing at told
        split at told
        · rcases List.mem_map.mp told with ⟨sent, isOn, rfl⟩
          rcases List.mem_filter.mp isOn with ⟨within, isRef⟩
          have sameRef : sent.1 = ref := by simpa using isRef
          rw [← sameRef]
          exact within
        · cases told
      rcases List.getElem?_of_mem isSent with ⟨position, within⟩
      exact ⟨position, message, within, by simpa using nonempty, isBody⟩
    · cases isHanded
  · cases isHanded

end

/-! ## Steps of the mesh -/

section

variable [DecidableEq ι] {may : Submessage → Prop} {env : ι → Environment} {wired : Wired ι}
  {mesh after : Mesh ι}

/-- What the nodes send in a step of the mesh is framed. -/
theorem uttered_step {event : Mesh.Event ι} (sound : mesh.Sound)
    (step : Mesh.Step env mesh event after) (node : ι) :
    Utters (OnTcp Framed) (mesh.nodes node) (after.nodes node) := by
  have stays : ∀ other, Utters (OnTcp Framed) (mesh.nodes other) (mesh.nodes other) :=
    fun _ => .refl _
  have goes : ∀ {acting : ι} {next : State},
      Utters (OnTcp Framed) (mesh.nodes acting) next →
        Utters (OnTcp Framed) (mesh.nodes node) ((mesh.setNode acting next).nodes node) :=
    fun uttered => Mesh.forall_setNode
      (fun other state => Utters (OnTcp Framed) (mesh.nodes other) state) uttered stays node
  cases step with
  | act acting event next isLocal performed =>
      apply goes
      apply (voice_framed (env acting) _ fun _ => True).perform rfl (sound.formed acting)
        (fun _ _ => trivial) isLocal.enabled performed
      · exact fun _ _ _ _ built _ => framed_of_getData built
      · exact fun session frame _ buffer replied tcp =>
          framed_of_getData (exists_replied tcp replied)
      · rintro target message rfl
        exact isLocal.elim
  | accept dialer ref other dialing => exact goes (.acceptTcp (env other) _)
  | stray dialer ref dialing => exact .refl _
  | welcome acting => exact goes (.acceptTcp (env acting) _)
  | deliver sender position sent other far within linked =>
      have back := sound.paired sender sent.1 other far linked
      apply goes
      apply (voice_framed (env other) _ fun _ => True).receive rfl
        (sound.links other far (by simp [back])).1
      exact fun buffer replied tcp => framed_of_getData (exists_replied tcp replied)

/-- The mesh has taken a step, or none. -/
def Moved (may : Submessage → Prop) (env : ι → Environment) (mesh after : Mesh ι) : Prop :=
  after = mesh ∨ ∃ event, mesh.Decently may env event ∧
    Machine.carry Mesh.Possible (Mesh.perform env) mesh event = some after

/-- A callback that removes a session is a step of the mesh. -/
theorem moved_of_removeAt {node : ι} {ref : Ref}
    (removed : removeAt env mesh node ref = some after) : Moved may env mesh after :=
  Or.inr ⟨.act node (.removeSession ((mesh.nodes node).memory ref).id), ⟨trivial, trivial⟩,
    Machine.carry_eq_some_iff.mpr ⟨trivial, removed⟩⟩

/-- What the nodes do about a step of a line is nothing, or a step of the
mesh. -/
theorem Tracks.moved_of_follow (tracks : wired.Tracks) {node : ι} {ref : Ref}
    {event : Transport.Event} (decently : wired.Decently may env (.line node ref event))
    (followed : wired.follow env node ref event = some after) : Moved may env wired.mesh after := by
  unfold follow at followed
  split at followed
  · cases followed
  · exact moved_of_removeAt followed
  · split at followed
    · rename_i other far linked
      split at followed
      · rename_i frame arrives
        cases followed
        right
        have isHanded := arrives
        rw [arriving, linked] at isHanded
        rcases Option.map_eq_some_iff.mp isHanded with ⟨body, handedEq, rfl⟩
        rcases tracks.exists_message handedEq with ⟨position, message, within, nonempty, rfl⟩
        have incoming := Mesh.incoming_eq within linked
        refine ⟨.deliver node position, ⟨?_, trivial⟩, Machine.carry_eq_some_iff.mpr ⟨?_, ?_⟩⟩
        · intro frame isFrame
          rw [incoming] at isFrame
          cases isFrame
          exact decently _ arrives
        · simp [Mesh.Possible, within, nonempty]
        · simp only [Mesh.perform, incoming, Option.map_some]
      · cases followed
        exact Or.inl rfl
    · cases followed
  · split at followed
    · exact moved_of_removeAt followed
    · cases followed
  · cases followed
    exact Or.inl rfl

theorem exists_carried {event : Mesh.Event ι} {next : Wired ι}
    (performed : wired.perform env (.mesh event) = some next) :
    ∃ after, Machine.carry Mesh.Possible (Mesh.perform env) wired.mesh event = some after ∧
      wired.goOn after = next := by
  cases event with
  | deliver node position => cases performed
  | _ => exact Option.map_eq_some_iff.mp performed

theorem Tracks.goOn_of_moved (tracks : wired.Tracks) (sound : wired.mesh.Sound)
    (moved : Moved may env wired.mesh after) : (wired.goOn after).Tracks := by
  apply tracks.goOn
  intro node
  rcases moved with rfl | ⟨event, _, carried⟩
  · exact .refl _
  · exact uttered_step sound (Mesh.step_of_perform carried) node

/-- Every step over the wires is one of the mesh, or none. -/
theorem Tracks.step (tracks : wired.Tracks) (sound : wired.mesh.Sound) {event : Event ι}
    {next : Wired ι} (decently : wired.Decently may env event)
    (performed : wired.perform env event = some next) :
    next.Tracks ∧ Moved may env wired.mesh next.mesh := by
  cases event with
  | mesh event =>
      rcases exists_carried performed with ⟨after, carried, rfl⟩
      have moved : Moved may env wired.mesh after := Or.inr ⟨event, decently, carried⟩
      exact ⟨tracks.goOn_of_moved sound moved, moved⟩
  | line node ref event =>
      rcases Option.bind_eq_some_iff.mp performed with ⟨line, carried, rest⟩
      rcases Option.map_eq_some_iff.mp rest with ⟨after, followed, rfl⟩
      have notSend : ∀ message, event ≠ .write (.send message) := by
        rintro message rfl
        cases followed
      have moved := tracks.moved_of_follow decently followed
      have reached : (Transport.properMachine elsewhere ()).Reachable line :=
        .step (tracks.lines (node, ref)) ⟨Transport.proper_of_not_send notSend, carried⟩
      have sent := Transport.sent_of_step notSend (Transport.step_of_perform carried)
      exact ⟨(tracks.setLine reached sent).goOn_of_moved sound moved, moved⟩

theorem tracks_of_reachable (reachable : ((machine env).under (Decently may env)).Reachable wired) :
    wired.Tracks ∧ ((Mesh.machine env).under (Mesh.Decently may env)).Reachable wired.mesh := by
  induction reachable with
  | start fresh => exact ⟨tracks_of_fresh fresh, .start fresh.mesh⟩
  | step before taken ih =>
      rcases ih with ⟨tracks, reached⟩
      have sound := Mesh.sound_of_reachable (reached.weaken fun _ _ decently => decently.1)
      rcases tracks.step sound taken.1 taken.2 with ⟨tracked, same | ⟨event, still, carried⟩⟩
      · exact ⟨tracked, same ▸ reached⟩
      · exact ⟨tracked, .step reached ⟨still, carried⟩⟩

/-- Over the wires the nodes reach no other states than in a mesh in which messages
arrive whole.  On every line what is posted and what `on_send` has run on is what
the node has sent there, and the read loop at the other end has handled the first
bodies of the latter, each once and in order. -/
theorem wires_refine (reachable : ((machine env).under (Decently may env)).Reachable wired) :
    ((Mesh.machine env).under (Mesh.Decently may env)).Reachable wired.mesh ∧
      ∀ node ref,
        ((wired.lines (node, ref)).writer.ran ++ (wired.lines (node, ref)).writer.posted).Perm
            (outgoing ref (wired.mesh.nodes node)) ∧
          (wired.lines (node, ref)).receiver.handled <+:
            bodies (wired.lines (node, ref)).writer.ran := by
  obtain ⟨tracks, refines⟩ := tracks_of_reachable reachable
  refine ⟨refines, ?_⟩
  intro node ref
  have line := tracks.lines (node, ref)
  have conserved := (Transport.aligned_of_reachable line).consistent.conserved
  rw [tracks.sent node ref] at conserved
  exact ⟨conserved, Fifo.delivered_prefix_of_reachable (Transport.fifo_of_reachable line)⟩

end

/-! ## A message in two portions -/

instance (may : Submessage → Prop) [DecidablePred may] (env : ι → Environment)
    (wired : Wired ι) : DecidablePred (wired.Decently may env) :=
  fun event => by
    unfold Decently
    split <;> infer_instance

/-- The mesh and its wires after some events, if each was possible and allowed. -/
def run [DecidableEq ι] (may : Submessage → Prop) [DecidablePred may] (env : ι → Environment)
    (start : Wired ι) (events : List (Event ι)) :
    Option (Wired ι) :=
  events.foldlM (Machine.carry (Decently may env) (perform env)) start

theorem reachable_of_run [DecidableEq ι] {may : Submessage → Prop} [DecidablePred may]
    {env : ι → Environment} {start next : Wired ι} {events : List (Event ι)} (fresh : start.Fresh)
    (ran : next ∈ run may env start events) :
    ((machine env).under (Decently may env)).Reachable next := by
  have starts : ((machine env).under (Decently may env)).Reachable start := .start fresh
  exact starts.foldlM_carry (fun _ _ _ performed => performed) ran

/-- Two nodes and no connection. -/
def twoWired : Wired Bool where
  mesh := Mesh.twoNodes
  lines _ := .start ()

/-- The first node dials the second; its opening request is cut in the middle. -/
def portions : List (Event Bool) :=
  [.mesh (.act false (.connect [97] 7000 false 0)), .mesh (.accept false 0 true),
    .line false 0 (.write (.onSend 0)), .line false 0 (.take 30), .line false 0 (.arrive 10),
    .line false 0 .read, .line false 0 (.take 27), .line false 0 (.write (.onWrite 0 false)),
    .line false 0 (.arrive 47), .line false 0 .read]

theorem twoWired_fresh : twoWired.Fresh :=
  ⟨Mesh.twoNodes_fresh, fun _ => rfl⟩

/-- Afterwards the second node has identified the first. -/
theorem portions_run : ∃ wired ∈ run (fun _ => True) Mesh.twoEnvironments twoWired portions,
    ((wired.mesh.nodes true).memory 0).nodeId = Uuid.filled 1 ∧
      (wired.lines (false, 0)).receiver.handled.length = 1 := by
  decide +kernel

theorem wires_refine_portions :
    ∃ wired ∈ run (fun _ => True) Mesh.twoEnvironments twoWired portions,
    ((wired.mesh.nodes true).memory 0).nodeId = Uuid.filled 1 ∧
      (wired.lines (false, 0)).receiver.handled.length = 1 ∧
      ((Mesh.machine Mesh.twoEnvironments).under
        (Mesh.Decently (fun _ => True) Mesh.twoEnvironments)).Reachable wired.mesh ∧
      ∀ node ref,
        ((wired.lines (node, ref)).writer.ran ++ (wired.lines (node, ref)).writer.posted).Perm
            (outgoing ref (wired.mesh.nodes node)) ∧
          (wired.lines (node, ref)).receiver.handled <+:
            bodies (wired.lines (node, ref)).writer.ran := by
  rcases portions_run with ⟨wired, ran, identified, handled⟩
  exact ⟨wired, ran, identified, handled,
    wires_refine (reachable_of_run twoWired_fresh ran)⟩

end Wired

end Aurum.Cluster
