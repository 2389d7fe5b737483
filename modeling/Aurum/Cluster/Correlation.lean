import Aurum.Cluster.Wires
import Aurum.Node.Correlation

/-!
# Requests and responses across the links

Nothing ties a response to a request but its transaction id, and the handlers do
not check whether they have asked.  Between nodes they need not: what a node
hears on a link in response to itself are transaction ids of requests that it has
sent on that very link, none more often than it has been sent.
-/

namespace Aurum.Cluster

open Aurum.Protocol
open Aurum.Node
open Aurum.Transition

universe u

/-- What the items of a part of a list give is a part of what those of the list
give. -/
theorem subperm_flatMap {α β : Type} {first second : List α} (within : first.Subperm second)
    (items : α → List β) : (first.flatMap items).Subperm (second.flatMap items) := by
  rcases within with ⟨middle, perm, sublist⟩
  exact ⟨middle.flatMap items, perm.flatMap_right items, sublist.flatMap items⟩

namespace Wired

variable {ι : Type u}

/-- The frames that a node has handled on a link to a node. -/
def heard (wired : Wired ι) (node : ι) (ref : Ref) : List Bytes :=
  match wired.mesh.far (node, ref) with
  | .session other far => (wired.lines (other, far)).receiver.handled
  | _ => []

/-- What a node has sent on a session that does not lead to a stranger contains
no other responses than to what it has heard there. -/
structure Correlated (wired : Wired ι) : Prop where
  unheard : ∀ node ref, (∀ other far, wired.mesh.far (node, ref) ≠ .session other far) →
    (wired.lines (node, ref)).receiver.handled = []
  answered : ∀ node ref, wired.mesh.far (node, ref) ≠ .stranger →
    (responseIds (bodies (outgoing ref (wired.mesh.nodes node)))).Sublist
      (requestIds (wired.heard node ref))

theorem heard_eq {wired : Wired ι} {node other : ι} {ref far : Ref}
    (linked : wired.mesh.far (node, ref) = .session other far) :
    wired.heard node ref = (wired.lines (other, far)).receiver.handled := by
  rw [heard, linked]

theorem heard_eq_nil {wired : Wired ι} {node : ι} {ref : Ref}
    (free : wired.mesh.far (node, ref) = .nobody) : wired.heard node ref = [] := by
  rw [heard, free]

theorem correlated_of_fresh {wired : Wired ι} (fresh : wired.Fresh) : wired.Correlated where
  unheard := by
    intro node ref _
    rw [fresh.lines]
    rfl
  answered := by
    intro node ref _
    obtain ⟨nodeId, tcpPort, same⟩ := fresh.mesh.nodes node
    have silent : outgoing ref (State.initial nodeId tcpPort) = [] := by
      rw [outgoing]
      split <;> rfl
    rw [heard_eq_nil (fresh.mesh.far _), same, silent]
    exact List.nil_sublist _

variable {wired : Wired ι}

/-- What is posted has not been heard yet. -/
theorem heard_goOn {after : Mesh ι} (far : after.far = wired.mesh.far) (node : ι) (ref : Ref) :
    (wired.goOn after).heard node ref = wired.heard node ref := by
  simp only [heard, Wired.goOn, far]
  rfl

/-- Nothing new has been answered. -/
theorem Correlated.goOn (correlated : wired.Correlated) {after : Mesh ι}
    (far : after.far = wired.mesh.far)
    (asks : ∀ node ref, wired.mesh.far (node, ref) ≠ .stranger →
      responseIds (bodies (outgoing ref (after.nodes node))) =
        responseIds (bodies (outgoing ref (wired.mesh.nodes node)))) :
    (wired.goOn after).Correlated where
  unheard := by
    intro node ref unlinked
    have before : ∀ other distant, wired.mesh.far (node, ref) ≠ .session other distant := by
      intro other distant
      rw [← far]
      exact unlinked other distant
    exact correlated.unheard node ref before
  answered := by
    intro node ref known
    have before : wired.mesh.far (node, ref) ≠ .stranger := by
      rw [← far]
      exact known
    have goesOn : (wired.goOn after).mesh = after := rfl
    rw [heard_goOn far, goesOn, asks node ref before]
    exact correlated.answered node ref before

/-- The responses do not change when a node only asks. -/
theorem responseIds_of_asks {state next : State} (asks : Utters (OnTcp Asking) state next)
    (said : Said (OnTcp Framed) state) (ref : Ref) :
    responseIds (bodies (outgoing ref next)) = responseIds (bodies (outgoing ref state)) := by
  rcases exists_outgoing asks said ref with ⟨late, outgoingEq, asking⟩
  rw [outgoingEq, bodies_append, responseIds_append, responseIds_of_asking asking,
    List.append_nil]

/-- What a frame adds to the messages of the sessions. -/
theorem outgoing_receive (env : Environment) (session ref : Ref) (frame : Bytes) (state : State) :
    outgoing ref (state.receive env session frame) =
      outgoing ref (handle env frame session state).state ++
        if ((handle env frame session state).state.memory ref).type = .tcp ∧ session = ref then
          replyOf (handle env frame session state).outcome
        else
          [] := by
  rcases exists_receive_eq env session frame state with ⟨sent, received⟩
  have memory : (state.receive env session frame).memory =
      (handle env frame session state).state.memory := by rw [received]
  rw [outgoing, memory, messages_receive, outgoing]
  by_cases tcp : ((handle env frame session state).state.memory ref).type = .tcp
  · simp [tcp]
  · simp [tcp]

/-- A frame on another session makes a node ask only, as far as a session is
concerned. -/
theorem responseIds_receive_of_ne {env : Environment} {session ref : Ref} {frame : Bytes}
    {state : State} (said : Said (OnTcp Framed) state) (distinct : session ≠ ref) :
    responseIds (bodies (outgoing ref (state.receive env session frame))) =
      responseIds (bodies (outgoing ref state)) := by
  have asks := (voice_asking env state.nodeId fun _ => True).handle rfl frame session
  rw [outgoing_receive, if_neg fun both => distinct both.2, List.append_nil]
  exact responseIds_of_asks asks said ref

/-- A frame is answered on its session. -/
theorem responseIds_receive {env : Environment} {session : Ref} {frame : Bytes} {state : State}
    (said : Said (OnTcp Framed) state) (created : session < state.allocated)
    (tcp : (state.memory session).type = .tcp) :
    responseIds (bodies (outgoing session (state.receive env session frame))) =
      responseIds (bodies (outgoing session state)) ++
        responseIds (bodies (replyOf (handle env frame session state).outcome)) := by
  have asks := (voice_asking env state.nodeId fun _ => True).handle rfl frame session
  have still : ((handle env frame session state).state.memory session).type = .tcp :=
    (asks.same session created).2.1.trans tcp
  rw [outgoing_receive, if_pos ⟨still, rfl⟩, bodies_append, responseIds_append,
    responseIds_of_asks asks said]

variable {may : Submessage → Prop} {env : ι → Environment}

/-- What happens at a node other than that a message of a node arrives is nothing
that it has to respond to on a link. -/
theorem responseIds_act {node : ι} {event : Node.Event} {next : State} {mesh : Mesh ι}
    (sound : mesh.Sound) (said : Said (OnTcp Framed) (mesh.nodes node))
    (isLocal : mesh.Local node event)
    (performed : (mesh.nodes node).perform (env node) event = .ok next) {ref : Ref}
    (known : mesh.far (node, ref) ≠ .stranger) :
    responseIds (bodies (outgoing ref next)) =
      responseIds (bodies (outgoing ref (mesh.nodes node))) := by
  by_cases isFrame : ∃ session frame, event = .frame session frame
  · rcases isFrame with ⟨session, frame, rfl⟩
    cases performed
    by_cases isRef : session = ref
    · -- The frame is one of a client.
      subst isRef
      obtain ⟨created, websocket | strange⟩ := isLocal
      · have enabled : (Node.Event.frame session frame).Enabled (mesh.nodes node) := created
        have aged : Ages (mesh.nodes node) ((mesh.nodes node).receive (env node) session frame) :=
          ages_of_perform (sound.formed node) enabled
            (show (mesh.nodes node).perform (env node) (.frame session frame) = .ok _ from rfl)
        have same := aged.same session created
        rw [outgoing, outgoing, same.2.1, websocket]
        simp
      · exact absurd strange known
    · exact responseIds_receive_of_ne said isRef
  · apply responseIds_of_asks _ said
    apply asks_of_perform (sound.formed node) isLocal.enabled _ _ performed
    · exact fun session frame is => isFrame ⟨session, frame, is⟩
    · rintro target message rfl
      exact isLocal

variable [DecidableEq ι]

/-- One node has gone on without a response. -/
theorem Correlated.setNode (correlated : wired.Correlated) {node : ι} {next : State}
    (asks : ∀ ref, wired.mesh.far (node, ref) ≠ .stranger →
      responseIds (bodies (outgoing ref next)) =
        responseIds (bodies (outgoing ref (wired.mesh.nodes node)))) :
    (wired.goOn (wired.mesh.setNode node next)).Correlated := by
  have far : (wired.mesh.setNode node next).far = wired.mesh.far := rfl
  apply correlated.goOn far
  exact Mesh.forall_setNode (fun other state => ∀ ref, wired.mesh.far (other, ref) ≠ .stranger →
    responseIds (bodies (outgoing ref state)) =
      responseIds (bodies (outgoing ref (wired.mesh.nodes other)))) asks fun _ _ _ => rfl

/-- Something has happened at a node other than that a message of a node has
arrived. -/
theorem Correlated.act (correlated : wired.Correlated) (sound : wired.mesh.Sound)
    (framed : ∀ node, Said (OnTcp Framed) (wired.mesh.nodes node)) {node : ι}
    {event : Node.Event} {next : State} (isLocal : wired.mesh.Local node event)
    (performed : (wired.mesh.nodes node).perform (env node) event = .ok next) :
    (wired.goOn (wired.mesh.setNode node next)).Correlated := by
  apply correlated.setNode
  intro ref known
  exact responseIds_act sound (framed node) isLocal performed known

/-- A connection has been accepted by a node, and the new session does not lead to
a node yet. -/
theorem Correlated.acceptTcp (correlated : wired.Correlated)
    (framed : ∀ node, Said (OnTcp Framed) (wired.mesh.nodes node)) (env : ι → Environment)
    (node : ι) :
    (wired.goOn (wired.mesh.setNode node
      ((wired.mesh.nodes node).acceptTcp (env node)))).Correlated := by
  apply correlated.setNode
  intro ref _
  exact responseIds_of_asks (.acceptTcp (env node) _) (framed node) ref

/-- A session that led nowhere leads somewhere. -/
theorem Correlated.setFar (correlated : wired.Correlated) {place : ι × Ref}
    (free : wired.mesh.far place = .nobody) (far : Far ι) :
    ({ wired with mesh := wired.mesh.setFar place far } : Wired ι).Correlated where
  unheard := by
    intro node ref unlinked
    apply correlated.unheard
    intro other distant linked
    by_cases isPlace : (node, ref) = place
    · rw [isPlace, free] at linked
      cases linked
    · exact unlinked other distant ((Mesh.setFar_far_of_ne isPlace _ _).trans linked)
  answered := by
    intro node ref known
    by_cases isPlace : (node, ref) = place
    · -- Nothing has been heard there, so nothing has been answered.
      subst isPlace
      have answered := correlated.answered node ref (by simp [free])
      rw [heard_eq_nil free] at answered
      have same : (wired.mesh.setFar (node, ref) far).nodes = wired.mesh.nodes := rfl
      simp only [same, List.sublist_nil.mp answered]
      exact List.nil_sublist _
    · have same := Mesh.setFar_far_of_ne isPlace far wired.mesh
      simp only [same] at known
      simp only [heard, same]
      exact correlated.answered node ref known

/-! ## Steps of a line -/

/-- What a step of a line hands over. -/
theorem handled_of_step {line next : Transport Unit} {event : Transport.Event}
    (step : Transport.Step elsewhere line event next) :
    next.receiver.handled =
      line.receiver.handled ++ if event = .read then (handed line).toList else [] := by
  cases step with
  | header reading arrived => simp [Receiver.readHeader, handed, reading]
  | body headerLength reading arrived =>
      simp [Receiver.readBody, handed, reading, arrived, elsewhere]
  | fail => simp [Receiver.remove]
  | _ => simp

/-- Something is heard only at the other end of a line. -/
theorem heard_setLine_of_ne {place : ι × Ref} {line : Transport Unit} {node : ι} {ref : Ref}
    (apart : wired.mesh.far (node, ref) ≠ .session place.1 place.2) :
    (wired.setLine place line).heard node ref = wired.heard node ref := by
  have mesh : (wired.setLine place line).mesh = wired.mesh := rfl
  simp only [heard, mesh]
  split
  · rename_i other far linked
    have differs : (other, far) ≠ place := by
      rintro rfl
      exact apart linked
    rw [setLine_lines_of_ne differs]
  · rfl

/-- A line has moved and nothing has been handed over. -/
theorem Correlated.setLine (correlated : wired.Correlated) {place : ι × Ref}
    {line : Transport Unit} (handled : line.receiver.handled =
      (wired.lines place).receiver.handled) : (wired.setLine place line).Correlated := by
  have same : ∀ other, ((wired.setLine place line).lines other).receiver.handled =
      (wired.lines other).receiver.handled := by
    intro other
    by_cases isPlace : other = place
    · subst isPlace
      rw [setLine_lines_self, handled]
    · rw [setLine_lines_of_ne isPlace]
  constructor
  · intro node ref unlinked
    rw [same]
    exact correlated.unheard node ref unlinked
  · intro node ref known
    have heardEq : (wired.setLine place line).heard node ref = wired.heard node ref := by
      have mesh : (wired.setLine place line).mesh = wired.mesh := rfl
      simp only [heard, mesh]
      split
      · exact same _
      · rfl
    rw [heardEq]
    exact correlated.answered node ref known

/-- A message has arrived and is answered. -/
theorem Correlated.deliver (correlated : wired.Correlated) (sound : wired.mesh.Sound)
    (framed : ∀ node, Said (OnTcp Framed) (wired.mesh.nodes node)) {node other : ι}
    {ref far : Ref} {body : Bytes} {line : Transport Unit}
    (linked : wired.mesh.far (node, ref) = .session other far)
    (handled : line.receiver.handled = (wired.lines (node, ref)).receiver.handled ++ [body])
    (fits : Node.RepliesFit (env other) far body (wired.mesh.nodes other)) :
    ((wired.setLine (node, ref) line).goOn (wired.mesh.setNode other
      ((wired.mesh.nodes other).receive (env other) far body))).Correlated := by
  have back := sound.paired node ref other far linked
  have known := sound.links other far (by simp [back])
  have farEq : (wired.mesh.setNode other ((wired.mesh.nodes other).receive (env other) far
      body)).far = (wired.setLine (node, ref) line).mesh.far := rfl
  constructor
  · intro third distant unlinked
    have differs : (third, distant) ≠ (node, ref) := by
      rintro isLine
      cases isLine
      exact unlinked other far linked
    have same : (((wired.setLine (node, ref) line).goOn (wired.mesh.setNode other
        ((wired.mesh.nodes other).receive (env other) far body))).lines
          (third, distant)).receiver = (wired.lines (third, distant)).receiver := by
      simp [Wired.goOn, post, Wired.setLine, differs]
    rw [same]
    exact correlated.unheard third distant unlinked
  · intro third distant isKnown
    rw [heard_goOn farEq]
    by_cases isFar : third = other ∧ distant = far
    · obtain ⟨rfl, rfl⟩ := isFar
      have heardEq : (wired.setLine (node, ref) line).heard third distant =
          wired.heard third distant ++ [body] := by
        have linkedBack : (wired.setLine (node, ref) line).mesh.far (third, distant) =
            .session node ref := back
        rw [heard_eq linkedBack, heard_eq back, setLine_lines_self, handled]
      simp only [Wired.goOn, Mesh.setNode_nodes_self]
      rw [heardEq, requestIds_append, responseIds_receive (framed third) known.1 known.2]
      exact (correlated.answered third distant isKnown).append
        (responseIds_replyOf known.1 known.2 fits)
    · have apart : wired.mesh.far (third, distant) ≠ .session node ref := by
        intro alsoLinked
        have again := sound.paired third distant node ref alsoLinked
        rw [linked] at again
        cases again
        exact isFar ⟨rfl, rfl⟩
      rw [heard_setLine_of_ne apart]
      have asks : responseIds (bodies (outgoing distant ((wired.mesh.setNode other
          ((wired.mesh.nodes other).receive (env other) far body)).nodes third))) =
            responseIds (bodies (outgoing distant (wired.mesh.nodes third))) := by
        by_cases isOther : third = other
        · subst isOther
          rw [Mesh.setNode_nodes_self]
          apply responseIds_receive_of_ne (framed third)
          rintro rfl
          exact isFar ⟨rfl, rfl⟩
        · rw [Mesh.setNode_nodes_of_ne isOther]
      simp only [Wired.goOn, asks]
      exact correlated.answered third distant isKnown

/-- A callback has removed a session. -/
theorem Correlated.removeAt (correlated : wired.Correlated) (sound : wired.mesh.Sound)
    (framed : ∀ node, Said (OnTcp Framed) (wired.mesh.nodes node)) {node : ι} {ref : Ref}
    {after : Mesh ι} (removed : Wired.removeAt env wired.mesh node ref = some after) :
    (wired.goOn after).Correlated := by
  rcases Option.map_eq_some_iff.mp removed with ⟨next, performed, rfl⟩
  have isLocal : wired.mesh.Local node (.removeSession ((wired.mesh.nodes node).memory ref).id) :=
    trivial
  exact correlated.act sound framed isLocal (Result.toOption_eq_some_iff.mp performed)

/-- The nodes have followed a step of a line. -/
theorem Correlated.follow (correlated : wired.Correlated) (sound : wired.mesh.Sound)
    (framed : ∀ node, Said (OnTcp Framed) (wired.mesh.nodes node)) {node : ι} {ref : Ref}
    {event : Transport.Event} {line : Transport Unit} {after : Mesh ι}
    (decently : wired.Decently may env (.line node ref event))
    (step : Transport.Step elsewhere (wired.lines (node, ref)) event line)
    (followed : wired.follow env node ref event = some after) :
    ((wired.setLine (node, ref) line).goOn after).Correlated := by
  have moved := handled_of_step step
  -- Nothing is handed over but by a read that completes a body.
  have quiet : (event = .read → handed (wired.lines (node, ref)) = none) →
      (wired.setLine (node, ref) line).Correlated := by
    intro none
    apply correlated.setLine
    rw [moved]
    split
    · rename_i isRead
      simp [none isRead]
    · simp
  have stays : (wired.setLine (node, ref) line).Correlated →
      ((wired.setLine (node, ref) line).goOn wired.mesh).Correlated :=
    fun settled => settled.goOn rfl fun _ _ _ => rfl
  unfold Wired.follow at followed
  split at followed
  · cases followed
  · have settled := quiet (fun isRead => Transport.Event.noConfusion isRead)
    exact settled.removeAt sound framed followed
  · split at followed
    · rename_i other far linked
      cases isHanded : handed (wired.lines (node, ref)) with
      | none =>
          have arrives : wired.arriving node ref = none := by
            rw [arriving, linked, isHanded]
            rfl
          rw [arrives] at followed
          cases followed
          exact stays (quiet fun _ => isHanded)
      | some body =>
          have arrives : wired.arriving node ref = some ⟨other, far, body⟩ := by
            rw [arriving, linked, isHanded]
            rfl
          have fits := decently _ arrives
          rw [arrives] at followed
          cases followed
          apply correlated.deliver sound framed linked _ fits
          rw [moved, isHanded]
          rfl
    · cases followed
  · split at followed
    · have settled := quiet (fun isRead => Transport.Event.noConfusion isRead)
      exact settled.removeAt sound framed followed
    · cases followed
  · rename_i notSend notFailed notRead notFail
    cases followed
    exact stays (quiet fun isRead => absurd isRead notRead)

/-- Whatever happens, what is answered has been heard. -/
theorem Correlated.step (correlated : wired.Correlated) (sound : wired.mesh.Sound)
    (framed : ∀ node, Said (OnTcp Framed) (wired.mesh.nodes node)) {event : Event ι}
    {next : Wired ι} (decently : wired.Decently may env event)
    (performed : wired.perform env event = some next) : next.Correlated := by
  cases event with
  | mesh event =>
      rcases exists_carried performed with ⟨after, carried, rfl⟩
      cases Mesh.step_of_perform carried with
      | act node event next isLocal acted => exact correlated.act sound framed isLocal acted
      | accept node ref other dialing =>
          have fresh := sound.nobody (Nat.le_refl (wired.mesh.nodes other).allocated)
          have near := (correlated.acceptTcp framed env other).setFar dialing.2.2
            (.session other (wired.mesh.nodes other).allocated)
          refine near.setFar (Eq.trans (Mesh.setFar_far_of_ne ?_ _ _) fresh) _
          rintro ⟨⟩
          exact absurd dialing.1 (Nat.lt_irrefl _)
      | stray node ref dialing =>
          have unmoved : (wired.goOn wired.mesh).Correlated :=
            correlated.goOn rfl fun _ _ _ => rfl
          exact unmoved.setFar dialing.2.2 .stranger
      | welcome node =>
          have fresh := sound.nobody (Nat.le_refl (wired.mesh.nodes node).allocated)
          exact (correlated.acceptTcp framed env node).setFar fresh .stranger
      | deliver node position sent other far within linked => cases performed
  | line node ref event =>
      rcases Option.bind_eq_some_iff.mp performed with ⟨line, carried, rest⟩
      rcases Option.map_eq_some_iff.mp rest with ⟨after, followed, rfl⟩
      exact correlated.follow sound framed decently (Transport.step_of_perform carried) followed

theorem correlated_of_reachable
    (reachable : ((machine env).under (Decently may env)).Reachable wired) : wired.Correlated := by
  induction reachable with
  | start fresh => exact correlated_of_fresh fresh
  | step before taken ih =>
      obtain ⟨tracks, reached⟩ := tracks_of_reachable before
      have sound := Mesh.sound_of_reachable (reached.weaken fun _ _ decently => decently.1)
      exact ih.step sound tracks.framed taken.1 taken.2

omit [DecidableEq ι] in
/-- What a session has been told to send contains what the read loop at the other
end has handled, each body once. -/
theorem Tracks.handled_subperm (tracks : wired.Tracks) (node : ι) (ref : Ref) :
    (wired.lines (node, ref)).receiver.handled.Subperm
      (bodies (outgoing ref (wired.mesh.nodes node))) := by
  have line := tracks.lines (node, ref)
  have conserved := (Transport.aligned_of_reachable line).consistent.conserved
  rw [tracks.sent node ref] at conserved
  have handled : (wired.lines (node, ref)).receiver.handled <+:
      bodies (wired.lines (node, ref)).writer.ran :=
    Fifo.delivered_prefix_of_reachable (Transport.fifo_of_reachable line)
  have ran : (bodies (wired.lines (node, ref)).writer.ran).Sublist
      (bodies ((wired.lines (node, ref)).writer.ran ++
        (wired.lines (node, ref)).writer.posted)) := by
    rw [bodies_append]
    exact List.sublist_append_left _ _
  exact (handled.sublist.trans ran).subperm.trans (perm_bodies conserved).subperm

/-- Whatever the wires do, the responses that a node has heard on a link carry
transaction ids of sub-messages that it has sent on that link, none more often
than it has been sent. -/
theorem responses_solicited
    (reachable : ((machine env).under (Decently may env)).Reachable wired) {node other : ι}
    {ref far : Ref} (linked : wired.mesh.far (node, ref) = .session other far) :
    (responseIds (wired.heard node ref)).Subperm
      (requestIds (bodies (outgoing ref (wired.mesh.nodes node)))) := by
  obtain ⟨tracks, reached⟩ := tracks_of_reachable reachable
  have correlated := correlated_of_reachable reachable
  have sound := Mesh.sound_of_reachable (reached.weaken fun _ _ decently => decently.1)
  have back := sound.paired node ref other far linked
  have answered := correlated.answered other far (by simp [back])
  rw [heard_eq back] at answered
  rw [heard_eq linked]
  have heardBack : (responseIds (wired.lines (other, far)).receiver.handled).Subperm
      (responseIds (bodies (outgoing far (wired.mesh.nodes other)))) :=
    subperm_flatMap (tracks.handled_subperm other far) _
  have toldHere : (requestIds (wired.lines (node, ref)).receiver.handled).Subperm
      (requestIds (bodies (outgoing ref (wired.mesh.nodes node)))) :=
    subperm_flatMap (tracks.handled_subperm node ref) _
  exact heardBack.trans (answered.subperm.trans toldHere)

/-- The second node's answer arrives in two portions as well. -/
def answering : List (Event Bool) :=
  portions ++ [.line true 0 (.write (.onSend 0)), .line true 0 (.take 44),
    .line true 0 (.arrive 20), .line true 0 .read, .line true 0 (.write (.onWrite 0 false)),
    .line true 0 (.arrive 24), .line true 0 .read]

/-- Afterwards the first node has heard the response to its opening request. -/
theorem answering_run :
    ∃ wired ∈ run (fun _ => True) Mesh.twoEnvironments twoWired answering,
      wired.mesh.far (false, 0) = .session true 0 ∧
        responseIds (wired.heard false 0) = [Uuid.filled 11] := by
  decide +kernel

theorem responses_solicited_answering :
    ∃ wired ∈ run (fun _ => True) Mesh.twoEnvironments twoWired answering,
      responseIds (wired.heard false 0) = [Uuid.filled 11] ∧
        (responseIds (wired.heard false 0)).Subperm
          (requestIds (bodies (outgoing 0 (wired.mesh.nodes false)))) := by
  rcases answering_run with ⟨wired, ran, linked, heardEq⟩
  exact ⟨wired, ran, heardEq, responses_solicited (reachable_of_run twoWired_fresh ran) linked⟩

end Wired

end Aurum.Cluster
