import Aurum.Cluster.Model

/-!
# What a step of the pair can do

`Change` lists the steps of the two nodes with what holds when they are taken.
Broadcasts of joins and of leaves differ only in the phases they lead through,
so each of their two halves is one case.
-/

namespace Aurum.Cluster

open Aurum.Protocol
open Aurum.Container
open Aurum.Node
open Aurum.Replication

/-! ## Phases of a broadcast -/

/-- The broadcast of an operation is to be made. -/
def readyPhase : Op Uuid → Phase
  | .join _ => .joining
  | .leave _ => .leaving

/-- The targets of the broadcast of an operation are chosen. -/
def chosenPhase (op : Op Uuid) (message : Bytes) (targets : List Ref) : Phase :=
  match op with
  | .join _ => .joinChosen message targets
  | .leave _ => .leaveChosen message targets

/-- The broadcast of an operation is made. -/
def donePhase : Op Uuid → Phase
  | .join _ => .joined
  | .leave _ => .gone

namespace Pair

/-- What a step makes of the pair. -/
inductive Change (envA envB : Environment) (pair : Pair) : Event → Pair → Prop
  | linkUp (freshA : Fresh (pair.a.nextUuid envA) pair.a)
      (freshAtB : Fresh (pair.a.nextUuid envA) pair.b)
      (freshB : Fresh (pair.b.nextUuid envB) pair.b) :
      Change envA envB pair .linkUp (pair.linkUp envA envB)
  | connects (freshA : Fresh (pair.b.nextUuid envB) pair.a)
      (freshB : Fresh (pair.b.nextUuid envB) pair.b) :
      Change envA envB pair .connects (pair.connects envB)
  | opened {event : Event} (id : Uuid) (connecting : pair.phase id = .connecting) :
      Change envA envB pair event
        ((pair.setB (pair.b.setOpen (pair.object id) true)).setPhase id .joining)
  | closed {event : Event} (id : Uuid)
      (active : pair.phase id = .connecting ∨ pair.phase id = .joined) :
      Change envA envB pair event (pair.unregister id)
  | chose {event : Event} (op : Op Uuid) (message : Bytes)
      (ready : pair.phase op.item = readyPhase op) (nonempty : message ≠ [])
      (carries : opOf message = some op) :
      Change envA envB pair event
        ((pair.setB pair.b.draw).setPhase op.item (chosenPhase op message pair.targets))
  | sent {event : Event} (op : Op Uuid) (message : Bytes) (targets : List Ref)
      (chosen : pair.phase op.item = chosenPhase op message targets) :
      Change envA envB pair event ((pair.sendAll message targets).setPhase op.item (donePhase op))
  | read (near : Ref) (frame : Bytes) (rest : List Bytes) (idle : pair.handling near = none)
      (next : pair.wire near = frame :: rest) :
      Change envA envB pair (.read near)
        { pair with
          wire := Function.update pair.wire near rest
          handling := Function.update pair.handling near (some frame) }
  | handled (near far : Ref) (frame : Bytes) (link : pair.far near = some far)
      (next : pair.handling near = some frame) :
      Change envA envB pair (.handleFrame near)
        { pair with
          a := pair.a.receive envA far (frame.drop 4)
          handling := Function.update pair.handling near none
          back := Function.update pair.back near
            (pair.back near ++ carried pair.a (pair.a.receive envA far (frame.drop 4)) far) }
  | answered (near : Ref) (frame : Bytes) (rest : List Bytes)
      (next : pair.back near = frame :: rest) :
      Change envA envB pair (.readReply near)
        { pair.setB (pair.b.receive envB near (frame.drop 4)) with
          back := Function.update pair.back near rest }

theorem unregister_far (id : Uuid) (pair : Pair) : (pair.unregister id).far = pair.far := by
  unfold unregister
  split <;> rfl

/-- Only a new link changes the links. -/
theorem Change.far_eq {envA envB : Environment} {pair next : Pair} {event : Event}
    (change : Change envA envB pair event next) (noLink : event ≠ .linkUp) :
    next.far = pair.far := by
  cases change with
  | linkUp freshA freshAtB freshB => exact absurd rfl noLink
  | closed id active => exact unregister_far id pair
  | _ => rfl

/-- Choosing the targets of a request that carries an operation. -/
theorem change_of_choose {envA envB : Environment} {pair next : Pair} {event : Event}
    {request : RequestBuilder} (op : Op Uuid) (ready : pair.phase op.item = readyPhase op)
    (carries : ∀ data, request.getData true = .ok data → data ≠ [] ∧ opOf data = some op)
    (step : pair.choose request op.item (chosenPhase op) = some next) :
    Change envA envB pair event next := by
  unfold choose at step
  split at step
  · cases step
  · rename_i message built
    cases step
    obtain ⟨nonempty, carried⟩ := carries message built
    exact .chose op message ready nonempty carried

theorem change_of_perform {envA envB : Environment} {pair next : Pair} {event : Event}
    (step : pair.perform envA envB event = some next) : Change envA envB pair event next := by
  cases event with
  | linkUp =>
      simp only [perform] at step
      split at step
      · rename_i fresh
        cases step
        exact .linkUp fresh.1 fresh.2.1 fresh.2.2
      · cases step
  | connects =>
      simp only [perform] at step
      split at step
      · rename_i fresh
        cases step
        exact .connects fresh.1 fresh.2
      · cases step
  | handshake id failed =>
      simp only [perform] at step
      split at step
      · rename_i connecting
        split at step <;> cases step
        · exact .closed id (Or.inl connecting)
        · exact .opened id connecting
      · cases step
  | chooseJoin id =>
      simp only [perform] at step
      split at step
      · rename_i joining
        exact change_of_choose (.join id) joining (fun _ => opOf_addJoin) step
      · cases step
  | sendJoin id =>
      simp only [perform] at step
      split at step
      · rename_i message targets chosen
        cases step
        exact .sent (.join id) message targets chosen
      · cases step
  | disconnects id =>
      simp only [perform] at step
      split at step
      · rename_i joined
        cases step
        exact .closed id (Or.inr joined)
      · cases step
  | chooseLeave id =>
      simp only [perform] at step
      split at step
      · rename_i leaving
        exact change_of_choose (.leave id) leaving (fun _ => opOf_addLeave) step
      · cases step
  | sendLeave id =>
      simp only [perform] at step
      split at step
      · rename_i message targets chosen
        cases step
        exact .sent (.leave id) message targets chosen
      · cases step
  | read near =>
      simp only [perform] at step
      split at step
      · rename_i far frame rest link idle next
        cases step
        exact .read near frame rest idle next
      · cases step
  | handleFrame near =>
      simp only [perform] at step
      split at step
      · rename_i far frame link next
        cases step
        exact .handled near far frame link next
      · cases step
  | readReply near =>
      simp only [perform] at step
      split at step
      · rename_i far frame rest link next
        cases step
        exact .answered near frame rest next
      · cases step

/-! ## What is put on the wires -/

theorem carried_of_same {before after : State} (same : after.sent = before.sent) (ref : Ref) :
    carried before after ref = [] := by
  simp [carried, same]

theorem not_mem_carried {before after : State} {ref : Ref} {frame : Bytes}
    (same : after.sent = before.sent) : frame ∉ carried before after ref := by
  rw [carried_of_same same]
  exact List.not_mem_nil

theorem carried_of_append {before after : State} {messages : List (Ref × Bytes)}
    (sent : after.sent = before.sent ++ messages) (ref : Ref) :
    carried before after ref =
      (messages.filter fun sent => sent.1 = ref ∧ sent.2 ≠ []).map Prod.snd := by
  rw [carried, sent, List.drop_left]

/-- A step that sends nothing leaves the wires alone. -/
theorem setB_eq_of_same {pair : Pair} {next : State} (same : next.sent = pair.b.sent) :
    pair.setB next = { pair with b := next } := by
  simp [setB, carried_of_same same]

/-- A message sent to some sessions is put on the wire of each of them. -/
theorem carried_sendAll {pair : Pair} {message : Bytes} (nonempty : message ≠ [])
    (targets : List Ref) (near : Ref) :
    (pair.sendAll message targets).wire near =
      pair.wire near ++ (targets.filter fun target => target = near).map fun _ => message := by
  have sent : (targets.foldl (fun (state : State) target => state.send target message)
      { pair.b with broadcast := pair.b.broadcast ++ [message] }).sent =
        pair.b.sent ++ targets.map fun target => (target, message) := by
    rw [State.foldl_send_eq]
  rw [sendAll, setB]
  simp only [carried_of_append sent, List.filter_map, List.map_map]
  congr 2
  simp [Function.comp_def, nonempty]

/-- Handling an answer puts nothing on the wires. -/
theorem setB_receive_answer (env : Environment) (pair : Pair) (near : Ref) {frame : Bytes}
    (answers : Answers frame) :
    ∃ sent, pair.setB (pair.b.receive env near (frame.drop 4)) =
      { pair with b := { pair.b with sent := sent } } := by
  rcases receive_answer answers with same | silent
  · refine ⟨pair.b.sent, ?_⟩
    rw [same, setB_eq_of_same rfl]
  · refine ⟨pair.b.sent ++ [(near, [])], ?_⟩
    have appended : (pair.b.send near []).sent = pair.b.sent ++ [(near, [])] := rfl
    have nothing : ∀ ref, carried pair.b (pair.b.send near []) ref = [] := by
      intro ref
      simp [carried_of_append appended]
    rw [silent, setB]
    simp only [nothing, List.append_nil]
    rfl

/-! ## Frames not yet handled -/

/-- Reading a frame leaves it among the frames not yet handled. -/
theorem pending_read {pair : Pair} {near : Ref} {frame : Bytes} {rest : List Bytes}
    (idle : pair.handling near = none) (next : pair.wire near = frame :: rest) :
    ({ pair with
        wire := Function.update pair.wire near rest
        handling := Function.update pair.handling near (some frame) } : Pair).pending =
      pair.pending := by
  funext other
  by_cases same : other = near
  · subst same
    simp [pending, idle, next]
  · simp [pending, same]

end Pair

end Aurum.Cluster
