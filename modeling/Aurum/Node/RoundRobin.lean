import Aurum.Container.Cycle
import Aurum.Node.Closing
import Aurum.Transition.Path

/-!
# Taking turns

`send_to_node` keeps a counter for every node and picks a session by it.  No
other operation touches the counters, and while the sessions of a node stay the
same, the messages for it go round them, whatever else happens in between.
-/

namespace Aurum.Node

open Aurum.Protocol
open Aurum.Container
open Aurum.Transition

/-! ## The counters -/

namespace SameTurns

variable {env : Environment} {state next : State}

theorem openSession {withDiscovery : Bool} {connectionsPerNode : UInt16} {connected : Bool}
    (step : state.openSession env withDiscovery connectionsPerNode = .ok (connected, next)) :
    next.roundRobin = state.roundRobin := by
  unfold State.openSession at step
  simp only at step
  split at step
  · rcases Result.bind_eq_ok_iff.mp step with ⟨buffer, _, result⟩
    cases result
    cases withDiscovery <;> rfl
  · cases step
    rfl

theorem connect {host : Bytes} {port : UInt16} {withDiscovery : Bool}
    {connectionsPerNode : UInt16} {connected : Bool}
    (step : state.connect env host port withDiscovery connectionsPerNode = .ok (connected, next)) :
    next.roundRobin = state.roundRobin := by
  unfold State.connect at step
  simp only at step
  split at step
  · have opened := openSession step
    exact opened
  · cases step
    rfl

theorem runPosted (step : state.runPosted env = .ok next) :
    next.roundRobin = state.roundRobin := by
  unfold State.runPosted at step
  split at step
  · cases step
    rfl
  · rcases Result.bind_eq_ok_iff.mp step with ⟨⟨connected, dialed⟩, dial, result⟩
    cases result
    have dialedSame := connect dial
    exact dialedSame

theorem visitAll {endpoints : List Endpoint}
    (step : Handlers.visitAll env endpoints state = .ok next) :
    next.roundRobin = state.roundRobin := by
  induction endpoints generalizing state with
  | nil =>
      cases step
      rfl
  | cons endpoint endpoints ih =>
      rcases Result.bind_eq_ok_iff.mp step with ⟨middle, visit, rest⟩
      have visited : middle.roundRobin = state.roundRobin := by
        unfold Handlers.visitEndpoint at visit
        split at visit
        · cases visit
          rfl
        · rcases Result.bind_eq_ok_iff.mp visit with ⟨⟨connected, dialed⟩, dial, result⟩
          cases result
          exact connect dial
      exact (ih rest).trans visited

theorem effect {session : Ref} {message : Submessage}
    (effect : Effect env session message state next) : next.roundRobin = state.roundRobin := by
  cases effect with
  | discovered next opcode response visited => exact visitAll visited
  | _ => rfl

theorem receive (session : Ref) (bytes : Bytes) (state : State) :
    (state.receive env session bytes).roundRobin = state.roundRobin := by
  have handled : (Node.handle env bytes session state).state.roundRobin = state.roundRobin := by
    apply handle_keeps (fun current => current.roundRobin = state.roundRobin) _ rfl
    intro call member before
    rcases Kernel.mem_calls member with ⟨_, builder, result, invoked⟩
    exact (effect (invoke_effect invoked)).trans before
  rcases exists_receive_eq env session bytes state with ⟨sent, received⟩
  rw [received]
  exact handled

/-- Only `send_to_node` takes a turn. -/
theorem perform {event : Event} (step : state.perform env event = .ok next)
    (others : ∀ node message, event ≠ .sendToNode node message) :
    next.roundRobin = state.roundRobin := by
  have single : ∀ {id : Uuid}, state.perform env (.removeSession id) = .ok next →
      state.removeSessions env [id] = .ok next := fun removal => removal
  cases event with
  | handshake ref failed => exact (OnlyOpenness.onAccept step).roundRobin
  | connect host port withDiscovery connectionsPerNode =>
      rcases Result.bind_eq_ok_iff.mp step with ⟨⟨connected, dialed⟩, dial, result⟩
      cases result
      exact connect dial
  | runPosted => exact runPosted step
  | removeSession id => exact (OnlyOpenness.removeSessions (single step)).roundRobin
  | disconnect node => exact (OnlyOpenness.removeSessions step).roundRobin
  | disconnectAll => exact (OnlyOpenness.removeSessions step).roundRobin
  | sendToNode node message => exact absurd rfl (others node message)
  | frame ref bytes =>
      cases step
      exact receive ref bytes state
  | acceptTcp | acceptWebsocket | create | addSession =>
      cases step
      rfl

end SameTurns

/-! ## One call -/

/-- The sessions that the index returns for a node, in its order. -/
def targets (env : Environment) (node : Uuid) (state : State) : List Ref :=
  env.order (state.sessions.byNodeAndType node .tcp)

/-- The registered TCP sessions of a node. -/
def linksOf (node : Uuid) (state : State) : List Ref :=
  state.sessions.refs.filter fun ref =>
    (state.memory ref).nodeId = node ∧ (state.memory ref).type = .tcp

theorem targets_nodup {env : Environment} {node : Uuid} {state : State}
    (wellFormed : WellFormed state) : (targets env node state).Nodup := by
  have found : (state.sessions.byNodeAndType node .tcp).Nodup :=
    (List.filter_sublist.map Filed.elem).nodup wellFormed.refs_nodup
  exact (env.order_perm _).nodup_iff.mpr found

theorem linksOf_nodup {node : Uuid} {state : State} (wellFormed : WellFormed state) :
    (linksOf node state).Nodup :=
  wellFormed.refs_nodup.filter _

/-- A call sends on the session whose turn it is, and moves the counter on. -/
theorem sendToNode_eq {env : Environment} {node : Uuid} {state : State} (message : Bytes)
    {target : Ref}
    (turn : (targets env node state)[(state.roundRobin node).toNat %
      (targets env node state).length]? = some target) :
    state.sendToNode env node message =
      { state with
        roundRobin := Function.update state.roundRobin node (state.roundRobin node + 1)
        sent := state.sent ++ [(target, message)] } := by
  have found : 0 < (targets env node state).length := by
    by_contra empty
    rw [List.getElem?_eq_none (by omega)] at turn
    cases turn
  unfold State.sendToNode
  rw [targets] at turn found
  simp only [if_pos found, turn]
  rfl

/-- While the index returns a session at all, a call sends on the one whose turn
it is. -/
theorem sendToNode_step {env : Environment} {node : Uuid} {state next : State} {message : Bytes}
    {links : List Ref} (some : links ≠ []) (returned : targets env node state = links)
    (step : state.perform env (.sendToNode node message) = .ok next) :
    ∃ target, links[(state.roundRobin node).toNat % links.length]? = Option.some target ∧
      next.roundRobin node = state.roundRobin node + 1 ∧
      next.sent = state.sent ++ [(target, message)] := by
  have inside : (state.roundRobin node).toNat % links.length < links.length :=
    Nat.mod_lt _ (List.length_pos_iff.mpr some)
  have turn := List.getElem?_eq_getElem inside
  subst returned
  have sent := sendToNode_eq message turn
  cases step
  rw [sent]
  exact ⟨_, turn, Function.update_self node _ state.roundRobin, rfl⟩

/-- The event is a call of `send_to_node`. -/
def Event.sends : Event → Bool
  | .sendToNode _ _ => true
  | _ => false

/-- The event is a call of `send_to_node` for a node. -/
def Event.sendsTo (node : Uuid) : Event → Bool
  | .sendToNode other _ => other = node
  | _ => false

theorem Event.sendsTo_iff {node : Uuid} {event : Event} :
    event.sendsTo node = true ↔ ∃ message, event = .sendToNode node message := by
  cases event with
  | sendToNode other message =>
      simp only [sendsTo, decide_eq_true_eq, sendToNode.injEq]
      constructor
      · rintro rfl
        exact ⟨message, rfl, rfl⟩
      · rintro ⟨_, same, _⟩
        exact same
  | _ => simp [sendsTo]

theorem Event.sends_of_sendsTo {node : Uuid} {event : Event} (sendsTo : event.sendsTo node = true) :
    event.sends = true := by
  rcases sendsTo_iff.mp sendsTo with ⟨message, rfl⟩
  rfl

section Steps

variable {env : Environment} {state next : State} {event : Event} {node : Uuid}

/-- A call for one node leaves the counters of others alone. -/
theorem sendToNode_roundRobin_of_ne {other : Uuid} (differs : node ≠ other) (message : Bytes) :
    (state.sendToNode env other message).roundRobin node = state.roundRobin node := by
  unfold State.sendToNode
  simp only
  split
  · split <;> exact Function.update_of_ne differs _ _
  · rfl

/-- The counter of a node moves only with a call for it. -/
theorem roundRobin_of_not_sendsTo (step : state.perform env event = .ok next)
    (others : ¬event.sendsTo node = true) : next.roundRobin node = state.roundRobin node := by
  cases event with
  | sendToNode other message =>
      cases step
      apply sendToNode_roundRobin_of_ne
      rintro rfl
      exact others (Event.sendsTo_iff.mpr ⟨message, rfl⟩)
  | _ =>
      rw [SameTurns.perform step]
      rintro other message isSend
      cases isSend

/-- An event moves a counter by one at most, and only a call moves one. -/
theorem roundRobin_le (step : state.perform env event = .ok next) (node : Uuid) :
    (next.roundRobin node).toNat ≤
      (state.roundRobin node).toNat + if event.sends then 1 else 0 := by
  by_cases sendsTo : event.sendsTo node = true
  · rw [if_pos (Event.sends_of_sendsTo sendsTo)]
    rcases Event.sendsTo_iff.mp sendsTo with ⟨message, rfl⟩
    cases step
    have wraps : (state.roundRobin node + 1).toNat ≤ (state.roundRobin node).toNat + 1 := by
      rw [UInt64.toNat_add]
      exact Nat.mod_le _ _
    unfold State.sendToNode
    simp only
    split
    · split
      · simpa [State.send] using wraps
      · simpa using wraps
    · omega
  · rw [roundRobin_of_not_sendsTo step sendsTo]
    exact Nat.le_add_right _ _

end Steps

/-! ## Runs -/

/-- The number of calls of `send_to_node` in a run. -/
def sends (steps : List (Event × State)) : Nat :=
  (steps.filter fun step => step.1.sends).length

/-- The number of calls for a node. -/
def sendsTo (node : Uuid) (steps : List (Event × State)) : Nat :=
  (steps.filter fun step => step.1.sendsTo node).length

/-- The sessions on which the calls for a node send, in order. -/
def used (node : Uuid) : State → List (Event × State) → List Ref
  | _, [] => []
  | state, (event, next) :: steps =>
      (if event.sendsTo node then (next.sent.drop state.sent.length).map Prod.fst else []) ++
        used node next steps

section Runs

variable {env : Environment} {state : State} {steps : List (Event × State)} {node : Uuid}

theorem sends_cons (event : Event) (next : State) (steps : List (Event × State)) :
    sends ((event, next) :: steps) = (if event.sends then 1 else 0) + sends steps := by
  unfold sends
  rw [List.filter_cons]
  split
  · rw [List.length_cons, Nat.add_comm]
  · rw [Nat.zero_add]

theorem sendsTo_cons (event : Event) (next : State) (steps : List (Event × State)) :
    sendsTo node ((event, next) :: steps) =
      (if event.sendsTo node then 1 else 0) + sendsTo node steps := by
  unfold sendsTo
  rw [List.filter_cons]
  split
  · rw [List.length_cons, Nat.add_comm]
  · rw [Nat.zero_add]

theorem sends_append (first second : List (Event × State)) :
    sends (first ++ second) = sends first + sends second := by
  rw [sends, List.filter_append, List.length_append]
  rfl

/-- A counter counts no more than all calls. -/
theorem roundRobin_finish_le (path : (machine env).Path state steps) (node : Uuid) :
    ((Machine.finish state steps).roundRobin node).toNat ≤
      (state.roundRobin node).toNat + sends steps := by
  induction path with
  | nil state => exact Nat.le_add_right _ _
  | cons taken rest ih =>
      have moved := roundRobin_le taken.2 node
      rw [Machine.finish, sends_cons]
      omega

/-- While the index returns the same sessions in the same order, and the
counter does not wrap, the calls for a node take them in turn. -/
theorem used_eq_inTurn (path : (machine env).Path state steps) {links : List Ref}
    (some : links ≠ [])
    (returned : ∀ visited ∈ Machine.states state steps, targets env node visited = links)
    (room : (state.roundRobin node).toNat + sends steps < 2 ^ 64) :
    used node state steps =
      inTurn links (state.roundRobin node).toNat (sendsTo node steps) := by
  induction path with
  | nil state => rfl
  | @cons state next event steps taken rest ih =>
      have later : ∀ visited ∈ Machine.states next steps, targets env node visited = links :=
        fun visited member => returned visited (List.mem_cons_of_mem state member)
      have moved := roundRobin_le taken.2 node
      rw [sends_cons] at room
      have tail := ih later (by omega)
      rw [used, sendsTo_cons, tail]
      by_cases isCall : event.sendsTo node = true
      · rcases Event.sendsTo_iff.mp isCall with ⟨message, rfl⟩
        rcases sendToNode_step some (returned state List.mem_cons_self) taken.2 with
          ⟨target, turn, turned, sent⟩
        have counted : (state.roundRobin node + 1).toNat = (state.roundRobin node).toNat + 1 := by
          rw [UInt64.toNat_add]
          apply Nat.mod_eq_of_lt
          rw [if_pos (Event.sends_of_sendsTo isCall)] at room
          exact Nat.lt_of_le_of_lt (Nat.add_le_add_left (Nat.le_add_right 1 _) _) room
        rw [if_pos isCall, if_pos isCall, sent, turned, counted, List.drop_left, Nat.add_comm 1,
          inTurn, turn]
        rfl
      · rw [if_neg isCall, if_neg isCall, roundRobin_of_not_sendsTo taken.2 isCall, Nat.zero_add,
          List.nil_append]

end Runs

/-- A stretch of a run in which the registered TCP sessions of a node are the
same throughout, and the index returns them, in an order that depends on
nothing else. -/
structure Steady (env : Environment) (node : Uuid) (state : State)
    (stretch : List (Event × State)) : Prop where
  indexed : ∀ visited ∈ Machine.states state stretch, ∀ ref,
    ref ∈ targets env node visited ↔ ref ∈ linksOf node visited
  ordered : ∀ visited ∈ Machine.states state stretch, ∀ other ∈ Machine.states state stretch,
    (∀ ref, ref ∈ linksOf node visited ↔ ref ∈ linksOf node other) →
      targets env node visited = targets env node other
  unchanged : ∀ visited ∈ Machine.states state stretch, ∀ ref,
    ref ∈ linksOf node visited ↔ ref ∈ linksOf node state

/-- `send_to_node` is fair: in any run with fewer than 2⁶⁴ calls, and any
stretch of it in which a node has the same TCP sessions, at least one, every
call for the node sends on exactly one of them; as many calls in a row as there
are sessions use each of them once; and up to any point no session is used twice
more often than another. -/
theorem sendToNode_fair {env : Environment} {start : State} (starts : (machine env).start start)
    {earlier stretch : List (Event × State)}
    (path : (machine env).Path start (earlier ++ stretch))
    (few : sends (earlier ++ stretch) < 2 ^ 64) {node : Uuid}
    (steady : Steady env node (Machine.finish start earlier) stretch)
    (some : linksOf node (Machine.finish start earlier) ≠ []) :
    (∀ before after message next, stretch = before ++ (.sendToNode node message, next) :: after →
        ∃ ref ∈ linksOf node (Machine.finish start earlier),
          next.sent =
            (Machine.finish (Machine.finish start earlier) before).sent ++ [(ref, message)]) ∧
      (used node (Machine.finish start earlier) stretch).length = sendsTo node stretch ∧
      (∀ before window after,
        used node (Machine.finish start earlier) stretch = before ++ (window ++ after) →
        window.length = (linksOf node (Machine.finish start earlier)).length →
          window.Perm (linksOf node (Machine.finish start earlier))) ∧
      ∀ before after, used node (Machine.finish start earlier) stretch = before ++ after →
        ∀ first ∈ linksOf node (Machine.finish start earlier),
          ∀ second ∈ linksOf node (Machine.finish start earlier),
            before.count first ≤ before.count second + 1 := by
  rcases Machine.path_append_iff.mp path with ⟨front, back⟩
  have formed := wellFormed_of_reachable (front.reachable (.start starts))
  have before := roundRobin_finish_le front node
  rcases starts with ⟨nodeId, tcpPort, rfl⟩
  generalize Machine.finish (State.initial nodeId tcpPort) earlier = state at *
  have fromZero : ((State.initial nodeId tcpPort).roundRobin node).toNat = 0 := rfl
  rw [sends_append] at few
  have here : state ∈ Machine.states state stretch := List.mem_cons_self
  have same : ∀ visited ∈ Machine.states state stretch,
      targets env node visited = targets env node state := by
    intro visited member
    exact steady.ordered visited member state here (steady.unchanged visited member)
  have links : (targets env node state).Perm (linksOf node state) := by
    apply (List.perm_ext_iff_of_nodup (targets_nodup formed) (linksOf_nodup formed)).mpr
    exact steady.indexed state here
  have present : targets env node state ≠ [] := by
    intro empty
    rw [empty] at links
    exact some links.nil_eq.symm
  have inTurns := used_eq_inTurn back present same (by omega)
  refine ⟨?_, ?_, ?_, ?_⟩
  · rintro before after message next rfl
    rcases Machine.path_append_iff.mp back with ⟨_, rest⟩
    cases rest with
    | cons taken _ =>
        have visited := Machine.states_subset_append state before
          ((.sendToNode node message, next) :: after) (Machine.finish_mem_states state before)
        rcases sendToNode_step present (same _ visited) taken.2 with ⟨target, turn, _, sent⟩
        exact ⟨target, links.mem_iff.mp (List.mem_of_getElem? turn), sent⟩
  · rw [inTurns, inTurn_length present]
  · intro before window after split full
    rw [inTurns] at split
    rw [← links.length_eq] at full
    exact (inTurn_window present split full).trans links
  · intro before after split first _ second member
    rw [inTurns] at split
    rw [(inTurn_split present split).1]
    exact inTurn_count_le (targets_nodup formed) _ _ first (links.mem_iff.mpr member)

/-- A node with two links, neither of them identified, after some calls. -/
def afterCalls : Nat → State
  | 0 => twoLinks
  | count + 1 => (afterCalls count).sendToNode countingEnvironment Uuid.nil [1]

/-- Two calls for the node id that the links carry. -/
def twoCalls : List (Event × State) :=
  [(.sendToNode Uuid.nil [1], afterCalls 1), (.sendToNode Uuid.nil [1], afterCalls 2)]

theorem sendToNode_fair_twoCalls : (used Uuid.nil twoLinks twoCalls).Perm [1, 0] := by
  have first : (machine countingEnvironment).step (State.initial (Uuid.filled 1) 0) .acceptTcp
      ((State.initial (Uuid.filled 1) 0).acceptTcp countingEnvironment) :=
    ⟨trivial, rfl⟩
  have second : (machine countingEnvironment).step
      ((State.initial (Uuid.filled 1) 0).acceptTcp countingEnvironment) .acceptTcp twoLinks :=
    ⟨trivial, rfl⟩
  have third : (machine countingEnvironment).step twoLinks (.sendToNode Uuid.nil [1])
      (afterCalls 1) :=
    ⟨trivial, rfl⟩
  have fourth : (machine countingEnvironment).step (afterCalls 1) (.sendToNode Uuid.nil [1])
      (afterCalls 2) :=
    ⟨trivial, rfl⟩
  have path : (machine countingEnvironment).Path (State.initial (Uuid.filled 1) 0)
      ([(.acceptTcp, (State.initial (Uuid.filled 1) 0).acceptTcp countingEnvironment),
        (.acceptTcp, twoLinks)] ++ twoCalls) :=
    .cons first (.cons second (.cons third (.cons fourth (.nil _))))
  have visits : ∀ visited ∈ Machine.states twoLinks twoCalls,
      targets countingEnvironment Uuid.nil visited = [1, 0] ∧
        linksOf Uuid.nil visited = [1, 0] := by
    intro visited member
    simp only [Machine.states, twoCalls, List.map_cons, List.map_nil, List.mem_cons,
      List.not_mem_nil, or_false] at member
    rcases member with rfl | rfl | rfl <;> exact ⟨by decide, by decide⟩
  have steady : Steady countingEnvironment Uuid.nil twoLinks twoCalls := by
    constructor
    · intro visited member ref
      rw [(visits visited member).1, (visits visited member).2]
    · intro visited member other otherMember _
      rw [(visits visited member).1, (visits other otherMember).1]
    · intro visited member ref
      rw [(visits visited member).2]
      exact Iff.rfl
  have links : linksOf Uuid.nil twoLinks = [1, 0] := (visits twoLinks List.mem_cons_self).2
  have some : linksOf Uuid.nil twoLinks ≠ [] := by
    rw [links]
    exact List.cons_ne_nil _ _
  have turns : ∀ before window after,
      used Uuid.nil twoLinks twoCalls = before ++ (window ++ after) →
        window.length = (linksOf Uuid.nil twoLinks).length →
          window.Perm (linksOf Uuid.nil twoLinks) :=
    (sendToNode_fair ⟨Uuid.filled 1, 0, rfl⟩ path (by decide) steady some).2.2.1
  rw [← links]
  exact turns [] _ [] (List.append_nil _).symm (by decide)

end Aurum.Node
