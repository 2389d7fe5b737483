import Aurum.Cluster.Invariant

/-!
# Registries converge

The pair of nodes refines the replication of a set over several channels: the
links are the channels, the clients of B the items, and the placeholders that A
has under B's node id the items held.  A run that handles leaves in order is
taken to a run that delivers in order, and the replica of that one converges.
-/

namespace Aurum.Cluster

open Aurum.Protocol
open Aurum.Container
open Aurum.Node
open Aurum.Replication
open Aurum.Transition

/-- How far the replication of a client is at a phase. -/
def Phase.stage : Phase → Stage
  | .absent | .connecting | .joining | .joinChosen _ _ => .fresh
  | .joined => .announced
  | .leaving | .leaveChosen _ _ => .withdrawing
  | .gone => .withdrawn

theorem Phase.stage_of_absent {phase : Phase} (absent : phase.status = .absent) :
    phase.stage = .fresh := by
  cases phase <;> first | rfl | cases absent

theorem Phase.settled_of_absent {phase : Phase} (absent : phase.status = .absent) :
    phase.Settled := by
  cases phase with
  | absent => trivial
  | _ => cases absent

namespace Phase.Settled

variable {phase : Phase} (settled : phase.Settled)

include settled

theorem stage_ne : phase.stage ≠ .withdrawing := by
  cases phase <;> first | exact Stage.noConfusion | exact settled.elim

/-- A settled client is connected once it is announced. -/
theorem announced_iff : phase.stage = .announced ↔ phase.status = .connected := by
  cases phase <;> first | exact settled.elim | simp [Phase.stage, Phase.status]

end Phase.Settled

namespace Pair

/-- The replication that the pair carries out. -/
def replica (pair : Pair) : Replica Ref Uuid where
  queue near := if (pair.far near).isSome then (pair.pending near).filterMap opOf else []
  stage id := (pair.phase id).stage
  held := {id | pair.a.Holds pair.b.nodeId id}

theorem stage_setPhase (id : Uuid) (phase : Phase) (pair : Pair) :
    (pair.setPhase id phase).replica.stage =
      Function.update pair.replica.stage id phase.stage := by
  funext other
  by_cases same : other = id
  · subst same
    simp [replica, setPhase]
  · simp [replica, setPhase, same]

/-- A step of B that sends nothing changes at most a stage. -/
theorem replica_of_silent {pair : Pair} {next : State} (nodeId : next.nodeId = pair.b.nodeId)
    (silent : next.sent = pair.b.sent) (id : Uuid) (phase : Phase) :
    ((pair.setB next).setPhase id phase).replica =
      { pair.replica with stage := Function.update pair.replica.stage id phase.stage } := by
  apply Replica.ext
  · rw [setB_eq_of_same silent]
    rfl
  · exact stage_setPhase id phase (pair.setB next)
  · change {id | pair.a.Holds next.nodeId id} = {id | pair.a.Holds pair.b.nodeId id}
    rw [nodeId]

/-- It changes none when the stage stays the same. -/
theorem replica_of_quiet {pair : Pair} {next : State} (nodeId : next.nodeId = pair.b.nodeId)
    (silent : next.sent = pair.b.sent) {id : Uuid} {phase : Phase}
    (same : phase.stage = (pair.phase id).stage) :
    ((pair.setB next).setPhase id phase).replica = pair.replica := by
  have unchanged : Function.update pair.replica.stage id phase.stage = pair.replica.stage := by
    rw [same]
    exact Function.update_eq_self id pair.replica.stage
  rw [replica_of_silent nodeId silent, unchanged]

theorem replica_linkUp {pair : Pair} (invariant : Invariant pair) {envA envB : Environment}
    (freshA : Fresh (pair.a.nextUuid envA) pair.a) :
    (pair.linkUp envA envB).replica = pair.replica := by
  apply Replica.ext
  · funext near
    by_cases isNew : near = pair.b.allocated
    · have noLink : ¬(pair.far near).isSome := by
        intro isLink
        exact Nat.ne_of_lt (invariant.linked.near_allocated isLink) isNew
      simp only [replica, if_neg noLink]
      simp [linkUp, pending, isNew]
    · simp [replica, linkUp, pending, isNew]
  · rfl
  · ext id
    exact holds_openLink_iff invariant.linked.formedA freshA pair.b.nodeId id

/-- A broadcast is sent on the links among its targets. -/
theorem replica_sendAll {pair : Pair} {op : Op Uuid} {message : Bytes} {targets : List Ref}
    (chosen : Chosen pair.b pair.far op message targets) (phase : Phase) :
    ((pair.sendAll message targets).setPhase op.item phase).replica =
      { pair.replica with
        queue := Replica.push (targets.filter fun target => (pair.far target).isSome) op
          pair.replica.queue
        stage := Function.update pair.replica.stage op.item phase.stage } := by
  have sent := State.foldl_send_eq message targets
    { pair.b with broadcast := pair.b.broadcast ++ [message] }
  apply Replica.ext
  · funext near
    by_cases isLink : (pair.far near).isSome
    · have wires : ((pair.sendAll message targets).setPhase op.item phase).pending near =
          pair.pending near ++
            (targets.filter fun target => target = near).map fun _ => message := by
        rw [pending, pending, List.append_assoc, ← carried_sendAll chosen.nonempty]
        rfl
      have selected : (targets.filter fun target => (pair.far target).isSome).filter
          (fun target => target = near) = targets.filter fun target => target = near := by
        rw [List.filter_filter]
        apply List.filter_congr
        intro target _
        by_cases same : target = near
        · simp [same, isLink]
        · simp [same]
      change (if (pair.far near).isSome then _ else _) = _ ++ _
      rw [if_pos isLink, wires, List.filterMap_append, selected, List.filterMap_map]
      simp [replica, isLink, chosen.carries]
    · have none : (targets.filter fun target => (pair.far target).isSome).filter
          (fun target => target = near) = [] := by
        rw [List.filter_filter, List.filter_eq_nil_iff]
        intro target _ both
        simp only [Bool.and_eq_true, decide_eq_true_eq] at both
        rw [both.1] at both
        exact isLink both.2
      change (if (pair.far near).isSome then _ else _) = _ ++ _
      rw [if_neg isLink, none]
      simp [replica, isLink]
  · exact stage_setPhase op.item phase (pair.sendAll message targets)
  · change {id | pair.a.Holds (State.nodeId (targets.foldl _ _)) id} = {id | pair.a.Holds _ id}
    rw [sent]

/-- Carrying out an operation changes the placeholders as it changes a set. -/
theorem holds_carryOut {env : Environment} {node : Uuid} {state : State}
    (formed : WellFormed state) {op : Op Uuid}
    (own : ∀ entry ∈ state.sessions, entry.key.id = op.item →
      (state.memory entry.elem).type = .websocket ∧ (state.memory entry.elem).nodeId = node) :
    {id | (carryOut env node state op).Holds node id} =
      Replica.apply {id | state.Holds node id} op := by
  ext id
  cases op with
  | join joining => exact formed.holds_join env own id
  | leave leaving => exact formed.holds_leave node leaving id

/-- Handling a frame delivers the operation it carries. -/
theorem replica_handled {pair : Pair} (invariant : Invariant pair) {envA : Environment}
    {near far : Ref} {frame : Bytes} (link : pair.far near = some far)
    (next : pair.handling near = some frame) {back : Ref → List Bytes} :
    ∃ op, opOf frame = some op ∧
      pair.replica.queue near = op :: (pair.wire near).filterMap opOf ∧
        ({ pair with
            a := pair.a.receive envA far (frame.drop 4)
            handling := Function.update pair.handling near none
            back := back } : Pair).replica =
          { pair.replica with
            queue := Function.update pair.replica.queue near ((pair.wire near).filterMap opOf)
            held := Replica.apply pair.replica.held op } := by
  obtain ⟨op, replies, ⟨carries, known⟩, _, received⟩ := invariant.receive_eq envA link next
  refine ⟨op, carries, ?_, ?_⟩
  · simp [replica, link, pending, next, carries]
  · apply Replica.ext
    · funext other
      by_cases same : other = near
      · subst same
        simp [replica, link, pending]
      · simp [replica, pending, same]
    · rfl
    · have own : ∀ entry ∈ pair.a.sessions, entry.key.id = op.item →
          (pair.a.memory entry.elem).type = .websocket ∧
            (pair.a.memory entry.elem).nodeId = pair.b.nodeId :=
        fun entry member keyEq => invariant.placed entry member (keyEq ▸ known)
      change {id | (pair.a.receive envA far (frame.drop 4)).Holds pair.b.nodeId id} = _
      rw [received]
      exact holds_carryOut invariant.linked.formedA own

/-- Handling a leave in order is delivering it in order. -/
theorem inOrder_replica {pair : Pair} {near : Ref} {frame : Bytes} {op : Op Uuid}
    {rest : List (Op Uuid)} (inOrder : pair.InOrder (.handleFrame near))
    (next : pair.handling near = some frame) (carries : opOf frame = some op)
    (queue : pair.replica.queue near = op :: rest) :
    Replica.InOrder pair.replica (.deliver near) := by
  intro item others isLeave other differs waiting
  rw [queue] at isLeave
  cases isLeave
  by_cases isLink : (pair.far other).isSome
  · simp only [replica, if_pos isLink] at waiting
    obtain ⟨joining, member, carriesJoin⟩ := List.mem_filterMap.mp waiting
    exact inOrder frame item next carries other differs isLink joining member carriesJoin
  · simp only [replica, if_neg isLink] at waiting
    cases waiting

/-- Each step of the pair that handles leaves in order is a step of the
replication that delivers in order, or none. -/
theorem replica_step {pair next : Pair} {envA envB : Environment} {event : Event}
    (invariant : Invariant pair) (inOrder : pair.InOrder event)
    (change : pair.Change envA envB event next) :
    next.replica = pair.replica ∨
      ∃ abstract, (Replica.machine.under Replica.InOrder).step pair.replica abstract
        next.replica := by
  cases change with
  | linkUp freshA freshAtB freshB => exact Or.inl (replica_linkUp invariant freshA)
  | connects freshA freshB =>
      have fresh : (pair.phase (pair.b.nextUuid envB)).stage = .fresh :=
        Phase.stage_of_absent (invariant.clients.absent_of_fresh freshB)
      exact Or.inl (replica_of_quiet (Extends.acceptWebsocket envB pair.b).nodeId
        (State.acceptWebsocket_sent envB pair.b) fresh.symm)
  | opened id connecting =>
      left
      apply replica_of_quiet
      · rfl
      · rfl
      · rw [connecting]
        rfl
  | closed id active =>
      have closing := Extends.closeStream (pair.object id)
        { pair.b with sessions := pair.b.sessions.eraseById id }
      have silent := State.closeStream_sent (pair.object id)
        { pair.b with sessions := pair.b.sessions.eraseById id }
      have stage : pair.replica.stage id = .fresh ∨ pair.replica.stage id = .announced := by
        rcases active with connecting | joined
        · exact Or.inl (congrArg Phase.stage connecting)
        · exact Or.inr (congrArg Phase.stage joined)
      rw [invariant.unregister_eq (Invariant.listed_of_active active),
        replica_of_silent closing.nodeId silent]
      exact Or.inr ⟨.retire id, trivial, .retire id stage⟩
  | chose op message ready nonempty carries =>
      left
      apply replica_of_quiet
      · rfl
      · rfl
      · rw [ready]
        cases op <;> rfl
  | sent op message targets isChosen =>
      have chosen := invariant.chosen op message targets isChosen
      have links : (targets.filter fun target => (pair.far target).isSome) ≠ [] := by
        obtain ⟨target, member, isLink⟩ := chosen.reaches
        exact List.ne_nil_of_mem (List.mem_filter.mpr ⟨member, isLink⟩)
      rw [replica_sendAll chosen]
      have stage := congrArg Phase.stage isChosen
      cases op with
      | join id => exact Or.inr ⟨.announce id _, trivial, .announce id _ links stage⟩
      | leave id => exact Or.inr ⟨.withdraw id _, trivial, .withdraw id _ links stage⟩
  | read near frame rest idle next =>
      left
      have queues := pending_read idle next
      apply Replica.ext
      · simp only [replica, queues]
      · rfl
      · rfl
  | handled near far frame link next =>
      obtain ⟨op, carries, queue, delivered⟩ := replica_handled invariant link next
      rw [delivered]
      exact Or.inr ⟨.deliver near, inOrder_replica inOrder next carries queue,
        .deliver near op _ queue⟩
  | answered near frame rest next =>
      left
      have isAnswer : Answers frame := invariant.answers near frame (by simp [next])
      obtain ⟨sent, silent⟩ := setB_receive_answer envB pair near isAnswer
      rw [silent]
      rfl

/-- A run that handles leaves in order carries out a replication that delivers
in order. -/
theorem replica_reachable {pair : Pair} {envA envB : Environment}
    (reachable : ((machine envA envB).under InOrder).Reachable pair) :
    (Replica.machine.under Replica.InOrder).Reachable pair.replica := by
  refine reachable.simulates replica ?_ ?_
  · intro start identified
    refine ⟨?_, ?_, ?_⟩
    · intro near
      obtain ⟨noFrame, noneRead, _⟩ := identified.idle near
      simp [replica, pending, noFrame, noneRead]
    · exact fun id => congrArg Phase.stage (identified.absent id)
    · exact Set.eq_empty_iff_forall_notMem.mpr identified.noneHeld
  · rintro before event next reached ⟨inOrder, taken⟩
    exact replica_step (invariant_of_reachable reached.of_under) inOrder (change_of_perform taken)

/-- In a run in which A handles no leave while the join of the same client is
on its way on another link, A holds exactly the clients that B serves, whenever
nothing is in flight and no step is under way. -/
theorem registries_converge {envA envB : Environment} {pair : Pair}
    (reachable : ((machine envA envB).under InOrder).Reachable pair)
    (quiescent : pair.Quiescent) (id : Uuid) :
    pair.a.Holds pair.b.nodeId id ↔ pair.Serves id := by
  have clients := (invariant_of_reachable reachable.of_under).clients
  have empty : ∀ near, pair.replica.queue near = [] := by
    intro near
    by_cases isLink : (pair.far near).isSome
    · simp [replica, (quiescent.empty near isLink).1]
    · simp [replica, isLink]
  have settled : ∀ id, pair.replica.stage id ≠ .withdrawing :=
    fun id => (quiescent.settled id).stage_ne
  have held := Replica.converged (replica_reachable reachable) empty settled id
  exact held.trans ((quiescent.settled id).announced_iff.trans (clients.serves_iff id).symm)

/-! ## Runs of two nodes that have just met -/

/-- Quiescence, looked for only where B has session objects. -/
def Still (pair : Pair) : Prop :=
  (∀ near < pair.b.allocated, (pair.far near).isSome →
      pair.pending near = [] ∧ pair.back near = []) ∧
    ∀ ref < pair.b.allocated, (pair.phase (pair.b.memory ref).id).Settled

instance (pair : Pair) : Decidable pair.Still :=
  inferInstanceAs (Decidable (_ ∧ _))

theorem Still.quiescent {pair : Pair} (still : pair.Still) (invariant : Invariant pair) :
    pair.Quiescent where
  empty near isLink := still.1 near (invariant.linked.near_allocated isLink) isLink
  settled id := by
    by_cases absent : pair.status id = .absent
    · exact Phase.settled_of_absent absent
    · obtain ⟨older, named, _⟩ := invariant.clients.created id absent
      have settled := still.2 (pair.object id) older
      rwa [named] at settled

/-- Carry out a list of events. -/
def run (envA envB : Environment) : List Event → Pair → Option Pair
  | [], pair => some pair
  | event :: events, pair => (pair.perform envA envB event).bind (run envA envB events)

theorem run_reachable {envA envB : Environment} {events : List Event} {pair next : Pair}
    (reached : (machine envA envB).Reachable pair)
    (ran : run envA envB events pair = some next) : (machine envA envB).Reachable next := by
  induction events generalizing pair with
  | nil =>
      cases ran
      exact reached
  | cons event events ih =>
      obtain ⟨middle, step, rest⟩ := Option.bind_eq_some_iff.mp ran
      exact ih (.step reached step) rest

/-- With a single link every leave is handled in order. -/
theorem inOrder_of_single {envA envB : Environment} {pair next : Pair} {event : Event}
    (single : ∀ near other, (pair.far near).isSome → (pair.far other).isSome → other = near)
    (step : pair.perform envA envB event = some next) : pair.InOrder event := by
  cases event with
  | handleFrame near =>
      intro frame id _ _ other differs isLink
      simp only [perform] at step
      split at step
      · rename_i far handled link read
        exact absurd (single near other (by simp [link]) isLink) differs
      · cases step
  | _ => trivial

/-- A run that starts with a single link and brings no other up is in order. -/
theorem run_inOrder {envA envB : Environment} {events : List Event} {pair next : Pair}
    (single : ∀ near other, (pair.far near).isSome → (pair.far other).isSome → other = near)
    (noLink : ∀ event ∈ events, event ≠ .linkUp)
    (reached : ((machine envA envB).under InOrder).Reachable pair)
    (ran : run envA envB events pair = some next) :
    ((machine envA envB).under InOrder).Reachable next := by
  induction events generalizing pair with
  | nil =>
      cases ran
      exact reached
  | cons event events ih =>
      obtain ⟨middle, step, rest⟩ := Option.bind_eq_some_iff.mp ran
      have sameFar : middle.far = pair.far :=
        (change_of_perform step).far_eq (noLink event List.mem_cons_self)
      have inOrder := inOrder_of_single single step
      refine ih ?_ (fun other member => noLink other (List.mem_cons_of_mem _ member))
        (.step reached ⟨inOrder, step⟩) rest
      rw [sameFar]
      exact single

/-- Two nodes that have just been started, with one link between them. -/
def met (envA envB : Environment) (nodeA nodeB : Uuid) : Pair where
  a := openLink envA nodeB (State.initial nodeA 0)
  b := openLink envB nodeA (State.initial nodeB 0)
  far near := if near = 0 then some 0 else none
  wire _ := []
  handling _ := none
  back _ := []
  phase _ := .absent
  object _ := 0

/-- A node that has just been started registers nothing but its link. -/
theorem mem_openLink_initial_iff {env : Environment} {node peer : Uuid} {entry : Entry} :
    entry ∈ (openLink env peer (State.initial node 0)).sessions ↔
      entry = ⟨0, (tcpSession (env.uuid 0) .accepted).key⟩ := by
  have fresh : Fresh ((State.initial node 0).nextUuid env) (State.initial node 0) :=
    fun ref created => absurd created (Nat.not_lt_zero ref)
  rw [mem_openLink_iff (WellFormed.initial node 0) fresh]
  exact or_iff_left List.not_mem_nil

theorem openLink_initial_memory (env : Environment) (node peer : Uuid) :
    (openLink env peer (State.initial node 0)).memory 0 =
      { tcpSession (env.uuid 0) .accepted with nodeId := peer } :=
  openLink_memory_self

theorem identified_met (envA envB : Environment) (nodeA nodeB : Uuid) :
    (met envA envB nodeA nodeB).Identified where
  linked :=
    { formedA := openLink_wellFormed (WellFormed.initial nodeA 0)
      formedB := openLink_wellFormed (WellFormed.initial nodeB 0)
      some := ⟨0, rfl⟩
      nearEnd := by
        intro near isLink
        have isZero : near = 0 := by
          by_contra differs
          simp [met, differs] at isLink
        subst isZero
        refine ⟨⟨_, mem_openLink_initial_iff.mpr rfl, rfl⟩, ?_⟩
        simp only [met, openLink_initial_memory]
        exact ⟨rfl, rfl⟩
      farEnd := by
        intro near far isLink
        have isZero : far = 0 := by
          simp only [met] at isLink
          split at isLink
          · cases isLink
            rfl
          · cases isLink
        subst isZero
        simp only [met, openLink_initial_memory]
        exact ⟨Nat.zero_lt_one, rfl, rfl⟩
      only := by
        intro entry member _ _
        rw [mem_openLink_initial_iff.mp member]
        rfl }
  noneHeld := by
    rintro id ⟨entry, member, websocket, _⟩
    simp only [met, mem_openLink_initial_iff.mp member, openLink_initial_memory] at websocket
    cases websocket
  noClient := by
    intro entry member isClient
    simp only [met, mem_openLink_initial_iff.mp member, openLink_initial_memory] at isClient
    cases isClient
  idle _ := ⟨rfl, rfl, rfl⟩
  absent _ := rfl

/-- The random identifiers are `10…10`, `11…11` and so on. -/
def environmentA : Environment :=
  .plain (fun drawn => Uuid.filled (UInt8.ofNat (drawn + 10))) fun _ => false

/-- The random identifiers are `100…100`, `101…101` and so on. -/
def environmentB : Environment :=
  .plain (fun drawn => Uuid.filled (UInt8.ofNat (drawn + 100))) fun _ => false

/-- The identifier that B draws for its first client. -/
def firstClient : Uuid :=
  Uuid.filled 101

/-- A client connects, and A learns of it. -/
def greeting : List Event :=
  [.connects, .handshake firstClient false, .chooseJoin firstClient, .sendJoin firstClient,
    .read 0, .handleFrame 0, .readReply 0]

theorem registries_converge_greeting :
    ∃ pair, ((machine environmentA environmentB).under InOrder).Reachable pair ∧
      pair.Quiescent ∧ pair.Serves firstClient ∧
        (pair.a.Holds pair.b.nodeId firstClient ↔ pair.Serves firstClient) := by
  have ran : ∃ pair ∈ run environmentA environmentB greeting
      (met environmentA environmentB (Uuid.filled 1) (Uuid.filled 2)),
      pair.Still ∧ pair.Serves firstClient := by
    decide +kernel
  rcases ran with ⟨pair, reached, still, serves⟩
  have single : ∀ near other,
      ((met environmentA environmentB (Uuid.filled 1) (Uuid.filled 2)).far near).isSome →
        ((met environmentA environmentB (Uuid.filled 1) (Uuid.filled 2)).far other).isSome →
          other = near := by
    intro near other
    simp only [met]
    split <;> split <;> simp_all
  have reachable :=
    run_inOrder single (by simp [greeting]) (.start (identified_met _ _ _ _)) reached
  have quiescent := still.quiescent (invariant_of_reachable reachable.of_under)
  exact ⟨pair, reachable, quiescent, serves, registries_converge reachable quiescent firstClient⟩

/-- The join of a client waits on the first link while a second one comes up;
the leave takes that one and is handled first. -/
def overtaking : List Event :=
  [.connects, .handshake firstClient false, .chooseJoin firstClient, .sendJoin firstClient,
    .linkUp, .disconnects firstClient, .chooseLeave firstClient, .sendLeave firstClient,
    .read 2, .handleFrame 2, .read 0, .handleFrame 0, .readReply 2, .readReply 0]

/-- A leave that overtakes the join leaves a placeholder for a client that is
gone. -/
theorem overtaking_diverges :
    ∃ pair, (machine environmentA environmentB).Reachable pair ∧ pair.Quiescent ∧
      pair.a.Holds pair.b.nodeId firstClient ∧ ¬pair.Serves firstClient := by
  have ran : ∃ pair ∈ run environmentA environmentB overtaking
      (met environmentA environmentB (Uuid.filled 1) (Uuid.filled 2)),
      pair.Still ∧ pair.a.Holds pair.b.nodeId firstClient ∧ ¬pair.Serves firstClient := by
    decide +kernel
  rcases ran with ⟨pair, reached, still, diverges⟩
  have reachable := run_reachable (.start (identified_met _ _ _ _)) reached
  exact ⟨pair, reachable, still.quiescent (invariant_of_reachable reachable), diverges⟩

end Pair

end Aurum.Cluster
