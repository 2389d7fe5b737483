import Aurum.Container.Ledger
import Aurum.Node.Runs

/-!
# Critical sections

The operations on the registry lock it in sections and run unlocked between
them.  Here a thread takes one section a step, in any interleaving with other
threads.  The ledger numbers the insertions, so that two registrations of one
session object are told apart.
-/

namespace Aurum.Node

open Aurum.Protocol
open Aurum.Container
open Aurum.Transition

namespace State

/-- The locked section of `remove_session`. -/
def takeOut (id : Uuid) (state : State) : Option Ref × State :=
  match state.sessions.findById id with
  | some entry => (some entry.elem, { state with sessions := state.sessions.eraseById id })
  | none => (none, state)

/-- What the locked section of `disconnect` collects. -/
def idsUnder (env : Environment) (node : Uuid) (state : State) : List Uuid :=
  (env.order (state.sessions.byNodeId node)).map fun ref => (state.memory ref).id

/-- What the locked section of `disconnect_all` collects. -/
def allIds (state : State) : List Uuid :=
  state.sessions.refs.map fun ref => (state.memory ref).id

/-- The session object that the join handler builds. -/
def buildPlaceholder (session : Ref) (id : Uuid) (state : State) : State :=
  let node := (state.memory session).nodeId
  (state.allocate (websocketSession id (.joined node))).setNodeId state.allocated node

/-- What the second locked section of the join handler counts. -/
def countFound (id : Uuid) (state : State) : UInt64 :=
  if (state.sessions.findById id).isSome then 1 else 0

/-- The locked section of the leave handler. -/
def takeOutAll (id : Uuid) (state : State) : UInt64 × State :=
  let erased := Handlers.eraseFound id (state.sessions.length + 1) state.sessions 0
  (erased.2, { state with sessions := erased.1 })

variable (env : Environment)

theorem removeSession_sections (id : Uuid) (state : State) :
    state.removeSession env id =
      match state.takeOut id with
      | (some ref, state) => do
          let state ← state.disconnectSession env ref
          return (true, state)
      | (none, state) => .ok (false, state) := by
  unfold removeSession takeOut
  cases state.sessions.findById id <;> rfl

theorem disconnect_sections (node : Uuid) (state : State) :
    state.disconnect env node = state.removeSessions env (state.idsUnder env node) :=
  rfl

theorem disconnectAll_sections (state : State) :
    state.disconnectAll env = state.removeSessions env state.allIds :=
  rfl

end State

/-- The join and the leave handler return before they read the payload. -/
def Ignored (state : State) (session : Ref) (type : MessageType) (payload : Bytes) : Prop :=
  ((state.memory session).type = .websocket ∨ type = .response) ∨ payload.length < 16

instance (state : State) (session : Ref) (type : MessageType) (payload : Bytes) :
    Decidable (Ignored state session type payload) :=
  inferInstanceAs (Decidable ((_ ∨ _) ∨ _))

theorem Handlers.join_sections (env : Environment) (session : Ref) (type : MessageType)
    (builder : ResponseBuilder) (transactionId : Uuid) (payload : Bytes) (state : State) :
    Handlers.join env session type builder transactionId payload state =
      if Ignored state session type payload then .ok (builder, state)
      else do
        let id ← readUuid payload 0
        let added := ((state.buildPlaceholder session id).addSession env state.allocated).2
        return (builder.addJoin transactionId (added.countFound id), added) := by
  unfold Handlers.join
  by_cases closed : (state.memory session).type = .websocket ∨ type = .response
  · have ignored : Ignored state session type payload := Or.inl closed
    rw [if_pos closed, if_pos ignored]
  · by_cases short : payload.length < 16
    · have ignored : Ignored state session type payload := Or.inr short
      rw [if_neg closed, if_pos short, if_pos ignored]
    · have reads : ¬Ignored state session type payload := fun ignored => ignored.elim closed short
      rw [if_neg closed, if_neg short, if_neg reads]
      rfl

theorem Handlers.leave_sections (session : Ref) (type : MessageType) (builder : ResponseBuilder)
    (transactionId : Uuid) (payload : Bytes) (state : State) :
    Handlers.leave session type builder transactionId payload state =
      if Ignored state session type payload then .ok (builder, state)
      else do
        let id ← readUuid payload 0
        let left := state.takeOutAll id
        return (builder.addLeave transactionId left.1, left.2) := by
  unfold Handlers.leave
  by_cases closed : (state.memory session).type = .websocket ∨ type = .response
  · have ignored : Ignored state session type payload := Or.inl closed
    rw [if_pos closed, if_pos ignored]
  · by_cases short : payload.length < 16
    · have ignored : Ignored state session type payload := Or.inr short
      rw [if_neg closed, if_pos short, if_pos ignored]
    · have reads : ¬Ignored state session type payload := fun ignored => ignored.elim closed short
      rw [if_neg closed, if_neg short, if_neg reads]
      rfl

/-! ## Tasks -/

/-- A call of one of the operations; join and leave are handler calls. -/
inductive Call
  | addSession (ref : Ref)
  | removeSession (id : Uuid)
  | disconnect (node : Uuid)
  | disconnectAll
  | join (session : Ref) (type : MessageType) (payload : Bytes)
  | leave (session : Ref) (type : MessageType) (payload : Bytes)

/-- The call removes the sessions of a snapshot. -/
def Call.Bulk : Call → Prop
  | .disconnect _ | .disconnectAll => True
  | _ => False

/-- The call removes sessions by `remove_session`. -/
def Call.Removes : Call → Prop
  | .removeSession _ | .disconnect _ | .disconnectAll => True
  | _ => False

theorem Call.Bulk.removes {call : Call} (bulk : call.Bulk) : call.Removes := by
  cases call with
  | disconnect node => trivial
  | disconnectAll => trivial
  | _ => exact bulk.elim

/-- What a call ends with: nothing, its return value, or the count it replies. -/
inductive Answer
  | nothing
  | flag (value : Bool)
  | count (value : UInt64)

/-- What a call returns once its calls of `remove_session` have. -/
def Call.answer (call : Call) (removed : Bool) : Answer :=
  match call with
  | .removeSession _ => .flag removed
  | _ => .nothing

/-- How far a call is. -/
inductive Phase
  | called
  /-- `remove_session` is due for some identifiers; the flag is what its last
  call returned. -/
  | removing (ids : List Uuid) (removed : Bool)
  /-- `remove_session` has erased an insertion and `disconnect()` is due. -/
  | closing (number : Nat) (ref : Ref) (ids : List Uuid)
  /-- The join handler has built its session object. -/
  | built (ref : Ref) (id : Uuid)
  /-- The join handler has called `add_session`. -/
  | added (id : Uuid)
  | returned (answer : Answer)

structure Task where
  call : Call
  phase : Phase
  /-- The identifiers that `disconnect` or `disconnect_all` has collected. -/
  collected : List Uuid
  /-- The insertions that were registered when it collected them. -/
  snapshot : List Nat

namespace Task

def start (call : Call) : Task :=
  { call := call, phase := .called, collected := [], snapshot := [] }

def goto (task : Task) (phase : Phase) : Task :=
  { task with phase := phase }

/-- The call names the identifier of a session to remove. -/
def Names (task : Task) (id : Uuid) : Prop :=
  match task.call with
  | .removeSession named => id = named
  | .leave _ _ payload => readUuid payload 0 = .ok id
  | .disconnect _ | .disconnectAll => id ∈ task.collected
  | .addSession _ | .join _ _ _ => False

end Task

/-- A node with the calls that run on it. -/
structure Pool where
  node : State
  tasks : Nat → Option Task
  ledger : Ledger Ref Uuid Nat
  /-- The calls of `disconnect()`: for which insertion and by which task. -/
  torn : List (Nat × Nat)

namespace Pool

def initial (nodeId : Uuid) (tcpPort : UInt16) : Pool :=
  { node := State.initial nodeId tcpPort, tasks := fun _ => none, ledger := .empty, torn := [] }

/-- The insertions of the sessions registered whose key passes a test. -/
def numbers (pool : Pool) (test : Key → Bool) : List Nat :=
  (pool.node.sessions.filter fun entry => test entry.key).map fun entry =>
    pool.ledger.latest entry.key.id

/-- An insertion is registered. -/
def Registered (pool : Pool) (number : Nat) : Prop :=
  pool.ledger.Open Key.id pool.node.sessions number

/-- `add_session`. -/
def register (env : Environment) (ref : Ref) (pool : Pool) : Bool × Pool :=
  let (inserted, node) := pool.node.addSession env ref
  (inserted, { pool with
    node := node
    ledger := if inserted then pool.ledger.insert (pool.node.memory ref).id ref else pool.ledger })

/-- A task has erased what was registered under an identifier. -/
def close (t : Nat) (id : Uuid) (node : State) (pool : Pool) : Pool :=
  { pool with node := node, ledger := pool.ledger.close id t }

/-- The next section of a task. -/
def proceed (env : Environment) (t : Nat) (task : Task) (pool : Pool) : Option (Task × Pool) :=
  match task.phase with
  | .called =>
      match task.call with
      | .addSession ref =>
          let (inserted, pool) := pool.register env ref
          some (task.goto (.returned (.flag inserted)), pool)
      | .removeSession id => some (task.goto (.removing [id] false), pool)
      | .disconnect node =>
          let ids := pool.node.idsUnder env node
          some ({ task with
            phase := .removing ids false
            collected := ids
            snapshot := pool.numbers fun key => key.nodeId = node }, pool)
      | .disconnectAll =>
          let ids := pool.node.allIds
          some ({ task with
            phase := .removing ids false
            collected := ids
            snapshot := pool.numbers fun _ => true }, pool)
      | .join session type payload =>
          if Ignored pool.node session type payload then
            some (task.goto (.returned .nothing), pool)
          else
            match readUuid payload 0 with
            | .error _ => none
            | .ok id => some (task.goto (.built pool.node.allocated id),
                { pool with node := pool.node.buildPlaceholder session id })
      | .leave session type payload =>
          if Ignored pool.node session type payload then
            some (task.goto (.returned .nothing), pool)
          else
            match readUuid payload 0 with
            | .error _ => none
            | .ok id =>
                let (removed, node) := pool.node.takeOutAll id
                some (task.goto (.returned (.count removed)),
                  if (pool.node.sessions.findById id).isSome then pool.close t id node
                  else { pool with node := node })
  | .removing [] removed => some (task.goto (.returned (task.call.answer removed)), pool)
  | .removing (id :: ids) _ =>
      match pool.node.takeOut id with
      | (none, node) => some (task.goto (.removing ids false), { pool with node := node })
      | (some ref, node) =>
          some (task.goto (.closing (pool.ledger.latest id) ref ids), pool.close t id node)
  | .closing number ref ids =>
      match pool.node.disconnectSession env ref with
      | .error _ => none
      | .ok node => some (task.goto (.removing ids true),
          { pool with node := node, torn := pool.torn ++ [(number, t)] })
  | .built ref id =>
      let (_, pool) := pool.register env ref
      some (task.goto (.added id), pool)
  | .added id => some (task.goto (.returned (.count (pool.node.countFound id))), pool)
  | .returned _ => none

/-- What a task is now. -/
def put (t : Nat) (task : Task) (pool : Pool) : Pool :=
  { pool with tasks := Function.update pool.tasks t (some task) }

@[simp]
theorem put_tasks_self (t : Nat) (task : Task) (pool : Pool) :
    (pool.put t task).tasks t = some task :=
  Function.update_self _ _ _

theorem put_tasks_of_ne {t other : Nat} (differs : other ≠ t) (task : Task) (pool : Pool) :
    (pool.put t task).tasks other = pool.tasks other :=
  Function.update_of_ne differs _ _

/-- What can happen: session objects appear, change their node id, and calls
are made and proceed. -/
inductive Event
  | create (session : Session)
  | setNodeId (ref : Ref) (nodeId : Uuid)
  | call (t : Nat) (call : Call)
  | proceed (t : Nat)

/-- The session objects that a call names exist. -/
def Event.Enabled (pool : Pool) : Event → Prop
  | .call _ (.addSession ref) => ref < pool.node.allocated
  | .call _ (.join session _ _) | .call _ (.leave session _ _) => session < pool.node.allocated
  | _ => True

instance (pool : Pool) : DecidablePred (Event.Enabled pool) := fun event => by
  unfold Event.Enabled
  split <;> infer_instance

def perform (env : Environment) (pool : Pool) : Event → Option Pool
  | .create session => some { pool with node := pool.node.allocate session }
  | .setNodeId ref nodeId => some { pool with node := pool.node.setNodeId ref nodeId }
  | .call t call => if (pool.tasks t).isNone then some (pool.put t (.start call)) else none
  | .proceed t => do
      let task ← pool.tasks t
      let (task, pool) ← pool.proceed env t task
      return pool.put t task

/-- A node whose operations interleave. -/
def machine (env : Environment) : Machine Pool Event where
  start pool := ∃ nodeId tcpPort, pool = initial nodeId tcpPort
  step pool event next := event.Enabled pool ∧ pool.perform env event = some next

end Pool

end Aurum.Node
