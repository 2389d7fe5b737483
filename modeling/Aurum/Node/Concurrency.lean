import Aurum.Node.Alone
import Mathlib.Data.Fintype.Order

/-!
# Threads of a node

The threads of a node carry out any events in any interleaving.  They take
`sessions_mutex_` before `round_robin_mutex_` and before the mutex of a
builder, and the other two last; so the node never comes to a standstill, and
nothing is written to the registry or to the round-robin table while another
thread is at it.
-/

namespace Aurum.Node

open Aurum.Protocol
open Aurum.Transition

namespace Lock

variable {ι : Type}

/-- The order in which locks are taken. -/
def rank : Lock ι → Fin 2
  | .sessions => 0
  | .roundRobin => 1
  | .buffers _ => 1

/-- The registry and the round-robin table are what the two mutexes of the
state protect; what a builder holds is no part of the node. -/
def guards : Program.Guards (Lock ι) State where
  same
    | .sessions => fun first second => second.sessions = first.sessions
    | .roundRobin => fun first second => second.roundRobin = first.roundRobin
    | .buffers _ => fun _ _ => True
  apart
    | .sessions => fun first second => second = { first with sessions := second.sessions }
    | .roundRobin => fun first second => second = { first with roundRobin := second.roundRobin }
    | .buffers _ => fun first second => second = first

end Lock

namespace Job

variable {ι α β : Type} [DecidableEq ι]

/-- The job goes by the rules and gives back the locks it takes. -/
def Disciplined (held : List (Lock ι × Mode)) (job : Job ι α) : Prop :=
  Program.Disciplined Lock.rank Lock.guards held held (ExceptT.run job)

/-- A step neither looks at the registry nor changes it. -/
def IgnoresSessions (step : State → α × State) : Prop :=
  ∀ state sessions, step { state with sessions := sessions } =
    ((step state).1, { (step state).2 with sessions := sessions })

/-- A step neither looks at the round-robin table nor changes it. -/
def IgnoresTable (step : State → α × State) : Prop :=
  ∀ state roundRobin, step { state with roundRobin := roundRobin } =
    ((step state).1, { (step state).2 with roundRobin := roundRobin })

variable {held : List (Lock ι × Mode)}

theorem IgnoresSessions.keeps {step : State → α × State} (ignores : IgnoresSessions step)
    (state : State) : (step state).2.sessions = state.sessions :=
  congrArg (fun result => result.2.sessions) (ignores state state.sessions)

theorem IgnoresTable.keeps {step : State → α × State} (ignores : IgnoresTable step)
    (state : State) : (step state).2.roundRobin = state.roundRobin :=
  congrArg (fun result => result.2.roundRobin) (ignores state state.roundRobin)

/-- A step on the node, with what it may do under the locks held. -/
theorem disciplined_modify {step : State → α × State}
    (keepsSessions : (.sessions, .exclusive) ∉ held →
      ∀ state, (step state).2.sessions = state.sessions)
    (ignoresSessions : (∀ mode, (.sessions, mode) ∉ held) → IgnoresSessions step)
    (keepsTable : (.roundRobin, .exclusive) ∉ held →
      ∀ state, (step state).2.roundRobin = state.roundRobin)
    (ignoresTable : (∀ mode, (.roundRobin, mode) ∉ held) → IgnoresTable step) :
    Disciplined held (modify step) := by
  refine .act ?_ ?_ fun state => .done _
  · intro lock unheld state
    cases lock with
    | sessions => exact keepsSessions unheld state
    | roundRobin => exact keepsTable unheld state
    | buffers owner => trivial
  · intro lock unheld first second apart
    cases lock with
    | sessions =>
        have agrees : second = { first with sessions := second.sessions } := apart
        have ignores := ignoresSessions unheld first second.sessions
        rw [← agrees] at ignores
        constructor
        · exact congrArg (fun result => Program.done (Except.ok result.1)) ignores.symm
        · show (step second).2 = { (step first).2 with sessions := (step second).2.sessions }
          rw [ignores]
    | roundRobin =>
        have agrees : second = { first with roundRobin := second.roundRobin } := apart
        have ignores := ignoresTable unheld first second.roundRobin
        rw [← agrees] at ignores
        constructor
        · exact congrArg (fun result => Program.done (Except.ok result.1)) ignores.symm
        · show (step second).2 = { (step first).2 with roundRobin := (step second).2.roundRobin }
          rw [ignores]
    | buffers owner =>
        rw [show second = first from apart]
        exact ⟨rfl, rfl⟩

namespace Disciplined

/-- A step that has nothing to do with registry and table needs no lock. -/
theorem modify {step : State → α × State} (sessions : IgnoresSessions step)
    (table : IgnoresTable step) : Disciplined held (Job.modify step) :=
  disciplined_modify (fun _ => sessions.keeps) (fun _ => sessions) (fun _ => table.keeps)
    fun _ => table

theorem change {step : State → State} (sessions : IgnoresSessions fun state => ((), step state))
    (table : IgnoresTable fun state => ((), step state)) :
    Disciplined held (Job.change step) :=
  modify sessions table

theorem read {look : State → α} (sessions : IgnoresSessions fun state => (look state, state))
    (table : IgnoresTable fun state => (look state, state)) : Disciplined held (Job.read look) :=
  modify sessions table

/-- Whoever holds the lock of the registry alone may change it. -/
theorem modifyRegistry {step : State → α × State} (alone : (.sessions, .exclusive) ∈ held)
    (table : IgnoresTable step) : Disciplined held (Job.modify step) :=
  disciplined_modify (fun unheld => absurd alone unheld)
    (fun unheld => absurd alone (unheld .exclusive)) (fun _ => table.keeps) fun _ => table

/-- Whoever holds the lock of the registry may look at it. -/
theorem readRegistry {look : State → α} {mode : Mode} (holds : (.sessions, mode) ∈ held)
    (table : IgnoresTable fun state => (look state, state)) :
    Disciplined held (Job.read look) :=
  disciplined_modify (fun _ _ => rfl) (fun unheld => absurd holds (unheld mode)) (fun _ _ => rfl)
    fun _ => table

/-- Whoever holds the lock of the round-robin table may change it. -/
theorem modifyTable {step : State → α × State} (alone : (.roundRobin, .exclusive) ∈ held)
    (sessions : IgnoresSessions step) : Disciplined held (Job.modify step) :=
  disciplined_modify (fun _ => sessions.keeps) (fun _ => sessions)
    (fun unheld => absurd alone unheld) fun unheld => absurd alone (unheld .exclusive)

theorem pure (value : α) : Disciplined held (Pure.pure value : Job ι α) :=
  .done _

theorem ofResult (result : Result α) : Disciplined held (Job.ofResult result : Job ι α) :=
  .done _

theorem bind {job : Job ι α} {behind : α → Job ι β} (first : Disciplined held job)
    (second : ∀ value, Disciplined held (behind value)) : Disciplined held (job >>= behind) := by
  apply Program.Disciplined.bind first
  intro result
  cases result with
  | ok value => exact second value
  | error failure => exact .done _

theorem locked {lock : Lock ι} {mode : Mode} {body : Job ι α}
    (above : ∀ other ∈ held, other.1.rank < lock.rank)
    (inside : Disciplined ((lock, mode) :: held) body) :
    Disciplined held (Job.locked lock mode body) :=
  Program.Disciplined.locked above inside

/-- A lock taken while no other is held. -/
theorem lockedFirst {lock : Lock ι} {mode : Mode} {body : Job ι α}
    (inside : Disciplined [(lock, mode)] body) : Disciplined [] (Job.locked lock mode body) := by
  apply locked _ inside
  intro other member
  cases member

end Disciplined

/-! ## The operations go by the rules -/

section Operations

variable (env : Environment) (owner : ι)

theorem disciplined_draw : Disciplined held (draw env : Job ι Uuid) :=
  .modify (fun _ _ => rfl) fun _ _ => rfl

theorem disciplined_send (ref : Ref) (message : Bytes) :
    Disciplined held (send ref message : Job ι Unit) :=
  .change (fun _ _ => rfl) fun _ _ => rfl

/-- The buffers of a builder may be locked while the registry is. -/
theorem disciplined_add (builder : β) (below : ∀ other ∈ held, other.1 = .sessions) :
    Disciplined held (add owner builder) := by
  refine .locked ?_ (.pure builder)
  intro other member
  rw [below other member]
  exact Nat.zero_lt_one

theorem disciplined_getData (builder : BaseBuilder) (withHeader : Bool) :
    Disciplined [] (getData owner builder withHeader) :=
  .lockedFirst (.ofResult _)

theorem disciplined_addSession (ref : Ref) : Disciplined [] (addSession env ref : Job ι Bool) :=
  .lockedFirst (.modifyRegistry List.mem_cons_self fun _ _ => rfl)

theorem disciplined_broadcastToNodes (message : Bytes) :
    Disciplined [] (broadcastToNodes message : Job ι Unit) := by
  refine .bind (.lockedFirst (.readRegistry List.mem_cons_self fun _ _ => rfl)) ?_
  intro targets
  refine .change ?_ ?_
  · intro state sessions
    simp only [State.foldl_send_eq]
  · intro state roundRobin
    simp only [State.foldl_send_eq]

/-- The round-robin table is locked inside the lock of the registry. -/
theorem disciplined_sendToNode (node : Uuid) (message : Bytes) :
    Disciplined [] (sendToNode env node message : Job ι Unit) := by
  refine .bind (.lockedFirst (.bind (.readRegistry List.mem_cons_self fun _ _ => rfl) ?_)) ?_
  · intro range
    split
    · refine .bind (.locked ?_ (.modifyTable List.mem_cons_self fun _ _ => rfl)) fun _ => .pure _
      intro other member
      rw [List.mem_singleton.mp member]
      exact Nat.zero_lt_one
    · exact .pure _
  · intro target
    cases target with
    | none => exact .pure _
    | some target => exact disciplined_send target message

theorem disciplined_closeStream (ref : Ref) :
    Disciplined held (change (State.closeStream ref) : Job ι Unit) := by
  refine .change ?_ ?_
  · intro state sessions
    simp only [State.closeStream]
    split <;> rfl
  · intro state roundRobin
    simp only [State.closeStream]
    split <;> rfl

theorem disciplined_disconnectSession (ref : Ref) :
    Disciplined [] (disconnectSession env owner ref) := by
  refine .bind (.read (fun _ _ => rfl) fun _ _ => rfl) ?_
  intro type
  cases type with
  | tcp => exact disciplined_closeStream ref
  | websocket =>
      refine .bind (disciplined_closeStream ref) fun _ => ?_
      refine .bind (.read (fun _ _ => rfl) fun _ _ => rfl) fun id => ?_
      refine .bind (disciplined_draw env) fun transactionId => ?_
      refine .bind (disciplined_add owner _ (by simp)) fun request => ?_
      exact .bind (disciplined_getData owner _ true) disciplined_broadcastToNodes

theorem disciplined_removeSession (id : Uuid) : Disciplined [] (removeSession env owner id) := by
  have section_ : IgnoresTable (State.takeOut id) := by
    intro state roundRobin
    unfold State.takeOut
    simp only
    split <;> rfl
  refine .bind (.lockedFirst (.modifyRegistry List.mem_cons_self section_)) ?_
  intro found
  cases found with
  | none => exact .pure false
  | some ref => exact .bind (disciplined_disconnectSession env owner ref) fun _ => .pure true

theorem disciplined_removeSessions (ids : List Uuid) :
    Disciplined [] (removeSessions env owner ids) := by
  induction ids with
  | nil => exact .pure ()
  | cons id ids ih => exact .bind (disciplined_removeSession env owner id) fun _ => ih

theorem disciplined_disconnect (node : Uuid) : Disciplined [] (disconnect env owner node) :=
  .bind (.lockedFirst (.readRegistry List.mem_cons_self fun _ _ => rfl))
    (disciplined_removeSessions env owner)

theorem disciplined_disconnectAll : Disciplined [] (disconnectAll env owner) :=
  .bind (.lockedFirst (.readRegistry List.mem_cons_self fun _ _ => rfl))
    (disciplined_removeSessions env owner)

theorem disciplined_openSession (withDiscovery : Bool) (connectionsPerNode : UInt16) :
    Disciplined [] (openSession env owner withDiscovery connectionsPerNode) := by
  refine .bind (disciplined_draw env) fun id => ?_
  refine .bind (.modify (fun _ _ => rfl) fun _ _ => rfl) fun session => ?_
  refine .bind (disciplined_addSession env session) fun inserted => ?_
  split
  · refine .bind (.read (fun _ _ => rfl) fun _ _ => rfl) fun nodeId => ?_
    refine .bind (.read (fun _ _ => rfl) fun _ _ => rfl) fun tcpPort => ?_
    refine .bind (disciplined_draw env) fun transactionId => ?_
    refine .bind (disciplined_add owner _ (by simp)) fun request => ?_
    have sends : ∀ request : RequestBuilder, Disciplined []
        (getData owner request.toBaseBuilder true >>= fun buffer =>
          send session buffer >>= fun _ => pure true) := by
      intro request
      refine .bind (disciplined_getData owner _ true) fun buffer => ?_
      exact .bind (disciplined_send session buffer) fun _ => .pure true
    cases withDiscovery with
    | false => exact .bind (.pure request) sends
    | true =>
        refine .bind (disciplined_draw env) fun discoveryId => ?_
        exact .bind (disciplined_add owner _ (by simp)) sends
  · exact .pure false

theorem disciplined_connect (host : Bytes) (port : UInt16) (withDiscovery : Bool)
    (connectionsPerNode : UInt16) :
    Disciplined [] (connect env owner host port withDiscovery connectionsPerNode) := by
  refine .bind (.modify (fun _ _ => rfl) fun _ _ => rfl) fun attempt => ?_
  split
  · exact disciplined_openSession env owner withDiscovery connectionsPerNode
  · exact .pure false

theorem disciplined_runPosted : Disciplined [] (runPosted env owner) := by
  refine .bind (.modify (fun _ _ => rfl) fun _ _ => rfl) fun posted => ?_
  cases posted with
  | none => exact .pure ()
  | some endpoint => exact .bind (disciplined_connect env owner _ _ _ _) fun _ => .pure ()

theorem disciplined_acceptTcp : Disciplined [] (acceptTcp env : Job ι Unit) := by
  refine .bind (disciplined_draw env) fun id => ?_
  refine .bind (.modify (fun _ _ => rfl) fun _ _ => rfl) fun session => ?_
  exact .bind (disciplined_addSession env session) fun _ => .pure ()

theorem disciplined_acceptWebsocket : Disciplined [] (acceptWebsocket env : Job ι Unit) := by
  refine .bind (disciplined_draw env) fun id => ?_
  refine .bind (.modify (fun _ _ => rfl) fun _ _ => rfl) fun session => ?_
  refine .bind (.change (fun _ _ => rfl) fun _ _ => rfl) fun _ => ?_
  exact .bind (disciplined_addSession env session) fun _ => .pure ()

theorem disciplined_onAccept (ref : Ref) (failed : Bool) :
    Disciplined [] (onAccept env owner ref failed) := by
  unfold onAccept
  split
  · refine .bind (.read (fun _ _ => rfl) fun _ _ => rfl) fun id => ?_
    exact .bind (disciplined_removeSession env owner id) fun _ => .pure ()
  · refine .bind (.change (fun _ _ => rfl) fun _ _ => rfl) fun _ => ?_
    refine .bind (.read (fun _ _ => rfl) fun _ _ => rfl) fun id => ?_
    refine .bind (disciplined_draw env) fun transactionId => ?_
    refine .bind (disciplined_add owner _ (by simp)) fun request => ?_
    exact .bind (disciplined_getData owner _ true) disciplined_broadcastToNodes

/-! ## The handlers go by the rules -/

variable (session : Ref) (type : MessageType) (builder : ResponseBuilder) (transactionId : Uuid)
  (payload : Bytes)

theorem disciplined_ping : Disciplined [] (ping owner type builder transactionId) := by
  unfold ping
  split
  · exact .pure builder
  · exact disciplined_add owner _ (by simp)

theorem disciplined_nonImplemented :
    Disciplined [] (nonImplemented owner type builder transactionId) := by
  unfold nonImplemented
  split
  · exact .pure builder
  · exact disciplined_add owner _ (by simp)

theorem disciplined_whoami :
    Disciplined [] (whoami owner session type builder transactionId) := by
  unfold whoami
  split
  · exact .pure builder
  · refine .bind (.read (fun _ _ => rfl) fun _ _ => rfl) fun own => ?_
    refine .bind (.read (fun _ _ => rfl) fun _ _ => rfl) fun nodeId => ?_
    exact disciplined_add owner _ (by simp)

theorem postDials_eq (endpoint : Endpoint) (count : Nat) (state : State) :
    Handlers.postDials endpoint count state =
      { state with posted := state.posted ++ List.replicate count endpoint } := by
  induction count generalizing state with
  | zero => simp [Handlers.postDials]
  | succ count ih => simp [Handlers.postDials, ih, State.post, List.replicate_succ]

/-- The identify handler locks nothing but the buffers. -/
theorem disciplined_identify :
    Disciplined [] (identify owner session type builder transactionId payload) := by
  have answers : Disciplined [] (read State.nodeId >>= fun nodeId =>
      add owner (builder.addIdentify transactionId nodeId)) :=
    .bind (.read (fun _ _ => rfl) fun _ _ => rfl) fun _ => disciplined_add owner _ (by simp)
  refine .bind (.read (fun _ _ => rfl) fun _ _ => rfl) fun sessionType => ?_
  split
  · exact .pure builder
  split
  · exact .pure builder
  refine .bind (.ofResult _) fun id => ?_
  refine .bind (.change (fun _ _ => rfl) fun _ _ => rfl) fun _ => ?_
  split
  · refine .bind (.ofResult _) fun connectionsPerNode => ?_
    refine .bind (.ofResult _) fun port => ?_
    refine .bind (.change (fun _ _ => rfl) fun _ _ => rfl) fun _ => ?_
    split
    · refine .bind (.ofResult _) fun host => ?_
      refine .bind (.change (fun _ _ => rfl) fun _ _ => rfl) fun _ => ?_
      refine .bind (.read (fun _ _ => rfl) fun _ _ => rfl) fun nodeId => ?_
      refine .bind (disciplined_add owner _ (by simp)) fun replied => ?_
      split
      · refine .bind (.change ?_ ?_) fun _ => .pure replied
        · intro state sessions
          simp only [postDials_eq]
        · intro state roundRobin
          simp only [postDials_eq]
      · exact .pure replied
    · exact answers
  · split
    · exact answers
    · exact .pure builder

theorem disciplined_visitEndpoint (endpoint : Endpoint) :
    Disciplined [] (visitEndpoint env owner endpoint) := by
  refine .bind (.lockedFirst (.readRegistry List.mem_cons_self fun _ _ => rfl)) fun known => ?_
  split
  · exact .pure ()
  · exact .bind (disciplined_connect env owner _ _ _ _) fun _ => .pure ()

theorem disciplined_visitEndpoints (remaining offset : Nat) :
    Disciplined [] (visitEndpoints env owner payload remaining offset) := by
  induction remaining generalizing offset with
  | zero => exact .pure ()
  | succ remaining ih =>
      refine .bind (.ofResult _) fun entry => ?_
      cases entry with
      | none => exact .pure ()
      | some entry => exact .bind (disciplined_visitEndpoint env owner entry.1) fun _ => ih entry.2

theorem disciplined_discovery :
    Disciplined [] (discovery env owner session type builder transactionId payload) := by
  unfold discovery
  split
  · refine .lockedFirst (.bind (.readRegistry List.mem_cons_self fun _ _ => rfl) fun nodes => ?_)
    exact disciplined_add owner _ (by simp)
  split
  · split
    · exact .pure builder
    · refine .bind (.ofResult _) fun nodesCount => ?_
      exact .bind (disciplined_visitEndpoints env owner payload _ 4) fun _ => .pure builder
  · exact .pure builder

theorem disciplined_join :
    Disciplined [] (join env owner session type builder transactionId payload) := by
  refine .bind (.read (fun _ _ => rfl) fun _ _ => rfl) fun ignored => ?_
  split
  · exact .pure builder
  · refine .bind (.ofResult _) fun id => ?_
    refine .bind (.modify (fun _ _ => rfl) fun _ _ => rfl) fun newSession => ?_
    refine .bind (disciplined_addSession env newSession) fun _ => ?_
    refine .bind (.lockedFirst (.readRegistry List.mem_cons_self fun _ _ => rfl)) fun count => ?_
    exact disciplined_add owner _ (by simp)

theorem disciplined_leave :
    Disciplined [] (leave owner session type builder transactionId payload) := by
  refine .bind (.read (fun _ _ => rfl) fun _ _ => rfl) fun ignored => ?_
  split
  · exact .pure builder
  · refine .bind (.ofResult _) fun id => ?_
    refine .bind (.lockedFirst (.modifyRegistry List.mem_cons_self fun _ _ => rfl)) fun count => ?_
    exact disciplined_add owner _ (by simp)

theorem disciplined_handler (message : Submessage) :
    Disciplined [] (handler env owner session message builder) := by
  unfold handler
  split
  · exact disciplined_ping owner _ builder _
  split
  · exact disciplined_identify owner session _ builder _ _
  split
  · exact disciplined_discovery env owner session _ builder _ _
  split
  · exact disciplined_join env owner session _ builder _ _
  split
  · exact disciplined_leave owner session _ builder _ _
  split
  · exact disciplined_whoami owner session _ builder _
  · exact disciplined_nonImplemented owner _ builder _

theorem disciplined_dispatch (frame : Bytes) (lengths : List UInt16) (offset : Nat) :
    Disciplined [] (dispatch env owner session frame lengths offset builder) := by
  induction lengths generalizing offset builder with
  | nil => exact .pure _
  | cons length lengths ih =>
      unfold dispatch
      split
      · exact .pure none
      split
      · exact .pure none
      refine .bind (.ofResult _) fun message => ?_
      exact .bind (disciplined_handler env owner session builder message) fun replied =>
        ih replied _

theorem disciplined_handle (frame : Bytes) :
    Disciplined [] (handle env owner session frame) := by
  unfold handle
  split
  · exact .pure none
  refine .bind (.ofResult _) fun crc => ?_
  split
  · exact .pure none
  split
  · exact .pure none
  refine .bind (.ofResult _) fun count => ?_
  split
  · exact .pure none
  refine .bind (.ofResult _) fun table => ?_
  refine .bind (disciplined_add owner _ (by simp)) fun reserved => ?_
  refine .bind (disciplined_dispatch env owner session reserved frame _ _) fun replies => ?_
  cases replies with
  | none => exact .pure none
  | some replies =>
      refine .bind (.read (fun _ _ => rfl) fun _ _ => rfl) fun sessionType => ?_
      exact .bind (disciplined_getData owner _ _) fun buffer => .pure (some buffer)

theorem disciplined_receive (frame : Bytes) :
    Disciplined [] (receive env owner session frame) := by
  refine .bind (disciplined_handle env owner session frame) fun reply => ?_
  cases reply with
  | none => exact .pure ()
  | some buffer => exact disciplined_send session buffer

end Operations

end Job

theorem disciplined_job {ι : Type} [DecidableEq ι] (env : Environment) (owner : ι)
    (event : Event) : Job.Disciplined [] (event.job env owner) := by
  cases event with
  | acceptTcp => exact Job.disciplined_acceptTcp env
  | acceptWebsocket => exact Job.disciplined_acceptWebsocket env
  | handshake ref failed => exact Job.disciplined_onAccept env owner ref failed
  | connect host port withDiscovery connectionsPerNode =>
      exact .bind (Job.disciplined_connect env owner _ _ _ _) fun _ => .pure ()
  | runPosted => exact Job.disciplined_runPosted env owner
  | create session => exact .change (fun _ _ => rfl) fun _ _ => rfl
  | addSession ref => exact .bind (Job.disciplined_addSession env ref) fun _ => .pure ()
  | removeSession id => exact .bind (Job.disciplined_removeSession env owner id) fun _ => .pure ()
  | disconnect node => exact Job.disciplined_disconnect env owner node
  | disconnectAll => exact Job.disciplined_disconnectAll env owner
  | sendToNode node message => exact Job.disciplined_sendToNode env node message
  | frame ref bytes => exact Job.disciplined_receive env owner ref bytes

/-! ## The threads -/

section Threads

variable {ι : Type} (env : Environment)

/-- The threads of a node before their first step. -/
def threadsAt (state : State) (events : ι → List Event) : Threads ι (Lock ι) State where
  object := state
  program thread := work env thread (events thread)
  held _ := []

variable [DecidableEq ι]

theorem disciplined_work (owner : ι) (events : List Event) :
    Program.Disciplined Lock.rank Lock.guards [] [] (work env owner events) := by
  induction events with
  | nil => exact .done ()
  | cons event events ih =>
      exact Program.Disciplined.bind (disciplined_job env owner event) fun _ => ih

variable {env} {refuses : Threads ι (Lock ι) State → Lock ι → Prop} {events : ι → List Event}
  {state : State}

/-- Whatever the threads of a node have to do, and in whatever order their steps
are taken, they come to an end: no thread waits for ever for a lock.  This is
so even if a mutex is not shared any more while somebody waits to hold it
alone. -/
theorem threads_finish [Fintype ι]
    (policy : ∀ threads lock, refuses threads lock → threads.WriterWaits lock)
    {run : ℕ → Threads ι (Lock ι) State} (starts : run 0 = threadsAt env state events)
    (goes : ∀ k, (∃ next thread, Threads.Step refuses (run k) thread next) →
      ∃ thread, Threads.Step refuses (run k) thread (run (k + 1))) :
    ∃ k, (run k).Finished :=
  Threads.finishes (fun thread => disciplined_work env thread (events thread)) policy starts goes

/-- Registry and round-robin table change only by the hand of a thread that
holds their mutex while no other thread does, and no thread looks at them while
another one may change them. -/
theorem registry_guarded {threads : Threads ι (Lock ι) State}
    (reachable : (Threads.machine refuses (fun thread => work env thread (events thread))
      state).Reachable threads) :
    (∀ holder mode, (.sessions, mode) ∈ threads.held holder → ∀ other next, other ≠ holder →
        Threads.Step refuses threads other next →
          next.object.sessions = threads.object.sessions) ∧
      (∀ holder mode, (.roundRobin, mode) ∈ threads.held holder → ∀ other next, other ≠ holder →
        Threads.Step refuses threads other next →
          next.object.roundRobin = threads.object.roundRobin) ∧
      ∀ writer change rest, threads.program writer = .act change rest →
        ∀ other others behind, other ≠ writer → threads.program other = .act others behind →
          ∀ lock, ¬Program.Keeps Lock.guards lock change →
            Program.Blind Lock.guards lock others behind := by
  have disciplined := fun thread => disciplined_work env thread (events thread)
  have unchanged : ∀ lock object,
      (Lock.guards : Program.Guards (Lock ι) State).same lock object object := by
    intro lock object
    cases lock with
    | sessions => exact rfl
    | roundRobin => exact rfl
    | buffers owner => trivial
  refine ⟨?_, ?_, ?_⟩
  · intro holder mode holds other next differs taken
    exact Threads.same_of_held unchanged disciplined reachable holds differs taken
  · intro holder mode holds other next differs taken
    exact Threads.same_of_held unchanged disciplined reachable holds differs taken
  · intro writer change rest writes other others behind differs acts lock changes
    exact Threads.blind_of_changes disciplined reachable differs writes acts changes

end Threads

/-! ## Two threads -/

/-- One thread removes sessions, another one handles a frame and accepts a
client. -/
def twoThreads : Bool → List Event
  | true => [.removeSession (Uuid.filled 2), .disconnectAll]
  | false => [.frame 0 [0, 0], .acceptWebsocket]

/-- Whenever a mutex is waited for alone, it is not shared any more. -/
def writersFirst : Threads Bool (Lock Bool) State → Lock Bool → Prop :=
  Threads.WriterWaits

theorem threads_finish_twoThreads :
    ∃ run : ℕ → Threads Bool (Lock Bool) State,
      run 0 = threadsAt stillEnvironment oneLink twoThreads ∧ ∃ k, (run k).Finished := by
  rcases exists_run (fun threads next => ∃ thread, Threads.Step writersFirst threads thread next)
    (threadsAt stillEnvironment oneLink twoThreads) with ⟨run, starts, goes⟩
  exact ⟨run, starts, threads_finish (fun _ _ waits => waits) starts goes⟩

/-- The first thread is inside `remove_session` and the other one about to start. -/
theorem registry_guarded_twoThreads :
    ∃ threads : Threads Bool (Lock Bool) State,
      (Lock.sessions, Mode.exclusive) ∈ threads.held true ∧
        ∀ next, Threads.Step writersFirst threads false next →
          next.object.sessions = threads.object.sessions := by
  have granted : Threads.Grants writersFirst
      (threadsAt stillEnvironment oneLink twoThreads) .sessions .exclusive := by
    intro thread mode holds
    cases holds
  have taken : Threads.Step writersFirst (threadsAt stillEnvironment oneLink twoThreads) true _ :=
    .acquire true .sessions .exclusive _ rfl granted
  obtain ⟨threads, holds, reachable⟩ : ∃ threads : Threads Bool (Lock Bool) State,
      (Lock.sessions, Mode.exclusive) ∈ threads.held true ∧
        (Threads.machine writersFirst
          (fun thread => work stillEnvironment thread (twoThreads thread)) oneLink).Reachable
            threads := by
    refine ⟨_, ?_, .step (.start rfl) taken⟩
    simp
  refine ⟨threads, holds, ?_⟩
  intro next step
  exact (registry_guarded reachable).1 true .exclusive holds false next Bool.false_ne_true step

end Aurum.Node
