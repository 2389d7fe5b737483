import Aurum.Node.Leaving
import Aurum.Node.Locking

/-!
# One thread alone

As long as no other thread takes a step, a thread that carries out an operation
with its locks does what the operation does in one piece.
-/

namespace Aurum.Node

open Aurum.Protocol
open Aurum.Transition

namespace Job

variable {ι α β : Type} {state middle next : State}

theorem alone_bind (job : Job ι α) (behind : α → Job ι β) (state : State) :
    (job >>= behind).alone state =
      match job.alone state with
      | (.ok value, state) => (behind value).alone state
      | (.error failure, state) => (.error failure, state) := by
  have split : (job >>= behind).alone state =
      Program.run (ExceptT.bindCont behind (job.alone state).1) (job.alone state).2 :=
    Program.run_bind _ _ state
  rw [split]
  rcases job.alone state with ⟨_ | _, _⟩ <;> rfl

/-- A job goes on where its first part ends. -/
theorem alone_bind_of_ok {job : Job ι α} {behind : α → Job ι β} {value : α}
    (first : job.alone state = (.ok value, middle)) :
    (job >>= behind).alone state = (behind value).alone middle := by
  rw [alone_bind, first]

@[simp]
theorem alone_pure (value : α) (state : State) :
    (pure value : Job ι α).alone state = (.ok value, state) :=
  rfl

@[simp]
theorem alone_change (step : State → State) (state : State) :
    (change step : Job ι Unit).alone state = (.ok (), step state) :=
  rfl

@[simp]
theorem alone_read (look : State → α) (state : State) :
    (read look : Job ι α).alone state = (.ok (look state), state) :=
  rfl

@[simp]
theorem alone_modify (step : State → α × State) (state : State) :
    (modify step : Job ι α).alone state = (.ok (step state).1, (step state).2) :=
  rfl

@[simp]
theorem alone_locked (lock : Lock ι) (mode : Mode) (body : Job ι α) (state : State) :
    (locked lock mode body).alone state = body.alone state :=
  Program.run_locked lock mode _ state

@[simp]
theorem alone_ofResult (result : Result α) (state : State) :
    (ofResult result : Job ι α).alone state = (result, state) :=
  rfl

section Operations

variable (env : Environment) (owner : ι)

@[simp]
theorem alone_draw (state : State) :
    (draw env : Job ι Uuid).alone state = (.ok (state.nextUuid env), state.draw) :=
  rfl

@[simp]
theorem alone_add (builder : β) (state : State) :
    (add owner builder).alone state = (.ok builder, state) :=
  rfl

@[simp]
theorem alone_getData (builder : BaseBuilder) (withHeader : Bool) (state : State) :
    (getData owner builder withHeader).alone state = (builder.getData withHeader, state) :=
  rfl

@[simp]
theorem alone_send (ref : Ref) (message : Bytes) (state : State) :
    (send ref message : Job ι Unit).alone state = (.ok (), state.send ref message) :=
  rfl

@[simp]
theorem alone_addSession (ref : Ref) (state : State) :
    (addSession env ref : Job ι Bool).alone state =
      (.ok (state.addSession env ref).1, (state.addSession env ref).2) :=
  rfl

@[simp]
theorem alone_broadcastToNodes (message : Bytes) (state : State) :
    (broadcastToNodes message : Job ι Unit).alone state =
      (.ok (), state.broadcastToNodes message) :=
  rfl

@[simp]
theorem alone_sendToNode (node : Uuid) (message : Bytes) (state : State) :
    (sendToNode env node message : Job ι Unit).alone state =
      (.ok (), state.sendToNode env node message) := by
  unfold sendToNode State.sendToNode
  simp only [alone_bind, alone_locked, alone_read]
  by_cases some : (env.order (state.sessions.byNodeAndType node .tcp)).length > 0
  · simp only [if_pos some, alone_bind, alone_locked, alone_modify, alone_pure]
    cases (env.order (state.sessions.byNodeAndType node .tcp))[(state.roundRobin node).toNat %
      (env.order (state.sessions.byNodeAndType node .tcp)).length]? with
    | none => rfl
    | some target => rfl
  · simp only [if_neg some, alone_pure]

/-! ## Registration -/

theorem alone_disconnectSession {ref : Ref} (step : state.disconnectSession env ref = .ok next) :
    (disconnectSession env owner ref).alone state = (.ok (), next) := by
  unfold State.disconnectSession at step
  rw [disconnectSession, alone_bind_of_ok (alone_read _ state)]
  cases type : (state.memory ref).type with
  | tcp =>
      rw [type] at step
      cases step
      rfl
  | websocket =>
      rw [type] at step
      obtain ⟨data, built, result⟩ := Result.bind_eq_ok_iff.mp step
      cases result
      simp only [alone_bind, alone_change, alone_read, alone_draw, alone_add, alone_getData]
      rw [built]
      rfl

theorem alone_removeSession {id : Uuid} {removed : Bool}
    (step : state.removeSession env id = .ok (removed, next)) :
    (removeSession env owner id).alone state = (.ok removed, next) := by
  rw [State.removeSession_sections] at step
  unfold removeSession
  simp only [alone_bind, alone_locked, alone_modify]
  rcases taken : state.takeOut id with ⟨found, rest⟩
  rw [taken] at step
  cases found with
  | none =>
      cases step
      rfl
  | some ref =>
      obtain ⟨closed, closing, result⟩ := Result.bind_eq_ok_iff.mp step
      cases result
      exact alone_bind_of_ok (alone_disconnectSession env owner closing)

theorem alone_removeSessions {ids : List Uuid}
    (step : state.removeSessions env ids = .ok next) :
    (removeSessions env owner ids).alone state = (.ok (), next) := by
  induction ids generalizing state with
  | nil =>
      cases step
      rfl
  | cons id ids ih =>
      obtain ⟨⟨removed, middle⟩, first, rest⟩ := Result.bind_eq_ok_iff.mp step
      rw [removeSessions, alone_bind_of_ok (alone_removeSession env owner first)]
      exact ih rest

/-! ## Connections -/

theorem alone_openSession {withDiscovery : Bool} {connectionsPerNode : UInt16} {connected : Bool}
    (step : state.openSession env withDiscovery connectionsPerNode = .ok (connected, next)) :
    (openSession env owner withDiscovery connectionsPerNode).alone state =
      (.ok connected, next) := by
  unfold State.openSession at step
  unfold openSession
  simp only at step
  simp only [alone_bind, alone_draw, alone_modify, alone_addSession, State.draw_allocated]
  split at step
  · rename_i inserted
    obtain ⟨buffer, built, result⟩ := Result.bind_eq_ok_iff.mp step
    cases result
    rw [if_pos inserted]
    cases withDiscovery with
    | true =>
        simp only [State.openRequest, if_true] at built
        simp only [alone_bind, alone_read, alone_draw, alone_add, if_true, alone_getData]
        rw [built]
        rfl
    | false =>
        simp only [State.openRequest, Bool.false_eq_true, if_false] at built
        simp only [alone_bind, alone_read, alone_draw, alone_add, Bool.false_eq_true, if_false,
          alone_pure, alone_getData]
        rw [built]
        rfl
  · rename_i refused
    cases step
    rw [if_neg refused]
    rfl

theorem alone_connect {host : Bytes} {port : UInt16} {withDiscovery : Bool}
    {connectionsPerNode : UInt16} {connected : Bool}
    (step : state.connect env host port withDiscovery connectionsPerNode =
      .ok (connected, next)) :
    (connect env owner host port withDiscovery connectionsPerNode).alone state =
      (.ok connected, next) := by
  unfold State.connect at step
  simp only at step
  rw [connect, alone_bind_of_ok (alone_modify _ state)]
  by_cases connects : env.connects state.dialed.length = true
  · rw [if_pos connects] at step ⊢
    exact alone_openSession env owner step
  · rw [if_neg connects] at step ⊢
    cases step
    rfl

theorem alone_runPosted (step : state.runPosted env = .ok next) :
    (runPosted env owner).alone state = (.ok (), next) := by
  unfold State.runPosted at step
  rw [runPosted, alone_bind_of_ok (alone_modify _ state)]
  cases posted : state.posted with
  | nil =>
      rw [posted] at step
      cases step
      rw [List.head?_nil, List.tail_nil, ← posted]
      rfl
  | cons endpoint rest =>
      rw [posted] at step
      obtain ⟨⟨connected, dialed⟩, dial, result⟩ := Result.bind_eq_ok_iff.mp step
      cases result
      exact alone_bind_of_ok (alone_connect env owner dial)

@[simp]
theorem alone_acceptTcp (state : State) :
    (acceptTcp env : Job ι Unit).alone state = (.ok (), state.acceptTcp env) :=
  rfl

@[simp]
theorem alone_acceptWebsocket (state : State) :
    (acceptWebsocket env : Job ι Unit).alone state = (.ok (), state.acceptWebsocket env) :=
  rfl

theorem alone_onAccept {ref : Ref} {failed : Bool}
    (step : state.onAccept env ref failed = .ok next) :
    (onAccept env owner ref failed).alone state = (.ok (), next) := by
  unfold State.onAccept at step
  unfold onAccept
  cases failed with
  | true =>
      obtain ⟨⟨removed, middle⟩, removal, result⟩ := Result.bind_eq_ok_iff.mp step
      cases result
      rw [if_pos rfl, alone_bind_of_ok (alone_read _ state)]
      exact alone_bind_of_ok (alone_removeSession env owner removal)
  | false =>
      obtain ⟨data, built, result⟩ := Result.bind_eq_ok_iff.mp step
      cases result
      rw [if_neg Bool.false_ne_true]
      simp only [alone_bind, alone_change, alone_read, alone_draw, alone_add, alone_getData]
      rw [built]
      rfl

/-! ## Handlers -/

variable {session : Ref} {type : MessageType} {builder result : ResponseBuilder}
  {transactionId : Uuid} {payload : Bytes}

theorem alone_ping
    (step : Handlers.ping type builder transactionId payload state = .ok (result, next)) :
    (ping owner type builder transactionId).alone state = (.ok result, next) := by
  unfold Handlers.ping at step
  unfold ping
  split at step
  · rename_i response
    cases step
    rw [if_pos response]
    rfl
  · rename_i request
    cases step
    rw [if_neg request]
    rfl

theorem alone_nonImplemented
    (step : Handlers.nonImplemented type builder transactionId payload state =
      .ok (result, next)) :
    (nonImplemented owner type builder transactionId).alone state = (.ok result, next) := by
  unfold Handlers.nonImplemented at step
  unfold nonImplemented
  split at step
  · rename_i response
    cases step
    rw [if_pos response]
    rfl
  · rename_i request
    cases step
    rw [if_neg request]
    rfl

theorem alone_whoami
    (step : Handlers.whoami session type builder transactionId payload state =
      .ok (result, next)) :
    (whoami owner session type builder transactionId).alone state = (.ok result, next) := by
  unfold Handlers.whoami at step
  unfold whoami
  split at step
  · rename_i response
    cases step
    rw [if_pos response]
    rfl
  · rename_i request
    cases step
    rw [if_neg request]
    rfl

theorem alone_identify
    (step : Handlers.identify session type builder transactionId payload state =
      .ok (result, next)) :
    (identify owner session type builder transactionId payload).alone state =
      (.ok result, next) := by
  unfold Handlers.identify at step
  rw [identify, alone_bind_of_ok (alone_read _ state)]
  split at step
  · rename_i websocket
    cases step
    rw [if_pos websocket]
    rfl
  rename_i notWebsocket
  rw [if_neg notWebsocket]
  split at step
  · rename_i short
    cases step
    rw [if_pos short]
    rfl
  rename_i longEnough
  rw [if_neg longEnough]
  obtain ⟨id, named, step⟩ := Result.bind_eq_ok_iff.mp step
  simp only [named, alone_bind, alone_ofResult, alone_change]
  split at step
  · rename_i described
    rw [if_pos described]
    obtain ⟨connectionsPerNode, counted, step⟩ := Result.bind_eq_ok_iff.mp step
    obtain ⟨port, ported, step⟩ := Result.bind_eq_ok_iff.mp step
    simp only [counted, ported, alone_bind, alone_ofResult, alone_change]
    split at step
    · rename_i hosted
      rw [if_pos hosted]
      obtain ⟨host, addressed, step⟩ := Result.bind_eq_ok_iff.mp step
      simp only [addressed, alone_bind, alone_ofResult, alone_change, alone_read, alone_add]
      split at step
      · rename_i posts
        cases step
        rw [if_pos posts]
        rfl
      · rename_i posts
        cases step
        rw [if_neg posts]
        rfl
    · rename_i hostless
      cases step
      rw [if_neg hostless]
      rfl
  · rename_i plain
    rw [if_neg plain]
    split at step
    · rename_i request
      cases step
      rw [if_pos request]
      rfl
    · rename_i response
      cases step
      rw [if_neg response]
      rfl

theorem alone_visitEndpoint {endpoint : Endpoint}
    (step : Handlers.visitEndpoint env endpoint state = .ok next) :
    (visitEndpoint env owner endpoint).alone state = (.ok (), next) := by
  unfold Handlers.visitEndpoint at step
  unfold visitEndpoint
  simp only [alone_bind, alone_locked, alone_read]
  split at step
  · rename_i known
    cases step
    rw [if_pos known]
    rfl
  · rename_i unknown
    obtain ⟨⟨connected, dialed⟩, dial, result⟩ := Result.bind_eq_ok_iff.mp step
    cases result
    rw [if_neg unknown]
    exact alone_bind_of_ok (alone_connect env owner dial)

theorem alone_visitEndpoints {remaining offset : Nat}
    (step : Handlers.visitEndpoints env payload remaining offset state = .ok next) :
    (visitEndpoints env owner payload remaining offset).alone state = (.ok (), next) := by
  induction remaining generalizing offset state with
  | zero =>
      cases step
      rfl
  | succ remaining ih =>
      obtain ⟨entry, read, step⟩ := Result.bind_eq_ok_iff.mp step
      rw [visitEndpoints, alone_bind, alone_ofResult, read]
      cases entry with
      | none =>
          cases step
          rfl
      | some entry =>
          obtain ⟨middle, visit, rest⟩ := Result.bind_eq_ok_iff.mp step
          exact (alone_bind_of_ok (alone_visitEndpoint env owner visit)).trans (ih rest)

theorem alone_discovery
    (step : Handlers.discovery env session type builder transactionId payload state =
      .ok (result, next)) :
    (discovery env owner session type builder transactionId payload).alone state =
      (.ok result, next) := by
  unfold Handlers.discovery at step
  unfold discovery
  split at step
  · rename_i request
    cases step
    rw [if_pos request]
    rfl
  rename_i notRequest
  rw [if_neg notRequest]
  split at step
  · rename_i response
    rw [if_pos response]
    split at step
    · rename_i short
      cases step
      rw [if_pos short]
      rfl
    · rename_i longEnough
      obtain ⟨nodesCount, counted, step⟩ := Result.bind_eq_ok_iff.mp step
      obtain ⟨visited, visit, result⟩ := Result.bind_eq_ok_iff.mp step
      cases result
      rw [if_neg longEnough, alone_bind, alone_ofResult, counted]
      exact alone_bind_of_ok (alone_visitEndpoints env owner visit)
  · rename_i notResponse
    cases step
    rw [if_neg notResponse]
    rfl

theorem alone_join
    (step : Handlers.join env session type builder transactionId payload state =
      .ok (result, next)) :
    (join env owner session type builder transactionId payload).alone state =
      (.ok result, next) := by
  rw [Handlers.join_sections] at step
  rw [join, alone_bind_of_ok (alone_read _ state)]
  by_cases ignored : Ignored state session type payload
  · rw [if_pos ignored] at step
    cases step
    rw [if_pos (decide_eq_true ignored)]
    rfl
  · rw [if_neg ignored] at step
    obtain ⟨id, named, result⟩ := Result.bind_eq_ok_iff.mp step
    cases result
    rw [if_neg (by simpa using ignored), alone_bind, alone_ofResult, named]
    rfl

theorem alone_leave
    (step : Handlers.leave session type builder transactionId payload state =
      .ok (result, next)) :
    (leave owner session type builder transactionId payload).alone state = (.ok result, next) := by
  rw [Handlers.leave_sections] at step
  rw [leave, alone_bind_of_ok (alone_read _ state)]
  by_cases ignored : Ignored state session type payload
  · rw [if_pos ignored] at step
    cases step
    rw [if_pos (decide_eq_true ignored)]
    rfl
  · rw [if_neg ignored] at step
    obtain ⟨id, named, result⟩ := Result.bind_eq_ok_iff.mp step
    cases result
    rw [if_neg (by simpa using ignored), alone_bind, alone_ofResult, named]
    rfl

/-- A handler call. -/
theorem alone_handler {message : Submessage}
    (step : Kernel.invoke (handlers env session) message builder state = .ok (result, next)) :
    (handler env owner session message builder).alone state = (.ok result, next) := by
  unfold Kernel.invoke handlers at step
  unfold handler
  split at step
  · rename_i opcode
    rw [if_pos opcode]
    exact alone_ping owner step
  rename_i notPing
  rw [if_neg notPing]
  split at step
  · rename_i opcode
    rw [if_pos opcode]
    exact alone_identify owner step
  rename_i notIdentify
  rw [if_neg notIdentify]
  split at step
  · rename_i opcode
    rw [if_pos opcode]
    exact alone_discovery env owner step
  rename_i notDiscovery
  rw [if_neg notDiscovery]
  split at step
  · rename_i opcode
    rw [if_pos opcode]
    exact alone_join env owner step
  rename_i notJoin
  rw [if_neg notJoin]
  split at step
  · rename_i opcode
    rw [if_pos opcode]
    exact alone_leave owner step
  rename_i notLeave
  rw [if_neg notLeave]
  split at step
  · rename_i opcode
    rw [if_pos opcode]
    exact alone_whoami owner step
  · rename_i notWhoami
    rw [if_neg notWhoami]
    exact alone_nonImplemented owner step

/-! ## Frames -/

theorem alone_dispatch (frame : Bytes) (lengths : List UInt16) (offset : Nat)
    (builder : ResponseBuilder) (state : State) :
    (dispatch env owner session frame lengths offset builder).alone state =
      Kernel.dispatch (handlers env session) frame lengths offset builder state := by
  induction lengths generalizing offset builder state with
  | nil => rfl
  | cons length lengths ih =>
      rw [dispatch, Kernel.dispatch]
      by_cases tooLong : frame.length - 2 - offset < length.toNat
      · rw [if_pos tooLong, if_pos tooLong]
        rfl
      rw [if_neg tooLong, if_neg tooLong]
      by_cases tooShort : length.toNat < 18
      · rw [if_pos tooShort, if_pos tooShort]
        rfl
      rw [if_neg tooShort, if_neg tooShort, alone_bind, alone_ofResult]
      cases Kernel.readSubmessage frame offset length.toNat with
      | error failure => rfl
      | ok message =>
          obtain ⟨⟨replied, after⟩, invoked⟩ := invoke_ok env session message builder state
          simp only
          rw [invoked, alone_bind_of_ok (alone_handler env owner invoked)]
          exact ih _ _ _

end Operations

/-- How a handled frame ends. -/
def outcome : Result (Option Bytes) → Outcome
  | .error failure => .thrown failure
  | .ok none => .rejected
  | .ok (some buffer) => .replied buffer

theorem finish_state (withHeader : Bool)
    (dispatched : Result (Option ResponseBuilder) × State) :
    (Kernel.finish withHeader dispatched).state = dispatched.2 := by
  rcases dispatched with ⟨failure | _ | builder, after⟩
  · rfl
  · rfl
  · unfold Kernel.finish
    simp only
    split <;> rfl

/-- The type of a session outlives a frame. -/
theorem handle_type (env : Environment) {session : Ref} {state : State}
    (created : session < state.allocated) (frame : Bytes) :
    ((Node.handle env frame session state).state.memory session).type =
      (state.memory session).type := by
  have kept : session < (Node.handle env frame session state).state.allocated ∧
      ((Node.handle env frame session state).state.memory session).type =
        (state.memory session).type := by
    refine (closed_type env session _).handle ?_ ⟨created, rfl⟩
    rintro call _ ⟨stillCreated, stillTyped⟩ id _
    refine ⟨stillCreated, ?_⟩
    rw [State.setNodeId, State.update_memory_self]
    exact stillTyped
  exact kept.2

theorem alone_handle (env : Environment) (owner : ι) {session : Ref} {state : State}
    (created : session < state.allocated) (frame : Bytes) :
    ∃ result, (handle env owner session frame).alone state =
        (result, (Node.handle env frame session state).state) ∧
      (Node.handle env frame session state).outcome = outcome result := by
  have typed := handle_type env created frame
  unfold Node.handle Kernel.handle at typed ⊢
  unfold handle
  by_cases short : frame.length < 2
  · simp only [if_pos short]
    exact ⟨.ok none, rfl, rfl⟩
  simp only [if_neg short, alone_bind, alone_ofResult] at typed ⊢
  cases expected : readU16 frame (frame.length - 2) with
  | error failure => exact ⟨.error failure, rfl, rfl⟩
  | ok crc =>
      rw [expected] at typed
      simp only at typed ⊢
      by_cases mismatch : Wire.Crc.ccitt (frame.take (frame.length - 2)) ≠ crc
      · simp only [if_pos mismatch]
        exact ⟨.ok none, rfl, rfl⟩
      by_cases noCount : frame.length - 2 < 2
      · simp only [if_neg mismatch, if_pos noCount]
        exact ⟨.ok none, rfl, rfl⟩
      simp only [if_neg mismatch, if_neg noCount, alone_bind, alone_ofResult] at typed ⊢
      cases counted : readU16 frame 0 with
      | error failure => exact ⟨.error failure, rfl, rfl⟩
      | ok count =>
          rw [counted] at typed
          simp only at typed ⊢
          by_cases noTable : frame.length - 2 - 2 < count.toNat * 2
          · simp only [if_pos noTable]
            exact ⟨.ok none, rfl, rfl⟩
          simp only [if_neg noTable, alone_bind, alone_ofResult] at typed ⊢
          cases table : Kernel.readLengths frame count.toNat 2 with
          | error failure => exact ⟨.error failure, rfl, rfl⟩
          | ok read =>
              rcases read with ⟨lengths, offset⟩
              rw [table] at typed
              simp only [finish_state] at typed
              simp only [alone_add, alone_dispatch]
              rcases ran : Kernel.dispatch (handlers env session) frame lengths offset {} state
                with ⟨dispatched, after⟩
              rw [ran] at typed
              rcases dispatched with failure | _ | replies
              · exact ⟨.error failure, rfl, rfl⟩
              · exact ⟨.ok none, rfl, rfl⟩
              · simp only at typed
                simp only [alone_bind, alone_read, alone_getData, Kernel.finish, typed,
                  BaseBuilder.getBuffers]
                cases replies.getData (decide ((state.memory session).type = .tcp)) with
                | error failure => exact ⟨.error failure, rfl, rfl⟩
                | ok buffer => exact ⟨.ok (some buffer), rfl, rfl⟩

/-- The reply of a frame is sent; an exception leaves the state as it is. -/
theorem alone_receive (env : Environment) (owner : ι) {session : Ref} {state : State}
    (created : session < state.allocated) (frame : Bytes) :
    ((receive env owner session frame).alone state).2 = state.receive env session frame := by
  obtain ⟨result, handled, outcomeEq⟩ := alone_handle env owner created frame
  unfold receive State.receive
  rw [alone_bind, handled]
  simp only [outcomeEq]
  rcases result with failure | _ | buffer <;> rfl

end Job

/-- As long as nothing else runs, a thread that carries out an event with its
locks leaves the node in the state that the event leads to. -/
theorem alone_job {ι : Type} (env : Environment) (owner : ι) {state next : State} {event : Event}
    (enabled : event.Enabled state) (step : state.perform env event = .ok next) :
    ((event.job env owner).alone state).2 = next := by
  cases event with
  | acceptTcp =>
      cases step
      rfl
  | acceptWebsocket =>
      cases step
      rfl
  | handshake ref failed =>
      exact congrArg Prod.snd (Job.alone_onAccept env owner step)
  | connect host port withDiscovery connectionsPerNode =>
      obtain ⟨⟨connected, middle⟩, dial, result⟩ := Result.bind_eq_ok_iff.mp step
      cases result
      exact congrArg Prod.snd (Job.alone_bind_of_ok (Job.alone_connect env owner dial))
  | runPosted => exact congrArg Prod.snd (Job.alone_runPosted env owner step)
  | create session =>
      cases step
      rfl
  | addSession ref =>
      cases step
      rfl
  | removeSession id =>
      obtain ⟨⟨removed, middle⟩, removal, result⟩ := Result.bind_eq_ok_iff.mp step
      cases result
      exact congrArg Prod.snd (Job.alone_bind_of_ok (Job.alone_removeSession env owner removal))
  | disconnect node =>
      exact congrArg Prod.snd (Job.alone_removeSessions env owner step)
  | disconnectAll =>
      exact congrArg Prod.snd (Job.alone_removeSessions env owner step)
  | sendToNode node message =>
      cases step
      exact congrArg Prod.snd (Job.alone_sendToNode env node message state)
  | frame ref bytes =>
      cases step
      exact Job.alone_receive env owner enabled bytes

/-- One event of a node, if it is possible. -/
def carryOut (env : Environment) : State → Event → Option State :=
  Machine.carry (fun state event => event.Enabled state) fun state event =>
    (state.perform env event).toOption

/-- A thread that runs alone does what its events do one after another. -/
theorem alone_work {ι : Type} {env : Environment} (owner : ι) {events : List Event}
    {state next : State}
    (carried : events.foldlM (carryOut env) state = some next) :
    ((work env owner events).run state).2 = next := by
  induction events generalizing state with
  | nil =>
      cases carried
      rfl
  | cons event events ih =>
      rw [List.foldlM_cons] at carried
      rcases Option.bind_eq_some_iff.mp carried with ⟨middle, first, rest⟩
      rcases Machine.carry_eq_some_iff.mp first with ⟨enabled, performed⟩
      have after : (Program.run (ExceptT.run (event.job env owner)) state).2 = middle :=
        alone_job env owner enabled (Result.toOption_eq_some_iff.mp performed)
      rw [work, Program.run_bind, after]
      exact ih rest

/-- A peer announces its client `7…7`. -/
def peerJoin : Submessage :=
  ⟨OpCode.join.byte, .request, Uuid.nil, (Uuid.filled 7).data⟩

/-- On one of two links a client is announced, the link is removed, and then the
placeholder and the other link are. -/
def removals : List Event :=
  [.frame 0 (frameOf [peerJoin]), .removeSession (Uuid.filled 2), .disconnectAll]

theorem alone_work_removals :
    ∃ next ∈ removals.foldlM (carryOut countingEnvironment) twoLinks,
      next.sessions = [] ∧ next.disconnected.length = 3 ∧
        ((work countingEnvironment () removals).run twoLinks).2 = next := by
  have carried : ∃ next ∈ removals.foldlM (carryOut countingEnvironment) twoLinks,
      next.sessions = [] ∧ next.disconnected.length = 3 := by
    decide +kernel
  rcases carried with ⟨next, carried, removed, all⟩
  exact ⟨next, carried, removed, all, alone_work () carried⟩

end Aurum.Node
