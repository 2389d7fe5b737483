import Aurum.Node.Descriptions
import Aurum.Node.Dialing
import Aurum.Node.DiscoveryCodec
import Aurum.Node.ReplyFrames

/-!
# Handling a discovery response twice

`connect` registers its session without host and port, and the identify
response of the peer fills in neither.  The already-connected test therefore
never sees an outbound session under the endpoint it was dialed for.  What it
does see is not there to stay: an identify request gives a TCP session any
other host and port.
-/

namespace Aurum.Node

open Aurum.Protocol
open Aurum.Container
open Aurum.Transition
open Aurum.Wire.LittleEndian

/-- Host and port of every session opened by `connect`. -/
def outbound : Endpoint :=
  ⟨[], 0⟩

namespace Handlers

theorem alreadyConnected_iff (endpoint : Endpoint) (state : State) :
    alreadyConnected endpoint state = true ↔
      ∃ ref ∈ state.sessions.refs,
        (state.memory ref).host = endpoint.host ∧ (state.memory ref).port = endpoint.port := by
  simp [alreadyConnected]

/-- The test depends on the registered sessions and on their hosts and ports. -/
theorem alreadyConnected_mono {state next : State}
    (kept : ∀ ref ∈ state.sessions.refs, ref ∈ next.sessions.refs ∧
      (next.memory ref).host = (state.memory ref).host ∧
        (next.memory ref).port = (state.memory ref).port)
    {endpoint : Endpoint} (connected : alreadyConnected endpoint state) :
    alreadyConnected endpoint next := by
  obtain ⟨ref, registered, hostEq, portEq⟩ := (alreadyConnected_iff endpoint state).mp connected
  obtain ⟨still, sameHost, samePort⟩ := kept ref registered
  exact (alreadyConnected_iff endpoint next).mpr
    ⟨ref, still, sameHost.trans hostEq, samePort.trans portEq⟩

end Handlers

/-! ## What a connect registers -/

namespace State

open Handlers

variable {env : Environment}

/-- The registry and the objects after `openSession`. -/
theorem openSession_frame {withDiscovery : Bool} {connectionsPerNode : UInt16}
    {state next : State} {connected : Bool}
    (step : state.openSession env withDiscovery connectionsPerNode = .ok (connected, next)) :
    next.memory = ((state.draw.allocate (tcpSession (state.nextUuid env) .dialed)).addSession env
        state.allocated).2.memory ∧
      next.sessions = ((state.draw.allocate (tcpSession (state.nextUuid env)
        .dialed)).addSession env state.allocated).2.sessions := by
  unfold openSession at step
  simp only at step
  split at step
  · obtain ⟨buffer, _, result⟩ := Result.bind_eq_ok_iff.mp step
    cases result
    cases withDiscovery <;> exact ⟨rfl, rfl⟩
  · cases step
    exact ⟨rfl, rfl⟩

/-- Opening a session keeps the registered ones as they are. -/
theorem openSession_kept {withDiscovery : Bool} {connectionsPerNode : UInt16}
    {state next : State} {connected : Bool} (wellFormed : WellFormed state)
    (step : state.openSession env withDiscovery connectionsPerNode = .ok (connected, next)) :
    ∀ ref ∈ state.sessions.refs, ref ∈ next.sessions.refs ∧
      next.memory ref = state.memory ref := by
  obtain ⟨memoryEq, sessionsEq⟩ := openSession_frame step
  intro ref registered
  obtain ⟨entry, member, rfl⟩ := List.mem_map.mp registered
  constructor
  · rw [sessionsEq]
    exact List.mem_map.mpr ⟨entry, mem_insertUnique_of_mem member, rfl⟩
  · rw [memoryEq]
    exact allocate_memory_of_ne _ (Nat.ne_of_lt (wellFormed.allocated entry member))

/-- The only session it can add is the dialed one. -/
theorem openSession_new {withDiscovery : Bool} {connectionsPerNode : UInt16}
    {state next : State} {connected : Bool} (wellFormed : WellFormed state)
    (step : state.openSession env withDiscovery connectionsPerNode = .ok (connected, next))
    {ref : Ref} (registered : ref ∈ next.sessions.refs) :
    (ref ∈ state.sessions.refs ∧ next.memory ref = state.memory ref) ∨
      ∃ id, next.memory ref = tcpSession id .dialed := by
  obtain ⟨memoryEq, sessionsEq⟩ := openSession_frame step
  obtain ⟨entry, member, rfl⟩ := List.mem_map.mp registered
  rw [sessionsEq] at member
  rw [memoryEq]
  rcases mem_insertUnique member with rfl | member
  · exact Or.inr ⟨_, allocate_memory_self _ state.draw⟩
  · left
    exact ⟨List.mem_map.mpr ⟨entry, member, rfl⟩,
      allocate_memory_of_ne _ (Nat.ne_of_lt (wellFormed.allocated entry member))⟩

/-- A fresh identifier gets the session registered. -/
theorem openSession_registers {withDiscovery : Bool} {connectionsPerNode : UInt16}
    {state next : State} {connected : Bool}
    (step : state.openSession env withDiscovery connectionsPerNode = .ok (connected, next))
    (fresh : ∀ entry ∈ state.sessions, entry.key.id ≠ state.nextUuid env) :
    alreadyConnected outbound next := by
  obtain ⟨memoryEq, sessionsEq⟩ := openSession_frame step
  have object : (state.draw.allocate (tcpSession (state.nextUuid env) .dialed)).memory
      state.allocated = tcpSession (state.nextUuid env) .dialed :=
    allocate_memory_self _ state.draw
  have free : ∀ other ∈ state.sessions, Key.id other.key ≠ Key.id
      ((state.draw.allocate (tcpSession (state.nextUuid env) .dialed)).memory
        state.allocated).key := by
    intro other member
    rw [object]
    exact fresh other member
  have registered : next.sessions = env.placement.place state.sessions ⟨state.allocated,
      ((state.draw.allocate (tcpSession (state.nextUuid env) .dialed)).memory
        state.allocated).key⟩ := by
    rw [sessionsEq]
    exact congrArg Prod.snd (insertUnique_of_free free)
  apply (alreadyConnected_iff outbound next).mpr
  refine ⟨state.allocated, ?_, ?_⟩
  · rw [registered]
    exact List.mem_map.mpr ⟨_, (env.placement.mem_place_iff _ _ _).mpr (Or.inl rfl), rfl⟩
  · have same : next.memory state.allocated = tcpSession (state.nextUuid env) .dialed := by
      rw [memoryEq]
      exact object
    rw [same]
    exact ⟨rfl, rfl⟩

/-- A connect is recorded and then, if the address answers, opens a session. -/
theorem connect_cases {host : Bytes} {port : UInt16} {withDiscovery : Bool}
    {connectionsPerNode : UInt16} {state next : State} {connected : Bool}
    (step : state.connect env host port withDiscovery connectionsPerNode =
      .ok (connected, next)) :
    (env.connects state.dialed.length = true ∧
        State.openSession env withDiscovery connectionsPerNode
          { state with dialed := state.dialed ++ [⟨host, port⟩] } = .ok (connected, next)) ∨
      env.connects state.dialed.length = false ∧
        next = { state with dialed := state.dialed ++ [⟨host, port⟩] } := by
  unfold connect at step
  simp only at step
  split at step
  · rename_i answers
    exact Or.inl ⟨answers, step⟩
  · rename_i silent
    cases step
    exact Or.inr ⟨by simpa using silent, rfl⟩

end State

theorem WellFormed.recorded {state : State} (wellFormed : WellFormed state)
    (dialed : List Endpoint) : WellFormed { state with dialed := dialed } :=
  ⟨wellFormed.allocated, wellFormed.distinct, wellFormed.filed, wellFormed.placeholder⟩

namespace Handlers

variable {env : Environment}

theorem visitEndpoint_kept {endpoint : Endpoint} {state next : State}
    (wellFormed : WellFormed state) (step : visitEndpoint env endpoint state = .ok next) :
    ∀ ref ∈ state.sessions.refs, ref ∈ next.sessions.refs ∧
      next.memory ref = state.memory ref := by
  unfold visitEndpoint at step
  split at step
  · cases step
    exact fun ref registered => ⟨registered, rfl⟩
  · obtain ⟨⟨connected, dialed⟩, dial, result⟩ := Result.bind_eq_ok_iff.mp step
    cases result
    rcases State.connect_cases dial with ⟨_, opened⟩ | ⟨_, rfl⟩
    · have kept := State.openSession_kept (wellFormed.recorded _) opened
      exact kept
    · exact fun ref registered => ⟨registered, rfl⟩

theorem visitEndpoint_new {endpoint : Endpoint} {state next : State}
    (wellFormed : WellFormed state) (step : visitEndpoint env endpoint state = .ok next)
    {ref : Ref} (registered : ref ∈ next.sessions.refs) :
    (ref ∈ state.sessions.refs ∧ next.memory ref = state.memory ref) ∨
      ∃ id, next.memory ref = tcpSession id .dialed := by
  unfold visitEndpoint at step
  split at step
  · cases step
    exact Or.inl ⟨registered, rfl⟩
  · obtain ⟨⟨connected, dialed⟩, dial, result⟩ := Result.bind_eq_ok_iff.mp step
    cases result
    rcases State.connect_cases dial with ⟨_, opened⟩ | ⟨_, rfl⟩
    · have new := State.openSession_new (wellFormed.recorded _) opened registered
      exact new
    · exact Or.inl ⟨registered, rfl⟩

/-- Whatever visiting endpoints registers is a dialed session. -/
theorem visitAll_new {endpoints : List Endpoint} {state next : State}
    (wellFormed : WellFormed state) (step : visitAll env endpoints state = .ok next)
    {ref : Ref} (registered : ref ∈ next.sessions.refs) :
    (ref ∈ state.sessions.refs ∧ next.memory ref = state.memory ref) ∨
      ∃ id, next.memory ref = tcpSession id .dialed := by
  induction endpoints generalizing state with
  | nil =>
      cases step
      exact Or.inl ⟨registered, rfl⟩
  | cons endpoint endpoints ih =>
      obtain ⟨middle, visit, rest⟩ := Result.bind_eq_ok_iff.mp step
      have middleFormed := (closed_wellFormed env).visitEndpoint visit wellFormed
      rcases ih middleFormed rest with ⟨between, same⟩ | dialed
      · rw [same]
        exact visitEndpoint_new wellFormed visit between
      · exact Or.inr dialed

/-- Visiting endpoints connects at most the one without host and port. -/
theorem visitAll_connects {endpoints : List Endpoint} {other : Endpoint} {state next : State}
    (wellFormed : WellFormed state) (step : visitAll env endpoints state = .ok next)
    (found : alreadyConnected other next) : alreadyConnected other state ∨ other = outbound := by
  obtain ⟨ref, registered, hostEq, portEq⟩ := (alreadyConnected_iff other next).mp found
  rcases visitAll_new wellFormed step registered with ⟨older, same⟩ | ⟨id, dialed⟩
  · rw [same] at hostEq portEq
    exact Or.inl ((alreadyConnected_iff other state).mpr ⟨ref, older, hostEq, portEq⟩)
  · rw [dialed] at hostEq portEq
    cases other
    cases hostEq
    cases portEq
    exact Or.inr rfl

theorem visitAll_append (first second : List Endpoint) (state : State) :
    visitAll env (first ++ second) state =
      visitAll env first state >>= visitAll env second := by
  induction first generalizing state with
  | nil => rfl
  | cons endpoint endpoints ih =>
      rw [List.cons_append, visitAll, visitAll]
      cases visitEndpoint env endpoint state with
      | error failure => rfl
      | ok middle => exact ih middle

/-- When no connect succeeds, every unconnected endpoint is dialed each time it
is listed. -/
theorem visitAll_of_failing (failing : ∀ attempt, env.connects attempt = false)
    (endpoints : List Endpoint) (state : State) :
    visitAll env endpoints state = .ok { state with
      dialed := state.dialed ++
        endpoints.filter fun endpoint => !alreadyConnected endpoint state } := by
  induction endpoints generalizing state with
  | nil => simp [visitAll]
  | cons endpoint endpoints ih =>
      rw [visitAll, visitEndpoint]
      by_cases connected : alreadyConnected endpoint state
      · rw [if_pos connected]
        simp only [bind, Except.bind]
        rw [ih, List.filter_cons_of_neg (by simpa using connected)]
      · rw [if_neg connected, State.connect]
        simp only [failing, bind, Except.bind, pure, Except.pure]
        rw [if_neg (by decide)]
        simp only
        rw [ih, List.filter_cons_of_pos (by simpa using connected), List.append_assoc]
        rfl

/-- A connect that succeeds under a fresh identifier makes its session the one
that is found without host and port. -/
theorem visitEndpoint_registers {endpoint : Endpoint} {state next : State}
    (unconnected : ¬alreadyConnected endpoint state)
    (answers : env.connects state.dialed.length = true)
    (fresh : ∀ entry ∈ state.sessions, entry.key.id ≠ state.nextUuid env)
    (step : visitEndpoint env endpoint state = .ok next) : alreadyConnected outbound next := by
  rw [visitEndpoint, if_neg unconnected] at step
  obtain ⟨⟨connected, dialed⟩, dial, result⟩ := Result.bind_eq_ok_iff.mp step
  cases result
  rcases State.connect_cases dial with ⟨_, opened⟩ | ⟨silent, _⟩
  · have registered := State.openSession_registers opened fresh
    exact registered
  · rw [answers] at silent
    cases silent

end Handlers

/-! ## Between two handlings -/

/-- The response of a peer to the identify request of `connect`. -/
def identifyAnswer (transactionId node : Uuid) : Submessage :=
  ⟨OpCode.identify.byte, .response, transactionId, node.data⟩

/-- The environment with other outcomes of the outbound connects. -/
def Environment.withOutcomes (env : Environment) (connects : Nat → Bool) : Environment :=
  { env with connects := connects }

/-- A run in which the peers of the sessions dialed answer and no registered
session is lost. -/
structure Interlude (env : Environment) (dialed : List Ref) (state : State)
    (steps : List (Event × State)) : Prop where
  path : (machine env).Path state steps
  answered : ∀ ref ∈ dialed, ∃ transactionId node next,
    (Event.frame ref (frameOf [identifyAnswer transactionId node]), next) ∈ steps
  noneLost : ∀ ref ∈ state.sessions.refs, ref ∈ (Machine.finish state steps).sessions.refs

/-- The registered sessions keep host and port. -/
def Undescribed (state later : State) : Prop :=
  ∀ ref ∈ state.sessions.refs, (later.memory ref).host = (state.memory ref).host ∧
    (later.memory ref).port = (state.memory ref).port

/-- However the connects end, handling the response dials no endpoint twice,
and if all of them succeed and every dialed peer has answered, handling it
again on any session dials nothing; `admitted` restricts what the node may have
become in between. -/
def Idempotent (env : Environment) (admitted : State → State → Prop) (payload : Bytes)
    (state : State) : Prop :=
  ∀ (outcomes : Nat → Bool) (session : Ref) (builder replies : ResponseBuilder)
    (transactionId : Uuid) (after : State),
    Handlers.discovery (env.withOutcomes outcomes) session .response builder transactionId payload
        state = .ok (replies, after) →
      (after.dialed.drop state.dialed.length).Nodup ∧
        ((∀ attempt, state.dialed.length ≤ attempt → attempt < after.dialed.length →
            outcomes attempt = true) →
          ∀ steps, Interlude (env.withOutcomes outcomes)
              (List.range' state.allocated (after.allocated - state.allocated)) after steps →
            admitted after (Machine.finish after steps) →
              ∀ (other : Ref) (again repliesAgain : ResponseBuilder) (otherId : Uuid)
                (final : State),
                Handlers.discovery (env.withOutcomes outcomes) other .response again otherId
                    payload (Machine.finish after steps) = .ok (repliesAgain, final) →
                  final.dialed = (Machine.finish after steps).dialed)

/-- The less is admitted in between, the less is asked. -/
theorem Idempotent.mono {env : Environment} {admitted fewer : State → State → Prop}
    {payload : Bytes} {state : State} (idempotent : Idempotent env admitted payload state)
    (implies : ∀ after later, fewer after later → admitted after later) :
    Idempotent env fewer payload state := by
  intro outcomes session builder replies transactionId after first
  rcases idempotent outcomes session builder replies transactionId after first with
    ⟨distinct, again⟩
  exact ⟨distinct, fun succeeded steps interlude fewer =>
    again succeeded steps interlude (implies _ _ fewer)⟩

/-! ### Messages in between -/

theorem introduces_identifyAnswer (transactionId node : Uuid) :
    Introduces (identifyAnswer transactionId node) where
  opcode := rfl
  small := by
    rw [Submessage.bytes_length, identifyAnswer, Uuid.size]
    decide

theorem introduces_hostIdentify (node : Uuid) {host : Bytes} (fits : host.length ≤ 65497) :
    Introduces (hostIdentify node host) where
  opcode := rfl
  small := by
    rw [Submessage.bytes_length, hostIdentify, Handlers.identifyPayload_length]
    omega

/-- The host is what follows twenty bytes. -/
theorem hostIdentify_host (node : Uuid) (host : Bytes) :
    Identify.host (hostIdentify node host) = host := by
  have split : (hostIdentify node host).payload =
      (node.data ++ (le16 0 ++ le16 7000)) ++ host := by
    simp [hostIdentify, Handlers.identifyPayload]
  have length : (node.data ++ (le16 0 ++ le16 7000)).length = 20 := by
    simp [node.size]
  rw [Identify.host, split, List.drop_left' length]

theorem hostIdentify_hosted (node : Uuid) {host : Bytes} (present : host ≠ []) :
    Identify.hosted (hostIdentify node host) = true := by
  have some := List.length_pos_iff.mpr present
  rw [Identify.hosted, decide_eq_true_eq]
  refine ⟨rfl, ?_⟩
  rw [hostIdentify, Handlers.identifyPayload_length]
  omega

/-! ### Two interludes -/

section Interludes

variable (env : Environment) (dialed : List Ref) (state : State)

/-- The peers of the sessions dialed answer, in order. -/
def answers : List (Event × State) :=
  introductions env (fun _ => identifyAnswer Uuid.nil Uuid.nil) dialed state

/-- The answers touch neither the registry nor what has been built. -/
theorem answers_registry :
    (Machine.finish state (answers env dialed state)).sessions = state.sessions ∧
      (Machine.finish state (answers env dialed state)).allocated = state.allocated := by
  have finish := introductions_finish env dialed state
    fun _ => introduces_identifyAnswer Uuid.nil Uuid.nil
  exact ⟨finish.1, finish.2.1⟩

/-- The answers name nodes only. -/
theorem answers_undescribed (ref : Ref) :
    ((Machine.finish state (answers env dialed state)).memory ref).host =
        (state.memory ref).host ∧
      ((Machine.finish state (answers env dialed state)).memory ref).port =
        (state.memory ref).port :=
  introductions_undescribed env dialed state
    (fun _ => introduces_identifyAnswer Uuid.nil Uuid.nil) (fun _ => rfl) (fun _ => rfl) ref

variable {dialed state} (created : ∀ ref ∈ dialed, ref < state.allocated)

include created

theorem interlude_answers : Interlude env dialed state (answers env dialed state) where
  path := introductions_path created
  answered := by
    intro ref member
    rcases mem_introductions member with ⟨next, found⟩
    exact ⟨Uuid.nil, Uuid.nil, next, found⟩
  noneLost := by
    intro ref registered
    rw [(answers_registry env dialed state).1]
    exact registered

omit created

variable (dialed state) (byte : UInt8)

/-- After the answers, every registered session is told a host. -/
def retelling : List (Event × State) :=
  answers env dialed state ++
    introductions env (fun _ => hostIdentify Uuid.nil [byte]) state.sessions.refs
      (Machine.finish state (answers env dialed state))

theorem introduces_retelling : Introduces (hostIdentify Uuid.nil [byte]) :=
  introduces_hostIdentify Uuid.nil (show [byte].length ≤ 65497 from Nat.le_of_ble_eq_true rfl)

theorem retelling_sessions :
    (Machine.finish state (retelling env dialed state byte)).sessions = state.sessions := by
  rw [retelling, Machine.finish_append,
    (introductions_finish env _ _ fun _ => introduces_retelling byte).1]
  exact (answers_registry env dialed state).1

/-- Every TCP session then shows the host, and no websocket session has
changed. -/
theorem retelling_memory {ref : Ref} (registered : ref ∈ state.sessions.refs) :
    ((state.memory ref).type = .tcp →
        ((Machine.finish state (retelling env dialed state byte)).memory ref).host = [byte]) ∧
      ((state.memory ref).type = .websocket →
        (Machine.finish state (retelling env dialed state byte)).memory ref =
          state.memory ref) := by
  have answer : ∀ _ : Ref, Introduces (identifyAnswer Uuid.nil Uuid.nil) :=
    fun _ => introduces_identifyAnswer Uuid.nil Uuid.nil
  have retold : ∀ _ : Ref, Introduces (hostIdentify Uuid.nil [byte]) :=
    fun _ => introduces_retelling byte
  have sameType : ((Machine.finish state (answers env dialed state)).memory ref).type =
      (state.memory ref).type := introductions_type env dialed state answer ref
  rw [retelling, Machine.finish_append]
  constructor
  · intro tcp
    rw [introductions_described env _ _ retold
      (fun _ => hostIdentify_hosted Uuid.nil (List.cons_ne_nil byte [])) (sameType.trans tcp)
      registered, hostIdentify_host]
  · intro websocket
    rw [introductions_websocket env _ _ retold (sameType.trans websocket)]
    exact introductions_websocket env dialed state answer websocket

variable {dialed state} (wellFormed : WellFormed state)

include created wellFormed

theorem interlude_retelling : Interlude env dialed state (retelling env dialed state byte) where
  path := by
    refine Machine.path_append_iff.mpr ⟨introductions_path created, introductions_path ?_⟩
    intro ref registered
    rcases List.mem_map.mp registered with ⟨entry, filed, rfl⟩
    rw [(answers_registry env dialed state).2]
    exact wellFormed.allocated entry filed
  answered := by
    intro ref member
    rcases (interlude_answers env created).answered ref member with
      ⟨transactionId, node, next, found⟩
    exact ⟨transactionId, node, next, List.mem_append_left _ found⟩
  noneLost := by
    intro ref registered
    rw [retelling_sessions]
    exact registered

end Interludes

/-! ## Idempotence -/

/-- A registered websocket session carries the host and port. -/
def ShownByClient (endpoint : Endpoint) (state : State) : Prop :=
  ∃ ref ∈ state.sessions.refs, (state.memory ref).type = .websocket ∧
    (state.memory ref).host = endpoint.host ∧ (state.memory ref).port = endpoint.port

instance (endpoint : Endpoint) (state : State) : Decidable (ShownByClient endpoint state) :=
  inferInstanceAs (Decidable (∃ ref ∈ state.sessions.refs, _ ∧ _ ∧ _))

theorem ShownByClient.alreadyConnected {endpoint : Endpoint} {state : State}
    (shown : ShownByClient endpoint state) : Handlers.alreadyConnected endpoint state := by
  rcases shown with ⟨ref, registered, _, hostEq, portEq⟩
  exact (Handlers.alreadyConnected_iff endpoint state).mpr ⟨ref, registered, hostEq, portEq⟩

/-- Every listed endpoint is connected, but for at most one entry that names
neither host nor port. -/
def Settled (endpoints : List Endpoint) (state : State) : Prop :=
  (∀ endpoint ∈ endpoints, endpoint ≠ outbound → Handlers.alreadyConnected endpoint state) ∧
    (Handlers.alreadyConnected outbound state ∨ endpoints.count outbound ≤ 1)

namespace Settled

variable {env : Environment} {endpoints : List Endpoint} {state after : State}

/-- Visiting settled endpoints dials at most the one without host and port, and
once that connect has succeeded all of them are connected. -/
theorem visitAll (settled : Settled endpoints state) (wellFormed : WellFormed state)
    (fresh : ∀ entry ∈ state.sessions, entry.key.id ≠ state.nextUuid env)
    (step : Handlers.visitAll env endpoints state = .ok after) :
    (after.dialed = state.dialed ∨ after.dialed = state.dialed ++ [outbound]) ∧
      ((∀ attempt, state.dialed.length ≤ attempt → attempt < after.dialed.length →
          env.connects attempt = true) →
        ∀ endpoint ∈ endpoints, Handlers.alreadyConnected endpoint after) := by
  rcases settled with ⟨described, once⟩
  by_cases all : ∀ endpoint ∈ endpoints, Handlers.alreadyConnected endpoint state
  · rw [Handlers.visitAll_of_connected all] at step
    cases step
    exact ⟨Or.inl rfl, fun _ => all⟩
  · have listed : outbound ∈ endpoints := by
      by_contra unlisted
      apply all
      intro endpoint member
      refine described endpoint member ?_
      rintro rfl
      exact unlisted member
    have unconnected : ¬Handlers.alreadyConnected outbound state := by
      intro connected
      apply all
      intro endpoint member
      by_cases isOutbound : endpoint = outbound
      · rw [isOutbound]
        exact connected
      · exact described endpoint member isOutbound
    -- The one entry that is not connected splits the list.
    obtain ⟨front, back, rfl⟩ := List.append_of_mem listed
    have counted : (front ++ outbound :: back).count outbound ≤ 1 :=
      once.resolve_left unconnected
    rw [List.count_append, List.count_cons_self] at counted
    have notFront : outbound ∉ front := List.count_eq_zero.mp (by omega)
    have notBack : outbound ∉ back := List.count_eq_zero.mp (by omega)
    have frontConnected : ∀ endpoint ∈ front, Handlers.alreadyConnected endpoint state :=
      fun endpoint member => described endpoint (List.mem_append_left _ member)
        (fun equal => notFront (equal ▸ member))
    have backConnected : ∀ endpoint ∈ back, Handlers.alreadyConnected endpoint state :=
      fun endpoint member => described endpoint
        (List.mem_append_right _ (List.mem_cons_of_mem _ member))
        (fun equal => notBack (equal ▸ member))
    rw [Handlers.visitAll_append, Handlers.visitAll_of_connected frontConnected] at step
    change Handlers.visitAll env (outbound :: back) state = .ok after at step
    obtain ⟨middle, visit, rest⟩ := Result.bind_eq_ok_iff.mp step
    have dialedEq := Handlers.visitEndpoint_dialed visit
    rw [if_neg unconnected] at dialedEq
    have kept : ∀ endpoint, Handlers.alreadyConnected endpoint state →
        Handlers.alreadyConnected endpoint middle := by
      intro endpoint
      apply Handlers.alreadyConnected_mono
      intro ref registered
      obtain ⟨still, same⟩ := Handlers.visitEndpoint_kept wellFormed visit ref registered
      rw [same]
      exact ⟨still, rfl, rfl⟩
    rw [Handlers.visitAll_of_connected fun endpoint member =>
      kept endpoint (backConnected endpoint member)] at rest
    cases rest
    refine ⟨Or.inr dialedEq, ?_⟩
    intro succeeded endpoint member
    have answers : env.connects state.dialed.length = true := by
      apply succeeded _ le_rfl
      rw [dialedEq, List.length_append, List.length_singleton]
      exact Nat.lt_succ_self _
    by_cases isOutbound : endpoint = outbound
    · rw [isOutbound]
      exact Handlers.visitEndpoint_registers unconnected answers fresh visit
    · exact kept endpoint (described endpoint member isOutbound)

end Settled

/-- Sessions that are neither lost nor described anew still show what is
connected. -/
theorem Interlude.alreadyConnected {env : Environment} {dialed : List Ref} {state : State}
    {steps : List (Event × State)} (interlude : Interlude env dialed state steps)
    (undescribed : Undescribed state (Machine.finish state steps)) {endpoint : Endpoint}
    (connected : Handlers.alreadyConnected endpoint state) :
    Handlers.alreadyConnected endpoint (Machine.finish state steps) :=
  Handlers.alreadyConnected_mono
    (fun ref registered => ⟨interlude.noneLost ref registered, undescribed ref registered⟩)
    connected

section Idempotent

variable {env : Environment} {state : State} {payload : Bytes}

/-- Settled responses are handled idempotently as long as no session is
described anew. -/
theorem idempotent_of_settled (wellFormed : WellFormed state)
    (fresh : ∀ entry ∈ state.sessions, entry.key.id ≠ state.nextUuid env)
    (settled : Settled (Handlers.listed payload) state) :
    Idempotent env Undescribed payload state := by
  intro outcomes session builder replies transactionId after first
  rw [Handlers.discovery_response_eq] at first
  obtain ⟨visited, visit, equal⟩ := Result.map_eq_ok_iff.mp first
  cases equal
  have stillFresh : ∀ entry ∈ state.sessions,
      entry.key.id ≠ state.nextUuid (env.withOutcomes outcomes) :=
    fresh
  obtain ⟨dialedEq, connected⟩ := settled.visitAll wellFormed stillFresh visit
  constructor
  · rcases dialedEq with none | one
    · rw [none, List.drop_length]
      exact List.nodup_nil
    · rw [one, List.drop_left]
      exact List.nodup_singleton _
  · intro succeeded steps interlude undescribed other again repliesAgain otherId final second
    have allConnected : ∀ endpoint ∈ Handlers.listed payload,
        Handlers.alreadyConnected endpoint (Machine.finish after steps) :=
      fun endpoint member =>
        interlude.alreadyConnected undescribed (connected succeeded endpoint member)
    rw [Handlers.discovery_response_eq, Handlers.visitAll_of_connected allConnected] at second
    cases second
    rfl

/-- What websocket clients show stays connected whatever happens. -/
theorem idempotent_of_shown (wellFormed : WellFormed state)
    (shown : ∀ endpoint ∈ Handlers.listed payload, ShownByClient endpoint state) :
    Idempotent env (fun _ _ => True) payload state := by
  intro outcomes session builder replies transactionId after first
  have passed : Handlers.visitAll (env.withOutcomes outcomes) (Handlers.listed payload) state =
      .ok state :=
    Handlers.visitAll_of_connected fun endpoint member => (shown endpoint member).alreadyConnected
  rw [Handlers.discovery_response_eq, passed] at first
  cases first
  constructor
  · rw [List.drop_length]
    exact List.nodup_nil
  · intro _ steps interlude _ other again repliesAgain otherId final second
    have allConnected : ∀ endpoint ∈ Handlers.listed payload,
        Handlers.alreadyConnected endpoint (Machine.finish state steps) := by
      intro endpoint member
      rcases shown endpoint member with ⟨ref, registered, websocket, hostEq, portEq⟩
      rcases List.mem_map.mp registered with ⟨entry, filed, isRef⟩
      have keeps : Keeps ref (state.memory ref) state :=
        ⟨isRef ▸ wellFormed.allocated entry filed, _, rfl⟩
      have kept := (Keeps.objects websocket).path interlude.path wellFormed keeps
      rcases kept.object with ⟨isOpen, object⟩
      apply (Handlers.alreadyConnected_iff endpoint _).mpr
      refine ⟨ref, interlude.noneLost ref registered, ?_⟩
      rw [object]
      exact ⟨hostEq, portEq⟩
    rw [Handlers.discovery_response_eq, Handlers.visitAll_of_connected allConnected] at second
    cases second
    rfl

section Second

variable {admitted : State → State → Prop} (idempotent : Idempotent env admitted payload state)

include idempotent

/-- When nothing is dialed the second time, everything listed is connected. -/
theorem Idempotent.connectedAgain {after : State}
    (visit : Handlers.visitAll (env.withOutcomes fun _ => true) (Handlers.listed payload) state =
      .ok after)
    {steps : List (Event × State)}
    (interlude : Interlude (env.withOutcomes fun _ => true)
      (List.range' state.allocated (after.allocated - state.allocated)) after steps)
    (admits : admitted after (Machine.finish after steps)) :
    ∀ endpoint ∈ Handlers.listed payload,
      Handlers.alreadyConnected endpoint (Machine.finish after steps) := by
  have first : Handlers.discovery (env.withOutcomes fun _ => true) 0 .response {} Uuid.nil payload
      state = .ok ({}, after) := by
    rw [Handlers.discovery_response_eq, visit]
    rfl
  obtain ⟨_, again⟩ := idempotent _ _ _ _ _ _ first
  obtain ⟨final, revisit⟩ := Handlers.visitAll_ok (env.withOutcomes fun _ => true)
    (Handlers.listed payload) (Machine.finish after steps)
  have second : Handlers.discovery (env.withOutcomes fun _ => true) 0 .response {} Uuid.nil payload
      (Machine.finish after steps) = .ok ({}, final) := by
    rw [Handlers.discovery_response_eq, revisit]
    rfl
  have same := again (fun _ _ _ => rfl) steps interlude admits 0 {} {} Uuid.nil final second
  by_contra unconnected
  have dials := Handlers.visitAll_dials unconnected revisit
  rw [same] at dials
  exact absurd dials (Nat.lt_irrefl _)

/-- An endpoint without host and port is dialed as often as it is listed, as
long as no connect succeeds. -/
theorem Idempotent.count_le (unconnected : ¬Handlers.alreadyConnected outbound state) :
    (Handlers.listed payload).count outbound ≤ 1 := by
  have failing : ∀ attempt, (env.withOutcomes fun _ => false).connects attempt = false :=
    fun _ => rfl
  have visit := Handlers.visitAll_of_failing failing (Handlers.listed payload) state
  have first := Handlers.discovery_response_eq (env.withOutcomes fun _ => false) 0 {} Uuid.nil
    payload state
  rw [visit] at first
  obtain ⟨distinct, _⟩ := idempotent _ _ _ _ _ _ first
  rw [List.drop_left] at distinct
  have counted := List.nodup_iff_count_le_one.mp distinct outbound
  rwa [List.count_filter (by simpa using unconnected)] at counted

end Second

/-- The sessions opened by a handling exist after it. -/
theorem created_of_opened (state after : State) :
    ∀ ref ∈ List.range' state.allocated (after.allocated - state.allocated),
      ref < after.allocated := by
  intro ref opened
  have inside : state.allocated ≤ ref ∧
      ref < state.allocated + (after.allocated - state.allocated) := List.mem_range'_1.mp opened
  omega

/-- An unconnected endpoint with a host or a port is dialed again. -/
theorem Idempotent.connected (wellFormed : WellFormed state)
    (idempotent : Idempotent env Undescribed payload state) {endpoint : Endpoint}
    (listed : endpoint ∈ Handlers.listed payload) (differs : endpoint ≠ outbound) :
    Handlers.alreadyConnected endpoint state := by
  obtain ⟨after, visit⟩ := Handlers.visitAll_ok (env.withOutcomes fun _ => true)
    (Handlers.listed payload) state
  have interlude := interlude_answers (env.withOutcomes fun _ => true)
    (created_of_opened state after)
  have found := idempotent.connectedAgain visit interlude
    (fun ref _ => answers_undescribed _ _ _ ref) endpoint listed
  obtain ⟨ref, registered, hostEq, portEq⟩ := (Handlers.alreadyConnected_iff endpoint _).mp found
  rw [(answers_registry _ _ _).1] at registered
  rw [(answers_undescribed _ _ _ ref).1] at hostEq
  rw [(answers_undescribed _ _ _ ref).2] at portEq
  have before : Handlers.alreadyConnected endpoint after :=
    (Handlers.alreadyConnected_iff endpoint after).mpr ⟨ref, registered, hostEq, portEq⟩
  exact (Handlers.visitAll_connects wellFormed visit before).resolve_right differs

/-- Some host differs from a given one. -/
theorem exists_host_ne (host : Bytes) : ∃ byte, [byte] ≠ host := by
  by_cases zero : [0] = host
  · subst zero
    exact ⟨1, by decide⟩
  · exact ⟨0, zero⟩

/-- An endpoint that no websocket client shows is dialed again once the peers
have described all TCP sessions anew. -/
theorem Idempotent.shown (wellFormed : WellFormed state)
    (idempotent : Idempotent env (fun _ _ => True) payload state) {endpoint : Endpoint}
    (listed : endpoint ∈ Handlers.listed payload) : ShownByClient endpoint state := by
  obtain ⟨after, visit⟩ := Handlers.visitAll_ok (env.withOutcomes fun _ => true)
    (Handlers.listed payload) state
  have afterFormed := (closed_wellFormed (env.withOutcomes fun _ => true)).visitAll visit wellFormed
  obtain ⟨byte, differs⟩ := exists_host_ne endpoint.host
  have interlude := interlude_retelling (env.withOutcomes fun _ => true)
    (created_of_opened state after) byte afterFormed
  have found := idempotent.connectedAgain visit interlude trivial endpoint listed
  obtain ⟨ref, registered, hostEq, portEq⟩ := (Handlers.alreadyConnected_iff endpoint _).mp found
  rw [retelling_sessions] at registered
  rcases retelling_memory (env.withOutcomes fun _ => true)
    (List.range' state.allocated (after.allocated - state.allocated)) after byte registered with
    ⟨described, untouched⟩
  cases isType : (after.memory ref).type with
  | tcp => exact absurd ((described isType).symm.trans hostEq) differs
  | websocket =>
      rw [untouched isType] at hostEq portEq
      rcases Handlers.visitAll_new wellFormed visit registered with ⟨older, same⟩ | ⟨id, dialed⟩
      · rw [same] at isType hostEq portEq
        exact ⟨ref, older, isType, hostEq, portEq⟩
      · rw [dialed] at isType
        cases isType

/-- Handling a discovery response is idempotent exactly when everything listed
is shown by websocket clients.  As long as no session is described anew, it is
exactly when there is nothing to dial in it, or nothing but one endpoint
without host and port. -/
theorem idempotent_iff (reachable : (machine env).Reachable state)
    (fresh : ∀ entry ∈ state.sessions, entry.key.id ≠ state.nextUuid env) (payload : Bytes) :
    (Idempotent env (fun _ _ => True) payload state ↔
        ∀ endpoint ∈ Handlers.listed payload, ShownByClient endpoint state) ∧
      (Idempotent env Undescribed payload state ↔ Settled (Handlers.listed payload) state) := by
  have wellFormed := wellFormed_of_reachable reachable
  constructor
  · constructor
    · exact fun idempotent endpoint listed => idempotent.shown wellFormed listed
    · exact idempotent_of_shown wellFormed
  · constructor
    · intro idempotent
      refine ⟨fun endpoint listed differs =>
        idempotent.connected wellFormed listed differs, ?_⟩
      by_cases connected : Handlers.alreadyConnected outbound state
      · exact Or.inl connected
      · exact Or.inr (idempotent.count_le connected)
    · exact idempotent_of_settled wellFormed fresh

end Idempotent

/-- A response that lists one node. -/
def localNode : Endpoint :=
  ⟨State.localHost, 7000⟩

/-- A link and a websocket client are accepted, and the peer tells where it
listens. -/
def describedPeer : List Event :=
  [.acceptTcp, .acceptWebsocket, .frame 0 (frameOf [hostIdentify (Uuid.filled 6) State.localHost])]

/-- Where the peer listens is passed over only until it tells another place;
the endpoint without host and port is the client's for good. -/
theorem idempotent_iff_describedPeer :
    ∃ state ∈ run countingEnvironment (fun _ _ => True) describedPeer,
      Idempotent countingEnvironment (fun _ _ => True) (discoveryPayload [outbound]) state ∧
        Idempotent countingEnvironment Undescribed (discoveryPayload [localNode]) state ∧
        ¬Idempotent countingEnvironment (fun _ _ => True) (discoveryPayload [localNode]) state := by
  have ran : ∃ state ∈ run countingEnvironment (fun _ _ => True) describedPeer,
      (∀ entry ∈ state.sessions, entry.key.id ≠ state.nextUuid countingEnvironment) ∧
        ShownByClient outbound state ∧ Handlers.alreadyConnected localNode state ∧
        ¬ShownByClient localNode state := by
    decide +kernel
  rcases ran with ⟨state, ran, fresh, client, peer, noClient⟩
  have reachable := (reachable_of_run ran).of_under
  have blank : Handlers.listed (discoveryPayload [outbound]) = [outbound] :=
    (listed_discoveryPayload_iff Uuid.nil (by decide)).mpr (by decide)
  have told : Handlers.listed (discoveryPayload [localNode]) = [localNode] :=
    (listed_discoveryPayload_iff Uuid.nil (by decide)).mpr (by decide)
  refine ⟨state, ran, ?_, ?_, fun idempotent => noClient ?_⟩
  · apply (idempotent_iff reachable fresh _).1.mpr
    rw [blank]
    intro endpoint member
    rw [List.mem_singleton.mp member]
    exact client
  · apply (idempotent_iff reachable fresh _).2.mpr
    rw [told]
    refine ⟨?_, Or.inr (by decide)⟩
    intro endpoint member _
    rw [List.mem_singleton.mp member]
    exact peer
  · apply (idempotent_iff reachable fresh _).1.mp idempotent
    rw [told]
    exact List.mem_singleton_self localNode

/-- A node listed is dialed again when the response is handled again, whether
or not sessions are described anew in between. -/
theorem localNode_not_idempotent :
    (machine countingEnvironment).Reachable twoLinks ∧ (twoLinks.memory 0).type = .tcp ∧
      Handlers.listed (discoveryPayload [localNode]) = [localNode] ∧
      ¬Idempotent countingEnvironment (fun _ _ => True) (discoveryPayload [localNode]) twoLinks ∧
      ¬Idempotent countingEnvironment Undescribed (discoveryPayload [localNode]) twoLinks := by
  have listed : Handlers.listed (discoveryPayload [localNode]) = [localNode] :=
    (listed_discoveryPayload_iff Uuid.nil (by decide)).mpr (by decide)
  have undescribed :
      ¬Idempotent countingEnvironment Undescribed (discoveryPayload [localNode]) twoLinks := by
    intro idempotent
    have connected := idempotent.connected (wellFormed_of_reachable twoLinks_reachable)
      (by rw [listed]; exact List.mem_singleton_self localNode) (by decide)
    exact absurd connected (by decide)
  refine ⟨twoLinks_reachable, rfl, listed, fun idempotent => undescribed ?_, undescribed⟩
  exact idempotent.mono fun _ _ _ => trivial

end Aurum.Node
