import Aurum.Container.Latest
import Aurum.Node.Replies

/-!
# What a session learns from identify messages

An identify message carries up to three things, told apart by the length of its
payload: sixteen bytes name a node, twenty bytes of a request also a port, and
what follows them a host.  Each is written to the session on its own, so that
after any number of messages each field is that of the last message with it.
-/

namespace Aurum.Node

open Aurum.Protocol
open Aurum.Container
open Aurum.Wire.LittleEndian

namespace Identify

/-! ## The fields of a message -/

/-- The payload is long enough for a node id. -/
def named (message : Submessage) : Bool :=
  16 ≤ message.payload.length

/-- The message is a request long enough for a port. -/
def ported (message : Submessage) : Bool :=
  message.type = .request ∧ 20 ≤ message.payload.length

/-- The message is a request with a host. -/
def hosted (message : Submessage) : Bool :=
  message.type = .request ∧ 20 < message.payload.length

def nodeId (message : Submessage) : Uuid :=
  (Uuid.ofBytes (message.payload.take 16)).getD Uuid.nil

def connectionsPerNode (message : Submessage) : UInt16 :=
  ofLe16 ((message.payload.drop 16).take 2)

def port (message : Submessage) : UInt16 :=
  ofLe16 ((message.payload.drop 18).take 2)

def host (message : Submessage) : Bytes :=
  message.payload.drop 20

/-- The connects that a message asks for. -/
def dials (message : Submessage) : List Endpoint :=
  if hosted message ∧ 1 < (connectionsPerNode message).toNat ∧ port message ≠ 0 then
    List.replicate ((connectionsPerNode message).toNat - 1) ⟨host message, port message⟩
  else
    []

/-- The message is answered. -/
def answered (message : Submessage) : Bool :=
  message.type = .request ∧ 16 ≤ message.payload.length

/-- What a message makes of a session. -/
def describe (session : Session) (message : Submessage) : Session :=
  { session with
    nodeId := if named message then nodeId message else session.nodeId
    port := if ported message then port message else session.port
    host := if hosted message then host message else session.host }

end Identify

open Identify

theorem State.retag_self (ref : Ref) (state : State) :
    state.retag ref (state.memory ref).nodeId (state.memory ref).port (state.memory ref).host [] =
      state := by
  simp [State.retag, State.update]

/-- The identify handler on a TCP session. -/
theorem Handlers.identify_eq {state : State} {session : Ref}
    (tcp : (state.memory session).type = .tcp) (message : Submessage)
    (builder : ResponseBuilder) :
    Handlers.identify session message.type builder message.transactionId message.payload state =
      .ok (if Identify.answered message then
          builder.addIdentify message.transactionId state.nodeId
        else
          builder,
        state.retag session (describe (state.memory session) message).nodeId
          (describe (state.memory session) message).port
          (describe (state.memory session) message).host (dials message)) := by
  have notWebsocket : (state.memory session).type ≠ .websocket := by
    simp [tcp]
  by_cases short : message.payload.length < 16
  · have unnamed : ¬16 ≤ message.payload.length := Nat.not_le.mpr short
    have noPort : ¬20 ≤ message.payload.length := by omega
    have noHost : ¬20 < message.payload.length := by omega
    rw [Handlers.identify, if_neg notWebsocket, if_pos short]
    simp [describe, dials, Identify.answered, named, ported, hosted, unnamed, noPort, noHost,
      State.retag_self]
  have long : 16 ≤ message.payload.length := Nat.not_lt.mp short
  have within : 0 + 16 ≤ message.payload.length := by omega
  rcases readUuid_of_le within with ⟨id, read, data⟩
  have isNamed : Identify.nodeId message = id := by
    rw [List.drop_zero] at data
    rw [Identify.nodeId, ← data, Uuid.ofBytes_data]
    rfl
  rw [Handlers.identify, if_neg notWebsocket, if_neg short, read]
  by_cases request : message.type = .request
  · by_cases full : 20 ≤ message.payload.length
    · have countInside : 16 + 2 ≤ message.payload.length := by omega
      have portInside : 18 + 2 ≤ message.payload.length := full
      simp only [bind, Except.bind, request, true_and, if_pos full, readU16_of_le countInside,
        readU16_of_le portInside, State.setNodeId_eq_retag, State.setPort_retag]
      by_cases more : 20 < message.payload.length
      · have hostInside : 20 + (message.payload.length - 20) ≤ message.payload.length := by omega
        have present : message.payload.drop 20 ≠ [] := by
          rw [Ne, List.drop_eq_nil_iff]
          omega
        have hostRead : readBytes message.payload 20 (message.payload.length - 20) =
            .ok (message.payload.drop 20) := by
          rw [readBytes_of_le hostInside, List.take_of_length_le]
          rw [List.length_drop]
        simp only [hostRead, State.setHost_retag, postDials_retag, List.nil_append, describe,
          dials, Identify.answered, named, ported, hosted, request, long, full, more, isNamed,
          Identify.port, Identify.host, Identify.connectionsPerNode, present, decide_true,
          if_true, true_and, ne_eq, not_false_eq_true]
        split <;> rfl
      · simp only [describe, dials, Identify.answered, named, ported, hosted, request, long, full,
          more, isNamed, Identify.port, decide_true, if_true, if_false]
        rfl
    · have noHost : ¬20 < message.payload.length := by omega
      simp only [bind, Except.bind, request, true_and, State.setNodeId_eq_retag, describe, dials,
        Identify.answered, named, ported, hosted, long, full, noHost, isNamed, decide_true,
        decide_false, Bool.false_eq_true, false_and, if_true, if_false]
      rfl
  · simp only [bind, Except.bind, request, false_and, if_false, State.setNodeId_eq_retag, describe,
      dials, Identify.answered, named, ported, hosted, long, isNamed, decide_true, decide_false,
      Bool.false_eq_true, if_true]
    rfl

/-- Handling an identify message describes its session. -/
theorem invoke_identify (env : Environment) {state : State} {session : Ref}
    {message : Submessage} (opcode : message.opcode = OpCode.identify.byte)
    (tcp : (state.memory session).type = .tcp) (builder : ResponseBuilder) :
    ∃ result next, Kernel.invoke (handlers env session) message builder state =
        .ok (result, next) ∧
      next.memory = Function.update state.memory session
        (describe (state.memory session) message) := by
  have handled := Handlers.identify_eq tcp message builder
  rw [Kernel.invoke, handlers, opcode]
  exact ⟨_, _, handled, rfl⟩

/-! ## Any number of messages -/

/-- Handle identify messages on one session, each behind what is queued for its
reply already. -/
def hear (env : Environment) (session : Ref) :
    List (Submessage × ResponseBuilder) → State → Result State
  | [], state => .ok state
  | (message, builder) :: messages, state => do
      let (_, state) ← Kernel.invoke (handlers env session) message builder state
      hear env session messages state

/-- The messages handled describe the session one after another, and no other
session object changes. -/
theorem hear_eq (env : Environment) {state : State} {session : Ref}
    (tcp : (state.memory session).type = .tcp) {messages : List (Submessage × ResponseBuilder)}
    (identifies : ∀ message ∈ messages, message.1.opcode = OpCode.identify.byte) :
    ∃ final, hear env session messages state = .ok final ∧
      final.memory session =
        (messages.map Prod.fst).foldl describe (state.memory session) ∧
      ∀ other ≠ session, final.memory other = state.memory other := by
  induction messages generalizing state with
  | nil => exact ⟨state, rfl, rfl, fun _ _ => rfl⟩
  | cons first messages ih =>
      rcases first with ⟨message, builder⟩
      have opcode : message.opcode = OpCode.identify.byte := identifies _ List.mem_cons_self
      rcases invoke_identify env opcode tcp builder with ⟨result, next, invoked, memory⟩
      have stays : (next.memory session).type = .tcp := by
        rw [memory, Function.update_self]
        exact tcp
      have later : ∀ message ∈ messages, message.1.opcode = OpCode.identify.byte :=
        fun other member => identifies other (List.mem_cons_of_mem _ member)
      rcases ih stays later with ⟨final, heard, described, others⟩
      refine ⟨final, ?_, ?_, ?_⟩
      · rw [hear, invoked]
        exact heard
      · rw [described, memory, Function.update_self]
        rfl
      · intro other differs
        rw [others other differs, memory, Function.update_of_ne differs]

/-- Described by several messages, a session has the latest of each field. -/
theorem foldl_describe (messages : List Submessage) (session : Session) :
    messages.foldl describe session =
      { session with
        nodeId := latest named Identify.nodeId messages session.nodeId
        port := latest ported Identify.port messages session.port
        host := latest hosted Identify.host messages session.host } := by
  induction messages generalizing session with
  | nil => rfl
  | cons message messages ih =>
      rw [List.foldl_cons, ih, latest_cons, latest_cons, latest_cons]
      rfl

/-- After identify messages handled on a TCP session, its node id is that of
the last message with one, its port that of the last request with one and its
host that of the last request with one, or what they were before; so they are
those of one request unless shorter messages behind it say otherwise. -/
theorem identify_latest (env : Environment) {state : State} {session : Ref}
    (tcp : (state.memory session).type = .tcp) {messages : List (Submessage × ResponseBuilder)}
    (identifies : ∀ message ∈ messages, message.1.opcode = OpCode.identify.byte) :
    ∃ final, hear env session messages state = .ok final ∧
      final.memory session =
        { state.memory session with
          nodeId := latest named Identify.nodeId (messages.map Prod.fst)
            (state.memory session).nodeId
          port := latest ported Identify.port (messages.map Prod.fst) (state.memory session).port
          host := latest hosted Identify.host (messages.map Prod.fst)
            (state.memory session).host } ∧
      ∀ earlier request later, messages.map Prod.fst = earlier ++ request :: later →
        hosted request = true →
        (∀ message ∈ later, named message = true →
          Identify.nodeId message = Identify.nodeId request) →
        (∀ message ∈ later, ported message = true →
          Identify.port message = Identify.port request) →
        (∀ message ∈ later, hosted message = true →
          Identify.host message = Identify.host request) →
        (final.memory session).nodeId = Identify.nodeId request ∧
          (final.memory session).port = Identify.port request ∧
          (final.memory session).host = Identify.host request := by
  rcases hear_eq env tcp identifies with ⟨final, heard, described, _⟩
  rw [foldl_describe] at described
  refine ⟨final, heard, described, ?_⟩
  intro earlier request later split carries sameId samePort sameHost
  have carriesPort : ported request = true := by
    simp only [hosted, ported, decide_eq_true_eq] at carries ⊢
    exact ⟨carries.1, Nat.le_of_lt carries.2⟩
  have carriesId : named request = true := by
    simp only [hosted, named, decide_eq_true_eq] at carries ⊢
    omega
  rw [described, split]
  simp only [latest_append, latest_cons, carries, carriesPort, carriesId, if_true]
  exact ⟨latest_of_agree sameId, latest_of_agree samePort, latest_of_agree sameHost⟩

/-- An identify request with a host. -/
def hostedRequest : Submessage :=
  ⟨OpCode.identify.byte, .request, Uuid.nil,
    Handlers.identifyPayload (Uuid.filled 5) 0 7000 [97]⟩

/-- An identify response of another node. -/
def otherResponse : Submessage :=
  ⟨OpCode.identify.byte, .response, Uuid.nil, (Uuid.filled 6).data⟩

/-- Shorter messages that agree with it: a response of the same node, a request
without a host, and one that is too short to name anything. -/
def agreeingMessages : List Submessage :=
  [⟨OpCode.identify.byte, .response, Uuid.nil, (Uuid.filled 5).data⟩,
    ⟨OpCode.identify.byte, .request, Uuid.nil,
      Handlers.identifyPayload (Uuid.filled 5) 3 7000 []⟩,
    ⟨OpCode.identify.byte, .request, Uuid.nil, [6, 6, 6]⟩]

/-- Whatever the peer has said before, the session is described by the request
they follow. -/
theorem identify_latest_agreeing :
    ∃ final, hear stillEnvironment 0 ((otherResponse :: hostedRequest :: agreeingMessages).map
        fun message => (message, {})) oneLink = .ok final ∧
      (final.memory 0).nodeId = Uuid.filled 5 ∧ (final.memory 0).port = 7000 ∧
      (final.memory 0).host = [97] := by
  have identifies : ∀ message ∈ (otherResponse :: hostedRequest :: agreeingMessages).map
      (fun message => (message, ({} : ResponseBuilder))),
      message.1.opcode = OpCode.identify.byte := by
    decide
  have tcp : (oneLink.memory 0).type = .tcp := rfl
  rcases identify_latest stillEnvironment tcp identifies with ⟨final, heard, _, whole⟩
  refine ⟨final, heard, ?_⟩
  rcases whole [otherResponse] hostedRequest agreeingMessages rfl rfl (by decide) (by decide)
    (by decide) with ⟨id, port, host⟩
  rw [id, port, host]
  decide

/-- A response behind a request leaves the port and the host of the one and the
node id of the other. -/
theorem identify_mixed :
    ∃ final, hear stillEnvironment 0 [(hostedRequest, {}), (otherResponse, {})] oneLink =
        .ok final ∧
      (final.memory 0).host ≠ [] ∧
      ¬∃ request ∈ [hostedRequest, otherResponse], request.type = .request ∧
        (final.memory 0).nodeId = Identify.nodeId request ∧
        (final.memory 0).port = Identify.port request ∧
        (final.memory 0).host = Identify.host request :=
  ⟨_, rfl, by decide, by decide⟩

end Aurum.Node
