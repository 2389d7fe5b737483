import Aurum.Cluster.Handshakes
import Aurum.Node.Batching
import Aurum.Node.Identify

/-!
# The identify exchange

Port and host of an identify request are left out when neither is given, and
the reader tells the layouts apart by the length of the payload.  In all of
them the reader ends up with the arguments of the writer, and the writer learns
the node id of the reader from its answer.
-/

namespace Aurum.Cluster

open Aurum.Protocol
open Aurum.Container
open Aurum.Node
open Aurum.Wire.LittleEndian

/-- What an identify request writes of port and host. -/
def endpointBytes (port : UInt16) (host : Bytes) : Bytes :=
  if port ≠ 0 ∨ host ≠ [] then le16 port ++ host else []

/-- The sub-message that `request_builder::add_identify` queues. -/
def introduction (nodeId : Uuid) (connectionsPerNode : UInt16) (transactionId : Uuid)
    (port : UInt16) (host : Bytes) : Submessage :=
  ⟨OpCode.identify.byte, .request, transactionId,
    nodeId.data ++ (le16 connectionsPerNode ++ endpointBytes port host)⟩

section Introduction

variable (nodeId : Uuid) (connectionsPerNode : UInt16) (transactionId : Uuid) (port : UInt16)
  (host : Bytes)

theorem addIdentify_buffers :
    (({} : RequestBuilder).addIdentify nodeId connectionsPerNode transactionId port host).buffers =
      [(introduction nodeId connectionsPerNode transactionId port host).bytes] := by
  rw [← heading_append]
  rfl

theorem endpointBytes_length_le : (endpointBytes port host).length ≤ 2 + host.length := by
  unfold endpointBytes
  split
  · simp
  · exact Nat.zero_le _

theorem introduction_small {host : Bytes} (short : host.length ≤ 65497) :
    (introduction nodeId connectionsPerNode transactionId port host).bytes.length ≤ 65535 := by
  have endpoint := endpointBytes_length_le port host
  rw [Submessage.bytes_length, introduction, List.length_append, List.length_append, nodeId.size,
    le16_length]
  omega

/-- What the reader finds behind the node id. -/
theorem introduction_fields :
    Identify.nodeId (introduction nodeId connectionsPerNode transactionId port host) = nodeId ∧
      Identify.connectionsPerNode
        (introduction nodeId connectionsPerNode transactionId port host) = connectionsPerNode ∧
      (introduction nodeId connectionsPerNode transactionId port host).payload.drop 18 =
        endpointBytes port host := by
  have behindId : (nodeId.data ++ (le16 connectionsPerNode ++ endpointBytes port host)).drop 16 =
      le16 connectionsPerNode ++ endpointBytes port host :=
    List.drop_left' nodeId.size
  refine ⟨?_, ?_, ?_⟩
  · rw [Identify.nodeId, introduction, List.take_left' nodeId.size, Uuid.ofBytes_data]
    rfl
  · rw [Identify.connectionsPerNode, introduction, behindId, List.take_left' (le16_length _),
      ofLe16_le16]
  · rw [introduction, show 18 = 16 + 2 from rfl, ← List.drop_drop, behindId,
      List.drop_left' (le16_length _)]

/-- When a port or a host is given, the reader finds both. -/
theorem introduction_endpoint {port : UInt16} {host : Bytes} (given : port ≠ 0 ∨ host ≠ []) :
    Identify.port (introduction nodeId connectionsPerNode transactionId port host) = port ∧
      Identify.host (introduction nodeId connectionsPerNode transactionId port host) = host := by
  have behindCount :=
    (introduction_fields nodeId connectionsPerNode transactionId port host).2.2
  rw [endpointBytes, if_pos given] at behindCount
  constructor
  · rw [Identify.port, behindCount, List.take_left' (le16_length _), ofLe16_le16]
  · rw [Identify.host, show 20 = 18 + 2 from rfl, ← List.drop_drop, behindCount,
      List.drop_left' (le16_length _)]

/-- The length tells the layouts apart. -/
theorem introduction_layout :
    Identify.named (introduction nodeId connectionsPerNode transactionId port host) = true ∧
      (Identify.ported (introduction nodeId connectionsPerNode transactionId port host) = true ↔
        port ≠ 0 ∨ host ≠ []) ∧
      (Identify.hosted (introduction nodeId connectionsPerNode transactionId port host) = true ↔
        host ≠ []) := by
  have length : (introduction nodeId connectionsPerNode transactionId port host).payload.length =
      18 + (endpointBytes port host).length := by
    rw [introduction, List.length_append, List.length_append, nodeId.size, le16_length,
      ← Nat.add_assoc]
  have request : (introduction nodeId connectionsPerNode transactionId port host).type =
      .request := rfl
  rw [Identify.named, Identify.ported, Identify.hosted, length, request]
  by_cases given : port ≠ 0 ∨ host ≠ []
  · have written : (endpointBytes port host).length = 2 + host.length := by
      rw [endpointBytes, if_pos given, List.length_append, le16_length]
    simp only [written, decide_eq_true_eq, true_and]
    refine ⟨by omega, ⟨fun _ => given, fun _ => by omega⟩, ?_⟩
    rw [← List.length_pos_iff]
    omega
  · have omitted : (endpointBytes port host).length = 0 := by
      rw [endpointBytes, if_neg given]
      rfl
    have noHost : ¬host ≠ [] := fun hosted => given (Or.inr hosted)
    simp only [omitted, decide_eq_true_eq, true_and]
    refine ⟨by omega, ⟨fun full => ?_, fun given' => absurd given' given⟩,
      ⟨fun more => ?_, fun present => absurd present noHost⟩⟩
    · exact absurd full (by decide)
    · exact absurd more (by decide)

/-- A new session is described by all that is given; what is left out is as it
was. -/
theorem describe_introduction (id : Uuid) (origin : Origin) :
    Identify.describe (tcpSession id origin)
        (introduction nodeId connectionsPerNode transactionId port host) =
      { tcpSession id origin with nodeId := nodeId, port := port, host := host } := by
  rcases introduction_fields nodeId connectionsPerNode transactionId port host with ⟨ids, _, _⟩
  rcases introduction_layout nodeId connectionsPerNode transactionId port host with
    ⟨isNamed, isPorted, isHosted⟩
  by_cases given : port ≠ 0 ∨ host ≠ []
  · rcases introduction_endpoint nodeId connectionsPerNode transactionId given with
      ⟨ports, hosts⟩
    have written : (if Identify.hosted (introduction nodeId connectionsPerNode transactionId port
        host) = true then host else (tcpSession id origin).host) = host := by
      split
      · rfl
      · rename_i unhosted
        exact (not_not.mp fun present => unhosted (isHosted.mpr present)).symm
    rw [Identify.describe, if_pos isNamed, if_pos (isPorted.mpr given), ids, ports, hosts, written]
  · have noPort : port = 0 := not_not.mp fun isPort => given (Or.inl isPort)
    have noHost : host = [] := not_not.mp fun present => given (Or.inr present)
    have unported := fun ported => given (isPorted.mp ported)
    have unhosted := fun hosted => given (Or.inr (isHosted.mp hosted))
    rw [Identify.describe, if_pos isNamed, if_neg unported, if_neg unhosted, ids, noPort, noHost]
    rfl

theorem dials_introduction :
    Identify.dials (introduction nodeId connectionsPerNode transactionId port host) =
      if 1 < connectionsPerNode.toNat ∧ host ≠ [] ∧ port ≠ 0 then
        List.replicate (connectionsPerNode.toNat - 1) ⟨host, port⟩
      else
        [] := by
  rcases introduction_fields nodeId connectionsPerNode transactionId port host with
    ⟨_, connections, _⟩
  rcases introduction_layout nodeId connectionsPerNode transactionId port host with
    ⟨_, _, isHosted⟩
  by_cases present : host ≠ []
  · have given : port ≠ 0 ∨ host ≠ [] := Or.inr present
    rcases introduction_endpoint nodeId connectionsPerNode transactionId given with
      ⟨ports, hosts⟩
    simp only [Identify.dials, isHosted, present, connections, ports, hosts, true_and, ne_eq,
      not_false_eq_true]
  · have unhosted : ¬(Identify.hosted
        (introduction nodeId connectionsPerNode transactionId port host) = true) :=
      fun hosted => present (isHosted.mp hosted)
    rw [Identify.dials, if_neg fun asked => unhosted asked.1,
      if_neg fun asked => present asked.2.1]

end Introduction

/-- Handling a frame with one sub-message, whose handler queues replies that can
be serialized. -/
theorem handle_single_eq {env : Environment} {frame : Bytes} {session : Ref}
    {state next : State} {message : Submessage} {builder : ResponseBuilder} {reply : Bytes}
    (isFrame : IsFrame frame [message] [])
    (step : Kernel.invoke (handlers env session) message {} state = .ok (builder, next))
    (serialized : builder.getData (decide ((state.memory session).type = .tcp)) = .ok reply) :
    handle env frame session state = ⟨.replied reply, next⟩ ∧
      queuedReplies env session frame state = builder.buffers := by
  rcases Kernel.dispatched_of_isFrame isFrame with ⟨only, complete⟩
  have ran : Kernel.run (handlers env session) (Kernel.dispatched frame) {} state =
      (.ok builder, next) := by
    rw [only, Kernel.run, step]
    rfl
  constructor
  · rw [handle, Kernel.handle_eq, ran, complete]
    simp only [Kernel.conclude, Kernel.finish, if_true]
    have sameData : builder.getBuffers (decide ((state.memory session).type = .tcp)) =
        .ok reply := serialized
    rw [sameData]
  · rw [queuedReplies, ran]

/-- The reader of an identify request on a new session. -/
theorem invoke_introduction (env : Environment) (nodeId : Uuid) (connectionsPerNode : UInt16)
    (transactionId : Uuid) (port : UInt16) (host : Bytes) {reader : State} {session : Ref}
    {id : Uuid} {origin : Origin} (new : reader.memory session = tcpSession id origin) :
    Kernel.invoke (handlers env session)
        (introduction nodeId connectionsPerNode transactionId port host) {} reader =
      .ok (({} : ResponseBuilder).addIdentify transactionId reader.nodeId,
        { reader with
          memory := Function.update reader.memory session
            { tcpSession id origin with nodeId := nodeId, port := port, host := host }
          posted := reader.posted ++
            if 1 < connectionsPerNode.toNat ∧ host ≠ [] ∧ port ≠ 0 then
              List.replicate (connectionsPerNode.toNat - 1) ⟨host, port⟩
            else
              [] }) := by
  have tcp : (reader.memory session).type = .tcp := by
    rw [new]
    rfl
  have isAnswered : Identify.answered
      (introduction nodeId connectionsPerNode transactionId port host) = true := by
    have isNamed := (introduction_layout nodeId connectionsPerNode transactionId port host).1
    simp only [Identify.named, decide_eq_true_eq] at isNamed
    simp only [Identify.answered, decide_eq_true_eq]
    exact ⟨rfl, isNamed⟩
  have handled := Handlers.identify_eq tcp
    (introduction nodeId connectionsPerNode transactionId port host) {}
  rw [if_pos isAnswered, dials_introduction, State.retag, State.update, new,
    describe_introduction] at handled
  exact handled

/-- An identify request carries its arguments over.  Whatever of port and host is
given, the frame that `add_identify` builds gives a new session of the reader
node id, port and host of the writer, posts the connects asked for, and is
answered with one identify response of the same transaction; that gives the
session of the writer the node id of the reader. -/
theorem identify_exchange (nodeId : Uuid) (connectionsPerNode : UInt16) (transactionId : Uuid)
    (port : UInt16) {host : Bytes} (short : host.length ≤ 65497) (far near : Environment)
    {reader writer : State} {session link : Ref} {id : Uuid} {origin : Origin}
    (new : reader.memory session = tcpSession id origin)
    (tcp : (writer.memory link).type = .tcp) :
    ∃ data reply,
      (({} : RequestBuilder).addIdentify nodeId connectionsPerNode transactionId port
        host).getData true = .ok data ∧
      handle far (data.drop 4) session reader = ⟨.replied reply,
        { reader with
          memory := Function.update reader.memory session
            { tcpSession id origin with nodeId := nodeId, port := port, host := host }
          posted := reader.posted ++
            if 1 < connectionsPerNode.toNat ∧ host ≠ [] ∧ port ≠ 0 then
              List.replicate (connectionsPerNode.toNat - 1) ⟨host, port⟩
            else
              [] }⟩ ∧
      queuedReplies far session (data.drop 4) reader =
        [(identifyResponse reader.nodeId transactionId).bytes] ∧
      handle near (reply.drop 4) link writer = ⟨.replied [],
        { writer with
          memory := Function.update writer.memory link
            { writer.memory link with nodeId := reader.nodeId } }⟩ := by
  have isRequest := isFrame_one
    (introduction_small nodeId connectionsPerNode transactionId port short)
  have isResponse := isFrame_one (identifyResponse_small reader.nodeId transactionId)
  have queued := addIdentify_buffers nodeId connectionsPerNode transactionId port host
  have requestSmall := introduction_small nodeId connectionsPerNode transactionId port short
  have answer : (({} : ResponseBuilder).addIdentify transactionId reader.nodeId).buffers =
      [(identifyResponse reader.nodeId transactionId).bytes] :=
    ResponseBuilder.call_message {} (.identify transactionId reader.nodeId)
  have responseSmall := identifyResponse_small reader.nodeId transactionId
  rcases getData_ok_of_fits (fits_one queued requestSmall) true with ⟨data, sent⟩
  rcases getData_ok_of_fits (fits_one answer responseSmall) true with ⟨reply, answered⟩
  have asks := invoke_introduction far nodeId connectionsPerNode transactionId port host new
  have named : readUuid reader.nodeId.data 0 = .ok reader.nodeId := by
    simpa using readUuid_append [] [] reader.nodeId rfl
  have tells : Kernel.invoke (handlers near link) (identifyResponse reader.nodeId transactionId)
      {} writer = .ok ({}, writer.setNodeId link reader.nodeId) :=
    Handlers.identify_response_eq tcp named
  have onTcp : decide ((reader.memory session).type = .tcp) = true := by
    rw [new]
    rfl
  rw [← onTcp] at answered
  rcases handle_single_eq isRequest asks answered with ⟨handled, replies⟩
  have nothing : ({} : ResponseBuilder).getData (decide ((writer.memory link).type = .tcp)) =
      .ok [] := BaseBuilder.getData_nil rfl _
  have heard := (handle_single_eq isResponse tells nothing).1
  rw [onTcp] at answered
  have behindRequest := (getData_drop _ queued requestSmall sent).2
  have behindResponse := (getData_drop _ answer responseSmall answered).2
  refine ⟨data, reply, sent, ?_, ?_, ?_⟩
  · rw [behindRequest]
    exact handled
  · rw [behindRequest, replies, answer]
  · rw [behindResponse]
    exact heard

/-- Two connections per node, port 7000 and the host "a". -/
theorem identify_exchange_two :
    ∃ data reply, (({} : RequestBuilder).addIdentify (Uuid.filled 5) 2 Uuid.nil 7000
        [97]).getData true = .ok data ∧
      (handle stillEnvironment (data.drop 4) 0 oneLink).outcome = .replied reply ∧
      ((handle stillEnvironment (data.drop 4) 0 oneLink).state.memory 0).nodeId =
        Uuid.filled 5 ∧
      (handle stillEnvironment (data.drop 4) 0 oneLink).state.posted = [⟨[97], 7000⟩] ∧
      ((handle countingEnvironment (reply.drop 4) 1 twoLinks).state.memory 1).nodeId =
        Uuid.filled 1 := by
  have short : ([97] : Bytes).length ≤ 65497 := by decide
  have new : oneLink.memory 0 = tcpSession (Uuid.filled 2) .accepted := rfl
  have tcp : (twoLinks.memory 1).type = .tcp := rfl
  rcases identify_exchange (Uuid.filled 5) 2 Uuid.nil 7000 short stillEnvironment
    countingEnvironment new tcp with ⟨data, reply, sent, handled, _, heard⟩
  refine ⟨data, reply, sent, ?_⟩
  rw [handled, heard]
  exact ⟨rfl, rfl, rfl, rfl⟩

end Aurum.Cluster
