import Aurum.Node.Replies

/-!
# The frame a node replies with

`handle` serializes whatever the handlers have queued.  A queue without a
sub-response becomes an empty buffer, which no receiver accepts; a reply to a
discovery request can outgrow the 16 bits of its length; and all replies
together can outgrow the guard of `get_data`, which nothing catches.
-/

namespace Aurum.Node

open Aurum.Protocol
open Aurum.Wire.LittleEndian

/-- The sizes of the replies to a frame: of each sub-message that is answered,
in the state its handler finds. -/
def frameSizes (env : Environment) (frame : Bytes) (session : Ref) (state : State) : List Nat :=
  replySizes (state.memory session).type session (calls env frame session state)

/-- The sub-responses queued for an accepted frame, as buffers. -/
theorem exists_queue (env : Environment) {frame : Bytes} {session : Ref} {state : State}
    (created : session < state.allocated) (complete : Kernel.completes frame = true) :
    ∃ buffers : List Bytes,
      buffers.length ≤ 65535 ∧ buffers.map List.length = frameSizes env frame session state ∧
        (handle env frame session state).outcome =
          Outcome.ofBuffers (({ buffers := buffers } : BaseBuilder).getData
            (decide ((state.memory session).type = .tcp))) := by
  rcases exists_replies env (Kernel.dispatched frame) created with ⟨queued, next, replies⟩
  have buffersEq : (queued.foldl ResponseBuilder.call {}).buffers =
      (queued.map ResponseCall.message).map Submessage.bytes := by
    rw [ResponseBuilder.foldl_call_buffers]
    rfl
  refine ⟨(queued.map ResponseCall.message).map Submessage.bytes, ?_, ?_, ?_⟩
  · have counted := congrArg List.length replies.identified
    simp only [List.length_map] at counted ⊢
    rw [counted]
    exact (List.length_filter_le _ _).trans (Kernel.dispatched_count frame)
  · rw [frameSizes, calls, ← replies.sized, List.map_map, List.map_map]
    apply List.map_congr_left
    intro call _
    exact call.message_bytes_length
  · rw [replies.handle_outcome complete, ← buffersEq]
    rfl

section Handle

variable {env : Environment} {frame : Bytes} {session : Ref} {state : State}
  (created : session < state.allocated)

include created

/-- What an accepted frame comes to: an empty buffer, an exception, or a
serialized queue behind the length header. -/
theorem handle_outcome_cases (complete : Kernel.completes frame = true) :
    (frameSizes env frame session state = [] ∧
        (handle env frame session state).outcome = .replied []) ∨
      (maxFramePayloadSize < (frameSizes env frame session state).sum ∧
        ∃ what, (handle env frame session state).outcome = .thrown (.overflowError what)) ∨
      (frameSizes env frame session state).sum ≤ maxFramePayloadSize ∧
        ∃ (header : Bytes) (buffers : List Bytes), buffers ≠ [] ∧ buffers.length ≤ 65535 ∧
          header.length = (if (state.memory session).type = .tcp then 4 else 0) ∧
          buffers.map List.length = frameSizes env frame session state ∧
          (handle env frame session state).outcome =
            .replied (header ++ checksummed (frameBody buffers)) := by
  rcases exists_queue env created complete with ⟨buffers, count, sizesEq, outcomeEq⟩
  by_cases none : buffers = []
  · left
    rw [outcomeEq, ← sizesEq, none]
    exact ⟨rfl, rfl⟩
  right
  by_cases fits : (frameSizes env frame session state).sum ≤ maxFramePayloadSize
  · right
    have guards : ({ buffers := buffers } : BaseBuilder).Fits :=
      ⟨count, by rw [sizesEq]; exact fits⟩
    refine ⟨fits, _, buffers, none, count, ?_, sizesEq,
      by rw [outcomeEq, BaseBuilder.getData_of_fits none guards, Outcome.ofBuffers]⟩
    by_cases tcp : (state.memory session).type = .tcp
    · simp [tcp]
    · simp [tcp]
  · left
    have misfit : ¬({ buffers := buffers } : BaseBuilder).Fits := by
      rintro ⟨_, fit⟩
      rw [sizesEq] at fit
      exact fits fit
    obtain ⟨what, thrown⟩ := BaseBuilder.getData_of_not_fits none misfit
      (decide ((state.memory session).type = .tcp))
    refine ⟨Nat.lt_of_not_le fits, what, ?_⟩
    rw [outcomeEq, thrown]
    rfl

/-! ## Exceptions -/

/-- `handle` returns exactly when the replies to the frame respect the guard
on the payload of a frame; the guard on their number never fires. -/
theorem handle_returns_iff :
    (∀ failure, (handle env frame session state).outcome ≠ .thrown failure) ↔
      (Kernel.completes frame = true →
        (frameSizes env frame session state).sum ≤ maxFramePayloadSize) := by
  cases complete : Kernel.completes frame with
  | false =>
      have rejected := (handle_rejected_iff env frame session state).mpr complete
      rw [rejected]
      simp
  | true =>
      rcases handle_outcome_cases created complete with
        ⟨none, replied⟩ | ⟨large, what, thrown⟩ | ⟨fits, header, buffers, _, _, _, _, replied⟩
      · rw [none, replied]
        simp
      · rw [thrown]
        simp [large]
      · rw [replied]
        simp [fits]

end Handle

theorem handle_returns_iff_mixed :
    (∀ failure, (handle stillEnvironment (frameOf [untypedPing, emptyIdentify]) 0
        oneLink).outcome ≠ .thrown failure) ↔
      (Kernel.completes (frameOf [untypedPing, emptyIdentify]) = true →
        (frameSizes stillEnvironment (frameOf [untypedPing, emptyIdentify]) 0 oneLink).sum ≤
          maxFramePayloadSize) :=
  handle_returns_iff (by decide)

/-- A node with three accepted TCP sessions. -/
def threeLinks : State :=
  twoLinks.acceptTcp countingEnvironment

theorem threeLinks_reachable : (machine countingEnvironment).Reachable threeLinks :=
  have third : (machine countingEnvironment).step twoLinks .acceptTcp threeLinks :=
    ⟨trivial, rfl⟩
  .step twoLinks_reachable third

/-- An identify request of a node that names a host. -/
def hostIdentify (node : Uuid) (host : Bytes) : Submessage :=
  ⟨OpCode.identify.byte, .request, Uuid.nil, Handlers.identifyPayload node 0 7000 host⟩

theorem receive_hostIdentify (env : Environment) {ref : Ref} {state : State} (node : Uuid)
    {host : Bytes} (tcp : (state.memory ref).type = .tcp) (hosted : host ≠ [])
    (fits : host.length ≤ 65497) :
    ∃ sent, state.receive env ref (frameOf [hostIdentify node host]) =
      { state.retag ref node 7000 host [] with sent := sent } := by
  have size : (hostIdentify node host).bytes.length ≤ 65535 := by
    rw [Submessage.bytes_length, hostIdentify, Handlers.identifyPayload_length]
    omega
  have isFrame : IsFrame (frameOf [hostIdentify node host]) [hostIdentify node host] [] :=
    isFrame_frameOf (by simp) (by simpa using size)
  have step : Kernel.invoke (handlers env ref) (hostIdentify node host) {} state =
      .ok (({} : ResponseBuilder).addIdentify Uuid.nil state.nodeId,
        state.retag ref node 7000 host []) :=
    Handlers.identify_request_eq node 0 7000 hosted tcp
  rcases exists_receive_eq env ref (frameOf [hostIdentify node host]) state with ⟨sent, received⟩
  refine ⟨sent, ?_⟩
  rw [received, handle_state, (Kernel.dispatched_of_isFrame isFrame).1, Kernel.run, step]
  rfl

/-- The second and the third link have been identified with a host. -/
def crowded (host : Bytes) : State :=
  (threeLinks.receive countingEnvironment 1 (frameOf [hostIdentify (Uuid.filled 8) host])).receive
    countingEnvironment 2 (frameOf [hostIdentify (Uuid.filled 9) host])

section Crowded

variable {host : Bytes} (hosted : host ≠ []) (fits : host.length ≤ 65497)

include hosted fits

theorem firstIdentified_eq :
    ∃ sent, threeLinks.receive countingEnvironment 1
        (frameOf [hostIdentify (Uuid.filled 8) host]) =
      { threeLinks.retag 1 (Uuid.filled 8) 7000 host [] with sent := sent } :=
  receive_hostIdentify countingEnvironment (Uuid.filled 8) rfl hosted fits

theorem crowded_eq :
    ∃ sent, crowded host =
      { (threeLinks.retag 1 (Uuid.filled 8) 7000 host []).retag 2 (Uuid.filled 9) 7000 host [] with
        sent := sent } := by
  rcases firstIdentified_eq hosted fits with ⟨sent, first⟩
  have tcp : (({ threeLinks.retag 1 (Uuid.filled 8) 7000 host [] with sent := sent } :
      State).memory 2).type = .tcp := rfl
  obtain ⟨resent, second⟩ :=
    receive_hostIdentify countingEnvironment (Uuid.filled 9) tcp hosted fits
  refine ⟨resent, ?_⟩
  rw [crowded, first, second]
  rfl

theorem crowded_reachable : (machine countingEnvironment).Reachable (crowded host) := by
  have first : (machine countingEnvironment).step threeLinks
      (.frame 1 (frameOf [hostIdentify (Uuid.filled 8) host]))
      (threeLinks.receive countingEnvironment 1 (frameOf [hostIdentify (Uuid.filled 8) host])) :=
    ⟨show 1 < 3 by decide, rfl⟩
  have second : (machine countingEnvironment).step
      (threeLinks.receive countingEnvironment 1 (frameOf [hostIdentify (Uuid.filled 8) host]))
      (.frame 2 (frameOf [hostIdentify (Uuid.filled 9) host])) (crowded host) := by
    rcases firstIdentified_eq hosted fits with ⟨sent, eq⟩
    refine ⟨?_, rfl⟩
    rw [eq]
    exact (by decide : 2 < 3)
  exact .step (.step threeLinks_reachable first) second

theorem knownEndpoints_crowded :
    Handlers.knownEndpoints 0 (crowded host) = [⟨host, 7000⟩, ⟨host, 7000⟩] := by
  rcases crowded_eq hosted fits with ⟨sent, eq⟩
  rw [eq]
  rfl

theorem crowded_asker :
    0 < (crowded host).allocated ∧ ((crowded host).memory 0).type = .tcp ∧
      (crowded host).sessions.refs = [2, 1, 0] := by
  rcases crowded_eq hosted fits with ⟨sent, eq⟩
  rw [eq]
  exact ⟨(by decide : 0 < 3), rfl, rfl⟩

end Crowded

def discoveryRequest : Submessage :=
  ⟨OpCode.discovery.byte, .request, Uuid.nil, []⟩

/-- Discovery requests leave the node as it is. -/
theorem calls_discoveryRequest (env : Environment) (session : Ref) (state : State) (count : Nat)
    (builder : ResponseBuilder) :
    Kernel.calls (handlers env session) (List.replicate count discoveryRequest) builder state =
      List.replicate count ⟨discoveryRequest, state, state⟩ := by
  induction count generalizing builder with
  | zero => rfl
  | succ count ih =>
      have step : Kernel.invoke (handlers env session) discoveryRequest builder state =
          .ok (builder.addDiscovery Uuid.nil (Handlers.knownEndpoints session state), state) :=
        rfl
      rw [List.replicate_succ, Kernel.calls, step, List.replicate_succ]
      simp only
      rw [ih]

/-- As many discovery requests as fit into a frame. -/
def discoveryFlood : Bytes :=
  frameOf (List.replicate 65535 discoveryRequest)

theorem discoveryFlood_isFrame :
    IsFrame discoveryFlood (List.replicate 65535 discoveryRequest) [] := by
  apply isFrame_frameOf
  · rw [List.length_replicate]
  · intro message member
    rw [List.eq_of_mem_replicate member]
    decide

/-- The replies that a flood of discovery requests asks the crowded node for. -/
theorem frameSizes_discoveryFlood {host : Bytes} (longest : host.length = 65497) :
    frameSizes countingEnvironment discoveryFlood 0 (crowded host) =
      List.replicate 65535 131024 := by
  have hosted : host ≠ [] := List.ne_nil_of_length_pos (by omega)
  rcases crowded_asker hosted longest.le with ⟨_, tcp, _⟩
  have answered : Answered .tcp discoveryRequest := by decide
  have size : replySize 0 discoveryRequest (crowded host) = 131024 := by
    have opcode : discoveryRequest.opcode = OpCode.discovery.byte := rfl
    rw [replySize, if_pos opcode, knownEndpoints_crowded hosted longest.le, List.map_cons,
      List.map_singleton, longest]
    rfl
  rw [frameSizes, calls, (Kernel.dispatched_of_isFrame discoveryFlood_isFrame).1,
    calls_discoveryRequest, replySizes, tcp, List.filter_replicate,
    if_pos (by simpa using answered), List.map_replicate, size]

/-- A frame of discovery requests makes a node throw that knows two endpoints
with long hosts. -/
theorem discoveryFlood_throws :
    (machine countingEnvironment).Reachable (crowded (List.replicate 65497 97)) ∧
      0 ∈ (crowded (List.replicate 65497 97)).sessions.refs ∧
      ∃ failure, (handle countingEnvironment discoveryFlood 0
        (crowded (List.replicate 65497 97))).outcome = .thrown failure := by
  have longest : (List.replicate 65497 (97 : UInt8)).length = 65497 := List.length_replicate
  generalize List.replicate 65497 (97 : UInt8) = host at longest ⊢
  have hosted : host ≠ [] := List.ne_nil_of_length_pos (by omega)
  rcases crowded_asker hosted longest.le with ⟨created, _, registered⟩
  refine ⟨crowded_reachable hosted longest.le, by simp [registered], ?_⟩
  by_contra returns
  rw [not_exists] at returns
  have fits := (handle_returns_iff created).mp returns
    (Kernel.dispatched_of_isFrame discoveryFlood_isFrame).2
  rw [frameSizes_discoveryFlood longest, List.sum_replicate_nat] at fits
  exact absurd fits (by decide)

/-! ## Validity -/

/-- A buffer sent on a session of the given type carries a sub-message, and
the kernel of whoever receives it accepts it. -/
def ValidReply (type : SessionType) (buffer : Bytes) : Prop :=
  Kernel.dispatched (if type = .tcp then buffer.drop 4 else buffer) ≠ [] ∧
    ∀ (env : Environment) (session : Ref) (state : State),
      (handle env (if type = .tcp then buffer.drop 4 else buffer) session state).outcome ≠
        .rejected

theorem validReply_iff (type : SessionType) (buffer : Bytes) :
    ValidReply type buffer ↔
      Kernel.dispatched (if type = .tcp then buffer.drop 4 else buffer) ≠ [] ∧
        Kernel.completes (if type = .tcp then buffer.drop 4 else buffer) = true := by
  simp only [ValidReply, ne_eq, handle_rejected_iff, Bool.not_eq_false]
  constructor
  · rintro ⟨carries, accepted⟩
    exact ⟨carries, accepted (.plain (fun _ => Uuid.nil) fun _ => false) 0
      (State.initial Uuid.nil 0)⟩
  · rintro ⟨carries, accepted⟩
    exact ⟨carries, fun _ _ _ => accepted⟩

theorem not_validReply_nil (type : SessionType) : ¬ValidReply type [] := by
  rw [validReply_iff]
  rintro ⟨_, accepted⟩
  cases type with
  | tcp => cases accepted
  | websocket => cases accepted

/-- A serialized queue is valid exactly when no length modulo 2¹⁶ is too short
for a sub-message. -/
theorem validReply_checksummed_iff {type : SessionType} {header : Bytes} {buffers : List Bytes}
    (queued : buffers ≠ []) (count : buffers.length ≤ 65535)
    (width : header.length = if type = .tcp then 4 else 0) :
    ValidReply type (header ++ checksummed (frameBody buffers)) ↔
      ∀ size ∈ buffers.map List.length, 18 ≤ size % 65536 := by
  have body : (if type = .tcp then (header ++ checksummed (frameBody buffers)).drop 4
      else header ++ checksummed (frameBody buffers)) = checksummed (frameBody buffers) := by
    split
    · rename_i tcp
      rw [if_pos tcp] at width
      rw [← width, List.drop_left]
    · rename_i websocket
      rw [if_neg websocket] at width
      rw [List.eq_nil_of_length_eq_zero width, List.nil_append]
  rcases completes_checksummed_iff count with ⟨acceptedIff, counted⟩
  rw [validReply_iff, body, List.forall_mem_map, ← acceptedIff]
  constructor
  · exact And.right
  · intro accepted
    refine ⟨?_, accepted⟩
    intro nothing
    have none := counted accepted
    rw [nothing] at none
    exact queued (List.eq_nil_of_length_eq_zero none.symm)

/-- Whatever `handle` returns is valid exactly when an accepted frame that is
answered without an exception is answered at all, by replies whose lengths
modulo 2¹⁶ are those of sub-messages. -/
theorem replies_valid_iff {env : Environment} {frame : Bytes} {session : Ref} {state : State}
    (created : session < state.allocated) :
    (∀ buffer, (handle env frame session state).outcome = .replied buffer →
        ValidReply (state.memory session).type buffer) ↔
      (Kernel.completes frame = true →
        (frameSizes env frame session state).sum ≤ maxFramePayloadSize →
          frameSizes env frame session state ≠ [] ∧
            ∀ size ∈ frameSizes env frame session state, 18 ≤ size % 65536) := by
  cases complete : Kernel.completes frame with
  | false =>
      have rejected := (handle_rejected_iff env frame session state).mpr complete
      rw [rejected]
      simp
  | true =>
      rcases handle_outcome_cases created complete with
        ⟨none, replied⟩ | ⟨large, what, thrown⟩ |
          ⟨fits, header, buffers, queued, count, width, sizesEq, replied⟩
      · rw [none, replied]
        constructor
        · intro valid
          exact absurd (valid [] rfl) (not_validReply_nil _)
        · intro answered
          exact absurd rfl (answered rfl (Nat.zero_le _)).1
      · rw [thrown]
        constructor
        · intro _ _ fits
          exact absurd fits (Nat.not_le_of_lt large)
        · intro _ buffer impossible
          cases impossible
      · rw [replied]
        have validIff := validReply_checksummed_iff queued count width
        rw [sizesEq] at validIff
        constructor
        · intro valid _ _
          refine ⟨?_, validIff.mp (valid _ rfl)⟩
          rw [← sizesEq]
          simpa using queued
        · rintro answered buffer ⟨⟩
          exact validIff.mpr (answered rfl fits).2

theorem replies_valid_iff_mixed :
    (∀ buffer, (handle stillEnvironment (frameOf [untypedPing, emptyIdentify]) 0
          oneLink).outcome = .replied buffer →
        ValidReply (oneLink.memory 0).type buffer) ↔
      (Kernel.completes (frameOf [untypedPing, emptyIdentify]) = true →
        (frameSizes stillEnvironment (frameOf [untypedPing, emptyIdentify]) 0 oneLink).sum ≤
            maxFramePayloadSize →
          frameSizes stillEnvironment (frameOf [untypedPing, emptyIdentify]) 0 oneLink ≠ [] ∧
            ∀ size ∈ frameSizes stillEnvironment (frameOf [untypedPing, emptyIdentify]) 0 oneLink,
              18 ≤ size % 65536) :=
  replies_valid_iff (by decide)

/-- A response that is a frame of its own is replied to with an empty buffer,
on both kinds of session. -/
theorem empty_reply_invalid :
    (machine stillEnvironment).Reachable oneLink ∧ (oneLink.memory 0).type = .tcp ∧
      (handle stillEnvironment (frameOf [strayIdentify]) 0 oneLink).outcome = .replied [] ∧
      ¬ValidReply .tcp [] ∧
      (machine stillEnvironment).Reachable oneClient ∧ (oneClient.memory 0).type = .websocket ∧
      (handle stillEnvironment (frameOf [strayIdentify]) 0 oneClient).outcome = .replied [] ∧
      ¬ValidReply .websocket [] := by
  refine ⟨oneLink_reachable, rfl, ?_, not_validReply_nil _, oneClient_reachable, rfl, ?_,
    not_validReply_nil _⟩
  · decide +kernel
  · decide +kernel

end Aurum.Node
