import Aurum.Protocol.Grammar

/-!
# From builders to handlers and back

What `get_data` serializes is a frame of the grammar whenever every queued
sub-message fits into the 16 bits of its length.  Nothing in the builders
checks that: a longer one is announced by its length modulo 2¹⁶, and the
receiver no longer finds the queue.
-/

namespace Aurum.Protocol

open Aurum.Wire
open Aurum.Wire.LittleEndian

/-- The frame made of the given sub-messages and nothing else. -/
def frameOf (messages : List Submessage) : Bytes :=
  checksummed (frameBody (messages.map Submessage.bytes))

theorem frameBody_map_bytes (messages : List Submessage) :
    frameBody (messages.map Submessage.bytes) =
      le16 (UInt16.ofNat messages.length) ++
        (messages.flatMap (fun message => le16 (UInt16.ofNat message.bytes.length)) ++
          (messages.flatMap Submessage.bytes ++ [])) := by
  rw [frameBody, List.length_map, List.flatMap_map, flatMap_bytes, List.append_nil]

theorem isFrame_frameOf {messages : List Submessage} (count : messages.length ≤ 65535)
    (sizes : ∀ message ∈ messages, message.bytes.length ≤ 65535) :
    IsFrame (frameOf messages) messages [] :=
  ⟨count, sizes, by rw [frameOf, frameBody_map_bytes]⟩

/-- A frame without trailing bytes is the frame made of its sub-messages. -/
theorem eq_frameOf {frame : Bytes} {messages : List Submessage}
    (isFrame : IsFrame frame messages []) : frame = frameOf messages := by
  rw [isFrame.layout, frameOf, frameBody_map_bytes]

/-- Every sub-message that is dispatched was announced by a 16-bit length. -/
theorem Kernel.dispatched_sizes (frame : Bytes) :
    ∀ message ∈ dispatched frame, message.bytes.length ≤ 65535 := by
  cases complete : completes frame with
  | true =>
      obtain ⟨trailing, isFrame⟩ := isFrame_of_completes complete
      exact isFrame.sizes
  | false =>
      rcases stopsAfter_of_not_completes complete with ⟨_, noneDispatched⟩ | stops
      · simp [noneDispatched]
      · exact stops.sizes

theorem Kernel.dispatched_count (frame : Bytes) : (dispatched frame).length ≤ 65535 := by
  cases complete : completes frame with
  | true =>
      obtain ⟨trailing, isFrame⟩ := isFrame_of_completes complete
      exact isFrame.count
  | false =>
      rcases stopsAfter_of_not_completes complete with ⟨_, noneDispatched⟩ | stops
      · simp [noneDispatched]
      · obtain ⟨length, more, rest, counted, _⟩ := stops.layout
        rw [List.length_append, announced_length] at counted
        omega

/-! ## Buffers of any size -/

/-- The frame that `get_data` makes of some buffers, as a header and the bytes
behind it. -/
theorem checksummed_frameBody (buffers : List Bytes) :
    checksummed (frameBody buffers) =
      Kernel.tabled (buffers.map fun buffer => UInt16.ofNat buffer.length) buffers.flatten := by
  rw [Kernel.tabled_eq, Kernel.tabledBody, frameBody, checksummed, List.length_map,
    List.flatMap_map]

/-- The lengths of the table are those of the buffers modulo 2¹⁶. -/
theorem narrowed_toNat (buffers : List Bytes) :
    (buffers.map fun buffer => UInt16.ofNat buffer.length).map UInt16.toNat =
      buffers.map fun buffer => buffer.length % 65536 := by
  rw [List.map_map]
  rfl

theorem narrowed_sum_le (buffers : List Bytes) :
    (buffers.map fun buffer => buffer.length % 65536).sum ≤ buffers.flatten.length := by
  induction buffers with
  | nil => exact Nat.le_refl 0
  | cons buffer buffers ih =>
      rw [List.map_cons, List.sum_cons, List.flatten_cons, List.length_append]
      exact Nat.add_le_add (Nat.mod_le _ _) ih

/-- A receiver processes a serialized queue to its end exactly when no length
modulo 2¹⁶ is too short for a sub-message; it then counts as many sub-messages
as were queued. -/
theorem completes_checksummed_iff {buffers : List Bytes} (count : buffers.length ≤ 65535) :
    (Kernel.completes (checksummed (frameBody buffers)) = true ↔
        ∀ buffer ∈ buffers, 18 ≤ buffer.length % 65536) ∧
      (Kernel.completes (checksummed (frameBody buffers)) = true →
        (Kernel.dispatched (checksummed (frameBody buffers))).length = buffers.length) := by
  have countBound :
      (buffers.map fun buffer => UInt16.ofNat buffer.length).length < 65536 := by
    rw [List.length_map]
    exact Nat.lt_succ_of_le count
  obtain ⟨piecesEq, completesEq, _⟩ := Kernel.dispatched_tabled buffers.flatten countBound
  rw [← checksummed_frameBody, narrowed_toNat] at piecesEq completesEq
  rw [completesEq]
  constructor
  · rw [cut_isSome_iff (narrowed_sum_le buffers), List.forall_mem_map]
  · intro completed
    have counted := congrArg List.length piecesEq
    rw [cut_length_of_isSome completed, List.length_map, List.length_map] at counted
    exact counted

/-! ## Queues -/

/-- Whatever `get_data` returns for the queue is processed to its end, and the
sub-messages handed to the handlers are the queued buffers in order. -/
def BaseBuilder.Recovered (builder : BaseBuilder) : Prop :=
  ∀ frame, builder.getData false = .ok frame →
    Kernel.completes frame = true ∧
      (Kernel.dispatched frame).map Submessage.bytes = builder.buffers

/-- The guards of `get_data` leave the frame of the queue. -/
theorem getData_false_of_fits {builder : BaseBuilder} {messages : List Submessage}
    (queue : builder.buffers = messages.map Submessage.bytes) (queued : messages ≠ [])
    (fits : builder.Fits) : builder.getData false = .ok (frameOf messages) := by
  have nonempty : builder.buffers ≠ [] := by simpa [queue] using queued
  rw [BaseBuilder.getData_of_fits nonempty fits, queue]
  rfl

/-- A queue survives exactly when a guard stops it or no length is cut. -/
theorem recovered_iff {builder : BaseBuilder} {messages : List Submessage}
    (queue : builder.buffers = messages.map Submessage.bytes) (queued : messages ≠ []) :
    builder.Recovered ↔
      ¬builder.Fits ∨ ∀ message ∈ messages, message.bytes.length ≤ 65535 := by
  by_cases fits : builder.Fits
  · have serialized := getData_false_of_fits queue queued fits
    have count : messages.length ≤ 65535 := by simpa [queue, maxRequestsPerFrame] using fits.1
    constructor
    · intro recovered
      obtain ⟨_, dispatchedEq⟩ := recovered _ serialized
      rw [queue] at dispatchedEq
      have messagesEq := List.map_injective_iff.mpr Submessage.bytes_injective dispatchedEq
      rw [← messagesEq]
      exact Or.inr (Kernel.dispatched_sizes _)
    · rintro (misfit | sizes) frame returned
      · exact absurd fits misfit
      · rw [serialized] at returned
        cases returned
        obtain ⟨dispatchedEq, complete⟩ :=
          Kernel.dispatched_of_isFrame (isFrame_frameOf count sizes)
        exact ⟨complete, by rw [dispatchedEq, queue]⟩
  · have nonempty : builder.buffers ≠ [] := by simpa [queue] using queued
    obtain ⟨what, thrown⟩ := BaseBuilder.getData_of_not_fits nonempty fits false
    simp [BaseBuilder.Recovered, thrown, fits]

/-! ## Builder calls -/

/-- The size of the sub-message that a request call queues. -/
def RequestCall.size : RequestCall → Nat
  | .identify _ _ _ port host => if port ≠ 0 ∨ host ≠ [] then 38 + host.length else 36
  | .join _ _ | .leave _ _ => 34
  | .ping _ | .discovery _ | .whoami _ => 18

/-- The size of the sub-message that a response call queues. -/
def ResponseCall.size : ResponseCall → Nat
  | .ping _ _ | .nonImplemented _ _ => 19
  | .identify _ _ => 34
  | .discovery _ nodes => 22 + (nodes.map fun node => 4 + node.host.length).sum
  | .join _ _ | .leave _ _ => 26
  | .whoami _ _ _ _ => 51

theorem payload_length (nodes : List Endpoint) :
    (nodes.flatMap Endpoint.record ++ nodes.flatMap Endpoint.host).length =
      (nodes.map fun node => 4 + node.host.length).sum := by
  induction nodes with
  | nil => rfl
  | cons node nodes ih =>
      rw [List.length_append] at ih
      simp only [List.flatMap_cons, List.length_append, Endpoint.record_length, List.map_cons,
        List.sum_cons]
      omega

theorem RequestBuilder.call_sizes (builder : RequestBuilder) (call : RequestCall) :
    (builder.call call).buffers.map List.length =
      builder.buffers.map List.length ++ [call.size] := by
  cases call with
  | identify nodeId connectionsPerNode id port host =>
      by_cases given : port ≠ 0 ∨ host ≠ []
      · simp [RequestBuilder.call, addIdentify, RequestCall.size, given]
        omega
      · simp [RequestBuilder.call, addIdentify, RequestCall.size, given]
  | _ => simp [RequestBuilder.call, addPing, addDiscovery, addJoin, addLeave, addWhoami,
      RequestCall.size]

theorem ResponseBuilder.call_sizes (builder : ResponseBuilder) (call : ResponseCall) :
    (builder.call call).buffers.map List.length =
      builder.buffers.map List.length ++ [call.size] := by
  cases call with
  | discovery id nodes =>
      rw [ResponseBuilder.call, addDiscovery, BaseBuilder.push_buffers, List.map_append,
        List.map_singleton, List.length_append, List.length_append, payload_length,
        heading_length, le32_length, ResponseCall.size]
      congr 2
      omega
  | _ => simp [ResponseBuilder.call, addPing, addIdentify, addNonImplemented, addJoin, addLeave,
      addWhoami, ResponseCall.size]

/-! ## Sequences of calls -/

section Calls

variable {β κ : Type} (base : β → BaseBuilder) (call : β → κ → β) (size : κ → Nat)

/-- A sequence of calls queues one sub-message of the stated size for each. -/
theorem foldl_queue
    (one : ∀ builder item, ∃ message : Submessage, message.bytes.length = size item ∧
      (base (call builder item)).buffers = (base builder).buffers ++ [message.bytes])
    (items : List κ) (builder : β) :
    ∃ messages : List Submessage,
      messages.map (fun message => message.bytes.length) = items.map size ∧
        (base (items.foldl call builder)).buffers =
          (base builder).buffers ++ messages.map Submessage.bytes := by
  induction items generalizing builder with
  | nil => exact ⟨[], rfl, by simp⟩
  | cons item items ih =>
      obtain ⟨message, sizeEq, queued⟩ := one builder item
      obtain ⟨messages, sizesEq, restQueued⟩ := ih (call builder item)
      refine ⟨message :: messages, by rw [List.map_cons, sizeEq, sizesEq, List.map_cons], ?_⟩
      rw [List.foldl_cons, restQueued, queued, List.append_assoc, List.map_cons,
        List.singleton_append]

/-- The queue of a sequence of calls survives exactly when a guard of
`get_data` stops it or every call queues at most 65535 bytes. -/
theorem recovered_foldl_iff
    (one : ∀ builder item, ∃ message : Submessage, message.bytes.length = size item ∧
      (base (call builder item)).buffers = (base builder).buffers ++ [message.bytes])
    (start : β) (empty : (base start).buffers = []) {items : List κ} (called : items ≠ []) :
    (base (items.foldl call start)).Recovered ↔
      maxRequestsPerFrame < items.length ∨ maxFramePayloadSize < (items.map size).sum ∨
        ∀ item ∈ items, size item ≤ 65535 := by
  obtain ⟨messages, sizesEq, queue⟩ := foldl_queue base call size one items start
  rw [empty, List.nil_append] at queue
  have counted : messages.length = items.length := by
    simpa using congrArg List.length sizesEq
  have queued : messages ≠ [] := by
    rintro rfl
    exact called (List.length_eq_zero_iff.mp counted.symm)
  have buffersLength : (base (items.foldl call start)).buffers.length = items.length := by
    rw [queue, List.length_map, counted]
  have buffersSizes : (base (items.foldl call start)).buffers.map List.length =
      items.map size := by
    rw [queue, List.map_map, ← sizesEq]
    rfl
  have misfit : ¬(base (items.foldl call start)).Fits ↔
      maxRequestsPerFrame < items.length ∨ maxFramePayloadSize < (items.map size).sum := by
    rw [BaseBuilder.Fits, buffersLength, buffersSizes]
    omega
  have bounded : (∀ message ∈ messages, message.bytes.length ≤ 65535) ↔
      ∀ item ∈ items, size item ≤ 65535 := by
    rw [← List.forall_mem_map (f := fun message : Submessage => message.bytes.length)
      (P := fun length => length ≤ 65535), sizesEq, List.forall_mem_map]
  rw [recovered_iff queue queued, misfit, bounded, or_assoc]

end Calls

theorem RequestBuilder.call_queues (builder : RequestBuilder) (call : RequestCall) :
    ∃ message : Submessage, message.bytes.length = call.size ∧
      (builder.call call).buffers = builder.buffers ++ [message.bytes] := by
  obtain ⟨message, _, queued⟩ := builder.call_buffers call
  have sizes := builder.call_sizes call
  rw [queued, List.map_append] at sizes
  exact ⟨message, by simpa using sizes, queued⟩

theorem ResponseBuilder.call_queues (builder : ResponseBuilder) (call : ResponseCall) :
    ∃ message : Submessage, message.bytes.length = call.size ∧
      (builder.call call).buffers = builder.buffers ++ [message.bytes] := by
  obtain ⟨message, _, queued⟩ := builder.call_buffers call
  have sizes := builder.call_sizes call
  rw [queued, List.map_append] at sizes
  exact ⟨message, by simpa using sizes, queued⟩

/-- The handlers receive what was queued, for exactly the sequences of calls
that a guard of `get_data` stops or whose sub-messages all fit into the 16-bit
lengths of the table. -/
theorem calls_recovered_iff (requests : List RequestCall) (responses : List ResponseCall) :
    (requests ≠ [] →
      ((requests.foldl RequestBuilder.call {}).toBaseBuilder.Recovered ↔
        maxRequestsPerFrame < requests.length ∨
          maxFramePayloadSize < (requests.map RequestCall.size).sum ∨
            ∀ call ∈ requests, call.size ≤ 65535)) ∧
      (responses ≠ [] →
        ((responses.foldl ResponseBuilder.call {}).toBaseBuilder.Recovered ↔
          maxRequestsPerFrame < responses.length ∨
            maxFramePayloadSize < (responses.map ResponseCall.size).sum ∨
              ∀ call ∈ responses, call.size ≤ 65535)) := by
  constructor
  · exact recovered_foldl_iff RequestBuilder.toBaseBuilder RequestBuilder.call RequestCall.size
      RequestBuilder.call_queues {} rfl
  · exact recovered_foldl_iff ResponseBuilder.toBaseBuilder ResponseBuilder.call
      ResponseCall.size ResponseBuilder.call_queues {} rfl

/-- An identify request with a host of 65498 bytes is 65536 bytes long, and
its length is announced as zero. -/
theorem long_identify_not_recovered :
    ¬((({} : RequestBuilder).addIdentify Uuid.nil 1 Uuid.nil 7000
      (List.replicate 65498 (97 : UInt8))).toBaseBuilder.Recovered) := by
  have size : (RequestCall.identify Uuid.nil 1 Uuid.nil 7000
      (List.replicate 65498 (97 : UInt8))).size = 65536 := by
    rw [RequestCall.size, if_pos (Or.inl (by decide)), List.length_replicate]
  generalize List.replicate 65498 (97 : UInt8) = host at size ⊢
  have called : [RequestCall.identify Uuid.nil 1 Uuid.nil 7000 host] ≠ [] :=
    List.cons_ne_nil _ _
  have characterized := recovered_foldl_iff RequestBuilder.toBaseBuilder RequestBuilder.call
    RequestCall.size RequestBuilder.call_queues {} rfl called
  intro recovered
  rcases characterized.mp recovered with tooMany | tooLarge | fits
  · simp [maxRequestsPerFrame] at tooMany
  · simp [maxFramePayloadSize, size] at tooLarge
  · simp [size] at fits

end Aurum.Protocol
