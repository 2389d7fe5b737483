import Aurum.Protocol.RoundTrip
import Aurum.Transition.Locked

/-!
# The size counter of the builders

Every `add_*` builds its buffer first and then, holding the lock, queues the
buffer and adds a size to the counter that it has computed apart; `flush`
clears both.  Here these are single steps, and any number of threads call the
builder.  Whenever the lock is free, the counter is the size of the queue.
-/

namespace Aurum.Protocol

open Aurum.Transition

/-- A call that changes a builder. -/
inductive Operation (κ : Type)
  | add (call : κ)
  | flush

namespace BaseBuilder

/-- The counter is the number of bytes queued. -/
def Exact (builder : BaseBuilder) : Prop :=
  builder.totalPayloadSize = (builder.buffers.map List.length).sum

instance (builder : BaseBuilder) : Decidable builder.Exact :=
  inferInstanceAs (Decidable (_ = _))

/-- `buffers_.push_back`. -/
def pushBack (buffer : Bytes) (builder : BaseBuilder) : BaseBuilder :=
  { builder with buffers := builder.buffers ++ [buffer] }

/-- `total_payload_size_.fetch_add`. -/
def fetchAdd (size : Nat) (builder : BaseBuilder) : BaseBuilder :=
  { builder with totalPayloadSize := builder.totalPayloadSize + size }

/-- `buffers_.clear`. -/
def clear (builder : BaseBuilder) : BaseBuilder :=
  { builder with buffers := [] }

/-- `total_payload_size_.store` of zero. -/
def storeZero (builder : BaseBuilder) : BaseBuilder :=
  { builder with totalPayloadSize := 0 }

/-- What an operation does with the lock held: the buffer and the size of a
call have been computed before. -/
def actions {κ : Type} (buffer : κ → Bytes) (expectedSize : κ → Nat) :
    Operation κ → List (BaseBuilder → BaseBuilder)
  | .add call => [pushBack (buffer call), fetchAdd (expectedSize call)]
  | .flush => [clear, storeZero]

section Counting

variable {κ : Type} {buffer : κ → Bytes} {expectedSize : κ → Nat}

theorem carryOut_add (call : κ) (builder : BaseBuilder) :
    Locked.carryOut (actions buffer expectedSize (.add call)) builder =
      builder.push (buffer call) (expectedSize call) :=
  rfl

theorem carryOut_flush (builder : BaseBuilder) :
    Locked.carryOut (actions buffer expectedSize .flush) builder = builder.flush :=
  rfl

theorem Exact.push {builder : BaseBuilder} (counts : builder.Exact) (buffer : Bytes) :
    (builder.push buffer buffer.length).Exact := by
  rw [Exact, BaseBuilder.push, List.map_append, List.sum_append, List.map_singleton,
    List.sum_singleton, ← counts]

variable {β : Type} (base : β → BaseBuilder) (perform : β → Operation κ → β)

/-- A builder that performs its operations one after another. -/
theorem foldl_perform
    (one : ∀ builder operation, base (perform builder operation) =
      Locked.carryOut (actions buffer expectedSize operation) (base builder))
    (operations : List (Operation κ)) (builder : β) :
    base (operations.foldl perform builder) =
      Locked.sequential (actions buffer expectedSize) operations (base builder) := by
  induction operations generalizing builder with
  | nil => rfl
  | cons operation operations ih =>
      rw [List.foldl_cons, ih, one]
      rfl

/-- When every call counts what it queues, the counter is exact whenever the
lock is free, and the builder has performed the operations in the order in
which they took the lock. -/
theorem exact_of_free {ι : Type} [DecidableEq ι]
    (counted : ∀ call, expectedSize call = (buffer call).length)
    (one : ∀ builder operation, base (perform builder operation) =
      Locked.carryOut (actions buffer expectedSize operation) (base builder))
    {start : β} (empty : base start = {})
    {configuration : Locked.Configuration ι (Operation κ) BaseBuilder}
    (reachable : (Locked.machine ι (actions buffer expectedSize) {}).Reachable configuration)
    (free : configuration.holder = none) :
    configuration.object.Exact ∧
      configuration.object = base (configuration.admitted.foldl perform start) := by
  have performed := Locked.sequential_of_free reachable free
  constructor
  · rw [performed]
    apply Locked.sequential_invariant
    · intro operation builder counts
      cases operation with
      | add call =>
          rw [carryOut_add, counted call]
          exact counts.push (buffer call)
      | flush =>
          rw [carryOut_flush]
          exact rfl
    · exact rfl
  · rw [performed, foldl_perform base perform one, empty]

end Counting

end BaseBuilder

/-! ## The calls of the two builders -/

/-- The buffer that a request call queues. -/
def RequestCall.buffer (call : RequestCall) : Bytes :=
  (({} : RequestBuilder).call call).buffers.flatten

/-- What a request call adds to the counter. -/
def RequestCall.expectedSize (call : RequestCall) : Nat :=
  (({} : RequestBuilder).call call).totalPayloadSize

/-- The buffer that a response call queues. -/
def ResponseCall.buffer (call : ResponseCall) : Bytes :=
  (({} : ResponseBuilder).call call).buffers.flatten

/-- What a response call adds to the counter. -/
def ResponseCall.expectedSize (call : ResponseCall) : Nat :=
  (({} : ResponseBuilder).call call).totalPayloadSize

def RequestBuilder.perform (builder : RequestBuilder) : Operation RequestCall → RequestBuilder
  | .add call => builder.call call
  | .flush => ⟨builder.flush⟩

def ResponseBuilder.perform (builder : ResponseBuilder) :
    Operation ResponseCall → ResponseBuilder
  | .add call => builder.call call
  | .flush => ⟨builder.flush⟩

/-- A request call queues its buffer and counts its size, whatever is queued
already. -/
theorem RequestBuilder.call_eq_push (builder : RequestBuilder) (call : RequestCall) :
    (builder.call call).toBaseBuilder = builder.push call.buffer call.expectedSize := by
  cases call <;>
    simp [RequestBuilder.call, RequestCall.buffer, RequestCall.expectedSize, addPing, addIdentify,
      addDiscovery, addJoin, addLeave, addWhoami, BaseBuilder.push]

theorem ResponseBuilder.call_eq_push (builder : ResponseBuilder) (call : ResponseCall) :
    (builder.call call).toBaseBuilder = builder.push call.buffer call.expectedSize := by
  cases call <;>
    simp [ResponseBuilder.call, ResponseCall.buffer, ResponseCall.expectedSize, addPing,
      addIdentify, addNonImplemented, addDiscovery, addJoin, addLeave, addWhoami,
      BaseBuilder.push]

theorem RequestBuilder.perform_eq (builder : RequestBuilder)
    (operation : Operation RequestCall) :
    (builder.perform operation).toBaseBuilder =
      Locked.carryOut (BaseBuilder.actions RequestCall.buffer RequestCall.expectedSize operation)
        builder.toBaseBuilder := by
  cases operation with
  | add call => exact builder.call_eq_push call
  | flush => rfl

theorem ResponseBuilder.perform_eq (builder : ResponseBuilder)
    (operation : Operation ResponseCall) :
    (builder.perform operation).toBaseBuilder =
      Locked.carryOut (BaseBuilder.actions ResponseCall.buffer ResponseCall.expectedSize operation)
        builder.toBaseBuilder := by
  cases operation with
  | add call => exact builder.call_eq_push call
  | flush => rfl

theorem RequestCall.buffer_length (call : RequestCall) : call.buffer.length = call.size := by
  have sizes := RequestBuilder.call_sizes {} call
  rw [buffer, List.length_flatten, sizes]
  simp

theorem ResponseCall.buffer_length (call : ResponseCall) : call.buffer.length = call.size := by
  have sizes := ResponseBuilder.call_sizes {} call
  rw [buffer, List.length_flatten, sizes]
  simp

/-- The sizes that `add_discovery` adds up in its loop. -/
theorem foldl_size (nodes : List Endpoint) (start : Nat) :
    nodes.foldl (fun size node => size + (2 + 2 + node.host.length)) start =
      start + (nodes.map fun node => 4 + node.host.length).sum := by
  induction nodes generalizing start with
  | nil => rfl
  | cons node nodes ih =>
      rw [List.foldl_cons, ih, List.map_cons, List.sum_cons, Nat.add_assoc]

theorem RequestCall.expectedSize_eq (call : RequestCall) : call.expectedSize = call.size := by
  cases call with
  | identify nodeId connectionsPerNode id port host =>
      by_cases given : port ≠ 0 ∨ host ≠ []
      · simp only [expectedSize, size, RequestBuilder.call, RequestBuilder.addIdentify,
          BaseBuilder.push, if_pos given]
        omega
      · simp only [expectedSize, size, RequestBuilder.call, RequestBuilder.addIdentify,
          BaseBuilder.push, if_neg given]
  | _ => rfl

theorem ResponseCall.expectedSize_eq (call : ResponseCall) : call.expectedSize = call.size := by
  cases call with
  | discovery id nodes =>
      simp only [expectedSize, size, ResponseBuilder.call, ResponseBuilder.addDiscovery,
        BaseBuilder.push, foldl_size]
      omega
  | _ => rfl

/-- With any threads calling it in any interleaving, a builder counts exactly
what it has queued whenever its lock is free: every call adds the number of
bytes it queues, and the builder is what the calls make of it in the order in
which they took the lock. -/
theorem accounting_exact (ι : Type) [DecidableEq ι] :
    (∀ call : RequestCall, call.expectedSize = call.buffer.length) ∧
      (∀ call : ResponseCall, call.expectedSize = call.buffer.length) ∧
      (∀ configuration, (Locked.machine ι
            (BaseBuilder.actions RequestCall.buffer RequestCall.expectedSize) {}).Reachable
              configuration →
          configuration.holder = none →
        configuration.object.Exact ∧ configuration.object =
          (configuration.admitted.foldl RequestBuilder.perform {}).toBaseBuilder) ∧
      ∀ configuration, (Locked.machine ι
            (BaseBuilder.actions ResponseCall.buffer ResponseCall.expectedSize) {}).Reachable
              configuration →
          configuration.holder = none →
        configuration.object.Exact ∧ configuration.object =
          (configuration.admitted.foldl ResponseBuilder.perform {}).toBaseBuilder := by
  have requests : ∀ call : RequestCall, call.expectedSize = call.buffer.length := fun call =>
    call.expectedSize_eq.trans call.buffer_length.symm
  have responses : ∀ call : ResponseCall, call.expectedSize = call.buffer.length := fun call =>
    call.expectedSize_eq.trans call.buffer_length.symm
  refine ⟨requests, responses, ?_, ?_⟩
  · intro configuration reachable free
    exact BaseBuilder.exact_of_free RequestBuilder.toBaseBuilder RequestBuilder.perform requests
      RequestBuilder.perform_eq rfl reachable free
  · intro configuration reachable free
    exact BaseBuilder.exact_of_free ResponseBuilder.toBaseBuilder ResponseBuilder.perform
      responses ResponseBuilder.perform_eq rfl reachable free

end Aurum.Protocol
