import Aurum.Node.Runs
import Aurum.Protocol.RoundTrip

/-!
# Accepted and rejected frames

A node processes exactly the frames of the grammar to their end.  The handlers
run while the frame is parsed, so a rejected frame acts like the frame made of
the sub-messages in front of the one it was rejected for.
-/

namespace Aurum.Node

open Aurum.Protocol
open Aurum.Container
open Aurum.Wire

/-! ## The grammar -/

/-- What a builder with the sub-messages of a frame in its queue serializes. -/
theorem getData_of_isFrame {frame : Bytes} {messages : List Submessage}
    (isFrame : IsFrame frame messages []) (queued : messages ≠ []) {builder : BaseBuilder}
    (queue : builder.buffers = messages.map Submessage.bytes)
    (small : (messages.map fun message => message.bytes.length).sum ≤ maxFramePayloadSize) :
    builder.getData false = .ok frame := by
  have fits : builder.Fits := by
    constructor
    · rw [queue, List.length_map]
      exact isFrame.count
    · rw [queue, List.map_map]
      exact small
  rw [getData_false_of_fits queue queued fits, eq_frameOf isFrame]

/-- Above the size guard the same queue is refused. -/
theorem getData_of_large {messages : List Submessage} (queued : messages ≠ [])
    {builder : BaseBuilder} (queue : builder.buffers = messages.map Submessage.bytes)
    (large : maxFramePayloadSize < (messages.map fun message => message.bytes.length).sum) :
    ∃ what, builder.getData false = .error (.overflowError what) := by
  have nonempty : builder.buffers ≠ [] := by simpa [queue] using queued
  refine BaseBuilder.getData_of_not_fits nonempty ?_ false
  rintro ⟨_, small⟩
  rw [queue, List.map_map] at small
  exact absurd large (Nat.not_lt.mpr small)

/-- A node processes exactly the frames of the grammar to their end, each has
one decomposition, the handlers are called once for each of its sub-messages in
order, and without trailing bytes the frame is what `get_data` serializes the
sub-messages to, unless they are too large for its guard. -/
theorem handle_accepts_grammar (frame : Bytes) :
    (∀ (env : Environment) (session : Ref) (state : State),
      (handle env frame session state).outcome ≠ .rejected ↔
        ∃ messages trailing, IsFrame frame messages trailing) ∧
    (∀ messages others trailing rest, IsFrame frame messages trailing →
      IsFrame frame others rest → messages = others ∧ trailing = rest) ∧
    (∀ messages trailing, IsFrame frame messages trailing →
      ∀ {σ : Type} (table : HandlerTable σ) (withHeader : Bool) (state : σ),
        Kernel.handle table withHeader frame state =
          Kernel.finish withHeader (Kernel.conclude true
            (Kernel.run table messages {} state))) ∧
    ∀ messages, IsFrame frame messages [] → messages ≠ [] →
      ∀ builder : BaseBuilder, builder.buffers = messages.map Submessage.bytes →
        if (messages.map fun message => message.bytes.length).sum ≤ maxFramePayloadSize then
          builder.getData false = .ok frame
        else
          ∃ what, builder.getData false = .error (.overflowError what) := by
  refine ⟨?_, ?_, ?_, ?_⟩
  · intro env session state
    rw [ne_eq, handle_rejected_iff, Bool.not_eq_false, Kernel.completes_iff]
  · intro messages others trailing rest first second
    exact Kernel.isFrame_unique first second
  · intro messages trailing isFrame σ table withHeader state
    obtain ⟨dispatchedEq, complete⟩ := Kernel.dispatched_of_isFrame isFrame
    rw [Kernel.handle_eq, dispatchedEq, complete]
  · intro messages isFrame queued builder queue
    split
    · rename_i small
      exact getData_of_isFrame isFrame queued queue small
    · rename_i large
      exact getData_of_large queued queue (Nat.not_le.mp large)

/-- A sub-message with a payload of the given size. -/
def padded (size : Nat) : Submessage :=
  ⟨OpCode.ping.byte, .response, Uuid.nil, List.replicate size 0⟩

/-- As many sub-messages as a frame can hold, the last one four bytes short of
the longest: together 2³² - 1 bytes with count, lengths and checksum. -/
def fullQueue : List Submessage :=
  List.replicate 65534 (padded 65517) ++ [padded 65513]

theorem padded_bytes_length (size : Nat) : (padded size).bytes.length = 18 + size := by
  rw [Submessage.bytes_length, padded, List.length_replicate]

theorem fullQueue_length : fullQueue.length = 65535 := by
  rw [fullQueue, List.length_append, List.length_replicate, List.length_singleton]

theorem fullQueue_sum :
    (fullQueue.map fun message => message.bytes.length).sum = 4294836221 := by
  simp only [fullQueue, List.map_append, List.map_replicate, List.map_singleton,
    List.sum_append, List.sum_replicate_nat, List.sum_singleton, padded_bytes_length]

theorem fullQueue_sizes : ∀ message ∈ fullQueue, message.bytes.length ≤ 65535 := by
  intro message member
  rw [fullQueue, List.mem_append, List.mem_replicate, List.mem_singleton] at member
  rcases member with ⟨_, rfl⟩ | rfl
  · rw [padded_bytes_length]
  · rw [padded_bytes_length]
    decide

theorem fullQueue_ne_nil : fullQueue ≠ [] := by
  intro empty
  have counted := fullQueue_length
  rw [empty] at counted
  cases counted

/-- The frame of the full queue is one of the grammar, but no builder with that
queue serializes it. -/
theorem fullQueue_refused :
    IsFrame (frameOf fullQueue) fullQueue [] ∧ fullQueue ≠ [] ∧
      ∀ builder : BaseBuilder, builder.buffers = fullQueue.map Submessage.bytes →
        builder.getData false ≠ .ok (frameOf fullQueue) := by
  refine ⟨isFrame_frameOf fullQueue_length.le fullQueue_sizes, fullQueue_ne_nil, ?_⟩
  intro builder queue
  have large : maxFramePayloadSize <
      (fullQueue.map fun message => message.bytes.length).sum := by
    rw [fullQueue_sum]
    decide
  obtain ⟨what, refused⟩ := getData_of_large fullQueue_ne_nil queue large
  rw [refused]
  exact fun equal => by cases equal

/-! ## Rejection -/

/-- What a rejected frame does to a node: nothing when its header is out of
order, and otherwise what the accepted frame of the sub-messages in front of
the malformed one does. -/
theorem rejected_state {env : Environment} {frame : Bytes} {session : Ref} {state : State}
    (rejected : (handle env frame session state).outcome = .rejected) :
    ((¬∃ lengths rest, lengths.length < 65536 ∧ frame = Kernel.tabled lengths rest) ∧
        (handle env frame session state).state = state) ∨
      ∃ messages, Kernel.StopsAfter frame messages ∧ IsFrame (frameOf messages) messages [] ∧
        (handle env frame session state).state =
          (handle env (frameOf messages) session state).state ∧
        (messages = [] → (handle env frame session state).state = state) := by
  have incomplete := (handle_rejected_iff env frame session state).mp rejected
  rcases Kernel.stopsAfter_of_not_completes incomplete with ⟨malformed, none⟩ | stops
  · left
    refine ⟨malformed, ?_⟩
    rw [handle_state, none]
    rfl
  · right
    have isFrame := isFrame_frameOf (Kernel.dispatched_count frame) stops.sizes
    refine ⟨Kernel.dispatched frame, stops, isFrame, ?_, ?_⟩
    · rw [handle_state, handle_state, (Kernel.dispatched_of_isFrame isFrame).1]
    · intro noneDispatched
      rw [handle_state, noneDispatched]
      rfl

/-- An identify response of node `7…7`. -/
def strayIdentify : Submessage :=
  ⟨OpCode.identify.byte, .response, Uuid.nil, (Uuid.filled 7).data⟩

/-- The identify response followed by a sub-message announced as empty. -/
def brokenFrame : Bytes :=
  Kernel.tabled (Kernel.announced [strayIdentify] ++ [0])
    ([strayIdentify].flatMap Submessage.bytes ++ [])

theorem brokenFrame_stops : Kernel.StopsAfter brokenFrame [strayIdentify] where
  sizes := by decide
  layout := ⟨0, [], [], by decide, Or.inl (by decide), rfl⟩

/-- It acts like the accepted frame of the identify response alone. -/
theorem rejected_state_brokenFrame :
    (((¬∃ lengths rest, lengths.length < 65536 ∧ brokenFrame = Kernel.tabled lengths rest) ∧
        (handle stillEnvironment brokenFrame 0 oneLink).state = oneLink) ∨
      ∃ messages, Kernel.StopsAfter brokenFrame messages ∧
        IsFrame (frameOf messages) messages [] ∧
        (handle stillEnvironment brokenFrame 0 oneLink).state =
          (handle stillEnvironment (frameOf messages) 0 oneLink).state ∧
        (messages = [] → (handle stillEnvironment brokenFrame 0 oneLink).state = oneLink)) ∧
      ((handle stillEnvironment brokenFrame 0 oneLink).state.memory 0).nodeId =
        Uuid.filled 7 := by
  obtain ⟨dispatchedEq, incomplete⟩ := Kernel.dispatched_of_stopsAfter brokenFrame_stops
  refine ⟨rejected_state ((handle_rejected_iff _ _ _ _).mpr incomplete), ?_⟩
  rw [handle_state, dispatchedEq]
  decide

/-- A rejected frame that identifies its session all the same. -/
theorem brokenFrame_identifies :
    (machine stillEnvironment).Reachable oneLink ∧
      (handle stillEnvironment brokenFrame 0 oneLink).outcome =
        .rejected ∧
      oneLink.sessions.refs = [0] ∧ (oneLink.memory 0).nodeId = Uuid.nil ∧
      ((handle stillEnvironment brokenFrame 0
        oneLink).state.memory 0).nodeId = Uuid.filled 7 := by
  obtain ⟨dispatchedEq, incomplete⟩ := Kernel.dispatched_of_stopsAfter brokenFrame_stops
  refine ⟨oneLink_reachable, (handle_rejected_iff _ _ _ _).mpr incomplete, rfl, rfl, ?_⟩
  rw [handle_state, dispatchedEq]
  decide

end Aurum.Node
