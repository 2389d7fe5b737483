import Aurum.Node.Writing
import Aurum.Protocol.Stream
import Aurum.Transition.Fifo
import Aurum.Transition.Termination

/-!
# One direction of a link

The write queue of a TCP session, the stream behind it and the read loop of the
session at the other end.  The stream takes the bytes of the outstanding write
a few at a time, carries them, and gives them out a few at a time; a write
completes without an error once all of its bytes have been taken.  Writes and
reads may fail at any moment.

However these steps interleave, the link is a channel of messages: what the
read loop hands to the kernel are the bodies of the messages sent, in the order
in which `on_send` ran on them.
-/

namespace Aurum.Node

open Aurum.Protocol
open Aurum.Transition
open Aurum.Wire.LittleEndian
open Aurum.Node.Writing (Writer)

/-! ## Framed messages -/

/-- Nothing, or a body behind the four bytes of its length. -/
def Framed (message : Bytes) : Prop :=
  message = [] ∨ ∃ body, Headed message body

/-- The bodies of the messages that are not empty. -/
def bodies (messages : List Bytes) : List Bytes :=
  (messages.filter fun message => message ≠ []).map fun message => message.drop 4

theorem Framed.headed {message : Bytes} (framed : Framed message) (nonempty : message ≠ []) :
    Headed message (message.drop 4) := by
  rcases framed with empty | ⟨body, header, announced, rfl⟩
  · exact absurd empty nonempty
  · rw [List.drop_left' (le32_length header)]
    exact ⟨header, announced, rfl⟩

/-- A length at the front of some framed messages is that of the first body. -/
theorem exists_first_of_header {messages : List Bytes} {headerLength : UInt32} {bytes : Bytes}
    (framed : ∀ message ∈ messages, message ≠ [] ∧ Framed message)
    (front : le32 headerLength ++ bytes = messages.flatten) :
    ∃ first rest, messages = first :: rest ∧ headerLength.toNat = (first.drop 4).length ∧
      bytes = first.drop 4 ++ rest.flatten := by
  cases messages with
  | nil =>
      have length := congrArg List.length front
      simp at length
  | cons first rest =>
      have known := framed first List.mem_cons_self
      rcases known.2.headed known.1 with ⟨header, announced, whole⟩
      rw [List.flatten_cons, whole, List.append_assoc] at front
      obtain ⟨sameHeader, behind⟩ :=
        List.append_inj front ((le32_length headerLength).trans (le32_length header).symm)
      have same : headerLength = header := by
        rw [← ofLe32_le32 headerLength, sameHeader, ofLe32_le32]
      rw [same]
      exact ⟨first, rest, rfl, announced, behind⟩

/-! ## The link -/

/-- The writing end, the bytes under way and the reading end. -/
structure Transport (σ : Type) where
  writer : Writer
  /-- How many bytes of the outstanding write have been taken. -/
  taken : Nat
  wire : Bytes
  receiver : Receiver σ

namespace Transport

variable {σ : Type}

inductive Event
  | write (event : Writing.Event)
  /-- The stream takes some bytes of the outstanding write. -/
  | take (count : Nat)
  /-- Some bytes arrive. -/
  | arrive (count : Nat)
  /-- The outstanding read completes. -/
  | read
  /-- The outstanding read fails. -/
  | fail
  deriving DecidableEq

/-- A link on which nothing has happened. -/
def start (state : σ) : Transport σ where
  writer := .idle
  taken := 0
  wire := []
  receiver := .start [] state

/-- The bytes taken of the outstanding write after an event: a write that has
completed makes room for the next one. -/
def takenAfter : Writing.Event → Nat → Nat
  | .onWrite _ _, _ => 0
  | .send _, taken => taken
  | .onSend _, taken => taken

/-- A write completes without an error only when it is done. -/
def Possible (transport : Transport σ) : Event → Prop
  | .write (.onWrite position false) =>
      (transport.writer.outstanding[position]?).all
        fun buffer => transport.taken = buffer.length
  | .take count =>
      (transport.writer.outstanding.head?).any
        fun buffer => transport.taken + count ≤ buffer.length
  | .fail => transport.receiver.reading ≠ .removed
  | _ => True

instance (transport : Transport σ) (event : Event) : Decidable (transport.Possible event) := by
  unfold Possible
  split <;> infer_instance

/-- One event; `none` when it cannot happen. -/
def perform (kernel : Bytes → σ → Option Bytes × σ) (transport : Transport σ) :
    Event → Option (Transport σ)
  | .write event => do
      let writer ← transport.writer.perform .tcp event
      return { transport with writer := writer, taken := takenAfter event transport.taken }
  | .take count => do
      let buffer ← transport.writer.outstanding.head?
      return { transport with
        taken := transport.taken + count
        wire := transport.wire ++ (buffer.drop transport.taken).take count }
  | .arrive count =>
      some { transport with
        wire := transport.wire.drop count
        receiver := { transport.receiver with
          stream := transport.receiver.stream ++ transport.wire.take count } }
  | .read => do
      let receiver ← transport.receiver.step kernel false
      return { transport with receiver := receiver }
  | .fail => some { transport with receiver := transport.receiver.remove }

/-- A link with a kernel at its reading end. -/
def machine (kernel : Bytes → σ → Option Bytes × σ) (state : σ) : Machine (Transport σ) Event where
  start transport := transport = .start state
  step transport event next :=
    Machine.carry Possible (perform kernel) transport event = some next

/-- What is sent is a framed message. -/
def Event.Proper (event : Event) : Prop :=
  ∀ message, event = .write (.send message) → Framed message

/-- A link on which only framed messages are sent. -/
def properMachine (kernel : Bytes → σ → Option Bytes × σ) (state : σ) :
    Machine (Transport σ) Event :=
  (machine kernel state).under fun _ event => event.Proper

/-! ## What a step can do -/

/-- The step of one event. -/
inductive Step (kernel : Bytes → σ → Option Bytes × σ) (transport : Transport σ) :
    Event → Transport σ → Prop
  | write (event : Writing.Event) (writer : Writer)
      (whole : ∀ position buffer, event = .onWrite position false →
        transport.writer.outstanding[position]? = some buffer →
          transport.taken = buffer.length)
      (step : Writing.Step transport.writer event writer) :
      Step kernel transport (.write event)
        { transport with writer := writer, taken := takenAfter event transport.taken }
  | take (count : Nat) (buffer : Bytes)
      (outstanding : transport.writer.outstanding.head? = some buffer)
      (left : transport.taken + count ≤ buffer.length) :
      Step kernel transport (.take count) { transport with
        taken := transport.taken + count
        wire := transport.wire ++ (buffer.drop transport.taken).take count }
  | arrive (count : Nat) :
      Step kernel transport (.arrive count) { transport with
        wire := transport.wire.drop count
        receiver := { transport.receiver with
          stream := transport.receiver.stream ++ transport.wire.take count } }
  | header (reading : transport.receiver.reading = .header)
      (arrived : 4 ≤ transport.receiver.stream.length) :
      Step kernel transport .read
        { transport with receiver := transport.receiver.readHeader }
  | body (headerLength : UInt32) (reading : transport.receiver.reading = .body headerLength)
      (arrived : headerLength.toNat ≤ transport.receiver.stream.length) :
      Step kernel transport .read
        { transport with receiver := transport.receiver.readBody kernel headerLength }
  | fail :
      Step kernel transport .fail { transport with receiver := transport.receiver.remove }

variable {kernel : Bytes → σ → Option Bytes × σ} {transport next : Transport σ} {event : Event}

theorem step_of_perform
    (performed : Machine.carry Possible (perform kernel) transport event = some next) :
    Step kernel transport event next := by
  rcases Machine.carry_eq_some_iff.mp performed with ⟨possible, result⟩
  cases event with
  | write event =>
      rcases Option.bind_eq_some_iff.mp result with ⟨writer, wrote, rest⟩
      cases rest
      refine .write event writer ?_ (Writing.step_of_perform wrote)
      rintro position buffer rfl pending
      simpa [Possible, pending] using possible
  | take count =>
      rcases Option.bind_eq_some_iff.mp result with ⟨buffer, outstanding, rest⟩
      cases rest
      refine .take count buffer outstanding ?_
      simpa [Possible, outstanding] using possible
  | arrive count =>
      cases result
      exact .arrive count
  | read =>
      rcases Option.bind_eq_some_iff.mp result with ⟨receiver, completed, rest⟩
      cases rest
      unfold Receiver.step at completed
      split at completed
      · rename_i reading
        split at completed
        · rename_i arrived
          cases completed
          exact .header reading arrived
        · cases completed
      · rename_i headerLength reading
        split at completed
        · rename_i arrived
          cases completed
          exact .body headerLength reading arrived
        · cases completed
      · cases completed
  | fail =>
      cases result
      exact .fail

/-! ## The invariant -/

/-- A length that has been read ahead of its body. -/
def ahead : Reading → Bytes
  | .body headerLength => le32 headerLength
  | .header => []
  | .removed => []

/-- The reading end has handled `consumed` of what `on_send` ran on, and all
bytes of `rest` are somewhere on their way; `tail` has not been taken yet. -/
structure InStep (transport : Transport σ) (consumed rest : List Bytes) (tail : Bytes) : Prop where
  ordered : (transport.writer.ran.filter fun message => message ≠ []) = consumed ++ rest
  handled : transport.receiver.handled = consumed.map fun message => message.drop 4
  conserved : ahead transport.receiver.reading ++
    (transport.receiver.stream ++ (transport.wire ++ tail)) = rest.flatten
  untaken : transport.writer.failed = false →
    tail = transport.writer.queue.flatten.drop transport.taken

structure Aligned (transport : Transport σ) : Prop where
  consistent : Writing.Consistent transport.writer
  framed : ∀ message ∈ transport.writer.sent, Framed message
  /-- No more has been taken than is being written. -/
  taken : transport.taken ≤ (transport.writer.outstanding.head?.getD []).length
  inStep : transport.receiver.reading ≠ .removed →
    ∃ consumed rest tail, InStep transport consumed rest tail

theorem aligned_start (state : σ) : Aligned (start state) where
  consistent := Writing.consistent_idle
  framed := by
    intro message member
    cases member
  taken := Nat.le_refl 0
  inStep := fun _ => ⟨[], [], [], rfl, rfl, rfl, fun _ => rfl⟩

namespace InStep

variable {consumed rest : List Bytes} {tail : Bytes}

/-- A message that joins the queue is on its way. -/
theorem queued (inStep : InStep transport consumed rest tail) {writer : Writer} {message : Bytes}
    (ranEq : writer.ran = transport.writer.ran ++ [message])
    (queueEq : writer.queue = transport.writer.queue ++ [message])
    (failedEq : writer.failed = transport.writer.failed)
    (inside : transport.taken ≤ transport.writer.queue.flatten.length) :
    InStep { transport with writer := writer } consumed
      (rest ++ [message].filter fun message => message ≠ []) (tail ++ message) where
  ordered := by
    simp only [ranEq]
    rw [List.filter_append, inStep.ordered, List.append_assoc]
  handled := inStep.handled
  conserved := by
    rw [List.flatten_append, List.flatten_filter_ne_nil, List.flatten_singleton,
      ← inStep.conserved]
    simp only [List.append_assoc]
  untaken := by
    intro unfailed
    simp only at unfailed ⊢
    rw [failedEq] at unfailed
    rw [queueEq, List.flatten_append, List.flatten_singleton,
      List.drop_append_of_le_length inside, inStep.untaken unfailed]

theorem framed_rest (inStep : InStep transport consumed rest tail)
    (framed : ∀ message ∈ transport.writer.ran, Framed message) :
    ∀ message ∈ rest, message ≠ [] ∧ Framed message := by
  intro message member
  have ran : message ∈ transport.writer.ran.filter fun message => message ≠ [] := by
    rw [inStep.ordered]
    exact List.mem_append_right consumed member
  rcases List.mem_filter.mp ran with ⟨within, nonempty⟩
  exact ⟨by simpa using nonempty, framed message within⟩

/-- Nothing but the length of the first message behind is read ahead. -/
theorem exists_first (inStep : InStep transport consumed rest tail)
    (framed : ∀ message ∈ transport.writer.ran, Framed message) {headerLength : UInt32}
    (reading : transport.receiver.reading = .body headerLength) :
    ∃ first behind, rest = first :: behind ∧ headerLength.toNat = (first.drop 4).length ∧
      transport.receiver.stream ++ (transport.wire ++ tail) =
        first.drop 4 ++ behind.flatten := by
  have conserved := inStep.conserved
  rw [reading, ahead] at conserved
  exact exists_first_of_header (inStep.framed_rest framed) conserved

end InStep

namespace Aligned

theorem framed_ran (aligned : Aligned transport) :
    ∀ message ∈ transport.writer.ran, Framed message := by
  intro message member
  apply aligned.framed
  exact aligned.consistent.conserved.subset (List.mem_append_left _ member)

/-- What has been taken are bytes of the front of the queue. -/
theorem inside (aligned : Aligned transport) :
    transport.taken ≤ transport.writer.queue.flatten.length := by
  have taken := aligned.taken
  cases failed : transport.writer.failed with
  | true =>
      rw [(aligned.consistent.stopped failed).1] at taken
      exact taken.trans (Nat.zero_le _)
  | false =>
      rw [aligned.consistent.busy failed] at taken
      cases queued : transport.writer.queue with
      | nil =>
          rw [queued] at taken
          exact taken
      | cons front rest =>
          rw [queued] at taken
          rw [List.flatten_cons, List.length_append]
          exact taken.trans (Nat.le_add_right _ _)

/-- A write that is outstanding is that of the front of the queue. -/
theorem front (aligned : Aligned transport) {buffer : Bytes}
    (outstanding : transport.writer.outstanding.head? = some buffer) :
    transport.writer.failed = false ∧ ∃ rest, transport.writer.queue = buffer :: rest := by
  rw [List.head?_eq_getElem?] at outstanding
  rcases aligned.consistent.front_of_pending outstanding with ⟨rest, queued, _⟩
  exact ⟨aligned.consistent.unfailed_of_pending outstanding, rest, queued⟩

/-- A step of the writing end. -/
theorem write (aligned : Aligned transport) {event : Writing.Event} {writer : Writer}
    (whole : ∀ position buffer, event = .onWrite position false →
      transport.writer.outstanding[position]? = some buffer → transport.taken = buffer.length)
    (proper : ∀ message, event = .send message → Framed message)
    (step : Writing.Step transport.writer event writer) :
    Aligned { transport with writer := writer, taken := takenAfter event transport.taken } := by
  have consistent := aligned.consistent.step step
  cases step with
  | send message =>
      refine ⟨consistent, ?_, aligned.taken, ?_⟩
      · intro other member
        rcases List.mem_append.mp member with older | newest
        · exact aligned.framed other older
        · rw [List.mem_singleton.mp newest]
          exact proper message rfl
      · intro listening
        rcases aligned.inStep listening with ⟨consumed, rest, tail, inStep⟩
        exact ⟨consumed, rest, tail, inStep.1, inStep.2, inStep.3, inStep.4⟩
  | queued position message pending busy =>
      refine ⟨consistent, aligned.framed, aligned.taken, ?_⟩
      intro listening
      rcases aligned.inStep listening with ⟨consumed, rest, tail, inStep⟩
      exact ⟨consumed, _, _, inStep.queued rfl rfl rfl aligned.inside⟩
  | written position message pending empty =>
      have none : transport.writer.outstanding = [] := by
        cases failed : transport.writer.failed with
        | true => exact (aligned.consistent.stopped failed).1
        | false => rw [aligned.consistent.busy failed, empty, List.head?_nil, Option.toList_none]
      have untouched := aligned.taken
      rw [none] at untouched
      refine ⟨consistent, aligned.framed, untouched.trans (Nat.zero_le _), ?_⟩
      intro listening
      rcases aligned.inStep listening with ⟨consumed, rest, tail, inStep⟩
      exact ⟨consumed, _, _, inStep.queued rfl (by rw [empty, List.nil_append]) rfl
        aligned.inside⟩
  | completed position buffer front rest pending queued =>
      refine ⟨consistent, aligned.framed, Nat.zero_le _, ?_⟩
      intro listening
      rcases aligned.inStep listening with ⟨consumed, behind, tail, inStep⟩
      refine ⟨consumed, behind, tail, inStep.1, inStep.2, inStep.3, ?_⟩
      intro unfailed
      rcases aligned.consistent.front_of_pending pending with ⟨others, fronted, _⟩
      have same : front :: rest = buffer :: others := queued.symm.trans fronted
      cases same
      rw [inStep.untaken unfailed, queued, whole position _ rfl pending, List.flatten_cons,
        List.drop_left, takenAfter, List.drop_zero]
  | errored position buffer pending =>
      refine ⟨consistent, aligned.framed, Nat.zero_le _, ?_⟩
      intro listening
      rcases aligned.inStep listening with ⟨consumed, rest, tail, inStep⟩
      refine ⟨consumed, rest, tail, inStep.1, inStep.2, inStep.3, ?_⟩
      intro unfailed
      cases unfailed

/-- The stream takes bytes. -/
theorem take (aligned : Aligned transport) {count : Nat} {buffer : Bytes}
    (outstanding : transport.writer.outstanding.head? = some buffer)
    (left : transport.taken + count ≤ buffer.length) :
    Aligned { transport with
      taken := transport.taken + count
      wire := transport.wire ++ (buffer.drop transport.taken).take count } := by
  rcases aligned.front outstanding with ⟨unfailed, others, queued⟩
  refine ⟨aligned.consistent, aligned.framed, by simpa [outstanding] using left, ?_⟩
  intro listening
  rcases aligned.inStep listening with ⟨consumed, rest, tail, inStep⟩
  refine ⟨consumed, rest, transport.writer.queue.flatten.drop (transport.taken + count),
    inStep.1, inStep.2, ?_, fun _ => rfl⟩
  have short : transport.taken ≤ buffer.length := (Nat.le_add_right _ _).trans left
  have split : (buffer.drop transport.taken).take count ++
      transport.writer.queue.flatten.drop (transport.taken + count) = tail := by
    rw [inStep.untaken unfailed, queued, List.flatten_cons, List.drop_append_of_le_length left,
      List.drop_append_of_le_length short, ← List.append_assoc, ← List.drop_drop,
      List.take_append_drop]
  rw [← inStep.conserved, ← split]
  simp only [List.append_assoc]

/-- Bytes arrive. -/
theorem arrive (aligned : Aligned transport) (count : Nat) :
    Aligned { transport with
      wire := transport.wire.drop count
      receiver := { transport.receiver with
        stream := transport.receiver.stream ++ transport.wire.take count } } := by
  refine ⟨aligned.consistent, aligned.framed, aligned.taken, ?_⟩
  intro listening
  rcases aligned.inStep listening with ⟨consumed, rest, tail, inStep⟩
  refine ⟨consumed, rest, tail, inStep.1, inStep.2, ?_, inStep.4⟩
  rw [← inStep.conserved]
  simp only [List.append_assoc]
  rw [← List.append_assoc (transport.wire.take count), List.take_append_drop]

/-- The length of a message is read. -/
theorem header (aligned : Aligned transport) (reading : transport.receiver.reading = .header)
    (arrived : 4 ≤ transport.receiver.stream.length) :
    Aligned { transport with receiver := transport.receiver.readHeader } := by
  refine ⟨aligned.consistent, aligned.framed, aligned.taken, ?_⟩
  intro _
  have listening : transport.receiver.reading ≠ .removed := by
    rw [reading]
    exact fun impossible => nomatch impossible
  rcases aligned.inStep listening with ⟨consumed, rest, tail, inStep⟩
  refine ⟨consumed, rest, tail, inStep.1, inStep.2, ?_, inStep.4⟩
  have conserved := inStep.conserved
  rw [reading, ahead, List.nil_append] at conserved
  have width : (transport.receiver.stream.take 4).length = 4 := by
    rw [List.length_take, Nat.min_eq_left arrived]
  rw [← conserved, Receiver.readHeader, ahead, le32_ofLe32 width, ← List.append_assoc,
    List.take_append_drop]

/-- A body that is read is that of the first message on its way. -/
theorem exists_read (aligned : Aligned transport) {headerLength : UInt32}
    (reading : transport.receiver.reading = .body headerLength)
    (arrived : headerLength.toNat ≤ transport.receiver.stream.length) :
    ∃ consumed first behind tail, InStep transport consumed (first :: behind) tail ∧
      transport.receiver.stream.take headerLength.toNat = first.drop 4 ∧
      transport.receiver.stream.drop headerLength.toNat ++ (transport.wire ++ tail) =
        behind.flatten := by
  have listening : transport.receiver.reading ≠ .removed := by
    rw [reading]
    exact fun impossible => nomatch impossible
  rcases aligned.inStep listening with ⟨consumed, rest, tail, inStep⟩
  rcases inStep.exists_first aligned.framed_ran reading with
    ⟨first, behind, rfl, announced, conserved⟩
  refine ⟨consumed, first, behind, tail, inStep, ?_, ?_⟩
  · have front := congrArg (List.take headerLength.toNat) conserved
    rwa [List.take_append_of_le_length arrived, List.take_left' announced.symm] at front
  · have back := congrArg (List.drop headerLength.toNat) conserved
    rwa [List.drop_append_of_le_length arrived, List.drop_left' announced.symm] at back

theorem body (aligned : Aligned transport) {headerLength : UInt32}
    (reading : transport.receiver.reading = .body headerLength)
    (arrived : headerLength.toNat ≤ transport.receiver.stream.length) :
    Aligned { transport with receiver := transport.receiver.readBody kernel headerLength } := by
  rcases aligned.exists_read reading arrived with
    ⟨consumed, first, behind, tail, inStep, taken, left⟩
  refine ⟨aligned.consistent, aligned.framed, aligned.taken, ?_⟩
  intro _
  refine ⟨consumed ++ [first], behind, tail, ?_, ?_, left, inStep.4⟩
  · rw [inStep.ordered, List.append_assoc, List.singleton_append]
  · rw [List.map_append, ← inStep.handled, List.map_singleton, ← taken]
    rfl

/-- The body read is the next of those of the messages that `on_send` ran on. -/
theorem next_body (aligned : Aligned transport) {headerLength : UInt32}
    (reading : transport.receiver.reading = .body headerLength)
    (arrived : headerLength.toNat ≤ transport.receiver.stream.length) :
    ∃ rest, bodies transport.writer.ran = transport.receiver.handled ++
      transport.receiver.stream.take headerLength.toNat :: rest := by
  rcases aligned.exists_read reading arrived with ⟨_, first, behind, _, inStep, taken, _⟩
  refine ⟨behind.map fun message => message.drop 4, ?_⟩
  rw [bodies, inStep.ordered, List.map_append, ← inStep.handled, taken, List.map_cons]

/-- The read fails. -/
theorem fail (aligned : Aligned transport) :
    Aligned { transport with receiver := transport.receiver.remove } := by
  refine ⟨aligned.consistent, aligned.framed, aligned.taken, ?_⟩
  intro listening
  exact absurd rfl listening

theorem step (aligned : Aligned transport) (proper : event.Proper)
    (step : Step kernel transport event next) : Aligned next := by
  cases step with
  | write event writer whole step =>
      apply aligned.write whole _ step
      rintro message rfl
      exact proper message rfl
  | take count buffer outstanding left => exact aligned.take outstanding left
  | arrive count => exact aligned.arrive count
  | header reading arrived => exact aligned.header reading arrived
  | body headerLength reading arrived => exact aligned.body reading arrived
  | fail => exact aligned.fail

end Aligned

theorem aligned_of_reachable {initial : σ}
    (reachable : (properMachine kernel initial).Reachable transport) :
    Aligned transport := by
  apply reachable.invariant
  · rintro start rfl
    exact aligned_start initial
  · rintro before event after _ aligned ⟨proper, taken⟩
    exact aligned.step proper (step_of_perform taken)

/-! ## The link is a channel -/

/-- What has been put into the link and what has come out of it. -/
def channel (transport : Transport σ) : Fifo Bytes :=
  ⟨bodies transport.writer.ran, transport.receiver.handled⟩

theorem bodies_concat (messages : List Bytes) (message : Bytes) :
    bodies (messages ++ [message]) = bodies messages ∨
      bodies (messages ++ [message]) = bodies messages ++ [message.drop 4] := by
  unfold bodies
  rw [List.filter_append, List.map_append]
  by_cases empty : message = []
  · left
    rw [List.filter_cons_of_neg (by simpa using empty), List.filter_nil, List.map_nil,
      List.append_nil]
  · right
    rw [List.filter_cons_of_pos (by simpa using empty), List.filter_nil, List.map_singleton]

theorem channel_of_ran {writer : Writer} {message : Bytes} (taken : Nat)
    (ranEq : writer.ran = transport.writer.ran ++ [message]) :
    ({ transport with writer := writer, taken := taken } : Transport σ).channel =
        transport.channel ∨
      ∃ abstract, Fifo.Step transport.channel abstract
        ({ transport with writer := writer, taken := taken } : Transport σ).channel := by
  unfold channel
  simp only
  rw [ranEq]
  rcases bodies_concat transport.writer.ran message with unchanged | joined
  · left
    rw [unchanged]
  · right
    rw [joined]
    exact ⟨_, .accept (message.drop 4)⟩

/-- Running `on_send` puts a message into the channel, reading a body takes one
out of it, and nothing else does anything to it. -/
theorem channel_step (aligned : Aligned transport) (step : Step kernel transport event next) :
    next.channel = transport.channel ∨
      ∃ abstract, Fifo.Step transport.channel abstract next.channel := by
  cases step with
  | write event writer whole step =>
      cases step with
      | send message => exact Or.inl rfl
      | queued position message pending busy => exact channel_of_ran _ rfl
      | written position message pending empty => exact channel_of_ran _ rfl
      | completed position buffer front rest pending queued => exact Or.inl rfl
      | errored position buffer pending => exact Or.inl rfl
  | take count buffer outstanding left => exact Or.inl rfl
  | arrive count => exact Or.inl rfl
  | header reading arrived => exact Or.inl rfl
  | body headerLength reading arrived =>
      right
      rcases aligned.next_body reading arrived with ⟨rest, oldest⟩
      exact ⟨.deliver, .deliver _ rest oldest⟩
  | fail => exact Or.inl rfl

theorem fifo_of_reachable {initial : σ}
    (reachable : (properMachine kernel initial).Reachable transport) :
    (Fifo.machine Bytes).Reachable transport.channel := by
  refine reachable.simulates channel ?_ ?_
  · rintro start rfl
    rfl
  · rintro before event after reached ⟨_, taken⟩
    exact channel_step (aligned_of_reachable reached) (step_of_perform taken)

theorem feed_concat (kernel : Bytes → σ → Option Bytes × σ) (handled : List Bytes) (body : Bytes)
    (sent : List Bytes) (state : σ) :
    Receiver.feed kernel (handled ++ [body]) sent state =
      ((Receiver.feed kernel handled sent state).1 ++
          (kernel body (Receiver.feed kernel handled sent state).2).1.toList,
        (kernel body (Receiver.feed kernel handled sent state).2).2) := by
  induction handled generalizing sent state with
  | nil => rfl
  | cons first handled ih => exact ih _ _

/-- The reading end is where handling the bodies one after another leads. -/
theorem fed_of_reachable {initial : σ}
    (reachable : (properMachine kernel initial).Reachable transport) :
    (transport.receiver.sent, transport.receiver.state) =
      Receiver.feed kernel transport.receiver.handled [] initial := by
  apply reachable.invariant
  · rintro start rfl
    rfl
  · rintro before event after _ fed ⟨_, taken⟩
    cases step_of_perform taken with
    | write event writer whole step => exact fed
    | take count buffer outstanding left => exact fed
    | arrive count => exact fed
    | header reading arrived => exact fed
    | body headerLength reading arrived =>
        simp only [Receiver.readBody]
        rw [feed_concat, ← fed]
    | fail => exact fed

/-- In every run in which only framed messages are sent, the link is a channel
of messages: whatever part of the bytes each step moves, the kernel is handed
the bodies in the order in which `on_send` ran, the length read ahead is that
of the body to come, and the reading end has done what handling those bodies
one after another does. -/
theorem handled_in_order {initial : σ}
    (reachable : (properMachine kernel initial).Reachable transport) :
    (Fifo.machine Bytes).Reachable transport.channel ∧
      transport.receiver.handled <+: bodies transport.writer.ran ∧
      (∀ headerLength, transport.receiver.reading = .body headerLength →
        ∃ body rest, bodies transport.writer.ran = transport.receiver.handled ++ body :: rest ∧
          headerLength.toNat = body.length) ∧
      (transport.receiver.sent, transport.receiver.state) =
        Receiver.feed kernel transport.receiver.handled [] initial := by
  have simulated := fifo_of_reachable reachable
  refine ⟨simulated, Fifo.delivered_prefix_of_reachable simulated, ?_, fed_of_reachable reachable⟩
  intro headerLength reading
  have aligned := aligned_of_reachable reachable
  have listening : transport.receiver.reading ≠ .removed := by
    rw [reading]
    exact fun impossible => nomatch impossible
  rcases aligned.inStep listening with ⟨consumed, rest, tail, inStep⟩
  rcases inStep.exists_first aligned.framed_ran reading with ⟨first, behind, rfl, announced, _⟩
  refine ⟨first.drop 4, behind.map fun message => message.drop 4, ?_, announced⟩
  rw [bodies, inStep.ordered, List.map_append, ← inStep.handled, List.map_cons]

/-- The link after some events, if each was possible. -/
def run (kernel : Bytes → σ → Option Bytes × σ) (events : List Event) (transport : Transport σ) :
    Option (Transport σ) :=
  events.foldlM (Machine.carry Possible (perform kernel)) transport

/-- A kernel that answers every body with itself and counts. -/
def echo (body : Bytes) (count : Nat) : Option Bytes × Nat :=
  (some body, count + 1)

/-- Two messages, the first of which is cut in the middle of its length. -/
def piecewise : List Event :=
  [.write (.send [1, 0, 0, 0, 7]), .write (.send [0, 0, 0, 0]), .write (.onSend 0),
    .write (.onSend 0), .take 3, .arrive 3, .take 2, .write (.onWrite 0 false), .arrive 1, .read,
    .arrive 1, .read, .take 4, .arrive 4, .read]

theorem handled_in_order_piecewise :
    ∃ transport, run echo piecewise (.start 0) = some transport ∧
      transport.receiver.reading = .body 0 ∧ transport.receiver.handled = [[7]] ∧
      (Fifo.machine Bytes).Reachable transport.channel ∧
      transport.receiver.handled <+: bodies transport.writer.ran ∧
      (∀ headerLength, transport.receiver.reading = .body headerLength →
        ∃ body rest, bodies transport.writer.ran = transport.receiver.handled ++ body :: rest ∧
          headerLength.toNat = body.length) ∧
      (transport.receiver.sent, transport.receiver.state) =
        Receiver.feed echo transport.receiver.handled [] 0 := by
  obtain ⟨transport, ran⟩ : ∃ transport, run echo piecewise (.start 0) = some transport :=
    ⟨_, rfl⟩
  have proper : ∀ event ∈ piecewise, event.Proper := by
    rintro event member message rfl
    have one : message = [1, 0, 0, 0, 7] ∨ message = [0, 0, 0, 0] := by
      simpa [piecewise] using member
    rcases one with rfl | rfl
    · exact Or.inr ⟨[7], 1, rfl, rfl⟩
    · exact Or.inr ⟨[], 0, rfl, rfl⟩
  have reachable : (properMachine echo 0).Reachable transport :=
    .foldlM_under (fun _ _ _ performed => performed) proper (.start rfl) ran
  refine ⟨transport, ran, ?_, ?_, handled_in_order reachable⟩
  · cases ran
    rfl
  · cases ran
    rfl

/-! ## Everything arrives -/

/-- The events of a link that is left to itself and moves something. -/
def Moving (transport : Transport σ) : Event → Prop
  | .write (.onSend _) => True
  | .write (.onWrite _ failed) => failed = false
  | .take count => 0 < count
  | .arrive count => 0 < count ∧ transport.wire ≠ []
  | .read => True
  | .write (.send _) => False
  | .fail => False

/-- A step of a link that is left to itself. -/
def Moves (kernel : Bytes → σ → Option Bytes × σ) (transport next : Transport σ) : Prop :=
  ∃ event, transport.Moving event ∧
    Machine.carry Possible (perform kernel) transport event = some next

/-- One more for a body to be read, whose length may be zero. -/
def pendingBody : Reading → Nat
  | .body _ => 1
  | .header => 0
  | .removed => 0

/-- How far the bytes and messages are from being handled. -/
def distance (transport : Transport σ) : Nat :=
  (transport.writer.posted.map fun message => 4 * message.length + 2).sum +
    (transport.writer.queue.length +
      4 * (transport.writer.queue.flatten.length - transport.taken)) +
    3 * transport.wire.length + 2 * transport.receiver.stream.length +
      pendingBody transport.receiver.reading

/-- The link is in order and neither end has failed. -/
structure Sound (transport : Transport σ) : Prop where
  aligned : Aligned transport
  unfailed : transport.writer.failed = false
  listening : transport.receiver.reading ≠ .removed

theorem sum_map_eraseIdx (weight : Bytes → Nat) {messages : List Bytes} {position : Nat}
    {message : Bytes} (pending : messages[position]? = some message) :
    (messages.map weight).sum = weight message + ((messages.eraseIdx position).map weight).sum := by
  have same : ([] ++ [message] ++ messages.eraseIdx position).Perm ([] ++ messages) :=
    Writing.perm_of_posted pending
  have sum := (same.map weight).sum_eq
  simpa using sum.symm

theorem not_send_of_moving (moving : transport.Moving event) (message : Bytes) :
    event ≠ .write (.send message) := by
  rintro rfl
  exact moving

theorem proper_of_not_send (notSend : ∀ message, event ≠ .write (.send message)) : event.Proper :=
  fun message isSend => absurd isSend (notSend message)

theorem proper_of_moving (moving : transport.Moving event) : event.Proper :=
  proper_of_not_send (not_send_of_moving moving)

/-- Only `send` adds to the messages sent. -/
theorem sent_of_step (notSend : ∀ message, event ≠ .write (.send message))
    (step : Step kernel transport event next) :
    next.writer.sent = transport.writer.sent := by
  cases step with
  | write event writer whole step =>
      cases step with
      | send message => exact absurd rfl (notSend message)
      | queued position message pending busy => rfl
      | written position message pending empty => rfl
      | completed position buffer front rest pending queued => rfl
      | errored position buffer pending => rfl
  | take count buffer outstanding left => rfl
  | arrive count => rfl
  | header reading arrived => rfl
  | body headerLength reading arrived => rfl
  | fail => rfl

theorem Sound.step (sound : Sound transport) (moving : transport.Moving event)
    (step : Step kernel transport event next) : Sound next := by
  have aligned := sound.aligned.step (proper_of_moving moving) step
  refine ⟨aligned, ?_, ?_⟩
  · cases step with
    | write event writer whole step =>
        cases step with
        | send message => exact sound.unfailed
        | queued position message pending busy => exact sound.unfailed
        | written position message pending empty => exact sound.unfailed
        | completed position buffer front rest pending queued => exact sound.unfailed
        | errored position buffer pending => exact absurd moving Bool.noConfusion
    | take count buffer outstanding left => exact sound.unfailed
    | arrive count => exact sound.unfailed
    | header reading arrived => exact sound.unfailed
    | body headerLength reading arrived => exact sound.unfailed
    | fail => exact absurd moving id
  · cases step with
    | write event writer whole step => exact sound.listening
    | take count buffer outstanding left => exact sound.listening
    | arrive count => exact sound.listening
    | header reading arrived => exact Reading.noConfusion
    | body headerLength reading arrived => exact Reading.noConfusion
    | fail => exact absurd moving id

/-- Every step brings something closer to being handled. -/
theorem Sound.distance_lt (sound : Sound transport) (moving : transport.Moving event)
    (step : Step kernel transport event next) : next.distance < transport.distance := by
  have inside := sound.aligned.inside
  cases step with
  | write event writer whole step =>
      cases step with
      | send message => exact absurd moving id
      | queued position message pending busy =>
          have weight := sum_map_eraseIdx (fun message => 4 * message.length + 2) pending
          simp only [distance, takenAfter, List.flatten_append, List.flatten_singleton,
            List.length_append, List.length_singleton]
          omega
      | written position message pending empty =>
          have weight := sum_map_eraseIdx (fun message => 4 * message.length + 2) pending
          rw [empty] at inside
          have untouched : transport.taken = 0 := Nat.le_zero.mp inside
          simp only [distance, takenAfter, untouched, empty, List.flatten_singleton,
            List.flatten_nil, List.length_singleton, List.length_nil]
          omega
      | completed position buffer front rest pending queued =>
          rcases sound.aligned.consistent.front_of_pending pending with ⟨others, fronted, _⟩
          have same : front :: rest = buffer :: others := queued.symm.trans fronted
          cases same
          have all := whole position _ rfl pending
          simp only [distance, takenAfter, queued, all, List.flatten_cons, List.length_append,
            List.length_cons]
          omega
      | errored position buffer pending => exact absurd moving Bool.noConfusion
  | take count buffer outstanding left =>
      have some := show 0 < count from moving
      rcases (sound.aligned.front outstanding).2 with ⟨others, queued⟩
      simp only [distance, queued, List.flatten_cons, List.length_append, List.length_take,
        List.length_drop]
      omega
  | arrive count =>
      have some := show 0 < count from moving.1
      have nonempty := List.length_pos_of_ne_nil moving.2
      simp only [distance, List.length_append, List.length_take, List.length_drop]
      omega
  | header reading arrived =>
      simp only [distance, Receiver.readHeader, reading, pendingBody, List.length_drop]
      omega
  | body headerLength reading arrived =>
      simp only [distance, Receiver.readBody, reading, pendingBody, List.length_drop]
      omega
  | fail => exact absurd moving id

theorem exists_moves (event : Event) (moving : transport.Moving event)
    (possible : transport.Possible event)
    (performed : (transport.perform kernel event).isSome) :
    ∃ next, Moves kernel transport next := by
  rcases Option.isSome_iff_exists.mp performed with ⟨next, result⟩
  exact ⟨next, event, moving, Machine.carry_eq_some_iff.mpr ⟨possible, result⟩⟩

/-- While something is left to be done at the writing end, a step can be taken. -/
theorem Sound.written_of_rest (sound : Sound transport)
    (rests : ¬∃ next, Moves kernel transport next) :
    transport.writer.posted = [] ∧ transport.writer.queue = [] := by
  constructor
  · by_contra waiting
    rcases List.exists_cons_of_ne_nil waiting with ⟨message, posted, first⟩
    apply rests
    apply exists_moves (.write (.onSend 0)) trivial trivial
    simp [perform, Writer.perform, first]
  · by_contra waiting
    rcases List.exists_cons_of_ne_nil waiting with ⟨front, queue, first⟩
    have outstanding := sound.aligned.consistent.busy sound.unfailed
    have taken := sound.aligned.taken
    rw [first, List.head?_cons, Option.toList_some] at outstanding
    rw [outstanding, List.head?_cons, Option.getD_some] at taken
    apply rests
    by_cases whole : transport.taken = front.length
    · apply exists_moves (.write (.onWrite 0 false)) rfl
      · simp [Possible, outstanding, whole]
      · simp [perform, Writer.perform, outstanding, first, Writing.onWrite]
    · apply exists_moves (.take 1) Nat.one_pos
      · simp only [Possible, outstanding, List.head?_cons, Option.any_some, decide_eq_true_eq]
        omega
      · simp [perform, outstanding]

/-- A link on which nothing more can happen by itself has handled everything. -/
theorem Sound.handled_of_rest (sound : Sound transport)
    (rests : ¬∃ next, Moves kernel transport next) :
    transport.receiver.handled = bodies transport.writer.ran ∧
      transport.writer.ran.Perm transport.writer.sent := by
  obtain ⟨nonePosted, noneQueued⟩ := sound.written_of_rest rests
  have wire : transport.wire = [] := by
    by_contra underWay
    exact rests (exists_moves (.arrive 1) ⟨Nat.one_pos, underWay⟩ trivial rfl)
  rcases sound.aligned.inStep sound.listening with ⟨consumed, rest, tail, inStep⟩
  have tailEq := inStep.untaken sound.unfailed
  rw [noneQueued, List.flatten_nil, List.drop_nil] at tailEq
  have none : rest = [] := by
    by_contra waiting
    rcases List.exists_cons_of_ne_nil waiting with ⟨message, behind, rfl⟩
    apply rests
    apply exists_moves .read trivial trivial
    cases reading : transport.receiver.reading with
    | header =>
        have conserved := inStep.conserved
        rw [reading, ahead, wire, tailEq, List.append_nil, List.nil_append, List.append_nil]
          at conserved
        have known := inStep.framed_rest sound.aligned.framed_ran message List.mem_cons_self
        rcases known.2.headed known.1 with ⟨header, _, whole⟩
        have arrived : 4 ≤ transport.receiver.stream.length := by
          rw [conserved, List.flatten_cons, whole]
          simp
        simp [perform, Receiver.step, reading, arrived]
    | body headerLength =>
        rcases inStep.exists_first sound.aligned.framed_ran reading with
          ⟨first, others, _, announced, conserved⟩
        rw [wire, tailEq, List.append_nil, List.append_nil] at conserved
        have arrived : headerLength.toNat ≤ transport.receiver.stream.length := by
          rw [conserved, announced, List.length_append]
          exact Nat.le_add_right _ _
        simp [perform, Receiver.step, reading, arrived]
    | removed => exact absurd reading sound.listening
  constructor
  · rw [bodies, inStep.ordered, none, List.append_nil, inStep.handled]
  · have perm := sound.aligned.consistent.conserved
    rwa [nonePosted, List.append_nil] at perm

/-- When no message is sent any more and neither end fails, a link on which framed
or empty messages have been sent comes to rest in whatever order and portions its
bytes are moved, and has then handled the body of every message that is not empty,
exactly once and in the order in which `on_send` ran. -/
theorem everything_handled {initial : σ} {run : ℕ → Transport σ}
    (reachable : (properMachine kernel initial).Reachable (run 0))
    (unfailed : (run 0).writer.failed = false)
    (listening : (run 0).receiver.reading ≠ .removed)
    (goes : ∀ k, (∃ next, Moves kernel (run k) next) → Moves kernel (run k) (run (k + 1))) :
    ∃ k, (¬∃ next, Moves kernel (run k) next) ∧
      (run k).writer.sent = (run 0).writer.sent ∧
      (run k).receiver.handled = bodies (run k).writer.ran ∧
      (run k).writer.ran.Perm (run k).writer.sent ∧
      ((run k).receiver.sent, (run k).receiver.state) =
        Receiver.feed kernel (run k).receiver.handled [] initial := by
  let settling : Transport σ → Prop := fun transport =>
    (properMachine kernel initial).Reachable transport ∧ Sound transport ∧
      transport.writer.sent = (run 0).writer.sent
  have kept : ∀ transport next, settling transport → Moves kernel transport next →
      settling next := by
    rintro transport next ⟨reached, sound, sent⟩ ⟨event, moving, taken⟩
    have step := step_of_perform taken
    refine ⟨.step reached ⟨proper_of_moving moving, taken⟩, sound.step moving step, ?_⟩
    rw [sent_of_step (not_send_of_moving moving) step, sent]
  have lowers : ∀ transport next, settling transport → Moves kernel transport next →
      next.distance < transport.distance := by
    rintro transport next ⟨_, sound, _⟩ ⟨event, moving, taken⟩
    exact sound.distance_lt moving (step_of_perform taken)
  have starts : settling (run 0) :=
    ⟨reachable, ⟨aligned_of_reachable reachable, unfailed, listening⟩, rfl⟩
  rcases exists_rest_keeping (wellFounded_of_measure distance lowers) kept starts goes with
    ⟨k, ⟨reached, sound, sent⟩, rests⟩
  obtain ⟨handled, perm⟩ := sound.handled_of_rest rests
  exact ⟨k, rests, sent, handled, perm, fed_of_reachable reached⟩

theorem not_moves_of_empty (posted : transport.writer.posted = [])
    (outstanding : transport.writer.outstanding = []) (wire : transport.wire = [])
    (waits : transport.receiver.step kernel false = none) :
    ¬∃ next, Moves kernel transport next := by
  rintro ⟨next, event, moving, taken⟩
  rcases Machine.carry_eq_some_iff.mp taken with ⟨_, performed⟩
  cases event with
  | write event =>
      cases event with
      | send message => exact moving
      | onSend position => simp [perform, Writer.perform, posted] at performed
      | onWrite position failed => simp [perform, Writer.perform, outstanding] at performed
  | take count => simp [perform, outstanding] at performed
  | arrive count => exact moving.2 wire
  | read => simp [perform, waits] at performed
  | fail => exact moving

/-- Two messages, of which the second comes first; three of its bytes have been
taken. -/
def begun : List Event :=
  [.write (.send [1, 0, 0, 0, 7]), .write (.send [2, 0, 0, 0, 8, 9]), .write (.onSend 1), .take 3]

/-- What is left to be done then. -/
def finishing : List Event :=
  [.write (.onSend 0), .take 3, .write (.onWrite 0 false), .take 5, .arrive 7, .read,
    .write (.onWrite 0 false), .read, .arrive 4, .read, .read]

/-- The link after `k` of these steps. -/
def course (k : ℕ) : Transport Nat :=
  (run echo (begun ++ finishing.take k) (.start 0)).getD (.start 0)

theorem everything_handled_course :
    ∃ k, (¬∃ next, Moves echo (course k) next) ∧
      (course k).writer.sent = [[1, 0, 0, 0, 7], [2, 0, 0, 0, 8, 9]] ∧
      (course k).receiver.handled = bodies (course k).writer.ran ∧
      (course k).writer.ran.Perm (course k).writer.sent ∧
      ((course k).receiver.sent, (course k).receiver.state) =
        Receiver.feed echo (course k).receiver.handled [] 0 := by
  have proper : ∀ event ∈ begun, event.Proper := by
    rintro event member message rfl
    have two : message = [1, 0, 0, 0, 7] ∨ message = [2, 0, 0, 0, 8, 9] := by
      simpa [begun] using member
    rcases two with rfl | rfl
    · exact Or.inr ⟨[7], 1, rfl, rfl⟩
    · exact Or.inr ⟨[8, 9], 2, rfl, rfl⟩
  have reachable : (properMachine echo 0).Reachable (course 0) :=
    .foldlM_under (fun _ _ _ performed => performed) proper (.start rfl)
      (show begun.foldlM _ (start 0) = some (course 0) from rfl)
  have goes : ∀ k, (∃ next, Moves echo (course k) next) →
      Moves echo (course k) (course (k + 1)) := by
    intro k possible
    match k with
    | 0 => exact ⟨.write (.onSend 0), trivial, rfl⟩
    | 1 => exact ⟨.take 3, Nat.succ_pos 2, rfl⟩
    | 2 => exact ⟨.write (.onWrite 0 false), rfl, rfl⟩
    | 3 => exact ⟨.take 5, Nat.succ_pos 4, rfl⟩
    | 4 => exact ⟨.arrive 7, ⟨Nat.succ_pos 6, List.cons_ne_nil _ _⟩, rfl⟩
    | 5 => exact ⟨.read, trivial, rfl⟩
    | 6 => exact ⟨.write (.onWrite 0 false), rfl, rfl⟩
    | 7 => exact ⟨.read, trivial, rfl⟩
    | 8 => exact ⟨.arrive 4, ⟨Nat.succ_pos 3, List.cons_ne_nil _ _⟩, rfl⟩
    | 9 => exact ⟨.read, trivial, rfl⟩
    | 10 => exact ⟨.read, trivial, rfl⟩
    | k + 11 =>
        have all : finishing.take (k + 11) = finishing :=
          List.take_of_length_le (Nat.le_add_left 11 k)
        rw [course, all] at possible
        exact absurd possible (not_moves_of_empty rfl rfl rfl rfl)
  exact everything_handled reachable rfl Reading.noConfusion goes

end Transport

end Aurum.Node
