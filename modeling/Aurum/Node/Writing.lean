import Aurum.Protocol.Core
import Aurum.Transition.Machine
import Mathlib.Data.List.Perm.Basic

/-!
# The write queue of a session

`send` posts `on_send` on the strand of a session, `on_send` and the completion
handler `on_write` run there one at a time, and each may start an asynchronous
write.  No flag says whether a write is outstanding: a non-empty queue does.

The machine interleaves calls of `send`, posted `on_send` handlers and
completions in any order.
-/

namespace Aurum.Node.Writing

open Aurum.Protocol
open Aurum.Transition

/-- What a callback asks of the stream and of the node. -/
inductive Request
  | asyncWrite (buffer : Bytes)
  | removeSession
  deriving DecidableEq

/-- The buffers of the writes among some requests. -/
def Request.writes : List Request → List Bytes
  | [] => []
  | .asyncWrite buffer :: requests => buffer :: writes requests
  | .removeSession :: requests => writes requests

/-- Queue a message; only a message that is alone in the queue starts a write. -/
def onSend (queue : List Bytes) (message : Bytes) : List Bytes × List Request :=
  let queue := queue ++ [message]
  if queue.length > 1 then
    (queue, [])
  else
    (queue, queue.head?.toList.map .asyncWrite)

/-- Complete a write; `none` is an erase from an empty queue. -/
def onWrite (queue : List Bytes) (failed : Bool) : Option (List Bytes × List Request) :=
  if failed then
    some (queue, [.removeSession])
  else
    match queue with
    | [] => none
    | _ :: queue => some (queue, queue.head?.toList.map .asyncWrite)

namespace TcpSession

/-- `tcp_session::on_send`. -/
def onSend (queue : List Bytes) (message : Bytes) : List Bytes × List Request :=
  Writing.onSend queue message

/-- `tcp_session::on_write`. -/
def onWrite (queue : List Bytes) (failed : Bool) : Option (List Bytes × List Request) :=
  Writing.onWrite queue failed

end TcpSession

namespace WebsocketSession

/-- `websocket_session::on_send`. -/
def onSend (queue : List Bytes) (message : Bytes) : List Bytes × List Request :=
  Writing.onSend queue message

/-- `websocket_session::on_write`. -/
def onWrite (queue : List Bytes) (failed : Bool) : Option (List Bytes × List Request) :=
  Writing.onWrite queue failed

end WebsocketSession

/-- `on_send` of a session of the given type. -/
def onSendOf : SessionType → List Bytes → Bytes → List Bytes × List Request
  | .tcp => TcpSession.onSend
  | .websocket => WebsocketSession.onSend

/-- `on_write` of a session of the given type. -/
def onWriteOf : SessionType → List Bytes → Bool → Option (List Bytes × List Request)
  | .tcp => TcpSession.onWrite
  | .websocket => WebsocketSession.onWrite

/-- A session as its strand and its stream see it. -/
structure Writer where
  /-- The messages passed to `send`. -/
  sent : List Bytes
  /-- The messages of the `on_send` handlers that have not run. -/
  posted : List Bytes
  /-- The messages in the order their `on_send` ran. -/
  ran : List Bytes
  queue : List Bytes
  /-- Every write started so far. -/
  started : List Bytes
  /-- The writes that have not completed. -/
  outstanding : List Bytes
  /-- The messages completely written. -/
  written : List Bytes
  /-- Whether a write has completed with an error. -/
  failed : Bool
  /-- How often the session has asked to be removed. -/
  removals : Nat
  deriving DecidableEq

/-- A session that nothing was sent on. -/
def Writer.idle : Writer where
  sent := []
  posted := []
  ran := []
  queue := []
  started := []
  outstanding := []
  written := []
  failed := false
  removals := 0

/-- What can happen to a session's writes.  Handlers and writes are named by
their position among those pending. -/
inductive Event
  | send (message : Bytes)
  | onSend (position : Nat)
  | onWrite (position : Nat) (failed : Bool)
  deriving DecidableEq

namespace Writer

/-- Carry out what a callback asked for. -/
def carryOut (requests : List Request) (writer : Writer) : Writer :=
  { writer with
    started := writer.started ++ Request.writes requests
    outstanding := writer.outstanding ++ Request.writes requests
    removals := writer.removals + requests.count .removeSession }

/-- One event; `none` when nothing is pending at its position. -/
def perform (type : SessionType) (writer : Writer) : Event → Option Writer
  | .send message =>
      some { writer with
        sent := writer.sent ++ [message]
        posted := writer.posted ++ [message] }
  | .onSend position => do
      let message ← writer.posted[position]?
      let (queue, requests) := onSendOf type writer.queue message
      return carryOut requests { writer with
        posted := writer.posted.eraseIdx position
        ran := writer.ran ++ [message]
        queue := queue }
  | .onWrite position failed => do
      let buffer ← writer.outstanding[position]?
      let (queue, requests) ← onWriteOf type writer.queue failed
      return carryOut requests { writer with
        outstanding := writer.outstanding.eraseIdx position
        written := if failed then writer.written else writer.written ++ [buffer]
        failed := writer.failed || failed
        queue := queue }

end Writer

/-- A session of the given type with the events of its writes. -/
def machine (type : SessionType) : Machine Writer Event where
  start writer := writer = .idle
  step writer event next := writer.perform type event = some next

/-! ## What a step can do -/

/-- The step of one event. -/
inductive Step (writer : Writer) : Event → Writer → Prop
  | send (message : Bytes) :
      Step writer (.send message) { writer with
        sent := writer.sent ++ [message]
        posted := writer.posted ++ [message] }
  /-- A message queued behind another one starts nothing. -/
  | queued (position : Nat) (message : Bytes)
      (pending : writer.posted[position]? = some message) (busy : writer.queue ≠ []) :
      Step writer (.onSend position) { writer with
        posted := writer.posted.eraseIdx position
        ran := writer.ran ++ [message]
        queue := writer.queue ++ [message] }
  /-- A message alone in the queue is written at once. -/
  | written (position : Nat) (message : Bytes)
      (pending : writer.posted[position]? = some message) (empty : writer.queue = []) :
      Step writer (.onSend position) { writer with
        posted := writer.posted.eraseIdx position
        ran := writer.ran ++ [message]
        queue := [message]
        started := writer.started ++ [message]
        outstanding := writer.outstanding ++ [message] }
  /-- A finished write makes room for the next one. -/
  | completed (position : Nat) (buffer front : Bytes) (rest : List Bytes)
      (pending : writer.outstanding[position]? = some buffer)
      (queued : writer.queue = front :: rest) :
      Step writer (.onWrite position false) { writer with
        outstanding := writer.outstanding.eraseIdx position ++ rest.head?.toList
        started := writer.started ++ rest.head?.toList
        written := writer.written ++ [buffer]
        queue := rest }
  /-- A failed write leaves its message in the queue. -/
  | errored (position : Nat) (buffer : Bytes)
      (pending : writer.outstanding[position]? = some buffer) :
      Step writer (.onWrite position true) { writer with
        outstanding := writer.outstanding.eraseIdx position
        failed := true
        removals := writer.removals + 1 }

@[simp]
theorem onSendOf_eq (type : SessionType) (queue : List Bytes) (message : Bytes) :
    onSendOf type queue message = onSend queue message := by
  cases type <;> rfl

@[simp]
theorem onWriteOf_eq (type : SessionType) (queue : List Bytes) (failed : Bool) :
    onWriteOf type queue failed = onWrite queue failed := by
  cases type <;> rfl

theorem onSend_nil (message : Bytes) :
    onSend [] message = ([message], [.asyncWrite message]) := by
  simp [onSend]

theorem onSend_of_ne_nil {queue : List Bytes} (busy : queue ≠ []) (message : Bytes) :
    onSend queue message = (queue ++ [message], []) := by
  have positive := List.length_pos_of_ne_nil busy
  rw [onSend]
  apply if_pos
  rw [List.length_append, List.length_singleton]
  omega

@[simp]
theorem writes_asyncWrite (buffers : List Bytes) :
    Request.writes (buffers.map .asyncWrite) = buffers := by
  induction buffers with
  | nil => rfl
  | cons buffer buffers ih => simp [Request.writes, ih]

@[simp]
theorem count_removeSession_asyncWrite (buffers : List Bytes) :
    (buffers.map Request.asyncWrite).count .removeSession = 0 := by
  simp [List.count_eq_zero]

/-- Every event is one of the steps, for both kinds of session. -/
theorem step_of_perform {type : SessionType} {writer next : Writer} {event : Event}
    (performed : writer.perform type event = some next) : Step writer event next := by
  cases event with
  | send message =>
      cases performed
      exact .send message
  | onSend position =>
      rcases Option.bind_eq_some_iff.mp performed with ⟨message, pending, rest⟩
      simp only [onSendOf_eq] at rest
      by_cases empty : writer.queue = []
      · rw [empty, onSend_nil] at rest
        cases rest
        exact .written position message pending empty
      · rw [onSend_of_ne_nil empty] at rest
        cases rest
        simp only [Writer.carryOut, Request.writes, List.append_nil, List.count_nil,
          Nat.add_zero]
        exact .queued position message pending empty
  | onWrite position failed =>
      rcases Option.bind_eq_some_iff.mp performed with ⟨buffer, pending, rest⟩
      simp only [onWriteOf_eq] at rest
      cases failed with
      | true =>
          cases rest
          simp only [Writer.carryOut, Request.writes, List.append_nil, Bool.or_true, if_true,
            List.count_singleton_self]
          exact .errored position buffer pending
      | false =>
          cases queued : writer.queue with
          | nil =>
              rw [queued] at rest
              cases rest
          | cons front behind =>
              rw [queued] at rest
              cases rest
              simp only [Writer.carryOut, writes_asyncWrite, count_removeSession_asyncWrite,
                Bool.or_false, Nat.add_zero]
              exact .completed position buffer front behind pending queued

/-! ## The invariant -/

/-- The queue is what has run and is not yet written; its front is what is
being written, until a write fails. -/
structure Consistent (writer : Writer) : Prop where
  busy : writer.failed = false → writer.outstanding = writer.queue.head?.toList
  /-- A failed write stays in the queue and keeps it from becoming empty. -/
  stopped : writer.failed = true → writer.outstanding = [] ∧ writer.queue ≠ []
  ordered : writer.written ++ writer.queue = writer.ran
  conserved : (writer.ran ++ writer.posted).Perm writer.sent
  removed : writer.removals = if writer.failed then 1 else 0

theorem consistent_idle : Consistent .idle where
  busy := fun _ => rfl
  stopped := fun failed => by cases failed
  ordered := rfl
  conserved := List.Perm.refl _
  removed := rfl

/-- Taking one handler off the posted ones and running it changes nothing in
what is still to be accounted for. -/
theorem perm_of_posted {ran posted : List Bytes} {position : Nat} {message : Bytes}
    (pending : posted[position]? = some message) :
    ((ran ++ [message]) ++ posted.eraseIdx position).Perm (ran ++ posted) := by
  rw [List.append_assoc]
  apply List.Perm.append_left
  rcases List.getElem?_eq_some_iff.mp pending with ⟨inside, found⟩
  have front := List.getElem_cons_eraseIdx_perm inside
  rwa [found] at front

namespace Consistent

variable {writer : Writer}

/-- Completions come only before the first error. -/
theorem unfailed_of_pending (consistent : Consistent writer) {position : Nat} {buffer : Bytes}
    (pending : writer.outstanding[position]? = some buffer) : writer.failed = false := by
  by_contra failed
  rw [(consistent.stopped (by simpa using failed)).1] at pending
  cases pending

/-- The one write outstanding is that of the front of the queue. -/
theorem front_of_pending (consistent : Consistent writer) {position : Nat} {buffer : Bytes}
    (pending : writer.outstanding[position]? = some buffer) :
    ∃ rest, writer.queue = buffer :: rest ∧ writer.outstanding = [buffer] ∧ position = 0 := by
  have outstanding := consistent.busy (consistent.unfailed_of_pending pending)
  cases queued : writer.queue with
  | nil =>
      rw [outstanding, queued] at pending
      cases pending
  | cons front rest =>
      rw [queued] at outstanding
      rw [outstanding] at pending
      cases position with
      | zero =>
          cases pending
          exact ⟨rest, rfl, outstanding, rfl⟩
      | succ position => cases pending

theorem step {next : Writer} {event : Event} (consistent : Consistent writer)
    (step : Step writer event next) : Consistent next := by
  cases step with
  | send message =>
      constructor
      · exact consistent.busy
      · exact consistent.stopped
      · exact consistent.ordered
      · rw [← List.append_assoc]
        exact consistent.conserved.append_right [message]
      · exact consistent.removed
  | queued position message pending busy =>
      constructor
      · intro unfailed
        rw [consistent.busy unfailed, List.head?_append_of_ne_nil _ busy]
      · intro failed
        exact ⟨(consistent.stopped failed).1, by simp⟩
      · rw [← consistent.ordered, List.append_assoc]
      · exact (perm_of_posted pending).trans consistent.conserved
      · exact consistent.removed
  | written position message pending empty =>
      have unfailed : writer.failed = false := by
        by_contra failed
        exact (consistent.stopped (by simpa using failed)).2 empty
      constructor
      · intro _
        rw [consistent.busy unfailed, empty]
        rfl
      · intro failed
        rw [unfailed] at failed
        cases failed
      · rw [← consistent.ordered, empty, List.append_nil]
      · exact (perm_of_posted pending).trans consistent.conserved
      · exact consistent.removed
  | completed position buffer front rest pending queued =>
      rcases consistent.front_of_pending pending with ⟨behind, fronted, outstanding, rfl⟩
      have unfailed := consistent.unfailed_of_pending pending
      have same : front :: rest = buffer :: behind := queued.symm.trans fronted
      cases same
      constructor
      · intro _
        rw [outstanding]
        rfl
      · intro failed
        rw [unfailed] at failed
        cases failed
      · rw [← consistent.ordered, fronted, List.append_assoc]
        rfl
      · exact consistent.conserved
      · exact consistent.removed
  | errored position buffer pending =>
      rcases consistent.front_of_pending pending with ⟨behind, fronted, outstanding, rfl⟩
      have unfailed := consistent.unfailed_of_pending pending
      constructor
      · intro impossible
        cases impossible
      · intro _
        rw [outstanding, fronted]
        exact ⟨rfl, List.cons_ne_nil _ _⟩
      · exact consistent.ordered
      · exact consistent.conserved
      · rw [consistent.removed, unfailed]
        rfl

end Consistent

theorem consistent_of_reachable {type : SessionType} {writer : Writer}
    (reachable : (machine type).Reachable writer) : Consistent writer := by
  apply reachable.invariant
  · rintro start rfl
    exact consistent_idle
  · intro before event next _ consistent taken
    exact consistent.step (step_of_perform taken)

/-- A handler or a completion that is pending can be run: `on_write` never
erases from an empty queue. -/
theorem exists_perform {type : SessionType} {writer : Writer}
    (reachable : (machine type).Reachable writer) {position : Nat} (failed : Bool)
    (pending : position < writer.outstanding.length) :
    ∃ next, writer.perform type (.onWrite position failed) = some next := by
  have found := List.getElem?_eq_getElem pending
  rcases (consistent_of_reachable reachable).front_of_pending found with ⟨rest, fronted, _⟩
  rw [Writer.perform, found]
  simp only [onWriteOf_eq, fronted]
  cases failed with
  | true => exact ⟨_, rfl⟩
  | false => exact ⟨_, rfl⟩

/-! ## After an error -/

/-- The session from a state on. -/
def machineFrom (type : SessionType) (writer : Writer) : Machine Writer Event where
  start start := start = writer
  step := (machine type).step

/-- A failed session has no write outstanding and starts none. -/
theorem started_of_failed {type : SessionType} {writer later : Writer}
    (consistent : Consistent writer) (failed : writer.failed = true)
    (reached : (machineFrom type writer).Reachable later) : later.started = writer.started := by
  have kept : Consistent later ∧ later.failed = true ∧ later.started = writer.started := by
    apply reached.invariant
    · rintro start rfl
      exact ⟨consistent, failed, rfl⟩
    · rintro before event next _ ⟨invariant, stopped, same⟩ taken
      have step := step_of_perform taken
      refine ⟨invariant.step step, ?_⟩
      cases step with
      | send message => exact ⟨stopped, same⟩
      | queued position message pending busy => exact ⟨stopped, same⟩
      | written position message pending empty =>
          exact absurd empty (invariant.stopped stopped).2
      | completed position buffer front rest pending queued =>
          rw [invariant.unfailed_of_pending pending] at stopped
          cases stopped
      | errored position buffer pending => exact ⟨rfl, same⟩
  exact kept.2.2

/-! ## The write queue -/

/-- At most one write is outstanding and, until a write fails, it is that of
the front of the queue; what is completely written is a prefix of what
`on_send` ran on; a session with nothing pending has written every message
sent, exactly once; and a failed session starts no further write. -/
theorem writes_in_order {type : SessionType} {writer : Writer}
    (reachable : (machine type).Reachable writer) :
    writer.outstanding.length ≤ 1 ∧
      (writer.failed = false → writer.outstanding = writer.queue.head?.toList) ∧
      writer.written <+: writer.ran ∧
      (writer.failed = false → writer.posted = [] → writer.outstanding = [] →
        writer.written = writer.ran ∧ writer.written.Perm writer.sent) ∧
      (writer.failed = true → ∀ later, (machineFrom type writer).Reachable later →
        later.started = writer.started) := by
  have consistent := consistent_of_reachable reachable
  refine ⟨?_, consistent.busy, ⟨writer.queue, consistent.ordered⟩, ?_, ?_⟩
  · cases failed : writer.failed with
    | true =>
        rw [(consistent.stopped failed).1]
        exact Nat.zero_le 1
    | false =>
        rw [consistent.busy failed]
        exact Option.length_toList_le
  · intro unfailed nonePosted noneOutstanding
    have empty : writer.queue = [] := by
      rw [consistent.busy unfailed, Option.toList_eq_nil_iff, List.head?_eq_none_iff]
        at noneOutstanding
      exact noneOutstanding
    have all : writer.written = writer.ran := by
      rw [← consistent.ordered, empty, List.append_nil]
    refine ⟨all, ?_⟩
    have conserved := consistent.conserved
    rw [nonePosted, List.append_nil] at conserved
    rw [all]
    exact conserved
  · intro failed later reached
    exact started_of_failed consistent failed reached

/-- The session after some events, if each was possible. -/
def run (type : SessionType) (events : List Event) : Option Writer :=
  events.foldlM (Writer.perform type) .idle

theorem reachable_of_run {type : SessionType} {events : List Event} {writer : Writer}
    (ran : run type events = some writer) : (machine type).Reachable writer :=
  .foldlM (fun _ _ _ performed => performed) (.start rfl) ran

/-- Three messages of which the second fails while the third is queued. -/
def brokenOff : List Event :=
  [.send [1], .send [2], .send [3], .onSend 0, .onSend 0, .onWrite 0 false, .onSend 0,
    .onWrite 0 true]

theorem writes_in_order_brokenOff :
    ∃ writer, run .tcp brokenOff = some writer ∧ writer.written = [[1]] ∧
      writer.started = [[1], [2]] ∧ writer.failed = true ∧
      writer.outstanding.length ≤ 1 ∧
      (writer.failed = false → writer.outstanding = writer.queue.head?.toList) ∧
      writer.written <+: writer.ran ∧
      (writer.failed = false → writer.posted = [] → writer.outstanding = [] →
        writer.written = writer.ran ∧ writer.written.Perm writer.sent) ∧
      (writer.failed = true → ∀ later, (machineFrom .tcp writer).Reachable later →
        later.started = writer.started) := by
  obtain ⟨writer, ran⟩ : ∃ writer, run .tcp brokenOff = some writer := ⟨_, rfl⟩
  have reachable := reachable_of_run ran
  refine ⟨writer, ran, ?_, ?_, ?_, writes_in_order reachable⟩ <;> cases ran <;> rfl

end Aurum.Node.Writing
