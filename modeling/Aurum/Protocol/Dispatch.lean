import Aurum.Protocol.Kernel

/-!
# What the dispatch loop dispatches

The sub-messages that the loop hands to handlers depend on the frame alone.
`dispatched` observes them by running the kernel itself with handlers that
only record their arguments, and `completes` observes whether the loop reaches
its end.  `handle_eq` then splits every call of `handle`, for any handlers,
into running those sub-messages in order and serializing the replies.
-/

namespace Aurum.Protocol.Kernel

open Aurum.Wire
open Aurum.Wire.LittleEndian

variable {σ : Type}

/-- Run the handlers of a list of sub-messages in order. -/
def run (table : HandlerTable σ) :
    List Submessage → ResponseBuilder → σ → Result ResponseBuilder × σ
  | [], builder, state => (.ok builder, state)
  | message :: messages, builder, state =>
      match invoke table message builder state with
      | .error failure => (.error failure, state)
      | .ok (builder, state) => run table messages builder state

/-- The result of the loop once its sub-messages have run: a loop that was cut
short returns `nullptr`. -/
def conclude (complete : Bool) :
    Result ResponseBuilder × σ → Result (Option ResponseBuilder) × σ
  | (.error failure, state) => (.error failure, state)
  | (.ok builder, state) => (.ok (if complete then some builder else none), state)

/-- Handlers that append their arguments to a list and queue no reply. -/
def recorder : HandlerTable (List Submessage) :=
  fun opcode type builder transactionId payload seen =>
    .ok (builder, seen ++ [⟨opcode, type, transactionId, payload⟩])

/-- The sub-messages of a frame that are handed to handlers. -/
def dispatched (frame : Bytes) : List Submessage :=
  (handle recorder false frame []).state

/-- Whether the frame is processed to its end. -/
def completes (frame : Bytes) : Bool :=
  decide ((handle recorder false frame []).outcome ≠ .rejected)

/-! ## Reading one sub-message -/

theorem readSubmessage_append (front back : Bytes) {message : Submessage} {offset length : Nat}
    (offsetEq : offset = front.length) (lengthEq : length = message.bytes.length) :
    readSubmessage (front ++ (message.bytes ++ back)) offset length = .ok message := by
  subst offsetEq lengthEq
  rcases message with ⟨opcode, ⟨type⟩, transactionId, payload⟩
  have opcodeRead : readU8 (front ++ ((⟨opcode, ⟨type⟩, transactionId, payload⟩ :
      Submessage).bytes ++ back)) front.length = .ok opcode :=
    readU8_append _ _ _ rfl
  have typeRead : readU8 (front ++ ((⟨opcode, ⟨type⟩, transactionId, payload⟩ :
      Submessage).bytes ++ back)) (front.length + 1) = .ok type := by
    have read := readU8_append (front ++ [opcode]) (transactionId.data ++ payload ++ back)
      type rfl
    simpa [Submessage.bytes] using read
  have idRead : readUuid (front ++ ((⟨opcode, ⟨type⟩, transactionId, payload⟩ :
      Submessage).bytes ++ back)) (front.length + 2) = .ok transactionId := by
    have read := readUuid_append (front ++ [opcode, type]) (payload ++ back) transactionId rfl
    simpa [Submessage.bytes] using read
  have payloadRead : readBytes (front ++ ((⟨opcode, ⟨type⟩, transactionId, payload⟩ :
      Submessage).bytes ++ back)) (front.length + 18)
        ((⟨opcode, ⟨type⟩, transactionId, payload⟩ : Submessage).bytes.length - 18) =
      .ok payload := by
    have read := readBytes_append (front ++ (opcode :: type :: transactionId.data))
      payload back rfl
      (show (⟨opcode, ⟨type⟩, transactionId, payload⟩ : Submessage).bytes.length - 18 =
        payload.length by simp [Submessage.bytes_length])
    simpa [Submessage.bytes] using read
  simp only [readSubmessage, opcodeRead, typeRead, idRead, payloadRead, bind, Except.bind,
    pure, Except.pure]

/-! ## The loop as a run over sub-messages -/

/-- The loop runs the handlers of the pieces that the length table cuts out of
the checksummed bytes, up to the first piece that does not fit. -/
theorem dispatch_eq_run (frame : Bytes) (lengths : List UInt16) {offset : Nat}
    (inside : offset ≤ frame.length - 2) :
    ∃ messages : List Submessage,
      messages.map Submessage.bytes =
          (cut 18 (lengths.map UInt16.toNat) ((frame.take (frame.length - 2)).drop offset)).1 ∧
        ∀ {σ : Type} (table : HandlerTable σ) (builder : ResponseBuilder) (state : σ),
          dispatch table frame lengths offset builder state =
            conclude (cut 18 (lengths.map UInt16.toNat)
                ((frame.take (frame.length - 2)).drop offset)).2.isSome
              (run table messages builder state) := by
  induction lengths generalizing offset with
  | nil => exact ⟨[], rfl, fun table builder state => rfl⟩
  | cons length lengths ih =>
      have remaining : ((frame.take (frame.length - 2)).drop offset).length =
          frame.length - 2 - offset := by
        simp
      by_cases fits : length.toNat ≤ ((frame.take (frame.length - 2)).drop offset).length ∧
          18 ≤ length.toNat
      · have room : length.toNat ≤ frame.length - 2 - offset := by
          rw [← remaining]
          exact fits.1
        have advanced : offset + length.toNat ≤ frame.length - 2 := by omega
        obtain ⟨messages, piecesEq, runEq⟩ := ih advanced
        have pieceLength :
            (((frame.take (frame.length - 2)).drop offset).take length.toNat).length =
              length.toNat := by
          rw [List.length_take, Nat.min_eq_left fits.1]
        have longEnough : 18 ≤
            (((frame.take (frame.length - 2)).drop offset).take length.toNat).length := by
          rw [pieceLength]
          exact fits.2
        obtain ⟨message, messageEq⟩ := Submessage.exists_bytes_eq longEnough
        have split : frame = frame.take offset ++ (message.bytes ++
            (frame.drop (offset + length.toNat))) := by
          have pieceEq : message.bytes = (frame.drop offset).take length.toNat := by
            rw [messageEq, List.drop_take, List.take_take, Nat.min_eq_left (by omega)]
          rw [pieceEq, ← List.drop_drop, List.take_append_drop, List.take_append_drop]
        have read : readSubmessage frame offset length.toNat = .ok message := by
          have front : offset = (frame.take offset).length := by
            rw [List.length_take, Nat.min_eq_left (by omega)]
          have size : length.toNat = message.bytes.length := by
            rw [messageEq, pieceLength]
          have readSplit := readSubmessage_append (frame.take offset)
            (frame.drop (offset + length.toNat)) front size
          rwa [← split] at readSplit
        rw [List.map_cons, cut_cons_of_fits fits, List.drop_drop]
        refine ⟨message :: messages, by rw [List.map_cons, messageEq, piecesEq], ?_⟩
        intro σ table builder state
        rw [dispatch, if_neg (by omega), if_neg (by omega), read, run]
        simp only
        cases invoke table message builder state with
        | error failure => rfl
        | ok result => exact runEq table result.1 result.2
      · rw [List.map_cons, cut_cons_of_not_fits fits]
        refine ⟨[], rfl, ?_⟩
        intro σ table builder state
        rw [dispatch]
        by_cases tooLong : frame.length - 2 - offset < length.toNat
        · rw [if_pos tooLong]
          rfl
        · have tooShort : length.toNat < 18 := by
            by_contra longEnough
            exact fits ⟨by omega, by omega⟩
          rw [if_neg tooLong, if_pos tooShort]
          rfl

theorem run_recorder (messages : List Submessage) (builder : ResponseBuilder)
    (seen : List Submessage) :
    run recorder messages builder seen = (.ok builder, seen ++ messages) := by
  induction messages generalizing seen with
  | nil => simp [run]
  | cons message messages ih =>
      have step : invoke recorder message builder seen = .ok (builder, seen ++ [message]) := rfl
      rw [run, step]
      simp only
      rw [ih, List.append_assoc, List.singleton_append]

private theorem finish_conclude_recorder (withHeader complete : Bool) (seen : List Submessage) :
    finish withHeader (conclude complete (.ok ({} : ResponseBuilder), seen)) =
      ⟨if complete then .replied [] else .rejected, seen⟩ := by
  cases complete <;> rfl

/-- The sub-messages dispatched from a frame with a proper header. -/
theorem dispatched_tabled {lengths : List UInt16} (rest : Bytes)
    (countBound : lengths.length < 65536) :
    (dispatched (tabled lengths rest)).map Submessage.bytes =
        (cut 18 (lengths.map UInt16.toNat) rest).1 ∧
      completes (tabled lengths rest) = (cut 18 (lengths.map UInt16.toNat) rest).2.isSome ∧
      ∀ {σ : Type} (table : HandlerTable σ) (withHeader : Bool) (state : σ),
        handle table withHeader (tabled lengths rest) state =
          finish withHeader (conclude (completes (tabled lengths rest))
            (run table (dispatched (tabled lengths rest)) {} state)) := by
  have frameLength := tabled_length lengths rest
  have bodyLength := tabledBody_length lengths rest
  have covered : (tabled lengths rest).take ((tabled lengths rest).length - 2) =
      tabledBody lengths rest := by
    rw [frameLength, Nat.add_sub_cancel, tabled_eq, List.take_left]
  have inside : 2 + 2 * lengths.length ≤ (tabled lengths rest).length - 2 := by omega
  obtain ⟨messages, piecesEq, runEq⟩ := dispatch_eq_run (tabled lengths rest) lengths inside
  rw [covered, tabledBody_drop] at piecesEq
  simp only [covered, tabledBody_drop] at runEq
  have recorded : handle recorder false (tabled lengths rest) [] =
      ⟨if (cut 18 (lengths.map UInt16.toNat) rest).2.isSome then .replied [] else .rejected,
        messages⟩ := by
    rw [handle_tabled recorder false [] rest countBound, runEq, run_recorder, List.nil_append,
      finish_conclude_recorder]
  have dispatchedEq : dispatched (tabled lengths rest) = messages := by
    rw [dispatched, recorded]
  have completesEq : completes (tabled lengths rest) =
      (cut 18 (lengths.map UInt16.toNat) rest).2.isSome := by
    rw [completes, recorded]
    cases (cut 18 (lengths.map UInt16.toNat) rest).2.isSome <;> rfl
  refine ⟨by rw [dispatchedEq, piecesEq], completesEq, ?_⟩
  intro σ table withHeader state
  rw [handle_tabled table withHeader state rest countBound, runEq, dispatchedEq, completesEq]

/-- Nothing is dispatched from a frame without a proper header. -/
theorem dispatched_of_not_tabled {frame : Bytes}
    (malformed : ¬∃ lengths rest, lengths.length < 65536 ∧ frame = tabled lengths rest) :
    dispatched frame = [] ∧ completes frame = false := by
  rw [dispatched, completes, handle_of_not_tabled recorder false [] malformed]
  exact ⟨rfl, rfl⟩

/-- Every call of `handle` runs the dispatched sub-messages in order and then
replies exactly when the frame was processed to its end. -/
theorem handle_eq (table : HandlerTable σ) (withHeader : Bool) (frame : Bytes) (state : σ) :
    handle table withHeader frame state =
      finish withHeader (conclude (completes frame) (run table (dispatched frame) {} state)) := by
  by_cases proper : ∃ lengths rest, lengths.length < 65536 ∧ frame = tabled lengths rest
  · rcases proper with ⟨lengths, rest, countBound, rfl⟩
    exact (dispatched_tabled rest countBound).2.2 table withHeader state
  · obtain ⟨noneDispatched, incomplete⟩ := dispatched_of_not_tabled proper
    rw [noneDispatched, incomplete, handle_of_not_tabled table withHeader state proper]
    rfl

/-! ## The calls of a run -/

/-- One handler call with the states around it. -/
structure Call (σ : Type) where
  message : Submessage
  before : σ
  after : σ

/-- The handler calls that return, in order. -/
def calls (table : HandlerTable σ) :
    List Submessage → ResponseBuilder → σ → List (Call σ)
  | [], _, _ => []
  | message :: messages, builder, state =>
      match invoke table message builder state with
      | .error _ => []
      | .ok (builder, next) => ⟨message, state, next⟩ :: calls table messages builder next

/-- What every call keeps, the run keeps. -/
theorem run_keeps (holds : σ → Prop) {table : HandlerTable σ} {messages : List Submessage}
    {builder : ResponseBuilder} {state : σ}
    (kept : ∀ call ∈ calls table messages builder state, holds call.before → holds call.after)
    (starts : holds state) : holds (run table messages builder state).2 := by
  induction messages generalizing builder state with
  | nil => exact starts
  | cons message messages ih =>
      rw [run]
      rw [calls] at kept
      cases step : invoke table message builder state with
      | error failure => exact starts
      | ok result =>
          rw [step] at kept
          exact ih (fun call member => kept call (List.mem_cons_of_mem _ member))
            (kept _ List.mem_cons_self starts)

/-- Every call is a handler call on one of the sub-messages. -/
theorem mem_calls {table : HandlerTable σ} {messages : List Submessage}
    {builder : ResponseBuilder} {state : σ} {call : Call σ}
    (member : call ∈ calls table messages builder state) :
    call.message ∈ messages ∧ ∃ builder result,
      invoke table call.message builder call.before = .ok (result, call.after) := by
  induction messages generalizing builder state with
  | nil => cases member
  | cons message messages ih =>
      rw [calls] at member
      cases step : invoke table message builder state with
      | error failure =>
          rw [step] at member
          cases member
      | ok result =>
          rw [step] at member
          rcases List.mem_cons.mp member with rfl | member
          · exact ⟨List.mem_cons_self, builder, result.1, step⟩
          · obtain ⟨within, invoked⟩ := ih member
            exact ⟨List.mem_cons_of_mem message within, invoked⟩

/-- A property that every call keeps holds before and after every call. -/
theorem holds_along_calls (holds : σ → Prop) {table : HandlerTable σ}
    {messages : List Submessage} {builder : ResponseBuilder} {state : σ}
    (kept : ∀ call ∈ calls table messages builder state, holds call.before → holds call.after)
    (starts : holds state) :
    ∀ call ∈ calls table messages builder state, holds call.before ∧ holds call.after := by
  induction messages generalizing builder state with
  | nil => simp [calls]
  | cons message messages ih =>
      rw [calls] at kept ⊢
      cases step : invoke table message builder state with
      | error failure => simp
      | ok result =>
          rw [step] at kept
          have after := kept _ List.mem_cons_self starts
          intro call member
          rcases List.mem_cons.mp member with rfl | member
          · exact ⟨starts, after⟩
          · exact ih (fun call within => kept call (List.mem_cons_of_mem _ within)) after call
              member

end Aurum.Protocol.Kernel
