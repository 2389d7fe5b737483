import Aurum.Protocol.FrameBuilder

/-!
# The session kernel

`session_kernel::handle`: checksum, count, length table and the dispatch loop
that runs one operation handler for every sub-message.  The kernel is generic
in what the handlers act on; the handler table is the 256-entry array it looks
opcodes up in.  Handlers run inside the loop, so the state they leave is
returned on every exit.

The second half relates the loop to the list of sub-messages it dispatches.
-/

namespace Aurum.Protocol

open Aurum.Wire
open Aurum.Wire.LittleEndian

/-- `handler_type`, with the session and the node it closes over in `σ`. -/
abbrev Handler (σ : Type) :=
  MessageType → ResponseBuilder → Uuid → Bytes → σ → Result (ResponseBuilder × σ)

/-- The array of handlers, indexed by opcode. -/
abbrev HandlerTable (σ : Type) := UInt8 → Handler σ

/-- How `handle` ends: `nullptr`, a reply buffer, or an escaping failure. -/
inductive Outcome
  | rejected
  | replied (buffer : Bytes)
  | thrown (failure : Failure)
  deriving DecidableEq

structure Handled (σ : Type) where
  outcome : Outcome
  state : σ

namespace Kernel

variable {σ : Type}

/-- Read the table of lengths; also returns the cursor behind it. -/
def readLengths (frame : Bytes) : Nat → Nat → Result (List UInt16 × Nat)
  | 0, offset => .ok ([], offset)
  | count + 1, offset => do
      let length ← readU16 frame offset
      let (lengths, final) ← readLengths frame count (offset + 2)
      return (length :: lengths, final)

/-- The fields of the sub-message of the given length at the cursor. -/
def readSubmessage (frame : Bytes) (offset length : Nat) : Result Submessage := do
  let opcode ← readU8 frame offset
  let type ← readU8 frame (offset + 1)
  let transactionId ← readUuid frame (offset + 2)
  let payload ← readBytes frame (offset + 18) (length - 18)
  return ⟨opcode, ⟨type⟩, transactionId, payload⟩

/-- Look the handler of a sub-message up and run it. -/
def invoke (table : HandlerTable σ) (message : Submessage) (builder : ResponseBuilder)
    (state : σ) : Result (ResponseBuilder × σ) :=
  table message.opcode message.type builder message.transactionId message.payload state

/-- The dispatch loop; `none` is its early `return nullptr`. -/
def dispatch (table : HandlerTable σ) (frame : Bytes) :
    List UInt16 → Nat → ResponseBuilder → σ → Result (Option ResponseBuilder) × σ
  | [], _, builder, state => (.ok (some builder), state)
  | requestLength :: lengths, offset, builder, state =>
      if frame.length - 2 - offset < requestLength.toNat then
        (.ok none, state)
      else if requestLength.toNat < 18 then
        (.ok none, state)
      else
        match readSubmessage frame offset requestLength.toNat with
        | .error failure => (.error failure, state)
        | .ok message =>
            match invoke table message builder state with
            | .error failure => (.error failure, state)
            | .ok (builder, state) =>
                dispatch table frame lengths (offset + requestLength.toNat) builder state

/-- What follows the loop: serialize the replies queued by the handlers. -/
def finish (withHeader : Bool) : Result (Option ResponseBuilder) × σ → Handled σ
  | (.error failure, state) => ⟨.thrown failure, state⟩
  | (.ok none, state) => ⟨.rejected, state⟩
  | (.ok (some builder), state) =>
      match builder.getBuffers withHeader with
      | .error failure => ⟨.thrown failure, state⟩
      | .ok buffer => ⟨.replied buffer, state⟩

/-- `session_kernel::handle`.  Callers always pass a frame, so the null check
of the source has no counterpart. -/
def handle (table : HandlerTable σ) (withHeader : Bool) (frame : Bytes) (state : σ) :
    Handled σ :=
  if frame.length < 2 then
    ⟨.rejected, state⟩
  else
    match readU16 frame (frame.length - 2) with
    | .error failure => ⟨.thrown failure, state⟩
    | .ok expectedCrc =>
        if Crc.ccitt (frame.take (frame.length - 2)) ≠ expectedCrc then
          ⟨.rejected, state⟩
        else if frame.length - 2 < 2 then
          ⟨.rejected, state⟩
        else
          match readU16 frame 0 with
          | .error failure => ⟨.thrown failure, state⟩
          | .ok numberOfRequests =>
              if frame.length - 2 - 2 < numberOfRequests.toNat * 2 then
                ⟨.rejected, state⟩
              else
                match readLengths frame numberOfRequests.toNat 2 with
                | .error failure => ⟨.thrown failure, state⟩
                | .ok (lengths, offset) =>
                    finish withHeader (dispatch table frame lengths offset {} state)

/-! ## The frame header -/

/-- A frame whose checksum, count and length table are in order: the table and
the bytes behind it are left open. -/
def tabled (lengths : List UInt16) (rest : Bytes) : Bytes :=
  checksummed (le16 (UInt16.ofNat lengths.length) ++ (lengths.flatMap le16 ++ rest))

/-- What the checksum of `tabled lengths rest` covers. -/
def tabledBody (lengths : List UInt16) (rest : Bytes) : Bytes :=
  le16 (UInt16.ofNat lengths.length) ++ (lengths.flatMap le16 ++ rest)

theorem tabled_eq (lengths : List UInt16) (rest : Bytes) :
    tabled lengths rest = tabledBody lengths rest ++ le16 (Crc.ccitt (tabledBody lengths rest)) :=
  rfl

theorem tabledBody_length (lengths : List UInt16) (rest : Bytes) :
    (tabledBody lengths rest).length = 2 + 2 * lengths.length + rest.length := by
  simp only [tabledBody, List.length_append, le16_length, flatMap_le16_length]
  omega

theorem tabled_length (lengths : List UInt16) (rest : Bytes) :
    (tabled lengths rest).length = (tabledBody lengths rest).length + 2 := by
  rw [tabled_eq, List.length_append, le16_length]

/-- The bytes behind the length table, seen from the cursor the loop starts at. -/
theorem tabledBody_drop (lengths : List UInt16) (rest : Bytes) :
    (tabledBody lengths rest).drop (2 + 2 * lengths.length) = rest := by
  have width : (le16 (UInt16.ofNat lengths.length) ++ lengths.flatMap le16).length =
      2 + 2 * lengths.length := by
    rw [List.length_append, le16_length, flatMap_le16_length]
  rw [tabledBody, ← List.append_assoc, ← width, List.drop_left]

theorem readLengths_append (front back : Bytes) (lengths : List UInt16) {offset : Nat}
    (offsetEq : offset = front.length) :
    readLengths (front ++ (lengths.flatMap le16 ++ back)) lengths.length offset =
      .ok (lengths, offset + 2 * lengths.length) := by
  induction lengths generalizing front offset with
  | nil => rfl
  | cons length lengths ih =>
      have shifted : front ++ ((length :: lengths).flatMap le16 ++ back) =
          (front ++ le16 length) ++ (lengths.flatMap le16 ++ back) := by
        simp
      have first : readU16 (front ++ ((length :: lengths).flatMap le16 ++ back)) offset =
          .ok length := by
        rw [List.flatMap_cons, List.append_assoc]
        exact readU16_append _ _ _ offsetEq
      have others : readLengths ((front ++ le16 length) ++ (lengths.flatMap le16 ++ back))
          lengths.length (offset + 2) = .ok (lengths, offset + 2 + 2 * lengths.length) :=
        ih (front ++ le16 length) (by rw [List.length_append, le16_length, offsetEq])
      rw [← shifted] at others
      rw [List.length_cons, readLengths, first]
      simp only [bind, Except.bind, others, pure, Except.pure]
      congr 2
      ring

/-- On a frame with a proper header `handle` is the dispatch loop. -/
theorem handle_tabled (table : HandlerTable σ) (withHeader : Bool) (state : σ)
    {lengths : List UInt16} (rest : Bytes) (countBound : lengths.length < 65536) :
    handle table withHeader (tabled lengths rest) state =
      finish withHeader
        (dispatch table (tabled lengths rest) lengths (2 + 2 * lengths.length) {} state) := by
  have bodyLength := tabledBody_length lengths rest
  have frameLength := tabled_length lengths rest
  have covered : (tabled lengths rest).length - 2 = (tabledBody lengths rest).length := by omega
  have crcRead : readU16 (tabled lengths rest) (tabledBody lengths rest).length =
      .ok (Crc.ccitt (tabledBody lengths rest)) := by
    have read := readU16_append (tabledBody lengths rest) []
      (Crc.ccitt (tabledBody lengths rest)) rfl
    rwa [List.append_nil] at read
  have crcMatches : (tabled lengths rest).take (tabledBody lengths rest).length =
      tabledBody lengths rest := by
    rw [tabled_eq, List.take_left]
  have countRead : readU16 (tabled lengths rest) 0 =
      .ok (UInt16.ofNat lengths.length) := by
    rw [tabled_eq, tabledBody, List.append_assoc]
    exact readU16_append [] _ _ rfl
  have count : (UInt16.ofNat lengths.length).toNat = lengths.length :=
    UInt16.toNat_ofNat_of_lt' countBound
  have lengthsRead : readLengths (tabled lengths rest) lengths.length 2 =
      .ok (lengths, 2 + 2 * lengths.length) := by
    rw [tabled_eq, tabledBody, List.append_assoc, List.append_assoc]
    exact readLengths_append _ _ lengths (le16_length _).symm
  unfold handle
  rw [if_neg (by omega), covered, crcRead, crcMatches]
  simp only [ne_eq, not_true_eq_false, if_false]
  rw [if_neg (by omega), countRead]
  simp only [count]
  rw [if_neg (by omega), lengthsRead]

/-- A frame without a proper header is rejected before any handler runs. -/
theorem handle_of_not_tabled (table : HandlerTable σ) (withHeader : Bool) (state : σ)
    {frame : Bytes}
    (malformed : ¬∃ lengths rest, lengths.length < 65536 ∧ frame = tabled lengths rest) :
    handle table withHeader frame state = ⟨.rejected, state⟩ := by
  unfold handle
  by_cases short : frame.length < 2
  · rw [if_pos short]
  rw [if_neg short]
  have tailWidth : (frame.drop (frame.length - 2)).length = 2 := by
    rw [List.length_drop]
    omega
  have tailTaken : (frame.drop (frame.length - 2)).take 2 = frame.drop (frame.length - 2) := by
    rw [List.take_of_length_le (by omega)]
  rw [readU16_of_le (by omega), tailTaken]
  simp only
  by_cases mismatch :
      Crc.ccitt (frame.take (frame.length - 2)) ≠ ofLe16 (frame.drop (frame.length - 2))
  · rw [if_pos mismatch]
  rw [if_neg mismatch]
  by_cases noCount : frame.length - 2 < 2
  · rw [if_pos noCount]
  rw [if_neg noCount, readU16_of_le (by omega)]
  simp only [List.drop_zero]
  by_cases noTable : frame.length - 2 - 2 < (ofLe16 (frame.take 2)).toNat * 2
  · rw [if_pos noTable]
  exfalso
  apply malformed
  have sealed : frame = checksummed (frame.take (frame.length - 2)) := by
    have crcEq := not_not.mp mismatch
    rw [checksummed, crcEq, le16_ofLe16 tailWidth, List.take_append_drop]
  -- The covered bytes split into the count, the table it announces and the rest.
  have tableWidth : (((frame.take (frame.length - 2)).drop 2).take
      (2 * (ofLe16 (frame.take 2)).toNat)).length = 2 * (ofLe16 (frame.take 2)).toNat := by
    simp only [List.length_take, List.length_drop]
    omega
  obtain ⟨lengths, lengthsCount, tableEq⟩ := exists_flatMap_le16 tableWidth
  have countBytes : (frame.take (frame.length - 2)).take 2 = frame.take 2 := by
    rw [List.take_take, Nat.min_eq_left (by omega)]
  have countEq : le16 (UInt16.ofNat lengths.length) = frame.take 2 := by
    rw [lengthsCount, UInt16.ofNat_toNat, le16_ofLe16]
    rw [List.length_take]
    omega
  refine ⟨lengths, ((frame.take (frame.length - 2)).drop 2).drop
    (2 * (ofLe16 (frame.take 2)).toNat), ?_, ?_⟩
  · rw [lengthsCount]
    exact UInt16.toNat_lt _
  · rw [tabled, tableEq, List.take_append_drop, countEq, ← countBytes, List.take_append_drop]
    exact sealed

end Kernel

end Aurum.Protocol
