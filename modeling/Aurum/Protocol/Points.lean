import Aurum.Protocol.Kernel
import Aurum.Transition.Machine

/-!
# Control points of the kernel

`session_kernel::handle` taken apart at the points where it computes how many
bytes are left.  The points know the cursor `_offset`, so that what holds of it
at the head of a loop can be stated; run to its end, the machine computes
`handle`.
-/

namespace Aurum.Protocol.Kernel

open Aurum.Wire
open Aurum.Wire.LittleEndian
open Aurum.Transition

/-- Where a call of `handle` is. -/
inductive Point
  | entered
  /-- `frame->size() - 2` is due, for the checksum. -/
  | sized
  /-- `frame->size() - 2` is due, for the count. -/
  | summed
  /-- `frame->size() - 2 - _offset` is due, for the table of lengths. -/
  | counted (count : UInt16) (offset : Nat)
  /-- The head of the loop over the table. -/
  | reading (count : UInt16) (lengths : List UInt16) (offset : Nat)
  /-- The head of the dispatch loop, where `frame->size() - 2 - _offset` is
  due; so many sub-messages have been handled. -/
  | dispatching (lengths : List UInt16) (handled offset : Nat) (builder : ResponseBuilder)
  | ended (outcome : Outcome)

variable {σ : Type}

/-- From one point to the next; `none` when the call has ended. -/
def step (table : HandlerTable σ) (withHeader : Bool) (frame : Bytes) :
    Point × σ → Option (Point × σ)
  | (.entered, state) =>
      if frame.length < 2 then some (.ended .rejected, state) else some (.sized, state)
  | (.sized, state) =>
      match readU16 frame (frame.length - 2) with
      | .error failure => some (.ended (.thrown failure), state)
      | .ok expectedCrc =>
          if Crc.ccitt (frame.take (frame.length - 2)) ≠ expectedCrc then
            some (.ended .rejected, state)
          else
            some (.summed, state)
  | (.summed, state) =>
      if frame.length - 2 < 2 then
        some (.ended .rejected, state)
      else
        match readU16 frame 0 with
        | .error failure => some (.ended (.thrown failure), state)
        | .ok numberOfRequests => some (.counted numberOfRequests 2, state)
  | (.counted count offset, state) =>
      if frame.length - 2 - offset < count.toNat * 2 then
        some (.ended .rejected, state)
      else
        some (.reading count [] offset, state)
  | (.reading count lengths offset, state) =>
      if lengths.length < count.toNat then
        match readU16 frame offset with
        | .error failure => some (.ended (.thrown failure), state)
        | .ok length => some (.reading count (lengths ++ [length]) (offset + 2), state)
      else
        some (.dispatching lengths 0 offset {}, state)
  | (.dispatching lengths handled offset builder, state) =>
      match lengths[handled]? with
      | none =>
          match builder.getBuffers withHeader with
          | .error failure => some (.ended (.thrown failure), state)
          | .ok buffer => some (.ended (.replied buffer), state)
      | some requestLength =>
          if frame.length - 2 - offset < requestLength.toNat then
            some (.ended .rejected, state)
          else if requestLength.toNat < 18 then
            some (.ended .rejected, state)
          else
            match readSubmessage frame offset requestLength.toNat with
            | .error failure => some (.ended (.thrown failure), state)
            | .ok message =>
                match invoke table message builder state with
                | .error failure => some (.ended (.thrown failure), state)
                | .ok (builder, state) =>
                    some (.dispatching lengths (handled + 1) (offset + requestLength.toNat) builder,
                      state)
  | (.ended _, _) => none

/-- A call of `handle`. -/
def machine (table : HandlerTable σ) (withHeader : Bool) (frame : Bytes) (state : σ) :
    Machine (Point × σ) Unit where
  start point := point = (.entered, state)
  step point _ next := step table withHeader frame point = some next

/-- The announced number of sub-messages. -/
def requestCount (frame : Bytes) : Nat :=
  (ofLe16 (frame.take 2)).toNat

/-- What holds at a point: the cursor is where the table and the lengths handled
so far put it, and never behind the checksummed bytes; no read has left the
frame. -/
def InBounds (frame : Bytes) : Point → Prop
  | .entered => True
  | .sized | .summed => 2 ≤ frame.length
  | .counted count offset =>
      2 ≤ frame.length ∧ count.toNat = requestCount frame ∧ offset = 2 ∧
        offset ≤ frame.length - 2
  | .reading count lengths offset =>
      count.toNat = requestCount frame ∧ offset = 2 + 2 * lengths.length ∧
        lengths.length ≤ requestCount frame ∧ 2 + 2 * requestCount frame ≤ frame.length - 2
  | .dispatching lengths handled offset _ =>
      2 ≤ frame.length ∧ lengths.length = requestCount frame ∧ handled ≤ requestCount frame ∧
        offset = 2 + 2 * requestCount frame +
          ((lengths.take handled).map UInt16.toNat).sum ∧
        offset ≤ frame.length - 2
  | .ended outcome => outcome ≠ .thrown .outOfBounds

/-- No handler of the table leaves its buffer. -/
def HandlersInBounds (table : HandlerTable σ) : Prop :=
  ∀ message builder state, invoke table message builder state ≠ .error .outOfBounds

section

variable {table : HandlerTable σ} {withHeader : Bool} {frame : Bytes} {state : σ}

theorem readSubmessage_ok {offset length : Nat} (inside : offset + length ≤ frame.length)
    (wide : 18 ≤ length) : ∃ message, readSubmessage frame offset length = .ok message := by
  have first : ∃ byte, readU8 frame offset = .ok byte := by
    rw [readU8, List.getElem?_eq_getElem (by omega)]
    exact ⟨_, rfl⟩
  have second : ∃ byte, readU8 frame (offset + 1) = .ok byte := by
    rw [readU8, List.getElem?_eq_getElem (by omega)]
    exact ⟨_, rfl⟩
  rcases first with ⟨opcode, opcodeRead⟩
  rcases second with ⟨type, typeRead⟩
  have within : offset + 2 + 16 ≤ frame.length := by omega
  rcases readUuid_of_le within with ⟨id, idRead, _⟩
  rw [readSubmessage, opcodeRead, typeRead, idRead, readBytes_of_le (by omega)]
  exact ⟨_, rfl⟩

theorem getData_ne_outOfBounds (builder : BaseBuilder) (withHeader : Bool) :
    builder.getData withHeader ≠ .error .outOfBounds := by
  unfold BaseBuilder.getData
  split
  · simp
  split
  · simp
  simp only
  split <;> simp

theorem inBounds_rejected : InBounds frame (.ended .rejected) := by
  intro left
  cases left

/-- Behind one more sub-message the cursor is one length further. -/
theorem InBounds.advance {lengths : List UInt16} {handled offset : Nat}
    {builder : ResponseBuilder} (inBounds : InBounds frame (.dispatching lengths handled offset
      builder)) {requestLength : UInt16} (due : lengths[handled]? = some requestLength)
    (room : ¬frame.length - 2 - offset < requestLength.toNat) (after : ResponseBuilder) :
    InBounds frame
      (.dispatching lengths (handled + 1) (offset + requestLength.toNat) after) := by
  rcases inBounds with ⟨long, full, few, offsetEq, inside⟩
  rcases List.getElem?_eq_some_iff.mp due with ⟨within, lengthEq⟩
  have sum : ((lengths.take (handled + 1)).map UInt16.toNat).sum =
      ((lengths.take handled).map UInt16.toNat).sum + requestLength.toNat := by
    rw [List.take_succ_eq_append_getElem within, List.map_append, List.sum_append, lengthEq]
    simp
  refine ⟨long, full, by omega, ?_, by omega⟩
  rw [sum]
  omega

/-- Every step keeps to the bounds. -/
theorem InBounds.step (handlers : HandlersInBounds table) {point next : Point × σ}
    (inBounds : InBounds frame point.1)
    (taken : Kernel.step table withHeader frame point = some next) : InBounds frame next.1 := by
  rcases point with ⟨point, state⟩
  cases point with
  | entered =>
      rw [Kernel.step] at taken
      split at taken
      · cases taken
        exact inBounds_rejected
      · rename_i long
        cases taken
        exact Nat.not_lt.mp long
  | sized =>
      have long : 2 ≤ frame.length := inBounds
      rw [Kernel.step, readU16_of_le (by omega)] at taken
      simp only at taken
      split at taken
      · cases taken
        exact inBounds_rejected
      · cases taken
        exact long
  | summed =>
      have long : 2 ≤ frame.length := inBounds
      rw [Kernel.step] at taken
      split at taken
      · cases taken
        exact inBounds_rejected
      · rename_i counted
        rw [readU16_of_le (by omega), List.drop_zero] at taken
        cases taken
        exact ⟨long, rfl, rfl, Nat.not_lt.mp counted⟩
  | counted count offset =>
      rcases inBounds with ⟨long, countEq, offsetEq, inside⟩
      rw [Kernel.step] at taken
      split at taken
      · cases taken
        exact inBounds_rejected
      · rename_i covered
        cases taken
        refine ⟨countEq, offsetEq, Nat.zero_le _, ?_⟩
        omega
  | reading count lengths offset =>
      rcases inBounds with ⟨countEq, offsetEq, few, inside⟩
      rw [Kernel.step] at taken
      split at taken
      · rename_i more
        rw [readU16_of_le (by omega)] at taken
        cases taken
        refine ⟨countEq, ?_, ?_, inside⟩
        · rw [List.length_append, List.length_singleton]
          omega
        · rw [List.length_append, List.length_singleton]
          omega
      · rename_i all
        cases taken
        have full : lengths.length = requestCount frame := by omega
        refine ⟨by omega, full, Nat.zero_le _, ?_, by omega⟩
        rw [offsetEq, full, List.take_zero, List.map_nil, List.sum_nil]
        rfl
  | dispatching lengths handled offset builder =>
      have before : InBounds frame (.dispatching lengths handled offset builder) := inBounds
      rcases inBounds with ⟨long, full, few, offsetEq, inside⟩
      rw [Kernel.step] at taken
      split at taken
      · split at taken
        · rename_i failure thrown
          cases taken
          intro left
          cases left
          exact getData_ne_outOfBounds _ _ thrown
        · cases taken
          simp [InBounds]
      rename_i requestLength due
      split at taken
      · cases taken
        exact inBounds_rejected
      rename_i room
      split at taken
      · cases taken
        exact inBounds_rejected
      rename_i wide
      have inside : offset + requestLength.toNat ≤ frame.length := by omega
      rcases readSubmessage_ok inside (Nat.not_lt.mp wide) with ⟨message, read⟩
      rw [read] at taken
      simp only at taken
      split at taken
      · rename_i failure thrown
        cases taken
        intro left
        cases left
        exact handlers _ _ _ thrown
      · cases taken
        exact before.advance due room _
  | ended outcome => cases taken

/-- At every point that a call comes to, it has kept to the bounds. -/
theorem inBounds_of_reachable (handlers : HandlersInBounds table) {point : Point × σ}
    (reachable : (machine table withHeader frame state).Reachable point) :
    InBounds frame point.1 := by
  have starts : ∀ start, (machine table withHeader frame state).start start →
      InBounds frame start.1 := by
    rintro start rfl
    exact trivial
  apply reachable.invariant starts
  intro before event next _ inBounds taken
  exact inBounds.step handlers taken

/-! ## The end of a call -/

/-- A step that can be taken leads to another point of the call. -/
theorem next_reachable {point next : Point × σ}
    (reachable : (machine table withHeader frame state).Reachable point)
    (taken : Kernel.step table withHeader frame point = some next) :
    (machine table withHeader frame state).Reachable next :=
  @Machine.Reachable.step _ _ _ _ _ () reachable taken

/-- From the head of the dispatch loop the call comes to what the loop and the
serialization behind it compute. -/
theorem reachable_of_dispatching {lengths : List UInt16} {handled offset : Nat}
    {builder : ResponseBuilder} {current : σ}
    (reachable : (machine table withHeader frame state).Reachable
      (.dispatching lengths handled offset builder, current)) :
    (machine table withHeader frame state).Reachable
      (.ended (finish withHeader
          (dispatch table frame (lengths.drop handled) offset builder current)).outcome,
        (finish withHeader
          (dispatch table frame (lengths.drop handled) offset builder current)).state) := by
  induction rest : lengths.drop handled generalizing handled offset builder current with
  | nil =>
      have none : lengths[handled]? = none := by
        rw [← List.head?_drop, rest, List.head?_nil]
      apply next_reachable reachable
      rw [Kernel.step, none, dispatch, finish]
      cases builder.getBuffers withHeader <;> rfl
  | cons requestLength others ih =>
      have next_ : lengths[handled]? = some requestLength := by
        rw [← List.head?_drop, rest, List.head?_cons]
      have restNext : lengths.drop (handled + 1) = others := by
        rw [← List.drop_drop, rest, List.drop_one, List.tail_cons]
      have taken : ∀ next, Kernel.step table withHeader frame
          (.dispatching lengths handled offset builder, current) = some next →
            (machine table withHeader frame state).Reachable next :=
        fun next => next_reachable reachable
      rw [Kernel.step, next_] at taken
      simp only at taken
      rw [dispatch]
      split
      · rename_i short
        rw [if_pos short] at taken
        exact taken _ rfl
      rename_i room
      rw [if_neg room] at taken
      split
      · rename_i narrow
        rw [if_pos narrow] at taken
        exact taken _ rfl
      rename_i wide
      rw [if_neg wide] at taken
      cases read : readSubmessage frame offset requestLength.toNat with
      | error failure =>
          rw [read] at taken
          exact taken _ rfl
      | ok message =>
          rw [read] at taken
          simp only at taken ⊢
          cases call : invoke table message builder current with
          | error failure =>
              rw [call] at taken
              exact taken _ rfl
          | ok result =>
              rw [call] at taken
              exact ih (taken _ rfl) restNext

/-- From the head of the loop over the table the call comes to the dispatch
loop with the lengths read. -/
theorem reachable_of_reading {count : UInt16} {lengths : List UInt16} {offset : Nat} {current : σ}
    (reachable : (machine table withHeader frame state).Reachable
      (.reading count lengths offset, current)) {remaining : Nat}
    (remainingEq : remaining + lengths.length = count.toNat) :
    (machine table withHeader frame state).Reachable
      (match readLengths frame remaining offset with
        | .error failure => (.ended (.thrown failure), current)
        | .ok (others, final) => (.dispatching (lengths ++ others) 0 final {}, current)) := by
  induction remaining generalizing lengths offset with
  | zero =>
      apply next_reachable reachable
      rw [Kernel.step, if_neg (by omega), readLengths]
      simp only [List.append_nil]
  | succ remaining ih =>
      have taken : ∀ next, Kernel.step table withHeader frame
          (.reading count lengths offset, current) = some next →
            (machine table withHeader frame state).Reachable next :=
        fun next => next_reachable reachable
      rw [Kernel.step, if_pos (by omega)] at taken
      rw [readLengths]
      cases read : readU16 frame offset with
      | error failure =>
          rw [read] at taken
          exact taken _ rfl
      | ok length =>
          rw [read] at taken
          have rest := ih (taken _ rfl) (by
            rw [List.length_append, List.length_singleton]
            omega)
          simp only [bind, Except.bind, pure, Except.pure]
          cases others : readLengths frame remaining (offset + 2) with
          | error failure =>
              rw [others] at rest
              exact rest
          | ok result =>
              simp only [others, List.append_assoc, List.singleton_append] at rest
              exact rest

/-- Run to its end, the machine computes `handle`. -/
theorem handle_reachable (table : HandlerTable σ) (withHeader : Bool) (frame : Bytes)
    (state : σ) :
    (machine table withHeader frame state).Reachable
      (.ended (handle table withHeader frame state).outcome,
        (handle table withHeader frame state).state) := by
  have entered : (machine table withHeader frame state).Reachable (.entered, state) :=
    .start rfl
  unfold handle
  split
  · rename_i short
    apply next_reachable entered
    rw [Kernel.step, if_pos short]
  rename_i long
  have sized : (machine table withHeader frame state).Reachable (.sized, state) := by
    apply next_reachable entered
    rw [Kernel.step, if_neg long]
  split
  · rename_i failure read
    apply next_reachable sized
    rw [Kernel.step, read]
  rename_i expectedCrc read
  split
  · rename_i mismatch
    apply next_reachable sized
    simp only [Kernel.step, read, if_pos mismatch]
  rename_i matches_
  have summed : (machine table withHeader frame state).Reachable (.summed, state) := by
    apply next_reachable sized
    simp only [Kernel.step, read, if_neg matches_]
  split
  · rename_i uncounted
    apply next_reachable summed
    rw [Kernel.step, if_pos uncounted]
  rename_i counts
  split
  · rename_i failure countRead
    apply next_reachable summed
    rw [Kernel.step, if_neg counts, countRead]
  rename_i numberOfRequests countRead
  have counted : (machine table withHeader frame state).Reachable
      (.counted numberOfRequests 2, state) := by
    apply next_reachable summed
    rw [Kernel.step, if_neg counts, countRead]
  split
  · rename_i uncovered
    apply next_reachable counted
    rw [Kernel.step, if_pos uncovered]
  rename_i covered
  have reading : (machine table withHeader frame state).Reachable
      (.reading numberOfRequests [] 2, state) := by
    apply next_reachable counted
    rw [Kernel.step, if_neg covered]
  have dispatching := reachable_of_reading reading (Nat.add_zero _)
  split
  · rename_i failure lengthsRead
    rw [lengthsRead] at dispatching
    exact dispatching
  · rename_i lengths offset lengthsRead
    rw [lengthsRead] at dispatching
    exact reachable_of_dispatching dispatching

end

end Aurum.Protocol.Kernel
