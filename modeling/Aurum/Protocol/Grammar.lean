import Aurum.Protocol.Dispatch

/-!
# The frame grammar

A frame is a count, a table of lengths, that many sub-messages, bytes that
nothing announces, and a checksum of everything before it.  The kernel
processes exactly the frames of this grammar to their end, and hands the
handlers exactly the sub-messages of the one decomposition a frame has.
-/

namespace Aurum.Protocol

open Aurum.Wire
open Aurum.Wire.LittleEndian

/-- A frame made of the given sub-messages and trailing bytes. -/
structure IsFrame (frame : Bytes) (messages : List Submessage) (trailing : Bytes) : Prop where
  count : messages.length ≤ 65535
  sizes : ∀ message ∈ messages, message.bytes.length ≤ 65535
  layout : frame =
    checksummed (le16 (UInt16.ofNat messages.length) ++
      (messages.flatMap (fun message => le16 (UInt16.ofNat message.bytes.length)) ++
        (messages.flatMap Submessage.bytes ++ trailing)))

theorem checksummed_inj {first second : Bytes}
    (equal : checksummed first = checksummed second) : first = second :=
  List.append_inj_left' equal (by simp)

theorem flatMap_bytes (messages : List Submessage) :
    messages.flatMap Submessage.bytes = (messages.map Submessage.bytes).flatten :=
  List.flatMap_def

namespace Kernel

/-- The lengths announced for a list of sub-messages. -/
def announced (messages : List Submessage) : List UInt16 :=
  messages.map fun message => UInt16.ofNat message.bytes.length

@[simp]
theorem announced_length (messages : List Submessage) :
    (announced messages).length = messages.length :=
  List.length_map _

theorem announced_toNat {messages : List Submessage}
    (sizes : ∀ message ∈ messages, message.bytes.length ≤ 65535) :
    (announced messages).map UInt16.toNat = (messages.map Submessage.bytes).map List.length := by
  rw [announced, List.map_map, List.map_map]
  apply List.map_congr_left
  intro message member
  exact UInt16.toNat_ofNat_of_lt' (Nat.lt_succ_of_le (sizes message member))

/-- A table of lengths that cuts into sub-messages announces exactly them. -/
theorem eq_announced {lengths : List UInt16} {messages : List Submessage}
    (lengthsEq : lengths.map UInt16.toNat = (messages.map Submessage.bytes).map List.length) :
    lengths = announced messages ∧ ∀ message ∈ messages, message.bytes.length ≤ 65535 := by
  induction lengths generalizing messages with
  | nil =>
      cases messages with
      | nil => simp [announced]
      | cons message messages => cases lengthsEq
  | cons length lengths ih =>
      cases messages with
      | nil => cases lengthsEq
      | cons message messages =>
          simp only [List.map_cons, List.cons.injEq] at lengthsEq
          rcases lengthsEq with ⟨firstEq, restEq⟩
          obtain ⟨tableEq, sizes⟩ := ih restEq
          constructor
          · rw [announced, List.map_cons, ← firstEq, UInt16.ofNat_toNat, tableEq]
            rfl
          · intro other member
            rcases List.mem_cons.mp member with rfl | member
            · rw [← firstEq]
              exact Nat.le_of_lt_succ (UInt16.toNat_lt length)
            · exact sizes other member

/-- A frame of the grammar has a proper header. -/
theorem isFrame_eq_tabled {frame : Bytes} {messages : List Submessage} {trailing : Bytes}
    (isFrame : IsFrame frame messages trailing) :
    frame = tabled (announced messages)
      ((messages.map Submessage.bytes).flatten ++ trailing) := by
  rw [isFrame.layout, tabled, announced_length, announced, List.flatMap_map, flatMap_bytes]

theorem least_of_mem (messages : List Submessage) :
    ∀ piece ∈ messages.map Submessage.bytes, 18 ≤ piece.length := by
  intro piece member
  obtain ⟨message, _, rfl⟩ := List.mem_map.mp member
  exact message.least_bytes

/-- The kernel dispatches the sub-messages of a frame and reaches its end. -/
theorem dispatched_of_isFrame {frame : Bytes} {messages : List Submessage} {trailing : Bytes}
    (isFrame : IsFrame frame messages trailing) :
    dispatched frame = messages ∧ completes frame = true := by
  have countBound : (announced messages).length < 65536 := by
    rw [announced_length]
    exact Nat.lt_succ_of_le isFrame.count
  obtain ⟨piecesEq, completesEq, _⟩ := dispatched_tabled
    ((messages.map Submessage.bytes).flatten ++ trailing) countBound
  rw [announced_toNat isFrame.sizes, cut_flatten trailing (least_of_mem messages)]
    at piecesEq completesEq
  rw [isFrame_eq_tabled isFrame]
  exact ⟨List.map_injective_iff.mpr Submessage.bytes_injective piecesEq, completesEq⟩

/-- A frame has at most one decomposition. -/
theorem isFrame_unique {frame : Bytes} {messages others : List Submessage}
    {trailing rest : Bytes} (first : IsFrame frame messages trailing)
    (second : IsFrame frame others rest) : messages = others ∧ trailing = rest := by
  have messagesEq : messages = others :=
    (dispatched_of_isFrame first).1.symm.trans (dispatched_of_isFrame second).1
  subst messagesEq
  have layoutEq := checksummed_inj (first.layout.symm.trans second.layout)
  exact ⟨rfl, List.append_cancel_left (List.append_cancel_left
    (List.append_cancel_left layoutEq))⟩

/-- What a frame with a proper header dispatches when the loop reaches its end. -/
theorem isFrame_of_completes {frame : Bytes} (complete : completes frame = true) :
    ∃ trailing, IsFrame frame (dispatched frame) trailing := by
  by_cases proper : ∃ lengths rest, lengths.length < 65536 ∧ frame = tabled lengths rest
  · rcases proper with ⟨lengths, rest, countBound, rfl⟩
    obtain ⟨piecesEq, completesEq, _⟩ := dispatched_tabled rest countBound
    rw [completesEq] at complete
    obtain ⟨trailing, tailEq⟩ := Option.isSome_iff_exists.mp complete
    have cutEq : cut 18 (lengths.map UInt16.toNat) rest =
        ((dispatched (tabled lengths rest)).map Submessage.bytes, some trailing) :=
      Prod.ext piecesEq.symm tailEq
    obtain ⟨lengthsEq, restEq, _⟩ := cut_eq_some_iff.mp cutEq
    obtain ⟨tableEq, sizes⟩ := eq_announced lengthsEq
    have counted : lengths.length = (dispatched (tabled lengths rest)).length := by
      rw [← announced_length (dispatched (tabled lengths rest)), ← tableEq]
    refine ⟨trailing, Nat.le_of_lt_succ (counted ▸ countBound), sizes, ?_⟩
    calc tabled lengths rest
        = checksummed (le16 (UInt16.ofNat lengths.length) ++ (lengths.flatMap le16 ++ rest)) :=
          rfl
      _ = checksummed (le16 (UInt16.ofNat (dispatched (tabled lengths rest)).length) ++
            ((announced (dispatched (tabled lengths rest))).flatMap le16 ++
              ((dispatched (tabled lengths rest)).flatMap Submessage.bytes ++ trailing))) := by
          rw [← tableEq, ← counted, flatMap_bytes, ← restEq]
      _ = _ := by
          rw [announced, List.flatMap_map]
  · rw [(dispatched_of_not_tabled proper).2] at complete
    contradiction

/-- The kernel reaches the end of exactly the frames of the grammar. -/
theorem completes_iff (frame : Bytes) :
    completes frame = true ↔ ∃ messages trailing, IsFrame frame messages trailing := by
  constructor
  · intro complete
    obtain ⟨trailing, isFrame⟩ := isFrame_of_completes complete
    exact ⟨dispatched frame, trailing, isFrame⟩
  · rintro ⟨messages, trailing, isFrame⟩
    exact (dispatched_of_isFrame isFrame).2

/-- The header of the frame is in order and its first sub-messages are the
given ones, but the length announced next is under eighteen or exceeds the
bytes that are left. -/
structure StopsAfter (frame : Bytes) (messages : List Submessage) : Prop where
  sizes : ∀ message ∈ messages, message.bytes.length ≤ 65535
  layout : ∃ (length : UInt16) (more : List UInt16) (rest : Bytes),
    (announced messages ++ length :: more).length ≤ 65535 ∧
      (length.toNat < 18 ∨ rest.length < length.toNat) ∧
      frame = tabled (announced messages ++ length :: more)
        (messages.flatMap Submessage.bytes ++ rest)

/-- A frame that is not processed to its end either has no proper header, and
then dispatches nothing, or stops after the sub-messages it dispatches. -/
theorem stopsAfter_of_not_completes {frame : Bytes} (incomplete : completes frame = false) :
    ((¬∃ lengths rest, lengths.length < 65536 ∧ frame = tabled lengths rest) ∧
        dispatched frame = []) ∨
      StopsAfter frame (dispatched frame) := by
  by_cases proper : ∃ lengths rest, lengths.length < 65536 ∧ frame = tabled lengths rest
  · right
    rcases proper with ⟨lengths, rest, countBound, frameEq⟩
    obtain ⟨piecesEq, completesEq, _⟩ := dispatched_tabled rest countBound
    rw [← frameEq] at piecesEq completesEq
    have stopped : (cut 18 (lengths.map UInt16.toNat) rest).2 = none := by
      rw [incomplete] at completesEq
      exact Option.not_isSome_iff_eq_none.mp (by rw [← completesEq]; decide)
    obtain ⟨bad, more, remaining, lengthsEq, restEq, reason⟩ := cut_eq_none stopped
    rw [← piecesEq] at lengthsEq restEq
    obtain ⟨front, back, rfl, frontEq, backEq⟩ := List.map_eq_append_iff.mp lengthsEq
    obtain ⟨length, others, rfl, rfl, rfl⟩ := List.map_eq_cons_iff.mp backEq
    obtain ⟨rfl, sizes⟩ := eq_announced frontEq
    refine ⟨sizes, length, others, remaining, Nat.le_of_lt_succ countBound, reason.symm, ?_⟩
    rw [flatMap_bytes, ← restEq, ← frameEq]
  · left
    exact ⟨proper, (dispatched_of_not_tabled proper).1⟩

/-- A frame stops after at most one list of sub-messages, and dispatches it. -/
theorem dispatched_of_stopsAfter {frame : Bytes} {messages : List Submessage}
    (stops : StopsAfter frame messages) :
    dispatched frame = messages ∧ completes frame = false := by
  obtain ⟨length, more, rest, counted, reason, rfl⟩ := stops.layout
  obtain ⟨piecesEq, completesEq, _⟩ := dispatched_tabled
    (messages.flatMap Submessage.bytes ++ rest) (Nat.lt_succ_of_le counted)
  have misfit : ¬(length.toNat ≤ rest.length ∧ 18 ≤ length.toNat) := by omega
  rw [List.map_append, announced_toNat stops.sizes, flatMap_bytes,
    cut_flatten_append _ _ (least_of_mem messages), List.map_cons,
    cut_cons_of_not_fits misfit] at piecesEq completesEq
  rw [List.append_nil] at piecesEq
  rw [flatMap_bytes]
  exact ⟨List.map_injective_iff.mpr Submessage.bytes_injective piecesEq, completesEq⟩

end Kernel

end Aurum.Protocol
