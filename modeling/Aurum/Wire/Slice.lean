import Mathlib.Data.List.Basic
import Mathlib.Algebra.Ring.Nat

/-!
# Bounded slices and length tables

`slice` reads consecutive items of a list and is undefined outside it, so a
reader built on it is defined exactly where every access it makes is in
bounds.  `cut` divides a list into consecutive pieces of announced lengths and
stops at the first piece that is too long for what remains or shorter than a
required least length; it is the inverse of concatenation on the pieces it
accepts.
-/

namespace Aurum.Wire

universe u

variable {α : Type u}

/-- The `count` items behind `offset`, when the list has that many. -/
def slice (items : List α) (offset count : Nat) : Option (List α) :=
  if offset + count ≤ items.length then some ((items.drop offset).take count) else none

theorem slice_of_le {items : List α} {offset count : Nat}
    (inside : offset + count ≤ items.length) :
    slice items offset count = some ((items.drop offset).take count) :=
  if_pos inside

/-- A slice at the length of what precedes it reads the middle part. -/
theorem slice_append {front middle back : List α} {offset count : Nat}
    (offsetEq : offset = front.length) (countEq : count = middle.length) :
    slice (front ++ (middle ++ back)) offset count = some middle := by
  subst offsetEq countEq
  rw [slice_of_le (by simp)]
  simp

/-! ## Cutting along a length table -/

/-- Cut a list into consecutive pieces of the given lengths.  The rest behind
the last piece is returned when every piece was cut; cutting stops at the
first length that exceeds what remains or is below `least`. -/
def cut (least : Nat) : List Nat → List α → List (List α) × Option (List α)
  | [], items => ([], some items)
  | length :: lengths, items =>
      if length ≤ items.length ∧ least ≤ length then
        let tail := cut least lengths (items.drop length)
        (items.take length :: tail.1, tail.2)
      else
        ([], none)

@[simp]
theorem cut_nil (least : Nat) (items : List α) : cut least [] items = ([], some items) :=
  rfl

theorem cut_cons_of_fits {least length : Nat} {lengths : List Nat} {items : List α}
    (fits : length ≤ items.length ∧ least ≤ length) :
    cut least (length :: lengths) items =
      (items.take length :: (cut least lengths (items.drop length)).1,
        (cut least lengths (items.drop length)).2) :=
  if_pos fits

theorem cut_cons_of_not_fits {least length : Nat} {lengths : List Nat} {items : List α}
    (misfit : ¬(length ≤ items.length ∧ least ≤ length)) :
    cut least (length :: lengths) items = ([], none) :=
  if_neg misfit

/-- Pieces that are long enough are cut off the front of a concatenation. -/
theorem cut_flatten_append {least : Nat} {pieces : List (List α)} (lengths : List Nat)
    (rest : List α) (longEnough : ∀ piece ∈ pieces, least ≤ piece.length) :
    cut least (pieces.map List.length ++ lengths) (pieces.flatten ++ rest) =
      (pieces ++ (cut least lengths rest).1, (cut least lengths rest).2) := by
  induction pieces with
  | nil => rfl
  | cons piece pieces ih =>
      have pieceLong : least ≤ piece.length := longEnough piece List.mem_cons_self
      have restLong : ∀ other ∈ pieces, least ≤ other.length := fun other member =>
        longEnough other (List.mem_cons_of_mem piece member)
      rw [List.map_cons, List.cons_append, List.flatten_cons, List.append_assoc,
        cut_cons_of_fits ⟨by simp, pieceLong⟩, List.drop_left, List.take_left, ih restLong,
        List.cons_append]

/-- Cutting a concatenation along the lengths of its pieces returns them. -/
theorem cut_flatten {least : Nat} {pieces : List (List α)} (rest : List α)
    (longEnough : ∀ piece ∈ pieces, least ≤ piece.length) :
    cut least (pieces.map List.length) (pieces.flatten ++ rest) = (pieces, some rest) := by
  have cutEq := cut_flatten_append [] rest longEnough
  rwa [List.append_nil, cut_nil, List.append_nil] at cutEq

/-- Cutting succeeds exactly on the concatenations of long enough pieces with
the announced lengths. -/
theorem cut_eq_some_iff {least : Nat} {lengths : List Nat} {items rest : List α}
    {pieces : List (List α)} :
    cut least lengths items = (pieces, some rest) ↔
      lengths = pieces.map List.length ∧ items = pieces.flatten ++ rest ∧
        ∀ piece ∈ pieces, least ≤ piece.length := by
  constructor
  · intro completed
    induction lengths generalizing items pieces with
    | nil =>
        cases completed
        simp
    | cons length lengths ih =>
        by_cases fits : length ≤ items.length ∧ least ≤ length
        · rw [cut_cons_of_fits fits, Prod.mk.injEq] at completed
          rcases completed with ⟨rfl, restEq⟩
          have tailCut : cut least lengths (items.drop length) =
              ((cut least lengths (items.drop length)).1, some rest) := by
            rw [← restEq]
          obtain ⟨lengthsEq, itemsEq, longEnough⟩ := ih tailCut
          have pieceLength : (items.take length).length = length := by
            simp [fits.1]
          refine ⟨?_, ?_, ?_⟩
          · rw [List.map_cons, pieceLength, ← lengthsEq]
          · rw [List.flatten_cons, List.append_assoc, ← itemsEq, List.take_append_drop]
          · intro piece member
            rcases List.mem_cons.mp member with rfl | member
            · rw [pieceLength]
              exact fits.2
            · exact longEnough piece member
        · rw [cut_cons_of_not_fits fits] at completed
          simp at completed
  · rintro ⟨rfl, rfl, longEnough⟩
    exact cut_flatten rest longEnough

/-- Cutting stops exactly where a length is too long for what remains, or
below the least length. -/
theorem cut_eq_none {least : Nat} {lengths : List Nat} {items : List α}
    (stopped : (cut least lengths items).2 = none) :
    ∃ length more rest,
      lengths = (cut least lengths items).1.map List.length ++ length :: more ∧
        items = (cut least lengths items).1.flatten ++ rest ∧
        (rest.length < length ∨ length < least) := by
  induction lengths generalizing items with
  | nil => contradiction
  | cons length lengths ih =>
      by_cases fits : length ≤ items.length ∧ least ≤ length
      · rw [cut_cons_of_fits fits] at stopped ⊢
        obtain ⟨bad, more, rest, lengthsEq, itemsEq, reason⟩ := ih stopped
        refine ⟨bad, more, rest, ?_, ?_, reason⟩
        · rw [List.map_cons, List.length_take, Nat.min_eq_left fits.1, List.cons_append,
            ← lengthsEq]
        · rw [List.flatten_cons, List.append_assoc, ← itemsEq, List.take_append_drop]
      · rw [cut_cons_of_not_fits fits]
        refine ⟨length, lengths, items, rfl, rfl, ?_⟩
        omega

/-- When the items suffice for every piece, only a length below the least one
stops the cutting. -/
theorem cut_isSome_iff {least : Nat} {lengths : List Nat} {items : List α}
    (enough : lengths.sum ≤ items.length) :
    (cut least lengths items).2.isSome = true ↔ ∀ length ∈ lengths, least ≤ length := by
  induction lengths generalizing items with
  | nil => simp
  | cons length lengths ih =>
      rw [List.sum_cons] at enough
      have restEnough : lengths.sum ≤ (items.drop length).length := by
        rw [List.length_drop]
        omega
      by_cases fits : least ≤ length
      · have room : length ≤ items.length ∧ least ≤ length := ⟨by omega, fits⟩
        rw [cut_cons_of_fits room, ih restEnough, List.forall_mem_cons]
        exact ⟨fun rest => ⟨fits, rest⟩, And.right⟩
      · rw [cut_cons_of_not_fits (fun room => fits room.2), List.forall_mem_cons]
        simp [fits]

theorem cut_length_of_isSome {least : Nat} {lengths : List Nat} {items : List α}
    (completed : (cut least lengths items).2.isSome = true) :
    (cut least lengths items).1.length = lengths.length := by
  obtain ⟨rest, tailEq⟩ := Option.isSome_iff_exists.mp completed
  have cutEq : cut least lengths items = ((cut least lengths items).1, some rest) :=
    Prod.ext rfl tailEq
  have counted := congrArg List.length (cut_eq_some_iff.mp cutEq).1
  rw [List.length_map] at counted
  exact counted.symm

end Aurum.Wire
