import Mathlib.Data.List.Rotate
import Mathlib.Data.List.Nodup

/-!
# Going round a list

Items are taken from a list in turn, each at a position that a counter gives
modulo the length of the list.  As many items in a row as there are take each
of them once, so that however many are taken, no item is taken twice more often
than another.
-/

namespace Aurum.Container

universe u

variable {α : Type u}

/-- The items at `count` positions from a given one on, modulo the length. -/
def inTurn (items : List α) : Nat → Nat → List α
  | _, 0 => []
  | position, count + 1 =>
      (items[position % items.length]?).toList ++ inTurn items (position + 1) count

theorem inTurn_add (items : List α) (position first second : Nat) :
    inTurn items position (first + second) =
      inTurn items position first ++ inTurn items (position + first) second := by
  induction first generalizing position with
  | zero => rw [Nat.zero_add, inTurn, List.nil_append, Nat.add_zero]
  | succ first ih =>
      rw [Nat.succ_add, inTurn, inTurn, ih, List.append_assoc, Nat.succ_add_eq_add_succ]

theorem inTurn_length {items : List α} (some : items ≠ []) (position count : Nat) :
    (inTurn items position count).length = count := by
  induction count generalizing position with
  | zero => rfl
  | succ count ih =>
      have inside : position % items.length < items.length :=
        Nat.mod_lt _ (List.length_pos_iff.mpr some)
      rw [inTurn, List.length_append, ih, List.getElem?_eq_getElem inside]
      exact Nat.add_comm 1 count

theorem getElem?_inTurn {items : List α} (some : items ≠ []) {position count index : Nat}
    (inside : index < count) :
    (inTurn items position count)[index]? = items[(position + index) % items.length]? := by
  induction count generalizing position index with
  | zero => omega
  | succ count ih =>
      have within : position % items.length < items.length :=
        Nat.mod_lt _ (List.length_pos_iff.mpr some)
      rw [inTurn, List.getElem?_eq_getElem within]
      cases index with
      | zero => simp [List.getElem?_eq_getElem within]
      | succ index =>
          rw [Option.toList_some, List.singleton_append, List.getElem?_cons_succ,
            ih (by omega), Nat.succ_add_eq_add_succ]

/-- A full turn is a rotation. -/
theorem inTurn_length_self {items : List α} (some : items ≠ []) (position : Nat) :
    inTurn items position items.length = items.rotate position := by
  apply List.ext_getElem?
  intro index
  by_cases inside : index < items.length
  · rw [getElem?_inTurn some inside, List.getElem?_rotate inside, Nat.add_comm]
  · have beyond := Nat.not_lt.mp inside
    rw [List.getElem?_eq_none, List.getElem?_eq_none]
    · rw [List.length_rotate]
      exact beyond
    · rw [inTurn_length some]
      exact beyond

/-- What is taken up to some point is what a smaller number of turns takes. -/
theorem inTurn_split {items : List α} (some : items ≠ []) {position count : Nat}
    {before after : List α} (split : inTurn items position count = before ++ after) :
    before = inTurn items position before.length ∧
      after = inTurn items (position + before.length) after.length := by
  have total : count = before.length + after.length := by
    have lengths := congrArg List.length split
    rw [inTurn_length some, List.length_append] at lengths
    exact lengths
  rw [total, inTurn_add] at split
  rcases List.append_inj split (inTurn_length some _ _) with ⟨front, back⟩
  exact ⟨front.symm, back.symm⟩

/-- As many items in a row as there are take each of them once. -/
theorem inTurn_window {items : List α} (some : items ≠ []) {position count : Nat}
    {before window after : List α}
    (split : inTurn items position count = before ++ (window ++ after))
    (full : window.length = items.length) : window.Perm items := by
  have behind := (inTurn_split some split).2
  have taken := (inTurn_split some behind.symm).1
  rw [taken, full, inTurn_length_self some]
  exact List.rotate_perm items _

/-- However many are taken, no item is taken twice more often than another. -/
theorem inTurn_count_le [DecidableEq α] {items : List α} (distinct : items.Nodup)
    (position count : Nat) (first : α) {second : α} (member : second ∈ items) :
    (inTurn items position count).count first ≤
      (inTurn items position count).count second + 1 := by
  have some : items ≠ [] := List.ne_nil_of_mem member
  induction count using Nat.strong_induction_on generalizing position with
  | _ count ih =>
      by_cases full : items.length ≤ count
      · -- Behind the first full turn the induction hypothesis applies.
        rcases Nat.exists_eq_add_of_le full with ⟨rest, rfl⟩
        have positive := List.length_pos_iff.mpr some
        have turn := List.rotate_perm items position
        have once := List.nodup_iff_count_le_one.mp distinct first
        have present := List.one_le_count_iff.mpr member
        have others := ih rest (by omega) (position + items.length)
        rw [inTurn_add, inTurn_length_self some, List.count_append, List.count_append,
          turn.count_eq, turn.count_eq]
        omega
      · -- Less than a full turn takes every item at most once.
        have short : count + (items.length - count) = items.length := by omega
        have turn := inTurn_length_self some position
        rw [← short, inTurn_add] at turn
        have sublist : (inTurn items position count).Sublist
            (items.rotate position) := by
          rw [← turn]
          exact List.sublist_append_left _ _
        have apart := sublist.nodup (List.nodup_rotate.mpr distinct)
        have once := List.nodup_iff_count_le_one.mp apart first
        omega

end Aurum.Container
