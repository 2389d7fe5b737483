import Aurum.Container.Filed
import Mathlib.Logic.Function.Basic

/-!
# The insertions of a container

A ledger numbers the successful insertions into a container with a unique
index and records which of them have been ended, and by whom.  One element can
be inserted, erased and inserted again; these are two insertions.  A ledger
that tracks its container has the insertions of exactly the entries contained
open, and no insertion is ended twice.
-/

namespace Aurum.Container

structure Ledger (ρ ι τ : Type) where
  /-- The elements inserted, in order. -/
  inserted : List ρ
  /-- The last insertion under a unique key. -/
  latest : ι → Nat
  /-- The insertions ended, and by whom. -/
  ended : List (Nat × τ)

namespace Ledger

variable {ρ κ ι τ : Type} [DecidableEq ι]

def empty : Ledger ρ ι τ :=
  { inserted := [], latest := fun _ => 0, ended := [] }

/-- An element has been inserted under a unique key. -/
def insert (index : ι) (elem : ρ) (ledger : Ledger ρ ι τ) : Ledger ρ ι τ :=
  { ledger with
    inserted := ledger.inserted ++ [elem]
    latest := Function.update ledger.latest index ledger.inserted.length }

/-- What was inserted last under a unique key has been erased. -/
def close (index : ι) (by_ : τ) (ledger : Ledger ρ ι τ) : Ledger ρ ι τ :=
  { ledger with ended := ledger.ended ++ [(ledger.latest index, by_)] }

/-- The insertion has been ended. -/
def Ended (ledger : Ledger ρ ι τ) (number : Nat) : Prop :=
  ∃ by_, (number, by_) ∈ ledger.ended

/-- The entry of an insertion is contained. -/
def Open (unique : κ → ι) (entries : List (Filed ρ κ)) (ledger : Ledger ρ ι τ)
    (number : Nat) : Prop :=
  ∃ entry ∈ entries, ledger.latest (unique entry.key) = number ∧
    ledger.inserted[number]? = some entry.elem

omit [DecidableEq ι] in
@[simp]
theorem close_inserted (index : ι) (by_ : τ) (ledger : Ledger ρ ι τ) :
    (ledger.close index by_).inserted = ledger.inserted :=
  rfl

omit [DecidableEq ι] in
@[simp]
theorem close_latest (index : ι) (by_ : τ) (ledger : Ledger ρ ι τ) :
    (ledger.close index by_).latest = ledger.latest :=
  rfl

@[simp]
theorem insert_ended (index : ι) (elem : ρ) (ledger : Ledger ρ ι τ) :
    (ledger.insert index elem).ended = ledger.ended :=
  rfl

omit [DecidableEq ι] in
theorem mem_close_iff (index : ι) (by_ : τ) (ledger : Ledger ρ ι τ) (pair : Nat × τ) :
    pair ∈ (ledger.close index by_).ended ↔
      pair ∈ ledger.ended ∨ pair = (ledger.latest index, by_) :=
  List.mem_append.trans (or_congr_right List.mem_singleton)

/-- Earlier insertions keep their elements. -/
theorem insert_inserted_of_some {index : ι} {elem older : ρ} {ledger : Ledger ρ ι τ}
    {number : Nat} (found : ledger.inserted[number]? = some older) :
    (ledger.insert index elem).inserted[number]? = some older := by
  rcases List.getElem?_eq_some_iff.mp found with ⟨below, _⟩
  rw [insert, List.getElem?_append_left below]
  exact found

/-- The ledger is the ledger of a container. -/
structure Tracks (unique : κ → ι) (entries : List (Filed ρ κ)) (ledger : Ledger ρ ι τ) :
    Prop where
  distinct : UniqueKeys unique entries
  filed : ∀ entry ∈ entries,
    ledger.inserted[ledger.latest (unique entry.key)]? = some entry.elem
  separate : ∀ entry ∈ entries, ∀ other ∈ entries,
    ledger.latest (unique entry.key) = ledger.latest (unique other.key) →
      unique entry.key = unique other.key
  unended : ∀ entry ∈ entries, ¬ledger.Ended (ledger.latest (unique entry.key))
  covered : ∀ number < ledger.inserted.length,
    ledger.Ended number ∨ ledger.Open unique entries number
  once : (ledger.ended.map Prod.fst).Nodup
  bounded : ∀ pair ∈ ledger.ended, pair.1 < ledger.inserted.length

namespace Tracks

variable {unique : κ → ι} {entries : List (Filed ρ κ)} {ledger : Ledger ρ ι τ}

omit [DecidableEq ι] in
theorem empty (unique : κ → ι) : Tracks unique [] (Ledger.empty : Ledger ρ ι τ) where
  distinct := List.nodup_nil
  filed := fun _ member => absurd member List.not_mem_nil
  separate := fun _ member => absurd member List.not_mem_nil
  unended := fun _ member => absurd member List.not_mem_nil
  covered := fun _ below => absurd below (Nat.not_lt_zero _)
  once := List.nodup_nil
  bounded := fun _ member => absurd member List.not_mem_nil

variable (tracks : Tracks unique entries ledger)

include tracks

omit [DecidableEq ι] in
/-- The number of an entry has been given out. -/
theorem latest_lt {entry : Filed ρ κ} (member : entry ∈ entries) :
    ledger.latest (unique entry.key) < ledger.inserted.length :=
  (List.getElem?_eq_some_iff.mp (tracks.filed entry member)).1

omit [DecidableEq ι] in
/-- The insertions of the entries contained are those that have not ended. -/
theorem open_iff (number : Nat) :
    ledger.Open unique entries number ↔
      number < ledger.inserted.length ∧ ¬ledger.Ended number := by
  constructor
  · rintro ⟨entry, member, rfl, _⟩
    exact ⟨tracks.latest_lt member, tracks.unended entry member⟩
  · rintro ⟨below, unended⟩
    exact (tracks.covered number below).resolve_left unended

/-- An insertion under a free key. -/
theorem insert {entry : Filed ρ κ} (placement : Placement ρ κ)
    (free : ∀ other ∈ entries, unique other.key ≠ unique entry.key) :
    Tracks unique (placement.place entries entry)
      (ledger.insert (unique entry.key) entry.elem) := by
  have self : (ledger.insert (unique entry.key) entry.elem).latest (unique entry.key) =
      ledger.inserted.length := Function.update_self _ _ _
  have others : ∀ other ∈ entries,
      (ledger.insert (unique entry.key) entry.elem).latest (unique other.key) =
        ledger.latest (unique other.key) :=
    fun other member => Function.update_of_ne (free other member) _ _
  have newest : (ledger.insert (unique entry.key) entry.elem).inserted[ledger.inserted.length]? =
      some entry.elem := List.getElem?_concat_length
  constructor
  · have distinct := tracks.distinct.insertUnique placement entry
    rw [insertUnique_of_free free] at distinct
    exact distinct
  · intro other member
    rcases (placement.mem_place_iff entries entry other).mp member with rfl | member
    · rw [self]
      exact newest
    · rw [others other member]
      exact insert_inserted_of_some (tracks.filed other member)
  · intro first firstPlaced second secondPlaced same
    rcases (placement.mem_place_iff entries entry first).mp firstPlaced with firstNew | firstOld
    · rcases (placement.mem_place_iff entries entry second).mp secondPlaced with
        secondNew | secondOld
      · rw [firstNew, secondNew]
      · rw [firstNew, self, others second secondOld] at same
        exact absurd same (Nat.ne_of_gt (tracks.latest_lt secondOld))
    · rcases (placement.mem_place_iff entries entry second).mp secondPlaced with
        secondNew | secondOld
      · rw [secondNew, self, others first firstOld] at same
        exact absurd same (Nat.ne_of_lt (tracks.latest_lt firstOld))
      · rw [others first firstOld, others second secondOld] at same
        exact tracks.separate first firstOld second secondOld same
  · intro other member ended
    rcases (placement.mem_place_iff entries entry other).mp member with rfl | member
    · rw [self] at ended
      rcases ended with ⟨by_, ended⟩
      exact absurd (tracks.bounded _ ended) (Nat.lt_irrefl _)
    · rw [others other member] at ended
      exact tracks.unended other member ended
  · intro number below
    have length : (ledger.insert (unique entry.key) entry.elem).inserted.length =
        ledger.inserted.length + 1 := List.length_append
    rw [length] at below
    rcases Nat.lt_succ_iff_lt_or_eq.mp below with older | rfl
    · rcases tracks.covered number older with ended | ⟨other, member, rfl, found⟩
      · exact Or.inl ended
      · refine Or.inr ⟨other, (placement.mem_place_iff _ _ _).mpr (Or.inr member), ?_, ?_⟩
        · exact others other member
        · exact insert_inserted_of_some found
    · exact Or.inr ⟨entry, (placement.mem_place_iff _ _ _).mpr (Or.inl rfl), self, newest⟩
  · exact tracks.once
  · intro pair member
    have longer : ledger.inserted.length ≤
        (ledger.insert (unique entry.key) entry.elem).inserted.length := by
      simp [Ledger.insert]
    exact Nat.lt_of_lt_of_le (tracks.bounded pair member) longer

/-- Erasing the entry found under a key. -/
theorem close {index : ι} {entry : Filed ρ κ} (found : findUnique unique index entries = some entry)
    (by_ : τ) : Tracks unique (eraseUnique unique index entries) (ledger.close index by_) := by
  rcases mem_of_findUnique found with ⟨member, rfl⟩
  have kept : ∀ other ∈ eraseUnique unique (unique entry.key) entries,
      other ∈ entries ∧ unique other.key ≠ unique entry.key :=
    fun other => (tracks.distinct.mem_eraseUnique_iff _ other).mp
  constructor
  · exact tracks.distinct.eraseUnique _
  · intro other stays
    exact tracks.filed other (kept other stays).1
  · intro first firstStays second secondStays
    exact tracks.separate first (kept first firstStays).1 second (kept second secondStays).1
  · rintro other stays ⟨who, ended⟩
    rcases (mem_close_iff _ _ _ _).mp ended with before | now
    · exact tracks.unended other (kept other stays).1 ⟨who, before⟩
    · exact (kept other stays).2
        (tracks.separate other (kept other stays).1 entry member (congrArg Prod.fst now))
  · intro number below
    rcases tracks.covered number below with ⟨who, ended⟩ | ⟨other, otherMember, rfl, elem⟩
    · exact Or.inl ⟨who, (mem_close_iff _ _ _ _).mpr (Or.inl ended)⟩
    · by_cases same : unique other.key = unique entry.key
      · rw [same]
        exact Or.inl ⟨by_, (mem_close_iff _ _ _ _).mpr (Or.inr rfl)⟩
      · exact Or.inr ⟨other, (tracks.distinct.mem_eraseUnique_iff _ other).mpr
          ⟨otherMember, same⟩, rfl, elem⟩
  · rw [Ledger.close, List.map_append]
    apply List.nodup_append.mpr
    refine ⟨tracks.once, List.nodup_singleton _, ?_⟩
    intro number ended other isLatest same
    rw [List.mem_singleton.mp isLatest] at same
    subst same
    rcases List.mem_map.mp ended with ⟨⟨_, who⟩, pair, named⟩
    cases named
    exact tracks.unended entry member ⟨who, pair⟩
  · intro pair ended
    rcases (mem_close_iff _ _ _ _).mp ended with before | rfl
    · exact tracks.bounded pair before
    · exact tracks.latest_lt member

end Tracks

end Ledger

end Aurum.Container
