import Mathlib.Data.List.Basic
import Mathlib.Data.List.Nodup
import Mathlib.Data.List.Perm.Basic

/-!
# Indexed containers of mutable elements

A hashed index files an element under the key it has when it is inserted, and
finds it only under that key.  When elements are references to objects whose
key fields change later, the filed key and the current key can drift apart.
The container is the list of its entries in iteration order; where an
insertion puts its entry, and how it reorders the others, is a parameter.

A container is *coherent* when every filed key is current.  Lookups of a
coherent container return exactly the elements with the key asked for.
-/

namespace Aurum.Container

/-- An element with the key it was filed under. -/
structure Filed (ρ κ : Type) where
  elem : ρ
  key : κ
  deriving DecidableEq

/-- Where an insertion leaves the entries of a container: in any order, but
none lost and only the new one added. -/
structure Placement (ρ κ : Type) where
  place : List (Filed ρ κ) → Filed ρ κ → List (Filed ρ κ)
  perm : ∀ entries entry, (place entries entry).Perm (entry :: entries)

variable {ρ κ ι : Type} [DecidableEq ι]

/-- The elements filed under the keys that satisfy a test. -/
def lookup (test : κ → Bool) (entries : List (Filed ρ κ)) : List ρ :=
  (entries.filter fun entry => test entry.key).map Filed.elem

/-- Insert into a container with a unique index on `unique`; an entry whose
unique key is taken is not inserted. -/
def insertUnique (unique : κ → ι) (placement : Placement ρ κ) (entries : List (Filed ρ κ))
    (entry : Filed ρ κ) : Bool × List (Filed ρ κ) :=
  if entries.any (fun other => unique other.key = unique entry.key) then
    (false, entries)
  else
    (true, placement.place entries entry)

/-- The first entry filed under a unique key. -/
def findUnique (unique : κ → ι) (index : ι) (entries : List (Filed ρ κ)) :
    Option (Filed ρ κ) :=
  entries.find? fun entry => unique entry.key = index

/-- Erase the first entry filed under a unique key. -/
def eraseUnique (unique : κ → ι) (index : ι) (entries : List (Filed ρ κ)) :
    List (Filed ρ κ) :=
  entries.eraseP fun entry => unique entry.key = index

/-- No two entries share a unique key. -/
def UniqueKeys (unique : κ → ι) (entries : List (Filed ρ κ)) : Prop :=
  (entries.map fun entry => unique entry.key).Nodup

/-- Every entry is filed under the current key of its element. -/
def Coherent (keyOf : ρ → κ) (entries : List (Filed ρ κ)) : Prop :=
  ∀ entry ∈ entries, entry.key = keyOf entry.elem

omit [DecidableEq ι] in
theorem mem_lookup_iff (test : κ → Bool) (entries : List (Filed ρ κ)) (elem : ρ) :
    elem ∈ lookup test entries ↔ ∃ entry ∈ entries, test entry.key ∧ entry.elem = elem := by
  simp [lookup, and_assoc]

/-! ## Insertion -/

theorem insertUnique_of_taken {unique : κ → ι} {placement : Placement ρ κ}
    {entries : List (Filed ρ κ)} {entry other : Filed ρ κ} (member : other ∈ entries)
    (taken : unique other.key = unique entry.key) :
    insertUnique unique placement entries entry = (false, entries) := by
  apply if_pos
  simp only [List.any_eq_true, decide_eq_true_eq]
  exact ⟨other, member, taken⟩

theorem insertUnique_of_free {unique : κ → ι} {placement : Placement ρ κ}
    {entries : List (Filed ρ κ)} {entry : Filed ρ κ}
    (free : ∀ other ∈ entries, unique other.key ≠ unique entry.key) :
    insertUnique unique placement entries entry = (true, placement.place entries entry) := by
  apply if_neg
  simp only [List.any_eq_true, decide_eq_true_eq, not_exists, not_and]
  exact free

/-- An insertion either changes nothing or adds exactly the new entry. -/
theorem insertUnique_cases (unique : κ → ι) (placement : Placement ρ κ)
    (entries : List (Filed ρ κ)) (entry : Filed ρ κ) :
    ((∃ other ∈ entries, unique other.key = unique entry.key) ∧
        insertUnique unique placement entries entry = (false, entries)) ∨
      ((∀ other ∈ entries, unique other.key ≠ unique entry.key) ∧
        insertUnique unique placement entries entry = (true, placement.place entries entry)) := by
  by_cases taken : ∃ other ∈ entries, unique other.key = unique entry.key
  · rcases taken with ⟨other, member, equal⟩
    exact Or.inl ⟨⟨other, member, equal⟩, insertUnique_of_taken member equal⟩
  · have free : ∀ other ∈ entries, unique other.key ≠ unique entry.key :=
      fun other member equal => taken ⟨other, member, equal⟩
    exact Or.inr ⟨free, insertUnique_of_free free⟩

omit [DecidableEq ι] in
@[simp]
theorem Placement.mem_place_iff (placement : Placement ρ κ) (entries : List (Filed ρ κ))
    (entry other : Filed ρ κ) :
    other ∈ placement.place entries entry ↔ other = entry ∨ other ∈ entries :=
  (placement.perm entries entry).mem_iff.trans List.mem_cons

theorem mem_insertUnique {unique : κ → ι} {placement : Placement ρ κ}
    {entries : List (Filed ρ κ)} {entry other : Filed ρ κ}
    (member : other ∈ (insertUnique unique placement entries entry).2) :
    other = entry ∨ other ∈ entries := by
  rcases insertUnique_cases unique placement entries entry with ⟨_, result⟩ | ⟨_, result⟩
  · rw [result] at member
    exact Or.inr member
  · rw [result] at member
    exact (placement.mem_place_iff entries entry other).mp member

theorem mem_insertUnique_of_mem {unique : κ → ι} {placement : Placement ρ κ}
    {entries : List (Filed ρ κ)} {entry other : Filed ρ κ} (member : other ∈ entries) :
    other ∈ (insertUnique unique placement entries entry).2 := by
  rcases insertUnique_cases unique placement entries entry with ⟨_, result⟩ | ⟨_, result⟩
  · rw [result]
    exact member
  · rw [result]
    exact (placement.mem_place_iff entries entry other).mpr (Or.inr member)

theorem UniqueKeys.insertUnique {unique : κ → ι} {entries : List (Filed ρ κ)}
    (distinct : UniqueKeys unique entries) (placement : Placement ρ κ) (entry : Filed ρ κ) :
    UniqueKeys unique (insertUnique unique placement entries entry).2 := by
  rcases insertUnique_cases unique placement entries entry with ⟨_, result⟩ | ⟨free, result⟩
  · rw [result]
    exact distinct
  · rw [result, UniqueKeys, ((placement.perm entries entry).map _).nodup_iff, List.map_cons,
      List.nodup_cons]
    refine ⟨?_, distinct⟩
    rintro taken
    obtain ⟨other, member, equal⟩ := List.mem_map.mp taken
    exact free other member equal

theorem Coherent.insertUnique {unique : κ → ι} {keyOf : ρ → κ} {entries : List (Filed ρ κ)}
    (coherent : Coherent keyOf entries) (placement : Placement ρ κ) {entry : Filed ρ κ}
    (current : entry.key = keyOf entry.elem) :
    Coherent keyOf (insertUnique unique placement entries entry).2 := by
  intro other member
  rcases mem_insertUnique member with rfl | member
  · exact current
  · exact coherent other member

/-! ## Erasure -/

theorem eraseUnique_sublist (unique : κ → ι) (index : ι) (entries : List (Filed ρ κ)) :
    (eraseUnique unique index entries).Sublist entries :=
  List.eraseP_sublist

theorem UniqueKeys.eraseUnique {unique : κ → ι} {entries : List (Filed ρ κ)}
    (distinct : UniqueKeys unique entries) (index : ι) :
    UniqueKeys unique (eraseUnique unique index entries) :=
  ((eraseUnique_sublist unique index entries).map _).nodup distinct

omit [DecidableEq ι] in
theorem Coherent.sublist {keyOf : ρ → κ} {entries kept : List (Filed ρ κ)}
    (coherent : Coherent keyOf entries) (sublist : kept.Sublist entries) :
    Coherent keyOf kept :=
  fun entry member => coherent entry (sublist.subset member)

/-- In a container with unique keys, erasing removes exactly the entry filed
under the key. -/
theorem UniqueKeys.mem_eraseUnique_iff {unique : κ → ι} {entries : List (Filed ρ κ)}
    (distinct : UniqueKeys unique entries) (index : ι) (entry : Filed ρ κ) :
    entry ∈ Container.eraseUnique unique index entries ↔
      entry ∈ entries ∧ unique entry.key ≠ index := by
  induction entries with
  | nil => simp [Container.eraseUnique]
  | cons first entries ih =>
      rw [UniqueKeys, List.map_cons, List.nodup_cons] at distinct
      rcases distinct with ⟨firstFresh, restDistinct⟩
      by_cases hit : unique first.key = index
      · rw [Container.eraseUnique, List.eraseP_cons_of_pos (by simpa using hit)]
        constructor
        · intro member
          refine ⟨List.mem_cons_of_mem first member, ?_⟩
          intro equal
          apply firstFresh
          rw [hit, ← equal]
          exact List.mem_map.mpr ⟨entry, member, rfl⟩
        · rintro ⟨member, differs⟩
          rcases List.mem_cons.mp member with rfl | member
          · exact absurd hit differs
          · exact member
      · rw [Container.eraseUnique, List.eraseP_cons_of_neg (by simpa using hit), List.mem_cons,
          List.mem_cons]
        have rest := ih restDistinct
        rw [Container.eraseUnique] at rest
        rw [rest]
        constructor
        · rintro (rfl | ⟨member, differs⟩)
          · exact ⟨Or.inl rfl, hit⟩
          · exact ⟨Or.inr member, differs⟩
        · rintro ⟨rfl | member, differs⟩
          · exact Or.inl rfl
          · exact Or.inr ⟨member, differs⟩

/-- Erasing under a key does not touch the entries filed under others. -/
theorem filter_eraseUnique (unique : κ → ι) (index : ι) (entries : List (Filed ρ κ)) :
    (eraseUnique unique index entries).filter (fun entry => unique entry.key ≠ index) =
      entries.filter fun entry => unique entry.key ≠ index := by
  induction entries with
  | nil => rfl
  | cons first entries ih =>
      by_cases hit : unique first.key = index
      · rw [eraseUnique, List.eraseP_cons_of_pos (by simpa using hit),
          List.filter_cons_of_neg (by simpa using hit)]
      · rw [eraseUnique] at ih
        rw [eraseUnique, List.eraseP_cons_of_neg (by simpa using hit),
          List.filter_cons_of_pos (by simpa using hit),
          List.filter_cons_of_pos (by simpa using hit), ih]

theorem findUnique_eq_none_iff (unique : κ → ι) (index : ι) (entries : List (Filed ρ κ)) :
    findUnique unique index entries = none ↔ ∀ entry ∈ entries, unique entry.key ≠ index := by
  simp [findUnique]

theorem mem_of_findUnique {unique : κ → ι} {index : ι} {entries : List (Filed ρ κ)}
    {entry : Filed ρ κ} (found : findUnique unique index entries = some entry) :
    entry ∈ entries ∧ unique entry.key = index :=
  ⟨List.mem_of_find?_eq_some found, by simpa using List.find?_some found⟩

/-- In a container with unique keys an entry is what is found under its key. -/
theorem UniqueKeys.findUnique_of_mem {unique : κ → ι} {entries : List (Filed ρ κ)}
    (distinct : UniqueKeys unique entries) {entry : Filed ρ κ} (member : entry ∈ entries) :
    findUnique unique (unique entry.key) entries = some entry := by
  induction entries with
  | nil => cases member
  | cons first entries ih =>
      rw [UniqueKeys, List.map_cons, List.nodup_cons] at distinct
      rcases distinct with ⟨firstFresh, restDistinct⟩
      rcases List.mem_cons.mp member with rfl | member
      · exact List.find?_cons_of_pos (by simp)
      · have differs : unique first.key ≠ unique entry.key := by
          intro equal
          apply firstFresh
          rw [equal]
          exact List.mem_map.mpr ⟨entry, member, rfl⟩
        rw [findUnique, List.find?_cons_of_neg (by simpa using differs)]
        exact ih restDistinct member

theorem eraseUnique_length_of_found {unique : κ → ι} {index : ι} {entries : List (Filed ρ κ)}
    {entry : Filed ρ κ} (found : findUnique unique index entries = some entry) :
    (eraseUnique unique index entries).length + 1 = entries.length := by
  obtain ⟨member, equal⟩ := mem_of_findUnique found
  have positive : 0 < entries.length := List.length_pos_of_mem member
  rw [eraseUnique, List.length_eraseP_of_mem member (by simpa using equal)]
  omega

/-! ## Lookups of coherent containers -/

omit [DecidableEq ι] in
/-- A coherent container finds exactly the elements with a current key that
passes the test. -/
theorem Coherent.mem_lookup_iff {keyOf : ρ → κ} {entries : List (Filed ρ κ)}
    (coherent : Coherent keyOf entries) (test : κ → Bool) (elem : ρ) :
    elem ∈ lookup test entries ↔ elem ∈ entries.map Filed.elem ∧ test (keyOf elem) := by
  rw [Container.mem_lookup_iff, List.mem_map]
  constructor
  · rintro ⟨entry, member, passes, rfl⟩
    exact ⟨⟨entry, member, rfl⟩, by rwa [← coherent entry member]⟩
  · rintro ⟨⟨entry, member, rfl⟩, passes⟩
    exact ⟨entry, member, by rwa [coherent entry member], rfl⟩

omit [DecidableEq ι] in
/-- Coherence depends only on the current keys of the elements contained. -/
theorem Coherent.congr {keyOf newKeyOf : ρ → κ} {entries : List (Filed ρ κ)}
    (coherent : Coherent keyOf entries)
    (unchanged : ∀ entry ∈ entries, newKeyOf entry.elem = keyOf entry.elem) :
    Coherent newKeyOf entries :=
  fun entry member => (coherent entry member).trans (unchanged entry member).symm

end Aurum.Container
