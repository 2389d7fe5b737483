import Mathlib.Data.List.Basic

/-!
# The latest value written

Of a list of items some carry a value for a field.  Applied in order, they
leave the value of the last item that carries one, or what was there before.
-/

namespace Aurum.Container

universe u v

variable {α : Type u} {β : Type v} (carries : α → Bool) (value : α → β)

/-- The value that the last item with one carries, or else the value given. -/
def latest (items : List α) (start : β) : β :=
  ((items.filter carries).getLast?.map value).getD start

theorem latest_cons (item : α) (items : List α) (start : β) :
    latest carries value (item :: items) start =
      latest carries value items (if carries item then value item else start) := by
  unfold latest
  cases carried : carries item with
  | false => rw [List.filter_cons_of_neg (by simp [carried]), if_neg (by decide)]
  | true =>
      rw [List.filter_cons_of_pos carried, List.getLast?_cons, if_pos rfl]
      cases (items.filter carries).getLast? <;> rfl

theorem latest_append (first second : List α) (start : β) :
    latest carries value (first ++ second) start =
      latest carries value second (latest carries value first start) := by
  induction first generalizing start with
  | nil => rfl
  | cons item first ih => rw [List.cons_append, latest_cons, ih, latest_cons]

variable {carries value}

/-- When all values carried are the one already there, it stays. -/
theorem latest_of_agree {items : List α} {start : β}
    (agree : ∀ item ∈ items, carries item = true → value item = start) :
    latest carries value items start = start := by
  induction items with
  | nil => rfl
  | cons item items ih =>
      have same : (if carries item then value item else start) = start := by
        split
        · rename_i carried
          exact agree item List.mem_cons_self carried
        · rfl
      rw [latest_cons, same]
      exact ih fun other member => agree other (List.mem_cons_of_mem item member)

end Aurum.Container
