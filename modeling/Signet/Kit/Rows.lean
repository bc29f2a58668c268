import Mathlib.Data.List.Nodup

/-!
# Rows of a table

A table is a list of rows, and a column a function of a row.  A row is looked up by the
value it has in a column.  In a column without duplicates a row is the only one with its
value; an optional column has no duplicates among the values that are there.
-/

namespace Signet
namespace Kit

variable {α κ : Type*}

variable {rows : List α} {row : α} {column : α → κ} {value : κ}

theorem eq_of_column (hKey : (rows.map column).Nodup) {row' : α} (h : row ∈ rows) (h' : row' ∈ rows)
    (hEq : column row = column row') :
    row = row' :=
  List.inj_on_of_nodup_map hKey h h' hEq

theorem eq_of_optional_column {column : α → Option κ} (hUnique : (rows.filterMap column).Nodup)
    {row' : α} (h : row ∈ rows) (h' : row' ∈ rows) (hValue : column row = some value)
    (hValue' : column row' = some value) : row = row' := by
  induction rows with
  | nil => cases h
  | cons first rest ih =>
    have hRest : (rest.filterMap column).Nodup :=
      hUnique.sublist ((List.sublist_cons_self first rest).filterMap column)
    have hApart : ∀ other ∈ rest, column other = some value → column first ≠ some value := by
      intro other hOther hOtherValue hFirst
      rw [List.filterMap_cons_some hFirst, List.nodup_cons] at hUnique
      exact hUnique.1 (List.mem_filterMap.mpr ⟨other, hOther, hOtherValue⟩)
    rcases List.mem_cons.mp h with rfl | hOld
    · rcases List.mem_cons.mp h' with rfl | hOld'
      · rfl
      · exact absurd hValue (hApart row' hOld' hValue')
    · rcases List.mem_cons.mp h' with rfl | hOld'
      · exact absurd hValue' (hApart row hOld hValue)
      · exact ih hRest hOld hOld'

variable [DecidableEq κ]

def rowWith (column : α → κ) (rows : List α) (value : κ) : Option α :=
  rows.find? fun row => column row = value

theorem rowWith_some (h : rowWith column rows value = some row) :
    row ∈ rows ∧ column row = value := by
  have hFound : decide (column row = value) = true := by
    simpa using List.find?_some h
  exact ⟨List.mem_of_find?_eq_some h, of_decide_eq_true hFound⟩

theorem rowWith_none :
    rowWith column rows value = none ↔ ∀ row ∈ rows, column row ≠ value := by
  simp [rowWith]

theorem rowWith_of_mem (hKey : (rows.map column).Nodup) (h : row ∈ rows) :
    rowWith column rows (column row) = some row := by
  cases hFound : rowWith column rows (column row) with
  | none => exact absurd rfl (rowWith_none.mp hFound row h)
  | some found =>
    obtain ⟨hMem, hValue⟩ := rowWith_some hFound
    rw [eq_of_column hKey hMem h hValue]

end Kit
end Signet
