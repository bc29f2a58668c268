import Mathlib.Data.List.Induction

/-!
# Removing elements in a backwards loop

A loop that goes from the last index of a list down to the first and splices out what it finds
unwanted never skips an element, because a removal moves only elements that it has passed.
-/

namespace Signet
namespace Kit

variable {α : Type*} (unwanted : α → Bool)

/-- The loop for the indices below `i`, the last of them first, with the count of what it has
removed. -/
def spliceBackwards : Nat → List α → Nat → List α × Nat
  | 0, entries, removed => (entries, removed)
  | i + 1, entries, removed =>
    match entries[i]? with
    | none => spliceBackwards i entries removed
    | some entry =>
      if unwanted entry then spliceBackwards i (entries.eraseIdx i) (removed + 1)
      else spliceBackwards i entries removed

/-- The loop filters what lies below its index and leaves what it has passed. -/
theorem spliceBackwards_append (passed : List α) (removed : Nat) (todo : List α) :
    spliceBackwards unwanted todo.length (todo ++ passed) removed =
      (todo.filter (fun entry => !unwanted entry) ++ passed,
        removed + todo.countP unwanted) := by
  induction todo using List.reverseRecOn generalizing passed removed with
  | nil => simp [spliceBackwards]
  | append_singleton todo entry ih =>
    have hLength : (todo ++ [entry]).length = todo.length + 1 := by simp
    have hHere : (todo ++ [entry] ++ passed)[todo.length]? = some entry := by simp
    rw [hLength, spliceBackwards, hHere]
    by_cases hUnwanted : unwanted entry = true
    · have hErase : (todo ++ [entry] ++ passed).eraseIdx todo.length = todo ++ passed := by
        rw [List.append_assoc, List.eraseIdx_append_of_length_le (Nat.le_refl _)]
        simp
      simp only [hUnwanted, if_true, hErase, ih]
      simp [hUnwanted, Nat.add_comm, Nat.add_left_comm]
    · simp only [hUnwanted, Bool.false_eq_true, if_false]
      rw [List.append_assoc, ih]
      simp [hUnwanted]

/-- Over the whole list the loop is a filter, and its count is that of the unwanted elements. -/
theorem spliceBackwards_eq (entries : List α) :
    spliceBackwards unwanted entries.length entries 0 =
      (entries.filter (fun entry => !unwanted entry), entries.countP unwanted) := by
  simpa using spliceBackwards_append unwanted [] 0 entries

end Kit
end Signet
