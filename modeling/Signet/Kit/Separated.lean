import Mathlib.Data.List.Basic

/-!
# Texts with separators

A text in front of a separator that it does not contain can be told from what follows, and so
can the parts of a text that are joined by one.
-/

namespace Signet
namespace Kit

variable {α : Type*} [DecidableEq α] {separator : α}

/-- Texts that agree up to and behind their first separators are equal on either side of it. -/
theorem cancel_separator {before before' after after' : List α} (h : separator ∉ before)
    (h' : separator ∉ before')
    (hEq : before ++ separator :: after = before' ++ separator :: after') :
    before = before' ∧ after = after' := by
  have hSplit := congrArg (List.splitOn separator) hEq
  rw [List.splitOn_append_cons_self_of_not_mem h,
    List.splitOn_append_cons_self_of_not_mem h'] at hSplit
  have hBefore := (List.cons.inj hSplit).1
  subst hBefore
  exact ⟨rfl, (List.cons.inj (List.append_cancel_left hEq)).2⟩

/-- Parts without the separator are determined by the text that joins them. -/
theorem intercalate_injective {parts parts' : List (List α)} (h : ∀ part ∈ parts, separator ∉ part)
    (h' : ∀ part ∈ parts', separator ∉ part) (hParts : parts ≠ []) (hParts' : parts' ≠ [])
    (hEq : [separator].intercalate parts = [separator].intercalate parts') : parts = parts' := by
  rw [← List.splitOn_intercalate separator h hParts, hEq,
    List.splitOn_intercalate separator h' hParts']

end Kit
end Signet
