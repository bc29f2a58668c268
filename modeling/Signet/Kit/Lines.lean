import Mathlib.Data.List.Basic

/-!
# Lines

A text that comes in pieces is cut at its newlines: the lines that are complete, and what
follows the last of them.  Cutting piece by piece, each with what was left of the one before,
gives the lines of the whole.

* `cutLines`, `splitLines`
* `splitLines_append` — one piece after another.
-/

namespace Signet
namespace Kit

/-- The complete lines of a text that goes on with a line, and what follows them. -/
def cutLines (line : List Char) : List Char → List (List Char) × List Char
  | [] => ([], line)
  | c :: text =>
    if c = '\n' then (line :: (cutLines [] text).1, (cutLines [] text).2)
    else cutLines (line ++ [c]) text

/-- The complete lines of a text, and what follows them. -/
def splitLines (text : List Char) : List (List Char) × List Char := cutLines [] text

theorem cutLines_append (line xs ys : List Char) :
    cutLines line (xs ++ ys) =
      ((cutLines line xs).1 ++ (cutLines (cutLines line xs).2 ys).1,
        (cutLines (cutLines line xs).2 ys).2) := by
  induction xs generalizing line with
  | nil => rfl
  | cons c xs ih =>
    rw [List.cons_append, cutLines, cutLines]
    split
    · rw [ih]
      rfl
    · exact ih _

/-- A line that has no newline is gone on with. -/
theorem cutLines_of_not_mem {line xs : List Char} (h : '\n' ∉ xs) (ys : List Char) :
    cutLines line (xs ++ ys) = cutLines (line ++ xs) ys := by
  induction xs generalizing line with
  | nil => rw [List.nil_append, List.append_nil]
  | cons c xs ih =>
    rw [List.mem_cons, not_or] at h
    rw [List.cons_append, cutLines, if_neg (Ne.symm h.1), ih h.2, List.append_assoc]
    rfl

/-- What follows the last newline has none. -/
theorem newline_notMem_cutLines {line : List Char} (h : '\n' ∉ line) (text : List Char) :
    '\n' ∉ (cutLines line text).2 := by
  induction text generalizing line with
  | nil => exact h
  | cons c text ih =>
    rw [cutLines]
    split
    · exact ih (by simp)
    · next hNe =>
      refine ih ?_
      rw [List.mem_append, List.mem_singleton, not_or]
      exact ⟨h, Ne.symm hNe⟩

/-- **One piece after another**: what was left of the first is gone on with. -/
theorem splitLines_append (xs ys : List Char) :
    splitLines (xs ++ ys) =
      ((splitLines xs).1 ++ (splitLines ((splitLines xs).2 ++ ys)).1,
        (splitLines ((splitLines xs).2 ++ ys)).2) := by
  have hRest : splitLines ((splitLines xs).2 ++ ys) = cutLines (splitLines xs).2 ys :=
    cutLines_of_not_mem (newline_notMem_cutLines (by simp) xs) ys
  rw [hRest]
  exact cutLines_append [] xs ys

end Kit
end Signet
