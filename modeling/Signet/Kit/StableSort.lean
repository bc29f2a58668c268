import Mathlib.Data.List.Sort

/-!
# Sorting by a preorder

A preorder may rank different elements as equal.  A stable sort then keeps such elements in the
order they came in, and its result depends on that order and on nothing else of the order of the
list: two lists are sorted alike exactly when, for each element, what is tied with it stands in the
same sequence in both.
-/

namespace Signet
namespace Kit

section

variable {α : Type*} (r : α → α → Prop)

/-- Each of the two elements ranks at or below the other. -/
def Tied (a b : α) : Prop := r a b ∧ r b a

theorem tied_self [Std.Total r] (a : α) : Tied r a a := by
  have h : r a a := (Std.Total.total (r := r) a a).elim id id
  exact ⟨h, h⟩

variable [DecidableRel r]

instance : DecidableRel (Tied r) := fun a b => inferInstanceAs (Decidable (r a b ∧ r b a))

/-- The elements tied with one, in the order of the list. -/
def tieClass (a : α) (l : List α) : List α := l.filter (Tied r a)

variable {l l' : List α} {a b : α}

@[simp]
theorem mem_tieClass : b ∈ tieClass r a l ↔ b ∈ l ∧ Tied r a b := by
  simp [tieClass]

theorem tieClass_cons_of_tied (l : List α) (h : Tied r a b) :
    tieClass r a (b :: l) = b :: tieClass r a l := by
  simp [tieClass, h]

theorem tieClass_cons_of_not_tied (l : List α) (h : ¬ Tied r a b) :
    tieClass r a (b :: l) = tieClass r a l := by
  simp [tieClass, h]

/-- Two lists hold tied elements in the same sequence. -/
def SameTies (l l' : List α) : Prop := ∀ a, tieClass r a l = tieClass r a l'

/-- **Stability.**  Sorting leaves each class of tied elements as it stands. -/
theorem tieClass_insertionSort [IsTrans α r] (a : α) (l : List α) :
    tieClass r a (l.insertionSort r) = tieClass r a l := by
  have hPairwise : (tieClass r a l).Pairwise r := by
    rw [List.pairwise_iff_forall_sublist]
    intro b c hSub
    have hb : b ∈ tieClass r a l := hSub.subset (by simp)
    have hc : c ∈ tieClass r a l := hSub.subset (by simp)
    rw [mem_tieClass] at hb hc
    exact IsTrans.trans b a c hb.2.2 hc.2.1
  have hSorted : (tieClass r a l).Sublist (l.insertionSort r) :=
    List.sublist_insertionSort hPairwise List.filter_sublist
  have hClass : (tieClass r a l).Sublist (tieClass r a (l.insertionSort r)) := by
    have hFiltered := hSorted.filter (fun b => decide (Tied r a b))
    have hSelf : (tieClass r a l).filter (fun b => decide (Tied r a b)) = tieClass r a l := by
      unfold tieClass
      rw [List.filter_filter]
      simp
    rwa [hSelf] at hFiltered
  -- the sorted list holds as many elements of the class
  have hLength : (tieClass r a (l.insertionSort r)).length = (tieClass r a l).length :=
    ((List.perm_insertionSort r l).filter _).length_eq
  exact (hClass.eq_of_length hLength.symm).symm

variable [Std.Total r]

/-- Sorted lists are told apart by the sequences of their tied elements. -/
theorem eq_of_sameTies (hSorted : l.Pairwise r) (hSorted' : l'.Pairwise r) (h : SameTies r l l') :
    l = l' := by
  induction l generalizing l' with
  | nil =>
    cases l' with
    | nil => rfl
    | cons b l' =>
      have hb := h b
      rw [tieClass_cons_of_tied r l' (tied_self r b)] at hb
      cases hb
  | cons a l ih =>
    cases l' with
    | nil =>
      have ha := h a
      rw [tieClass_cons_of_tied r l (tied_self r a)] at ha
      cases ha
    | cons b l' =>
      have ha : a ∈ b :: l' := by
        have hMem : a ∈ tieClass r a (b :: l') := by
          rw [← h a, tieClass_cons_of_tied r l (tied_self r a)]
          exact List.mem_cons_self
        exact ((mem_tieClass r).mp hMem).1
      have hb : b ∈ a :: l := by
        have hMem : b ∈ tieClass r b (a :: l) := by
          rw [h b, tieClass_cons_of_tied r l' (tied_self r b)]
          exact List.mem_cons_self
        exact ((mem_tieClass r).mp hMem).1
      -- each head is at or below the other, so both lead the class of the first
      have hTied : Tied r a b := by
        constructor
        · rcases List.mem_cons.mp hb with rfl | hLater
          · exact (tied_self r b).1
          · exact (List.pairwise_cons.mp hSorted).1 b hLater
        · rcases List.mem_cons.mp ha with rfl | hLater
          · exact (tied_self r a).1
          · exact (List.pairwise_cons.mp hSorted').1 a hLater
      have hHeads := h a
      rw [tieClass_cons_of_tied r l (tied_self r a), tieClass_cons_of_tied r l' hTied,
        List.cons.injEq] at hHeads
      obtain ⟨rfl, -⟩ := hHeads
      congr 1
      apply ih (List.pairwise_cons.mp hSorted).2 (List.pairwise_cons.mp hSorted').2
      intro c
      have hClass := h c
      by_cases hc : Tied r c a
      · rw [tieClass_cons_of_tied r l hc, tieClass_cons_of_tied r l' hc,
          List.cons.injEq] at hClass
        exact hClass.2
      · rw [tieClass_cons_of_not_tied r l hc, tieClass_cons_of_not_tied r l' hc] at hClass
        exact hClass

variable [IsTrans α r]

/-- **Two lists are sorted alike exactly when their tied elements stand in the same
sequence.** -/
theorem insertionSort_eq_iff (l l' : List α) :
    l.insertionSort r = l'.insertionSort r ↔ SameTies r l l' := by
  constructor
  · intro hEq a
    rw [← tieClass_insertionSort r a l, hEq, tieClass_insertionSort]
  · intro h
    apply eq_of_sameTies r (List.pairwise_insertionSort r l) (List.pairwise_insertionSort r l')
    intro a
    rw [tieClass_insertionSort, tieClass_insertionSort]
    exact h a

/-- Such lists are rearrangements of each other. -/
theorem SameTies.perm (h : SameTies r l l') : l.Perm l' := by
  have hSorted := List.perm_insertionSort r l
  rw [(insertionSort_eq_iff r l l').mpr h] at hSorted
  exact hSorted.symm.trans (List.perm_insertionSort r l')

/-- Where different elements are never tied, rearranging a list moves no tied elements. -/
theorem sameTies_of_perm (hApart : ∀ a b, Tied r a b → a = b) (h : l.Perm l') :
    SameTies r l l' := by
  rw [← insertionSort_eq_iff]
  have hSorted : (l.insertionSort r).Perm (l'.insertionSort r) :=
    (List.perm_insertionSort r l).trans (h.trans (List.perm_insertionSort r l').symm)
  apply hSorted.eq_of_pairwise ?_ (List.pairwise_insertionSort r l)
    (List.pairwise_insertionSort r l')
  intro a b _ _ hab hba
  exact hApart a b ⟨hab, hba⟩

end

end Kit
end Signet
