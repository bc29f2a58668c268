import Mathlib.Data.List.Basic
import Mathlib.Data.List.Induction
import Mathlib.Data.List.Nodup

/-!
# Lineages

Nodes that carry an id and may name a parent by its id, listed oldest first.  A
list is a lineage if every node names the one right before it and the first
names none.

* `Lineage` — the linear shape, by its last node.
* `Unforked` — no two nodes name the same parent, and at most one names none.
* `lineage_snoc_of_unforked` — a node that is added to a lineage without a fork
  continues it.
* `lineage_last_iff` — the last node of a lineage is the only one that no node names.
-/

namespace Signet
namespace Kit

variable {ε κ : Type*} (ident : ε → κ) (parent : ε → Option κ)

/-- Every node names the one before it, the first names none. -/
inductive Lineage : List ε → Prop
  | nil : Lineage []
  | snoc {l : List ε} {e : ε} :
      Lineage l → parent e = l.getLast?.map ident → Lineage (l ++ [e])

/-- No two nodes name the same parent, and at most one names none. -/
def Unforked (l : List ε) : Prop := l.Pairwise fun a b => parent a ≠ parent b

variable {ident parent}

variable {l : List ε} {e : ε}

theorem lineage_snoc_iff :
    Lineage ident parent (l ++ [e]) ↔
      Lineage ident parent l ∧ parent e = l.getLast?.map ident := by
  constructor
  · intro h
    generalize hEq : l ++ [e] = l' at h
    cases h with
    | nil => simp at hEq
    | snoc hInit hParent =>
      obtain ⟨rfl, hLast⟩ := List.append_inj' hEq rfl
      cases hLast
      exact ⟨hInit, hParent⟩
  · rintro ⟨hInit, hParent⟩
    exact .snoc hInit hParent

theorem Lineage.parent_mem (h : Lineage ident parent l) (he : e ∈ l) {k : κ}
    (hParent : parent e = some k) : ∃ a ∈ l, ident a = k := by
  induction h with
  | nil => cases he
  | @snoc l last hInit hLast ih =>
    rw [List.mem_append, List.mem_singleton] at he
    rcases he with he | rfl
    · obtain ⟨a, ha, hId⟩ := ih he
      exact ⟨a, List.mem_append_left _ ha, hId⟩
    · rw [hParent] at hLast
      obtain ⟨a, ha, hId⟩ := Option.map_eq_some_iff.mp hLast.symm
      exact ⟨a, List.mem_append_left _ (List.mem_of_getLast? ha), hId⟩

theorem Lineage.named {last : ε} (h : Lineage ident parent (l ++ [last])) {a : ε} (ha : a ∈ l) :
    ∃ b ∈ l ++ [last], parent b = some (ident a) := by
  induction l using List.reverseRecOn generalizing last with
  | nil => cases ha
  | append_singleton l e ih =>
    obtain ⟨hInit, hParent⟩ := lineage_snoc_iff.mp h
    rw [List.mem_append, List.mem_singleton] at ha
    rcases ha with ha | rfl
    · obtain ⟨b, hb, hNames⟩ := ih hInit ha
      exact ⟨b, List.mem_append_left _ hb, hNames⟩
    · refine ⟨last, by simp, ?_⟩
      rw [hParent]
      simp

theorem Lineage.last_not_named {last : ε} (h : Lineage ident parent (l ++ [last]))
    (hIds : ((l ++ [last]).map ident).Nodup) {b : ε} (hb : b ∈ l ++ [last]) :
    parent b ≠ some (ident last) := by
  intro hNames
  obtain ⟨hInit, hParent⟩ := lineage_snoc_iff.mp h
  have hFresh : ident last ∉ l.map ident := by
    rw [List.map_append, List.nodup_append] at hIds
    intro hMem
    exact hIds.2.2 _ hMem _ (by simp) rfl
  rw [List.mem_append, List.mem_singleton] at hb
  rcases hb with hb | rfl
  · obtain ⟨a, ha, hId⟩ := hInit.parent_mem hb hNames
    exact hFresh (hId ▸ List.mem_map_of_mem ha)
  · rw [hNames] at hParent
    obtain ⟨a, ha, hId⟩ := Option.map_eq_some_iff.mp hParent.symm
    exact hFresh (hId ▸ List.mem_map_of_mem (List.mem_of_getLast? ha))

variable (h : Lineage ident parent l)

include h

/-- The last node of a lineage is the only one that no node names. -/
theorem lineage_last_iff (hIds : (l.map ident).Nodup) :
    l.getLast? = some e ↔ e ∈ l ∧ ∀ b ∈ l, parent b ≠ some (ident e) := by
  induction l using List.reverseRecOn with
  | nil => simp
  | append_singleton l last _ =>
    rw [List.getLast?_concat]
    constructor
    · intro hEq
      cases hEq
      exact ⟨by simp, fun b hb => h.last_not_named hIds hb⟩
    · rintro ⟨hMem, hFree⟩
      rw [List.mem_append, List.mem_singleton] at hMem
      rcases hMem with hMem | rfl
      · obtain ⟨b, hb, hNames⟩ := h.named hMem
        exact (hFree b hb hNames).elim
      · rfl

theorem Lineage.unforked (hIds : (l.map ident).Nodup) : Unforked parent l := by
  induction h with
  | nil => exact List.Pairwise.nil
  | @snoc l last hInit hParent ih =>
    have hIdsInit : (l.map ident).Nodup := by
      rw [List.map_append] at hIds
      exact (List.nodup_append.mp hIds).1
    refine List.pairwise_append.mpr ⟨ih hIdsInit, List.pairwise_singleton _ _, ?_⟩
    intro a ha b hb
    rw [List.mem_singleton] at hb
    subst hb
    intro hSame
    rw [hParent] at hSame
    cases hLast : l.getLast? with
    | none =>
      rw [List.getLast?_eq_none_iff] at hLast
      subst hLast
      cases ha
    | some prev =>
      rw [hLast] at hSame
      exact ((lineage_last_iff hInit hIdsInit).mp hLast).2 a ha hSame

/-- A lineage that is not empty has a node that names none. -/
theorem Lineage.root (hNe : l ≠ []) : ∃ root ∈ l, parent root = none := by
  induction h with
  | nil => exact (hNe rfl).elim
  | @snoc l e _ hParent ih =>
    by_cases hEmpty : l = []
    · subst hEmpty
      exact ⟨e, by simp, hParent⟩
    · obtain ⟨root, hMem, hRoot⟩ := ih hEmpty
      exact ⟨root, List.mem_append_left _ hMem, hRoot⟩

/-- A node that is added to a lineage without a fork continues it. -/
theorem lineage_snoc_of_unforked (hKnown : ∀ k, parent e = some k → ∃ a ∈ l, ident a = k)
    (hUnforked : Unforked parent (l ++ [e])) : Lineage ident parent (l ++ [e]) := by
  refine .snoc h ?_
  have hOther : ∀ a ∈ l, parent a ≠ parent e := by
    intro a ha
    exact (List.pairwise_append.mp hUnforked).2.2 a ha e (by simp)
  cases hParent : parent e with
  | none =>
    -- a second node without a parent
    by_cases hEmpty : l = []
    · subst hEmpty
      rfl
    · obtain ⟨root, hMem, hRoot⟩ := h.root hEmpty
      exact (hOther root hMem (hRoot.trans hParent.symm)).elim
  | some k =>
    obtain ⟨a, ha, rfl⟩ := hKnown k hParent
    rcases List.eq_nil_or_concat l with rfl | ⟨init, last, rfl⟩
    · cases ha
    · rw [List.concat_eq_append] at h hOther ha ⊢
      rw [List.mem_append, List.mem_singleton] at ha
      rcases ha with ha | rfl
      · -- a node that is named already
        obtain ⟨b, hb, hNames⟩ := h.named ha
        exact (hOther b hb (hNames.trans hParent.symm)).elim
      · rw [List.getLast?_concat]
        rfl

end Kit
end Signet
