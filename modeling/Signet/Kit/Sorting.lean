import Mathlib.Data.List.Sort

/-!
# Sorting by distinct keys

Sorting by a key keeps elements of one key in their old order.  Where no two
elements have one key there is nothing to keep, and the result depends on the
elements alone.
-/

namespace Signet
namespace Kit

variable {α β : Type*} [LinearOrder β] (key : α → β)

/-- The elements in the order of their keys. -/
def sortByKey (l : List α) : List α := l.insertionSort fun x y => key x ≤ key y

theorem sortByKey_perm (l : List α) : (sortByKey key l).Perm l := List.perm_insertionSort _ l

theorem pairwise_sortByKey (l : List α) :
    (sortByKey key l).Pairwise fun x y => key x ≤ key y := by
  have : Std.Total fun x y : α => key x ≤ key y := ⟨fun x y => le_total (key x) (key y)⟩
  have : IsTrans α fun x y => key x ≤ key y := ⟨fun _ _ _ hxy hyz => hxy.trans hyz⟩
  exact List.pairwise_insertionSort _ l

variable {l : List α}

theorem sortByKey_eq_iff_perm {l' : List α} (hNodup : (l.map key).Nodup) :
    sortByKey key l = sortByKey key l' ↔ l.Perm l' := by
  constructor
  · intro h
    have hPerm := sortByKey_perm key l'
    rw [← h] at hPerm
    exact (sortByKey_perm key l).symm.trans hPerm
  · intro hPerm
    have hSorted : (sortByKey key l).Perm (sortByKey key l') :=
      (sortByKey_perm key l).trans (hPerm.trans (sortByKey_perm key l').symm)
    refine hSorted.eq_of_pairwise ?_ (pairwise_sortByKey key l) (pairwise_sortByKey key l')
    intro x y hx hy hxy hyx
    have hx' : x ∈ l := (sortByKey_perm key l).mem_iff.mp hx
    have hy' : y ∈ l := hPerm.mem_iff.mpr ((sortByKey_perm key l').mem_iff.mp hy)
    exact List.inj_on_of_nodup_map hNodup hx' hy' (le_antisymm hxy hyx)

end Kit
end Signet
