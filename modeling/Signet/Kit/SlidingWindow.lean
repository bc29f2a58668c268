import Mathlib.Data.List.Basic
import Mathlib.Data.List.Induction
import Mathlib.Order.Lattice

/-!
# Sliding windows over a list of admitted events

An event at time `t` is admitted when fewer than `limit` earlier admitted ones lie at or after
`start t`, the beginning of the window that ends at `t`.  Where events come in order, the ones a
limiter may forget stand at the front of the list, so dropping up to the first one that still
counts keeps exactly those that count; and admission at every event bounds the number of admitted
events of every closed window, not only of those that end at an event.
-/

namespace Signet
namespace Kit
namespace SlidingWindow

variable {τ : Type*} [LinearOrder τ]

/-- The events that lie at or after a time. -/
def since (lo : τ) (l : List τ) : List τ := l.filter (lo ≤ ·)

/-- The events of a closed window. -/
def within (lo hi : τ) (l : List τ) : List τ := l.filter (fun t => lo ≤ t ∧ t ≤ hi)

variable {l : List τ} {lo : τ} {start : τ → τ} {t hi : τ} {limit : Nat}

@[simp]
theorem since_nil (lo : τ) : since lo [] = [] := rfl

@[simp]
theorem since_append (lo : τ) (l l' : List τ) :
    since lo (l ++ l') = since lo l ++ since lo l' := by
  simp [since]

theorem since_of_forall_le (h : ∀ t ∈ l, lo ≤ t) : since lo l = l := by
  unfold since
  rw [List.filter_eq_self]
  intro t ht
  simpa using h t ht

/-- Forgetting what lies before an earlier time changes nothing at a later one. -/
theorem since_since {lo' : τ} (hLe : lo ≤ lo') (l : List τ) :
    since lo' (since lo l) = since lo' l := by
  unfold since
  rw [List.filter_filter]
  apply List.filter_congr
  intro t _
  by_cases ht : lo' ≤ t
  · simp [ht, hLe.trans ht]
  · simp [ht]

/-- In a list that goes up, what lies at or after a time is what stands from the first such element
on. -/
theorem drop_eq_since (hSorted : l.Pairwise (· ≤ ·)) {i : Nat}
    (hFirst : l.findIdx? (fun t => decide (lo ≤ t)) = some i) : l.drop i = since lo l := by
  induction l generalizing i with
  | nil => simp at hFirst
  | cons t rest ih =>
    rw [List.pairwise_cons] at hSorted
    by_cases ht : lo ≤ t
    · have hZero : i = 0 := by simpa [List.findIdx?_cons, ht] using hFirst.symm
      subst hZero
      -- every later element lies after this one, so none is dropped
      rw [List.drop_zero, since_of_forall_le]
      intro t' ht'
      rcases List.mem_cons.mp ht' with rfl | hLater
      · exact ht
      · exact ht.trans (hSorted.1 t' hLater)
    · simp only [List.findIdx?_cons, decide_eq_true_eq, ht, if_false, Option.map_eq_some_iff]
        at hFirst
      obtain ⟨j, hj, rfl⟩ := hFirst
      have hTail : rest.drop j = since lo rest := ih hSorted.2 hj
      simpa [since, ht] using hTail

theorem since_eq_nil (hNone : l.findIdx? (fun t => decide (lo ≤ t)) = none) : since lo l = [] := by
  rw [List.findIdx?_eq_none_iff] at hNone
  unfold since
  rw [List.filter_eq_nil_iff]
  intro t ht
  simpa using hNone t ht

/-- Every event was admitted: fewer than `limit` earlier ones lie in the window that ends at it. -/
def Admitted (limit : Nat) (start : τ → τ) (l : List τ) : Prop :=
  ∀ earlier t later, l = earlier ++ t :: later → (since (start t) earlier).length < limit

theorem admitted_nil (limit : Nat) (start : τ → τ) : Admitted limit start [] := by
  intro earlier t later hSplit
  simp at hSplit

theorem Admitted.of_snoc (h : Admitted limit start (l ++ [t])) :
    Admitted limit start l ∧ (since (start t) l).length < limit := by
  constructor
  · intro earlier t' later hSplit
    apply h earlier t' (later ++ [t])
    simp [hSplit]
  · exact h l t [] rfl

theorem Admitted.snoc {l : List τ} (h : Admitted limit start l)
    (hFew : (since (start t) l).length < limit) :
    Admitted limit start (l ++ [t]) := by
  intro earlier t' later hSplit
  rcases List.eq_nil_or_concat later with rfl | ⟨rest, last, rfl⟩
  · obtain ⟨rfl, hLast⟩ := List.append_inj' hSplit rfl
    cases hLast
    exact hFew
  · have hCat : l ++ [t] = (earlier ++ t' :: rest) ++ [last] := by simpa using hSplit
    exact h earlier t' rest (List.append_inj' hCat rfl).1

/-- **No closed window holds more than the limit.**  The last admitted event of a window saw all
the others of it in its own window. -/
theorem Admitted.length_within_le (hMono : Monotone start) (hAdmitted : Admitted limit start l)
    (hWindow : start hi ≤ lo) :
    (within lo hi l).length ≤ limit := by
  induction l using List.reverseRecOn with
  | nil => simp [within]
  | append_singleton l t ih =>
    obtain ⟨hEarlier, hFew⟩ := hAdmitted.of_snoc
    by_cases ht : lo ≤ t ∧ t ≤ hi
    · have hSub : (within lo hi l).length ≤ (since (start t) l).length := by
        apply List.Sublist.length_le
        apply List.monotone_filter_right
        intro t' ht'
        simp only [decide_eq_true_eq] at ht' ⊢
        exact ((hMono ht.2).trans hWindow).trans ht'.1
      have hSnoc : within lo hi (l ++ [t]) = within lo hi l ++ [t] := by
        simp [within, ht]
      rw [hSnoc, List.length_append, List.length_singleton]
      omega
    · have hSnoc : within lo hi (l ++ [t]) = within lo hi l := by
        simp only [within, List.filter_append, List.filter_cons, List.filter_nil, ht,
          decide_false, Bool.false_eq_true, if_false, List.append_nil]
      rw [hSnoc]
      exact ih hEarlier

/-- Where no event is later than the end of a window, it holds what lies after its start. -/
theorem within_eq_since (hLast : ∀ t ∈ l, t ≤ hi) : within lo hi l = since lo l := by
  unfold within since
  apply List.filter_congr
  intro t ht
  simp [hLast t ht]

end SlidingWindow
end Kit
end Signet
