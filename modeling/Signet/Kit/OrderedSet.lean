import Mathlib.Data.List.Nodup
import Mathlib.Data.List.Basic

/-!
# Finite sets that remember insertion order

A set with the observable behaviour of an insertion-ordered hash set: adding a
present element changes nothing, adding a new one puts it last, and iteration
visits the elements in the order of their first insertion.  The absence of
duplicates is a field of the structure, so a set that lists an element twice
cannot be built.
-/

namespace Signet
namespace Kit

structure OrderedSet (α : Type*) where
  /-- The elements, oldest first. -/
  items : List α
  /-- No element is listed twice. -/
  nodup : items.Nodup

namespace OrderedSet

variable {α : Type*}

variable {s : OrderedSet α} {a b : α}

@[ext]
theorem ext {t : OrderedSet α} (h : s.items = t.items) : s = t := by
  cases s
  cases t
  simp_all

instance [DecidableEq α] : DecidableEq (OrderedSet α) := fun s t =>
  decidable_of_iff (s.items = t.items) ⟨ext, fun h => h ▸ rfl⟩

instance : Membership α (OrderedSet α) := ⟨fun s a => a ∈ s.items⟩

instance [DecidableEq α] (a : α) (s : OrderedSet α) : Decidable (a ∈ s) :=
  inferInstanceAs (Decidable (a ∈ s.items))

theorem mem_def : a ∈ s ↔ a ∈ s.items := Iff.rfl

/-- The set without elements. -/
def empty : OrderedSet α := ⟨[], List.nodup_nil⟩

@[simp]
theorem not_mem_empty (a : α) : a ∉ (empty : OrderedSet α) := by
  simp [mem_def, empty]

variable [DecidableEq α]

/-- Add an element; a present element keeps its place. -/
def add (s : OrderedSet α) (a : α) : OrderedSet α :=
  if h : a ∈ s.items then s
  else ⟨s.items ++ [a], by
    rw [List.nodup_append]
    refine ⟨s.nodup, List.nodup_singleton a, ?_⟩
    intro b hb c hc hEq
    rw [List.mem_singleton] at hc
    subst hc
    subst hEq
    exact h hb⟩

@[simp]
theorem mem_add : b ∈ s.add a ↔ b = a ∨ b ∈ s := by
  unfold add
  split
  · next h =>
    constructor
    · exact Or.inr
    · rintro (rfl | hb)
      · exact h
      · exact hb
  · simp [mem_def, or_comm]

/-- Remove an element. -/
def erase (s : OrderedSet α) (a : α) : OrderedSet α :=
  ⟨s.items.filter (fun b => b ≠ a), s.nodup.filter _⟩

@[simp]
theorem mem_erase : b ∈ s.erase a ↔ b ∈ s ∧ b ≠ a := by
  simp [mem_def, erase]

/-- The set of the elements of a list, in the order of their first occurrence. -/
def ofList (l : List α) : OrderedSet α := l.foldl add empty

theorem mem_foldl_add (l : List α) (s : OrderedSet α) (b : α) :
    b ∈ l.foldl add s ↔ b ∈ l ∨ b ∈ s := by
  induction l generalizing s with
  | nil => simp
  | cons a l ih =>
    rw [List.foldl_cons, ih]
    simp only [mem_add, List.mem_cons]
    tauto

@[simp]
theorem mem_ofList {l : List α} : b ∈ ofList l ↔ b ∈ l := by
  simp [ofList, mem_foldl_add]

end OrderedSet

end Kit
end Signet
