import Mathlib.Data.List.Basic

/-!
# Tables with permanent references

A growing table: an entry gets the next reference when it is put in, keeps it
for good, and a reference is never handed out again after its entry has been
freed.  Freshness of references is therefore no invariant of its users.

* `Arena.alloc`, `Arena.modify`, `Arena.free` — the operations.
* `get_alloc`, `get_modify`, `get_free` — what a reference reads afterwards.
* `get_alloc_cases`, `get_modify_cases` — where what it reads has come from.
-/

namespace Signet
namespace Kit

/-- A table of entries under references `0, 1, …`; a freed entry is `none`. -/
structure Arena (α : Type*) where
  slots : List (Option α)

namespace Arena

variable {α : Type*}

/-- The table without entries. -/
def empty : Arena α := ⟨[]⟩

/-- The reference the next entry gets. -/
def next (a : Arena α) : Nat := a.slots.length

/-- The entry under a reference. -/
def get (a : Arena α) (ref : Nat) : Option α := (a.slots[ref]?).join

/-- Put in an entry, under the reference `a.next`. -/
def alloc (a : Arena α) (entry : α) : Arena α := ⟨a.slots ++ [some entry]⟩

/-- Change the entry under a reference, if there is one. -/
def modify (a : Arena α) (ref : Nat) (f : α → α) : Arena α :=
  ⟨a.slots.modify ref (Option.map f)⟩

/-- Free the entry under a reference. -/
def free (a : Arena α) (ref : Nat) : Arena α := ⟨a.slots.modify ref fun _ => none⟩

@[simp]
theorem get_empty (ref : Nat) : (empty : Arena α).get ref = none := rfl

variable {a : Arena α} {ref : Nat} {p : α → Bool} {entry found : α}

/-- Nothing is under a reference that has not been handed out. -/
theorem get_of_next_le (a : Arena α) (h : a.next ≤ ref) : a.get ref = none := by
  unfold get
  rw [List.getElem?_eq_none h]
  rfl

@[simp]
theorem get_next (a : Arena α) : a.get a.next = none := a.get_of_next_le (Nat.le_refl _)

theorem lt_next_of_get (h : a.get ref = some entry) : ref < a.next := by
  by_contra hLe
  rw [a.get_of_next_le (Nat.le_of_not_lt hLe)] at h
  cases h

/-- Reading after an allocation. -/
@[simp]
theorem get_alloc (a : Arena α) (entry : α) (ref : Nat) :
    (a.alloc entry).get ref = if ref = a.next then some entry else a.get ref := by
  unfold get alloc next
  rcases Nat.lt_trichotomy ref a.slots.length with hLt | rfl | hGt
  · rw [List.getElem?_append_left hLt, if_neg (by omega)]
  · simp
  · rw [if_neg (by omega), List.getElem?_eq_none (by simp; omega),
      List.getElem?_eq_none (by omega)]

/-- What is found after an allocation is new, or was found before. -/
theorem get_alloc_cases (h : (a.alloc entry).get ref = some found) :
    (ref = a.next ∧ found = entry) ∨ (ref ≠ a.next ∧ a.get ref = some found) := by
  rw [get_alloc] at h
  split at h
  · next hNew =>
    cases h
    exact Or.inl ⟨hNew, rfl⟩
  · next hOld => exact Or.inr ⟨hOld, h⟩

@[simp]
theorem next_alloc (a : Arena α) (entry : α) : (a.alloc entry).next = a.next + 1 := by
  simp [alloc, next]

/-- Reading after a change. -/
@[simp]
theorem get_modify (a : Arena α) (ref ref' : Nat) (f : α → α) :
    (a.modify ref f).get ref' = if ref' = ref then (a.get ref').map f else a.get ref' := by
  unfold get modify
  rw [List.getElem?_modify]
  by_cases h : ref = ref'
  · subst h
    rw [if_pos rfl]
    rcases a.slots[ref]? with _ | _ | entry <;> simp
  · rw [if_neg (Ne.symm h)]
    rcases a.slots[ref']? with _ | slot <;> simp [h]

/-- What is found after a change has been changed, or was found before. -/
theorem get_modify_cases {ref' : Nat} {f : α → α} (h : (a.modify ref f).get ref' = some found) :
    (ref' = ref ∧ ∃ before, a.get ref' = some before ∧ found = f before) ∨
      (ref' ≠ ref ∧ a.get ref' = some found) := by
  rw [get_modify] at h
  split at h
  · next hSame =>
    obtain ⟨before, hBefore, rfl⟩ := Option.map_eq_some_iff.mp h
    exact Or.inl ⟨hSame, before, hBefore, rfl⟩
  · next hOther => exact Or.inr ⟨hOther, h⟩

@[simp]
theorem next_modify (a : Arena α) (ref : Nat) (f : α → α) :
    (a.modify ref f).next = a.next := by
  simp [modify, next]

/-- Reading after an entry was freed. -/
@[simp]
theorem get_free (a : Arena α) (ref ref' : Nat) :
    (a.free ref).get ref' = if ref' = ref then none else a.get ref' := by
  unfold get free
  rw [List.getElem?_modify]
  by_cases h : ref = ref'
  · subst h
    rw [if_pos rfl]
    rcases a.slots[ref]? with _ | slot <;> simp
  · rw [if_neg (Ne.symm h)]
    rcases a.slots[ref']? with _ | slot <;> simp [h]

/-! ## The references of some entries -/

/-- The references of the entries with a property, in order. -/
def refs (a : Arena α) (p : α → Bool) : List Nat :=
  (List.range a.next).filter fun ref => (a.get ref).any p

theorem mem_refs :
    ref ∈ a.refs p ↔ ∃ entry, a.get ref = some entry ∧ p entry = true := by
  unfold refs
  rw [List.mem_filter, List.mem_range, Option.any_eq_true]
  constructor
  · exact And.right
  · rintro ⟨entry, hGet, hp⟩
    exact ⟨lt_next_of_get hGet, entry, hGet, hp⟩

theorem nodup_refs (a : Arena α) (p : α → Bool) : (a.refs p).Nodup := List.nodup_range.filter _

theorem refs_perm {b : Arena α} {q : α → Bool} (h : ∀ ref, ref ∈ b.refs q ↔ ref ∈ a.refs p) :
    (b.refs q).Perm (a.refs p) :=
  (List.perm_ext_iff_of_nodup (b.nodup_refs q) (a.nodup_refs p)).mpr h

/-- One more entry has the property. -/
theorem refs_perm_cons {b : Arena α} {q : α → Bool} (hNew : ref ∉ a.refs p)
    (h : ∀ ref', ref' ∈ b.refs q ↔ ref' = ref ∨ ref' ∈ a.refs p) :
    (b.refs q).Perm (ref :: a.refs p) := by
  have hNodup : (ref :: a.refs p).Nodup := List.nodup_cons.mpr ⟨hNew, a.nodup_refs p⟩
  refine (List.perm_ext_iff_of_nodup (b.nodup_refs q) hNodup).mpr ?_
  intro ref'
  rw [h, List.mem_cons]

end Arena

end Kit
end Signet
