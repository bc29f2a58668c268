import Mathlib.Data.List.Nodup
import Mathlib.Data.List.Basic

/-!
# Finite maps that remember insertion order

A map with the observable behaviour of an insertion-ordered hash map: writing
to a present key replaces the value in place, writing to a new key puts the
entry last, and iteration visits the entries in that order.  Keys are unique by
construction.
-/

namespace Signet
namespace Kit

/-- The entries after writing `value` under `key`. -/
def setEntry {κ β : Type*} [DecidableEq κ] (key : κ) (value : β) :
    List (κ × β) → List (κ × β)
  | [] => [(key, value)]
  | (k, v) :: rest =>
    if k = key then (key, value) :: rest else (k, v) :: setEntry key value rest

theorem keys_setEntry {κ β : Type*} [DecidableEq κ] (key : κ) (value : β)
    (l : List (κ × β)) :
    (setEntry key value l).map Prod.fst =
      if key ∈ l.map Prod.fst then l.map Prod.fst else l.map Prod.fst ++ [key] := by
  induction l with
  | nil => simp [setEntry]
  | cons e rest ih =>
    obtain ⟨k, v⟩ := e
    by_cases h : k = key
    · simp [setEntry, h]
    · have h' : key ≠ k := fun hEq => h hEq.symm
      simp only [setEntry, if_neg h, List.map_cons, ih, List.mem_cons, h', false_or]
      split <;> simp

/-- A finite map listed in the order of first insertion of its keys. -/
structure AssocMap (κ β : Type*) where
  /-- The entries, oldest key first. -/
  entries : List (κ × β)
  /-- No key is listed twice. -/
  nodup : (entries.map Prod.fst).Nodup

namespace AssocMap

variable {κ β : Type*}

variable {m : AssocMap κ β} {value : β} {key key' : κ}

@[ext]
theorem ext {n : AssocMap κ β} (h : m.entries = n.entries) : m = n := by
  cases m
  cases n
  simp_all

instance [DecidableEq κ] [DecidableEq β] : DecidableEq (AssocMap κ β) := fun m n =>
  decidable_of_iff (m.entries = n.entries) ⟨ext, fun h => h ▸ rfl⟩

/-- The map without entries. -/
def empty : AssocMap κ β := ⟨[], List.nodup_nil⟩

/-- The keys, oldest first. -/
def keys (m : AssocMap κ β) : List κ := m.entries.map Prod.fst

/-- The values, in the order of their keys. -/
def values (m : AssocMap κ β) : List β := m.entries.map Prod.snd

theorem nodup_keys (m : AssocMap κ β) : m.keys.Nodup := m.nodup

variable [DecidableEq κ]

/-- Read the value under a key. -/
def get (m : AssocMap κ β) (key : κ) : Option β := m.entries.lookup key

/-- Write a value under a key. -/
def set (m : AssocMap κ β) (key : κ) (value : β) : AssocMap κ β :=
  ⟨setEntry key value m.entries, by
    rw [keys_setEntry]
    split
    · exact m.nodup
    · next h =>
      rw [List.nodup_append]
      refine ⟨m.nodup, List.nodup_singleton key, ?_⟩
      intro a ha b hb hEq
      rw [List.mem_singleton] at hb
      exact h (hb ▸ hEq ▸ ha)⟩

/-- Remove the entry under a key. -/
def delete (m : AssocMap κ β) (key : κ) : AssocMap κ β :=
  ⟨m.entries.filter (fun e => e.1 ≠ key),
    m.nodup.sublist (List.filter_sublist.map Prod.fst)⟩

@[simp]
theorem get_empty (key : κ) : (empty : AssocMap κ β).get key = none := rfl

private theorem lookup_setEntry (l : List (κ × β)) (key key' : κ) (value : β) :
    (setEntry key value l).lookup key' =
      if key' = key then some value else l.lookup key' := by
  induction l with
  | nil =>
    by_cases h : key' = key
    · simp [setEntry, h]
    · simp [setEntry, h, List.lookup_cons, beq_eq_false_iff_ne.mpr h]
  | cons e rest ih =>
    obtain ⟨k, v⟩ := e
    by_cases hk : k = key
    · subst hk
      by_cases h : key' = k
      · simp [setEntry, h]
      · simp [setEntry, h, List.lookup_cons, beq_eq_false_iff_ne.mpr h]
    · by_cases h : key' = k
      · subst h
        simp [setEntry, hk]
      · simp [setEntry, hk, List.lookup_cons, beq_eq_false_iff_ne.mpr h, ih]

/-- Reading after a write. -/
@[simp]
theorem get_set (m : AssocMap κ β) (key key' : κ) (value : β) :
    (m.set key value).get key' = if key' = key then some value else m.get key' :=
  lookup_setEntry m.entries key key' value

theorem get_set_self (m : AssocMap κ β) (key : κ) (value : β) :
    (m.set key value).get key = some value := by
  simp

theorem get_set_of_ne (m : AssocMap κ β) (value : β) (h : key' ≠ key) :
    (m.set key value).get key' = m.get key' := by
  simp [h]

theorem get_set_cases {found : β} (h : (m.set key value).get key' = some found) :
    (key' = key ∧ found = value) ∨ (key' ≠ key ∧ m.get key' = some found) := by
  rw [get_set] at h
  split at h
  · next hSame =>
    cases h
    exact Or.inl ⟨hSame, rfl⟩
  · next hOther => exact Or.inr ⟨hOther, h⟩

private theorem lookup_filter_ne (l : List (κ × β)) (key key' : κ) :
    (l.filter (fun e => e.1 ≠ key)).lookup key' =
      if key' = key then none else l.lookup key' := by
  induction l with
  | nil => simp
  | cons e rest ih =>
    obtain ⟨k, v⟩ := e
    by_cases hk : k = key
    · subst hk
      rw [List.filter_cons_of_neg (by simp), ih]
      by_cases h : key' = k
      · simp [h]
      · simp [h, List.lookup_cons, beq_eq_false_iff_ne.mpr h]
    · rw [List.filter_cons_of_pos (by simpa using hk), List.lookup_cons, ih]
      by_cases h : key' = k
      · subst h
        simp [hk]
      · simp [List.lookup_cons, beq_eq_false_iff_ne.mpr h]

/-- Reading after a removal. -/
@[simp]
theorem get_delete (m : AssocMap κ β) (key key' : κ) :
    (m.delete key).get key' = if key' = key then none else m.get key' :=
  lookup_filter_ne m.entries key key'

/-- What is found after a removal was found before, under another key. -/
theorem of_get_delete {found : β} (h : (m.delete key).get key' = some found) :
    key' ≠ key ∧ m.get key' = some found := by
  rw [get_delete] at h
  split at h
  · cases h
  · next hOther => exact ⟨hOther, h⟩

private theorem lookup_eq_some_iff {l : List (κ × β)} (h : (l.map Prod.fst).Nodup) :
    l.lookup key = some value ↔ (key, value) ∈ l := by
  induction l with
  | nil => simp
  | cons e rest ih =>
    obtain ⟨k, v⟩ := e
    rw [List.map_cons, List.nodup_cons] at h
    by_cases hk : key = k
    · subst hk
      have hRest : (key, value) ∉ rest := fun hMem =>
        h.1 (List.mem_map.mpr ⟨(key, value), hMem, rfl⟩)
      simp [hRest, eq_comm]
    · simp [List.lookup_cons, beq_eq_false_iff_ne.mpr hk, ih h.2, hk]

/-- A key reads a value exactly when the entry is listed. -/
theorem get_eq_some_iff :
    m.get key = some value ↔ (key, value) ∈ m.entries :=
  lookup_eq_some_iff m.nodup

theorem mem_values :
    value ∈ m.values ↔ ∃ key, m.get key = some value := by
  simp [values, get_eq_some_iff]

theorem mem_keys :
    key ∈ m.keys ↔ ∃ value, m.get key = some value := by
  simp [keys, get_eq_some_iff]

theorem get_eq_none_iff :
    m.get key = none ↔ key ∉ m.keys := by
  rw [mem_keys, Option.eq_none_iff_forall_ne_some]
  simp

/-- Writing to a new key puts the entry last. -/
theorem entries_set_of_absent (value : β) (h : m.get key = none) :
    (m.set key value).entries = m.entries ++ [(key, value)] := by
  rw [get_eq_none_iff] at h
  have hAbsent : ∀ l : List (κ × β), key ∉ l.map Prod.fst →
      setEntry key value l = l ++ [(key, value)] := by
    intro l
    induction l with
    | nil => simp [setEntry]
    | cons e rest ih =>
      intro hl
      obtain ⟨k, v⟩ := e
      rw [List.map_cons, List.mem_cons, not_or] at hl
      have hk : k ≠ key := fun hEq => hl.1 hEq.symm
      simp [setEntry, hk, ih hl.2]
  exact hAbsent m.entries h

/-- Keep the entries that pass a test. -/
def filter (m : AssocMap κ β) (keep : κ → β → Bool) : AssocMap κ β :=
  ⟨m.entries.filter (fun e => keep e.1 e.2), m.nodup.sublist (List.filter_sublist.map Prod.fst)⟩

/-- Reading after a selection. -/
@[simp]
theorem get_filter (m : AssocMap κ β) (keep : κ → β → Bool) (key : κ) :
    (m.filter keep).get key = (m.get key).filter (keep key) := by
  apply Option.ext
  intro value
  rw [get_eq_some_iff, Option.filter_eq_some_iff, get_eq_some_iff]
  exact List.mem_filter

omit [DecidableEq κ] in
theorem filter_filter_self (m : AssocMap κ β) (keep : κ → β → Bool) :
    (m.filter keep).filter keep = m.filter keep := by
  apply ext
  have hTwice : ∀ l : List (κ × β), (l.filter fun e => keep e.1 e.2).filter
      (fun e => keep e.1 e.2) = l.filter fun e => keep e.1 e.2 := by
    intro l
    rw [List.filter_filter]
    simp
  exact hTwice m.entries

/-- A write counts its value instead of the one before it. -/
theorem countP_set (m : AssocMap κ β) (key : κ) (value : β) (p : β → Bool) :
    (m.set key value).values.countP p + ((m.get key).any p).toNat =
      m.values.countP p + (p value).toNat := by
  have hEntries : ∀ l : List (κ × β), ((setEntry key value l).map Prod.snd).countP p +
      ((l.lookup key).any p).toNat = (l.map Prod.snd).countP p + (p value).toNat := by
    intro l
    induction l with
    | nil => cases hValue : p value <;> simp [setEntry, hValue]
    | cons e rest ih =>
      obtain ⟨k, found⟩ := e
      by_cases hKey : k = key
      · subst hKey
        cases hValue : p value <;> cases hFound : p found <;>
          simp [setEntry, hValue, hFound]
      · have hKey' : (key == k) = false := beq_eq_false_iff_ne.mpr (Ne.symm hKey)
        simp only [setEntry, if_neg hKey, List.map_cons, List.countP_cons, List.lookup_cons, hKey']
        omega
  exact hEntries m.entries

theorem values_set_of_absent (value : β) (h : m.get key = none) :
    (m.set key value).values = m.values ++ [value] := by
  simp [values, entries_set_of_absent value h]

end AssocMap

end Kit
end Signet
