import Signet.Kit.AssocMap

/-!
# Maps that list records

Where every entry of a map belongs to one record of a list, in the order of the list, the
operations of the map are operations on the list.  Two maps over the same records can so be
kept in step, each under a key of its own.

* `AssocMap.Lists` — the entries of a map are those of the records.
* `Lists.delete`, `Lists.set_fresh`, `Lists.foldl_delete` — the records after an operation.
* `filterMap_of_key` — what a list has for the record with a key.
-/

namespace Signet
namespace Kit

variable {ρ κ β : Type*}

/-- In a list without two records of one key, one record has all there is for its key. -/
theorem filterMap_of_key {γ : Type*} [DecidableEq κ] (key : ρ → κ) {records : List ρ}
    (hNodup : (records.map key).Nodup) {record : ρ} (hMem : record ∈ records)
    (f : ρ → Option γ) :
    (records.filterMap fun other => if key other = key record then f other else none) =
      (f record).toList := by
  induction records with
  | nil => cases hMem
  | cons first rest ih =>
    rw [List.map_cons, List.nodup_cons] at hNodup
    obtain ⟨hFirst, hRest⟩ := hNodup
    rcases List.mem_cons.mp hMem with rfl | hLater
    · have hNone : (rest.filterMap fun other =>
          if key other = key record then f other else none) = [] := by
        rw [List.filterMap_eq_nil_iff]
        intro other hOther
        rw [if_neg]
        intro hKey
        exact hFirst (hKey ▸ List.mem_map_of_mem hOther)
      rw [List.filterMap_cons, if_pos rfl, hNone]
      cases f record with
      | none => rfl
      | some value => rfl
    · have hOther : key first ≠ key record := by
        intro hKey
        exact hFirst (hKey ▸ List.mem_map_of_mem hLater)
      rw [List.filterMap_cons, if_neg hOther]
      exact ih hRest hLater

theorem filterMap_of_no_key {γ : Type*} [DecidableEq κ] {key : ρ → κ} {records : List ρ} {k : κ}
    (hNone : k ∉ records.map key) (f : ρ → Option γ) :
    (records.filterMap fun other => if key other = k then f other else none) = [] := by
  rw [List.filterMap_eq_nil_iff]
  intro other hOther
  rw [if_neg]
  intro hKey
  exact hNone (hKey ▸ List.mem_map_of_mem hOther)

theorem eq_of_key_eq {key : ρ → κ} {records : List ρ} (hNodup : (records.map key).Nodup)
    {a b : ρ} (hA : a ∈ records) (hB : b ∈ records) (hKey : key a = key b) : a = b :=
  List.inj_on_of_nodup_map hNodup hA hB hKey

namespace AssocMap

/-- The entries of the map are those of the records. -/
def Lists (m : AssocMap κ β) (key : ρ → κ) (value : ρ → β) (records : List ρ) : Prop :=
  m.entries = records.map fun record => (key record, value record)

variable {m : AssocMap κ β} {key : ρ → κ} {value : ρ → β} {records : List ρ}

theorem lists_empty : (empty : AssocMap κ β).Lists key value [] := rfl

section

variable (hLists : m.Lists key value records)

include hLists

theorem Lists.keys : m.keys = records.map key := by
  unfold AssocMap.keys
  rw [hLists, List.map_map]
  rfl

theorem Lists.values : m.values = records.map value := by
  unfold AssocMap.values
  rw [hLists, List.map_map]
  rfl

theorem Lists.nodup : (records.map key).Nodup :=
  hLists.keys ▸ m.nodup_keys

end

variable [DecidableEq κ]

section

variable (hLists : m.Lists key value records)

include hLists

theorem Lists.get {record : ρ} (hMem : record ∈ records) :
    m.get (key record) = some (value record) := by
  rw [get_eq_some_iff, hLists]
  exact List.mem_map.mpr ⟨record, hMem, rfl⟩

theorem Lists.get_none {k : κ} (hNone : k ∉ records.map key) : m.get k = none := by
  rw [get_eq_none_iff, hLists.keys]
  exact hNone

/-- Whatever is found belongs to a record. -/
theorem Lists.of_get {k : κ} {v : β} (hGet : m.get k = some v) :
    ∃ record ∈ records, key record = k ∧ value record = v := by
  rw [get_eq_some_iff, hLists] at hGet
  obtain ⟨record, hMem, hEntry⟩ := List.mem_map.mp hGet
  cases hEntry
  exact ⟨record, hMem, rfl, rfl⟩

theorem Lists.delete (k : κ) :
    (m.delete k).Lists key value (records.filter fun record => key record ≠ k) := by
  unfold Lists at hLists ⊢
  show m.entries.filter _ = _
  rw [hLists, List.filter_map]
  rfl

end

theorem Lists.foldl_delete (keys : List κ) (hLists : m.Lists key value records) :
    (keys.foldl AssocMap.delete m).Lists key value
      (records.filter fun record => key record ∉ keys) := by
  induction keys generalizing m records with
  | nil =>
    have hAll : (records.filter fun record => key record ∉ ([] : List κ)) = records := by
      simp
    rw [hAll]
    exact hLists
  | cons k rest ih =>
    rw [List.foldl_cons]
    have hRest := ih (hLists.delete k)
    rw [List.filter_filter] at hRest
    have hSame : (records.filter fun record =>
        decide (key record ∉ rest) && decide (key record ≠ k)) =
          records.filter fun record => key record ∉ k :: rest := by
      apply List.filter_congr
      intro record _
      simp [Bool.and_comm]
    rw [← hSame]
    exact hRest

/-- A record with a new key comes last. -/
theorem Lists.set_fresh (hLists : m.Lists key value records) (record : ρ)
    (hFresh : key record ∉ records.map key) :
    (m.set (key record) (value record)).Lists key value (records ++ [record]) := by
  unfold Lists
  rw [entries_set_of_absent _ (hLists.get_none hFresh), hLists, List.map_append]
  rfl

end AssocMap

end Kit
end Signet
