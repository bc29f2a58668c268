import Signet.Kit.AssocMap

/-!
# Maps whose entries are kept under names

A table of files holds the value of a key under a name that is made of the key.  Where the names
of two keys differ the table is a map of the keys, and listing the names gives the keys back.

* `NamedMap` — a table in which every name is the name of a key.
* `find`, `store`, `remove` — the operations, by key.
* `find_store`, `find_remove`, `mem_filterMap_names` — what a key reads afterwards, and which keys
  are listed.
-/

namespace Signet
namespace Kit

variable {κ ν β : Type*} [DecidableEq ν]

/-- A table whose entries are kept under the names of keys. -/
structure NamedMap (name : κ → ν) (β : Type*) where
  entries : AssocMap ν β
  named : ∀ n ∈ entries.keys, ∃ key, n = name key

namespace NamedMap

variable {name : κ → ν}

/-- The table without entries. -/
def empty : NamedMap name β := ⟨.empty, fun _ h => nomatch h⟩

/-- What is kept for a key. -/
def find (m : NamedMap name β) (key : κ) : Option β := m.entries.get (name key)

/-- Keep a value for a key. -/
def store (m : NamedMap name β) (key : κ) (value : β) : NamedMap name β where
  entries := m.entries.set (name key) value
  named := by
    intro n hName
    obtain ⟨found, hGet⟩ := AssocMap.mem_keys.mp hName
    rw [AssocMap.get_set] at hGet
    split at hGet
    · next hEq => exact ⟨key, hEq⟩
    · exact m.named n (AssocMap.mem_keys.mpr ⟨found, hGet⟩)

/-- Keep nothing for a key. -/
def remove (m : NamedMap name β) (key : κ) : NamedMap name β where
  entries := m.entries.delete (name key)
  named := by
    intro n hName
    obtain ⟨found, hGet⟩ := AssocMap.mem_keys.mp hName
    rw [AssocMap.get_delete] at hGet
    split at hGet
    · cases hGet
    · exact m.named n (AssocMap.mem_keys.mpr ⟨found, hGet⟩)

def names (m : NamedMap name β) : List ν := m.entries.keys

variable (hName : Function.Injective name)

include hName

theorem find_store [DecidableEq κ] (m : NamedMap name β) (key key' : κ) (value : β) :
    (m.store key value).find key' = if key' = key then some value else m.find key' := by
  show (m.entries.set (name key) value).get (name key') = _
  rw [AssocMap.get_set]
  by_cases hKey : key' = key
  · rw [hKey, if_pos rfl, if_pos rfl]
  · rw [if_neg hKey, if_neg fun hEq => hKey (hName hEq)]
    rfl

theorem find_remove [DecidableEq κ] (m : NamedMap name β) (key key' : κ) :
    (m.remove key).find key' = if key' = key then none else m.find key' := by
  show (m.entries.delete (name key)).get (name key') = _
  rw [AssocMap.get_delete]
  by_cases hKey : key' = key
  · rw [hKey, if_pos rfl, if_pos rfl]
  · rw [if_neg hKey, if_neg fun hEq => hKey (hName hEq)]
    rfl

omit hName

/-- Reading the keys off the names lists the keys for which something is kept. -/
theorem mem_filterMap_names {back : ν → Option κ} (hBack : ∀ key, back (name key) = some key)
    (m : NamedMap name β) {names : List ν} (hNames : ∀ n, n ∈ names ↔ n ∈ m.names) (key : κ) :
    key ∈ names.filterMap back ↔ (m.find key).isSome = true := by
  have hListed : ∀ key, name key ∈ m.names ↔ (m.find key).isSome = true := by
    intro key
    rw [Option.isSome_iff_exists]
    exact AssocMap.mem_keys
  rw [← hListed, List.mem_filterMap]
  constructor
  · rintro ⟨n, hMem, hKey⟩
    obtain ⟨key', rfl⟩ := m.named n ((hNames n).mp hMem)
    rw [hBack] at hKey
    cases hKey
    exact (hNames _).mp hMem
  · intro hMem
    exact ⟨name key, (hNames _).mpr hMem, hBack key⟩

end NamedMap

end Kit
end Signet
