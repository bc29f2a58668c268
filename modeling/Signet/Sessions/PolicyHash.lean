import Signet.Kit.Json
import Signet.Schemas.PermissionScopes
import Mathlib.Data.List.Sort

/-!
# Deterministic policy hashing

The hash a credential is deduplicated by: the canonical JSON text of the scope
set and the chat ids, with sorted keys and sorted arrays, hashed and rendered in
hexadecimal.

The hash function of the runtime and the collation order of strings are
parameters, since both belong to the host.
-/

namespace Signet
namespace Sessions

open Kit Schemas

/-- What policy hashing takes from the host. -/
structure HashEnv where
  /-- `Bun.hash` -/
  bunHash : String → Nat
  /-- `left.localeCompare(right) <= 0` -/
  localeLe : String → String → Bool

mutual

/-- Sort the keys of every object and the items of every array. -/
def normalize (env : HashEnv) : Json → Json
  | .array items =>
    .array ((normalizeItems env items).insertionSort
      (fun left right => env.localeLe left.stringify right.stringify = true))
  | .object members =>
    .object ((normalizeMembers env members).insertionSort
      (fun left right => left.1 ≤ right.1))
  | value => value

def normalizeItems (env : HashEnv) : List Json → List Json
  | [] => []
  | item :: items => normalize env item :: normalizeItems env items

def normalizeMembers (env : HashEnv) : List (String × Json) → List (String × Json)
  | [] => []
  | (key, value) :: members => (key, normalize env value) :: normalizeMembers env members

end

/-- Produce a canonical JSON string with sorted keys at all levels. -/
def canonicalize (env : HashEnv) (value : Json) : String := (normalize env value).stringify

def scopeSetJson (scopes : ScopeSet) : Json :=
  .object [("allow", .array (scopes.allow.map fun s => .string s.value)),
    ("deny", .array (scopes.deny.map fun s => .string s.value))]

def computePolicyHash (env : HashEnv) (scopes : ScopeSet) (chatIds : List String) : String :=
  let canonical := canonicalize env (.object [("scopes", scopeSetJson scopes),
    ("chatIds", .array (chatIds.map .string))])
  String.ofList (Nat.toDigits 16 (env.bunHash canonical))

end Sessions
end Signet
