import Mathlib.Data.List.Pairwise
import Signet.Contracts.ActionDerive

/-!
# The registry of actions

Every transport asks one registry which actions it should expose.  An action is registered once;
before it goes in, all actions that are there and the new one are checked together.

* `collisions` — the later holders of a key that an earlier one holds.
* `validateActionSpecs` — ids, auth contexts, routes, reserved routes and tool annotations.
* `ActionRegistry` — a registry holds its actions by their ids and has passed the check.
* `list_of_registerAll` — calls that do not throw register their actions in turn.
-/

namespace Signet
namespace Contracts

open Kit
open Signet.Schemas

/-! ## Collisions -/

section Collisions

variable {α β : Type} [DecidableEq β]

/-- The later holders of a key that an earlier one holds, each with the first holder. -/
def collisions (key : α → Option β) (seen : AssocMap β α) : List α → List (α × α)
  | [] => []
  | a :: as =>
    match key a with
    | none => collisions key seen as
    | some k =>
      match seen.get k with
      | some first => (a, first) :: collisions key seen as
      | none => collisions key (seen.set k a) as

theorem collisions_eq_nil_iff (key : α → Option β) (seen : AssocMap β α) (as : List α) :
    collisions key seen as = [] ↔
      (as.filterMap key).Nodup ∧ ∀ k ∈ as.filterMap key, seen.get k = none := by
  induction as generalizing seen with
  | nil => simp [collisions]
  | cons a as ih =>
    cases hKey : key a with
    | none =>
      rw [collisions, hKey, List.filterMap_cons_none hKey]
      exact ih seen
    | some k =>
      rw [collisions, hKey, List.filterMap_cons_some hKey, List.nodup_cons]
      cases hSeen : seen.get k with
      | some first => simp [hSeen]
      | none =>
        simp only [ih (seen.set k a), List.mem_cons, forall_eq_or_imp, AssocMap.get_set,
          hSeen, true_and]
        -- an absent key is seen from now on, so it must not come again behind
        constructor
        · rintro ⟨hNodup, hNone⟩
          refine ⟨⟨fun hMem => ?_, hNodup⟩, fun k' hMem => ?_⟩
          · have hSelf := hNone k hMem
            simp at hSelf
          · have hOther := hNone k' hMem
            split at hOther
            · cases hOther
            · exact hOther
        · rintro ⟨⟨hNew, hNodup⟩, hNone⟩
          refine ⟨hNodup, fun k' hMem => ?_⟩
          have hNe : k' ≠ k := by
            rintro rfl
            exact hNew hMem
          rw [if_neg hNe]
          exact hNone k' hMem

/-- Where nothing collides, one key is held once. -/
theorem eq_of_no_collision {key : α → Option β} {as : List α} (h : collisions key .empty as = [])
    {a a' : α} (hMem : a ∈ as) (hMem' : a' ∈ as) {k : β} (hKey : key a = some k)
    (hKey' : key a' = some k) : a = a' := by
  have hNodup := ((collisions_eq_nil_iff key .empty as).mp h).1
  rw [List.Nodup, List.pairwise_filterMap] at hNodup
  -- two different holders stand at two places of the list
  by_contra hNe
  have hSymm : Std.Symm fun a a' : α => ∀ b, key a = some b → ∀ b', key a' = some b' → b ≠ b' :=
    ⟨fun a a' hDiffer b hB b' hB' hSame => hDiffer b' hB' b hB hSame.symm⟩
  exact hNodup.forall hMem hMem' hNe k hKey k hKey' rfl

end Collisions

/-! ## Issues -/

structure ActionContractIssue where
  actionId : String
  message : String
  rule : String
  surface : String
deriving DecidableEq

/-- The value of an issue in the context of an error. -/
def ActionContractIssue.json (issue : ActionContractIssue) : Json :=
  .object [("actionId", .string issue.actionId), ("message", .string issue.message),
    ("rule", .string issue.rule), ("surface", .string issue.surface)]

/-- `isHttpExposed` -/
def isHttpExposed (spec : ActionSpec) : Bool :=
  match spec.http with
  | none => false
  | some http => http.expose != some false

/-- The route of an exposed action; others have none. -/
def routeKey (spec : ActionSpec) : Option String :=
  if isHttpExposed spec then some ((deriveHttpMethod spec).text ++ " " ++ deriveHttpPath spec)
  else none

/-- `validateUniqueIds` -/
def validateUniqueIds (specs : List ActionSpec) : List ActionContractIssue :=
  (collisions (fun spec => some spec.id) .empty specs).map fun (spec, _) =>
    ⟨spec.id, "Action '" ++ spec.id ++ "' is registered more than once", "unique-action-id",
      "registry"⟩

/-- `validateHttpAuth` -/
def validateHttpAuth (specs : List ActionSpec) : List ActionContractIssue :=
  (specs.filter fun spec =>
    isHttpExposed spec && (spec.http.bind HttpSurface.auth).isNone).map fun spec =>
      ⟨spec.id, "HTTP-exposed action '" ++ spec.id ++ "' must declare http.auth",
        "http-auth-required", "http"⟩

/-- `validateUniqueHttpRoutes` -/
def validateUniqueHttpRoutes (specs : List ActionSpec) : List ActionContractIssue :=
  (collisions routeKey .empty specs).map fun (spec, existing) =>
    ⟨spec.id, "Action '" ++ spec.id ++ "' collides with '" ++ existing.id ++
      "' on derived route " ++ (deriveHttpMethod spec).text ++ " " ++ deriveHttpPath spec,
      "unique-http-route", "http"⟩

def reservedHttpRoutePrefixes : List String := ["/v1/admin/", "/v1/credential/"]

def reservedHttpRoutePaths : List String := ["/v1/health"]

/-- The issue of an action whose path the server keeps for itself. -/
def reservedHttpRoute (spec : ActionSpec) : Option ActionContractIssue :=
  let path := deriveHttpPath spec
  let collidesWithPrefix :=
    reservedHttpRoutePrefixes.find? fun start => start.toList.isPrefixOf path.toList
  if collidesWithPrefix = none ∧ path ∉ reservedHttpRoutePaths then none
  else
    let message :=
      match collidesWithPrefix with
      | some start =>
        "Action '" ++ spec.id ++ "' derives reserved HTTP path '" ++ path ++ "' under '" ++
          start ++ "'"
      | none => "Action '" ++ spec.id ++ "' derives reserved HTTP path '" ++ path ++ "'"
    some ⟨spec.id, message, "reserved-http-route", "http"⟩

/-- `validateReservedHttpRoutes` -/
def validateReservedHttpRoutes (specs : List ActionSpec) : List ActionContractIssue :=
  (specs.filter isHttpExposed).filterMap reservedHttpRoute

def standardMcpAnnotationKeys : List String :=
  ["readOnlyHint", "destructiveHint", "idempotentHint", "title"]

def standardBooleanMcpAnnotationKeys : List String :=
  ["readOnlyHint", "destructiveHint", "idempotentHint"]

/-- `JSON.stringify` inside a message -/
def stringifyOptional (value : Option Json) : String :=
  (value.map Json.stringify).getD "undefined"

def annotationIssue (spec : ActionSpec) (authored : AssocMap String (Option Json)) (key : String) :
    Option ActionContractIssue :=
  match authored.get key with
  | none => none
  | some authoredValue =>
    let derivedValue := (deriveStandardMcpAnnotations spec).get key
    if key ∈ standardBooleanMcpAnnotationKeys ∧ authoredValue = some (.bool false) ∧
        derivedValue = none then none
    else if authoredValue = derivedValue then none
    else some ⟨spec.id, "Action '" ++ spec.id ++ "' authors MCP annotation '" ++ key ++ "' as " ++
      stringifyOptional authoredValue ++ ", but the derived value is " ++
      stringifyOptional derivedValue, "mcp-annotation-consistency", "mcp"⟩

/-- `validateMcpAnnotations` -/
def validateMcpAnnotations (specs : List ActionSpec) : List ActionContractIssue :=
  specs.flatMap fun spec =>
    match spec.mcp.bind McpSurface.annotations with
    | none => []
    | some authored => standardMcpAnnotationKeys.filterMap (annotationIssue spec authored)

def actionIssues (specs : List ActionSpec) : List ActionContractIssue :=
  validateUniqueIds specs ++ validateHttpAuth specs ++ validateUniqueHttpRoutes specs ++
    validateReservedHttpRoutes specs ++ validateMcpAnnotations specs

/-- `validateActionSpecs` -/
def validateActionSpecs (specs : List ActionSpec) : Except SignetError Unit :=
  let issues := actionIssues specs
  if issues = [] then .ok ()
  else .error (ValidationError.createWith "actionRegistry" "Action contract validation failed"
    [("issues", .json (.array (issues.map ActionContractIssue.json)))])

/-! ## What a check admits -/

section Admitted

variable {specs : List ActionSpec}

theorem actionIssues_of_valid (h : validateActionSpecs specs = .ok ()) :
    actionIssues specs = [] := by
  unfold validateActionSpecs at h
  dsimp only at h
  split at h
  · assumption
  · cases h

theorem ids_of_valid (h : validateActionSpecs specs = .ok ()) :
    (specs.map ActionSpec.id).Nodup := by
  have hIssues := actionIssues_of_valid h
  simp only [actionIssues, validateUniqueIds, List.append_eq_nil_iff,
    List.map_eq_nil_iff] at hIssues
  have hNodup := ((collisions_eq_nil_iff _ _ _).mp hIssues.1.1.1.1).1
  simpa using hNodup

variable {spec : ActionSpec}

variable (h : validateActionSpecs specs = .ok ()) (hMem : spec ∈ specs) {spec' : ActionSpec}

include h hMem

/-- Two actions that are not the same have different ids. -/
theorem id_ne_of_valid (hMem' : spec' ∈ specs) (hNe : spec ≠ spec') : spec.id ≠ spec'.id :=
  fun hId => hNe (List.inj_on_of_nodup_map (ids_of_valid h) hMem hMem' hId)

theorem route_unique_of_valid (hMem' : spec' ∈ specs) (hExposed : isHttpExposed spec = true)
    (hExposed' : isHttpExposed spec' = true)
    (hMethod : deriveHttpMethod spec = deriveHttpMethod spec')
    (hPath : deriveHttpPath spec = deriveHttpPath spec') : spec = spec' := by
  have hIssues := actionIssues_of_valid h
  simp only [actionIssues, validateUniqueHttpRoutes, List.append_eq_nil_iff,
    List.map_eq_nil_iff] at hIssues
  -- the check compares routes as texts
  refine eq_of_no_collision hIssues.1.1.2 hMem hMem' (k := _) (if_pos hExposed) ?_
  unfold routeKey
  rw [if_pos hExposed', hMethod, hPath]

theorem path_of_valid (hExposed : isHttpExposed spec = true) :
    (∀ start ∈ reservedHttpRoutePrefixes,
      ¬ start.toList.isPrefixOf (deriveHttpPath spec).toList) ∧
      deriveHttpPath spec ∉ reservedHttpRoutePaths := by
  have hIssues := actionIssues_of_valid h
  simp only [actionIssues, validateReservedHttpRoutes, List.append_eq_nil_iff,
    List.filterMap_eq_nil_iff] at hIssues
  have hSpec := hIssues.1.2 spec (List.mem_filter.mpr ⟨hMem, hExposed⟩)
  unfold reservedHttpRoute at hSpec
  dsimp only at hSpec
  split at hSpec
  · next hFree =>
    refine ⟨fun start hStart => ?_, hFree.2⟩
    simpa using List.find?_eq_none.mp hFree.1 start hStart
  · cases hSpec

end Admitted

/-! ## The registry -/

/-- Registered actions, each under its id; together they have passed the check. -/
structure ActionRegistry where
  specs : AssocMap String ActionSpec
  named : ∀ spec ∈ specs.values, specs.get spec.id = some spec
  valid : validateActionSpecs specs.values = .ok ()

inductive RegisterFailure where
  | alreadyRegistered (message : String)
  | invalid (error : SignetError)
deriving DecidableEq

/-- `createActionRegistry` -/
def createActionRegistry : ActionRegistry where
  specs := .empty
  named := by simp [AssocMap.values, AssocMap.empty]
  valid := rfl

namespace ActionRegistry

/-- `list` -/
def list (registry : ActionRegistry) : List ActionSpec := registry.specs.values

/-- `validate` -/
def validate (registry : ActionRegistry) : Except SignetError Unit :=
  validateActionSpecs registry.list

/-- Action transport surface name. -/
inductive Surface where
  | cli
  | mcp
  | http
deriving DecidableEq

/-- Whether the action says something about the surface. -/
def hasSurface (spec : ActionSpec) : Surface → Bool
  | .cli => spec.cli.isSome
  | .mcp => spec.mcp.isSome
  | .http => spec.http.isSome

/-- `listForSurface` -/
def listForSurface (registry : ActionRegistry) (surface : Surface) : List ActionSpec :=
  registry.list.filter fun spec => hasSurface spec surface

/-- `register` -/
def register (registry : ActionRegistry) (spec : ActionSpec) :
    Except RegisterFailure ActionRegistry :=
  if hAbsent : registry.specs.get spec.id = none then
    match hValid : validateActionSpecs (registry.list ++ [spec]) with
    | .error error => .error (.invalid error)
    | .ok () => .ok
        { specs := registry.specs.set spec.id spec
          named := by
            intro held hMem
            rw [AssocMap.values_set_of_absent spec hAbsent, List.mem_append,
              List.mem_singleton] at hMem
            rw [AssocMap.get_set]
            rcases hMem with hOld | rfl
            · have hGet := registry.named held hOld
              rw [if_neg fun hSame => by rw [hSame, hAbsent] at hGet; cases hGet]
              exact hGet
            · rw [if_pos rfl]
          valid := by
            rw [AssocMap.values_set_of_absent spec hAbsent]
            exact hValid }
  else .error (.alreadyRegistered ("Action '" ++ spec.id ++ "' is already registered"))

def registerAll (registry : ActionRegistry) :
    List ActionSpec → Except RegisterFailure ActionRegistry
  | [] => .ok registry
  | spec :: specs =>
    match registry.register spec with
    | .error failure => .error failure
    | .ok registry => registry.registerAll specs

variable {registry registry' : ActionRegistry}

/-- A registration that does not throw puts the action at the end. -/
theorem list_of_register {spec : ActionSpec} (h : registry.register spec = .ok registry') :
    registry'.list = registry.list ++ [spec] := by
  unfold register at h
  split at h
  · next hAbsent =>
    split at h
    · cases h
    · cases h
      exact AssocMap.values_set_of_absent spec hAbsent
  · cases h

/-- Calls that do not throw register their actions in turn. -/
theorem list_of_registerAll {specs : List ActionSpec}
    (h : registry.registerAll specs = .ok registry') : registry'.list = registry.list ++ specs := by
  induction specs generalizing registry with
  | nil =>
    cases h
    exact (List.append_nil _).symm
  | cons spec specs ih =>
    unfold registerAll at h
    split at h
    · cases h
    · next next hRegister =>
      rw [ih h, list_of_register hRegister, List.append_assoc, List.singleton_append]

end ActionRegistry

end Contracts
end Signet
