import Signet.Contracts.ActionRegistry

/-!
# Where a request for an action goes

The HTTP server has routes of its own for its health, for admin calls and for credential calls;
after them it looks for the route of an action.  The tool server looks for the action of a tool
name, the admin dispatcher for the action of an RPC method.

* `handleHttpRequest` — the route of an HTTP request.
* `findSpecByToolName`, `buildMethodMap` — the actions of tools and of RPC methods.
* `Unambiguous` — what is found for each registered action.
* `registry_unambiguous` — registrations that do not throw leave it so; nobody checks the names of
  tools and commands.
-/

namespace Signet
namespace Cli

open Kit
open Signet.Schemas
open Signet.Contracts

/-! ## Routes of actions -/

structure HttpActionRoute where
  actionId : String
  auth : Option HttpAuth
  inputSource : HttpInputSource
  method : HttpMethod
  path : String
  spec : ActionSpec
deriving DecidableEq

def httpActionRoute (spec : ActionSpec) : HttpActionRoute :=
  let method := deriveHttpMethod spec
  { actionId := spec.id
    auth := spec.http.bind HttpSurface.auth
    inputSource := deriveHttpInputSource method
    method := method
    path := deriveHttpPath spec
    spec := spec }

/-- `buildHttpActionRoutes` -/
def buildHttpActionRoutes (registry : ActionRegistry) :
    Except SignetError (List HttpActionRoute) :=
  match registry.validate with
  | .error error => .error error
  | .ok () => .ok (((registry.listForSurface .http).filter isHttpExposed).map httpActionRoute)

/-- `matchHttpActionRoute` -/
def matchHttpActionRoute (routes : List HttpActionRoute) (method path : String) :
    Option HttpActionRoute :=
  routes.find? fun route => route.method.text = method ∧ route.path = path

/-! ## Routes of the server -/

/-- The characters that `.` leaves out in a pattern. -/
def isLineTerminator (c : Char) : Bool :=
  c = '\n' || c = '\r' || c = '\u2028' || c = '\u2029'

/-- What `(.+)` takes in when it follows the given start up to the end. -/
def routeParameter (start path : String) : Option String :=
  let rest := path.toList.drop start.toList.length
  if start.toList.isPrefixOf path.toList ∧ rest ≠ [] ∧ rest.all (!isLineTerminator ·) then
    some (String.ofList rest)
  else none

/-- Who answers a request. -/
inductive Routed where
  | health
  | admin (method : String)
  | credential (method : String)
  | action (route : HttpActionRoute)
  | notFound (message : String)
deriving DecidableEq

/-- `handleRequest` of the HTTP server, up to the handler that it chooses -/
def handleHttpRequest (actionRoutes : List HttpActionRoute) (method path : String) : Routed :=
  let adminMethod := routeParameter "/v1/admin/" path
  let credentialMethod := routeParameter "/v1/credential/" path
  if path = "/v1/health" ∧ method = "GET" then .health
  else
    match (if method = "POST" then adminMethod else none),
      (if method = "POST" then credentialMethod else none) with
    | some name, _ => .admin name
    | none, some name => .credential name
    | none, none =>
      match matchHttpActionRoute actionRoutes method path with
      | some route => .action route
      | none => .notFound ("Route not found: " ++ method ++ " " ++ path)

variable {path : String} {actionRoutes : List HttpActionRoute} {route : HttpActionRoute}

theorem routeParameter_eq_none {start : String} (h : ¬ start.toList.isPrefixOf path.toList) :
    routeParameter start path = none :=
  if_neg fun hBoth => h hBoth.1

/-- Outside the server's own paths the routes of actions decide. -/
theorem handleHttpRequest_of_free {method : String}
    (hPrefixes : ∀ start ∈ reservedHttpRoutePrefixes, ¬ start.toList.isPrefixOf path.toList)
    (hPaths : path ∉ reservedHttpRoutePaths)
    (hRoute : matchHttpActionRoute actionRoutes method path = some route) :
    handleHttpRequest actionRoutes method path = .action route := by
  -- none of the server's own routes takes the path
  have hHealth : ¬ (path = "/v1/health" ∧ method = "GET") := by
    rintro ⟨rfl, _⟩
    exact hPaths (by simp [reservedHttpRoutePaths])
  have hAdmin :=
    routeParameter_eq_none (hPrefixes "/v1/admin/" (by simp [reservedHttpRoutePrefixes]))
  have hCredential :=
    routeParameter_eq_none (hPrefixes "/v1/credential/" (by simp [reservedHttpRoutePrefixes]))
  unfold handleHttpRequest
  dsimp only
  rw [if_neg hHealth, hAdmin, hCredential, ite_self, hRoute]

theorem match_of_handleHttpRequest {method : String}
    (h : handleHttpRequest actionRoutes method path = .action route) :
    matchHttpActionRoute actionRoutes method path = some route := by
  unfold handleHttpRequest at h
  dsimp only at h
  split at h
  · cases h
  · split at h
    · cases h
    · cases h
    · split at h
      · next found hFound =>
        cases h
        exact hFound
      · cases h

/-! ## Tools and methods -/

/-- `findSpecByToolName` -/
def findSpecByToolName (toolName : String) (registry : ActionRegistry) : Option ActionSpec :=
  (registry.listForSurface .mcp).find? fun spec => deriveMcpToolName spec = toolName

/-- `buildMethodMap`; the RPC method of an action is its id. -/
def buildMethodMap (registry : ActionRegistry) : AssocMap String ActionSpec :=
  (registry.listForSurface .cli).foldl (fun map spec => map.set spec.id spec) .empty

/-! ## What is found -/

section Found

variable {α : Type}

variable {as : List α}

/-- A search finds the only element that it is for. -/
theorem find?_eq_some_of_unique {p : α → Bool} {a : α} (hMem : a ∈ as) (hHolds : p a = true)
    (hUnique : ∀ a' ∈ as, p a' = true → a' = a) : as.find? p = some a := by
  cases hFind : as.find? p with
  | none => exact absurd hHolds (List.find?_eq_none.mp hFind a hMem)
  | some a' =>
    have hSame := hUnique a' (List.mem_of_find?_eq_some hFind) (List.find?_some hFind)
    rw [hSame]

/-- A map that is filled from a list has the entries it had for the keys that are not in the
list. -/
theorem get_foldl_set_of_not_mem {κ : Type} [DecidableEq κ] {key : α → κ} {k : κ}
    (h : k ∉ as.map key) (map : AssocMap κ α) :
    (as.foldl (fun map a => map.set (key a) a) map).get k = map.get k := by
  induction as generalizing map with
  | nil => rfl
  | cons a as ih =>
    rw [List.map_cons, List.mem_cons, not_or] at h
    rw [List.foldl_cons, ih h.2, AssocMap.get_set_of_ne _ _ h.1]

/-- A map that is filled from a list has each of its elements, when their keys differ. -/
theorem get_foldl_set_of_mem {κ : Type} [DecidableEq κ] {key : α → κ} (hNodup : (as.map key).Nodup)
    {a : α} (hMem : a ∈ as) (map : AssocMap κ α) :
    (as.foldl (fun map a => map.set (key a) a) map).get (key a) = some a := by
  induction as generalizing map with
  | nil => cases hMem
  | cons first as ih =>
    rw [List.map_cons, List.nodup_cons] at hNodup
    rw [List.foldl_cons]
    rcases List.mem_cons.mp hMem with rfl | hLater
    · rw [get_foldl_set_of_not_mem hNodup.1, AssocMap.get_set_self]
    · exact ih hNodup.2 hLater _

end Found

/-- What is found for the actions of a registry. -/
structure Unambiguous (registry : ActionRegistry) (specs : List ActionSpec) : Prop where
  /-- The registry holds exactly these actions. -/
  listed : registry.list = specs
  ids : (specs.map ActionSpec.id).Nodup
  /-- Each exposed one has a method and a path of its own. -/
  routes : ∀ spec ∈ specs, ∀ spec' ∈ specs, isHttpExposed spec = true → isHttpExposed spec' = true →
    deriveHttpMethod spec = deriveHttpMethod spec' → deriveHttpPath spec = deriveHttpPath spec' →
    spec = spec'
  /-- The server starts; the route of an action leads to it, and nothing else does. -/
  served : ∃ actionRoutes, buildHttpActionRoutes registry = .ok actionRoutes ∧
    (∀ spec ∈ specs, isHttpExposed spec = true →
      handleHttpRequest actionRoutes (deriveHttpMethod spec).text (deriveHttpPath spec) =
        .action (httpActionRoute spec)) ∧
    ∀ method path route, handleHttpRequest actionRoutes method path = .action route →
      ∃ spec ∈ specs, isHttpExposed spec = true ∧ route = httpActionRoute spec ∧
        method = (deriveHttpMethod spec).text ∧ path = deriveHttpPath spec
  /-- The RPC method of an action leads to it. -/
  methods : ∀ spec ∈ specs, spec.cli.isSome = true →
    (buildMethodMap registry).get spec.id = some spec
  /-- A tool name leads to its action where no other action has it. -/
  tools : ∀ spec ∈ specs, spec.mcp.isSome = true →
    (∀ spec' ∈ specs, spec'.mcp.isSome = true →
      deriveMcpToolName spec' = deriveMcpToolName spec → spec' = spec) →
    findSpecByToolName (deriveMcpToolName spec) registry = some spec
  /-- Where two actions have one tool name, one authors it or has a slash in its id. -/
  toolNames : ∀ spec ∈ specs, ∀ spec' ∈ specs, spec ≠ spec' →
    deriveMcpToolName spec = deriveMcpToolName spec' →
    (∃ s ∈ [spec, spec'], (s.mcp.bind McpSurface.toolName).isSome = true) ∨
      ∃ s ∈ [spec, spec'], '/' ∈ s.id.toList
  /-- Where two actions have one command, one authors it or has a colon in its id. -/
  commands : ∀ spec ∈ specs, ∀ spec' ∈ specs, spec ≠ spec' →
    deriveCliCommand spec = deriveCliCommand spec' →
    (∃ s ∈ [spec, spec'], (s.cli.bind CliSurface.command).isSome = true) ∨
      ∃ s ∈ [spec, spec'], ':' ∈ s.id.toList

section Registered

variable {registry : ActionRegistry}

theorem methodText_injective {method method' : HttpMethod} (h : method.text = method'.text) :
    method = method' := by
  cases method <;> cases method' <;> first | rfl | exact absurd h (by decide)

/-- A registry has passed the check that the server makes once more. -/
theorem buildHttpActionRoutes_eq (registry : ActionRegistry) :
    buildHttpActionRoutes registry =
      .ok (((registry.listForSurface .http).filter isHttpExposed).map httpActionRoute) := by
  have hValid : registry.validate = .ok () := registry.valid
  unfold buildHttpActionRoutes
  rw [hValid]

theorem mem_actionRoutes {route : HttpActionRoute} :
    route ∈ ((registry.listForSurface .http).filter isHttpExposed).map httpActionRoute ↔
      ∃ spec ∈ registry.list, isHttpExposed spec = true ∧ route = httpActionRoute spec := by
  simp only [List.mem_map, List.mem_filter, ActionRegistry.listForSurface]
  constructor
  · rintro ⟨spec, ⟨⟨hMem, _⟩, hExposed⟩, rfl⟩
    exact ⟨spec, hMem, hExposed, rfl⟩
  · rintro ⟨spec, hMem, hExposed, rfl⟩
    -- what is exposed says something about HTTP
    have hSurface : ActionRegistry.hasSurface spec .http = true := by
      cases hHttp : spec.http with
      | none =>
        unfold isHttpExposed at hExposed
        rw [hHttp] at hExposed
        cases hExposed
      | some http => simp [ActionRegistry.hasSurface, hHttp]
    exact ⟨spec, ⟨⟨hMem, hSurface⟩, hExposed⟩, rfl⟩

theorem match_of_exposed {spec : ActionSpec} (hMem : spec ∈ registry.list)
    (hExposed : isHttpExposed spec = true) :
    matchHttpActionRoute
      (((registry.listForSurface .http).filter isHttpExposed).map httpActionRoute)
      (deriveHttpMethod spec).text (deriveHttpPath spec) = some (httpActionRoute spec) := by
  refine find?_eq_some_of_unique (mem_actionRoutes.mpr ⟨spec, hMem, hExposed, rfl⟩)
    (by simp [httpActionRoute]) fun route hRoute hSame => ?_
  obtain ⟨other, hOther, hOtherExposed, rfl⟩ := mem_actionRoutes.mp hRoute
  obtain ⟨hMethod, hPath⟩ := of_decide_eq_true hSame
  rw [route_unique_of_valid registry.valid hOther hMem hOtherExposed hExposed
    (methodText_injective hMethod) hPath]

/-- The actions of a registry are found as far as their names are checked. -/
theorem unambiguous (registry : ActionRegistry) : Unambiguous registry registry.list where
  listed := rfl
  ids := ids_of_valid registry.valid
  routes _ hMem _ hMem' := route_unique_of_valid registry.valid hMem hMem'
  served := by
    refine ⟨_, buildHttpActionRoutes_eq registry, fun spec hMem hExposed => ?_,
      fun method path route hAction => ?_⟩
    · obtain ⟨hPrefixes, hPaths⟩ := path_of_valid registry.valid hMem hExposed
      exact handleHttpRequest_of_free hPrefixes hPaths (match_of_exposed hMem hExposed)
    · have hMatch := match_of_handleHttpRequest hAction
      obtain ⟨spec, hMem, hExposed, rfl⟩ := mem_actionRoutes.mp (List.mem_of_find?_eq_some hMatch)
      have hSame := List.find?_some hMatch
      obtain ⟨hMethod, hPath⟩ := of_decide_eq_true hSame
      exact ⟨spec, hMem, hExposed, rfl, hMethod.symm, hPath.symm⟩
  methods spec hMem hCli := by
    -- a later action would take the place of an earlier one with its id
    have hNodup : ((registry.listForSurface .cli).map ActionSpec.id).Nodup :=
      (ids_of_valid registry.valid).sublist (List.filter_sublist.map _)
    exact get_foldl_set_of_mem hNodup (List.mem_filter.mpr ⟨hMem, hCli⟩) .empty
  tools spec hMem hMcp hOnly := by
    refine find?_eq_some_of_unique (List.mem_filter.mpr ⟨hMem, hMcp⟩) (by simp)
      fun other hOther hSame => ?_
    obtain ⟨hOtherMem, hOtherMcp⟩ := List.mem_filter.mp hOther
    exact hOnly other hOtherMem hOtherMcp (by simpa using hSame)
  toolNames _ hMem _ hMem' hNe hSame :=
    toolName_collision hSame (id_ne_of_valid registry.valid hMem hMem' hNe)
  commands _ hMem _ hMem' hNe hSame :=
    cliCommand_collision hSame (id_ne_of_valid registry.valid hMem hMem' hNe)

end Registered

/-- Registrations that do not throw leave their actions in the registry, with ids and routes of
their own that lead to them; a tool name leads to its action when it has it alone. -/
theorem registry_unambiguous {specs : List ActionSpec} {registry : ActionRegistry}
    (h : createActionRegistry.registerAll specs = .ok registry) : Unambiguous registry specs := by
  have hList : registry.list = specs := by
    rw [ActionRegistry.list_of_registerAll h]
    rfl
  rw [← hList]
  exact unambiguous registry

/-! ## Three actions -/

/-- An action on all surfaces. -/
def listCredentials : ActionSpec where
  id := "credential.list"
  description := none
  intent := some .read
  idempotent := none
  cli := some ⟨some "credential:ls"⟩
  mcp := some ⟨some "signet/credential/ls", none⟩
  http := some ⟨none, none, some .credential, none⟩

/-- Another action, with the names of the first for tools and on the command line. -/
def purgeCredentials : ActionSpec where
  id := "credential.purge"
  description := none
  intent := some .destroy
  idempotent := none
  cli := some ⟨some "credential:ls"⟩
  mcp := some ⟨some "signet/credential/ls", none⟩
  http := none

theorem credentials_registered : ∃ registry,
    createActionRegistry.registerAll [listCredentials, purgeCredentials] = .ok registry := by
  cases hAll : createActionRegistry.registerAll [listCredentials, purgeCredentials] with
  | ok registry => exact ⟨registry, rfl⟩
  | error error =>
    have hOk : (createActionRegistry.registerAll
        [listCredentials, purgeCredentials]).toOption.isSome = true := by
      decide
    rw [hAll] at hOk
    cases hOk

/-- The two are registered, and who calls the second's tool gets the first. -/
theorem shared_tool_name : ∃ registry,
    createActionRegistry.registerAll [listCredentials, purgeCredentials] = .ok registry ∧
      listCredentials ≠ purgeCredentials ∧
      deriveMcpToolName listCredentials = deriveMcpToolName purgeCredentials ∧
      deriveCliCommand listCredentials = deriveCliCommand purgeCredentials ∧
      findSpecByToolName (deriveMcpToolName purgeCredentials) registry = some listCredentials := by
  obtain ⟨registry, hOk⟩ := credentials_registered
  refine ⟨registry, hOk, by decide, by decide, by decide, ?_⟩
  have hList : registry.list = [listCredentials, purgeCredentials] :=
    ActionRegistry.list_of_registerAll hOk
  unfold findSpecByToolName ActionRegistry.listForSurface
  rw [hList]
  decide

theorem registry_unambiguous_credentials : ∃ registry,
    createActionRegistry.registerAll [listCredentials, purgeCredentials] = .ok registry ∧
      Unambiguous registry [listCredentials, purgeCredentials] := by
  obtain ⟨registry, hOk⟩ := credentials_registered
  exact ⟨registry, hOk, registry_unambiguous hOk⟩

end Cli
end Signet
