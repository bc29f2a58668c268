import Mathlib.Data.List.DropRight
import Signet.Actions.CallHandler
import Signet.Core.Invite

/-!
# Names that are derived from an action

An action is registered once and shown on several surfaces.  Where it does not author a name for a
surface the name is made from its id: the command line separates the parts of an id by colons, the
tools and the routes by slashes.

* `ActionSpec` — what an action says about its surfaces.
* `deriveCliCommand`, `deriveMcpToolName`, `deriveHttpMethod`, `deriveHttpPath`
* `replaceDots_injective_of_not_mem` — when two ids have one name.
-/

namespace Signet
namespace Contracts

open Kit
open Signet.Core

/-! ## Specs -/

/-- CLI-specific metadata. -/
structure CliSurface where
  command : Option String
deriving DecidableEq

/-- MCP-specific metadata. -/
structure McpSurface where
  toolName : Option String
  /-- Additional MCP tool annotations; a key can be there with the value `undefined`. -/
  annotations : Option (AssocMap String (Option Json))
deriving DecidableEq

inductive HttpMethod where
  | get
  | post
  | delete
deriving DecidableEq

def HttpMethod.text : HttpMethod → String
  | .get => "GET"
  | .post => "POST"
  | .delete => "DELETE"

inductive HttpAuth where
  | admin
  | credential
deriving DecidableEq

/-- HTTP-specific metadata. -/
structure HttpSurface where
  path : Option String
  method : Option HttpMethod
  /-- Required auth context; the types demand it. -/
  auth : Option HttpAuth
  /-- Whether the action should be exposed over HTTP. -/
  expose : Option Bool
deriving DecidableEq

inductive ActionIntent where
  | read
  | write
  | destroy
deriving DecidableEq

/-- What an action says about itself and its surfaces. -/
structure ActionSpec where
  id : String
  description : Option String
  intent : Option ActionIntent
  idempotent : Option Bool
  cli : Option CliSurface
  mcp : Option McpSurface
  http : Option HttpSurface
deriving DecidableEq

/-! ## Paths -/

def withLeadingSlash (path : String) : String :=
  if path.toList.head? = some '/' then path else "/" ++ path

/-- `normalizeBasePath` -/
def normalizeBasePath (basePath : String) : String :=
  let trimmed := trimmed basePath
  if trimmed = "" ∨ trimmed = "/" then ""
  else String.ofList ((withLeadingSlash trimmed).toList.rdropWhile fun c => c = '/')

/-- `replace(/\/{2,}/g, "/")` -/
def collapseSlashes : List Char → List Char
  | [] => []
  | [c] => [c]
  | c :: c' :: rest =>
    if c = '/' ∧ c' = '/' then collapseSlashes (c' :: rest)
    else c :: collapseSlashes (c' :: rest)

/-- `normalizePath` -/
def normalizePath (path : String) : String :=
  let trimmed := trimmed path
  if trimmed = "" then "/"
  else String.ofList (collapseSlashes (withLeadingSlash trimmed).toList)

/-- `id.replaceAll(".", separator)` -/
def replaceDots (separator : Char) (id : String) : String :=
  String.ofList (id.toList.map fun c => if c = '.' then separator else c)

/-! ## Derivation -/

/-- `deriveCliCommand` -/
def deriveCliCommand (spec : ActionSpec) : String :=
  (spec.cli.bind CliSurface.command).getD (replaceDots ':' spec.id)

/-- `deriveMcpToolName` -/
def deriveMcpToolName (spec : ActionSpec) : String :=
  Actions.deriveMcpToolName spec.id (spec.mcp.bind McpSurface.toolName)

/-- `deriveHttpMethod` -/
def deriveHttpMethod (spec : ActionSpec) : HttpMethod :=
  match spec.http.bind HttpSurface.method with
  | some method => method
  | none => if spec.intent = some .read then .get else .post

/-- `deriveHttpPath`, under the default base path -/
def deriveHttpPath (spec : ActionSpec) : String :=
  match spec.http.bind HttpSurface.path with
  | some path => normalizePath path
  | none => normalizePath (normalizeBasePath "/v1/actions" ++ "/" ++ replaceDots '/' spec.id)

/-- Where an HTTP adapter should source the parsed action input. -/
inductive HttpInputSource where
  | query
  | body
deriving DecidableEq

/-- `deriveHttpInputSource` -/
def deriveHttpInputSource (method : HttpMethod) : HttpInputSource :=
  if method = .get then .query else .body

/-- `deriveStandardMcpAnnotations` -/
def deriveStandardMcpAnnotations (spec : ActionSpec) : AssocMap String Json :=
  let intent := spec.intent.getD .write
  let readOnly : AssocMap String Json :=
    if intent = .read then AssocMap.empty.set "readOnlyHint" (.bool true) else .empty
  let destructive :=
    if intent = .destroy then readOnly.set "destructiveHint" (.bool true) else readOnly
  let idempotent :=
    if spec.idempotent = some true then destructive.set "idempotentHint" (.bool true)
    else destructive
  match spec.description with
  | none => idempotent
  | some description => idempotent.set "title" (.string description)

/-! ## Ids with one name -/

/-- Two ids in which the separator does not occur have different names. -/
theorem replaceDots_injective_of_not_mem {separator : Char} {id id' : String}
    (hId : separator ∉ id.toList) (hId' : separator ∉ id'.toList)
    (h : replaceDots separator id = replaceDots separator id') : id = id' := by
  have hChars : id.toList.map (fun c => if c = '.' then separator else c) =
      id'.toList.map (fun c => if c = '.' then separator else c) := by
    have hBoth := congrArg String.toList h
    simpa [replaceDots] using hBoth
  -- by induction on the characters: in front of equal rests the first ones are the same, or one of
  -- them is the separator
  refine String.toList_injective ?_
  generalize id.toList = chars at hId hChars
  generalize id'.toList = chars' at hId' hChars
  induction chars generalizing chars' with
  | nil =>
    cases chars' with
    | nil => rfl
    | cons c' chars' => cases hChars
  | cons c chars ih =>
    cases chars' with
    | nil => cases hChars
    | cons c' chars' =>
      rw [List.map_cons, List.map_cons, List.cons.injEq] at hChars
      rw [List.mem_cons, not_or] at hId hId'
      have hHead : c = c' := by
        have hSame := hChars.1
        split at hSame
        · next hDot =>
          split at hSame
          · next hDot' => rw [hDot, hDot']
          · exact absurd hSame hId'.1
        · split at hSame
          · exact absurd hSame.symm hId.1
          · exact hSame
      rw [hHead, ih hId.2 chars' hId'.2 hChars.2]

variable {spec spec' : ActionSpec}

/-- Two actions with one name on a surface: one of them authors it, or has the separator in its
id. -/
theorem name_collision {separator : Char} {authored : ActionSpec → Option String}
    (hNe : spec.id ≠ spec'.id) (h : authored spec = none → authored spec' = none →
      replaceDots separator spec.id = replaceDots separator spec'.id) :
    (∃ s ∈ [spec, spec'], (authored s).isSome = true) ∨
      ∃ s ∈ [spec, spec'], separator ∈ s.id.toList := by
  by_contra hNot
  rw [not_or] at hNot
  obtain ⟨hAuthors, hSeparator⟩ := hNot
  have hNone : ∀ s ∈ [spec, spec'], authored s = none := by
    intro s hMem
    rw [← Option.not_isSome_iff_eq_none]
    exact fun hSome => hAuthors ⟨s, hMem, hSome⟩
  -- both names are derived, so the ids can be read back from them
  have hNames := h (hNone spec (by simp)) (hNone spec' (by simp))
  apply hNe
  exact replaceDots_injective_of_not_mem (fun hMem => hSeparator ⟨spec, by simp, hMem⟩)
    (fun hMem => hSeparator ⟨spec', by simp, hMem⟩) hNames

theorem toolName_collision (h : deriveMcpToolName spec = deriveMcpToolName spec')
    (hNe : spec.id ≠ spec'.id) :
    (∃ s ∈ [spec, spec'], (s.mcp.bind McpSurface.toolName).isSome = true) ∨
      ∃ s ∈ [spec, spec'], '/' ∈ s.id.toList := by
  apply name_collision hNe
  intro hNone hNone'
  unfold deriveMcpToolName Actions.deriveMcpToolName at h
  rw [hNone, hNone'] at h
  have hChars := congrArg String.toList h
  simp only [Option.getD_none, String.toList_append, List.append_cancel_left_eq] at hChars
  exact String.toList_injective hChars

/-- Two actions with one command: one of them authors it, or has a colon in its id. -/
theorem cliCommand_collision (h : deriveCliCommand spec = deriveCliCommand spec')
    (hNe : spec.id ≠ spec'.id) :
    (∃ s ∈ [spec, spec'], (s.cli.bind CliSurface.command).isSome = true) ∨
      ∃ s ∈ [spec, spec'], ':' ∈ s.id.toList := by
  apply name_collision hNe
  intro hNone hNone'
  unfold deriveCliCommand at h
  rwa [hNone, hNone'] at h

end Contracts
end Signet
