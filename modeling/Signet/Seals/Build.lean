import Signet.Seals.ChainValidator

/-!
# Building seals

The input of a seal, its build into a chain that links to the previous payload,
and the canonical text that nested metadata is compared by.  The id a build
draws and the clock reading it takes are arguments.
-/

namespace Signet
namespace Seals

open Kit Schemas

/-- Input fields for building a seal; the id and the time are never accepted here. -/
structure SealInput where
  credentialId : String
  operatorId : String
  chatId : String
  scopeMode : ScopeMode
  permissions : ScopeSet
  adminAccess : Option AdminAccess := none
  bypassed : Bool := false
  trustTier : Option TrustTier := none
  operatorDisclosures : Option OperatorDisclosures := none
  provenanceMap : Option (AssocMap String ClaimProvenanceRecord) := none
deriving DecidableEq

def rawPayload (now : Int) (sealId : String) (input : SealInput) : SealPayload :=
  { sealId := sealId
    credentialId := input.credentialId
    operatorId := input.operatorId
    chatId := input.chatId
    scopeMode := input.scopeMode
    permissions := input.permissions
    adminAccess := input.adminAccess
    issuedAt := now
    bypassed := input.bypassed
    trustTier := input.trustTier
    operatorDisclosures := input.operatorDisclosures
    provenanceMap := input.provenanceMap }

/-- Builds a seal chain from input fields, linking to the previous seal payload if
one exists. -/
def buildSeal (zod : ZodEnv) (now : Int) (sealId : String) (input : SealInput)
    (previousPayload : Option SealPayload) : Except SignetError SealChain :=
  let current := rawPayload now sealId input
  match sealPayloadIssues zod current with
  | [] =>
    .ok
      { current := current
        previous := previousPayload
        delta := match previousPayload with
          | none => .empty
          | some previous => computePayloadDelta previous current }
  | issues => .error (ValidationError.create "seal" (zod.errorMessage issues))

/-- What a successful build has made. -/
theorem buildSeal_ok {zod : ZodEnv} {now : Int} {sealId : String} {input : SealInput}
    {previousPayload : Option SealPayload} {chain : SealChain}
    (h : buildSeal zod now sealId input previousPayload = .ok chain) :
    sealPayloadIssues zod chain.current = [] ∧ chain.current = rawPayload now sealId input ∧
      chain.previous = previousPayload ∧
      chain.delta = expectedDelta chain.current chain.previous := by
  unfold buildSeal at h
  simp only at h
  split at h
  · next hIssues =>
    cases h
    exact ⟨hIssues, rfl, rfl, by cases previousPayload <;> rfl⟩
  · cases h

/-! ## Canonical texts -/

mutual

/-- Recursively sorts object keys for deterministic serialization. -/
def sortKeys : Json → Json
  | .array items => .array (sortItems items)
  | .object members =>
    .object ((sortMembers members).insertionSort fun left right => left.1 ≤ right.1)
  | value => value

def sortItems : List Json → List Json
  | [] => []
  | item :: items => sortKeys item :: sortItems items

def sortMembers : List (String × Json) → List (String × Json)
  | [] => []
  | (key, value) :: members => (key, sortKeys value) :: sortMembers members

end

/-- Canonical serialization of nested metadata; `undefined` has no text. -/
def stableSerialize (value : Option Json) : String :=
  match value with
  | none => ""
  | some json => (sortKeys json).stringify

def adminAccessJson (adminAccess : AdminAccess) : Json :=
  .object [("operatorId", .string adminAccess.operatorId),
    ("expiresAt", .string adminAccess.expiresAt)]

def inferenceModeValue : InferenceMode → String
  | .localInference => "local"
  | .cloud => "cloud"
  | .hybrid => "hybrid"

def contentEgressScopeValue : ContentEgressScope → String
  | .none => "none"
  | .providerOnly => "provider-only"
  | .unrestricted => "unrestricted"

def hostingModeValue : HostingMode → String
  | .selfHosted => "self-hosted"
  | .cloud => "cloud"
  | .tee => "tee"

def operatorDisclosuresJson (disclosures : OperatorDisclosures) : Json :=
  Json.ofMembers
    [("inferenceMode", disclosures.inferenceMode.map fun m => .string (inferenceModeValue m)),
      ("inferenceProviders", disclosures.inferenceProviders.map fun l =>
        .array (l.map .string)),
      ("contentEgressScope", disclosures.contentEgressScope.map fun s =>
        .string (contentEgressScopeValue s)),
      ("retentionAtProvider", disclosures.retentionAtProvider.map .string),
      ("hostingMode", disclosures.hostingMode.map fun m => .string (hostingModeValue m))]

/-- The wire form of the source of a claim. -/
def claimProvenanceValue : ClaimProvenance → String
  | .verified => "verified"
  | .observed => "observed"
  | .declared => "declared"

def claimProvenanceJson (record : ClaimProvenanceRecord) : Json :=
  Json.ofMembers
    [("source", some (.string (claimProvenanceValue record.source))),
      ("attestedBy", record.attestedBy.map .string),
      ("attestedAt", record.attestedAt.map .string),
      ("expiresAt", record.expiresAt.map .string)]

def provenanceMapJson (map : AssocMap String ClaimProvenanceRecord) : Json :=
  .object (map.entries.map fun entry => (entry.1, claimProvenanceJson entry.2))

end Seals
end Signet
