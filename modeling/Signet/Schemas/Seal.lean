import Signet.Kit.AssocMap
import Signet.Schemas.PermissionScopes
import Signet.Schemas.ResourceId

/-!
# Seals

The payload of a capability seal, the chain that links it to its predecessor,
the signed envelope, and the validation of a payload against its schema.

The instants of a payload that the signet produces are milliseconds; the dates
that come from outside are texts, and whether a text is a date is a parameter
of the validation.
-/

namespace Signet
namespace Schemas

open Kit

/-- Whether operator credentials are scoped per-chat or shared. -/
inductive ScopeMode where
  | perChat
  | shared
deriving DecidableEq, Repr

inductive TrustTier where
  | unverified
  | sourceVerified
  | reproduciblyVerified
  | runtimeAttested
deriving DecidableEq, Repr

/-- How an operator performs inference. -/
inductive InferenceMode where
  | localInference
  | cloud
  | hybrid
deriving DecidableEq, Repr

/-- What content may leave the signet boundary. -/
inductive ContentEgressScope where
  | none
  | providerOnly
  | unrestricted
deriving DecidableEq, Repr

/-- Where the operator runtime is hosted. -/
inductive HostingMode where
  | selfHosted
  | cloud
  | tee
deriving DecidableEq, Repr

/-- Operator-declared claims about the runtime environment. -/
structure OperatorDisclosures where
  inferenceMode : Option InferenceMode := none
  inferenceProviders : Option (List String) := none
  contentEgressScope : Option ContentEgressScope := none
  retentionAtProvider : Option String := none
  hostingMode : Option HostingMode := none
deriving DecidableEq

/-- How a seal claim's value was established. -/
inductive ClaimProvenance where
  | verified
  | observed
  | declared
deriving DecidableEq, Repr

/-- Metadata about how a specific claim was established. -/
structure ClaimProvenanceRecord where
  source : ClaimProvenance
  attestedBy : Option String := none
  attestedAt : Option String := none
  expiresAt : Option String := none
deriving DecidableEq

/-- Temporary admin read access disclosed on a seal. -/
structure AdminAccess where
  operatorId : String
  expiresAt : String
deriving DecidableEq

structure SealPayload where
  sealId : String
  credentialId : String
  operatorId : String
  chatId : String
  scopeMode : ScopeMode
  permissions : ScopeSet
  adminAccess : Option AdminAccess := none
  issuedAt : Int
  /-- The literal `true`, or absent. -/
  bypassed : Bool := false
  trustTier : Option TrustTier := none
  operatorDisclosures : Option OperatorDisclosures := none
  provenanceMap : Option (AssocMap String ClaimProvenanceRecord) := none
deriving DecidableEq

/-- Convenience diff between current and previous seal payloads. -/
structure SealDelta where
  added : List PermissionScope
  removed : List PermissionScope
  changed : List ScopeChange
deriving DecidableEq

/-- The diff of a first seal. -/
def SealDelta.empty : SealDelta := ⟨[], [], []⟩

structure SealChain where
  current : SealPayload
  previous : Option SealPayload
  delta : SealDelta
deriving DecidableEq

/-- Signed envelope wrapping a seal chain; the algorithm is always Ed25519. -/
structure SealEnvelope where
  chain : SealChain
  signature : String
  keyId : String
deriving DecidableEq

structure MessageSealBinding where
  sealRef : String
  sealSignature : String
deriving DecidableEq

inductive AgentRevocationReason where
  | ownerInitiated
  | credentialExpired
  | adminRemoved
  | heartbeatTimeout
  | policyViolation
deriving DecidableEq, Repr

/-- Seal that records revocation of an agent's group membership. -/
structure RevocationSeal where
  sealId : String
  previousSealId : String
  operatorId : String
  credentialId : String
  chatId : String
  reason : AgentRevocationReason
  revokedAt : Int
  issuer : String
deriving DecidableEq

/-! ## Validation -/

/-- A complaint of a schema about the value under a path. -/
structure Issue where
  path : List String
  message : String
deriving DecidableEq, Repr

/-- What validation takes from the schema library. -/
structure ZodEnv where
  /-- `z.string().datetime()` accepts the text. -/
  isDatetime : String → Bool
  /-- The `message` of the error for a list of issues. -/
  errorMessage : List Issue → String

def resourceIdMessage (type : ResourceType) : String :=
  "Must start with \"" ++ type.tag ++ "\" followed by 16 lowercase hex characters"

def resourceIdIssues (type : ResourceType) (path : List String) (value : String) : List Issue :=
  if isResourceId type value then [] else [⟨path, resourceIdMessage type⟩]

/-- Validate a date that comes as text. -/
def datetimeIssues (zod : ZodEnv) (path : List String) (value : Option String) : List Issue :=
  match value with
  | none => []
  | some text => if zod.isDatetime text then [] else [⟨path, "Invalid datetime"⟩]

/-- Validate the admin access of a payload; the actor is an operator id or `owner`. -/
def adminAccessIssues (zod : ZodEnv) (adminAccess : AdminAccess) : List Issue :=
  (if adminAccess.operatorId = "owner" then []
    else resourceIdIssues .operator ["adminAccess", "operatorId"] adminAccess.operatorId)
    ++ datetimeIssues zod ["adminAccess", "expiresAt"] (some adminAccess.expiresAt)

/-- Claim keys backed directly by operator-disclosed seal fields. -/
def operatorDisclosureProvenanceKeys : List String :=
  ["inferenceMode", "inferenceProviders", "contentEgressScope", "retentionAtProvider",
    "hostingMode"]

def supportedProvenanceKeys : List String := operatorDisclosureProvenanceKeys ++ ["trustTier"]

def OperatorDisclosures.discloses (disclosures : OperatorDisclosures) (key : String) : Bool :=
  if key = "inferenceMode" then disclosures.inferenceMode.isSome
  else if key = "inferenceProviders" then disclosures.inferenceProviders.isSome
  else if key = "contentEgressScope" then disclosures.contentEgressScope.isSome
  else if key = "retentionAtProvider" then disclosures.retentionAtProvider.isSome
  else if key = "hostingMode" then disclosures.hostingMode.isSome
  else false

def provenanceMapIssues (zod : ZodEnv) (map : AssocMap String ClaimProvenanceRecord) :
    List Issue :=
  map.entries.flatMap (fun entry =>
    datetimeIssues zod ["provenanceMap", entry.1, "attestedAt"] entry.2.attestedAt
      ++ datetimeIssues zod ["provenanceMap", entry.1, "expiresAt"] entry.2.expiresAt)
    ++ (map.keys.filter (fun key => key ∉ supportedProvenanceKeys)).map fun key =>
      ⟨["provenanceMap", key], "Unsupported provenance key: " ++ key⟩

/-- Provenance may only be given for disclosed claims and a present trust tier. -/
def provenanceBackingIssues (payload : SealPayload) : List Issue :=
  match payload.provenanceMap with
  | none => []
  | some map =>
    (operatorDisclosureProvenanceKeys.filter fun key =>
        (map.get key).isSome
          && !(payload.operatorDisclosures.any fun d => d.discloses key)).map (fun key =>
      ⟨["provenanceMap", key],
        "Provenance for " ++ key ++ " requires a corresponding operator disclosure"⟩)
    ++ if (map.get "trustTier").isSome && payload.trustTier.isNone then
        [⟨["provenanceMap", "trustTier"],
          "Provenance for trustTier requires a corresponding trustTier value"⟩]
      else []

def sealPayloadIssues (zod : ZodEnv) (payload : SealPayload) : List Issue :=
  resourceIdIssues .seal ["sealId"] payload.sealId
    ++ resourceIdIssues .credential ["credentialId"] payload.credentialId
    ++ resourceIdIssues .operator ["operatorId"] payload.operatorId
    ++ resourceIdIssues .conversation ["chatId"] payload.chatId
    ++ (match payload.adminAccess with
      | none => []
      | some adminAccess => adminAccessIssues zod adminAccess)
    ++ (match payload.provenanceMap with
      | none => []
      | some map => provenanceMapIssues zod map)
    ++ provenanceBackingIssues payload

def revocationSealIssues (revocation : RevocationSeal) : List Issue :=
  resourceIdIssues .seal ["sealId"] revocation.sealId
    ++ resourceIdIssues .seal ["previousSealId"] revocation.previousSealId
    ++ resourceIdIssues .operator ["operatorId"] revocation.operatorId
    ++ resourceIdIssues .credential ["credentialId"] revocation.credentialId
    ++ resourceIdIssues .conversation ["chatId"] revocation.chatId

def Issue.under (field : String) (issue : Issue) : Issue :=
  { issue with path := field :: issue.path }

/-- The issues the schema of a chain finds; scopes are scopes by their type. -/
def sealChainIssues (zod : ZodEnv) (chain : SealChain) : List Issue :=
  (sealPayloadIssues zod chain.current).map (Issue.under "current")
    ++ match chain.previous with
      | none => []
      | some previous => (sealPayloadIssues zod previous).map (Issue.under "previous")

def sealEnvelopeIssues (zod : ZodEnv) (envelope : SealEnvelope) : List Issue :=
  (sealChainIssues zod envelope.chain).map (Issue.under "chain")
    ++ resourceIdIssues .key ["keyId"] envelope.keyId

theorem ids_of_sealPayloadIssues_eq_nil {zod : ZodEnv} {payload : SealPayload}
    (h : sealPayloadIssues zod payload = []) :
    isResourceId .seal payload.sealId = true ∧
      isResourceId .credential payload.credentialId = true ∧
      isResourceId .operator payload.operatorId = true ∧
      isResourceId .conversation payload.chatId = true := by
  have hId : ∀ type path value, resourceIdIssues type path value = [] →
      isResourceId type value = true := by
    intro type path value hNil
    unfold resourceIdIssues at hNil
    split at hNil
    · assumption
    · cases hNil
  unfold sealPayloadIssues at h
  simp only [List.append_eq_nil_iff] at h
  obtain ⟨⟨⟨⟨⟨⟨hSeal, hCredential⟩, hOperator⟩, hChat⟩, -⟩, -⟩, -⟩ := h
  exact ⟨hId _ _ _ hSeal, hId _ _ _ hCredential, hId _ _ _ hOperator, hId _ _ _ hChat⟩

end Schemas
end Signet
