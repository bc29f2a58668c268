import Signet.Sessions.CredentialManager

/-!
# The credential service and the scope-update action

The public API over the credential manager, and the `credential.updateScopes`
action.  A call that awaits is split at its awaits: `begin…` runs up to the
await and says what it waits for, `finish…` runs from there on, in whatever
state the store is in by then.

The fingerprint of a token is a parameter of the renewal, being the digest of
the host.
-/

namespace Signet
namespace Sessions

open Kit Schemas Policy

/-- Runtime-enriched credential record with computed fields. -/
structure CredentialRecord where
  id : String
  config : CredentialConfig
  inboxIds : List String
  status : CredentialStatus
  issuedAt : Int
  expiresAt : Int
  issuedBy : String
  credentialId : String
  operatorId : String
  effectiveScopes : ScopeSet
  isExpired : Bool
  lastHeartbeat : Int
deriving DecidableEq

/-- Map internal record to the runtime-enriched credential contract. -/
def toCredentialRecord (now : Int) (record : InternalCredentialRecord) : CredentialRecord where
  id := record.credentialId
  config :=
    { operatorId := record.operatorId
      chatIds := record.chatIds
      allow := some record.effectiveScopes.allow
      deny := some record.effectiveScopes.deny }
  inboxIds := []
  status := record.status
  issuedAt := record.issuedAt
  expiresAt := record.expiresAt
  issuedBy := record.issuedBy
  credentialId := record.credentialId
  operatorId := record.operatorId
  effectiveScopes := record.effectiveScopes
  isExpired := record.status = .expired || decide (record.expiresAt ≤ now)
  lastHeartbeat := record.lastHeartbeat

structure SchemaCredentialRecord where
  id : String
  config : CredentialConfig
  inboxIds : List String
  status : CredentialStatus
  issuedAt : Int
  expiresAt : Int
  issuedBy : String
deriving DecidableEq

def toSchemaCredentialRecord (record : InternalCredentialRecord) : SchemaCredentialRecord where
  id := record.credentialId
  config :=
    { operatorId := record.operatorId
      chatIds := record.chatIds
      allow := some record.effectiveScopes.allow
      deny := some record.effectiveScopes.deny }
  inboxIds := []
  status := record.status
  issuedAt := record.issuedAt
  expiresAt := record.expiresAt
  issuedBy := record.issuedBy

structure IssuedCredential where
  token : String
  credential : SchemaCredentialRecord
deriving DecidableEq

def toIssuedCredential (record : InternalCredentialRecord) : IssuedCredential :=
  ⟨record.token, toSchemaCredentialRecord record⟩

namespace Service

/-- `list` -/
def list (config : CredentialManagerConfig) (now : Int) (store : CredentialStore)
    (operatorId : Option String) : CredentialStore × List CredentialRecord :=
  let swept := (sweepExpired config now store).1
  (swept, (listCredentials swept operatorId).map (toCredentialRecord now))

/-- `lookup` -/
def lookup (config : CredentialManagerConfig) (now : Int) (store : CredentialStore)
    (credentialId : String) : CredentialStore × Except SignetError CredentialRecord :=
  let swept := (sweepExpired config now store).1
  (swept, (getCredentialById swept credentialId).map (toCredentialRecord now))

/-- `lookupByToken` -/
def lookupByToken (now : Int) (store : CredentialStore) (token : String) :
    CredentialStore × Except SignetError CredentialRecord :=
  let result := getCredentialByToken now store token
  (result.1, result.2.map (toCredentialRecord now))

/-- `revoke` -/
def revoke (now : Int) (store : CredentialStore) (credentialId : String)
    (reason : CredentialRevocationReason) : CredentialStore × Except SignetError Unit :=
  let result := revokeCredential now store credentialId reason
  (result.1, result.2.map fun _ => ())

/-- The fields of a `Partial<CredentialConfig>`. -/
structure ConfigChanges where
  operatorId : Option String := none
  chatIds : Option (List String) := none
  policyId : Option String := none
  allow : Option (List PermissionScope) := none
  deny : Option (List PermissionScope) := none
  ttlSeconds : Option Int := none

/-- `resolvePolicyScopes` once the lookup has answered; `none` stands for a
service without a policy manager. -/
def resolvePolicyScopes (lookup : Option (Except SignetError PolicyConfig)) (policyId : String)
    (inlineAllow inlineDeny : Option (List PermissionScope)) : Except SignetError ScopeSet :=
  match lookup with
  | none => .error (NotFoundError.create "policy" policyId)
  | some (.error error) => .error error
  | some (.ok policy) => .ok (resolvePolicy policy inlineAllow inlineDeny)

/-- The tail of `issue`: store the credential under the id drawn for it. -/
def issueResolved (config : CredentialManagerConfig) (env : HashEnv) (now : Int)
    (store : CredentialStore) (resolvedConfig : CredentialConfig) (issuedBy : Option String)
    (drawn : Drawn) : CredentialStore × Except Failure IssuedCredential :=
  let created := issueCredential config env now store resolvedConfig
    ⟨some drawn.credentialId, issuedBy⟩ drawn
  (created.1, created.2.map toIssuedCredential)

/-- `issue` up to its await: `none` when it waits for the lookup of
`config.policyId`, its result otherwise. -/
def beginIssue (config : CredentialManagerConfig) (env : HashEnv) (now : Int)
    (store : CredentialStore) (credentialConfig : CredentialConfig) (issuedBy : Option String)
    (drawn : Drawn) : CredentialStore × Option (Except Failure IssuedCredential) :=
  let swept := (sweepExpired config now store).1
  if credentialConfig.policyId.isSome then (swept, none)
  else
    let issued := issueResolved config env now swept credentialConfig issuedBy drawn
    (issued.1, some issued.2)

def withPolicyScopes (credentialConfig : CredentialConfig) (scopes : ScopeSet) :
    CredentialConfig :=
  { credentialConfig with allow := some scopes.allow, deny := some scopes.deny }

/-- `issue` from the answer of the policy lookup on. -/
def finishIssue (config : CredentialManagerConfig) (env : HashEnv) (now : Int)
    (store : CredentialStore) (credentialConfig : CredentialConfig) (issuedBy : Option String)
    (drawn : Drawn) (lookup : Option (Except SignetError PolicyConfig)) :
    CredentialStore × Except Failure IssuedCredential :=
  match resolvePolicyScopes lookup (credentialConfig.policyId.getD "") credentialConfig.allow
      credentialConfig.deny with
  | .error error => (store, .error (.error error))
  | .ok scopes =>
    issueResolved config env now store (withPolicyScopes credentialConfig scopes) issuedBy drawn

/-- The tail of `update`: check the materiality of the new scopes against the
stored credential and write them, or revoke on an escalation. -/
def applyScopes (env : HashEnv) (now : Int) (store : CredentialStore) (credentialId : String)
    (nextScopes : ScopeSet) : CredentialStore × Except SignetError CredentialRecord :=
  match checkStoredMateriality store credentialId nextScopes with
  | .error error => (store, .error error)
  | .ok check =>
    if check.requiresReauthorization then
      let result := revokeCredential now store credentialId .reauthorizationRequired
      (result.1, result.2.map (toCredentialRecord now))
    else
      let result := updateCredentialScopes env store credentialId nextScopes
      (result.1, result.2.map (toCredentialRecord now))

/-- `update` up to its await: `none` when it waits for the lookup of
`changes.policyId`, its result otherwise. -/
def beginUpdate (env : HashEnv) (now : Int) (store : CredentialStore) (credentialId : String)
    (changes : ConfigChanges) :
    CredentialStore × Option (Except SignetError CredentialRecord) :=
  match getCredentialById store credentialId with
  | .error error => (store, some (.error error))
  | .ok current =>
    if changes.operatorId.isSome ∨ changes.chatIds.isSome ∨ changes.ttlSeconds.isSome then
      (store, some (.error (ValidationError.create "changes"
        "Credential updates only support allow/deny/policyId changes")))
    else if changes.allow.isNone ∧ changes.deny.isNone ∧ changes.policyId.isNone then
      (store, some (.ok (toCredentialRecord now current)))
    else if changes.policyId.isSome then (store, none)
    else
      let result := applyScopes env now store credentialId
        { allow := changes.allow.getD current.effectiveScopes.allow
          deny := changes.deny.getD current.effectiveScopes.deny }
      (result.1, some result.2)

/-- `update` from the answer of the policy lookup on. -/
def finishUpdate (env : HashEnv) (now : Int) (store : CredentialStore) (credentialId : String)
    (changes : ConfigChanges) (lookup : Option (Except SignetError PolicyConfig)) :
    CredentialStore × Except SignetError CredentialRecord :=
  match resolvePolicyScopes lookup (changes.policyId.getD "") changes.allow changes.deny with
  | .error error => (store, .error error)
  | .ok nextScopes => applyScopes env now store credentialId nextScopes

end Service

/-! ## The action `credential.updateScopes` -/

structure UpdateResult where
  updated : Bool
  material : Bool
  reason : Option String
deriving DecidableEq, Repr

namespace UpdateAction

/-- The handler up to the await of the lookup, which sweeps and takes a snapshot. -/
def beginUpdateScopes (config : CredentialManagerConfig) (now : Int) (store : CredentialStore)
    (credentialId : String) : CredentialStore × Except SignetError CredentialRecord :=
  Service.lookup config now store credentialId

/-- The handler from the answer of the lookup on. -/
def finishUpdateScopes (env : HashEnv) (now : Int) (store : CredentialStore)
    (credentialId : String) (scopes : ScopeSet)
    (lookupResult : Except SignetError CredentialRecord) :
    CredentialStore × Except SignetError UpdateResult :=
  match lookupResult with
  | .error error => (store, .error error)
  | .ok credential =>
    if credential.status ≠ .active then
      (store, .error (AuthError.create "Credential is not active"
        (some [("credentialId", .text credentialId),
          ("status", .text credential.status.value)])))
    else match checkStoredMateriality store credentialId scopes with
      | .error error => (store, .error error)
      | .ok check =>
        if check.requiresReauthorization then
          let result := revokeCredential now store credentialId .reauthorizationRequired
          (result.1, result.2.map fun _ => ⟨false, true, check.reason⟩)
        else
          let result := updateCredentialScopes env store credentialId scopes
          (result.1, result.2.map fun _ => ⟨true, check.isMaterial, check.reason⟩)

end UpdateAction

end Sessions
end Signet
