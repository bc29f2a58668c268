import Signet.Kit.AssocMap
import Signet.Kit.Machine
import Signet.Policy.RevealState
import Signet.Schemas.Credential
import Signet.Schemas.Errors
import Signet.Sessions.Materiality
import Signet.Sessions.PolicyHash

/-!
# The credential manager

Issuance, lookup, renewal, revocation, heartbeats and expiry sweeps over an
in-memory store.  Every operation runs without an await, so it is one step on
the store; an operation reads the clock once, at `now`.

* `CredentialStore` — the four maps and the log of the two hooks; the record
  under a key carries that key as its credential id, by construction.
* `mutateRecord`, `revokeRecord`, `upsertRecord` — the only writers.
* `issueCredential` … `sweepExpired` — the operations of the manager.
* `credentialMachine` — the manager under any sequence of operations.

The identifier and the bearer token of a new credential are drawn at random by
the host; a call brings them along.
-/

namespace Signet
namespace Sessions

open Kit Schemas Policy

structure CredentialManagerConfig where
  defaultTtlSeconds : Int := 3600
  maxConcurrentPerOperator : Int := 3
  renewalWindowSeconds : Int := 300
  heartbeatGracePeriod : Int := 3

structure InternalCredentialRecord where
  credentialId : String
  token : String
  operatorId : String
  chatIds : List String
  effectiveScopes : ScopeSet
  resolvedScopes : OrderedSet PermissionScope
  policyHash : String
  status : CredentialStatus
  heartbeatInterval : Int
  lastHeartbeat : Int
  issuedAt : Int
  expiresAt : Int
  issuedBy : String
  ttlMs : Int
  revokedAt : Option Int
  revocationReason : Option CredentialRevocationReason
deriving DecidableEq

/-- A call of one of the two hooks of the manager. -/
inductive Notification where
  /-- `onCredentialMutated` -/
  | mutated (credentialId : String)
  /-- `onCredentialRevoked` -/
  | revoked (credential : InternalCredentialRecord)
deriving DecidableEq

/-- The in-memory stores. -/
structure CredentialStore where
  byId : AssocMap String InternalCredentialRecord
  byToken : AssocMap String String
  byOperator : AssocMap String (OrderedSet String)
  revealStates : AssocMap String RevealStateStore
  notifications : List Notification
  keyed : ∀ credentialId record, byId.get credentialId = some record →
    record.credentialId = credentialId

namespace CredentialStore

/-- The stores of a new manager. -/
def empty : CredentialStore where
  byId := .empty
  byToken := .empty
  byOperator := .empty
  revealStates := .empty
  notifications := []
  keyed := by simp

end CredentialStore

/-- The fields a mutation may write; `none` keeps the present value.  The two
nullable fields distinguish an absent update from an update to `null`. -/
structure RecordUpdates where
  effectiveScopes : Option ScopeSet := none
  resolvedScopes : Option (OrderedSet PermissionScope) := none
  policyHash : Option String := none
  status : Option CredentialStatus := none
  lastHeartbeat : Option Int := none
  expiresAt : Option Int := none
  revokedAt : Option (Option Int) := none
  revocationReason : Option (Option CredentialRevocationReason) := none

namespace RecordUpdates

def applyTo (updates : RecordUpdates) (existing : InternalCredentialRecord) :
    InternalCredentialRecord :=
  { existing with
    effectiveScopes := updates.effectiveScopes.getD existing.effectiveScopes
    resolvedScopes := updates.resolvedScopes.getD existing.resolvedScopes
    policyHash := updates.policyHash.getD existing.policyHash
    status := updates.status.getD existing.status
    lastHeartbeat := updates.lastHeartbeat.getD existing.lastHeartbeat
    expiresAt := updates.expiresAt.getD existing.expiresAt
    revokedAt := updates.revokedAt.getD existing.revokedAt
    revocationReason := updates.revocationReason.getD existing.revocationReason }

/-- Whether the updates are policy-relevant, so that `onCredentialMutated` fires. -/
def policyChanged (updates : RecordUpdates) : Bool :=
  updates.effectiveScopes.isSome || updates.status.isSome || updates.revokedAt.isSome
    || updates.policyHash.isSome

end RecordUpdates

/-- Write a new record to the three indexes. -/
def upsertRecord (store : CredentialStore) (record : InternalCredentialRecord) :
    CredentialStore :=
  { store with
    byId := store.byId.set record.credentialId record
    byToken := store.byToken.set record.token record.credentialId
    byOperator := store.byOperator.set record.operatorId
      (((store.byOperator.get record.operatorId).getD .empty).add record.credentialId)
    keyed := by
      intro credentialId r hGet
      rw [AssocMap.get_set] at hGet
      split at hGet
      · next h =>
        cases hGet
        exact h.symm
      · exact store.keyed _ _ hGet }

/-- Apply updates to a stored record. -/
def mutateRecord (store : CredentialStore) (credentialId : String) (updates : RecordUpdates) :
    CredentialStore × Except SignetError InternalCredentialRecord :=
  match hExisting : store.byId.get credentialId with
  | none =>
    (store, .error (InternalError.create
      ("Credential " ++ credentialId ++ " not found in store")))
  | some existing =>
    let updated := updates.applyTo existing
    ({ store with
        byId := store.byId.set credentialId updated
        notifications :=
          if updates.policyChanged then store.notifications ++ [.mutated credentialId]
          else store.notifications
        keyed := by
          intro key r hGet
          rw [AssocMap.get_set] at hGet
          split at hGet
          · next h =>
            cases hGet
            exact (store.keyed _ _ hExisting).trans h.symm
          · exact store.keyed _ _ hGet },
      .ok updated)

def getActiveForOperator (store : CredentialStore) (operatorId : String) :
    List InternalCredentialRecord :=
  match store.byOperator.get operatorId with
  | none => []
  | some ids => ids.items.filterMap fun id =>
    (store.byId.get id).filter (fun record => record.status = .active)

def cleanupRevealState (store : CredentialStore) (credentialId : String) : CredentialStore :=
  match store.revealStates.get credentialId with
  | none => store
  | some reveals =>
    { store with revealStates := store.revealStates.set credentialId (reveals.restore []) }

def revocation (now : Int) (reason : CredentialRevocationReason) : RecordUpdates where
  status := some .revoked
  revokedAt := some (some now)
  revocationReason := some (some reason)

/-- Mark a credential revoked and call `onCredentialRevoked`. -/
def revokeRecord (now : Int) (store : CredentialStore) (credentialId : String)
    (reason : CredentialRevocationReason) :
    CredentialStore × Except SignetError InternalCredentialRecord :=
  let result := mutateRecord (cleanupRevealState store credentialId) credentialId
    (revocation now reason)
  match result.2 with
  | .ok record =>
    ({ result.1 with notifications := result.1.notifications ++ [.revoked record] },
      .ok record)
  | .error error => (result.1, .error error)

def buildScopeSet (cfg : CredentialConfig) : ScopeSet where
  allow := cfg.allow.getD []
  deny := cfg.deny.getD []

structure IssueOptions where
  credentialId : Option String := none
  issuedBy : Option String := none

/-- The random values drawn for a new credential. -/
structure Drawn where
  /-- `generateCredentialId()` -/
  credentialId : String
  /-- `generateToken(config.tokenByteLength)` -/
  token : String

/-- The active credential issued first, ties going to the one indexed first. -/
def oldestActive (records : List InternalCredentialRecord) : Option InternalCredentialRecord :=
  (records.insertionSort (fun a b => a.issuedAt ≤ b.issuedAt)).head?

/-- Revoke the oldest active credential of an operator at its limit. -/
def evictOldest (config : CredentialManagerConfig) (now : Int) (store : CredentialStore)
    (operatorId : String) : CredentialStore × Except SignetError Unit :=
  let active := getActiveForOperator store operatorId
  if config.maxConcurrentPerOperator ≤ active.length then
    match oldestActive active with
    | none => (store, .ok ())
    | some oldest =>
      let revokeResult := revokeRecord now store oldest.credentialId .policyViolation
      (revokeResult.1, revokeResult.2.map fun _ => ())
  else (store, .ok ())

/-- The record of a new credential that expires at `expiresAt`. -/
def newRecord (env : HashEnv) (now expiresAt ttlMs : Int)
    (credentialConfig : CredentialConfig) (options : IssueOptions) (drawn : Drawn) :
    InternalCredentialRecord where
  credentialId := options.credentialId.getD drawn.credentialId
  token := drawn.token
  operatorId := credentialConfig.operatorId
  chatIds := credentialConfig.chatIds
  effectiveScopes := buildScopeSet credentialConfig
  resolvedScopes := resolveScopeSet (buildScopeSet credentialConfig)
  policyHash := computePolicyHash env (buildScopeSet credentialConfig) credentialConfig.chatIds
  status := .active
  heartbeatInterval := 30
  lastHeartbeat := now
  issuedAt := now
  expiresAt := expiresAt
  issuedBy := options.issuedBy.getD "owner"
  ttlMs := ttlMs
  revokedAt := none
  revocationReason := none

/-- Issue a new credential from configuration.  An active credential of the
operator with the same policy hash is handed out again. -/
def issueCredential (config : CredentialManagerConfig) (env : HashEnv) (now : Int)
    (store : CredentialStore) (credentialConfig : CredentialConfig) (options : IssueOptions)
    (drawn : Drawn) : CredentialStore × Except Failure InternalCredentialRecord :=
  let policyHash :=
    computePolicyHash env (buildScopeSet credentialConfig) credentialConfig.chatIds
  let eviction := evictOldest config now store credentialConfig.operatorId
  match eviction.2 with
  | .error error => (eviction.1, .error (.error error))
  | .ok () =>
    match (getActiveForOperator eviction.1 credentialConfig.operatorId).find?
        (fun c => c.policyHash = policyHash) with
    | some existing => (eviction.1, .ok existing)
    | none =>
      let ttlMs := (credentialConfig.ttlSeconds.getD config.defaultTtlSeconds) * 1000
      match toISOString (now + ttlMs) with
      | none => (eviction.1, .error .rangeError)
      | some expiresAt =>
        let record := newRecord env now expiresAt ttlMs credentialConfig options drawn
        (upsertRecord eviction.1 record, .ok record)

/-- Look up a credential by its bearer token.  A credential past its deadline is
marked expired on the way. -/
def getCredentialByToken (now : Int) (store : CredentialStore) (token : String) :
    CredentialStore × Except SignetError InternalCredentialRecord :=
  match store.byToken.get token with
  | none => (store, .error (NotFoundError.create "credential" token))
  | some credentialId =>
    -- an empty id is falsy
    if credentialId = "" then (store, .error (NotFoundError.create "credential" token))
    else match store.byId.get credentialId with
      | none => (store, .error (NotFoundError.create "credential" token))
      | some record =>
        if record.expiresAt ≤ now then
          ((mutateRecord store credentialId { status := some .expired }).1,
            .error (CredentialExpiredError.create credentialId))
        else if record.status ≠ .active then
          (store, .error (CredentialExpiredError.create credentialId))
        else (store, .ok record)

def getCredentialById (store : CredentialStore) (credentialId : String) :
    Except SignetError InternalCredentialRecord :=
  match store.byId.get credentialId with
  | none => .error (NotFoundError.create "credential" credentialId)
  | some record => .ok record

def listCredentials (store : CredentialStore) (operatorId : Option String) :
    List InternalCredentialRecord :=
  match operatorId with
  | some operatorId => getActiveForOperator store operatorId
  | none => store.byId.values.filter (fun record => record.status = .active)

/-- A mutation whose failure is reported as a missing credential. -/
def mutateOrNotFound (store : CredentialStore) (credentialId : String)
    (updates : RecordUpdates) :
    CredentialStore × Except SignetError InternalCredentialRecord :=
  let result := mutateRecord store credentialId updates
  (result.1, result.2.mapError fun _ => NotFoundError.create "credential" credentialId)

def recordHeartbeat (now : Int) (store : CredentialStore) (credentialId : String) :
    CredentialStore × Except SignetError Unit :=
  match store.byId.get credentialId with
  | none => (store, .error (NotFoundError.create "credential" credentialId))
  | some record =>
    if record.status ≠ .active then
      (store, .error (CredentialExpiredError.create credentialId))
    else
      let heartbeatResult :=
        mutateOrNotFound store credentialId { lastHeartbeat := some now }
      (heartbeatResult.1, heartbeatResult.2.map fun _ => ())

def renewCredential (config : CredentialManagerConfig) (now : Int) (store : CredentialStore)
    (credentialId : String) : CredentialStore × Except Failure InternalCredentialRecord :=
  match store.byId.get credentialId with
  | none => (store, .error (.error (NotFoundError.create "credential" credentialId)))
  | some record =>
    if record.status ≠ .active then
      (store, .error (.error (CredentialExpiredError.create credentialId)))
    else
      let remainingMs := record.expiresAt - now
      if config.renewalWindowSeconds * 1000 < remainingMs then
        (store, .error (.error (AuthError.create "Not in renewal window"
          (some [("credentialId", .text credentialId),
            ("remainingSeconds", .seconds remainingMs),
            ("renewalWindowSeconds", .number config.renewalWindowSeconds)]))))
      else match toISOString (now + record.ttlMs) with
        | none => (store, .error .rangeError)
        | some newExpiresAt =>
          let renewResult :=
            mutateOrNotFound store credentialId { expiresAt := some newExpiresAt }
          (renewResult.1, renewResult.2.mapError Failure.error)

def updateCredentialScopes (env : HashEnv) (store : CredentialStore) (credentialId : String)
    (scopes : ScopeSet) : CredentialStore × Except SignetError InternalCredentialRecord :=
  match store.byId.get credentialId with
  | none => (store, .error (NotFoundError.create "credential" credentialId))
  | some record =>
    if record.status ≠ .active then
      (store, .error (CredentialExpiredError.create credentialId))
    else mutateOrNotFound store credentialId
      { effectiveScopes := some scopes
        resolvedScopes := some (resolveScopeSet scopes)
        policyHash := some (computePolicyHash env scopes record.chatIds) }

def revokeCredential (now : Int) (store : CredentialStore) (credentialId : String)
    (reason : CredentialRevocationReason) :
    CredentialStore × Except SignetError InternalCredentialRecord :=
  match store.byId.get credentialId with
  | none => (store, .error (NotFoundError.create "credential" credentialId))
  | some _ =>
    let revokeResult := revokeRecord now store credentialId reason
    (revokeResult.1,
      revokeResult.2.mapError fun _ => NotFoundError.create "credential" credentialId)

/-- Run an operation on one credential and keep the record it returns. -/
def collect (state : CredentialStore × List InternalCredentialRecord)
    (run : CredentialStore → CredentialStore × Except SignetError InternalCredentialRecord) :
    CredentialStore × List InternalCredentialRecord :=
  let result := run state.1
  match result.2 with
  | .ok record => (result.1, state.2 ++ [record])
  | .error _ => (result.1, state.2)

def revokeAllCredentials (now : Int) (store : CredentialStore) (operatorId : String)
    (reason : CredentialRevocationReason) :
    CredentialStore × List InternalCredentialRecord :=
  (getActiveForOperator store operatorId).foldl
    (fun state cred => collect state fun s => revokeRecord now s cred.credentialId reason)
    (store, [])

def getRevealState (store : CredentialStore) (credentialId : String) :
    CredentialStore × Except SignetError RevealStateStore :=
  match store.byId.get credentialId with
  | none => (store, .error (NotFoundError.create "credential" credentialId))
  | some _ =>
    match store.revealStates.get credentialId with
    | some reveals => (store, .ok reveals)
    | none =>
      ({ store with
          revealStates := store.revealStates.set credentialId createRevealStateStore },
        .ok createRevealStateStore)

def recordReveal (store : CredentialStore) (credentialId : String) (access : RevealAccess)
    (request : RevealRequest) : CredentialStore :=
  let reveals := (store.revealStates.get credentialId).getD createRevealStateStore
  { store with revealStates := store.revealStates.set credentialId (reveals.record access request) }

def setCredentialStatus (store : CredentialStore) (credentialId : String)
    (status : CredentialStatus) :
    CredentialStore × Except SignetError InternalCredentialRecord :=
  match store.byId.get credentialId with
  | none => (store, .error (NotFoundError.create "credential" credentialId))
  | some _ => mutateOrNotFound store credentialId { status := some status }

def checkStoredMateriality (store : CredentialStore) (credentialId : String)
    (newScopes : ScopeSet) : Except SignetError DetailedMaterialityCheck :=
  match store.byId.get credentialId with
  | none => .error (NotFoundError.create "credential" credentialId)
  | some record => .ok (checkMateriality record.effectiveScopes newScopes)

/-- The time from which a credential without a new heartbeat counts as stale. -/
def heartbeatDeadline (config : CredentialManagerConfig) (record : InternalCredentialRecord) :
    Int :=
  record.lastHeartbeat + record.heartbeatInterval * 1000 + config.heartbeatGracePeriod * 1000

/-- Check if a credential's heartbeat has exceeded interval and grace period. -/
def isHeartbeatStale (config : CredentialManagerConfig) (now : Int) (store : CredentialStore)
    (credentialId : String) : Except SignetError Bool :=
  match store.byId.get credentialId with
  | none => .error (NotFoundError.create "credential" credentialId)
  | some record =>
    if record.status ≠ .active then .ok false
    else .ok (decide (heartbeatDeadline config record ≤ now))

def sweepRecord (config : CredentialManagerConfig) (now : Int)
    (state : CredentialStore × List InternalCredentialRecord)
    (record : InternalCredentialRecord) : CredentialStore × List InternalCredentialRecord :=
  if record.status ≠ .active then state
  else if record.expiresAt ≤ now then
    collect state fun s =>
      mutateRecord (cleanupRevealState s record.credentialId) record.credentialId
        { status := some .expired }
  else if heartbeatDeadline config record ≤ now then
    collect state fun s => revokeRecord now s record.credentialId .heartbeatTimeout
  else state

/-- Sweep expired and heartbeat-timed-out credentials. -/
def sweepExpired (config : CredentialManagerConfig) (now : Int) (store : CredentialStore) :
    CredentialStore × List InternalCredentialRecord :=
  store.byId.values.foldl (sweepRecord config now) (store, [])

/-! ## The manager as a machine -/

/-- An operation of the manager. -/
inductive CredentialOp where
  | issueCredential (credentialConfig : CredentialConfig) (options : IssueOptions)
      (drawn : Drawn)
  | getCredentialByToken (token : String)
  | lookupByToken (token : String)
  | getCredentialById (credentialId : String)
  | getActiveCredentials (operatorId : String)
  | listCredentials (operatorId : Option String)
  | recordHeartbeat (credentialId : String)
  | renewCredential (credentialId : String)
  | updateCredentialScopes (credentialId : String) (scopes : ScopeSet)
  | revokeCredential (credentialId : String) (reason : CredentialRevocationReason)
  | revokeAllCredentials (operatorId : String) (reason : CredentialRevocationReason)
  | checkMateriality (credentialId : String) (newScopes : ScopeSet)
  | getRevealState (credentialId : String)
  | setCredentialStatus (credentialId : String) (status : CredentialStatus)
  | sweepExpired
  | isHeartbeatStale (credentialId : String)

/-- What an operation returned. -/
inductive CredentialOutcome where
  | issued (result : Except Failure InternalCredentialRecord)
  | record (result : Except SignetError InternalCredentialRecord)
  | records (credentials : List InternalCredentialRecord)
  | done (result : Except SignetError Unit)
  | materiality (result : Except SignetError DetailedMaterialityCheck)
  | revealState (result : Except SignetError RevealStateStore)
  | stale (result : Except SignetError Bool)

/-- An operation called when the clock reads `now`. -/
structure CredentialCall where
  now : Int
  op : CredentialOp

def runOp (config : CredentialManagerConfig) (env : HashEnv) (store : CredentialStore)
    (call : CredentialCall) : CredentialStore × CredentialOutcome :=
  match call.op with
  | .issueCredential credentialConfig options drawn =>
    let result := issueCredential config env call.now store credentialConfig options drawn
    (result.1, .issued result.2)
  | .getCredentialByToken token | .lookupByToken token =>
    let result := getCredentialByToken call.now store token
    (result.1, .record result.2)
  | .getCredentialById credentialId => (store, .record (getCredentialById store credentialId))
  | .getActiveCredentials operatorId =>
    (store, .records (getActiveForOperator store operatorId))
  | .listCredentials operatorId => (store, .records (listCredentials store operatorId))
  | .recordHeartbeat credentialId =>
    let result := recordHeartbeat call.now store credentialId
    (result.1, .done result.2)
  | .renewCredential credentialId =>
    let result := renewCredential config call.now store credentialId
    (result.1, .issued result.2)
  | .updateCredentialScopes credentialId scopes =>
    let result := updateCredentialScopes env store credentialId scopes
    (result.1, .record result.2)
  | .revokeCredential credentialId reason =>
    let result := revokeCredential call.now store credentialId reason
    (result.1, .record result.2)
  | .revokeAllCredentials operatorId reason =>
    let result := revokeAllCredentials call.now store operatorId reason
    (result.1, .records result.2)
  | .checkMateriality credentialId newScopes =>
    (store, .materiality (checkStoredMateriality store credentialId newScopes))
  | .getRevealState credentialId =>
    let result := getRevealState store credentialId
    (result.1, .revealState result.2)
  | .setCredentialStatus credentialId status =>
    let result := setCredentialStatus store credentialId status
    (result.1, .record result.2)
  | .sweepExpired =>
    let result := sweepExpired config call.now store
    (result.1, .records result.2)
  | .isHeartbeatStale credentialId =>
    (store, .stale (isHeartbeatStale config call.now store credentialId))

/-- The manager under any sequence of operations, each at any clock reading. -/
def credentialMachine (config : CredentialManagerConfig) (env : HashEnv) :
    Machine CredentialStore CredentialCall CredentialOutcome where
  init := .empty
  step store call :=
    let result := runOp config env store call
    some (result.1, [result.2])

end Sessions
end Signet
