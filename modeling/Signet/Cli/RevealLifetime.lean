import Signet.Cli.RevealReplay
import Signet.Cli.ScopeNarrowing
import Signet.Sessions.ConcurrencyCap

/-!
# Reveals and the life of their credential

A revocation and a sweep empty the reveal state of the credential they take out
of the active state.  A token lookup past the deadline and a direct change of
status do not, and a reveal request records for whatever credential is stored
under the id by then.

* `Silent` — no message is revealed to the credential, at any time.
* `Settles` — no reveal is added, and a credential that leaves the active state
  loses its reveals, the named ones apart.
* `EndsReveals` — a step lets no reveal outlive the active state.
* `reveals_die_with_credential` — in a run of such steps a credential that is not
  active has no reveals, and one that becomes active starts without.
-/

namespace Signet
namespace Cli

open Kit Machine Schemas Policy Sessions

/-! ## Stores -/

def revealState (store : CredentialStore) (credentialId : String) : RevealStateStore :=
  (store.revealStates.get credentialId).getD createRevealStateStore

/-- No reveal is added, and a credential that leaves the active state loses its
reveals, unless it is named. -/
structure Settles (named : String → Prop) (s t : CredentialStore) : Prop where
  fewer : ∀ id, ∀ entry ∈ revealsOf t id, entry ∈ revealsOf s id
  cleared : ∀ id, IsActive s id → IsActive t id ∨ revealsOf t id = [] ∨ named id

namespace Settles

variable {named : String → Prop} {s t u : CredentialStore}

theorem refl (s : CredentialStore) : Settles named s s :=
  ⟨fun _ _ hEntry => hEntry, fun _ hActive => Or.inl hActive⟩

theorem trans (hst : Settles named s t) (htu : Settles named t u) : Settles named s u := by
  refine ⟨fun id entry hEntry => hst.fewer id entry (htu.fewer id entry hEntry), ?_⟩
  intro id hActive
  rcases hst.cleared id hActive with hStill | hEmpty | hNamed
  · exact htu.cleared id hStill
  · -- an emptied reveal state stays empty
    refine Or.inr (Or.inl (List.eq_nil_iff_forall_not_mem.mpr ?_))
    intro entry hEntry
    have hOld := htu.fewer id entry hEntry
    rw [hEmpty] at hOld
    cases hOld
  · exact Or.inr (Or.inr hNamed)

theorem mono {named' : String → Prop} (h : Settles named s t)
    (hNamed : ∀ id, named id → named' id) : Settles named' s t :=
  ⟨h.fewer, fun id hActive => (h.cleared id hActive).imp_right (Or.imp_right (hNamed id))⟩

/-- Records and reveals are the same. -/
theorem of_eq (hById : t.byId = s.byId) (hReveals : ∀ id, revealsOf t id = revealsOf s id) :
    Settles named s t := by
  constructor
  · intro id entry hEntry
    rw [hReveals id] at hEntry
    exact hEntry
  · intro id hActive
    unfold IsActive at hActive ⊢
    rw [hById]
    exact Or.inl hActive

/-- A loop whose turns settle. -/
theorem foldl {β : Type*} (turn : CredentialStore × List InternalCredentialRecord → β →
      CredentialStore × List InternalCredentialRecord)
    (hTurn : ∀ state b, Settles named state.1 (turn state b).1) (bs : List β)
    (state : CredentialStore × List InternalCredentialRecord) :
    Settles named state.1 (bs.foldl turn state).1 := by
  induction bs generalizing state with
  | nil => exact refl state.1
  | cons b bs ih => exact (hTurn state b).trans (ih (turn state b))

end Settles

/-! ## The writers -/

variable {named : String → Prop}

section

variable (store : CredentialStore) (credentialId id : String)

@[simp]
theorem revealsOf_mutateRecord (updates : RecordUpdates) :
    revealsOf (mutateRecord store credentialId updates).1 id = revealsOf store id := by
  unfold mutateRecord
  split <;> rfl

theorem revealsOf_cleanupRevealState :
    revealsOf (cleanupRevealState store credentialId) id =
      if id = credentialId then [] else revealsOf store id := by
  unfold cleanupRevealState revealsOf
  split
  · next hNone =>
    split
    · next hId =>
      subst hId
      rw [hNone]
      rfl
    · rfl
  · simp only [AssocMap.get_set]
    split <;> rfl

end

variable {out : List Observation} {id : String} {label : SystemLabel} {s' : SystemState}

/-- The other credentials stay as they are. -/
theorem isActive_mutateRecord_of_ne {store : CredentialStore} {credentialId : String}
    (updates : RecordUpdates) (hNe : id ≠ credentialId) (hActive : IsActive store id) :
    IsActive (mutateRecord store credentialId updates).1 id := by
  unfold IsActive at hActive ⊢
  rw [mutateRecord_get, if_neg hNe]
  exact hActive

section

variable (store : CredentialStore) (credentialId : String)

theorem settles_mutateRecord {updates : RecordUpdates} (hStatus : updates.status = none) :
    Settles named store (mutateRecord store credentialId updates).1 := by
  refine ⟨fun id entry hEntry => by simpa using hEntry, ?_⟩
  intro id hActive
  refine Or.inl ?_
  by_cases hId : id = credentialId
  · subst hId
    obtain ⟨r, hGet, hStored⟩ := hActive
    refine ⟨updates.applyTo r, by simp [hGet], ?_⟩
    simp [RecordUpdates.applyTo, hStatus, hStored]
  · exact isActive_mutateRecord_of_ne updates hId hActive

theorem settles_mutateRecord_named (updates : RecordUpdates) (hNamed : named credentialId) :
    Settles named store (mutateRecord store credentialId updates).1 := by
  refine ⟨fun id entry hEntry => by simpa using hEntry, ?_⟩
  intro id hActive
  by_cases hId : id = credentialId
  · subst hId
    exact Or.inr (Or.inr hNamed)
  · exact Or.inl (isActive_mutateRecord_of_ne updates hId hActive)

theorem settles_cleanup_mutate (updates : RecordUpdates) :
    Settles named store
      (mutateRecord (cleanupRevealState store credentialId) credentialId updates).1 := by
  constructor
  · intro id entry hEntry
    rw [revealsOf_mutateRecord, revealsOf_cleanupRevealState] at hEntry
    split at hEntry
    · cases hEntry
    · exact hEntry
  · intro id hActive
    by_cases hId : id = credentialId
    · subst hId
      refine Or.inr (Or.inl ?_)
      rw [revealsOf_mutateRecord, revealsOf_cleanupRevealState, if_pos rfl]
    · have hBefore : IsActive (cleanupRevealState store credentialId) id := by
        unfold IsActive at hActive ⊢
        rw [cleanupRevealState_byId]
        exact hActive
      exact Or.inl (isActive_mutateRecord_of_ne updates hId hBefore)

end

theorem settles_revokeRecord (now : Int) (store : CredentialStore) (credentialId : String)
    (reason : CredentialRevocationReason) :
    Settles named store (revokeRecord now store credentialId reason).1 := by
  have hMutate : Settles named store (mutateRecord (cleanupRevealState store credentialId)
      credentialId (revocation now reason)).1 := settles_cleanup_mutate store credentialId _
  unfold revokeRecord
  simp only
  split
  · exact hMutate.trans (.of_eq rfl fun _ => rfl)
  · exact hMutate

theorem settles_upsertRecord (store : CredentialStore) {record : InternalCredentialRecord}
    (hActive : record.status = .active) : Settles named store (upsertRecord store record) := by
  refine ⟨fun _ _ hEntry => hEntry, ?_⟩
  rintro id ⟨r, hGet, hStored⟩
  refine Or.inl ?_
  unfold IsActive
  rw [upsertRecord_get]
  split
  · exact ⟨record, rfl, hActive⟩
  · exact ⟨r, hGet, hStored⟩

/-! ## The operations of the manager -/

theorem settles_issueCredential (config : CredentialManagerConfig) (env : HashEnv) (now : Int)
    (store : CredentialStore) (credentialConfig : CredentialConfig) (options : IssueOptions)
    (drawn : Drawn) :
    Settles named store
      (issueCredential config env now store credentialConfig options drawn).1 := by
  have hEvict : Settles named store
      (evictOldest config now store credentialConfig.operatorId).1 := by
    unfold evictOldest
    simp only
    split
    · split
      · exact .refl store
      · exact settles_revokeRecord now store _ _
    · exact .refl store
  rcases issueCredential_cases config env now store credentialConfig options drawn with
    ⟨_, _, hEq⟩ | hEq | ⟨expiresAt, ttlMs, hFst, -⟩
  · rw [hEq]
    exact hEvict
  · rw [hEq]
    exact hEvict
  · rw [hFst]
    exact hEvict.trans (settles_upsertRecord _ rfl)

theorem settles_sweepExpired (config : CredentialManagerConfig) (now : Int)
    (store : CredentialStore) : Settles named store (sweepExpired config now store).1 := by
  refine Settles.foldl _ ?_ _ (store, [])
  intro state record
  unfold sweepRecord
  split
  · exact .refl state.1
  · split
    · rw [collect_fst]
      exact settles_cleanup_mutate state.1 _ _
    · split
      · rw [collect_fst]
        exact settles_revokeRecord now state.1 _ _
      · exact .refl state.1

section

variable (now : Int) (store : CredentialStore)

theorem settles_revokeAllCredentials (operatorId : String) (reason : CredentialRevocationReason) :
    Settles named store (revokeAllCredentials now store operatorId reason).1 := by
  refine Settles.foldl _ ?_ _ (store, [])
  intro state cred
  rw [collect_fst]
  exact settles_revokeRecord now state.1 _ reason

theorem settles_revokeCredential (credentialId : String) (reason : CredentialRevocationReason) :
    Settles named store (revokeCredential now store credentialId reason).1 := by
  unfold revokeCredential
  split
  · exact .refl store
  · exact settles_revokeRecord now store _ reason

theorem settles_recordHeartbeat (credentialId : String) :
    Settles named store (recordHeartbeat now store credentialId).1 := by
  unfold recordHeartbeat
  split
  · exact .refl store
  · split
    · exact .refl store
    · exact settles_mutateRecord store credentialId rfl

end

theorem settles_renewCredential (config : CredentialManagerConfig) (now : Int)
    (store : CredentialStore) (credentialId : String) :
    Settles named store (renewCredential config now store credentialId).1 := by
  unfold renewCredential
  split
  · exact .refl store
  · split
    · exact .refl store
    · simp only
      split
      · exact .refl store
      · split
        · exact .refl store
        · exact settles_mutateRecord store credentialId rfl

theorem settles_updateCredentialScopes (env : HashEnv) (store : CredentialStore)
    (credentialId : String) (scopes : ScopeSet) :
    Settles named store (updateCredentialScopes env store credentialId scopes).1 := by
  unfold updateCredentialScopes
  split
  · exact .refl store
  · split
    · exact .refl store
    · exact settles_mutateRecord store credentialId rfl

theorem revealsOf_getRevealState (store : CredentialStore) (credentialId id : String) :
    revealsOf (getRevealState store credentialId).1 id = revealsOf store id := by
  unfold getRevealState
  split
  · rfl
  · split
    · rfl
    · next hNone =>
      unfold revealsOf
      simp only [AssocMap.get_set]
      split
      · next hId =>
        subst hId
        rw [hNone]
        rfl
      · rfl

theorem settles_setCredentialStatus (store : CredentialStore) (credentialId : String)
    (status : CredentialStatus) (hNamed : status ≠ .active → named credentialId) :
    Settles named store (setCredentialStatus store credentialId status).1 := by
  unfold setCredentialStatus
  split
  · exact .refl store
  · next existing hExisting =>
    rw [mutateOrNotFound_fst]
    by_cases hActive : status = .active
    · subst hActive
      refine ⟨fun id entry hEntry => by simpa using hEntry, ?_⟩
      intro id hWas
      refine Or.inl ?_
      by_cases hId : id = credentialId
      · subst hId
        exact ⟨_, by rw [mutateRecord_get, if_pos rfl, hExisting]; rfl, rfl⟩
      · exact isActive_mutateRecord_of_ne _ hId hWas
    · exact settles_mutateRecord_named store credentialId _ (hNamed hActive)

/-- The token leads to the credential, and its deadline has passed. -/
def FindsPastDeadline (now : Int) (store : CredentialStore) (token id : String) : Prop :=
  store.byToken.get token = some id ∧ id ≠ "" ∧
    ∃ r, store.byId.get id = some r ∧ r.expiresAt ≤ now

theorem settles_getCredentialByToken (now : Int) (store : CredentialStore) (token : String)
    (hNamed : ∀ id, FindsPastDeadline now store token id → named id) :
    Settles named store (getCredentialByToken now store token).1 := by
  unfold getCredentialByToken
  split
  · exact .refl store
  · next credentialId hToken =>
    split
    · exact .refl store
    · next hNonempty =>
      split
      · exact .refl store
      · next record hGet =>
        split
        · next hDeadline =>
          exact settles_mutateRecord_named store credentialId _
            (hNamed credentialId ⟨hToken, hNonempty, record, hGet, hDeadline⟩)
        · split <;> exact .refl store

/-- The credentials that an operation of the manager takes out of the active
state, or finds out of it, without emptying their reveal states. -/
def OpLeavesReveals (now : Int) (store : CredentialStore) (id : String) : CredentialOp → Prop
  | .getCredentialByToken token | .lookupByToken token => FindsPastDeadline now store token id
  | .setCredentialStatus credentialId status => credentialId = id ∧ status ≠ .active
  | _ => False

theorem settles_runOp (config : CredentialManagerConfig) (env : HashEnv) (now : Int)
    (store : CredentialStore) (op : CredentialOp) :
    Settles (fun id => OpLeavesReveals now store id op) store
      (runOp config env store ⟨now, op⟩).1 := by
  cases op with
  | issueCredential credentialConfig options drawn =>
    exact settles_issueCredential config env now store credentialConfig options drawn
  | getCredentialByToken token =>
    exact settles_getCredentialByToken now store token fun _ hFinds => hFinds
  | lookupByToken token =>
    exact settles_getCredentialByToken now store token fun _ hFinds => hFinds
  | recordHeartbeat credentialId => exact settles_recordHeartbeat now store credentialId
  | renewCredential credentialId => exact settles_renewCredential config now store credentialId
  | updateCredentialScopes credentialId scopes =>
    exact settles_updateCredentialScopes env store credentialId scopes
  | revokeCredential credentialId reason =>
    exact settles_revokeCredential now store credentialId reason
  | revokeAllCredentials operatorId reason =>
    exact settles_revokeAllCredentials now store operatorId reason
  | getRevealState credentialId =>
    exact .of_eq (getRevealState_byId store credentialId)
      (revealsOf_getRevealState store credentialId)
  | setCredentialStatus credentialId status =>
    exact settles_setCredentialStatus store credentialId status fun hNot => ⟨rfl, hNot⟩
  | sweepExpired => exact settles_sweepExpired config now store
  | getCredentialById _ | getActiveCredentials _ | listCredentials _ | checkMateriality _ _
  | isHeartbeatStale _ => exact .refl store

/-! ## The entry points -/

section

variable (env : HashEnv) (now : Int) (store : CredentialStore)

variable (credentialId : String)

theorem settles_applyScopes (scopes : ScopeSet) :
    Settles named store (Service.applyScopes env now store credentialId scopes).1 := by
  unfold Service.applyScopes
  split
  · exact .refl store
  · split
    · exact settles_revokeCredential now store credentialId _
    · exact settles_updateCredentialScopes env store credentialId scopes

theorem settles_beginUpdate (changes : Service.ConfigChanges) :
    Settles named store (Service.beginUpdate env now store credentialId changes).1 := by
  unfold Service.beginUpdate
  split
  · exact .refl store
  · split
    · exact .refl store
    · split
      · exact .refl store
      · split
        · exact .refl store
        · exact settles_applyScopes env now store credentialId _

theorem settles_finishUpdate (changes : Service.ConfigChanges)
    (lookup : Option (Except SignetError PolicyConfig)) :
    Settles named store (Service.finishUpdate env now store credentialId changes lookup).1 := by
  unfold Service.finishUpdate
  split
  · exact .refl store
  · exact settles_applyScopes env now store credentialId _

theorem settles_finishUpdateScopes (scopes : ScopeSet)
    (result : Except SignetError CredentialRecord) :
    Settles named store
      (UpdateAction.finishUpdateScopes env now store credentialId scopes result).1 := by
  unfold UpdateAction.finishUpdateScopes
  split
  · exact .refl store
  · split
    · exact .refl store
    · split
      · exact .refl store
      · split
        · exact settles_revokeCredential now store credentialId _
        · exact settles_updateCredentialScopes env store credentialId scopes

end

variable (deps : HandlerDeps) {s : SystemState}

theorem settles_resume (now : Int) (state : HandlerState) (stage : HandlerStage)
    (answer : Answer) {segment : Segment} (h : resume deps now state stage answer = some segment) :
    Settles named state.store segment.1.store := by
  unfold resume at h
  split at h
  · split at h
    · cases h
      exact .refl _
    · cases h
      exact settles_sweepExpired deps.config now state.store
  · split at h
    · cases h
      exact .refl _
    · split at h <;> cases h <;> exact .refl _
  · split at h
    · cases h
      exact .refl _
    · split at h <;> cases h <;> exact .refl _
  · split at h <;> cases h <;> exact .refl _
  · split at h <;> cases h <;> exact .refl _
  · split at h <;> cases h <;> exact .refl _
  · cases h
    exact .refl _
  · cases h
    exact .refl _
  · cases h

/-- The scopes an `update_scopes` request asks for. -/
def requestedScopes (allow deny : Option (List PermissionScope))
    (credential : CredentialRecord) : ScopeSet where
  allow := allow.getD credential.effectiveScopes.allow
  deny := deny.getD credential.effectiveScopes.deny

/-- The request escalates the stored scopes, and so sends its credential back to
`pending`. -/
def Suspends (store : CredentialStore) (request : HarnessRequest)
    (credential : CredentialRecord) : Prop :=
  deps.hasInternalManager = true ∧ ∃ allow deny check, request.body = .updateScopes allow deny ∧
    checkStoredMateriality store credential.credentialId
      (requestedScopes allow deny credential) = .ok check ∧ check.requiresReauthorization = true

def Records (now : Int) (store : CredentialStore) (request : HarnessRequest)
    (credential : CredentialRecord) (entry : RevealEntry) : Prop :=
  deps.hasInternalManager = true ∧ ∃ reveal, request.body = .revealContent reveal ∧
    (store.byId.get credential.credentialId).isSome = true ∧
    entry = ⟨grantedAccess now reveal, reveal⟩

/-- One reveal is recorded for the credential, and nothing else happens. -/
structure Recorded (s t : CredentialStore) (credentialId : String) (entry : RevealEntry) :
    Prop where
  byId : t.byId = s.byId
  reveals : ∀ id, revealsOf t id =
    if id = credentialId then revealsOf s id ++ [entry] else revealsOf s id

theorem revealsOf_recordReveal (store : CredentialStore) (credentialId id : String)
    (access : RevealAccess) (request : RevealRequest) :
    revealsOf (recordReveal store credentialId access request) id =
      if id = credentialId then revealsOf store id ++ [⟨access, request⟩]
      else revealsOf store id := by
  unfold recordReveal revealsOf
  simp only [AssocMap.get_set]
  split
  · next hId =>
    subst hId
    rfl
  · rfl

theorem handleRevealContent_store (now : Int) (state : HandlerState) (reveal : RevealRequest)
    (credential : CredentialRecord) :
    let store' := (handleRevealContent deps now state reveal credential).1.store
    Settles named state.store store' ∨
      (deps.hasInternalManager = true ∧
        (state.store.byId.get credential.credentialId).isSome = true ∧
        Recorded state.store store' credential.credentialId
          ⟨grantedAccess now reveal, reveal⟩) := by
  intro store'
  have hById := getRevealState_byId state.store credential.credentialId
  have hReveals := revealsOf_getRevealState state.store credential.credentialId
  have hRecorded : Recorded state.store
      (recordReveal (getRevealState state.store credential.credentialId).1
        credential.credentialId (grantedAccess now reveal) reveal)
      credential.credentialId ⟨grantedAccess now reveal, reveal⟩ := by
    refine ⟨hById, ?_⟩
    intro id
    rw [revealsOf_recordReveal, hReveals]
  simp only [store', handleRevealContent]
  split
  · exact Or.inl (.refl _)
  · next hManager =>
    split
    · exact Or.inl (.of_eq hById hReveals)
    · next reveals hOpened =>
      refine Or.inr ⟨by simpa using hManager, ?_, ?_⟩
      · unfold getRevealState at hOpened
        split at hOpened
        · cases hOpened
        · next hStored => rw [hStored]; rfl
      · split <;> exact hRecorded

/-- What the handler does to records and reveals up to its first await. -/
theorem settles_handleRequest (now : Int) (state : HandlerState) (request : HarnessRequest)
    (credential : CredentialRecord) :
    let store' := (handleRequest deps now state request credential).1.store
    Settles (fun id => credential.credentialId = id ∧
        rejectsStale deps now state request credential = false ∧
        Suspends deps state.store request credential) state.store store' ∨
      (rejectsStale deps now state request credential = false ∧
        ∃ entry, Records deps now state.store request credential entry ∧
          Recorded state.store store' credential.credentialId entry) := by
  intro store'
  simp only [store', handleRequest]
  split
  · exact Or.inl (.refl _)
  · next hFresh =>
    rw [Bool.not_eq_true] at hFresh
    split
    · refine Or.inl ?_
      unfold handleSendMessage
      split <;> exact .refl _
    · refine Or.inl ?_
      unfold handleHeartbeat
      split
      · exact .refl _
      · split
        · exact .refl _
        · exact settles_recordHeartbeat now state.store _
    · next reveal hBody =>
      rcases handleRevealContent_store deps now state reveal credential with
        hSettles | ⟨hManager, hStored, hRecorded⟩
      · exact Or.inl hSettles
      · exact Or.inr ⟨hFresh, _, ⟨hManager, reveal, hBody, hStored, rfl⟩, hRecorded⟩
    · next allow deny hBody =>
      refine Or.inl ?_
      unfold handleUpdateScopes
      split
      · exact .refl _
      · next hManager =>
        simp only
        split
        · exact .refl _
        · next check hCheck =>
          split
          · next hRequires =>
            refine settles_setCredentialStatus _ _ _ fun _ => ⟨rfl, hFresh, ?_⟩
            exact ⟨by simpa using hManager, allow, deny, check, hBody, hCheck, hRequires⟩
          · exact settles_updateCredentialScopes deps.hash _ _ _
    · rw [handleConfirmAction_store]
      exact Or.inl (.refl _)
    · exact Or.inl (.refl _)
    · exact Or.inl (.refl _)

/-! ## One step -/

/-- The step runs the handler on the request, for the credential of its lookup. -/
def Dispatches (s : SystemState) (label : SystemLabel) (request : HarnessRequest)
    (credential : CredentialRecord) : Prop :=
  ∃ call, label.event = .dispatch call ∧
    s.calls.get call = some (.looked request (.ok credential)) ∧ credential.status = .active ∧
    rejectsStale deps label.now s.handler request credential = false

/-- The credentials that a step takes out of the active state, or finds out of
it, without emptying their reveal states. -/
def LeavesReveals (s : SystemState) (label : SystemLabel) (id : String) : Prop :=
  (∃ op, label.event = .manager op ∧ OpLeavesReveals label.now s.store id op) ∨
    ∃ request credential, Dispatches deps s label request credential ∧
      Suspends deps s.store request credential ∧ credential.credentialId = id

theorem systemStep_reveals (hStep : systemStep deps s label = some (s', out)) :
    Settles (LeavesReveals deps s label) s.store s'.store ∨
      ∃ request credential entry, Dispatches deps s label request credential ∧
        Records deps label.now s.store request credential entry ∧
        Recorded s.store s'.store credential.credentialId entry := by
  obtain ⟨now, event⟩ := label
  cases systemStep_move deps hStep with
  | @manager op hOp =>
    exact Or.inl ((settles_runOp deps.config deps.hash now s.store op).mono
      fun id hLeaves => Or.inl ⟨op, rfl, hLeaves⟩)
  | queueAction => exact Or.inl (.refl _)
  | request hFree => exact Or.inl (settles_sweepExpired deps.config now s.store)
  | closed hCall => exact Or.inl (.refl _)
  | @dispatched call request credential hCall hActive =>
    rw [settle_store]
    rcases settles_handleRequest deps now s.handler request credential with
      hSettles | ⟨hFresh, entry, hRecords, hRecorded⟩
    · refine Or.inl (hSettles.mono ?_)
      rintro id ⟨hId, hFresh, hSuspends⟩
      exact Or.inr ⟨request, credential, ⟨call, rfl, hCall, hActive, hFresh⟩, hSuspends, hId⟩
    · exact Or.inr ⟨request, credential, entry, ⟨call, rfl, hCall, hActive, hFresh⟩, hRecords,
        hRecorded⟩
  | answered hCall hResume =>
    rw [settle_store]
    exact Or.inl (settles_resume deps now s.handler _ _ hResume)
  | updateRefused => exact Or.inl (settles_beginUpdate deps.hash now s.store _ _)
  | updateBegun hFree => exact Or.inl (settles_beginUpdate deps.hash now s.store _ _)
  | updateFinished hCall => exact Or.inl (settles_finishUpdate deps.hash now s.store _ _ _)
  | scopesLooked hFree => exact Or.inl (settles_sweepExpired deps.config now s.store)
  | scopesUpdated hCall => exact Or.inl (settles_finishUpdateScopes deps.hash now s.store _ _ _)

/-! ## Runs -/

/-- The entry reveals no message at any time. -/
def Mute (entry : RevealEntry) : Prop :=
  ∀ now messageId groupId threadId senderInboxId contentType sentAt,
    ¬ RevealStateStore.Reveals deps.parseDate now messageId groupId threadId senderInboxId
      contentType sentAt entry

/-- No message is revealed to the credential, at any time. -/
def Silent (store : CredentialStore) (credentialId : String) : Prop :=
  ∀ now messageId groupId threadId senderInboxId contentType sentAt,
    (revealState store credentialId).isRevealed deps.parseDate now messageId groupId threadId
      senderInboxId contentType sentAt = false

theorem silent_iff {store : CredentialStore} {credentialId : String} :
    Silent deps store credentialId ↔
      ∀ entry ∈ revealsOf store credentialId, Mute deps entry := by
  constructor
  · intro h entry hEntry now messageId groupId threadId senderInboxId contentType sentAt hReveals
    have hFalse := h now messageId groupId threadId senderInboxId contentType sentAt
    have hTrue : (revealState store credentialId).isRevealed deps.parseDate now messageId groupId
        threadId senderInboxId contentType sentAt = true :=
      RevealStateStore.isRevealed_iff.mpr ⟨entry, hEntry, hReveals⟩
    rw [hTrue] at hFalse
    cases hFalse
  · intro h now messageId groupId threadId senderInboxId contentType sentAt
    rw [← Bool.not_eq_true, RevealStateStore.isRevealed_iff]
    rintro ⟨entry, hEntry, hReveals⟩
    exact h entry hEntry now messageId groupId threadId senderInboxId contentType sentAt hReveals

/-- A step lets no reveal outlive the active state: a credential it takes out
without a cleanup has none, and a reveal is recorded for an active one. -/
structure EndsReveals (s : SystemState) (label : SystemLabel) : Prop where
  leaves : ∀ id, LeavesReveals deps s label id → Silent deps s.store id
  records : ∀ request credential entry, Dispatches deps s label request credential →
    Records deps label.now s.store request credential entry →
      IsActive s.store credential.credentialId ∨ Mute deps entry

def RevealsDie (store : CredentialStore) : Prop :=
  ∀ id, ¬ IsActive store id → Silent deps store id

/-- A reveal state that only lost entries. -/
theorem Silent.of_fewer {s t : CredentialStore} (h : Silent deps s id)
    (hFewer : ∀ entry ∈ revealsOf t id, entry ∈ revealsOf s id) : Silent deps t id := by
  rw [silent_iff] at h ⊢
  exact fun entry hEntry => h entry (hFewer entry hEntry)

theorem revealsDie_step (inv : RevealsDie deps s.store) (hEnds : EndsReveals deps s label)
    (hStep : systemStep deps s label = some (s', out)) :
    RevealsDie deps s'.store := by
  intro id hInactive
  rcases systemStep_reveals deps hStep with
    hSettles | ⟨request, credential, entry, hDispatches, hRecords, hRecorded⟩
  · by_cases hWas : IsActive s.store id
    · rcases hSettles.cleared id hWas with hStill | hEmpty | hLeaves
      · exact absurd hStill hInactive
      · rw [silent_iff, hEmpty]
        intro entry hEntry
        cases hEntry
      · exact (hEnds.leaves id hLeaves).of_fewer deps (hSettles.fewer id)
    · exact (inv id hWas).of_fewer deps (hSettles.fewer id)
  · have hWas : ¬ IsActive s.store id := by
      unfold IsActive at hInactive ⊢
      rwa [hRecorded.byId] at hInactive
    have hBefore := (silent_iff deps).mp (inv id hWas)
    rw [silent_iff, hRecorded.reveals id]
    split
    · next hId =>
      subst hId
      intro entry' hEntry'
      rcases List.mem_append.mp hEntry' with hOld | hNew
      · exact hBefore entry' hOld
      · rw [List.mem_singleton] at hNew
        subst hNew
        exact (hEnds.records request credential _ hDispatches hRecords).resolve_left hWas
    · exact hBefore

theorem silent_of_becomes_active (inv : RevealsDie deps s.store)
    (hStep : systemStep deps s label = some (s', out)) (hWas : ¬ IsActive s.store id)
    (hNow : IsActive s'.store id) : Silent deps s'.store id := by
  rcases systemStep_reveals deps hStep with hSettles | ⟨_, _, _, -, -, hRecorded⟩
  · exact (inv id hWas).of_fewer deps (hSettles.fewer id)
  · unfold IsActive at hNow
    rw [hRecorded.byId] at hNow
    exact absurd hNow hWas

/-- **Reveals die with their credential.**  In a run of steps that let no reveal
outlive the active state, no state has a reveal of a credential that is not
active, and a step that makes a credential active leaves it without reveals. -/
theorem reveals_die_with_credential
    {h : List (Occurrence SystemState SystemLabel Observation)} {s : SystemState}
    (hRun : (systemMachine deps).Runs h s) (hEnds : AllMeet (EndsReveals deps) h) :
    (∀ t ∈ visited h s, RevealsDie deps t.store) ∧
      ∀ o ∈ h, ∀ s', systemStep deps o.pre o.label = some (s', o.out) → ∀ id,
        ¬ IsActive o.pre.store id → IsActive s'.store id → Silent deps s'.store id := by
  have hKept : ∀ g t label t' out, (systemMachine deps).Runs g t →
      AllMeet (EndsReveals deps) g → RevealsDie deps t.store →
        EndsReveals deps t label → (systemMachine deps).step t label = some (t', out) →
          RevealsDie deps t'.store :=
    fun _ _ _ _ _ _ _ inv hMeets hStep => revealsDie_step deps inv hMeets hStep
  have hInit : RevealsDie deps (systemMachine deps).init.store :=
    fun id _ now messageId groupId threadId senderInboxId contentType sentAt => rfl
  have hStates : ∀ t ∈ visited h s, RevealsDie deps t.store := by
    intro t ht
    obtain ⟨h', hRun', hSub⟩ := hRun.of_mem_visited ht
    exact hRun'.invariant hInit hKept fun o ho => hEnds o (hSub o ho)
  refine ⟨hStates, ?_⟩
  intro o ho s' hStep id hWas hNow
  have hVisited : o.pre ∈ visited h s :=
    List.mem_append_left _ (List.mem_map.mpr ⟨o, ho, rfl⟩)
  exact silent_of_becomes_active deps (hStates o.pre hVisited) hStep hWas hNow

/-! ## A token lookup past the deadline -/

variable {deps}

/-- A step that serves no request ends what reveals its operation leaves. -/
theorem endsReveals_of_no_dispatch (hEvent : ∀ call, label.event ≠ .dispatch call)
    (hLeaves : ∀ op id, label.event = .manager op →
      OpLeavesReveals label.now s.store id op → Silent deps s.store id) :
    EndsReveals deps s label := by
  constructor
  · rintro id (⟨op, hOp, hLeft⟩ | ⟨_, _, ⟨call, hCall, -⟩, -⟩)
    · exact hLeaves op id hOp hLeft
    · exact absurd hCall (hEvent call)
  · rintro _ _ _ ⟨call, hCall, -⟩ -
    exact absurd hCall (hEvent call)

/-- A credential that may read history, issued, and then a reveal of everything
one sender wrote. -/
def revealGranted : List SystemLabel :=
  [⟨0, .manager (.issueCredential
      { operatorId := "op", chatIds := ["conv"], allow := some [.readHistory] }
      {} ⟨"cred", "token"⟩)⟩,
    ⟨10, .request 1 "cred" ⟨"request", .revealContent senderReveal⟩⟩, ⟨10, .dispatch 1⟩]

def lookedUpPastDeadline : List SystemLabel :=
  revealGranted ++ [⟨3600000, .manager (.lookupByToken "token")⟩]

/-- The lookup takes the credential out of the active state and leaves its
reveals. -/
theorem reveals_outlive_lookup :
    ∃ h s, (systemMachine sampleDeps).exec (systemMachine sampleDeps).init lookedUpPastDeadline =
        some (h, s) ∧
      (∃ r, s.store.byId.get "cred" = some r ∧ r.status = .expired) ∧
      (revealState s.store "cred").isRevealed sampleDeps.parseDate 3600000 "m1" "conv" none
        "alice" "text" "t1" = true ∧
      ¬ ∀ t ∈ visited h s, RevealsDie sampleDeps t.store := by
  refine ⟨_, _, rfl, ⟨_, rfl, rfl⟩, rfl, ?_⟩
  intro hDie
  have hSilent := hDie _ (mem_visited_self _ _) "cred" ?_ 3600000 "m1" "conv" none
    "alice" "text" "t1"
  · cases hSilent
  · rintro ⟨r, hGet, hActive⟩
    cases hGet
    cases hActive

/-- The credential is revoked, and made active again. -/
def revokedAndRestored : List SystemLabel :=
  revealGranted ++ [⟨20, .manager (.revokeCredential "cred" .ownerInitiated)⟩,
    ⟨30, .manager (.setCredentialStatus "cred" .active)⟩]

theorem reveals_die_with_revocation :
    ∃ h s, (systemMachine sampleDeps).exec (systemMachine sampleDeps).init revokedAndRestored =
        some (h, s) ∧
      (∀ t ∈ visited h s, RevealsDie sampleDeps t.store) ∧
        ∀ o ∈ h, ∀ s', systemStep sampleDeps o.pre o.label = some (s', o.out) → ∀ id,
          ¬ IsActive o.pre.store id → IsActive s'.store id → Silent sampleDeps s'.store id := by
  refine ⟨_, _, rfl, reveals_die_with_credential sampleDeps (runs_of_exec
    (show (systemMachine sampleDeps).exec _ revokedAndRestored = _ from rfl)) ?_⟩
  intro o ho
  simp only [List.mem_cons, List.not_mem_nil, or_false] at ho
  rcases ho with rfl | rfl | rfl | rfl | rfl
  · refine endsReveals_of_no_dispatch (by rintro _ ⟨⟩) ?_
    rintro op id hOp hLeaves
    cases hOp
    cases hLeaves
  · exact endsReveals_of_no_dispatch (by rintro _ ⟨⟩) (by rintro _ _ ⟨⟩)
  · -- the reveal is recorded for a credential that is active
    constructor
    · rintro id (⟨op, hOp, -⟩ | ⟨request, credential, ⟨call, hCall, hLooked, -⟩, hSuspends, -⟩)
      · cases hOp
      · cases hCall
        cases hLooked
        obtain ⟨-, allow, deny, check, hBody, -⟩ := hSuspends
        cases hBody
    · rintro request credential entry ⟨call, hCall, hLooked, -⟩ -
      cases hCall
      cases hLooked
      exact Or.inl ⟨_, rfl, rfl⟩
  · refine endsReveals_of_no_dispatch (by rintro _ ⟨⟩) ?_
    rintro op id hOp hLeaves
    cases hOp
    cases hLeaves
  · refine endsReveals_of_no_dispatch (by rintro _ ⟨⟩) ?_
    rintro op id hOp hLeaves
    cases hOp
    exact absurd rfl hLeaves.2

end Cli
end Signet
