import Signet.Sessions.CredentialManager

/-!
# What an operation does to one credential

`recordEffect` says, for a stored record, which record an operation leaves under
the same id.  `runOp_get_of_some` and `runOp_get_of_none` connect it to the
operations: every operation acts on the records pointwise, by that effect, and
the only record it can add is the one an issuance returns.  The lifecycle
theorems read the effect and never unfold an operation.
-/

namespace Signet
namespace Sessions

open Kit Schemas Policy

/-! ## The writers -/

@[simp]
theorem mutateRecord_get (store : CredentialStore) (credentialId id : String)
    (updates : RecordUpdates) :
    (mutateRecord store credentialId updates).1.byId.get id =
      if id = credentialId then (store.byId.get credentialId).map updates.applyTo
      else store.byId.get id := by
  unfold mutateRecord
  split
  · next hNone =>
    by_cases h : id = credentialId
    · simp [h, hNone]
    · simp [h]
  · next existing hSome =>
    simp [hSome]

theorem mutateRecord_result (store : CredentialStore) (credentialId : String)
    (updates : RecordUpdates) :
    (mutateRecord store credentialId updates).2 =
      match store.byId.get credentialId with
      | none => .error (InternalError.create
          ("Credential " ++ credentialId ++ " not found in store"))
      | some existing => .ok (updates.applyTo existing) := by
  unfold mutateRecord
  split
  · next hNone => simp [hNone]
  · next existing hSome => simp [hSome]

variable {call : CredentialCall} {store : CredentialStore}
  {existing r record : InternalCredentialRecord} {credentialId id : String} {operatorId : String}

theorem mutateRecord_ok (updates : RecordUpdates)
    (h : store.byId.get credentialId = some existing) :
    (mutateRecord store credentialId updates).2 = .ok (updates.applyTo existing) := by
  rw [mutateRecord_result, h]

@[simp]
theorem cleanupRevealState_byId (store : CredentialStore) (credentialId : String) :
    (cleanupRevealState store credentialId).byId = store.byId := by
  unfold cleanupRevealState
  split <;> rfl

@[simp]
theorem revokeRecord_get (now : Int) (store : CredentialStore) (credentialId id : String)
    (reason : CredentialRevocationReason) :
    (revokeRecord now store credentialId reason).1.byId.get id =
      if id = credentialId then
        (store.byId.get credentialId).map (revocation now reason).applyTo
      else store.byId.get id := by
  have hGet := mutateRecord_get (cleanupRevealState store credentialId) credentialId id
    (revocation now reason)
  rw [cleanupRevealState_byId] at hGet
  unfold revokeRecord
  simp only
  split <;> exact hGet

theorem revokeRecord_ok {now : Int} (reason : CredentialRevocationReason)
    (h : store.byId.get credentialId = some existing) :
    (revokeRecord now store credentialId reason).2 =
      .ok ((revocation now reason).applyTo existing) := by
  have hOk : (mutateRecord (cleanupRevealState store credentialId) credentialId
      (revocation now reason)).2 = .ok ((revocation now reason).applyTo existing) :=
    mutateRecord_ok _ (by rw [cleanupRevealState_byId]; exact h)
  simp only [revokeRecord, hOk]

@[simp]
theorem upsertRecord_get (store : CredentialStore) (record : InternalCredentialRecord)
    (id : String) :
    (upsertRecord store record).byId.get id =
      if id = record.credentialId then some record else store.byId.get id := by
  simp [upsertRecord]

@[simp]
theorem mutateOrNotFound_fst (store : CredentialStore) (credentialId : String)
    (updates : RecordUpdates) :
    (mutateOrNotFound store credentialId updates).1 =
      (mutateRecord store credentialId updates).1 := rfl

theorem mutateOrNotFound_ok (updates : RecordUpdates)
    (h : store.byId.get credentialId = some existing) :
    (mutateOrNotFound store credentialId updates).2 = .ok (updates.applyTo existing) := by
  simp only [mutateOrNotFound, mutateRecord_ok updates h, Except.mapError]

@[simp]
theorem collect_fst (state : CredentialStore × List InternalCredentialRecord)
    (run : CredentialStore → CredentialStore × Except SignetError InternalCredentialRecord) :
    (collect state run).1 = (run state.1).1 := by
  unfold collect
  simp only
  split <;> rfl

/-! ## The effect on a record -/

theorem mem_getActiveForOperator (h : record ∈ getActiveForOperator store operatorId) :
    store.byId.get record.credentialId = some record ∧ record.status = .active := by
  unfold getActiveForOperator at h
  split at h
  · cases h
  · next ids _ =>
    obtain ⟨id, _, hGet⟩ := List.mem_filterMap.mp h
    rw [Option.filter_eq_some_iff] at hGet
    obtain ⟨hGet, hActive⟩ := hGet
    have hKey := store.keyed id record hGet
    subst hKey
    exact ⟨hGet, by simpa using hActive⟩

theorem oldestActive_mem {records : List InternalCredentialRecord}
    {oldest : InternalCredentialRecord} (h : oldestActive records = some oldest) :
    oldest ∈ records := by
  unfold oldestActive at h
  have hMem := List.mem_of_head? h
  rwa [List.mem_insertionSort] at hMem

def evicted (config : CredentialManagerConfig) (store : CredentialStore)
    (operatorId : String) : Option InternalCredentialRecord :=
  if config.maxConcurrentPerOperator ≤ (getActiveForOperator store operatorId).length then
    oldestActive (getActiveForOperator store operatorId)
  else none

theorem evicted_stored {config : CredentialManagerConfig}
    (h : evicted config store operatorId = some record) :
    store.byId.get record.credentialId = some record ∧ record.status = .active := by
  unfold evicted at h
  split at h
  · exact mem_getActiveForOperator (oldestActive_mem h)
  · cases h

def renewedRecord (config : CredentialManagerConfig) (now : Int)
    (r : InternalCredentialRecord) : InternalCredentialRecord :=
  if r.status = .active ∧ r.expiresAt - now ≤ config.renewalWindowSeconds * 1000 then
    match toISOString (now + r.ttlMs) with
    | none => r
    | some newExpiresAt => { r with expiresAt := newExpiresAt }
  else r

/-- The record a scope update leaves of an active record. -/
def rescopedRecord (env : HashEnv) (scopes : ScopeSet) (r : InternalCredentialRecord) :
    InternalCredentialRecord :=
  { r with
    effectiveScopes := scopes
    resolvedScopes := resolveScopeSet scopes
    policyHash := computePolicyHash env scopes r.chatIds }

def sweptRecord (config : CredentialManagerConfig) (now : Int)
    (r : InternalCredentialRecord) : InternalCredentialRecord :=
  if r.status ≠ .active then r
  else if r.expiresAt ≤ now then { r with status := .expired }
  else if heartbeatDeadline config r ≤ now then
    (revocation now .heartbeatTimeout).applyTo r
  else r

/-- What an operation does to the record stored under `credentialId`. -/
def recordEffect (config : CredentialManagerConfig) (env : HashEnv) (store : CredentialStore)
    (call : CredentialCall) (credentialId : String) (r : InternalCredentialRecord) :
    InternalCredentialRecord :=
  match call.op with
  | .issueCredential credentialConfig _ _ =>
    if (evicted config store credentialConfig.operatorId).map
        InternalCredentialRecord.credentialId = some credentialId then
      (revocation call.now .policyViolation).applyTo r
    else r
  | .getCredentialByToken token | .lookupByToken token =>
    if store.byToken.get token = some credentialId ∧ credentialId ≠ "" ∧
        r.expiresAt ≤ call.now then
      { r with status := .expired }
    else r
  | .recordHeartbeat id =>
    if id = credentialId ∧ r.status = .active then { r with lastHeartbeat := call.now } else r
  | .renewCredential id => if id = credentialId then renewedRecord config call.now r else r
  | .updateCredentialScopes id scopes =>
    if id = credentialId ∧ r.status = .active then rescopedRecord env scopes r else r
  | .revokeCredential id reason =>
    if id = credentialId then (revocation call.now reason).applyTo r else r
  | .revokeAllCredentials operatorId reason =>
    if credentialId ∈ (getActiveForOperator store operatorId).map
        InternalCredentialRecord.credentialId then
      (revocation call.now reason).applyTo r
    else r
  | .setCredentialStatus id status =>
    if id = credentialId then { r with status := status } else r
  | .sweepExpired => sweptRecord config call.now r
  | .getCredentialById _ | .getActiveCredentials _ | .listCredentials _
  | .checkMateriality _ _ | .getRevealState _ | .isHeartbeatStale _ => r

/-! ## One spec lemma for each operation -/

section

variable (config : CredentialManagerConfig) (now : Int) (store : CredentialStore)

theorem evictOldest_get (operatorId id : String) :
    (evictOldest config now store operatorId).1.byId.get id =
      if (evicted config store operatorId).map InternalCredentialRecord.credentialId = some id
      then (store.byId.get id).map (revocation now .policyViolation).applyTo
      else store.byId.get id := by
  unfold evictOldest evicted
  simp only
  split
  · split
    · next hNone => simp [hNone]
    · next oldest hOldest =>
      simp only [revokeRecord_get, hOldest, Option.map_some, Option.some.injEq]
      by_cases hId : id = oldest.credentialId
      · simp [hId]
      · rw [if_neg hId, if_neg (Ne.symm hId)]
  · simp

/-- The eviction before an issuance never fails. -/
theorem evictOldest_ok (operatorId : String) :
    (evictOldest config now store operatorId).2 = .ok () := by
  unfold evictOldest
  simp only
  split
  · split
    · rfl
    · next oldest hOldest =>
      have hStored := (mem_getActiveForOperator (oldestActive_mem hOldest)).1
      simp only [revokeRecord_ok .policyViolation hStored, Except.map]
  · rfl

end

/-- An issuance returns a stored active record of the evicted store, fails, or
stores the new record. -/
theorem issueCredential_cases (config : CredentialManagerConfig) (env : HashEnv) (now : Int)
    (store : CredentialStore) (credentialConfig : CredentialConfig) (options : IssueOptions)
    (drawn : Drawn) :
    let store' := (evictOldest config now store credentialConfig.operatorId).1
    let result := issueCredential config env now store credentialConfig options drawn
    (∃ existing ∈ getActiveForOperator store' credentialConfig.operatorId,
        result = (store', .ok existing)) ∨
      result = (store', .error .rangeError) ∨
      ∃ expiresAt ttlMs, result.1 = upsertRecord store'
          (newRecord env now expiresAt ttlMs credentialConfig options drawn) ∧
        result.2 = .ok (newRecord env now expiresAt ttlMs credentialConfig options drawn) := by
  intro store' result
  simp only [result, issueCredential, evictOldest_ok]
  split
  · next existing hFind =>
    exact Or.inl ⟨existing, List.mem_of_find?_eq_some hFind, rfl⟩
  · split
    · exact Or.inr (Or.inl rfl)
    · next expiresAt _ =>
      exact Or.inr (Or.inr ⟨expiresAt, _, rfl, rfl⟩)

/-- The mark a token lookup leaves on the record it finds past its deadline. -/
def lookedUpRecord (now : Int) (store : CredentialStore) (token credentialId : String)
    (r : InternalCredentialRecord) : InternalCredentialRecord :=
  if store.byToken.get token = some credentialId ∧ credentialId ≠ "" ∧ r.expiresAt ≤ now then
    { r with status := .expired }
  else r

theorem getCredentialByToken_get (now : Int) (store : CredentialStore) (token id : String)
    (hGet : store.byId.get id = some r) :
    (getCredentialByToken now store token).1.byId.get id =
      some (lookedUpRecord now store token id r) := by
  unfold getCredentialByToken lookedUpRecord
  split
  · next hNone => simp [hNone, hGet]
  · next credentialId hToken =>
    simp only [hToken, Option.some.injEq]
    split
    · next hEmpty =>
      subst hEmpty
      have hFalse : ¬ ("" = id ∧ id ≠ "" ∧ r.expiresAt ≤ now) := by
        rintro ⟨rfl, hNe, -⟩
        exact hNe rfl
      rw [if_neg hFalse, hGet]
    · next hNonempty =>
      by_cases hId : credentialId = id
      · subst hId
        rw [hGet]
        by_cases hDeadline : r.expiresAt ≤ now
        · simp [hDeadline, hNonempty, hGet, RecordUpdates.applyTo]
        · have hSplit : ∀ e : Except SignetError InternalCredentialRecord,
              (if r.status ≠ .active then (store, e) else (store, .ok r)).1 = store := by
            intro e
            split <;> rfl
          simp only [hDeadline, if_false, hSplit, hGet, and_false]
      · have hFalse : ¬ (credentialId = id ∧ id ≠ "" ∧ r.expiresAt ≤ now) := fun h => hId h.1
        rw [if_neg hFalse]
        split
        · exact hGet
        · split
          · rw [mutateRecord_get, if_neg (Ne.symm hId), hGet]
          · split <;> exact hGet

theorem recordHeartbeat_get (now : Int) (store : CredentialStore) (credentialId id : String)
    (hGet : store.byId.get id = some r) :
    (recordHeartbeat now store credentialId).1.byId.get id =
      some (if credentialId = id ∧ r.status = .active then { r with lastHeartbeat := now }
        else r) := by
  unfold recordHeartbeat
  by_cases hId : credentialId = id
  · subst hId
    rw [hGet]
    by_cases hActive : r.status = .active
    · simp [hActive, hGet, RecordUpdates.applyTo]
    · simp [hActive, hGet]
  · rw [if_neg (fun h => hId h.1)]
    split
    · exact hGet
    · split
      · exact hGet
      · simp [Ne.symm hId, hGet]

theorem renewCredential_get (config : CredentialManagerConfig) (now : Int) (store : CredentialStore)
    (credentialId id : String) (hGet : store.byId.get id = some r) :
    (renewCredential config now store credentialId).1.byId.get id =
      some (if credentialId = id then renewedRecord config now r else r) := by
  unfold renewCredential renewedRecord
  by_cases hId : credentialId = id
  · subst hId
    rw [if_pos rfl, hGet]
    by_cases hActive : r.status = .active
    · by_cases hWindow : config.renewalWindowSeconds * 1000 < r.expiresAt - now
      · have hOutside : ¬ r.expiresAt - now ≤ config.renewalWindowSeconds * 1000 := by omega
        simp [hActive, hWindow, hOutside, hGet]
      · have hInside : r.expiresAt - now ≤ config.renewalWindowSeconds * 1000 := by omega
        cases hIso : toISOString (now + r.ttlMs) with
        | none => simp [hActive, hWindow, hIso, hGet]
        | some newExpiresAt =>
          simp [hActive, hWindow, hInside, hIso, hGet, RecordUpdates.applyTo]
    · simp [hActive, hGet]
  · rw [if_neg hId]
    split
    · exact hGet
    · split
      · exact hGet
      · simp only
        split
        · exact hGet
        · split
          · exact hGet
          · simp [Ne.symm hId, hGet]

theorem updateCredentialScopes_get (env : HashEnv) (store : CredentialStore)
    (credentialId id : String) (scopes : ScopeSet) (hGet : store.byId.get id = some r) :
    (updateCredentialScopes env store credentialId scopes).1.byId.get id =
      some (if credentialId = id ∧ r.status = .active then rescopedRecord env scopes r
        else r) := by
  unfold updateCredentialScopes
  by_cases hId : credentialId = id
  · subst hId
    rw [hGet]
    by_cases hActive : r.status = .active
    · simp [hActive, hGet, RecordUpdates.applyTo, rescopedRecord]
    · simp [hActive, hGet]
  · rw [if_neg (fun h => hId h.1)]
    split
    · exact hGet
    · split
      · exact hGet
      · simp [Ne.symm hId, hGet]

theorem revokeCredential_get (now : Int) (store : CredentialStore) (credentialId id : String)
    (reason : CredentialRevocationReason) (hGet : store.byId.get id = some r) :
    (revokeCredential now store credentialId reason).1.byId.get id =
      some (if credentialId = id then (revocation now reason).applyTo r else r) := by
  unfold revokeCredential
  by_cases hId : credentialId = id
  · subst hId
    simp [hGet]
  · rw [if_neg hId]
    split
    · exact hGet
    · simp [Ne.symm hId, hGet]

theorem setCredentialStatus_get (store : CredentialStore) (credentialId id : String)
    (status : CredentialStatus) (hGet : store.byId.get id = some r) :
    (setCredentialStatus store credentialId status).1.byId.get id =
      some (if credentialId = id then { r with status := status } else r) := by
  unfold setCredentialStatus
  by_cases hId : credentialId = id
  · subst hId
    simp [hGet, RecordUpdates.applyTo]
  · rw [if_neg hId]
    split
    · exact hGet
    · simp [Ne.symm hId, hGet]

@[simp]
theorem getRevealState_byId (store : CredentialStore) (credentialId : String) :
    (getRevealState store credentialId).1.byId = store.byId := by
  unfold getRevealState
  split
  · rfl
  · split <;> rfl

/-- Revoking a record again at the same time and for the same reason changes
nothing. -/
theorem revocation_applyTo_idem (now : Int) (reason : CredentialRevocationReason)
    (r : InternalCredentialRecord) :
    (revocation now reason).applyTo ((revocation now reason).applyTo r) =
      (revocation now reason).applyTo r := rfl

theorem foldl_revokeRecord_get (now : Int) (reason : CredentialRevocationReason)
    (creds : List InternalCredentialRecord) (id : String)
    (state : CredentialStore × List InternalCredentialRecord)
    (hGet : state.1.byId.get id = some r) :
    (creds.foldl (fun state cred =>
        collect state fun s => revokeRecord now s cred.credentialId reason) state).1.byId.get
          id =
      some (if id ∈ creds.map InternalCredentialRecord.credentialId then
        (revocation now reason).applyTo r else r) := by
  induction creds generalizing state r with
  | nil => simpa using hGet
  | cons cred creds ih =>
    rw [List.foldl_cons]
    by_cases hId : id = cred.credentialId
    · subst hId
      rw [ih (r := (revocation now reason).applyTo r) _ (by simp [hGet]),
        revocation_applyTo_idem, ite_self]
      simp
    · rw [ih (r := r) _ (by simp [hId, hGet])]
      simp [hId]

theorem revokeAllCredentials_get (now : Int) (store : CredentialStore) (operatorId id : String)
    (reason : CredentialRevocationReason) (hGet : store.byId.get id = some r) :
    (revokeAllCredentials now store operatorId reason).1.byId.get id =
      some (if id ∈ (getActiveForOperator store operatorId).map
          InternalCredentialRecord.credentialId then (revocation now reason).applyTo r
        else r) :=
  foldl_revokeRecord_get now reason _ id (store, []) hGet

theorem sweepRecord_get (config : CredentialManagerConfig) (now : Int)
    (state : CredentialStore × List InternalCredentialRecord)
    (hRecord : state.1.byId.get record.credentialId = some record) (id : String) :
    (sweepRecord config now state record).1.byId.get id =
      if id = record.credentialId then some (sweptRecord config now record)
      else state.1.byId.get id := by
  unfold sweepRecord sweptRecord
  by_cases hActive : record.status = .active
  · by_cases hDeadline : record.expiresAt ≤ now
    · simp [hActive, hDeadline, hRecord, RecordUpdates.applyTo]
    · by_cases hHeartbeat : heartbeatDeadline config record ≤ now
      · simp [hActive, hDeadline, hHeartbeat, hRecord]
      · simp only [hActive, hDeadline, hHeartbeat, ne_eq, not_true_eq_false, if_false]
        split
        · next h => rw [h, hRecord]
        · rfl
  · simp only [hActive, ne_eq, not_false_eq_true, if_true]
    split
    · next h => rw [h, hRecord]
    · rfl

theorem foldl_sweepRecord_get (config : CredentialManagerConfig) (now : Int)
    (records : List InternalCredentialRecord)
    (hNodup : (records.map InternalCredentialRecord.credentialId).Nodup) (id : String)
    (state : CredentialStore × List InternalCredentialRecord)
    (hStored : ∀ record ∈ records, state.1.byId.get record.credentialId = some record) :
    (records.foldl (sweepRecord config now) state).1.byId.get id =
      if id ∈ records.map InternalCredentialRecord.credentialId then
        (state.1.byId.get id).map (sweptRecord config now)
      else state.1.byId.get id := by
  induction records generalizing state with
  | nil => simp
  | cons record records ih =>
    rw [List.map_cons, List.nodup_cons] at hNodup
    have hHead := hStored record (by simp)
    have hTurn := sweepRecord_get config now state hHead
    rw [List.foldl_cons, ih hNodup.2, hTurn]
    · by_cases hId : id = record.credentialId
      · subst hId
        simp [hNodup.1, hHead]
      · simp [hId]
    · intro other hOther
      have hNe : other.credentialId ≠ record.credentialId := fun hEq =>
        hNodup.1 (hEq ▸ List.mem_map.mpr ⟨other, hOther, rfl⟩)
      rw [hTurn, if_neg hNe]
      exact hStored other (by simp [hOther])

theorem map_credentialId_values (store : CredentialStore) :
    store.byId.values.map InternalCredentialRecord.credentialId = store.byId.keys := by
  unfold AssocMap.values AssocMap.keys
  rw [List.map_map]
  refine List.map_congr_left ?_
  rintro ⟨id, record⟩ hMem
  exact store.keyed id record (AssocMap.get_eq_some_iff.mpr hMem)

theorem sweepExpired_get (config : CredentialManagerConfig) (now : Int)
    (store : CredentialStore) (id : String) :
    (sweepExpired config now store).1.byId.get id =
      (store.byId.get id).map (sweptRecord config now) := by
  unfold sweepExpired
  rw [foldl_sweepRecord_get]
  · rw [map_credentialId_values]
    split
    · rfl
    · next hAbsent =>
      rw [AssocMap.get_eq_none_iff.mpr hAbsent]
      rfl
  · rw [map_credentialId_values]
    exact store.byId.nodup_keys
  · intro record hMem
    obtain ⟨key, hKey⟩ := AssocMap.mem_values.mp hMem
    have hEq := store.keyed key record hKey
    subst hEq
    exact hKey

/-! ## Every operation acts pointwise -/

def CredentialCall.issueId (call : CredentialCall) : Option String :=
  match call.op with
  | .issueCredential _ options drawn => some (options.credentialId.getD drawn.credentialId)
  | _ => none

/-- A new credential would get an id that no credential has. -/
def FreshIds (store : CredentialStore) (call : CredentialCall) : Prop :=
  ∀ id, call.issueId = some id → store.byId.get id = none

theorem issueCredential_get_of_ne (config : CredentialManagerConfig) (env : HashEnv) (now : Int)
    (store : CredentialStore) (credentialConfig : CredentialConfig) (options : IssueOptions)
    (drawn : Drawn) (hNe : id ≠ options.credentialId.getD drawn.credentialId) :
    (issueCredential config env now store credentialConfig options drawn).1.byId.get id =
      (evictOldest config now store credentialConfig.operatorId).1.byId.get id := by
  rcases issueCredential_cases config env now store credentialConfig options drawn with
    ⟨_, _, hEq⟩ | hEq | ⟨expiresAt, ttlMs, hEq, -⟩
  · rw [hEq]
  · rw [hEq]
  · rw [hEq, upsertRecord_get, if_neg]
    exact hNe

/-- A stored record goes to its effect. -/
theorem runOp_get_of_some (config : CredentialManagerConfig) (env : HashEnv)
    (hFresh : FreshIds store call) (hGet : store.byId.get id = some r) :
    (runOp config env store call).1.byId.get id =
      some (recordEffect config env store call id r) := by
  obtain ⟨now, op⟩ := call
  cases op with
  | issueCredential credentialConfig options drawn =>
    have hNe : id ≠ options.credentialId.getD drawn.credentialId := by
      rintro rfl
      have hNone := hFresh _ rfl
      rw [hGet] at hNone
      cases hNone
    show (issueCredential config env now store credentialConfig options drawn).1.byId.get id =
      _
    rw [issueCredential_get_of_ne config env now store credentialConfig options drawn hNe,
      evictOldest_get, hGet]
    unfold recordEffect
    simp only
    split <;> rfl
  | getCredentialByToken token => exact getCredentialByToken_get now store token id hGet
  | lookupByToken token => exact getCredentialByToken_get now store token id hGet
  | getCredentialById credentialId => exact hGet
  | getActiveCredentials operatorId => exact hGet
  | listCredentials operatorId => exact hGet
  | recordHeartbeat credentialId => exact recordHeartbeat_get now store credentialId id hGet
  | renewCredential credentialId => exact renewCredential_get config now store _ id hGet
  | updateCredentialScopes credentialId scopes =>
    exact updateCredentialScopes_get env store credentialId id scopes hGet
  | revokeCredential credentialId reason =>
    exact revokeCredential_get now store credentialId id reason hGet
  | revokeAllCredentials operatorId reason =>
    exact revokeAllCredentials_get now store operatorId id reason hGet
  | checkMateriality credentialId newScopes => exact hGet
  | getRevealState credentialId =>
    show (getRevealState store credentialId).1.byId.get id = some r
    rw [getRevealState_byId, hGet]
  | setCredentialStatus credentialId status =>
    exact setCredentialStatus_get store credentialId id status hGet
  | sweepExpired =>
    show (sweepExpired config now store).1.byId.get id = some (sweptRecord config now r)
    rw [sweepExpired_get, hGet]
    rfl
  | isHeartbeatStale credentialId => exact hGet

/-- No id is stored in `t` that is not stored in `s`. -/
def AddsNothing (s t : CredentialStore) : Prop :=
  ∀ id, s.byId.get id = none → t.byId.get id = none

theorem addsNothing_refl (s : CredentialStore) : AddsNothing s s := fun _ h => h

theorem addsNothing_of_byId_eq {s t : CredentialStore} (h : t.byId = s.byId) :
    AddsNothing s t := by
  intro id hNone
  rw [h]
  exact hNone

theorem addsNothing_trans {s t u : CredentialStore} (hst : AddsNothing s t)
    (htu : AddsNothing t u) : AddsNothing s u := fun id h => htu id (hst id h)

/-! ## What the writers keep, every operation but an issuance keeps -/

/-- A preorder on stores that the writers of a stored record keep. -/
structure WriterRelation (rel : CredentialStore → CredentialStore → Prop) : Prop where
  refl : ∀ s, rel s s
  trans : ∀ {s t u}, rel s t → rel t u → rel s u
  mutate : ∀ store credentialId updates, rel store (mutateRecord store credentialId updates).1
  /-- Reveal states and hook calls do not matter. -/
  sameMaps : ∀ {s t : CredentialStore}, t.byId = s.byId → t.byToken = s.byToken →
    t.byOperator = s.byOperator → rel s t

namespace WriterRelation

variable {rel : CredentialStore → CredentialStore → Prop} (w : WriterRelation rel)
include w

theorem cleanupRevealState (store : CredentialStore) (credentialId : String) :
    rel store (cleanupRevealState store credentialId) := by
  unfold Sessions.cleanupRevealState
  split
  · exact w.refl store
  · exact w.sameMaps rfl rfl rfl

theorem revokeRecord (now : Int) (store : CredentialStore) (credentialId : String)
    (reason : CredentialRevocationReason) :
    rel store (revokeRecord now store credentialId reason).1 := by
  have hMutate := w.trans (w.cleanupRevealState store credentialId)
    (w.mutate _ credentialId (revocation now reason))
  unfold Sessions.revokeRecord
  simp only
  split
  · exact w.trans hMutate (w.sameMaps rfl rfl rfl)
  · exact hMutate

theorem evictOldest (config : CredentialManagerConfig) (now : Int) (store : CredentialStore)
    (operatorId : String) : rel store (evictOldest config now store operatorId).1 := by
  unfold Sessions.evictOldest
  simp only
  split
  · split
    · exact w.refl store
    · exact w.revokeRecord now store _ _
  · exact w.refl store

theorem getCredentialByToken (now : Int) (store : CredentialStore) (token : String) :
    rel store (getCredentialByToken now store token).1 := by
  unfold Sessions.getCredentialByToken
  split
  · exact w.refl store
  · split
    · exact w.refl store
    · split
      · exact w.refl store
      · split
        · exact w.mutate store _ _
        · split <;> exact w.refl store

theorem recordHeartbeat (now : Int) (store : CredentialStore) (credentialId : String) :
    rel store (recordHeartbeat now store credentialId).1 := by
  unfold Sessions.recordHeartbeat
  split
  · exact w.refl store
  · split
    · exact w.refl store
    · exact w.mutate store _ _

theorem renewCredential (config : CredentialManagerConfig) (now : Int)
    (store : CredentialStore) (credentialId : String) :
    rel store (renewCredential config now store credentialId).1 := by
  unfold Sessions.renewCredential
  split
  · exact w.refl store
  · split
    · exact w.refl store
    · simp only
      split
      · exact w.refl store
      · split
        · exact w.refl store
        · exact w.mutate store _ _

theorem updateCredentialScopes (env : HashEnv) (store : CredentialStore)
    (credentialId : String) (scopes : ScopeSet) :
    rel store (updateCredentialScopes env store credentialId scopes).1 := by
  unfold Sessions.updateCredentialScopes
  split
  · exact w.refl store
  · split
    · exact w.refl store
    · exact w.mutate store _ _

theorem revokeCredential (now : Int) (store : CredentialStore)
    (credentialId : String) (reason : CredentialRevocationReason) :
    rel store (revokeCredential now store credentialId reason).1 := by
  unfold Sessions.revokeCredential
  split
  · exact w.refl store
  · exact w.revokeRecord now store _ reason

theorem setCredentialStatus (store : CredentialStore) (credentialId : String)
    (status : CredentialStatus) :
    rel store (setCredentialStatus store credentialId status).1 := by
  unfold Sessions.setCredentialStatus
  split
  · exact w.refl store
  · exact w.mutate store _ _

theorem getRevealState (store : CredentialStore) (credentialId : String) :
    rel store (getRevealState store credentialId).1 := by
  unfold Sessions.getRevealState
  split
  · exact w.refl store
  · split
    · exact w.refl store
    · exact w.sameMaps rfl rfl rfl

/-- A loop over credentials whose turns keep the relation. -/
theorem foldl {β : Type*} (turn : CredentialStore × List InternalCredentialRecord → β →
      CredentialStore × List InternalCredentialRecord)
    (hTurn : ∀ state b, rel state.1 (turn state b).1) (bs : List β)
    (state : CredentialStore × List InternalCredentialRecord) :
    rel state.1 (bs.foldl turn state).1 := by
  induction bs generalizing state with
  | nil => exact w.refl state.1
  | cons b bs ih =>
    rw [List.foldl_cons]
    exact w.trans (hTurn state b) (ih (turn state b))

theorem revokeAllCredentials (now : Int) (store : CredentialStore)
    (operatorId : String) (reason : CredentialRevocationReason) :
    rel store (revokeAllCredentials now store operatorId reason).1 := by
  refine w.foldl _ ?_ _ (store, [])
  intro state cred
  rw [collect_fst]
  exact w.revokeRecord now state.1 _ reason

variable (config : CredentialManagerConfig)

theorem sweepRecord (now : Int) (state : CredentialStore × List InternalCredentialRecord)
    (record : InternalCredentialRecord) :
    rel state.1 (sweepRecord config now state record).1 := by
  unfold Sessions.sweepRecord
  split
  · exact w.refl state.1
  · split
    · rw [collect_fst]
      exact w.trans (w.cleanupRevealState state.1 _) (w.mutate _ _ _)
    · split
      · rw [collect_fst]
        exact w.revokeRecord now state.1 _ _
      · exact w.refl state.1

theorem sweepExpired (now : Int) (store : CredentialStore) :
    rel store (sweepExpired config now store).1 :=
  w.foldl _ (w.sweepRecord config now) _ (store, [])

/-- An operation keeps the relation, or it is an issuance that stores the new
record on top of what the relation allows and returns it. -/
theorem runOp_cases (env : HashEnv) (store : CredentialStore) (call : CredentialCall) :
    rel store (runOp config env store call).1 ∨
      ∃ store' expiresAt ttlMs credentialConfig options drawn, rel store store' ∧
        call.op = .issueCredential credentialConfig options drawn ∧
        (runOp config env store call).1 = upsertRecord store'
          (newRecord env call.now expiresAt ttlMs credentialConfig options drawn) ∧
        (runOp config env store call).2 = .issued
          (.ok (newRecord env call.now expiresAt ttlMs credentialConfig options drawn)) := by
  obtain ⟨now, op⟩ := call
  cases op with
  | issueCredential credentialConfig options drawn =>
    have hEvict := w.evictOldest config now store credentialConfig.operatorId
    rcases issueCredential_cases config env now store credentialConfig options drawn with
      ⟨existing, _, hEq⟩ | hEq | ⟨expiresAt, ttlMs, hFst, hSnd⟩
    · refine Or.inl ?_
      simpa only [runOp, hEq] using hEvict
    · refine Or.inl ?_
      simpa only [runOp, hEq] using hEvict
    · refine Or.inr ⟨_, expiresAt, ttlMs, credentialConfig, options, drawn, hEvict, rfl, hFst, ?_⟩
      simp only [runOp, hSnd]
  | getCredentialByToken token => exact Or.inl (w.getCredentialByToken now store token)
  | lookupByToken token => exact Or.inl (w.getCredentialByToken now store token)
  | recordHeartbeat credentialId => exact Or.inl (w.recordHeartbeat now store credentialId)
  | renewCredential credentialId =>
    exact Or.inl (w.renewCredential config now store credentialId)
  | updateCredentialScopes credentialId scopes =>
    exact Or.inl (w.updateCredentialScopes env store credentialId scopes)
  | revokeCredential credentialId reason =>
    exact Or.inl (w.revokeCredential now store credentialId reason)
  | revokeAllCredentials operatorId reason =>
    exact Or.inl (w.revokeAllCredentials now store operatorId reason)
  | setCredentialStatus credentialId status =>
    exact Or.inl (w.setCredentialStatus store credentialId status)
  | sweepExpired => exact Or.inl (w.sweepExpired config now store)
  | getRevealState credentialId => exact Or.inl (w.getRevealState store credentialId)
  | getCredentialById _ | getActiveCredentials _ | listCredentials _ | checkMateriality _ _
  | isHeartbeatStale _ => exact Or.inl (w.refl store)

end WriterRelation

/-! ## Only an issuance adds a record -/

theorem writerRelation_addsNothing : WriterRelation AddsNothing where
  refl := addsNothing_refl
  trans := addsNothing_trans
  mutate := by
    intro store credentialId updates id hNone
    rw [mutateRecord_get]
    split
    · next h =>
      subst h
      simp [hNone]
    · exact hNone
  sameMaps := fun hById _ _ => addsNothing_of_byId_eq hById

variable (config : CredentialManagerConfig) (env : HashEnv)

/-- A record can only be added by an issuance, which returns it with its scopes
resolved. -/
theorem runOp_get_of_none (hGet : store.byId.get id = none)
    (hNew : (runOp config env store call).1.byId.get id = some r) :
    call.issueId = some id ∧ (runOp config env store call).2 = .issued (.ok r) ∧
      r.resolvedScopes = resolveScopeSet r.effectiveScopes := by
  rcases writerRelation_addsNothing.runOp_cases config env store call with
    hAdds | ⟨store', expiresAt, ttlMs, credentialConfig, options, drawn, hAdds, hOp, hFst, hSnd⟩
  · rw [hAdds id hGet] at hNew
    cases hNew
  · rw [hFst, upsertRecord_get] at hNew
    split at hNew
    · next hId =>
      cases hNew
      refine ⟨?_, hSnd, rfl⟩
      simp only [CredentialCall.issueId, hOp, hId]
      rfl
    · rw [hAdds id hGet] at hNew
      cases hNew

theorem credentialMachine_step {store' : CredentialStore} {out : List CredentialOutcome}
    (hStep : (credentialMachine config env).step store call = some (store', out)) :
    store' = (runOp config env store call).1 ∧ out = [(runOp config env store call).2] := by
  simp only [credentialMachine, Option.some.injEq, Prod.mk.injEq] at hStep
  exact ⟨hStep.1.symm, hStep.2.symm⟩

end Sessions
end Signet
