import Signet.Sessions.CredentialLifecycle

/-!
# The three maps of the credential store agree

`StoreInvariant` ties the stored records to the fields derived from them and to
the two indexes.  Every operation keeps it as long as a new credential brings an
id and a token that no credential has; between two states of a run no record
changes what it was issued with.

* `Derived` — resolved scopes and policy hash are those of the stored scopes.
* `byToken` — the index lists each token with the id of its record, and no more.
* `byOperator` — the index lists under an operator the ids of its records.
* `KeepsIssuance` — id, token, operator, chats and time of issue stay.
* `TokensName` — a bearer token finds the credential it was handed out with.
-/

namespace Signet
namespace Sessions

open Kit Machine Schemas Policy

variable (config : CredentialManagerConfig) (env : HashEnv)

/-! ## The invariant -/

/-- The derived fields of a record are those of its scopes and chats. -/
structure Derived (r : InternalCredentialRecord) : Prop where
  resolvedScopes : r.resolvedScopes = resolveScopeSet r.effectiveScopes
  policyHash : r.policyHash = computePolicyHash env r.effectiveScopes r.chatIds

def operatorIds (store : CredentialStore) (operatorId : String) : OrderedSet String :=
  (store.byOperator.get operatorId).getD .empty

/-- The representation invariant of the stores. -/
structure StoreInvariant (store : CredentialStore) : Prop where
  derived : ∀ id r, store.byId.get id = some r → Derived env r
  byToken : ∀ token id, store.byToken.get token = some id ↔
    ∃ r, store.byId.get id = some r ∧ r.token = token
  byOperator : ∀ operatorId id, id ∈ operatorIds store operatorId ↔
    ∃ r, store.byId.get id = some r ∧ r.operatorId = operatorId

structure SameIssuance (r r' : InternalCredentialRecord) : Prop where
  credentialId : r'.credentialId = r.credentialId
  token : r'.token = r.token
  operatorId : r'.operatorId = r.operatorId
  chatIds : r'.chatIds = r.chatIds
  issuedAt : r'.issuedAt = r.issuedAt

theorem SameIssuance.refl (r : InternalCredentialRecord) : SameIssuance r r :=
  ⟨rfl, rfl, rfl, rfl, rfl⟩

theorem SameIssuance.trans {r r' r'' : InternalCredentialRecord} (h : SameIssuance r r')
    (h' : SameIssuance r' r'') : SameIssuance r r'' :=
  ⟨h'.credentialId.trans h.credentialId, h'.token.trans h.token,
    h'.operatorId.trans h.operatorId, h'.chatIds.trans h.chatIds,
    h'.issuedAt.trans h.issuedAt⟩

theorem sameIssuance_applyTo (updates : RecordUpdates) (r : InternalCredentialRecord) :
    SameIssuance r (updates.applyTo r) :=
  ⟨rfl, rfl, rfl, rfl, rfl⟩

/-- Every record of `s` is in `t`, with what it was issued with. -/
def KeepsIssuance (s t : CredentialStore) : Prop :=
  ∀ id r, s.byId.get id = some r → ∃ r', t.byId.get id = some r' ∧ SameIssuance r r'

theorem keepsIssuance_trans (s t u : CredentialStore) (hst : KeepsIssuance s t)
    (htu : KeepsIssuance t u) : KeepsIssuance s u := by
  intro id r hGet
  obtain ⟨r', hGet', hSame⟩ := hst id r hGet
  obtain ⟨r'', hGet'', hSame'⟩ := htu id r' hGet'
  exact ⟨r'', hGet'', hSame.trans hSame'⟩

/-! ## What an operation keeps of a record -/

/-- A record after which the derived fields still fit and the issuance is the
same. -/
structure Follows (r r' : InternalCredentialRecord) : Prop where
  same : SameIssuance r r'
  derived : Derived env r → Derived env r'

theorem follows_refl (r : InternalCredentialRecord) : Follows env r r :=
  ⟨.refl r, id⟩

theorem follows_revocation (now : Int) (reason : CredentialRevocationReason)
    (r : InternalCredentialRecord) : Follows env r ((revocation now reason).applyTo r) :=
  ⟨sameIssuance_applyTo _ r, fun h => ⟨h.resolvedScopes, h.policyHash⟩⟩

theorem follows_status (status : CredentialStatus) (r : InternalCredentialRecord) :
    Follows env r { r with status := status } :=
  ⟨⟨rfl, rfl, rfl, rfl, rfl⟩, fun h => ⟨h.resolvedScopes, h.policyHash⟩⟩

/-- The only update of the scopes writes both derived fields along. -/
theorem follows_rescopedRecord (scopes : ScopeSet) (r : InternalCredentialRecord) :
    Follows env r (rescopedRecord env scopes r) :=
  ⟨⟨rfl, rfl, rfl, rfl, rfl⟩, fun _ => ⟨rfl, rfl⟩⟩

theorem follows_renewedRecord (now : Int) (r : InternalCredentialRecord) :
    Follows env r (renewedRecord config now r) := by
  unfold renewedRecord
  split
  · split
    · exact follows_refl env r
    · exact ⟨⟨rfl, rfl, rfl, rfl, rfl⟩, fun h => ⟨h.resolvedScopes, h.policyHash⟩⟩
  · exact follows_refl env r

theorem follows_sweptRecord (now : Int) (r : InternalCredentialRecord) :
    Follows env r (sweptRecord config now r) := by
  unfold sweptRecord
  split
  · exact follows_refl env r
  · split
    · exact follows_status env _ r
    · split
      · exact follows_revocation env now _ r
      · exact follows_refl env r

/-- No operation takes a record out of step with its scopes or its issuance. -/
theorem follows_recordEffect (store : CredentialStore) (call : CredentialCall) (id : String)
    (r : InternalCredentialRecord) : Follows env r (recordEffect config env store call id r) := by
  have hIte : ∀ {p : Prop} [Decidable p] {r' : InternalCredentialRecord},
      Follows env r r' → Follows env r (if p then r' else r) := by
    intro p _ r' hFollows
    split
    · exact hFollows
    · exact follows_refl env r
  obtain ⟨now, op⟩ := call
  cases op with
  | issueCredential _ _ _ => exact hIte (follows_revocation env now _ r)
  | getCredentialByToken _ => exact hIte (follows_status env _ r)
  | lookupByToken _ => exact hIte (follows_status env _ r)
  | recordHeartbeat _ =>
    exact hIte ⟨⟨rfl, rfl, rfl, rfl, rfl⟩, fun h => ⟨h.resolvedScopes, h.policyHash⟩⟩
  | renewCredential _ => exact hIte (follows_renewedRecord config env now r)
  | updateCredentialScopes _ scopes => exact hIte (follows_rescopedRecord env scopes r)
  | revokeCredential _ reason => exact hIte (follows_revocation env now reason r)
  | revokeAllCredentials _ reason => exact hIte (follows_revocation env now reason r)
  | setCredentialStatus _ status => exact hIte (follows_status env status r)
  | sweepExpired => exact follows_sweptRecord config env now r
  | getCredentialById _ | getActiveCredentials _ | listCredentials _ | checkMateriality _ _
  | getRevealState _ | isHeartbeatStale _ => exact follows_refl env r

/-! ## What an operation keeps of the indexes -/

/-- The two indexes are the same, and so are the ids of the stored records. -/
structure SameIndexes (s t : CredentialStore) : Prop where
  byToken : t.byToken = s.byToken
  byOperator : t.byOperator = s.byOperator
  addsNothing : AddsNothing s t

/-- A mutation writes a record in place and neither index. -/
theorem writerRelation_sameIndexes : WriterRelation SameIndexes where
  refl := fun s => ⟨rfl, rfl, addsNothing_refl s⟩
  trans := fun hst htu => ⟨htu.byToken.trans hst.byToken, htu.byOperator.trans hst.byOperator,
    addsNothing_trans hst.addsNothing htu.addsNothing⟩
  mutate := by
    intro store credentialId updates
    refine ⟨?_, ?_, writerRelation_addsNothing.mutate store credentialId updates⟩
    · unfold mutateRecord
      split <;> rfl
    · unfold mutateRecord
      split <;> rfl
  sameMaps := fun hById hToken hOperator =>
    ⟨hToken, hOperator, addsNothing_of_byId_eq hById⟩

def CredentialCall.issueToken (call : CredentialCall) : Option String :=
  match call.op with
  | .issueCredential _ _ drawn => some drawn.token
  | _ => none

/-- A new credential would get an id and a token that no credential has. -/
def FreshCredential (store : CredentialStore) (call : CredentialCall) : Prop :=
  FreshIds store call ∧
    ∀ token, call.issueToken = some token →
      ∀ id r, store.byId.get id = some r → r.token ≠ token

theorem operatorIds_upsertRecord (store : CredentialStore) (record : InternalCredentialRecord)
    (operatorId id : String) :
    id ∈ operatorIds (upsertRecord store record) operatorId ↔
      (operatorId = record.operatorId ∧ id = record.credentialId) ∨
        id ∈ operatorIds store operatorId := by
  unfold operatorIds upsertRecord
  simp only [AssocMap.get_set]
  by_cases hOperator : operatorId = record.operatorId
  · subst hOperator
    simp
  · simp [hOperator]

variable {store : CredentialStore} {s t : CredentialStore}

theorem StoreInvariant.upsertRecord (inv : StoreInvariant env store)
    {record : InternalCredentialRecord} (hDerived : Derived env record)
    (hId : store.byId.get record.credentialId = none)
    (hToken : ∀ id r, store.byId.get id = some r → r.token ≠ record.token) :
    StoreInvariant env (upsertRecord store record) := by
  -- an entry of the new store is the new record or an old entry under another id
  have hStored : ∀ {p : InternalCredentialRecord → Prop} {id : String},
      (∃ r, (Sessions.upsertRecord store record).byId.get id = some r ∧ p r) ↔
        (id = record.credentialId ∧ p record) ∨ ∃ r, store.byId.get id = some r ∧ p r := by
    intro p id
    rw [upsertRecord_get]
    by_cases hEq : id = record.credentialId
    · subst hEq
      simp [hId]
    · simp [hEq]
  refine ⟨?_, ?_, ?_⟩
  · intro id r hGet
    rw [upsertRecord_get] at hGet
    split at hGet
    · cases hGet
      exact hDerived
    · exact inv.derived id r hGet
  · intro token id
    rw [hStored, ← inv.byToken token id]
    show (store.byToken.set record.token record.credentialId).get token = some id ↔ _
    rw [AssocMap.get_set]
    split
    · next hNew =>
      subst hNew
      have hAbsent : store.byToken.get record.token ≠ some id := by
        intro hGet
        obtain ⟨r, hR, hEq⟩ := (inv.byToken _ _).mp hGet
        exact hToken id r hR hEq
      simp [hAbsent, eq_comm]
    · next hOld =>
      have hNe : record.token ≠ token := fun h => hOld h.symm
      simp [hNe]
  · intro operatorId id
    rw [hStored, operatorIds_upsertRecord, inv.byOperator operatorId id]
    simp only [and_comm, eq_comm]

theorem followed_of_get (hAdds : AddsNothing s t)
    (hRecords : ∀ id r, s.byId.get id = some r → ∃ r', t.byId.get id = some r' ∧ Follows env r r')
    (id : String) (r' : InternalCredentialRecord) (hGet' : t.byId.get id = some r') :
    ∃ r, s.byId.get id = some r ∧ Follows env r r' := by
  cases hGet : s.byId.get id with
  | none =>
    rw [hAdds id hGet] at hGet'
    cases hGet'
  | some r =>
    obtain ⟨r'', hGet'', hFollows⟩ := hRecords id r hGet
    rw [hGet', Option.some.injEq] at hGet''
    subst hGet''
    exact ⟨r, rfl, hFollows⟩

/-- A pass over the records that keeps issuances, derived fields and indexes. -/
theorem StoreInvariant.of_follows (inv : StoreInvariant env s) (hIndexes : SameIndexes s t)
    (hRecords : ∀ id r, s.byId.get id = some r → ∃ r', t.byId.get id = some r' ∧ Follows env r r') :
    StoreInvariant env t := by
  -- the same ids are stored, with the same issuances
  have hBack := followed_of_get env hIndexes.addsNothing hRecords
  have hField : ∀ {p : InternalCredentialRecord → String} {value id : String},
      (∀ r r', SameIssuance r r' → p r' = p r) →
        ((∃ r, s.byId.get id = some r ∧ p r = value) ↔
          ∃ r, t.byId.get id = some r ∧ p r = value) := by
    intro p value id hKept
    constructor
    · rintro ⟨r, hGet, rfl⟩
      obtain ⟨r', hGet', hFollows⟩ := hRecords id r hGet
      exact ⟨r', hGet', hKept r r' hFollows.same⟩
    · rintro ⟨r', hGet', rfl⟩
      obtain ⟨r, hGet, hFollows⟩ := hBack id r' hGet'
      exact ⟨r, hGet, (hKept r r' hFollows.same).symm⟩
  refine ⟨?_, ?_, ?_⟩
  · intro id r' hGet'
    obtain ⟨r, hGet, hFollows⟩ := hBack id r' hGet'
    exact hFollows.derived (inv.derived id r hGet)
  · intro token id
    rw [hIndexes.byToken, inv.byToken token id]
    exact hField fun r r' h => h.token
  · intro operatorId id
    unfold operatorIds
    rw [hIndexes.byOperator]
    exact (inv.byOperator operatorId id).trans (hField fun r r' h => h.operatorId)

/-! ## Runs -/

/-- Every operation keeps the invariant. -/
theorem storeInvariant_runOp (inv : StoreInvariant env store) {call : CredentialCall}
    (hFresh : FreshCredential store call) :
    StoreInvariant env (runOp config env store call).1 := by
  rcases writerRelation_sameIndexes.runOp_cases config env store call with
    hIndexes | ⟨store', expiresAt, ttlMs, credentialConfig, options, drawn, hIndexes, hOp, hFst, -⟩
  · refine inv.of_follows env hIndexes ?_
    intro id r hGet
    exact ⟨_, runOp_get_of_some config env hFresh.1 hGet,
      follows_recordEffect config env store call id r⟩
  · -- the records under the new one are those the eviction has left
    have hNew : store.byId.get (options.credentialId.getD drawn.credentialId) = none :=
      hFresh.1 _ (by simp only [CredentialCall.issueId, hOp])
    have hOld : ∀ id r, store.byId.get id = some r →
        store'.byId.get id = some (recordEffect config env store call id r) := by
      intro id r hGet
      have hAfter := runOp_get_of_some config env hFresh.1 hGet
      rw [hFst, upsertRecord_get, if_neg] at hAfter
      · exact hAfter
      · rintro rfl
        rw [show (newRecord env call.now expiresAt ttlMs credentialConfig options
          drawn).credentialId = options.credentialId.getD drawn.credentialId from rfl, hNew] at hGet
        cases hGet
    have hRecords : ∀ id r, store.byId.get id = some r →
        ∃ r', store'.byId.get id = some r' ∧ Follows env r r' := fun id r hGet =>
      ⟨_, hOld id r hGet, follows_recordEffect config env store call id r⟩
    have inv' := inv.of_follows env hIndexes hRecords
    rw [hFst]
    refine inv'.upsertRecord env ⟨rfl, rfl⟩ (hIndexes.addsNothing _ hNew) ?_
    intro id r' hGet' hToken
    -- a record with the drawn token would have been there before the call
    have hIndexed := (inv'.byToken r'.token id).mpr ⟨r', hGet', rfl⟩
    rw [hIndexes.byToken] at hIndexed
    obtain ⟨r, hGet, hSame⟩ := (inv.byToken r'.token id).mp hIndexed
    refine hFresh.2 drawn.token ?_ id r hGet (hSame.trans hToken)
    simp only [CredentialCall.issueToken, hOp]

/-- No operation changes what a stored record was issued with. -/
theorem keepsIssuance_runOp {call : CredentialCall} (hFresh : FreshIds store call) :
    KeepsIssuance store (runOp config env store call).1 := by
  intro id r hGet
  exact ⟨_, runOp_get_of_some config env hFresh hGet,
    (follows_recordEffect config env store call id r).same⟩

theorem storeInvariant_empty : StoreInvariant env .empty := by
  refine ⟨?_, ?_, ?_⟩
  · intro id r hGet
    cases hGet
  · intro token id
    simp [CredentialStore.empty]
  · intro operatorId id
    simp [operatorIds, CredentialStore.empty]

theorem storeInvariant_of_runs
    {h : List (Occurrence CredentialStore CredentialCall CredentialOutcome)}
    (hRun : (credentialMachine config env).Runs h store)
    (hFresh : AllMeet FreshCredential h) : StoreInvariant env store := by
  refine hRun.guarded hFresh (storeInvariant_empty env) ?_
  intro _ s call s' out _ _ inv hFreshCall hStep
  obtain ⟨rfl, -⟩ := credentialMachine_step config env hStep
  exact storeInvariant_runOp config env inv hFreshCall

/-- **The store represents its credentials.**  In every state of a run the
derived fields and both indexes are those of the stored records, and between any
two of its states no record changes id, token, operator, chats or time of
issue. -/
theorem store_represents_credentials
    {h : List (Occurrence CredentialStore CredentialCall CredentialOutcome)}
    {store : CredentialStore} (hRun : (credentialMachine config env).Runs h store)
    (hFresh : AllMeet FreshCredential h) :
    (∀ t ∈ visited h store, StoreInvariant env t) ∧
      (visited h store).Pairwise KeepsIssuance := by
  constructor
  · intro t ht
    obtain ⟨h', hRun', hSub⟩ := hRun.of_mem_visited ht
    exact storeInvariant_of_runs config env hRun' fun o ho => hFresh o (hSub o ho)
  · refine hRun.pairwise_visited keepsIssuance_trans ?_ hFresh
    intro s call s' out hFreshCall hStep
    obtain ⟨rfl, -⟩ := credentialMachine_step config env hStep
    exact keepsIssuance_runOp config env hFreshCall.1

def narrowedThenRevoked : List CredentialCall :=
  [⟨0, .issueCredential { operatorId := "op", chatIds := ["conv"], allow := some [.send, .react] }
      {} ⟨"cred", "token"⟩⟩,
    ⟨5, .updateCredentialScopes "cred" { allow := [.send], deny := [] }⟩,
    ⟨10, .revokeCredential "cred" .ownerInitiated⟩]

theorem store_represents_credentials_narrowed :
    ∃ h store,
      (credentialMachine {} sampleEnv).exec .empty narrowedThenRevoked = some (h, store) ∧
      ((∀ t ∈ visited h store, StoreInvariant sampleEnv t) ∧
        (visited h store).Pairwise KeepsIssuance) := by
  refine ⟨_, _, rfl, store_represents_credentials {} sampleEnv (runs_of_exec
    (show (credentialMachine {} sampleEnv).exec _ narrowedThenRevoked = _ from rfl)) ?_⟩
  intro o ho
  simp only [List.mem_cons, List.not_mem_nil, or_false] at ho
  rcases ho with rfl | rfl | rfl
  · refine ⟨?_, ?_⟩
    · intro id hId
      rfl
    · intro token hToken id r hGet
      cases hGet
  · exact ⟨by rintro _ ⟨⟩, by rintro _ ⟨⟩⟩
  · exact ⟨by rintro _ ⟨⟩, by rintro _ ⟨⟩⟩

/-! ## The bearer token -/

theorem issued_stored {call : CredentialCall} {r : InternalCredentialRecord}
    (h : (runOp config env store call).2 = .issued (.ok r)) :
    (runOp config env store call).1.byId.get r.credentialId = some r := by
  obtain ⟨now, op⟩ := call
  cases op with
  | issueCredential credentialConfig options drawn =>
    simp only [runOp, CredentialOutcome.issued.injEq] at h ⊢
    rcases issueCredential_cases config env now store credentialConfig options drawn with
      ⟨existing, hActive, hEq⟩ | hEq | ⟨expiresAt, ttlMs, hFst, hSnd⟩
    · rw [hEq] at h ⊢
      cases h
      exact (mem_getActiveForOperator hActive).1
    · rw [hEq] at h
      cases h
    · rw [hSnd, Except.ok.injEq] at h
      rw [hFst, ← h, upsertRecord_get, if_pos rfl]
  | renewCredential credentialId =>
    simp only [runOp, CredentialOutcome.issued.injEq] at h
    obtain ⟨found, hGet, hActive, hWindow, newExpiresAt, hIso, rfl⟩ :=
      (renewCredential_ok_iff config).mp h
    have hKey := store.keyed _ _ hGet
    subst hKey
    rw [runOp_get_of_some config env (by rintro _ ⟨⟩) hGet]
    simp [recordEffect, renewedRecord, hActive, hWindow, hIso]
  | _ => cases h

variable {h : List (Occurrence CredentialStore CredentialCall CredentialOutcome)}

/-- What a run has handed out is stored, as it was issued. -/
theorem issued_kept (hRun : (credentialMachine config env).Runs h store)
    (hFresh : AllMeet FreshCredential h) : ∀ o ∈ h, ∀ r, .issued (.ok r) ∈ o.out →
      ∃ current, store.byId.get r.credentialId = some current ∧ SameIssuance r current := by
  induction hRun with
  | start => simp
  | @step h s s' call out hRun hStep ih =>
    obtain ⟨rfl, rfl⟩ := credentialMachine_step config env hStep
    rw [allMeet_snoc] at hFresh
    intro o ho r hIssued
    rcases List.mem_append.mp ho with ho | ho
    · obtain ⟨old, hOld, hSame⟩ := ih hFresh.1 o ho r hIssued
      obtain ⟨current, hGet, hKept⟩ := keepsIssuance_runOp config env hFresh.2.1 _ old hOld
      exact ⟨current, hGet, hSame.trans hKept⟩
    · rw [List.mem_singleton] at ho
      subst ho
      exact ⟨r, issued_stored config env (List.mem_singleton.mp hIssued).symm, .refl r⟩

/-- A token of `h` finds the credential it was handed out with, as issued, while it
is active and its deadline is ahead, and is told that it has expired at every other
time; no other token finds it. -/
structure TokensName (h : List (Occurrence CredentialStore CredentialCall CredentialOutcome))
    (store : CredentialStore) : Prop where
  finds : ∀ o ∈ h, ∀ r, .issued (.ok r) ∈ o.out → r.credentialId ≠ "" →
    ∃ current, store.byId.get r.credentialId = some current ∧ SameIssuance r current ∧
      ∀ now, (getCredentialByToken now store r.token).2 =
        if now < current.expiresAt ∧ current.status = .active then .ok current
        else .error (CredentialExpiredError.create r.credentialId)
  found : ∀ now token current, (getCredentialByToken now store token).2 = .ok current →
    current.token = token

/-- **A bearer token names one credential**, at every moment of a run. -/
theorem token_names_credential (hRun : (credentialMachine config env).Runs h store)
    (hFresh : AllMeet FreshCredential h) : TokensName h store := by
  have inv := storeInvariant_of_runs config env hRun hFresh
  constructor
  · intro o ho r hIssued hNonempty
    obtain ⟨current, hGet, hSame⟩ := issued_kept config env hRun hFresh o ho r hIssued
    refine ⟨current, hGet, hSame, ?_⟩
    intro now
    have hIndexed := (inv.byToken r.token r.credentialId).mpr ⟨current, hGet, hSame.token⟩
    simp only [getCredentialByToken, hIndexed, hNonempty, if_false, hGet]
    by_cases hPast : current.expiresAt ≤ now
    · simp [hPast, Int.not_lt.mpr hPast]
    · by_cases hActive : current.status = .active
      · simp [hPast, hActive, Int.not_le.mp hPast]
      · simp [hPast, hActive]
  · intro now token current hFound
    -- the index led to the record, so the record has the token
    cases hIndexed : store.byToken.get token with
    | none => simp [getCredentialByToken, hIndexed] at hFound
    | some id =>
      obtain ⟨r, hGet, hToken⟩ := (inv.byToken token id).mp hIndexed
      simp only [getCredentialByToken, hIndexed, hGet] at hFound
      split_ifs at hFound
      cases hFound
      exact hToken

def issuedThenLookedUp : List CredentialCall :=
  [⟨0, .issueCredential { operatorId := "op", chatIds := ["conv"] } {} ⟨"cred", "token"⟩⟩,
    ⟨5, .lookupByToken "token"⟩]

theorem token_names_credential_looked_up :
    ∃ h store,
      (credentialMachine {} sampleEnv).exec .empty issuedThenLookedUp = some (h, store) ∧
      TokensName h store := by
  refine ⟨_, _, rfl, token_names_credential {} sampleEnv (runs_of_exec
    (show (credentialMachine {} sampleEnv).exec _ issuedThenLookedUp = _ from rfl)) ?_⟩
  intro o ho
  simp only [List.mem_cons, List.not_mem_nil, or_false] at ho
  rcases ho with rfl | rfl
  · refine ⟨?_, ?_⟩
    · intro id hId
      rfl
    · intro token hToken id r hGet
      cases hGet
  · exact ⟨by rintro _ ⟨⟩, by rintro _ ⟨⟩⟩

end Sessions
end Signet
