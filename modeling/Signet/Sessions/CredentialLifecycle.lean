import Signet.Sessions.CredentialEffects

/-!
# Revocation and expiry over whole runs of the manager

Two laws of the credential lifecycle, for every sequence of operations at any
clock readings, with the exact condition under which the manager keeps them.

* `Frozen` — between two states, no revoked credential changed its status, its
  revocation time or its revocation reason.  A step keeps it exactly when it
  meets `LeavesRevoked`: a token lookup past the deadline, a direct status write
  and a second revocation do not check for a revoked credential.
* `StaysExpired` — once a deadline has passed, no later operation hands the
  credential out as active.  A step keeps it exactly when it meets
  `RespectsDeadline`: renewal, heartbeat, scope update and the direct status
  write look at the status field and not at the deadline.
-/

namespace Signet
namespace Sessions

open Kit Machine Schemas Policy

variable (config : CredentialManagerConfig) (env : HashEnv)

/-! ## Revocation -/

/-- A record that is revoked in the same way as another. -/
structure SameRevocation (r r' : InternalCredentialRecord) : Prop where
  status : r'.status = .revoked
  revokedAt : r'.revokedAt = r.revokedAt
  revocationReason : r'.revocationReason = r.revocationReason

/-- No credential revoked in `s` is revoked differently, or not at all, in `t`. -/
def Frozen (s t : CredentialStore) : Prop :=
  ∀ id r, s.byId.get id = some r → r.status = .revoked →
    ∃ r', t.byId.get id = some r' ∧ SameRevocation r r'

theorem frozen_trans (s t u : CredentialStore) (hst : Frozen s t) (htu : Frozen t u) :
    Frozen s u := by
  intro id r hGet hRevoked
  obtain ⟨r', hGet', hSame⟩ := hst id r hGet hRevoked
  obtain ⟨r'', hGet'', hSame'⟩ := htu id r' hGet' hSame.status
  exact ⟨r'', hGet'', hSame'.status, hSame'.revokedAt.trans hSame.revokedAt,
    hSame'.revocationReason.trans hSame.revocationReason⟩

/-- What the three unguarded writers must find when they meet the revoked
credential `r`: the lookup its deadline ahead, the status write nothing to
change, the second revocation the same reason at the same clock reading. -/
def LeavesRevocation (store : CredentialStore) (call : CredentialCall) (id : String)
    (r : InternalCredentialRecord) : Prop :=
  match call.op with
  | .getCredentialByToken token | .lookupByToken token =>
    store.byToken.get token = some id → id ≠ "" → call.now < r.expiresAt
  | .setCredentialStatus credentialId status => credentialId = id → status = .revoked
  | .revokeCredential credentialId reason =>
    credentialId = id → r.revokedAt = some call.now ∧ r.revocationReason = some reason
  | _ => True

/-- The call leaves every revoked credential alone. -/
def LeavesRevoked (store : CredentialStore) (call : CredentialCall) : Prop :=
  ∀ id r, store.byId.get id = some r → r.status = .revoked → LeavesRevocation store call id r

variable {store : CredentialStore} {now : Int} {r result : InternalCredentialRecord}
  {credentialId id : String} {operatorId : String}

theorem not_evicted_of_revoked {config : CredentialManagerConfig}
    (hGet : store.byId.get id = some r) (hRevoked : r.status = .revoked) :
    (evicted config store operatorId).map InternalCredentialRecord.credentialId ≠ some id := by
  intro hEq
  obtain ⟨oldest, hOldest, rfl⟩ := Option.map_eq_some_iff.mp hEq
  obtain ⟨hStored, hActive⟩ := evicted_stored hOldest
  rw [hGet, Option.some.injEq] at hStored
  subst hStored
  rw [hRevoked] at hActive
  cases hActive

theorem not_active_of_revoked (hGet : store.byId.get id = some r) (hRevoked : r.status = .revoked) :
    id ∉ (getActiveForOperator store operatorId).map
      InternalCredentialRecord.credentialId := by
  intro hMem
  obtain ⟨cred, hCred, rfl⟩ := List.mem_map.mp hMem
  obtain ⟨hStored, hActive⟩ := mem_getActiveForOperator hCred
  rw [hGet, Option.some.injEq] at hStored
  subst hStored
  rw [hRevoked] at hActive
  cases hActive

/-- The effect of an operation on a revoked record keeps its revocation exactly
under that condition. -/
theorem sameRevocation_recordEffect_iff (store : CredentialStore) (call : CredentialCall)
    (hGet : store.byId.get id = some r) (hRevoked : r.status = .revoked) :
    SameRevocation r (recordEffect config env store call id r) ↔
      LeavesRevocation store call id r := by
  have hSelf : SameRevocation r r := ⟨hRevoked, rfl, rfl⟩
  have hInactive : r.status ≠ .active := by
    rw [hRevoked]
    decide
  have hLookup : ∀ token, SameRevocation r
      (if store.byToken.get token = some id ∧ id ≠ "" ∧ r.expiresAt ≤ call.now then
        { r with status := .expired } else r) ↔
      (store.byToken.get token = some id → id ≠ "" → call.now < r.expiresAt) := by
    intro token
    split
    · next hHit =>
      obtain ⟨hToken, hNonempty, hDeadline⟩ := hHit
      constructor
      · intro hSame
        exact absurd hSame.status (by simp)
      · intro hAhead
        have := hAhead hToken hNonempty
        omega
    · next hMiss =>
      refine iff_of_true hSelf ?_
      intro hToken hNonempty
      by_contra hDeadline
      exact hMiss ⟨hToken, hNonempty, by omega⟩
  obtain ⟨now, op⟩ := call
  cases op with
  | issueCredential credentialConfig options drawn =>
    simp only [LeavesRevocation, recordEffect, not_evicted_of_revoked hGet hRevoked, if_false, iff_true]
    exact hSelf
  | getCredentialByToken token => exact hLookup token
  | lookupByToken token => exact hLookup token
  | getCredentialById credentialId => exact iff_of_true hSelf trivial
  | getActiveCredentials operatorId => exact iff_of_true hSelf trivial
  | listCredentials operatorId => exact iff_of_true hSelf trivial
  | recordHeartbeat credentialId =>
    simp only [LeavesRevocation, recordEffect, hInactive, and_false, if_false, iff_true]
    exact hSelf
  | renewCredential credentialId =>
    simp only [LeavesRevocation, recordEffect, renewedRecord, hInactive, false_and, if_false, ite_self,
      iff_true]
    exact hSelf
  | updateCredentialScopes credentialId scopes =>
    simp only [LeavesRevocation, recordEffect, hInactive, and_false, if_false, iff_true]
    exact hSelf
  | revokeCredential credentialId reason =>
    simp only [LeavesRevocation, recordEffect]
    by_cases hId : credentialId = id
    · simp only [hId, if_true, forall_const]
      constructor
      · rintro ⟨-, hAt, hReason⟩
        exact ⟨hAt.symm, hReason.symm⟩
      · rintro ⟨hAt, hReason⟩
        exact ⟨rfl, hAt.symm, hReason.symm⟩
    · simp only [hId, if_false, false_imp_iff, iff_true]
      exact hSelf
  | revokeAllCredentials operatorId reason =>
    simp only [LeavesRevocation, recordEffect, not_active_of_revoked hGet hRevoked, if_false, iff_true]
    exact hSelf
  | checkMateriality credentialId newScopes => exact iff_of_true hSelf trivial
  | getRevealState credentialId => exact iff_of_true hSelf trivial
  | setCredentialStatus credentialId status =>
    simp only [LeavesRevocation, recordEffect]
    by_cases hId : credentialId = id
    · simp only [hId, if_true, forall_const]
      constructor
      · intro hSame
        exact hSame.status
      · intro hStatus
        exact ⟨hStatus, rfl, rfl⟩
    · simp only [hId, if_false, false_imp_iff, iff_true]
      exact hSelf
  | sweepExpired =>
    simp only [LeavesRevocation, recordEffect, sweptRecord, hInactive, ne_eq, not_false_eq_true, if_true,
      iff_true]
    exact hSelf
  | isHeartbeatStale credentialId => exact iff_of_true hSelf trivial

/-- One operation freezes revocations exactly when it leaves revoked
credentials alone. -/
theorem frozen_runOp_iff {call : CredentialCall} (hFresh : FreshIds store call) :
    Frozen store (runOp config env store call).1 ↔ LeavesRevoked store call := by
  unfold Frozen LeavesRevoked
  refine forall_congr' fun id => forall_congr' fun r => ?_
  refine forall_congr' fun hGet => forall_congr' fun hRevoked => ?_
  rw [runOp_get_of_some config env hFresh hGet,
    ← sameRevocation_recordEffect_iff config env store call hGet hRevoked]
  simp

/-- **Revocation is terminal, exactly so far.**  Along a run of the manager no
two states disagree about a revocation if and only if every step of the run
left the revoked credentials alone. -/
theorem revocation_frozen_iff
    {h : List (Occurrence CredentialStore CredentialCall CredentialOutcome)}
    {store : CredentialStore} (hRun : (credentialMachine config env).Runs h store)
    (hFresh : AllMeet FreshIds h) :
    (visited h store).Pairwise Frozen ↔ AllMeet LeavesRevoked h := by
  refine Runs.pairwise_visited_iff frozen_trans ?_ hRun hFresh
  intro s call s' out hFreshCall hStep
  obtain ⟨rfl, -⟩ := credentialMachine_step config env hStep
  exact frozen_runOp_iff config env hFreshCall

/-- A credential issued, revoked by its owner, and looked up by its token after
the deadline. -/
def lookupAfterRevocation : List CredentialCall :=
  [⟨0, .issueCredential { operatorId := "op", chatIds := ["conv"], ttlSeconds := some 60 } {}
      ⟨"cred", "token"⟩⟩,
    ⟨10, .revokeCredential "cred" .ownerInitiated⟩,
    ⟨60000, .lookupByToken "token"⟩]

/-- The lookup turns the revoked credential into an expired one, whatever the
hash function of the host. -/
theorem revocation_overwritten_by_lookup :
    ¬ ∃ env : HashEnv, ∀ h store,
      (credentialMachine {} env).exec .empty lookupAfterRevocation = some (h, store) →
      AllMeet FreshIds h → (visited h store).Pairwise Frozen := by
  rintro ⟨env, hLaw⟩
  have hPairwise := hLaw _ _ rfl ?_
  · -- the states after the revocation and after the lookup
    have hFrozen := (List.pairwise_cons.mp (List.pairwise_cons.mp
      (List.pairwise_cons.mp hPairwise).2).2).1 _ (List.mem_singleton.mpr rfl)
    obtain ⟨r', hGet, hSame⟩ := hFrozen "cred" _ rfl rfl
    have hStatus := hSame.status
    cases hGet
    cases hStatus
  · intro o ho id hId
    simp only [List.mem_cons, List.not_mem_nil, or_false] at ho
    rcases ho with rfl | rfl | rfl
    · rfl
    · cases hId
    · cases hId

/-- A host with a small hash function. -/
def sampleEnv : HashEnv := ⟨String.length, fun left right => left ≤ right⟩

/-- A credential issued, revoked by its owner, and swept past. -/
def sweepAfterRevocation : List CredentialCall :=
  [⟨0, .issueCredential { operatorId := "op", chatIds := ["conv"] } {} ⟨"cred", "token"⟩⟩,
    ⟨10, .revokeCredential "cred" .ownerInitiated⟩, ⟨4000000, .sweepExpired⟩]

/-- The sweep leaves the revocation as it is. -/
theorem revocation_frozen_through_sweep :
    ∃ h store,
      (credentialMachine {} sampleEnv).exec .empty sweepAfterRevocation = some (h, store) ∧
      (visited h store).Pairwise Frozen := by
  refine ⟨_, _, rfl, (revocation_frozen_iff {} sampleEnv (runs_of_exec
    (show (credentialMachine {} sampleEnv).exec _ sweepAfterRevocation = _ from rfl)) ?_).mpr
    ?_⟩
  · intro o ho id hId
    simp only [List.mem_cons, List.not_mem_nil, or_false] at ho
    rcases ho with rfl | rfl | rfl
    · rfl
    · cases hId
    · cases hId
  · intro o ho id r hGet hRevoked
    simp only [List.mem_cons, List.not_mem_nil, or_false] at ho
    rcases ho with rfl | rfl | rfl
    · trivial
    · rintro rfl
      cases hGet
      cases hRevoked
    · trivial

/-! ## Expiry -/

/-- The credential is stored and its deadline has passed at `now`. -/
def PastDeadline (store : CredentialStore) (now : Int) (id : String) : Prop :=
  ∃ r, store.byId.get id = some r ∧ r.expiresAt ≤ now

def CredentialOutcome.credential : CredentialOutcome → Option InternalCredentialRecord
  | .issued (.ok r) | .record (.ok r) => some r
  | _ => none

@[simp]
theorem credential_issued {result : Except Failure InternalCredentialRecord} :
    (CredentialOutcome.issued result).credential = some r ↔ result = .ok r := by
  cases result <;> simp [CredentialOutcome.credential]

@[simp]
theorem credential_record {result : Except SignetError InternalCredentialRecord} :
    (CredentialOutcome.record result).credential = some r ↔ result = .ok r := by
  cases result <;> simp [CredentialOutcome.credential]

/-- An operation hands the credential out as active, lets its token
authenticate, or accepts its heartbeat. -/
def HandsOut (call : CredentialCall) (outcome : CredentialOutcome) (id : String) : Prop :=
  match call.op with
  | .recordHeartbeat credentialId => credentialId = id ∧ outcome = .done (.ok ())
  | .renewCredential _ | .updateCredentialScopes _ _ | .getCredentialByToken _
  | .lookupByToken _ | .setCredentialStatus _ _ =>
    ∃ r, outcome.credential = some r ∧ r.credentialId = id ∧ r.status = .active
  | _ => False

/-- What was past its deadline at the first step is not handed out at the
second. -/
def KeepsExpired (o o' : Occurrence CredentialStore CredentialCall CredentialOutcome) : Prop :=
  ∀ id, PastDeadline o.pre o.label.now id → ∀ outcome ∈ o'.out, ¬ HandsOut o'.label outcome id

/-- No step hands out a credential that was past its deadline then or before. -/
def StaysExpired (h : List (Occurrence CredentialStore CredentialCall CredentialOutcome)) :
    Prop :=
  h.Pairwise KeepsExpired ∧ ∀ o ∈ h, KeepsExpired o o

/-- What the operations that ignore the deadline must find when they meet the
credential `r` past it: the renewal an inactive credential (or grounds to refuse
or throw), heartbeat and scope update an inactive one, and the status write must
not write `active`. -/
def HoldsBack (call : CredentialCall) (id : String) (r : InternalCredentialRecord) : Prop :=
  match call.op with
  | .renewCredential credentialId =>
    credentialId = id → r.status = .active →
      config.renewalWindowSeconds * 1000 < r.expiresAt - call.now ∨
        toISOString (call.now + r.ttlMs) = none
  | .recordHeartbeat credentialId => credentialId = id → r.status ≠ .active
  | .updateCredentialScopes credentialId _ => credentialId = id → r.status ≠ .active
  | .setCredentialStatus credentialId status => credentialId = id → status ≠ .active
  | _ => True

/-- The call holds back every credential past its deadline. -/
def RespectsDeadline (store : CredentialStore) (call : CredentialCall) : Prop :=
  ∀ id r, store.byId.get id = some r → r.expiresAt ≤ call.now → HoldsBack config call id r

theorem getCredentialByToken_ok {token : String}
    (h : (getCredentialByToken now store token).2 = .ok r) :
    store.byId.get r.credentialId = some r ∧ r.status = .active ∧ now < r.expiresAt := by
  unfold getCredentialByToken at h
  split at h
  · cases h
  · split at h
    · cases h
    · split at h
      · cases h
      · next credentialId _ _ _ record hGet =>
        split at h
        · cases h
        · next hDeadline =>
          split at h
          · cases h
          · next hActive =>
            cases h
            have hKey := store.keyed _ _ hGet
            subst hKey
            exact ⟨hGet, by simpa using hActive, by omega⟩

theorem renewCredential_ok_iff :
    (renewCredential config now store credentialId).2 = .ok result ↔
      ∃ r, store.byId.get credentialId = some r ∧ r.status = .active ∧
        r.expiresAt - now ≤ config.renewalWindowSeconds * 1000 ∧
        ∃ newExpiresAt, toISOString (now + r.ttlMs) = some newExpiresAt ∧
          { r with expiresAt := newExpiresAt } = result := by
  unfold renewCredential
  cases hGet : store.byId.get credentialId with
  | none => simp
  | some r =>
    simp only [Option.some.injEq, exists_eq_left']
    generalize r.expiresAt - now = remainingMs
    by_cases hActive : r.status = .active
    · by_cases hWindow : remainingMs ≤ config.renewalWindowSeconds * 1000
      · have hOpen : ¬ config.renewalWindowSeconds * 1000 < remainingMs := by omega
        cases hIso : toISOString (now + r.ttlMs) with
        | none => simp [hActive, hOpen]
        | some newExpiresAt =>
          simp [hActive, hWindow, hOpen, mutateOrNotFound_ok _ hGet, Except.mapError,
            RecordUpdates.applyTo]
      · have hShut : config.renewalWindowSeconds * 1000 < remainingMs := by omega
        simp [hActive, hWindow, hShut]
    · simp [hActive]

theorem recordHeartbeat_ok_iff :
    (recordHeartbeat now store credentialId).2 = .ok () ↔
      ∃ r, store.byId.get credentialId = some r ∧ r.status = .active := by
  unfold recordHeartbeat
  cases hGet : store.byId.get credentialId with
  | none => simp
  | some r =>
    by_cases hActive : r.status = .active
    · simp [hActive, mutateOrNotFound_ok _ hGet, Except.map]
    · simp [hActive]

theorem updateCredentialScopes_ok_iff {scopes : ScopeSet} :
    (updateCredentialScopes env store credentialId scopes).2 = .ok result ↔
      ∃ r, store.byId.get credentialId = some r ∧ r.status = .active ∧
        rescopedRecord env scopes r = result := by
  unfold updateCredentialScopes
  cases hGet : store.byId.get credentialId with
  | none => simp
  | some r =>
    by_cases hActive : r.status = .active
    · simp [hActive, mutateOrNotFound_ok _ hGet, RecordUpdates.applyTo, rescopedRecord]
    · simp [hActive]

theorem setCredentialStatus_ok_iff {status : CredentialStatus} :
    (setCredentialStatus store credentialId status).2 = .ok result ↔
      ∃ r, store.byId.get credentialId = some r ∧ { r with status := status } = result := by
  unfold setCredentialStatus
  cases hGet : store.byId.get credentialId with
  | none => simp
  | some r => simp [mutateOrNotFound_ok _ hGet, RecordUpdates.applyTo]

/-- At a credential past its deadline, an operation hands it out exactly if it
does not hold it back. -/
theorem not_handsOut_runOp_iff (store : CredentialStore) (call : CredentialCall)
    (hGet : store.byId.get id = some r) (hPast : r.expiresAt ≤ call.now) :
    ¬ HandsOut call (runOp config env store call).2 id ↔ HoldsBack config call id r := by
  have hKey := store.keyed id r hGet
  have hLookup : ∀ token, ¬ ∃ found,
      (getCredentialByToken call.now store token).2 = .ok found ∧
        found.credentialId = id ∧ found.status = .active := by
    rintro token ⟨found, hFound, rfl, -⟩
    obtain ⟨hStored, -, hAhead⟩ := getCredentialByToken_ok hFound
    rw [hGet, Option.some.injEq] at hStored
    subst hStored
    omega
  obtain ⟨now, op⟩ := call
  cases op with
  | renewCredential credentialId =>
    simp only [HandsOut, HoldsBack, runOp, credential_issued, renewCredential_ok_iff]
    constructor
    · rintro hNot rfl hActive
      by_contra hBoth
      rw [not_or] at hBoth
      obtain ⟨hWindow, hIso⟩ := hBoth
      obtain ⟨newExpiresAt, hIso⟩ := Option.ne_none_iff_exists'.mp hIso
      exact hNot ⟨_, ⟨r, hGet, hActive, by omega, newExpiresAt, hIso, rfl⟩, hKey, hActive⟩
    · rintro hBack ⟨_, ⟨found, hFound, hActive, hWindow, newExpiresAt, hIso, rfl⟩, hId, -⟩
      have hEq : credentialId = id := (store.keyed _ _ hFound).symm.trans hId
      subst hEq
      rw [hGet, Option.some.injEq] at hFound
      subst hFound
      rcases hBack rfl hActive with hShut | hThrows
      · omega
      · rw [hIso] at hThrows
        cases hThrows
  | recordHeartbeat credentialId =>
    simp only [HandsOut, HoldsBack, runOp, CredentialOutcome.done.injEq,
      recordHeartbeat_ok_iff, not_and]
    refine forall_congr' ?_
    rintro rfl
    simp [hGet]
  | updateCredentialScopes credentialId scopes =>
    simp only [HandsOut, HoldsBack, runOp, credential_record, updateCredentialScopes_ok_iff]
    constructor
    · rintro hNot rfl hActive
      exact hNot ⟨_, ⟨r, hGet, hActive, rfl⟩, hKey, hActive⟩
    · rintro hBack ⟨_, ⟨found, hFound, hActive, rfl⟩, hId, -⟩
      have hEq : credentialId = id := (store.keyed _ _ hFound).symm.trans hId
      subst hEq
      rw [hGet, Option.some.injEq] at hFound
      subst hFound
      exact hBack rfl hActive
  | setCredentialStatus credentialId status =>
    simp only [HandsOut, HoldsBack, runOp, credential_record, setCredentialStatus_ok_iff]
    constructor
    · rintro hNot rfl hStatus
      exact hNot ⟨_, ⟨r, hGet, rfl⟩, hKey, hStatus⟩
    · rintro hBack ⟨_, ⟨found, hFound, rfl⟩, hId, hStatus⟩
      exact hBack ((store.keyed _ _ hFound).symm.trans hId) hStatus
  | getCredentialByToken token =>
    simp only [HandsOut, HoldsBack, runOp, credential_record, iff_true]
    exact hLookup token
  | lookupByToken token =>
    simp only [HandsOut, HoldsBack, runOp, credential_record, iff_true]
    exact hLookup token
  | issueCredential _ _ _ | getCredentialById _ | getActiveCredentials _ | listCredentials _
  | revokeCredential _ _ | revokeAllCredentials _ _ | checkMateriality _ _
  | getRevealState _ | sweepExpired | isHeartbeatStale _ =>
    exact iff_of_true (fun hOut => hOut) trivial

/-- A step hands out no credential past its deadline exactly if it respects
deadlines. -/
theorem keepsExpired_self_iff (store : CredentialStore) (call : CredentialCall) :
    KeepsExpired ⟨store, call, [(runOp config env store call).2]⟩
        ⟨store, call, [(runOp config env store call).2]⟩ ↔
      RespectsDeadline config store call := by
  constructor
  · intro hKeeps id r hGet hPast
    exact (not_handsOut_runOp_iff config env store call hGet hPast).mp
      (hKeeps id ⟨r, hGet, hPast⟩ _ (List.mem_singleton.mpr rfl))
  · rintro hRespects id ⟨r, hGet, hPast⟩ outcome hOut
    rw [List.mem_singleton] at hOut
    subst hOut
    exact (not_handsOut_runOp_iff config env store call hGet hPast).mpr
      (hRespects id r hGet hPast)

/-- A step that respects deadlines moves none that has passed. -/
theorem pastDeadline_runOp {call : CredentialCall} (hFresh : FreshIds store call)
    (hRespects : RespectsDeadline config store call) (hClock : now ≤ call.now)
    (hPast : PastDeadline store now id) :
    PastDeadline (runOp config env store call).1 now id := by
  obtain ⟨r, hGet, hLe⟩ := hPast
  have hMeets := hRespects id r hGet (by omega)
  refine ⟨_, runOp_get_of_some config env hFresh hGet, ?_⟩
  have hSame : (recordEffect config env store call id r).expiresAt = r.expiresAt := by
    obtain ⟨callNow, op⟩ := call
    cases op with
    | renewCredential credentialId =>
      simp only [recordEffect, renewedRecord]
      split
      · next hId =>
        split
        · next hOpen =>
          rcases hMeets hId hOpen.1 with hShut | hIso
          · simp only at hOpen hShut
            omega
          · simp only at hIso
            simp only [hIso]
        · rfl
      · rfl
    | sweepExpired =>
      simp only [recordEffect, sweptRecord]
      split_ifs <;> rfl
    | getCredentialById _ | getActiveCredentials _ | listCredentials _ | checkMateriality _ _
    | getRevealState _ | isHeartbeatStale _ => rfl
    | _ =>
      simp only [recordEffect]
      split <;> rfl
  rw [hSame]
  exact hLe

/-- In a run that respects deadlines, what a step found past its deadline still
is at every later clock reading, and no later step hands it out. -/
theorem pastDeadline_persists
    {h : List (Occurrence CredentialStore CredentialCall CredentialOutcome)}
    (hRun : (credentialMachine config env).Runs h store)
    (hClock : h.Pairwise fun o o' => o.label.now ≤ o'.label.now)
    (hFresh : AllMeet FreshIds h) (hMeet : AllMeet (RespectsDeadline config) h) :
    h.Pairwise KeepsExpired ∧
      ∀ o ∈ h, ∀ id now, (∀ o' ∈ h, o'.label.now ≤ now) →
        PastDeadline o.pre o.label.now id → PastDeadline store now id := by
  induction hRun with
  | start => simp
  | @step h s s' call out hRun hStep ih =>
    rw [List.pairwise_append] at hClock
    rw [allMeet_snoc] at hFresh hMeet
    obtain ⟨hKeeps, hPersist⟩ := ih hClock.1 hFresh.1 hMeet.1
    obtain ⟨rfl, rfl⟩ := credentialMachine_step config env hStep
    have hLast := (keepsExpired_self_iff config env s call).mpr hMeet.2
    have hBefore : ∀ o ∈ h, o.label.now ≤ call.now := fun o ho =>
      hClock.2.2 o ho _ (List.mem_singleton.mpr rfl)
    constructor
    · rw [List.pairwise_append]
      refine ⟨hKeeps, List.pairwise_singleton _ _, ?_⟩
      intro o ho o' ho' id hPast
      rw [List.mem_singleton] at ho'
      subst ho'
      exact hLast id (hPersist o ho id call.now hBefore hPast)
    · intro o ho id now hAll hPast
      have hCall : call.now ≤ now :=
        hAll ⟨s, call, [(runOp config env s call).2]⟩ (by simp)
      have hOld : PastDeadline s call.now id := by
        rcases List.mem_append.mp ho with ho | ho
        · exact hPersist o ho id call.now hBefore hPast
        · rw [List.mem_singleton] at ho
          subst ho
          exact hPast
      obtain ⟨r, hGet, hPastNow⟩ :=
        pastDeadline_runOp config env hFresh.2 hMeet.2 le_rfl hOld
      exact ⟨r, hGet, hPastNow.trans hCall⟩

/-- **Expiry is final, exactly so far.**  Along a run with a monotone clock no
operation hands out a credential after its deadline, whether swept or not, if
and only if every step of the run respected the deadlines. -/
theorem expiry_final_iff
    {h : List (Occurrence CredentialStore CredentialCall CredentialOutcome)}
    {store : CredentialStore} (hRun : (credentialMachine config env).Runs h store)
    (hClock : h.Pairwise fun o o' => o.label.now ≤ o'.label.now)
    (hFresh : AllMeet FreshIds h) :
    StaysExpired h ↔ AllMeet (RespectsDeadline config) h := by
  have hSelf : ∀ o ∈ h, KeepsExpired o o ↔ RespectsDeadline config o.pre o.label := by
    intro o ho
    obtain ⟨s', hStep⟩ := hRun.step_of_mem ho
    obtain ⟨pre, call, out⟩ := o
    simp only at hStep
    obtain ⟨-, rfl⟩ := credentialMachine_step config env hStep
    exact keepsExpired_self_iff config env pre call
  constructor
  · rintro ⟨-, hKeeps⟩ o ho
    exact (hSelf o ho).mp (hKeeps o ho)
  · intro hMeet
    exact ⟨(pastDeadline_persists config env hRun hClock hFresh hMeet).1,
      fun o ho => (hSelf o ho).mpr (hMeet o ho)⟩

/-- A credential issued for a minute and renewed an hour later, with no sweep in
between. -/
def renewalAfterDeadline : List CredentialCall :=
  [⟨0, .issueCredential { operatorId := "op", chatIds := ["conv"], ttlSeconds := some 60 } {}
      ⟨"cred", "token"⟩⟩,
    ⟨3600000, .renewCredential "cred"⟩]

/-- The renewal hands the expired credential out as active again, whatever the
hash function of the host. -/
theorem expired_credential_renewed :
    ¬ ∃ env : HashEnv, ∀ h store,
      (credentialMachine {} env).exec .empty renewalAfterDeadline = some (h, store) →
      (h.Pairwise fun o o' => o.label.now ≤ o'.label.now) →
      AllMeet FreshIds h → StaysExpired h := by
  rintro ⟨env, hLaw⟩
  have hStays := hLaw _ _ rfl (by simp) ?_
  · have hKeeps := hStays.2 _ (List.mem_cons_of_mem _ (List.mem_singleton.mpr rfl))
    have hPast : (60000 : Int) ≤ 3600000 := by decide
    exact hKeeps "cred" ⟨_, rfl, hPast⟩ _ (List.mem_singleton.mpr rfl) ⟨_, rfl, rfl, rfl⟩
  · intro o ho id hId
    simp only [List.mem_cons, List.not_mem_nil, or_false] at ho
    rcases ho with rfl | rfl
    · rfl
    · cases hId

def lookupAfterDeadline : List CredentialCall :=
  [⟨0, .issueCredential { operatorId := "op", chatIds := ["conv"], ttlSeconds := some 60 } {}
      ⟨"cred", "token"⟩⟩,
    ⟨3600000, .lookupByToken "token"⟩, ⟨3600001, .renewCredential "cred"⟩]

/-- The lookup marks the credential expired, so the renewal after it is refused. -/
theorem expiry_final_after_lookup :
    ∃ h store,
      (credentialMachine {} sampleEnv).exec .empty lookupAfterDeadline = some (h, store) ∧
      StaysExpired h := by
  refine ⟨_, _, rfl, (expiry_final_iff {} sampleEnv (runs_of_exec
    (show (credentialMachine {} sampleEnv).exec _ lookupAfterDeadline = _ from rfl))
    ?_ ?_).mpr ?_⟩
  · simp
  · intro o ho id hId
    simp only [List.mem_cons, List.not_mem_nil, or_false] at ho
    rcases ho with rfl | rfl | rfl
    · rfl
    · cases hId
    · cases hId
  · intro o ho id r hGet hPast
    simp only [List.mem_cons, List.not_mem_nil, or_false] at ho
    rcases ho with rfl | rfl | rfl
    · trivial
    · trivial
    · rintro rfl hActive
      cases hGet
      cases hActive

end Sessions
end Signet
