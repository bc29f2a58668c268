import Signet.Sessions.StoreInvariant

/-!
# The cap on the active credentials of an operator

No operation but a direct change of status makes a stored credential active
again, and an issuance at the cap first revokes the oldest active credential of
its operator.  So an operator has at most `maxConcurrentPerOperator` active
credentials in every state of a run.

* `Quiet` — what every operation but an issuance does to the active credentials.
* `Indexed` — the index of an operator lists the ids of its records.
* `EvictsOldest` — what an issuance may take away.
* `concurrency_cap` — the cap and the evictions, over every run in which an id
  is not handed out again to another operator.
-/

namespace Signet
namespace Sessions

open Kit Machine Schemas Policy

variable (config : CredentialManagerConfig) (env : HashEnv)

/-! ## The active credentials of an operator -/

def activeOf (store : CredentialStore) (operatorId : String) : List InternalCredentialRecord :=
  store.byId.values.filter fun r => r.operatorId = operatorId ∧ r.status = .active

def activeIds (store : CredentialStore) (operatorId : String) : List String :=
  (activeOf store operatorId).map InternalCredentialRecord.credentialId

variable {call : CredentialCall} {r : InternalCredentialRecord} {id operatorId : String}

theorem mem_activeOf {store : CredentialStore} :
    r ∈ activeOf store operatorId ↔
      store.byId.get r.credentialId = some r ∧ r.operatorId = operatorId ∧
        r.status = .active := by
  unfold activeOf
  rw [List.mem_filter, decide_eq_true_eq, AssocMap.mem_values]
  constructor
  · rintro ⟨⟨key, hKey⟩, hKind⟩
    have hId := store.keyed key r hKey
    subst hId
    exact ⟨hKey, hKind⟩
  · rintro ⟨hGet, hKind⟩
    exact ⟨⟨_, hGet⟩, hKind⟩

theorem mem_activeIds {store : CredentialStore} :
    id ∈ activeIds store operatorId ↔
      ∃ r, store.byId.get id = some r ∧ r.operatorId = operatorId ∧ r.status = .active := by
  unfold activeIds
  rw [List.mem_map]
  constructor
  · rintro ⟨r, hMem, rfl⟩
    exact ⟨r, mem_activeOf.mp hMem⟩
  · rintro ⟨r, hGet, hKind⟩
    have hId := store.keyed id r hGet
    subst hId
    exact ⟨r, mem_activeOf.mpr ⟨hGet, hKind⟩, rfl⟩

theorem nodup_activeIds (store : CredentialStore) (operatorId : String) :
    (activeIds store operatorId).Nodup := by
  have hSublist : (activeIds store operatorId).Sublist
      (store.byId.values.map InternalCredentialRecord.credentialId) :=
    List.filter_sublist.map _
  rw [map_credentialId_values] at hSublist
  exact hSublist.nodup store.byId.nodup_keys

@[simp]
theorem length_activeIds (store : CredentialStore) (operatorId : String) :
    (activeIds store operatorId).length = (activeOf store operatorId).length :=
  List.length_map ..

theorem length_activeOf_le {store : CredentialStore} {ids : List String}
    (hSubset : activeIds store operatorId ⊆ ids) :
    (activeOf store operatorId).length ≤ ids.length := by
  rw [← length_activeIds]
  exact (List.subperm_of_subset (nodup_activeIds store operatorId) hSubset).length_le

/-! ## The index -/

/-- The index lists under each operator the ids of its records, and no more. -/
def Indexed (store : CredentialStore) : Prop :=
  ∀ operatorId id, id ∈ operatorIds store operatorId ↔
    ∃ r, store.byId.get id = some r ∧ r.operatorId = operatorId

theorem indexed_empty : Indexed .empty := by
  intro operatorId id
  simp [operatorIds, CredentialStore.empty]

theorem mem_getActiveForOperator_iff {store : CredentialStore} (hIndexed : Indexed store) :
    r ∈ getActiveForOperator store operatorId ↔ r ∈ activeOf store operatorId := by
  have hLookup : r ∈ getActiveForOperator store operatorId ↔
      ∃ id ∈ operatorIds store operatorId, store.byId.get id = some r ∧ r.status = .active := by
    unfold getActiveForOperator operatorIds
    cases store.byOperator.get operatorId with
    | none => simp
    | some ids => simp [OrderedSet.mem_def, List.mem_filterMap, Option.filter_eq_some_iff]
  rw [hLookup, mem_activeOf]
  constructor
  · rintro ⟨id, hMem, hGet, hActive⟩
    obtain ⟨r', hGet', hOperator⟩ := (hIndexed operatorId id).mp hMem
    rw [hGet, Option.some.injEq] at hGet'
    subst hGet'
    have hId := store.keyed id r hGet
    subst hId
    exact ⟨hGet, hOperator, hActive⟩
  · rintro ⟨hGet, hOperator, hActive⟩
    exact ⟨r.credentialId, (hIndexed operatorId _).mpr ⟨r, hGet, hOperator⟩, hGet, hActive⟩

theorem nodup_getActiveForOperator (store : CredentialStore) (operatorId : String) :
    (getActiveForOperator store operatorId).Nodup := by
  unfold getActiveForOperator
  split
  · exact List.nodup_nil
  · next ids _ =>
    refine ids.nodup.filterMap ?_
    intro id id' r hGet hGet'
    rw [Option.mem_def, Option.filter_eq_some_iff] at hGet hGet'
    exact (store.keyed id r hGet.1).symm.trans (store.keyed id' r hGet'.1)

theorem length_getActiveForOperator {store : CredentialStore} (hIndexed : Indexed store)
    (operatorId : String) :
    (getActiveForOperator store operatorId).length = (activeOf store operatorId).length := by
  have hNodup : (activeOf store operatorId).Nodup :=
    List.Nodup.of_map _ (nodup_activeIds store operatorId)
  have hPerm := (List.perm_ext_iff_of_nodup (nodup_getActiveForOperator store operatorId)
    hNodup).mpr fun _ => mem_getActiveForOperator_iff hIndexed
  exact hPerm.length_eq

/-! ## Operations that make nothing active -/

/-- The records keep their operators, and none becomes active. -/
structure Quiet (s t : CredentialStore) : Prop where
  byOperator : t.byOperator = s.byOperator
  kept : ∀ id r, s.byId.get id = some r → ∃ r', t.byId.get id = some r' ∧
    r'.operatorId = r.operatorId ∧ (r'.status = .active → r.status = .active)
  addsNothing : AddsNothing s t

namespace Quiet

variable {s t : CredentialStore}

/-- A record after a quiet step was there before. -/
theorem back (h : Quiet s t) {id : String} {r' : InternalCredentialRecord}
    (hGet' : t.byId.get id = some r') :
    ∃ r, s.byId.get id = some r ∧ r'.operatorId = r.operatorId ∧
      (r'.status = .active → r.status = .active) := by
  cases hGet : s.byId.get id with
  | none =>
    rw [h.addsNothing id hGet] at hGet'
    cases hGet'
  | some r =>
    obtain ⟨r'', hGet'', hKept⟩ := h.kept id r hGet
    rw [hGet', Option.some.injEq] at hGet''
    subst hGet''
    exact ⟨r, rfl, hKept⟩

theorem indexed (h : Quiet s t) (hIndexed : Indexed s) : Indexed t := by
  intro operatorId id
  have hIds : operatorIds t operatorId = operatorIds s operatorId := by
    unfold operatorIds
    rw [h.byOperator]
  rw [hIds, hIndexed operatorId id]
  constructor
  · rintro ⟨r, hGet, rfl⟩
    obtain ⟨r', hGet', hOperator, -⟩ := h.kept id r hGet
    exact ⟨r', hGet', hOperator⟩
  · rintro ⟨r', hGet', rfl⟩
    obtain ⟨r, hGet, hOperator, -⟩ := h.back hGet'
    exact ⟨r, hGet, hOperator.symm⟩

theorem activeIds_subset (h : Quiet s t) (operatorId : String) :
    activeIds t operatorId ⊆ activeIds s operatorId := by
  intro id hMem
  obtain ⟨r', hGet', rfl, hActive⟩ := mem_activeIds.mp hMem
  obtain ⟨r, hGet, hOperator, hWas⟩ := h.back hGet'
  exact mem_activeIds.mpr ⟨r, hGet, hOperator.symm, hWas hActive⟩

theorem length_activeOf_le (h : Quiet s t) (operatorId : String) :
    (activeOf t operatorId).length ≤ (activeOf s operatorId).length := by
  rw [← length_activeIds s operatorId]
  exact Sessions.length_activeOf_le (h.activeIds_subset operatorId)

end Quiet

def NoDirectStatus (call : CredentialCall) : Prop :=
  ∀ credentialId status, call.op ≠ .setCredentialStatus credentialId status

/-- Nothing else makes a credential active. -/
theorem active_of_recordEffect {store : CredentialStore} (hDirect : NoDirectStatus call)
    (hActive : (recordEffect config env store call id r).status = .active) :
    r.status = .active := by
  have hIte : ∀ {p : Prop} [Decidable p] (r' : InternalCredentialRecord),
      (r'.status = .active → r.status = .active) →
        (if p then r' else r).status = .active → r.status = .active := by
    intro p _ r' hKept hIf
    split at hIf
    · exact hKept hIf
    · exact hIf
  have hRevoked : ∀ now reason, ((revocation now reason).applyTo r).status = .active →
      r.status = .active := by
    intro now reason hNot
    simp [RecordUpdates.applyTo, revocation] at hNot
  obtain ⟨now, op⟩ := call
  cases op with
  | issueCredential _ _ _ => exact hIte _ (hRevoked now _) hActive
  | getCredentialByToken _ => exact hIte { r with status := .expired } (fun hNot => by simp at hNot) hActive
  | lookupByToken _ => exact hIte { r with status := .expired } (fun hNot => by simp at hNot) hActive
  | recordHeartbeat _ => exact hIte { r with lastHeartbeat := now } (fun hSame => hSame) hActive
  | renewCredential _ =>
    refine hIte (renewedRecord config now r) ?_ hActive
    unfold renewedRecord
    split
    · split <;> exact fun hSame => hSame
    · exact fun hSame => hSame
  | updateCredentialScopes _ scopes =>
    exact hIte (rescopedRecord env scopes r) (fun hSame => hSame) hActive
  | revokeCredential _ reason => exact hIte _ (hRevoked now reason) hActive
  | revokeAllCredentials _ reason => exact hIte _ (hRevoked now reason) hActive
  | setCredentialStatus credentialId status => exact absurd rfl (hDirect credentialId status)
  | sweepExpired =>
    by_contra hInactive
    simp only [recordEffect, sweptRecord, ne_eq, hInactive, not_false_eq_true, if_true] at hActive
  | getCredentialById _ | getActiveCredentials _ | listCredentials _ | checkMateriality _ _
  | getRevealState _ | isHeartbeatStale _ => exact hActive

/-- Every operation but an issuance is quiet. -/
theorem quiet_runOp {store : CredentialStore} (hIssue : call.issueId = none)
    (hDirect : NoDirectStatus call) :
    Quiet store (runOp config env store call).1 := by
  have hFresh : FreshIds store call := by
    intro id hId
    rw [hIssue] at hId
    cases hId
  rcases writerRelation_sameIndexes.runOp_cases config env store call with
    hIndexes | ⟨_, _, _, _, _, _, -, hOp, -⟩
  · refine ⟨hIndexes.byOperator, ?_, hIndexes.addsNothing⟩
    intro id r hGet
    exact ⟨_, runOp_get_of_some config env hFresh hGet,
      (follows_recordEffect config env store call id r).same.operatorId,
      active_of_recordEffect config env hDirect⟩
  · simp only [CredentialCall.issueId, hOp] at hIssue
    cases hIssue

/-! ## The eviction before an issuance -/

theorem quiet_evictOldest (now : Int) (store : CredentialStore) (operatorId : String) :
    Quiet store (evictOldest config now store operatorId).1 := by
  have hIndexes := writerRelation_sameIndexes.evictOldest config now store operatorId
  refine ⟨hIndexes.byOperator, ?_, hIndexes.addsNothing⟩
  intro id r hGet
  rw [evictOldest_get, hGet]
  split
  · refine ⟨_, rfl, rfl, ?_⟩
    intro hNot
    simp [RecordUpdates.applyTo, revocation] at hNot
  · exact ⟨r, rfl, rfl, fun hSame => hSame⟩

theorem oldestActive_le {records : List InternalCredentialRecord}
    {oldest : InternalCredentialRecord} (hOldest : oldestActive records = some oldest)
    (hMem : r ∈ records) : oldest.issuedAt ≤ r.issuedAt := by
  have hSorted : (records.insertionSort (fun a b => a.issuedAt ≤ b.issuedAt)).Pairwise
      (fun a b => a.issuedAt ≤ b.issuedAt) := List.pairwise_insertionSort _ records
  have hIn : r ∈ records.insertionSort (fun a b => a.issuedAt ≤ b.issuedAt) :=
    (List.mem_insertionSort _).mpr hMem
  unfold oldestActive at hOldest
  cases hSort : records.insertionSort (fun a b => a.issuedAt ≤ b.issuedAt) with
  | nil =>
    rw [hSort] at hIn
    cases hIn
  | cons first rest =>
    rw [hSort] at hOldest hIn hSorted
    cases hOldest
    rcases List.mem_cons.mp hIn with rfl | hRest
    · exact Int.le_refl _
    · exact (List.pairwise_cons.mp hSorted).1 r hRest

def IsActive (store : CredentialStore) (credentialId : String) : Prop :=
  ∃ r, store.byId.get credentialId = some r ∧ r.status = .active

/-- What an issuance for the operator may take away: at the cap, one credential
of the operator, and none of its active ones was issued before it. -/
structure EvictsOldest (operatorId : String) (s t : CredentialStore) : Prop where
  oldest : ∀ id r, s.byId.get id = some r → r.status = .active → ¬ IsActive t id →
    config.maxConcurrentPerOperator ≤ (activeOf s operatorId).length ∧
      r.operatorId = operatorId ∧ ∀ other ∈ activeOf s operatorId, r.issuedAt ≤ other.issuedAt
  once : ∀ id id', IsActive s id → ¬ IsActive t id → IsActive s id' → ¬ IsActive t id' → id = id'

theorem evicted_spec {store : CredentialStore} (hIndexed : Indexed store)
    (hEvicted : evicted config store operatorId = some r) :
    config.maxConcurrentPerOperator ≤ (activeOf store operatorId).length ∧
      r ∈ activeOf store operatorId ∧
      ∀ other ∈ activeOf store operatorId, r.issuedAt ≤ other.issuedAt := by
  unfold evicted at hEvicted
  rw [length_getActiveForOperator hIndexed] at hEvicted
  split at hEvicted
  · next hCap =>
    refine ⟨hCap, (mem_getActiveForOperator_iff hIndexed).mp (oldestActive_mem hEvicted), ?_⟩
    intro other hOther
    exact oldestActive_le hEvicted ((mem_getActiveForOperator_iff hIndexed).mpr hOther)
  · cases hEvicted

theorem evicted_isSome {store : CredentialStore} (hIndexed : Indexed store)
    (hPositive : 1 ≤ config.maxConcurrentPerOperator)
    (hCap : config.maxConcurrentPerOperator ≤ (activeOf store operatorId).length) :
    ∃ r, evicted config store operatorId = some r := by
  unfold evicted
  rw [if_pos (by rw [length_getActiveForOperator hIndexed]; exact hCap)]
  unfold oldestActive
  rw [← Option.isSome_iff_exists, List.isSome_head?]
  intro hNil
  have hPerm := List.perm_insertionSort
    (fun a b : InternalCredentialRecord => a.issuedAt ≤ b.issuedAt)
    (getActiveForOperator store operatorId)
  have hLength := hPerm.length_eq
  rw [hNil, length_getActiveForOperator hIndexed, List.length_nil] at hLength
  omega

theorem room_after_eviction {store : CredentialStore} (hIndexed : Indexed store)
    (hPositive : 1 ≤ config.maxConcurrentPerOperator) (now : Int)
    (hAtMost : (activeOf store operatorId).length ≤ config.maxConcurrentPerOperator) :
    (activeOf (evictOldest config now store operatorId).1 operatorId).length + 1 ≤
      config.maxConcurrentPerOperator := by
  have hQuiet := quiet_evictOldest config now store operatorId
  by_cases hCap : config.maxConcurrentPerOperator ≤ (activeOf store operatorId).length
  · obtain ⟨oldest, hEvicted⟩ := evicted_isSome config hIndexed hPositive hCap
    obtain ⟨-, hMem, -⟩ := evicted_spec config hIndexed hEvicted
    have hListed : oldest.credentialId ∈ activeIds store operatorId :=
      List.mem_map.mpr ⟨oldest, hMem, rfl⟩
    have hFewer : activeIds (evictOldest config now store operatorId).1 operatorId ⊆
        (activeIds store operatorId).erase oldest.credentialId := by
      intro id hId
      rw [(nodup_activeIds store operatorId).mem_erase_iff]
      refine ⟨?_, hQuiet.activeIds_subset operatorId hId⟩
      rintro rfl
      obtain ⟨r, hGet, -, hActive⟩ := mem_activeIds.mp hId
      rw [evictOldest_get, hEvicted, Option.map_some, if_pos rfl, (mem_activeOf.mp hMem).1] at hGet
      cases hGet
      simp [RecordUpdates.applyTo, revocation] at hActive
    have hLength := length_activeOf_le hFewer
    rw [List.length_erase_of_mem hListed, length_activeIds] at hLength
    omega
  · have hLength := hQuiet.length_activeOf_le operatorId
    omega

/-! ## Storing a new credential -/

variable {store : CredentialStore} {record : InternalCredentialRecord}

theorem indexed_upsertRecord (hIndexed : Indexed store)
    (hOwn : ∀ r, store.byId.get record.credentialId = some r → r.operatorId = record.operatorId) :
    Indexed (upsertRecord store record) := by
  intro operatorId id
  rw [operatorIds_upsertRecord, hIndexed operatorId id, upsertRecord_get]
  by_cases hId : id = record.credentialId
  · subst hId
    rw [if_pos rfl]
    constructor
    · rintro (⟨hOperator, -⟩ | ⟨r, hGet, hOperator⟩)
      · exact ⟨record, rfl, hOperator.symm⟩
      · exact ⟨record, rfl, (hOwn r hGet).symm.trans hOperator⟩
    · rintro ⟨r, hGet, hOperator⟩
      cases hGet
      exact Or.inl ⟨hOperator.symm, rfl⟩
  · rw [if_neg hId]
    constructor
    · rintro (⟨-, hNew⟩ | hOld)
      · exact absurd hNew hId
      · exact hOld
    · exact Or.inr

/-- The new credential is the only one that its operator has more. -/
theorem activeIds_upsertRecord (operatorId : String) :
    activeIds (upsertRecord store record) operatorId ⊆
      if operatorId = record.operatorId then record.credentialId :: activeIds store operatorId
      else activeIds store operatorId := by
  intro id hMem
  obtain ⟨r, hGet, rfl, hActive⟩ := mem_activeIds.mp hMem
  rw [upsertRecord_get] at hGet
  split at hGet
  · next hId =>
    cases hGet
    rw [if_pos rfl, hId]
    exact List.mem_cons_self
  · have hOld := mem_activeIds.mpr ⟨r, hGet, rfl, hActive⟩
    split
    · exact List.mem_cons_of_mem _ hOld
    · exact hOld

/-! ## Runs -/

/-- The index is exact, and every operator is within the cap. -/
structure Capped (store : CredentialStore) : Prop where
  indexed : Indexed store
  atMost : ∀ operatorId, (activeOf store operatorId).length ≤ config.maxConcurrentPerOperator

/-- An id that is handed out again stays with its operator. -/
def OwnIds (store : CredentialStore) (call : CredentialCall) : Prop :=
  ∀ credentialConfig options drawn r, call.op = .issueCredential credentialConfig options drawn →
    store.byId.get (options.credentialId.getD drawn.credentialId) = some r →
      r.operatorId = credentialConfig.operatorId

theorem ownIds_of_freshIds (hFresh : FreshIds store call) :
    OwnIds store call := by
  intro credentialConfig options drawn r hOp hGet
  rw [hFresh _ (by simp only [CredentialCall.issueId, hOp])] at hGet
  cases hGet

theorem Capped.of_quiet {s t : CredentialStore} (inv : Capped config s) (hQuiet : Quiet s t) :
    Capped config t := by
  refine ⟨hQuiet.indexed inv.indexed, ?_⟩
  intro operatorId
  have hLength := hQuiet.length_activeOf_le operatorId
  have hBefore := inv.atMost operatorId
  omega

/-- An issuance keeps the cap: it makes room first. -/
theorem capped_issueCredential (hPositive : 1 ≤ config.maxConcurrentPerOperator)
    (inv : Capped config store) (now : Int) (credentialConfig : CredentialConfig)
    (options : IssueOptions) (drawn : Drawn)
    (hOwn : ∀ r, store.byId.get (options.credentialId.getD drawn.credentialId) = some r →
      r.operatorId = credentialConfig.operatorId) :
    Capped config (issueCredential config env now store credentialConfig options drawn).1 := by
  have hQuiet := quiet_evictOldest config now store credentialConfig.operatorId
  have inv' := inv.of_quiet config hQuiet
  rcases issueCredential_cases config env now store credentialConfig options drawn with
    ⟨_, _, hEq⟩ | hEq | ⟨expiresAt, ttlMs, hFst, -⟩
  · rw [hEq]
    exact inv'
  · rw [hEq]
    exact inv'
  · rw [hFst]
    refine ⟨indexed_upsertRecord inv'.indexed ?_, ?_⟩
    · intro r' hGet'
      obtain ⟨r, hGet, hOperator, -⟩ := hQuiet.back hGet'
      exact hOperator.trans (hOwn r hGet)
    · intro operatorId
      have hLength := length_activeOf_le (@activeIds_upsertRecord
        (evictOldest config now store credentialConfig.operatorId).1
        (newRecord env now expiresAt ttlMs credentialConfig options drawn) operatorId)
      split at hLength
      · next hOperator =>
        -- the operator of the new credential, for which the eviction made room
        have hSame : operatorId = credentialConfig.operatorId := hOperator
        have hRoom := room_after_eviction config inv.indexed hPositive now (inv.atMost operatorId)
        rw [List.length_cons, length_activeIds, hSame] at hLength
        rw [hSame] at hRoom ⊢
        omega
      · have hOther := inv'.atMost operatorId
        rw [length_activeIds] at hLength
        omega

theorem evicted_of_lost (now : Int) (credentialConfig : CredentialConfig) (options : IssueOptions)
    (drawn : Drawn) (hWas : IsActive store id) (hLost : ¬ IsActive
      (issueCredential config env now store credentialConfig options drawn).1 id) :
    (evicted config store credentialConfig.operatorId).map
      InternalCredentialRecord.credentialId = some id := by
  by_contra hNot
  obtain ⟨r, hGet, hActive⟩ := hWas
  have hAfter : (evictOldest config now store credentialConfig.operatorId).1.byId.get id =
      some r := by
    rw [evictOldest_get, if_neg hNot, hGet]
  apply hLost
  rcases issueCredential_cases config env now store credentialConfig options drawn with
    ⟨_, _, hEq⟩ | hEq | ⟨expiresAt, ttlMs, hFst, -⟩
  · rw [hEq]
    exact ⟨r, hAfter, hActive⟩
  · rw [hEq]
    exact ⟨r, hAfter, hActive⟩
  · unfold IsActive
    rw [hFst, upsertRecord_get]
    split
    · exact ⟨_, rfl, rfl⟩
    · exact ⟨r, hAfter, hActive⟩

theorem evictsOldest_issueCredential (hIndexed : Indexed store) (now : Int)
    (credentialConfig : CredentialConfig) (options : IssueOptions) (drawn : Drawn) :
    EvictsOldest config credentialConfig.operatorId store
      (issueCredential config env now store credentialConfig options drawn).1 := by
  constructor
  · intro id r hGet hActive hLost
    have hEvicted := evicted_of_lost config env now credentialConfig options drawn
      ⟨r, hGet, hActive⟩ hLost
    obtain ⟨oldest, hOldest, hId⟩ := Option.map_eq_some_iff.mp hEvicted
    obtain ⟨hCap, hMem, hLeast⟩ := evicted_spec config hIndexed hOldest
    obtain ⟨hStored, hOperator, -⟩ := mem_activeOf.mp hMem
    rw [hId, hGet, Option.some.injEq] at hStored
    subst hStored
    exact ⟨hCap, hOperator, hLeast⟩
  · intro id id' hWas hLost hWas' hLost'
    have hEvicted := evicted_of_lost config env now credentialConfig options drawn hWas hLost
    rw [evicted_of_lost config env now credentialConfig options drawn hWas' hLost'] at hEvicted
    exact (Option.some.inj hEvicted).symm

theorem capped_runOp (hPositive : 1 ≤ config.maxConcurrentPerOperator) (inv : Capped config store)
    (hOwn : OwnIds store call) (hDirect : NoDirectStatus call) :
    Capped config (runOp config env store call).1 := by
  cases hIssue : call.issueId with
  | none => exact inv.of_quiet config (quiet_runOp config env hIssue hDirect)
  | some id =>
    obtain ⟨now, op⟩ := call
    cases op with
    | issueCredential credentialConfig options drawn =>
      exact capped_issueCredential config env hPositive inv now credentialConfig options drawn
        fun r hGet => hOwn credentialConfig options drawn r rfl hGet
    | _ => cases hIssue

/-- **The cap holds.**  In every state of a run without direct changes of status,
no operator has more active credentials than the cap, and an issuance takes away
at most the oldest active credential of an operator at the cap. -/
theorem concurrency_cap (hPositive : 1 ≤ config.maxConcurrentPerOperator)
    {h : List (Occurrence CredentialStore CredentialCall CredentialOutcome)}
    {store : CredentialStore} (hRun : (credentialMachine config env).Runs h store)
    (hOwn : AllMeet OwnIds h)
    (hDirect : AllMeet (fun _ call => NoDirectStatus call) h) :
    (∀ t ∈ visited h store, ∀ operatorId,
        (activeOf t operatorId).length ≤ config.maxConcurrentPerOperator) ∧
      ∀ o ∈ h, ∀ credentialConfig options drawn,
        o.label.op = .issueCredential credentialConfig options drawn →
          EvictsOldest config credentialConfig.operatorId o.pre
            (runOp config env o.pre o.label).1 := by
  have hCapped : ∀ h' t, (credentialMachine config env).Runs h' t → (∀ o ∈ h', o ∈ h) →
      Capped config t := by
    intro h' t hRun' hSub
    have hKept : ∀ g s call s' out, (credentialMachine config env).Runs g s →
        AllMeet (fun s call => OwnIds s call ∧ NoDirectStatus call) g →
          Capped config s → OwnIds s call ∧ NoDirectStatus call →
            (credentialMachine config env).step s call = some (s', out) →
              Capped config s' := by
      intro _ s call s' out _ _ inv hMeets hStep
      obtain ⟨rfl, -⟩ := credentialMachine_step config env hStep
      exact capped_runOp config env hPositive inv hMeets.1 hMeets.2
    have hInit : Capped config .empty := by
      refine ⟨indexed_empty, ?_⟩
      intro operatorId
      show ((0 : Nat) : Int) ≤ config.maxConcurrentPerOperator
      omega
    exact hRun'.invariant hInit hKept fun o ho => ⟨hOwn o (hSub o ho), hDirect o (hSub o ho)⟩
  constructor
  · intro t ht operatorId
    obtain ⟨h', hRun', hSub⟩ := hRun.of_mem_visited ht
    exact (hCapped h' t hRun' hSub).atMost operatorId
  · intro o ho credentialConfig options drawn hOp
    obtain ⟨h₁, h₂, hSplit⟩ := List.append_of_mem ho
    have hPre : ∀ o' ∈ h₁, o' ∈ h := by
      intro o' ho'
      rw [hSplit]
      exact List.mem_append_left _ ho'
    have inv := hCapped h₁ o.pre (hRun.of_append_cons hSplit).1 hPre
    obtain ⟨pre, ⟨now, op⟩, out⟩ := o
    subst hOp
    exact evictsOldest_issueCredential config env inv.indexed now credentialConfig options drawn

/-- Two credentials for an operator that may have one. -/
def issuedTwice : List CredentialCall :=
  [⟨0, .issueCredential { operatorId := "op", chatIds := ["conv"], allow := some [.send] }
      {} ⟨"first", "token1"⟩⟩,
    ⟨5, .issueCredential { operatorId := "op", chatIds := ["conv"], allow := some [.react] }
      {} ⟨"second", "token2"⟩⟩]

theorem concurrency_cap_issued_twice :
    ∃ h store, (credentialMachine { maxConcurrentPerOperator := 1 } sampleEnv).exec .empty
        issuedTwice = some (h, store) ∧
      activeIds store "op" = ["second"] ∧
      (∀ t ∈ visited h store, ∀ operatorId, ((activeOf t operatorId).length : Int) ≤ 1) ∧
        ∀ o ∈ h, ∀ credentialConfig options drawn,
          o.label.op = .issueCredential credentialConfig options drawn →
            EvictsOldest { maxConcurrentPerOperator := 1 } credentialConfig.operatorId o.pre
              (runOp { maxConcurrentPerOperator := 1 } sampleEnv o.pre o.label).1 := by
  refine ⟨_, _, rfl, by decide, concurrency_cap { maxConcurrentPerOperator := 1 } sampleEnv
    (by decide) (runs_of_exec
      (show (credentialMachine { maxConcurrentPerOperator := 1 } sampleEnv).exec _ issuedTwice = _
        from rfl)) ?_ ?_⟩
  · intro o ho
    simp only [List.mem_cons, List.not_mem_nil, or_false] at ho
    rcases ho with rfl | rfl
    · exact ownIds_of_freshIds fun id _ => rfl
    · refine ownIds_of_freshIds ?_
      intro id hId
      cases hId
      rfl
  · intro o ho
    simp only [List.mem_cons, List.not_mem_nil, or_false] at ho
    rcases ho with rfl | rfl
    · rintro _ _ ⟨⟩
    · rintro _ _ ⟨⟩

end Sessions
end Signet
