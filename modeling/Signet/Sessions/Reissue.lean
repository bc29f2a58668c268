import Signet.Sessions.ConcurrencyCap

/-!
# Issuing a credential again

An issuance first makes room and then looks for an active credential with the policy hash of its
configuration.  So what a second issuance of one configuration returns depends on what the first
step has left of the operator's credentials.

* `Listed` — what every state of the manager has, whatever ids are drawn.
* `getActiveForOperator_evictOldest` — the active credentials that the eviction leaves.
* `reissue` — an issuance of what is issued already.
* `reissue_at_cap` — at the cap the credential itself can be the one that makes room.
-/

namespace Signet
namespace Sessions

open Kit Schemas Policy

variable (config : CredentialManagerConfig) (env : HashEnv)

/-! ## What every state has -/

/-- The derived fields of the records are right, and every record is listed under its operator. -/
structure Listed (store : CredentialStore) : Prop where
  derived : ∀ id r, store.byId.get id = some r → Derived env r
  listed : ∀ id r, store.byId.get id = some r → id ∈ operatorIds store r.operatorId

variable {env}

theorem listed_empty : Listed env .empty := by
  constructor <;> intro id r hGet <;> cases hGet

theorem Listed.of_follows {s t : CredentialStore} (inv : Listed env s)
    (hIndexes : SameIndexes s t)
    (hRecords : ∀ id r, s.byId.get id = some r →
      ∃ r', t.byId.get id = some r' ∧ Follows env r r') :
    Listed env t := by
  have hBack := followed_of_get env hIndexes.addsNothing hRecords
  constructor
  · intro id r' hGet'
    obtain ⟨r, hGet, hFollows⟩ := hBack id r' hGet'
    exact hFollows.derived (inv.derived id r hGet)
  · intro id r' hGet'
    obtain ⟨r, hGet, hFollows⟩ := hBack id r' hGet'
    unfold operatorIds
    rw [hIndexes.byOperator, hFollows.same.operatorId]
    exact inv.listed id r hGet

variable {store : CredentialStore} {r : InternalCredentialRecord}

theorem Listed.upsertRecord (inv : Listed env store) {record : InternalCredentialRecord}
    (hDerived : Derived env record) :
    Listed env (upsertRecord store record) := by
  constructor
  · intro id r hGet
    rw [upsertRecord_get] at hGet
    split at hGet
    · cases hGet
      exact hDerived
    · exact inv.derived id r hGet
  · intro id r hGet
    rw [upsertRecord_get] at hGet
    rw [operatorIds_upsertRecord]
    split at hGet
    · next hId =>
      cases hGet
      exact Or.inl ⟨rfl, hId⟩
    · exact Or.inr (inv.listed id r hGet)

theorem Listed.evictOldest (inv : Listed env store) (now : Int) (operatorId : String) :
    Listed env (evictOldest config now store operatorId).1 := by
  apply inv.of_follows (writerRelation_sameIndexes.evictOldest config now store operatorId)
  intro id r hGet
  rw [evictOldest_get, hGet]
  split
  · exact ⟨_, rfl, follows_revocation env now _ r⟩
  · exact ⟨r, rfl, follows_refl env r⟩

theorem listed_runOp (inv : Listed env store) (call : CredentialCall) :
    Listed env (runOp config env store call).1 := by
  cases hIssue : call.issueId with
  | none =>
    have hFresh : FreshIds store call := by
      intro id hId
      rw [hIssue] at hId
      cases hId
    rcases writerRelation_sameIndexes.runOp_cases config env store call with
      hIndexes | ⟨-, -, -, credentialConfig, options, drawn, -, hOp, -, -⟩
    · apply inv.of_follows hIndexes
      intro id r hGet
      exact ⟨_, runOp_get_of_some config env hFresh hGet,
        follows_recordEffect config env store call id r⟩
    · rw [CredentialCall.issueId, hOp] at hIssue
      cases hIssue
  | some id =>
    obtain ⟨now, op⟩ := call
    cases op with
    | issueCredential credentialConfig options drawn =>
      have inv' := inv.evictOldest config now credentialConfig.operatorId
      show Listed env (issueCredential config env now store credentialConfig options drawn).1
      rcases issueCredential_cases config env now store credentialConfig options drawn with
        ⟨_, _, hEq⟩ | hEq | ⟨expiresAt, ttlMs, hEq, -⟩
      · rw [hEq]
        exact inv'
      · rw [hEq]
        exact inv'
      · rw [hEq]
        exact inv'.upsertRecord ⟨rfl, rfl⟩
    | _ => cases hIssue

theorem listed_run {h : List (Occurrence CredentialStore CredentialCall CredentialOutcome)}
    (hRun : (credentialMachine config env).Runs h store) :
    Listed env store := by
  refine hRun.state_invariant listed_empty ?_
  intro s call s' out inv hStep
  obtain ⟨rfl, -⟩ := credentialMachine_step config env hStep
  exact listed_runOp config inv call

theorem Listed.mem_getActiveForOperator (inv : Listed env store) {operatorId : String}
    (h : r ∈ activeOf store operatorId) :
    r ∈ getActiveForOperator store operatorId := by
  obtain ⟨hGet, rfl, hActive⟩ := mem_activeOf.mp h
  have hListed := inv.listed _ r hGet
  unfold operatorIds at hListed
  unfold getActiveForOperator
  cases hIds : store.byOperator.get r.operatorId with
  | none => simp [hIds] at hListed
  | some ids =>
    rw [hIds, Option.getD_some, OrderedSet.mem_def] at hListed
    refine List.mem_filterMap.mpr ⟨_, hListed, ?_⟩
    rw [hGet, Option.filter_some, if_pos (decide_eq_true hActive)]

/-! ## What the eviction leaves -/

/-- The active credentials of an operator that an issuance does not evict. -/
def activeLeft (store : CredentialStore) (operatorId : String) : List InternalCredentialRecord :=
  (getActiveForOperator store operatorId).filter fun r =>
    (evicted config store operatorId).map InternalCredentialRecord.credentialId ≠
      some r.credentialId

theorem getActiveForOperator_evictOldest (now : Int) (store : CredentialStore)
    (operatorId : String) :
    getActiveForOperator (evictOldest config now store operatorId).1 operatorId =
      activeLeft config store operatorId := by
  have hIndexes := writerRelation_sameIndexes.evictOldest config now store operatorId
  unfold activeLeft getActiveForOperator
  rw [hIndexes.byOperator]
  cases store.byOperator.get operatorId with
  | none => rfl
  | some ids =>
    show List.filterMap _ ids.items = List.filter _ (List.filterMap _ ids.items)
    rw [List.filter_filterMap]
    apply List.filterMap_congr
    intro id _
    rw [evictOldest_get]
    cases hGet : store.byId.get id with
    | none => simp
    | some r =>
      have hId : r.credentialId = id := store.keyed id r hGet
      split
      · next hEvicted =>
        -- a revoked credential is none of them
        by_cases hActive : r.status = .active
        · simp [Option.filter_some, RecordUpdates.applyTo, revocation, hActive, hEvicted, hId]
        · simp [Option.filter_some, RecordUpdates.applyTo, revocation, hActive]
      · next hKept =>
        by_cases hActive : r.status = .active
        · simp only [Option.filter_some, hActive, hId, decide_true, if_true, hKept, ne_eq,
            not_false_eq_true]
        · simp [Option.filter_some, hActive]

/-- An operator below its cap loses nothing. -/
theorem evictOldest_of_below {operatorId : String} (now : Int)
    (hBelow : ((getActiveForOperator store operatorId).length : Int) <
      config.maxConcurrentPerOperator) :
    evicted config store operatorId = none ∧
      evictOldest config now store operatorId = (store, .ok ()) := by
  have hNot : ¬ config.maxConcurrentPerOperator ≤ (getActiveForOperator store operatorId).length :=
    not_le.mpr hBelow
  exact ⟨if_neg hNot, if_neg hNot⟩

/-! ## Issuing again -/

/-- A credential has the lists and the chats of a configuration. -/
structure SamePolicy (r : InternalCredentialRecord) (credentialConfig : CredentialConfig) :
    Prop where
  scopes : r.effectiveScopes = buildScopeSet credentialConfig
  chatIds : r.chatIds = credentialConfig.chatIds

/-- A credential is returned, and every other one is left as it is. -/
def Reissues (store : CredentialStore) (r : InternalCredentialRecord)
    (result : CredentialStore × Except Failure InternalCredentialRecord) : Prop :=
  result.2 = .ok r ∧ ∀ id, id ≠ r.credentialId → result.1.byId.get id = store.byId.get id

section

variable (now : Int) (credentialConfig : CredentialConfig) (options : IssueOptions)
  {c : InternalCredentialRecord}

variable (drawn : Drawn) (hDerived : Derived env c) (hSame : SamePolicy c credentialConfig)

include hDerived hSame

theorem issueCredential_of_left (hLeft : c ∈ activeLeft config store credentialConfig.operatorId) :
    ∃ existing ∈ activeLeft config store credentialConfig.operatorId,
      existing.policyHash = c.policyHash ∧
        ((∀ other ∈ activeLeft config store credentialConfig.operatorId,
            other.policyHash = c.policyHash → other = c) → existing = c) ∧
          issueCredential config env now store credentialConfig options drawn =
            ((evictOldest config now store credentialConfig.operatorId).1, .ok existing) := by
  have hHash : c.policyHash =
      computePolicyHash env (buildScopeSet credentialConfig) credentialConfig.chatIds := by
    rw [hDerived.policyHash, hSame.scopes, hSame.chatIds]
  have hFound : ((activeLeft config store credentialConfig.operatorId).find?
      fun r => r.policyHash = c.policyHash).isSome = true := by
    rw [List.find?_isSome]
    exact ⟨c, hLeft, decide_eq_true rfl⟩
  obtain ⟨existing, hFind⟩ := Option.isSome_iff_exists.mp hFound
  have hMem := List.mem_of_find?_eq_some hFind
  have hExisting : existing.policyHash = c.policyHash := by
    simpa using List.find?_some hFind
  refine ⟨existing, hMem, hExisting, fun hOnly => hOnly existing hMem hExisting, ?_⟩
  unfold issueCredential
  simp only [evictOldest_ok, getActiveForOperator_evictOldest, ← hHash, hFind]

/-- What an issuance returns where no credential with its policy hash is left: a new one, unless
its expiry is no date. -/
theorem issueCredential_of_none_left
    (hNone : ∀ other ∈ activeLeft config store credentialConfig.operatorId,
      other.policyHash ≠ c.policyHash) :
    (issueCredential config env now store credentialConfig options drawn).2 =
        .error .rangeError ∨
      ∃ expiresAt ttlMs,
        (issueCredential config env now store credentialConfig options drawn).2 =
          .ok (newRecord env now expiresAt ttlMs credentialConfig options drawn) := by
  have hHash : c.policyHash =
      computePolicyHash env (buildScopeSet credentialConfig) credentialConfig.chatIds := by
    rw [hDerived.policyHash, hSame.scopes, hSame.chatIds]
  have hFind : (activeLeft config store credentialConfig.operatorId).find?
      (fun r => r.policyHash = c.policyHash) = none := by
    rw [List.find?_eq_none]
    intro other hOther
    simpa using hNone other hOther
  unfold issueCredential
  simp only [evictOldest_ok, getActiveForOperator_evictOldest, ← hHash, hFind]
  split
  · exact Or.inl rfl
  · exact Or.inr ⟨_, _, rfl⟩

end

/-- There is an oldest one unless there is none. -/
theorem oldestActive_isSome {records : List InternalCredentialRecord} (hMem : r ∈ records) :
    (oldestActive records).isSome = true := by
  have hSorted : r ∈ records.insertionSort fun a b => a.issuedAt ≤ b.issuedAt :=
    (List.mem_insertionSort _).mpr hMem
  unfold oldestActive
  cases hSort : records.insertionSort fun a b => a.issuedAt ≤ b.issuedAt with
  | nil =>
    rw [hSort] at hSorted
    cases hSorted
  | cons oldest rest => rfl

variable (env)

/-- What an issuance does for an operator that has an active credential `c` of the
configuration. -/
structure Reissue (store : CredentialStore) (now : Int) (credentialConfig : CredentialConfig)
    (options : IssueOptions) (drawn : Drawn) (c : InternalCredentialRecord)
    (result : CredentialStore × Except Failure InternalCredentialRecord) : Prop where
  /-- Below the cap nothing is evicted, and nothing changes. -/
  below : ((getActiveForOperator store credentialConfig.operatorId).length : Int) <
      config.maxConcurrentPerOperator →
    evicted config store credentialConfig.operatorId = none ∧ result.1 = store
  /-- At the cap the oldest active credential is evicted. -/
  oldest : config.maxConcurrentPerOperator ≤
      (getActiveForOperator store credentialConfig.operatorId).length →
    ∃ o ∈ getActiveForOperator store credentialConfig.operatorId,
      evicted config store credentialConfig.operatorId = some o ∧
        ∀ other ∈ getActiveForOperator store credentialConfig.operatorId,
          o.issuedAt ≤ other.issuedAt
  /-- The credential is returned, or another one that is left with its policy hash. -/
  returned : evicted config store credentialConfig.operatorId ≠ some c →
    ∃ existing ∈ activeLeft config store credentialConfig.operatorId,
      result.2 = .ok existing ∧ existing.policyHash = c.policyHash ∧
        ((∀ other ∈ activeLeft config store credentialConfig.operatorId,
          other.policyHash = c.policyHash → other = c) → existing = c)
  unchanged : evicted config store credentialConfig.operatorId ≠ some c →
    ∀ id, (evicted config store credentialConfig.operatorId).map
        InternalCredentialRecord.credentialId ≠ some id →
      result.1.byId.get id = store.byId.get id
  revoked : evicted config store credentialConfig.operatorId ≠ some c →
    ∀ o, evicted config store credentialConfig.operatorId = some o →
      result.1.byId.get o.credentialId = some ((revocation now .policyViolation).applyTo o)
  /-- Where none is left with the policy hash, there is a new credential. -/
  renewed : (∀ other ∈ activeLeft config store credentialConfig.operatorId,
      other.policyHash ≠ c.policyHash) →
    result.2 = .error .rangeError ∨ ∃ expiresAt ttlMs,
      result.2 = .ok (newRecord env now expiresAt ttlMs credentialConfig options drawn)

/-- **Issuing again.**  An operator has an active credential with the lists and the chats of a
configuration.  An issuance of the configuration evicts the operator's oldest active credential
where the operator is at the cap, and none below it; unless the credential is that one, it returns
the credential, or another one that is left with its policy hash, and changes nothing else. -/
theorem reissue {h : List (Occurrence CredentialStore CredentialCall CredentialOutcome)}
    {store : CredentialStore} (hRun : (credentialMachine config env).Runs h store) (now : Int)
    (credentialConfig : CredentialConfig) (options : IssueOptions) (drawn : Drawn)
    {c : InternalCredentialRecord} (hActive : c ∈ activeOf store credentialConfig.operatorId)
    (hSame : SamePolicy c credentialConfig) :
    Reissue config env store now credentialConfig options drawn c
      (issueCredential config env now store credentialConfig options drawn) := by
  have inv := listed_run config hRun
  obtain ⟨hGet, -, -⟩ := mem_activeOf.mp hActive
  have hDerived := inv.derived _ c hGet
  have hMem := inv.mem_getActiveForOperator hActive
  have hLeft : evicted config store credentialConfig.operatorId ≠ some c →
      c ∈ activeLeft config store credentialConfig.operatorId := by
    intro hNe
    refine List.mem_filter.mpr ⟨hMem, decide_eq_true ?_⟩
    intro hId
    obtain ⟨o, hO, hSameId⟩ := Option.map_eq_some_iff.mp hId
    have hStored := (evicted_stored hO).1
    rw [hSameId, hGet] at hStored
    cases hStored
    exact hNe hO
  have hKept : evicted config store credentialConfig.operatorId ≠ some c →
      (issueCredential config env now store credentialConfig options drawn).1 =
        (evictOldest config now store credentialConfig.operatorId).1 := by
    intro hNe
    obtain ⟨existing, -, -, -, hIssue⟩ := issueCredential_of_left config now credentialConfig
      options drawn hDerived hSame (hLeft hNe)
    rw [hIssue]
  refine ⟨?_, ?_, ?_, ?_, ?_, ?_⟩
  · intro hBelow
    obtain ⟨hNone, hEvict⟩ := evictOldest_of_below config now hBelow
    refine ⟨hNone, ?_⟩
    rw [hKept (by rw [hNone]; exact nofun), hEvict]
  · intro hCap
    have hEvicted : evicted config store credentialConfig.operatorId =
        oldestActive (getActiveForOperator store credentialConfig.operatorId) := if_pos hCap
    obtain ⟨o, hOldest⟩ := Option.isSome_iff_exists.mp (oldestActive_isSome hMem)
    exact ⟨o, oldestActive_mem hOldest, hEvicted.trans hOldest,
      fun other hOther => oldestActive_le hOldest hOther⟩
  · intro hNe
    obtain ⟨existing, hExisting, hHash, hOnly, hIssue⟩ := issueCredential_of_left config now
      credentialConfig options drawn hDerived hSame (hLeft hNe)
    exact ⟨existing, hExisting, congrArg Prod.snd hIssue, hHash, hOnly⟩
  · intro hNe id hOther
    rw [hKept hNe, evictOldest_get]
    exact if_neg hOther
  · intro hNe o hO
    have hId : (evicted config store credentialConfig.operatorId).map
        InternalCredentialRecord.credentialId = some o.credentialId := by
      rw [hO]
      rfl
    rw [hKept hNe, evictOldest_get, (evicted_stored hO).1]
    exact if_pos hId
  · intro hNone
    exact issueCredential_of_none_left config now credentialConfig options drawn hDerived hSame
      hNone

/-! ## Samples -/

def chatConfig (chatId : String) : CredentialConfig :=
  { operatorId := "op", chatIds := [chatId], allow := some [.send] }

def threeChats : List CredentialCall :=
  [⟨0, .issueCredential (chatConfig "chat_a") {} ⟨"cred_a", "token_a"⟩⟩,
    ⟨1, .issueCredential (chatConfig "chat_bb") {} ⟨"cred_b", "token_b"⟩⟩,
    ⟨2, .issueCredential (chatConfig "chat_ccc") {} ⟨"cred_c", "token_c"⟩⟩]

/-- What the first issuance has stored. -/
def chatRecord : InternalCredentialRecord :=
  newRecord sampleEnv 0 3600000 3600000 (chatConfig "chat_a") {} ⟨"cred_a", "token_a"⟩

theorem threeChats_active :
    (credentialMachine {} sampleEnv).Executes threeChats fun _ store =>
      chatRecord ∈ activeOf store "op" ∧
        (issueCredential {} sampleEnv 5 store (chatConfig "chat_a") {}
          ⟨"cred_d", "token_d"⟩).2.toOption ≠ some chatRecord := by
  decide

theorem chatRecord_samePolicy : SamePolicy chatRecord (chatConfig "chat_a") := ⟨rfl, rfl⟩

theorem reissue_of_three :
    ∃ h store, (credentialMachine {} sampleEnv).Runs h store ∧
      chatRecord ∈ activeOf store "op" ∧
        Reissue {} sampleEnv store 5 (chatConfig "chat_a") {} ⟨"cred_d", "token_d"⟩ chatRecord
          (issueCredential {} sampleEnv 5 store (chatConfig "chat_a") {}
            ⟨"cred_d", "token_d"⟩) := by
  obtain ⟨h, store, -, hRun, hActive, -⟩ := threeChats_active.exists_run
  exact ⟨h, store, hRun, hActive, reissue {} sampleEnv hRun 5 (chatConfig "chat_a") {}
    ⟨"cred_d", "token_d"⟩ hActive chatRecord_samePolicy⟩

/-- At the cap, the credential that is issued again can be the one that makes room. -/
theorem reissue_at_cap :
    ∃ h store, (credentialMachine {} sampleEnv).Runs h store ∧
      chatRecord ∈ activeOf store "op" ∧ SamePolicy chatRecord (chatConfig "chat_a") ∧
        ¬ Reissues store chatRecord (issueCredential {} sampleEnv 5 store (chatConfig "chat_a") {}
          ⟨"cred_d", "token_d"⟩) := by
  obtain ⟨h, store, -, hRun, hActive, hOther⟩ := threeChats_active.exists_run
  refine ⟨h, store, hRun, hActive, chatRecord_samePolicy, ?_⟩
  rintro ⟨hReturned, -⟩
  rw [hReturned] at hOther
  exact hOther rfl

end Sessions
end Signet
