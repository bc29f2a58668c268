import Signet.Sessions.ConcurrencyCap
import Signet.Sessions.OperatorManager
import Signet.Sessions.Service

/-!
# Removing an operator while credentials are issued

The operator manager wired to the credential manager: a removal revokes the
active credentials of the operator, awaits, and then marks the operator removed.
The credential service issues for any operator id, at any time.

* `registryStep` — removals, issuances and the operations of both managers, each
  interleaved at its await.
* `Leaving` — the operator is removed, or its credentials have been revoked for a
  removal that has not come back yet.
* `SparesLeaving` — a step makes no credential of such an operator active.
* `removed_hold_nothing` — in a run of such steps an operator has no active
  credential once its removal has returned.
-/

namespace Signet
namespace Cli

open Kit Machine Schemas Policy Sessions

/-! ## The system -/

/-- What the two managers are created with. -/
structure RegistryDeps where
  config : CredentialManagerConfig
  hash : HashEnv
  safeParse : OperatorConfig → Option (List SchemaIssue)

/-- The stores and the calls in flight. -/
structure RegistryState where
  operators : AssocMap String OperatorRecord
  store : CredentialStore
  /-- Removals that await the revocations, with the record they have looked up. -/
  removals : AssocMap Nat (String × OperatorRecord)
  /-- Issuances that await the lookup of their policy. -/
  issues : AssocMap Nat (CredentialConfig × Option String)

/-- What happens next. -/
inductive RegistryEvent where
  | createOperator (config : OperatorConfig) (drawnId : String)
  | listOperators
  | lookupOperator (operatorId : String)
  | updateOperator (operatorId : String) (changes : OperatorChanges)
  | beginRemove (call : Nat) (operatorId : String)
  | finishRemove (call : Nat)
  | beginIssue (call : Nat) (credentialConfig : CredentialConfig) (issuedBy : Option String)
      (drawn : Drawn)
  | finishIssue (call : Nat) (lookup : Option (Except SignetError PolicyConfig))
      (drawn : Drawn)
  | manager (op : CredentialOp)

/-- An event at a clock reading. -/
structure RegistryLabel where
  now : Int
  event : RegistryEvent

/-- What a step makes observable. -/
inductive RegistryOutcome where
  | operator (result : Except SignetError OperatorRecord)
  | operators (records : List OperatorRecord)
  | removed (operatorId : String) (result : Except SignetError Unit)
  | issued (result : Except Failure IssuedCredential)
  | outcome (outcome : CredentialOutcome)

/-- One step. -/
def registryStep (deps : RegistryDeps) (s : RegistryState) (label : RegistryLabel) :
    Option (RegistryState × List RegistryOutcome) :=
  match label.event with
  | .createOperator config drawnId =>
    let result := OperatorManager.create deps.safeParse s.operators label.now drawnId config
    some ({ s with operators := result.1 }, [.operator result.2])
  | .listOperators => some (s, [.operators (OperatorManager.list s.operators)])
  | .lookupOperator operatorId =>
    some (s, [.operator (OperatorManager.lookup s.operators operatorId)])
  | .updateOperator operatorId changes =>
    let result := OperatorManager.update deps.safeParse s.operators operatorId changes
    some ({ s with operators := result.1 }, [.operator result.2])
  | .beginRemove call operatorId =>
    if (s.removals.get call).isSome then none
    else match OperatorManager.beginRemove s.operators operatorId with
      | .error error => some (s, [.removed operatorId (.error error)])
      | .ok existing =>
        -- the hook revokes before the await and always answers ok
        let revoked := revokeAllCredentials label.now s.store operatorId .ownerInitiated
        some ({ s with
          store := revoked.1
          removals := s.removals.set call (operatorId, existing) }, [])
  | .finishRemove call =>
    match s.removals.get call with
    | none => none
    | some (operatorId, existing) =>
      let finished :=
        OperatorManager.finishRemove s.operators operatorId existing (.ok ())
      some ({ s with
        operators := finished.1
        removals := s.removals.delete call }, [.removed operatorId finished.2])
  | .beginIssue call credentialConfig issuedBy drawn =>
    if (s.issues.get call).isSome then none
    else
      let begun := Service.beginIssue deps.config deps.hash label.now s.store credentialConfig
        issuedBy drawn
      match begun.2 with
      | some result => some ({ s with store := begun.1 }, [.issued result])
      | none => some ({ s with
          store := begun.1
          issues := s.issues.set call (credentialConfig, issuedBy) }, [])
  | .finishIssue call lookup drawn =>
    match s.issues.get call with
    | none => none
    | some (credentialConfig, issuedBy) =>
      let finished := Service.finishIssue deps.config deps.hash label.now s.store
        credentialConfig issuedBy drawn lookup
      some ({ s with
        store := finished.1
        issues := s.issues.delete call }, [.issued finished.2])
  | .manager op =>
    let result := runOp deps.config deps.hash s.store ⟨label.now, op⟩
    some ({ s with store := result.1 }, [.outcome result.2])

/-- The system, started without operators and credentials. -/
def registryMachine (deps : RegistryDeps) :
    Machine RegistryState RegistryLabel RegistryOutcome where
  init := ⟨.empty, .empty, .empty, .empty⟩
  step := registryStep deps

/-! ## What a step makes active -/

/-- Every record is listed under its operator. -/
def Listed (store : CredentialStore) : Prop :=
  ∀ id r, store.byId.get id = some r → id ∈ operatorIds store r.operatorId

/-- From `s` to `t` credentials become active for the named operators only, and
no record gets lost from the index. -/
structure Activates (named : String → Prop) (s t : CredentialStore) : Prop where
  active : ∀ id r', t.byId.get id = some r' → r'.status = .active →
    (∃ r, s.byId.get id = some r ∧ r.operatorId = r'.operatorId ∧ r.status = .active) ∨
      named r'.operatorId
  listed : Listed s → Listed t

variable {s t : CredentialStore} {out : List RegistryOutcome} {label : RegistryLabel}
  {named : String → Prop}

theorem Activates.trans {u : CredentialStore} (hst : Activates named s t)
    (htu : Activates named t u) : Activates named s u := by
  refine ⟨?_, fun hListed => htu.listed (hst.listed hListed)⟩
  intro id r'' hGet'' hActive''
  rcases htu.active id r'' hGet'' hActive'' with ⟨r', hGet', hOperator', hActive'⟩ | hNamed
  · rcases hst.active id r' hGet' hActive' with ⟨r, hGet, hOperator, hActive⟩ | hNamed
    · exact Or.inl ⟨r, hGet, hOperator.trans hOperator', hActive⟩
    · exact Or.inr (hOperator' ▸ hNamed)
  · exact Or.inr hNamed

theorem activates_of_quiet (hQuiet : Quiet s t) : Activates named s t := by
  constructor
  · intro id r' hGet' hActive
    obtain ⟨r, hGet, hOperator, hWas⟩ := hQuiet.back hGet'
    exact Or.inl ⟨r, hGet, hOperator.symm, hWas hActive⟩
  · intro hListed id r' hGet'
    obtain ⟨r, hGet, hOperator, -⟩ := hQuiet.back hGet'
    unfold operatorIds
    rw [hQuiet.byOperator, hOperator]
    exact hListed id r hGet

theorem activates_upsertRecord (store : CredentialStore) {record : InternalCredentialRecord}
    (hNamed : named record.operatorId) :
    Activates named store (upsertRecord store record) := by
  constructor
  · intro id r' hGet' hActive
    rw [upsertRecord_get] at hGet'
    split at hGet'
    · cases hGet'
      exact Or.inr hNamed
    · exact Or.inl ⟨r', hGet', rfl, hActive⟩
  · intro hListed id r' hGet'
    rw [operatorIds_upsertRecord]
    rw [upsertRecord_get] at hGet'
    split at hGet'
    · next hId =>
      cases hGet'
      exact Or.inl ⟨rfl, hId⟩
    · exact Or.inr (hListed id r' hGet')

variable (deps : RegistryDeps)

/-- An issuance from the configuration stores a credential for the operator,
unless its deadline is no date. -/
def IssuesFor (now : Int) (credentialConfig : CredentialConfig) (operatorId : String) : Prop :=
  credentialConfig.operatorId = operatorId ∧
    (toISOString (now + (credentialConfig.ttlSeconds.getD deps.config.defaultTtlSeconds)
      * 1000)).isSome = true

theorem activates_issueCredential (now : Int) (store : CredentialStore)
    (credentialConfig : CredentialConfig) (options : IssueOptions) (drawn : Drawn) :
    Activates (IssuesFor deps now credentialConfig) store
      (issueCredential deps.config deps.hash now store credentialConfig options drawn).1 := by
  have hEvict : Activates (IssuesFor deps now credentialConfig) store
      (evictOldest deps.config now store credentialConfig.operatorId).1 :=
    activates_of_quiet (quiet_evictOldest deps.config now store credentialConfig.operatorId)
  unfold issueCredential
  simp only [evictOldest_ok]
  split
  · exact hEvict
  · split
    · exact hEvict
    · next expiresAt hDate =>
      refine hEvict.trans (activates_upsertRecord _ ⟨rfl, ?_⟩)
      rw [hDate]
      rfl

/-- The operators for which an operation of the manager makes a credential
active. -/
def OpActivates (now : Int) (store : CredentialStore) (operatorId : String) :
    CredentialOp → Prop
  | .issueCredential credentialConfig _ _ => IssuesFor deps now credentialConfig operatorId
  | .setCredentialStatus credentialId .active =>
    ∃ r, store.byId.get credentialId = some r ∧ r.operatorId = operatorId
  | _ => False

theorem activates_setCredentialStatus (now : Int) (store : CredentialStore)
    (credentialId : String) (status : CredentialStatus) :
    Activates (fun operatorId =>
        OpActivates deps now store operatorId (.setCredentialStatus credentialId status)) store
      (setCredentialStatus store credentialId status).1 := by
  have hIndexes := writerRelation_sameIndexes.setCredentialStatus store credentialId status
  have hBack : ∀ id r', (setCredentialStatus store credentialId status).1.byId.get id = some r' →
      ∃ r, store.byId.get id = some r ∧
        r' = if credentialId = id then { r with status := status } else r := by
    intro id r' hGet'
    cases hGet : store.byId.get id with
    | none =>
      rw [hIndexes.addsNothing id hGet] at hGet'
      cases hGet'
    | some r =>
      rw [setCredentialStatus_get store credentialId id status hGet] at hGet'
      exact ⟨r, rfl, (Option.some.inj hGet').symm⟩
  constructor
  · intro id r' hGet' hActive
    obtain ⟨r, hGet, rfl⟩ := hBack id r' hGet'
    by_cases hId : credentialId = id
    · subst hId
      rw [if_pos rfl] at hActive ⊢
      have hStatus : status = .active := hActive
      subst hStatus
      exact Or.inr ⟨r, hGet, rfl⟩
    · rw [if_neg hId] at hActive ⊢
      exact Or.inl ⟨r, hGet, rfl, hActive⟩
  · intro hListed id r' hGet'
    obtain ⟨r, hGet, rfl⟩ := hBack id r' hGet'
    have hOperator : (if credentialId = id then { r with status := status } else r).operatorId =
        r.operatorId := by
      split <;> rfl
    unfold operatorIds
    rw [hIndexes.byOperator, hOperator]
    exact hListed id r hGet

theorem quiet_sweepExpired (now : Int) (store : CredentialStore) :
    Quiet store (sweepExpired deps.config now store).1 := by
  have hNoStatus : NoDirectStatus ⟨now, .sweepExpired⟩ := fun _ _ => nofun
  exact quiet_runOp deps.config deps.hash rfl hNoStatus

include deps in
/-- A cascade makes nothing active. -/
theorem quiet_revokeAll (now : Int) (store : CredentialStore) (operatorId : String)
    (reason : CredentialRevocationReason) :
    Quiet store (revokeAllCredentials now store operatorId reason).1 := by
  have hNoStatus : NoDirectStatus ⟨now, .revokeAllCredentials operatorId reason⟩ :=
    fun _ _ => nofun
  exact quiet_runOp deps.config deps.hash rfl hNoStatus

theorem activates_runOp (now : Int) (store : CredentialStore) (op : CredentialOp) :
    Activates (fun operatorId => OpActivates deps now store operatorId op) store
      (runOp deps.config deps.hash store ⟨now, op⟩).1 := by
  have hQuiet : (∀ credentialConfig options drawn,
      op ≠ .issueCredential credentialConfig options drawn) →
      (∀ credentialId status, op ≠ .setCredentialStatus credentialId status) →
        Quiet store (runOp deps.config deps.hash store ⟨now, op⟩).1 := by
    intro hIssue hDirect
    refine quiet_runOp deps.config deps.hash ?_ hDirect
    unfold CredentialCall.issueId
    split
    · next hOp => exact absurd hOp (hIssue _ _ _)
    · rfl
  cases op with
  | issueCredential credentialConfig options drawn =>
    exact activates_issueCredential deps now store credentialConfig options drawn
  | setCredentialStatus credentialId status =>
    exact activates_setCredentialStatus deps now store credentialId status
  | _ => exact activates_of_quiet (hQuiet (fun _ _ _ => nofun) (fun _ _ => nofun))

def MakesActive (s : RegistryState) (label : RegistryLabel) (operatorId : String) : Prop :=
  match label.event with
  | .beginIssue _ credentialConfig _ _ =>
    credentialConfig.policyId = none ∧ IssuesFor deps label.now credentialConfig operatorId
  | .finishIssue call lookup _ =>
    ∃ credentialConfig issuedBy scopes,
      s.issues.get call = some (credentialConfig, issuedBy) ∧
      Service.resolvePolicyScopes lookup (credentialConfig.policyId.getD "")
        credentialConfig.allow credentialConfig.deny = .ok scopes ∧
      IssuesFor deps label.now credentialConfig operatorId
  | .manager op => OpActivates deps label.now s.store operatorId op
  | _ => False

/-! ## Removals -/

/-- The operator is removed, or its removal awaits the revocations. -/
def Leaving (s : RegistryState) (operatorId : String) : Prop :=
  OperatorManager.Removed s.operators operatorId ∨
    ∃ call existing, s.removals.get call = some (operatorId, existing)

/-- A step makes no credential of a leaving operator active. -/
def SparesLeaving (s : RegistryState) (label : RegistryLabel) : Prop :=
  ∀ operatorId, MakesActive deps s label operatorId → ¬ Leaving s operatorId

/-- A new operator would get an id that no operator has. -/
def FreshOperators (s : RegistryState) (label : RegistryLabel) : Prop :=
  ∀ config drawnId, label.event = .createOperator config drawnId →
    s.operators.get drawnId = none

/-- The operator has no active credential. -/
def HoldsNothing (store : CredentialStore) (operatorId : String) : Prop :=
  ∀ id r, store.byId.get id = some r → r.operatorId = operatorId → r.status ≠ .active

/-- The cascade of a removal reaches every active credential of the operator. -/
theorem holdsNothing_revokeAll (now : Int) {store : CredentialStore} (hListed : Listed store)
    (operatorId : String) (reason : CredentialRevocationReason) :
    HoldsNothing (revokeAllCredentials now store operatorId reason).1 operatorId := by
  intro id r' hGet' hOperator hActive
  have hIndexes := writerRelation_sameIndexes.revokeAllCredentials now store operatorId reason
  cases hGet : store.byId.get id with
  | none =>
    rw [hIndexes.addsNothing id hGet] at hGet'
    cases hGet'
  | some r =>
    rw [revokeAllCredentials_get now store operatorId id reason hGet] at hGet'
    split at hGet'
    · cases hGet'
      simp [RecordUpdates.applyTo, revocation] at hActive
    · next hUnlisted =>
      -- an active record of the operator is listed, and so is in the loop
      rw [Option.some.injEq] at hGet'
      subst hGet'
      apply hUnlisted
      have hIn := hListed id r hGet
      rw [hOperator] at hIn
      unfold getActiveForOperator
      unfold operatorIds at hIn
      cases hIds : store.byOperator.get operatorId with
      | none =>
        rw [hIds] at hIn
        exact absurd hIn (OrderedSet.not_mem_empty id)
      | some ids =>
        rw [hIds] at hIn
        refine List.mem_map.mpr ⟨r, List.mem_filterMap.mpr ⟨id, hIn, ?_⟩, ?_⟩
        · rw [Option.filter_eq_some_iff]
          exact ⟨hGet, by simpa using hActive⟩
        · exact store.keyed id r hGet

theorem holdsNothing_of_activates (hActivates : Activates named s t) {operatorId : String}
    (hHolds : HoldsNothing s operatorId) (hNot : ¬ named operatorId) :
    HoldsNothing t operatorId := by
  rintro id r' hGet' rfl hActive
  rcases hActivates.active id r' hGet' hActive with ⟨r, hGet, hOperator, hWas⟩ | hNamed
  · exact hHolds id r hGet hOperator hWas
  · exact hNot hNamed

/-! ## One step -/

/-- What a step does: to the credentials what is said of it, and an operator
leaves with nothing, and for good. -/
structure RegistryMove (s s' : RegistryState) (label : RegistryLabel)
    (out : List RegistryOutcome) : Prop where
  activates : Activates (MakesActive deps s label) s.store s'.store
  leaves : ∀ operatorId, Leaving s' operatorId → Leaving s operatorId ∨
    (Listed s.store → HoldsNothing s'.store operatorId)
  removed : ∀ operatorId, OperatorManager.Removed s.operators operatorId →
    OperatorManager.Removed s'.operators operatorId
  reported : ∀ operatorId, .removed operatorId (.ok ()) ∈ out →
    OperatorManager.Removed s'.operators operatorId

variable {deps}

theorem activates_refl (store : CredentialStore) :
    Activates named store store :=
  ⟨fun _ r hGet hActive => Or.inl ⟨r, hGet, rfl, hActive⟩, fun hListed => hListed⟩

/-- A step that leaves the operators and the removals alone. -/
theorem registryMove_of_store {s s' : RegistryState} (hOperators : s'.operators = s.operators)
    (hRemovals : s'.removals = s.removals)
    (hActivates : Activates (MakesActive deps s label) s.store s'.store)
    (hOut : ∀ operatorId, .removed operatorId (.ok ()) ∉ out) :
    RegistryMove deps s s' label out := by
  refine ⟨hActivates, ?_, ?_, ?_⟩
  · intro operatorId hLeaving
    unfold Leaving at hLeaving ⊢
    rw [hOperators, hRemovals] at hLeaving
    exact Or.inl hLeaving
  · intro operatorId hRemoved
    rw [hOperators]
    exact hRemoved
  · intro operatorId hReported
    exact absurd hReported (hOut operatorId)

/-- A step that writes operators only, and keeps who is removed. -/
theorem registryMove_of_operators {s : RegistryState} {operators : AssocMap String OperatorRecord}
    (hSame : ∀ operatorId, OperatorManager.Removed operators operatorId ↔
      OperatorManager.Removed s.operators operatorId)
    (hOut : ∀ operatorId, .removed operatorId (.ok ()) ∉ out) :
    RegistryMove deps s { s with operators := operators } label out := by
  refine ⟨activates_refl s.store, ?_, fun operatorId => (hSame operatorId).mpr, ?_⟩
  · rintro operatorId (hRemoved | hAwaits)
    · exact Or.inl (Or.inl ((hSame operatorId).mp hRemoved))
    · exact Or.inl (Or.inr hAwaits)
  · intro operatorId hReported
    exact absurd hReported (hOut operatorId)

theorem activates_issueResolved (now : Int) (store : CredentialStore)
    (credentialConfig : CredentialConfig) (issuedBy : Option String) (drawn : Drawn)
    (hNamed : ∀ operatorId, IssuesFor deps now credentialConfig operatorId → named operatorId) :
    Activates named store (Service.issueResolved deps.config deps.hash now store credentialConfig
      issuedBy drawn).1 := by
  have hIssue := activates_issueCredential deps now store credentialConfig
    ⟨some drawn.credentialId, issuedBy⟩ drawn
  exact ⟨fun id r' hGet' hActive =>
    (hIssue.active id r' hGet' hActive).imp_right (hNamed r'.operatorId), hIssue.listed⟩

theorem registryStep_move {s s' : RegistryState} (hFresh : FreshOperators s label)
    (hStep : registryStep deps s label = some (s', out)) : RegistryMove deps s s' label out := by
  obtain ⟨now, event⟩ := label
  cases event with
  | createOperator config drawnId =>
    cases hStep
    exact registryMove_of_operators
      (fun _ => OperatorManager.removed_create_iff (hFresh config drawnId rfl)) (by simp)
  | listOperators =>
    cases hStep
    exact registryMove_of_store rfl rfl (activates_refl _) (by simp)
  | lookupOperator operatorId =>
    cases hStep
    exact registryMove_of_store rfl rfl (activates_refl _) (by simp)
  | updateOperator operatorId changes =>
    cases hStep
    exact registryMove_of_operators (fun _ => OperatorManager.removed_update_iff) (by simp)
  | beginRemove call operatorId =>
    simp only [registryStep] at hStep
    split at hStep
    · cases hStep
    · split at hStep
      · cases hStep
        exact registryMove_of_store rfl rfl (activates_refl _) (by simp)
      · next existing _ =>
        cases hStep
        refine ⟨activates_of_quiet (quiet_revokeAll deps now s.store _ _), ?_,
          fun _ hRemoved => hRemoved, by simp⟩
        rintro id (hRemoved | ⟨other, record, hAwaits⟩)
        · exact Or.inl (Or.inl hRemoved)
        · rw [AssocMap.get_set] at hAwaits
          split at hAwaits
          · -- the operator whose credentials have just been revoked
            cases hAwaits
            exact Or.inr fun hListed => holdsNothing_revokeAll now hListed _ _
          · exact Or.inl (Or.inr ⟨other, record, hAwaits⟩)
  | finishRemove call =>
    simp only [registryStep] at hStep
    split at hStep
    · cases hStep
    · next operatorId existing hAwaits =>
      cases hStep
      refine ⟨activates_refl _, ?_, ?_, ?_⟩
      · rintro id (hRemoved | ⟨other, record, hOther⟩)
        · rcases OperatorManager.removed_finishRemove_iff.mp hRemoved with rfl | hWas
          · exact Or.inl (Or.inr ⟨call, existing, hAwaits⟩)
          · exact Or.inl (Or.inl hWas)
        · obtain ⟨-, hOther⟩ := AssocMap.of_get_delete hOther
          exact Or.inl (Or.inr ⟨other, record, hOther⟩)
      · intro id hRemoved
        exact OperatorManager.removed_finishRemove_iff.mpr (Or.inr hRemoved)
      · intro id hReported
        simp only [List.mem_singleton, RegistryOutcome.removed.injEq] at hReported
        exact OperatorManager.removed_finishRemove_iff.mpr (Or.inl hReported.1)
  | beginIssue call credentialConfig issuedBy drawn =>
    have hBegin : Activates
        (MakesActive deps s ⟨now, .beginIssue call credentialConfig issuedBy drawn⟩) s.store
        (Service.beginIssue deps.config deps.hash now s.store credentialConfig issuedBy
          drawn).1 := by
      have hSweep := quiet_sweepExpired deps now s.store
      unfold Service.beginIssue
      simp only
      split
      · exact activates_of_quiet hSweep
      · next hNoPolicy =>
        refine (activates_of_quiet hSweep).trans (activates_issueResolved now _ _ _ _ ?_)
        intro operatorId hIssues
        exact ⟨by simpa using hNoPolicy, hIssues⟩
    simp only [registryStep] at hStep
    split at hStep
    · cases hStep
    · split at hStep
      · cases hStep
        exact registryMove_of_store rfl rfl hBegin (by simp)
      · cases hStep
        exact registryMove_of_store rfl rfl hBegin (by simp)
  | finishIssue call lookup drawn =>
    simp only [registryStep] at hStep
    split at hStep
    · cases hStep
    · next credentialConfig issuedBy hAwaits =>
      cases hStep
      refine registryMove_of_store rfl rfl ?_ (by simp)
      show Activates _ s.store (Service.finishIssue deps.config deps.hash now s.store
        credentialConfig issuedBy drawn lookup).1
      unfold Service.finishIssue
      split
      · exact activates_refl _
      · next scopes hScopes =>
        refine activates_issueResolved now _ _ _ _ ?_
        intro operatorId hIssues
        exact ⟨credentialConfig, issuedBy, scopes, hAwaits, hScopes, hIssues⟩
  | manager op =>
    cases hStep
    exact registryMove_of_store rfl rfl (activates_runOp deps now s.store op) (by simp)

/-! ## Runs -/

/-- The index lists every record, and nobody leaves with an active credential. -/
structure RemovalInvariant (s : RegistryState) : Prop where
  listed : Listed s.store
  leaving : ∀ operatorId, Leaving s operatorId → HoldsNothing s.store operatorId

theorem RemovalInvariant.step {s s' : RegistryState} {label : RegistryLabel}
    {out : List RegistryOutcome} (inv : RemovalInvariant s)
    (hMove : RegistryMove deps s s' label out) (hSpares : SparesLeaving deps s label) :
    RemovalInvariant s' := by
  refine ⟨hMove.activates.listed inv.listed, ?_⟩
  intro operatorId hLeaving
  rcases hMove.leaves operatorId hLeaving with hWas | hCascade
  · exact holdsNothing_of_activates hMove.activates (inv.leaving operatorId hWas)
      fun hMakes => hSpares operatorId hMakes hWas
  · exact hCascade inv.listed

theorem removalInvariant_init : RemovalInvariant (registryMachine deps).init := by
  constructor
  · intro id r hGet
    cases hGet
  · intro operatorId _ id r hGet
    cases hGet

/-- Once a removal has returned ok, the operator has no active credential, in
that state and in every later one. -/
def RemovalsFinal (h : List (Occurrence RegistryState RegistryLabel RegistryOutcome))
    (s : RegistryState) : Prop :=
  ∀ h₁ o h₂ operatorId, h = h₁ ++ o :: h₂ → .removed operatorId (.ok ()) ∈ o.out →
    ∀ t ∈ visited h₂ s, HoldsNothing t.store operatorId

/-- **Removed operators hold nothing**, in every run that makes no credential of
a removed operator active, nor one of an operator whose removal is under way. -/
theorem removed_hold_nothing
    {h : List (Occurrence RegistryState RegistryLabel RegistryOutcome)} {s : RegistryState}
    (hRun : (registryMachine deps).Runs h s) (hFresh : AllMeet FreshOperators h)
    (hSpares : AllMeet (SparesLeaving deps) h) : RemovalsFinal h s := by
  have hKept : ∀ g t label t' out, (registryMachine deps).Runs g t →
      AllMeet (fun s label => FreshOperators s label ∧ SparesLeaving deps s label) g →
        (RemovalInvariant t ∧ ∀ o ∈ g, ∀ operatorId, .removed operatorId (.ok ()) ∈ o.out →
          OperatorManager.Removed t.operators operatorId) →
        FreshOperators t label ∧ SparesLeaving deps t label →
          (registryMachine deps).step t label = some (t', out) →
            RemovalInvariant t' ∧ ∀ o ∈ g ++ [⟨t, label, out⟩], ∀ operatorId,
              .removed operatorId (.ok ()) ∈ o.out →
                OperatorManager.Removed t'.operators operatorId := by
    rintro g t label t' out - - ⟨inv, hReported⟩ ⟨hNew, hOld⟩ hStep
    have hMove := registryStep_move hNew hStep
    refine ⟨inv.step hMove hOld, ?_⟩
    intro o ho operatorId hOut
    rcases List.mem_append.mp ho with hEarlier | hLast
    · exact hMove.removed operatorId (hReported o hEarlier operatorId hOut)
    · rw [List.mem_singleton] at hLast
      subst hLast
      exact hMove.reported operatorId hOut
  intro h₁ o h₂ operatorId hSplit hOut t ht
  subst hSplit
  have hJoined : (registryMachine deps).Runs ((h₁ ++ [o]) ++ h₂) s := by
    simpa using hRun
  obtain ⟨h', hRun', hSub⟩ := hJoined.of_mem_visited_after ht
  have hMeets : AllMeet
      (fun s label => FreshOperators s label ∧ SparesLeaving deps s label)
        (h₁ ++ [o] ++ h') := by
    intro o' ho'
    have hIn : o' ∈ h₁ ++ o :: h₂ := by
      have hSub' := hSub o'
      simp only [List.mem_append, List.mem_cons, List.not_mem_nil, or_false] at ho' ⊢
      tauto
    exact ⟨hFresh o' hIn, hSpares o' hIn⟩
  have hInit : RemovalInvariant (registryMachine deps).init ∧
      ∀ o ∈ ([] : List (Occurrence RegistryState RegistryLabel RegistryOutcome)), ∀ operatorId,
        .removed operatorId (.ok ()) ∈ o.out →
          OperatorManager.Removed (registryMachine deps).init.operators operatorId :=
    ⟨removalInvariant_init, by rintro o ⟨⟩⟩
  obtain ⟨inv, hReported⟩ := hRun'.invariant hInit hKept hMeets
  exact inv.leaving operatorId (Or.inl (hReported o (by simp) operatorId hOut))

/-! ## An issuance after the removal -/

/-- A host that accepts every operator config. -/
def sampleRegistry : RegistryDeps := ⟨{}, sampleEnv, fun _ => none⟩

def sampleOperator : OperatorConfig where
  label := "alice"
  role := .operator
  scopeMode := .perChat

/-- A credential for the operator. -/
def sampleIssue : RegistryEvent :=
  .beginIssue 1 { operatorId := "op_1", chatIds := ["conv"], allow := some [.send] } none
    ⟨"cred", "token"⟩

def issuedAfterRemoval : List RegistryLabel :=
  [⟨0, .createOperator sampleOperator "op_1"⟩, ⟨1, .beginRemove 0 "op_1"⟩, ⟨2, .finishRemove 0⟩,
    ⟨3, sampleIssue⟩]

/-- The service issues for a removed operator. -/
theorem removed_operator_issued :
    ∃ h s, (registryMachine sampleRegistry).exec (registryMachine sampleRegistry).init
        issuedAfterRemoval = some (h, s) ∧
      OperatorManager.Removed s.operators "op_1" ∧ ¬ RemovalsFinal h s := by
  refine ⟨_, _, rfl, ⟨_, rfl, rfl⟩, ?_⟩
  intro hFinal
  exact hFinal [_, _] _ [_] "op_1" rfl (by simp [OperatorManager.finishRemove]) _
    (mem_visited_self _ _) "cred" _ rfl rfl rfl

def issuedBeforeRemoval : List RegistryLabel :=
  [⟨0, .createOperator sampleOperator "op_1"⟩, ⟨1, sampleIssue⟩, ⟨2, .beginRemove 0 "op_1"⟩,
    ⟨3, .finishRemove 0⟩]

theorem removed_hold_nothing_after_issue :
    ∃ h s, (registryMachine sampleRegistry).exec (registryMachine sampleRegistry).init
        issuedBeforeRemoval = some (h, s) ∧ RemovalsFinal h s := by
  refine ⟨_, _, rfl, removed_hold_nothing (runs_of_exec
    (show (registryMachine sampleRegistry).exec _ issuedBeforeRemoval = _ from rfl)) ?_ ?_⟩
  · intro o ho
    simp only [List.mem_cons, List.not_mem_nil, or_false] at ho
    rcases ho with rfl | rfl | rfl | rfl
    · exact fun _ _ hNew => by cases hNew; rfl
    · rintro _ _ ⟨⟩
    · rintro _ _ ⟨⟩
    · rintro _ _ ⟨⟩
  · intro o ho
    simp only [List.mem_cons, List.not_mem_nil, or_false] at ho
    rcases ho with rfl | rfl | rfl | rfl
    · exact fun _ hMakes => hMakes.elim
    · -- the operator is there, and nothing removes it yet
      rintro operatorId ⟨-, rfl, -⟩ (⟨record, hGet, hRemoved⟩ | ⟨call, existing, hAwaits⟩)
      · cases hGet
        cases hRemoved
      · cases hAwaits
    · exact fun _ hMakes => hMakes.elim
    · exact fun _ hMakes => hMakes.elim

end Cli
end Signet
