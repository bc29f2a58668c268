import Signet.Cli.HarnessSystem

/-!
# In-place updates never widen authority

Along every run of the system, whatever the interleaving of the service's
`update`, the action `credential.updateScopes` and the socket's `update_scopes`,
each possibly at work on a stale snapshot: the resolved scopes of a stored
credential only shrink, so they stay within those it was issued with.

The argument needs no fact about the snapshots.  Each entry point checks the
materiality of the very list it is about to write against the stored
credential, and no await lies between that check and the write.

* `Evolves` — records narrow and none is added: what every segment does to the
  store, an issuance excepted.
* `evolves_runOp`, `evolves_handleRequest`, `evolves_resume`, … — one spec for each
  segment.
* `scopes_never_widen` — the run theorem.
-/

namespace Signet
namespace Cli

open Kit Machine Schemas Policy Sessions

/-- A later record of a credential: the same chats, no new scope, and resolved
scopes in step with the scope set. -/
structure NarrowedRecord (r r' : InternalCredentialRecord) : Prop where
  chatIds : r'.chatIds = r.chatIds
  scopes : ∀ p, p ∈ resolveScopeSet r'.effectiveScopes → p ∈ resolveScopeSet r.effectiveScopes
  resolved : r.resolvedScopes = resolveScopeSet r.effectiveScopes →
    r'.resolvedScopes = resolveScopeSet r'.effectiveScopes

theorem narrowedRecord_refl (r : InternalCredentialRecord) : NarrowedRecord r r :=
  ⟨rfl, fun _ h => h, fun h => h⟩

variable {r : InternalCredentialRecord} {s : SystemState}
  {h : List (Occurrence SystemState SystemLabel Observation)}

theorem narrowedRecord_trans {r' r'' : InternalCredentialRecord} (h : NarrowedRecord r r')
    (h' : NarrowedRecord r' r'') : NarrowedRecord r r'' :=
  ⟨h'.chatIds.trans h.chatIds, fun p hp => h.scopes p (h'.scopes p hp),
    fun hr => h'.resolved (h.resolved hr)⟩

/-- Every stored credential is still stored, with a narrowed record. -/
def Narrows (s t : CredentialStore) : Prop :=
  ∀ id r, s.byId.get id = some r → ∃ r', t.byId.get id = some r' ∧ NarrowedRecord r r'

theorem narrows_refl (s : CredentialStore) : Narrows s s :=
  fun _ r hGet => ⟨r, hGet, narrowedRecord_refl r⟩

theorem narrows_trans {s t u : CredentialStore} (hst : Narrows s t) (htu : Narrows t u) :
    Narrows s u := by
  intro id r hGet
  obtain ⟨r', hGet', hNarrow⟩ := hst id r hGet
  obtain ⟨r'', hGet'', hNarrow'⟩ := htu id r' hGet'
  exact ⟨r'', hGet'', narrowedRecord_trans hNarrow hNarrow'⟩

/-- Records narrow and none is added. -/
structure Evolves (s t : CredentialStore) : Prop where
  narrows : Narrows s t
  addsNothing : AddsNothing s t

theorem evolves_refl (s : CredentialStore) : Evolves s s :=
  ⟨narrows_refl s, addsNothing_refl s⟩

theorem evolves_of_byId_eq {s t : CredentialStore} (h : t.byId = s.byId) : Evolves s t := by
  refine ⟨?_, addsNothing_of_byId_eq h⟩
  intro id r hGet
  exact ⟨r, by rw [h]; exact hGet, narrowedRecord_refl r⟩

/-! ## The operations of the manager -/

section

variable (config : CredentialManagerConfig) (env : HashEnv) {store : CredentialStore}

include config env

theorem narrowedRecord_recordEffect (store : CredentialStore) (call : CredentialCall) (id : String)
    (r : InternalCredentialRecord)
    (hWrite : ∀ scopes, call.op = .updateCredentialScopes id scopes →
      ∀ p, p ∈ resolveScopeSet scopes → p ∈ resolveScopeSet r.effectiveScopes) :
    NarrowedRecord r (recordEffect config env store call id r) := by
  have hSelf := narrowedRecord_refl r
  have hStatus : ∀ status, NarrowedRecord r { r with status := status } := fun _ =>
    ⟨rfl, fun _ h => h, fun h => h⟩
  have hRevoked : ∀ now reason, NarrowedRecord r ((revocation now reason).applyTo r) :=
    fun _ _ => ⟨rfl, fun _ h => h, fun h => h⟩
  obtain ⟨now, op⟩ := call
  cases op with
  | issueCredential credentialConfig options drawn =>
    simp only [recordEffect]
    split
    · exact hRevoked now _
    · exact hSelf
  | getCredentialByToken token =>
    simp only [recordEffect]
    split
    · exact hStatus .expired
    · exact hSelf
  | lookupByToken token =>
    simp only [recordEffect]
    split
    · exact hStatus .expired
    · exact hSelf
  | recordHeartbeat credentialId =>
    simp only [recordEffect]
    split
    · exact ⟨rfl, fun _ h => h, fun h => h⟩
    · exact hSelf
  | renewCredential credentialId =>
    simp only [recordEffect, renewedRecord]
    split
    · split
      · split
        · exact hSelf
        · exact ⟨rfl, fun _ h => h, fun h => h⟩
      · exact hSelf
    · exact hSelf
  | updateCredentialScopes credentialId scopes =>
    simp only [recordEffect]
    split
    · next hApplies =>
      have hOp : credentialId = id := hApplies.1
      subst hOp
      exact ⟨rfl, hWrite scopes rfl, fun _ => rfl⟩
    · exact hSelf
  | revokeCredential credentialId reason =>
    simp only [recordEffect]
    split
    · exact hRevoked now reason
    · exact hSelf
  | revokeAllCredentials operatorId reason =>
    simp only [recordEffect]
    split
    · exact hRevoked now reason
    · exact hSelf
  | setCredentialStatus credentialId status =>
    simp only [recordEffect]
    split
    · exact hStatus status
    · exact hSelf
  | sweepExpired =>
    simp only [recordEffect, sweptRecord]
    split
    · exact hSelf
    · split
      · exact hStatus .expired
      · split
        · exact hRevoked now _
        · exact hSelf
  | getCredentialById _ | getActiveCredentials _ | listCredentials _ | checkMateriality _ _
  | getRevealState _ | isHeartbeatStale _ => exact hSelf

theorem narrows_runOp {call : CredentialCall} (hFresh : FreshIds store call)
    (hWrite : ∀ id scopes, call.op = .updateCredentialScopes id scopes →
      ∀ r, store.byId.get id = some r →
        ∀ p, p ∈ resolveScopeSet scopes → p ∈ resolveScopeSet r.effectiveScopes) :
    Narrows store (runOp config env store call).1 := by
  intro id r hGet
  exact ⟨_, runOp_get_of_some config env hFresh hGet,
    narrowedRecord_recordEffect config env store call id r
      (fun scopes hOp => hWrite id scopes hOp r hGet)⟩

theorem evolves_runOp (store : CredentialStore) (call : CredentialCall)
    (hIssue : call.issueId = none)
    (hWrite : ∀ id scopes, call.op = .updateCredentialScopes id scopes →
      ∀ r, store.byId.get id = some r →
        ∀ p, p ∈ resolveScopeSet scopes → p ∈ resolveScopeSet r.effectiveScopes) :
    Evolves store (runOp config env store call).1 := by
  have hFresh : FreshIds store call := by
    intro id hId
    rw [hIssue] at hId
    cases hId
  refine ⟨narrows_runOp config env hFresh hWrite, ?_⟩
  intro id hNone
  cases hNew : (runOp config env store call).1.byId.get id with
  | none => rfl
  | some r =>
    have hId := (runOp_get_of_none config env hNone hNew).1
    rw [hIssue] at hId
    cases hId

theorem evolves_sweepExpired (now : Int) (store : CredentialStore) :
    Evolves store (sweepExpired config now store).1 := by
  refine evolves_runOp config env store ⟨now, .sweepExpired⟩ rfl ?_
  intro id scopes hOp
  cases hOp

theorem evolves_revokeCredential (now : Int) (store : CredentialStore) (credentialId : String)
    (reason : CredentialRevocationReason) :
    Evolves store (revokeCredential now store credentialId reason).1 := by
  refine evolves_runOp config env store
    ⟨now, .revokeCredential credentialId reason⟩ rfl ?_
  intro id scopes hOp
  cases hOp

theorem evolves_setCredentialStatus (store : CredentialStore) (credentialId : String)
    (status : CredentialStatus) :
    Evolves store (setCredentialStatus store credentialId status).1 := by
  refine evolves_runOp config env store
    ⟨0, .setCredentialStatus credentialId status⟩ rfl ?_
  intro id scopes hOp
  cases hOp

theorem evolves_recordHeartbeat (now : Int) (store : CredentialStore) (credentialId : String) :
    Evolves store (recordHeartbeat now store credentialId).1 := by
  refine evolves_runOp config env store ⟨now, .recordHeartbeat credentialId⟩ rfl ?_
  intro id scopes hOp
  cases hOp

/-- A scope write that passed the materiality check against the stored record
narrows it. -/
theorem evolves_updateCredentialScopes {credentialId : String} {scopes : ScopeSet}
    {check : DetailedMaterialityCheck}
    (hCheck : checkStoredMateriality store credentialId scopes = .ok check)
    (hPass : ¬ check.requiresReauthorization = true) :
    Evolves store (updateCredentialScopes env store credentialId scopes).1 := by
  refine evolves_runOp config env store
    ⟨0, .updateCredentialScopes credentialId scopes⟩ rfl ?_
  intro id scopes' hOp r hGet p hp
  cases hOp
  unfold checkStoredMateriality at hCheck
  rw [hGet] at hCheck
  cases hCheck
  exact resolve_subset_of_not_requiresReauthorization (by simpa using hPass) hp

end

/-! ## The entry points -/

section

variable (deps : HandlerDeps) (now : Int) (store : CredentialStore)

variable (credentialId : String)

theorem evolves_lookup : Evolves store (Service.lookup deps.config now store credentialId).1 :=
  evolves_sweepExpired deps.config deps.hash now store

theorem evolves_applyScopes (scopes : ScopeSet) :
    Evolves store (Service.applyScopes deps.hash now store credentialId scopes).1 := by
  unfold Service.applyScopes
  split
  · exact evolves_refl store
  · next check hCheck =>
    split
    · exact evolves_revokeCredential deps.config deps.hash now store _ _
    · next hPass => exact evolves_updateCredentialScopes deps.config deps.hash hCheck hPass

theorem evolves_beginUpdate (changes : Service.ConfigChanges) :
    Evolves store (Service.beginUpdate deps.hash now store credentialId changes).1 := by
  unfold Service.beginUpdate
  split
  · exact evolves_refl store
  · split
    · exact evolves_refl store
    · split
      · exact evolves_refl store
      · split
        · exact evolves_refl store
        · exact evolves_applyScopes deps now store credentialId _

theorem evolves_finishUpdate (changes : Service.ConfigChanges)
    (lookup : Option (Except SignetError PolicyConfig)) :
    Evolves store
      (Service.finishUpdate deps.hash now store credentialId changes lookup).1 := by
  unfold Service.finishUpdate
  split
  · exact evolves_refl store
  · exact evolves_applyScopes deps now store credentialId _

theorem evolves_finishUpdateScopes (scopes : ScopeSet)
    (result : Except SignetError CredentialRecord) :
    Evolves store
      (UpdateAction.finishUpdateScopes deps.hash now store credentialId scopes result).1 := by
  unfold UpdateAction.finishUpdateScopes
  split
  · exact evolves_refl store
  · split
    · exact evolves_refl store
    · split
      · exact evolves_refl store
      · next check hCheck =>
        split
        · exact evolves_revokeCredential deps.config deps.hash now store _ _
        · next hPass =>
          exact evolves_updateCredentialScopes deps.config deps.hash hCheck hPass

end

theorem evolves_handleUpdateScopes (deps : HandlerDeps) (state : HandlerState)
    (allow deny : Option (List PermissionScope)) (credential : CredentialRecord) :
    Evolves state.store (handleUpdateScopes deps state allow deny credential).1.store := by
  unfold handleUpdateScopes
  split
  · exact evolves_refl _
  · simp only
    split
    · exact evolves_refl _
    · next check hCheck =>
      split
      · exact evolves_setCredentialStatus deps.config deps.hash state.store _ _
      · next hPass => exact evolves_updateCredentialScopes deps.config deps.hash hCheck hPass

section

variable (deps : HandlerDeps) (now : Int) (state : HandlerState)

theorem evolves_handleRevealContent (reveal : RevealRequest) (credential : CredentialRecord) :
    Evolves state.store (handleRevealContent deps now state reveal credential).1.store := by
  have hOpened := getRevealState_byId state.store credential.credentialId
  unfold handleRevealContent
  split
  · exact evolves_refl _
  · simp only
    split
    · exact evolves_of_byId_eq hOpened
    · split <;> exact evolves_of_byId_eq hOpened

theorem handleConfirmAction_store (actionId : String) (confirmed : Bool)
    (credential : CredentialRecord) :
    (handleConfirmAction deps now state actionId confirmed credential).1.store =
      state.store := by
  unfold handleConfirmAction
  split
  · rfl
  · split
    · rfl
    · split
      · rfl
      · split
        · rfl
        · split
          · rfl
          · simp only
            split
            · rfl
            · split
              · rfl
              · split <;> rfl

theorem evolves_handleRequest (request : HarnessRequest) (credential : CredentialRecord) :
    Evolves state.store (handleRequest deps now state request credential).1.store := by
  unfold handleRequest
  split
  · exact evolves_refl _
  · split
    · unfold handleSendMessage
      split <;> exact evolves_refl _
    · unfold handleHeartbeat
      split
      · exact evolves_refl _
      · split
        · exact evolves_refl _
        · exact evolves_recordHeartbeat deps.config deps.hash now state.store _
    · exact evolves_handleRevealContent deps now state _ credential
    · exact evolves_handleUpdateScopes deps state _ _ credential
    · rw [handleConfirmAction_store]
      exact evolves_refl _
    · exact evolves_refl _
    · exact evolves_refl _

theorem evolves_resume (stage : HandlerStage) (answer : Answer) {segment : Segment}
    (h : resume deps now state stage answer = some segment) :
    Evolves state.store segment.1.store := by
  unfold resume at h
  split at h
  · split at h
    · cases h
      exact evolves_refl _
    · cases h
      exact evolves_sweepExpired deps.config deps.hash now state.store
  · split at h
    · cases h
      exact evolves_refl _
    · split at h <;> cases h <;> exact evolves_refl _
  · split at h
    · cases h
      exact evolves_refl _
    · split at h <;> cases h <;> exact evolves_refl _
  · split at h <;> cases h <;> exact evolves_refl _
  · split at h <;> cases h <;> exact evolves_refl _
  · split at h <;> cases h <;> exact evolves_refl _
  · cases h
    exact evolves_refl _
  · cases h
    exact evolves_refl _
  · cases h

end

/-! ## Whole runs -/

/-- The step issues the credential `id` with the record `r`. -/
def Issues (o : Occurrence SystemState SystemLabel Observation) (id : String)
    (r : InternalCredentialRecord) : Prop :=
  o.pre.store.byId.get id = none ∧ .outcome (.issued (.ok r)) ∈ o.out ∧
    (∃ credentialConfig options drawn,
      o.label.event = .manager (.issueCredential credentialConfig options drawn)) ∧
    r.resolvedScopes = resolveScopeSet r.effectiveScopes

@[simp]
theorem settle_store (s : SystemState) (call : Nat) (segment : Segment) :
    (settle s call segment).1.store = segment.1.store := by
  obtain ⟨handler, effects, _ | _⟩ := segment <;> rfl

theorem systemStep_store (deps : HandlerDeps) {s' : SystemState} {label : SystemLabel}
    {out : List Observation} (hFresh : FreshSystemIds s label)
    (hStep : systemStep deps s label = some (s', out)) :
    Narrows s.store s'.store ∧
      ∀ id r, s.store.byId.get id = none → s'.store.byId.get id = some r →
        Issues ⟨s, label, out⟩ id r := by
  have hEvolves : Evolves s.store s'.store →
      Narrows s.store s'.store ∧
        ∀ id r, s.store.byId.get id = none → s'.store.byId.get id = some r →
          Issues ⟨s, label, out⟩ id r := by
    intro h
    refine ⟨h.narrows, ?_⟩
    intro id r hNone hSome
    rw [h.addsNothing id hNone] at hSome
    cases hSome
  obtain ⟨now, event⟩ := label
  cases systemStep_move deps hStep with
  | @manager op hOp =>
    refine ⟨?_, ?_⟩
    · refine narrows_runOp deps.config deps.hash (hFresh op rfl) ?_
      intro id scopes hWrite
      exact (hOp id scopes hWrite).elim
    · intro id r hNone hSome
      obtain ⟨hId, hOut, hResolved⟩ := runOp_get_of_none deps.config deps.hash hNone hSome
      refine ⟨hNone, by simp [hOut], ?_, hResolved⟩
      cases op with
      | issueCredential credentialConfig options drawn => exact ⟨_, _, _, rfl⟩
      | _ => cases hId
  | queueAction => exact hEvolves (evolves_refl _)
  | @request _ credentialId _ hFree => exact hEvolves (evolves_lookup deps now s.store credentialId)
  | closed hCall => exact hEvolves (evolves_refl _)
  | dispatched hCall hActive =>
    rw [settle_store] at hEvolves ⊢
    exact hEvolves (evolves_handleRequest deps now s.handler _ _)
  | answered hCall hResume =>
    rw [settle_store] at hEvolves ⊢
    exact hEvolves (evolves_resume deps now s.handler _ _ hResume)
  | updateRefused => exact hEvolves (evolves_beginUpdate deps now s.store _ _)
  | updateBegun hFree => exact hEvolves (evolves_beginUpdate deps now s.store _ _)
  | updateFinished hCall => exact hEvolves (evolves_finishUpdate deps now s.store _ _ _)
  | @scopesLooked _ credentialId _ _ hFree =>
    exact hEvolves (evolves_lookup deps now s.store credentialId)
  | scopesUpdated hCall => exact hEvolves (evolves_finishUpdateScopes deps now s.store _ _ _)

section

variable (deps : HandlerDeps) (hRun : (systemMachine deps).Runs h s)
  (hFresh : AllMeet FreshSystemIds h)

include hRun hFresh

/-- Every stored credential was issued in the run, and its record narrows the
one it was issued with. -/
theorem stored_issued {id : String} (hGet : s.store.byId.get id = some r) :
    ∃ o ∈ h, ∃ r₀, Issues o id r₀ ∧ NarrowedRecord r₀ r := by
  induction hRun generalizing id r with
  | start => cases hGet
  | @step h s s' label out hRun hStep ih =>
    rw [allMeet_snoc] at hFresh
    obtain ⟨hNarrows, hAdded⟩ := systemStep_store deps hFresh.2 hStep
    cases hOld : s.store.byId.get id with
    | none => exact ⟨_, by simp, r, hAdded id r hOld hGet, narrowedRecord_refl r⟩
    | some old =>
      obtain ⟨o, ho, r₀, hIssues, hSince⟩ := ih hFresh.1 hOld
      obtain ⟨new, hNew, hNow⟩ := hNarrows id old hOld
      rw [hGet, Option.some.injEq] at hNew
      subst hNew
      exact ⟨o, List.mem_append_left _ ho, r₀, hIssues, narrowedRecord_trans hSince hNow⟩

theorem stored_resolved {id : String} (hGet : s.store.byId.get id = some r) :
    r.resolvedScopes = resolveScopeSet r.effectiveScopes := by
  obtain ⟨_, _, r₀, hIssues, hSince⟩ := stored_issued deps hRun hFresh hGet
  exact hSince.resolved hIssues.2.2.2

end

/-- The later state still stores every credential of the earlier one, resolved to
a subset of its scopes. -/
def ShrinksTo (s t : SystemState) : Prop :=
  ∀ id r, s.store.byId.get id = some r → ∃ r', t.store.byId.get id = some r' ∧
    ∀ p, p ∈ r'.resolvedScopes → p ∈ r.resolvedScopes

/-- **In-place updates never widen authority.**  Between any two states of a run
the resolved scopes of a credential only shrink, and in the state reached they
are within those it was issued with. -/
theorem scopes_never_widen (deps : HandlerDeps)
    {h : List (Occurrence SystemState SystemLabel Observation)} {s : SystemState}
    (hRun : (systemMachine deps).Runs h s) (hFresh : AllMeet FreshSystemIds h) :
    (visited h s).Pairwise ShrinksTo ∧
      ∀ id r, s.store.byId.get id = some r →
        ∃ o ∈ h, ∃ r₀, Issues o id r₀ ∧ ∀ p, p ∈ r.resolvedScopes → p ∈ r₀.resolvedScopes := by
  have hResolved : ∀ t ∈ visited h s, ∀ id r, t.store.byId.get id = some r →
      r.resolvedScopes = resolveScopeSet r.effectiveScopes := by
    intro t ht id r hGet
    obtain ⟨h', hRun', hSub⟩ := hRun.of_mem_visited ht
    exact stored_resolved deps hRun' (fun o ho => hFresh o (hSub o ho)) hGet
  have hNarrows : (visited h s).Pairwise fun t u => Narrows t.store u.store := by
    have hTrans : ∀ t u v : SystemState, Narrows t.store u.store → Narrows u.store v.store →
        Narrows t.store v.store := fun _ _ _ => narrows_trans
    refine hRun.pairwise_visited hTrans ?_ hFresh
    intro t label u out hFreshStep hStep
    exact (systemStep_store deps hFreshStep hStep).1
  constructor
  · refine hNarrows.imp_of_mem ?_
    intro t u ht hu hNarrow id r hGet
    obtain ⟨r', hGet', hRecord⟩ := hNarrow id r hGet
    refine ⟨r', hGet', ?_⟩
    rw [hResolved t ht id r hGet, hResolved u hu id r' hGet']
    exact hRecord.scopes
  · intro id r hGet
    obtain ⟨o, ho, r₀, hIssues, hSince⟩ := stored_issued deps hRun hFresh hGet
    refine ⟨o, ho, r₀, hIssues, ?_⟩
    rw [hIssues.2.2.2, stored_resolved deps hRun hFresh hGet]
    exact hSince.scopes

/-- A socket request takes its snapshot, the service then denies `send`, and the
request goes on with the snapshot that still allows it. -/
def staleUpdate : List SystemLabel :=
  [⟨0, .manager (.issueCredential
      { operatorId := "op", chatIds := ["conv"], allow := some [.send, .readMessages] } {}
      ⟨"cred", "token"⟩)⟩,
    ⟨10, .request 1 "cred" ⟨"request", .updateScopes none (some [.readMessages])⟩⟩,
    ⟨20, .beginUpdate 2 "cred" { deny := some [.send] }⟩,
    ⟨30, .dispatch 1⟩]

/-- The stale request does not bring `send` back. -/
theorem scopes_never_widen_staleUpdate :
    ∃ h s, (systemMachine sampleDeps).exec (systemMachine sampleDeps).init staleUpdate =
        some (h, s) ∧
      (visited h s).Pairwise ShrinksTo := by
  refine ⟨_, _, rfl, (scopes_never_widen sampleDeps (runs_of_exec
    (show (systemMachine sampleDeps).exec _ staleUpdate = _ from rfl)) ?_).1⟩
  intro o ho op hOp id hId
  simp only [List.mem_cons, List.not_mem_nil, or_false] at ho
  rcases ho with rfl | rfl | rfl | rfl
  · cases hOp
    rfl
  · cases hOp
  · cases hOp
  · cases hOp

end Cli
end Signet
