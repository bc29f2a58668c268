import Signet.Cli.SealRuntime
import Signet.Seals.ChainInvariant

/-!
# The seal manager inside the runtime

Whatever the runtime does, the seal manager takes at most one of its own steps in it,
and the credential manager's store changes only with an operation or with the lookup
of the resolver.  So the invariants of the seal manager hold in the runtime as well.

* `sealSegment` — the step of the seal manager that a step of the runtime contains.
* `runtimeStore` — the store of the credential manager after a step.
* `runtimeStep_seals`, `runtimeStep_store` — that is all that happens to them.
* `Resolved` — an input waits for the issuance it was resolved for.
* `SealsHold` — the invariants of the seal manager, along every run with fresh ids.
-/

namespace Signet
namespace Cli

open Kit Machine Schemas Policy Sessions Seals

variable (deps : RuntimeDeps)

/-! ## What a step contains -/

/-- The seal that a call of `onDisclosureChanged` refreshes next, going on from its
present await. -/
def refreshedNext (s : RuntimeState) (refresh : DisclosureRefresh) : Option SealEnvelope :=
  match refresh.stage with
  | .done _ => none
  | .listed envelopes => (nextSeal refresh.refreshedSealIds envelopes).map Prod.fst
  | .refreshing awaited rest =>
    match s.returned.get awaited with
    | some (.ok _) => (nextSeal refresh.refreshedSealIds rest).map Prod.fst
    | _ => none

/-- The step of the seal manager that a step of the runtime contains. -/
def sealSegment (s : RuntimeState) (label : RuntimeLabel) : Option SealLabel :=
  match label.event with
  | .issueSeal call credentialId chatId => some ⟨label.now, .issue call credentialId chatId⟩
  | .deliver call drawnId =>
    match s.resolutions.get call with
    | some (.resolved result) => some ⟨label.now, .inputResolved call result drawnId⟩
    | _ => none
  | .refreshSeal call sealId drawnId => some ⟨label.now, .refresh call sealId drawnId⟩
  | .revokeSeal call sealId reason drawnId =>
    some ⟨label.now, .revoke call sealId reason drawnId⟩
  | .signed call result => some ⟨label.now, .signed call result⟩
  | .published call result => some ⟨label.now, .published call result⟩
  | .advanceRefresh call sealCall drawnId =>
    ((s.refreshes.get call).bind (refreshedNext s)).map fun envelope =>
      ⟨label.now, .refresh sealCall (sealIdOf envelope) drawnId⟩
  | .advanceRevocation job sealCall drawnId =>
    (s.revocations.get job).bind fun revocation =>
      match revocation.stage with
      | .found (some envelope) =>
        some ⟨label.now, .revoke sealCall (sealIdOf envelope)
          (agentReason revocation.credential.revocationReason) drawnId⟩
      | _ => none
  | _ => none

/-- The store of the credential manager after a step. -/
def runtimeStore (s : RuntimeState) (label : RuntimeLabel) : CredentialStore :=
  match label.event with
  | .credential op => (runOp deps.config deps.hash s.store ⟨label.now, op⟩).1
  | .issueSeal _ credentialId _ => (Service.lookup deps.config label.now s.store credentialId).1
  | _ => s.store

/-- The seal manager takes the step, or none, and what is made observable of it is
what the step of the runtime makes observable. -/
def TakesSegment (segment : Option SealLabel) (s t : RuntimeState)
    (out : List RuntimeObservation) : Prop :=
  match segment with
  | none => t.seals = s.seals ∧ ∀ observation, .issued observation ∉ out
  | some label => ∃ sealOut, sealStep deps.zod s.seals label = some (t.seals, sealOut) ∧
      ∀ observation, .issued observation ∈ out → observation ∈ sealOut

variable {now : Int} {out : List RuntimeObservation} {call other sealCall : Nat}
  {label : RuntimeLabel} {t : RuntimeState} {turn : RuntimeTurn} {drawnId : String} {α : Type*}
  {credentialId chatId : String} {observation : RuntimeObservation} {refresh : DisclosureRefresh}
  {event : ElevationEvent}

theorem takesSegment_runSeals {s s' : RuntimeState} {label : SealLabel}
    (h : runSeals deps s' label = some turn) (hSeals : s'.seals = s.seals) :
    TakesSegment deps (some label) s turn.1 turn.2 := by
  obtain ⟨sealTurn, hStep, rfl⟩ := Option.map_eq_some_iff.mp h
  rw [hSeals] at hStep
  refine ⟨sealTurn.2, hStep, ?_⟩
  intro observation hMem
  obtain ⟨observation', hOld, hEq⟩ := List.mem_map.mp hMem
  cases hEq
  exact hOld

/-! ## What a step does -/

/-- The call of `onDisclosureChanged` is over. -/
def RefreshStage.over : RefreshStage → Bool
  | .done _ => true
  | _ => false

/-- The effect of a step, by the event it takes. -/
inductive RuntimeMove (s : RuntimeState) (now : Int) : RuntimeEvent → RuntimeTurn → Prop
  | elevation (event : ElevationEvent) (turn : RuntimeTurn)
      (hRun : runElevation now s event = some turn) : RuntimeMove s now (.elevation event) turn
  | credential (op : CredentialOp) :
      RuntimeMove s now (.credential op)
        (notifyRevoked s (runOp deps.config deps.hash s.store ⟨now, op⟩).1,
          [.credential (runOp deps.config deps.hash s.store ⟨now, op⟩).2])
  | setOperator (operatorId : String) (record : OperatorRecord) :
      RuntimeMove s now (.setOperator operatorId record)
        ({ s with operators := s.operators.set operatorId record }, [])
  | issueSeal (call : Nat) (credentialId chatId : String) (turn : RuntimeTurn)
      (hRun : runSeals deps s ⟨now, .issue call credentialId chatId⟩ = some turn) :
      RuntimeMove s now (.issueSeal call credentialId chatId)
        (notifyRevoked { turn.1 with
          resolutions := turn.1.resolutions.set call (.credentialRead
            (Service.lookup deps.config now turn.1.store credentialId).2) }
          (Service.lookup deps.config now turn.1.store credentialId).1, turn.2)
  /-- The resolver comes to its next await, or to an answer for its issuance. -/
  | resolve (call : Nat) (credentialId chatId : String) (next : SealResolution)
      (disclosureStore : AdminReadDisclosureStore)
      (hCall : s.seals.calls.get call = some (.resolving credentialId chatId))
      (hFor : ∀ input, next = .resolved (.ok input) →
        input.credentialId = credentialId ∧ input.chatId = chatId) :
      RuntimeMove s now (.resolve call)
        ({ s with
          resolutions := s.resolutions.set call next
          elevation := { s.elevation with disclosureStore := disclosureStore } }, [])
  | deliver (call : Nat) (drawnId : String) (result : Except SignetError SealInput)
      (turn : RuntimeTurn) (hResolved : s.resolutions.get call = some (.resolved result))
      (hRun : runSeals deps { s with resolutions := s.resolutions.delete call }
        ⟨now, .inputResolved call result drawnId⟩ = some turn) :
      RuntimeMove s now (.deliver call drawnId) turn
  | refreshSeal (call : Nat) (sealId drawnId : String) (turn : RuntimeTurn)
      (hRun : runSeals deps s ⟨now, .refresh call sealId drawnId⟩ = some turn) :
      RuntimeMove s now (.refreshSeal call sealId drawnId) turn
  | revokeSeal (call : Nat) (sealId : String) (reason : AgentRevocationReason)
      (drawnId : String) (turn : RuntimeTurn)
      (hRun : runSeals deps s ⟨now, .revoke call sealId reason drawnId⟩ = some turn) :
      RuntimeMove s now (.revokeSeal call sealId reason drawnId) turn
  | signed (call : Nat) (result : Except SignetError SealSignature) (turn : RuntimeTurn)
      (hRun : runSeals deps s ⟨now, .signed call result⟩ = some turn) :
      RuntimeMove s now (.signed call result) turn
  | published (call : Nat) (result : Except SignetError Unit) (turn : RuntimeTurn)
      (hRun : runSeals deps s ⟨now, .published call result⟩ = some turn) :
      RuntimeMove s now (.published call result) turn
  /-- A call of `onDisclosureChanged` is through with the listed seals. -/
  | refreshChat (call sealCall : Nat) (drawnId : String) (refresh : DisclosureRefresh)
      (turn : RuntimeTurn) (hGet : s.refreshes.get call = some refresh)
      (hOpen : refresh.stage.over = false) (hNone : refreshedNext s refresh = none)
      (hTurn : listNext s call refresh = turn) :
      RuntimeMove s now (.advanceRefresh call sealCall drawnId) turn
  | refreshFailed (call sealCall : Nat) (drawnId : String) (refresh : DisclosureRefresh)
      (error : SignetError) (hGet : s.refreshes.get call = some refresh)
      (hOpen : refresh.stage.over = false) (hNone : refreshedNext s refresh = none) :
      RuntimeMove s now (.advanceRefresh call sealCall drawnId)
        (finishRefresh s call refresh (.error error))
  | refreshHead (call sealCall : Nat) (drawnId : String) (refresh : DisclosureRefresh)
      (envelope : SealEnvelope) (rest : List SealEnvelope) (turn : RuntimeTurn)
      (hGet : s.refreshes.get call = some refresh) (hOpen : refresh.stage.over = false)
      (hNext : refreshedNext s refresh = some envelope)
      (hRun : runSeals deps { s with
        refreshes := s.refreshes.set call { refresh with
          refreshedSealIds := refresh.refreshedSealIds.add (sealIdOf envelope)
          stage := .refreshing sealCall rest } }
        ⟨now, .refresh sealCall (sealIdOf envelope) drawnId⟩ = some turn) :
      RuntimeMove s now (.advanceRefresh call sealCall drawnId) turn
  | revocationChat (job sealCall : Nat) (drawnId : String) (revocation : RevocationJob)
      (hGet : s.revocations.get job = some revocation)
      (hStage : ∀ envelope, revocation.stage ≠ .found (some envelope)) :
      RuntimeMove s now (.advanceRevocation job sealCall drawnId)
        (continueRevocation s job revocation, [])
  | revokeHead (job sealCall : Nat) (drawnId : String) (revocation : RevocationJob)
      (envelope : SealEnvelope) (turn : RuntimeTurn)
      (hGet : s.revocations.get job = some revocation)
      (hStage : revocation.stage = .found (some envelope))
      (hRun : runSeals deps { s with
        revocations := s.revocations.set job { revocation with stage := .revoking sealCall } }
        ⟨now, .revoke sealCall (sealIdOf envelope)
          (agentReason revocation.credential.revocationReason) drawnId⟩ = some turn) :
      RuntimeMove s now (.advanceRevocation job sealCall drawnId) turn

theorem resolveInput_move {s : RuntimeState} {resolution : SealResolution}
    (hCall : s.seals.calls.get call = some (.resolving credentialId chatId))
    (h : resolveInput deps now s call credentialId chatId resolution = some t) :
    RuntimeMove deps s now (.resolve call) (t, []) := by
  unfold resolveInput at h
  split at h
  · split at h <;> cases h
    · exact .resolve call credentialId chatId _ _ hCall (fun _ hEq => nomatch hEq)
    · exact .resolve call credentialId chatId _ _ hCall (fun _ hEq => nomatch hEq)
  · split at h
    · cases h
      exact .resolve call credentialId chatId _ _ hCall (fun _ hEq => nomatch hEq)
    · split at h <;> cases h
      · apply RuntimeMove.resolve call credentialId chatId _ _ hCall
        intro input hEq
        obtain ⟨hCredential, hChat, -⟩ := resolveSealInput_ok (SealResolution.resolved.inj hEq)
        exact ⟨hCredential, hChat⟩
      · apply RuntimeMove.resolve call credentialId chatId _ _ hCall
        intro input hEq
        obtain ⟨hCredential, hChat, -⟩ := resolveSealInput_ok (SealResolution.resolved.inj hEq)
        exact ⟨hCredential, hChat⟩
  · cases h

theorem refreshNext_move {s : RuntimeState} {envelopes : List SealEnvelope}
    (hGet : s.refreshes.get call = some refresh) (hOpen : refresh.stage.over = false)
    (hListed : refreshedNext s refresh =
      (nextSeal refresh.refreshedSealIds envelopes).map Prod.fst)
    (h : refreshNext deps now s call sealCall drawnId refresh envelopes = some turn) :
    RuntimeMove deps s now (.advanceRefresh call sealCall drawnId) turn := by
  unfold refreshNext at h
  split at h
  · next hNone =>
    cases h
    rw [hNone] at hListed
    exact .refreshChat call sealCall drawnId refresh _ hGet hOpen hListed rfl
  · next envelope rest hSome =>
    rw [hSome] at hListed
    split at h
    · exact .refreshHead call sealCall drawnId refresh envelope rest turn hGet hOpen hListed h
    · cases h

theorem advanceRefresh_move {s : RuntimeState}
    (h : advanceRefresh deps now s call sealCall drawnId = some turn) :
    RuntimeMove deps s now (.advanceRefresh call sealCall drawnId) turn := by
  unfold advanceRefresh at h
  cases hGet : s.refreshes.get call with
  | none => simp only [hGet] at h; cases h
  | some refresh =>
    simp only [hGet] at h
    cases hStage : refresh.stage with
    | done result => simp only [hStage] at h; cases h
    | listed envelopes =>
      simp only [hStage] at h
      apply refreshNext_move deps hGet (by rw [hStage]; rfl) ?_ h
      simp only [refreshedNext, hStage]
    | refreshing awaited rest =>
      have hOpen : refresh.stage.over = false := by rw [hStage]; rfl
      simp only [hStage] at h
      cases hReturned : s.returned.get awaited with
      | none => simp only [hReturned] at h; cases h
      | some result =>
        cases result with
        | error error =>
          simp only [hReturned] at h
          cases h
          apply RuntimeMove.refreshFailed call sealCall drawnId refresh error hGet hOpen
          simp only [refreshedNext, hStage, hReturned]
        | ok envelope =>
          simp only [hReturned] at h
          apply refreshNext_move deps hGet hOpen ?_ h
          simp only [refreshedNext, hStage, hReturned]

theorem advanceRevocation_move {s : RuntimeState} {job : Nat}
    (h : advanceRevocation deps now s job sealCall drawnId = some turn) :
    RuntimeMove deps s now (.advanceRevocation job sealCall drawnId) turn := by
  unfold advanceRevocation at h
  split at h
  · cases h
  · next revocation hGet =>
    split at h
    · next hStage =>
      cases h
      apply RuntimeMove.revocationChat job sealCall drawnId revocation hGet
      simp [hStage]
    · next envelope hStage =>
      split at h
      · exact .revokeHead job sealCall drawnId revocation envelope turn hGet hStage h
      · cases h
    · next awaited hStage =>
      split at h
      · cases h
      · cases h
        apply RuntimeMove.revocationChat job sealCall drawnId revocation hGet
        simp [hStage]

theorem runtimeStep_move {s : RuntimeState} (h : runtimeStep deps s label = some turn) :
    RuntimeMove deps s label.now label.event turn := by
  obtain ⟨now, event⟩ := label
  cases event with
  | elevation event => exact .elevation event turn h
  | credential op =>
    cases h
    exact .credential op
  | setOperator operatorId record =>
    cases h
    exact .setOperator operatorId record
  | issueSeal call credentialId chatId =>
    change issueSeal deps now s call credentialId chatId = some turn at h
    unfold issueSeal at h
    split at h
    · obtain ⟨turn, hRun, rfl⟩ := Option.map_eq_some_iff.mp h
      exact .issueSeal call credentialId chatId turn hRun
    · cases h
  | resolve call =>
    simp only [runtimeStep] at h
    split at h
    · next credentialId chatId resolution hCall hResolution =>
      obtain ⟨t, hResolve, rfl⟩ := Option.map_eq_some_iff.mp h
      exact resolveInput_move deps hCall hResolve
    · cases h
  | deliver call drawnId =>
    change deliverInput deps now s call drawnId = some turn at h
    unfold deliverInput at h
    split at h
    · next result hResolved => exact .deliver call drawnId result turn hResolved h
    · cases h
  | refreshSeal call sealId drawnId =>
    simp only [runtimeStep] at h
    split at h
    · exact .refreshSeal call sealId drawnId turn h
    · cases h
  | revokeSeal call sealId reason drawnId =>
    simp only [runtimeStep] at h
    split at h
    · exact .revokeSeal call sealId reason drawnId turn h
    · cases h
  | signed call result => exact .signed call result turn h
  | published call result => exact .published call result turn h
  | advanceRefresh call sealCall drawnId => exact advanceRefresh_move deps h
  | advanceRevocation job sealCall drawnId => exact advanceRevocation_move deps h

/-! ## What the hooks leave alone -/

/-- The hook of the credential manager changes nothing but the revocation jobs. -/
theorem notifyRevoked_read (read : RuntimeState → α) (hRead : ∀ (s : RuntimeState) revocations jobs,
      read { s with revocations := revocations, jobs := jobs } = read s)
    (s : RuntimeState) (store : CredentialStore) :
    read (notifyRevoked s store) = read { s with store := store } := by
  unfold notifyRevoked
  generalize newlyRevoked s.store store = revoked
  generalize ({ s with store := store } : RuntimeState) = s
  induction revoked generalizing s with
  | nil => rfl
  | cons credential rest ih =>
    rw [List.foldl_cons, ih]
    unfold onCredentialRevoked
    split
    · rfl
    · exact hRead s _ _

section

variable (s : RuntimeState) (store : CredentialStore)

@[simp]
theorem notifyRevoked_seals : (notifyRevoked s store).seals = s.seals :=
  notifyRevoked_read (fun s => s.seals) (fun _ _ _ => rfl) s store

@[simp]
theorem notifyRevoked_store : (notifyRevoked s store).store = store :=
  notifyRevoked_read (fun s => s.store) (fun _ _ _ => rfl) s store

@[simp]
theorem notifyRevoked_resolutions : (notifyRevoked s store).resolutions = s.resolutions :=
  notifyRevoked_read (fun s => s.resolutions) (fun _ _ _ => rfl) s store

end

section OnDisclosureChanged

-- what neither the refreshes nor the rollback windows are part of
variable (read : RuntimeState → α) (hRead : ∀ (s : RuntimeState) refreshes rollbacks,
  read { s with refreshes := refreshes, rollbacks := rollbacks } = read s)

include hRead

section

variable (s : RuntimeState) (call : Nat) (refresh : DisclosureRefresh)

theorem finishRefresh_read (result : Except SignetError Unit) :
    read (finishRefresh s call refresh result).1 = read s := by
  unfold finishRefresh leaveRollback
  split
  · exact hRead s _ _
  · exact hRead s _ s.rollbacks

theorem listNext_read : read (listNext s call refresh).1 = read s := by
  unfold listNext
  split
  · exact finishRefresh_read read hRead s call refresh _
  · exact hRead s _ s.rollbacks

end

theorem onDisclosureChanged_read (now : Int) (s : RuntimeState) (call : Nat) (chatIds : List String)
    (includeExpired : Bool) :
    read (onDisclosureChanged now s call chatIds includeExpired).1 = read s := by
  unfold onDisclosureChanged
  rw [listNext_read read hRead]
  split
  · exact hRead s s.refreshes _
  · rfl

end OnDisclosureChanged

/-- What each announcement of a segment keeps, they keep together. -/
theorem announce_keeps (keeps : RuntimeState → Prop) (hBegin : ∀ s chatIds includeExpired, keeps s →
      keeps (onDisclosureChanged now s call chatIds includeExpired).1)
    (announced : List ElevationObservation) (h : keeps turn.1) :
    keeps (announce now call turn announced).1 := by
  induction announced generalizing turn with
  | nil => exact h
  | cons observation rest ih =>
    unfold announce
    split
    · next hNil => cases hNil
    · next chatIds includeExpired rest' hCons =>
      cases hCons
      exact ih (hBegin turn.1 chatIds includeExpired h)
    · next hCons =>
      cases hCons
      exact ih h

/-- A call that comes to its next chat is only observed when there is none. -/
theorem mem_listNext {s : RuntimeState} (h : observation ∈ (listNext s call refresh).2) :
    observation = .refreshed refresh (.ok ()) ∧ refresh.remaining = [] := by
  unfold listNext finishRefresh at h
  split at h
  · next hNone => exact ⟨List.mem_singleton.mp h, hNone⟩
  · cases h

theorem listNext_out (s : RuntimeState) (call : Nat) (refresh : DisclosureRefresh)
    (observation : SealObservation) : .issued observation ∉ (listNext s call refresh).2 := by
  intro hMem
  cases (mem_listNext hMem).1

theorem mem_announce {announced : List ElevationObservation}
    (h : observation ∈ (announce now call turn announced).2) :
    observation ∈ turn.2 ∨
      ∃ refresh result, observation = .refreshed refresh result ∧ refresh.chatIds = [] := by
  induction announced generalizing turn with
  | nil => exact Or.inl h
  | cons first rest ih =>
    unfold announce at h
    split at h
    · next hNil => cases hNil
    · next chatIds includeExpired rest' hCons =>
      cases hCons
      rcases ih h with hBegun | hRefreshed
      · rcases List.mem_append.mp hBegun with hOld | hNew
        · exact Or.inl hOld
        · obtain ⟨rfl, hNone⟩ := mem_listNext hNew
          exact Or.inr ⟨_, _, rfl, hNone⟩
      · exact Or.inr hRefreshed
    · next hCons =>
      cases hCons
      exact ih h

theorem runElevation_keeps (keeps : RuntimeState → Prop) {s : RuntimeState}
    (h : runElevation now s event = some turn)
    (hBegin : ∀ s chatIds includeExpired, keeps s →
      keeps (onDisclosureChanged now s event.call chatIds includeExpired).1)
    (hSegment : ∀ elevationTurn, refreshAnswers s event = true →
      elevationStep elevationDeps s.elevation ⟨now, event⟩ = some elevationTurn →
      keeps { takeRefresh s event with elevation := elevationTurn.1 }) : keeps turn.1 := by
  unfold runElevation at h
  split at h
  · next hAnswers =>
    obtain ⟨elevationTurn, hStep, rfl⟩ := Option.map_eq_some_iff.mp h
    exact announce_keeps keeps hBegin elevationTurn.2 (hSegment elevationTurn hAnswers hStep)
  · cases h

/-- A segment of the elevation manager touches neither the seals nor the credentials. -/
structure LeavesSeals (s t : RuntimeState) (out : List RuntimeObservation) : Prop where
  seals : t.seals = s.seals
  store : t.store = s.store
  resolutions : t.resolutions = s.resolutions
  issuesNothing : ∀ observation, .issued observation ∉ out

theorem leavesSeals_runElevation {s : RuntimeState} (h : runElevation now s event = some turn) :
    LeavesSeals s turn.1 turn.2 := by
  let read (s : RuntimeState) := (s.seals, s.store, s.resolutions)
  have hTaken : read (takeRefresh s event) = read s := by
    unfold takeRefresh
    split <;> rfl
  have hKept := runElevation_keeps (fun t => read t = read s) h
    (fun s' _ _ => (onDisclosureChanged_read read (fun _ _ _ => rfl) now s' event.call _ _).trans)
    (fun _ _ _ => hTaken)
  simp only [read, Prod.mk.injEq] at hKept
  refine ⟨hKept.1, hKept.2.1, hKept.2.2, ?_⟩
  unfold runElevation at h
  split at h
  · obtain ⟨elevationTurn, -, rfl⟩ := Option.map_eq_some_iff.mp h
    intro observation hMem
    rcases mem_announce hMem with hOld | ⟨_, _, hEq, -⟩
    · obtain ⟨_, -, hEq⟩ := List.mem_map.mp hOld
      cases hEq
    · cases hEq
  · cases h

/-! ## Every step -/

theorem runSeals_store {s : RuntimeState} {label : SealLabel}
    (h : runSeals deps s label = some turn) :
    turn.1.store = s.store ∧ turn.1.resolutions = s.resolutions := by
  obtain ⟨sealTurn, -, rfl⟩ := Option.map_eq_some_iff.mp h
  exact ⟨rfl, rfl⟩

/-- A segment that only lists, skips or ends. -/
theorem takesSegment_none {s : RuntimeState} (hSeals : t.seals = s.seals)
    (hOut : ∀ observation, .issued observation ∉ out) :
    TakesSegment deps none s t out :=
  ⟨hSeals, hOut⟩

/-- A revocation job that comes to its next chat changes only the jobs. -/
theorem continueRevocation_read (read : RuntimeState → α) (hRead : ∀ (s : RuntimeState) revocations,
      read { s with revocations := revocations } = read s) (s : RuntimeState) (job : Nat)
    (revocation : RevocationJob) :
    read (continueRevocation s job revocation) = read s := by
  unfold continueRevocation
  split
  · exact hRead s _
  · exact hRead s _

theorem runtimeStep_segment {s : RuntimeState} (h : runtimeStep deps s label = some (t, out)) :
    TakesSegment deps (sealSegment s label) s t out ∧ t.store = runtimeStore deps s label := by
  have hNothing : ∀ observation, RuntimeObservation.issued observation ∉ [] :=
    fun _ hMem => nomatch hMem
  have hMove := runtimeStep_move deps h
  obtain ⟨now, event⟩ := label
  cases hMove with
  | elevation event turn hRun =>
    have hLeaves := leavesSeals_runElevation hRun
    exact ⟨takesSegment_none deps hLeaves.seals hLeaves.issuesNothing, hLeaves.store⟩
  | credential op =>
    refine ⟨takesSegment_none deps (notifyRevoked_seals _ _) ?_, notifyRevoked_store _ _⟩
    intro observation hMem
    cases List.mem_singleton.mp hMem
  | setOperator operatorId record => exact ⟨takesSegment_none deps rfl hNothing, rfl⟩
  | issueSeal call credentialId chatId turn hRun =>
    obtain ⟨sealOut, hStep, hOut⟩ := takesSegment_runSeals deps hRun rfl
    have hStore := (runSeals_store deps hRun).1
    refine ⟨⟨sealOut, ?_, hOut⟩, ?_⟩
    · rw [notifyRevoked_seals]
      exact hStep
    · rw [notifyRevoked_store, hStore]
      rfl
  | resolve call credentialId chatId next disclosureStore hCall hFor =>
    exact ⟨takesSegment_none deps rfl hNothing, rfl⟩
  | deliver call drawnId result turn hResolved hRun =>
    simp only [sealSegment, hResolved]
    exact ⟨takesSegment_runSeals deps hRun rfl, (runSeals_store deps hRun).1⟩
  | refreshSeal call sealId drawnId turn hRun =>
    exact ⟨takesSegment_runSeals deps hRun rfl, (runSeals_store deps hRun).1⟩
  | revokeSeal call sealId reason drawnId turn hRun =>
    exact ⟨takesSegment_runSeals deps hRun rfl, (runSeals_store deps hRun).1⟩
  | signed call result turn hRun =>
    exact ⟨takesSegment_runSeals deps hRun rfl, (runSeals_store deps hRun).1⟩
  | published call result turn hRun =>
    exact ⟨takesSegment_runSeals deps hRun rfl, (runSeals_store deps hRun).1⟩
  | refreshChat call sealCall drawnId refresh turn hGet hOpen hNone hTurn =>
    simp only [sealSegment, hGet, Option.bind_some, hNone]
    have hSeals := listNext_read (fun s => s.seals) (fun _ _ _ => rfl) s call refresh
    have hStore := listNext_read (fun s => s.store) (fun _ _ _ => rfl) s call refresh
    have hOut := listNext_out s call refresh
    rw [hTurn] at hSeals hStore hOut
    exact ⟨takesSegment_none deps hSeals hOut, hStore⟩
  | refreshFailed call sealCall drawnId refresh error hGet hOpen hNone =>
    simp only [sealSegment, hGet, Option.bind_some, hNone]
    have hSeals := finishRefresh_read (fun s => s.seals) (fun _ _ _ => rfl) s call refresh
      (.error error)
    have hStore := finishRefresh_read (fun s => s.store) (fun _ _ _ => rfl) s call refresh
      (.error error)
    refine ⟨takesSegment_none deps hSeals ?_, hStore⟩
    intro observation hMem
    cases List.mem_singleton.mp hMem
  | refreshHead call sealCall drawnId refresh envelope rest turn hGet hOpen hNext hRun =>
    simp only [sealSegment, hGet, Option.bind_some, hNext]
    exact ⟨takesSegment_runSeals deps hRun rfl, (runSeals_store deps hRun).1⟩
  | revocationChat job sealCall drawnId revocation hGet hStage =>
    have hNone : sealSegment s ⟨now, .advanceRevocation job sealCall drawnId⟩ = none := by
      cases hFound : revocation.stage with
      | found envelope =>
        cases envelope with
        | none => simp only [sealSegment, hGet, Option.bind_some, hFound]
        | some envelope => exact absurd hFound (hStage envelope)
      | revoking awaited => simp only [sealSegment, hGet, Option.bind_some, hFound]
    rw [hNone]
    exact ⟨takesSegment_none deps
      (continueRevocation_read (fun s => s.seals) (fun _ _ => rfl) s job revocation) hNothing,
      continueRevocation_read (fun s => s.store) (fun _ _ => rfl) s job revocation⟩
  | revokeHead job sealCall drawnId revocation envelope turn hGet hStage hRun =>
    simp only [sealSegment, hGet, Option.bind_some, hStage]
    exact ⟨takesSegment_runSeals deps hRun rfl, (runSeals_store deps hRun).1⟩

/-! ## Inputs on their way -/

/-- An input that has been resolved waits for the issuance it was resolved for. -/
def Resolved (s : RuntimeState) : Prop :=
  ∀ call input, s.resolutions.get call = some (.resolved (.ok input)) →
    s.seals.calls.get call = some (.resolving input.credentialId input.chatId)

/-- The call of the seal manager that a step of it is about. -/
def sealCallOf : SealEvent → Nat
  | .issue call _ _ => call
  | .inputResolved call _ _ => call
  | .refresh call _ _ => call
  | .revoke call _ _ _ => call
  | .signed call _ => call
  | .published call _ => call

theorem await_get_of_ne {s : SealState} (stage : SealStage) (hNe : other ≠ call) :
    (await s call stage).calls.get other = s.calls.get other :=
  AssocMap.get_set_of_ne _ _ hNe

theorem endCall_get_of_ne {s : SealState} (hNe : other ≠ call) :
    (endCall s call).calls.get other = s.calls.get other := by
  unfold endCall
  rw [AssocMap.get_delete, if_neg hNe]

theorem sealStep_others {zod : ZodEnv} {s s' : SealState} {label : SealLabel}
    {out : List SealObservation} (h : sealStep zod s label = some (s', out))
    (hNe : other ≠ sealCallOf label.event) : s'.calls.get other = s.calls.get other := by
  obtain ⟨now, event⟩ := label
  cases event with
  | issue call credentialId chatId =>
    simp only [sealStep] at h
    split at h
    · cases h
    · cases h
      exact await_get_of_ne _ hNe
  | inputResolved call result drawnId =>
    simp only [sealStep] at h
    split at h
    · have hEq := congrArg Prod.fst (Option.some.inj h)
      unfold onInputResolved at hEq
      split at hEq
      · cases hEq
        exact endCall_get_of_ne hNe
      · split at hEq <;> cases hEq
        · exact endCall_get_of_ne hNe
        · exact endCall_get_of_ne hNe
        · exact await_get_of_ne _ hNe
    · cases h
  | refresh call sealId drawnId =>
    simp only [sealStep] at h
    split at h
    · cases h
    · split at h <;> cases h
      · rfl
      · exact await_get_of_ne _ hNe
  | revoke call sealId reason drawnId =>
    simp only [sealStep] at h
    split at h
    · cases h
    · split at h <;> cases h
      · rfl
      · exact await_get_of_ne _ hNe
  | signed call result =>
    obtain ⟨stage, -, hSigned⟩ := Option.bind_eq_some_iff.mp h
    unfold onSigned at hSigned
    split at hSigned
    · split at hSigned <;> cases hSigned
      · exact endCall_get_of_ne hNe
      · exact await_get_of_ne _ hNe
    · split at hSigned <;> cases hSigned
      · exact endCall_get_of_ne hNe
      · exact await_get_of_ne _ hNe
    · cases hSigned
  | published call result =>
    obtain ⟨stage, -, hPublished⟩ := Option.bind_eq_some_iff.mp h
    unfold onPublished at hPublished
    split at hPublished
    · split at hPublished <;> cases hPublished
      · exact endCall_get_of_ne hNe
      · exact endCall_get_of_ne hNe
    · split at hPublished <;> cases hPublished
      · exact endCall_get_of_ne hNe
      · exact endCall_get_of_ne hNe
    · cases hPublished

/-- An issuance awaits its resolver until the input is delivered. -/
theorem sealStep_resolving {zod : ZodEnv} {s s' : SealState} {label : SealLabel}
    {out : List SealObservation} (h : sealStep zod s label = some (s', out))
    (hCall : s.calls.get call = some (.resolving credentialId chatId))
    (hEvent : ∀ result drawnId, label.event ≠ .inputResolved call result drawnId) :
    s'.calls.get call = some (.resolving credentialId chatId) := by
  by_cases hNe : call = sealCallOf label.event
  · obtain ⟨now, event⟩ := label
    cases event with
    | issue call' credentialId chatId =>
      subst hNe
      simp [sealStep, hCall] at h
    | inputResolved call' result drawnId =>
      subst hNe
      exact absurd rfl (hEvent result drawnId)
    | refresh call' sealId drawnId =>
      subst hNe
      simp [sealStep, hCall] at h
    | revoke call' sealId reason drawnId =>
      subst hNe
      simp [sealStep, hCall] at h
    | signed call' result =>
      subst hNe
      simp [sealStep, hCall, onSigned] at h
    | published call' result =>
      subst hNe
      simp [sealStep, hCall, onPublished] at h
  · rw [sealStep_others h hNe]
    exact hCall

/-- Where a resolved input comes from: it was there, and its issuance has not gone on,
or the resolver has just answered. -/
theorem runtimeStep_resolved {s : RuntimeState} (h : runtimeStep deps s label = some (t, out))
    {input : SealInput} (hGet : t.resolutions.get call = some (.resolved (.ok input))) :
    (s.resolutions.get call = some (.resolved (.ok input)) ∧
      ∀ drawnId, label.event ≠ .deliver call drawnId) ∨
    (label.event = .resolve call ∧
      s.seals.calls.get call = some (.resolving input.credentialId input.chatId)) := by
  have hMove := runtimeStep_move deps h
  obtain ⟨now, event⟩ := label
  have hSame : t.resolutions = s.resolutions → (∀ drawnId, event ≠ .deliver call drawnId) →
      (s.resolutions.get call = some (.resolved (.ok input)) ∧
        ∀ drawnId, event ≠ .deliver call drawnId) ∨
      (event = .resolve call ∧
        s.seals.calls.get call = some (.resolving input.credentialId input.chatId)) := by
    intro hEq hEvent
    rw [hEq] at hGet
    exact Or.inl ⟨hGet, hEvent⟩
  cases hMove with
  | elevation event turn hRun =>
    exact hSame (leavesSeals_runElevation hRun).resolutions (fun _ hEq => nomatch hEq)
  | credential op => exact hSame (notifyRevoked_resolutions _ _) (fun _ hEq => nomatch hEq)
  | setOperator operatorId record => exact hSame rfl (fun _ hEq => nomatch hEq)
  | issueSeal call' credentialId chatId turn hRun =>
    rw [notifyRevoked_resolutions, AssocMap.get_set] at hGet
    split at hGet
    · cases hGet
    · rw [(runSeals_store deps hRun).2] at hGet
      exact Or.inl ⟨hGet, fun _ hEq => nomatch hEq⟩
  | resolve call' credentialId chatId next disclosureStore hCall hFor =>
    rw [AssocMap.get_set] at hGet
    split at hGet
    · next hSameCall =>
      obtain ⟨hCredential, hChat⟩ := hFor input (Option.some.inj hGet)
      subst hSameCall
      refine Or.inr ⟨rfl, ?_⟩
      rw [hCredential, hChat]
      exact hCall
    · exact Or.inl ⟨hGet, fun _ hEq => nomatch hEq⟩
  | deliver call' drawnId result turn hResolved hRun =>
    rw [(runSeals_store deps hRun).2] at hGet
    obtain ⟨hNe, hGet⟩ := AssocMap.of_get_delete hGet
    refine Or.inl ⟨hGet, ?_⟩
    rintro drawnId' hEq
    cases hEq
    exact hNe rfl
  | refreshSeal call' sealId drawnId turn hRun =>
    exact hSame (runSeals_store deps hRun).2 (fun _ hEq => nomatch hEq)
  | revokeSeal call' sealId reason drawnId turn hRun =>
    exact hSame (runSeals_store deps hRun).2 (fun _ hEq => nomatch hEq)
  | signed call' result turn hRun =>
    exact hSame (runSeals_store deps hRun).2 (fun _ hEq => nomatch hEq)
  | published call' result turn hRun =>
    exact hSame (runSeals_store deps hRun).2 (fun _ hEq => nomatch hEq)
  | refreshChat call' sealCall drawnId refresh turn hRefresh hOpen hNone hTurn =>
    have hResolutions := listNext_read (fun s => s.resolutions) (fun _ _ _ => rfl) s call' refresh
    rw [hTurn] at hResolutions
    exact hSame hResolutions (fun _ hEq => nomatch hEq)
  | refreshFailed call' sealCall drawnId refresh error hRefresh hOpen hNone =>
    exact hSame (finishRefresh_read (fun s => s.resolutions) (fun _ _ _ => rfl) s call' refresh
      (.error error)) (fun _ hEq => nomatch hEq)
  | refreshHead call' sealCall drawnId refresh envelope rest turn hRefresh hOpen hNext hRun =>
    exact hSame (runSeals_store deps hRun).2 (fun _ hEq => nomatch hEq)
  | revocationChat job sealCall drawnId revocation hJob hStage =>
    exact hSame (continueRevocation_read (fun s => s.resolutions) (fun _ _ => rfl) s job
      revocation) (fun _ hEq => nomatch hEq)
  | revokeHead job sealCall drawnId revocation envelope turn hJob hStage hRun =>
    exact hSame (runSeals_store deps hRun).2 (fun _ hEq => nomatch hEq)

theorem deliver_of_inputResolved {s : RuntimeState} {segment : SealLabel}
    (hSegment : sealSegment s label = some segment) {result : Except SignetError SealInput}
    (hEvent : segment.event = .inputResolved call result drawnId) :
    label.event = .deliver call drawnId ∧
      s.resolutions.get call = some (.resolved result) := by
  obtain ⟨now, event⟩ := label
  cases event with
  | deliver call' drawnId' =>
    simp only [sealSegment] at hSegment
    split at hSegment
    · next result' hResolved =>
      cases hSegment
      cases hEvent
      exact ⟨rfl, hResolved⟩
    · cases hSegment
  | advanceRefresh call' sealCall drawnId' =>
    obtain ⟨envelope, -, hEq⟩ := Option.map_eq_some_iff.mp hSegment
    cases hEq
    cases hEvent
  | advanceRevocation job sealCall drawnId' =>
    obtain ⟨revocation, -, hRest⟩ := Option.bind_eq_some_iff.mp hSegment
    split at hRest
    · cases hRest
      cases hEvent
    · cases hRest
  | elevation event => cases hSegment
  | credential op => cases hSegment
  | setOperator operatorId record => cases hSegment
  | resolve call' => cases hSegment
  | issueSeal call' credentialId chatId =>
    cases hSegment
    cases hEvent
  | refreshSeal call' sealId drawnId' =>
    cases hSegment
    cases hEvent
  | revokeSeal call' sealId reason drawnId' =>
    cases hSegment
    cases hEvent
  | signed call' result' =>
    cases hSegment
    cases hEvent
  | published call' result' =>
    cases hSegment
    cases hEvent

/-- What the seal manager keeps of its state, the runtime keeps. -/
theorem seals_step (P : SealState → Prop) {s : RuntimeState} (hNow : P s.seals)
    (h : runtimeStep deps s label = some (t, out))
    (hKept : ∀ segment seals sealOut, sealSegment s label = some segment →
      sealStep deps.zod s.seals segment = some (seals, sealOut) → P seals) : P t.seals := by
  have hTakes := (runtimeStep_segment deps h).1
  unfold TakesSegment at hTakes
  split at hTakes
  · rw [hTakes.1]
    exact hNow
  · next segment hSegment =>
    obtain ⟨sealOut, hSeals, -⟩ := hTakes
    exact hKept segment t.seals sealOut hSegment hSeals

theorem resolved_step {s : RuntimeState} (hResolved : Resolved s)
    (h : runtimeStep deps s label = some (t, out)) : Resolved t := by
  intro call input hGet
  rcases runtimeStep_resolved deps h hGet with ⟨hOld, hEvent⟩ | ⟨hEvent, hCall⟩
  · have hCall := hResolved call input hOld
    refine seals_step deps (fun seals => seals.calls.get call = _) hCall h
      fun segment _ _ hSegment hStep => ?_
    apply sealStep_resolving hStep hCall
    intro result drawnId hInput
    exact hEvent drawnId (deliver_of_inputResolved hSegment hInput).1
  · refine seals_step deps (fun seals => seals.calls.get call = _) hCall h
      fun segment _ _ hSegment _ => ?_
    unfold sealSegment at hSegment
    rw [hEvent] at hSegment
    cases hSegment

/-- The resolver answers for the credential and chat it was asked for. -/
theorem faithful_of_resolved {s : RuntimeState} (hResolved : Resolved s) {segment : SealLabel}
    (hSegment : sealSegment s label = some segment) :
    Faithful s.seals segment := by
  intro call input drawnId credentialId chatId hEvent hCall
  have hInput := hResolved call input (deliver_of_inputResolved hSegment hEvent).2
  rw [hCall] at hInput
  cases hInput
  exact ⟨rfl, rfl⟩

/-! ## The invariants of the seal manager -/

/-- A step of the runtime, with what it made observable. -/
abbrev RuntimeOccurrence := Occurrence RuntimeState RuntimeLabel RuntimeObservation

/-- A seal that a step builds would get an id of its own. -/
def FreshSeals (s : RuntimeState) (label : RuntimeLabel) : Prop :=
  ∀ segment, sealSegment s label = some segment → FreshSealIds s.seals segment

variable {deps} {start : Int} {h : List RuntimeOccurrence} {s : RuntimeState}

theorem aligned_runtime (hRun : (runtimeMachine deps start).Runs h s) :
    Aligned s.seals ∧ Resolved s := by
  have hInit : Aligned (runtimeMachine deps start).init.seals ∧
      Resolved (runtimeMachine deps start).init := by
    constructor
    · exact aligned_run (Runs.start (M := sealMachine deps.zod))
        (allMeet_nil Faithful)
    · intro call input hGet
      cases hGet
  apply hRun.state_invariant
  · exact hInit
  · rintro s label t out ⟨hAligned, hResolved⟩ hStep
    refine ⟨?_, resolved_step deps hResolved hStep⟩
    refine seals_step deps _ hAligned hStep fun segment _ _ hSegment hSeals => ?_
    exact aligned_step hAligned (faithful_of_resolved hResolved hSegment) (sealStep_move hSeals)

theorem linked_runtime (hRun : (runtimeMachine deps start).Runs h s)
    (hFresh : AllMeet FreshSeals h) : Linked s.seals := by
  have hInit : Linked (runtimeMachine deps start).init.seals :=
    linked_run (Runs.start (M := sealMachine deps.zod)) (allMeet_nil Proper)
  apply hRun.guarded hFresh
  · exact hInit
  · intro h s label t out hRun _ hLinked hNow hStep
    refine seals_step deps _ hLinked hStep fun segment _ _ hSegment hSeals => ?_
    exact linked_step (aligned_runtime hRun).1 hLinked (hNow segment hSegment) (sealStep_move hSeals)

end Cli
end Signet
