import Signet.Cli.ElevationMoves
import Signet.Cli.SealSegments

/-!
# Elevations and the seals that disclose them

A change of disclosure is published by refreshing the head seals of the chat, and a
refresh builds from the input kept with the seal.  That input has the access which was
looked up when the seal was issued.  So a refresh never changes the access, and the
seals of a chat follow its disclosure only where they already carry it.

* `AccessKept` — a seal has the access of the input kept for it.
* `watches` — what a refresh in progress, and an elevation about to be returned, demand
  of the seals of a chat.
* `Visible` — a refresh that returns, and an elevation that is returned, find their
  demands met by the head seals.
* `SealsFollow` — a demand begins when the seals of its chat meet it, and no seal that
  does not meet it is issued meanwhile.
* `elevation_visible_in_seals` — in every run of such steps with fresh seal ids.
-/

namespace Signet
namespace Cli

open Kit Machine Schemas Policy Sessions Seals

/-! ## A refresh keeps the access -/

/-- A seal has the access of the input that is kept for its refreshes. -/
structure AccessKept (s : SealState) : Prop where
  tracked : ∀ id e input, s.maps.sealsById.get id = some e →
    s.maps.inputsBySealId.get id = some input →
    e.chain.current.adminAccess = input.adminAccess
  drafts : ∀ draft, InFlight s draft →
    draft.chain.current.adminAccess = draft.input.adminAccess

variable {refresh : DisclosureRefresh} {out : List RuntimeObservation} {call : Nat}
  {label : RuntimeLabel} {t : RuntimeState} {zod : ZodEnv}

theorem access_of_built {s : SealState} {label : SealLabel} {draft : Draft}
    (hBuilt : Built zod s label draft) :
    draft.chain.current.chatId = draft.input.chatId ∧
      draft.chain.current.adminAccess = draft.input.adminAccess := by
  obtain ⟨drawnId, -, hBuild⟩ := hBuilt.chain
  rw [(buildSeal_ok hBuild).2.1]
  exact ⟨rfl, rfl⟩

theorem accessKept_step {s s' : SealState} {label : SealLabel} {out : List SealObservation}
    (hAligned : Aligned s) (hKept : AccessKept s) (hMove : SealMove zod s label s' out) :
    AccessKept s' := by
  constructor
  · intro id e input hSeal hInput
    cases hMove with
    | published call draft envelope hCall hEvent =>
      simp only [Seals.endCall, Seals.track, AssocMap.get_set] at hSeal hInput
      split at hSeal
      · next hId =>
        rw [if_pos hId] at hInput
        cases hSeal
        cases hInput
        rw [hAligned.signed call draft e hCall]
        exact hKept.drafts draft ⟨call, _, hCall, rfl⟩
      · next hId =>
        rw [if_neg hId] at hInput
        exact hKept.tracked id e input hSeal hInput
    | _ => exact hKept.tracked id e input hSeal hInput
  · intro draft hFlight
    rcases inFlight_of_move hMove hFlight with hOld | hBuilt
    · exact hKept.drafts draft hOld
    · exact (access_of_built hBuilt).2

/-- What a build makes is of the chat and has the access of the delivered input, or of
the head that it continues. -/
theorem source_of_built {s : SealState} (hAligned : Aligned s) (hLinked : Linked s)
    (hKept : AccessKept s) {label : SealLabel} {draft : Draft} (hBuilt : Built zod s label draft) :
    (∃ call drawnId, label.event = .inputResolved call (.ok draft.input) drawnId) ∨
      ∃ key head, s.maps.currentSeals.get key = some head ∧
        draft.chain.current.chatId = head.chain.current.chatId ∧
        draft.chain.current.adminAccess = head.chain.current.adminAccess := by
  obtain ⟨hChat, hAccess⟩ := access_of_built hBuilt
  cases hBuilt with
  | issued call credentialId chatId drawnId input hCall hEvent hDraft =>
    obtain ⟨-, -, rfl, -⟩ := issueWithInput_draft hDraft
    exact Or.inl ⟨call, drawnId, hEvent⟩
  | refreshed call sealId drawnId hEvent hDraft =>
    obtain ⟨existing, hSeal, hInput, -, -, -, hHead, -⟩ := refreshHead_ok hDraft
    obtain ⟨head, hGet, hId⟩ := Option.map_eq_some_iff.mp hHead
    -- the head is the seal that is tracked under its id
    have hTracked := hLinked.heads draft.key head hGet
    rw [hId, hSeal] at hTracked
    cases hTracked
    refine Or.inr ⟨draft.key, existing, hGet, ?_, ?_⟩
    · rw [hChat, (hAligned.inputs sealId existing draft.input hSeal hInput).chatId]
    · rw [hAccess, hKept.tracked sealId existing draft.input hSeal hInput]

/-! ## What is demanded of the seals of a chat -/

inductive Demand where
  | inForce (access : Option AdminAccess)
  | discloses (elevation : AdminReadElevation)
deriving DecidableEq

/-- The access meets the demand; an elevation is disclosed by an access that lasts at
least as long. -/
def Demand.Met : Demand → Option AdminAccess → Prop
  | .inForce access, given => given = access
  | .discloses elevation, given =>
    ∃ expiresAt, elevation.expiresAt ≤ expiresAt ∧
      given = some ⟨elevationDeps.disclosureActorId, Verifier.toISOString expiresAt⟩

/-- A demand on the seals of a chat. -/
structure Watch where
  chatId : String
  demand : Demand
deriving DecidableEq

/-- A call of `onDisclosureChanged` demands the access in force when it began. -/
def DisclosureRefresh.watches (refresh : DisclosureRefresh) : List Watch :=
  if refresh.stage.over then []
  else refresh.chatIds.map fun chatId => ⟨chatId, .inForce (refresh.inForce chatId)⟩

/-- An elevation on its way to be returned demands its disclosure. -/
def ElevationStage.watches (stage : ElevationStage) : List Watch :=
  stage.returning.toList.map fun returned =>
    ⟨returned.1.canonicalChatId, .discloses returned.2.elevation⟩

/-- All that is demanded. -/
def watches (s : RuntimeState) : List Watch :=
  s.refreshes.values.flatMap DisclosureRefresh.watches ++
    s.elevation.calls.values.flatMap ElevationStage.watches

variable {watch : Watch}

theorem mem_watches {s : RuntimeState} :
    watch ∈ watches s ↔
      (∃ call refresh, s.refreshes.get call = some refresh ∧ watch ∈ refresh.watches) ∨
        ∃ call stage, s.elevation.calls.get call = some stage ∧ watch ∈ stage.watches := by
  simp only [watches, List.mem_append, List.mem_flatMap, AssocMap.mem_values]
  constructor
  · rintro (⟨refresh, ⟨call, hGet⟩, hMem⟩ | ⟨stage, ⟨call, hGet⟩, hMem⟩)
    · exact Or.inl ⟨call, refresh, hGet, hMem⟩
    · exact Or.inr ⟨call, stage, hGet, hMem⟩
  · rintro (⟨call, refresh, hGet, hMem⟩ | ⟨call, stage, hGet, hMem⟩)
    · exact Or.inl ⟨refresh, ⟨call, hGet⟩, hMem⟩
    · exact Or.inr ⟨stage, ⟨call, hGet⟩, hMem⟩

variable (deps : RuntimeDeps) (meets : Demand → Option AdminAccess → Prop)

/-- The demands that begin with a step. -/
def newWatches (s : RuntimeState) (label : RuntimeLabel) : List Watch :=
  match runtimeStep deps s label with
  | none => []
  | some turn => (watches turn.1).filter fun watch => watch ∉ watches s

structure Carried (seals : SealState) (watch : Watch) : Prop where
  heads : ∀ head ∈ seals.maps.currentSeals.values,
    head.chain.current.chatId = watch.chatId →
      meets watch.demand head.chain.current.adminAccess
  drafts : ∀ draft ∈ draftsInFlight seals,
    draft.chain.current.chatId = watch.chatId →
      meets watch.demand draft.chain.current.adminAccess

/-- The input with which a segment goes on with an issuance. -/
def deliveredInput : SealEvent → Option SealInput
  | .inputResolved _ (.ok input) _ => some input
  | _ => none

/-- A demand begins when the seals of its chat meet it, and an input from which a seal
is built meets the demands on its chat. -/
structure SealsFollow (s : RuntimeState) (label : RuntimeLabel) : Prop where
  begins : ∀ watch ∈ newWatches deps s label, Carried meets s.seals watch
  inputs : ∀ segment ∈ sealSegment s label, ∀ input ∈ deliveredInput segment.event,
    publishesNothing s.seals.maps segment.event = false →
      ∀ watch ∈ watches s, watch.chatId = input.chatId →
        meets watch.demand input.adminAccess

/-! ## What the seals are to show -/

/-- The calls of `onDisclosureChanged` that a step makes return Ok. -/
def refreshedOk (out : List RuntimeObservation) : List DisclosureRefresh :=
  out.filterMap fun
    | .refreshed refresh (.ok ()) => some refresh
    | _ => none

def answeredOk (out : List RuntimeObservation) : List (ElevationRequest × AdminReadElevation) :=
  out.filterMap fun
    | .elevation (.resolved request (.ok elevation)) => some (request, elevation)
    | _ => none

theorem mem_of_refreshedOk (h : refresh ∈ refreshedOk out) : .refreshed refresh (.ok ()) ∈ out := by
  obtain ⟨observation, hMem, hEq⟩ := List.mem_filterMap.mp h
  split at hEq
  · cases hEq
    exact hMem
  · cases hEq

theorem mem_of_answeredOk {answer : ElevationRequest × AdminReadElevation}
    (h : answer ∈ answeredOk out) :
    .elevation (.resolved answer.1 (.ok answer.2)) ∈ out := by
  obtain ⟨observation, hMem, hEq⟩ := List.mem_filterMap.mp h
  split at hEq
  · cases hEq
    exact hMem
  · cases hEq

def headsOf (seals : SealState) (chatId : String) : List SealEnvelope :=
  seals.maps.currentSeals.values.filter fun head => head.chain.current.chatId = chatId

/-- Whenever a call of `onDisclosureChanged` returns Ok, the head seals of its chats
carry the access that was in force, and whenever an elevation is returned, the head
seals of its chat disclose it. -/
def Visible (h : List RuntimeOccurrence) : Prop :=
  ∀ o ∈ h,
    (∀ refresh ∈ refreshedOk o.out, ∀ chatId ∈ refresh.chatIds,
      ∀ head ∈ headsOf o.pre.seals chatId,
        head.chain.current.adminAccess = refresh.inForce chatId) ∧
    ∀ answer ∈ answeredOk o.out, ∀ head ∈ headsOf o.pre.seals answer.1.canonicalChatId,
      (Demand.discloses answer.2).Met head.chain.current.adminAccess

/-! ## Seals that meet a demand -/

variable {deps meets} {observation : RuntimeObservation}

/-- A step of the seal manager keeps a demand met whose chat gets no input that does
not meet it: a refresh has the access of the head. -/
theorem carried_move {s s' : SealState} {label : SealLabel} {out : List SealObservation}
    (hAligned : Aligned s) (hLinked : Linked s) (hKept : AccessKept s)
    (hFaithful : Faithful s label) (hCarried : Carried meets s watch)
    (hInput : ∀ input ∈ deliveredInput label.event,
      publishesNothing s.maps label.event = false → watch.chatId = input.chatId →
        meets watch.demand input.adminAccess) (hMove : SealMove zod s label s' out) :
    Carried meets s' watch := by
  constructor
  · intro head hMem hChat
    obtain ⟨key, hGet⟩ := AssocMap.mem_values.mp hMem
    rcases head_of_move hAligned.signed hMove hGet with hOld | ⟨draft, hFlight, hChain, -⟩
    · exact hCarried.heads head (AssocMap.mem_values.mpr ⟨key, hOld⟩) hChat
    · rw [hChain] at hChat ⊢
      exact hCarried.drafts draft (mem_draftsInFlight.mpr hFlight) hChat
  · intro draft hMem hChat
    rcases inFlight_of_move hMove (mem_draftsInFlight.mp hMem) with hOld | hBuilt
    · exact hCarried.drafts draft (mem_draftsInFlight.mpr hOld) hChat
    · rcases source_of_built hAligned hLinked hKept hBuilt with
        ⟨call, drawnId, hEvent⟩ | ⟨key, head, hGet, hSameChat, hSameAccess⟩
      · obtain ⟨hInputChat, hAccess⟩ := access_of_built hBuilt
        have hDelivered : draft.input ∈ deliveredInput label.event := by
          rw [hEvent]
          rfl
        rw [hAccess]
        apply hInput draft.input hDelivered (publishes_of_built hFaithful hBuilt)
        rw [← hInputChat, hChat]
      · rw [hSameAccess]
        apply hCarried.heads head (AssocMap.mem_values.mpr ⟨key, hGet⟩)
        rw [← hSameChat, hChat]

/-! ## Where demands begin -/

/-- What happens to the refreshes in progress and to the rollback windows away from the elevation
manager. -/
inductive RefreshMove (s t : RuntimeState) : Prop
  | same (hRefreshes : t.refreshes = s.refreshes) (hRollbacks : t.rollbacks = s.rollbacks)
  /-- A call that goes on. -/
  | next (call : Nat) (refresh : DisclosureRefresh) (refreshedSealIds : OrderedSet String)
      (remaining : List String) (stage : RefreshStage)
      (hGet : s.refreshes.get call = some refresh) (hOpen : refresh.stage.over = false)
      (hRefreshes : t.refreshes = s.refreshes.set call { refresh with
        refreshedSealIds := refreshedSealIds, remaining := remaining, stage := stage })
      (hStage : stage.over = false) (hRollbacks : t.rollbacks = s.rollbacks)
  | finish (call : Nat) (refresh : DisclosureRefresh) (result : Except SignetError Unit)
      (hGet : s.refreshes.get call = some refresh) (hOpen : refresh.stage.over = false)
      (hRefreshes : t.refreshes = s.refreshes.set call { refresh with stage := .done result })
      (hRollbacks : t.rollbacks = (leaveRollback s refresh).rollbacks)

theorem refreshMove_finish {s : RuntimeState} (hGet : s.refreshes.get call = some refresh)
    (hOpen : refresh.stage.over = false) (result : Except SignetError Unit) :
    RefreshMove s (finishRefresh s call refresh result).1 := by
  apply RefreshMove.finish call refresh result hGet hOpen
  · unfold finishRefresh leaveRollback
    split <;> rfl
  · rfl

/-- The disclosure store is as it was, or as a lookup of the resolver has left it. -/
def StoreRead (now : Int) (s t : RuntimeState) : Prop :=
  t.elevation.disclosureStore = s.elevation.disclosureStore ∨ ∃ chatId,
    t.elevation.disclosureStore =
      (lookupAdminAccess now s.rollbacks s.elevation.disclosureStore chatId).2

theorem storeRead_resolveInput {s : RuntimeState} {now : Int} {credentialId chatId : String}
    {resolution : SealResolution}
    (h : resolveInput deps now s call credentialId chatId resolution = some t) :
    StoreRead now s t := by
  unfold resolveInput at h
  split at h
  · split at h <;> cases h <;> exact Or.inl rfl
  · split at h
    · cases h
      exact Or.inl rfl
    · split at h <;> cases h
      · exact Or.inl rfl
      · exact Or.inr ⟨chatId, rfl⟩
  · cases h

/-- Away from the elevation manager its calls stay where they are. -/
theorem refreshMove_of_step {s : RuntimeState} (h : runtimeStep deps s label = some (t, out))
    (hOther : ∀ event, label.event ≠ .elevation event) :
    t.elevation.calls = s.elevation.calls ∧ RefreshMove s t ∧ StoreRead label.now s t := by
  have hMove := runtimeStep_move deps h
  obtain ⟨now, event⟩ := label
  let read (s : RuntimeState) := (s.elevation, s.refreshes, s.rollbacks)
  have hKeeps : t.elevation = s.elevation → RefreshMove s t →
      t.elevation.calls = s.elevation.calls ∧ RefreshMove s t ∧ StoreRead now s t :=
    fun hSame hMove => ⟨by rw [hSame], hMove, Or.inl (by rw [hSame])⟩
  have hRead : read t = read s →
      t.elevation.calls = s.elevation.calls ∧ RefreshMove s t ∧ StoreRead now s t := by
    intro hSame
    simp only [read, Prod.mk.injEq] at hSame
    exact hKeeps hSame.1 (.same hSame.2.1 hSame.2.2)
  have hSeals : ∀ {s' : RuntimeState} {label turn}, runSeals deps s' label = some turn →
      read turn.1 = read s' := by
    intro s' label turn hRun
    obtain ⟨sealTurn, -, rfl⟩ := Option.map_eq_some_iff.mp hRun
    rfl
  cases hMove with
  | elevation event turn hRun => exact absurd rfl (hOther event)
  | credential op => exact hRead (notifyRevoked_read read (fun _ _ _ => rfl) s _)
  | setOperator operatorId record => exact hRead rfl
  | issueSeal call credentialId chatId turn hRun =>
    exact hRead ((notifyRevoked_read read (fun _ _ _ => rfl) _ _).trans (hSeals hRun))
  | resolve call credentialId chatId next disclosureStore hCall hFor =>
    refine ⟨rfl, .same rfl rfl, ?_⟩
    simp only [runtimeStep] at h
    split at h
    · obtain ⟨t', hResolve, hEq⟩ := Option.map_eq_some_iff.mp h
      cases hEq
      exact storeRead_resolveInput hResolve
    · cases h
  | deliver call drawnId result turn hResolved hRun => exact hRead (hSeals hRun)
  | refreshSeal call sealId drawnId turn hRun => exact hRead (hSeals hRun)
  | revokeSeal call sealId reason drawnId turn hRun => exact hRead (hSeals hRun)
  | signed call result turn hRun => exact hRead (hSeals hRun)
  | published call result turn hRun => exact hRead (hSeals hRun)
  | refreshChat call sealCall drawnId refresh turn hGet hOpen hNone hTurn =>
    have hKept := listNext_read (fun s => s.elevation) (fun _ _ _ => rfl) s call refresh
    rw [hTurn] at hKept
    refine hKeeps hKept ?_
    unfold listNext at hTurn
    split at hTurn
    · have hFinish := refreshMove_finish hGet hOpen (.ok ())
      rw [hTurn] at hFinish
      exact hFinish
    · cases hTurn
      exact .next call refresh _ _ _ hGet hOpen rfl rfl rfl
  | refreshFailed call sealCall drawnId refresh error hGet hOpen hNone =>
    exact hKeeps (finishRefresh_read (fun s => s.elevation) (fun _ _ _ => rfl) s call refresh
      (.error error)) (refreshMove_finish hGet hOpen _)
  | refreshHead call sealCall drawnId refresh envelope rest turn hGet hOpen hNext hRun =>
    have hAfter := hSeals hRun
    simp only [read, Prod.mk.injEq] at hAfter
    exact hKeeps hAfter.1 (.next call refresh _ _ _ hGet hOpen hAfter.2.1 rfl hAfter.2.2)
  | revocationChat job sealCall drawnId revocation hGet hStage =>
    exact hRead (continueRevocation_read read (fun _ _ => rfl) s job revocation)
  | revokeHead job sealCall drawnId revocation envelope turn hGet hStage hRun =>
    exact hRead (hSeals hRun)

/-- Away from the elevation manager no demand begins. -/
theorem watches_of_step {s : RuntimeState} (h : runtimeStep deps s label = some (t, out))
    (hOther : ∀ event, label.event ≠ .elevation event) : watches t ⊆ watches s := by
  obtain ⟨hCalls, hMove, -⟩ := refreshMove_of_step h hOther
  -- a call that goes on demands what it demanded, or no more
  have hSet : ∀ {call refresh next}, s.refreshes.get call = some refresh →
      t.refreshes = s.refreshes.set call next → next.watches ⊆ refresh.watches →
      watches t ⊆ watches s := by
    intro call refresh next hGet hRefreshes hNext watch hWatch
    rw [mem_watches] at hWatch ⊢
    rw [hCalls, hRefreshes] at hWatch
    refine hWatch.imp_left ?_
    rintro ⟨call', refresh', hGet', hMem⟩
    rcases AssocMap.get_set_cases hGet' with ⟨-, rfl⟩ | ⟨-, hGet'⟩
    · exact ⟨call, refresh, hGet, hNext hMem⟩
    · exact ⟨call', refresh', hGet', hMem⟩
  cases hMove with
  | same hRefreshes hRollbacks =>
    intro watch hWatch
    rw [mem_watches] at hWatch ⊢
    rwa [hCalls, hRefreshes] at hWatch
  | next call refresh seals remaining stage hGet hOpen hRefreshes hStage hRollbacks =>
    refine hSet hGet hRefreshes ?_
    simp [DisclosureRefresh.watches, hOpen, hStage]
  | finish call refresh result hGet hOpen hRefreshes hRollbacks =>
    refine hSet hGet hRefreshes ?_
    simp [DisclosureRefresh.watches, RefreshStage.over]

/-- A demand was there before the step, or it begins with it; then the step is one of
the elevation manager and none of the seal manager. -/
theorem watch_of_step {s : RuntimeState} (h : runtimeStep deps s label = some (t, out))
    (hWatch : watch ∈ watches t) :
    watch ∈ watches s ∨ watch ∈ newWatches deps s label ∧ sealSegment s label = none := by
  by_cases hOld : watch ∈ watches s
  · exact Or.inl hOld
  · have hNew : watch ∈ newWatches deps s label := by
      unfold newWatches
      rw [h]
      simp [hWatch, hOld]
    refine Or.inr ⟨hNew, ?_⟩
    obtain ⟨now, event⟩ := label
    cases event with
    | elevation event => rfl
    | _ => exact absurd (watches_of_step h (fun _ hEq => nomatch hEq) hWatch) hOld

/-! ## What a step makes observable -/

inductive Observed (s : RuntimeState) (label : RuntimeLabel) : RuntimeObservation → Prop
  | issued (observation : SealObservation) : Observed s label (.issued observation)
  | credential (outcome : CredentialOutcome) : Observed s label (.credential outcome)
  /-- A call of `onDisclosureChanged` that was in progress has a result, or one for no
  chats. -/
  | refreshed (refresh : DisclosureRefresh) (result : Except SignetError Unit)
      (hOpen : refresh.chatIds = [] ∨
        ∃ call, s.refreshes.get call = some refresh ∧ refresh.stage.over = false) :
      Observed s label (.refreshed refresh result)
  | elevation (event : ElevationEvent) (turn : ElevationTurn)
      (observation : ElevationObservation)
      (hStep : elevationStep elevationDeps s.elevation ⟨label.now, event⟩ = some turn)
      (hMem : observation ∈ turn.2) : Observed s label (.elevation observation)

theorem observed_runSeals {s s' : RuntimeState} {segment : SealLabel} {turn : RuntimeTurn}
    (h : runSeals deps s' segment = some turn) (hMem : observation ∈ turn.2) :
    Observed s label observation := by
  obtain ⟨sealTurn, -, rfl⟩ := Option.map_eq_some_iff.mp h
  obtain ⟨issued, -, rfl⟩ := List.mem_map.mp hMem
  exact .issued issued

theorem observed_of_step {s : RuntimeState} (h : runtimeStep deps s label = some (t, out))
    (hMem : observation ∈ out) :
    Observed s label observation := by
  have hMove := runtimeStep_move deps h
  obtain ⟨now, event⟩ := label
  cases hMove with
  | elevation event turn hRun =>
    unfold runElevation at hRun
    split at hRun
    · obtain ⟨turn, hTurn, hEq⟩ := Option.map_eq_some_iff.mp hRun
      have hOut : _ = out := congrArg Prod.snd hEq
      rw [← hOut] at hMem
      rcases mem_announce hMem with hOld | ⟨refresh, result, rfl, hNone⟩
      · obtain ⟨observed, hObserved, rfl⟩ := List.mem_map.mp hOld
        exact .elevation event turn observed hTurn hObserved
      · exact .refreshed refresh result (Or.inl hNone)
    · cases hRun
  | credential op =>
    rw [List.mem_singleton.mp hMem]
    exact .credential _
  | setOperator operatorId record => cases hMem
  | issueSeal call credentialId chatId turn hRun => exact observed_runSeals hRun hMem
  | resolve call credentialId chatId next disclosureStore hCall hFor => cases hMem
  | deliver call drawnId result turn hResolved hRun => exact observed_runSeals hRun hMem
  | refreshSeal call sealId drawnId turn hRun => exact observed_runSeals hRun hMem
  | revokeSeal call sealId reason drawnId turn hRun => exact observed_runSeals hRun hMem
  | signed call result turn hRun => exact observed_runSeals hRun hMem
  | published call result turn hRun => exact observed_runSeals hRun hMem
  | refreshChat call sealCall drawnId refresh turn hGet hOpen hNone hTurn =>
    have hListed : observation ∈ (listNext s call refresh).2 := by
      rw [hTurn]
      exact hMem
    obtain ⟨rfl, -⟩ := mem_listNext hListed
    exact .refreshed refresh _ (Or.inr ⟨call, hGet, hOpen⟩)
  | refreshFailed call sealCall drawnId refresh error hGet hOpen hNone =>
    rw [List.mem_singleton.mp hMem]
    exact .refreshed refresh _ (Or.inr ⟨call, hGet, hOpen⟩)
  | refreshHead call sealCall drawnId refresh envelope rest turn hGet hOpen hNext hRun =>
    exact observed_runSeals hRun hMem
  | revocationChat job sealCall drawnId revocation hGet hStage => cases hMem
  | revokeHead job sealCall drawnId revocation envelope turn hGet hStage hRun =>
    exact observed_runSeals hRun hMem

theorem stage_of_returns {s : ElevationState} {label : ElevationLabel}
    {returned : ElevationRequest × CachedElevation} (h : returns s label = some returned) :
    ∃ call stage, s.calls.get call = some stage ∧ stage.returning = some returned := by
  unfold returns at h
  split at h
  · next call hEvent =>
    split at h
    · next request cached hStage =>
      cases h
      exact ⟨call, _, hStage, rfl⟩
    · next request cached hStage =>
      cases h
      exact ⟨call, _, hStage, rfl⟩
    · cases h
  · cases h

/-! ## Runs -/

def Met (meets : Demand → Option AdminAccess → Prop) (s : RuntimeState) : Prop :=
  ∀ watch ∈ watches s, Carried meets s.seals watch

/-- The condition of the runs: fresh seal ids, and seals that follow the disclosure. -/
structure FollowsFresh (deps : RuntimeDeps) (meets : Demand → Option AdminAccess → Prop)
    (s : RuntimeState) (label : RuntimeLabel) : Prop where
  fresh : FreshSeals s label
  follows : SealsFollow deps meets s label

theorem met_step {s : RuntimeState} (hAligned : Aligned s.seals) (hResolved : Resolved s)
    (hLinked : Linked s.seals) (hKept : AccessKept s.seals) (hMet : Met meets s)
    (hGuard : SealsFollow deps meets s label) (hStep : runtimeStep deps s label = some (t, out)) :
    Met meets t := by
  intro watch hWatch
  rcases watch_of_step hStep hWatch with hOld | ⟨hNew, hNone⟩
  · refine seals_step deps (Carried meets · watch) (hMet watch hOld) hStep
      fun segment _ _ hSegment hSeals => ?_
    apply carried_move hAligned hLinked hKept (faithful_of_resolved hResolved hSegment)
      (hMet watch hOld) ?_ (sealStep_move hSeals)
    intro input hInput hPublishes hChat
    exact hGuard.inputs segment hSegment input hInput hPublishes watch hOld hChat
  · refine seals_step deps (Carried meets · watch) (hGuard.begins watch hNew) hStep
      fun segment _ _ hSegment _ => ?_
    rw [hNone] at hSegment
    cases hSegment

variable {start : Int} {h : List RuntimeOccurrence} {s : RuntimeState}

theorem accessKept_runtime (hRun : (runtimeMachine deps start).Runs h s) :
    AccessKept s.seals := by
  have hInit : AccessKept (runtimeMachine deps start).init.seals := by
    constructor
    · intro id e input hSeal
      cases hSeal
    · rintro draft ⟨call, stage, hGet, -⟩
      cases hGet
  have hAny : AllMeet (fun _ _ => True) h := fun _ _ => trivial
  apply hRun.guarded hAny
  · exact hInit
  · intro h s label t out hRun _ hKept _ hStep
    refine seals_step deps _ hKept hStep fun segment _ _ _ hSeals => ?_
    exact accessKept_step (aligned_runtime hRun).1 hKept (sealStep_move hSeals)

theorem met_run (hRun : (runtimeMachine deps start).Runs h s)
    (hMeet : AllMeet (FollowsFresh deps meets) h) : Met meets s := by
  have hInit : Met meets (runtimeMachine deps start).init := by
    intro watch hWatch
    rcases mem_watches.mp hWatch with ⟨call, refresh, hGet, -⟩ | ⟨call, stage, hGet, -⟩
    · cases hGet
    · cases hGet
  refine hRun.guarded hMeet hInit ?_
  intro h s label t out hRun hMeets hMet hGuard hStep
  obtain ⟨hAligned, hResolved⟩ := aligned_runtime hRun
  have hLinked := linked_runtime hRun fun o ho => (hMeets o ho).fresh
  exact met_step hAligned hResolved hLinked (accessKept_runtime hRun) hMet hGuard.follows hStep

theorem mem_headsOf {seals : SealState} {chatId : String} {head : SealEnvelope} :
    head ∈ headsOf seals chatId ↔
      head ∈ seals.maps.currentSeals.values ∧ head.chain.current.chatId = chatId := by
  simp [headsOf]

/-- The access meets the demand, and discloses an elevation for as long as it lasts. -/
def Demand.MetExactly : Demand → Option AdminAccess → Prop
  | .inForce access, given => given = access
  | .discloses elevation, given =>
    given = some ⟨elevationDeps.disclosureActorId, Verifier.toISOString elevation.expiresAt⟩

instance (demand : Demand) (given : Option AdminAccess) : Decidable (demand.MetExactly given) :=
  match demand with
  | .inForce _ => inferInstanceAs (Decidable (_ = _))
  | .discloses _ => inferInstanceAs (Decidable (_ = _))

theorem Demand.MetExactly.met {demand : Demand} {given : Option AdminAccess}
    (h : demand.MetExactly given) : demand.Met given := by
  cases demand with
  | inForce access => exact h
  | discloses elevation => exact ⟨elevation.expiresAt, Int.le_refl _, h⟩

theorem FollowsFresh.mono {meets' : Demand → Option AdminAccess → Prop}
    (hWeaker : ∀ demand given, meets demand given → meets' demand given)
    (h : FollowsFresh deps meets s label) :
    FollowsFresh deps meets' s label := by
  refine ⟨h.fresh, ?_, ?_⟩
  · intro watch hNew
    have hCarried := h.follows.begins watch hNew
    exact ⟨fun head hHead hChat => hWeaker _ _ (hCarried.heads head hHead hChat),
      fun draft hDraft hChat => hWeaker _ _ (hCarried.drafts draft hDraft hChat)⟩
  · intro segment hSegment input hInput hPublishes watch hWatch hChat
    exact hWeaker _ _ (h.follows.inputs segment hSegment input hInput hPublishes watch hWatch hChat)

instance [∀ demand given, Decidable (meets demand given)] (seals : SealState) (watch : Watch) :
    Decidable (Carried meets seals watch) :=
  decidable_of_iff
    ((∀ head ∈ seals.maps.currentSeals.values, head.chain.current.chatId = watch.chatId →
        meets watch.demand head.chain.current.adminAccess) ∧
      ∀ draft ∈ draftsInFlight seals, draft.chain.current.chatId = watch.chatId →
        meets watch.demand draft.chain.current.adminAccess)
    ⟨fun h => ⟨h.1, h.2⟩, fun h => ⟨h.heads, h.drafts⟩⟩

instance [∀ demand given, Decidable (meets demand given)] (s : RuntimeState)
    (label : RuntimeLabel) : Decidable (SealsFollow deps meets s label) :=
  decidable_of_iff
    ((∀ watch ∈ newWatches deps s label, Carried meets s.seals watch) ∧
      ∀ segment ∈ sealSegment s label, ∀ input ∈ deliveredInput segment.event,
        publishesNothing s.seals.maps segment.event = false →
          ∀ watch ∈ watches s, watch.chatId = input.chatId →
            meets watch.demand input.adminAccess)
    ⟨fun h => ⟨h.1, h.2⟩, fun h => ⟨h.begins, h.inputs⟩⟩

instance (s : SealState) (label : SealLabel) : Decidable (FreshSealIds s label) :=
  decidable_of_iff
    (∀ id ∈ label.event.drawnId, (s.maps.sealsById.get id).isNone = true ∧
      ∀ draft ∈ draftsInFlight s, draft.chain.current.sealId ≠ id)
    (by simp [FreshSealIds, mem_draftsInFlight])

instance [∀ demand given, Decidable (meets demand given)] (s : RuntimeState)
    (label : RuntimeLabel) : Decidable (FollowsFresh deps meets s label) :=
  decidable_of_iff
    ((∀ segment ∈ sealSegment s label, FreshSealIds s.seals segment) ∧
      SealsFollow deps meets s label)
    ⟨fun h => ⟨h.1, h.2⟩, fun h => ⟨h.fresh, h.follows⟩⟩

/-- A step of the elevation manager. -/
def elevate (now : Int) (event : ElevationEvent) : RuntimeLabel := ⟨now, .elevation event⟩

/-- A request for elevated reads of the chat, up to its approval. -/
def approveForChat (now : Int) (call : Nat) (approvalId : String) : List RuntimeLabel :=
  [elevate now (.request call (fun chatId => chatId) (readInput "key" sealedChat)),
    elevate now (.answer call (.authorize (.ok ()))),
    elevate now (.answer call (.fingerprint (.ok "admin") approvalId))]

def returnApproved (now : Int) (call : Nat) : List RuntimeLabel :=
  [elevate now (.answer call (.notify (.ok ()))), elevate now (.answer call (.audit (.ok ())))]

/-- An elevation approved before the chat has a seal; the seal that is issued then
discloses it, also after a refresh, when the elevation is reused. -/
def elevatedBeforeSeal : List RuntimeLabel :=
  credentialForChat ++ approveForChat 10 1 "approval_1" ++
    [⟨11, .advanceRefresh 1 0 ""⟩] ++ returnApproved 12 1 ++
    issueSealAt 20 1 "seal_00000000000000aa" ++
    [⟨30, .refreshSeal 2 "seal_00000000000000aa" "seal_00000000000000bb"⟩,
      ⟨31, .signed 2 (.ok sampleSignature)⟩, ⟨32, .published 2 (.ok ())⟩,
      elevate 40 (.request 2 (fun chatId => chatId) (readInput "key" sealedChat)),
      elevate 41 (.answer 2 (.audit (.ok ())))]

theorem elevatedBeforeSeal_follows :
    sampleRuntimeMachine.Executes elevatedBeforeSeal fun h _ =>
      AllMeet (FollowsFresh sampleRuntimeDeps Demand.MetExactly) h := by
  decide

theorem elevatedBeforeSeal_isSome :
    (sampleRuntimeMachine.exec sampleRuntimeMachine.init elevatedBeforeSeal).isSome = true :=
  elevatedBeforeSeal_follows.goes

/-- A seal issued, and an elevation approved after it: its refresh publishes the seal
again and returns Ok. -/
def elevatedAfterSeal : List RuntimeLabel :=
  credentialForChat ++ issueSealAt 2 1 "seal_00000000000000aa" ++
    approveForChat 10 1 "approval_1" ++
    [⟨11, .advanceRefresh 1 2 "seal_00000000000000bb"⟩, ⟨12, .signed 2 (.ok sampleSignature)⟩,
      ⟨13, .published 2 (.ok ())⟩, ⟨14, .advanceRefresh 1 3 ""⟩] ++ returnApproved 15 1

theorem elevatedAfterSeal_stale :
    sampleRuntimeMachine.Executes elevatedAfterSeal fun h _ =>
      ¬ ∀ o ∈ h, ∀ refresh ∈ refreshedOk o.out, ∀ chatId ∈ refresh.chatIds,
        ∀ head ∈ headsOf o.pre.seals chatId,
          head.chain.current.adminAccess = refresh.inForce chatId := by
  decide

end Cli
end Signet
