import Signet.Cli.SealSegments

/-!
# Seals of dead credentials

The resolver reads a credential without looking at its status, and the seal manager
refuses a pair only when that pair was marked revoked.  A revocation marks the pairs
that have a current seal by then; an expiry or a direct change of status marks none.

* `isDead` — the credential is stored and not active.
* `SealsOnlyLiving` — no seal is published for a credential that has been dead.
* `SparesDead` — a step builds no seal for a dead credential, lets no credential die
  with a seal on its way, and brings none back to life.
* `no_seal_for_dead_credential` — in every run of such steps.
-/

namespace Signet
namespace Cli

open Kit Machine Schemas Policy Sessions Seals

/-- The credential is stored and not active: revoked, expired or set to another
status. -/
def isDead (store : CredentialStore) (credentialId : String) : Bool :=
  match store.byId.get credentialId with
  | none => false
  | some record => decide (record.status ≠ .active)

def publishedIn (out : List RuntimeObservation) : List SealEnvelope :=
  out.filterMap fun
    | .issued (.published envelope) => some envelope
    | _ => none

theorem issued_of_publishedIn {out : List RuntimeObservation} {envelope : SealEnvelope}
    (h : envelope ∈ publishedIn out) : .issued (.published envelope) ∈ out := by
  obtain ⟨observation, hMem, hEq⟩ := List.mem_filterMap.mp h
  split at hEq
  · cases hEq
    exact hMem
  · cases hEq

/-- Whenever a new seal has been published, its credential has not been dead at any
earlier time of the run. -/
def SealsOnlyLiving (h : List RuntimeOccurrence) : Prop :=
  ∀ h₁ o h₂, h = h₁ ++ o :: h₂ → ∀ envelope ∈ publishedIn o.out,
    ∀ earlier ∈ visited h₁ o.pre,
      isDead earlier.store envelope.chain.current.credentialId = false

theorem SealsOnlyLiving.when_published {h : List RuntimeOccurrence} (hLiving : SealsOnlyLiving h) :
    ∀ o ∈ h, ∀ envelope ∈ publishedIn o.out,
      isDead o.pre.store envelope.chain.current.credentialId = false := by
  intro o ho envelope hPublished
  obtain ⟨h₁, h₂, hSplit⟩ := List.append_of_mem ho
  exact hLiving h₁ o h₂ hSplit envelope hPublished o.pre (mem_visited_self _ _)

/-! ## Steps that spare dead credentials -/

/-- The credential that a segment of the seal manager would build a seal for. -/
def sealedCredential (maps : SealMaps) : SealEvent → Option String
  | .inputResolved _ (.ok input) _ => some input.credentialId
  | .refresh _ sealId _ =>
    (maps.sealsById.get sealId).map fun existing => existing.chain.current.credentialId
  | _ => none

variable (deps : RuntimeDeps)

/-- A step builds no seal for a dead credential, no credential dies while a seal of it
is on its way, and no dead credential comes back to life. -/
structure SparesDead (s : RuntimeState) (label : RuntimeLabel) : Prop where
  builds : ∀ segment ∈ sealSegment s label,
    ∀ credentialId ∈ sealedCredential s.seals.maps segment.event,
      isDead s.store credentialId = true →
        publishesNothing s.seals.maps segment.event = true
  dies : ∀ draft ∈ draftsInFlight s.seals,
    isDead (runtimeStore deps s label) draft.chain.current.credentialId = true →
      isDead s.store draft.chain.current.credentialId = true
  stays : ∀ credentialId ∈ s.store.byId.keys, isDead s.store credentialId = true →
    isDead (runtimeStore deps s label) credentialId = true

instance (s : RuntimeState) (label : RuntimeLabel) : Decidable (SparesDead deps s label) :=
  decidable_of_iff
    ((∀ segment ∈ sealSegment s label,
        ∀ credentialId ∈ sealedCredential s.seals.maps segment.event,
          isDead s.store credentialId = true →
            publishesNothing s.seals.maps segment.event = true) ∧
      (∀ draft ∈ draftsInFlight s.seals,
        isDead (runtimeStore deps s label) draft.chain.current.credentialId = true →
          isDead s.store draft.chain.current.credentialId = true) ∧
      ∀ credentialId ∈ s.store.byId.keys, isDead s.store credentialId = true →
        isDead (runtimeStore deps s label) credentialId = true)
    ⟨fun h => ⟨h.1, h.2.1, h.2.2⟩, fun h => ⟨h.builds, h.dies, h.stays⟩⟩

/-! ## What a build needs -/

theorem sealedCredential_of_built {zod : ZodEnv} {s : SealState} (hAligned : Aligned s)
    {label : SealLabel} {draft : Draft} (hBuilt : Built zod s label draft) :
    sealedCredential s.maps label.event = some draft.chain.current.credentialId := by
  cases hBuilt with
  | issued call credentialId chatId drawnId input hCall hEvent hDraft =>
    obtain ⟨-, -, hInput, -, hBuild⟩ := issueWithInput_draft hDraft
    rw [hEvent, (buildSeal_ok hBuild).2.1]
    rfl
  | refreshed call sealId drawnId hEvent hDraft =>
    obtain ⟨existing, hSeal, hInput, -, -, -, -, hBuild⟩ := refreshHead_ok hDraft
    have hAnswers := hAligned.inputs sealId existing draft.input hSeal hInput
    rw [hEvent, (buildSeal_ok hBuild).2.1]
    simp only [sealedCredential, hSeal, Option.map_some, rawPayload, hAnswers.credentialId]

/-! ## The invariant -/

/-- Every seal on its way is of a credential that is not dead. -/
def DraftsLive (s : RuntimeState) : Prop :=
  ∀ draft, InFlight s.seals draft →
    isDead s.store draft.chain.current.credentialId = false

variable {deps} {s t : RuntimeState} {label : RuntimeLabel} {out : List RuntimeObservation}

/-- A step with a build leaves the credentials alone. -/
theorem runtimeStore_of_built {segment : SealLabel} (hSegment : sealSegment s label = some segment)
    {draft : Draft} (hBuilt : Built deps.zod s.seals segment draft) :
    runtimeStore deps s label = s.store := by
  obtain ⟨now, event⟩ := label
  cases event with
  | issueSeal call credentialId chatId =>
    cases hSegment
    cases hBuilt with
    | issued call' _ _ _ _ _ hEvent _ => cases hEvent
    | refreshed call' _ _ hEvent _ => cases hEvent
  | credential op => cases hSegment
  | _ => rfl

theorem draftsLive_step (hAligned : Aligned s.seals) (hResolved : Resolved s)
    (hLive : DraftsLive s) (hGuard : SparesDead deps s label)
    (hStep : runtimeStep deps s label = some (t, out)) : DraftsLive t := by
  have hStore := (runtimeStep_segment deps hStep).2
  -- a draft that was on its way before the step
  have hOld : ∀ draft, InFlight s.seals draft →
      isDead t.store draft.chain.current.credentialId = false := by
    intro draft hFlight
    rw [hStore, Bool.eq_false_iff]
    intro hDead
    have hBefore := hGuard.dies draft (mem_draftsInFlight.mpr hFlight) hDead
    rw [hLive draft hFlight] at hBefore
    cases hBefore
  refine seals_step deps (fun seals => ∀ draft, InFlight seals draft →
    isDead t.store draft.chain.current.credentialId = false) hOld hStep
    fun segment _ _ hSegment hSeals draft hFlight => ?_
  rcases inFlight_of_move (sealStep_move hSeals) hFlight with hBefore | hBuilt
  · exact hOld draft hBefore
  · rw [hStore, runtimeStore_of_built hSegment hBuilt, Bool.eq_false_iff]
    intro hDead
    have hNothing := hGuard.builds segment hSegment _
      (sealedCredential_of_built hAligned hBuilt) hDead
    rw [publishes_of_built (faithful_of_resolved hResolved hSegment) hBuilt] at hNothing
    cases hNothing

variable {start : Int} {h : List RuntimeOccurrence} {credentialId : String}

theorem draftsLive_run (hRun : (runtimeMachine deps start).Runs h s)
    (hMeet : AllMeet (SparesDead deps) h) : DraftsLive s := by
  have hInit : DraftsLive (runtimeMachine deps start).init := by
    rintro draft ⟨call, stage, hGet, -⟩
    cases hGet
  refine hRun.guarded hMeet hInit ?_
  intro h s label t out hRun _ hLive hGuard hStep
  obtain ⟨hAligned, hResolved⟩ := aligned_runtime hRun
  exact draftsLive_step hAligned hResolved hLive hGuard hStep

theorem mem_keys_of_isDead {store : CredentialStore} (h : isDead store credentialId = true) :
    credentialId ∈ store.byId.keys := by
  unfold isDead at h
  split at h
  · cases h
  · next record hGet => exact AssocMap.mem_keys.mpr ⟨record, hGet⟩

theorem dead_since (hRun : (runtimeMachine deps start).Runs h s)
    (hMeet : AllMeet (SparesDead deps) h) {earlier : RuntimeState}
    (hEarlier : earlier ∈ visited h s) (hDead : isDead earlier.store credentialId = true) :
    isDead s.store credentialId = true := by
  have hPairs : (visited h s).Pairwise fun a b => ∀ credentialId,
      isDead a.store credentialId = true → isDead b.store credentialId = true := by
    refine hRun.pairwise_visited (fun _ _ _ hst htu id hId => htu id (hst id hId)) ?_ hMeet
    intro s label t out hGuard hStep credentialId hDead
    rw [(runtimeStep_segment deps hStep).2]
    exact hGuard.stays credentialId (mem_keys_of_isDead hDead) hDead
  unfold visited at hPairs hEarlier
  rw [List.pairwise_append] at hPairs
  rcases List.mem_append.mp hEarlier with hPre | hLast
  · exact hPairs.2.2 earlier hPre s (List.mem_singleton.mpr rfl) credentialId hDead
  · rw [List.mem_singleton] at hLast
    exact hLast ▸ hDead

/-- **No seal for a dead credential.**  In a run in which no seal is built for a dead
credential, no credential dies with a seal on its way, and none comes back to life,
no published seal is of a credential that has been dead. -/
theorem no_seal_for_dead_credential (hRun : (runtimeMachine deps start).Runs h s)
    (hMeet : AllMeet (SparesDead deps) h) : SealsOnlyLiving h := by
  intro h₁ o h₂ hSplit envelope hPublished earlier hEarlier
  have hOut := issued_of_publishedIn hPublished
  obtain ⟨hPre, t, hStep⟩ := hRun.of_append_cons hSplit
  have hBefore := hMeet.before hSplit
  have hTakes := (runtimeStep_segment deps hStep).1
  unfold TakesSegment at hTakes
  split at hTakes
  · exact absurd hOut (hTakes.2 _)
  · obtain ⟨sealOut, hSeals, hIssued⟩ := hTakes
    obtain ⟨draft, hFlight, hChain⟩ := draft_of_published (aligned_runtime hPre).1
      (sealStep_move hSeals) (hIssued _ hOut)
    have hLive := draftsLive_run hPre hBefore draft hFlight
    rw [← hChain] at hLive
    rw [Bool.eq_false_iff]
    intro hDead
    rw [dead_since hPre hBefore hEarlier hDead] at hLive
    cases hLive

/-- A credential revoked after its seal was published: the seal is revoked as well, and
another one is refused. -/
def revokedWithSeal : List RuntimeLabel :=
  credentialForChat ++ issueSealAt 2 1 "seal_00000000000000aa" ++
    [⟨3, .credential (.revokeCredential sealedId .ownerInitiated)⟩,
      ⟨4, .advanceRevocation 0 2 "seal_00000000000000bb"⟩,
      ⟨5, .signed 2 (.ok sampleSignature)⟩, ⟨6, .published 2 (.ok ())⟩,
      ⟨7, .advanceRevocation 0 3 "seal_00000000000000cc"⟩,
      ⟨8, .issueSeal 4 sealedId sealedChat⟩, ⟨8, .resolve 4⟩, ⟨8, .resolve 4⟩,
      ⟨8, .deliver 4 "seal_00000000000000dd"⟩]

theorem revokedWithSeal_spared :
    sampleRuntimeMachine.Executes revokedWithSeal fun h _ =>
      AllMeet (SparesDead sampleRuntimeDeps) h := by
  decide

theorem revokedWithSeal_isSome :
    (sampleRuntimeMachine.exec sampleRuntimeMachine.init revokedWithSeal).isSome = true :=
  revokedWithSeal_spared.goes

theorem no_seal_for_revoked_credential :
    SealsOnlyLiving (sampleRuntimeMachine.outcome sampleRuntimeMachine.init revokedWithSeal
      revokedWithSeal_isSome).1 :=
  no_seal_for_dead_credential revokedWithSeal_spared.runs revokedWithSeal_spared.holds

def revokedBeforeSeal : List RuntimeLabel :=
  credentialForChat ++ [⟨3, .credential (.revokeCredential sealedId .ownerInitiated)⟩] ++
    issueSealAt 4 1 "seal_00000000000000aa"

theorem revokedBeforeSeal_sealed :
    sampleRuntimeMachine.Executes revokedBeforeSeal fun h _ =>
      ¬ ∀ o ∈ h, ∀ envelope ∈ publishedIn o.out,
        isDead o.pre.store envelope.chain.current.credentialId = false := by
  decide

/-- The revoked credential gets a seal. -/
theorem seal_for_revoked_credential :
    ∃ h s, sampleRuntimeMachine.Runs h s ∧ ¬ SealsOnlyLiving h := by
  obtain ⟨h, s, -, hRun, hDead⟩ := revokedBeforeSeal_sealed.exists_run
  exact ⟨h, s, hRun, fun hLiving => hDead hLiving.when_published⟩

end Cli
end Signet
