import Signet.Seals.ManagerSpec

/-!
# Finality of seal revocation

`issue` and `refresh` look at the revoked pairs once, before they await the
signer and the publisher; `revoke` marks its pair only after both of its own
awaits.  A revocation that completes while a draft of the pair is on its way is
overtaken by the draft.

* `RevocationFinal` — after `revoke` has returned Ok the pair has no current seal and
  no envelope of it is published or tracked.
* `NotOvertaken` — the signer and the publisher answer a draft with success only
  while its pair is not revoked.
* `revocation_final_iff` — along every run the two are the same.
-/

namespace Signet
namespace Seals

open Kit Machine Schemas

/-- The step hands the envelope to the publisher, or tracks it. -/
def Emits (out : List SealObservation) (envelope : SealEnvelope) : Prop :=
  .published envelope ∈ out ∨ ∃ chatId, .publishing chatId envelope ∈ out

/-- Once `revoke` has returned Ok the pair has no current seal and no envelope of
the pair is published or tracked. -/
def RevocationFinal (h : List SealOccurrence) (s : SealState) : Prop :=
  ∀ h₁ o h₂, h = h₁ ++ o :: h₂ → ∀ call p, .revoked call p ∈ o.out →
    (∀ t ∈ visited h₂ s, current t.maps p.credentialId p.chatId = none) ∧
    ∀ o' ∈ h₂, ∀ envelope, Emits o'.out envelope → ¬ SamePair envelope.chain.current p

/-- The signer or the publisher answers the call with success. -/
def Succeeds (label : SealLabel) (call : Nat) : Prop :=
  (∃ signature, label.event = .signed call (.ok signature)) ∨
    label.event = .published call (.ok ())

/-- A draft is answered with success only while its pair is not revoked. -/
def NotOvertaken (s : SealState) (label : SealLabel) : Prop :=
  ∀ call stage draft, s.calls.get call = some stage → stage.draft = some draft →
    Succeeds label call → draft.key ∉ s.maps.revokedPairs

/-! ## Which steps emit, and which mark -/

variable {out : List SealObservation} {h : List SealOccurrence} {label : SealLabel}
  {s s' : SealState} {zod : ZodEnv}

/-- An envelope is emitted by a successful answer to its draft. -/
theorem emits_of_move (hAligned : Aligned s) (hMove : SealMove zod s label s' out)
    {envelope : SealEnvelope} (hEmits : Emits out envelope) :
    ∃ call stage draft, s.calls.get call = some stage ∧ stage.draft = some draft ∧
      Succeeds label call ∧ envelope.chain = draft.chain := by
  unfold Emits at hEmits
  cases hMove with
  | publishing call draft signature hCall hEvent =>
    have hEnvelope : envelope = draft.envelope signature := by simpa using hEmits
    subst hEnvelope
    exact ⟨call, _, draft, hCall, rfl, .inl ⟨signature, hEvent⟩, rfl⟩
  | published call draft tracked hCall hEvent =>
    have hEnvelope : envelope = tracked := by simpa using hEmits
    subst hEnvelope
    exact ⟨call, _, draft, hCall, rfl, .inr hEvent, hAligned.signed call draft _ hCall⟩
  | _ => simp at hEmits

theorem emits_of_succeeds (hAligned : Aligned s) (hStep : sealStep zod s label = some (s', out))
    {call : Nat} {stage : SealStage} {draft : Draft} (hCall : s.calls.get call = some stage)
    (hDraft : stage.draft = some draft) (hSucceeds : Succeeds label call) :
    ∃ envelope, Emits out envelope ∧ envelope.chain = draft.chain := by
  obtain ⟨now, event⟩ := label
  rcases hSucceeds with ⟨signature, rfl⟩ | rfl
  · simp only [sealStep, hCall, Option.bind_some] at hStep
    cases stage with
    | signing draft' =>
      cases hDraft
      cases hStep
      exact ⟨draft.envelope signature, .inr ⟨draft.chatId, by simp⟩, rfl⟩
    | publishing draft' envelope => cases hStep
    | _ => cases hDraft
  · simp only [sealStep, hCall, Option.bind_some] at hStep
    cases stage with
    | signing draft' => cases hStep
    | publishing draft' envelope =>
      cases hDraft
      cases hStep
      exact ⟨envelope, .inl (by simp), hAligned.signed call draft envelope hCall⟩
    | _ => cases hDraft

/-- The step has `revoke` return Ok for a payload with this key. -/
def Marks (out : List SealObservation) (key : String) : Prop :=
  ∃ call p, .revoked call p ∈ out ∧ payloadKey p = key

/-- A step marks exactly the keys for which `revoke` returns Ok. -/
theorem revokedPairs_of_move (hMove : SealMove zod s label s' out) (key : String) :
    key ∈ s'.maps.revokedPairs ↔ key ∈ s.maps.revokedPairs ∨ Marks out key := by
  unfold Marks
  cases hMove with
  | revoked call current hCall hEvent =>
    simp only [endCall, markRevoked, OrderedSet.mem_add, List.mem_singleton,
      SealObservation.revoked.injEq]
    constructor
    · rintro (rfl | hOld)
      · exact .inr ⟨call, current, ⟨rfl, rfl⟩, rfl⟩
      · exact .inl hOld
    · rintro (hOld | ⟨_, _, ⟨rfl, rfl⟩, rfl⟩)
      · exact .inr hOld
      · exact .inl rfl
  | _ => simp [endCall, await, track]

/-- The marked pairs of a run are those for which `revoke` has returned Ok. -/
theorem revokedPairs_run (hRun : (sealMachine zod).Runs h s) (key : String) :
    key ∈ s.maps.revokedPairs ↔ ∃ o ∈ h, Marks o.out key := by
  induction hRun with
  | start =>
    constructor
    · intro hMem
      cases hMem
    · rintro ⟨o, ho, -⟩
      cases ho
  | @step h s s' label out hRun hStep ih =>
    rw [revokedPairs_of_move (sealStep_move hStep) key, ih]
    simp only [List.mem_append, List.mem_singleton]
    constructor
    · rintro (⟨o, ho, hMarks⟩ | hMarks)
      · exact ⟨o, .inl ho, hMarks⟩
      · exact ⟨_, .inr rfl, hMarks⟩
    · rintro ⟨o, ho | rfl, hMarks⟩
      · exact .inl ⟨o, ho, hMarks⟩
      · exact .inr hMarks

/-! ## Runs -/

/-- A revoked pair has no current seal. -/
def RevokedClear (s : SealState) : Prop :=
  ∀ key, key ∈ s.maps.revokedPairs → s.maps.currentSeals.get key = none

theorem revokedClear_step (h : RevokedClear s) (hGuard : NotOvertaken s label)
    (hMove : SealMove zod s label s' out) : RevokedClear s' := by
  cases hMove with
  | published call draft envelope hCall hEvent =>
    intro key hMem
    have hNe : key ≠ draft.key := by
      rintro rfl
      exact hGuard call _ draft hCall rfl (.inr hEvent) hMem
    show (s.maps.currentSeals.set draft.key envelope).get key = none
    rw [AssocMap.get_set_of_ne _ _ hNe]
    exact h key hMem
  | revoked call current hCall hEvent =>
    intro key hMem
    show (s.maps.currentSeals.delete (payloadKey current)).get key = none
    rw [AssocMap.get_delete]
    split
    · rfl
    · next hNe =>
      rcases OrderedSet.mem_add.mp hMem with hKey | hOld
      · exact (hNe hKey).elim
      · exact h key hOld
  | _ => exact h

theorem revokedClear_run (hRun : (sealMachine zod).Runs h s)
    (hGuard : AllMeet NotOvertaken h) :
    RevokedClear s := by
  have hInit : RevokedClear (sealMachine zod).init := by
    intro key hMem
    cases hMem
  refine hRun.guarded hGuard hInit ?_
  intro h s label s' out _ _ hClear hMeets hStep
  exact revokedClear_step hClear hMeets (sealStep_move hStep)

theorem revocationFinal_of_notOvertaken (hRun : (sealMachine zod).Runs h s)
    (hFaithful : AllMeet Faithful h) (hGuard : AllMeet NotOvertaken h) :
    RevocationFinal h s := by
  intro h₁ o h₂ hSplit call p hRevoked
  have hLate : h = (h₁ ++ [o]) ++ h₂ := by simp [hSplit]
  -- the pair is marked in every state from here on
  have hMarked : ∀ h' t, (∀ o' ∈ h', o' ∈ h₂) → (sealMachine zod).Runs (h₁ ++ [o] ++ h') t →
      AllMeet Faithful (h₁ ++ [o] ++ h') ∧ AllMeet NotOvertaken (h₁ ++ [o] ++ h') ∧
        payloadKey p ∈ t.maps.revokedPairs := by
    intro h' t hSub hRun'
    have hMem : ∀ o' ∈ h₁ ++ [o] ++ h', o' ∈ h := by
      intro o' ho'
      rw [hLate]
      rcases List.mem_append.mp ho' with hEarly | hNew
      · exact List.mem_append_left _ hEarly
      · exact List.mem_append_right _ (hSub o' hNew)
    have hFaithful' : AllMeet Faithful (h₁ ++ [o] ++ h') :=
      fun o' ho' => hFaithful o' (hMem o' ho')
    refine ⟨hFaithful', fun o' ho' => hGuard o' (hMem o' ho'), ?_⟩
    rw [revokedPairs_run hRun']
    exact ⟨o, by simp, call, p, hRevoked, rfl⟩
  rw [hLate] at hRun
  constructor
  · intro t ht
    obtain ⟨h', hRun', hSub⟩ := hRun.of_mem_visited_after ht
    obtain ⟨-, hGuard', hMem⟩ := hMarked h' t hSub hRun'
    exact revokedClear_run hRun' hGuard' _ hMem
  · intro o' ho' envelope hEmits hSame
    obtain ⟨a, b, hSplit₂⟩ := List.append_of_mem ho'
    have hSplit' : h₁ ++ [o] ++ h₂ = (h₁ ++ [o] ++ a) ++ o' :: b := by simp [hSplit₂]
    obtain ⟨hRun', s₂, hStep'⟩ := hRun.of_append_cons hSplit'
    obtain ⟨hFaithful', -, hMem⟩ := hMarked a o'.pre (by simp +contextual [hSplit₂]) hRun'
    have hAligned := aligned_run hRun' hFaithful'
    obtain ⟨call', stage, draft, hCall, hDraft, hSucceeds, hChain⟩ :=
      emits_of_move hAligned (sealStep_move hStep') hEmits
    refine hGuard o' (by rw [hLate, hSplit']; simp) call' stage draft hCall hDraft hSucceeds ?_
    have hKey := (hAligned.drafts draft ⟨call', stage, hCall, hDraft⟩).key
    rw [hKey, ← hChain, payloadKey, hSame.1, hSame.2]
    exact hMem

/-- **Seal revocation is final, exactly when no draft overtakes it.** -/
theorem revocation_final_iff (zod : ZodEnv) {h : List SealOccurrence} {s : SealState}
    (hRun : (sealMachine zod).Runs h s) (hFaithful : AllMeet Faithful h) :
    RevocationFinal h s ↔ AllMeet NotOvertaken h := by
  constructor
  · intro hFinal o' ho' call stage draft hCall hDraft hSucceeds hMem
    obtain ⟨a, b, hSplit⟩ := List.append_of_mem ho'
    obtain ⟨hBefore, s', hStep⟩ := hRun.of_append_cons hSplit
    have hFaithful' := hFaithful.before hSplit
    have hAligned := aligned_run hBefore hFaithful'
    obtain ⟨o, ho, call', p, hRevoked, hKey⟩ := (revokedPairs_run hBefore draft.key).mp hMem
    obtain ⟨a₁, a₂, rfl⟩ := List.append_of_mem ho
    obtain ⟨envelope, hEmits, hChain⟩ :=
      emits_of_succeeds hAligned hStep hCall hDraft hSucceeds
    have hNever := (hFinal a₁ o (a₂ ++ o' :: b) (by simp [hSplit]) call' p hRevoked).2 o'
      (by simp) envelope hEmits
    have hDraftAligned := hAligned.drafts draft ⟨call, stage, hCall, hDraft⟩
    apply hNever
    rw [hChain, ← samePair_iff hDraftAligned.colonFree, ← hDraftAligned.key, hKey]
  · exact revocationFinal_of_notOvertaken hRun hFaithful

/-! ## A revocation that is overtaken, and one that is not -/

def firstRevocation (drawnId : String) : RevocationSeal :=
  { sealId := drawnId
    previousSealId := firstDraft.chain.current.sealId
    operatorId := sampleInput.operatorId
    credentialId := sampleInput.credentialId
    chatId := sampleInput.chatId
    reason := .ownerInitiated
    revokedAt := 10
    issuer := "signet" }

/-- A refresh is signed while a revocation of its pair completes. -/
def overtakingRefresh : List SealLabel :=
  [⟨10, .refresh 2 firstDraft.chain.current.sealId "seal_00000000000000bb"⟩,
    ⟨10, .revoke 3 firstDraft.chain.current.sealId .ownerInitiated "seal_00000000000000cc"⟩,
    ⟨11, .signed 3 (.ok sampleSignature)⟩, ⟨12, .published 3 (.ok ())⟩,
    ⟨13, .signed 2 (.ok sampleSignature)⟩]

def overtakingStates : Nat → SealState
  | 0 => firstSealStates 4
  | 1 => await (firstSealStates 4) 2 (.signing refreshDraft)
  | 2 => await (await (firstSealStates 4) 2 (.signing refreshDraft)) 3
      (.signingRevocation firstDraft.chain.current (firstRevocation "seal_00000000000000cc"))
  | 3 => await (await (firstSealStates 4) 2 (.signing refreshDraft)) 3
      (.publishingRevocation firstDraft.chain.current)
  | 4 => await
      { firstSealStates 4 with
        maps := markRevoked (firstSealStates 4).maps (payloadKey firstDraft.chain.current) } 2
      (.signing refreshDraft)
  | _ => await
      { firstSealStates 4 with
        maps := markRevoked (firstSealStates 4).maps (payloadKey firstDraft.chain.current) } 2
      (.publishing refreshDraft (refreshDraft.envelope sampleSignature))

def overtakingHistory : List SealOccurrence :=
  [⟨overtakingStates 0,
      ⟨10, .refresh 2 firstDraft.chain.current.sealId "seal_00000000000000bb"⟩, []⟩,
    ⟨overtakingStates 1,
      ⟨10, .revoke 3 firstDraft.chain.current.sealId .ownerInitiated "seal_00000000000000cc"⟩,
      []⟩,
    ⟨overtakingStates 2, ⟨11, .signed 3 (.ok sampleSignature)⟩,
      [.publishingRevocation sampleInput.chatId
        ⟨firstRevocation "seal_00000000000000cc", "signature", "key"⟩]⟩,
    ⟨overtakingStates 3, ⟨12, .published 3 (.ok ())⟩,
      [.revoked 3 firstDraft.chain.current]⟩,
    ⟨overtakingStates 4, ⟨13, .signed 2 (.ok sampleSignature)⟩,
      [.publishing sampleInput.chatId (refreshDraft.envelope sampleSignature)]⟩]

theorem overtaking_exec (zod : ZodEnv) :
    (sealMachine zod).exec (sealMachine zod).init (firstSeal ++ overtakingRefresh) =
      some (firstSealHistory ++ overtakingHistory, overtakingStates 5) := by
  refine exec_append (firstSeal_exec zod) ?_
  refine exec_cons (show _ = some (overtakingStates 1, _) from rfl) ?_
  refine exec_cons (show _ = some (overtakingStates 2, _) from rfl) ?_
  refine exec_cons (show _ = some (overtakingStates 3, _) from rfl) ?_
  refine exec_cons (show _ = some (overtakingStates 4, _) from rfl) ?_
  exact exec_cons (show _ = some (overtakingStates 5, _) from rfl) rfl

/-- The refreshed seal goes to the publisher after the revocation, whatever the
schema library answers. -/
theorem seal_published_after_revocation :
    ¬ ∃ zod : ZodEnv, ∀ h s,
      (sealMachine zod).exec (sealMachine zod).init (firstSeal ++ overtakingRefresh) =
        some (h, s) →
      AllMeet Faithful h → RevocationFinal h s := by
  rintro ⟨zod, hLaw⟩
  have hFinal := hLaw _ _ (overtaking_exec zod) ?_
  · have hNever := (hFinal (firstSealHistory ++ overtakingHistory.take 3) _
      (overtakingHistory.drop 4) (by simp [overtakingHistory]; rfl) 3 firstDraft.chain.current
      (List.mem_singleton.mpr rfl)).2 _ (List.mem_singleton.mpr rfl)
      (refreshDraft.envelope sampleSignature) (.inr ⟨_, List.mem_singleton.mpr rfl⟩)
    exact hNever ⟨rfl, rfl⟩
  · refine (allMeet_append _ _ _).mpr ⟨firstSeal_faithful, ?_⟩
    intro o ho call input drawnId credentialId chatId hEvent
    simp only [overtakingHistory, List.mem_cons, List.not_mem_nil, or_false] at ho
    rcases ho with rfl | rfl | rfl | rfl | rfl <;> cases hEvent

/-- The seal is revoked, then an issuance of the pair is tried. -/
def quietRevocation : List SealLabel :=
  [⟨10, .revoke 2 firstDraft.chain.current.sealId .ownerInitiated "seal_00000000000000cc"⟩,
    ⟨11, .signed 2 (.ok sampleSignature)⟩, ⟨12, .published 2 (.ok ())⟩,
    ⟨20, .issue 3 sampleInput.credentialId sampleInput.chatId⟩,
    ⟨20, .inputResolved 3 (.ok sampleInput) "seal_00000000000000bb"⟩]

def revokedState : SealState :=
  { firstSealStates 4 with
    maps := markRevoked (firstSealStates 4).maps (payloadKey firstDraft.chain.current) }

def quietHistory : List SealOccurrence :=
  [⟨firstSealStates 4,
      ⟨10, .revoke 2 firstDraft.chain.current.sealId .ownerInitiated "seal_00000000000000cc"⟩,
      []⟩,
    ⟨await (firstSealStates 4) 2
        (.signingRevocation firstDraft.chain.current (firstRevocation "seal_00000000000000cc")),
      ⟨11, .signed 2 (.ok sampleSignature)⟩,
      [.publishingRevocation sampleInput.chatId
        ⟨firstRevocation "seal_00000000000000cc", "signature", "key"⟩]⟩,
    ⟨await (firstSealStates 4) 2 (.publishingRevocation firstDraft.chain.current),
      ⟨12, .published 2 (.ok ())⟩, [.revoked 2 firstDraft.chain.current]⟩,
    ⟨revokedState, ⟨20, .issue 3 sampleInput.credentialId sampleInput.chatId⟩, []⟩,
    ⟨await revokedState 3 (.resolving sampleInput.credentialId sampleInput.chatId),
      ⟨20, .inputResolved 3 (.ok sampleInput) "seal_00000000000000bb"⟩,
      [.returned 3 (.error (SealError.create ""
        "Cannot issue seal for revoked credential+chat"))]⟩]

theorem quiet_exec (zod : ZodEnv) :
    (sealMachine zod).exec (sealMachine zod).init (firstSeal ++ quietRevocation) =
      some (firstSealHistory ++ quietHistory, revokedState) := by
  refine exec_append (firstSeal_exec zod) ?_
  refine exec_cons (show _ = some (await (firstSealStates 4) 2
    (.signingRevocation firstDraft.chain.current (firstRevocation "seal_00000000000000cc")), _)
    from rfl) ?_
  refine exec_cons (show _ = some (await (firstSealStates 4) 2
    (.publishingRevocation firstDraft.chain.current), _) from rfl) ?_
  refine exec_cons (show _ = some (revokedState, _) from rfl) ?_
  refine exec_cons (show _ = some (await revokedState 3
    (.resolving sampleInput.credentialId sampleInput.chatId), _) from rfl) ?_
  exact exec_cons (show _ = some (revokedState, _) from rfl) rfl

theorem notOvertaken_of_none_revoked (h : s.maps.revokedPairs = .empty) : NotOvertaken s label := by
  intro call stage draft _ _ _
  rw [h]
  exact OrderedSet.not_mem_empty _

/-- The issuance after the revocation is refused, and the pair stays clear. -/
theorem revocation_final_quiet :
    ∃ h s, (sealMachine sampleZod).exec (sealMachine sampleZod).init
        (firstSeal ++ quietRevocation) = some (h, s) ∧
      RevocationFinal h s := by
  refine ⟨_, _, quiet_exec sampleZod, (revocation_final_iff sampleZod
    (runs_of_exec (quiet_exec sampleZod)) ?_).mpr ?_⟩
  · refine (allMeet_append _ _ _).mpr ⟨firstSeal_faithful, ?_⟩
    intro o ho call input drawnId credentialId chatId hEvent hCall
    simp only [quietHistory, List.mem_cons, List.not_mem_nil, or_false] at ho
    rcases ho with rfl | rfl | rfl | rfl | rfl
    · cases hEvent
    · cases hEvent
    · cases hEvent
    · cases hEvent
    · cases hEvent
      cases hCall
      exact ⟨rfl, rfl⟩
  · intro o ho
    simp only [firstSealHistory, quietHistory, List.cons_append, List.nil_append,
      List.mem_cons, List.not_mem_nil, or_false] at ho
    rcases ho with rfl | rfl | rfl | rfl | rfl | rfl | rfl | rfl | rfl
    · exact notOvertaken_of_none_revoked rfl
    · exact notOvertaken_of_none_revoked rfl
    · exact notOvertaken_of_none_revoked rfl
    · exact notOvertaken_of_none_revoked rfl
    · exact notOvertaken_of_none_revoked rfl
    · exact notOvertaken_of_none_revoked rfl
    · exact notOvertaken_of_none_revoked rfl
    · rintro call stage draft - - (⟨signature, hEvent⟩ | hEvent) <;> cases hEvent
    · rintro call stage draft - - (⟨signature, hEvent⟩ | hEvent) <;> cases hEvent

end Seals
end Signet
