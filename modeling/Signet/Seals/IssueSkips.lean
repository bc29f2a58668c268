import Signet.Seals.History
import Signet.Seals.DeltaAgreement
import Signet.Verifier.Payload

/-!
# When an issuance changes nothing

`issue` returns the head of a pair, and publishes nothing, when the delta of the scopes is empty
and `hasInputChanges` finds no other difference between the input the head was made from and the
new one.

* `TracksInputs` — the input kept for a tracked seal is the one its payload was made from.
* `delta_immaterial_iff` — the delta is empty exactly when the lists name the same scopes.
* `hasInputChanges_eq_false_iff` — the fields that the comparison looks at; `bypassed`, which
  `buildSeal` copies like the others, is not one of them.
* `issue_skips_iff` — so an issuance is skipped for the right reason unless the new payload
  differs from the head in `bypassed` alone.
-/

namespace Signet
namespace Seals

open Kit Machine Schemas

/-! ## The inputs of tracked seals -/

/-- A payload made from an input, at some time and under some id. -/
def MadeFrom (input : SealInput) (payload : SealPayload) : Prop :=
  ∃ now sealId, payload = rawPayload now sealId input

/-- The input kept for a tracked seal, or carried by a draft, is the one of its payload. -/
structure TracksInputs (s : SealState) : Prop where
  tracked : ∀ id e, s.maps.sealsById.get id = some e →
    ∃ input, s.maps.inputsBySealId.get id = some input ∧ MadeFrom input e.chain.current
  drafts : ∀ draft, InFlight s draft → MadeFrom draft.input draft.chain.current

variable {s : SealState} {zod : ZodEnv}

theorem tracksInputs_step {s' : SealState} {label : SealLabel} {out : List SealObservation}
    (hAligned : Aligned s) (h : TracksInputs s) (hMove : SealMove zod s label s' out) :
    TracksInputs s' := by
  have hDrafts : ∀ draft, InFlight s' draft → MadeFrom draft.input draft.chain.current := by
    intro draft hFlight
    rcases inFlight_of_move hMove hFlight with hOld | hBuilt
    · exact h.drafts draft hOld
    · obtain ⟨drawnId, -, hBuild⟩ := hBuilt.chain
      exact ⟨label.now, drawnId, (buildSeal_ok hBuild).2.1⟩
  constructor
  · intro id e hGet
    cases hMove with
    | published call draft envelope hCall hEvent =>
      -- the envelope and its input are written under one id
      simp only [endCall, track, AssocMap.get_set] at hGet ⊢
      by_cases hId : id = sealIdOf envelope
      · rw [if_pos hId] at hGet ⊢
        cases hGet
        refine ⟨draft.input, rfl, ?_⟩
        rw [hAligned.signed call draft e hCall]
        exact h.drafts draft ⟨call, _, hCall, rfl⟩
      · rw [if_neg hId] at hGet ⊢
        exact h.tracked id e hGet
    | _ => exact h.tracked id e hGet
  · exact hDrafts

theorem tracksInputs_run {h : List SealOccurrence} (hRun : (sealMachine zod).Runs h s)
    (hProper : AllMeet Proper h) :
    TracksInputs s := by
  have hInit : TracksInputs (sealMachine zod).init := by
    constructor
    · intro id e hGet
      cases hGet
    · rintro draft ⟨call, stage, hGet, -⟩
      cases hGet
  refine hRun.guarded hProper hInit ?_
  intro h s label s' out hRun hMeets hTracks hNow hStep
  exact tracksInputs_step (aligned_run hRun fun o ho => (hMeets o ho).1) hTracks
    (sealStep_move hStep)

/-! ## What the two comparisons see -/

/-- Two lists name the same elements, in whatever order and however often. -/
def SameScopes (l l' : List PermissionScope) : Prop := ∀ scope, scope ∈ l ↔ scope ∈ l'

/-- Two provenance maps read the same under every key. -/
def SameProvenance (map map' : Option (AssocMap String ClaimProvenanceRecord)) : Prop :=
  map.map AssocMap.get = map'.map AssocMap.get

/-- A scope that is in none of the three buckets is on the same lists as before. -/
theorem lists_agree {nowAllow wasAllow nowDeny wasDeny : Prop}
    (hNotAdded : ¬ (nowAllow ∧ ¬ wasAllow ∧ ¬ wasDeny ∨ wasDeny ∧ ¬ nowDeny ∧ ¬ nowAllow))
    (hNotRemoved : ¬ (wasAllow ∧ ¬ nowAllow ∧ ¬ nowDeny ∨ nowDeny ∧ ¬ wasDeny ∧ ¬ wasAllow))
    (hNotAllowed : ¬ (nowAllow ∧ ¬ wasAllow ∧ wasDeny ∨
      wasDeny ∧ ¬ nowDeny ∧ wasAllow ∧ nowAllow))
    (hNotDenied : ¬ (wasAllow ∧ ¬ nowAllow ∧ nowDeny ∨
      nowDeny ∧ ¬ wasDeny ∧ wasAllow ∧ nowAllow)) :
    (nowAllow ↔ wasAllow) ∧ (nowDeny ↔ wasDeny) := by
  by_cases hNow : nowAllow
  · by_cases hWas : wasAllow
    · simp only [hNow, hWas, true_and, and_true, not_true_eq_false]
        at hNotAllowed hNotDenied ⊢
      grind
    · simp only [hNow, hWas, true_and, not_false_eq_true] at hNotAdded hNotAllowed
      grind
  · by_cases hWas : wasAllow
    · simp only [hNow, hWas, true_and, not_false_eq_true] at hNotRemoved hNotDenied
      grind
    · simp only [hNow, hWas, false_and, and_true, not_false_eq_true, false_or, iff_self, true_and]
        at hNotAdded hNotRemoved ⊢
      grind

/-- Any scope that leaves or joins one of the four lists is in the delta. -/
theorem delta_immaterial_iff (previous next : SealPayload) :
    isMaterialChange (computePayloadDelta previous next) = false ↔
      SameScopes next.permissions.allow previous.permissions.allow ∧
        SameScopes next.permissions.deny previous.permissions.deny := by
  have hEmpty : isMaterialChange (computePayloadDelta previous next) = false ↔
      (∀ scope, scope ∉ (computePayloadDelta previous next).added) ∧
        (∀ scope, scope ∉ (computePayloadDelta previous next).removed) ∧
        ∀ change, change ∉ (computePayloadDelta previous next).changed := by
    unfold isMaterialChange
    rw [Bool.or_eq_false_iff, Bool.or_eq_false_iff, and_assoc]
    simp [List.eq_nil_iff_forall_not_mem]
  rw [hEmpty]
  simp only [mem_added, mem_removed, mem_changed]
  unfold SameScopes
  constructor
  · rintro ⟨hAdded, hRemoved, hChanged⟩
    have hScope : ∀ scope,
        (scope ∈ next.permissions.allow ↔ scope ∈ previous.permissions.allow) ∧
          (scope ∈ next.permissions.deny ↔ scope ∈ previous.permissions.deny) := by
      intro scope
      have hNotAdded := hAdded scope
      have hNotRemoved := hRemoved scope
      have hNotAllowed := hChanged ⟨scope, .deny, .allow⟩
      have hNotDenied := hChanged ⟨scope, .allow, .deny⟩
      simp only [true_and, reduceCtorEq, false_and, or_false, false_or] at hNotAllowed hNotDenied
      exact lists_agree hNotAdded hNotRemoved hNotAllowed hNotDenied
    exact ⟨fun scope => (hScope scope).1, fun scope => (hScope scope).2⟩
  · rintro ⟨hAllow, hDeny⟩
    constructor
    · intro scope
      rw [hAllow scope, hDeny scope]
      rintro (⟨hIn, hOut, -⟩ | ⟨hIn, hOut, -⟩)
      · exact hOut hIn
      · exact hOut hIn
    constructor
    · intro scope
      rw [hAllow scope, hDeny scope]
      rintro (⟨hIn, hOut, -⟩ | ⟨hIn, hOut, -⟩)
      · exact hOut hIn
      · exact hOut hIn
    · intro change
      rw [hAllow change.scope, hDeny change.scope]
      rintro (⟨-, -, ⟨hIn, hOut, -⟩ | ⟨hIn, hOut, -⟩⟩ | ⟨-, -, ⟨hIn, hOut, -⟩ | ⟨hIn, hOut, -⟩⟩)
      · exact hOut hIn
      · exact hOut hIn
      · exact hOut hIn
      · exact hOut hIn

/-- The text of an object is not the text of `undefined`. -/
theorem stringify_ne_empty (value : Json) (hObject : ∃ members, value = .object members) :
    (sortKeys value).stringify ≠ "" := by
  obtain ⟨members, rfl⟩ := hObject
  intro hEq
  have hLength := congrArg String.length hEq
  simp [sortKeys, Json.stringify, String.length_append] at hLength

/-- Optional metadata has one canonical text when it has one form with sorted keys. -/
theorem stableSerialize_eq_iff {α : Type} {toJson : α → Json}
    (hObject : ∀ a, ∃ members, toJson a = .object members) {a b : Option α} :
    stableSerialize (a.map toJson) = stableSerialize (b.map toJson) ↔
      a.map (fun x => sortKeys (toJson x)) = b.map fun x => sortKeys (toJson x) := by
  cases a with
  | none =>
    cases b with
    | none => simp
    | some b =>
      have hText := stringify_ne_empty (toJson b) (hObject b)
      simpa [stableSerialize] using hText.symm
  | some a =>
    cases b with
    | none =>
      have hText := stringify_ne_empty (toJson a) (hObject a)
      simpa [stableSerialize] using hText
    | some b =>
      simp only [stableSerialize, Option.map_some, Option.some.injEq]
      constructor
      · exact Json.stringify_injective
      · exact congrArg Json.stringify

theorem stableSerialize_eq_iff_eq {α : Type} {toJson : α → Json}
    (hObject : ∀ a, ∃ members, toJson a = .object members)
    (hInjective : ∀ a b, sortKeys (toJson a) = sortKeys (toJson b) → a = b) {a b : Option α} :
    stableSerialize (a.map toJson) = stableSerialize (b.map toJson) ↔ a = b := by
  rw [stableSerialize_eq_iff hObject]
  constructor
  · intro hEq
    exact Option.map_injective (fun x y => hInjective x y) hEq
  · rintro rfl
    rfl

theorem stableSerialize_provenanceMap_eq_iff
    {a b : Option (AssocMap String ClaimProvenanceRecord)} :
    stableSerialize (a.map provenanceMapJson) = stableSerialize (b.map provenanceMapJson) ↔
      SameProvenance a b := by
  have hObject : ∀ map, ∃ members, provenanceMapJson map = .object members :=
    fun map => ⟨_, rfl⟩
  rw [stableSerialize_eq_iff hObject]
  unfold SameProvenance
  cases a with
  | none => cases b <;> simp
  | some a =>
    cases b with
    | none => simp
    | some b =>
      simp only [Option.map_some, Option.some.injEq]
      constructor
      · exact fun hEq => funext (Verifier.provenanceMapJson_injective hEq)
      · exact fun hEq => Verifier.sortKeys_provenanceMapJson (congrFun hEq)

/-- **The fields `hasInputChanges` looks at.**  All that `buildSeal` copies are there, besides the
permissions, which the delta is for, and `bypassed`. -/
theorem hasInputChanges_eq_false_iff {previous next : SealInput} :
    hasInputChanges previous next = false ↔
      previous.credentialId = next.credentialId ∧ previous.operatorId = next.operatorId ∧
        previous.chatId = next.chatId ∧ previous.scopeMode = next.scopeMode ∧
        previous.adminAccess = next.adminAccess ∧ previous.trustTier = next.trustTier ∧
        previous.operatorDisclosures = next.operatorDisclosures ∧
        SameProvenance previous.provenanceMap next.provenanceMap := by
  have hAdmin := @stableSerialize_eq_iff_eq _ adminAccessJson (fun access => ⟨_, rfl⟩)
    Verifier.adminAccessJson_injective previous.adminAccess next.adminAccess
  have hDisclosures := @stableSerialize_eq_iff_eq _ operatorDisclosuresJson
    (fun disclosures => ⟨_, rfl⟩) Verifier.operatorDisclosuresJson_injective
    previous.operatorDisclosures next.operatorDisclosures
  have hProvenance := @stableSerialize_provenanceMap_eq_iff previous.provenanceMap
    next.provenanceMap
  unfold hasInputChanges
  simp only [Bool.or_eq_false_iff, bne_eq_false_iff_eq, decide_eq_false_iff_not, ne_eq, not_not,
    hAdmin, hDisclosures, hProvenance, and_assoc]

/-! ## Skipping -/

/-- A payload says what the input says, apart from `bypassed`. -/
structure SaysBesidesBypassed (input : SealInput) (payload : SealPayload) : Prop where
  credentialId : input.credentialId = payload.credentialId
  operatorId : input.operatorId = payload.operatorId
  chatId : input.chatId = payload.chatId
  scopeMode : input.scopeMode = payload.scopeMode
  allow : SameScopes input.permissions.allow payload.permissions.allow
  deny : SameScopes input.permissions.deny payload.permissions.deny
  adminAccess : input.adminAccess = payload.adminAccess
  trustTier : input.trustTier = payload.trustTier
  operatorDisclosures : input.operatorDisclosures = payload.operatorDisclosures
  provenanceMap : SameProvenance input.provenanceMap payload.provenanceMap

/-- Two payloads are equal in every field other than the id and the time, up to order and
duplication of the scopes. -/
structure SameDisclosure (p q : SealPayload) : Prop where
  credentialId : p.credentialId = q.credentialId
  operatorId : p.operatorId = q.operatorId
  chatId : p.chatId = q.chatId
  scopeMode : p.scopeMode = q.scopeMode
  allow : SameScopes p.permissions.allow q.permissions.allow
  deny : SameScopes p.permissions.deny q.permissions.deny
  adminAccess : p.adminAccess = q.adminAccess
  bypassed : p.bypassed = q.bypassed
  trustTier : p.trustTier = q.trustTier
  operatorDisclosures : p.operatorDisclosures = q.operatorDisclosures
  provenanceMap : SameProvenance p.provenanceMap q.provenanceMap

theorem sameDisclosure_rawPayload_iff {now : Int} {sealId : String} {input : SealInput}
    {payload : SealPayload} :
    SameDisclosure (rawPayload now sealId input) payload ↔
      SaysBesidesBypassed input payload ∧ input.bypassed = payload.bypassed := by
  constructor
  · intro h
    exact ⟨⟨h.credentialId, h.operatorId, h.chatId, h.scopeMode, h.allow, h.deny, h.adminAccess,
      h.trustTier, h.operatorDisclosures, h.provenanceMap⟩, h.bypassed⟩
  · rintro ⟨h, hBypassed⟩
    exact ⟨h.credentialId, h.operatorId, h.chatId, h.scopeMode, h.allow, h.deny, h.adminAccess,
      hBypassed, h.trustTier, h.operatorDisclosures, h.provenanceMap⟩

/-- The materiality check of `issue`, for a head that is tracked with its input. -/
theorem isImmaterial_iff {maps : SealMaps} {head : SealEnvelope} {previousInput : SealInput}
    (hInput : maps.inputsBySealId.get (sealIdOf head) = some previousInput)
    (hMade : MadeFrom previousInput head.chain.current) (input : SealInput) :
    isImmaterial maps head input = true ↔ SaysBesidesBypassed input head.chain.current := by
  obtain ⟨issuedAt, sealId, hPayload⟩ := hMade
  unfold isImmaterial
  simp only [hInput, Bool.and_eq_true, Bool.not_eq_true', delta_immaterial_iff,
    hasInputChanges_eq_false_iff]
  rw [hPayload]
  constructor
  · rintro ⟨⟨hAllow, hDeny⟩, hCredential, hOperator, hChat, hMode, hAdmin, hTier, hDisclosures,
      hProvenance⟩
    exact ⟨hCredential.symm, hOperator.symm, hChat.symm, hMode.symm, hAllow, hDeny, hAdmin.symm,
      hTier.symm, hDisclosures.symm, hProvenance.symm⟩
  · intro h
    exact ⟨⟨h.allow, h.deny⟩, h.credentialId.symm, h.operatorId.symm, h.chatId.symm,
      h.scopeMode.symm, h.adminAccess.symm, h.trustTier.symm, h.operatorDisclosures.symm,
      h.provenanceMap.symm⟩

/-- With its input resolved, `issue` returns the head and ends without a call of the publisher. -/
def ReturnsHead (zod : ZodEnv) (s : SealState) (call : Nat) (now : Int) (input : SealInput)
    (drawnId : String) (head : SealEnvelope) : Prop :=
  sealStep zod s ⟨now, .inputResolved call (.ok input) drawnId⟩ =
    some (endCall s call, [.returned call (.ok head)])

theorem returnsHead_iff {call : Nat} {credentialId chatId : String}
    (hCall : s.calls.get call = some (.resolving credentialId chatId)) {input : SealInput}
    {head : SealEnvelope} (hLive : chainKey input.credentialId chatId ∉ s.maps.revokedPairs)
    (hHead : s.maps.currentSeals.get (chainKey input.credentialId chatId) = some head) (now : Int)
    (drawnId : String) :
    ReturnsHead zod s call now input drawnId head ↔ isImmaterial s.maps head input = true := by
  unfold ReturnsHead sealStep
  simp only [hCall, onInputResolved, issueWithInput, if_neg hLive, hHead]
  by_cases hImmaterial : isImmaterial s.maps head input = true
  · simp [Option.filter, hImmaterial]
  · -- a build that fails returns its error, and one that succeeds goes to the signer
    simp only [Option.filter, hImmaterial, if_false, Bool.false_eq_true, Option.map_some, iff_false]
    cases buildSeal zod now drawnId input (some head.chain.current) with
    | error error => simp [Except.map]
    | ok chain => simp [Except.map]

/-- **An issuance is skipped exactly when the disclosure stays the same, unless it would change in
`bypassed` alone.** -/
theorem issue_skips_iff (zod : ZodEnv) {h : List SealOccurrence} {s : SealState}
    (hRun : (sealMachine zod).Runs h s) (hProper : AllMeet Proper h)
    (hSequential : AllMeet Sequential h) {call : Nat} {credentialId chatId : String}
    (hCall : s.calls.get call = some (.resolving credentialId chatId)) {head : SealEnvelope}
    (hHead : current s.maps credentialId chatId = some head) {input : SealInput}
    (hPair : input.credentialId = credentialId ∧ input.chatId = chatId) {now : Int}
    {drawnId : String} {chain : SealChain}
    (hBuild : buildSeal zod now drawnId input (some head.chain.current) = .ok chain) :
    (ReturnsHead zod s call now input drawnId head ↔
      SameDisclosure chain.current head.chain.current) ↔
    (SaysBesidesBypassed input head.chain.current →
      input.bypassed = head.chain.current.bypassed) := by
  obtain ⟨rfl, rfl⟩ := hPair
  have hLinked := linked_run hRun hProper
  have hChain := chainOf_sequential hRun hProper hSequential
  -- a revoked pair has no head
  have hLive : chainKey input.credentialId input.chatId ∉ s.maps.revokedPairs := by
    intro hRevoked
    have hNone := hChain.head (chainKey input.credentialId input.chatId)
    rw [if_pos hRevoked] at hNone
    rw [current, hNone] at hHead
    cases hHead
  obtain ⟨previousInput, hInput, hMade⟩ :=
    (tracksInputs_run hRun hProper).tracked _ head (hLinked.heads _ head hHead)
  rw [returnsHead_iff hCall hLive hHead, isImmaterial_iff hInput hMade,
    (buildSeal_ok hBuild).2.1, sameDisclosure_rawPayload_iff]
  constructor
  · intro hExact hSays
    exact (hExact.mp hSays).2
  · intro hBypassed
    constructor
    · exact fun hSays => ⟨hSays, hBypassed hSays⟩
    · exact fun hSame => hSame.1

/-! ## A second issuance of the first seal's pair -/

/-- The first seal, and then an issuance of its pair that awaits its input. -/
def reissueHistory : List SealOccurrence :=
  firstSealHistory ++
    [⟨firstSealStates 4, ⟨10, .issue 2 sampleInput.credentialId sampleInput.chatId⟩, []⟩]

/-- The state in which the issuance awaits its input. -/
def reissuing : SealState :=
  await (firstSealStates 4) 2 (.resolving sampleInput.credentialId sampleInput.chatId)

theorem reissue_runs (zod : ZodEnv) : (sealMachine zod).Runs reissueHistory reissuing :=
  (runs_of_exec (firstSeal_exec zod)).step
    (show _ = some (reissuing, ([] : List SealObservation)) from rfl)

theorem reissue_proper : AllMeet Proper reissueHistory := by
  unfold reissueHistory
  rw [allMeet_snoc]
  constructor
  · exact firstSeal_proper
  · constructor
    · intro call input drawnId credentialId chatId hEvent
      cases hEvent
    · intro id hDrawn
      cases hDrawn

theorem reissue_sequential : AllMeet Sequential reissueHistory := by
  intro o ho hStarts call
  simp only [reissueHistory, firstSealHistory, List.cons_append, List.nil_append,
    List.mem_cons, List.not_mem_nil, or_false] at ho
  rcases ho with rfl | rfl | rfl | rfl | rfl
  · rfl
  · cases hStarts
  · cases hStarts
  · cases hStarts
  · rfl

def firstHead : SealEnvelope := firstDraft.envelope sampleSignature

/-- The sample input of an operator that has become a bypassed one. -/
def bypassedInput : SealInput := { sampleInput with bypassed := true }

/-- The head still says that nothing is bypassed, and is returned all the same. -/
theorem bypassed_change_is_skipped :
    ¬ ∀ (zod : ZodEnv) (h : List SealOccurrence) (s : SealState), (sealMachine zod).Runs h s →
      AllMeet Proper h → AllMeet Sequential h →
      ∀ (call : Nat) (credentialId chatId : String) (head : SealEnvelope) (input : SealInput),
        s.calls.get call = some (.resolving credentialId chatId) →
        current s.maps credentialId chatId = some head →
        input.credentialId = credentialId ∧ input.chatId = chatId →
        ∀ (now : Int) (drawnId : String) (chain : SealChain),
          buildSeal zod now drawnId input (some head.chain.current) = .ok chain →
          (ReturnsHead zod s call now input drawnId head ↔
            SameDisclosure chain.current head.chain.current) := by
  intro hLaw
  have hBuild : buildSeal sampleZod 11 "seal_00000000000000bb" bypassedInput
      (some firstHead.chain.current) =
        .ok ⟨rawPayload 11 "seal_00000000000000bb" bypassedInput, some firstHead.chain.current,
          .empty⟩ := rfl
  have hReturns : ReturnsHead sampleZod reissuing 2 11 bypassedInput "seal_00000000000000bb"
      firstHead := rfl
  have hSame := (hLaw sampleZod reissueHistory reissuing (reissue_runs sampleZod) reissue_proper
    reissue_sequential 2 sampleInput.credentialId sampleInput.chatId firstHead bypassedInput rfl
    rfl ⟨rfl, rfl⟩ 11 "seal_00000000000000bb" _ hBuild).mp hReturns
  exact absurd hSame.bypassed (by decide)

/-- The sample input with its scope listed twice. -/
def repeatedInput : SealInput := { sampleInput with permissions := ⟨[.send, .send], []⟩ }

/-- Listing a scope twice changes nothing, and the issuance is skipped. -/
theorem issue_skips_iff_sample :
    ReturnsHead sampleZod reissuing 2 11 repeatedInput "seal_00000000000000bb" firstHead ↔
      SameDisclosure (rawPayload 11 "seal_00000000000000bb" repeatedInput)
        firstHead.chain.current := by
  have hBuild : buildSeal sampleZod 11 "seal_00000000000000bb" repeatedInput
      (some firstHead.chain.current) =
        .ok ⟨rawPayload 11 "seal_00000000000000bb" repeatedInput, some firstHead.chain.current,
          .empty⟩ := rfl
  have hPair : repeatedInput.credentialId = sampleInput.credentialId ∧
      repeatedInput.chatId = sampleInput.chatId := ⟨rfl, rfl⟩
  exact (issue_skips_iff sampleZod (reissue_runs sampleZod) reissue_proper reissue_sequential
    (show reissuing.calls.get 2 = some (.resolving sampleInput.credentialId sampleInput.chatId)
      from rfl) (show current reissuing.maps _ _ = some firstHead from rfl) hPair
    hBuild).mpr fun _ => rfl

end Seals
end Signet
