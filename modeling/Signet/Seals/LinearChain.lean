import Signet.Seals.ChainInvariant

/-!
# Linearity of the seal chain

`issue` and `refresh` read the head of the pair, await the signer and the
publisher, and then overwrite the head.  Two calls of a pair that overlap there
continue the same head, and the chain forks.

* `LinearHistory` — no published seal has two successors, a pair has at most one
  first seal, and its current seal is the one without a successor.
* `linear_history_iff` — along every run of `issue` and `refresh` this is so exactly
  when each draft is published while the head it continues is still the head.
-/

namespace Signet
namespace Seals

open Kit Machine Schemas

/-- The published seals of each pair form a linear chain that ends in its current
seal. -/
structure LinearHistory (h : List SealOccurrence) (s : SealState) : Prop where
  oneSuccessor : (publishedSeals h).Pairwise fun a b =>
    ∀ id, previousId a = some id → previousId b ≠ some id
  oneFirst : (publishedSeals h).Pairwise fun a b =>
    SamePair a.chain.current b.chain.current →
      ¬ (a.chain.previous = none ∧ b.chain.previous = none)
  /-- The current seal of a pair is the one that no published seal names. -/
  current : ∀ credentialId chatId e, current s.maps credentialId chatId = some e ↔
    e ∈ publishedSeals h ∧ e.chain.current.credentialId = credentialId ∧
      e.chain.current.chatId = chatId ∧
      ∀ b ∈ publishedSeals h, previousId b ≠ some (sealIdOf e)

/-- The event starts a revocation. -/
def SealEvent.isRevoke : SealEvent → Bool
  | .revoke .. => true
  | _ => false

/-- The step belongs to `issue` or `refresh`, with a faithful resolver and a fresh
seal id. -/
def IssueOrRefresh (s : SealState) (label : SealLabel) : Prop :=
  Proper s label ∧ label.event.isRevoke = false

/-! ## No revocations -/

/-- No pair is revoked, and no revocation is in flight. -/
structure Unrevoked (s : SealState) : Prop where
  none : s.maps.revokedPairs = .empty
  signing : ∀ call current revocation,
    s.calls.get call ≠ some (.signingRevocation current revocation)
  publishing : ∀ call current, s.calls.get call ≠ some (.publishingRevocation current)

variable {h : List SealOccurrence} {s : SealState} {zod : ZodEnv}

theorem unrevoked_step {s' : SealState} {label : SealLabel} {out : List SealObservation}
    (h : Unrevoked s) (hOnly : IssueOrRefresh s label) (hMove : SealMove zod s label s' out) :
    Unrevoked s' := by
  refine ⟨?_, ?_, ?_⟩
  · cases hMove with
    | revoked call current hCall hEvent => exact (h.publishing call current hCall).elim
    | _ => exact h.none
  · intro call current revocation hGet
    rcases stage_of_move hMove hGet with hOld | hEntered
    · exact h.signing call current revocation hOld
    · cases hEntered with
      | signingRevocation sealId drawnId reason _ _ hEvent =>
        have hRevoke := hOnly.2
        rw [hEvent] at hRevoke
        cases hRevoke
  · intro call current hGet
    rcases stage_of_move hMove hGet with hOld | hEntered
    · exact h.publishing call current hOld
    · cases hEntered with
      | publishingRevocation _ revocation hCall => exact h.signing call current revocation hCall

theorem unrevoked_run (hRun : (sealMachine zod).Runs h s)
    (hOnly : AllMeet IssueOrRefresh h) :
    Unrevoked s := by
  have hInit : Unrevoked (sealMachine zod).init := by
    refine ⟨rfl, ?_, ?_⟩
    · intro call current revocation hGet
      cases hGet
    · intro call current hGet
      cases hGet
  refine hRun.guarded hOnly hInit ?_
  intro h s label s' out _ _ hUnrevoked hNow hStep
  exact unrevoked_step hUnrevoked hNow (sealStep_move hStep)

theorem publishedUnrevoked_of_unrevoked (h : Unrevoked s) (label : SealLabel) :
    PublishedUnrevoked s label := by
  intro call draft envelope _ _
  rw [h.none]
  exact OrderedSet.not_mem_empty _

/-- If every draft is published under the head it continues, the chains are
lineages. -/
theorem chainOf_run (hRun : (sealMachine zod).Runs h s) (hOnly : AllMeet IssueOrRefresh h)
    (hHead : AllMeet HeadUnchanged h) : ChainOf s := by
  induction hRun with
  | start => exact chainOf_init zod
  | @step h s s' label out hRun hStep ih =>
    rw [allMeet_snoc] at hOnly hHead
    have hAligned := aligned_run hRun fun o ho => (hOnly.1 o ho).1.1
    have hLinked := linked_run hRun fun o ho => (hOnly.1 o ho).1
    have hLive := publishedUnrevoked_of_unrevoked (unrevoked_run hRun hOnly.1) label
    exact chainOf_step hAligned hLinked (ih hOnly.1 hHead.1) hHead.2 hLive
      (sealStep_move hStep)

/-! ## The two directions -/

/-- Two published seals of one pair name different predecessors. -/
theorem unforked_of_chainOf (hLinked : Linked s) (hChain : ChainOf s)
    (hValues : s.maps.sealsById.values = publishedSeals h) {a b : SealEnvelope}
    (hSub : List.Sublist [a, b] (publishedSeals h))
    (hKeys : payloadKey a.chain.current = payloadKey b.chain.current) :
    previousId a ≠ previousId b := by
  have hPair := (hChain.lineage (payloadKey b.chain.current)).unforked
    (nodup_pairSeals hLinked _)
  unfold Unforked pairSeals at hPair
  rw [List.pairwise_filter, hValues, List.pairwise_iff_forall_sublist] at hPair
  exact hPair hSub (by simpa using hKeys) (by simp)

theorem named_of_published (hLinked : Linked s)
    (hValues : s.maps.sealsById.values = publishedSeals h) {b : SealEnvelope}
    (hb : b ∈ publishedSeals h) {id : String} (hNames : previousId b = some id) :
    ∃ a, s.maps.sealsById.get id = some a ∧
      payloadKey a.chain.current = payloadKey b.chain.current := by
  rw [← hValues] at hb
  obtain ⟨key, hGet⟩ := AssocMap.mem_values.mp hb
  obtain ⟨a, ha, rfl, -⟩ := namesTracked_mem hLinked (hLinked.tracked key b hGet) hNames
  obtain ⟨⟨id, hTracked⟩, hKey⟩ := mem_pairSeals.mp ha
  have hId := hLinked.keyed id a hTracked
  exact ⟨a, by rw [hId]; exact hTracked, hKey⟩

theorem linearHistory_of_chainOf (hAligned : Aligned s) (hLinked : Linked s)
    (hUnrevoked : Unrevoked s) (hChain : ChainOf s)
    (hValues : s.maps.sealsById.values = publishedSeals h) : LinearHistory h s := by
  refine ⟨?_, ?_, ?_⟩
  · rw [List.pairwise_iff_forall_sublist]
    intro a b hSub id hNamesA hNamesB
    have ha : a ∈ publishedSeals h := hSub.subset (by simp)
    have hb : b ∈ publishedSeals h := hSub.subset (by simp)
    obtain ⟨c, hGet, hKeyA⟩ := named_of_published hLinked hValues ha hNamesA
    obtain ⟨c', hGet', hKeyB⟩ := named_of_published hLinked hValues hb hNamesB
    rw [hGet, Option.some.injEq] at hGet'
    subst hGet'
    exact unforked_of_chainOf hLinked hChain hValues hSub (hKeyA.symm.trans hKeyB)
      (hNamesA.trans hNamesB.symm)
  · rw [List.pairwise_iff_forall_sublist]
    intro a b hSub hSame hBoth
    have hKeys : payloadKey a.chain.current = payloadKey b.chain.current := by
      rw [payloadKey, payloadKey, hSame.1, hSame.2]
    have hFirst : previousId a = previousId b := by
      rw [previousId, previousId, hBoth.1, hBoth.2]
    exact unforked_of_chainOf hLinked hChain hValues hSub hKeys hFirst
  · intro credentialId chatId e
    have hHead : Seals.current s.maps credentialId chatId =
        (pairSeals s (chainKey credentialId chatId)).getLast? := by
      have hEq := hChain.head (chainKey credentialId chatId)
      rw [hUnrevoked.none, if_neg (OrderedSet.not_mem_empty _)] at hEq
      exact hEq
    have hPublished : ∀ a : SealEnvelope, a ∈ publishedSeals h ↔
        ∃ id, s.maps.sealsById.get id = some a := by
      intro a
      rw [← hValues]
      exact AssocMap.mem_values
    rw [hHead, lineage_last_iff (hChain.lineage _) (nodup_pairSeals hLinked _)]
    constructor
    · rintro ⟨hMem, hFree⟩
      obtain ⟨⟨id, hGet⟩, hKey⟩ := mem_pairSeals.mp hMem
      obtain ⟨hCredential, hChat⟩ :=
        (payloadKey_eq_chainKey_iff (hAligned.tracked id e hGet)).mp hKey
      refine ⟨(hPublished e).mpr ⟨id, hGet⟩, hCredential, hChat, ?_⟩
      intro b hb hNames
      -- a seal that names `e` would be of the same pair
      obtain ⟨a, hGetA, hKeyA⟩ := named_of_published hLinked hValues hb hNames
      have hId := hLinked.keyed id e hGet
      rw [hId, hGet, Option.some.injEq] at hGetA
      subst hGetA
      have hMemB : b ∈ pairSeals s (chainKey credentialId chatId) :=
        mem_pairSeals.mpr ⟨(hPublished b).mp hb, hKeyA.symm.trans hKey⟩
      exact hFree b hMemB hNames
    · rintro ⟨hMem, hCredential, hChat, hFree⟩
      refine ⟨mem_pairSeals.mpr ⟨(hPublished e).mp hMem, ?_⟩, ?_⟩
      · rw [payloadKey, hCredential, hChat]
      · intro b hb
        exact hFree b ((hPublished b).mpr (mem_pairSeals.mp hb).1)

/-- In a run whose published seals do not fork, every draft was published under the
head it continues. -/
theorem headUnchanged_of_unforked (hRun : (sealMachine zod).Runs h s)
    (hOnly : AllMeet IssueOrRefresh h) (hSuccessor : (publishedSeals h).Pairwise fun a b =>
      ∀ id, previousId a = some id → previousId b ≠ some id)
    (hFirst : (publishedSeals h).Pairwise fun a b =>
      SamePair a.chain.current b.chain.current →
        ¬ (a.chain.previous = none ∧ b.chain.previous = none)) :
    AllMeet HeadUnchanged h := by
  induction hRun with
  | start => exact allMeet_nil _
  | @step h s s' label out hRun hStep ih =>
    rw [publishedSeals_snoc, List.pairwise_append] at hSuccessor hFirst
    rw [allMeet_snoc] at hOnly ⊢
    have hBefore := ih hOnly.1 hSuccessor.1 hFirst.1
    refine ⟨hBefore, ?_⟩
    intro call draft envelope hCall hEvent
    have hAligned := aligned_run hRun fun o ho => (hOnly.1 o ho).1.1
    have hLinked := linked_run hRun fun o ho => (hOnly.1 o ho).1
    have hChain := chainOf_run hRun hOnly.1 hBefore
    have hValues := values_run hRun fun o ho => (hOnly.1 o ho).1
    have hFlight : InFlight s draft := ⟨call, _, hCall, rfl⟩
    have hSame := hAligned.signed call draft envelope hCall
    have hKey : draft.key = payloadKey envelope.chain.current := by
      rw [(hAligned.drafts draft hFlight).key, hSame]
    have hOut : out.filterMap SealObservation.tracked = [envelope] := by
      obtain ⟨now, event⟩ := label
      cases hEvent
      simp only [sealMachine, sealStep, hCall, Option.bind_some, onPublished] at hStep
      cases hStep
      rfl
    rw [hOut] at hSuccessor hFirst
    have hKnown : ∀ id, previousId envelope = some id →
        ∃ a ∈ pairSeals s draft.key, sealIdOf a = id := by
      intro id hNames
      rw [previousId, hSame] at hNames
      obtain ⟨a, ha, hId, -⟩ := namesTracked_mem hLinked (hLinked.drafts draft hFlight) hNames
      exact ⟨a, ha, hId⟩
    have hUnforked : Unforked previousId (pairSeals s draft.key ++ [envelope]) := by
      refine List.pairwise_append.mpr ⟨?_, List.pairwise_singleton _ _, ?_⟩
      · exact (hChain.lineage draft.key).unforked (nodup_pairSeals hLinked _)
      · intro a ha b hb hEq
        rw [List.mem_singleton] at hb
        subst hb
        obtain ⟨⟨id, hGet⟩, hKeyA⟩ := mem_pairSeals.mp ha
        have hMem : a ∈ publishedSeals h := by
          rw [← hValues]
          exact AssocMap.mem_values.mpr ⟨id, hGet⟩
        cases hNames : previousId a with
        | some k =>
          exact hSuccessor.2.2 a hMem b (by simp) k hNames (hEq.symm.trans hNames)
        | none =>
          have hPair : SamePair a.chain.current b.chain.current :=
            (samePair_iff (hAligned.tracked id a hGet)).mp (hKeyA.trans hKey)
          exact hFirst.2.2 a hMem b (by simp) hPair
            ⟨Option.map_eq_none_iff.mp hNames,
              Option.map_eq_none_iff.mp (hEq.symm.trans hNames)⟩
    have hParent := (lineage_snoc_iff.mp
      (lineage_snoc_of_unforked (hChain.lineage draft.key) hKnown hUnforked)).2
    have hHead := hChain.head draft.key
    rw [(unrevoked_run hRun hOnly.1).none, if_neg (OrderedSet.not_mem_empty _)] at hHead
    rw [hHead, hParent]

/-- **The seal chain of `issue` and `refresh` is linear exactly when each draft is
published under the head it continues.** -/
theorem linear_history_iff (zod : ZodEnv) {h : List SealOccurrence} {s : SealState}
    (hRun : (sealMachine zod).Runs h s) (hOnly : AllMeet IssueOrRefresh h) :
    LinearHistory h s ↔ AllMeet HeadUnchanged h := by
  constructor
  · intro hLinear
    exact headUnchanged_of_unforked hRun hOnly hLinear.oneSuccessor hLinear.oneFirst
  · intro hHead
    have hAligned := aligned_run hRun fun o ho => (hOnly o ho).1.1
    have hLinked := linked_run hRun fun o ho => (hOnly o ho).1
    have hValues := values_run hRun fun o ho => (hOnly o ho).1
    exact linearHistory_of_chainOf hAligned hLinked (unrevoked_run hRun hOnly)
      (chainOf_run hRun hOnly hHead) hValues

/-! ## Two issuances that overlap, and two seals in turn -/

def secondDraft : Draft := sampleDraft 0 "seal_00000000000000bb" none

/-- Two issuances of a pair resolve their input before either is published. -/
def overlappingIssues : List SealLabel :=
  [⟨0, .issue 1 sampleInput.credentialId sampleInput.chatId⟩,
    ⟨0, .issue 2 sampleInput.credentialId sampleInput.chatId⟩,
    ⟨0, .inputResolved 1 (.ok sampleInput) "seal_00000000000000aa"⟩,
    ⟨0, .inputResolved 2 (.ok sampleInput) "seal_00000000000000bb"⟩,
    ⟨1, .signed 1 (.ok sampleSignature)⟩, ⟨1, .signed 2 (.ok sampleSignature)⟩,
    ⟨2, .published 1 (.ok ())⟩, ⟨2, .published 2 (.ok ())⟩]

/-- Two calls in flight at the given stages. -/
def twoCalls (maps : SealMaps) (first second : SealStage) : SealState :=
  await (await ⟨maps, .empty⟩ 1 first) 2 second

def overlappingStates : Nat → SealState
  | 0 => ⟨.empty, .empty⟩
  | 1 => await ⟨.empty, .empty⟩ 1 (.resolving sampleInput.credentialId sampleInput.chatId)
  | 2 => twoCalls .empty (.resolving sampleInput.credentialId sampleInput.chatId)
      (.resolving sampleInput.credentialId sampleInput.chatId)
  | 3 => twoCalls .empty (.signing firstDraft)
      (.resolving sampleInput.credentialId sampleInput.chatId)
  | 4 => twoCalls .empty (.signing firstDraft) (.signing secondDraft)
  | 5 => twoCalls .empty (.publishing firstDraft (firstDraft.envelope sampleSignature))
      (.signing secondDraft)
  | 6 => twoCalls .empty (.publishing firstDraft (firstDraft.envelope sampleSignature))
      (.publishing secondDraft (secondDraft.envelope sampleSignature))
  | 7 => await ⟨firstMaps, .empty⟩ 2
      (.publishing secondDraft (secondDraft.envelope sampleSignature))
  | _ => ⟨track firstMaps secondDraft (secondDraft.envelope sampleSignature), .empty⟩

def overlappingHistory : List SealOccurrence :=
  [⟨overlappingStates 0, ⟨0, .issue 1 sampleInput.credentialId sampleInput.chatId⟩, []⟩,
    ⟨overlappingStates 1, ⟨0, .issue 2 sampleInput.credentialId sampleInput.chatId⟩, []⟩,
    ⟨overlappingStates 2, ⟨0, .inputResolved 1 (.ok sampleInput) "seal_00000000000000aa"⟩, []⟩,
    ⟨overlappingStates 3, ⟨0, .inputResolved 2 (.ok sampleInput) "seal_00000000000000bb"⟩, []⟩,
    ⟨overlappingStates 4, ⟨1, .signed 1 (.ok sampleSignature)⟩,
      [.publishing sampleInput.chatId (firstDraft.envelope sampleSignature)]⟩,
    ⟨overlappingStates 5, ⟨1, .signed 2 (.ok sampleSignature)⟩,
      [.publishing sampleInput.chatId (secondDraft.envelope sampleSignature)]⟩,
    ⟨overlappingStates 6, ⟨2, .published 1 (.ok ())⟩,
      [.published (firstDraft.envelope sampleSignature),
        .returned 1 (.ok (firstDraft.envelope sampleSignature))]⟩,
    ⟨overlappingStates 7, ⟨2, .published 2 (.ok ())⟩,
      [.published (secondDraft.envelope sampleSignature),
        .returned 2 (.ok (secondDraft.envelope sampleSignature))]⟩]

theorem overlapping_exec (zod : ZodEnv) :
    (sealMachine zod).exec (sealMachine zod).init overlappingIssues =
      some (overlappingHistory, overlappingStates 8) := by
  refine exec_cons (show _ = some (overlappingStates 1, _) from rfl) ?_
  refine exec_cons (show _ = some (overlappingStates 2, _) from rfl) ?_
  refine exec_cons (show _ = some (overlappingStates 3, _) from rfl) ?_
  refine exec_cons (show _ = some (overlappingStates 4, _) from rfl) ?_
  refine exec_cons (show _ = some (overlappingStates 5, _) from rfl) ?_
  refine exec_cons (show _ = some (overlappingStates 6, _) from rfl) ?_
  refine exec_cons (show _ = some (overlappingStates 7, _) from rfl) ?_
  exact exec_cons (show _ = some (overlappingStates 8, _) from rfl) rfl

theorem inFlight_twoCalls {maps : SealMaps} {first second : SealStage} {draft : Draft}
    (h : InFlight (twoCalls maps first second) draft) :
    first.draft = some draft ∨ second.draft = some draft := by
  rcases inFlight_await h with hOld | hNew
  · rcases inFlight_await hOld with hIdle | hFirst
    · exact (not_inFlight_of_idle rfl draft hIdle).elim
    · exact .inl hFirst
  · exact .inr hNew

/-- A step that starts an issuance or goes on with a call asks nothing of the
resolver and the ids. -/
def SealEvent.isPlain : SealEvent → Bool
  | .issue .. | .signed .. | .published .. => true
  | _ => false

theorem issueOrRefresh_of_plain {label : SealLabel} (h : label.event.isPlain = true) :
    IssueOrRefresh s label := by
  obtain ⟨now, event⟩ := label
  cases event with
  | issue _ _ _ | signed _ _ | published _ _ =>
    refine ⟨⟨?_, ?_⟩, rfl⟩
    · intro call input drawnId credentialId chatId hEvent
      cases hEvent
    · intro id hDrawn
      cases hDrawn
  | _ => cases h

/-- Both seals are published as the first of their pair, whatever the schema library
answers. -/
theorem overlapping_issues_fork :
    ¬ ∃ zod : ZodEnv, ∀ h s,
      (sealMachine zod).exec (sealMachine zod).init overlappingIssues = some (h, s) →
      AllMeet IssueOrRefresh h → LinearHistory h s := by
  rintro ⟨zod, hLaw⟩
  have hLinear := hLaw _ _ (overlapping_exec zod) ?_
  · have hFirst := (List.pairwise_cons.mp hLinear.oneFirst).1
      (secondDraft.envelope sampleSignature) (List.mem_singleton.mpr rfl)
    exact hFirst ⟨rfl, rfl⟩ ⟨rfl, rfl⟩
  · intro o ho
    simp only [overlappingHistory, List.mem_cons, List.not_mem_nil, or_false] at ho
    rcases ho with rfl | rfl | rfl | rfl | rfl | rfl | rfl | rfl
    · exact issueOrRefresh_of_plain rfl
    · exact issueOrRefresh_of_plain rfl
    · refine ⟨⟨?_, ?_⟩, rfl⟩
      · intro call input drawnId credentialId chatId hEvent hCall
        cases hEvent
        cases hCall
        exact ⟨rfl, rfl⟩
      · intro id hDrawn
        cases hDrawn
        refine ⟨rfl, ?_⟩
        intro draft hFlight
        rcases inFlight_twoCalls hFlight with hDraft | hDraft <;> cases hDraft
    · refine ⟨⟨?_, ?_⟩, rfl⟩
      · intro call input drawnId credentialId chatId hEvent hCall
        cases hEvent
        cases hCall
        exact ⟨rfl, rfl⟩
      · intro id hDrawn
        cases hDrawn
        refine ⟨rfl, ?_⟩
        intro draft hFlight
        rcases inFlight_twoCalls hFlight with hDraft | hDraft
        · cases hDraft
          decide
        · cases hDraft
    · exact issueOrRefresh_of_plain rfl
    · exact issueOrRefresh_of_plain rfl
    · exact issueOrRefresh_of_plain rfl
    · exact issueOrRefresh_of_plain rfl

theorem refresh_issueOrRefresh :
    AllMeet IssueOrRefresh (firstSealHistory ++ refreshHistory) := by
  intro o ho
  refine ⟨refresh_proper o ho, ?_⟩
  simp only [firstSealHistory, refreshHistory, List.cons_append, List.nil_append,
    List.mem_cons, List.not_mem_nil, or_false] at ho
  rcases ho with rfl | rfl | rfl | rfl | rfl | rfl | rfl <;> rfl

/-- The refresh continues the first seal, so the history is linear. -/
theorem linear_history_refresh :
    ∃ h s, (sealMachine sampleZod).exec (sealMachine sampleZod).init
        (firstSeal ++ refreshInTurn) = some (h, s) ∧
      (publishedSeals h).length = 2 ∧ LinearHistory h s := by
  refine ⟨_, _, refresh_exec sampleZod, rfl, (linear_history_iff sampleZod
    (runs_of_exec (refresh_exec sampleZod)) refresh_issueOrRefresh).mpr ?_⟩
  intro o ho call draft envelope hCall hEvent
  simp only [firstSealHistory, refreshHistory, List.cons_append, List.nil_append,
    List.mem_cons, List.not_mem_nil, or_false] at ho
  rcases ho with rfl | rfl | rfl | rfl | rfl | rfl | rfl
  · cases hEvent
  · cases hEvent
  · cases hEvent
  · cases hEvent
    cases hCall
    rfl
  · cases hEvent
  · cases hEvent
  · cases hEvent
    cases hCall
    rfl

end Seals
end Signet
