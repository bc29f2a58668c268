import Signet.Seals.ChainInvariant

/-!
# The seal history of a sequential run

With one call at a time, a clock that does not run backwards, fresh seal ids, and
a resolver that answers for the credential and chat it was asked for and always
with the same operator for a credential: every tracked chain passes the
validator and the delta check, it embeds the payload of its predecessor, and
`history` returns the seals of a pair newest first, each once, before and after
a revocation.

* `InTurn` — at most one call is in flight, and its draft continues the head.
* `LinksInOrder` — what the validator asks of a link.
* `history_eq_reverse` — the walk of `history` over a lineage.
* `sound_history` — the run theorem.
* `published_continue` — what calls that interleave keep of it.
-/

namespace Signet
namespace Seals

open Kit Machine Schemas

/-! ## One call at a time -/

def SealEvent.starts : SealEvent → Bool
  | .issue .. | .refresh .. | .revoke .. => true
  | _ => false

/-- A call starts only when no other is in flight. -/
def Sequential (s : SealState) (label : SealLabel) : Prop :=
  label.event.starts = true → ∀ call, s.calls.get call = none

/-- At most one call is in flight, and its draft continues the head of a pair that is
not revoked. -/
structure InTurn (s : SealState) : Prop where
  alone : ∀ call call' stage stage', s.calls.get call = some stage →
    s.calls.get call' = some stage' → call = call'
  draft : ∀ draft, InFlight s draft → draft.key ∉ s.maps.revokedPairs ∧
    draft.chain.previous = (s.maps.currentSeals.get draft.key).map fun e => e.chain.current

variable {l : List SealEnvelope} {h : List SealOccurrence} {s : SealState} {zod : ZodEnv}

theorem inTurn_endCall (h : InTurn s) {call : Nat} {stage : SealStage}
    (hCall : s.calls.get call = some stage) (maps : SealMaps) :
    InTurn (endCall { s with maps := maps } call) := by
  have hNone : ∀ call' stage', (endCall { s with maps := maps } call).calls.get call' ≠
      some stage' := by
    intro call' stage' hGet
    have hOld := get_endCall hGet
    have hSame := h.alone call call' stage stage' hCall hOld
    subst hSame
    simp only [endCall, AssocMap.get_delete, if_pos] at hGet
    cases hGet
  refine ⟨?_, ?_⟩
  · intro call₁ call₂ stage₁ stage₂ hGet₁
    exact (hNone call₁ stage₁ hGet₁).elim
  · rintro draft ⟨call', stage', hGet, -⟩
    exact (hNone call' stage' hGet).elim

/-- A call that ends leaves at most one in flight. -/
theorem inTurn_delete (h : InTurn s) (call : Nat) : InTurn (endCall s call) :=
  ⟨fun call₁ call₂ stage₁ stage₂ hGet₁ hGet₂ =>
    h.alone call₁ call₂ stage₁ stage₂ (get_endCall hGet₁) (get_endCall hGet₂),
    fun draft hFlight => h.draft draft (inFlight_endCall hFlight)⟩

/-- The only call of a state moves on, or a first one starts. -/
theorem inTurn_await (h : InTurn s) {call : Nat} {stage : SealStage}
    (hOnly : ∀ call' stage', s.calls.get call' = some stage' → call' = call)
    (hDraft : ∀ draft, stage.draft = some draft → draft.key ∉ s.maps.revokedPairs ∧
      draft.chain.previous = (s.maps.currentSeals.get draft.key).map fun e => e.chain.current) :
    InTurn (await s call stage) := by
  have hCall : ∀ call' stage', (await s call stage).calls.get call' = some stage' →
      call' = call := by
    intro call' stage' hGet
    simp only [await, AssocMap.get_set] at hGet
    split at hGet
    · assumption
    · exact hOnly call' stage' hGet
  refine ⟨?_, ?_⟩
  · intro call₁ call₂ stage₁ stage₂ hGet₁ hGet₂
    rw [hCall call₁ stage₁ hGet₁, hCall call₂ stage₂ hGet₂]
  · intro draft hFlight
    rcases inFlight_await hFlight with hOld | hNew
    · exact h.draft draft hOld
    · exact hDraft draft hNew

theorem inTurn_step {s' : SealState} {label : SealLabel} {out : List SealObservation}
    (hLinked : Linked s) (h : InTurn s) (hSequential : Sequential s label)
    (hMove : SealMove zod s label s' out) : InTurn s' := by
  have hMoves : ∀ {call stage}, s.calls.get call = some stage →
      ∀ call' stage', s.calls.get call' = some stage' → call' = call := by
    intro call stage hCall call' stage' hGet
    exact h.alone call' call stage' stage hGet hCall
  have hStarts : ∀ {event}, label.event = event → event.starts = true →
      ∀ {call : Nat} call' stage', s.calls.get call' = some stage' → call' = call := by
    intro event hEvent hStart call call' stage' hGet
    subst hEvent
    rw [hSequential hStart call'] at hGet
    cases hGet
  cases hMove with
  | returned call result => exact inTurn_delete h call
  | refused call error => exact h
  | revokeFailed call error => exact inTurn_delete h call
  | revokeRefused call error => exact h
  | resolving call credentialId chatId hIdle hEvent =>
    exact inTurn_await h (hStarts hEvent rfl) fun _ hEq => nomatch hEq
  | issued call credentialId chatId drawnId input draft hCall hEvent hDraft =>
    refine inTurn_await h (hMoves hCall) ?_
    intro draft' hEq
    cases hEq
    have hBuilt : Built zod s label draft :=
      .issued call credentialId chatId drawnId input hCall hEvent hDraft
    exact hBuilt.names hLinked
  | refreshed call sealId drawnId draft hIdle hEvent hDraft =>
    refine inTurn_await h (hStarts hEvent rfl) ?_
    intro draft' hEq
    cases hEq
    have hBuilt : Built zod s label draft := .refreshed call sealId drawnId hEvent hDraft
    exact hBuilt.names hLinked
  | publishing call draft signature hCall hEvent =>
    refine inTurn_await h (hMoves hCall) ?_
    intro draft' hEq
    cases hEq
    exact h.draft draft ⟨call, _, hCall, rfl⟩
  | published call draft envelope hCall hEvent => exact inTurn_endCall h hCall _
  | revoking call sealId drawnId reason current revocation hIdle hEvent hRevoke =>
    exact inTurn_await h (hStarts hEvent rfl) fun _ hEq => nomatch hEq
  | publishingRevocation call current revocation signature hCall hEvent =>
    exact inTurn_await h (hMoves hCall) fun _ hEq => nomatch hEq
  | revoked call current hCall hEvent => exact inTurn_endCall h hCall _

theorem inTurn_run (hRun : (sealMachine zod).Runs h s) (hProper : AllMeet Proper h)
    (hSequential : AllMeet Sequential h) : InTurn s := by
  induction hRun with
  | start =>
    refine ⟨?_, ?_⟩
    · intro call call' stage stage' hGet
      cases hGet
    · rintro draft ⟨call, stage, hGet, -⟩
      cases hGet
  | @step h s s' label out hRun hStep ih =>
    rw [allMeet_snoc] at hProper hSequential
    exact inTurn_step (linked_run hRun hProper.1) (ih hProper.1 hSequential.1)
      hSequential.2 (sealStep_move hStep)

theorem headUnchanged_of_inTurn (hAligned : Aligned s) (h : InTurn s) (label : SealLabel) :
    HeadUnchanged s label ∧ PublishedUnrevoked s label := by
  constructor
  · intro call draft envelope hCall _
    obtain ⟨-, hPrevious⟩ := h.draft draft ⟨call, _, hCall, rfl⟩
    rw [previousId, hAligned.signed call draft envelope hCall, hPrevious, Option.map_map]
    rfl
  · intro call draft envelope hCall _
    exact (h.draft draft ⟨call, _, hCall, rfl⟩).1

/-- In a sequential run the seals of each pair form a lineage. -/
theorem chainOf_sequential (hRun : (sealMachine zod).Runs h s) (hProper : AllMeet Proper h)
    (hSequential : AllMeet Sequential h) : ChainOf s := by
  induction hRun with
  | start => exact chainOf_init zod
  | @step h s s' label out hRun hStep ih =>
    rw [allMeet_snoc] at hProper hSequential
    have hAligned := aligned_run hRun fun o ho => (hProper.1 o ho).1
    have hLinked := linked_run hRun hProper.1
    obtain ⟨hHead, hLive⟩ :=
      headUnchanged_of_inTurn hAligned (inTurn_run hRun hProper.1 hSequential.1) label
    exact chainOf_step hAligned hLinked (ih hProper.1 hSequential.1) hHead hLive
      (sealStep_move hStep)

/-! ## What the validators ask -/

/-- The resolver gives every credential the operator it always has. -/
def SameOperator (operatorOf : String → String) (_ : SealState) (label : SealLabel) : Prop :=
  ∀ call input drawnId, label.event = .inputResolved call (.ok input) drawnId →
    input.operatorId = operatorOf input.credentialId

def OperatorOf (operatorOf : String → String) (chain : SealChain) : Prop :=
  chain.current.operatorId = operatorOf chain.current.credentialId

theorem operatorOf_run {operatorOf : String → String} (hRun : (sealMachine zod).Runs h s)
    (hProper : AllMeet Proper h) (hOperator : AllMeet (SameOperator operatorOf) h) :
    Chains (OperatorOf operatorOf) s := by
  induction hRun with
  | start =>
    refine ⟨?_, ?_⟩
    · intro id e hGet
      cases hGet
    · rintro draft ⟨call, stage, hGet, -⟩
      cases hGet
  | @step h s s' label out hRun hStep ih =>
    rw [allMeet_snoc] at hProper hOperator
    have hAligned := aligned_run hRun fun o ho => (hProper.1 o ho).1
    have hChains := ih hProper.1 hOperator.1
    refine chains_step hAligned hChains ?_ (sealStep_move hStep)
    intro draft hBuilt
    obtain ⟨drawnId, -, hBuild⟩ := hBuilt.chain
    have hPayload := (buildSeal_ok hBuild).2.1
    have hInput : draft.input.operatorId = operatorOf draft.input.credentialId := by
      cases hBuilt with
      | issued call credentialId chatId drawnId input hCall hEvent hDraft =>
        obtain ⟨-, -, rfl, -⟩ := issueWithInput_draft hDraft
        exact hOperator.2 call draft.input drawnId hEvent
      | refreshed call sealId drawnId hEvent hDraft =>
        obtain ⟨existing, hSeal, hStored, -⟩ := refreshHead_ok hDraft
        have hAnswers := hAligned.inputs sealId existing draft.input hSeal hStored
        rw [hAnswers.operatorId, hAnswers.credentialId]
        exact hChains.tracked sealId existing hSeal
    unfold OperatorOf
    rw [hPayload]
    exact hInput

/-- The chain was built at some step so far, and not before its predecessor. -/
def Dated (h : List SealOccurrence) (chain : SealChain) : Prop :=
  (∃ o ∈ h, chain.current.issuedAt = o.label.now) ∧
    ∀ p, chain.previous = some p → p.issuedAt ≤ chain.current.issuedAt

/-- The clock does not run backwards. -/
def Monotone (h : List SealOccurrence) : Prop :=
  h.Pairwise fun o o' => o.label.now ≤ o'.label.now

theorem dated_run (hRun : (sealMachine zod).Runs h s) (hProper : AllMeet Proper h)
    (hClock : Monotone h) : Chains (Dated h) s := by
  induction hRun with
  | start =>
    refine ⟨?_, ?_⟩
    · intro id e hGet
      cases hGet
    · rintro draft ⟨call, stage, hGet, -⟩
      cases hGet
  | @step h s s' label out hRun hStep ih =>
    rw [allMeet_snoc] at hProper
    obtain ⟨hClockBefore, -, hClockNow⟩ := List.pairwise_append.mp hClock
    have hAligned := aligned_run hRun fun o ho => (hProper.1 o ho).1
    have hLinked := linked_run hRun hProper.1
    have hChains := ih hProper.1 hClockBefore
    have hMore : ∀ chain, Dated h chain → Dated (h ++ [⟨s, label, out⟩]) chain := by
      rintro chain ⟨⟨o, ho, hNow⟩, hOrder⟩
      exact ⟨⟨o, List.mem_append_left _ ho, hNow⟩, hOrder⟩
    have hStill : Chains (Dated (h ++ [⟨s, label, out⟩])) s :=
      ⟨fun id e hGet => hMore _ (hChains.tracked id e hGet),
        fun draft hFlight => hMore _ (hChains.drafts draft hFlight)⟩
    refine chains_step hAligned hStill ?_ (sealStep_move hStep)
    intro draft hBuilt
    obtain ⟨drawnId, -, hBuild⟩ := hBuilt.chain
    have hIssued : draft.chain.current.issuedAt = label.now := by
      rw [(buildSeal_ok hBuild).2.1]
      rfl
    refine ⟨⟨_, List.mem_append_right _ (List.mem_singleton.mpr rfl), hIssued⟩, ?_⟩
    intro p hPrevious
    obtain ⟨e, hGet, rfl, -⟩ := hBuilt.namesTracked hAligned hLinked p hPrevious
    obtain ⟨⟨o, ho, hNow⟩, -⟩ := hChains.tracked _ e hGet
    have hLater := hClockNow o ho _ (List.mem_singleton.mpr rfl)
    rw [hIssued, hNow]
    exact hLater

theorem ne_empty_of_issues {payload : SealPayload} (h : sealPayloadIssues zod payload = []) :
    payload.sealId ≠ "" := by
  have hSeal := (ids_of_sealPayloadIssues_eq_nil h).1
  intro hEmpty
  rw [hEmpty] at hSeal
  revert hSeal
  decide

/-- What holds of a chain by its build alone. -/
structure WellBuilt (chain : SealChain) : Prop where
  delta : chain.delta = expectedDelta chain.current chain.previous
  sealId : chain.current.sealId ≠ ""

theorem wellBuilt_run (hRun : (sealMachine zod).Runs h s) (hProper : AllMeet Proper h) :
    Chains WellBuilt s := by
  refine chains_run hRun (fun o ho => (hProper o ho).1) ?_
  intro s label draft hBuilt
  obtain ⟨drawnId, -, hBuild⟩ := hBuilt.chain
  obtain ⟨hIssues, -, -, hDelta⟩ := buildSeal_ok hBuild
  exact ⟨hDelta, ne_empty_of_issues hIssues⟩

/-! ## The walk of `history` -/

theorem walkBack_lineage {maps : SealMaps} {last : SealEnvelope}
    (hLineage : Lineage sealIdOf previousId (l ++ [last]))
    (hIds : ((l ++ [last]).map sealIdOf).Nodup)
    (hTracked : ∀ e ∈ l ++ [last], maps.sealsById.get (sealIdOf e) = some e ∧ sealIdOf e ≠ "")
    {fuel : Nat} (hFuel : (l ++ [last]).length ≤ fuel) {seen : OrderedSet String}
    (hSeen : ∀ e ∈ l ++ [last], sealIdOf e ∉ seen) :
    walkBack maps fuel seen (some last) = (l ++ [last]).reverse := by
  induction l using List.reverseRecOn generalizing last fuel seen with
  | nil =>
    obtain ⟨fuel, rfl⟩ : ∃ n, fuel = n + 1 := ⟨fuel - 1, by simp at hFuel; omega⟩
    have hFirst : previousId last = none := (lineage_snoc_iff.mp hLineage).2
    have hUnseen := hSeen last (by simp)
    simp only [walkBack, if_neg hUnseen, predecessor, hFirst]
    cases fuel <;> rfl
  | append_singleton l prev ih =>
    obtain ⟨fuel, rfl⟩ : ∃ n, fuel = n + 1 := ⟨fuel - 1, by simp at hFuel; omega⟩
    obtain ⟨hInit, hParent⟩ := lineage_snoc_iff.mp hLineage
    rw [List.getLast?_concat] at hParent
    obtain ⟨hGet, hNe⟩ := hTracked prev (by simp)
    have hUnseen := hSeen last (by simp)
    have hPredecessor : predecessor maps last = some prev := by
      simp only [predecessor, hParent, Option.map_some, if_neg hNe]
      exact hGet
    have hIdsInit : ((l ++ [prev]).map sealIdOf).Nodup := by
      rw [List.map_append] at hIds
      exact (List.nodup_append.mp hIds).1
    have hFresh : ∀ e ∈ l ++ [prev], sealIdOf e ≠ sealIdOf last := by
      intro e he hEq
      rw [List.map_append, List.nodup_append] at hIds
      exact hIds.2.2 _ (List.mem_map_of_mem he) _ (by simp) hEq
    have hRest := ih hInit hIdsInit (fun e he => hTracked e (List.mem_append_left _ he))
      (show (l ++ [prev]).length ≤ fuel by simp at hFuel ⊢; omega)
      (show ∀ e ∈ l ++ [prev], sealIdOf e ∉ seen.add (sealIdOf last) by
        intro e he hMem
        rcases OrderedSet.mem_add.mp hMem with hEq | hOld
        · exact hFresh e he hEq
        · exact hSeen e (List.mem_append_left _ he) hOld)
    rw [walkBack, if_neg hUnseen, hPredecessor, hRest]
    simp

/-- The only seal of a lineage that none names is found. -/
theorem findHistoryHead_lineage (hLineage : Lineage sealIdOf previousId l)
    (hIds : (l.map sealIdOf).Nodup) :
    findHistoryHead l = l.getLast? := by
  have hReferenced : ∀ e, sealIdOf e ∉ OrderedSet.ofList (l.filterMap previousId) ↔
      ∀ b ∈ l, previousId b ≠ some (sealIdOf e) := by
    intro e
    rw [OrderedSet.mem_ofList, List.mem_filterMap]
    exact not_exists.trans (forall_congr' fun b => not_and)
  unfold findHistoryHead
  cases hFind : l.find? fun e => sealIdOf e ∉ OrderedSet.ofList (l.filterMap previousId) with
  | some e =>
    have hFree := List.find?_some hFind
    rw [decide_eq_true_eq, hReferenced] at hFree
    exact ((lineage_last_iff hLineage hIds).mpr ⟨List.mem_of_find?_eq_some hFind, hFree⟩).symm
  | none =>
    cases hLast : l.getLast? with
    | none => rfl
    | some last =>
      obtain ⟨hMem, hFree⟩ := (lineage_last_iff hLineage hIds).mp hLast
      have hNever := List.find?_eq_none.mp hFind last hMem
      rw [decide_eq_true_eq, hReferenced] at hNever
      exact (hNever hFree).elim

theorem trackedFor_eq_pairSeals (hAligned : Aligned s) (credentialId chatId : String) :
    trackedFor s.maps credentialId chatId = pairSeals s (chainKey credentialId chatId) := by
  unfold trackedFor pairSeals
  refine List.filter_congr ?_
  intro e he
  obtain ⟨id, hGet⟩ := AssocMap.mem_values.mp he
  have hIff : payloadKey e.chain.current = chainKey credentialId chatId ↔ _ :=
    payloadKey_eq_chainKey_iff (hAligned.tracked id e hGet)
  rw [Bool.eq_iff_iff]
  simp [hIff]

/-- `history` returns the tracked seals of a pair, newest first. -/
theorem history_eq_reverse (hAligned : Aligned s) (hLinked : Linked s) (hBuilt : Chains WellBuilt s)
    (hChain : ChainOf s) (credentialId chatId : String) :
    history s.maps credentialId chatId = (trackedFor s.maps credentialId chatId).reverse := by
  have hLineage := hChain.lineage (chainKey credentialId chatId)
  have hIds := nodup_pairSeals hLinked (chainKey credentialId chatId)
  have hHead := hChain.head (chainKey credentialId chatId)
  have hTracked : ∀ e ∈ pairSeals s (chainKey credentialId chatId),
      s.maps.sealsById.get (sealIdOf e) = some e ∧ sealIdOf e ≠ "" := by
    intro e he
    obtain ⟨⟨id, hGet⟩, -⟩ := mem_pairSeals.mp he
    have hId := hLinked.keyed id e hGet
    exact ⟨by rw [hId]; exact hGet, (hBuilt.tracked id e hGet).sealId⟩
  have hFuel : (pairSeals s (chainKey credentialId chatId)).length ≤
      s.maps.sealsById.values.length + 1 :=
    Nat.le_succ_of_le (List.length_filter_le _ _)
  have hFound := findHistoryHead_lineage hLineage hIds
  unfold history
  rw [trackedFor_eq_pairSeals hAligned]
  simp only
  rcases List.eq_nil_or_concat (pairSeals s (chainKey credentialId chatId)) with
    hEmpty | ⟨init, last, hConcat⟩
  · rw [hEmpty]
    rfl
  · rw [List.concat_eq_append] at hConcat
    rw [hConcat] at hLineage hIds hTracked hFuel hFound hHead ⊢
    rw [List.getLast?_concat] at hFound hHead
    -- after a revocation the head is found, before it is the tracked one
    have hStart : (current s.maps credentialId chatId).or
        ((findHistoryHead (init ++ [last])).or (sortNewestFirst (init ++ [last])).head?) =
        some last := by
      rw [hFound, current, hHead]
      split <;> rfl
    have hNonempty : (init ++ [last]).isEmpty = false := by simp
    rw [hNonempty, hStart]
    exact walkBack_lineage hLineage hIds hTracked hFuel
      fun e _ => OrderedSet.not_mem_empty (sealIdOf e)

/-! ## Whole runs -/

/-- The published seals of a credential in a chat, oldest first. -/
def publishedFor (h : List SealOccurrence) (credentialId chatId : String) :
    List SealEnvelope :=
  (publishedSeals h).filter fun envelope =>
    envelope.chain.current.credentialId == credentialId
      && envelope.chain.current.chatId == chatId

/-- Every tracked chain passes both checks and embeds its predecessor, and the
history of a pair is all its seals, newest first, each once. -/
structure SoundHistory (h : List SealOccurrence) (s : SealState) : Prop where
  tracked : s.maps.sealsById.values = publishedSeals h ∧ (publishedSeals h).Nodup
  validated : ∀ e ∈ publishedSeals h, validateSealChain e.chain = .ok ()
  verified : ∀ e ∈ publishedSeals h, verifyChainDelta e.chain = .ok ()
  /-- Each seal of a pair embeds the payload of the one before, the first none. -/
  embedded : ∀ credentialId chatId,
    Lineage (fun e : SealEnvelope => e.chain.current) (fun e => e.chain.previous)
      (publishedFor h credentialId chatId)
  history : ∀ credentialId chatId,
    history s.maps credentialId chatId = (publishedFor h credentialId chatId).reverse

/-- The run has one call at a time, a clock that does not run backwards, fresh seal
ids, and a resolver that answers for the credential and chat it was asked for and
always with the same operator for a credential. -/
structure SequentialRun (operatorOf : String → String) (h : List SealOccurrence) : Prop where
  proper : AllMeet Proper h
  sequential : AllMeet Sequential h
  clock : Monotone h
  operator : AllMeet (SameOperator operatorOf) h

theorem lineage_payloads (hLinked : Linked s) (hLineage : Lineage sealIdOf previousId l)
    (hTracked : ∀ e ∈ l, ∃ id, s.maps.sealsById.get id = some e) :
    Lineage (fun e : SealEnvelope => e.chain.current) (fun e => e.chain.previous) l := by
  induction hLineage with
  | nil => exact .nil
  | @snoc l e hInit hParent ih =>
    refine .snoc (ih fun a ha => hTracked a (List.mem_append_left _ ha)) ?_
    cases hLast : l.getLast? with
    | none =>
      rw [hLast] at hParent
      exact Option.map_eq_none_iff.mp hParent
    | some prev =>
      rw [hLast] at hParent
      obtain ⟨id, hGet⟩ := hTracked e (by simp)
      obtain ⟨a, ha, hId, hPrevious⟩ :=
        namesTracked_mem hLinked (hLinked.tracked id e hGet) hParent
      obtain ⟨⟨idA, hGetA⟩, -⟩ := mem_pairSeals.mp ha
      obtain ⟨idP, hGetP⟩ := hTracked prev
        (List.mem_append_left _ (List.mem_of_getLast? hLast))
      rw [hLinked.keyed idA a hGetA, hLinked.keyed idP prev hGetP] at hId
      rw [hId, hGetP, Option.some.injEq] at hGetA
      rw [hPrevious, hGetA]
      rfl

/-- **Sequential runs keep a sound history.** -/
theorem sound_history (zod : ZodEnv) (operatorOf : String → String) {h : List SealOccurrence}
    {s : SealState} (hRun : (sealMachine zod).Runs h s) (hSequential : SequentialRun operatorOf h) :
    SoundHistory h s := by
  have hProper := hSequential.proper
  have hAligned := aligned_run hRun fun o ho => (hProper o ho).1
  have hLinked := linked_run hRun hProper
  have hChain := chainOf_sequential hRun hProper hSequential.sequential
  have hBuilt := wellBuilt_run hRun hProper
  have hDated := dated_run hRun hProper hSequential.clock
  have hOperator := operatorOf_run hRun hProper hSequential.operator
  have hValues := values_run hRun hProper
  have hTracked : ∀ e ∈ publishedSeals h, ∃ id, s.maps.sealsById.get id = some e := by
    intro e he
    rw [← hValues] at he
    exact AssocMap.mem_values.mp he
  have hSame : ∀ credentialId chatId,
      trackedFor s.maps credentialId chatId = publishedFor h credentialId chatId := by
    intro credentialId chatId
    rw [trackedFor, hValues, publishedFor]
  refine ⟨⟨hValues, ?_⟩, ?_, ?_, ?_, ?_⟩
  · have hIds := nodup_ids hLinked
    rw [hValues] at hIds
    exact hIds.of_map
  · intro e he
    obtain ⟨id, hGet⟩ := hTracked e he
    refine validateSealChain_of_link ?_
    intro p hPrevious
    obtain ⟨a, hGetA, rfl, hKey⟩ := hLinked.tracked id e hGet p hPrevious
    obtain ⟨hCredential, hChat⟩ := (samePair_iff (hAligned.tracked _ a hGetA)).mp hKey
    have hOperatorE := hOperator.tracked id e hGet
    have hOperatorA := hOperator.tracked _ a hGetA
    refine ⟨?_, hCredential.symm, hChat.symm, (hDated.tracked id e hGet).2 _ hPrevious⟩
    rw [hOperatorE, hOperatorA, hCredential]
  · intro e he
    obtain ⟨id, hGet⟩ := hTracked e he
    exact verifyChainDelta_of_delta_eq (hBuilt.tracked id e hGet).delta
  · intro credentialId chatId
    rw [← hSame, trackedFor_eq_pairSeals hAligned]
    exact lineage_payloads hLinked (hChain.lineage _) fun e he => (mem_pairSeals.mp he).1
  · intro credentialId chatId
    rw [history_eq_reverse hAligned hLinked hBuilt hChain, hSame]

/-! ## A credential that changes its operator, and one that does not -/

def otherOperatorInput : SealInput := { sampleInput with operatorId := "op_fedcba9876543210" }

/-- The draft of the sample input under another operator. -/
def otherOperatorDraft : Draft :=
  { key := chainKey sampleInput.credentialId sampleInput.chatId
    chatId := sampleInput.chatId
    input := otherOperatorInput
    chain :=
      { current := rawPayload 10 "seal_00000000000000bb" otherOperatorInput
        previous := some firstDraft.chain.current
        delta := .empty } }

/-- After the first seal the resolver names another operator for the credential. -/
def operatorChange : List SealLabel :=
  [⟨10, .issue 2 sampleInput.credentialId sampleInput.chatId⟩,
    ⟨10, .inputResolved 2 (.ok otherOperatorInput) "seal_00000000000000bb"⟩,
    ⟨11, .signed 2 (.ok sampleSignature)⟩, ⟨12, .published 2 (.ok ())⟩]

def operatorChangeHistory : List SealOccurrence :=
  [⟨firstSealStates 4, ⟨10, .issue 2 sampleInput.credentialId sampleInput.chatId⟩, []⟩,
    ⟨await (firstSealStates 4) 2 (.resolving sampleInput.credentialId sampleInput.chatId),
      ⟨10, .inputResolved 2 (.ok otherOperatorInput) "seal_00000000000000bb"⟩, []⟩,
    ⟨await (firstSealStates 4) 2 (.signing otherOperatorDraft),
      ⟨11, .signed 2 (.ok sampleSignature)⟩,
      [.publishing sampleInput.chatId (otherOperatorDraft.envelope sampleSignature)]⟩,
    ⟨await (firstSealStates 4) 2
        (.publishing otherOperatorDraft (otherOperatorDraft.envelope sampleSignature)),
      ⟨12, .published 2 (.ok ())⟩,
      [.published (otherOperatorDraft.envelope sampleSignature),
        .returned 2 (.ok (otherOperatorDraft.envelope sampleSignature))]⟩]

theorem operatorChange_exec (zod : ZodEnv) :
    (sealMachine zod).exec (sealMachine zod).init (firstSeal ++ operatorChange) =
      some (firstSealHistory ++ operatorChangeHistory,
        ⟨track firstMaps otherOperatorDraft (otherOperatorDraft.envelope sampleSignature),
          .empty⟩) := by
  refine exec_append (firstSeal_exec zod) ?_
  refine exec_cons (show _ = some (await (firstSealStates 4) 2
    (.resolving sampleInput.credentialId sampleInput.chatId), _) from rfl) ?_
  refine exec_cons (show _ = some (await (firstSealStates 4) 2
    (.signing otherOperatorDraft), _) from rfl) ?_
  refine exec_cons (show _ = some (await (firstSealStates 4) 2
    (.publishing otherOperatorDraft (otherOperatorDraft.envelope sampleSignature)), _)
    from rfl) ?_
  exact exec_cons (show _ = some (⟨track firstMaps otherOperatorDraft
    (otherOperatorDraft.envelope sampleSignature), .empty⟩, _) from rfl) rfl

theorem operatorChange_proper :
    AllMeet Proper (firstSealHistory ++ operatorChangeHistory) := by
  refine (allMeet_append _ _ _).mpr ⟨firstSeal_proper, ?_⟩
  intro o ho
  simp only [operatorChangeHistory, List.mem_cons, List.not_mem_nil, or_false] at ho
  rcases ho with rfl | rfl | rfl | rfl
  · refine ⟨?_, ?_⟩
    · intro call input drawnId credentialId chatId hEvent
      cases hEvent
    · intro id hDrawn
      cases hDrawn
  · refine ⟨?_, ?_⟩
    · intro call input drawnId credentialId chatId hEvent hCall
      cases hEvent
      cases hCall
      exact ⟨rfl, rfl⟩
    · intro id hDrawn
      cases hDrawn
      refine ⟨rfl, ?_⟩
      intro draft hFlight
      rcases inFlight_await hFlight with hOld | hNew
      · exact (not_inFlight_of_idle rfl draft hOld).elim
      · cases hNew
  all_goals
    refine ⟨?_, ?_⟩
    · intro call input drawnId credentialId chatId hEvent
      cases hEvent
    · intro id hDrawn
      cases hDrawn

/-- The validator refuses the chain of a credential that has changed its operator,
whatever the schema library answers. -/
theorem operator_change_not_validated :
    ¬ ∃ zod : ZodEnv, ∀ h s,
      (sealMachine zod).exec (sealMachine zod).init (firstSeal ++ operatorChange) =
        some (h, s) →
      AllMeet Proper h → AllMeet Sequential h → Monotone h →
      SoundHistory h s := by
  rintro ⟨zod, hLaw⟩
  have hSound := hLaw _ _ (operatorChange_exec zod) operatorChange_proper ?_ ?_
  · have hValid := hSound.validated (otherOperatorDraft.envelope sampleSignature)
      (List.mem_of_getElem? (i := 1) rfl)
    revert hValid
    decide
  · intro o ho hStarts call
    simp only [firstSealHistory, operatorChangeHistory, List.cons_append, List.nil_append,
      List.mem_cons, List.not_mem_nil, or_false] at ho
    rcases ho with rfl | rfl | rfl | rfl | rfl | rfl | rfl | rfl
    · rfl
    · cases hStarts
    · cases hStarts
    · cases hStarts
    · rfl
    · cases hStarts
    · cases hStarts
    · cases hStarts
  · simp [Monotone, firstSealHistory, operatorChangeHistory]

/-- The first seal and its refresh, in turn. -/
theorem sound_history_refresh :
    ∃ h s, (sealMachine sampleZod).exec (sealMachine sampleZod).init
        (firstSeal ++ refreshInTurn) = some (h, s) ∧
      (publishedSeals h).length = 2 ∧ SoundHistory h s := by
  refine ⟨_, _, refresh_exec sampleZod, rfl,
    sound_history sampleZod (fun _ => "op_0123456789abcdef")
      (runs_of_exec (refresh_exec sampleZod)) ⟨refresh_proper, ?_, ?_, ?_⟩⟩
  · intro o ho hStarts call
    simp only [firstSealHistory, refreshHistory, List.cons_append, List.nil_append,
      List.mem_cons, List.not_mem_nil, or_false] at ho
    rcases ho with rfl | rfl | rfl | rfl | rfl | rfl | rfl
    · rfl
    · cases hStarts
    · cases hStarts
    · cases hStarts
    · rfl
    · cases hStarts
    · cases hStarts
  · simp [Monotone, firstSealHistory, refreshHistory]
  · intro o ho call input drawnId hEvent
    simp only [firstSealHistory, refreshHistory, List.cons_append, List.nil_append,
      List.mem_cons, List.not_mem_nil, or_false] at ho
    rcases ho with rfl | rfl | rfl | rfl | rfl | rfl | rfl
    · cases hEvent
    · cases hEvent
      rfl
    · cases hEvent
    · cases hEvent
    · cases hEvent
    · cases hEvent
    · cases hEvent

/-! ## Interleaved runs -/

/-- A seal after those published before it. -/
structure Continues (earlier : List SealEnvelope) (e : SealEnvelope) : Prop where
  fresh : sealIdOf e ∉ earlier.map sealIdOf
  delta : e.chain.delta = expectedDelta e.chain.current e.chain.previous
  previous : ∀ p, e.chain.previous = some p →
    (∃ e' ∈ earlier, e'.chain.current = p) ∧ SamePair p e.chain.current ∧
      p.issuedAt ≤ e.chain.current.issuedAt

theorem published_before (hRun : (sealMachine zod).Runs h s) (hProper : AllMeet Proper h)
    {earlier later : List SealEnvelope} {e : SealEnvelope} {p : SealPayload}
    (hSplit : publishedSeals h = earlier ++ e :: later) (hPrevious : e.chain.previous = some p) :
    ∃ e' ∈ earlier, e'.chain.current = p := by
  induction hRun generalizing later with
  | start => simp [publishedSeals, outputs] at hSplit
  | @step h s s' label out hRun hStep ih =>
    rw [allMeet_snoc] at hProper
    rw [publishedSeals_snoc] at hSplit
    rcases tracked_of_move (sealStep_move hStep) with
      ⟨call, draft, envelope, hCall, -, hOut, -⟩ | ⟨hOut, -⟩
    · rw [hOut] at hSplit
      rcases List.eq_nil_or_concat later with rfl | ⟨rest, last, rfl⟩
      · -- the seal of this step: its draft names what was tracked when it was made
        obtain ⟨rfl, hLast⟩ := List.append_inj' hSplit rfl
        cases hLast
        have hAligned := aligned_run hRun fun o ho => (hProper.1 o ho).1
        rw [hAligned.signed call draft e hCall] at hPrevious
        obtain ⟨a, hGet, hCurrent, -⟩ :=
          (linked_run hRun hProper.1).drafts draft ⟨call, _, hCall, rfl⟩ p hPrevious
        refine ⟨a, ?_, hCurrent⟩
        rw [← values_run hRun hProper.1, AssocMap.mem_values]
        exact ⟨_, hGet⟩
      · rw [List.concat_eq_append, ← List.cons_append, ← List.append_assoc] at hSplit
        exact ih hProper.1 (List.append_inj' hSplit rfl).1
    · rw [hOut, List.append_nil] at hSplit
      exact ih hProper.1 hSplit

/-- **Every seal follows one published before it**, whatever calls ran in between: it has a new
id and the delta from the seal it names, which is of its pair and not younger. -/
theorem published_continue (hRun : (sealMachine zod).Runs h s) (hProper : AllMeet Proper h)
    (hClock : Monotone h) {earlier later : List SealEnvelope} {e : SealEnvelope}
    (hSplit : publishedSeals h = earlier ++ e :: later) : Continues earlier e := by
  have hLinked := linked_run hRun hProper
  have hAligned := aligned_run hRun fun o ho => (hProper o ho).1
  have hValues := values_run hRun hProper
  rw [hSplit] at hValues
  obtain ⟨id, hGet⟩ : ∃ id, s.maps.sealsById.get id = some e := by
    rw [← AssocMap.mem_values, hValues]
    simp
  refine ⟨?_, ((wellBuilt_run hRun hProper).tracked id e hGet).delta, ?_⟩
  · have hIds := nodup_ids hLinked
    rw [hValues, List.map_append, List.nodup_append] at hIds
    exact fun hMem => hIds.2.2 _ hMem _ (List.mem_cons_self ..) rfl
  · intro p hPrevious
    obtain ⟨a, hGetA, rfl, hKey⟩ := hLinked.tracked id e hGet p hPrevious
    exact ⟨published_before hRun hProper hSplit hPrevious,
      (samePair_iff (hAligned.tracked _ a hGetA)).mp hKey,
      ((dated_run hRun hProper hClock).tracked id e hGet).2 _ hPrevious⟩

/-- The second seal, under another operator. -/
theorem published_continue_change :
    ∃ h s, (sealMachine sampleZod).exec (sealMachine sampleZod).init
        (firstSeal ++ operatorChange) = some (h, s) ∧
      Continues [firstDraft.envelope sampleSignature]
        (otherOperatorDraft.envelope sampleSignature) := by
  refine ⟨_, _, operatorChange_exec sampleZod, published_continue
    (runs_of_exec (operatorChange_exec sampleZod)) operatorChange_proper ?_
    (show publishedSeals _ = [_] ++ [_] from rfl)⟩
  simp [Monotone, firstSealHistory, operatorChangeHistory]

end Seals
end Signet
