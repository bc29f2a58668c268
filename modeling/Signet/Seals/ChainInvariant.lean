import Signet.Kit.Lineage
import Signet.Seals.ManagerSpec

/-!
# The chain of a pair

What links the tracked seals of a pair to each other, along every run whose seal
ids are fresh.

* `Linked` — tracked seals, heads and drafts name tracked predecessors of their pair.
* `Chains` — a property of the chains that the builds make, for all of them.
* `HeadUnchanged` — a draft is published while the head it continues is still the head.
* `LineageOf`, `HeadOf` — under that condition the seals of a pair form a lineage
  that ends in the head.
-/

namespace Signet
namespace Seals

open Kit Machine Schemas

/-- A new seal would get an id that no seal, tracked or on its way, has. -/
def FreshSealIds (s : SealState) (label : SealLabel) : Prop :=
  ∀ id, label.event.drawnId = some id → s.maps.sealsById.get id = none ∧
    ∀ draft, InFlight s draft → draft.chain.current.sealId ≠ id

variable {draft : Draft} {out : List SealObservation} {h : List SealOccurrence} {call : Nat}
  {envelope : SealEnvelope} {label : SealLabel} {s s' : SealState} {key : String} {zod : ZodEnv}
  {P : SealChain → Prop}

theorem draft_of_published (hAligned : Aligned s) (hMove : SealMove zod s label s' out)
    (hOut : .published envelope ∈ out) :
    ∃ draft, InFlight s draft ∧ envelope.chain = draft.chain := by
  cases hMove with
  | published call draft envelope' hCall hEvent =>
    have hEq : envelope = envelope' := by simpa using hOut
    subst hEq
    exact ⟨draft, ⟨call, _, hCall, rfl⟩, hAligned.signed call draft envelope hCall⟩
  | _ => simp at hOut

/-! ## Segments that publish nothing -/

def draftsInFlight (s : SealState) : List Draft := s.calls.values.filterMap SealStage.draft

theorem mem_draftsInFlight :
    draft ∈ draftsInFlight s ↔ InFlight s draft := by
  unfold draftsInFlight InFlight
  rw [List.mem_filterMap]
  constructor
  · rintro ⟨stage, hStage, hDraft⟩
    obtain ⟨call, hGet⟩ := AssocMap.mem_values.mp hStage
    exact ⟨call, stage, hGet, hDraft⟩
  · rintro ⟨call, stage, hGet, hDraft⟩
    exact ⟨stage, AssocMap.mem_values.mpr ⟨call, hGet⟩, hDraft⟩

/-- The seal manager turns an issuance or a refresh down, or has nothing to publish:
an issuance of a revoked pair, or one that changes nothing about the head; a refresh
of a revoked pair, or of a seal that is not the head. -/
def publishesNothing (maps : SealMaps) : SealEvent → Bool
  | .inputResolved _ (.ok input) _ =>
    let key := chainKey input.credentialId input.chatId
    decide (key ∈ maps.revokedPairs)
      || ((maps.currentSeals.get key).filter (isImmaterial maps · input)).isSome
  | .refresh _ sealId _ =>
    match maps.sealsById.get sealId with
    | none => true
    | some existing =>
      let key := payloadKey existing.chain.current
      decide (key ∈ maps.revokedPairs)
        || decide ((maps.currentSeals.get key).map sealIdOf ≠ some sealId)
  | _ => true

/-- What a build needs is what a segment that publishes nothing lacks. -/
theorem publishes_of_built (hFaithful : Faithful s label) (hBuilt : Built zod s label draft) :
    publishesNothing s.maps label.event = false := by
  cases hBuilt with
  | issued call credentialId chatId drawnId input hCall hEvent hDraft =>
    obtain ⟨hCredential, hChat⟩ := hFaithful call input drawnId credentialId chatId hEvent hCall
    rw [hEvent]
    unfold issueWithInput at hDraft
    rw [← hChat] at hDraft
    simp only at hDraft
    split at hDraft
    · cases hDraft
    · next hLive =>
      split at hDraft
      · cases hDraft
      · next hMaterial =>
        simp only [publishesNothing, Bool.or_eq_false_iff, decide_eq_false_iff_not]
        exact ⟨hLive, by rw [hMaterial]; rfl⟩
  | refreshed call sealId drawnId hEvent hDraft =>
    obtain ⟨existing, hSeal, -, hKey, -, hLive, hHead, -⟩ := refreshHead_ok hDraft
    rw [hKey] at hLive hHead
    rw [hEvent]
    simp only [publishesNothing, hSeal, Bool.or_eq_false_iff, decide_eq_false_iff_not]
    exact ⟨hLive, not_not.mpr hHead⟩

/-! ## A property of all chains -/

/-- All tracked chains, and all on their way, have the property. -/
structure Chains (P : SealChain → Prop) (s : SealState) : Prop where
  tracked : ∀ id e, s.maps.sealsById.get id = some e → P e.chain
  drafts : ∀ draft, InFlight s draft → P draft.chain

/-- A property that every build establishes is kept. -/
theorem chains_step (hAligned : Aligned s) (h : Chains P s)
    (hBuilt : ∀ draft, Built zod s label draft → P draft.chain)
    (hMove : SealMove zod s label s' out) : Chains P s' := by
  refine ⟨?_, ?_⟩
  · intro id e hGet
    rcases seal_of_move hAligned.signed hMove hGet with ⟨hOld, -⟩ | ⟨draft, hFlight, hChain, -⟩
    · exact h.tracked id e hOld
    · rw [hChain]
      exact h.drafts draft hFlight
  · intro draft hFlight
    rcases inFlight_of_move hMove hFlight with hOld | hMade
    · exact h.drafts draft hOld
    · exact hBuilt draft hMade

theorem chains_run (hRun : (sealMachine zod).Runs h s) (hFaithful : AllMeet Faithful h)
    (hBuilt : ∀ s label draft, Built zod s label draft → P draft.chain) : Chains P s := by
  have hInit : Chains P (sealMachine zod).init := by
    refine ⟨?_, ?_⟩
    · intro id e hGet
      cases hGet
    · rintro draft ⟨call, stage, hGet, -⟩
      cases hGet
  refine hRun.guarded hFaithful hInit ?_
  intro h s label s' out hRun hMeets hChains _ hStep
  exact chains_step (aligned_run hRun hMeets) hChains (hBuilt s label) (sealStep_move hStep)

/-! ## Links -/

/-- The predecessor that a chain names is tracked, and of the given pair. -/
def NamesTracked (maps : SealMaps) (key : String) (chain : SealChain) : Prop :=
  ∀ p, chain.previous = some p →
    ∃ e, maps.sealsById.get p.sealId = some e ∧ e.chain.current = p ∧ payloadKey p = key

/-- Tracked seals, heads and drafts name tracked predecessors of their pair, and
ids tell them apart. -/
structure Linked (s : SealState) : Prop where
  keyed : ∀ id e, s.maps.sealsById.get id = some e → sealIdOf e = id
  heads : ∀ key e, s.maps.currentSeals.get key = some e →
    s.maps.sealsById.get (sealIdOf e) = some e
  tracked : ∀ id e, s.maps.sealsById.get id = some e →
    NamesTracked s.maps (payloadKey e.chain.current) e.chain
  drafts : ∀ draft, InFlight s draft → NamesTracked s.maps draft.key draft.chain
  untracked : ∀ draft, InFlight s draft →
    s.maps.sealsById.get draft.chain.current.sealId = none
  apart : ∀ call call' stage stage' draft draft', s.calls.get call = some stage →
    s.calls.get call' = some stage' → stage.draft = some draft → stage'.draft = some draft' →
    draft.chain.current.sealId = draft'.chain.current.sealId → call = call'

theorem linked_endCall (h : Linked s) (call : Nat) :
    Linked (endCall s call) where
  keyed := h.keyed
  heads := h.heads
  tracked := h.tracked
  drafts := fun draft hFlight => h.drafts draft (inFlight_endCall hFlight)
  untracked := fun draft hFlight => h.untracked draft (inFlight_endCall hFlight)
  apart := fun call₁ call₂ stage₁ stage₂ draft₁ draft₂ hGet₁ hGet₂ =>
    h.apart call₁ call₂ stage₁ stage₂ draft₁ draft₂ (get_endCall hGet₁) (get_endCall hGet₂)

/-- A call that moves on without a new draft keeps the links. -/
theorem linked_await (h : Linked s) {stage : SealStage} (hSame : ∀ draft, stage.draft = some draft →
      ∃ stage', s.calls.get call = some stage' ∧ stage'.draft = some draft) :
    Linked (await s call stage) := by
  have hFlight : ∀ draft, InFlight (await s call stage) draft → InFlight s draft := by
    intro draft hNow
    rcases inFlight_await hNow with hOld | hNew
    · exact hOld
    · obtain ⟨stage', hGet, hDraft⟩ := hSame draft hNew
      exact ⟨call, stage', hGet, hDraft⟩
  have hStage : ∀ call' stage' draft, (await s call stage).calls.get call' = some stage' →
      stage'.draft = some draft →
      ∃ old, s.calls.get call' = some old ∧ old.draft = some draft := by
    intro call' stage' draft hGet hDraft
    simp only [await] at hGet
    rcases AssocMap.get_set_cases hGet with ⟨hCall, rfl⟩ | ⟨-, hGet⟩
    · rw [hCall]
      exact hSame draft hDraft
    · exact ⟨stage', hGet, hDraft⟩
  refine ⟨h.keyed, h.heads, h.tracked, fun draft hNow => h.drafts draft (hFlight draft hNow),
    fun draft hNow => h.untracked draft (hFlight draft hNow), ?_⟩
  intro call₁ call₂ stage₁ stage₂ draft₁ draft₂ hGet₁ hGet₂ hDraft₁ hDraft₂ hIds
  obtain ⟨old₁, hOld₁, hOldDraft₁⟩ := hStage call₁ stage₁ draft₁ hGet₁ hDraft₁
  obtain ⟨old₂, hOld₂, hOldDraft₂⟩ := hStage call₂ stage₂ draft₂ hGet₂ hDraft₂
  exact h.apart call₁ call₂ old₁ old₂ draft₁ draft₂ hOld₁ hOld₂ hOldDraft₁ hOldDraft₂ hIds

theorem linked_draft (h : Linked s) (hNames : NamesTracked s.maps draft.key draft.chain)
    (hNew : s.maps.sealsById.get draft.chain.current.sealId = none)
    (hApart : ∀ other, InFlight s other →
      other.chain.current.sealId ≠ draft.chain.current.sealId) :
    Linked (await s call (.signing draft)) := by
  refine ⟨h.keyed, h.heads, h.tracked, ?_, ?_, ?_⟩
  · intro other hFlight
    rcases inFlight_await hFlight with hOld | hSelf
    · exact h.drafts other hOld
    · cases hSelf
      exact hNames
  · intro other hFlight
    rcases inFlight_await hFlight with hOld | hSelf
    · exact h.untracked other hOld
    · cases hSelf
      exact hNew
  · intro call₁ call₂ stage₁ stage₂ draft₁ draft₂ hGet₁ hGet₂ hDraft₁ hDraft₂ hIds
    simp only [await, AssocMap.get_set] at hGet₁ hGet₂
    split at hGet₁
    · next hCall₁ =>
      cases hGet₁
      cases hDraft₁
      split at hGet₂
      · next hCall₂ => rw [hCall₁, hCall₂]
      · exact (hApart draft₂ ⟨call₂, stage₂, hGet₂, hDraft₂⟩ hIds.symm).elim
    · split at hGet₂
      · cases hGet₂
        cases hDraft₂
        exact (hApart draft₁ ⟨call₁, stage₁, hGet₁, hDraft₁⟩ hIds).elim
      · exact h.apart call₁ call₂ stage₁ stage₂ draft₁ draft₂ hGet₁ hGet₂ hDraft₁ hDraft₂ hIds

theorem namesTracked_track {maps : SealMaps} (hNew : maps.sealsById.get (sealIdOf envelope) = none)
    {chain : SealChain} (h : NamesTracked maps key chain) :
    NamesTracked (track maps draft envelope) key chain := by
  intro p hPrevious
  obtain ⟨e, hGet, hPayload, hKey⟩ := h p hPrevious
  refine ⟨e, ?_, hPayload, hKey⟩
  have hNe : p.sealId ≠ sealIdOf envelope := by
    intro hEq
    rw [← hEq, hGet] at hNew
    cases hNew
  show (maps.sealsById.set (sealIdOf envelope) envelope).get p.sealId = some e
  rw [AssocMap.get_set_of_ne _ _ hNe]
  exact hGet

theorem linked_track (hAligned : Aligned s) (h : Linked s)
    (hCall : s.calls.get call = some (.publishing draft envelope)) :
    Linked (endCall { s with maps := track s.maps draft envelope } call) := by
  have hFlight : InFlight s draft := ⟨call, _, hCall, rfl⟩
  have hChain := hAligned.signed call draft envelope hCall
  have hId : sealIdOf envelope = draft.chain.current.sealId := by
    rw [sealIdOf, hChain]
  have hNew : s.maps.sealsById.get (sealIdOf envelope) = none := by
    rw [hId]
    exact h.untracked draft hFlight
  have hOther : ∀ {id : String} {e : SealEnvelope}, s.maps.sealsById.get id = some e →
      id ≠ sealIdOf envelope := by
    intro id e hGet hEq
    rw [← hEq, hGet] at hNew
    cases hNew
  refine ⟨?_, ?_, ?_, ?_, ?_, ?_⟩
  · intro id e hGet
    simp only [endCall, track] at hGet
    rcases AssocMap.get_set_cases hGet with ⟨hEq, rfl⟩ | ⟨-, hGet⟩
    · exact hEq.symm
    · exact h.keyed id e hGet
  · intro key e hGet
    simp only [endCall, track, AssocMap.get_set] at hGet ⊢
    split at hGet
    · cases hGet
      rw [if_pos rfl]
    · have hTracked := h.heads key e hGet
      rw [if_neg (hOther hTracked)]
      exact hTracked
  · intro id e hGet
    simp only [endCall, track, AssocMap.get_set] at hGet
    apply namesTracked_track hNew
    split at hGet
    · cases hGet
      have hDraft := hAligned.drafts draft hFlight
      rw [hChain, ← hDraft.key]
      exact h.drafts draft hFlight
    · exact h.tracked id e hGet
  · intro other hNow
    exact namesTracked_track hNew (h.drafts other (inFlight_endCall hNow))
  · rintro other ⟨call', stage', hGet, hDraft⟩
    have hOld := get_endCall hGet
    have hNe : call' ≠ call := by
      rintro rfl
      simp only [endCall, AssocMap.get_delete, if_pos] at hGet
      cases hGet
    show (s.maps.sealsById.set (sealIdOf envelope) envelope).get _ = none
    rw [AssocMap.get_set_of_ne]
    · exact h.untracked other ⟨call', stage', hOld, hDraft⟩
    · intro hEq
      rw [hId] at hEq
      exact hNe (h.apart call' call stage' _ other draft hOld hCall hDraft rfl hEq)
  · intro call₁ call₂ stage₁ stage₂ draft₁ draft₂ hGet₁ hGet₂
    exact h.apart call₁ call₂ stage₁ stage₂ draft₁ draft₂ (get_endCall hGet₁)
      (get_endCall hGet₂)

theorem Built.names (hLinked : Linked s) (h : Built zod s label draft) :
    draft.key ∉ s.maps.revokedPairs ∧
      draft.chain.previous = (s.maps.currentSeals.get draft.key).map fun e => e.chain.current := by
  cases h with
  | issued call credentialId chatId drawnId input hCall hEvent hDraft =>
    obtain ⟨-, -, -, hLive, hBuild⟩ := issueWithInput_draft hDraft
    exact ⟨hLive, (buildSeal_ok hBuild).2.2.1⟩
  | refreshed call sealId drawnId hEvent hDraft =>
    obtain ⟨existing, hSeal, -, hKey, -, hLive, hHead, hBuild⟩ := refreshHead_ok hDraft
    obtain ⟨head, hGet, hId⟩ := Option.map_eq_some_iff.mp hHead
    have hTracked := hLinked.heads draft.key head hGet
    rw [hId, hSeal, Option.some.injEq] at hTracked
    refine ⟨hLive, ?_⟩
    rw [hGet, (buildSeal_ok hBuild).2.2.1, hTracked]
    rfl

theorem Built.namesTracked (hAligned : Aligned s) (hLinked : Linked s)
    (h : Built zod s label draft) :
    NamesTracked s.maps draft.key draft.chain := by
  intro p hPrevious
  rw [(h.names hLinked).2] at hPrevious
  obtain ⟨head, hGet, rfl⟩ := Option.map_eq_some_iff.mp hPrevious
  exact ⟨head, hLinked.heads draft.key head hGet, rfl, hAligned.heads draft.key head hGet⟩

/-- The id of a build is the drawn one. -/
theorem Built.fresh (hFresh : FreshSealIds s label) (h : Built zod s label draft) :
    s.maps.sealsById.get draft.chain.current.sealId = none ∧
      ∀ other, InFlight s other → other.chain.current.sealId ≠ draft.chain.current.sealId := by
  obtain ⟨drawnId, hDrawn, hBuild⟩ := h.chain
  have hId : draft.chain.current.sealId = drawnId := by
    rw [(buildSeal_ok hBuild).2.1]
    rfl
  rw [hId]
  exact hFresh drawnId hDrawn

theorem linked_step (hAligned : Aligned s) (h : Linked s) (hFresh : FreshSealIds s label)
    (hMove : SealMove zod s label s' out) : Linked s' := by
  have hBuilt : ∀ call draft, Built zod s label draft →
      Linked (await s call (.signing draft)) := by
    intro call draft hDraft
    obtain ⟨hNew, hApart⟩ := hDraft.fresh hFresh
    exact linked_draft h (hDraft.namesTracked hAligned h) hNew hApart
  cases hMove with
  | returned call result => exact linked_endCall h call
  | refused call error => exact h
  | revokeFailed call error => exact linked_endCall h call
  | revokeRefused call error => exact h
  | resolving call credentialId chatId hIdle hEvent =>
    exact linked_await h fun _ hEq => nomatch hEq
  | issued call credentialId chatId drawnId input draft hCall hEvent hDraft =>
    exact hBuilt call draft
      (.issued call credentialId chatId drawnId input hCall hEvent hDraft)
  | refreshed call sealId drawnId draft hIdle hEvent hDraft =>
    exact hBuilt call draft (.refreshed call sealId drawnId hEvent hDraft)
  | publishing call draft signature hCall hEvent =>
    refine linked_await h ?_
    intro draft' hEq
    cases hEq
    exact ⟨_, hCall, rfl⟩
  | published call draft envelope hCall hEvent => exact linked_track hAligned h hCall
  | revoking call sealId drawnId reason current revocation hIdle hEvent hRevoke =>
    exact linked_await h fun _ hEq => nomatch hEq
  | publishingRevocation call current revocation signature hCall hEvent =>
    exact linked_await h fun _ hEq => nomatch hEq
  | revoked call current hCall hEvent =>
    have hHeads : ∀ key e, (markRevoked s.maps (payloadKey current)).currentSeals.get key =
        some e → s.maps.sealsById.get (sealIdOf e) = some e := by
      intro key e hGet
      simp only [markRevoked] at hGet
      obtain ⟨-, hGet⟩ := AssocMap.of_get_delete hGet
      exact h.heads key e hGet
    have hMarked : Linked { s with maps := markRevoked s.maps (payloadKey current) } :=
      ⟨h.keyed, hHeads, h.tracked, h.drafts, h.untracked, h.apart⟩
    exact linked_endCall hMarked call

/-- A resolver that is faithful and ids that are fresh. -/
def Proper (s : SealState) (label : SealLabel) : Prop :=
  Faithful s label ∧ FreshSealIds s label

theorem linked_run (hRun : (sealMachine zod).Runs h s) (hProper : AllMeet Proper h) :
    Linked s := by
  have hInit : Linked (sealMachine zod).init := by
    refine ⟨?_, ?_, ?_, ?_, ?_, ?_⟩
    · intro id e hGet
      cases hGet
    · intro key e hGet
      cases hGet
    · intro id e hGet
      cases hGet
    · rintro draft ⟨call, stage, hGet, -⟩
      cases hGet
    · rintro draft ⟨call, stage, hGet, -⟩
      cases hGet
    · intro call call' stage stage' draft draft' hGet
      cases hGet
  refine hRun.guarded hProper hInit ?_
  intro h s label s' out hRun hMeets hLinked hNow hStep
  have hAligned := aligned_run hRun fun o ho => (hMeets o ho).1
  exact linked_step hAligned hLinked hNow.2 (sealStep_move hStep)

/-! ## The seals of a pair -/

def SealObservation.tracked : SealObservation → Option SealEnvelope
  | .published envelope => some envelope
  | _ => none

/-- The published seals of a history, oldest first. -/
def publishedSeals (h : List SealOccurrence) : List SealEnvelope :=
  (outputs h).filterMap SealObservation.tracked

theorem publishedSeals_snoc (h : List SealOccurrence) (o : SealOccurrence) :
    publishedSeals (h ++ [o]) = publishedSeals h ++ o.out.filterMap SealObservation.tracked := by
  simp [publishedSeals]

theorem tracked_of_move (hMove : SealMove zod s label s' out) :
    (∃ call draft envelope, s.calls.get call = some (.publishing draft envelope) ∧
      label.event = .published call (.ok ()) ∧
      out.filterMap SealObservation.tracked = [envelope] ∧
      s'.maps = track s.maps draft envelope) ∨
    (out.filterMap SealObservation.tracked = [] ∧ s'.maps.sealsById = s.maps.sealsById) := by
  cases hMove with
  | published call draft envelope hCall hEvent =>
    exact .inl ⟨call, draft, envelope, hCall, hEvent, rfl, rfl⟩
  | _ => exact .inr ⟨rfl, rfl⟩

/-- The tracked seals are the published ones, in the order of publication. -/
theorem values_run (hRun : (sealMachine zod).Runs h s) (hProper : AllMeet Proper h) :
    s.maps.sealsById.values = publishedSeals h := by
  induction hRun with
  | start => rfl
  | @step h s s' label out hRun hStep ih =>
    rw [allMeet_snoc] at hProper
    have hLinked := linked_run hRun hProper.1
    have hAligned := aligned_run hRun fun o ho => (hProper.1 o ho).1
    rw [publishedSeals_snoc, ← ih hProper.1]
    rcases tracked_of_move (sealStep_move hStep) with
      ⟨call, draft, envelope, hCall, -, hOut, hMaps⟩ | ⟨hOut, hMaps⟩
    · have hNew : s.maps.sealsById.get (sealIdOf envelope) = none := by
        rw [sealIdOf, hAligned.signed call draft envelope hCall]
        exact hLinked.untracked draft ⟨call, _, hCall, rfl⟩
      rw [hMaps, hOut]
      exact AssocMap.values_set_of_absent envelope hNew
    · rw [hMaps, hOut, List.append_nil]

/-- The tracked seals with a key, in the order of tracking. -/
def pairSeals (s : SealState) (key : String) : List SealEnvelope :=
  s.maps.sealsById.values.filter fun e => payloadKey e.chain.current = key

theorem mem_pairSeals {e : SealEnvelope} :
    e ∈ pairSeals s key ↔
      (∃ id, s.maps.sealsById.get id = some e) ∧ payloadKey e.chain.current = key := by
  simp [pairSeals, AssocMap.mem_values]

/-- Ids tell the tracked seals apart. -/
theorem nodup_ids (hLinked : Linked s) :
    (s.maps.sealsById.values.map sealIdOf).Nodup := by
  have hKeys : s.maps.sealsById.values.map sealIdOf = s.maps.sealsById.keys := by
    unfold AssocMap.values AssocMap.keys
    rw [List.map_map]
    refine List.map_congr_left ?_
    rintro ⟨id, e⟩ hMem
    exact hLinked.keyed id e (AssocMap.get_eq_some_iff.mpr hMem)
  rw [hKeys]
  exact s.maps.sealsById.nodup_keys

theorem nodup_pairSeals (hLinked : Linked s) (key : String) :
    ((pairSeals s key).map sealIdOf).Nodup :=
  (nodup_ids hLinked).sublist (List.filter_sublist.map sealIdOf)

theorem namesTracked_mem (hLinked : Linked s) {chain : SealChain}
    (hNames : NamesTracked s.maps key chain) {id : String}
    (hId : (chain.previous.map fun p => p.sealId) = some id) :
    ∃ a ∈ pairSeals s key, sealIdOf a = id ∧ chain.previous = some a.chain.current := by
  obtain ⟨p, hPrevious, rfl⟩ := Option.map_eq_some_iff.mp hId
  obtain ⟨e, hGet, hPayload, hKey⟩ := hNames p hPrevious
  refine ⟨e, mem_pairSeals.mpr ⟨⟨p.sealId, hGet⟩, ?_⟩, hLinked.keyed _ e hGet, ?_⟩
  · rw [hPayload, hKey]
  · rw [hPayload, hPrevious]

/-! ## Lineage and head -/

/-- A draft is published while the head it continues is still the head. -/
def HeadUnchanged (s : SealState) (label : SealLabel) : Prop :=
  ∀ call draft envelope, s.calls.get call = some (.publishing draft envelope) →
    label.event = .published call (.ok ()) →
    (s.maps.currentSeals.get draft.key).map sealIdOf = previousId envelope

/-- A draft is published while its pair is not revoked. -/
def PublishedUnrevoked (s : SealState) (label : SealLabel) : Prop :=
  ∀ call draft envelope, s.calls.get call = some (.publishing draft envelope) →
    label.event = .published call (.ok ()) → draft.key ∉ s.maps.revokedPairs

/-- The seals of each pair form a lineage, which ends in the head of the pair
unless the pair is revoked. -/
structure ChainOf (s : SealState) : Prop where
  lineage : ∀ key, Lineage sealIdOf previousId (pairSeals s key)
  head : ∀ key, s.maps.currentSeals.get key =
    if key ∈ s.maps.revokedPairs then none else (pairSeals s key).getLast?

theorem pairSeals_track (hNew : s.maps.sealsById.get (sealIdOf envelope) = none)
    (hMaps : s'.maps = track s.maps draft envelope) (key : String) :
    pairSeals s' key =
      if payloadKey envelope.chain.current = key then pairSeals s key ++ [envelope]
      else pairSeals s key := by
  unfold pairSeals
  rw [hMaps, show (track s.maps draft envelope).sealsById =
    s.maps.sealsById.set (sealIdOf envelope) envelope from rfl,
    AssocMap.values_set_of_absent envelope hNew, List.filter_append]
  split
  · next hKey => rw [List.filter_cons_of_pos (by simpa using hKey), List.filter_nil]
  · next hKey =>
    rw [List.filter_cons_of_neg (by simpa using hKey), List.filter_nil, List.append_nil]

/-- Publishing a draft whose head is unchanged continues the lineage. -/
theorem chainOf_step (hAligned : Aligned s) (hLinked : Linked s) (h : ChainOf s)
    (hHead : HeadUnchanged s label) (hLive : PublishedUnrevoked s label)
    (hMove : SealMove zod s label s' out) : ChainOf s' := by
  cases hMove with
  | published call draft envelope hCall hEvent =>
    have hFlight : InFlight s draft := ⟨call, _, hCall, rfl⟩
    have hChain := hAligned.signed call draft envelope hCall
    have hKey : payloadKey envelope.chain.current = draft.key := by
      rw [hChain, (hAligned.drafts draft hFlight).key]
    have hNew : s.maps.sealsById.get (sealIdOf envelope) = none := by
      rw [sealIdOf, hChain]
      exact hLinked.untracked draft hFlight
    have hUnrevoked := hLive call draft envelope hCall hEvent
    have hLast := h.head draft.key
    rw [if_neg hUnrevoked] at hLast
    have hParent := hHead call draft envelope hCall hEvent
    rw [hLast] at hParent
    constructor
    · intro key
      rw [pairSeals_track hNew rfl, hKey]
      split
      · next hSame =>
        subst hSame
        exact .snoc (h.lineage draft.key) hParent.symm
      · exact h.lineage key
    · intro key
      rw [pairSeals_track hNew rfl, hKey]
      show (s.maps.currentSeals.set draft.key envelope).get key =
        if key ∈ s.maps.revokedPairs then none else _
      rw [AssocMap.get_set]
      split
      · next hSame =>
        subst hSame
        rw [if_neg hUnrevoked, if_pos rfl, List.getLast?_concat]
      · next hOther =>
        have hNe : ¬ draft.key = key := fun hEq => hOther hEq.symm
        rw [if_neg hNe]
        exact h.head key
  | revoked call current hCall hEvent =>
    refine ⟨h.lineage, ?_⟩
    intro key
    show (s.maps.currentSeals.delete (payloadKey current)).get key =
      if key ∈ s.maps.revokedPairs.add (payloadKey current) then none else _
    rw [AssocMap.get_delete]
    split
    · next hSame => rw [if_pos (OrderedSet.mem_add.mpr (.inl hSame))]
    · next hOther =>
      have hMem : key ∈ s.maps.revokedPairs.add (payloadKey current) ↔
          key ∈ s.maps.revokedPairs := by
        rw [OrderedSet.mem_add]
        exact or_iff_right hOther
      simp only [hMem]
      exact h.head key
  | _ => exact ⟨h.lineage, h.head⟩

theorem chainOf_init (zod : ZodEnv) : ChainOf (sealMachine zod).init :=
  ⟨fun _ => .nil, fun _ => rfl⟩

/-! ## The first seal -/

theorem not_inFlight_of_idle (h : s.calls = .empty) (draft : Draft) :
    ¬ InFlight s draft := by
  rintro ⟨call, stage, hGet, -⟩
  rw [h] at hGet
  cases hGet

theorem firstSeal_proper : AllMeet Proper firstSealHistory := by
  intro o ho
  refine ⟨firstSeal_faithful o ho, ?_⟩
  simp only [firstSealHistory, List.mem_cons, List.not_mem_nil, or_false] at ho
  rcases ho with rfl | rfl | rfl | rfl
  · intro id hDrawn
    cases hDrawn
  · intro id hDrawn
    cases hDrawn
    refine ⟨rfl, ?_⟩
    intro draft hFlight
    rcases inFlight_await hFlight with hOld | hNew
    · exact (not_inFlight_of_idle rfl draft hOld).elim
    · cases hNew
  · intro id hDrawn
    cases hDrawn
  · intro id hDrawn
    cases hDrawn

theorem refresh_proper : AllMeet Proper (firstSealHistory ++ refreshHistory) := by
  refine (allMeet_append _ _ _).mpr ⟨firstSeal_proper, ?_⟩
  intro o ho
  simp only [refreshHistory, List.mem_cons, List.not_mem_nil, or_false] at ho
  rcases ho with rfl | rfl | rfl
  · refine ⟨?_, ?_⟩
    · intro call input drawnId credentialId chatId hEvent
      cases hEvent
    · intro id hDrawn
      cases hDrawn
      exact ⟨rfl, fun draft hFlight => (not_inFlight_of_idle rfl draft hFlight).elim⟩
  all_goals
    refine ⟨?_, ?_⟩
    · intro call input drawnId credentialId chatId hEvent
      cases hEvent
    · intro id hDrawn
      cases hDrawn

end Seals
end Signet
