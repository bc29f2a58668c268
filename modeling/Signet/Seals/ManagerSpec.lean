import Signet.Seals.Manager

/-!
# What a step of the seal manager can do

* `SealMove` — the moves of the manager, one constructor for each kind, with
  everything a later proof needs; `sealStep_move` says that every step is one.
* `Faithful` — a resolver that answers for the credential and chat it was asked for.
* `Aligned` — tracked seals, heads, inputs and drafts agree on their pair.
-/

namespace Signet
namespace Seals

open Kit Machine Schemas

/-- A step of the manager with what it made observable. -/
abbrev SealOccurrence := Occurrence SealState SealLabel SealObservation

def SealEvent.drawnId : SealEvent → Option String
  | .inputResolved _ _ drawnId => some drawnId
  | .refresh _ _ drawnId => some drawnId
  | _ => none

/-- A move of the manager. -/
inductive SealMove (zod : ZodEnv) (s : SealState) (label : SealLabel) :
    SealState → List SealObservation → Prop
  /-- `issue` or `refresh` returns without tracking anything. -/
  | returned (call : Nat) (result : Except SignetError SealEnvelope) :
      SealMove zod s label (endCall s call) [.returned call result]
  /-- `refresh` is refused at once. -/
  | refused (call : Nat) (error : SignetError) :
      SealMove zod s label s [.returned call (.error error)]
  /-- `revoke` fails at one of its awaits. -/
  | revokeFailed (call : Nat) (error : SignetError) :
      SealMove zod s label (endCall s call) [.revokeFailed call error]
  /-- `revoke` is refused at once. -/
  | revokeRefused (call : Nat) (error : SignetError) :
      SealMove zod s label s [.revokeFailed call error]
  /-- `issue` asks the resolver. -/
  | resolving (call : Nat) (credentialId chatId : String) :
      s.calls.get call = none → label.event = .issue call credentialId chatId →
      SealMove zod s label (await s call (.resolving credentialId chatId)) []
  /-- `issue` has built a draft. -/
  | issued (call : Nat) (credentialId chatId drawnId : String) (input : SealInput)
      (draft : Draft) :
      s.calls.get call = some (.resolving credentialId chatId) →
      label.event = .inputResolved call (.ok input) drawnId →
      issueWithInput zod label.now drawnId s.maps chatId input = .ok (.draft draft) →
      SealMove zod s label (await s call (.signing draft)) []
  /-- `refresh` has built a draft. -/
  | refreshed (call : Nat) (sealId drawnId : String) (draft : Draft) :
      s.calls.get call = none → label.event = .refresh call sealId drawnId →
      refreshHead zod label.now drawnId s.maps sealId = .ok draft →
      SealMove zod s label (await s call (.signing draft)) []
  | publishing (call : Nat) (draft : Draft) (signature : SealSignature) :
      s.calls.get call = some (.signing draft) → label.event = .signed call (.ok signature) →
      SealMove zod s label (await s call (.publishing draft (draft.envelope signature)))
        [.publishing draft.chatId (draft.envelope signature)]
  | published (call : Nat) (draft : Draft) (envelope : SealEnvelope) :
      s.calls.get call = some (.publishing draft envelope) →
      label.event = .published call (.ok ()) →
      SealMove zod s label (endCall { s with maps := track s.maps draft envelope } call)
        [.published envelope, .returned call (.ok envelope)]
  /-- `revoke` asks for a signature. -/
  | revoking (call : Nat) (sealId drawnId : String) (reason : AgentRevocationReason)
      (current : SealPayload) (revocation : RevocationSeal) :
      s.calls.get call = none → label.event = .revoke call sealId reason drawnId →
      revokeSeal zod label.now drawnId s.maps sealId reason = .ok (current, revocation) →
      SealMove zod s label (await s call (.signingRevocation current revocation)) []
  | publishingRevocation (call : Nat) (current : SealPayload) (revocation : RevocationSeal)
      (signature : SealSignature) :
      s.calls.get call = some (.signingRevocation current revocation) →
      label.event = .signed call (.ok signature) →
      SealMove zod s label (await s call (.publishingRevocation current))
        [.publishingRevocation current.chatId
          ⟨revocation, signature.signature, signature.keyId⟩]
  /-- A published revocation marks its pair. -/
  | revoked (call : Nat) (current : SealPayload) :
      s.calls.get call = some (.publishingRevocation current) →
      label.event = .published call (.ok ()) →
      SealMove zod s label
        (endCall { s with maps := markRevoked s.maps (payloadKey current) } call)
        [.revoked call current]

variable {now : Int} {call : Nat} {stage : SealStage} {s : SealState} {drawnId : String}
  {zod : ZodEnv} {out : List SealObservation}

/-- Every step is one of the moves. -/
theorem sealStep_move {s' : SealState} {label : SealLabel}
    (h : sealStep zod s label = some (s', out)) :
    SealMove zod s label s' out := by
  obtain ⟨now, event⟩ := label
  cases event with
  | issue call credentialId chatId =>
    simp only [sealStep] at h
    split at h
    · cases h
    · next hIdle =>
      cases h
      exact .resolving call credentialId chatId (by simpa using hIdle) rfl
  | inputResolved call result drawnId =>
    simp only [sealStep] at h
    split at h
    · next credentialId chatId hCall =>
      have hPair := Option.some.inj h
      unfold onInputResolved at hPair
      split at hPair
      · cases hPair
        exact .returned call _
      · next input =>
        split at hPair
        · cases hPair
          exact .returned call _
        · cases hPair
          exact .returned call _
        · next draft hDraft =>
          cases hPair
          exact .issued call credentialId chatId drawnId input draft hCall rfl hDraft
    · cases h
  | refresh call sealId drawnId =>
    simp only [sealStep] at h
    split at h
    · cases h
    · next hIdle =>
      split at h
      · cases h
        exact .refused call _
      · next draft hDraft =>
        cases h
        exact .refreshed call sealId drawnId draft (by simpa using hIdle) rfl hDraft
  | revoke call sealId reason drawnId =>
    simp only [sealStep] at h
    split at h
    · cases h
    · next hIdle =>
      split at h
      · cases h
        exact .revokeRefused call _
      · next current revocation hRevoke =>
        cases h
        exact .revoking call sealId drawnId reason current revocation (by simpa using hIdle)
          rfl hRevoke
  | signed call result =>
    obtain ⟨stage, hCall, hSigned⟩ := Option.bind_eq_some_iff.mp h
    unfold onSigned at hSigned
    split at hSigned
    · next draft =>
      split at hSigned
      · cases hSigned
        exact .returned call _
      · next signature =>
        cases hSigned
        exact .publishing call draft signature hCall rfl
    · next current revocation =>
      split at hSigned
      · cases hSigned
        exact .revokeFailed call _
      · next signature =>
        cases hSigned
        exact .publishingRevocation call current revocation signature hCall rfl
    · cases hSigned
  | published call result =>
    obtain ⟨stage, hCall, hPublished⟩ := Option.bind_eq_some_iff.mp h
    unfold onPublished at hPublished
    split at hPublished
    · next draft envelope =>
      split at hPublished
      · cases hPublished
        exact .returned call _
      · cases hPublished
        exact .published call draft envelope hCall rfl
    · next current =>
      split at hPublished
      · cases hPublished
        exact .revokeFailed call _
      · cases hPublished
        exact .revoked call current hCall rfl
    · cases hPublished

/-! ## The segments -/

/-- A draft of `issue` continues the head of a pair that is not revoked. -/
theorem issueWithInput_draft {chatId : String} {maps : SealMaps} {input : SealInput} {draft : Draft}
    (h : issueWithInput zod now drawnId maps chatId input = .ok (.draft draft)) :
    draft.key = chainKey input.credentialId chatId ∧ draft.chatId = chatId ∧
      draft.input = input ∧ draft.key ∉ maps.revokedPairs ∧
      buildSeal zod now drawnId input
        ((maps.currentSeals.get draft.key).map fun e => e.chain.current) = .ok draft.chain := by
  unfold issueWithInput at h
  simp only at h
  split at h
  · cases h
  · next hLive =>
    split at h
    · cases h
    · cases hBuild : buildSeal zod now drawnId input
        ((maps.currentSeals.get (chainKey input.credentialId chatId)).map
          fun e => e.chain.current) with
      | error error =>
        rw [hBuild] at h
        cases h
      | ok chain =>
        rw [hBuild] at h
        cases h
        exact ⟨rfl, rfl, rfl, hLive, hBuild⟩

/-- A draft of `refresh` continues the tracked seal, whose id is that of the head
of a pair that is not revoked. -/
theorem refreshHead_ok {sealId : String} {maps : SealMaps} {draft : Draft}
    (h : refreshHead zod now drawnId maps sealId = .ok draft) :
    ∃ existing, maps.sealsById.get sealId = some existing ∧
      maps.inputsBySealId.get sealId = some draft.input ∧
      draft.key = payloadKey existing.chain.current ∧
      draft.chatId = existing.chain.current.chatId ∧ draft.key ∉ maps.revokedPairs ∧
      (maps.currentSeals.get draft.key).map sealIdOf = some sealId ∧
      buildSeal zod now drawnId draft.input (some existing.chain.current) = .ok draft.chain := by
  unfold refreshHead at h
  split at h
  · cases h
  · next existing hSeal =>
    split at h
    · cases h
    · next input hInput =>
      simp only at h
      split at h
      · cases h
      · next hHead =>
        split at h
        · cases h
        · next hLive =>
          cases hBuild : buildSeal zod now drawnId input (some existing.chain.current) with
          | error error =>
            rw [hBuild] at h
            cases h
          | ok chain =>
            rw [hBuild] at h
            cases h
            exact ⟨existing, hSeal, hInput, rfl, rfl, hLive, not_not.mp hHead, hBuild⟩

/-! ## What a move leaves -/

/-- The draft that a call takes along. -/
def SealStage.draft : SealStage → Option Draft
  | .signing draft => some draft
  | .publishing draft _ => some draft
  | _ => none

/-- A draft of some call in flight. -/
def InFlight (s : SealState) (draft : Draft) : Prop :=
  ∃ call stage, s.calls.get call = some stage ∧ stage.draft = some draft

inductive Built (zod : ZodEnv) (s : SealState) (label : SealLabel) (draft : Draft) : Prop
  | issued (call : Nat) (credentialId chatId drawnId : String) (input : SealInput) :
      s.calls.get call = some (.resolving credentialId chatId) →
      label.event = .inputResolved call (.ok input) drawnId →
      issueWithInput zod label.now drawnId s.maps chatId input = .ok (.draft draft) →
      Built zod s label draft
  | refreshed (call : Nat) (sealId drawnId : String) :
      label.event = .refresh call sealId drawnId →
      refreshHead zod label.now drawnId s.maps sealId = .ok draft →
      Built zod s label draft

/-- The stage that a move brings a call to. -/
inductive Entered (zod : ZodEnv) (s : SealState) (label : SealLabel) (call : Nat) :
    SealStage → Prop
  | resolving (credentialId chatId : String) :
      Entered zod s label call (.resolving credentialId chatId)
  | signing (draft : Draft) :
      Built zod s label draft → Entered zod s label call (.signing draft)
  | publishing (draft : Draft) (signature : SealSignature) :
      s.calls.get call = some (.signing draft) →
      Entered zod s label call (.publishing draft (draft.envelope signature))
  | signingRevocation (sealId drawnId : String) (reason : AgentRevocationReason)
      (current : SealPayload) (revocation : RevocationSeal) :
      label.event = .revoke call sealId reason drawnId →
      Entered zod s label call (.signingRevocation current revocation)
  | publishingRevocation (current : SealPayload) (revocation : RevocationSeal) :
      s.calls.get call = some (.signingRevocation current revocation) →
      Entered zod s label call (.publishingRevocation current)

variable {s' : SealState} {label : SealLabel} {draft : Draft}

/-- What a build makes, with the predecessor it names. -/
theorem Built.chain (h : Built zod s label draft) :
    ∃ drawnId, label.event.drawnId = some drawnId ∧
      buildSeal zod label.now drawnId draft.input draft.chain.previous = .ok draft.chain := by
  cases h with
  | issued call credentialId chatId drawnId input hCall hEvent hDraft =>
    obtain ⟨-, -, rfl, -, hBuild⟩ := issueWithInput_draft hDraft
    refine ⟨drawnId, by rw [hEvent]; rfl, ?_⟩
    rw [(buildSeal_ok hBuild).2.2.1]
    exact hBuild
  | refreshed call sealId drawnId hEvent hDraft =>
    obtain ⟨existing, -, -, -, -, -, -, hBuild⟩ := refreshHead_ok hDraft
    refine ⟨drawnId, by rw [hEvent]; rfl, ?_⟩
    rw [(buildSeal_ok hBuild).2.2.1]
    exact hBuild

theorem inFlight_await {draft : Draft} (h : InFlight (await s call stage) draft) :
    InFlight s draft ∨ stage.draft = some draft := by
  obtain ⟨call', stage', hGet, hDraft⟩ := h
  simp only [await] at hGet
  rcases AssocMap.get_set_cases hGet with ⟨-, rfl⟩ | ⟨-, hGet⟩
  · exact .inr hDraft
  · exact .inl ⟨call', stage', hGet, hDraft⟩

theorem inFlight_endCall {draft : Draft} (h : InFlight (endCall s call) draft) :
    InFlight s draft := by
  obtain ⟨call', stage', hGet, hDraft⟩ := h
  simp only [endCall] at hGet
  obtain ⟨-, hGet⟩ := AssocMap.of_get_delete hGet
  exact ⟨call', stage', hGet, hDraft⟩

theorem get_endCall {call' : Nat} (h : (endCall s call).calls.get call' = some stage) :
    s.calls.get call' = some stage := by
  simp only [endCall] at h
  exact (AssocMap.of_get_delete h).2

/-- What a call awaits after a step it awaited before, or the step has brought it there. -/
theorem stage_of_move (hMove : SealMove zod s label s' out)
    (hGet : s'.calls.get call = some stage) :
    s.calls.get call = some stage ∨ Entered zod s label call stage := by
  have hEnters : ∀ {call' : Nat} {stage' : SealStage}, Entered zod s label call' stage' →
      (await s call' stage').calls.get call = some stage →
      s.calls.get call = some stage ∨ Entered zod s label call stage := by
    intro call' stage' hEntered hGet
    rcases AssocMap.get_set_cases hGet with ⟨rfl, rfl⟩ | ⟨-, hGet⟩
    · exact .inr hEntered
    · exact .inl hGet
  cases hMove with
  | returned call' result => exact .inl (get_endCall hGet)
  | refused call' error => exact .inl hGet
  | revokeFailed call' error => exact .inl (get_endCall hGet)
  | revokeRefused call' error => exact .inl hGet
  | resolving call' credentialId chatId hIdle hEvent =>
    exact hEnters (.resolving credentialId chatId) hGet
  | issued call' credentialId chatId drawnId input draft hCall hEvent hDraft =>
    exact hEnters (.signing draft
      (.issued call' credentialId chatId drawnId input hCall hEvent hDraft)) hGet
  | refreshed call' sealId drawnId draft hIdle hEvent hDraft =>
    exact hEnters (.signing draft (.refreshed call' sealId drawnId hEvent hDraft)) hGet
  | publishing call' draft signature hCall hEvent =>
    exact hEnters (.publishing draft signature hCall) hGet
  | published call' draft envelope hCall hEvent => exact .inl (get_endCall hGet)
  | revoking call' sealId drawnId reason current revocation hIdle hEvent hRevoke =>
    exact hEnters (.signingRevocation sealId drawnId reason current revocation hEvent) hGet
  | publishingRevocation call' current revocation signature hCall hEvent =>
    exact hEnters (.publishingRevocation current revocation hCall) hGet
  | revoked call' current hCall hEvent => exact .inl (get_endCall hGet)

/-- What is on its way after a step was so before, or the step has built it. -/
theorem inFlight_of_move (hMove : SealMove zod s label s' out) (hFlight : InFlight s' draft) :
    InFlight s draft ∨ Built zod s label draft := by
  obtain ⟨call, stage, hGet, hDraft⟩ := hFlight
  rcases stage_of_move hMove hGet with hOld | hEntered
  · exact .inl ⟨call, stage, hOld, hDraft⟩
  · cases hEntered with
    | signing draft' hBuilt =>
      cases hDraft
      exact .inr hBuilt
    | publishing draft' signature hCall =>
      cases hDraft
      exact .inl ⟨call, _, hCall, rfl⟩
    | resolving => cases hDraft
    | signingRevocation => cases hDraft
    | publishingRevocation => cases hDraft

section

variable (hSigned : ∀ call draft e, s.calls.get call = some (.publishing draft e) →
  e.chain = draft.chain) (hMove : SealMove zod s label s' out)

include hSigned hMove

theorem signed_of_move : ∀ call draft e, s'.calls.get call = some (.publishing draft e) →
    e.chain = draft.chain := by
  intro call draft e hGet
  rcases stage_of_move hMove hGet with hOld | hEntered
  · exact hSigned call draft e hOld
  · cases hEntered
    rfl

theorem head_of_move {key : String} {head : SealEnvelope}
    (hGet : s'.maps.currentSeals.get key = some head) :
    s.maps.currentSeals.get key = some head ∨
      ∃ draft, InFlight s draft ∧ head.chain = draft.chain ∧ draft.key = key := by
  cases hMove with
  | published call draft envelope hCall hEvent =>
    simp only [endCall, track] at hGet
    rcases AssocMap.get_set_cases hGet with ⟨hKey, rfl⟩ | ⟨-, hGet⟩
    · exact Or.inr ⟨draft, ⟨call, _, hCall, rfl⟩, hSigned call draft head hCall, hKey.symm⟩
    · exact Or.inl hGet
  | revoked call current hCall hEvent =>
    simp only [endCall, markRevoked] at hGet
    obtain ⟨-, hGet⟩ := AssocMap.of_get_delete hGet
    exact Or.inl hGet
  | _ => exact Or.inl hGet

theorem seal_of_move {id : String} {e : SealEnvelope}
    (hGet : s'.maps.sealsById.get id = some e) :
    (s.maps.sealsById.get id = some e ∧
        s'.maps.inputsBySealId.get id = s.maps.inputsBySealId.get id) ∨
      ∃ draft, InFlight s draft ∧ e.chain = draft.chain ∧
        s'.maps.inputsBySealId.get id = some draft.input := by
  cases hMove with
  | published call draft envelope hCall hEvent =>
    simp only [endCall, track, AssocMap.get_set] at hGet ⊢
    split at hGet
    · next hId =>
      cases hGet
      rw [if_pos hId]
      exact Or.inr ⟨draft, ⟨call, _, hCall, rfl⟩, hSigned call draft e hCall, rfl⟩
    · next hId =>
      rw [if_neg hId]
      exact Or.inl ⟨hGet, rfl⟩
  | _ => exact Or.inl ⟨hGet, rfl⟩

end

/-! ## Pairs -/

/-- The ids of a payload have no colon, as its schema demands. -/
structure ColonFree (payload : SealPayload) : Prop where
  credentialId : ':' ∉ payload.credentialId.toList
  chatId : ':' ∉ payload.chatId.toList

/-- Two payloads of one credential and chat. -/
def SamePair (p q : SealPayload) : Prop :=
  p.credentialId = q.credentialId ∧ p.chatId = q.chatId

theorem payloadKey_eq_chainKey_iff {p : SealPayload} (hp : ColonFree p)
    {credentialId chatId : String} :
    payloadKey p = chainKey credentialId chatId ↔
      p.credentialId = credentialId ∧ p.chatId = chatId := by
  constructor
  · intro h
    have hLists : p.credentialId.toList ++ ':' :: p.chatId.toList =
        credentialId.toList ++ ':' :: chatId.toList := by
      have hText := congrArg String.toList h
      simpa [payloadKey, chainKey, String.toList_append] using hText
    obtain ⟨hCredential, -, hChat⟩ :=
      (List.append_cons_inj_of_notMem hp.credentialId hp.chatId).mp hLists
    exact ⟨String.toList_injective hCredential, String.toList_injective hChat⟩
  · rintro ⟨hCredential, hChat⟩
    rw [payloadKey, hCredential, hChat]

theorem samePair_iff {p q : SealPayload} (hp : ColonFree p) :
    payloadKey p = payloadKey q ↔ SamePair p q :=
  payloadKey_eq_chainKey_iff hp

/-! ## Alignment -/

/-- The resolver answers for the credential and chat it was asked for. -/
def Faithful (s : SealState) (label : SealLabel) : Prop :=
  ∀ call input drawnId credentialId chatId,
    label.event = .inputResolved call (.ok input) drawnId →
    s.calls.get call = some (.resolving credentialId chatId) →
    input.credentialId = credentialId ∧ input.chatId = chatId

/-- The ids of an input are those of a payload. -/
structure AnswersFor (input : SealInput) (payload : SealPayload) : Prop where
  credentialId : input.credentialId = payload.credentialId
  operatorId : input.operatorId = payload.operatorId
  chatId : input.chatId = payload.chatId

structure AlignedDraft (draft : Draft) : Prop where
  key : draft.key = payloadKey draft.chain.current
  chatId : draft.chatId = draft.chain.current.chatId
  input : AnswersFor draft.input draft.chain.current
  colonFree : ColonFree draft.chain.current

/-- Tracked seals, heads, inputs and calls agree on their pair. -/
structure Aligned (s : SealState) : Prop where
  heads : ∀ key e, s.maps.currentSeals.get key = some e → payloadKey e.chain.current = key
  inputs : ∀ id e input, s.maps.sealsById.get id = some e →
    s.maps.inputsBySealId.get id = some input → AnswersFor input e.chain.current
  tracked : ∀ id e, s.maps.sealsById.get id = some e → ColonFree e.chain.current
  drafts : ∀ draft, InFlight s draft → AlignedDraft draft
  signed : ∀ call draft e, s.calls.get call = some (.publishing draft e) → e.chain = draft.chain

theorem colonFree_of_issues {payload : SealPayload} (h : sealPayloadIssues zod payload = []) :
    ColonFree payload := by
  obtain ⟨-, hCredential, -, hChat⟩ := ids_of_sealPayloadIssues_eq_nil h
  exact ⟨colon_not_mem_of_isResourceId hCredential, colon_not_mem_of_isResourceId hChat⟩

theorem alignedDraft_of_build {draft : Draft} {previous : Option SealPayload}
    (hBuild : buildSeal zod now drawnId draft.input previous = .ok draft.chain)
    (hKey : draft.key = chainKey draft.input.credentialId draft.chatId)
    (hChat : draft.input.chatId = draft.chatId) : AlignedDraft draft := by
  obtain ⟨hIssues, hPayload, -, -⟩ := buildSeal_ok hBuild
  refine ⟨?_, ?_, ?_, colonFree_of_issues hIssues⟩
  · rw [hKey, hPayload, ← hChat]
    rfl
  · rw [hPayload, ← hChat]
    rfl
  · rw [hPayload]
    exact ⟨rfl, rfl, rfl⟩

theorem aligned_step {s' : SealState} {label : SealLabel} (h : Aligned s)
    (hFaithful : Faithful s label) (hMove : SealMove zod s label s' out) :
    Aligned s' := by
  have hBuilt : ∀ draft, Built zod s label draft → AlignedDraft draft := by
    intro draft hMade
    cases hMade with
    | issued call credentialId chatId drawnId input hCall hEvent hDraft =>
      obtain ⟨hKey, hChat, rfl, -, hBuild⟩ := issueWithInput_draft hDraft
      obtain ⟨-, hInputChat⟩ := hFaithful call _ drawnId credentialId chatId hEvent hCall
      exact alignedDraft_of_build hBuild (by rw [hKey, hChat]) (by rw [hInputChat, hChat])
    | refreshed call sealId drawnId hEvent hDraft =>
      obtain ⟨existing, hSeal, hInput, hKey, hChat, -, -, hBuild⟩ := refreshHead_ok hDraft
      have hAnswers := h.inputs sealId existing draft.input hSeal hInput
      refine alignedDraft_of_build hBuild ?_ (by rw [hAnswers.chatId, hChat])
      rw [hKey, hChat, hAnswers.credentialId]
      rfl
  refine ⟨?_, ?_, ?_, ?_, signed_of_move h.signed hMove⟩
  · intro key e hGet
    rcases head_of_move h.signed hMove hGet with hOld | ⟨draft, hFlight, hChain, hKey⟩
    · exact h.heads key e hOld
    · rw [← hKey, hChain, (h.drafts draft hFlight).key]
  · intro id e input hSeal hInput
    rcases seal_of_move h.signed hMove hSeal with ⟨hOld, hSame⟩ | ⟨draft, hFlight, hChain, hNew⟩
    · exact h.inputs id e input hOld (hSame ▸ hInput)
    · rw [hNew] at hInput
      cases hInput
      rw [hChain]
      exact (h.drafts draft hFlight).input
  · intro id e hSeal
    rcases seal_of_move h.signed hMove hSeal with ⟨hOld, -⟩ | ⟨draft, hFlight, hChain, -⟩
    · exact h.tracked id e hOld
    · rw [hChain]
      exact (h.drafts draft hFlight).colonFree
  · intro draft hFlight
    rcases inFlight_of_move hMove hFlight with hOld | hMade
    · exact h.drafts draft hOld
    · exact hBuilt draft hMade

theorem aligned_run {h : List SealOccurrence} (hRun : (sealMachine zod).Runs h s)
    (hFaithful : AllMeet Faithful h) : Aligned s := by
  have hInit : Aligned (sealMachine zod).init := by
    refine ⟨?_, ?_, ?_, ?_, ?_⟩
    · intro key e hGet
      cases hGet
    · intro id e input hGet
      cases hGet
    · intro id e hGet
      cases hGet
    · rintro draft ⟨call, stage, hGet, -⟩
      cases hGet
    · intro call draft e hGet
      cases hGet
  refine hRun.guarded hFaithful hInit ?_
  intro h s label s' out _ _ hAligned hMeets hStep
  exact aligned_step hAligned hMeets (sealStep_move hStep)

theorem firstSeal_faithful : AllMeet Faithful firstSealHistory := by
  intro o ho call input drawnId credentialId chatId hEvent hCall
  simp only [firstSealHistory, List.mem_cons, List.not_mem_nil, or_false] at ho
  rcases ho with rfl | rfl | rfl | rfl
  · cases hEvent
  · cases hEvent
    cases hCall
    exact ⟨rfl, rfl⟩
  · cases hEvent
  · cases hEvent

end Seals
end Signet
