import Signet.Cli.ScopeNarrowing

/-!
# The authority behind a sent message

`deps.sendMessage` should only ever be called while the stored credential is
active, allowed to send, and scoped to the chat.  The handler checks all three,
but on snapshots, and awaits before the call: the direct path looks the
credential up again after the first await and then reads its status only; the
confirmation path does not look again at all.

* `Authorizes` — the store backs a message of a credential at this moment.
* `needsActive`, `needsSend` — what a call in flight has checked and will not
  check again.
* `Undisturbed` — a step takes none of that away from the calls in flight.
* `sends_authorized` — in a run of undisturbed steps every message is backed when
  it is sent.
-/

namespace Signet
namespace Cli

open Kit Machine Schemas Policy Sessions

/-- The stored credential is active, may send, and is scoped to the chat. -/
def Authorizes (store : CredentialStore) (credentialId groupId : String) : Prop :=
  ∃ r, store.byId.get credentialId = some r ∧ r.status = .active ∧
    PermissionScope.send ∈ r.resolvedScopes ∧ groupId ∈ r.chatIds

def ActiveIn (store : CredentialStore) (credentialId : String) : Prop :=
  ∃ r, store.byId.get credentialId = some r ∧ r.status = .active

/-- The scope set of the stored credential lets it send. -/
def MaySend (store : CredentialStore) (credentialId : String) : Prop :=
  ∃ r, store.byId.get credentialId = some r ∧
    PermissionScope.send ∈ resolveScopeSet r.effectiveScopes

def InChat (store : CredentialStore) (credentialId groupId : String) : Prop :=
  ∃ r, store.byId.get credentialId = some r ∧ groupId ∈ r.chatIds

/-- The credential whose active status a call in flight takes for granted. -/
def PendingCall.needsActive : PendingCall → Option String
  | .looked request (.ok credential) =>
    match request.body with
    | .confirmAction .. => some credential.credentialId
    | _ => none
  | .handling (.sendLookedUp _ credential _) => some credential.credentialId
  | .handling (.confirmReady _ credential) => some credential.credentialId
  | _ => none

/-- The credential whose send permission a call in flight takes for granted. -/
def PendingCall.needsSend : PendingCall → Option String
  | .looked request (.ok credential) =>
    match request.body with
    | .sendMessage .. | .confirmAction .. => some credential.credentialId
    | _ => none
  | .handling (.sendReady _ credential) => some credential.credentialId
  | .handling (.sendLookedUp _ credential _) => some credential.credentialId
  | .handling (.confirmReady _ credential) => some credential.credentialId
  | _ => none

/-- What a step makes of the credential store. -/
def storeAfter (deps : HandlerDeps) (s : SystemState) (label : SystemLabel) : CredentialStore :=
  match systemStep deps s label with
  | some (s', _) => s'.store
  | none => s.store

/-- The step deactivates no credential, and takes the send permission from none,
that a call in flight has checked for it and will not check again. -/
def Undisturbed (deps : HandlerDeps) (s : SystemState) (label : SystemLabel) : Prop :=
  ∀ call pending, s.calls.get call = some pending →
    (∀ id, pending.needsActive = some id → ActiveIn s.store id →
      ActiveIn (storeAfter deps s label) id) ∧
    (∀ id, pending.needsSend = some id → MaySend s.store id →
      MaySend (storeAfter deps s label) id)

/-- Every message a step sends is backed by the store at that moment. -/
def FailClosed (o : Occurrence SystemState SystemLabel Observation) : Prop :=
  ∀ credentialId message, .effect (.sendMessage credentialId message) ∈ o.out →
    Authorizes o.pre.store credentialId message.groupId

/-! ## What backs a call in flight -/

/-- What a call in flight has checked is still so in the store. -/
def Backed (store : CredentialStore) : PendingCall → Prop
  | .looked request (.ok credential) =>
    (∀ groupId, groupId ∈ credential.config.chatIds →
      InChat store credential.credentialId groupId) ∧
    ((PendingCall.looked request (.ok credential)).needsSend = some credential.credentialId →
      PermissionScope.send ∈ resolveScopeSet credential.effectiveScopes →
      MaySend store credential.credentialId) ∧
    ((PendingCall.looked request (.ok credential)).needsActive =
        some credential.credentialId →
      credential.status = .active → ActiveIn store credential.credentialId)
  | .handling (.sendReady message credential) =>
    MaySend store credential.credentialId ∧
      InChat store credential.credentialId message.groupId
  | .handling (.sendLookedUp message credential fresh) =>
    MaySend store credential.credentialId ∧
      InChat store credential.credentialId message.groupId ∧
      ∀ record, fresh = .ok record → record.status = .active →
        ActiveIn store credential.credentialId
  | .handling (.confirmReady payload credential) =>
    MaySend store credential.credentialId ∧
      InChat store credential.credentialId payload.groupId ∧
      ActiveIn store credential.credentialId
  | _ => True

theorem inChat_narrows {s t : CredentialStore} (hNarrows : Narrows s t) {id groupId : String}
    (h : InChat s id groupId) : InChat t id groupId := by
  obtain ⟨r, hGet, hChat⟩ := h
  obtain ⟨r', hGet', hRecord⟩ := hNarrows id r hGet
  exact ⟨r', hGet', by rw [hRecord.chatIds]; exact hChat⟩

variable {credential : CredentialRecord} {deps : HandlerDeps} {stage : HandlerStage}
  {state : HandlerState} {now : Int} {pending : PendingCall} {segment : Segment}
  {message : SendPayload} {credentialId : String} {label : SystemLabel} {s : SystemState}
  {store : CredentialStore} {out : List Observation}

/-- A step of the store that takes nothing from a call leaves it backed. -/
theorem backed_mono {s t : CredentialStore} (hNarrows : Narrows s t)
    (hActive : ∀ id, pending.needsActive = some id → ActiveIn s id → ActiveIn t id)
    (hSend : ∀ id, pending.needsSend = some id → MaySend s id → MaySend t id)
    (h : Backed s pending) : Backed t pending := by
  cases pending with
  | looked request result =>
    cases result with
    | error error => trivial
    | ok credential =>
      obtain ⟨hChats, hMaySend, hIsActive⟩ := h
      refine ⟨?_, ?_, ?_⟩
      · intro groupId hMem
        exact inChat_narrows hNarrows (hChats groupId hMem)
      · intro hNeeds hScope
        exact hSend _ hNeeds (hMaySend hNeeds hScope)
      · intro hNeeds hStatus
        exact hActive _ hNeeds (hIsActive hNeeds hStatus)
  | handling stage =>
    cases stage with
    | sendReady message credential =>
      exact ⟨hSend _ rfl h.1, inChat_narrows hNarrows h.2⟩
    | sendLookedUp message credential fresh =>
      obtain ⟨hMaySend, hChat, hFresh⟩ := h
      refine ⟨hSend _ rfl hMaySend, inChat_narrows hNarrows hChat, ?_⟩
      intro record hRecord hStatus
      exact hActive _ rfl (hFresh record hRecord hStatus)
    | confirmReady payload credential =>
      exact ⟨hSend _ rfl h.1, inChat_narrows hNarrows h.2.1, hActive _ rfl h.2.2⟩
    | _ => trivial
  | serviceUpdate credentialId changes => trivial
  | actionUpdate credentialId scopes result => trivial

/-! ## Calls that start to rely on a check -/

theorem lookup_ok (h : (Service.lookup deps.config now store credentialId).2 = .ok credential) :
    ∃ r, (Service.lookup deps.config now store credentialId).1.byId.get r.credentialId =
        some r ∧ r.credentialId = credentialId ∧ credential = toCredentialRecord now r := by
  unfold Service.lookup getCredentialById at h
  simp only at h
  split at h
  · cases h
  · next r hGet =>
    cases h
    have hKey := (sweepExpired deps.config now store).1.keyed _ _ hGet
    subst hKey
    exact ⟨r, hGet, rfl, rfl⟩

theorem backed_looked (deps : HandlerDeps) (now : Int) (store : CredentialStore)
    (credentialId : String) (request : HarnessRequest) :
    Backed (Service.lookup deps.config now store credentialId).1
      (.looked request (Service.lookup deps.config now store credentialId).2) := by
  cases hResult : (Service.lookup deps.config now store credentialId).2 with
  | error error => trivial
  | ok credential =>
    obtain ⟨r, hGet, -, rfl⟩ := lookup_ok hResult
    exact ⟨fun groupId hMem => ⟨r, hGet, hMem⟩, fun _ hScope => ⟨r, hGet, hScope⟩,
      fun _ hStatus => ⟨r, hGet, hStatus⟩⟩

theorem handleConfirmAction_await {actionId : String} {confirmed : Bool}
    (h : (handleConfirmAction deps now state actionId confirmed credential).2.2 =
      .await stage) :
    ∃ payload, stage = .confirmReady payload credential ∧
      payload.groupId ∈ resolveChatIds credential ∧
      PermissionScope.send ∈ resolveScopes credential := by
  unfold handleConfirmAction at h
  split at h
  · cases h
  · split at h
    · cases h
    · next pending hPending =>
      split at h
      · cases h
      · split at h
        · cases h
        · split at h
          · cases h
          · simp only at h
            split at h
            · cases h
            · next hValid =>
              rw [PendingActionStore.confirm_snd, hPending] at h
              simp only at h
              split at h
              · next hType =>
                rw [if_pos hType] at hValid
                cases h
                obtain ⟨hChat, hSend⟩ := validateSendMessage_ok_iff.mp hValid
                exact ⟨pending.payload, rfl, hChat, hSend⟩
              · cases h

theorem handleRevealContent_await {reveal : RevealRequest}
    (h : (handleRevealContent deps now state reveal credential).2.2 = .await stage) :
    ∃ access, stage = .listing access credential := by
  unfold handleRevealContent at h
  split at h
  · cases h
  · simp only at h
    split at h
    · cases h
    · split at h
      · cases h
        exact ⟨_, rfl⟩
      · cases h

theorem handleUpdateScopes_await {allow deny : Option (List PermissionScope)} :
    (handleUpdateScopes deps state allow deny credential).2.2 ≠ .await stage := by
  unfold handleUpdateScopes
  split
  · simp [finish]
  · simp only
    split
    · simp [finish]
    · split <;> simp [finish]

theorem handleHeartbeat_await {requestedId : String} :
    (handleHeartbeat deps now state requestedId credential).2.2 ≠ .await stage := by
  unfold handleHeartbeat
  split
  · simp [finish]
  · split <;> simp [finish]

/-- The stage a first segment leaves is backed, if the request frame was. -/
theorem backed_handleRequest (deps : HandlerDeps) (now : Int) (state : HandlerState)
    (request : HarnessRequest) (credential : CredentialRecord)
    (hStatus : credential.status = .active)
    (hBacked : Backed state.store (.looked request (.ok credential)))
    (hAwait : (handleRequest deps now state request credential).2.2 = .await stage) :
    Backed (handleRequest deps now state request credential).1.store (.handling stage) := by
  obtain ⟨requestId, body⟩ := request
  obtain ⟨hChats, hMaySend, hActive⟩ := hBacked
  unfold handleRequest at hAwait ⊢
  split at hAwait
  · cases hAwait
  · next hLive =>
    rw [if_neg hLive]
    cases body with
    | sendMessage groupId contentType content =>
      simp only [handleSendMessage] at hAwait ⊢
      split at hAwait
      · cases hAwait
      · next hValid =>
        cases hAwait
        obtain ⟨hChat, hScope⟩ := validateSendMessage_ok_iff.mp hValid
        exact ⟨hMaySend rfl hScope, hChats _ hChat⟩
    | confirmAction actionId confirmed =>
      obtain ⟨payload, rfl, hChat, hScope⟩ := handleConfirmAction_await hAwait
      simp only [Backed, handleConfirmAction_store]
      exact ⟨hMaySend rfl hScope, hChats _ hChat, hActive rfl hStatus⟩
    | heartbeat requestedId => exact (handleHeartbeat_await hAwait).elim
    | updateScopes allow deny => exact (handleUpdateScopes_await hAwait).elim
    | revealContent reveal =>
      obtain ⟨access, rfl⟩ := handleRevealContent_await hAwait
      trivial
    | sendReaction groupId messageId action content => cases hAwait
    | sendReply groupId messageId contentType content => cases hAwait

/-- A sweep keeps the scope set of every record. -/
theorem sweptRecord_effectiveScopes (config : CredentialManagerConfig) (now : Int)
    (r : InternalCredentialRecord) :
    (sweptRecord config now r).effectiveScopes = r.effectiveScopes := by
  unfold sweptRecord
  split
  · rfl
  · split
    · rfl
    · split <;> rfl

theorem maySend_lookup {id : String} (credentialId : String) (h : MaySend store id) :
    MaySend (Service.lookup deps.config now store credentialId).1 id := by
  obtain ⟨r, hGet, hScope⟩ := h
  refine ⟨sweptRecord deps.config now r, ?_, ?_⟩
  · show (sweepExpired deps.config now store).1.byId.get id = _
    rw [sweepExpired_get, hGet]
    rfl
  · rw [sweptRecord_effectiveScopes]
    exact hScope

section

variable (deps : HandlerDeps) (now : Int) (state : HandlerState)

theorem backed_resume (stage : HandlerStage) (answer : Answer)
    (hBacked : Backed state.store (.handling stage))
    (h : resume deps now state stage answer = some segment) {stage' : HandlerStage}
    (hAwait : segment.2.2 = .await stage') :
    Backed segment.1.store (.handling stage') := by
  unfold resume at h
  split at h
  · next message credential result =>
    split at h
    · cases h
      cases hAwait
    · cases h
      cases hAwait
      -- the second lookup may sweep, which leaves scopes and chats alone
      have hEvolves := evolves_lookup deps now state.store credential.credentialId
      refine ⟨maySend_lookup credential.credentialId hBacked.1, inChat_narrows hEvolves.narrows hBacked.2, ?_⟩
      intro record hFresh hStatus
      obtain ⟨r, hGet, hId, rfl⟩ := lookup_ok hFresh
      rw [hId] at hGet
      exact ⟨r, hGet, hStatus⟩
  · split at h
    · cases h
      cases hAwait
    · split at h
      · cases h
        cases hAwait
      · cases h
        cases hAwait
        trivial
  · split at h
    · cases h
      cases hAwait
    · split at h
      · cases h
        cases hAwait
        trivial
      · cases h
        cases hAwait
  · split at h
    · cases h
      cases hAwait
      trivial
    · cases h
      cases hAwait
    · cases h
      cases hAwait
  · split at h <;> cases h <;> cases hAwait
  · split at h
    · cases h
      cases hAwait
    · cases h
      cases hAwait
      trivial
  · cases h
    cases hAwait
  · cases h
    cases hAwait
  · cases h

theorem handleRequest_sends_nothing (request : HarnessRequest) (credential : CredentialRecord) :
    Effect.sendMessage credentialId message ∉
      (handleRequest deps now state request credential).2.1 := by
  obtain ⟨requestId, body⟩ := request
  unfold handleRequest
  split
  · simp [finish]
  · cases body with
    | sendMessage groupId contentType content =>
      simp only [handleSendMessage]
      split <;> simp [finish]
    | heartbeat requestedId =>
      simp only [handleHeartbeat]
      repeat' (first | split | simp [finish])
    | revealContent reveal =>
      simp only [handleRevealContent]
      repeat' (first | split | simp [finish])
    | updateScopes allow deny =>
      simp only [handleUpdateScopes]
      repeat' (first | split | simp [finish])
    | confirmAction actionId confirmed =>
      simp only [handleConfirmAction]
      repeat' (first | split | simp [finish])
    | sendReaction groupId messageId action content => simp [finish]
    | sendReply groupId messageId contentType content => simp [finish]

theorem resume_authorized (stage : HandlerStage) (answer : Answer)
    (hBacked : Backed state.store (.handling stage))
    (h : resume deps now state stage answer = some segment)
    (hSend : .sendMessage credentialId message ∈ segment.2.1) :
    MaySend state.store credentialId ∧ InChat state.store credentialId message.groupId ∧
      ActiveIn state.store credentialId := by
  unfold resume at h
  split at h
  · split at h <;> cases h <;> cases hSend
  · split at h
    · cases h
      cases hSend
    · next freshRecord =>
      split at h
      · cases h
        cases hSend
      · next hActive =>
        cases h
        simp only [List.mem_singleton, Effect.sendMessage.injEq] at hSend
        obtain ⟨rfl, rfl⟩ := hSend
        obtain ⟨hMaySend, hChat, hFresh⟩ := hBacked
        exact ⟨hMaySend, hChat, hFresh freshRecord rfl (not_not.mp hActive)⟩
  · split at h
    · cases h
      cases hSend
    · split at h <;> cases h <;> cases hSend
  · split at h <;> cases h <;> cases hSend
  · split at h <;> cases h <;> cases hSend
  · split at h
    · cases h
      cases hSend
    · cases h
      simp only [List.mem_singleton, Effect.sendMessage.injEq] at hSend
      obtain ⟨rfl, rfl⟩ := hSend
      exact hBacked
  · cases h
    cases hSend
  · cases h
    simp at hSend
  · cases h

end

/-! ## Steps and runs -/

/-- Every call in flight is backed. -/
def AllBacked (s : SystemState) : Prop :=
  ∀ call pending, s.calls.get call = some pending → Backed s.store pending

theorem settle_calls (s : SystemState) (call : Nat) (segment : Segment) {k : Nat}
    (h : (settle s call segment).1.calls.get k = some pending) :
    s.calls.get k = some pending ∨
      ∃ stage, segment.2.2 = .await stage ∧ pending = .handling stage := by
  obtain ⟨handler, effects, result | stage⟩ := segment
  · simp only [settle] at h
    obtain ⟨-, h⟩ := AssocMap.of_get_delete h
    exact .inl h
  · simp only [settle] at h
    rcases AssocMap.get_set_cases h with ⟨-, rfl⟩ | ⟨-, h⟩
    · exact .inr ⟨stage, rfl, rfl⟩
    · exact .inl h

theorem settle_effect {call : Nat} {effect : Effect}
    (h : .effect effect ∈ (settle s call segment).2) : effect ∈ segment.2.1 := by
  obtain ⟨handler, effects, result | stage⟩ := segment <;> simpa [settle] using h

/-- A call that a step adds, or moves to another await, is backed after it. -/
theorem systemStep_calls (deps : HandlerDeps) {s' : SystemState} (hBacked : AllBacked s)
    (hStep : systemStep deps s label = some (s', out)) {k : Nat}
    (hCall : s'.calls.get k = some pending) :
    s.calls.get k = some pending ∨ Backed s'.store pending := by
  have hAdded : ∀ {call : Nat} {new : PendingCall}, Backed s'.store new →
      (s.calls.set call new).get k = some pending →
      s.calls.get k = some pending ∨ Backed s'.store pending := by
    intro call new hNew hGet
    rcases AssocMap.get_set_cases hGet with ⟨-, rfl⟩ | ⟨-, hGet⟩
    · exact .inr hNew
    · exact .inl hGet
  have hRemoved : ∀ {call : Nat}, (s.calls.delete call).get k = some pending →
      s.calls.get k = some pending := by
    intro call hGet
    exact (AssocMap.of_get_delete hGet).2
  obtain ⟨now, event⟩ := label
  cases systemStep_move deps hStep with
  | request hFree => exact hAdded (backed_looked deps now s.store _ _) hCall
  | closed hLooked => exact .inl (hRemoved hCall)
  | dispatched hLooked hActive =>
    rw [settle_store]
    rcases settle_calls s _ _ hCall with hOld | ⟨stage, hAwait, rfl⟩
    · exact .inl hOld
    · exact .inr (backed_handleRequest deps now s.handler _ _ hActive (hBacked _ _ hLooked) hAwait)
  | answered hStage hResume =>
    rw [settle_store]
    rcases settle_calls s _ _ hCall with hOld | ⟨stage', hAwait, rfl⟩
    · exact .inl hOld
    · exact .inr (backed_resume deps now s.handler _ _ (hBacked _ _ hStage) hResume hAwait)
  | @updateBegun _ credentialId changes hFree =>
    exact hAdded (show Backed _ (.serviceUpdate credentialId changes) from trivial) hCall
  | updateFinished hUpdate => exact .inl (hRemoved hCall)
  | @scopesLooked _ credentialId scopes result hFree =>
    exact hAdded (show Backed _ (.actionUpdate credentialId scopes result) from trivial) hCall
  | scopesUpdated hUpdate => exact .inl (hRemoved hCall)
  | _ => exact .inl hCall

/-- A message leaves the system in the segment of a stage that backs it. -/
theorem systemStep_sends (deps : HandlerDeps) {s' : SystemState} (hBacked : AllBacked s)
    (hStep : systemStep deps s label = some (s', out))
    (hSend : .effect (.sendMessage credentialId message) ∈ out) :
    MaySend s.store credentialId ∧ InChat s.store credentialId message.groupId ∧
      ActiveIn s.store credentialId := by
  obtain ⟨now, event⟩ := label
  cases systemStep_move deps hStep with
  | dispatched hLooked hActive =>
    exact (handleRequest_sends_nothing deps now s.handler _ _ (settle_effect hSend)).elim
  | answered hStage hResume =>
    exact resume_authorized deps now s.handler _ _ (hBacked _ _ hStage) hResume
      (settle_effect hSend)
  | _ => simp at hSend

/-- A step meets the condition under which messages stay backed. -/
def SafeStep (deps : HandlerDeps) (s : SystemState) (label : SystemLabel) : Prop :=
  FreshSystemIds s label ∧ Undisturbed deps s label

theorem allBacked_of_undisturbed (deps : HandlerDeps)
    {h : List (Occurrence SystemState SystemLabel Observation)}
    (hRun : (systemMachine deps).Runs h s) (hSafe : AllMeet (SafeStep deps) h) :
    AllBacked s := by
  have hInit : AllBacked (systemMachine deps).init := by
    intro call pending hGet
    cases hGet
  refine hRun.guarded hSafe hInit ?_
  intro h s label s' out _ _ hBacked hMeets hStep call pending hCall
  rcases systemStep_calls deps hBacked hStep hCall with hOld | hNew
  · obtain ⟨hActive, hSend⟩ := hMeets.2 call pending hOld
    have hAfter : storeAfter deps s label = s'.store := by
      unfold storeAfter
      rw [show systemStep deps s label = some (s', out) from hStep]
    rw [hAfter] at hActive hSend
    have hNarrows := (systemStep_store deps hMeets.1 hStep).1
    exact backed_mono hNarrows hActive hSend (hBacked call pending hOld)
  · exact hNew

/-- **Fail-closed sending, as far as it goes.**  In a run of undisturbed steps
every message is sent while the stored credential is active, may send, and is
scoped to the chat. -/
theorem sends_authorized (deps : HandlerDeps)
    {h : List (Occurrence SystemState SystemLabel Observation)} {s : SystemState}
    (hRun : (systemMachine deps).Runs h s) (hSafe : AllMeet (SafeStep deps) h) :
    ∀ o ∈ h, FailClosed o := by
  intro o ho credentialId message hSend
  obtain ⟨h₁, h₂, hSplit⟩ := List.append_of_mem ho
  obtain ⟨hBefore, s', hStep⟩ := hRun.of_append_cons hSplit
  have hSafeBefore := hSafe.before hSplit
  have hBacked := allBacked_of_undisturbed deps hBefore hSafeBefore
  obtain ⟨⟨r, hGet, hScope⟩, ⟨r₂, hGet₂, hChat⟩, ⟨r₃, hGet₃, hActive⟩⟩ :=
    systemStep_sends deps hBacked hStep hSend
  rw [hGet, Option.some.injEq] at hGet₂ hGet₃
  subst hGet₂
  subst hGet₃
  have hResolved := stored_resolved deps hBefore (fun o' ho' => (hSafeBefore o' ho').1) hGet
  exact ⟨r, hGet, hActive, by rw [hResolved]; exact hScope, hChat⟩

theorem undisturbed_of_no_call (h : s.calls = .empty) : Undisturbed deps s label := by
  intro call pending hCall
  rw [h] at hCall
  cases hCall

theorem undisturbed_of_byId_eq (h : (storeAfter deps s label).byId = s.store.byId) :
    Undisturbed deps s label := by
  intro call pending _
  simp only [ActiveIn, MaySend, h]
  exact ⟨fun _ _ hActive => hActive, fun _ _ hSend => hSend⟩

/-- A credential that may send to `conv`. -/
def issueSender : SystemLabel :=
  ⟨0, .manager (.issueCredential { operatorId := "op", chatIds := ["conv"], allow := some [.send] }
    {} ⟨"cred", "token"⟩)⟩

def directSend : List SystemLabel :=
  [issueSender, ⟨10, .request 1 "cred" ⟨"request", .sendMessage "conv" "text" .null⟩⟩,
    ⟨10, .dispatch 1⟩, ⟨20, .answer 1 (.ready (.ok ()))⟩, ⟨20, .answer 1 .lookedUp⟩]

/-- The message is sent, with the store behind it. -/
theorem sends_authorized_directSend :
    ∃ h s, (systemMachine sampleDeps).exec (systemMachine sampleDeps).init directSend =
        some (h, s) ∧
      (∃ o ∈ h, .effect (.sendMessage "cred" ⟨"conv", "text", .null⟩) ∈ o.out) ∧
      ∀ o ∈ h, FailClosed o := by
  refine ⟨_, _, rfl, ⟨_, List.mem_of_getElem? (i := 4) rfl, List.mem_singleton.mpr rfl⟩,
    sends_authorized sampleDeps (runs_of_exec
      (show (systemMachine sampleDeps).exec _ directSend = _ from rfl)) ?_⟩
  intro o ho
  simp only [List.mem_cons, List.not_mem_nil, or_false] at ho
  rcases ho with rfl | rfl | rfl | rfl | rfl
  · refine ⟨?_, undisturbed_of_no_call rfl⟩
    intro op hOp id hId
    cases hOp
    rfl
  all_goals
    refine ⟨?_, undisturbed_of_byId_eq rfl⟩
    intro op hOp
    cases hOp

/-- A queued message whose credential is revoked while its confirmation awaits
the core. -/
def revokedConfirmation : List SystemLabel :=
  [issueSender,
    ⟨10, .queueAction ⟨"action", "cred", "send_message", ⟨"conv", "text", .null⟩, 10, 1000⟩⟩,
    ⟨20, .request 1 "cred" ⟨"request", .confirmAction "action" true⟩⟩, ⟨20, .dispatch 1⟩,
    ⟨30, .manager (.revokeCredential "cred" .ownerInitiated)⟩,
    ⟨40, .answer 1 (.ready (.ok ()))⟩]

/-- The message is sent for the revoked credential, whatever the hash function of
the host. -/
theorem message_sent_after_revocation :
    ¬ ∃ env : HashEnv, ∀ h s,
      (systemMachine { sampleDeps with hash := env }).exec
          (systemMachine { sampleDeps with hash := env }).init revokedConfirmation =
        some (h, s) →
      AllMeet FreshSystemIds h → ∀ o ∈ h, FailClosed o := by
  rintro ⟨env, hLaw⟩
  have hClosed := hLaw _ _ rfl ?_ _ (List.mem_of_getElem? (i := 5) rfl) "cred"
    ⟨"conv", "text", .null⟩ (List.mem_singleton.mpr rfl)
  · obtain ⟨r, hGet, hActive, -⟩ := hClosed
    cases hGet
    cases hActive
  · intro o ho op hOp id hId
    simp only [List.mem_cons, List.not_mem_nil, or_false] at ho
    rcases ho with rfl | rfl | rfl | rfl | rfl | rfl
    · cases hOp
      rfl
    · cases hOp
    · cases hOp
    · cases hOp
    · cases hOp
      cases hId
    · cases hOp

end Cli
end Signet
