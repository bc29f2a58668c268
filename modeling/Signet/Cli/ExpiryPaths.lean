import Mathlib.Data.List.Induction
import Signet.Cli.ActionExecution

/-!
# The two expiry paths of a pending action

`packages/cli/src/ws/request-handler.ts` looks at the deadline of an action when it is confirmed,
and `packages/sessions/src/pending-actions.ts` sweeps the store for passed deadlines.  The handler
takes an action for expired after its deadline (`<`), the sweep at its deadline (`<=`).

* `handleConfirmAction_proceeds_iff` — what an expired or nearly expired action needs for the
  handler to go on with it.
* `get_expireStale` — what a sweep leaves.
* `expiry_paths_agree_iff` — the two agree but for an action that is settled at its deadline.
-/

namespace Signet
namespace Cli

open Kit Schemas Policy Sessions

/-! ## The store -/

inductive PendingCallOp where
  | add (action : PendingAction)
  | confirm (actionId : String)
  | deny (actionId : String)
  | expireStale (now : Int)

def PendingCallOp.apply (store : PendingActionStore) : PendingCallOp → PendingActionStore
  | .add action => store.add action
  | .confirm actionId => (store.confirm actionId).1
  | .deny actionId => (store.deny actionId).1
  | .expireStale now => (store.expireStale now).1

/-- The store that calls have made of a new one. -/
def pendingAfter (calls : List PendingCallOp) : PendingActionStore :=
  calls.foldl PendingCallOp.apply .empty

/-- Every action waits under its own id. -/
def ById (store : PendingActionStore) : Prop :=
  ∀ id action, store.get id = some action → action.actionId = id

variable {store : PendingActionStore} {actionId : String}

theorem byId_of_subset {store' : PendingActionStore} (h : ById store)
    (hSub : ∀ id action, store'.get id = some action → store.get id = some action) :
    ById store' :=
  fun id action hGet => h id action (hSub id action hGet)

theorem get_removeAndReturn_of_some {id : String} {action : PendingAction}
    (h : (store.removeAndReturn actionId).1.get id = some action) :
    store.get id = some action := by
  unfold PendingActionStore.removeAndReturn at h
  split at h
  · exact h
  · unfold PendingActionStore.get at h
    exact (AssocMap.of_get_delete h).2

theorem byId_apply (h : ById store) (call : PendingCallOp) :
    ById (call.apply store) := by
  cases call with
  | add action =>
    intro id action' hGet
    have hSet : (store.actions.set action.actionId action).get id = some action' := hGet
    rcases AssocMap.get_set_cases hSet with ⟨hId, rfl⟩ | ⟨-, hSet⟩
    · exact hId.symm
    · exact h id action' hSet
  | confirm actionId => exact byId_of_subset h fun _ _ => get_removeAndReturn_of_some
  | deny actionId => exact byId_of_subset h fun _ _ => get_removeAndReturn_of_some
  | expireStale now =>
    apply byId_of_subset h
    intro id action hGet
    have hFold : ((store.actions.values.filter fun a => a.expiresAt ≤ now).foldl
        (fun s action => ⟨s.actions.delete action.actionId⟩) store).get id = some action := hGet
    rw [get_foldl_delete] at hFold
    split at hFold
    · cases hFold
    · exact hFold

theorem byId_pendingAfter (calls : List PendingCallOp) : ById (pendingAfter calls) := by
  induction calls using List.reverseRecOn with
  | nil =>
    intro id action hGet
    cases hGet
  | append_singleton calls call ih =>
    unfold pendingAfter at ih ⊢
    rw [List.foldl_append]
    exact byId_apply ih call

/-- A sweep leaves the actions whose deadline lies ahead. -/
theorem get_expireStale (h : ById store) (now : Int) (id : String) :
    (store.expireStale now).1.get id =
      (store.get id).filter fun action => decide (now < action.expiresAt) := by
  show ((store.actions.values.filter fun a => a.expiresAt ≤ now).foldl
    (fun s action => ⟨s.actions.delete action.actionId⟩) store).get id = _
  rw [get_foldl_delete]
  have hSwept : id ∈ (store.actions.values.filter fun a => a.expiresAt ≤ now).map
      PendingAction.actionId ↔ ∃ action, store.get id = some action ∧ action.expiresAt ≤ now := by
    constructor
    · intro hMem
      obtain ⟨action, hAction, rfl⟩ := List.mem_map.mp hMem
      obtain ⟨hValue, hExpired⟩ := List.mem_filter.mp hAction
      obtain ⟨key, hGet⟩ := AssocMap.mem_values.mp hValue
      have hKey := h key action hGet
      rw [hKey]
      exact ⟨action, hGet, by simpa using hExpired⟩
    · rintro ⟨action, hGet, hExpired⟩
      refine List.mem_map.mpr ⟨action, ?_, h id action hGet⟩
      exact List.mem_filter.mpr ⟨AssocMap.mem_values.mpr ⟨id, hGet⟩, by simpa using hExpired⟩
  cases hGet : store.get id with
  | none =>
    have hNot : ¬ ∃ action, store.get id = some action ∧ action.expiresAt ≤ now := by
      rintro ⟨action, hSome, -⟩
      rw [hGet] at hSome
      cases hSome
    rw [if_neg (hSwept.not.mpr hNot)]
    rfl
  | some action =>
    by_cases hExpired : action.expiresAt ≤ now
    · rw [if_pos (hSwept.mpr ⟨action, hGet, hExpired⟩)]
      have hNotAhead : ¬ now < action.expiresAt := by omega
      simp [Option.filter, hNotAhead]
    · have hNot : ¬ ∃ action, store.get id = some action ∧ action.expiresAt ≤ now := by
        rintro ⟨action', hSome, hExpired'⟩
        rw [hGet] at hSome
        cases hSome
        exact hExpired hExpired'
      have hAhead : now < action.expiresAt := by omega
      rw [if_neg (hSwept.not.mpr hNot)]
      simp [Option.filter, hAhead]

/-! ## The handler -/

/-- The handler goes on with the action or answers that it is denied. -/
def Progress.proceeds : Progress → Bool
  | .await _ => true
  | .done (.ok _) => true
  | .done (.error _) => false

/-- The two ends of a segment are equal, or both are errors. -/
def SameOutcome (progress progress' : Progress) : Prop :=
  progress = progress' ∨ (progress.proceeds = false ∧ progress'.proceeds = false)

/-- How the handler's first segment of `confirm_action` ends. -/
def confirmProgress (deps : HandlerDeps) (now : Int) (state : HandlerState) (actionId : String)
    (confirmed : Bool) (credential : CredentialRecord) : Progress :=
  (handleConfirmAction deps now state actionId confirmed credential).2.2

/-- The handler denies the action, or sends it: it is confirmed, is a message and is still
allowed. -/
def SettlesAction (pending : PendingAction) (confirmed : Bool) (credential : CredentialRecord) :
    Prop :=
  confirmed = false ∨
    (pending.actionType = "send_message" ∧
      validateSendMessage pending.payload.groupId (resolveScopes credential)
        (resolveChatIds credential) = .ok ())

section

variable (deps : HandlerDeps) (now : Int)

/-- Without the action there is nothing to go on with. -/
theorem confirmProgress_of_absent {state : HandlerState}
    (hGet : state.pendingActions.get actionId = none) (confirmed : Bool)
    (credential : CredentialRecord) :
    (confirmProgress deps now state actionId confirmed credential).proceeds = false := by
  unfold confirmProgress handleConfirmAction
  split
  · rfl
  · rw [hGet]
    rfl

/-- The handler goes on with an own action up to its deadline. -/
theorem handleConfirmAction_proceeds_iff {state : HandlerState} {actionId : String}
    {pending : PendingAction} (hGet : state.pendingActions.get actionId = some pending)
    (confirmed : Bool) (credential : CredentialRecord) :
    (confirmProgress deps now state actionId confirmed credential).proceeds = true ↔
      deps.hasPendingActions = true ∧ pending.credentialId = credential.credentialId ∧
        now ≤ pending.expiresAt ∧ SettlesAction pending confirmed credential := by
  unfold confirmProgress handleConfirmAction SettlesAction
  by_cases hStore : deps.hasPendingActions = true
  · by_cases hOwner : pending.credentialId = credential.credentialId
    · by_cases hExpired : pending.expiresAt < now
      · have hPast : ¬ now ≤ pending.expiresAt := by omega
        simp [hStore, hGet, hOwner, hExpired, hPast, Progress.proceeds]
      · have hAhead : now ≤ pending.expiresAt := by omega
        cases confirmed with
        | false => simp [hStore, hGet, hOwner, hExpired, hAhead, finish, Progress.proceeds]
        | true =>
          by_cases hType : pending.actionType = "send_message"
          · cases hValid : validateSendMessage pending.payload.groupId
                (resolveScopes credential) (resolveChatIds credential) with
            | error error =>
              simp [hStore, hGet, hOwner, hExpired, hAhead, hType, hValid, finish,
                Progress.proceeds]
            | ok _ =>
              simp [hStore, hGet, hOwner, hExpired, hAhead, hType, hValid, Progress.proceeds]
          · simp [hStore, hGet, hOwner, hExpired, hType, finish, Progress.proceeds]
    · simp [hStore, hGet, hOwner, finish, Progress.proceeds]
  · simp [hStore, finish, Progress.proceeds]

/-- The end of the segment rests on the action under the id, and on nothing else in the store. -/
theorem confirmProgress_congr {state state' : HandlerState}
    (hSame : state.pendingActions.get actionId = state'.pendingActions.get actionId)
    (confirmed : Bool) (credential : CredentialRecord) :
    confirmProgress deps now state actionId confirmed credential =
      confirmProgress deps now state' actionId confirmed credential := by
  unfold confirmProgress handleConfirmAction
  simp only [PendingActionStore.confirm_snd, hSame]
  split
  · rfl
  · cases state'.pendingActions.get actionId with
    | none => rfl
    | some pending =>
      simp only
      split
      · rfl
      · split
        · rfl
        · split
          · rfl
          · split
            · rfl
            · split
              · rfl
              · rfl

end

/-! ## Agreement -/

/-- The state after a sweep. -/
def sweptAt (now : Int) (state : HandlerState) : HandlerState :=
  { state with pendingActions := (state.pendingActions.expireStale now).1 }

/-- An action is settled only if a sweep at the same time would have left it, and a sweep just
before changes nothing about the outcome but the code of an error. -/
structure PathsAgree (deps : HandlerDeps) (now : Int) (state : HandlerState) (actionId : String)
    (confirmed : Bool) (credential : CredentialRecord) : Prop where
  survives : (confirmProgress deps now state actionId confirmed credential).proceeds = true →
    (sweptAt now state).pendingActions.get actionId = state.pendingActions.get actionId
  sameOutcome : SameOutcome (confirmProgress deps now state actionId confirmed credential)
    (confirmProgress deps now (sweptAt now state) actionId confirmed credential)

/-- **The two paths agree but at the deadline.**  They disagree exactly when an own action is
denied, or sent, at the very instant of its deadline. -/
theorem expiry_paths_agree_iff (deps : HandlerDeps) (calls : List PendingCallOp)
    (store : CredentialStore) (now : Int) (actionId : String) (confirmed : Bool)
    (credential : CredentialRecord) :
    PathsAgree deps now ⟨store, pendingAfter calls⟩ actionId confirmed credential ↔
      (deps.hasPendingActions = true →
        ∀ pending, (pendingAfter calls).get actionId = some pending →
          pending.credentialId = credential.credentialId → pending.expiresAt = now →
            ¬ SettlesAction pending confirmed credential) := by
  have hSwept : (sweptAt now ⟨store, pendingAfter calls⟩).pendingActions.get actionId =
      ((pendingAfter calls).get actionId).filter fun action => decide (now < action.expiresAt) :=
    get_expireStale (byId_pendingAfter calls) now actionId
  cases hGet : (pendingAfter calls).get actionId with
  | none =>
    rw [hGet] at hSwept
    constructor
    · intro _ _ pending hSome
      cases hSome
    · intro _
      constructor
      · intro _
        rw [hSwept]
        exact hGet.symm
      · exact .inr ⟨confirmProgress_of_absent deps now hGet confirmed credential,
          confirmProgress_of_absent deps now hSwept confirmed credential⟩
  | some pending =>
    rw [hGet] at hSwept
    have hProceeds := @handleConfirmAction_proceeds_iff deps now ⟨store, pendingAfter calls⟩
      actionId pending hGet confirmed credential
    by_cases hAhead : now < pending.expiresAt
    · -- the sweep leaves the action, and the handler finds what it would have found
      have hKept : (sweptAt now ⟨store, pendingAfter calls⟩).pendingActions.get actionId =
          some pending := by
        rw [hSwept]
        simp [Option.filter, hAhead]
      constructor
      · intro _ _ pending' hSome _ hDeadline
        cases hSome
        omega
      · intro _
        constructor
        · intro _
          rw [hKept]
          exact hGet.symm
        · exact .inl (confirmProgress_congr deps now
            (hGet.trans hKept.symm) confirmed credential)
    · -- the sweep takes it, and what the handler does differs only if it goes on
      have hGone : (sweptAt now ⟨store, pendingAfter calls⟩).pendingActions.get actionId =
          none := by
        rw [hSwept]
        simp [Option.filter, hAhead]
      have hRefused := confirmProgress_of_absent deps now hGone confirmed credential
      constructor
      · intro hAgree hStore pending' hSome hOwner hDeadline hSettles
        cases hSome
        have hGoes := hProceeds.mpr ⟨hStore, hOwner, by omega, hSettles⟩
        have hSurvives := hAgree.survives hGoes
        rw [hGone] at hSurvives
        exact absurd (hSurvives.trans hGet) (by simp)
      · intro hNever
        have hStops : (confirmProgress deps now ⟨store, pendingAfter calls⟩ actionId confirmed
            credential).proceeds = false := by
          rw [Bool.eq_false_iff]
          intro hGoes
          obtain ⟨hStore, hOwner, hInTime, hSettles⟩ := hProceeds.mp hGoes
          exact hNever hStore pending rfl hOwner (by omega) hSettles
        constructor
        · intro hGoes
          rw [hStops] at hGoes
          cases hGoes
        · exact .inr ⟨hStops, hRefused⟩

/-! ## An action denied at its deadline -/

def ownerRecord : CredentialRecord where
  id := "cred"
  config := { operatorId := "op", chatIds := ["conv"] }
  inboxIds := []
  status := .active
  issuedAt := 0
  expiresAt := 100000
  issuedBy := "owner"
  credentialId := "cred"
  operatorId := "op"
  effectiveScopes := ⟨[.send], []⟩
  isExpired := false
  lastHeartbeat := 0

def waitingMessage : PendingAction :=
  ⟨"action", "cred", "send_message", ⟨"conv", "text", .null⟩, 10, 1000⟩

/-- At its deadline the message is sent, unless a sweep has come first. -/
theorem sent_at_deadline_unless_swept :
    ¬ ∀ (deps : HandlerDeps) (calls : List PendingCallOp) (store : CredentialStore) (now : Int)
      (actionId : String) (confirmed : Bool) (credential : CredentialRecord),
      PathsAgree deps now ⟨store, pendingAfter calls⟩ actionId confirmed credential := by
  intro hLaw
  have hAgree := hLaw sampleDeps [.add waitingMessage] .empty 1000 "action" true ownerRecord
  have hGoes : (confirmProgress sampleDeps 1000 ⟨.empty, pendingAfter [.add waitingMessage]⟩
      "action" true ownerRecord).proceeds = true := by decide
  have hSurvives := hAgree.survives hGoes
  revert hSurvives
  decide

end Cli
end Signet
