import Signet.Cli.ActionExecution

/-!
# What becomes of a confirmed action

A confirmation takes its action out of the queue before it awaits the core.  An action is held as
long as it waits in the queue or is in the hands of the call that will send it, and what lets go
of it should have settled it: sent it, denied it, found it expired, or refused it because its
validation fails now.

* `ClosesEntry` — a step that settles an action.
* `Survives` — every queued action is held or settled, and one whose readiness check has failed
  waits again.
* `losesNothing` — the steps after which this is so.
* `dispatch_removes` — why a dispatched confirmation takes an action out for good.
* `retained_step` — what one step does to an action that is held.
* `actions_survive` — over every run, and what a failed readiness check does.
-/

namespace Signet
namespace Cli

open Kit Machine Schemas Policy Sessions

/-- A step of a run of the system with its queue. -/
abbrev ActionStep := Occurrence ActionState ActionLabel ActionOutcome

/-! ## What is asked of a run -/

/-- Why a confirmation of an action refuses it for good. -/
inductive Refusal (now : Int) (action : PendingAction) (confirmed : Bool)
    (credential : CredentialRecord) : Prop
  | expired (h : action.expiresAt < now)
  | denied (h : confirmed = false)
  | invalid (error : SignetError) (hType : action.actionType = "send_message")
      (h : validateSendMessage action.payload.groupId (resolveScopes credential)
        (resolveChatIds credential) = .error error)

/-- The step sends the action, sweeps it when it has expired, or refuses it. -/
inductive ClosesEntry (o : ActionStep) (entry : Ticketed) : Prop
  | executed
      (hOut : .executed (some entry) entry.action.credentialId entry.action.payload ∈ o.out)
  | swept (hEvent : o.label.event = .expireStale) (hOut : .dropped (some entry) ∈ o.out)
      (hExpired : entry.action.expiresAt ≤ o.label.now)
  | refused (call : Nat) (requestId : String) (confirmed : Bool) (credential : CredentialRecord)
      (hEvent : o.label.event = .system (.dispatch call))
      (hLooked : o.pre.system.calls.get call = some (.looked
        ⟨requestId, .confirmAction entry.action.actionId confirmed⟩ (.ok credential)))
      (hOut : .dropped (some entry) ∈ o.out)
      (hRefusal : Refusal o.label.now entry.action confirmed credential)

/-- The action waits, or a call has it in hand to send it. -/
def Held (s : ActionState) (entry : Ticketed) : Prop :=
  Waits s entry ∨ ∃ call, InHand s call entry

/-- Every action queued along the run is held or has been settled, and after a failed readiness
check the action of the call waits, as it was queued. -/
structure Survives (h : List ActionStep) (s : ActionState) : Prop where
  held : ∀ entry : Ticketed, (queuedActions h)[entry.ticket]? = some entry.action →
    Held s entry ∨ ∃ o ∈ h, ClosesEntry o entry
  retried : ∀ h₁ o call error entry, h = h₁ ++ [o] →
    o.label.event = .system (.answer call (.ready (.error error))) → InHand o.pre call entry →
      Waits s entry

variable (deps : HandlerDeps) {action : PendingAction}

/-- The call confirms, in time and for its owner, an action of a type that the handler does not
execute. -/
def confirmsUnsupported (now : Int) (s : SystemState) (call : Nat) : Bool :=
  match s.calls.get call with
  | some (.looked ⟨requestId, .confirmAction actionId true⟩ (.ok credential)) =>
    match s.pending.get actionId with
    | some action =>
      credential.status = .active
        && !rejectsStale deps now s.handler
          ⟨requestId, .confirmAction actionId true⟩ credential
        && deps.hasPendingActions
        && action.credentialId = credential.credentialId
        && now ≤ action.expiresAt
        && action.actionType ≠ "send_message"
    | none => false
  | _ => false

/-- No action is queued under an id that is in use, none of an unknown type is confirmed, and the
core of a confirmed action does get ready. -/
def losesNothing (s : ActionState) (label : ActionLabel) : Bool :=
  match label.event with
  | .system (.queueAction action) => (s.system.pending.get action.actionId).isNone
  | .system (.dispatch call) => !confirmsUnsupported deps label.now s.system call
  | .system (.answer call (.ready (.error _))) => !isConfirming s.system call
  | _ => true

/-! ## What a dispatched confirmation removes -/

/-- The handler takes an action out of the queue to send it, to refuse it, or because it does not
know its type. -/
theorem handleConfirmAction_removes (now : Int) (state : HandlerState) (actionId : String)
    (confirmed : Bool) (credential : CredentialRecord)
    (hWaits : state.pendingActions.get actionId = some action)
    (hGone : (handleConfirmAction deps now state actionId confirmed
      credential).1.pendingActions.get actionId = none) :
    (∃ payload, (handleConfirmAction deps now state actionId confirmed credential).2.2 =
        .await (.confirmReady payload credential)) ∨
      Refusal now action confirmed credential ∨
      (confirmed = true ∧ deps.hasPendingActions = true ∧
        action.credentialId = credential.credentialId ∧ now ≤ action.expiresAt ∧
        action.actionType ≠ "send_message") := by
  have hStays : ∀ {result}, (finish state result).1.pendingActions.get actionId ≠ none := by
    intro result hNone
    simp only [finish, hWaits] at hNone
    cases hNone
  unfold handleConfirmAction at hGone ⊢
  split at hGone
  · exact absurd hGone hStays
  · next hStore =>
    simp only [hStore, hWaits] at hGone ⊢
    split at hGone
    · exact absurd hGone hStays
    · next hOwner =>
      by_cases hExpired : action.expiresAt < now
      · exact Or.inr (Or.inl (.expired hExpired))
      · by_cases hConfirmed : confirmed = true
        · by_cases hType : action.actionType = "send_message"
          · cases hValid : validateSendMessage action.payload.groupId (resolveScopes credential)
                (resolveChatIds credential) with
            | error error => exact Or.inr (Or.inl (.invalid error hType hValid))
            | ok _ =>
              refine Or.inl ⟨action.payload, ?_⟩
              simp [hOwner, hExpired, hConfirmed, hType, hWaits]
          · exact Or.inr (Or.inr ⟨hConfirmed, by simpa using hStore, not_not.mp hOwner,
              by omega, hType⟩)
        · exact Or.inr (Or.inl (.denied (by simpa using hConfirmed)))

variable {s : ActionState} {now : Int} {closed : List (Option Ticketed)} {out : List Observation}
  {call k : Nat} {system' : SystemState} {entry : Ticketed} {h : List ActionStep}

/-- A dispatched call that takes an action out of the queue and does not go on to send it refuses
the action, or does not know its type. -/
theorem dispatch_removes {s : SystemState} {request : HarnessRequest}
    {result : Except SignetError CredentialRecord}
    (hLooked : s.calls.get call = some (.looked request result)) {actionId : String}
    (hNamed : confirmationOf s call = some actionId) (hWaits : s.pending.get actionId = some action)
    (hGone : (dispatch deps now s call request result).1.pending.get actionId = none)
    (hNot : isConfirming (dispatch deps now s call request result).1 call = false) :
    ∃ requestId confirmed credential,
      s.calls.get call =
          some (.looked ⟨requestId, .confirmAction actionId confirmed⟩ (.ok credential)) ∧
        (Refusal now action confirmed credential ∨
          confirmsUnsupported deps now s call = true) := by
  obtain ⟨requestId, body⟩ := request
  have hBody : ∃ confirmed, body = .confirmAction actionId confirmed := by
    unfold confirmationOf at hNamed
    rw [hLooked] at hNamed
    cases body with
    | confirmAction id confirmed =>
      cases hNamed
      exact ⟨confirmed, rfl⟩
    | _ => cases hNamed
  obtain ⟨confirmed, rfl⟩ := hBody
  have hStays : ∀ {calls},
      ({ s with calls := calls } : SystemState).pending.get actionId ≠ none := by
    intro calls hNone
    cases hNone.symm.trans hWaits
  unfold dispatch at hGone hNot
  cases result with
  | error error => exact absurd hGone hStays
  | ok credential =>
    refine ⟨requestId, confirmed, credential, hLooked, ?_⟩
    simp only at hGone hNot
    split at hGone
    · exact absurd hGone hStays
    · next hActive =>
      rw [if_neg hActive] at hNot
      rw [settle_pending] at hGone
      by_cases hStale : rejectsStale deps now s.handler
          ⟨requestId, .confirmAction actionId confirmed⟩ credential = true
      · rw [handleRequest, if_pos hStale] at hGone
        exact absurd hGone (by simp only [finish]; exact @hStays s.calls)
      · have hRequest : handleRequest deps now s.handler
            ⟨requestId, .confirmAction actionId confirmed⟩ credential =
              handleConfirmAction deps now s.handler actionId confirmed credential := by
          rw [handleRequest, if_neg hStale]
        rw [hRequest] at hGone hNot
        rcases handleConfirmAction_removes deps now s.handler actionId confirmed credential
            hWaits hGone with
          ⟨payload, hAwait⟩ | hRefusal | ⟨rfl, hStore, hOwner, hTime, hType⟩
        · -- the call would be confirming
          generalize handleConfirmAction deps now s.handler actionId confirmed credential =
            segment at hAwait hNot
          obtain ⟨handler, effects, ended⟩ := segment
          cases hAwait
          simp [settle, isConfirming] at hNot
        · exact Or.inl hRefusal
        · refine Or.inr ?_
          unfold confirmsUnsupported
          rw [hLooked]
          simp only [hWaits]
          simp [not_not.mp hActive, hStale, hStore, hOwner, hTime, hType]

/-! ## One step -/

/-- A call that confirms goes on doing so until it is answered. -/
theorem confirming_kept {s s' : SystemState} {event : SystemEvent}
    (hStep : systemStep deps s ⟨now, event⟩ = some (s', out)) {payload : SendPayload}
    {credential : CredentialRecord} (hGet : Confirming s k payload credential)
    (hNot : ∀ answer, event ≠ .answer k answer) :
    Confirming s' k payload credential := by
  have hSet : ∀ {call : Nat} {new : PendingCall}, k ≠ call →
      (s.calls.set call new).get k = some (.handling (.confirmReady payload credential)) := by
    intro call new hNe
    rw [AssocMap.get_set, if_neg hNe]
    exact hGet
  have hDelete : ∀ {call : Nat}, k ≠ call →
      (s.calls.delete call).get k = some (.handling (.confirmReady payload credential)) := by
    intro call hNe
    rw [AssocMap.get_delete, if_neg hNe]
    exact hGet
  have hNew : ∀ {call : Nat}, s.calls.get call = none → k ≠ call := by
    rintro call hNone rfl
    cases hNone.symm.trans hGet
  have hOther : ∀ {call : Nat} {other : PendingCall}, s.calls.get call = some other →
      other ≠ .handling (.confirmReady payload credential) → k ≠ call := by
    rintro call other hCall hNe rfl
    exact hNe (Option.some.inj (hCall.symm.trans hGet))
  have hSettled : ∀ {call : Nat} {segment : Segment}, k ≠ call →
      Confirming (settle s call segment).1 k payload credential := by
    rintro call ⟨handler, effects, result | stage⟩ hNe
    · exact hDelete hNe
    · exact hSet hNe
  cases systemStep_move deps hStep with
  | closed hCall => exact hDelete (hOther hCall (by simp))
  | dispatched hCall hActive => exact hSettled (hOther hCall (by simp))
  | answered hCall hResume => exact hSettled (by rintro rfl; exact hNot _ rfl)
  | updateFinished hCall => exact hDelete (hOther hCall (by simp))
  | scopesUpdated hCall => exact hDelete (hOther hCall (by simp))
  | request hFree => exact hSet (hNew hFree)
  | updateBegun hFree => exact hSet (hNew hFree)
  | scopesLooked hFree => exact hSet (hNew hFree)
  | _ => exact hGet

@[simp]
theorem track_system (s : ActionState) (event : SystemEvent) (system' : SystemState)
    (out : List Observation) : (track s event system' out).1.system = system' := by
  cases event with
  | dispatch call =>
    simp only [track]
    split
    · rfl
    · split
      · split
        · split <;> rfl
        · rfl
      · rfl
  | answer call answer =>
    simp only [track]
    split <;> rfl
  | _ => rfl

/-- The entry under an id changes when an action is queued. -/
theorem track_waiting (s : ActionState) {event : SystemEvent} (system' : SystemState)
    (out : List Observation) (hQueue : ∀ action, event ≠ .queueAction action) :
    (track s event system' out).1.waiting = s.waiting := by
  cases event with
  | queueAction action => exact absurd rfl (hQueue action)
  | dispatch call =>
    simp only [track]
    split
    · rfl
    · split
      · split
        · split <;> rfl
        · rfl
      · rfl
  | answer call answer =>
    simp only [track]
    split <;> rfl
  | _ => rfl

/-- A call that confirms keeps what it has in hand. -/
theorem track_taken (hConfirming : isConfirming s.system k = true) (event : SystemEvent)
    (system' : SystemState) (out : List Observation) :
    (track s event system' out).1.taken.get k = s.taken.get k := by
  cases event with
  | dispatch call =>
    simp only [track]
    split
    · rfl
    · next actionId hNamed =>
      have hNe : k ≠ call := by
        rintro rfl
        obtain ⟨payload, credential, hGet⟩ := isConfirming_iff.mp hConfirming
        unfold confirmationOf at hNamed
        rw [show s.system.calls.get k = _ from hGet] at hNamed
        cases hNamed
      split
      · split
        · split
          · simp only [AssocMap.get_set, if_neg hNe]
          · rfl
        · rfl
      · rfl
  | answer call answer =>
    simp only [track]
    split <;> rfl
  | _ => rfl

/-- An action in hand stays there until its call is answered. -/
theorem inHand_step {event : SystemEvent}
    (hStep : systemStep deps s.system ⟨now, event⟩ = some (system', out)) (hHand : InHand s k entry)
    (hNot : ∀ answer, event ≠ .answer k answer) :
    InHand (track s event system' out).1 k entry := by
  obtain ⟨payload, credential, hGet⟩ := isConfirming_iff.mp hHand.1
  refine ⟨?_, ?_⟩
  · rw [track_system]
    exact isConfirming_iff.mpr ⟨payload, credential, confirming_kept deps hStep hGet hNot⟩
  · rw [track_taken hHand.1]
    exact hHand.2

/-- A call whose core is ready sends what it has in hand. -/
theorem executed_of_answer {answer : Answer}
    (hStep : systemStep deps s.system ⟨now, .answer call answer⟩ = some (system', out))
    (inv : ActionInvariant closed s) (hHand : InHand s call entry)
    (hReady : ∀ error, answer ≠ .ready (.error error)) :
    .executed (some entry) entry.action.credentialId entry.action.payload ∈
      (track s (.answer call answer) system' out).2 := by
  obtain ⟨payload, credential, hGet⟩ := isConfirming_iff.mp hHand.1
  obtain ⟨entry', hTaken, hPayload, hOwner⟩ := inv.accounted.hands call payload credential hGet
  obtain rfl : entry' = entry := Option.some.inj (hTaken.symm.trans hHand.2)
  have hSent : sentMessages out = [(credential.credentialId, payload)] := by
    simp only [systemStep, show s.system.calls.get call = _ from hGet] at hStep
    obtain ⟨segment, hResume, hSettle⟩ := Option.map_eq_some_iff.mp hStep
    have hOut : out = (settle s.system call segment).2 := by rw [hSettle]
    rw [hOut, sentMessages_settle]
    cases answer with
    | ready result =>
      cases result with
      | error error => exact absurd rfl (hReady error)
      | ok _ =>
        cases hResume
        rfl
    | _ => cases hResume
  simp only [track, if_pos hHand.1, hSent, List.map_cons, List.map_nil, hTaken, hPayload, hOwner]
  exact List.mem_singleton.mpr rfl

/-- A waiting action that a sweep does not let wait has expired. -/
theorem swept_step (inv : ActionInvariant closed s) (now : Int) (hWaits : Waits s entry) :
    (s.system.pending.expireStale now).1.get entry.action.actionId = some entry.action ∨
      (entry.action.expiresAt ≤ now ∧
        entry.action ∈ (s.system.pending.expireStale now).2) := by
  have hGone : (s.system.pending.expireStale now).1.get entry.action.actionId =
      if entry.action.actionId ∈
          (s.system.pending.expireStale now).2.map PendingAction.actionId then none
      else s.system.pending.get entry.action.actionId :=
    get_foldl_delete _ s.system.pending _
  split at hGone
  · next hMem =>
    obtain ⟨action, hSwept, hId⟩ := List.mem_map.mp hMem
    obtain ⟨hValue, hExpired⟩ := List.mem_filter.mp hSwept
    -- what is swept under an id is what waits under it
    obtain ⟨id, hGet⟩ := AssocMap.mem_values.mp hValue
    obtain ⟨hNamed, -⟩ := inv.accounted.waits id action hGet
    have hSame : some action = some entry.action := by
      rw [← hWaits.1, ← hId, hNamed]
      exact hGet.symm
    obtain rfl := Option.some.inj hSame
    exact Or.inr ⟨by simpa using hExpired, hSwept⟩
  · rw [hGone]
    exact Or.inl hWaits.1

theorem dispatched_step
    (hStep : systemStep deps s.system ⟨now, .dispatch call⟩ = some (system', out))
    (hSupported : confirmsUnsupported deps now s.system call = false) (hWaits : Waits s entry) :
    Held (track s (.dispatch call) system' out).1 entry ∨
      ∃ requestId confirmed credential,
        s.system.calls.get call = some (.looked
          ⟨requestId, .confirmAction entry.action.actionId confirmed⟩ (.ok credential)) ∧
        Refusal now entry.action confirmed credential ∧
        .dropped (some entry) ∈ (track s (.dispatch call) system' out).2 := by
  have hWaiting := @track_waiting s (.dispatch call) system' out (fun _ => nofun)
  simp only [systemStep] at hStep
  split at hStep
  · next request result hLooked =>
    have hState : system' = (dispatch deps now s.system call request result).1 := by
      rw [Option.some.inj hStep]
    have hQueue := @dispatch_queue deps now s.system call request result hLooked
    rw [← hState] at hQueue
    have hStill : system'.pending.get entry.action.actionId = some entry.action →
        Held (track s (.dispatch call) system' out).1 entry := by
      intro hGet
      refine Or.inl ⟨?_, ?_⟩
      · rw [track_system]
        exact hGet
      · rw [hWaiting]
        exact hWaits.2
    rcases hQueue with hSame | ⟨actionId, action, hTaken⟩
    · refine Or.inl (hStill ?_)
      rw [hSame.pending]
      exact hWaits.1
    · by_cases hId : entry.action.actionId = actionId
      · subst hId
        have hGone : system'.pending.get entry.action.actionId = none := by
          rw [hTaken.removed, get_removeAndReturn, if_pos rfl]
        cases hConfirming : isConfirming system' call with
        | true =>
          refine Or.inl (Or.inr ⟨call, ?_, ?_⟩)
          · rw [track_system]
            exact hConfirming
          · simp [track, hTaken.named, hWaits.1, hGone, hConfirming, hWaits.2]
        | false =>
          rw [hState] at hGone hConfirming
          obtain ⟨requestId, confirmed, credential, hCall, hWhy⟩ :=
            dispatch_removes deps hLooked hTaken.named hWaits.1 hGone hConfirming
          refine Or.inr ⟨requestId, confirmed, credential, hCall, ?_, ?_⟩
          · refine hWhy.resolve_right ?_
            rw [hSupported]
            exact Bool.false_ne_true
          · rw [← hState] at hGone hConfirming
            simp [track, hTaken.named, hWaits.1, hGone, hConfirming, hWaits.2]
      · refine Or.inl (hStill ?_)
        rw [hTaken.removed, get_removeAndReturn, if_neg hId]
        exact hWaits.1
  · cases hStep

/-- An action that is held before a step that loses nothing is held after it, or the step has
settled it. -/
theorem retained_step {s' : ActionState} {label : ActionLabel} {out : List ActionOutcome}
    (inv : ActionInvariant closed s) (hStep : actionStep deps s label = some (s', out))
    (hKeeps : losesNothing deps s label = true) (hHeld : Held s entry) :
    Held s' entry ∨ ClosesEntry ⟨s, label, out⟩ entry := by
  obtain ⟨now, event⟩ := label
  cases event with
  | expireStale =>
    cases hStep
    rcases hHeld with hWaits | ⟨call, hHand⟩
    · rcases swept_step inv now hWaits with hKept | ⟨hExpired, hSwept⟩
      · exact Or.inl (Or.inl ⟨hKept, hWaits.2⟩)
      · refine Or.inr (.swept rfl (List.mem_map.mpr ⟨entry.action, hSwept, ?_⟩) hExpired)
        rw [hWaits.2]
    · exact Or.inl (Or.inr ⟨call, hHand⟩)
  | system event =>
    simp only [actionStep] at hStep
    split at hStep
    · cases hStep
    · next system' observed hSystem =>
      cases hStep
      rcases hHeld with hWaits | ⟨call, hHand⟩
      · -- a waiting action: only a dispatch can take it out of the queue
        have hSame : system'.pending = s.system.pending →
            (∀ action, event ≠ .queueAction action) →
              Held (track s event system' observed).1 entry := by
          intro hPending hQueue
          refine Or.inl ⟨?_, ?_⟩
          · rw [track_system, hPending]
            exact hWaits.1
          · rw [track_waiting s system' observed hQueue]
            exact hWaits.2
        cases event with
        | queueAction action =>
          cases hSystem
          have hFree : s.system.pending.get action.actionId = none := by
            simpa [losesNothing] using hKeeps
          have hNe : entry.action.actionId ≠ action.actionId := by
            intro hEq
            rw [← hEq, hWaits.1] at hFree
            cases hFree
          refine Or.inl (Or.inl ⟨?_, ?_⟩)
          · show (s.system.pending.add action).get entry.action.actionId = some entry.action
            unfold PendingActionStore.add PendingActionStore.get
            rw [AssocMap.get_set, if_neg hNe]
            exact hWaits.1
          · simp only [track, AssocMap.get_set, if_neg hNe]
            exact hWaits.2
        | dispatch call =>
          have hSupported : confirmsUnsupported deps now s.system call = false := by
            simpa [losesNothing] using hKeeps
          rcases dispatched_step deps hSystem hSupported hWaits with
            hHeld | ⟨requestId, confirmed, credential, hCall, hRefusal, hOut⟩
          · exact Or.inl hHeld
          · exact Or.inr (.refused call requestId confirmed credential rfl hCall
              (List.mem_append_right _ hOut) hRefusal)
        | answer call answer =>
          exact Or.inl (hSame (answer_queue deps hSystem).pending (by rintro _ ⟨⟩))
        | _ =>
          refine Or.inl (hSame (systemStep_sameQueue deps hSystem ?_ ?_ ?_).pending ?_) <;>
            (intros; rintro ⟨⟩)
      · by_cases hAnswer : ∃ answer, event = .answer call answer
        · obtain ⟨answer, rfl⟩ := hAnswer
          refine Or.inr (.executed (List.mem_append_right _
            (executed_of_answer deps hSystem inv hHand ?_)))
          rintro error rfl
          simp [losesNothing, hHand.1] at hKeeps
        · exact Or.inl (Or.inr ⟨call, inHand_step deps hSystem hHand
            fun answer hEq => hAnswer ⟨answer, hEq⟩⟩)

theorem held_of_queued {s' : ActionState} {label : ActionLabel} {out : List ActionOutcome}
    (hStep : actionStep deps s label = some (s', out)) (hNew : s.queued[entry.ticket]? = none)
    (hQueued : s'.queued[entry.ticket]? = some entry.action) :
    Held s' entry := by
  rw [queued_step deps hStep] at hQueued
  have hPlace : s.queued.length ≤ entry.ticket := by simpa using hNew
  rw [List.getElem?_append_right hPlace] at hQueued
  obtain ⟨now, event⟩ := label
  have hEvent : event = .system (.queueAction entry.action) ∧ entry.ticket = s.queued.length := by
    cases event with
    | expireStale => simp [queuedActions] at hQueued
    | system event =>
      cases event with
      | queueAction action =>
        simp only [queuedActions, List.filterMap_cons, List.filterMap_nil,
          List.getElem?_singleton] at hQueued
        split at hQueued
        · cases hQueued
          exact ⟨rfl, by omega⟩
        · cases hQueued
      | _ => simp [queuedActions] at hQueued
  obtain ⟨rfl, hTicket⟩ := hEvent
  cases hStep
  refine Or.inl ⟨?_, ?_⟩
  · show (s.system.pending.add entry.action).get entry.action.actionId = some entry.action
    simp [PendingActionStore.add, PendingActionStore.get]
  · simp only [track, AssocMap.get_set, if_true]
    rw [← hTicket]

/-! ## Runs -/

/-- A failed readiness check leaves the queue as it is: without the action. -/
theorem lost_of_failed_readiness {o : ActionStep} (hRun : (actionMachine deps).Runs (h ++ [o]) s)
    {error : SignetError} (hEvent : o.label.event = .system (.answer call (.ready (.error error))))
    (hHand : InHand o.pre call entry) : ¬ Waits s entry := by
  obtain ⟨hBefore, hTaken⟩ := hRun.of_snoc
  obtain ⟨pre, ⟨now, event⟩, out⟩ := o
  cases hEvent
  have hStep : actionStep deps pre ⟨now, .system (.answer call (.ready (.error error)))⟩ =
      some (s, out) := hTaken
  simp only [actionStep] at hStep
  split at hStep
  · cases hStep
  · next system' observed hSystem =>
    cases hStep
    intro hWaits
    refine ((actionInvariant_of_runs deps hBefore).waitsOnly entry ⟨?_, ?_⟩).1 call hHand
    · rw [← (answer_queue deps hSystem).pending, ← track_system pre _ system' observed]
      exact hWaits.1
    · rw [← @track_waiting pre (.answer call (.ready (.error error))) system' observed
        (by rintro _ ⟨⟩)]
      exact hWaits.2

theorem not_survives_of_failed_readiness {o : ActionStep}
    (hRun : (actionMachine deps).Runs (h ++ [o]) s) {error : SignetError}
    (hEvent : o.label.event = .system (.answer call (.ready (.error error))))
    (hConfirming : isConfirming o.pre.system call = true) : ¬ Survives (h ++ [o]) s := by
  intro hSurvives
  obtain ⟨hBefore, -⟩ := hRun.of_snoc
  obtain ⟨payload, credential, hGet⟩ := isConfirming_iff.mp hConfirming
  obtain ⟨entry, hTaken, -⟩ :=
    (actionInvariant_of_runs deps hBefore).accounted.hands call payload credential hGet
  have hHand : InHand o.pre call entry := ⟨hConfirming, hTaken⟩
  exact lost_of_failed_readiness deps hRun hEvent hHand
    (hSurvives.retried h o call error entry rfl hEvent hHand)

/-- **A confirmed action and its readiness check.**  A run each step of which loses nothing has
held every queued action until it was settled.  A failed readiness check of a confirmed action
does lose it: the action has left the queue before the check, and nothing puts it back. -/
theorem actions_survive {h : List ActionStep} {s : ActionState}
    (hRun : (actionMachine deps).Runs h s) :
    (AllMeet (fun s label => losesNothing deps s label = true) h → Survives h s) ∧
      ∀ h₁ o call error, h = h₁ ++ [o] →
        o.label.event = .system (.answer call (.ready (.error error))) →
          isConfirming o.pre.system call = true → ¬ Survives h s := by
  constructor
  · intro hMeet
    constructor
    · refine @Runs.invariant _ _ _ _ (fun s label => losesNothing deps s label = true)
        (fun h s => ∀ entry : Ticketed, (queuedActions h)[entry.ticket]? = some entry.action →
          Held s entry ∨ ∃ o ∈ h, ClosesEntry o entry) ?_ ?_ h s hRun hMeet
      · intro entry hNone
        simp [queuedActions] at hNone
      · intro h₀ t label t' out hBefore _ ih hKeeps hStep entry hQueued
        have hAll := queued_of_runs deps hBefore
        have hAll' := queued_of_runs deps (hBefore.step hStep)
        by_cases hOld : (queuedActions h₀)[entry.ticket]? = some entry.action
        · rcases ih entry hOld with hHeld | ⟨o, hMem, hSettles⟩
          · rcases retained_step deps (actionInvariant_of_runs deps hBefore) hStep hKeeps hHeld
              with hStill | hSettles
            · exact Or.inl hStill
            · exact Or.inr ⟨_, by simp, hSettles⟩
          · exact Or.inr ⟨o, List.mem_append_left _ hMem, hSettles⟩
        · -- the step has queued the action
          refine Or.inl (held_of_queued deps hStep ?_ (by rw [hAll']; exact hQueued))
          rw [← hAll', queued_step deps hStep, hAll] at hQueued
          rw [hAll, List.getElem?_eq_none_iff]
          by_contra hLess
          rw [List.getElem?_append_left (by omega)] at hQueued
          exact hOld hQueued
    · rintro h₁ o call error entry rfl hEvent hHand
      have hKeeps := ((allMeet_snoc _ _ _).mp hMeet).2
      simp [losesNothing, hEvent, hHand.1] at hKeeps
  · rintro h₁ o call error rfl hEvent hConfirming
    exact not_survives_of_failed_readiness deps hRun hEvent hConfirming

theorem confirmedTwice_losesNothing :
    (actionMachine sampleDeps).Executes confirmedTwice fun h _ =>
      AllMeet (fun s label => losesNothing sampleDeps s label = true) h := by
  decide

theorem actions_survive_confirmedTwice :
    ∃ h s, h.map Occurrence.label = confirmedTwice ∧ Survives h s := by
  obtain ⟨h, s, hLabels, hRun, hMeet⟩ := confirmedTwice_losesNothing.exists_run
  exact ⟨h, s, hLabels, (actions_survive sampleDeps hRun).1 hMeet⟩

def confirmedOnce : List ActionLabel :=
  [⟨0, .system issueSender.event⟩,
    ⟨10, .system (.queueAction
      ⟨"action", "cred", "send_message", ⟨"conv", "text", .null⟩, 10, 1000⟩)⟩,
    ⟨20, .system (.request 1 "cred" ⟨"first", .confirmAction "action" true⟩)⟩,
    ⟨20, .system (.dispatch 1)⟩]

/-- The core does not get ready for it. -/
def coreUnready : ActionLabel :=
  ⟨30, .system (.answer 1 (.ready (.error (InternalError.create "Core is not ready"))))⟩

theorem confirmedOnce_confirming :
    (actionMachine sampleDeps).Executes confirmedOnce fun _ s =>
      isConfirming s.system 1 = true ∧ (actionStep sampleDeps s coreUnready).isSome = true := by
  decide

/-- A confirmation that fails because the core is not ready loses the action. -/
theorem unready_confirmation_loses :
    ∃ h s, (actionMachine sampleDeps).Runs h s ∧
      h.map Occurrence.label = confirmedOnce ++ [coreUnready] ∧ ¬ Survives h s := by
  obtain ⟨h, s, hLabels, hRun, hConfirming, hGoes⟩ := confirmedOnce_confirming.exists_run
  obtain ⟨⟨s', out⟩, hStep⟩ := Option.isSome_iff_exists.mp hGoes
  have hWhole : (actionMachine sampleDeps).Runs (h ++ [⟨s, coreUnready, out⟩]) s' :=
    hRun.step hStep
  refine ⟨_, s', hWhole, ?_, not_survives_of_failed_readiness sampleDeps hWhole rfl hConfirming⟩
  rw [List.map_append, hLabels]
  rfl

end Cli
end Signet
