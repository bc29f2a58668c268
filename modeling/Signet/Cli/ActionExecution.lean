import Signet.Cli.SendAuthority

/-!
# A pending action is executed at most once

Confirming an action takes it out of the queue before the handler awaits, and
denying or expiring it takes it out as well, so whatever happens to a queued
action happens once.  The system runs with the expiry sweep of the queue, and
beside it a record of which queued action is where.

* `Ticketed` — an action with the number it was queued under.
* `actionStep` — a step of the system or a sweep, and what became of actions.
* `ActionInvariant` — a queued action waits, is in the hands of one call, or has
  been executed or dropped, and only one of these.
* `pending_action_closed_once` — over every run.
-/

namespace Signet
namespace Cli

open Kit Machine Schemas Policy Sessions

/-! ## The queue with tickets -/

/-- An action with the number it was queued under. -/
structure Ticketed where
  ticket : Nat
  action : PendingAction
deriving DecidableEq

structure ActionState where
  system : SystemState
  queued : List PendingAction
  /-- The action that waits under an id. -/
  waiting : AssocMap String Ticketed
  /-- The action that a call has taken out of the queue to execute it. -/
  taken : AssocMap Nat Ticketed

/-- A step of the system, or a sweep of the queue. -/
inductive ActionEvent where
  | system (event : SystemEvent)
  | expireStale

/-- An event at a clock reading. -/
structure ActionLabel where
  now : Int
  event : ActionEvent

/-- What a step makes observable. -/
inductive ActionOutcome where
  | observed (observation : Observation)
  /-- `deps.sendMessage` has been called for an action. -/
  | executed (entry : Option Ticketed) (credentialId : String) (message : SendPayload)
  /-- An action was denied, has expired, or failed its validation. -/
  | dropped (entry : Option Ticketed)

def SystemState.pending (s : SystemState) : PendingActionStore := s.handler.pendingActions

/-- The id of the action that a call at its dispatch confirms or denies. -/
def confirmationOf (s : SystemState) (call : Nat) : Option String :=
  match s.calls.get call with
  | some (.looked ⟨_, .confirmAction actionId _⟩ _) => some actionId
  | _ => none

/-- The call has taken an action and awaits the core to send it. -/
def isConfirming (s : SystemState) (call : Nat) : Bool :=
  match s.calls.get call with
  | some (.handling (.confirmReady ..)) => true
  | _ => false

def sentMessages (out : List Observation) : List (String × SendPayload) :=
  out.filterMap fun
    | .effect (.sendMessage credentialId message) => some (credentialId, message)
    | _ => none

/-- What a step of the system has done to the queued actions. -/
def track (s : ActionState) (event : SystemEvent) (system' : SystemState)
    (out : List Observation) : ActionState × List ActionOutcome :=
  let same : ActionState := { s with system := system' }
  match event with
  | .queueAction action =>
    ({ same with
      queued := s.queued ++ [action]
      waiting := s.waiting.set action.actionId ⟨s.queued.length, action⟩ }, [])
  | .dispatch call =>
    match confirmationOf s.system call with
    | none => (same, [])
    | some actionId =>
      match s.system.pending.get actionId, system'.pending.get actionId with
      | some _, none =>
        if isConfirming system' call then
          match s.waiting.get actionId with
          | some entry => ({ same with taken := s.taken.set call entry }, [])
          | none => (same, [])
        else (same, [.dropped (s.waiting.get actionId)])
      | _, _ => (same, [])
  | .answer call _ =>
    if isConfirming s.system call then
      (same, (sentMessages out).map fun sent => .executed (s.taken.get call) sent.1 sent.2)
    else (same, [])
  | _ => (same, [])

variable (deps : HandlerDeps)

/-- One step. -/
def actionStep (s : ActionState) (label : ActionLabel) :
    Option (ActionState × List ActionOutcome) :=
  match label.event with
  | .expireStale =>
    let swept := s.system.pending.expireStale label.now
    some ({ s with system :=
        { s.system with handler := { s.system.handler with pendingActions := swept.1 } } },
      swept.2.map fun action => .dropped (s.waiting.get action.actionId))
  | .system event =>
    match systemStep deps s.system ⟨label.now, event⟩ with
    | none => none
    | some (system', out) =>
      let tracked := track s event system' out
      some (tracked.1, out.map .observed ++ tracked.2)

/-- The system with its queue, started empty. -/
def actionMachine : Machine ActionState ActionLabel ActionOutcome where
  init := ⟨(systemMachine deps).init, [], .empty, .empty⟩
  step := actionStep deps

def ActionOutcome.closes : ActionOutcome → Option (Option Ticketed)
  | .observed _ => none
  | .executed entry _ _ => some entry
  | .dropped entry => some entry

/-- The actions closed along a run, in order. -/
def closings (h : List (Occurrence ActionState ActionLabel ActionOutcome)) :
    List (Option Ticketed) :=
  (outputs h).filterMap ActionOutcome.closes

/-! ## What the handler does to the queue -/

structure LeavesQueue (state : HandlerState) (segment : Segment) : Prop where
  pending : segment.1.pendingActions = state.pendingActions
  confirms : ∀ payload credential, segment.2.2 ≠ .await (.confirmReady payload credential)

/-- A segment that takes an action out of the queue: to execute it, or for good. -/
structure TakesAction (state : HandlerState) (actionId : String) (credential : CredentialRecord)
    (action : PendingAction) (segment : Segment) : Prop where
  waits : state.pendingActions.get actionId = some action
  removed : segment.1.pendingActions = (state.pendingActions.removeAndReturn actionId).1
  ends : (∀ payload credential', segment.2.2 ≠ .await (.confirmReady payload credential')) ∨
    (segment.2.2 = .await (.confirmReady action.payload credential) ∧
      action.credentialId = credential.credentialId)

theorem handleConfirmAction_queue (now : Int) (state : HandlerState) (actionId : String)
    (confirmed : Bool) (credential : CredentialRecord) :
    let segment := handleConfirmAction deps now state actionId confirmed credential
    LeavesQueue state segment ∨
      ∃ action, TakesAction state actionId credential action segment := by
  intro segment
  simp only [segment, handleConfirmAction]
  split
  · exact Or.inl ⟨rfl, by rintro _ _ ⟨⟩⟩
  · split
    · exact Or.inl ⟨rfl, by rintro _ _ ⟨⟩⟩
    · next pending hPending =>
      split
      · exact Or.inl ⟨rfl, by rintro _ _ ⟨⟩⟩
      · next hOwner =>
        split
        · exact Or.inr ⟨pending, hPending, rfl, Or.inl (by rintro _ _ ⟨⟩)⟩
        · split
          · exact Or.inr ⟨pending, hPending, rfl, Or.inl (by rintro _ _ ⟨⟩)⟩
          · split
            · exact Or.inr ⟨pending, hPending, rfl, Or.inl (by rintro _ _ ⟨⟩)⟩
            · rw [PendingActionStore.confirm_snd, hPending]
              simp only
              split
              · exact Or.inr ⟨pending, hPending, rfl, Or.inr ⟨rfl, not_not.mp hOwner⟩⟩
              · exact Or.inr ⟨pending, hPending, rfl, Or.inl (by rintro _ _ ⟨⟩)⟩

/-- Only a confirmation touches the queue. -/
theorem handleRequest_queue (now : Int) (state : HandlerState) (request : HarnessRequest)
    (credential : CredentialRecord) :
    let segment := handleRequest deps now state request credential
    LeavesQueue state segment ∨ ∃ actionId confirmed action,
      request.body = .confirmAction actionId confirmed ∧
        TakesAction state actionId credential action segment := by
  intro segment
  obtain ⟨requestId, body⟩ := request
  simp only [segment, handleRequest]
  split
  · exact Or.inl ⟨rfl, by rintro _ _ ⟨⟩⟩
  · cases body with
    | sendMessage groupId contentType content =>
      refine Or.inl ?_
      simp only [handleSendMessage]
      split <;> exact ⟨rfl, by rintro _ _ ⟨⟩⟩
    | heartbeat requestedId =>
      refine Or.inl ⟨?_, fun _ _ => handleHeartbeat_await⟩
      simp only [handleHeartbeat]
      split
      · rfl
      · split <;> rfl
    | revealContent reveal =>
      refine Or.inl ⟨?_, ?_⟩
      · simp only [handleRevealContent]
        split
        · rfl
        · split
          · rfl
          · split <;> rfl
      · intro payload credential' hAwait
        obtain ⟨access, hStage⟩ := handleRevealContent_await hAwait
        cases hStage
    | updateScopes allow deny =>
      refine Or.inl ⟨?_, fun _ _ => handleUpdateScopes_await⟩
      simp only [handleUpdateScopes]
      split
      · rfl
      · split
        · rfl
        · split <;> rfl
    | confirmAction actionId confirmed =>
      rcases handleConfirmAction_queue deps now state actionId confirmed credential with
        hLeaves | ⟨action, hTakes⟩
      · exact Or.inl hLeaves
      · exact Or.inr ⟨actionId, confirmed, action, rfl, hTakes⟩
    | sendReaction groupId messageId action content => exact Or.inl ⟨rfl, by rintro _ _ ⟨⟩⟩
    | sendReply groupId messageId contentType content => exact Or.inl ⟨rfl, by rintro _ _ ⟨⟩⟩

variable {label : ActionLabel} {s s' : ActionState} {credential : CredentialRecord}
  {closed : List (Option Ticketed)} {out : List Observation} {call k : Nat} {segment : Segment}
  {payload : SendPayload} {actionId : String} {system' : SystemState} {entry : Ticketed}
  {h : List (Occurrence ActionState ActionLabel ActionOutcome)} {calls : AssocMap Nat PendingCall}
  {store : PendingActionStore} {action : PendingAction}

/-- The later segments leave the queue alone and confirm nothing. -/
theorem resume_queue (now : Int) (state : HandlerState) (stage : HandlerStage) (answer : Answer)
    (h : resume deps now state stage answer = some segment) :
    LeavesQueue state segment := by
  unfold resume at h
  split at h
  · split at h <;> cases h <;> exact ⟨rfl, fun _ _ => nofun⟩
  · split at h
    · cases h
      exact ⟨rfl, fun _ _ => nofun⟩
    · split at h <;> cases h <;> exact ⟨rfl, fun _ _ => nofun⟩
  · split at h
    · cases h
      exact ⟨rfl, fun _ _ => nofun⟩
    · split at h <;> cases h <;> exact ⟨rfl, fun _ _ => nofun⟩
  · split at h <;> cases h <;> exact ⟨rfl, fun _ _ => nofun⟩
  · split at h <;> cases h <;> exact ⟨rfl, fun _ _ => nofun⟩
  · split at h <;> cases h <;> exact ⟨rfl, fun _ _ => nofun⟩
  · cases h
    exact ⟨rfl, fun _ _ => nofun⟩
  · cases h
    exact ⟨rfl, fun _ _ => nofun⟩
  · cases h

/-- A confirmed action is sent for its credential, with its payload, or not at
all. -/
theorem resume_confirmReady (now : Int) (state : HandlerState) (payload : SendPayload)
    (credential : CredentialRecord) (answer : Answer)
    (h : resume deps now state (.confirmReady payload credential) answer = some segment) :
    segment.2.1 = [] ∨ segment.2.1 = [.sendMessage credential.credentialId payload] := by
  cases answer with
  | ready result =>
    simp only [resume] at h
    split at h <;> cases h
    · exact Or.inl rfl
    · exact Or.inr rfl
  | _ => cases h

/-! ## What a step does to the queue -/

/-- The call awaits the core to send a confirmed action. -/
def Confirming (s : SystemState) (call : Nat) (payload : SendPayload)
    (credential : CredentialRecord) : Prop :=
  s.calls.get call = some (.handling (.confirmReady payload credential))

theorem isConfirming_iff {s : SystemState} :
    isConfirming s call = true ↔ ∃ payload credential, Confirming s call payload credential := by
  unfold isConfirming Confirming
  split
  · next payload credential hGet => simp [hGet]
  · next hOther =>
    constructor
    · intro hFalse
      cases hFalse
    · rintro ⟨payload, credential, hGet⟩
      exact absurd hGet (hOther payload credential)

structure SameQueue (s s' : SystemState) : Prop where
  pending : s'.pending = s.pending
  confirming : ∀ call payload credential, Confirming s' call payload credential →
    Confirming s call payload credential

theorem confirming_of_set {s : SystemState} {new : PendingCall} (hCalls : calls = s.calls.set k new)
    (hNew : ∀ payload credential, new ≠ .handling (.confirmReady payload credential))
    (hGet : calls.get call = some (.handling (.confirmReady payload credential))) :
    call ≠ k ∧ Confirming s call payload credential := by
  rw [hCalls, AssocMap.get_set] at hGet
  split at hGet
  · exact absurd (Option.some.inj hGet) (hNew payload credential)
  · next hNe => exact ⟨hNe, hGet⟩

theorem confirming_of_delete {s : SystemState} (hCalls : calls = s.calls.delete k)
    (hGet : calls.get call = some (.handling (.confirmReady payload credential))) :
    call ≠ k ∧ Confirming s call payload credential := by
  rw [hCalls] at hGet
  exact AssocMap.of_get_delete hGet

/-- Taking in a segment that confirms nothing: the call itself confirms nothing
either. -/
theorem settle_queue {s : SystemState} (hConfirms : ∀ payload credential,
      segment.2.2 ≠ .await (.confirmReady payload credential))
    (hGet : Confirming (settle s call segment).1 k payload credential) :
    k ≠ call ∧ Confirming s k payload credential := by
  obtain ⟨handler, effects, result | stage⟩ := segment
  · exact confirming_of_delete rfl hGet
  · refine confirming_of_set rfl ?_ hGet
    rintro payload' credential' hEq
    cases hEq
    exact hConfirms payload' credential' rfl

@[simp]
theorem settle_pending (s : SystemState) (call : Nat) (segment : Segment) :
    (settle s call segment).1.pending = segment.1.pendingActions := by
  obtain ⟨handler, effects, _ | _⟩ := segment <;> rfl

/-- A dispatched request takes an action out of the queue: to execute it, or for
good. -/
structure TakenAtDispatch (s s' : SystemState) (call : Nat) (actionId : String)
    (action : PendingAction) : Prop where
  named : confirmationOf s call = some actionId
  waits : s.pending.get actionId = some action
  removed : s'.pending = (s.pending.removeAndReturn actionId).1
  others : ∀ k payload credential, Confirming s' k payload credential → k ≠ call →
    Confirming s k payload credential
  mine : ∀ payload credential, Confirming s' call payload credential →
    action.payload = payload ∧ action.credentialId = credential.credentialId

theorem dispatch_queue {now : Int} {s : SystemState} {call : Nat} {request : HarnessRequest}
    {result : Except SignetError CredentialRecord}
    (hLooked : s.calls.get call = some (.looked request result)) :
    let s' := (dispatch deps now s call request result).1
    SameQueue s s' ∨ ∃ actionId action, TakenAtDispatch s s' call actionId action := by
  intro s'
  simp only [s', dispatch]
  split
  · exact Or.inl ⟨rfl, fun _ _ _ hGet => (confirming_of_delete rfl hGet).2⟩
  · next credential =>
    split
    · exact Or.inl ⟨rfl, fun _ _ _ hGet => (confirming_of_delete rfl hGet).2⟩
    · rcases handleRequest_queue deps now s.handler request credential with
        hLeaves | ⟨actionId, confirmed, action, hBody, hTakes⟩
      · refine Or.inl ⟨?_, fun _ _ _ hGet => (settle_queue hLeaves.confirms hGet).2⟩
        rw [settle_pending]
        exact hLeaves.pending
      · refine Or.inr ⟨actionId, action, ?_, hTakes.waits, ?_, ?_, ?_⟩
        · obtain ⟨requestId, body⟩ := request
          cases hBody
          unfold confirmationOf
          rw [hLooked]
        · rw [settle_pending]
          exact hTakes.removed
        · intro k payload credential' hGet hNe
          rcases settle_calls s call _ hGet with hOld | ⟨stage, hAwait, hStage⟩
          · exact hOld
          · rcases hTakes.ends with hNone | ⟨hEnds, -⟩
            · cases hStage
              exact absurd hAwait (hNone payload credential')
            · unfold Confirming at hGet
              generalize handleRequest deps now s.handler request credential = segment at *
              obtain ⟨handler, effects, ended⟩ := segment
              cases hEnds
              simp only [settle, AssocMap.get_set, if_neg hNe] at hGet
              exact hGet
        · intro payload credential' hGet
          rcases hTakes.ends with hNone | ⟨hEnds, hOwner⟩
          · exact absurd rfl (settle_queue hNone hGet).1
          · unfold Confirming at hGet
            generalize handleRequest deps now s.handler request credential = segment at *
            obtain ⟨handler, effects, ended⟩ := segment
            cases hEnds
            simp only [settle, AssocMap.get_set, if_true] at hGet
            cases hGet
            exact ⟨rfl, hOwner⟩

/-- An answered call confirms nothing any more, and it sends what it had
confirmed or nothing. -/
structure AnsweredCall (s s' : SystemState) (call : Nat) (out : List Observation) : Prop where
  pending : s'.pending = s.pending
  others : ∀ k payload credential, Confirming s' k payload credential →
    k ≠ call ∧ Confirming s k payload credential
  sends : ∀ payload credential, Confirming s call payload credential →
    sentMessages out = [] ∨ sentMessages out = [(credential.credentialId, payload)]

theorem sentMessages_settle (s : SystemState) (call : Nat) (segment : Segment) :
    sentMessages (settle s call segment).2 = sentMessages (segment.2.1.map .effect) := by
  obtain ⟨handler, effects, result | stage⟩ := segment
  · simp [settle, sentMessages]
  · rfl

theorem answer_queue {s s' : SystemState} {now : Int} {answer : Answer}
    (hStep : systemStep deps s ⟨now, .answer call answer⟩ = some (s', out)) :
    AnsweredCall s s' call out := by
  cases systemStep_move deps hStep with
  | @answered _ _ stage _ hStage hResume =>
    have hLeaves := resume_queue deps now s.handler stage answer hResume
    refine ⟨?_, fun _ _ _ hGet => settle_queue hLeaves.confirms hGet, ?_⟩
    · rw [settle_pending]
      exact hLeaves.pending
    · intro payload credential hConfirming
      unfold Confirming at hConfirming
      rw [hStage] at hConfirming
      cases hConfirming
      rw [sentMessages_settle]
      rcases resume_confirmReady deps now s.handler payload credential answer hResume with
        hNone | hOne
      · rw [hNone]
        exact Or.inl rfl
      · rw [hOne]
        exact Or.inr rfl

theorem systemStep_sameQueue {s s' : SystemState} {now : Int} {event : SystemEvent}
    (hStep : systemStep deps s ⟨now, event⟩ = some (s', out))
    (hQueue : ∀ action, event ≠ .queueAction action) (hDispatch : ∀ call, event ≠ .dispatch call)
    (hAnswer : ∀ call answer, event ≠ .answer call answer) : SameQueue s s' := by
  cases systemStep_move deps hStep with
  | manager hOp => exact ⟨rfl, fun _ _ _ hGet => hGet⟩
  | queueAction => exact absurd rfl (hQueue _)
  | closed hCall => exact absurd rfl (hDispatch _)
  | dispatched hCall hActive => exact absurd rfl (hDispatch _)
  | answered hCall hResume => exact absurd rfl (hAnswer _ _)
  | updateRefused => exact ⟨rfl, fun _ _ _ hGet => hGet⟩
  | updateFinished hCall => exact ⟨rfl, fun _ _ _ hGet => (confirming_of_delete rfl hGet).2⟩
  | scopesUpdated hCall => exact ⟨rfl, fun _ _ _ hGet => (confirming_of_delete rfl hGet).2⟩
  | _ => exact ⟨rfl, fun _ _ _ hGet => (confirming_of_set rfl (by rintro _ _ ⟨⟩) hGet).2⟩

/-! ## Where an action is -/

def Waits (s : ActionState) (entry : Ticketed) : Prop :=
  s.system.pending.get entry.action.actionId = some entry.action ∧
    s.waiting.get entry.action.actionId = some entry

def InHand (s : ActionState) (call : Nat) (entry : Ticketed) : Prop :=
  isConfirming s.system call = true ∧ s.taken.get call = some entry

/-- Everything queued and everything in hand has its ticket. -/
structure Accounted (s : ActionState) : Prop where
  waits : ∀ id action, s.system.pending.get id = some action →
    action.actionId = id ∧ ∃ ticket, Waits s ⟨ticket, action⟩
  hands : ∀ call payload credential, Confirming s.system call payload credential →
    ∃ entry, s.taken.get call = some entry ∧ entry.action.payload = payload ∧
      entry.action.credentialId = credential.credentialId

/-- A queued action waits, is in the hands of one call, or is closed, and only
one of these. -/
structure ActionInvariant (closed : List (Option Ticketed)) (s : ActionState) : Prop where
  accounted : Accounted s
  ticketed : ∀ entry, Waits s entry ∨ (∃ call, InHand s call entry) ∨ some entry ∈ closed →
    s.queued[entry.ticket]? = some entry.action
  waitsOnly : ∀ entry, Waits s entry → (∀ call, ¬ InHand s call entry) ∧ some entry ∉ closed
  handsOnly : ∀ call entry, InHand s call entry → some entry ∉ closed ∧
    ∀ call', InHand s call' entry → call' = call
  once : closed.Nodup
  known : none ∉ closed

/-- What a step does with the actions: it takes them from where they are, and
closes what it has taken. -/
structure Custody (s s' : ActionState) (new : List (Option Ticketed)) : Prop where
  queued : ∃ added, s'.queued = s.queued ++ added
  waits : ∀ entry, Waits s' entry → Waits s entry ∨
    (entry.ticket = s.queued.length ∧ s'.queued[entry.ticket]? = some entry.action)
  hands : ∀ call entry, InHand s' call entry → InHand s call entry ∨
    (Waits s entry ∧ ¬ Waits s' entry ∧ ∀ call', InHand s' call' entry → call' = call)
  closes : ∀ c ∈ new, ∃ entry, c = some entry ∧ (Waits s entry ∨ ∃ call, InHand s call entry) ∧
    ¬ Waits s' entry ∧ ∀ call, ¬ InHand s' call entry
  once : new.Nodup

theorem ActionInvariant.step {closed new : List (Option Ticketed)} {s s' : ActionState}
    (inv : ActionInvariant closed s) (h : Custody s s' new) (hAccounted : Accounted s') :
    ActionInvariant (closed ++ new) s' := by
  -- a ticket that has been given out is none of the new ones
  have hOld : ∀ entry : Ticketed, s.queued[entry.ticket]? = some entry.action →
      entry.ticket ≠ s.queued.length := by
    intro entry hTicket hEq
    rw [hEq, List.getElem?_eq_none (Nat.le_refl _)] at hTicket
    cases hTicket
  have hExtends : ∀ entry : Ticketed, s.queued[entry.ticket]? = some entry.action →
      s'.queued[entry.ticket]? = some entry.action := by
    intro entry hTicket
    obtain ⟨added, hQueued⟩ := h.queued
    obtain ⟨hLess, -⟩ := List.getElem?_eq_some_iff.mp hTicket
    rw [hQueued, List.getElem?_append_left hLess]
    exact hTicket
  have hFromClosed : ∀ entry, some entry ∈ new →
      s.queued[entry.ticket]? = some entry.action ∧ some entry ∉ closed := by
    intro entry hNew
    obtain ⟨entry', hEq, hWhere, -⟩ := h.closes _ hNew
    cases hEq
    rcases hWhere with hWaits | ⟨call, hHand⟩
    · exact ⟨inv.ticketed entry (Or.inl hWaits), (inv.waitsOnly entry hWaits).2⟩
    · exact ⟨inv.ticketed entry (Or.inr (Or.inl ⟨call, hHand⟩)),
        (inv.handsOnly call entry hHand).1⟩
  refine ⟨hAccounted, ?_, ?_, ?_, ?_, ?_⟩
  · rintro entry (hWaits | ⟨call, hHand⟩ | hClosed)
    · rcases h.waits entry hWaits with hWas | ⟨-, hTicket⟩
      · exact hExtends entry (inv.ticketed entry (Or.inl hWas))
      · exact hTicket
    · rcases h.hands call entry hHand with hWas | ⟨hWas, -⟩
      · exact hExtends entry (inv.ticketed entry (Or.inr (Or.inl ⟨call, hWas⟩)))
      · exact hExtends entry (inv.ticketed entry (Or.inl hWas))
    · rcases List.mem_append.mp hClosed with hBefore | hNew
      · exact hExtends entry (inv.ticketed entry (Or.inr (Or.inr hBefore)))
      · exact hExtends entry (hFromClosed entry hNew).1
  · intro entry hWaits
    constructor
    · intro call hHand
      rcases h.hands call entry hHand with hWas | ⟨-, hNot, -⟩
      · rcases h.waits entry hWaits with hWasToo | ⟨hNext, -⟩
        · exact (inv.waitsOnly entry hWasToo).1 call hWas
        · exact hOld entry (inv.ticketed entry (Or.inr (Or.inl ⟨call, hWas⟩))) hNext
      · exact hNot hWaits
    · intro hClosed
      rcases List.mem_append.mp hClosed with hBefore | hNew
      · rcases h.waits entry hWaits with hWas | ⟨hNext, -⟩
        · exact (inv.waitsOnly entry hWas).2 hBefore
        · exact hOld entry (inv.ticketed entry (Or.inr (Or.inr hBefore))) hNext
      · obtain ⟨entry', hEq, -, hNot, -⟩ := h.closes _ hNew
        cases hEq
        exact hNot hWaits
  · intro call entry hHand
    constructor
    · intro hClosed
      rcases List.mem_append.mp hClosed with hBefore | hNew
      · rcases h.hands call entry hHand with hWas | ⟨hWas, -⟩
        · exact (inv.handsOnly call entry hWas).1 hBefore
        · exact (inv.waitsOnly entry hWas).2 hBefore
      · obtain ⟨entry', hEq, -, -, hNot⟩ := h.closes _ hNew
        cases hEq
        exact hNot call hHand
    · intro call' hHand'
      rcases h.hands call entry hHand with hWas | ⟨-, -, hOnly⟩
      · rcases h.hands call' entry hHand' with hWas' | ⟨-, -, hOnly'⟩
        · exact (inv.handsOnly call entry hWas).2 call' hWas'
        · exact (hOnly' call hHand).symm
      · exact hOnly call' hHand'
  · rw [List.nodup_append]
    refine ⟨inv.once, h.once, ?_⟩
    rintro c hBefore c' hNew rfl
    obtain ⟨entry, rfl, -⟩ := h.closes c hNew
    exact (hFromClosed entry hNew).2 hBefore
  · intro hNone
    rcases List.mem_append.mp hNone with hBefore | hNew
    · exact inv.known hBefore
    · obtain ⟨entry, hEq, -⟩ := h.closes _ hNew
      cases hEq

/-! ## One step -/

theorem inHand_of_confirming (hHand : InHand s' call entry)
    (hTaken : s'.taken.get call = s.taken.get call)
    (hConfirming : ∀ payload credential, Confirming s'.system call payload credential →
      Confirming s.system call payload credential) : InHand s call entry := by
  obtain ⟨payload, credential, hGet⟩ := isConfirming_iff.mp hHand.1
  refine ⟨isConfirming_iff.mpr ⟨payload, credential, hConfirming payload credential hGet⟩, ?_⟩
  rw [← hTaken]
  exact hHand.2

theorem step_sameQueue (inv : ActionInvariant closed s) (hSame : SameQueue s.system system') :
    ActionInvariant (closed ++ []) { s with system := system' } := by
  refine inv.step ⟨⟨[], by simp⟩, ?_, ?_, ?_, List.nodup_nil⟩ ⟨?_, ?_⟩
  · rintro entry ⟨hGet, hWaiting⟩
    rw [hSame.pending] at hGet
    exact Or.inl ⟨hGet, hWaiting⟩
  · intro call entry hHand
    refine Or.inl (inHand_of_confirming hHand rfl ?_)
    exact hSame.confirming call
  · intro c hNone
    cases hNone
  · intro id action hGet
    rw [hSame.pending] at hGet
    obtain ⟨hId, ticket, hWaits⟩ := inv.accounted.waits id action hGet
    refine ⟨hId, ticket, ?_, hWaits.2⟩
    rw [hSame.pending]
    exact hWaits.1
  · intro call payload credential hGet
    exact inv.accounted.hands call payload credential (hSame.confirming _ _ _ hGet)

theorem step_queueAction (inv : ActionInvariant closed s) (action : PendingAction) :
    ActionInvariant (closed ++ []) { s with
      system := { s.system with handler :=
        { s.system.handler with pendingActions := s.system.pending.add action } }
      queued := s.queued ++ [action]
      waiting := s.waiting.set action.actionId ⟨s.queued.length, action⟩ } := by
  refine inv.step ⟨⟨[action], rfl⟩, ?_, ?_, ?_, List.nodup_nil⟩ ⟨?_, ?_⟩
  · rintro entry ⟨hGet, hWaiting⟩
    rcases AssocMap.get_set_cases hWaiting with ⟨-, rfl⟩ | ⟨hNe, hWaiting⟩
    · exact Or.inr ⟨rfl, by simp⟩
    · refine Or.inl ⟨?_, hWaiting⟩
      have hKept : (s.system.pending.add action).get entry.action.actionId =
          some entry.action := hGet
      unfold PendingActionStore.add PendingActionStore.get at hKept
      rw [AssocMap.get_set, if_neg hNe] at hKept
      exact hKept
  · intro call entry hHand
    exact Or.inl hHand
  · intro c hNone
    cases hNone
  · intro id action' hGet
    have hAdded : (s.system.pending.add action).get id = some action' := hGet
    unfold PendingActionStore.add PendingActionStore.get at hAdded
    rcases AssocMap.get_set_cases hAdded with ⟨hId, hValue⟩ | ⟨hNe, hAdded⟩
    · cases hValue
      refine ⟨hId.symm, s.queued.length, ?_, by simp⟩
      show (s.system.pending.add action).get action.actionId = some action
      simp [PendingActionStore.add, PendingActionStore.get]
    · obtain ⟨hId, ticket, hWaits⟩ := inv.accounted.waits id action' hAdded
      refine ⟨hId, ticket, ?_, ?_⟩
      · show (s.system.pending.add action).get action'.actionId = some action'
        rw [hId]
        unfold PendingActionStore.add PendingActionStore.get
        rw [AssocMap.get_set, if_neg hNe]
        exact hAdded
      · simp only [AssocMap.get_set, hId, if_neg hNe]
        rw [← hId]
        exact hWaits.2
  · intro call payload credential hGet
    exact inv.accounted.hands call payload credential hGet

/-- An action that has been removed no longer waits, and the others still do. -/
theorem get_removeAndReturn {id : String} :
    (store.removeAndReturn actionId).1.get id = if id = actionId then none else store.get id := by
  unfold PendingActionStore.removeAndReturn PendingActionStore.get
  split
  · next hNone =>
    split
    · next hId => rw [hId, hNone]
    · rfl
  · rw [AssocMap.get_delete]

theorem waits_of_removed (h : Waits s' entry)
    (hRemoved : s'.system.pending = (s.system.pending.removeAndReturn actionId).1)
    (hWaiting : s'.waiting = s.waiting) :
    Waits s entry ∧ entry.action.actionId ≠ actionId := by
  obtain ⟨hGet, hEntry⟩ := h
  rw [hRemoved, get_removeAndReturn] at hGet
  split at hGet
  · cases hGet
  · next hNe =>
    rw [hWaiting] at hEntry
    exact ⟨⟨hGet, hEntry⟩, hNe⟩

theorem accounted_waits_of_removed (hAccounted : Accounted s) (hWaiting : s'.waiting = s.waiting)
    (hRemoved : s'.system.pending = (s.system.pending.removeAndReturn actionId).1) (id : String)
    (action : PendingAction) (hGet : s'.system.pending.get id = some action) :
    action.actionId = id ∧ ∃ ticket, Waits s' ⟨ticket, action⟩ := by
  rw [hRemoved, get_removeAndReturn] at hGet
  split at hGet
  · cases hGet
  · next hNe =>
    obtain ⟨hId, ticket, hWaits⟩ := hAccounted.waits id action hGet
    refine ⟨hId, ticket, ?_, ?_⟩
    · rw [hRemoved, get_removeAndReturn]
      simp only [hId, if_neg hNe]
      exact hGet
    · rw [hWaiting]
      exact hWaits.2

section

variable (inv : ActionInvariant closed s)

include inv

theorem step_taken (h : TakenAtDispatch s.system system' call actionId action)
    (hWaiting : s.waiting.get actionId = some entry) :
    ActionInvariant (closed ++ [])
      { s with system := system', taken := s.taken.set call entry } := by
  obtain ⟨hId, ticket, hWaits⟩ := inv.accounted.waits actionId action h.waits
  have hEntry : entry = ⟨ticket, action⟩ := by
    have hSame := hWaits.2
    simp only [hId, hWaiting, Option.some.injEq] at hSame
    exact hSame
  subst hEntry
  have hHands : ∀ k other, InHand { s with
      system := system', taken := s.taken.set call ⟨ticket, action⟩ } k other →
        (k = call ∧ other = ⟨ticket, action⟩) ∨ (k ≠ call ∧ InHand s k other) := by
    intro k other hHand
    have hGet := hHand.2
    rcases AssocMap.get_set_cases hGet with ⟨hCall, rfl⟩ | ⟨hNe, hGet⟩
    · exact Or.inl ⟨hCall, rfl⟩
    · obtain ⟨payload, credential, hConfirming⟩ := isConfirming_iff.mp hHand.1
      exact Or.inr ⟨hNe, isConfirming_iff.mpr
        ⟨payload, credential, h.others k payload credential hConfirming hNe⟩, hGet⟩
  refine inv.step ⟨⟨[], by simp⟩, ?_, ?_, ?_, List.nodup_nil⟩ ⟨?_, ?_⟩
  · intro other hOther
    exact Or.inl (waits_of_removed hOther h.removed rfl).1
  · intro k other hHand
    rcases hHands k other hHand with ⟨rfl, rfl⟩ | ⟨-, hWas⟩
    · refine Or.inr ⟨hWaits, ?_, ?_⟩
      · intro hStill
        exact (waits_of_removed hStill h.removed rfl).2 hId
      · intro k' hHand'
        rcases hHands k' _ hHand' with ⟨rfl, -⟩ | ⟨-, hWas⟩
        · rfl
        · exact absurd hWas ((inv.waitsOnly _ hWaits).1 k')
    · exact Or.inl hWas
  · intro c hNone
    cases hNone
  · exact accounted_waits_of_removed inv.accounted rfl h.removed
  · intro k payload credential hConfirming
    by_cases hCall : k = call
    · subst hCall
      exact ⟨⟨ticket, action⟩, by simp, h.mine payload credential hConfirming⟩
    · obtain ⟨other, hTaken, hKind⟩ := inv.accounted.hands k payload credential
        (h.others k payload credential hConfirming hCall)
      exact ⟨other, by simp only [AssocMap.get_set, if_neg hCall]; exact hTaken, hKind⟩

/-- A dispatched request takes an action out of the queue for good. -/
theorem step_dropped (h : TakenAtDispatch s.system system' call actionId action)
    (hNot : isConfirming system' call = false) :
    ActionInvariant (closed ++ [s.waiting.get actionId]) { s with system := system' } := by
  obtain ⟨hId, ticket, hWaits⟩ := inv.accounted.waits actionId action h.waits
  have hEntry : s.waiting.get actionId = some ⟨ticket, action⟩ := by
    rw [← hId]
    exact hWaits.2
  have hOthers : ∀ k payload credential, Confirming system' k payload credential →
      Confirming s.system k payload credential := by
    intro k payload credential hConfirming
    refine h.others k payload credential hConfirming ?_
    rintro rfl
    rw [isConfirming_iff.mpr ⟨payload, credential, hConfirming⟩] at hNot
    cases hNot
  rw [hEntry]
  refine inv.step ⟨⟨[], by simp⟩, ?_, ?_, ?_, List.nodup_singleton _⟩ ⟨?_, ?_⟩
  · intro other hOther
    exact Or.inl (waits_of_removed hOther h.removed rfl).1
  · intro k other hHand
    refine Or.inl (inHand_of_confirming hHand rfl ?_)
    exact hOthers k
  · intro c hClosed
    rw [List.mem_singleton] at hClosed
    refine ⟨_, hClosed, Or.inl hWaits, ?_, ?_⟩
    · intro hStill
      exact (waits_of_removed hStill h.removed rfl).2 hId
    · intro k hHand
      refine (inv.waitsOnly _ hWaits).1 k (inHand_of_confirming hHand rfl ?_)
      exact hOthers k
  · exact accounted_waits_of_removed inv.accounted rfl h.removed
  · intro k payload credential hConfirming
    exact inv.accounted.hands k payload credential (hOthers k payload credential hConfirming)

/-- An answered call executes the action it has in hand, or gives it up. -/
theorem step_answered (h : AnsweredCall s.system system' call out)
    (hConfirming : isConfirming s.system call = true) :
    ActionInvariant (closed ++ (sentMessages out).map fun _ => s.taken.get call)
      { s with system := system' } := by
  obtain ⟨payload, credential, hGet⟩ := isConfirming_iff.mp hConfirming
  obtain ⟨entry, hTaken, -⟩ := inv.accounted.hands call payload credential hGet
  have hHand : InHand s call entry := ⟨hConfirming, hTaken⟩
  have hBack : ∀ k other, InHand { s with system := system' } k other →
      k ≠ call ∧ InHand s k other := by
    intro k other hHand'
    obtain ⟨payload', credential', hGet'⟩ := isConfirming_iff.mp hHand'.1
    obtain ⟨hNe, hWas⟩ := h.others k payload' credential' hGet'
    exact ⟨hNe, isConfirming_iff.mpr ⟨payload', credential', hWas⟩, hHand'.2⟩
  have hWaits : ∀ other, Waits { s with system := system' } other → Waits s other := by
    rintro other ⟨hGet', hWaiting⟩
    rw [h.pending] at hGet'
    exact ⟨hGet', hWaiting⟩
  refine inv.step ⟨⟨[], by simp⟩, fun other hOther => Or.inl (hWaits other hOther),
    fun k other hHand' => Or.inl (hBack k other hHand').2, ?_, ?_⟩ ⟨?_, ?_⟩
  · intro c hClosed
    obtain ⟨-, -, rfl⟩ := List.mem_map.mp hClosed
    refine ⟨entry, hTaken, Or.inr ⟨call, hHand⟩, ?_, ?_⟩
    · intro hStill
      exact (inv.waitsOnly entry (hWaits entry hStill)).1 call hHand
    · intro k hStill
      obtain ⟨hNe, hWas⟩ := hBack k entry hStill
      exact hNe ((inv.handsOnly call entry hHand).2 k hWas)
  · rcases h.sends payload credential hGet with hNone | hOne
    · rw [hNone]
      exact List.nodup_nil
    · rw [hOne]
      exact List.nodup_singleton _
  · intro id action hGet'
    rw [h.pending] at hGet'
    obtain ⟨hId, ticket, hWas⟩ := inv.accounted.waits id action hGet'
    refine ⟨hId, ticket, ?_, hWas.2⟩
    rw [h.pending]
    exact hWas.1
  · intro k payload' credential' hGet'
    exact inv.accounted.hands k payload' credential' (h.others k payload' credential' hGet').2

end

/-! ## The expiry sweep -/

theorem get_foldl_delete (actions : List PendingAction) (store : PendingActionStore)
    (id : String) :
    (actions.foldl (fun s action => ⟨s.actions.delete action.actionId⟩) store).get id =
      if id ∈ actions.map PendingAction.actionId then none else store.get id := by
  induction actions generalizing store with
  | nil => simp
  | cons action actions ih =>
    rw [List.foldl_cons, ih, List.map_cons]
    unfold PendingActionStore.get
    rw [AssocMap.get_delete]
    by_cases hId : id = action.actionId
    · simp [hId]
    · simp [hId]

theorem map_actionId_values
    (hKeyed : ∀ id action, store.get id = some action → action.actionId = id) :
    store.actions.values.map PendingAction.actionId = store.actions.keys := by
  unfold AssocMap.values AssocMap.keys
  rw [List.map_map]
  refine List.map_congr_left ?_
  rintro ⟨id, action⟩ hMem
  exact hKeyed id action (AssocMap.get_eq_some_iff.mpr hMem)

/-- A sweep of the queue drops the actions it removes. -/
theorem step_expireStale (inv : ActionInvariant closed s) (now : Int) :
    ActionInvariant
      (closed ++ (s.system.pending.expireStale now).2.map
        fun action => s.waiting.get action.actionId)
      { s with system :=
        { s.system with handler := { s.system.handler with
          pendingActions := (s.system.pending.expireStale now).1 } } } := by
  have hKeyed : ∀ id action, s.system.pending.get id = some action → action.actionId = id :=
    fun id action hGet => (inv.accounted.waits id action hGet).1
  -- an expired action waits under its id
  have hExpired : ∀ action ∈ (s.system.pending.expireStale now).2,
      ∃ ticket, Waits s ⟨ticket, action⟩ := by
    intro action hMem
    obtain ⟨id, hGet⟩ := AssocMap.mem_values.mp (List.mem_of_mem_filter hMem)
    exact (inv.accounted.waits id action hGet).2
  have hGone : ∀ id, (s.system.pending.expireStale now).1.get id =
      if id ∈ (s.system.pending.expireStale now).2.map PendingAction.actionId then none
      else s.system.pending.get id :=
    get_foldl_delete _ s.system.pending
  have hWaits : ∀ entry, Waits { s with system :=
      { s.system with handler := { s.system.handler with
        pendingActions := (s.system.pending.expireStale now).1 } } } entry →
          Waits s entry ∧ entry.action ∉ (s.system.pending.expireStale now).2 := by
    rintro entry ⟨hGet, hWaiting⟩
    have hSwept : (s.system.pending.expireStale now).1.get entry.action.actionId =
        some entry.action := hGet
    rw [hGone] at hSwept
    split at hSwept
    · cases hSwept
    · next hKept =>
      exact ⟨⟨hSwept, hWaiting⟩, fun hMem => hKept (List.mem_map.mpr ⟨_, hMem, rfl⟩)⟩
  refine inv.step ⟨⟨[], by simp⟩, fun entry hEntry => Or.inl (hWaits entry hEntry).1,
    fun call entry hHand => Or.inl hHand, ?_, ?_⟩ ⟨?_, ?_⟩
  · intro c hClosed
    obtain ⟨action, hMem, rfl⟩ := List.mem_map.mp hClosed
    obtain ⟨ticket, hEntry⟩ := hExpired action hMem
    refine ⟨⟨ticket, action⟩, hEntry.2, Or.inl hEntry, ?_, ?_⟩
    · intro hStill
      exact (hWaits _ hStill).2 hMem
    · exact (inv.waitsOnly _ hEntry).1
  · -- the ids of the swept actions differ, and so do their entries
    refine List.Nodup.of_map (fun entry => entry.map fun e => e.action.actionId) ?_
    have hIds : ((s.system.pending.expireStale now).2.map
        (fun action => s.waiting.get action.actionId)).map
          (fun entry => entry.map fun e => e.action.actionId) =
        (s.system.pending.expireStale now).2.map fun action => some action.actionId := by
      rw [List.map_map]
      refine List.map_congr_left ?_
      intro action hMem
      obtain ⟨ticket, hEntry⟩ := hExpired action hMem
      have hWaiting : s.waiting.get action.actionId = some ⟨ticket, action⟩ := hEntry.2
      simp only [Function.comp_apply, hWaiting, Option.map_some]
    have hNodup : ((s.system.pending.expireStale now).2.map PendingAction.actionId).Nodup := by
      have hSublist : ((s.system.pending.expireStale now).2.map PendingAction.actionId).Sublist
          (s.system.pending.actions.values.map PendingAction.actionId) :=
        List.filter_sublist.map _
      rw [map_actionId_values hKeyed] at hSublist
      exact hSublist.nodup s.system.pending.actions.nodup_keys
    rw [hIds]
    have hSome := hNodup.map (Option.some_injective String)
    rwa [List.map_map] at hSome
  · intro id action hGet
    have hSwept : (s.system.pending.expireStale now).1.get id = some action := hGet
    rw [hGone] at hSwept
    split at hSwept
    · cases hSwept
    · next hKept =>
      obtain ⟨hId, ticket, hEntry⟩ := inv.accounted.waits id action hSwept
      refine ⟨hId, ticket, ?_, hEntry.2⟩
      show (s.system.pending.expireStale now).1.get action.actionId = some action
      rw [hGone, hId, if_neg hKept]
      exact hSwept
  · exact fun call payload credential hGet => inv.accounted.hands call payload credential hGet

/-! ## Runs -/

theorem closes_observed (out : List Observation) :
    (out.map ActionOutcome.observed).filterMap ActionOutcome.closes = [] := by
  induction out with
  | nil => rfl
  | cons observation out ih => exact ih

theorem actionInvariant_step {out : List ActionOutcome} (inv : ActionInvariant closed s)
    (hStep : actionStep deps s label = some (s', out)) :
    ActionInvariant (closed ++ out.filterMap ActionOutcome.closes) s' := by
  obtain ⟨now, event⟩ := label
  cases event with
  | expireStale =>
    cases hStep
    have hCloses : ((s.system.pending.expireStale now).2.map fun action =>
        ActionOutcome.dropped (s.waiting.get action.actionId)).filterMap
          ActionOutcome.closes =
        (s.system.pending.expireStale now).2.map fun action =>
          s.waiting.get action.actionId := by
      rw [List.filterMap_map]
      exact congrFun (List.filterMap_eq_map
        (f := fun action : PendingAction => s.waiting.get action.actionId)) _
    rw [hCloses]
    exact step_expireStale inv now
  | system event =>
    simp only [actionStep] at hStep
    split at hStep
    · cases hStep
    · next system' observed hSystem =>
      cases hStep
      rw [List.filterMap_append, closes_observed, List.nil_append]
      have hOther : (∀ action, event ≠ .queueAction action) →
          (∀ call, event ≠ .dispatch call) → (∀ call answer, event ≠ .answer call answer) →
            ActionInvariant (closed ++ []) { s with system := system' } :=
        fun hQueue hDispatch hAnswer =>
          step_sameQueue inv (systemStep_sameQueue deps hSystem hQueue hDispatch hAnswer)
      cases event with
      | queueAction action =>
        cases hSystem
        exact step_queueAction inv action
      | dispatch call =>
        simp only [systemStep] at hSystem
        split at hSystem
        · next request result hLooked =>
          have hPair := Option.some.inj hSystem
          have hState : system' = (dispatch deps now s.system call request result).1 := by
            rw [hPair]
          have hQueue := @dispatch_queue deps now s.system call request result hLooked
          rw [← hState] at hQueue
          simp only [track]
          rcases hQueue with hSame | ⟨actionId, action, hTaken⟩
          · have hStill := step_sameQueue inv hSame
            split
            · exact hStill
            · next actionId _ =>
              rw [hSame.pending]
              split
              · next hSome hNone =>
                rw [hSome] at hNone
                cases hNone
              · exact hStill
          · have hGone : system'.pending.get actionId = none := by
              rw [hTaken.removed, get_removeAndReturn, if_pos rfl]
            rw [hTaken.named]
            simp only [hTaken.waits, hGone]
            obtain ⟨hId, ticket, hWaits⟩ := inv.accounted.waits actionId action hTaken.waits
            have hWaiting : s.waiting.get actionId = some ⟨ticket, action⟩ := by
              rw [← hId]
              exact hWaits.2
            split
            · rw [hWaiting]
              exact step_taken inv hTaken hWaiting
            · next hNot =>
              rw [Bool.not_eq_true] at hNot
              exact step_dropped inv hTaken hNot
        · cases hSystem
      | answer call answer =>
        have hAnswered := answer_queue deps hSystem
        simp only [track]
        split
        · next hConfirming =>
          have hCloses : ((sentMessages observed).map fun sent =>
              ActionOutcome.executed (s.taken.get call) sent.1 sent.2).filterMap
                ActionOutcome.closes =
              (sentMessages observed).map fun _ => s.taken.get call := by
            rw [List.filterMap_map]
            exact congrFun (List.filterMap_eq_map
              (f := fun _ : String × SendPayload => s.taken.get call)) _
          rw [hCloses]
          exact step_answered inv hAnswered hConfirming
        · exact step_sameQueue inv ⟨hAnswered.pending,
            fun k payload credential hGet => (hAnswered.others k payload credential hGet).2⟩
      | _ => exact hOther (by rintro _ ⟨⟩) (by rintro _ ⟨⟩) (by rintro _ _ ⟨⟩)

/-- An executed action is sent with its payload, for the credential that queued
it. -/
theorem executed_step {out : List ActionOutcome} (inv : ActionInvariant closed s)
    (hStep : actionStep deps s label = some (s', out)) {entry : Option Ticketed}
    {credentialId : String} {message : SendPayload}
    (hOut : .executed entry credentialId message ∈ out) :
    ∃ e, entry = some e ∧ e.action.credentialId = credentialId ∧ e.action.payload = message := by
  obtain ⟨now, event⟩ := label
  cases event with
  | expireStale =>
    cases hStep
    simp at hOut
  | system event =>
    simp only [actionStep] at hStep
    split at hStep
    · cases hStep
    · next system' observed hSystem =>
      cases hStep
      rw [List.mem_append] at hOut
      rcases hOut with hObserved | hTracked
      · simp at hObserved
      · cases event with
        | answer call answer =>
          simp only [track] at hTracked
          split at hTracked
          · next hConfirming =>
            obtain ⟨payload, credential, hGet⟩ := isConfirming_iff.mp hConfirming
            obtain ⟨e, hTaken, hPayload, hOwner⟩ :=
              inv.accounted.hands call payload credential hGet
            obtain ⟨sent, hSent, hEq⟩ := List.mem_map.mp hTracked
            cases hEq
            refine ⟨e, hTaken, ?_⟩
            rcases (answer_queue deps hSystem).sends payload credential hGet with hNone | hOne
            · rw [hNone] at hSent
              cases hSent
            · rw [hOne, List.mem_singleton] at hSent
              subst hSent
              exact ⟨hOwner, hPayload⟩
          · cases hTracked
        | dispatch call =>
          simp only [track] at hTracked
          split at hTracked
          · cases hTracked
          · split at hTracked
            · split at hTracked
              · split at hTracked <;> cases hTracked
              · simp at hTracked
            · cases hTracked
        | _ => cases hTracked

theorem actionInvariant_init : ActionInvariant [] (actionMachine deps).init := by
  have hNoWait : ∀ entry, ¬ Waits (actionMachine deps).init entry := by
    rintro entry ⟨hGet, -⟩
    cases hGet
  have hNoHand : ∀ call entry, ¬ InHand (actionMachine deps).init call entry := by
    rintro call entry ⟨-, hTaken⟩
    cases hTaken
  refine ⟨⟨?_, ?_⟩, ?_, ?_, ?_, List.nodup_nil, List.not_mem_nil⟩
  · intro id action hGet
    cases hGet
  · intro call payload credential hGet
    cases hGet
  · rintro entry (hWaits | ⟨call, hHand⟩ | hClosed)
    · exact absurd hWaits (hNoWait entry)
    · exact absurd hHand (hNoHand call entry)
    · cases hClosed
  · exact fun entry hWaits => absurd hWaits (hNoWait entry)
  · exact fun call entry hHand => absurd hHand (hNoHand call entry)

/-- The actions queued along a run, in order: an action's ticket is its place. -/
def queuedActions (h : List (Occurrence ActionState ActionLabel ActionOutcome)) :
    List PendingAction :=
  h.filterMap fun o =>
    match o.label.event with
    | .system (.queueAction action) => some action
    | _ => none

def queuedUnder (h : List (Occurrence ActionState ActionLabel ActionOutcome))
    (actionId : String) : List PendingAction :=
  (queuedActions h).filter fun action => action.actionId = actionId

def closingsUnder (h : List (Occurrence ActionState ActionLabel ActionOutcome))
    (actionId : String) : List (Option Ticketed) :=
  (closings h).filter fun entry => entry.any fun e => e.action.actionId = actionId

theorem two_le_countP {α : Type*} (p : α → Bool) {l : List α} {i j : Nat} {a b : α}
    (hLess : i < j) (hA : l[i]? = some a) (hB : l[j]? = some b) (hPA : p a = true)
    (hPB : p b = true) : 2 ≤ l.countP p := by
  have hFirst : 0 < (l.take j).countP p := by
    refine List.countP_pos_iff.mpr ⟨a, List.mem_of_getElem? (i := i) ?_, hPA⟩
    rw [List.getElem?_take_of_lt hLess]
    exact hA
  have hSecond : 0 < (l.drop j).countP p := by
    refine List.countP_pos_iff.mpr ⟨b, List.mem_of_getElem? (i := 0) ?_, hPB⟩
    rw [List.getElem?_drop, Nat.add_zero]
    exact hB
  have hWhole : l.countP p = (l.take j).countP p + (l.drop j).countP p := by
    rw [← List.countP_append, List.take_append_drop]
  omega

theorem ticket_unique {queued : List PendingAction} {e e' : Ticketed}
    (hOnce : (queued.filter fun action => action.actionId = actionId).length ≤ 1)
    (hTicket : queued[e.ticket]? = some e.action) (hId : e.action.actionId = actionId)
    (hTicket' : queued[e'.ticket]? = some e'.action) (hId' : e'.action.actionId = actionId) :
    e = e' := by
  rw [← List.countP_eq_length_filter] at hOnce
  have hNamed : decide (e.action.actionId = actionId) = true := decide_eq_true hId
  have hNamed' : decide (e'.action.actionId = actionId) = true := decide_eq_true hId'
  have hIndex : e.ticket = e'.ticket := by
    rcases Nat.lt_trichotomy e.ticket e'.ticket with hLess | hEq | hMore
    · have hTwo := two_le_countP (fun action : PendingAction => action.actionId = actionId)
        hLess hTicket hTicket' hNamed hNamed'
      omega
    · exact hEq
    · have hTwo := two_le_countP (fun action : PendingAction => action.actionId = actionId)
        hMore hTicket' hTicket hNamed' hNamed
      omega
  obtain ⟨ticket, action⟩ := e
  obtain ⟨ticket', action'⟩ := e'
  simp only at hIndex
  subst hIndex
  rw [hTicket] at hTicket'
  cases hTicket'
  rfl

theorem closings_snoc (h : List (Occurrence ActionState ActionLabel ActionOutcome))
    (s : ActionState) (label : ActionLabel) (out : List ActionOutcome) :
    closings (h ++ [⟨s, label, out⟩]) = closings h ++ out.filterMap ActionOutcome.closes := by
  unfold closings
  rw [outputs_append, outputs_singleton, List.filterMap_append]

/-- Only a queueing adds a ticket. -/
theorem queued_step {out : List ActionOutcome} (hStep : actionStep deps s label = some (s', out)) :
    s'.queued = s.queued ++ queuedActions [⟨s, label, out⟩] := by
  have hSame : ∀ (event : SystemEvent) system' observed,
      (∀ action, event ≠ .queueAction action) →
        (track s event system' observed).1.queued = s.queued := by
    intro event system' observed hQueue
    cases event with
    | queueAction action => exact absurd rfl (hQueue action)
    | dispatch call =>
      simp only [track]
      split
      · rfl
      · split
        · split
          · split <;> rfl
          · rfl
        · rfl
    | answer call answer =>
      simp only [track]
      split <;> rfl
    | _ => rfl
  obtain ⟨now, event⟩ := label
  cases event with
  | expireStale =>
    cases hStep
    simp [queuedActions]
  | system event =>
    simp only [actionStep] at hStep
    split at hStep
    · cases hStep
    · cases hStep
      cases event with
      | queueAction action => rfl
      | _ => simpa [queuedActions] using hSame _ _ _ (by rintro _ ⟨⟩)

theorem queued_of_runs (hRun : (actionMachine deps).Runs h s) : s.queued = queuedActions h := by
  induction hRun with
  | start => rfl
  | step _ hTaken ih =>
    rw [queued_step deps hTaken, ih]
    unfold queuedActions
    rw [List.filterMap_append]

theorem actionInvariant_of_runs (hRun : (actionMachine deps).Runs h s) :
    ActionInvariant (closings h) s := by
  induction hRun with
  | start => exact actionInvariant_init deps
  | step _ hTaken ih =>
    rw [closings_snoc]
    exact actionInvariant_step deps ih hTaken

def confirmedTwice : List ActionLabel :=
  [⟨0, .system issueSender.event⟩,
    ⟨10, .system (.queueAction
      ⟨"action", "cred", "send_message", ⟨"conv", "text", .null⟩, 10, 1000⟩)⟩,
    ⟨20, .system (.request 1 "cred" ⟨"first", .confirmAction "action" true⟩)⟩,
    ⟨20, .system (.request 2 "cred" ⟨"second", .confirmAction "action" true⟩)⟩,
    ⟨20, .system (.dispatch 1)⟩, ⟨20, .system (.dispatch 2)⟩,
    ⟨30, .system (.answer 1 (.ready (.ok ())))⟩, ⟨2000, .expireStale⟩]

end Cli
end Signet
