import Signet.Cli.RequestHandler
import Signet.Sessions.CredentialEffects

/-!
# Requests, updates and the manager under every interleaving

All callers of the credential store at once: operations of the manager, requests
of harnesses in the order the socket server serves them (a fresh lookup, its
status check, then the handler), the service's `update` and the action
`credential.updateScopes`.  A call that awaits rests in `calls` under its id,
and any other step may be taken before it goes on.

In-place scope writes have no other callers than those three entry points, so
the operation `updateCredentialScopes` is not offered as a step of its own.
-/

namespace Signet
namespace Cli

open Kit Schemas Policy Sessions

inductive PendingCall where
  /-- A request frame whose fresh lookup has taken `result`. -/
  | looked (request : HarnessRequest) (result : Except SignetError CredentialRecord)
  /-- A request inside its handler. -/
  | handling (stage : HandlerStage)
  /-- `update` of the service at its policy lookup. -/
  | serviceUpdate (credentialId : String) (changes : Service.ConfigChanges)
  /-- `credential.updateScopes` whose lookup has taken `result`. -/
  | actionUpdate (credentialId : String) (scopes : ScopeSet)
      (result : Except SignetError CredentialRecord)

/-- The stores and the calls in flight. -/
structure SystemState where
  handler : HandlerState
  calls : AssocMap Nat PendingCall

def SystemState.store (s : SystemState) : CredentialStore := s.handler.store

/-- What happens next. -/
inductive SystemEvent where
  | manager (op : CredentialOp)
  | queueAction (action : PendingAction)
  | request (call : Nat) (credentialId : String) (request : HarnessRequest)
  | dispatch (call : Nat)
  | answer (call : Nat) (answer : Answer)
  | beginUpdate (call : Nat) (credentialId : String) (changes : Service.ConfigChanges)
  | finishUpdate (call : Nat) (lookup : Option (Except SignetError PolicyConfig))
  | beginUpdateScopes (call : Nat) (credentialId : String) (scopes : ScopeSet)
  | finishUpdateScopes (call : Nat)

/-- An event at a clock reading. -/
structure SystemLabel where
  now : Int
  event : SystemEvent

/-- What a step makes observable. -/
inductive Observation where
  | outcome (outcome : CredentialOutcome)
  | effect (effect : Effect)
  | replied (call : Nat) (result : Except SignetError Reply)
  | closed (call : Nat)
  | updated (call : Nat) (result : Except SignetError CredentialRecord)
  | scopesUpdated (call : Nat) (result : Except SignetError UpdateResult)

/-- Take in the end of a handler segment. -/
def settle (s : SystemState) (call : Nat) (segment : Segment) :
    SystemState × List Observation :=
  match segment with
  | (handler, effects, .done result) =>
    ({ handler := handler, calls := s.calls.delete call },
      effects.map .effect ++ [.replied call result])
  | (handler, effects, .await stage) =>
    ({ handler := handler, calls := s.calls.set call (.handling stage) },
      effects.map .effect)

def withStore (s : SystemState) (store : CredentialStore) : SystemState :=
  { s with handler := { s.handler with store := store } }

/-- The fresh lookup of a request frame has answered: a missing or inactive
credential closes the socket, an active one goes to the handler. -/
def dispatch (deps : HandlerDeps) (now : Int) (s : SystemState) (call : Nat)
    (request : HarnessRequest) (result : Except SignetError CredentialRecord) :
    SystemState × List Observation :=
  match result with
  | .error _ => ({ s with calls := s.calls.delete call }, [.closed call])
  | .ok credential =>
    if credential.status ≠ .active then
      ({ s with calls := s.calls.delete call }, [.closed call])
    else settle s call (handleRequest deps now s.handler request credential)

def systemStep (deps : HandlerDeps) (s : SystemState) (label : SystemLabel) :
    Option (SystemState × List Observation) :=
  match label.event with
  | .manager (.updateCredentialScopes _ _) => none
  | .manager op =>
    let result := runOp deps.config deps.hash s.store ⟨label.now, op⟩
    some (withStore s result.1, [.outcome result.2])
  | .queueAction action =>
    some ({ s with handler :=
      { s.handler with pendingActions := s.handler.pendingActions.add action } }, [])
  | .request call credentialId request =>
    if (s.calls.get call).isSome then none
    else
      let looked := Service.lookup deps.config label.now s.store credentialId
      some ({ withStore s looked.1 with calls := s.calls.set call (.looked request looked.2) },
        [])
  | .dispatch call =>
    match s.calls.get call with
    | some (.looked request result) => some (dispatch deps label.now s call request result)
    | _ => none
  | .answer call answer =>
    match s.calls.get call with
    | some (.handling stage) =>
      (resume deps label.now s.handler stage answer).map (settle s call)
    | _ => none
  | .beginUpdate call credentialId changes =>
    if (s.calls.get call).isSome then none
    else
      let begun := Service.beginUpdate deps.hash label.now s.store credentialId changes
      match begun.2 with
      | some result => some (withStore s begun.1, [.updated call result])
      | none => some ({ withStore s begun.1 with
          calls := s.calls.set call (.serviceUpdate credentialId changes) }, [])
  | .finishUpdate call lookup =>
    match s.calls.get call with
    | some (.serviceUpdate credentialId changes) =>
      let finished :=
        Service.finishUpdate deps.hash label.now s.store credentialId changes lookup
      some ({ withStore s finished.1 with calls := s.calls.delete call },
        [.updated call finished.2])
    | _ => none
  | .beginUpdateScopes call credentialId scopes =>
    if (s.calls.get call).isSome then none
    else
      let looked := UpdateAction.beginUpdateScopes deps.config label.now s.store credentialId
      some ({ withStore s looked.1 with
        calls := s.calls.set call (.actionUpdate credentialId scopes looked.2) }, [])
  | .finishUpdateScopes call =>
    match s.calls.get call with
    | some (.actionUpdate credentialId scopes result) =>
      let finished := UpdateAction.finishUpdateScopes deps.hash label.now s.store
        credentialId scopes result
      some ({ withStore s finished.1 with calls := s.calls.delete call },
        [.scopesUpdated call finished.2])
    | _ => none

section

variable (deps : HandlerDeps) (s : SystemState) (now : Int)

/-- What a step does. -/
inductive SystemMove : SystemEvent → SystemState → List Observation → Prop
  | manager {op : CredentialOp} (hOp : ∀ id scopes, op ≠ .updateCredentialScopes id scopes) :
      SystemMove (.manager op) (withStore s (runOp deps.config deps.hash s.store ⟨now, op⟩).1)
        [.outcome (runOp deps.config deps.hash s.store ⟨now, op⟩).2]
  | queueAction {action : PendingAction} :
      SystemMove (.queueAction action)
        { s with handler :=
          { s.handler with pendingActions := s.handler.pendingActions.add action } } []
  | request {call credentialId request} (hFree : s.calls.get call = none) :
      SystemMove (.request call credentialId request)
        { withStore s (Service.lookup deps.config now s.store credentialId).1 with
          calls := s.calls.set call
            (.looked request (Service.lookup deps.config now s.store credentialId).2) } []
  | closed {call request result} (hCall : s.calls.get call = some (.looked request result)) :
      SystemMove (.dispatch call) { s with calls := s.calls.delete call } [.closed call]
  | dispatched {call request credential}
      (hCall : s.calls.get call = some (.looked request (.ok credential)))
      (hActive : credential.status = .active) :
      SystemMove (.dispatch call)
        (settle s call (handleRequest deps now s.handler request credential)).1
        (settle s call (handleRequest deps now s.handler request credential)).2
  | answered {call answer stage segment} (hCall : s.calls.get call = some (.handling stage))
      (hResume : resume deps now s.handler stage answer = some segment) :
      SystemMove (.answer call answer) (settle s call segment).1 (settle s call segment).2
  | updateRefused {call credentialId changes result} :
      SystemMove (.beginUpdate call credentialId changes)
        (withStore s (Service.beginUpdate deps.hash now s.store credentialId changes).1)
        [.updated call result]
  | updateBegun {call credentialId changes} (hFree : s.calls.get call = none) :
      SystemMove (.beginUpdate call credentialId changes)
        { withStore s (Service.beginUpdate deps.hash now s.store credentialId changes).1 with
          calls := s.calls.set call (.serviceUpdate credentialId changes) } []
  | updateFinished {call credentialId changes lookup result}
      (hCall : s.calls.get call = some (.serviceUpdate credentialId changes)) :
      SystemMove (.finishUpdate call lookup)
        { withStore s
            (Service.finishUpdate deps.hash now s.store credentialId changes lookup).1 with
          calls := s.calls.delete call } [.updated call result]
  | scopesLooked {call credentialId scopes result} (hFree : s.calls.get call = none) :
      SystemMove (.beginUpdateScopes call credentialId scopes)
        { withStore s (UpdateAction.beginUpdateScopes deps.config now s.store credentialId).1 with
          calls := s.calls.set call (.actionUpdate credentialId scopes result) } []
  | scopesUpdated {call credentialId scopes looked result}
      (hCall : s.calls.get call = some (.actionUpdate credentialId scopes looked)) :
      SystemMove (.finishUpdateScopes call)
        { withStore s (UpdateAction.finishUpdateScopes deps.hash now s.store credentialId scopes
            looked).1 with calls := s.calls.delete call } [.scopesUpdated call result]

variable {s now}

theorem dispatch_move {call : Nat} {request : HarnessRequest}
    {result : Except SignetError CredentialRecord}
    (hCall : s.calls.get call = some (.looked request result)) :
    SystemMove deps s now (.dispatch call) (dispatch deps now s call request result).1
      (dispatch deps now s call request result).2 := by
  unfold dispatch
  split
  · exact .closed hCall
  · next credential =>
    split
    · exact .closed hCall
    · next hActive => exact .dispatched hCall (not_not.mp hActive)

theorem systemStep_move {s' : SystemState} {event : SystemEvent} {out : List Observation}
    (hStep : systemStep deps s ⟨now, event⟩ = some (s', out)) :
    SystemMove deps s now event s' out := by
  cases event with
  | manager op =>
    cases op with
    | updateCredentialScopes id scopes => cases hStep
    | _ =>
      cases hStep
      exact .manager (by rintro _ _ ⟨⟩)
  | queueAction action =>
    cases hStep
    exact .queueAction
  | request call credentialId request =>
    simp only [systemStep] at hStep
    split at hStep
    · cases hStep
    · next hFree =>
      cases hStep
      exact .request (Option.not_isSome_iff_eq_none.mp hFree)
  | dispatch call =>
    simp only [systemStep] at hStep
    split at hStep
    · next request result hCall =>
      have hMove := @dispatch_move deps s now call request result hCall
      rwa [Option.some.inj hStep] at hMove
    · cases hStep
  | answer call answer =>
    simp only [systemStep] at hStep
    split at hStep
    · next stage hCall =>
      obtain ⟨segment, hResume, hSettle⟩ := Option.map_eq_some_iff.mp hStep
      have hMove := SystemMove.answered hCall hResume
      rwa [hSettle] at hMove
    · cases hStep
  | beginUpdate call credentialId changes =>
    simp only [systemStep] at hStep
    split at hStep
    · cases hStep
    · next hFree =>
      split at hStep <;> cases hStep
      · exact .updateRefused
      · exact .updateBegun (Option.not_isSome_iff_eq_none.mp hFree)
  | finishUpdate call lookup =>
    simp only [systemStep] at hStep
    split at hStep
    · next hCall =>
      cases hStep
      exact .updateFinished hCall
    · cases hStep
  | beginUpdateScopes call credentialId scopes =>
    simp only [systemStep] at hStep
    split at hStep
    · cases hStep
    · next hFree =>
      cases hStep
      exact .scopesLooked (Option.not_isSome_iff_eq_none.mp hFree)
  | finishUpdateScopes call =>
    simp only [systemStep] at hStep
    split at hStep
    · next hCall =>
      cases hStep
      exact .scopesUpdated hCall
    · cases hStep

end

/-- The system, started without credentials, actions and calls. -/
def systemMachine (deps : HandlerDeps) : Machine SystemState SystemLabel Observation where
  init := ⟨⟨.empty, .empty⟩, .empty⟩
  step := systemStep deps

/-- A new credential would get an id that no credential has. -/
def FreshSystemIds (s : SystemState) (label : SystemLabel) : Prop :=
  ∀ op, label.event = .manager op → FreshIds s.store ⟨label.now, op⟩

/-- The wiring of the runtime on a host with a small hash function. -/
def sampleDeps : HandlerDeps where
  config := {}
  hash := ⟨String.length, fun left right => left ≤ right⟩
  parseDate := fun _ => none
  hasInternalManager := true
  hasPendingActions := true
  hasReplay := true
  hasProvenance := true
  hasActionExpiryLog := true

end Cli
end Signet
