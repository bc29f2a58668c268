import Signet.Kit.AssocMap
import Signet.Kit.Machine
import Signet.Schemas.Errors

/-!
# The core service and its lifecycle

The core keeps the clients of its identities in a registry and the streams it reads from
in a list.  An identity is hydrated in about ten awaits: its keys, its client, its groups
and three streams are asked for one after the other, and between any two of them every
other call of the core can run.

* `CoreState` — the core, what its clients hold open, and the calls that have not returned.
* `coreMachine` — one step for each segment between two awaits.
-/

namespace Signet
namespace Core

open Kit Schemas

/-! ## The state -/

inductive SignetState where
  | idle
  /-- `"local"` -/
  | localOnly
  | starting
  | running
  | stopping
  | stopped
  | error
deriving DecidableEq

def SignetState.text : SignetState → String
  | .idle => "idle"
  | .localOnly => "local"
  | .starting => "starting"
  | .running => "running"
  | .stopping => "stopping"
  | .stopped => "stopped"
  | .error => "error"

structure AgentIdentity where
  id : String
  inboxId : Option String
deriving DecidableEq

structure ManagedClient where
  identityId : String
  inboxId : String
deriving DecidableEq

inductive StreamKind where
  | messages
  | groups
  | dms
deriving DecidableEq

/-- A stream that a client has opened; the handle tells it from every other. -/
structure CoreStream where
  identityId : String
  kind : StreamKind
  handle : Nat
deriving DecidableEq

/-- How an awaited call has ended. -/
inductive Settled (α : Type) where
  | ok (value : α)
  | error (error : SignetError)
  | thrown (cause : String)
deriving DecidableEq

/-- What is asked for next in a hydration. -/
inductive HydrationStage where
  | getDbEncryptionKey
  | getXmtpIdentityKey
  | createClient
  | setInboxId (managed : ManagedClient)
  | syncAll (managed : ManagedClient)
  | listGroups (managed : ManagedClient)
  | streamAllMessages (managed : ManagedClient)
  | streamGroups (managed : ManagedClient)
  | streamDms (managed : ManagedClient)
  /-- The hydration has ended, and its caller has not gone on. -/
  | settled (result : Settled ManagedClient)
deriving DecidableEq

inductive HydrationCaller where
  | register (label : String)
  | attach (identityId : String)
  | start (remaining : List AgentIdentity) (fallback : SignetState)
deriving DecidableEq

/-- The option `registerNetworkIdentity` of the hydration. -/
def HydrationCaller.registerNetworkIdentity : HydrationCaller → Bool
  | .register _ => true
  | .attach _ | .start _ _ => false

/-- What a call that has not returned is waiting for. -/
inductive PendingCall where
  /-- `identityStore.create` -/
  | creating (label : String)
  /-- `identityStore.getById` -/
  | looking (identityId : String)
  /-- `identityStore.list` -/
  | listing (fallback : SignetState)
  | hydrating (caller : HydrationCaller) (identity : AgentIdentity) (stage : HydrationStage)
  /-- The import of the account functions. -/
  | importing (label : String) (managed : ManagedClient)
  /-- The identity key a registered account is derived from. -/
  | accountKey (label : String) (managed : ManagedClient)
  /-- A failed registration has detached the identity. -/
  | undoing (identityId : String) (error : SignetError)
  /-- `identityStore.remove` -/
  | removing (error : SignetError)
  /-- A failed attachment has detached the identity. -/
  | detaching (error : SignetError)
deriving DecidableEq

structure RegisteredIdentity where
  identityId : String
  inboxId : String
  address : String
  env : String
  label : String
deriving DecidableEq

/-- What a call returns. -/
inductive CoreResult where
  | done (result : Except SignetError Unit)
  | registered (result : Except SignetError RegisteredIdentity)
  | rejected (cause : String)
deriving DecidableEq

inductive CoreObservation where
  | returned (call : Nat) (result : CoreResult)
  /-- `raw.core.started` -/
  | started (identityCount : Nat)
  /-- `raw.core.stopped` -/
  | stopped
deriving DecidableEq

/-- The core, the streams its clients hold open, and the calls that have not returned. -/
structure CoreState where
  lifecycle : SignetState
  registry : AssocMap String ManagedClient
  streams : List CoreStream
  heartbeat : Bool
  opened : List CoreStream
  /-- How many streams have been opened. -/
  handles : Nat
  calls : AssocMap Nat PendingCall
  /-- How many calls there have been. -/
  begun : Nat

/-- What the configuration and the account functions supply. -/
structure CoreHost where
  env : String
  accountAddress : String → Option String

/-- What an awaited call answers. -/
inductive CoreAnswer where
  | created (result : Except SignetError AgentIdentity)
  | found (identity : Option AgentIdentity)
  | listed (identities : List AgentIdentity)
  | dbEncryptionKey (result : Except SignetError Unit)
  | xmtpIdentityKey (result : Except SignetError String)
  | client (result : Except SignetError String)
  /-- A call whose value is not looked at. -/
  | answered (result : Except SignetError Unit)
  | stream (result : Except SignetError Unit)
  /-- A promise of the core itself has settled. -/
  | resumed
  | thrown (cause : String)
deriving DecidableEq

inductive CoreEvent where
  | startLocal
  | start
  | stop
  | registerManagedIdentity (label : String)
  | attachPersistedIdentity (identityId : String)
  | detachManagedIdentity (identityId : String)
  /-- What a call is waiting for has come. -/
  | resume (call : Nat) (answer : CoreAnswer)
deriving DecidableEq

/-- The state after a segment, and what the segment made observable. -/
abbrev CoreTurn := CoreState × List CoreObservation

namespace CoreState

/-! ## Streams and clients -/

def abort (s : CoreState) (aborted : List CoreStream) : CoreState :=
  { s with opened := s.opened.filter fun stream => stream ∉ aborted }

/-- Abort the streams of an identity and forget its client. -/
def detach (s : CoreState) (identityId : String) : CoreState :=
  let s := s.abort (s.streams.filter fun stream => stream.identityId = identityId)
  { s with
    streams := s.streams.filter fun stream => stream.identityId ≠ identityId
    registry := s.registry.delete identityId }

def abortAll (s : CoreState) : CoreState :=
  { s.abort s.streams with streams := [] }

def resetStartupArtifacts (s : CoreState) : CoreState :=
  { s.abortAll with
    heartbeat := false
    registry := AssocMap.empty }

def openStream (s : CoreState) (identityId : String) (kind : StreamKind) : CoreState :=
  { s with
    streams := s.streams ++ [⟨identityId, kind, s.handles⟩]
    opened := s.opened ++ [⟨identityId, kind, s.handles⟩]
    handles := s.handles + 1 }

/-- `registry.register`, in the states that take a client. -/
def register (s : CoreState) (managed : ManagedClient) : CoreState :=
  if s.lifecycle = .running ∨ s.lifecycle = .starting ∨ s.lifecycle = .localOnly then
    { s with registry := s.registry.set managed.identityId managed }
  else s

/-! ## Calls -/

/-- A call waits. -/
def await (s : CoreState) (call : Nat) (pending : PendingCall) : CoreTurn :=
  ({ s with calls := s.calls.set call pending }, [])

def returns (s : CoreState) (call : Nat) (result : CoreResult) : CoreTurn :=
  ({ s with calls := s.calls.delete call }, [.returned call result])

/-- The number of a new call. -/
def begin (s : CoreState) : CoreState := { s with begun := s.begun + 1 }

def refuses (s : CoreState) (what expected : String) : SignetError :=
  ValidationError.create "state"
    ("Cannot " ++ what ++ " from '" ++ s.lifecycle.text ++ "' state (expected " ++ expected ++ ")")

def startLocal (s : CoreState) : CoreTurn :=
  if s.lifecycle ≠ .idle then
    s.begin.returns s.begun (.done (.error (s.refuses "initialize locally" "'idle'")))
  else { s.begin with lifecycle := .localOnly }.returns s.begun (.done (.ok ()))

def start (s : CoreState) : CoreTurn :=
  if s.lifecycle ≠ .idle ∧ s.lifecycle ≠ .localOnly then
    s.begin.returns s.begun (.done (.error (s.refuses "start" "'idle' or 'local'")))
  else
    let fallback := if s.lifecycle = .localOnly then .localOnly else .error
    { s.begin with lifecycle := .starting }.await s.begun (.listing fallback)

def stop (s : CoreState) : CoreTurn :=
  if s.lifecycle ≠ .localOnly ∧ s.lifecycle ≠ .running ∧ s.lifecycle ≠ .error then
    s.begin.returns s.begun (.done (.error (s.refuses "stop" "'local', 'running', or 'error'")))
  else
    let stopping := { s.begin with lifecycle := .stopping, heartbeat := false }.abortAll
    let emitted := if s.lifecycle ≠ .localOnly then [CoreObservation.stopped] else []
    let stopped := { stopping with registry := AssocMap.empty, lifecycle := .stopped }
    let turn := stopped.returns s.begun (.done (.ok ()))
    (turn.1, emitted ++ turn.2)

def registerManagedIdentity (s : CoreState) (label : String) : CoreTurn :=
  if s.lifecycle ≠ .running ∧ s.lifecycle ≠ .localOnly then
    s.begin.returns s.begun
      (.registered (.error (s.refuses "register inbox" "'running' or 'local'")))
  else s.begin.await s.begun (.creating label)

def attachPersistedIdentity (s : CoreState) (identityId : String) : CoreTurn :=
  if s.lifecycle ≠ .running ∧ s.lifecycle ≠ .localOnly then
    s.begin.returns s.begun (.done (.error (s.refuses "attach inbox" "'running' or 'local'")))
  else if (s.registry.get identityId).isSome then
    s.begin.returns s.begun (.done (.ok ()))
  else s.begin.await s.begun (.looking identityId)

def detachManagedIdentity (s : CoreState) (identityId : String) : CoreTurn :=
  (s.begin.detach identityId).returns s.begun (.done (.ok ()))

/-! ## Hydration -/

/-- `#hydrateIdentity` -/
def hydrateIdentity (s : CoreState) (call : Nat) (caller : HydrationCaller)
    (identity : AgentIdentity) : CoreTurn :=
  s.await call (.hydrating caller identity .getDbEncryptionKey)

/-- The client is there and its inbox is stored. -/
def hydrateClient (s : CoreState) (call : Nat) (caller : HydrationCaller)
    (identity : AgentIdentity) (managed : ManagedClient) : CoreTurn :=
  let s := s.register managed
  if s.lifecycle = .running ∨ s.lifecycle = .starting then
    s.await call (.hydrating caller identity (.syncAll managed))
  else s.await call (.hydrating caller identity (.settled (.ok managed)))

def hydrate (s : CoreState) (call : Nat) (caller : HydrationCaller) (identity : AgentIdentity)
    (stage : HydrationStage) (answer : CoreAnswer) : Option CoreTurn :=
  let next stage := some (s.await call (.hydrating caller identity stage))
  let settle result := next (.settled result)
  let opens kind stage :=
    some ((s.openStream identity.id kind).await call (.hydrating caller identity stage))
  match stage, answer with
  | .settled _, _ => none
  | _, .thrown cause => settle (.thrown cause)
  | .getDbEncryptionKey, .dbEncryptionKey (.ok ()) => next .getXmtpIdentityKey
  | .getDbEncryptionKey, .dbEncryptionKey (.error _) =>
    settle (.error (InternalError.create "Failed to get DB encryption key for identity"))
  | .getXmtpIdentityKey, .xmtpIdentityKey (.ok _) => next .createClient
  | .getXmtpIdentityKey, .xmtpIdentityKey (.error _) =>
    settle (.error (InternalError.create "Failed to get XMTP identity key for identity"))
  | .createClient, .client (.error error) => settle (.error error)
  | .createClient, .client (.ok inboxId) =>
    if caller.registerNetworkIdentity ∨ identity.inboxId = none then
      next (.setInboxId ⟨identity.id, inboxId⟩)
    else some (s.hydrateClient call caller identity ⟨identity.id, inboxId⟩)
  | .setInboxId managed, .answered (.error _) =>
    settle (.error (InternalError.create "Failed to persist inbox ID"
      (some [("identityId", .text identity.id), ("inboxId", .text managed.inboxId)])))
  | .setInboxId managed, .answered (.ok ()) => some (s.hydrateClient call caller identity managed)
  | .syncAll _, .answered (.error error) => settle (.error error)
  | .syncAll managed, .answered (.ok ()) => next (.listGroups managed)
  | .listGroups _, .answered (.error error) => settle (.error error)
  | .listGroups managed, .answered (.ok ()) => next (.streamAllMessages managed)
  | .streamAllMessages _, .stream (.error error) => settle (.error error)
  | .streamAllMessages managed, .stream (.ok ()) => opens .messages (.streamGroups managed)
  | .streamGroups _, .stream (.error error) => settle (.error error)
  | .streamGroups managed, .stream (.ok ()) => opens .groups (.streamDms managed)
  | .streamDms _, .stream (.error error) => settle (.error error)
  | .streamDms managed, .stream (.ok ()) => opens .dms (.settled (.ok managed))
  | _, _ => none

/-! ## After the hydration -/

/-- `failStart` -/
def failStart (s : CoreState) (call : Nat) (fallback : SignetState) (error : SignetError) :
    CoreTurn :=
  { s.resetStartupArtifacts with lifecycle := fallback }.returns call (.done (.error error))

/-- What `start` makes of a thrown cause. -/
def unexpected (cause : String) : SignetError :=
  InternalError.create "Unexpected error during startup" (some [("cause", .text cause)])

/-- The loop of `start` over the identities, and what comes after it. -/
def startNext (s : CoreState) (call : Nat) (fallback : SignetState) :
    List AgentIdentity → CoreTurn
  | identity :: remaining => s.hydrateIdentity call (.start remaining fallback) identity
  | [] =>
    let running := { s with heartbeat := true, lifecycle := .running }
    let turn := running.returns call (.done (.ok ()))
    (turn.1, .started s.registry.entries.length :: turn.2)

/-- A registration that has failed is undone. -/
def undo (s : CoreState) (call : Nat) (identityId : String) (error : SignetError) : CoreTurn :=
  (s.detach identityId).await call (.undoing identityId error)

def afterHydration (s : CoreState) (call : Nat) (caller : HydrationCaller)
    (identity : AgentIdentity) (result : Settled ManagedClient) : CoreTurn :=
  match caller, result with
  | .register label, .ok managed => s.await call (.importing label managed)
  | .register _, .error error => s.undo call identity.id error
  | .attach _, .ok _ => s.returns call (.done (.ok ()))
  | .attach identityId, .error error => (s.detach identityId).await call (.detaching error)
  | .start remaining fallback, .ok _ => s.startNext call fallback remaining
  | .start _ fallback, .error error => s.failStart call fallback error
  | .start _ fallback, .thrown cause => s.failStart call fallback (unexpected cause)
  | .register _, .thrown cause | .attach _, .thrown cause => s.returns call (.rejected cause)

/-- A call goes on after an answer. -/
def goOn (host : CoreHost) (s : CoreState) (call : Nat) (pending : PendingCall)
    (answer : CoreAnswer) : Option CoreTurn :=
  match pending, answer with
  | .hydrating caller identity (.settled result), .resumed =>
    some (s.afterHydration call caller identity result)
  | .hydrating caller identity stage, answer => s.hydrate call caller identity stage answer
  | .listing fallback, .thrown cause => some (s.failStart call fallback (unexpected cause))
  | .listing fallback, .listed identities => some (s.startNext call fallback identities)
  | _, .thrown cause => some (s.returns call (.rejected cause))
  | .creating _, .created (.error error) => some (s.returns call (.registered (.error error)))
  | .creating label, .created (.ok identity) =>
    some (s.hydrateIdentity call (.register label) identity)
  | .looking identityId, .found none =>
    some (s.returns call (.done (.error (NotFoundError.create "identity" identityId))))
  | .looking identityId, .found (some identity) =>
    some (s.hydrateIdentity call (.attach identityId) identity)
  | .importing label managed, .resumed => some (s.await call (.accountKey label managed))
  | .accountKey _ managed, .xmtpIdentityKey (.error error) =>
    some (s.undo call managed.identityId error)
  | .accountKey label managed, .xmtpIdentityKey (.ok key) =>
    match host.accountAddress key with
    | none => some (s.returns call (.rejected "invalid private key"))
    | some address => some (s.returns call (.registered (.ok
        ⟨managed.identityId, managed.inboxId, address, host.env, label⟩)))
  | .undoing _ error, .resumed => some (s.await call (.removing error))
  | .removing error, .answered _ => some (s.returns call (.registered (.error error)))
  | .detaching error, .resumed => some (s.returns call (.done (.error error)))
  | _, _ => none

end CoreState

/-! ## The machine -/

variable (host : CoreHost)

def coreStep (s : CoreState) : CoreEvent → Option CoreTurn
  | .startLocal => some s.startLocal
  | .start => some s.start
  | .stop => some s.stop
  | .registerManagedIdentity label => some (s.registerManagedIdentity label)
  | .attachPersistedIdentity identityId => some (s.attachPersistedIdentity identityId)
  | .detachManagedIdentity identityId => some (s.detachManagedIdentity identityId)
  | .resume call answer =>
    match s.calls.get call with
    | none => none
    | some pending => s.goOn host call pending answer

/-- The core as it is constructed, and the calls that follow. -/
def coreMachine : Machine CoreState CoreEvent CoreObservation where
  init := {
    lifecycle := .idle
    registry := AssocMap.empty
    streams := []
    heartbeat := false
    opened := []
    handles := 0
    calls := AssocMap.empty
    begun := 0 }
  step := coreStep host

end Core
end Signet
