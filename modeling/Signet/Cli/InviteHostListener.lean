import Mathlib.Algebra.Ring.Nat
import Signet.Core.ProcessJoinRequest
import Signet.Kit.AssocMap
import Signet.Kit.Machine
import Signet.Kit.OrderedSet

/-!
# The invite host listener

Incoming messages that may carry an invite are dispatched to the managed identities
until one accepts.  A direct message that is joined is scanned for recent candidates,
and scanned again later when something went wrong in a way that may pass.  Message ids
and requests are kept out while they are in flight or have been accepted.

* `DispatchStage`, `ScanStage` — the awaits of a dispatch and of a scan.
* `listenerStep` — one segment, from an await to the next.
* `listenerMachine` — any number of them, in any order.
-/

namespace Signet
namespace Cli

open Kit Schemas Signet.Core

structure RawMessageEvent where
  messageId : String
  groupId : String
  senderInboxId : String
  contentType : Option String
  content : MessageContent
  sentAt : String
  isHistorical : Bool
deriving DecidableEq

structure ManagedIdentity where
  id : String
  inboxId : Option String
deriving DecidableEq

structure ManagedInviteJoinAcceptance where
  join : JoinRequestResult
  hostIdentityId : String
  hostInboxId : String
  requestMessage : RawMessageEvent
deriving DecidableEq

/-! ## Candidates -/

def unitLength (text : String) : Nat :=
  (text.toList.map fun c => if c.toNat < 0x10000 then 1 else 2).sum

def lowerCase (text : String) : String := String.ofList (text.toList.map Char.toLower)

/-- `resolveInviteRequestKey` -/
def resolveInviteRequestKey (event : RawMessageEvent) : Option String :=
  let inviteSlug :=
    match extractJoinRequestContent event.content with
    | some inviteSlug => some inviteSlug
    | none =>
      match event.content with
      | .text value => some (trimmed value)
      | _ => none
  (nonempty inviteSlug).map fun slug => lowerCase event.senderInboxId ++ ":" ++ slug

/-- `preferInviteCandidate`: a structured request goes before a plain text. -/
def preferInviteCandidate (current : Option RawMessageEvent) (candidate : RawMessageEvent) :
    RawMessageEvent :=
  match current with
  | none => candidate
  | some current =>
    if isJoinRequestContentType candidate.contentType
        && !isJoinRequestContentType current.contentType then candidate
    else current

/-- `isInviteCandidate` for a message. -/
def isInviteCandidate (event : RawMessageEvent) : Bool :=
  if event.isHistorical then false
  else if isJoinRequestContentType event.contentType then true
  else
    match event.content with
    | .text value =>
      decide (50 ≤ unitLength (trimmed value)) && !(trimmed value).toList.contains ' '
    | _ => false

/-- `normalizePrivateKeyHex` -/
def normalizePrivateKeyHex (value : String) : String :=
  match value.toList with
  | '0' :: 'x' :: rest => String.ofList rest
  | _ => value

/-- `isRetryableInviteError` -/
def isRetryableInviteError (error : SignetError) : Bool :=
  error.category ≠ .validation && error.category ≠ .permission && error.category ≠ .auth

/-! ## Awaits -/

/-- How far a dispatch is through the identities. -/
structure DispatchProgress where
  remaining : List ManagedIdentity
  lastError : Option SignetError
  shouldRetry : Bool

structure DispatchHost where
  identityId : String
  inboxId : String

/-- Where a dispatch awaits. -/
inductive DispatchStage where
  | identities
  /-- `getWalletPrivateKeyHex` -/
  | walletKey (host : DispatchHost) (progress : DispatchProgress)
  /-- `getGroupInviteTag` -/
  | tag (host : DispatchHost) (verified : VerifiedInvite) (progress : DispatchProgress)
  /-- `addMembersToGroup` -/
  | adding (host : DispatchHost) (verified : VerifiedInvite) (progress : DispatchProgress)
  /-- `onJoinAccepted` -/
  | accepted
  /-- `onJoinRejected` -/
  | rejected

inductive AfterCandidate where
  /-- Nothing: it came as an event. -/
  | event
  /-- A recovery with the candidates it has left. -/
  | recovery (dmId : String) (retryCount : Nat) (rest : List RawMessageEvent)
      (shouldRetry : Bool)

structure ScanProgress where
  remaining : List ManagedIdentity
  messages : AssocMap String RawMessageEvent
  shouldRetry : Bool

inductive ListenerTask where
  | candidate (event : RawMessageEvent) (stage : DispatchStage) (next : AfterCandidate)
  | scanIdentities (dmId : String) (retryCount : Nat)
  | scanPage (dmId : String) (retryCount : Nat) (identityId : String) (before : Option String)
      (progress : ScanProgress)
  /-- A recovery comes to its next candidate. -/
  | recovering (dmId : String) (retryCount : Nat) (rest : List RawMessageEvent)
      (shouldRetry : Bool)

structure RetryTimer where
  dueAt : Int
  retryCount : Nat
deriving DecidableEq

structure ListenerState where
  processedMessageIds : OrderedSet String
  processedInviteKeys : OrderedSet String
  inflightMessageIds : OrderedSet String
  inflightInviteKeys : OrderedSet String
  recoveryRetryTimers : AssocMap String RetryTimer
  processedInviteKeyTimers : AssocMap String Int
  tasks : AssocMap Nat ListenerTask
  stopped : Bool
  /-- The requests accepted so far. -/
  acceptances : List ManagedInviteJoinAcceptance

/-- What a step makes observable. -/
inductive ListenerObservation where
  /-- `addMembers` of the managed client is called. -/
  | addMembers (identityId groupId : String) (inboxIds : List String)
  | accepted (acceptance : ManagedInviteJoinAcceptance)
  | rejected (error : SignetError) (requestMessage : RawMessageEvent)
  /-- `processInviteCandidate` has returned. -/
  | processed (event : RawMessageEvent) (accepted shouldRetry : Bool)
deriving DecidableEq

/-- The state after a segment, and what the segment made observable. -/
abbrev ListenerTurn := ListenerState × List ListenerObservation

structure ListenerDeps where
  host : InviteHost
  processedInviteKeyTtlMs : Int := 5000

/-! ## Candidates in turn -/

/-- The candidate is left out: it has been accepted, or it is in flight. -/
def skipsCandidate (s : ListenerState) (event : RawMessageEvent) : Bool :=
  let requestKey := resolveInviteRequestKey event
  decide (event.messageId ∈ s.processedMessageIds)
    || requestKey.any (fun key => decide (key ∈ s.processedInviteKeys))
    || decide (event.messageId ∈ s.inflightMessageIds)
    || requestKey.any (fun key => decide (key ∈ s.inflightInviteKeys))

/-- `processInviteCandidate`, up to its first await. -/
def startCandidate (s : ListenerState) (task : Nat) (event : RawMessageEvent)
    (next : AfterCandidate) : ListenerState :=
  { s with
    inflightMessageIds := s.inflightMessageIds.add event.messageId
    inflightInviteKeys :=
      match resolveInviteRequestKey event with
      | none => s.inflightInviteKeys
      | some key => s.inflightInviteKeys.add key
    tasks := s.tasks.set task (.candidate event .identities next) }

/-- How often a direct message is scanned again, and after what delay. -/
def maxDmRecoveryRetries : Nat := 3

def dmRecoveryRetryDelayMs : Int := 250

/-- A recovery has no candidates left. -/
def finishRecovery (now : Int) (s : ListenerState) (task : Nat) (dmId : String)
    (retryCount : Nat) (shouldRetry : Bool) : ListenerState :=
  let ended := { s with tasks := s.tasks.delete task }
  if !shouldRetry || decide (maxDmRecoveryRetries ≤ retryCount)
      || (s.recoveryRetryTimers.get dmId).isSome then ended
  else
    { ended with
      recoveryRetryTimers := s.recoveryRetryTimers.set dmId
        ⟨now + dmRecoveryRetryDelayMs, retryCount + 1⟩ }

/-- The task goes on with the candidates of a recovery when it runs again. -/
def recoverLater (s : ListenerState) (task : Nat) (dmId : String) (retryCount : Nat)
    (shouldRetry : Bool) (rest : List RawMessageEvent) : ListenerState :=
  { s with tasks := s.tasks.set task (.recovering dmId retryCount rest shouldRetry) }

def nextCandidate (now : Int) (s : ListenerState) (task : Nat) (dmId : String)
    (retryCount : Nat) (shouldRetry : Bool) : List RawMessageEvent → ListenerTurn
  | [] => (finishRecovery now s task dmId retryCount shouldRetry, [])
  | event :: rest =>
    if skipsCandidate s event then
      (recoverLater s task dmId retryCount shouldRetry rest, [.processed event true false])
    else (startCandidate s task event (.recovery dmId retryCount rest shouldRetry), [])

/-- The candidate is no longer in flight. -/
def leaveFlight (s : ListenerState) (event : RawMessageEvent) : ListenerState :=
  { s with
    inflightMessageIds := s.inflightMessageIds.erase event.messageId
    inflightInviteKeys :=
      match resolveInviteRequestKey event with
      | none => s.inflightInviteKeys
      | some key => s.inflightInviteKeys.erase key }

/-- `processInviteCandidate` has a result. -/
def finishCandidate (s : ListenerState) (task : Nat) (event : RawMessageEvent)
    (accepted shouldRetry : Bool) (next : AfterCandidate) : ListenerTurn :=
  let left := leaveFlight s event
  let after :=
    match next with
    | .event => { left with tasks := left.tasks.delete task }
    | .recovery dmId retryCount rest retryBefore =>
      recoverLater left task dmId retryCount (retryBefore || (!accepted && shouldRetry)) rest
  (after, [.processed event accepted shouldRetry])

/-! ## Dispatching -/

/-- `markInviteKeyProcessed` -/
def markInviteKeyProcessed (deps : ListenerDeps) (now : Int) (s : ListenerState)
    (requestKey : String) : ListenerState :=
  { s with
    processedInviteKeys := s.processedInviteKeys.add requestKey
    processedInviteKeyTimers := s.processedInviteKeyTimers.set requestKey
      (now + deps.processedInviteKeyTtlMs) }

/-- A dispatch has no identities left. -/
def concludeDispatch (s : ListenerState) (task : Nat) (event : RawMessageEvent)
    (next : AfterCandidate) (lastError : Option SignetError) (shouldRetry : Bool) :
    ListenerTurn :=
  match lastError with
  | none => finishCandidate s task event false shouldRetry next
  | some error =>
    if shouldRetry then finishCandidate s task event false shouldRetry next
    else ({ s with tasks := s.tasks.set task (.candidate event .rejected next) },
      [.rejected error event])

def nextIdentity (managed : String → Bool) (s : ListenerState) (task : Nat)
    (event : RawMessageEvent) (next : AfterCandidate) (lastError : Option SignetError)
    (shouldRetry : Bool) : List ManagedIdentity → ListenerTurn
  | [] => concludeDispatch s task event next lastError shouldRetry
  | identity :: remaining =>
    match nonempty identity.inboxId with
    | none => nextIdentity managed s task event next lastError true remaining
    | some inboxId =>
      if managed identity.id then
        let stage : DispatchStage :=
          .walletKey ⟨identity.id, inboxId⟩ ⟨remaining, lastError, shouldRetry⟩
        ({ s with tasks := s.tasks.set task (.candidate event stage next) }, [])
      else nextIdentity managed s task event next lastError true remaining

def failIdentity (managed : String → Bool) (s : ListenerState) (task : Nat)
    (event : RawMessageEvent) (next : AfterCandidate) (progress : DispatchProgress)
    (error : SignetError) : ListenerTurn :=
  nextIdentity managed s task event next (some error)
    (progress.shouldRetry || isRetryableInviteError error) progress.remaining

def acceptCandidate (deps : ListenerDeps) (now : Int) (s : ListenerState) (task : Nat)
    (event : RawMessageEvent) (next : AfterCandidate) (host : DispatchHost)
    (verified : VerifiedInvite) : ListenerTurn :=
  let acceptance : ManagedInviteJoinAcceptance :=
    ⟨joinResult verified event.senderInboxId, host.identityId, host.inboxId, event⟩
  let processed := { s with
    processedMessageIds := s.processedMessageIds.add event.messageId
    acceptances := s.acceptances ++ [acceptance] }
  let marked :=
    match resolveInviteRequestKey event with
    | none => processed
    | some key => markInviteKeyProcessed deps now processed key
  ({ marked with tasks := marked.tasks.set task (.candidate event .accepted next) },
    [.accepted acceptance])

/-- What an await answers. -/
inductive ListenerAnswer where
  | identities (identities : List ManagedIdentity)
  | walletKey (result : Except SignetError String)
  | tag (result : Except SignetError (Option String))
  | added (result : Except SignetError Unit)
  | messages (result : Except SignetError (List RawMessageEvent))
  /-- A best-effort callback has returned or thrown. -/
  | notified
  /-- What is awaited has its result already, and the task runs again. -/
  | resumed
  | thrown

/-- A dispatch goes on. -/
def resumeCandidate (deps : ListenerDeps) (now : Int) (managed : String → Bool)
    (s : ListenerState) (task : Nat) (event : RawMessageEvent) (next : AfterCandidate) :
    DispatchStage → ListenerAnswer → Option ListenerTurn
  | .identities, .identities identities =>
    some (nextIdentity managed s task event next none false identities)
  | .walletKey host progress, .walletKey result =>
    match result with
    | .error _ => some (nextIdentity managed s task event next progress.lastError true
        progress.remaining)
    | .ok key =>
      match verifyJoinRequest deps.host now ⟨normalizePrivateKeyHex key, host.inboxId⟩
          event.content with
      | .error error => some (failIdentity managed s task event next progress error)
      | .ok verified =>
        let stage : DispatchStage := .tag host verified progress
        some ({ s with tasks := s.tasks.set task (.candidate event stage next) }, [])
  | .tag host verified progress, .tag result =>
    match checkInviteTag verified result with
    | .error error => some (failIdentity managed s task event next progress error)
    | .ok () =>
      let stage : DispatchStage := .adding host verified progress
      some ({ s with tasks := s.tasks.set task (.candidate event stage next) },
        [.addMembers host.identityId verified.groupId [event.senderInboxId]])
  | .adding host verified progress, .added result =>
    match result with
    | .error error => some (failIdentity managed s task event next progress error)
    | .ok () => some (acceptCandidate deps now s task event next host verified)
  | .accepted, .notified => some (finishCandidate s task event true false next)
  | .rejected, .notified => some (finishCandidate s task event false false next)
  | .accepted, _ | .rejected, _ => none
  | _, .thrown =>
    -- the candidate is left, and with it the recovery it belongs to
    let left := leaveFlight s event
    some ({ left with tasks := left.tasks.delete task }, [])
  | _, _ => none

/-! ## Scanning -/

/-- How many messages a page has. -/
def recentJoinScanLimit : Nat := 10

def nextScanIdentity (managed : String → Bool) (s : ListenerState) (task : Nat)
    (dmId : String) (retryCount : Nat) (messages : AssocMap String RawMessageEvent)
    (shouldRetry : Bool) : List ManagedIdentity → ListenerState
  | [] => recoverLater s task dmId retryCount shouldRetry messages.values
  | identity :: remaining =>
    if managed identity.id then
      { s with
        tasks := s.tasks.set task (.scanPage dmId retryCount identity.id none
          ⟨remaining, messages, shouldRetry⟩) }
    else nextScanIdentity managed s task dmId retryCount messages shouldRetry remaining

/-- A message of a page is taken up as a candidate. -/
def collectMessage (s : ListenerState) (messages : AssocMap String RawMessageEvent)
    (message : RawMessageEvent) : AssocMap String RawMessageEvent :=
  let event := { message with isHistorical := false }
  let requestKey := resolveInviteRequestKey event
  if !isInviteCandidate event || decide (event.messageId ∈ s.processedMessageIds)
      || requestKey.any (fun key => decide (key ∈ s.processedInviteKeys)) then messages
  else
    let key := requestKey.getD event.messageId
    messages.set key (preferInviteCandidate (messages.get key) event)

/-- A scan goes on with a page, newest message first. -/
def resumePage (managed : String → Bool) (s : ListenerState) (task : Nat)
    (dmId : String) (retryCount : Nat) (identityId : String) (progress : ScanProgress)
    (result : Except SignetError (List RawMessageEvent)) : ListenerState :=
  match result with
  | .error error =>
    nextScanIdentity managed s task dmId retryCount progress.messages
      (progress.shouldRetry || decide (error.category ≠ .notFound)) progress.remaining
  | .ok page =>
    let messages := page.reverse.foldl (collectMessage s) progress.messages
    let before := nonempty (page.getLast?.map fun message => message.sentAt)
    if decide (page.length < recentJoinScanLimit) || before.isNone then
      nextScanIdentity managed s task dmId retryCount messages progress.shouldRetry
        progress.remaining
    else
      { s with
        tasks := s.tasks.set task (.scanPage dmId retryCount identityId before
          ⟨progress.remaining, messages, progress.shouldRetry⟩) }

/-! ## The machine -/

/-- What happens next. -/
inductive ListenerEvent where
  | message (task : Nat) (event : RawMessageEvent)
  /-- A direct message has been joined. -/
  | dmJoined (task : Nat) (dmId : String)
  /-- The timer of a recovery fires. -/
  | retryTimer (task : Nat) (dmId : String)
  | keyTimer (requestKey : String)
  | answer (task : Nat) (answer : ListenerAnswer)
  /-- The listener is stopped. -/
  | stop

/-- An event at a clock reading; `managed` says which identities have a client then. -/
structure ListenerLabel where
  now : Int
  managed : String → Bool
  event : ListenerEvent

variable (deps : ListenerDeps)

def resumeTask (now : Int) (managed : String → Bool) (s : ListenerState) (task : Nat)
    (answer : ListenerAnswer) : ListenerTask → Option ListenerTurn
  | .candidate event stage next =>
    resumeCandidate deps now managed s task event next stage answer
  | .scanIdentities dmId retryCount =>
    match answer with
    | .identities identities =>
      some (nextScanIdentity managed s task dmId retryCount .empty false identities, [])
    | .thrown => some ({ s with tasks := s.tasks.delete task }, [])
    | _ => none
  | .scanPage dmId retryCount identityId _ progress =>
    match answer with
    | .messages result =>
      some (resumePage managed s task dmId retryCount identityId progress result, [])
    | .thrown => some ({ s with tasks := s.tasks.delete task }, [])
    | _ => none
  | .recovering dmId retryCount rest shouldRetry =>
    match answer with
    | .resumed => some (nextCandidate now s task dmId retryCount shouldRetry rest)
    | _ => none

/-- One step. -/
def listenerStep (s : ListenerState) (label : ListenerLabel) : Option ListenerTurn :=
  match label.event with
  | .message task event =>
    if s.stopped || (s.tasks.get task).isSome then none
    else if !isInviteCandidate event then some (s, [])
    else if skipsCandidate s event then some (s, [.processed event true false])
    else some (startCandidate s task event .event, [])
  | .dmJoined task dmId =>
    if s.stopped || (s.tasks.get task).isSome then none
    else some ({ s with tasks := s.tasks.set task (.scanIdentities dmId 0) }, [])
  | .retryTimer task dmId =>
    match s.recoveryRetryTimers.get dmId with
    | none => none
    | some timer =>
      if label.now < timer.dueAt || (s.tasks.get task).isSome then none
      else
        some ({ s with
          recoveryRetryTimers := s.recoveryRetryTimers.delete dmId
          tasks := s.tasks.set task (.scanIdentities dmId timer.retryCount) }, [])
  | .keyTimer requestKey =>
    match s.processedInviteKeyTimers.get requestKey with
    | none => none
    | some dueAt =>
      if label.now < dueAt then none
      else
        some ({ s with
          processedInviteKeys := s.processedInviteKeys.erase requestKey
          processedInviteKeyTimers := s.processedInviteKeyTimers.delete requestKey }, [])
  | .answer task answer =>
    (s.tasks.get task).bind (resumeTask deps label.now label.managed s task answer)
  | .stop =>
    if s.stopped then none
    else
      some ({ s with
        recoveryRetryTimers := .empty
        processedInviteKeyTimers := .empty
        stopped := true }, [])

/-- The listener from its start on. -/
def listenerMachine : Machine ListenerState ListenerLabel ListenerObservation where
  init :=
    { processedMessageIds := .empty
      processedInviteKeys := .empty
      inflightMessageIds := .empty
      inflightInviteKeys := .empty
      recoveryRetryTimers := .empty
      processedInviteKeyTimers := .empty
      tasks := .empty
      stopped := false
      acceptances := [] }
  step := listenerStep deps

end Cli
end Signet
