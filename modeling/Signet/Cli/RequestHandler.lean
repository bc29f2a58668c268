import Signet.Policy.Permissions
import Signet.Policy.Pipeline
import Signet.Schemas.Requests
import Signet.Sessions.PendingActions
import Signet.Sessions.Service

/-!
# The harness request handler

Routes harness requests to the credential and core services.  A request runs in
segments: `handleRequest` runs from the call to the first await, `resume` from
an answered await to the next one, and each segment says what it leaves pending
as a `HandlerStage`.  The two stores are passed along, so a segment that runs
after an await sees whatever other calls made of them in the meantime.

* `HandlerStage` — the awaits of the handler, with the values captured there.
* `handleSendMessage`, `handleConfirmAction`, `handleUpdateScopes`,
  `handleRevealContent`, `handleHeartbeat` — the first segments.
* `resume` — the later segments.
-/

namespace Signet
namespace Cli

open Kit Schemas Policy Sessions

/-- What the handler takes from the host and the runtime wiring. -/
structure HandlerDeps where
  config : CredentialManagerConfig
  hash : HashEnv
  /-- `new Date(text).getTime()`, `none` for `NaN`. -/
  parseDate : String → Option Int
  /-- `internalCredentialManager` is wired. -/
  hasInternalManager : Bool
  /-- `pendingActions` is wired. -/
  hasPendingActions : Bool
  /-- `listMessages` and `broadcast` are wired. -/
  hasReplay : Bool
  /-- `sealManager` and `createMessageBinding` are wired. -/
  hasProvenance : Bool
  /-- `onActionExpired` is wired. -/
  hasActionExpiryLog : Bool

structure HandlerState where
  store : CredentialStore
  pendingActions : PendingActionStore

structure ReplayMessage where
  messageId : String
  groupId : String
  senderInboxId : String
  contentType : String
  content : Json
  sentAt : String
  threadId : Option String
deriving DecidableEq

structure MessageProvenanceMetadata where
  credentialId : String
  operatorId : String
  binding : MessageSealBinding
deriving DecidableEq

/-- The data of a successful response. -/
inductive Reply where
  | sent (messageId : String) (provenance : Option MessageProvenanceMetadata)
  | heartbeat
  | revealed (access : RevealAccess)
  | scopes (result : UpdateResult)
  | denied (actionId : String)
  | executed (messageId : String)
deriving DecidableEq

/-- An observable call of the handler. -/
inductive Effect where
  /-- `deps.sendMessage`, on behalf of a credential. -/
  | sendMessage (credentialId : String) (message : SendPayload)
  /-- `deps.broadcast` -/
  | broadcast (credentialId : String) (event : SignetEvent)
  /-- `deps.onActionExpired` -/
  | actionExpired (action : PendingAction)
deriving DecidableEq

/-- An await of the handler. -/
inductive HandlerStage where
  /-- `send_message` awaits `ensureCoreReady`. -/
  | sendReady (message : SendPayload) (credential : CredentialRecord)
  /-- `send_message` awaits the second lookup, which has taken `fresh`. -/
  | sendLookedUp (message : SendPayload) (credential : CredentialRecord)
      (fresh : Except SignetError CredentialRecord)
  /-- `send_message` awaits `deps.sendMessage`. -/
  | sending (message : SendPayload) (credential : CredentialRecord)
  /-- `send_message` awaits `sealManager.current`. -/
  | sealLookup (messageId : String) (credential : CredentialRecord)
  /-- `send_message` awaits `createMessageBinding`. -/
  | binding (messageId : String) (envelope : SealEnvelope)
  /-- `confirm_action` awaits `ensureCoreReady`. -/
  | confirmReady (payload : SendPayload) (credential : CredentialRecord)
  /-- `confirm_action` awaits `deps.sendMessage`. -/
  | confirmSending
  /-- `reveal_content` awaits `listMessages`. -/
  | listing (access : RevealAccess) (credential : CredentialRecord)

/-- The outcome of an await. -/
inductive Answer where
  | ready (result : Except SignetError Unit)
  | lookedUp
  | sent (result : Except SignetError String)
  | current (result : Except SignetError (Option SealEnvelope))
  | bound (result : Except SignetError MessageSealBinding)
  | messages (result : Except SignetError (List ReplayMessage))

/-- How a segment ends. -/
inductive Progress where
  | done (result : Except SignetError Reply)
  | await (stage : HandlerStage)

/-- The state, the observable calls and the end of a segment. -/
abbrev Segment := HandlerState × List Effect × Progress

/-- End a segment with a result and nothing else. -/
def finish (state : HandlerState) (result : Except SignetError Reply) : Segment :=
  (state, [], .done result)

/-- `resolveScopes` -/
def resolveScopes (credential : CredentialRecord) : OrderedSet PermissionScope :=
  resolveScopeSet credential.effectiveScopes

/-- `resolveChatIds` -/
def resolveChatIds (credential : CredentialRecord) : List String := credential.config.chatIds

/-! ## First segments -/

/-- `send_message` up to the await of `ensureCoreReady`. -/
def handleSendMessage (state : HandlerState) (message : SendPayload)
    (credential : CredentialRecord) : Segment :=
  match validateSendMessage message.groupId (resolveScopes credential)
      (resolveChatIds credential) with
  | .error error => finish state (.error error)
  | .ok () => (state, [], .await (.sendReady message credential))

/-- `heartbeat` -/
def handleHeartbeat (deps : HandlerDeps) (now : Int) (state : HandlerState)
    (requestedId : String) (credential : CredentialRecord) : Segment :=
  if requestedId ≠ credential.credentialId then
    finish state (.error (AuthError.create
      "Heartbeat credential does not match authenticated credential"
      (some [("authenticatedCredentialId", .text credential.credentialId),
        ("requestedCredentialId", .text requestedId)])))
  else if !deps.hasInternalManager then finish state (.ok .heartbeat)
  else
    let result := recordHeartbeat now state.store credential.credentialId
    finish { state with store := result.1 } (result.2.map fun _ => .heartbeat)

/-- `reveal_content` up to the await of `listMessages`. -/
def handleRevealContent (deps : HandlerDeps) (now : Int) (state : HandlerState)
    (reveal : RevealRequest) (credential : CredentialRecord) : Segment :=
  if !deps.hasInternalManager then
    finish state (.error (InternalError.create "Internal credential manager not available"))
  else
    let opened := getRevealState state.store credential.credentialId
    match opened.2 with
    | .error error => finish { state with store := opened.1 } (.error error)
    | .ok _ =>
      let access : RevealAccess :=
        { revealId := reveal.revealId
          grantedAt := now
          grantedBy := reveal.requestedBy
          expiresAt := reveal.expiresAt }
      let state' : HandlerState :=
        { state with store := recordReveal opened.1 credential.credentialId access reveal }
      if deps.hasReplay then (state', [], .await (.listing access credential))
      else finish state' (.ok (.revealed access))

/-- `update_scopes`: missing lists are filled from the credential of the request,
materiality is checked against the stored one. -/
def handleUpdateScopes (deps : HandlerDeps) (state : HandlerState)
    (allow deny : Option (List PermissionScope)) (credential : CredentialRecord) : Segment :=
  if !deps.hasInternalManager then
    finish state (.error (InternalError.create "Internal credential manager not available"))
  else
    let newScopes : ScopeSet :=
      { allow := allow.getD credential.effectiveScopes.allow
        deny := deny.getD credential.effectiveScopes.deny }
    match checkStoredMateriality state.store credential.credentialId newScopes with
    | .error error => finish state (.error error)
    | .ok check =>
      if check.requiresReauthorization then
        -- the result of the status write is not looked at
        finish
          { state with
            store := (setCredentialStatus state.store credential.credentialId .pending).1 }
          (.ok (.scopes ⟨false, true, check.reason⟩))
      else
        let result :=
          updateCredentialScopes deps.hash state.store credential.credentialId newScopes
        finish { state with store := result.1 } (result.2.map fun _ =>
          .scopes ⟨true, check.isMaterial, if check.isMaterial then check.reason else none⟩)

/-- `confirm_action` up to the await of `ensureCoreReady`. -/
def handleConfirmAction (deps : HandlerDeps) (now : Int) (state : HandlerState)
    (actionId : String) (confirmed : Bool) (credential : CredentialRecord) : Segment :=
  if !deps.hasPendingActions then
    finish state (.error (InternalError.create "Pending action store not available"))
  else match state.pendingActions.get actionId with
    | none => finish state (.error (NotFoundError.create "PendingAction" actionId))
    | some pending =>
      if pending.credentialId ≠ credential.credentialId then
        finish state (.error (PermissionError.create
          "Pending action does not belong to this credential"
          (some [("actionId", .text actionId),
            ("credentialId", .text credential.credentialId)])))
      else if pending.expiresAt < now then
        ({ state with pendingActions := (state.pendingActions.deny actionId).1 },
          if deps.hasActionExpiryLog then [.actionExpired pending] else [],
          .done (.error (PermissionError.create "Pending action has expired"
            (some [("actionId", .text actionId), ("expiresAt", .instant pending.expiresAt)]))))
      else if !confirmed then
        finish { state with pendingActions := (state.pendingActions.deny actionId).1 }
          (.ok (.denied actionId))
      else
        let revalidation :=
          if pending.actionType = "send_message" then
            validateSendMessage pending.payload.groupId (resolveScopes credential)
              (resolveChatIds credential)
          else .ok ()
        match revalidation with
        | .error error =>
          finish { state with pendingActions := (state.pendingActions.deny actionId).1 }
            (.error error)
        | .ok () =>
          let removal := state.pendingActions.confirm actionId
          let state' : HandlerState := { state with pendingActions := removal.1 }
          match removal.2 with
          | none => finish state' (.error (NotFoundError.create "PendingAction" actionId))
          | some action =>
            if action.actionType = "send_message" then
              (state', [], .await (.confirmReady action.payload credential))
            else finish state' (.error (InternalError.create
              ("Unknown pending action type: " ++ action.actionType)))

/-- The liveness guard in front of every request but a heartbeat. -/
def rejectsStale (deps : HandlerDeps) (now : Int) (state : HandlerState)
    (request : HarnessRequest) (credential : CredentialRecord) : Bool :=
  match request.body with
  | .heartbeat _ => false
  | _ => deps.hasInternalManager
      && (isHeartbeatStale deps.config now state.store credential.credentialId == .ok true)

/-- The handler from the call to its first await. -/
def handleRequest (deps : HandlerDeps) (now : Int) (state : HandlerState)
    (request : HarnessRequest) (credential : CredentialRecord) : Segment :=
  if rejectsStale deps now state request credential then
    finish state (.error (AuthError.create
      "Credential heartbeat is stale -- send a heartbeat before making requests"))
  else match request.body with
    | .sendMessage groupId contentType content =>
      handleSendMessage state ⟨groupId, contentType, content⟩ credential
    | .heartbeat credentialId => handleHeartbeat deps now state credentialId credential
    | .revealContent reveal => handleRevealContent deps now state reveal credential
    | .updateScopes allow deny => handleUpdateScopes deps state allow deny credential
    | .confirmAction actionId confirmed =>
      handleConfirmAction deps now state actionId confirmed credential
    | .sendReaction .. | .sendReply .. =>
      finish state (.error (InternalError.create
        ("Harness request type '" ++ request.typeName ++ "' is not supported")))

/-! ## Later segments -/

def replayedEvent (deps : HandlerDeps) (now : Int) (store : CredentialStore)
    (access : RevealAccess) (credential : CredentialRecord) (msg : ReplayMessage) :
    Option SignetEvent :=
  let reveals := (store.revealStates.get credential.credentialId).getD createRevealStateStore
  if !reveals.isRevealed deps.parseDate now msg.messageId msg.groupId msg.threadId
      msg.senderInboxId msg.contentType msg.sentAt then none
  else
    (projectMessage
      { messageId := msg.messageId
        groupId := msg.groupId
        senderInboxId := msg.senderInboxId
        contentType := msg.contentType
        content := msg.content
        sentAt := msg.sentAt
        sealId := none
        threadId := msg.threadId
        isHistorical := true }
      (resolveScopes credential) (resolveChatIds credential) [msg.contentType] true).map
        fun event => .messageRevealed
          { messageId := msg.messageId
            groupId := msg.groupId
            contentType := msg.contentType
            content := event.content
            revealId := access.revealId }

/-- The handler from an answered await to its next one. -/
def resume (deps : HandlerDeps) (now : Int) (state : HandlerState) :
    HandlerStage → Answer → Option Segment
  | .sendReady message credential, .ready result =>
    match result with
    | .error error => some (finish state (.error error))
    | .ok () =>
      let looked := Service.lookup deps.config now state.store credential.credentialId
      some ({ state with store := looked.1 }, [],
        .await (.sendLookedUp message credential looked.2))
  | .sendLookedUp message credential fresh, .lookedUp =>
    match fresh with
    | .error error => some (finish state (.error error))
    | .ok freshRecord =>
      if freshRecord.status ≠ .active then
        some (finish state (.error (AuthError.create
          ("Credential is " ++ freshRecord.status.value ++ " -- cannot send messages"))))
      else some (state, [.sendMessage credential.credentialId message],
        .await (.sending message credential))
  | .sending _ credential, .sent result =>
    match result with
    | .error error => some (finish state (.error error))
    | .ok messageId =>
      if deps.hasProvenance then
        some (state, [], .await (.sealLookup messageId credential))
      else some (finish state (.ok (.sent messageId none)))
  | .sealLookup messageId _, .current result =>
    match result with
    | .ok (some envelope) => some (state, [], .await (.binding messageId envelope))
    | .ok none | .error _ => some (finish state (.ok (.sent messageId none)))
  | .binding messageId envelope, .bound result =>
    match result with
    | .error error => some (finish state (.error error))
    | .ok bound => some (finish state (.ok (.sent messageId (some
        { credentialId := envelope.chain.current.credentialId
          operatorId := envelope.chain.current.operatorId
          binding := bound }))))
  | .confirmReady payload credential, .ready result =>
    match result with
    | .error error => some (finish state (.error error))
    | .ok () => some (state, [.sendMessage credential.credentialId payload],
        .await .confirmSending)
  | .confirmSending, .sent result => some (finish state (result.map .executed))
  | .listing access credential, .messages result =>
    let replayed := match result with
      | .error _ => []
      | .ok messages => messages.filterMap (replayedEvent deps now state.store access credential)
    some (state, replayed.map (.broadcast credential.credentialId),
      .done (.ok (.revealed access)))
  | _, _ => none

end Cli
end Signet
