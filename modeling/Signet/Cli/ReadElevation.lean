import Signet.Kit.Machine
import Signet.Schemas.Errors
import Signet.Cli.ReadDisclosureStore

/-!
# The admin read-elevation manager

Elevations are cached in memory per authenticated admin session and chat.
Callers must still set the explicit dangerous-read flag on each request; cache
reuse only skips the repeated biometric prompt inside the TTL window.  A request
runs in segments between its awaits, and so does the expiry that a timer starts;
what a call has captured when it awaits is an `ElevationStage`.

* `syncDisclosureApproval`, `syncDisclosureExpiry` — the segments that change the
  disclosure store.
* `expireCachedElevation`, `scheduleExpiration` — the life of a cache entry.
* `resolveForRequest` — a request up to its first await.
* `resumeElevation` — a call goes on with the answer to its await.
* `elevationMachine` — the manager with any number of calls in flight.
-/

namespace Signet
namespace Cli

open Kit Schemas

/-- Explicit, time-bound admin message-read elevation. -/
structure AdminReadElevation where
  approvalId : String
  /-- `scope.chatIds` -/
  scopeChatIds : List String
  approvedAt : Int
  expiresAt : Int
  approvalKeyFingerprint : String
deriving DecidableEq, Repr

/-- Which of the optional dependencies of the manager are there, and its settings. -/
structure AdminReadElevationManagerDeps where
  hasApprover : Bool := true
  hasAuditLog : Bool := true
  hasDisclosureStore : Bool := true
  /-- `onDisclosureChanged` is given. -/
  hasChangeHandler : Bool := true
  disclosureActorId : String := "owner"
  ttlMs : Int := 60000

structure ResolveAdminReadElevationInput where
  method : String
  params : AssocMap String Json
  adminFingerprint : String
  sessionKey : String
deriving DecidableEq

/-- A request that asks for elevated reads of a chat. -/
structure ElevationRequest where
  input : ResolveAdminReadElevationInput
  canonicalChatId : String
deriving DecidableEq

/-- An elevation as the cache holds it. -/
structure CachedElevation where
  elevation : AdminReadElevation
  chatId : String
  sessionKey : String
deriving DecidableEq, Repr

def isMessageReadMethod (method : String) : Bool :=
  method = "message.list" || method = "message.info" || method = "search.messages"

def wantsDangerousMessageRead (params : AssocMap String Json) : Bool :=
  params.get "dangerouslyAllowMessageRead" = some (.bool true)
    || params.get "dangerouslyAllowMessageRead" = some (.string "true")

def resolveChatId (params : AssocMap String Json) : Option String :=
  match params.get "chatId" with
  | some (.string chatId) => if chatId = "" then none else some chatId
  | _ => none

def buildCacheKey (sessionKey chatId : String) : String := sessionKey ++ ":" ++ chatId

def CachedElevation.key (cached : CachedElevation) : String :=
  buildCacheKey cached.sessionKey cached.chatId

/-! ## Audit entries -/

inductive AuditValue where
  | text (value : String)
  /-- An ISO timestamp, as milliseconds since the epoch. -/
  | instant (ms : Int)
deriving DecidableEq, Repr

structure AdminAuditEntry where
  action : String
  success : Bool
  target : String
  detail : List (String × AuditValue)
deriving DecidableEq, Repr

def reuseDetail (method adminFingerprint : String) (elevation : AdminReadElevation) :
    List (String × AuditValue) :=
  [("method", .text method), ("adminKeyFingerprint", .text adminFingerprint),
    ("approvalId", .text elevation.approvalId), ("expiresAt", .instant elevation.expiresAt),
    ("mode", .text "session-scoped")]

/-- `appendReuseAudit` -/
def reuseAudit (request : ElevationRequest) (elevation : AdminReadElevation) : AdminAuditEntry :=
  ⟨"admin.read-elevation.reused", true, request.canonicalChatId,
    reuseDetail request.input.method request.input.adminFingerprint elevation⟩

/-- `appendExpiredAudit`; a timer has no request and stands for an anonymous
`message.list`. -/
def expiredAudit (request : Option ElevationRequest) (cached : CachedElevation) :
    AdminAuditEntry :=
  ⟨"admin.read-elevation.expired", true, cached.chatId,
    match request with
    | some request =>
      reuseDetail request.input.method request.input.adminFingerprint cached.elevation
    | none => reuseDetail "message.list" "" cached.elevation⟩

/-- The disclosure of an expired elevation could not be taken back. -/
def expiryFailedAudit (cached : CachedElevation) (error : SignetError) : AdminAuditEntry :=
  ⟨"admin.read-elevation.disclosure-refresh-failed", false, cached.chatId,
    [("approvalId", .text cached.elevation.approvalId),
      ("expiresAt", .instant cached.elevation.expiresAt), ("stage", .text "expiry"),
      ("reason", .text error.message), ("category", .text error.category.text)]⟩

/-- The approval was refused. -/
def deniedAudit (request : ElevationRequest) (error : SignetError) : AdminAuditEntry :=
  ⟨"admin.read-elevation.denied", false, request.canonicalChatId,
    [("method", .text request.input.method),
      ("adminKeyFingerprint", .text request.input.adminFingerprint),
      ("reason", .text error.message), ("category", .text error.category.text),
      ("mode", .text "session-scoped")]⟩

/-- The disclosure of an approval could not be published. -/
def approvalFailedAudit (request : ElevationRequest) (cached : CachedElevation)
    (error : SignetError) : AdminAuditEntry :=
  ⟨"admin.read-elevation.disclosure-refresh-failed", false, request.canonicalChatId,
    [("method", .text request.input.method),
      ("adminKeyFingerprint", .text request.input.adminFingerprint),
      ("approvalId", .text cached.elevation.approvalId),
      ("expiresAt", .instant cached.elevation.expiresAt), ("stage", .text "approval"),
      ("reason", .text error.message), ("category", .text error.category.text)]⟩

/-- The approval went through. -/
def approvedAudit (request : ElevationRequest) (cached : CachedElevation) : AdminAuditEntry :=
  ⟨"admin.read-elevation.approved", true, request.canonicalChatId,
    [("method", .text request.input.method),
      ("adminKeyFingerprint", .text request.input.adminFingerprint),
      ("approvalId", .text cached.elevation.approvalId),
      ("expiresAt", .instant cached.elevation.expiresAt),
      ("approvalKeyFingerprint", .text cached.elevation.approvalKeyFingerprint),
      ("mode", .text "session-scoped")]⟩

/-! ## Errors -/

/-- `appendAudit` when the log cannot be written. -/
def auditFailed (action cause : String) : SignetError :=
  InternalError.create "Failed to write admin read elevation audit log"
    (some [("cause", .text cause), ("action", .text action)])

def approverMissing (method : String) : SignetError :=
  InternalError.create "Admin read elevation approver is not configured"
    (some [("method", .text method)])

def rollbackFailed (message : String) (notifyError rollbackError : SignetError) : SignetError :=
  InternalError.create message
    (some [("reason", .text notifyError.message),
      ("category", .text notifyError.category.text),
      ("rollbackReason", .text rollbackError.message),
      ("rollbackCategory", .text rollbackError.category.text)])

/-! ## Calls in flight -/

/-- For whom a disclosure is taken back. -/
inductive ExpiryCaller where
  /-- `expireCachedElevation`, for a request or for a timer. -/
  | expire (request : Option ElevationRequest)
  /-- An approval whose audit entry could not be written. -/
  | auditFailed (request : ElevationRequest) (error : SignetError)
deriving DecidableEq

/-- A call at one of its awaits.  `notified` are the chats a change was announced
for, none when there was nothing to announce. -/
inductive ElevationStage where
  | reuseAudit (request : ElevationRequest) (cached : CachedElevation)
  /-- `syncDisclosureExpiry` awaits its announcement. -/
  | expiryNotify (cached : CachedElevation) (caller : ExpiryCaller) (notified : List String)
  /-- `syncDisclosureExpiry` awaits the announcement of its rollback. -/
  | expiryRollback (cached : CachedElevation) (caller : ExpiryCaller) (error : SignetError)
      (notified : List String)
  | expiredAudit (cached : CachedElevation) (request : Option ElevationRequest)
      (disclosureResult : Except SignetError Unit)
  | expiryFailedAudit (cached : CachedElevation) (request : Option ElevationRequest)
      (error : SignetError)
  | authorize (request : ElevationRequest)
  | deniedAudit (request : ElevationRequest) (error : SignetError)
  | fingerprint (request : ElevationRequest)
  /-- `syncDisclosureApproval` awaits its announcement. -/
  | approvalNotify (request : ElevationRequest) (cached : CachedElevation)
      (notified : List String)
  /-- `syncDisclosureApproval` awaits the announcement of its rollback. -/
  | approvalRollback (request : ElevationRequest) (cached : CachedElevation)
      (error : SignetError) (notified : List String)
  | approvalFailedAudit (request : ElevationRequest) (cached : CachedElevation)
      (error : SignetError)
  | approvedAudit (request : ElevationRequest) (cached : CachedElevation)
deriving DecidableEq

/-- An approval: for whom it was given, and the elevation it was given as. -/
structure Approval where
  sessionKey : String
  chatId : String
  elevation : AdminReadElevation
deriving DecidableEq

structure ElevationState where
  cache : AssocMap String CachedElevation
  /-- `expirationTimers`, each with the elevation its callback expires. -/
  expirationTimers : AssocMap String CachedElevation
  disclosureStore : AdminReadDisclosureStore
  calls : AssocMap Nat ElevationStage
  /-- The approvals given so far. -/
  approvals : List Approval
  /-- The last reading of the clock. -/
  clock : Int

/-- What a step makes observable. -/
inductive ElevationObservation where
  | audited (entry : AdminAuditEntry)
  /-- `onDisclosureChanged` is called. -/
  | announced (chatIds : List String) (includeExpired : Bool)
  /-- A request that does not ask for an elevation is answered without one. -/
  | passed (input : ResolveAdminReadElevationInput)
  | resolved (request : ElevationRequest) (result : Except SignetError AdminReadElevation)
  /-- A timer's expiry has ended. -/
  | expired (cached : CachedElevation) (result : Except SignetError Unit)
deriving DecidableEq

/-- The state after a segment, and what the segment made observable. -/
abbrev ElevationTurn := ElevationState × List ElevationObservation

variable (deps : AdminReadElevationManagerDeps)

/-! ## Segments -/

def ElevationState.await (s : ElevationState) (call : Nat) (stage : ElevationStage) :
    ElevationState :=
  { s with calls := s.calls.set call stage }

def ElevationState.finish (s : ElevationState) (call : Nat) : ElevationState :=
  { s with calls := s.calls.delete call }

/-- `appendAudit`, up to its await. -/
def appendAudit (s : ElevationState) (call : Nat) (stage : ElevationStage)
    (entry : AdminAuditEntry) : ElevationTurn :=
  (s.await call stage, if deps.hasAuditLog then [.audited entry] else [])

/-- The chats of `notifyDisclosureChanged` for which the handler is called. -/
def announcedChats (chatIds : List String) : List String :=
  if deps.hasChangeHandler then chatIds else []

/-- What a call of `notifyDisclosureChanged` makes observable. -/
def notifyDisclosureChanged (chatIds : List String) (includeExpired : Bool) :
    List ElevationObservation :=
  if announcedChats deps chatIds = [] then []
  else [.announced (announcedChats deps chatIds) includeExpired]

def disclosureFor (cached : CachedElevation) : AdminReadDisclosure :=
  ⟨deps.disclosureActorId, cached.elevation.expiresAt⟩

/-- `clearExpirationTimer` -/
def clearExpirationTimer (s : ElevationState) (cacheKey : String) : ElevationState :=
  { s with expirationTimers := s.expirationTimers.delete cacheKey }

/-- The store after `disclosureStore.set` of an approval, with the changed chats. -/
def discloseApproval (now : Int) (store : AdminReadDisclosureStore) (cached : CachedElevation) :
    AdminReadDisclosureStore × List String :=
  if deps.hasDisclosureStore then
    store.set now [cached.chatId] cached.sessionKey (disclosureFor deps cached)
  else (store, [])

/-- The store after `disclosureStore.delete` for an elevation, with the changed
chats. -/
def withdrawDisclosure (now : Int) (store : AdminReadDisclosureStore)
    (cached : CachedElevation) : AdminReadDisclosureStore × List String :=
  if deps.hasDisclosureStore then store.delete now [cached.chatId] cached.sessionKey
  else (store, [])

/-- `syncDisclosureApproval`, up to its first await. -/
def syncDisclosureApproval (now : Int) (s : ElevationState) (call : Nat)
    (request : ElevationRequest) (cached : CachedElevation) : ElevationTurn :=
  let changed := discloseApproval deps now s.disclosureStore cached
  (({ s with disclosureStore := changed.1 } : ElevationState).await call
      (.approvalNotify request cached (announcedChats deps changed.2)),
    notifyDisclosureChanged deps changed.2 false)

/-- `syncDisclosureExpiry`, up to its first await. -/
def syncDisclosureExpiry (now : Int) (s : ElevationState) (call : Nat)
    (cached : CachedElevation) (caller : ExpiryCaller) : ElevationTurn :=
  let changed := withdrawDisclosure deps now s.disclosureStore cached
  (({ s with disclosureStore := changed.1 } : ElevationState).await call
      (.expiryNotify cached caller (announcedChats deps changed.2)),
    notifyDisclosureChanged deps changed.2 false)

/-- `expireCachedElevation`, up to its first await. -/
def expireCachedElevation (now : Int) (s : ElevationState) (call : Nat)
    (cached : CachedElevation) (request : Option ElevationRequest) : ElevationTurn :=
  let dropped := clearExpirationTimer { s with cache := s.cache.delete cached.key } cached.key
  syncDisclosureExpiry deps now dropped call cached (.expire request)

/-- `scheduleExpiration`: the timer of the key is replaced. -/
def scheduleExpiration (s : ElevationState) (cached : CachedElevation) : ElevationState :=
  let cleared := clearExpirationTimer s cached.key
  { cleared with expirationTimers := cleared.expirationTimers.set cached.key cached }

def askApprover (s : ElevationState) (call : Nat) (request : ElevationRequest) :
    ElevationTurn :=
  if deps.hasApprover then (s.await call (.authorize request), [])
  else (s.finish call, [.resolved request (.error (approverMissing request.input.method))])

/-- What a request asks for, or nothing when it does not ask for an elevation. -/
def elevationRequest (normalizeChatId : String → String)
    (input : ResolveAdminReadElevationInput) : Option ElevationRequest :=
  if isMessageReadMethod input.method && wantsDangerousMessageRead input.params then
    (resolveChatId input.params).map fun chatId => ⟨input, normalizeChatId chatId⟩
  else none

/-- `resolveForRequest`, up to its first await. -/
def resolveForRequest (now : Int) (s : ElevationState) (call : Nat)
    (normalizeChatId : String → String) (input : ResolveAdminReadElevationInput) :
    ElevationTurn :=
  match elevationRequest normalizeChatId input with
  | none => (s, [.passed input])
  | some request =>
    match s.cache.get (buildCacheKey input.sessionKey request.canonicalChatId) with
    | some cached =>
      if now < cached.elevation.expiresAt then
        appendAudit deps s call (.reuseAudit request cached)
          (reuseAudit request cached.elevation)
      else expireCachedElevation deps now s call cached (some request)
    | none => askApprover deps s call request

def mintElevation (now : Int) (request : ElevationRequest) (approvalId fingerprint : String) :
    CachedElevation :=
  { elevation :=
      { approvalId := approvalId
        scopeChatIds := [request.canonicalChatId]
        approvedAt := now
        expiresAt := now + deps.ttlMs
        approvalKeyFingerprint := fingerprint }
    chatId := request.canonicalChatId
    sessionKey := request.input.sessionKey }

/-! ## Going on after an await -/

inductive ElevationAnswer where
  /-- `auditLog.append`, with the cause of a failure. -/
  | audit (result : Except String Unit)
  /-- `onDisclosureChanged` -/
  | notify (result : Except SignetError Unit)
  /-- `approver.authorize` -/
  | authorize (result : Except SignetError Unit)
  /-- `approver.getApprovalFingerprint`, and the id drawn for the approval. -/
  | fingerprint (result : Except SignetError String) (approvalId : String)
deriving DecidableEq

/-- `syncDisclosureExpiry` has a result. -/
def expirySynced (s : ElevationState) (call : Nat) (cached : CachedElevation)
    (caller : ExpiryCaller) (result : Except SignetError Unit) : ElevationTurn :=
  match caller with
  | .expire request =>
    appendAudit deps s call (.expiredAudit cached request result) (expiredAudit request cached)
  | .auditFailed request auditError =>
    match result with
    | .error error => (s.finish call, [.resolved request (.error error)])
    | .ok () => (s.finish call, [.resolved request (.error auditError)])

/-- `expireCachedElevation` has a result: a request goes on to the approver, a timer
ends. -/
def expiryDone (s : ElevationState) (call : Nat) (cached : CachedElevation)
    (request : Option ElevationRequest) (result : Except SignetError Unit) : ElevationTurn :=
  match request, result with
  | some request, .ok () => askApprover deps s call request
  | some request, .error error => (s.finish call, [.resolved request (.error error)])
  | none, result => (s.finish call, [.expired cached result])

/-- `syncDisclosureApproval` has failed. -/
def approvalUnsynced (s : ElevationState) (call : Nat) (request : ElevationRequest)
    (cached : CachedElevation) (error : SignetError) : ElevationTurn :=
  appendAudit deps s call (.approvalFailedAudit request cached error)
    (approvalFailedAudit request cached error)

/-- The answer is one the await can have: nothing fails that was not called. -/
def answers : ElevationStage → ElevationAnswer → Bool
  | .reuseAudit .., .audit result | .expiredAudit .., .audit result
  | .expiryFailedAudit .., .audit result | .deniedAudit .., .audit result
  | .approvalFailedAudit .., .audit result | .approvedAudit .., .audit result =>
    deps.hasAuditLog || result.isOk
  | .expiryNotify _ _ notified, .notify result
  | .expiryRollback _ _ _ notified, .notify result
  | .approvalNotify _ _ notified, .notify result
  | .approvalRollback _ _ _ notified, .notify result => decide (notified ≠ []) || result.isOk
  | .authorize _, .authorize _ => true
  | .fingerprint _, .fingerprint .. => true
  | _, _ => false

/-- A call goes on with the answer to its await, up to its next await. -/
def resumeElevation (now : Int) (s : ElevationState) (call : Nat) :
    ElevationStage → ElevationAnswer → Option ElevationTurn
  | .reuseAudit request cached, .audit result =>
    match result with
    | .error cause => some (s.finish call,
        [.resolved request (.error (auditFailed (reuseAudit request cached.elevation).action
          cause))])
    | .ok () => some (s.finish call, [.resolved request (.ok cached.elevation)])
  | .expiryNotify cached caller _, .notify result =>
    match result with
    | .ok () => some (expirySynced deps s call cached caller (.ok ()))
    | .error error =>
      let restored := s.disclosureStore.restore [cached.chatId] cached.sessionKey
        (disclosureFor deps cached)
      some (({ s with disclosureStore := restored } : ElevationState).await call
          (.expiryRollback cached caller error (announcedChats deps [cached.chatId])),
        notifyDisclosureChanged deps [cached.chatId] true)
  | .expiryRollback cached caller error _, .notify result =>
    match result with
    | .ok () => some (expirySynced deps s call cached caller (.error error))
    | .error rollbackError => some (expirySynced deps s call cached caller
        (.error (rollbackFailed "Failed to roll back expired admin read disclosure refresh"
          error rollbackError)))
  | .expiredAudit cached request disclosureResult, .audit result =>
    match disclosureResult, result with
    | .error error, _ => some (appendAudit deps s call
        (.expiryFailedAudit cached request error) (expiryFailedAudit cached error))
    | .ok (), .error cause => some (expiryDone deps s call cached request
        (.error (auditFailed (expiredAudit request cached).action cause)))
    | .ok (), .ok () => some (expiryDone deps s call cached request (.ok ()))
  | .expiryFailedAudit cached request error, .audit result =>
    match result with
    | .error cause => some (expiryDone deps s call cached request
        (.error (auditFailed (expiryFailedAudit cached error).action cause)))
    | .ok () => some (expiryDone deps s call cached request (.error error))
  | .authorize request, .authorize result =>
    match result with
    | .error error => some (appendAudit deps s call (.deniedAudit request error)
        (deniedAudit request error))
    | .ok () => some (s.await call (.fingerprint request), [])
  | .deniedAudit request error, .audit result =>
    match result with
    | .error cause => some (s.finish call,
        [.resolved request (.error (auditFailed (deniedAudit request error).action cause))])
    | .ok () => some (s.finish call, [.resolved request (.error error)])
  | .fingerprint request, .fingerprint result approvalId =>
    match result with
    | .error error => some (s.finish call, [.resolved request (.error error)])
    | .ok fingerprint =>
      let next := mintElevation deps now request approvalId fingerprint
      let approved := { s with
        approvals := s.approvals ++ [⟨next.sessionKey, next.chatId, next.elevation⟩] }
      some (syncDisclosureApproval deps now approved call request next)
  | .approvalNotify request cached _, .notify result =>
    match result with
    | .ok () => some (appendAudit deps s call (.approvedAudit request cached)
        (approvedAudit request cached))
    | .error error =>
      let changed := withdrawDisclosure deps now s.disclosureStore cached
      some (({ s with disclosureStore := changed.1 } : ElevationState).await call
          (.approvalRollback request cached error (announcedChats deps changed.2)),
        notifyDisclosureChanged deps changed.2 false)
  | .approvalRollback request cached error _, .notify result =>
    match result with
    | .ok () => some (approvalUnsynced deps s call request cached error)
    | .error rollbackError => some (approvalUnsynced deps s call request cached
        (rollbackFailed "Failed to roll back admin read disclosure refresh" error
          rollbackError))
  | .approvalFailedAudit request cached error, .audit result =>
    match result with
    | .error cause => some (s.finish call, [.resolved request
        (.error (auditFailed (approvalFailedAudit request cached error).action cause))])
    | .ok () => some (s.finish call, [.resolved request (.error error)])
  | .approvedAudit request cached, .audit result =>
    match result with
    | .error cause => some (syncDisclosureExpiry deps now s call cached
        (.auditFailed request (auditFailed (approvedAudit request cached).action cause)))
    | .ok () =>
      let stored := scheduleExpiration
        { s with cache := s.cache.set (buildCacheKey request.input.sessionKey
            request.canonicalChatId) cached } cached
      some (stored.finish call, [.resolved request (.ok cached.elevation)])
  | _, _ => none

/-! ## The machine -/

/-- What happens next. -/
inductive ElevationEvent where
  /-- A request; `normalizeChatId` is the dependency as it answers at that time. -/
  | request (call : Nat) (normalizeChatId : String → String)
      (input : ResolveAdminReadElevationInput)
  | timer (call : Nat) (cacheKey : String)
  | answer (call : Nat) (answer : ElevationAnswer)

def ElevationEvent.call : ElevationEvent → Nat
  | .request call _ _ => call
  | .timer call _ => call
  | .answer call _ => call

/-- An event at a clock reading. -/
structure ElevationLabel where
  now : Int
  event : ElevationEvent

/-- One step, apart from the clock. -/
def elevationTurn (s : ElevationState) (now : Int) : ElevationEvent → Option ElevationTurn
  | .request call normalizeChatId input =>
    if (s.calls.get call).isSome then none
    else some (resolveForRequest deps now s call normalizeChatId input)
  | .timer call cacheKey =>
    if (s.calls.get call).isSome then none
    else (s.expirationTimers.get cacheKey).map fun cached =>
      expireCachedElevation deps now s call cached none
  | .answer call answer =>
    (s.calls.get call).bind fun stage =>
      if answers deps stage answer then resumeElevation deps now s call stage answer else none

def elevationStep (s : ElevationState) (label : ElevationLabel) : Option ElevationTurn :=
  elevationTurn deps { s with clock := label.now } label.now label.event

/-- The manager with any number of calls in flight, created at a clock reading. -/
def elevationMachine (start : Int) :
    Machine ElevationState ElevationLabel ElevationObservation where
  init := ⟨.empty, .empty, .empty, .empty, [], start⟩
  step := elevationStep deps

/-! ## Requests -/

/-- A request for elevated reads of a chat. -/
def readInput (sessionKey chatId : String) : ResolveAdminReadElevationInput :=
  { method := "message.list"
    params := (AssocMap.empty.set "dangerouslyAllowMessageRead" (.bool true)).set "chatId"
      (.string chatId)
    adminFingerprint := "fingerprint"
    sessionKey := sessionKey }

/-- A request that is approved, disclosed, audited and answered, from a time on. -/
def approveRead (now : Int) (call : Nat) (sessionKey chatId approvalId : String) :
    List ElevationLabel :=
  [⟨now, .request call (fun chatId => chatId) (readInput sessionKey chatId)⟩,
    ⟨now + 1, .answer call (.authorize (.ok ()))⟩,
    ⟨now + 2, .answer call (.fingerprint (.ok "key") approvalId)⟩,
    ⟨now + 3, .answer call (.notify (.ok ()))⟩, ⟨now + 4, .answer call (.audit (.ok ()))⟩]

/-- A request that is answered from the cache. -/
def reuseRead (now : Int) (call : Nat) (sessionKey chatId : String) : List ElevationLabel :=
  [⟨now, .request call (fun chatId => chatId) (readInput sessionKey chatId)⟩,
    ⟨now + 1, .answer call (.audit (.ok ()))⟩]

/-- The manager with all its dependencies, created at the epoch. -/
def sampleElevationMachine : Machine ElevationState ElevationLabel ElevationObservation :=
  elevationMachine {} 0

end Cli
end Signet
