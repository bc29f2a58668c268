import Signet.Kit.Arena
import Signet.Ws.ReplayState

/-!
# The websocket server

The whole server as a machine.  A call that awaits rests in `tasks`, an armed
timer in `timers`; any other step may be taken before a task goes on or a timer
fires.  Lookups, handlers and the digest answer in the label that resumes their
task; a rejected promise is the answer `none`.

The projection of a broadcast event reads the world outside the server (the
clock, the reveal state), so every step is given a world.

* `sendSequenced` — number an event, keep it for replay and send it.
* `handleAuthFrame`, `finishAuthLookup`, `finishHandshake` — the authentication,
  cut at its two awaits.
* `broadcastToCredential`, `invalidateCredential`, `finishInvalidation`.
* `serverStep` — one step of the server.
-/

namespace Signet
namespace Ws

open Kit Schemas Sessions

/-! ## State -/

inductive WsServerState where
  | idle
  | listening
  | draining
  | stopped
deriving DecidableEq, Repr

/-- An authentication that awaits the fingerprint of its token. -/
structure Handshake where
  conn : Nat
  authFrame : AuthFrame
  credential : CredentialRecord
  resume : Resume
deriving DecidableEq

/-- A call at one of its awaits. -/
inductive Task where
  | authLookup (conn : Nat) (authFrame : AuthFrame)
  | authFingerprint (handshake : Handshake)
  | requestLookup (conn : Nat) (frame : ClientFrame)
  | requestHandling (conn : Nat) (request : HarnessRequest) (credential : CredentialRecord)
  | requestResync (conn : Nat) (requestId : String) (response : RequestResponse)
  | heartbeatLookup (conn : Nat) (credentialId : String)
  | invalidation (credentialId : String) (generation : Nat)
  | stopDraining
  | stopFlushing (remaining : List Nat)
deriving DecidableEq

inductive Timer where
  | authTimeout (conn : Nat)
  | heartbeat (conn : Nat) (credentialId : String)
  | requestTimeout (conn : Nat) (requestId operation : String)
deriving DecidableEq

/-- A credential with invalidations in flight. -/
structure PendingInvalidation where
  refcount : Nat
  generation : Nat
  events : List Offered

structure Server (World : Type) where
  serverState : WsServerState
  connections : Arena Connection
  /-- The ids of the authenticated connections. -/
  registry : OrderedSet Nat
  credentialStates : AssocMap String Nat
  cells : Arena (CredentialReplayState World)
  pendingInvalidations : AssocMap String PendingInvalidation
  invalidationGen : Nat
  timers : Arena Timer
  tasks : Arena Task
  /-- Every event handed to `broadcast`, with its credential, oldest first, and
  every one whose broadcast loop has run; no function of the server reads them
  but for the ticket of the next one. -/
  offers : List (String × Offered)
  dispatched : List (String × Offered)

/-- The configuration and the dependencies of the server, and how the host
closes a socket: whether the close handler runs inside `ws.close`. -/
structure WsServerDeps (World : Type) where
  config : WsServerConfig
  projectEvent : Option (World → SignetEvent → CredentialRecord → Option SignetEvent)
  sha256Hex : String → String
  closesSynchronously : Bool

/-- The event a connection is sent for a broadcast event, if any. -/
def WsServerDeps.project {World : Type} (deps : WsServerDeps World) (world : World)
    (event : SignetEvent) (credential : CredentialRecord) : Option SignetEvent :=
  match deps.projectEvent with
  | some projectEvent => projectEvent world event credential
  | none => some event

/-- `fingerprintToken` -/
def WsServerDeps.fingerprintToken {World : Type} (deps : WsServerDeps World)
    (token : String) : String :=
  "sha256:" ++ deps.sha256Hex token

namespace Server

variable {World : Type}

/-- A server before it is started. -/
def create : Server World where
  serverState := .idle
  connections := .empty
  registry := .empty
  credentialStates := .empty
  cells := .empty
  pendingInvalidations := .empty
  invalidationGen := 0
  timers := .empty
  tasks := .empty
  offers := []
  dispatched := []

/-! ## Sockets, timers and tasks -/

/-- Read from the state of a connection. -/
def dataOf {α : Type} (s : Server World) (id : Nat) (f : ConnectionData → α) : Option α :=
  (s.connections.get id).map fun c => f c.data

def modifyConnection (s : Server World) (id : Nat) (f : Connection → Connection) : Server World :=
  { s with connections := s.connections.modify id f }

/-- Write the state of a connection. -/
def modifyData (s : Server World) (id : Nat) (f : ConnectionData → ConnectionData) :
    Server World :=
  s.modifyConnection id fun c => c.withData f

/-- `clearTimeout` and `clearInterval` -/
def clearTimer (s : Server World) (timer : Option Nat) : Server World :=
  match timer with
  | none => s
  | some ref => { s with timers := s.timers.free ref }

/-- `setTimeout` and `setInterval`; the timer gets the reference `s.timers.next`. -/
def arm (s : Server World) (timer : Timer) : Server World :=
  { s with timers := s.timers.alloc timer }

/-- Leave a call at an await. -/
def spawn (s : Server World) (task : Task) : Server World :=
  { s with tasks := s.tasks.alloc task }

/-- `sendJson` -/
def sendJson (s : Server World) (id : Nat) (frame : ServerFrame) : Server World :=
  s.modifyConnection id fun c => c.sendJson frame

def cacheRecord (s : Server World) (id : Nat) (record : CredentialRecord) : Server World :=
  s.modifyData id fun d => { d with credentialRecord := some record }

/-- Remove an entry of `inFlightRequests`. -/
def forgetRequest (s : Server World) (id : Nat) (requestId : String) : Server World :=
  s.modifyData id fun d => { d with inFlightRequests := d.inFlightRequests.delete requestId }

/-- `cleanupConnection` -/
def cleanupConnection (s : Server World) (id : Nat) : Server World :=
  match s.connections.get id with
  | none => s
  | some c =>
    let s := s.clearTimer c.data.authTimer
    let s := s.clearTimer c.data.heartbeatTimer
    let s := c.data.inFlightRequests.values.foldl
      (fun s (entry : InFlightRequest) => s.clearTimer (some entry.timer)) s
    let s := s.modifyData id fun d =>
      (transition
        { d with authTimer := none, heartbeatTimer := none, inFlightRequests := .empty }
        .closed).1
    { s with registry := s.registry.erase id }

def closeHandler (s : Server World) (id : Nat) : Server World :=
  (s.modifyConnection id fun c => { c with socket := { c.socket with state := .closed } })
    |>.cleanupConnection id

/-- `ws.close` -/
def close (deps : WsServerDeps World) (s : Server World) (id : Nat) (code : WsCloseCode) :
    Server World :=
  match s.connections.get id with
  | none => s
  | some c =>
    if c.socket.state ≠ .open then s
    else
      let s := s.modifyConnection id fun c =>
        { c with socket := { c.socket with state := .closing code } }
      if deps.closesSynchronously then s.closeHandler id else s

/-- `stopHeartbeat` -/
def stopHeartbeat (s : Server World) (id : Nat) : Server World :=
  match s.connections.get id with
  | none => s
  | some c =>
    (s.clearTimer c.data.heartbeatTimer).modifyData id fun d => { d with heartbeatTimer := none }

/-- `startHeartbeat` -/
def startHeartbeat (s : Server World) (id : Nat) : Server World :=
  match (s.connections.get id).bind fun c => c.data.credentialRecord with
  | none => s
  | some credentialRecord =>
    (s.arm (.heartbeat id credentialRecord.credentialId)).modifyData id fun d =>
      { d with heartbeatTimer := some s.timers.next }

/-- A credential that is gone or no longer active closes the connection and its
heartbeat. -/
def closeFor (deps : WsServerDeps World) (s : Server World) (id : Nat) (code : WsCloseCode) :
    Server World :=
  (s.close deps id code).stopHeartbeat id

/-! ## Sequenced frames -/

def replayState (s : Server World) (id : Nat) : Option (Nat × CredentialReplayState World) :=
  match (s.connections.get id).bind fun c => c.data.credentialReplayState with
  | none => none
  | some ref => (s.cells.get ref).map fun state => (ref, state)

def checkBackpressure (deps : WsServerDeps World) (s : Server World) (id : Nat) :
    Server World :=
  match s.connections.get id with
  | none => s
  | some c =>
    match c.data.backpressure.state with
    | .exceeded => s.close deps id .backpressure
    | .ok => s
    | .warning =>
      if c.data.backpressure.notified then s
      else
        let s := s.modifyData id fun d => { d with backpressure := d.backpressure.markNotified }
        let s := s.sendJson id
          (.backpressure c.data.backpressure.depth deps.config.sendBufferHardLimit)
        -- the warning itself may push the connection over the limit
        if s.dataOf id (fun d => d.backpressure.state) = some .exceeded then
          s.close deps id .backpressure
        else s

/-- Number an event for the attached replay state and put its frame on the socket. -/
def sequenceAndSend (s : Server World) (id ref : Nat) (state : CredentialReplayState World)
    (event : SignetEvent) (origin : Origin World) : Server World :=
  let sequenced := sequenceEvent state event origin
  { s with cells := s.cells.modify ref fun _ => sequenced.1 }
    |>.sendJson id (.sequenced sequenced.2)

/-- `sendSequenced` -/
def sendSequenced (deps : WsServerDeps World) (s : Server World) (id : Nat)
    (event : SignetEvent) (origin : Origin World) : Server World :=
  match s.replayState id with
  | none => s
  | some (ref, state) => (s.sequenceAndSend id ref state event origin).checkBackpressure deps id

/-! ## Heartbeat -/

/-- The interval callback of the heartbeat, up to its lookup. -/
def heartbeatTick (deps : WsServerDeps World) (now : Int) (s : Server World) (id : Nat)
    (capturedId : String) : Server World :=
  match s.connections.get id with
  | none => s
  | some c =>
    if c.data.phase ≠ .active then s
    else
      let deadThresholdMs : Nat :=
        deps.config.missedHeartbeatsBeforeDead * deps.config.heartbeatIntervalMs
      if now - c.data.lastClientActivity > deadThresholdMs then s.close deps id .deadConnection
      else s.spawn (.heartbeatLookup id
        ((c.data.credentialRecord.map (·.credentialId)).getD capturedId))

/-- The interval callback of the heartbeat, after its lookup. -/
def finishHeartbeat (deps : WsServerDeps World) (now : Int) (s : Server World) (id : Nat)
    (currentCredentialId : String) (result : Except SignetError CredentialRecord) :
    Server World :=
  match result with
  | .error _ => s.closeFor deps id .credentialRevoked
  | .ok fresh =>
    let s := s.cacheRecord id fresh
    if fresh.status ≠ .active then s.closeFor deps id (closeCodeOf fresh.status)
    else s.sendSequenced deps id (.heartbeat currentCredentialId now) .heartbeat

/-! ## Authentication -/

/-- `getOrCreateCredentialState`: afterwards the credential has a state, and this
is its reference. -/
def getOrCreateCredentialState (deps : WsServerDeps World) (s : Server World)
    (credentialId : String) : Server World × Nat :=
  match s.credentialStates.get credentialId with
  | some ref => (s, ref)
  | none =>
    ({ s with
        cells := s.cells.alloc (.create deps.config credentialId)
        credentialStates := s.credentialStates.set credentialId s.cells.next },
      s.cells.next)

/-- `handleAuthFrame`, up to the token lookup. -/
def handleAuthFrame (deps : WsServerDeps World) (s : Server World) (id : Nat)
    (frame : ClientFrame) : Server World :=
  match s.connections.get id with
  | none => s
  | some c =>
    if c.data.phase ≠ .authenticating then s
    else
      let s := (s.clearTimer c.data.authTimer).modifyData id fun d => { d with authTimer := none }
      match frame with
      | .auth authFrame _ => s.spawn (.authLookup id authFrame)
      | _ =>
        (s.sendJson id (.authError .protocolError "Invalid auth frame")).close deps id
          .protocolError

/-- Cache the credential of an authentication and enter the active phase. -/
def activate (credential : CredentialRecord) (d : ConnectionData) : ConnectionData :=
  (transition
    { d with
      credentialRecord := some credential
      credentialId := some credential.credentialId
      operatorId := some credential.operatorId }
    .active).1

/-- The authenticated connection: cached credential, replay state, registration,
and the frames to replay. -/
def beginHandshake (deps : WsServerDeps World) (s : Server World) (id : Nat)
    (authFrame : AuthFrame) (credential : CredentialRecord) : Server World :=
  let s := s.modifyData id (activate credential)
  let created := s.getOrCreateCredentialState deps credential.credentialId
  let s := created.1.modifyData id fun d => { d with credentialReplayState := some created.2 }
  let s := { s with registry := s.registry.add id }
  let resume :=
    match s.cells.get created.2 with
    | some state => resumeFrom state authFrame.lastSeenSeq
    | none => ⟨none, false, []⟩
  s.spawn (.authFingerprint ⟨id, authFrame, credential, resume⟩)

/-- `handleAuthFrame`, from the token lookup to the fingerprint. -/
def finishAuthLookup (deps : WsServerDeps World) (s : Server World) (id : Nat)
    (authFrame : AuthFrame) (result : Except SignetError CredentialRecord) : Server World :=
  match s.connections.get id, handleAuth result with
  | none, _ => s
  | some _, .error error =>
    (s.sendJson id (.authError .authFailed error.message)).close deps id .authFailed
  | some _, .ok credential => s.beginHandshake deps id authFrame credential

/-- Put the replay frames on the socket, oldest first. -/
def sendReplay (s : Server World) (id : Nat) (frames : List SequencedFrame) : Server World :=
  frames.foldl (fun s frame => s.sendJson id (.sequenced frame)) s

/-- `handleAuthFrame`, after the fingerprint. -/
def finishHandshake (deps : WsServerDeps World) (now : Int) (s : Server World)
    (handshake : Handshake) : Server World :=
  let id := handshake.conn
  let credential := handshake.credential
  let token : CredentialToken :=
    { credentialId := credential.credentialId
      operatorId := credential.operatorId
      fingerprint := deps.fingerprintToken handshake.authFrame.token
      issuedAt := credential.issuedAt
      expiresAt := credential.expiresAt }
  let s := s.sendJson id
    (.authenticated id token credential.effectiveScopes handshake.resume.resumedFromSeq)
  let s :=
    if handshake.resume.needsRecovery then
      s.sendSequenced deps id (.signetRecoveryComplete now) .recovery
    else s.sendReplay id handshake.resume.replayFrames
  s.startHeartbeat id

/-! ## Requests -/

/-- `handleRequestFrame`, up to the fresh lookup. -/
def handleRequestFrame (deps : WsServerDeps World) (s : Server World) (id : Nat)
    (frame : ClientFrame) : Server World :=
  match (s.connections.get id).bind fun c => c.data.credentialRecord with
  | none => s.close deps id .protocolError
  | some _ => s.spawn (.requestLookup id frame)

/-- A frame that is no request is answered under its request id, if it has one. -/
def rejectFrame (deps : WsServerDeps World) (s : Server World) (id : Nat)
    (maybeId : Option String) : Server World :=
  match maybeId with
  | some requestId =>
    s.sendJson id (.response (.failed requestId
      ⟨1000, .validation, "Invalid request frame", none⟩))
  | none => s.close deps id .protocolError

/-- Start the timeout of a request and hand it to its handler. -/
def acceptRequest (now : Int) (s : Server World) (id : Nat) (request : HarnessRequest)
    (credential : CredentialRecord) : Server World :=
  let timer := s.timers.next
  (s.arm (.requestTimeout id request.requestId request.typeName)).modifyData id (fun d =>
      { d with inFlightRequests := d.inFlightRequests.set request.requestId ⟨timer, now⟩ })
    |>.spawn (.requestHandling id request credential)

/-- `handleRequestFrame`, from the fresh lookup to the handler. -/
def finishRequestLookup (deps : WsServerDeps World) (now : Int) (s : Server World) (id : Nat)
    (frame : ClientFrame) (result : Except SignetError CredentialRecord) : Server World :=
  match result with
  | .error _ => s.closeFor deps id .credentialRevoked
  | .ok credential =>
    let s := s.cacheRecord id credential
    if credential.status ≠ .active then s.closeFor deps id (closeCodeOf credential.status)
    else
      match frame with
      | .request request => s.acceptRequest now id request credential
      | .malformed maybeId => s.rejectFrame deps id maybeId
      | .auth _ maybeId => s.rejectFrame deps id maybeId

/-- Answer a request that is still in flight. -/
def completeRequest (s : Server World) (id : Nat) (requestId : String)
    (response : RequestResponse) : Server World :=
  match (s.connections.get id).bind fun c => c.data.inFlightRequests.get requestId with
  | none => s
  | some inflight =>
    (s.clearTimer (some inflight.timer)).forgetRequest id requestId
      |>.sendJson id (.response response)

/-- The response to a request whose handling has thrown. -/
def internalErrorResponse (requestId : String) : RequestResponse :=
  .failed requestId ⟨1400, .internal, "Internal error", none⟩

/-- A request of this type may have changed the credential. -/
def mutatesCredential (request : HarnessRequest) : Bool :=
  match request.body with
  | .updateScopes .. => true
  | .revealContent .. => true
  | _ => false

/-- `handleRequestFrame`, after the handler. -/
def finishHandling (s : Server World) (id : Nat) (request : HarnessRequest)
    (result : Option (Except SignetError Json)) : Server World :=
  match result with
  | none => s.completeRequest id request.requestId (internalErrorResponse request.requestId)
  | some result =>
    let response := routeRequest request result
    if mutatesCredential request then s.spawn (.requestResync id request.requestId response)
    else s.completeRequest id request.requestId response

/-- `handleRequestFrame`, after the lookup that follows a mutating request. -/
def finishResync (s : Server World) (id : Nat) (requestId : String) (response : RequestResponse)
    (result : Option (Except SignetError CredentialRecord)) : Server World :=
  match result with
  | none => s.completeRequest id requestId (internalErrorResponse requestId)
  | some (.error _) => s.completeRequest id requestId response
  | some (.ok fresh) => (s.cacheRecord id fresh).completeRequest id requestId response

/-! ## Broadcasts and invalidations -/

/-- `registry.getByCredentialId` -/
def getByCredentialId (s : Server World) (credentialId : String) : List Nat :=
  s.registry.items.filter fun id =>
    (s.connections.get id).any fun c => decide (c.data.credentialId = some credentialId)

/-- The event a connection is sent for a broadcast, and the cached record that
lets it through. -/
def projectFor (deps : WsServerDeps World) (world : World) (s : Server World)
    (event : SignetEvent) (id : Nat) : Option (CredentialRecord × SignetEvent) :=
  match s.connections.get id with
  | none => none
  | some c =>
    if c.data.phase ≠ .active then none
    else
      match c.data.credentialRecord with
      | none => none
      | some credential =>
        -- a non-active credential is closed on its next request
        if credential.status ≠ .active then none
        else (deps.project world event credential).map fun projected => (credential, projected)

/-- One turn of the broadcast loop. -/
def broadcastTo (deps : WsServerDeps World) (world : World) (credentialId : String)
    (offered : Offered) (s : Server World) (id : Nat) : Server World :=
  match s.projectFor deps world offered.event id with
  | none => s
  | some (credential, projected) =>
    s.sendSequenced deps id projected (.broadcast credentialId offered credential world)

/-- `broadcastToCredential` -/
def broadcastToCredential (deps : WsServerDeps World) (world : World) (s : Server World)
    (credentialId : String) (offered : Offered) : Server World :=
  match s.pendingInvalidations.get credentialId with
  | some pending =>
    let pending := { pending with events := pending.events ++ [offered] }
    { s with pendingInvalidations := s.pendingInvalidations.set credentialId pending }
  | none =>
    (s.getByCredentialId credentialId).foldl (broadcastTo deps world credentialId offered)
      { s with dispatched := s.dispatched ++ [(credentialId, offered)] }

/-- `broadcast` -/
def broadcast (deps : WsServerDeps World) (world : World) (s : Server World)
    (credentialId : String) (event : SignetEvent) : Server World :=
  let offered : Offered := ⟨s.offers.length, event⟩
  { s with offers := s.offers ++ [(credentialId, offered)] }
    |>.broadcastToCredential deps world credentialId offered

/-- `invalidateCredential`, up to its lookup. -/
def invalidateCredential (s : Server World) (credentialId : String) : Server World :=
  let myGen := s.invalidationGen + 1
  let pending :=
    match s.pendingInvalidations.get credentialId with
    | some existing =>
      { existing with refcount := existing.refcount + 1, generation := myGen }
    | none => ⟨1, myGen, []⟩
  { s with
    invalidationGen := myGen
    pendingInvalidations := s.pendingInvalidations.set credentialId pending }
    |>.spawn (.invalidation credentialId myGen)

/-- One turn of the refresh loop. -/
def refreshConnection (deps : WsServerDeps World) (result : Except SignetError CredentialRecord)
    (s : Server World) (id : Nat) : Server World :=
  match s.connections.get id with
  | none => s
  | some c =>
    if c.data.phase ≠ .active then s
    else
      match result with
      | .error _ => s.closeFor deps id .credentialRevoked
      | .ok fresh =>
        let s := s.cacheRecord id fresh
        if fresh.status ≠ .active then s.closeFor deps id (closeCodeOf fresh.status) else s

/-- The refresh of the cached records: only the latest invalidation writes. -/
def refreshCredential (deps : WsServerDeps World) (s : Server World) (credentialId : String)
    (myGen : Nat) (result : Option (Except SignetError CredentialRecord)) : Server World :=
  match result, s.pendingInvalidations.get credentialId with
  | some result, some entry =>
    if entry.generation ≠ myGen then s
    else (s.getByCredentialId credentialId).foldl (refreshConnection deps result) s
  | _, _ => s

/-- The end of an invalidation: the last one drains the queued events. -/
def releaseInvalidation (deps : WsServerDeps World) (world : World) (s : Server World)
    (credentialId : String) : Server World :=
  match s.pendingInvalidations.get credentialId with
  | none => s
  | some entry =>
    if entry.refcount - 1 ≤ 0 then
      entry.events.foldl (fun s offered => s.broadcastToCredential deps world credentialId offered)
        { s with pendingInvalidations := s.pendingInvalidations.delete credentialId }
    else
      let entry := { entry with refcount := entry.refcount - 1 }
      { s with pendingInvalidations := s.pendingInvalidations.set credentialId entry }

/-- `invalidateCredential`, after its lookup. -/
def finishInvalidation (deps : WsServerDeps World) (world : World) (s : Server World)
    (credentialId : String) (myGen : Nat)
    (result : Option (Except SignetError CredentialRecord)) : Server World :=
  (s.refreshCredential deps credentialId myGen result).releaseInvalidation deps world credentialId

/-! ## Start and stop -/

/-- The shutdown notice of one connection. -/
def announceShutdown (deps : WsServerDeps World) (s : Server World) (id : Nat) : Server World :=
  match s.connections.get id with
  | none => s
  | some c =>
    if c.data.phase ≠ .active then s
    else
      match c.data.credentialRecord with
      | none => s
      | some record =>
        (s.sendSequenced deps id (.credentialExpired record.credentialId "signet_shutdown")
          .shutdown).modifyData id fun d => (transition d .draining).1

/-- `stop`, up to the wait for requests in flight. -/
def stop (deps : WsServerDeps World) (s : Server World) : Server World :=
  s.registry.items.foldl (announceShutdown deps) { s with serverState := .draining }
    |>.spawn .stopDraining

/-- `stop`, from the wait for requests to the wait for close frames. -/
def finishDraining (deps : WsServerDeps World) (s : Server World) : Server World :=
  (s.registry.items.foldl (fun s id => s.close deps id .goingAway) s)
    |>.spawn (.stopFlushing s.registry.items)

/-- `stop`, after the close frames. -/
def finishFlushing (s : Server World) (remaining : List Nat) : Server World :=
  let s := remaining.foldl cleanupConnection s
  { s with credentialStates := .empty, serverState := .stopped }

/-! ## Socket handlers -/

/-- The `open` handler. -/
def onOpen (deps : WsServerDeps World) (now : Int) (s : Server World) : Server World :=
  let id := s.connections.next
  let data := createConnectionState now deps.config.sendBufferSoftLimit
    deps.config.sendBufferHardLimit
  let s := { s with connections := s.connections.alloc { data := data } }
  if s.serverState = .draining ∨ s.serverState = .stopped then s.close deps id .goingAway
  else
    (s.arm (.authTimeout id)).modifyData id fun d => { d with authTimer := some s.timers.next }

/-- Count a message in its rate window, and say whether it exceeds the limit. -/
def countMessage (config : WsServerConfig) (now : Int) (d : ConnectionData) :
    ConnectionData × Bool :=
  match config.rateLimitMaxMessages with
  | none => (d, false)
  | some rateLimitMaxMessages =>
    if now - d.messageWindowStart ≥ config.rateLimitWindowMs then
      ({ d with messageCount := 1, messageWindowStart := now }, false)
    else
      ({ d with messageCount := d.messageCount + 1 },
        decide (d.messageCount + 1 > rateLimitMaxMessages))

/-- The `message` handler. -/
def onMessage (deps : WsServerDeps World) (now : Int) (s : Server World) (id : Nat)
    (message : ClientMessage) : Server World :=
  match s.connections.get id with
  | none => s
  | some c =>
    if c.data.phase = .closed then s
    else
      let counted := countMessage deps.config now { c.data with lastClientActivity := now }
      let s := s.modifyData id fun _ => counted.1
      if counted.2 then s.close deps id .rateLimited
      else
        match message with
        | .invalidJson => s.close deps id .protocolError
        | .json frame =>
          match c.data.phase with
          | .authenticating => s.handleAuthFrame deps id frame
          | .active => s.handleRequestFrame deps id frame
          -- draining: ignore new requests
          | _ => s

/-- A timer fires; the heartbeat is an interval and stays armed. -/
def onTimer (deps : WsServerDeps World) (now : Int) (s : Server World) (ref : Nat)
    (timer : Timer) : Server World :=
  match timer with
  | .heartbeat id capturedId => s.heartbeatTick deps now id capturedId
  | .authTimeout id =>
    let s := s.clearTimer (some ref)
    if s.dataOf id ConnectionData.phase = some .authenticating then
      (s.sendJson id (.authError .authTimeout "Auth timeout")).close deps id .authTimeout
    else s
  | .requestTimeout id requestId operation =>
    (s.clearTimer (some ref)).forgetRequest id requestId
      |>.sendJson id (.response (.failed requestId
        ⟨1500, .timeout, "Request timed out",
          some [("operation", .text operation),
            ("timeoutMs", .number deps.config.requestTimeoutMs)]⟩))

end Server

/-! ## The machine -/

/-- What happens next. -/
inductive ServerEvent where
  | start (failure : Option String)
  | «open»
  | message (conn : Nat) (message : ClientMessage)
  | closed (conn : Nat)
  | congest (conn : Nat)
  | drain (conn : Nat)
  | timer (ref : Nat)
  | tokenLookedUp (task : Nat) (result : Option (Except SignetError CredentialRecord))
  | fingerprinted (task : Nat)
  | credentialLookedUp (task : Nat) (result : Option (Except SignetError CredentialRecord))
  | handled (task : Nat) (result : Option (Except SignetError Json))
  | broadcast (credentialId : String) (event : SignetEvent)
  | invalidate (credentialId : String)
  | stop
  | drained (task : Nat)
  | flushed (task : Nat)

/-- An event at a clock reading, in a world. -/
structure ServerLabel (World : Type) where
  now : Int
  world : World
  event : ServerEvent

/-- What `start` and `stop` return. -/
abbrev Returned := Except SignetError Unit

variable {World : Type}

/-- The connection has a socket whose close handler has not run. -/
def Server.isConnected (s : Server World) (id : Nat) : Bool :=
  (s.connections.get id).any fun c => decide (c.socket.state ≠ .closed)

/-- The server without a task that goes on. -/
def Server.take (s : Server World) (task : Nat) : Server World :=
  { s with tasks := s.tasks.free task }

/-- A credential lookup has answered; the calls that do not catch end when it is
rejected. -/
def Server.resumeLookup (deps : WsServerDeps World) (now : Int) (world : World)
    (s : Server World) (task : Task) (result : Option (Except SignetError CredentialRecord)) :
    Option (Server World) :=
  match task, result with
  | .requestLookup id frame, some result => some (s.finishRequestLookup deps now id frame result)
  | .requestLookup _ _, none => some s
  | .heartbeatLookup id credentialId, some result =>
    some (s.finishHeartbeat deps now id credentialId result)
  | .heartbeatLookup _ _, none => some s
  | .requestResync id requestId response, result =>
    some (s.finishResync id requestId response result)
  | .invalidation credentialId myGen, result =>
    some (s.finishInvalidation deps world credentialId myGen result)
  | _, _ => none

/-- The server after a step that returns nothing; `none` when it is not enabled. -/
def quietStep (deps : WsServerDeps World) (s : Server World) (label : ServerLabel World) :
    Option (Server World) :=
  match label.event with
  | .open => if s.serverState = .idle then none else some (s.onOpen deps label.now)
  | .message id message =>
    if s.isConnected id then some (s.onMessage deps label.now id message) else none
  | .closed id => if s.isConnected id then some (s.closeHandler id) else none
  | .congest id =>
    some (s.modifyConnection id fun c => { c with socket := { c.socket with congested := true } })
  | .drain id =>
    some (s.modifyConnection id fun c =>
      { data := { c.data with backpressure := c.data.backpressure.reset }
        socket := { c.socket with congested := false } })
  | .timer ref => (s.timers.get ref).map fun timer => s.onTimer deps label.now ref timer
  | .tokenLookedUp task result =>
    match s.tasks.get task with
    | some (.authLookup id authFrame) =>
      match result with
      | none => some (s.take task)
      | some result => some ((s.take task).finishAuthLookup deps id authFrame result)
    | _ => none
  | .fingerprinted task =>
    match s.tasks.get task with
    | some (.authFingerprint handshake) =>
      some ((s.take task).finishHandshake deps label.now handshake)
    | _ => none
  | .credentialLookedUp task result =>
    match s.tasks.get task with
    | some pending => (s.take task).resumeLookup deps label.now label.world pending result
    | none => none
  | .handled task result =>
    match s.tasks.get task with
    | some (.requestHandling id request _) =>
      some ((s.take task).finishHandling id request result)
    | _ => none
  | .broadcast credentialId event =>
    some (s.broadcast deps label.world credentialId event)
  | .invalidate credentialId => some (s.invalidateCredential credentialId)
  | .drained task =>
    match s.tasks.get task with
    | some .stopDraining => some ((s.take task).finishDraining deps)
    | _ => none
  | _ => none

/-- One step. -/
def serverStep (deps : WsServerDeps World) (s : Server World) (label : ServerLabel World) :
    Option (Server World × List Returned) :=
  match label.event with
  | .start failure =>
    if s.serverState ≠ .idle then
      some (s, [.error (InternalError.create "Server is not in idle state")])
    else
      match failure with
      | some message =>
        some (s, [.error (InternalError.create ("Failed to start server: " ++ message))])
      | none => some ({ s with serverState := .listening }, [.ok ()])
  | .stop =>
    if s.serverState ≠ .listening then
      some (s, [.error (InternalError.create "Server is not listening")])
    else some (s.stop deps, [])
  | .flushed task =>
    match s.tasks.get task with
    | some (.stopFlushing remaining) => some ((s.take task).finishFlushing remaining, [.ok ()])
    | _ => none
  | _ => (quietStep deps s label).map fun s' => (s', [])

/-- The server under every order of events. -/
def serverMachine (deps : WsServerDeps World) :
    Machine (Server World) (ServerLabel World) Returned where
  init := .create
  step := serverStep deps

/-- The steps a run of the server has taken. -/
abbrev ServerHistory (World : Type) :=
  List (Occurrence (Server World) (ServerLabel World) Returned)

end Ws
end Signet
