import Signet.Kit.Arena
import Signet.Kit.AsyncQueue
import Signet.Kit.Machine
import Signet.Kit.Turn
import Signet.Sdk.RequestTracker

/-!
# The handler of the SDK

A client of the signet over a web socket: its state, the sockets it has made, the stream of
events, the heartbeat monitors and the requests.  A step is a call of one of its functions, an
event of a socket or a timer, in any order; a frame that is on its way still arrives after
`close`.  The listeners of states and errors are observers only, and how long a timer takes is
left to the order of the steps.

* `connectInternal`, `attemptReconnect`, `handleFrame`, `handleAuth` — the functions of the
  source.
* `handlerStep`, `handlerMachine` — the steps.
-/

namespace Signet
namespace Sdk

open Kit Schemas

/-! ## Reconnection -/

/-- `NON_RETRYABLE_CODES`: auth failures that won't succeed on retry. -/
def nonRetryableCodes : List Nat := [4001, 4002, 4004, 4009]

def isRetryable (code : Nat) : Bool := !nonRetryableCodes.contains code

structure ReconnectOptions where
  enabled : Bool
  maxAttempts : Nat
deriving DecidableEq, Repr

structure SignetHandlerConfig where
  url : String
  token : String
  reconnect : ReconnectOptions
  requestTimeoutMs : Nat
deriving DecidableEq, Repr

/-- `exhausted`; a limit of zero is none. -/
def ReconnectOptions.exhausted (config : ReconnectOptions) (attempt : Nat) : Bool :=
  if config.maxAttempts = 0 then false else decide (config.maxAttempts ≤ attempt)

/-! ## The state -/

inductive HandlerState where
  | disconnected
  | connecting
  | authenticating
  | connected
  | reconnecting
  | closed
deriving DecidableEq, Repr

/-- Taken over from the authenticated frame, unchecked. -/
structure CredentialInfo where
  connectionId : Option Json
  credentialId : Option Json
  operatorId : Option Json
  scopes : Option Json
  expiresAt : Option Json
deriving DecidableEq

/-- A web socket, with what the listeners of `connectInternal` keep for it. -/
structure Socket where
  /-- The call of `connect` it was made for; a reconnect has none. -/
  opener : Option Nat
  opened : Bool
  closeRequested : Bool
  closed : Bool
  authHandled : Bool
  authTimeout : Bool
  resolved : Bool
deriving DecidableEq, Repr

/-- A socket that has just been made. -/
def Socket.fresh (opener : Option Nat) : Socket := ⟨opener, false, false, false, false, true, false⟩

/-- A heartbeat monitor: whether it has its callback, and whether its timer is armed. -/
structure HeartbeatMonitor where
  deadCallback : Bool
  timer : Bool
deriving DecidableEq, Repr

/-- The variables of `createSignetHandler`. -/
structure SignetHandler where
  state : HandlerState
  ws : Option Nat
  sockets : Arena Socket
  credentialInfo : Option CredentialInfo
  lastSeenSeq : Option Json
  /-- The stream that `events` gives. -/
  eventStream : AsyncQueue Json
  requestTracker : RequestTracker
  heartbeatMonitor : Option Nat
  monitors : Arena HeartbeatMonitor
  /-- The attempts of the reconnection tracker. -/
  attempt : Nat
  reconnectTimers : Nat
  /-- How many reconnects have thrown and not been caught yet. -/
  rejections : Nat
  /-- How many calls of `connect` there have been. -/
  connects : Nat
  requests : Nat

def createSignetHandler : SignetHandler :=
  ⟨.disconnected, none, .empty, none, none, .empty, createRequestTracker, none, .empty, 0, 0, 0,
    0, 0⟩

/-- What a step lets its caller, a listener or a socket see. -/
inductive HandlerObservation where
  | stateChanged (new prev : HandlerState)
  | errorEmitted (error : SignetError)
  | socketCreated (socket : Nat) (url : String)
  | socketClosing (socket : Nat) (code : Option Nat) (reason : String)
  | sent (socket : Nat) (frame : Json)
  /-- A call of `connect` is resolved. -/
  | connected (call : Nat) (result : Except SignetError Unit)
  /-- A call of `connect` rejects: the socket could not be made. -/
  | connectThrew (call : Nat)
  | disconnected
  /-- A call of `next` is answered. -/
  | answered (call : Nat) (event : Option Json)
  | requestSettled (request : Nat) (result : RequestResult)
  /-- A request rejects: its socket is not open yet. -/
  | requestThrew (request : Nat)
  /-- A listener throws. -/
  | threw

/-- A state and what has been seen on the way to it. -/
abbrev HandlerTurn := SignetHandler × List HandlerObservation

/-! ## The functions -/

def setState (s : SignetHandler) (newState : HandlerState) : HandlerTurn :=
  if s.state = newState then (s, [])
  else ({ s with state := newState }, [.stateChanged newState s.state])

def emitError (s : SignetHandler) (error : SignetError) : HandlerTurn := (s, [.errorEmitted error])

/-- `eventStream.push` -/
def pushEvent (s : SignetHandler) (event : Json) : HandlerTurn :=
  ({ s with eventStream := (s.eventStream.push event).1 },
    (s.eventStream.push event).2.map fun answer => .answered answer.1 answer.2)

/-- `eventStream.complete` -/
def completeStream (s : SignetHandler) : HandlerTurn :=
  ({ s with eventStream := s.eventStream.complete.1 },
    s.eventStream.complete.2.map fun answer => .answered answer.1 answer.2)

/-- `requestTracker.resolve` -/
def resolveRequest (s : SignetHandler) (requestId : String) (result : RequestResult) :
    HandlerTurn :=
  ({ s with requestTracker := (s.requestTracker.resolve requestId result).1 },
    (s.requestTracker.resolve requestId result).2.map fun settled =>
      .requestSettled settled.1 settled.2)

/-- `requestTracker.rejectAll` -/
def rejectAll (s : SignetHandler) (error : SignetError) : HandlerTurn :=
  ({ s with requestTracker := (s.requestTracker.rejectAll error).1 },
    (s.requestTracker.rejectAll error).2.map fun settled => .requestSettled settled.1 settled.2)

def closeSocket (s : SignetHandler) (socket : Nat) (code : Option Nat) (reason : String) :
    HandlerTurn :=
  ({ s with sockets := s.sockets.modify socket fun entry => { entry with closeRequested := true } },
    [.socketClosing socket code reason])

/-- The auth phase of a socket is over, and so is its timeout. -/
def settleAuth (s : SignetHandler) (socket : Nat) : SignetHandler :=
  { s with
    sockets := s.sockets.modify socket fun entry =>
      { entry with authHandled := true, authTimeout := false } }

/-- `clearTimeout(authTimeout)` -/
def clearAuthTimeout (s : SignetHandler) (socket : Nat) : SignetHandler :=
  { s with sockets := s.sockets.modify socket fun entry => { entry with authTimeout := false } }

/-- The promise of a socket is resolved, which only the first time has an effect; nobody looks
at the result of a reconnect. -/
def resolve (s : SignetHandler) (socket : Nat) (result : Except SignetError Unit) : HandlerTurn :=
  match s.sockets.get socket with
  | some ⟨some call, _, _, _, _, _, false⟩ =>
    ({ s with sockets := s.sockets.modify socket fun entry => { entry with resolved := true } },
      [.connected call result])
  | _ => (s, [])

/-- `heartbeatMonitor?.stop()` -/
def stopHeartbeat (s : SignetHandler) : SignetHandler :=
  match s.heartbeatMonitor with
  | some monitor => { s with monitors := s.monitors.modify monitor fun _ => ⟨false, false⟩ }
  | none => s

/-- `heartbeatMonitor?.recordHeartbeat()`: the timer starts again, unless the monitor has been
stopped. -/
def recordHeartbeat (s : SignetHandler) : SignetHandler :=
  match s.heartbeatMonitor with
  | some monitor =>
    { s with
      monitors := s.monitors.modify monitor fun entry => { entry with timer := entry.deadCallback } }
  | none => s

/-- A new monitor takes the place of the last one. -/
def startHeartbeat (s : SignetHandler) : SignetHandler :=
  { s with heartbeatMonitor := some s.monitors.next, monitors := s.monitors.alloc ⟨true, true⟩ }

def attemptReconnect (config : SignetHandlerConfig) (s : SignetHandler) : HandlerTurn :=
  if config.reconnect.enabled = false then andThen (setState s .disconnected) completeStream
  else if config.reconnect.exhausted s.attempt then
    andThen (emitError s (InternalError.create "Max reconnection attempts exceeded")) fun s =>
      andThen (setState s .disconnected) completeStream
  else
    andThen (setState s .reconnecting) fun s =>
      ({ s with attempt := s.attempt + 1, reconnectTimers := s.reconnectTimers + 1 }, [])

def handleConnectionDead (config : SignetHandlerConfig) (s : SignetHandler) : HandlerTurn :=
  match s.ws with
  | some socket => closeSocket (stopHeartbeat s) socket none ""
  | none => attemptReconnect config (stopHeartbeat s)

/-- A socket is made, or its constructor throws.  A reconnect that throws is caught later. -/
def connectInternal (config : SignetHandlerConfig) (s : SignetHandler) (opener : Option Nat)
    (opens : Bool) : HandlerTurn :=
  andThen (setState s .connecting) fun s =>
    if opens then
      ({ s with sockets := s.sockets.alloc (.fresh opener), ws := some s.sockets.next },
        [.socketCreated s.sockets.next config.url])
    else
      match opener with
      | some call => (s, [.connectThrew call])
      | none => ({ s with rejections := s.rejections + 1 }, [])

/-! ## Frames -/

def responseError (error : Json) : SignetError :=
  let message := match error.property "message" with
    | none | some .null => "Request failed"
    | some message => message.toText
  let context := match error.property "context" with
    | some (.object members) => some (members.map fun m => (m.1, .json m.2))
    | _ => none
  match error.property "category" with
  | some (.string "auth") => AuthError.create message context
  | some (.string "validation") => ValidationError.create "response" message
  | some (.string "not_found") => NotFoundError.create "resource" message
  | some (.string "permission") => PermissionError.create message context
  | _ => InternalError.create message context

/-- The text of a property in a message. -/
def textOrUndefined (value : Option Json) : String := (value.map Json.toText).getD "undefined"

def backpressureError (data : Json) : SignetError :=
  InternalError.create
    ("Backpressure: " ++ textOrUndefined (data.property "buffered") ++ "/" ++
      textOrUndefined (data.property "limit") ++ " buffered")
    (some (["buffered", "limit"].filterMap fun key =>
      (data.property key).map fun value => (key, .json value)))

/-- The response branch: a request that is pending under the id is settled. -/
def handleResponse (s : SignetHandler) (data : Json) : HandlerTurn :=
  match data.property "requestId" with
  | some (.string requestId) =>
    if ((data.property "ok").map Json.truthy).getD false then
      resolveRequest s requestId (.ok (data.property "data"))
    else
      resolveRequest s requestId
        (.error (responseError ((data.property "error").getD .null)))
  | _ => (s, [])

def handleSequenced (s : SignetHandler) (seq event : Json) : HandlerTurn :=
  let seen := { s with lastSeenSeq := some seq }
  if event.property "type" = some (.string "heartbeat") then pushEvent (recordHeartbeat seen) event
  else pushEvent seen event

/-- A frame after the auth phase; `none` is text that is not JSON. -/
def handleFrame (s : SignetHandler) (raw : Option Json) : HandlerTurn :=
  match raw with
  | none => emitError s (ValidationError.create "frame" "Invalid JSON from signet")
  | some (.object members) =>
    let data := Json.object members
    if data.property "type" = some (.string "backpressure") then
      emitError s (backpressureError data)
    else if (data.property "requestId").isSome && (data.property "ok").isSome then
      handleResponse s data
    else
      match data.property "seq", data.property "event" with
      | some seq, some event => handleSequenced s seq event
      | _, _ => (s, [])
  | some (.array _) => (s, [])
  -- `in` refuses what is no object, and `null` has no properties
  | some _ => (s, [.threw])

/-- What the first message turns out to be. -/
inductive AuthReading where
  | invalid
  | threw
  | authenticated (info : CredentialInfo)
  /-- An authenticated frame without a credential. -/
  | credentialMissing
  | authError (message : String) (code : Option Json)
  | other
deriving DecidableEq

def readAuth (raw : Option Json) : AuthReading :=
  match raw with
  | none => .invalid
  | some .null => .threw
  | some data =>
    if data.property "type" = some (.string "authenticated") then
      match data.property "credential" with
      | none | some .null => .credentialMissing
      | some credential =>
        .authenticated ⟨data.property "connectionId", credential.property "credentialId",
          credential.property "operatorId", data.property "effectiveScopes",
          credential.property "expiresAt"⟩
    else if data.property "type" = some (.string "auth_error") then
      .authError (((data.property "message").map Json.toText).getD "") (data.property "code")
    else .other

/-- A message in the auth phase.  One that is not JSON ends the phase only for the timeout. -/
def handleAuth (s : SignetHandler) (socket : Nat) (raw : Option Json) : HandlerTurn :=
  match readAuth raw with
  | .invalid =>
    andThen (setState (clearAuthTimeout s socket) .closed) fun s =>
      resolve s socket (.error (AuthError.create "Invalid auth response from signet"))
  | .authenticated info =>
    let started := startHeartbeat { settleAuth s socket with credentialInfo := some info }
    andThen (setState { started with attempt := 0 } .connected) fun s => resolve s socket (.ok ())
  | .credentialMissing => (settleAuth s socket, [.threw])
  | .authError message code =>
    andThen (setState (settleAuth s socket) .closed) fun s =>
      resolve s socket (.error (AuthError.create message
        (some (code.toList.map fun value => ("code", .json value)))))
  | .threw => (s, [.threw])
  | .other => (s, [])

/-! ## The listeners of a socket, and the timers -/

def onOpen (config : SignetHandlerConfig) (s : SignetHandler) (socket : Nat) : HandlerTurn :=
  andThen (setState s .authenticating) fun s =>
    (s, [.sent socket (.object [("type", .string "auth"), ("token", .string config.token),
      ("lastSeenSeq", s.lastSeenSeq.getD .null)])])

def onClose (config : SignetHandlerConfig) (s : SignetHandler) (socket : Nat) (entry : Socket)
    (code : Nat) (reason : String) : HandlerTurn :=
  let s := stopHeartbeat s
  if entry.authHandled = false then
    if isRetryable code = false then
      andThen (setState (settleAuth s socket) .closed) fun s =>
        resolve s socket (.error (AuthError.create
          (if reason = "" then "Connection closed during auth" else reason)))
    else
      andThen (rejectAll (settleAuth s socket) (InternalError.create "Connection lost")) fun s =>
        andThen (attemptReconnect config s) fun s =>
          resolve s socket (.error (InternalError.create "Connection lost during auth"))
  else
    andThen (rejectAll { s with ws := none } (InternalError.create "Connection closed")) fun s =>
      if isRetryable code = false then andThen (setState s .closed) completeStream
      else if s.state = .closed then (s, [])
      else attemptReconnect config s

def onAuthTimeout (config : SignetHandlerConfig) (s : SignetHandler) (socket : Nat) (entry : Socket) :
    HandlerTurn :=
  if entry.authHandled then (s, [])
  else
    andThen (closeSocket (settleAuth s socket) socket (some 4000) "Auth timeout") fun s =>
      andThen (setState s .closed) fun s =>
        resolve s socket (.error (InternalError.create
          ("Auth response not received within " ++ toString config.requestTimeoutMs ++ "ms")))

/-! ## The functions of the handler -/

def connect (config : SignetHandlerConfig) (s : SignetHandler) (opens : Bool) : HandlerTurn :=
  let call := s.connects
  let s := { s with connects := call + 1 }
  match s.state with
  | .closed =>
    (s, [.connected call
      (.error (ValidationError.create "state" "Handler is closed and cannot be reused"))])
  | .connected => (s, [.connected call (.ok ())])
  | .connecting => (s, [inProgress call "connecting"])
  | .authenticating => (s, [inProgress call "authenticating"])
  | .reconnecting => (s, [inProgress call "reconnecting"])
  | .disconnected => connectInternal config { s with eventStream := .empty } (some call) opens
where
  inProgress (call : Nat) (state : String) : HandlerObservation :=
    .connected call (.error (ValidationError.create "state"
      ("Connection already in progress (state: " ++ state ++ ")")))

/-- The present socket is closed and given up. -/
def closeCurrent (s : SignetHandler) : HandlerTurn :=
  match s.ws with
  | some socket =>
    andThen (closeSocket s socket (some 1000) "Client disconnect") fun s =>
      ({ s with ws := none }, [])
  | none => (s, [])

def disconnect (s : SignetHandler) : HandlerTurn :=
  andThen (rejectAll (stopHeartbeat s) (InternalError.create "Disconnecting")) fun s =>
    andThen (closeCurrent s) fun s =>
      andThen (setState s .closed) fun s =>
        andThen (completeStream s) fun s => (s, [.disconnected])

/-- `eventStream[Symbol.asyncIterator]().next()` -/
def nextEvent (s : SignetHandler) : HandlerTurn :=
  ({ s with eventStream := s.eventStream.next.1 },
    s.eventStream.next.2.map fun answer => .answered answer.1 answer.2)

/-- A request is tracked and sent.  Sending throws while the socket is still connecting, and
what has been tracked stays. -/
def sendRequest (s : SignetHandler) (requestId : String) (request : List (String × Json)) :
    HandlerTurn :=
  let call := s.requests
  let s := { s with requests := call + 1 }
  match s.state, s.ws with
  | .connected, some socket =>
    let tracked := { s with requestTracker := s.requestTracker.track call requestId }
    if (s.sockets.get socket).any fun entry => entry.opened || entry.closeRequested || entry.closed
    then
      (tracked, [.sent socket (.object (setEntry "requestId" (.string requestId) request))])
    else (tracked, [.requestThrew call])
  | _, _ =>
    (s, [.requestSettled call (.error (ValidationError.create "state" "Not connected to signet"))])

/-! ## The steps -/

inductive HandlerLabel where
  /-- `opens`: the socket can be made. -/
  | connect (opens : Bool)
  | disconnect
  | next
  | sendRequest (requestId : String) (request : List (String × Json))
  | socketOpen (socket : Nat)
  | socketMessage (socket : Nat) (raw : Option Json)
  | socketClose (socket : Nat) (code : Nat) (reason : String)
  | authTimeout (socket : Nat)
  | reconnectTimer (opens : Bool)
  /-- The rejection of a reconnect reaches its `catch`. -/
  | rejected
  | heartbeatDead (monitor : Nat)
  | requestTimeout (request : Nat)

/-- The socket opens once, if it has not been asked to close before. -/
def Socket.canOpen (entry : Socket) : Bool :=
  !entry.opened && !entry.closeRequested && !entry.closed

def Socket.canReceive (entry : Socket) : Bool := entry.opened && !entry.closed

/-- One step; `none` when the event cannot come in the state. -/
def handlerStep (config : SignetHandlerConfig) (s : SignetHandler) :
    HandlerLabel → Option HandlerTurn
  | .connect opens => some (connect config s opens)
  | .disconnect => some (disconnect s)
  | .next => some (nextEvent s)
  | .sendRequest requestId request => some (sendRequest s requestId request)
  | .socketOpen socket => do
      let entry ← s.sockets.get socket
      if entry.canOpen then
        some (onOpen config
          { s with sockets := s.sockets.modify socket fun entry => { entry with opened := true } }
          socket)
      else none
  | .socketMessage socket raw => do
      let entry ← s.sockets.get socket
      if entry.canReceive then
        some (if entry.authHandled then handleFrame s raw else handleAuth s socket raw)
      else none
  | .socketClose socket code reason => do
      let entry ← s.sockets.get socket
      if entry.closed then none
      else
        some (onClose config
          { s with sockets := s.sockets.modify socket fun entry => { entry with closed := true } }
          socket entry code reason)
  | .authTimeout socket => do
      let entry ← s.sockets.get socket
      if entry.authTimeout then
        some (onAuthTimeout config (clearAuthTimeout s socket) socket entry)
      else none
  | .reconnectTimer opens =>
    if s.reconnectTimers = 0 then none
    else
      let fired := { s with reconnectTimers := s.reconnectTimers - 1 }
      some (if s.state = .reconnecting then connectInternal config fired none opens else (fired, []))
  | .rejected =>
    if s.rejections = 0 then none
    else some (attemptReconnect config { s with rejections := s.rejections - 1 })
  | .heartbeatDead monitor => do
      let entry ← s.monitors.get monitor
      if entry.timer then
        some (handleConnectionDead config
          { s with monitors := s.monitors.modify monitor fun entry => { entry with timer := false } })
      else none
  | .requestTimeout request => do
      let (tracker, settled) ← s.requestTracker.expire config.requestTimeoutMs request
      some ({ s with requestTracker := tracker },
        settled.map fun entry => .requestSettled entry.1 entry.2)

/-- The machine of a handler. -/
def handlerMachine (config : SignetHandlerConfig) :
    Machine SignetHandler HandlerLabel HandlerObservation :=
  ⟨createSignetHandler, handlerStep config⟩

/-- One taken step of the handler. -/
abbrev HandlerOccurrence := Occurrence SignetHandler HandlerLabel HandlerObservation

end Sdk
end Signet
