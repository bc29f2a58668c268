import Signet.Schemas.Events
import Signet.Schemas.Requests
import Signet.Sessions.Service
import Signet.Ws.ReplayBuffer

/-!
# Frames and connections

The frames of the socket protocol, the configuration of the server, and the
state of one connection: its lifecycle phase, what it has cached of its
credential, its backpressure and its socket.

The socket is the host's.  What the server puts on an open socket is kept in
`sent`, oldest first; a socket that is closing takes nothing any more.  While
the socket is congested the host queues what it takes and says so.
-/

namespace Signet
namespace Ws

open Kit Schemas Sessions

/-! ## Configuration -/

/-- Parsed WebSocket server configuration: the fields the server's logic reads. -/
structure WsServerConfig where
  heartbeatIntervalMs : Nat := 30000
  missedHeartbeatsBeforeDead : Nat := 3
  requestTimeoutMs : Nat := 30000
  replayBufferSize : Nat := 1000
  sendBufferSoftLimit : Nat := 64
  sendBufferHardLimit : Nat := 256
  rateLimitWindowMs : Nat := 1000
  rateLimitMaxMessages : Option Nat := none
  replayBufferSize_pos : 0 < replayBufferSize := by decide
  soft_lt_hard : sendBufferSoftLimit < sendBufferHardLimit := by decide

/-- WebSocket close codes used by the signet. -/
inductive WsCloseCode where
  | goingAway
  | authFailed
  | authTimeout
  | credentialExpired
  | credentialRevoked
  | policyChange
  | backpressure
  | deadConnection
  | rateLimited
  | protocolError
deriving DecidableEq, Repr

def WsCloseCode.value : WsCloseCode → Nat
  | .goingAway => 1001
  | .authFailed => 4001
  | .authTimeout => 4002
  | .credentialExpired => 4003
  | .credentialRevoked => 4004
  | .policyChange => 4005
  | .backpressure => 4008
  | .deadConnection => 4010
  | .rateLimited => 1008
  | .protocolError => 4009

def closeCodeOf : CredentialStatus → WsCloseCode
  | .revoked => .credentialRevoked
  | .expired => .credentialExpired
  | _ => .policyChange

/-! ## Frames -/

/-- Inbound authentication frame sent by the harness. -/
structure AuthFrame where
  token : String
  lastSeenSeq : Option Nat
deriving DecidableEq, Repr

/-- A parsed JSON message of the harness.  An authentication frame may carry a
request id as well, and a malformed frame may have a readable one. -/
inductive ClientFrame where
  | auth (frame : AuthFrame) (requestId : Option String)
  | request (request : HarnessRequest)
  | malformed (requestId : Option String)
deriving DecidableEq

inductive ClientMessage where
  | json (frame : ClientFrame)
  | invalidJson
deriving DecidableEq

/-- Sequenced event envelope used for replay and recovery. -/
structure SequencedFrame where
  seq : Nat
  event : SignetEvent
deriving DecidableEq

/-- The credential part of the authenticated frame. -/
structure CredentialToken where
  credentialId : String
  operatorId : String
  fingerprint : String
  issuedAt : Int
  expiresAt : Int
deriving DecidableEq, Repr

structure ResponseError where
  code : Nat
  category : ErrorCategory
  message : String
  context : Option (List (String × ContextValue))
deriving DecidableEq, Repr

inductive RequestResponse where
  | ok (requestId : String) (data : Json)
  | failed (requestId : String) (error : ResponseError)
deriving DecidableEq

/-- A frame sent to the harness. -/
inductive ServerFrame where
  | authError (code : WsCloseCode) (message : String)
  | authenticated (connectionId : Nat) (credential : CredentialToken)
      (effectiveScopes : ScopeSet) (resumedFromSeq : Option Nat)
  | sequenced (frame : SequencedFrame)
  | backpressure (buffered limit : Nat)
  | response (response : RequestResponse)
deriving DecidableEq

def ServerFrame.isAuthenticated : ServerFrame → Bool
  | .authenticated .. => true
  | _ => false

def ServerFrame.sequenced? : ServerFrame → Option SequencedFrame
  | .sequenced frame => some frame
  | _ => none

/-! ## Backpressure -/

/-- Backpressure state derived from the current per-connection send depth. -/
inductive BackpressureState where
  | ok
  | warning
  | exceeded
deriving DecidableEq, Repr

/-- Tracks per-connection send buffer depth. -/
structure BackpressureTracker where
  softLimit : Nat
  hardLimit : Nat
  depth : Nat := 0
  notified : Bool := false
deriving DecidableEq, Repr

namespace BackpressureTracker

def state (t : BackpressureTracker) : BackpressureState :=
  if t.hardLimit ≤ t.depth then .exceeded
  else if t.softLimit ≤ t.depth then .warning
  else .ok

def increment (t : BackpressureTracker) : BackpressureTracker := { t with depth := t.depth + 1 }

def markNotified (t : BackpressureTracker) : BackpressureTracker := { t with notified := true }

def reset (t : BackpressureTracker) : BackpressureTracker :=
  { t with depth := 0, notified := false }

end BackpressureTracker

/-! ## Connection state -/

inductive ConnectionPhase where
  | authenticating
  | active
  | draining
  | closed
deriving DecidableEq, Repr

def validTransitions : ConnectionPhase → List ConnectionPhase
  | .authenticating => [.active, .closed]
  | .active => [.draining, .closed]
  | .draining => [.closed]
  | .closed => []

/-- Check whether a connection can move between two phases. -/
def canTransition («from» «to» : ConnectionPhase) : Bool :=
  decide («to» ∈ validTransitions «from»)

/-- A request whose response is outstanding: its timer and when it came. -/
structure InFlightRequest where
  timer : Nat
  sentAt : Int
deriving DecidableEq, Repr

/-- Per-connection state.  The replay state is a reference, being shared across
the connections of a credential, and so are the timers. -/
structure ConnectionData where
  phase : ConnectionPhase
  credentialRecord : Option CredentialRecord
  credentialId : Option String
  operatorId : Option String
  credentialReplayState : Option Nat
  backpressure : BackpressureTracker
  authTimer : Option Nat
  heartbeatTimer : Option Nat
  inFlightRequests : AssocMap String InFlightRequest
  lastClientActivity : Int
  messageCount : Nat
  messageWindowStart : Int

def createConnectionState (now : Int) (softLimit hardLimit : Nat) : ConnectionData where
  phase := .authenticating
  credentialRecord := none
  credentialId := none
  operatorId := none
  credentialReplayState := none
  backpressure := { softLimit := softLimit, hardLimit := hardLimit }
  authTimer := none
  heartbeatTimer := none
  inFlightRequests := .empty
  lastClientActivity := now
  messageCount := 0
  messageWindowStart := now

/-- Attempt a phase transition, and say whether it was valid. -/
def transition (state : ConnectionData) («to» : ConnectionPhase) : ConnectionData × Bool :=
  if canTransition state.phase «to» then ({ state with phase := «to» }, true) else (state, false)

section

variable (state : ConnectionData) («to» : ConnectionPhase)

@[simp]
theorem transition_credentialReplayState :
    (transition state «to»).1.credentialReplayState = state.credentialReplayState := by
  unfold transition
  split <;> rfl

@[simp]
theorem transition_credentialId : (transition state «to»).1.credentialId = state.credentialId := by
  unfold transition
  split <;> rfl

@[simp]
theorem transition_credentialRecord :
    (transition state «to»).1.credentialRecord = state.credentialRecord := by
  unfold transition
  split <;> rfl

end

/-- How far the closing of a socket has got. -/
inductive SocketState where
  | «open»
  /-- The server has closed it; its close handler has not run yet. -/
  | closing (code : WsCloseCode)
  | closed
deriving DecidableEq, Repr

/-- The host's side of a connection. -/
structure Socket where
  state : SocketState := .open
  congested : Bool := false
  /-- The frames put on the socket while it was open, oldest first. -/
  sent : List ServerFrame := []
deriving DecidableEq

structure Connection where
  data : ConnectionData
  socket : Socket := {}

namespace Connection

/-- The socket still takes frames. -/
def isOpen (c : Connection) : Bool := decide (c.socket.state = .open)

/-- `sendJson`: a congested socket queues the frame and reports backpressure. -/
def sendJson (c : Connection) (frame : ServerFrame) : Connection :=
  if c.socket.state ≠ .open then c
  else
    { socket := { c.socket with sent := c.socket.sent ++ [frame] }
      data :=
        if c.socket.congested then
          { c.data with backpressure := c.data.backpressure.increment }
        else c.data }

/-- Write the state of the connection. -/
def withData (c : Connection) (f : ConnectionData → ConnectionData) : Connection :=
  { c with data := f c.data }

section

variable (c : Connection) (f : ConnectionData → ConnectionData)

@[simp]
theorem withData_socket : (c.withData f).socket = c.socket := rfl

@[simp]
theorem withData_data : (c.withData f).data = f c.data := rfl

end

variable (c : Connection) (frame : ServerFrame)

@[simp]
theorem sendJson_credentialReplayState :
    (c.sendJson frame).data.credentialReplayState = c.data.credentialReplayState := by
  unfold sendJson
  split
  · rfl
  · dsimp only
    split <;> rfl

@[simp]
theorem sendJson_credentialId : (c.sendJson frame).data.credentialId = c.data.credentialId := by
  unfold sendJson
  split
  · rfl
  · dsimp only
    split <;> rfl

@[simp]
theorem sendJson_credentialRecord :
    (c.sendJson frame).data.credentialRecord = c.data.credentialRecord := by
  unfold sendJson
  split
  · rfl
  · dsimp only
    split <;> rfl

@[simp]
theorem sendJson_phase : (c.sendJson frame).data.phase = c.data.phase := by
  unfold sendJson
  split
  · rfl
  · dsimp only
    split <;> rfl

@[simp]
theorem sendJson_state : (c.sendJson frame).socket.state = c.socket.state := by
  unfold sendJson
  split <;> rfl

theorem sendJson_sent :
    (c.sendJson frame).socket.sent =
      c.socket.sent ++ (if c.isOpen then [frame] else []) := by
  unfold sendJson isOpen
  by_cases hOpen : c.socket.state = .open
  · simp [hOpen]
  · simp [hOpen]

end Connection

/-! ## Authentication and requests -/

/-- Check that the credential a token was looked up as is in an active state. -/
def handleAuth (result : Except SignetError CredentialRecord) :
    Except SignetError CredentialRecord :=
  match result with
  | .error error => .error error
  | .ok credential =>
    if credential.status ≠ .active then
      .error (AuthError.create ("Credential " ++ credential.credentialId ++ " is not active")
        (some [("credentialId", .text credential.credentialId),
          ("status", .text credential.status.value)]))
    else .ok credential

theorem handleAuth_ok_iff {result : Except SignetError CredentialRecord}
    {credential : CredentialRecord} :
    handleAuth result = .ok credential ↔
      result = .ok credential ∧ credential.status = .active := by
  unfold handleAuth
  cases result with
  | error error => simp
  | ok record =>
    by_cases hActive : record.status = .active
    · simp only [ne_eq, hActive, not_true_eq_false, if_false, Except.ok.injEq]
      constructor
      · rintro rfl
        exact ⟨rfl, hActive⟩
      · exact And.left
    · simp only [ne_eq, hActive, not_false_eq_true, if_true, Except.ok.injEq, reduceCtorEq,
        false_iff, not_and]
      rintro rfl
      exact hActive

/-- Convert the result of a handler into a response envelope. -/
def routeRequest (request : HarnessRequest) (result : Except SignetError Json) :
    RequestResponse :=
  match result with
  | .ok data => .ok request.requestId data
  | .error error =>
    .failed request.requestId ⟨error.code, error.category, error.message, error.context⟩

end Ws
end Signet
