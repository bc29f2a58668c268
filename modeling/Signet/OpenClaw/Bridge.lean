import Signet.Kit.Arena
import Signet.Kit.AsyncQueue
import Signet.Kit.Turn
import Signet.Ws.Connection

/-!
# The read-only bridge to OpenClaw

A loop of connections to the signet, started and stopped from outside, that saves a
checkpoint for each event and then pushes it to a queue of deliveries.  A step is a call, an
event of a socket, the end of something awaited, or a crash, which keeps the saved checkpoint
and nothing else.

A message that is text is read when it comes; a blob is decoded in a task of its own.  What
it says is put in the chain of its connection, whose links are handled one after another: a
link waits while a checkpoint is saved for one before it.  A save is written and then
answered.  Texts the frame schemas have read are given as what each schema makes of them.

* `connectAndPump`, `handlePayload`, `handleSequencedFrame`, `onClosed` — a connection.
* `continueLoop`, `start`, `stop` — the loop.
* `bridgeStep`, `bridgeMachine` — the steps.
-/

namespace Signet
namespace OpenClaw

open Kit Schemas
open Signet.Ws (WsCloseCode)

/-! ## Data -/

structure ReconnectConfig where
  enabled : Bool
  maxAttempts : Nat
deriving DecidableEq, Repr

structure BridgeConfig where
  credentialId : String
  wsUrl : String
  token : String
  reconnect : ReconnectConfig
deriving DecidableEq, Repr

inductive BridgeState where
  | idle
  | connecting
  | authenticating
  | connected
  | reconnecting
  | closed
deriving DecidableEq, Repr

/-- A checkpoint, without the time it was made at. -/
structure Checkpoint where
  credentialId : String
  lastSeq : Nat
deriving DecidableEq, Repr

/-- A delivery, without its time and the path of the checkpoint. -/
structure Envelope where
  adapter : String
  deliveryMode : String
  credentialId : String
  operatorId : String
  seq : Nat
  dedupeKey : String
  event : SignetEvent
deriving DecidableEq

/-- `createOpenClawBridgeEnvelope` -/
def createEnvelope (credentialId operatorId : String) (seq : Nat) (event : SignetEvent) : Envelope :=
  ⟨"openclaw", "local", credentialId, operatorId, seq,
    credentialId ++ ":" ++ toString seq, event⟩

/-- What the frame schemas make of a parsed text; the sequenced one with its issues. -/
structure Payload where
  /-- The credential and the operator of an authenticated frame. -/
  authenticated : Option (String × String)
  authError : Option (Int × String)
  /-- What is buffered, and the limit. -/
  backpressure : Option (Nat × Nat)
  sequenced : Except (List String) (Nat × SignetEvent)

/-- How a connection ends. -/
inductive Outcome where
  | retryable (lastCheckpoint : Option Checkpoint)
  | final (lastCheckpoint : Option Checkpoint) (error : SignetError)
deriving DecidableEq

/-- A link of the chain of a connection. -/
inductive Link where
  | frame (payload : Payload)
  | closing (code : Nat) (reason : String)

/-- A checkpoint that is being saved, and what is delivered once it is. -/
structure Save where
  checkpoint : Checkpoint
  envelope : Envelope
  written : Bool

/-- A message: text that is read at once, or a blob to be decoded; `none` is not JSON. -/
inductive MessageData where
  | text (payload : Option Payload)
  | blob (payload : Option Payload)

def MessageData.payload : MessageData → Option Payload
  | .text payload => payload
  | .blob payload => payload

/-- The variables of `connectAndPump`, and how far its socket is. -/
structure Connection where
  connectionId : Nat
  resumeSeq : Option Nat
  authenticated : Bool
  settled : Bool
  currentCheckpoint : Option Checkpoint
  lastDeliveredSeq : Nat
  credentialId : Option String
  operatorId : Option String
  authTimeout : Bool
  /-- Blobs that are being decoded, in the order of their arrival, with their tasks. -/
  decoding : List (Nat × Option Payload)
  tasks : Nat
  frameChain : List Link
  saving : Option Save
  opened : Bool
  closed : Bool

inductive LoopStage where
  | loading
  | connecting (connection : Nat)
  /-- The connection has ended, and the loop goes on. -/
  | settled (outcome : Outcome)
  /-- The delay before a reconnect. -/
  | sleeping
  | woken
  /-- The loop is over; the variable that holds it is not yet cleared. -/
  | returned
deriving DecidableEq

/-- The variables of `runLoop`, and the call of `start` it answers. -/
structure Loop where
  call : Nat
  stage : LoopStage
  resumeCheckpoint : Option Checkpoint
  attempt : Nat
  initialResolved : Bool
deriving DecidableEq

/-- The variables of `createOpenClawReadOnlyBridge`, and the checkpoint on disk.  The
interrupt of the present connection is that of `ws`, the interrupt of the delay is there
while the loop sleeps. -/
structure Bridge where
  bridgeState : BridgeState
  ws : Option Nat
  stopped : Bool
  loop : Option Loop
  activeConnectionId : Nat
  connections : Arena Connection
  deliveries : AsyncQueue Envelope
  fatalCheckpointError : Option SignetError
  persisted : Option Checkpoint
  /-- How many calls of `start` there have been. -/
  starts : Nat

def createBridge : Bridge :=
  ⟨.idle, none, false, none, 0, .empty, .empty, none, none, 0⟩

/-- What a step lets its caller, a listener, a socket or the consumer see. -/
inductive BridgeObservation where
  /-- A call of `start` is answered. -/
  | started (call : Nat) (result : Except SignetError Unit)
  | errorEmitted (error : SignetError)
  | socketCreated (connection : Nat) (url : String)
  | sent (connection : Nat) (token : String) (lastSeenSeq : Option Nat)
  | closing (connection : Nat) (code : Nat) (reason : String)
  /-- The deliveries take an envelope. -/
  | pushed (envelope : Envelope)
  /-- A call of `next` is answered. -/
  | answered (call : Nat) (envelope : Option Envelope)
deriving DecidableEq

/-- A state and what has been seen on the way to it. -/
abbrev BridgeTurn := Bridge × List BridgeObservation

/-! ## Effects -/

def emitError (s : Bridge) (error : SignetError) : BridgeTurn := (s, [.errorEmitted error])

/-- `deliveries.push`; completed deliveries take nothing. -/
def pushDelivery (s : Bridge) (envelope : Envelope) : BridgeTurn :=
  ({ s with deliveries := (s.deliveries.push envelope).1 },
    (if s.deliveries.done then [] else [.pushed envelope]) ++
      (s.deliveries.push envelope).2.map fun answer => .answered answer.1 answer.2)

/-- The bridge is closed, and nothing more will be delivered. -/
def closeBridge (s : Bridge) : BridgeTurn :=
  ({ s with bridgeState := .closed, deliveries := s.deliveries.complete.1 },
    s.deliveries.complete.2.map fun answer => .answered answer.1 answer.2)

def modifyConnection (s : Bridge) (c : Nat) (f : Connection → Connection) : Bridge :=
  { s with connections := s.connections.modify c f }

/-- `isActiveConnection` -/
def isActive (s : Bridge) (c : Nat) (connection : Connection) : Bool :=
  s.activeConnectionId == connection.connectionId && s.ws == some c

/-- What the loop awaits of a connection is there. -/
def resolveConnection (s : Bridge) (c : Nat) (outcome : Outcome) : Bridge :=
  match s.loop with
  | some ⟨call, .connecting awaited, resumeCheckpoint, attempt, initialResolved⟩ =>
    if awaited = c then
      { s with loop := some ⟨call, .settled outcome, resumeCheckpoint, attempt, initialResolved⟩ }
    else s
  | _ => s

/-- A connection ends, once. -/
def settle (s : Bridge) (c : Nat) (outcome : Outcome) : Bridge :=
  match s.connections.get c with
  | none => s
  | some connection =>
    if connection.settled then s
    else
      let ended := modifyConnection s c fun connection => { connection with settled := true }
      resolveConnection
        (if isActive s c connection then { ended with ws := none, activeConnectionId := 0 }
          else ended)
        c outcome

/-! ## Frames -/

/-- A sequenced frame whose turn has come.  What is new is saved before it is delivered. -/
def handleSequencedFrame (s : Bridge) (c : Nat) (connection : Connection) (payload : Payload) :
    BridgeTurn :=
  match payload.sequenced with
  | .error issues =>
    emitError s ⟨.validationError,
      "Validation failed on 'bridge.frame': Received invalid sequenced frame from signet",
      some [("field", .text "bridge.frame"),
        ("reason", .text "Received invalid sequenced frame from signet"),
        ("issues", .json (.array (issues.map .string)))]⟩
  | .ok (seq, event) =>
    match connection.credentialId, connection.operatorId with
    | some credentialId, some operatorId =>
      if seq ≤ connection.lastDeliveredSeq then (s, [])
      else
        let save : Save :=
          ⟨⟨credentialId, seq⟩, createEnvelope credentialId operatorId seq event, false⟩
        (modifyConnection s c fun connection => { connection with saving := some save }, [])
    | _, _ =>
      emitError s (InternalError.create
        "Sequenced frame arrived before bridge authentication completed")

/-- The close codes that end the bridge. -/
def nonRetryableCodes : List Nat :=
  [WsCloseCode.authFailed.value, WsCloseCode.authTimeout.value,
    WsCloseCode.credentialExpired.value, WsCloseCode.policyChange.value,
    WsCloseCode.credentialRevoked.value, WsCloseCode.protocolError.value]

def isRetryableClose (code : Nat) : Bool := !nonRetryableCodes.contains code

def bridgeStopped : SignetError := ValidationError.create "bridge.state" "Bridge stopped"

/-- The close of a socket, whose turn has come. -/
def onClosed (s : Bridge) (c : Nat) (connection : Connection) (code : Nat) (reason : String) :
    BridgeTurn :=
  if isActive s c connection = false then (s, [])
  else if s.stopped then
    (settle { s with bridgeState := .closed } c (.final connection.currentCheckpoint bridgeStopped),
      [])
  else
    match s.fatalCheckpointError with
    | some error =>
      (settle { s with bridgeState := .closed } c (.final connection.currentCheckpoint error), [])
    | none =>
      if isRetryableClose code = false then
        let error := AuthError.create
          (if reason = "" then "Bridge connection closed by signet" else reason)
          (some [("code", .number code)])
        andThen (emitError s error) fun s =>
          (settle { s with bridgeState := .closed } c (.final connection.currentCheckpoint error),
            [])
      else
        (settle { s with bridgeState := .reconnecting } c (.retryable connection.currentCheckpoint),
          [])

def runLink (s : Bridge) (c : Nat) (connection : Connection) : Link → BridgeTurn
  | .frame payload => handleSequencedFrame s c connection payload
  | .closing code reason => onClosed s c connection code reason

/-- A link is put in the chain.  Where nothing is before it, its turn is now. -/
def appendLink (s : Bridge) (c : Nat) (connection : Connection) (link : Link) : BridgeTurn :=
  if connection.frameChain.isEmpty && connection.saving.isNone then runLink s c connection link
  else
    (modifyConnection s c fun connection =>
      { connection with frameChain := connection.frameChain ++ [link] }, [])

/-- What an authenticated frame for the configured credential does: the connection is
authenticated, the loop counts its attempts anew, and the call of `start` is answered. -/
def authenticate (s : Bridge) (c : Nat) (connection : Connection)
    (credentialId operatorId : String) : BridgeTurn :=
  let connected := modifyConnection { s with bridgeState := .connected } c fun connection =>
    { connection with
      authenticated := true, credentialId := some credentialId, operatorId := some operatorId }
  match s.loop with
  | none => (connected, [])
  | some loop =>
    ({ connected with
      loop := some { loop with
        resumeCheckpoint := connection.currentCheckpoint, attempt := 0, initialResolved := true } },
      if loop.initialResolved then [] else [.started loop.call (.ok ())])

def clearAuthTimeout (s : Bridge) (c : Nat) : Bridge :=
  modifyConnection s c fun connection => { connection with authTimeout := false }

def onAuthenticatedFrame (config : BridgeConfig) (s : Bridge) (c : Nat) (connection : Connection)
    (credentialId operatorId : String) : BridgeTurn :=
  if isActive s c connection = false then (s, [])
  else if credentialId ≠ config.credentialId then
    let error := AuthError.create
      "Authenticated credential does not match the configured bridge credential"
      (some [("configuredCredentialId", .text config.credentialId),
        ("authenticatedCredentialId", .text credentialId)])
    andThen (emitError (clearAuthTimeout s c) error) fun s =>
      (settle s c (.final connection.currentCheckpoint error),
        [.closing c WsCloseCode.authFailed.value "Credential mismatch"])
  else authenticate (clearAuthTimeout s c) c connection credentialId operatorId

def onAuthErrorFrame (s : Bridge) (c : Nat) (connection : Connection) (code : Int)
    (message : String) : BridgeTurn :=
  if isActive s c connection = false then (s, [])
  else
    let error := AuthError.create message (some [("code", .number code)])
    andThen (emitError (clearAuthTimeout s c) error) fun s =>
      (settle s c (.final connection.currentCheckpoint error), [])

/-- A frame that is none of the auth phase. -/
def handleFrame (s : Bridge) (c : Nat) (connection : Connection) (payload : Payload) : BridgeTurn :=
  match payload.backpressure with
  | some (buffered, limit) =>
    emitError s (InternalError.create "OpenClaw bridge hit signet backpressure"
      (some [("buffered", .number buffered), ("limit", .number limit)]))
  | none => appendLink s c connection (.frame payload)

/-- A message that has been read. -/
def handlePayload (config : BridgeConfig) (s : Bridge) (c : Nat) (connection : Connection)
    (payload : Option Payload) : BridgeTurn :=
  match payload with
  | none =>
    emitError s (ValidationError.create "bridge.frame" "Bridge received non-JSON data from signet")
  | some payload =>
    if connection.authenticated then handleFrame s c connection payload
    else
      match payload.authenticated, payload.authError with
      | some (credentialId, operatorId), _ =>
        onAuthenticatedFrame config s c connection credentialId operatorId
      | none, some (code, message) => onAuthErrorFrame s c connection code message
      | none, none => handleFrame s c connection payload

def onMessage (config : BridgeConfig) (s : Bridge) (c : Nat) (connection : Connection) :
    MessageData → BridgeTurn
  | .text payload =>
    if isActive s c connection then handlePayload config s c connection payload else (s, [])
  | .blob payload =>
    if isActive s c connection then
      (modifyConnection s c fun connection =>
        { connection with
          decoding := connection.decoding ++ [(connection.tasks, payload)]
          tasks := connection.tasks + 1 }, [])
    else (s, [])

/-- The rest of a save that went well: the event is delivered. -/
def deliver (s : Bridge) (c : Nat) (save : Save) : BridgeTurn :=
  pushDelivery
    (modifyConnection s c fun connection =>
      { connection with
        saving := none
        currentCheckpoint := some save.checkpoint
        lastDeliveredSeq := save.checkpoint.lastSeq })
    save.envelope

/-- The rest of a save that failed: the present socket is closed. -/
def failSave (s : Bridge) (c : Nat) (error : SignetError) : BridgeTurn :=
  andThen
    (emitError
      { modifyConnection s c fun connection => { connection with saving := none } with
        fatalCheckpointError := some error } error)
    fun s =>
      (s, s.ws.toList.map fun socket =>
        .closing socket WsCloseCode.protocolError.value "Checkpoint persistence failed")

def onAuthTimeout (s : Bridge) (c : Nat) (connection : Connection) : BridgeTurn :=
  if connection.authenticated || connection.settled || !isActive s c connection then (s, [])
  else
    (settle s c (.final connection.currentCheckpoint
      (AuthError.create "Auth response not received from signet")),
      [.closing c WsCloseCode.authTimeout.value "Auth timeout"])

def onOpen (config : BridgeConfig) (s : Bridge) (c : Nat) (connection : Connection) : BridgeTurn :=
  if isActive s c connection then
    ({ s with bridgeState := .authenticating }, [.sent c config.token connection.resumeSeq])
  else (s, [])

/-! ## The loop -/

/-- `resolveResumeSeq` -/
def resolveResumeSeq (checkpoint : Option Checkpoint) : Option Nat := checkpoint.map Checkpoint.lastSeq

def newConnection (connectionId : Nat) (resumeCheckpoint : Option Checkpoint) : Connection :=
  ⟨connectionId, resolveResumeSeq resumeCheckpoint, false, false, resumeCheckpoint,
    (resolveResumeSeq resumeCheckpoint).getD 0, resumeCheckpoint.map Checkpoint.credentialId, none,
    true, [], 0, [], none, false, false⟩

/-- A connection is made.  Where its socket cannot be, the loop is over as it is. -/
def connectAndPump (config : BridgeConfig) (s : Bridge) (loop : Loop) (opens : Bool) : BridgeTurn :=
  let connectionId := s.activeConnectionId + 1
  let begun := { s with bridgeState := .connecting, activeConnectionId := connectionId }
  if opens then
    ({ begun with
      connections := s.connections.alloc (newConnection connectionId loop.resumeCheckpoint)
      ws := some s.connections.next
      loop := some { loop with stage := .connecting s.connections.next } },
      [.socketCreated s.connections.next config.wsUrl])
  else ({ begun with loop := some { loop with stage := .returned } }, [])

/-- The call of `start` is answered, if it has not been. -/
def answerInitial (s : Bridge) (loop : Loop) (error : SignetError) : BridgeTurn :=
  ({ s with loop := some { loop with initialResolved := true } },
    if loop.initialResolved then [] else [.started loop.call (.error error)])

def returnLoop (s : Bridge) (loop : Loop) : BridgeTurn :=
  closeBridge { s with loop := some { loop with stage := .returned } }

def breakLoop (s : Bridge) (loop : Loop) : BridgeTurn :=
  andThen
    (answerInitial s loop
      (ValidationError.create "bridge.state" "OpenClaw bridge stopped before authentication"))
    fun s => returnLoop s { loop with initialResolved := true }

def enterLoop (config : BridgeConfig) (s : Bridge) (loop : Loop) (opens : Bool) : BridgeTurn :=
  if s.stopped then breakLoop s loop else connectAndPump config s loop opens

def ReconnectConfig.exhausted (config : ReconnectConfig) (attempt : Nat) : Bool :=
  config.maxAttempts != 0 && decide (config.maxAttempts ≤ attempt)

/-- A connection has ended in a way that allows another one. -/
def afterRetryable (config : BridgeConfig) (s : Bridge) (loop : Loop) : BridgeTurn :=
  if s.stopped then breakLoop s loop
  else if config.reconnect.enabled = false then
    andThen (emitError s (InternalError.create "OpenClaw bridge reconnect is disabled")) fun s =>
      returnLoop s loop
  else if config.reconnect.exhausted loop.attempt then
    andThen
      (emitError s (InternalError.create "OpenClaw bridge exhausted reconnect attempts"
        (some [("maxAttempts", .number config.reconnect.maxAttempts)])))
      fun s => returnLoop s loop
  else
    ({ s with
      bridgeState := .reconnecting
      loop := some { loop with stage := .sleeping, attempt := loop.attempt + 1 } }, [])

/-- A connection has ended for good. -/
def afterFinal (s : Bridge) (loop : Loop) (error : SignetError) : BridgeTurn :=
  andThen (answerInitial s loop error) fun s =>
    let loop := { loop with initialResolved := true }
    if s.stopped then breakLoop s loop else returnLoop s loop

def afterLoad (config : BridgeConfig) (s : Bridge) (loop : Loop)
    (result : Except SignetError (Option Checkpoint)) (opens : Bool) : BridgeTurn :=
  match result with
  | .error error =>
    andThen (emitError s error) fun s =>
      andThen (answerInitial s loop error) fun s =>
        returnLoop s { loop with initialResolved := true }
  | .ok checkpoint => enterLoop config s { loop with resumeCheckpoint := checkpoint } opens

/-- The loop goes on where it can. -/
def continueLoop (config : BridgeConfig) (s : Bridge) (opens : Bool) : Option BridgeTurn :=
  s.loop.bind fun loop =>
    match loop.stage with
    | .settled (.retryable checkpoint) =>
      some (afterRetryable config s { loop with resumeCheckpoint := checkpoint })
    | .settled (.final checkpoint error) =>
      some (afterFinal s { loop with resumeCheckpoint := checkpoint } error)
    | .woken => some (enterLoop config s loop opens)
    | _ => none

/-! ## The functions of the bridge -/

def start (s : Bridge) : BridgeTurn :=
  let call := s.starts
  let s := { s with starts := call + 1 }
  match s.loop with
  | some _ =>
    (s, [.started call
      (.error (ValidationError.create "bridge.state" "OpenClaw bridge is already running"))])
  | none =>
    ({ s with
      stopped := false
      fatalCheckpointError := none
      deliveries := s.deliveries.reset
      loop := some ⟨call, .loading, none, 0, false⟩ }, [])

/-- The delay before a reconnect is over. -/
def wake (s : Bridge) : Bridge :=
  match s.loop with
  | some ⟨call, .sleeping, resumeCheckpoint, attempt, initialResolved⟩ =>
    { s with loop := some ⟨call, .woken, resumeCheckpoint, attempt, initialResolved⟩ }
  | _ => s

/-- The loop is interrupted in what it awaits, and the present socket closed. -/
def stop (s : Bridge) : BridgeTurn :=
  let interrupted := wake { s with stopped := true }
  match s.ws with
  | none => (interrupted, [])
  | some c =>
    (match s.connections.get c with
      | some connection =>
        if isActive s c connection then settle interrupted c (.final none bridgeStopped)
        else interrupted
      | none => interrupted,
      [.closing c 1000 "Bridge stopping"])

/-- `deliveries[Symbol.asyncIterator]().next()` -/
def nextDelivery (s : Bridge) : BridgeTurn :=
  ({ s with deliveries := s.deliveries.next.1 },
    s.deliveries.next.2.map fun answer => .answered answer.1 answer.2)

/-- The process dies: what is on disk is left, and the calls are counted on. -/
def crash (s : Bridge) : Bridge :=
  { createBridge with
    persisted := s.persisted
    starts := s.starts
    deliveries := ⟨[], false, none, [], s.deliveries.calls, by simp⟩ }

/-! ## The steps -/

inductive BridgeLabel where
  | start
  | stop
  | next
  | crash
  /-- The load of the checkpoint ends; `opens`: a socket can be made. -/
  | loaded (failure : Option SignetError) (opens : Bool)
  | socketOpen (connection : Nat)
  | message (connection : Nat) (data : MessageData)
  | decoded (connection task : Nat)
  /-- A blob cannot be decoded, which nobody learns. -/
  | decodeFailed (connection task : Nat)
  /-- The next link of a chain has its turn. -/
  | advance (connection : Nat)
  /-- The file of a save is written. -/
  | written (connection : Nat)
  /-- A save is answered. -/
  | saved (connection : Nat) (failure : Option SignetError)
  | authTimeout (connection : Nat)
  | socketClose (connection : Nat) (code : Nat) (reason : String)
  | continueLoop (opens : Bool)
  /-- The delay before a reconnect is over. -/
  | timer
  | loopCleared

/-- A blob that is being decoded. -/
def decodingTask (connection : Connection) (task : Nat) : Option (Option Payload) :=
  connection.decoding.lookup task

def Connection.dropTask (connection : Connection) (task : Nat) : Connection :=
  { connection with decoding := connection.decoding.filter fun entry => entry.1 ≠ task }

def connectionStep (config : BridgeConfig) (s : Bridge) (c : Nat) (connection : Connection) :
    BridgeLabel → Option BridgeTurn
  | .socketOpen _ =>
    if connection.opened || connection.closed then none
    else
      some (onOpen config (modifyConnection s c fun entry => { entry with opened := true }) c
        connection)
  | .message _ data =>
    if connection.opened && !connection.closed then some (onMessage config s c connection data)
    else none
  | .decoded _ task => do
      let payload ← decodingTask connection task
      some (handlePayload config (modifyConnection s c fun entry => entry.dropTask task) c connection
        payload)
  | .decodeFailed _ task => do
      let _ ← decodingTask connection task
      some (modifyConnection s c fun entry => entry.dropTask task, [])
  | .advance _ =>
    match connection.saving, connection.frameChain with
    | none, link :: rest =>
      some (runLink (modifyConnection s c fun entry => { entry with frameChain := rest }) c
        connection link)
    | _, _ => none
  | .written _ =>
    match connection.saving with
    | some save =>
      if save.written then none
      else
        some ({ modifyConnection s c fun entry =>
          { entry with saving := some { save with written := true } } with
          persisted := some save.checkpoint }, [])
    | none => none
  | .saved _ failure =>
    match connection.saving, failure with
    | some save, none => if save.written then some (deliver s c save) else none
    | some _, some error => some (failSave s c error)
    | none, _ => none
  | .authTimeout _ =>
    if connection.authTimeout then some (onAuthTimeout (clearAuthTimeout s c) c connection) else none
  | .socketClose _ code reason =>
    if connection.closed then none
    else
      some (appendLink
        (modifyConnection s c fun entry => { entry with closed := true, authTimeout := false }) c
        connection (.closing code reason))
  | _ => none

/-- One step; `none` when the event cannot come in the state. -/
def bridgeStep (config : BridgeConfig) (s : Bridge) (label : BridgeLabel) : Option BridgeTurn :=
  match label with
  | .start => some (start s)
  | .stop => some (stop s)
  | .next => some (nextDelivery s)
  | .crash => some (crash s, [])
  | .loaded failure opens =>
    s.loop.bind fun loop =>
      match loop.stage with
      | .loading =>
        some (afterLoad config s loop
          (match failure with
            | some error => .error error
            | none => .ok s.persisted) opens)
      | _ => none
  | .continueLoop opens => continueLoop config s opens
  | .timer =>
    s.loop.bind fun loop =>
      match loop.stage with
      | .sleeping => some (wake s, [])
      | _ => none
  | .loopCleared =>
    s.loop.bind fun loop =>
      match loop.stage with
      | .returned => some ({ s with loop := none }, [])
      | _ => none
  | .socketOpen c | .message c _ | .decoded c _ | .decodeFailed c _ | .advance c | .written c
  | .saved c _ | .authTimeout c | .socketClose c _ _ =>
    (s.connections.get c).bind fun connection => connectionStep config s c connection label

/-- The machine of a bridge. -/
def bridgeMachine (config : BridgeConfig) : Machine Bridge BridgeLabel BridgeObservation :=
  ⟨createBridge, bridgeStep config⟩

/-- One taken step of the bridge. -/
abbrev BridgeOccurrence := Occurrence Bridge BridgeLabel BridgeObservation

end OpenClaw
end Signet
