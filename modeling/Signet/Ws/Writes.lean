import Signet.Ws.Server
import Mathlib.Logic.Relation

/-!
# The elementary writes of the server

Nearly every function of the server is a sequence of a few elementary writes,
each of which leaves the server consistent: a timer is armed or cleared together
with the field that refers to it, a request leaves its map together with its
response.  What every elementary write keeps, the functions keep.

* `Write` — the elementary writes.  The cached records they may put on a
  connection are a parameter.
* `Writes` — any number of them, one after the other.
* `writes_close`, …, `writes_finishDraining` — the functions.

Not among them are the writes that sequence an event, accept or reject a request,
authenticate a connection or keep the books of broadcasts.
-/

namespace Signet
namespace Ws

open Kit Schemas Sessions

/-- A frame that is neither sequenced nor confirms an authentication. -/
def ServerFrame.IsPlain (frame : ServerFrame) : Prop :=
  frame.isAuthenticated = false ∧ frame.sequenced? = none

/-- A frame that tells the harness about its connection only. -/
inductive ServerFrame.IsNotice : ServerFrame → Prop
  | authError (code : WsCloseCode) (message : String) : IsNotice (.authError code message)
  | backpressure (buffered limit : Nat) : IsNotice (.backpressure buffered limit)

structure Connection.Counts (c c' : Connection) : Prop where
  phase : c'.data.phase = c.data.phase
  credentialRecord : c'.data.credentialRecord = c.data.credentialRecord
  credentialId : c'.data.credentialId = c.data.credentialId
  credentialReplayState : c'.data.credentialReplayState = c.data.credentialReplayState
  authTimer : c'.data.authTimer = c.data.authTimer
  heartbeatTimer : c'.data.heartbeatTimer = c.data.heartbeatTimer
  inFlightRequests : c'.data.inFlightRequests = c.data.inFlightRequests
  state : c'.socket.state = c.socket.state
  sent : c'.socket.sent = c.socket.sent

def RequestResponse.requestId : RequestResponse → String
  | .ok requestId _ => requestId
  | .failed requestId _ => requestId

/-- A call that is left at an await without further bookkeeping: no fingerprint,
no invalidation, and a response that answers its own request. -/
def Task.IsPlain : Task → Prop
  | .authFingerprint _ => False
  | .invalidation _ _ => False
  | .requestResync _ requestId response => response.requestId = requestId
  | _ => True

variable {World : Type}

namespace Server

/-- The server with one more connection. -/
def enter (s : Server World) (now : Int) (softLimit hardLimit : Nat) : Server World :=
  { s with
    connections := s.connections.alloc { data := createConnectionState now softLimit hardLimit } }

/-! ## What the basic operations leave -/

section

variable (s : Server World) (timer : Option Nat)

@[simp]
theorem connections_clearTimer : (s.clearTimer timer).connections = s.connections := by
  cases timer <;> rfl

@[simp]
theorem registry_clearTimer : (s.clearTimer timer).registry = s.registry := by
  cases timer <;> rfl

@[simp]
theorem tasks_clearTimer : (s.clearTimer timer).tasks = s.tasks := by
  cases timer <;> rfl

end

section

variable (s : Server World) (id : Nat) (f : Connection → Connection)

@[simp]
theorem timers_modifyConnection : (s.modifyConnection id f).timers = s.timers := rfl

@[simp]
theorem registry_modifyConnection : (s.modifyConnection id f).registry = s.registry := rfl

@[simp]
theorem tasks_modifyConnection : (s.modifyConnection id f).tasks = s.tasks := rfl

end

/-- What a connection reads after a write to one of them. -/
theorem connections_modifyConnection (s : Server World) (id id' : Nat)
    (f : Connection → Connection) :
    (s.modifyConnection id f).connections.get id' =
      if id' = id then (s.connections.get id').map f else s.connections.get id' := by
  simp [modifyConnection]

def clearRequests (s : Server World) (entries : List InFlightRequest) : Server World :=
  entries.foldl (fun s entry => s.clearTimer (some entry.timer)) s

section

variable (s : Server World) (entries : List InFlightRequest)

@[simp]
theorem connections_clearRequests : (s.clearRequests entries).connections = s.connections := by
  induction entries generalizing s with
  | nil => rfl
  | cons entry entries ih =>
    have hRest := ih (s.clearTimer (some entry.timer))
    rwa [connections_clearTimer] at hRest

@[simp]
theorem registry_clearRequests : (s.clearRequests entries).registry = s.registry := by
  induction entries generalizing s with
  | nil => rfl
  | cons entry entries ih =>
    have hRest := ih (s.clearTimer (some entry.timer))
    rwa [registry_clearTimer] at hRest

@[simp]
theorem tasks_clearRequests : (s.clearRequests entries).tasks = s.tasks := by
  induction entries generalizing s with
  | nil => rfl
  | cons entry entries ih =>
    have hRest := ih (s.clearTimer (some entry.timer))
    rwa [tasks_clearTimer] at hRest

end

def cleaned (d : ConnectionData) : ConnectionData :=
  (transition { d with authTimer := none, heartbeatTimer := none, inFlightRequests := .empty }
    .closed).1

theorem cleanupConnection_eq (s : Server World) {id : Nat} {c : Connection}
    (hGet : s.connections.get id = some c) :
    s.cleanupConnection id =
      { (((s.clearTimer c.data.authTimer).clearTimer c.data.heartbeatTimer).clearRequests
          c.data.inFlightRequests.values).modifyData id cleaned with
        registry := s.registry.erase id } := by
  have hRegistry : ((((s.clearTimer c.data.authTimer).clearTimer
      c.data.heartbeatTimer).clearRequests c.data.inFlightRequests.values).modifyData id
        cleaned).registry = s.registry := by
    simp [modifyData]
  rw [← hRegistry]
  unfold cleanupConnection
  rw [hGet]
  rfl

variable {s : Server World}

theorem cleanupConnection_of_none {id : Nat} (hGet : s.connections.get id = none) :
    s.cleanupConnection id = s := by
  unfold cleanupConnection
  rw [hGet]

@[simp]
theorem tasks_cleanupConnection (s : Server World) (id : Nat) :
    (s.cleanupConnection id).tasks = s.tasks := by
  cases hGet : s.connections.get id with
  | none => rw [cleanupConnection_of_none hGet]
  | some c =>
    rw [s.cleanupConnection_eq hGet]
    simp [modifyData]

@[simp]
theorem tasks_stopHeartbeat (s : Server World) (id : Nat) :
    (s.stopHeartbeat id).tasks = s.tasks := by
  unfold stopHeartbeat
  split
  · rfl
  · simp [modifyData]

/-! ## The elementary writes -/

/-- The elementary writes; a record is cached where `records` allows it. -/
inductive Write (records : Nat → CredentialRecord → Prop) (s : Server World) :
    Server World → Prop
  | count (id : Nat) (f : Connection → Connection)
      (hCounts : ∀ c, s.connections.get id = some c → c.Counts (f c)) :
      Write records s (s.modifyConnection id f)
  | notify (id : Nat) (frame : ServerFrame) (hNotice : frame.IsNotice) :
      Write records s (s.sendJson id frame)
  | beginClosing (id : Nat) (c : Connection) (code : WsCloseCode)
      (hGet : s.connections.get id = some c) (hOpen : c.socket.state = .open) :
      Write records s (s.modifyConnection id fun c =>
        { c with socket := { c.socket with state := .closing code } })
  | closed (id : Nat) : Write records s (s.closeHandler id)
  | cache (id : Nat) (record : CredentialRecord) (hRecord : records id record) :
      Write records s (s.cacheRecord id record)
  | stopHeartbeat (id : Nat) : Write records s (s.stopHeartbeat id)
  | dropAuthTimer (id : Nat) (c : Connection) (hGet : s.connections.get id = some c) :
      Write records s ((s.clearTimer c.data.authTimer).modifyData id fun d =>
        { d with authTimer := none })
  | expireAuth (ref id : Nat) (hTimer : s.timers.get ref = some (.authTimeout id)) :
      Write records s (s.clearTimer (some ref))
  | expireRequest (ref id : Nat) (operation : String) (response : RequestResponse)
      (hTimer : s.timers.get ref = some (.requestTimeout id response.requestId operation)) :
      Write records s (((s.clearTimer (some ref)).forgetRequest id response.requestId).sendJson id
        (.response response))
  | complete (id : Nat) (c : Connection) (inflight : InFlightRequest)
      (response : RequestResponse) (hGet : s.connections.get id = some c)
      (hInFlight : c.data.inFlightRequests.get response.requestId = some inflight) :
      Write records s (((s.clearTimer (some inflight.timer)).forgetRequest id
        response.requestId).sendJson id (.response response))
  | drain (id : Nat) :
      Write records s (s.modifyData id fun d => (transition d .draining).1)
  | cleanup (id : Nat) : Write records s (s.cleanupConnection id)
  | enter (now : Int) (softLimit hardLimit : Nat) :
      Write records s (s.enter now softLimit hardLimit)
  | enterArmed (now : Int) (softLimit hardLimit : Nat) :
      Write records s (((s.enter now softLimit hardLimit).arm
        (.authTimeout s.connections.next)).modifyData s.connections.next fun d =>
          { d with authTimer := some s.timers.next })
  | spawn (task : Task) (hTask : task.IsPlain) : Write records s (s.spawn task)
  | take (ref : Nat) (task : Task) (hGet : s.tasks.get ref = some task)
      (hFingerprint : ∀ handshake, task ≠ .authFingerprint handshake)
      (hInvalidation : ∀ credentialId generation, task ≠ .invalidation credentialId generation) :
      Write records s (s.take ref)
  | serverState (serverState : WsServerState) :
      Write records s { s with serverState := serverState }

/-- Any number of elementary writes. -/
abbrev Writes (records : Nat → CredentialRecord → Prop) : Server World → Server World → Prop :=
  Relation.ReflTransGen (Write records)

variable {records : Nat → CredentialRecord → Prop}

theorem Writes.refl (s : Server World) : Writes records s s := Relation.ReflTransGen.refl

theorem Writes.single {t : Server World} (h : Write records s t) : Writes records s t :=
  Relation.ReflTransGen.single h

theorem Writes.foldl {β : Type} {f : Server World → β → Server World} (l : List β)
    (hf : ∀ s b, b ∈ l → Writes records s (f s b)) (s : Server World) :
    Writes records s (l.foldl f s) := by
  induction l generalizing s with
  | nil => exact Writes.refl s
  | cons b l ih =>
    exact (hf s b (List.mem_cons_self ..)).trans
      (ih (fun t b' hb' => hf t b' (List.mem_cons_of_mem _ hb')) (f s b))

theorem Writes.relates {rel : Server World → Server World → Prop} (hRefl : ∀ s, rel s s)
    (hTrans : ∀ {s t u}, rel s t → rel t u → rel s u) (hWrite : ∀ s t, Write records s t → rel s t)
    {t : Server World} (h : Writes records s t) : rel s t := by
  induction h with
  | refl => exact hRefl s
  | tail _ hLast ih => exact hTrans ih (hWrite _ _ hLast)

/-! ## Closing -/

variable (deps : WsServerDeps World) {response : RequestResponse}

section

variable (s : Server World) (id : Nat)

theorem writes_close (code : WsCloseCode) : Writes records s (s.close deps id code) := by
  unfold close
  split
  · exact Writes.refl s
  · next c hGet =>
    split
    · exact Writes.refl s
    · next hState =>
      have hClosing : Writes records s (s.modifyConnection id fun c =>
          { c with socket := { c.socket with state := .closing code } }) :=
        Writes.single (.beginClosing id c code hGet (not_not.mp hState))
      dsimp only
      split
      · exact hClosing.trans (Writes.single (.closed id))
      · exact hClosing

theorem writes_closeFor (code : WsCloseCode) : Writes records s (s.closeFor deps id code) :=
  (s.writes_close deps id code).trans (Writes.single (.stopHeartbeat id))

theorem writes_checkBackpressure : Writes records s (s.checkBackpressure deps id) := by
  unfold checkBackpressure
  split
  · exact Writes.refl s
  · next c hGet =>
    split
    · exact s.writes_close deps id _
    · exact Writes.refl s
    · split
      · exact Writes.refl s
      · have hMarked : Writes records s (s.modifyData id fun d =>
            { d with backpressure := d.backpressure.markNotified }) :=
          Writes.single (.count id _ fun c _ => ⟨rfl, rfl, rfl, rfl, rfl, rfl, rfl, rfl, rfl⟩)
        have hWarned := hMarked.tail (.notify id _
          (.backpressure c.data.backpressure.depth deps.config.sendBufferHardLimit))
        dsimp only
        split
        · exact hWarned.trans (writes_close deps _ id _)
        · exact hWarned

end

theorem writes_heartbeatTick (now : Int) (s : Server World) (id : Nat) (capturedId : String) :
    Writes records s (s.heartbeatTick deps now id capturedId) := by
  unfold heartbeatTick
  split
  · exact Writes.refl s
  · split
    · exact Writes.refl s
    · dsimp only
      split
      · exact s.writes_close deps id _
      · exact Writes.single (.spawn _ trivial)

/-! ## Messages -/

theorem writes_handleAuthFrame (s : Server World) (id : Nat) (frame : ClientFrame) :
    Writes records s (s.handleAuthFrame deps id frame) := by
  have hReject : ∀ t : Server World, Writes records t
      ((t.sendJson id (.authError .protocolError "Invalid auth frame")).close deps id
        .protocolError) := fun t =>
    (Writes.single (.notify id _ (.authError _ _))).trans (writes_close deps _ id _)
  unfold handleAuthFrame
  split
  · exact Writes.refl s
  · next c hGet =>
    split
    · exact Writes.refl s
    · have hCleared : Writes records s ((s.clearTimer c.data.authTimer).modifyData id fun d =>
          { d with authTimer := none }) :=
        Writes.single (.dropAuthTimer id c hGet)
      cases frame with
      | auth authFrame requestId => exact hCleared.trans (Writes.single (.spawn _ trivial))
      | request request => exact hCleared.trans (hReject _)
      | malformed requestId => exact hCleared.trans (hReject _)

theorem writes_handleRequestFrame (s : Server World) (id : Nat) (frame : ClientFrame) :
    Writes records s (s.handleRequestFrame deps id frame) := by
  unfold handleRequestFrame
  split
  · exact s.writes_close deps id _
  · exact Writes.single (.spawn _ trivial)

theorem counts_countMessage (config : WsServerConfig) (now : Int) (c : Connection) :
    c.Counts (c.withData fun _ =>
      (countMessage config now { c.data with lastClientActivity := now }).1) := by
  unfold countMessage
  split
  · exact ⟨rfl, rfl, rfl, rfl, rfl, rfl, rfl, rfl, rfl⟩
  · split <;> exact ⟨rfl, rfl, rfl, rfl, rfl, rfl, rfl, rfl, rfl⟩

theorem writes_onMessage (now : Int) (s : Server World) (id : Nat) (message : ClientMessage) :
    Writes records s (s.onMessage deps now id message) := by
  unfold onMessage
  split
  · exact Writes.refl s
  · next c hGet =>
    split
    · exact Writes.refl s
    · have hCounted : Writes records s (s.modifyData id fun _ =>
          (countMessage deps.config now { c.data with lastClientActivity := now }).1) := by
        refine Writes.single (.count id _ fun c' hGet' => ?_)
        rw [hGet] at hGet'
        cases hGet'
        exact counts_countMessage deps.config now c
      refine hCounted.trans ?_
      dsimp only
      split
      · exact writes_close deps _ id _
      · cases message with
        | invalidJson => exact writes_close deps _ id _
        | json frame =>
          cases c.data.phase with
          | authenticating => exact writes_handleAuthFrame deps _ id frame
          | active => exact writes_handleRequestFrame deps _ id frame
          | draining => exact Writes.refl _
          | closed => exact Writes.refl _

/-! ## Requests -/

@[simp]
theorem requestId_internalErrorResponse (requestId : String) :
    (internalErrorResponse requestId).requestId = requestId := rfl

@[simp]
theorem requestId_routeRequest (request : HarnessRequest) (result : Except SignetError Json) :
    (routeRequest request result).requestId = request.requestId := by
  cases result <;> rfl

theorem writes_completeRequest (s : Server World) (id : Nat) {requestId : String}
    (hId : response.requestId = requestId) :
    Writes records s (s.completeRequest id requestId response) := by
  subst hId
  unfold completeRequest
  split
  · exact Writes.refl s
  · next inflight hInFlight =>
    rw [Option.bind_eq_some_iff] at hInFlight
    obtain ⟨c, hGet, hEntry⟩ := hInFlight
    exact Writes.single (.complete id c inflight response hGet hEntry)

theorem writes_finishHandling (s : Server World) (id : Nat) (request : HarnessRequest)
    (result : Option (Except SignetError Json)) :
    Writes records s (s.finishHandling id request result) := by
  unfold finishHandling
  split
  · exact s.writes_completeRequest id (requestId_internalErrorResponse _)
  · next result =>
    dsimp only
    split
    · exact Writes.single (.spawn _ (requestId_routeRequest request result))
    · exact s.writes_completeRequest id (requestId_routeRequest request result)

theorem writes_finishResync (s : Server World) (id : Nat) {requestId : String}
    (hId : response.requestId = requestId) (result : Option (Except SignetError CredentialRecord))
    (hRecord : ∀ record, result = some (.ok record) → records id record) :
    Writes records s (s.finishResync id requestId response result) := by
  unfold finishResync
  split
  · exact s.writes_completeRequest id (requestId_internalErrorResponse _)
  · exact s.writes_completeRequest id hId
  · next fresh =>
    exact (Writes.single (.cache id fresh (hRecord fresh rfl))).trans
      (writes_completeRequest _ id hId)

theorem writes_onTimer (now : Int) (s : Server World) (ref : Nat) {timer : Timer}
    (hTimer : s.timers.get ref = some timer) : Writes records s (s.onTimer deps now ref timer) := by
  cases timer with
  | heartbeat id capturedId => exact s.writes_heartbeatTick deps now id capturedId
  | authTimeout id =>
    refine (Writes.single (.expireAuth ref id hTimer)).trans ?_
    unfold onTimer
    dsimp only
    split
    · exact (Writes.single (.notify id _ (.authError _ _))).trans (writes_close deps _ id _)
    · exact Writes.refl _
  | requestTimeout id requestId operation =>
    exact Writes.single (.expireRequest ref id operation (.failed requestId _) hTimer)

/-! ## Invalidations, opening and stopping -/

theorem writes_refreshConnection (result : Except SignetError CredentialRecord)
    (s : Server World) (id : Nat) (hRecord : ∀ record, result = .ok record → records id record) :
    Writes records s (refreshConnection deps result s id) := by
  unfold refreshConnection
  split
  · exact Writes.refl s
  · split
    · exact Writes.refl s
    · split
      · exact s.writes_closeFor deps id _
      · next fresh =>
        refine (Writes.single (.cache id fresh (hRecord fresh rfl))).trans ?_
        split
        · exact writes_closeFor deps _ id _
        · exact Writes.refl _

theorem writes_refreshCredential (s : Server World) (credentialId : String) (myGen : Nat)
    (result : Option (Except SignetError CredentialRecord))
    (hRecord : ∀ id record, result = some (.ok record) → id ∈ s.getByCredentialId credentialId →
      records id record) :
    Writes records s (s.refreshCredential deps credentialId myGen result) := by
  unfold refreshCredential
  split
  · next result entry hPending =>
    split
    · exact Writes.refl s
    · refine Writes.foldl _ (fun t id hId => writes_refreshConnection deps result t id ?_) s
      intro record hOk
      exact hRecord id record (congrArg some hOk) hId
  · exact Writes.refl s

theorem writes_onOpen (now : Int) (s : Server World) : Writes records s (s.onOpen deps now) := by
  unfold onOpen
  dsimp only
  split
  · exact (Writes.single (.enter now deps.config.sendBufferSoftLimit
      deps.config.sendBufferHardLimit)).trans (writes_close deps _ _ _)
  · exact Writes.single (.enterArmed now deps.config.sendBufferSoftLimit
      deps.config.sendBufferHardLimit)

theorem writes_finishDraining (s : Server World) : Writes records s (s.finishDraining deps) :=
  (Writes.foldl s.registry.items (fun t id _ => t.writes_close deps id _) s).tail
    (.spawn _ trivial)

end Server
end Ws
end Signet
