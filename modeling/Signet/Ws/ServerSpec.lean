import Signet.Ws.Writes

/-!
# What the operations of the server do to the replay of events

Most of the server neither sequences an event nor authenticates a connection.
For the rest it is enough to know which events a call sequences, and on which
connections, in order.

* `Quiet` — nothing is sequenced, authenticated or queued.
* `Sends` — exactly these events are sequenced on these connections.
* `sends_broadcastToCredential`, `sends_releaseInvalidation`, `sends_stop` — the
  sends of the calls that broadcast.
-/

namespace Signet
namespace Ws

open Kit Schemas Sessions

/-- A write to a connection that sequences nothing on it. -/
structure Connection.Quiet (c c' : Connection) : Prop where
  replayState : c'.data.credentialReplayState = c.data.credentialReplayState
  credentialId : c'.data.credentialId = c.data.credentialId
  sent : ∃ more, c'.socket.sent = c.socket.sent ++ more ∧ ∀ frame ∈ more, frame.IsPlain
  isOpen : c'.isOpen = true → c.isOpen = true

theorem Connection.quiet_of_socket {c c' : Connection}
    (hState : c'.data.credentialReplayState = c.data.credentialReplayState)
    (hId : c'.data.credentialId = c.data.credentialId) (hSocket : c'.socket = c.socket) :
    c.Quiet c' :=
  ⟨hState, hId, ⟨[], by simp [hSocket], by simp⟩, by simp [Connection.isOpen, hSocket]⟩

/-- A socket that goes on closing takes no more frames than before. -/
theorem Connection.quiet_withState (c : Connection) {state : SocketState} (h : state ≠ .open) :
    c.Quiet { c with socket := { c.socket with state := state } } :=
  ⟨rfl, rfl, ⟨[], by simp, by simp⟩, by simp [Connection.isOpen, h]⟩

theorem Connection.Counts.quiet {c c' : Connection} (h : c.Counts c') : c.Quiet c' :=
  ⟨h.credentialReplayState, h.credentialId, ⟨[], by simp [h.sent], by simp⟩,
    by simp [Connection.isOpen, h.state]⟩

theorem Connection.quiet_sendJson (c : Connection) {frame : ServerFrame} (h : frame.IsPlain) :
    c.Quiet (c.sendJson frame) where
  replayState := c.sendJson_credentialReplayState frame
  credentialId := c.sendJson_credentialId frame
  sent := by
    refine ⟨_, c.sendJson_sent frame, ?_⟩
    intro frame' hFrame'
    split at hFrame'
    · rw [List.mem_singleton] at hFrame'
      rwa [hFrame']
    · cases hFrame'
  isOpen := by simp [Connection.isOpen]

variable {World : Type}

namespace Server

/-! ## Views of a connection -/

/-- The reference of the replay state attached to a connection. -/
def attachment (s : Server World) (id : Nat) : Option Nat :=
  (s.connections.get id).bind fun c => c.data.credentialReplayState

/-- The credential a connection has been authenticated for. -/
def credentialIdOf (s : Server World) (id : Nat) : Option String :=
  (s.connections.get id).bind fun c => c.data.credentialId

/-- The frames put on the socket of a connection, oldest first. -/
def sentOn (s : Server World) (id : Nat) : List ServerFrame :=
  ((s.connections.get id).map fun c => c.socket.sent).getD []

def sequencedOn (s : Server World) (id : Nat) : List SequencedFrame :=
  (s.sentOn id).filterMap ServerFrame.sequenced?

/-- The connection has a socket that takes frames. -/
def isOpen (s : Server World) (id : Nat) : Bool := (s.connections.get id).any Connection.isOpen

/-- An authentication of the connection awaits the fingerprint of its token. -/
def InHandshake (s : Server World) (id : Nat) : Prop :=
  ∃ task handshake, s.tasks.get task = some (.authFingerprint handshake) ∧ handshake.conn = id

/-- The task is an authentication of the connection that awaits the fingerprint. -/
def isHandshakeOf (id : Nat) : Task → Bool
  | .authFingerprint handshake => handshake.conn == id
  | _ => false

theorem inHandshake_iff_any (s : Server World) (id : Nat) :
    s.InHandshake id ↔
      s.tasks.slots.any (fun slot => slot.any (isHandshakeOf id)) = true := by
  simp only [List.any_eq_true, Option.any_eq_true]
  constructor
  · rintro ⟨task, handshake, hTask, hConn⟩
    unfold Arena.get at hTask
    cases hSlot : s.tasks.slots[task]? with
    | none => rw [hSlot] at hTask; cases hTask
    | some slot =>
      rw [hSlot] at hTask
      refine ⟨slot, List.mem_of_getElem? hSlot, _, hTask, ?_⟩
      simp [isHandshakeOf, hConn]
  · rintro ⟨slot, hMem, task, hTask, hIs⟩
    obtain ⟨i, hi⟩ := List.mem_iff_getElem?.mp hMem
    cases task with
    | authFingerprint handshake =>
      refine ⟨i, handshake, ?_, by simpa [isHandshakeOf] using hIs⟩
      unfold Arena.get
      rw [hi, hTask]
      rfl
    | _ => cases hIs

instance (s : Server World) (id : Nat) : Decidable (s.InHandshake id) :=
  decidable_of_iff _ (s.inHandshake_iff_any id).symm

variable {id id' ref : Nat} {t : Server World} {task : Task}
  {records : Nat → CredentialRecord → Prop}

theorem replayState_eq_some_iff {s : Server World} {state : CredentialReplayState World} :
    s.replayState id = some (ref, state) ↔
      s.attachment id = some ref ∧ s.cells.get ref = some state := by
  unfold replayState attachment
  cases (s.connections.get id).bind fun c => c.data.credentialReplayState with
  | none => simp
  | some ref' =>
    simp only [Option.map_eq_some_iff, Prod.mk.injEq, Option.some.injEq]
    constructor
    · rintro ⟨state', hGet, rfl, rfl⟩
      exact ⟨rfl, hGet⟩
    · rintro ⟨rfl, hGet⟩
      exact ⟨state, hGet, rfl, rfl⟩

/-! ## Quiet operations -/

/-- Nothing is sequenced, and no connection is authenticated. -/
structure SameReplay (s t : Server World) : Prop where
  cells : t.cells = s.cells
  oldStates : ∀ credentialId ref, t.credentialStates.get credentialId = some ref →
    s.credentialStates.get credentialId = some ref
  handshakes : ∀ task handshake, t.tasks.get task = some (.authFingerprint handshake) ↔
    s.tasks.get task = some (.authFingerprint handshake)
  attachment : ∀ id, t.attachment id = s.attachment id
  credentialIdOf : ∀ id, t.credentialIdOf id = s.credentialIdOf id
  sent : ∀ id, ∃ more, t.sentOn id = s.sentOn id ++ more ∧ ∀ frame ∈ more, frame.IsPlain
  isOpen : ∀ id, s.attachment id ≠ none → t.isOpen id = true → s.isOpen id = true

/-- Nothing is queued either, and no replay state is dropped. -/
structure Quiet (s t : Server World) : Prop extends SameReplay s t where
  credentialStates : t.credentialStates = s.credentialStates
  invalidations : ∀ task credentialId generation,
    t.tasks.get task = some (.invalidation credentialId generation) ↔
      s.tasks.get task = some (.invalidation credentialId generation)
  pendingInvalidations : t.pendingInvalidations = s.pendingInvalidations
  invalidationGen : t.invalidationGen = s.invalidationGen
  offers : t.offers = s.offers
  dispatched : t.dispatched = s.dispatched

theorem SameReplay.refl (s : Server World) : SameReplay s s :=
  ⟨rfl, fun _ _ hGet => hGet, fun _ _ => Iff.rfl, fun _ => rfl, fun _ => rfl,
    fun _ => ⟨[], by simp⟩, fun _ _ hOpen => hOpen⟩

theorem SameReplay.trans {s u : Server World} (h : SameReplay s t) (h' : SameReplay t u) :
    SameReplay s u where
  cells := h'.cells.trans h.cells
  oldStates := fun credentialId ref hGet =>
    h.oldStates credentialId ref (h'.oldStates credentialId ref hGet)
  handshakes := fun task handshake => (h'.handshakes task handshake).trans
    (h.handshakes task handshake)
  attachment := fun id => (h'.attachment id).trans (h.attachment id)
  credentialIdOf := fun id => (h'.credentialIdOf id).trans (h.credentialIdOf id)
  sent := by
    intro id
    obtain ⟨more, hMore, hPlain⟩ := h.sent id
    obtain ⟨more', hMore', hPlain'⟩ := h'.sent id
    refine ⟨more ++ more', by rw [hMore', hMore, List.append_assoc], ?_⟩
    intro frame hFrame
    rcases List.mem_append.mp hFrame with hFrame | hFrame
    · exact hPlain frame hFrame
    · exact hPlain' frame hFrame
  isOpen := by
    intro id hAttached hOpen
    exact h.isOpen id hAttached (h'.isOpen id (by rwa [h.attachment]) hOpen)

theorem Quiet.refl (s : Server World) : Quiet s s :=
  ⟨SameReplay.refl s, rfl, fun _ _ _ => Iff.rfl, rfl, rfl, rfl, rfl⟩

theorem Quiet.trans {s u : Server World} (h : Quiet s t) (h' : Quiet t u) : Quiet s u where
  toSameReplay := h.toSameReplay.trans h'.toSameReplay
  credentialStates := h'.credentialStates.trans h.credentialStates
  invalidations := fun task credentialId generation =>
    (h'.invalidations task credentialId generation).trans
      (h.invalidations task credentialId generation)
  pendingInvalidations := h'.pendingInvalidations.trans h.pendingInvalidations
  invalidationGen := h'.invalidationGen.trans h.invalidationGen
  offers := h'.offers.trans h.offers
  dispatched := h'.dispatched.trans h.dispatched

theorem Quiet.foldl {β : Type} {f : Server World → β → Server World} (l : List β)
    (hf : ∀ s b, Quiet s (f s b)) (s : Server World) : Quiet s (l.foldl f s) := by
  induction l generalizing s with
  | nil => exact Quiet.refl s
  | cons b l ih => exact (hf s b).trans (ih (f s b))

/-- A write to the bookkeeping of broadcasts, the registry or the timers. -/
theorem SameReplay.of_core {s : Server World} (hConnections : t.connections = s.connections)
    (hCells : t.cells = s.cells) (hStates : t.credentialStates = s.credentialStates)
    (hTasks : t.tasks = s.tasks) : SameReplay s t := by
  refine ⟨hCells, ?_, ?_, ?_, ?_, ?_, ?_⟩
  · intro credentialId ref hGet
    rwa [hStates] at hGet
  · intro task handshake
    rw [hTasks]
  · intro id
    unfold Server.attachment
    rw [hConnections]
  · intro id
    unfold Server.credentialIdOf
    rw [hConnections]
  · intro id
    exact ⟨[], by simp [sentOn, hConnections], by simp⟩
  · intro id _ hOpen
    unfold Server.isOpen at hOpen ⊢
    rwa [hConnections] at hOpen

/-- The parts that are looked at. -/
def view (s : Server World) :=
  (s.connections, s.cells, s.credentialStates, s.tasks, s.pendingInvalidations,
    s.invalidationGen, s.offers, s.dispatched)

/-- A write to any other part. -/
theorem Quiet.of_view {s : Server World} (h : t.view = s.view) : Quiet s t := by
  simp only [view, Prod.mk.injEq] at h
  obtain ⟨hConnections, hCells, hStates, hTasks, hPending, hGen, hOffers, hDispatched⟩ := h
  exact ⟨.of_core hConnections hCells hStates hTasks, hStates, by simp [hTasks], hPending, hGen,
    hOffers, hDispatched⟩

section

variable (s : Server World)

theorem quiet_modifyConnection (id : Nat) {f : Connection → Connection}
    (hf : ∀ c : Connection, s.connections.get id = some c → c.Quiet (f c)) :
    Quiet s (s.modifyConnection id f) := by
  refine ⟨⟨rfl, fun _ _ hGet => hGet, fun _ _ => Iff.rfl, ?_, ?_, ?_, ?_⟩, rfl,
    fun _ _ _ => Iff.rfl, rfl, rfl, rfl, rfl⟩
  · intro id'
    unfold Server.attachment
    rw [connections_modifyConnection]
    split
    · next hId =>
      cases hGet : s.connections.get id' with
      | none => rfl
      | some c => exact (hf c (hId ▸ hGet)).replayState
    · rfl
  · intro id'
    unfold Server.credentialIdOf
    rw [connections_modifyConnection]
    split
    · next hId =>
      cases hGet : s.connections.get id' with
      | none => rfl
      | some c => exact (hf c (hId ▸ hGet)).credentialId
    · rfl
  · intro id'
    unfold sentOn
    rw [connections_modifyConnection]
    split
    · next hId =>
      cases hGet : s.connections.get id' with
      | none => exact ⟨[], rfl, by simp⟩
      | some c => exact (hf c (hId ▸ hGet)).sent
    · exact ⟨[], by simp, by simp⟩
  · intro id' _ hOpen
    unfold Server.isOpen at hOpen ⊢
    rw [connections_modifyConnection] at hOpen
    split at hOpen
    · next hId =>
      cases hGet : s.connections.get id' with
      | none => simp [hGet] at hOpen
      | some c =>
        rw [hGet] at hOpen
        exact (hf c (hId ▸ hGet)).isOpen hOpen
    · exact hOpen

theorem quiet_modifyData (id : Nat) {f : ConnectionData → ConnectionData}
    (hf : ∀ d, (f d).credentialReplayState = d.credentialReplayState := by intro _; rfl)
    (hId : ∀ d, (f d).credentialId = d.credentialId := by intro _; rfl) :
    Quiet s (s.modifyData id f) :=
  s.quiet_modifyConnection id fun c _ =>
    Connection.quiet_of_socket (hf c.data) (hId c.data) rfl

theorem quiet_sendJson (id : Nat) {frame : ServerFrame} (h : frame.IsPlain) :
    Quiet s (s.sendJson id frame) :=
  s.quiet_modifyConnection id fun c _ => c.quiet_sendJson h

theorem quiet_clearTimer (timer : Option Nat) : Quiet s (s.clearTimer timer) := by
  cases timer with
  | none => exact Quiet.refl s
  | some ref => exact Quiet.of_view rfl

theorem quiet_arm (timer : Timer) : Quiet s (s.arm timer) :=
  Quiet.of_view rfl

theorem quiet_cacheRecord (id : Nat) (record : CredentialRecord) :
    Quiet s (s.cacheRecord id record) :=
  s.quiet_modifyData id

/-- A new call is no other one. -/
theorem tasks_spawn {other : Task} (hNe : task ≠ other) (ref : Nat) :
    (s.spawn task).tasks.get ref = some other ↔ s.tasks.get ref = some other := by
  simp only [spawn, Arena.get_alloc]
  split
  · next hRef =>
    subst hRef
    simpa using hNe
  · rfl

theorem sameReplay_spawn (hTask : ∀ handshake, task ≠ .authFingerprint handshake) :
    SameReplay s (s.spawn task) :=
  ⟨rfl, fun _ _ hGet => hGet, fun ref handshake => s.tasks_spawn (hTask handshake) ref,
    fun _ => rfl, fun _ => rfl, fun _ => ⟨[], by simp [spawn, sentOn], by simp⟩,
    fun _ _ hOpen => hOpen⟩

/-- A call that awaits, but neither the fingerprint of a token nor an invalidation. -/
theorem quiet_spawn (hTask : task.IsPlain) : Quiet s (s.spawn task) := by
  have hFingerprint : ∀ handshake, task ≠ .authFingerprint handshake := by
    rintro handshake rfl
    exact hTask
  have hInvalidation : ∀ credentialId generation,
      task ≠ .invalidation credentialId generation := by
    rintro credentialId generation rfl
    exact hTask
  exact ⟨s.sameReplay_spawn hFingerprint, rfl,
    fun ref credentialId generation => s.tasks_spawn (hInvalidation credentialId generation) ref,
    rfl, rfl, rfl, rfl⟩

/-- The end of a call leaves every other one. -/
theorem tasks_take (hGet : s.tasks.get ref = some task) (ref' : Nat) {other : Task}
    (hNe : task ≠ other) :
    (s.take ref).tasks.get ref' = some other ↔ s.tasks.get ref' = some other := by
  simp only [take, Arena.get_free]
  split
  · next hRef =>
    subst hRef
    rw [hGet]
    simpa using hNe
  · rfl

section

variable (hGet : s.tasks.get ref = some task)
  (hTask : ∀ handshake, task ≠ .authFingerprint handshake)

include hGet hTask

theorem sameReplay_take : SameReplay s (s.take ref) :=
  ⟨rfl, fun _ _ hGet => hGet, fun ref' handshake => s.tasks_take hGet ref' (hTask handshake),
    fun _ => rfl, fun _ => rfl, fun _ => ⟨[], by simp [take, sentOn], by simp⟩,
    fun _ _ hOpen => hOpen⟩

/-- The end of a call that awaited neither a fingerprint nor an invalidation. -/
theorem quiet_take
    (hInvalidation : ∀ credentialId generation, task ≠ .invalidation credentialId generation) :
    Quiet s (s.take ref) :=
  ⟨s.sameReplay_take hGet hTask, rfl,
    fun ref' credentialId generation =>
      s.tasks_take hGet ref' (hInvalidation credentialId generation),
    rfl, rfl, rfl, rfl⟩

end

variable (id : Nat)

theorem quiet_forgetRequest (requestId : String) : Quiet s (s.forgetRequest id requestId) :=
  s.quiet_modifyData id

theorem quiet_cleanupConnection : Quiet s (s.cleanupConnection id) := by
  unfold cleanupConnection
  split
  · exact Quiet.refl s
  · next c hGet =>
    refine (s.quiet_clearTimer c.data.authTimer).trans ?_
    refine (quiet_clearTimer _ c.data.heartbeatTimer).trans ?_
    refine (Quiet.foldl c.data.inFlightRequests.values (fun s entry =>
      s.quiet_clearTimer (some entry.timer)) _).trans ?_
    have hClosed : ∀ t : Server World, Quiet t (t.modifyData id fun d =>
        (transition
          { d with authTimer := none, heartbeatTimer := none, inFlightRequests := .empty }
          .closed).1) :=
      fun t => t.quiet_modifyData id (fun _ => transition_credentialReplayState _ _)
        (fun _ => transition_credentialId _ _)
    exact (hClosed _).trans (Quiet.of_view rfl)

theorem quiet_closeHandler : Quiet s (s.closeHandler id) := by
  unfold closeHandler
  exact (s.quiet_modifyConnection id fun c _ => c.quiet_withState (by simp)).trans
    (quiet_cleanupConnection _ id)

theorem quiet_stopHeartbeat : Quiet s (s.stopHeartbeat id) := by
  unfold stopHeartbeat
  split
  · exact Quiet.refl s
  · next c hGet =>
    exact (s.quiet_clearTimer c.data.heartbeatTimer).trans (quiet_modifyData _ id)

theorem quiet_startHeartbeat : Quiet s (s.startHeartbeat id) := by
  unfold startHeartbeat
  split
  · exact Quiet.refl s
  · next record hGet =>
    exact Quiet.trans (s.quiet_arm (.heartbeat id record.credentialId)) (quiet_modifyData _ id)

end

theorem quiet_acceptRequest (now : Int) (s : Server World) (id : Nat) (request : HarnessRequest)
    (credential : CredentialRecord) : Quiet s (s.acceptRequest now id request credential) := by
  unfold acceptRequest
  have hArm := s.quiet_arm (.requestTimeout id request.requestId request.typeName)
  refine hArm.trans (Quiet.trans ?_ (quiet_spawn _ trivial))
  exact quiet_modifyData _ id

section

variable (s : Server World)

theorem quiet_answer (timer : Option Nat) (id : Nat) (requestId : String)
    (response : RequestResponse) :
    Quiet s (((s.clearTimer timer).forgetRequest id requestId).sendJson id
      (.response response)) :=
  (s.quiet_clearTimer timer).trans
    ((quiet_forgetRequest _ id requestId).trans (quiet_sendJson _ id ⟨rfl, rfl⟩))

section

variable (id : Nat) (requestId : String) (response : RequestResponse)

theorem quiet_completeRequest : Quiet s (s.completeRequest id requestId response) := by
  unfold completeRequest
  split
  · exact Quiet.refl s
  · next inflight hGet => exact s.quiet_answer (some inflight.timer) id requestId response

theorem quiet_finishResync (result : Option (Except SignetError CredentialRecord)) :
    Quiet s (s.finishResync id requestId response result) := by
  unfold finishResync
  split
  · exact s.quiet_completeRequest id _ _
  · exact s.quiet_completeRequest id _ _
  · exact (s.quiet_cacheRecord id _).trans (quiet_completeRequest _ id _ _)

end

/-- A new connection has no replay state, and nothing has been sent on it. -/
theorem quiet_enter (now : Int) (softLimit hardLimit : Nat) :
    Quiet s (s.enter now softLimit hardLimit) := by
  refine ⟨⟨rfl, fun _ _ hGet => hGet, fun _ _ => Iff.rfl, ?_, ?_, ?_, ?_⟩, rfl,
    fun _ _ _ => Iff.rfl, rfl, rfl, rfl, rfl⟩
  · intro id
    unfold Server.attachment
    simp only [enter, Arena.get_alloc]
    split
    · next hId => simp [hId, createConnectionState]
    · rfl
  · intro id
    unfold Server.credentialIdOf
    simp only [enter, Arena.get_alloc]
    split
    · next hId => simp [hId, createConnectionState]
    · rfl
  · intro id
    refine ⟨[], ?_, by simp⟩
    unfold sentOn
    simp only [enter, Arena.get_alloc]
    split
    · next hId => simp [hId]
    · simp
  · intro id hAttached hOpen
    unfold Server.isOpen at hOpen ⊢
    simp only [enter, Arena.get_alloc] at hOpen
    split at hOpen
    · next hId => simp [Server.attachment, hId] at hAttached
    · exact hOpen

end

theorem quiet_write {s : Server World} (h : Write records s t) : Quiet s t := by
  cases h with
  | count id f hCounts => exact s.quiet_modifyConnection id fun c hGet => (hCounts c hGet).quiet
  | notify id frame hNotice =>
    refine s.quiet_sendJson id ?_
    cases hNotice <;> exact ⟨rfl, rfl⟩
  | beginClosing id c code hGet hOpen =>
    exact s.quiet_modifyConnection id fun c _ => c.quiet_withState (by simp)
  | closed id => exact s.quiet_closeHandler id
  | cache id record hRecord => exact s.quiet_cacheRecord id record
  | stopHeartbeat id => exact s.quiet_stopHeartbeat id
  | dropAuthTimer id c hGet =>
    exact (s.quiet_clearTimer c.data.authTimer).trans (quiet_modifyData _ id)
  | expireAuth ref id hTimer => exact s.quiet_clearTimer (some ref)
  | expireRequest ref id operation response hTimer =>
    exact s.quiet_answer (some ref) id response.requestId response
  | complete id c inflight response hGet hInFlight =>
    exact s.quiet_answer (some inflight.timer) id response.requestId response
  | drain id =>
    exact s.quiet_modifyData id (fun _ => transition_credentialReplayState _ _)
      (fun _ => transition_credentialId _ _)
  | cleanup id => exact s.quiet_cleanupConnection id
  | enter now softLimit hardLimit => exact s.quiet_enter now softLimit hardLimit
  | enterArmed now softLimit hardLimit =>
    exact (s.quiet_enter now softLimit hardLimit).trans
      ((quiet_arm _ _).trans (quiet_modifyData _ _))
  | spawn task hTask => exact s.quiet_spawn hTask
  | take ref task hGet hFingerprint hInvalidation =>
    exact s.quiet_take hGet hFingerprint hInvalidation
  | serverState serverState => exact Quiet.of_view rfl

theorem Writes.quiet {s : Server World} (h : Writes records s t) : Quiet s t :=
  Writes.relates Quiet.refl Quiet.trans (fun _ _ => quiet_write) h

theorem quiet_rejectFrame (deps : WsServerDeps World) (s : Server World) (id : Nat)
    (maybeId : Option String) : Quiet s (s.rejectFrame deps id maybeId) := by
  unfold rejectFrame
  split
  · exact s.quiet_sendJson id ⟨rfl, rfl⟩
  · have hClosed : Writes (fun _ _ => False) s (s.close deps id .protocolError) :=
      s.writes_close deps id .protocolError
    exact hClosed.quiet

/-! ## Other connections -/

theorem get_modifyConnection_of_ne (s : Server World) (h : id' ≠ id) (f : Connection → Connection) :
    (s.modifyConnection id f).connections.get id' = s.connections.get id' := by
  rw [connections_modifyConnection, if_neg h]

theorem get_cleanupConnection_of_ne (s : Server World) (h : id' ≠ id) :
    (s.cleanupConnection id).connections.get id' = s.connections.get id' := by
  cases hGet : s.connections.get id with
  | none => rw [cleanupConnection_of_none hGet]
  | some c =>
    rw [s.cleanupConnection_eq hGet]
    unfold modifyData
    dsimp only
    rw [get_modifyConnection_of_ne _ h, connections_clearRequests, connections_clearTimer,
      connections_clearTimer]

section

variable (deps : WsServerDeps World) (s : Server World) (h : id' ≠ id)

include h

theorem get_close_of_ne (code : WsCloseCode) :
    (s.close deps id code).connections.get id' = s.connections.get id' := by
  unfold close
  split
  · rfl
  · split
    · rfl
    · dsimp only
      split
      · unfold closeHandler
        rw [get_cleanupConnection_of_ne _ h, get_modifyConnection_of_ne _ h,
          get_modifyConnection_of_ne _ h]
      · rw [get_modifyConnection_of_ne _ h]

theorem get_checkBackpressure_of_ne :
    (s.checkBackpressure deps id).connections.get id' = s.connections.get id' := by
  unfold checkBackpressure
  split
  · rfl
  · split
    · exact get_close_of_ne deps s h _
    · rfl
    · split
      · rfl
      · dsimp only
        unfold sendJson modifyData
        split
        · rw [get_close_of_ne deps _ h, get_modifyConnection_of_ne _ h,
            get_modifyConnection_of_ne _ h]
        · rw [get_modifyConnection_of_ne _ h, get_modifyConnection_of_ne _ h]

theorem get_sendSequenced_of_ne (event : SignetEvent) (origin : Origin World) :
    (s.sendSequenced deps id event origin).connections.get id' = s.connections.get id' := by
  unfold sendSequenced
  split
  · rfl
  · rw [get_checkBackpressure_of_ne deps _ h]
    unfold sequenceAndSend sendJson
    rw [get_modifyConnection_of_ne _ h]

end

/-! ## Sends -/

end Server

/-- An event to be sequenced on a connection. -/
structure Sending (World : Type) where
  conn : Nat
  event : SignetEvent
  origin : Origin World
deriving DecidableEq

namespace Server

/-- From `s` to `t` exactly these events are sequenced, in this order, each on a
connection with a replay state; between them only steps of `rel` are taken. -/
inductive SendsVia (rel : Server World → Server World → Prop) :
    Server World → List (Sending World) → Server World → Prop
  | quiet {s t : Server World} : rel s t → SendsVia rel s [] t
  | send {s t u : Server World} {sending : Sending World} {ref : Nat}
      {state : CredentialReplayState World} {rest : List (Sending World)} :
      rel s t → t.replayState sending.conn = some (ref, state) →
      SendsVia rel (t.sequenceAndSend sending.conn ref state sending.event sending.origin) rest u →
      SendsVia rel s (sending :: rest) u

/-- Nothing but these sends and elementary writes. -/
abbrev Sends (records : Nat → CredentialRecord → Prop) (s : Server World)
    (l : List (Sending World)) (t : Server World) : Prop :=
  SendsVia (Writes records) s l t

/-- These sends, while the bookkeeping of broadcasts may change. -/
abbrev SendsUpTo (s : Server World) (l : List (Sending World)) (t : Server World) : Prop :=
  SendsVia SameReplay s l t

variable {rel : Server World → Server World → Prop}

theorem SendsVia.of_rel (hTrans : ∀ s t u, rel s t → rel t u → rel s u) {s t u : Server World}
    {l : List (Sending World)} (h : rel s t) (hSends : SendsVia rel t l u) :
    SendsVia rel s l u := by
  cases hSends with
  | quiet h' => exact .quiet (hTrans _ _ _ h h')
  | send h' hState hRest => exact .send (hTrans _ _ _ h h') hState hRest

theorem SendsVia.append' (hTrans : ∀ s t u, rel s t → rel t u → rel s u) {s t u : Server World}
    {l l' : List (Sending World)} (h : SendsVia rel s l t) (h' : SendsVia rel t l' u) :
    SendsVia rel s (l ++ l') u := by
  induction h with
  | quiet hRel => exact h'.of_rel hTrans hRel
  | send hRel hState _ ih => exact .send hRel hState (ih h')

variable {l : List (Sending World)} {id id' task : Nat} {sending : Sending World}
  {t u : Server World} {label : ServerLabel World}

theorem SendsVia.mono {rel' : Server World → Server World → Prop} (hRel : ∀ s t, rel s t → rel' s t)
    {s : Server World} (h : SendsVia rel s l t) :
    SendsVia rel' s l t := by
  induction h with
  | quiet h => exact .quiet (hRel _ _ h)
  | send h hState _ ih => exact .send (hRel _ _ h) hState ih

variable {records : Nat → CredentialRecord → Prop} {deps : WsServerDeps World}
  {result : Option (Except SignetError CredentialRecord)}

theorem Sends.of_writes {s : Server World} (h : Writes records s t) (hSends : Sends records t l u) :
    Sends records s l u :=
  @SendsVia.of_rel World (Writes records) (fun _ _ _ => Relation.ReflTransGen.trans) _ _ _ _ h
    hSends

theorem Sends.append {s : Server World} {l' : List (Sending World)} (h : Sends records s l t)
    (h' : Sends records t l' u) : Sends records s (l ++ l') u :=
  @SendsVia.append' World (Writes records) (fun _ _ _ => Relation.ReflTransGen.trans) _ _ _ _ _ h
    h'

theorem Sends.trans_writes {s : Server World} (h : Sends records s l t) (h' : Writes records t u) :
    Sends records s l u := by
  simpa using Sends.append h (.quiet h')

theorem Sends.upTo {s : Server World} (h : Sends records s l t) :
    SendsUpTo s l t :=
  SendsVia.mono (fun _ _ hWrites => hWrites.quiet.toSameReplay) h

theorem SendsUpTo.of_sameReplay {s : Server World} (h : SameReplay s t) (hSends : SendsUpTo t l u) :
    SendsUpTo s l u :=
  @SendsVia.of_rel World SameReplay (fun _ _ _ => SameReplay.trans) _ _ _ _ h hSends

theorem SendsUpTo.append {s : Server World} {l' : List (Sending World)} (h : SendsUpTo s l t)
    (h' : SendsUpTo t l' u) : SendsUpTo s (l ++ l') u :=
  @SendsVia.append' World SameReplay (fun _ _ _ => SameReplay.trans) _ _ _ _ _ h h'

/-- A send changes the attached replay state and one connection only. -/
theorem cells_sequenceAndSend (s : Server World) (id ref ref' : Nat)
    (state : CredentialReplayState World) (event : SignetEvent) (origin : Origin World) :
    (s.sequenceAndSend id ref state event origin).cells.get ref' =
      if ref' = ref then (s.cells.get ref').map fun _ => (sequenceEvent state event origin).1
      else s.cells.get ref' := by
  simp [sequenceAndSend, sendJson, modifyConnection]

theorem attachment_modifyConnection (s : Server World) (id id' : Nat) {f : Connection → Connection}
    (hf : ∀ c, (f c).data.credentialReplayState = c.data.credentialReplayState) :
    (s.modifyConnection id f).attachment id' = s.attachment id' := by
  unfold attachment
  rw [connections_modifyConnection]
  split
  · cases s.connections.get id' with
    | none => rfl
    | some c => exact hf c
  · rfl

theorem attachment_sequenceAndSend (s : Server World) (id id' ref : Nat)
    (state : CredentialReplayState World) (event : SignetEvent) (origin : Origin World) :
    (s.sequenceAndSend id ref state event origin).attachment id' = s.attachment id' :=
  attachment_modifyConnection _ id id' fun c => c.sendJson_credentialReplayState _

theorem SendsUpTo.attachment {s : Server World} (h : SendsUpTo s l t) (id : Nat) :
    t.attachment id = s.attachment id := by
  induction h with
  | quiet hQuiet => exact hQuiet.attachment id
  | send hQuiet _ _ ih => rw [ih, attachment_sequenceAndSend, hQuiet.attachment]

theorem SendsUpTo.isSome_cells {s : Server World} (h : SendsUpTo s l t) (ref : Nat) :
    (t.cells.get ref).isSome = (s.cells.get ref).isSome := by
  induction h with
  | quiet hQuiet => rw [hQuiet.cells]
  | send hQuiet _ _ ih =>
    rw [ih, cells_sequenceAndSend, hQuiet.cells]
    split <;> simp

theorem isSome_replayState (s : Server World) (id : Nat) :
    (s.replayState id).isSome = (s.attachment id).any fun ref => (s.cells.get ref).isSome := by
  unfold replayState attachment
  split
  · next h => rw [h]; rfl
  · next ref h => rw [h]; simp

theorem SendsUpTo.isSome_replayState {s : Server World} (h : SendsUpTo s l t) (id : Nat) :
    (t.replayState id).isSome = (s.replayState id).isSome := by
  rw [Server.isSome_replayState, Server.isSome_replayState, SendsUpTo.attachment h]
  congr 1
  funext ref
  exact SendsUpTo.isSome_cells h ref

/-- The send, if the connection has a replay state. -/
def ifAttached (s : Server World) (sending : Sending World) : List (Sending World) :=
  if (s.replayState sending.conn).isSome then [sending] else []

theorem Sends.ifAttached {s : Server World} (h : Sends records s l t) (sending : Sending World) :
    t.ifAttached sending = s.ifAttached sending := by
  unfold Server.ifAttached
  rw [SendsUpTo.isSome_replayState h.upTo]

section

variable (deps : WsServerDeps World) (s : Server World) (id : Nat)

variable (event : SignetEvent) (origin : Origin World)

theorem sends_sendSequenced :
    Sends records s (s.ifAttached ⟨id, event, origin⟩)
      (s.sendSequenced deps id event origin) := by
  unfold Server.ifAttached sendSequenced
  cases hState : s.replayState id with
  | none => exact .quiet (Writes.refl s)
  | some found =>
    obtain ⟨ref, state⟩ := found
    refine SendsVia.send (Writes.refl s) hState (.quiet ?_)
    exact writes_checkBackpressure deps _ id

theorem sendsUpTo_sendSequenced :
    SendsUpTo s (s.ifAttached ⟨id, event, origin⟩) (s.sendSequenced deps id event origin) := by
  have hSends : Sends (fun _ _ => False) s (s.ifAttached ⟨id, event, origin⟩)
      (s.sendSequenced deps id event origin) :=
    sends_sendSequenced deps s id event origin
  exact Sends.upTo hSends

end

/-- **The loop rule.**  A loop over different connections, each turn of which
depends on the connection it is for, sends what every turn would send at first. -/
theorem sends_foldl {turn : Server World → Nat → Server World}
    {sent : Server World → Nat → List (Sending World)}
    (hTurn : ∀ s id, Sends records s (sent s id) (turn s id))
    (hLocal : ∀ s id id', id' ≠ id → sent (turn s id) id' = sent s id')
    {ids : List Nat} (hNodup : ids.Nodup) (s : Server World) :
    Sends records s (ids.flatMap (sent s)) (ids.foldl turn s) := by
  induction ids generalizing s with
  | nil => exact .quiet (Writes.refl s)
  | cons id ids ih =>
    rw [List.nodup_cons] at hNodup
    have hRest : ids.flatMap (sent (turn s id)) = ids.flatMap (sent s) := by
      refine List.flatMap_congr ?_
      intro id' hId'
      exact hLocal s id id' fun hEq => hNodup.1 (hEq ▸ hId')
    rw [List.flatMap_cons, ← hRest]
    exact Sends.append (hTurn s id) (ih hNodup.2 (turn s id))

/-! ## The sends of a broadcast -/

/-- What one turn of the broadcast loop sends. -/
def sendingTo (deps : WsServerDeps World) (world : World) (credentialId : String)
    (offered : Offered) (s : Server World) (id : Nat) : List (Sending World) :=
  match s.projectFor deps world offered.event id with
  | none => []
  | some (credential, projected) =>
    s.ifAttached ⟨id, projected, .broadcast credentialId offered credential world⟩

def broadcastSendings (deps : WsServerDeps World) (world : World) (s : Server World)
    (credentialId : String) (offered : Offered) : List (Sending World) :=
  (s.getByCredentialId credentialId).flatMap (sendingTo deps world credentialId offered s)

section

variable (deps : WsServerDeps World) (world : World) (credentialId : String)

variable (offered : Offered) (s : Server World)

theorem sends_broadcastTo (id : Nat) :
    Sends records s (sendingTo deps world credentialId offered s id)
      (broadcastTo deps world credentialId offered s id) := by
  unfold sendingTo broadcastTo
  cases s.projectFor deps world offered.event id with
  | none => exact .quiet (Writes.refl s)
  | some found => exact sends_sendSequenced deps s id _ _

theorem get_broadcastTo_of_ne (h : id' ≠ id) :
    (broadcastTo deps world credentialId offered s id).connections.get id' =
      s.connections.get id' := by
  unfold broadcastTo
  split
  · rfl
  · exact get_sendSequenced_of_ne deps s h _ _

end

theorem sends_broadcastToCredential (deps : WsServerDeps World) (world : World)
    {s : Server World} {credentialId : String} (offered : Offered)
    (hDirect : s.pendingInvalidations.get credentialId = none) :
    Sends records { s with dispatched := s.dispatched ++ [(credentialId, offered)] }
      (s.broadcastSendings deps world credentialId offered)
      (s.broadcastToCredential deps world credentialId offered) := by
  unfold broadcastToCredential broadcastSendings
  rw [hDirect]
  refine sends_foldl (fun t id => sends_broadcastTo deps world credentialId offered t id) ?_
    (s.registry.nodup.filter _) _
  intro t id id' hNe
  have hSends : Sends records t (sendingTo deps world credentialId offered t id)
      (broadcastTo deps world credentialId offered t id) :=
    sends_broadcastTo deps world credentialId offered t id
  unfold sendingTo projectFor
  rw [get_broadcastTo_of_ne deps world credentialId offered t hNe]
  simp only [Sends.ifAttached hSends]

def drainSendings (deps : WsServerDeps World) (world : World) (credentialId : String) :
    Server World → List Offered → List (Sending World)
  | _, [] => []
  | s, offered :: rest =>
    s.broadcastSendings deps world credentialId offered ++
      drainSendings deps world credentialId
        (s.broadcastToCredential deps world credentialId offered) rest

theorem Sends.pendingInvalidations {s : Server World} (h : Sends records s l t) :
    t.pendingInvalidations = s.pendingInvalidations := by
  induction h with
  | quiet hWrites => exact hWrites.quiet.pendingInvalidations
  | send hWrites _ _ ih => exact ih.trans hWrites.quiet.pendingInvalidations

section

variable (deps : WsServerDeps World) (world : World) {credentialId : String} {s : Server World}

section

variable (offered : Offered) (hDirect : s.pendingInvalidations.get credentialId = none)

include hDirect

theorem pendingInvalidations_broadcastToCredential :
    (s.broadcastToCredential deps world credentialId offered).pendingInvalidations =
      s.pendingInvalidations := by
  have hSends : Sends (fun _ _ => False)
      { s with dispatched := s.dispatched ++ [(credentialId, offered)] }
      (s.broadcastSendings deps world credentialId offered)
      (s.broadcastToCredential deps world credentialId offered) :=
    sends_broadcastToCredential deps world offered hDirect
  have hKept := Sends.pendingInvalidations hSends
  exact hKept

theorem sendsUpTo_broadcastToCredential :
    SendsUpTo s (s.broadcastSendings deps world credentialId offered)
      (s.broadcastToCredential deps world credentialId offered) := by
  have hDispatched : SameReplay s
      { s with dispatched := s.dispatched ++ [(credentialId, offered)] } :=
    .of_core rfl rfl rfl rfl
  have hSends : Sends (fun _ _ => False)
      { s with dispatched := s.dispatched ++ [(credentialId, offered)] }
      (s.broadcastSendings deps world credentialId offered)
      (s.broadcastToCredential deps world credentialId offered) :=
    sends_broadcastToCredential deps world offered hDirect
  exact SendsUpTo.of_sameReplay hDispatched (Sends.upTo hSends)

end

theorem sendsUpTo_drain (hDirect : s.pendingInvalidations.get credentialId = none)
    (events : List Offered) :
    SendsUpTo s (drainSendings deps world credentialId s events)
      (events.foldl
        (fun s offered => s.broadcastToCredential deps world credentialId offered) s) := by
  induction events generalizing s with
  | nil => exact .quiet (SameReplay.refl s)
  | cons offered events ih =>
    have hKept := pendingInvalidations_broadcastToCredential deps world offered hDirect
    exact SendsUpTo.append (sendsUpTo_broadcastToCredential deps world offered hDirect)
      (ih (by rw [hKept]; exact hDirect))

end

/-! ## The sends of heartbeats and of the shutdown -/

inductive Notice : Sending World → Prop
  | heartbeat (conn : Nat) (credentialId : String) (now : Int) :
      Notice ⟨conn, .heartbeat credentialId now, .heartbeat⟩
  | shutdown (conn : Nat) (credentialId reason : String) :
      Notice ⟨conn, .credentialExpired credentialId reason, .shutdown⟩

theorem notice_of_mem_ifAttached {s : Server World} {sending' : Sending World}
    (hNotice : Notice sending') (h : sending ∈ s.ifAttached sending') : Notice sending := by
  unfold Server.ifAttached at h
  split at h
  · rw [List.mem_singleton] at h
    rwa [h]
  · cases h

def heartbeatSendings (now : Int) (s : Server World) (id : Nat) (credentialId : String)
    (result : Except SignetError CredentialRecord) : List (Sending World) :=
  match result with
  | .error _ => []
  | .ok fresh =>
    if fresh.status ≠ .active then []
    else s.ifAttached ⟨id, .heartbeat credentialId now, .heartbeat⟩

theorem sends_finishHeartbeat (deps : WsServerDeps World) (now : Int) (s : Server World) (id : Nat)
    (credentialId : String) (result : Except SignetError CredentialRecord)
    (hRecord : ∀ record, result = .ok record → records id record) :
    Sends records s (heartbeatSendings now s id credentialId result)
      (s.finishHeartbeat deps now id credentialId result) := by
  unfold heartbeatSendings finishHeartbeat
  cases result with
  | error error => exact .quiet (s.writes_closeFor deps id _)
  | ok fresh =>
    have hCached := Writes.single (Write.cache (s := s) id fresh (hRecord fresh rfl))
    dsimp only
    split
    · exact .quiet (hCached.trans (writes_closeFor deps _ id _))
    · rw [← Sends.ifAttached (.quiet hCached)]
      exact Sends.of_writes hCached (sends_sendSequenced deps _ id _ _)

def shutdownSending (s : Server World) (id : Nat) : List (Sending World) :=
  match s.connections.get id with
  | none => []
  | some c =>
    if c.data.phase ≠ .active then []
    else
      match c.data.credentialRecord with
      | none => []
      | some record => s.ifAttached
          ⟨id, .credentialExpired record.credentialId "signet_shutdown", .shutdown⟩

theorem sends_announceShutdown (deps : WsServerDeps World) (s : Server World) (id : Nat) :
    Sends records s (s.shutdownSending id) (s.announceShutdown deps id) := by
  unfold shutdownSending announceShutdown
  cases s.connections.get id with
  | none => exact .quiet (Writes.refl s)
  | some c =>
    by_cases hActive : c.data.phase = .active
    · simp only [hActive, ne_eq, not_true_eq_false, if_false]
      cases c.data.credentialRecord with
      | none => exact .quiet (Writes.refl s)
      | some record =>
        exact Sends.trans_writes (sends_sendSequenced deps s id _ _)
          (Writes.single (.drain id))
    · simp only [hActive, ne_eq, not_false_eq_true, if_true]
      exact .quiet (Writes.refl s)

theorem notice_heartbeatSendings {now : Int} {s : Server World} {credentialId : String}
    {result : Except SignetError CredentialRecord}
    (h : sending ∈ heartbeatSendings now s id credentialId result) : Notice sending := by
  unfold heartbeatSendings at h
  split at h
  · cases h
  · split at h
    · cases h
    · exact notice_of_mem_ifAttached (.heartbeat id credentialId now) h

theorem notice_shutdownSending {s : Server World} (h : sending ∈ s.shutdownSending id) :
    Notice sending := by
  unfold shutdownSending at h
  split at h
  · cases h
  · split at h
    · cases h
    · split at h
      · cases h
      · exact notice_of_mem_ifAttached (.shutdown id _ _) h

theorem get_announceShutdown_of_ne (deps : WsServerDeps World) (s : Server World) (h : id' ≠ id) :
    (s.announceShutdown deps id).connections.get id' = s.connections.get id' := by
  unfold announceShutdown
  split
  · rfl
  · split
    · rfl
    · split
      · rfl
      · unfold modifyData
        rw [get_modifyConnection_of_ne _ h, get_sendSequenced_of_ne deps s h]

theorem sends_stop (deps : WsServerDeps World) (s : Server World) :
    Sends records s (s.registry.items.flatMap s.shutdownSending) (s.stop deps) := by
  have hDraining : Writes records s { s with serverState := .draining } :=
    Writes.single (.serverState _)
  have hLoop : Sends records { s with serverState := .draining }
      (s.registry.items.flatMap s.shutdownSending)
      (s.registry.items.foldl (announceShutdown deps) { s with serverState := .draining }) := by
    refine sends_foldl (fun t id => sends_announceShutdown deps t id) ?_ s.registry.nodup _
    intro t id id' hNe
    have hSends : Sends records t (t.shutdownSending id) (announceShutdown deps t id) :=
      sends_announceShutdown deps t id
    unfold shutdownSending
    rw [get_announceShutdown_of_ne deps t hNe]
    simp only [Sends.ifAttached hSends]
  exact Sends.trans_writes (Sends.of_writes hDraining hLoop) (Writes.single (.spawn _ trivial))

/-! ## Frames on a socket -/

section

variable (s : Server World)

theorem sentOn_modifyConnection_of_ne (h : id' ≠ id) (f : Connection → Connection) :
    (s.modifyConnection id f).sentOn id' = s.sentOn id' := by
  unfold sentOn
  rw [get_modifyConnection_of_ne s h]

theorem sentOn_sendJson_of_ne (h : id' ≠ id) (frame : ServerFrame) :
    (s.sendJson id frame).sentOn id' = s.sentOn id' :=
  s.sentOn_modifyConnection_of_ne h _

theorem sentOn_sendJson_self (id : Nat) (frame : ServerFrame) :
    (s.sendJson id frame).sentOn id =
      s.sentOn id ++ (if s.isOpen id = true then [frame] else []) := by
  unfold sentOn isOpen sendJson
  rw [connections_modifyConnection, if_pos rfl]
  cases s.connections.get id with
  | none => rfl
  | some c => simp [c.sendJson_sent frame]

theorem isOpen_sendJson (id id' : Nat) (frame : ServerFrame) :
    (s.sendJson id frame).isOpen id' = s.isOpen id' := by
  unfold isOpen sendJson
  rw [connections_modifyConnection]
  split
  · cases s.connections.get id' with
    | none => rfl
    | some c => simp [Connection.isOpen]
  · rfl

end

/-! ## The replay states in use -/

/-- Every replay state in the map is there. -/
def StatesLive (s : Server World) : Prop :=
  ∀ credentialId ref, s.credentialStates.get credentialId = some ref → (s.cells.get ref).isSome

theorem statesLive_sameReplay {s : Server World} (h : SameReplay s t) (hLive : s.StatesLive) :
    t.StatesLive := by
  intro credentialId ref hGet
  rw [h.cells]
  exact hLive credentialId ref (h.oldStates credentialId ref hGet)

theorem statesLive_sequenceAndSend {s : Server World} {ref : Nat}
    {state : CredentialReplayState World} (event : SignetEvent) (origin : Origin World)
    (hLive : s.StatesLive) : (s.sequenceAndSend id ref state event origin).StatesLive := by
  intro credentialId ref' hGet
  rw [cells_sequenceAndSend]
  split
  · rw [Option.isSome_map]
    exact hLive credentialId ref' hGet
  · exact hLive credentialId ref' hGet

theorem statesLive_sendsUpTo {s : Server World} (h : SendsUpTo s l t) (hLive : s.StatesLive) :
    t.StatesLive := by
  induction h with
  | quiet hSame => exact statesLive_sameReplay hSame hLive
  | send hSame _ _ ih =>
    exact ih (statesLive_sequenceAndSend _ _ (statesLive_sameReplay hSame hLive))

/-! ## The authentication -/

/-- From `s` to `t` the authentication of a connection has gone on from its token
lookup to its fingerprint: the replay state of the credential is attached, and
the resume decision taken. -/
structure BeginsHandshake (deps : WsServerDeps World) (s t : Server World) (id : Nat)
    (authFrame : AuthFrame) (credential : CredentialRecord) (ref : Nat)
    (state : CredentialReplayState World) : Prop where
  attachment : ∀ id', t.attachment id' = if id' = id then some ref else s.attachment id'
  credentialIdOf : ∀ id', t.credentialIdOf id' =
    if id' = id then some credential.credentialId else s.credentialIdOf id'
  sent : ∀ id', t.sentOn id' = s.sentOn id'
  isOpen : ∀ id', t.isOpen id' = s.isOpen id'
  tasks : ∀ task, t.tasks.get task =
    if task = s.tasks.next then
      some (.authFingerprint ⟨id, authFrame, credential, resumeFrom state authFrame.lastSeenSeq⟩)
    else s.tasks.get task
  cells : ∀ ref' state', s.cells.get ref' = some state' → t.cells.get ref' = some state'
  cell : t.cells.get ref = some state
  /-- The replay state is the one of the credential, or a new one. -/
  source : (s.credentialStates.get credential.credentialId = some ref ∧ t.cells = s.cells) ∨
    (s.credentialStates.get credential.credentialId = none ∧ ref = s.cells.next ∧
      state = .create deps.config credential.credentialId ∧ t.cells = s.cells.alloc state)
  states : ∀ credentialId, t.credentialStates.get credentialId =
    if credentialId = credential.credentialId then some ref
    else s.credentialStates.get credentialId
  pendingInvalidations : t.pendingInvalidations = s.pendingInvalidations
  offers : t.offers = s.offers
  dispatched : t.dispatched = s.dispatched

section GetOrCreate

variable (deps : WsServerDeps World) (s : Server World) (credentialId : String)

@[simp]
theorem getOrCreateCredentialState_connections :
    (s.getOrCreateCredentialState deps credentialId).1.connections = s.connections := by
  unfold getOrCreateCredentialState
  split <;> rfl

@[simp]
theorem getOrCreateCredentialState_registry :
    (s.getOrCreateCredentialState deps credentialId).1.registry = s.registry := by
  unfold getOrCreateCredentialState
  split <;> rfl

@[simp]
theorem getOrCreateCredentialState_tasks :
    (s.getOrCreateCredentialState deps credentialId).1.tasks = s.tasks := by
  unfold getOrCreateCredentialState
  split <;> rfl

@[simp]
theorem getOrCreateCredentialState_timers :
    (s.getOrCreateCredentialState deps credentialId).1.timers = s.timers := by
  unfold getOrCreateCredentialState
  split <;> rfl

@[simp]
theorem getOrCreateCredentialState_pendingInvalidations :
    (s.getOrCreateCredentialState deps credentialId).1.pendingInvalidations =
      s.pendingInvalidations := by
  unfold getOrCreateCredentialState
  split <;> rfl

@[simp]
theorem getOrCreateCredentialState_offers :
    (s.getOrCreateCredentialState deps credentialId).1.offers = s.offers := by
  unfold getOrCreateCredentialState
  split <;> rfl

@[simp]
theorem getOrCreateCredentialState_dispatched :
    (s.getOrCreateCredentialState deps credentialId).1.dispatched = s.dispatched := by
  unfold getOrCreateCredentialState
  split <;> rfl

variable {s}

/-- What `getOrCreateCredentialState` makes of the replay states. -/
theorem getOrCreateCredentialState_spec (hLive : s.StatesLive) :
    ∃ ref state, (s.getOrCreateCredentialState deps credentialId).2 = ref ∧
      (s.getOrCreateCredentialState deps credentialId).1.cells.get ref = some state ∧
      (∀ ref' state', s.cells.get ref' = some state' →
        (s.getOrCreateCredentialState deps credentialId).1.cells.get ref' = some state') ∧
      ((s.credentialStates.get credentialId = some ref ∧
          (s.getOrCreateCredentialState deps credentialId).1.cells = s.cells) ∨
        (s.credentialStates.get credentialId = none ∧ ref = s.cells.next ∧
          state = .create deps.config credentialId ∧
          (s.getOrCreateCredentialState deps credentialId).1.cells = s.cells.alloc state)) ∧
      ∀ credentialId',
        (s.getOrCreateCredentialState deps credentialId).1.credentialStates.get credentialId' =
          if credentialId' = credentialId then some ref
          else s.credentialStates.get credentialId' := by
  unfold getOrCreateCredentialState
  cases hGet : s.credentialStates.get credentialId with
  | some ref =>
    obtain ⟨state, hState⟩ := Option.isSome_iff_exists.mp (hLive credentialId ref hGet)
    refine ⟨ref, state, rfl, hState, fun _ _ h => h, .inl ⟨rfl, rfl⟩, ?_⟩
    intro credentialId'
    by_cases hEq : credentialId' = credentialId
    · rw [if_pos hEq, hEq]
      exact hGet
    · rw [if_neg hEq]
  | none =>
    refine ⟨s.cells.next, .create deps.config credentialId, rfl, by simp, ?_,
      .inr ⟨rfl, rfl, rfl, rfl⟩, ?_⟩
    · intro ref' state' hState
      have hNe : ref' ≠ s.cells.next := Nat.ne_of_lt (Arena.lt_next_of_get hState)
      simp [hNe, hState]
    · intro credentialId'
      simp

end GetOrCreate

theorem connections_beginHandshake (deps : WsServerDeps World) (s : Server World) (id id' : Nat)
    (authFrame : AuthFrame) (credential : CredentialRecord) :
    (s.beginHandshake deps id authFrame credential).connections.get id' =
      if id' = id then
        (s.connections.get id').map fun c => c.withData fun d =>
          { activate credential d with
            credentialReplayState :=
              some ((s.modifyData id (activate credential)).getOrCreateCredentialState deps
                credential.credentialId).2 }
      else s.connections.get id' := by
  unfold beginHandshake
  simp only [spawn, modifyData, connections_modifyConnection,
    getOrCreateCredentialState_connections]
  split
  · cases s.connections.get id' <;> rfl
  · rfl

theorem beginHandshake_spec (deps : WsServerDeps World) {s : Server World} (hLive : s.StatesLive)
    (hConn : (s.connections.get id).isSome) (authFrame : AuthFrame)
    (credential : CredentialRecord) :
    ∃ ref state, BeginsHandshake deps s (s.beginHandshake deps id authFrame credential) id
      authFrame credential ref state := by
  obtain ⟨c, hGet⟩ := Option.isSome_iff_exists.mp hConn
  have hConnections := fun id' => s.connections_beginHandshake deps id id' authFrame credential
  obtain ⟨ref, state, hRef, hCell, hCells, hSource, hStates⟩ :=
    getOrCreateCredentialState_spec deps credential.credentialId
      (s := s.modifyData id (activate credential)) hLive
  rw [hRef] at hConnections
  refine ⟨ref, state, ?_, ?_, ?_, ?_, ?_, hCells, hCell, hSource, hStates, ?_, ?_, ?_⟩
  · intro id'
    unfold Server.attachment
    rw [hConnections]
    split
    · next hId => subst hId; simp [hGet]
    · rfl
  · intro id'
    unfold Server.credentialIdOf
    rw [hConnections]
    split
    · next hId => subst hId; simp [hGet, activate]
    · rfl
  · intro id'
    unfold sentOn
    rw [hConnections]
    split
    · next hId => subst hId; simp [hGet]
    · rfl
  · intro id'
    unfold Server.isOpen
    rw [hConnections]
    split
    · next hId => subst hId; simp [hGet]; rfl
    · rfl
  · intro task
    have hTasks : (s.beginHandshake deps id authFrame credential).tasks =
        s.tasks.alloc (.authFingerprint
          ⟨id, authFrame, credential, resumeFrom state authFrame.lastSeenSeq⟩) := by
      have hSame : ∀ (t : Server World) f, (t.modifyData id f).cells = t.cells := fun _ _ => rfl
      unfold beginHandshake
      simp only [hRef, hSame, hCell]
      exact congrArg (Arena.alloc · _)
        (getOrCreateCredentialState_tasks deps (s.modifyData id (activate credential)) _)
    rw [hTasks]
    exact Arena.get_alloc _ _ _
  · exact getOrCreateCredentialState_pendingInvalidations deps
      (s.modifyData id (activate credential)) credential.credentialId
  · exact getOrCreateCredentialState_offers deps
      (s.modifyData id (activate credential)) credential.credentialId
  · exact getOrCreateCredentialState_dispatched deps
      (s.modifyData id (activate credential)) credential.credentialId

/-! ## Steps -/

/-- What the end of an invalidation sends. -/
def releaseSendings (deps : WsServerDeps World) (world : World) (s : Server World)
    (credentialId : String) : List (Sending World) :=
  match s.pendingInvalidations.get credentialId with
  | none => []
  | some entry =>
    if entry.refcount - 1 ≤ 0 then
      drainSendings deps world credentialId
        { s with pendingInvalidations := s.pendingInvalidations.delete credentialId } entry.events
    else []

/-- What a step sends live: not as part of an authentication. -/
def liveSendings (deps : WsServerDeps World) (s : Server World) (label : ServerLabel World) :
    List (Sending World) :=
  match label.event with
  | .broadcast credentialId event =>
    match s.pendingInvalidations.get credentialId with
    | some _ => []
    | none => s.broadcastSendings deps label.world credentialId ⟨s.offers.length, event⟩
  | .credentialLookedUp task result =>
    match s.tasks.get task, result with
    | some (.heartbeatLookup id credentialId), some result =>
      heartbeatSendings label.now s id credentialId result
    | some (.invalidation credentialId myGen), result =>
      releaseSendings deps label.world
        ((s.take task).refreshCredential deps credentialId myGen result) credentialId
    | _, _ => []
  | .stop => if s.serverState = .listening then s.registry.items.flatMap s.shutdownSending else []
  | _ => []

/-- The records a step may cache, each on the connections its lookup is for. -/
def Caches (s : Server World) (label : ServerLabel World) (id : Nat)
    (record : CredentialRecord) : Prop :=
  ∃ task pending, label.event = .credentialLookedUp task (some (.ok record)) ∧
    s.tasks.get task = some pending ∧
    match pending with
    | .requestLookup conn _ | .heartbeatLookup conn _ | .requestResync conn _ _ => conn = id
    | .invalidation credentialId _ => id ∈ s.getByCredentialId credentialId
    | _ => False

inductive StepKind (deps : WsServerDeps World) (s : Server World) (label : ServerLabel World)
    (t : Server World) : Prop
  | sends (hSends : Sends (s.Caches label) s (s.liveSendings deps label) t)
      (hNotices : ∀ sending ∈ s.liveSendings deps label, Notice sending)
  | broadcast (credentialId : String) (event : SignetEvent)
      (hEvent : label.event = .broadcast credentialId event)
      (hState : t = s.broadcast deps label.world credentialId event)
  | invalidate (credentialId : String) (hEvent : label.event = .invalidate credentialId)
      (hState : t = s.invalidateCredential credentialId)
  | release (task : Nat) (credentialId : String) (myGen : Nat)
      (result : Option (Except SignetError CredentialRecord))
      (hEvent : label.event = .credentialLookedUp task result)
      (hTask : s.tasks.get task = some (.invalidation credentialId myGen))
      (hState : t = ((s.take task).refreshCredential deps credentialId myGen
        result).releaseInvalidation deps label.world credentialId)
  | begin (task id : Nat) (authFrame : AuthFrame)
      (result : Except SignetError CredentialRecord) (credential : CredentialRecord)
      (hEvent : label.event = .tokenLookedUp task (some result))
      (hTask : s.tasks.get task = some (.authLookup id authFrame))
      (hConn : (s.connections.get id).isSome) (hAuth : handleAuth result = .ok credential)
      (hState : t = (s.take task).beginHandshake deps id authFrame credential)
  | finish (task : Nat) (handshake : Handshake) (hEvent : label.event = .fingerprinted task)
      (hTask : s.tasks.get task = some (.authFingerprint handshake))
      (hState : t = (s.take task).finishHandshake deps label.now handshake)
  | accept (task id : Nat) (request : HarnessRequest) (credential : CredentialRecord)
      (hEvent : label.event = .credentialLookedUp task (some (.ok credential)))
      (hTask : s.tasks.get task = some (.requestLookup id (.request request)))
      (hActive : credential.status = .active)
      (hState : t = ((s.take task).cacheRecord id credential).acceptRequest label.now id request
        credential)
  | reject (task id : Nat) (frame : ClientFrame) (maybeId : Option String)
      (credential : CredentialRecord)
      (hEvent : label.event = .credentialLookedUp task (some (.ok credential)))
      (hTask : s.tasks.get task = some (.requestLookup id frame))
      (hFrame : ∀ request, frame ≠ .request request)
      (hState : t = ((s.take task).cacheRecord id credential).rejectFrame deps id maybeId)
  | resync (task id : Nat) (requestId : String) (response : RequestResponse)
      (result : Option (Except SignetError CredentialRecord))
      (hEvent : label.event = .credentialLookedUp task result)
      (hTask : s.tasks.get task = some (.requestResync id requestId response))
      (hState : t = (s.take task).finishResync id requestId response result)
  | flush (task : Nat) (remaining : List Nat) (hEvent : label.event = .flushed task)
      (hTask : s.tasks.get task = some (.stopFlushing remaining))
      (hState : t = (s.take task).finishFlushing remaining)

theorem StepKind.of_writes {s : Server World} (h : Writes (s.Caches label) s t)
    (hNone : s.liveSendings deps label = []) :
    StepKind deps s label t :=
  .sends (by rw [hNone]; exact .quiet h) (by rw [hNone]; simp)

theorem writes_take {s : Server World} {ref : Nat} {task : Task}
    (hGet : s.tasks.get ref = some task)
    (hTask : ∀ handshake, task ≠ .authFingerprint handshake := by intro _ h; cases h)
    (hInvalidation : ∀ credentialId generation,
      task ≠ .invalidation credentialId generation := by intro _ _ h; cases h) :
    Writes records s (s.take ref) :=
  Writes.single (.take ref task hGet hTask hInvalidation)

theorem stepKind_tokenLookedUp {s : Server World}
    (hEvent : label.event = .tokenLookedUp task result) (hStep : quietStep deps s label = some t) :
    StepKind deps s label t := by
  have hNone : s.liveSendings deps label = [] := by
    unfold liveSendings
    rw [hEvent]
  unfold quietStep at hStep
  rw [hEvent] at hStep
  dsimp only at hStep
  split at hStep
  · next id authFrame hTask =>
    have hTaken : Writes (s.Caches label) s (s.take task) := writes_take hTask
    split at hStep
    · cases hStep
      exact .of_writes hTaken hNone
    · next result =>
      cases hStep
      cases hConn : s.connections.get id with
      | none =>
        refine .of_writes (hTaken.trans ?_) hNone
        unfold finishAuthLookup
        rw [show (s.take task).connections.get id = none from hConn]
      | some c =>
        cases hAuth : handleAuth result with
        | error error =>
          refine .of_writes (hTaken.trans ?_) hNone
          unfold finishAuthLookup
          rw [show (s.take task).connections.get id = some c from hConn, hAuth]
          exact (Writes.single (.notify id _ (.authError _ _))).trans (writes_close deps _ id _)
        | ok credential =>
          refine .begin task id authFrame result credential hEvent hTask (by simp [hConn])
            hAuth ?_
          unfold finishAuthLookup
          rw [show (s.take task).connections.get id = some c from hConn, hAuth]
  · cases hStep

theorem stepKind_requestLookup {s : Server World} {frame : ClientFrame}
    {result : Except SignetError CredentialRecord}
    (hEvent : label.event = .credentialLookedUp task (some result))
    (hTask : s.tasks.get task = some (.requestLookup id frame)) :
    StepKind deps s label ((s.take task).finishRequestLookup deps label.now id frame result) := by
  have hTaken : Writes (s.Caches label) s (s.take task) := writes_take hTask
  have hNone : s.liveSendings deps label = [] := by
    unfold liveSendings
    rw [hEvent]
    simp only [hTask]
  unfold finishRequestLookup
  cases result with
  | error error => exact .of_writes (hTaken.trans (writes_closeFor deps _ id _)) hNone
  | ok credential =>
    have hCached := hTaken.tail (.cache id credential ⟨task, _, hEvent, hTask, rfl⟩)
    dsimp only
    split
    · exact .of_writes (hCached.trans (writes_closeFor deps _ id _)) hNone
    · next hActive =>
      cases frame with
      | request request =>
        exact .accept task id request credential hEvent hTask (not_not.mp hActive) rfl
      | malformed maybeId =>
        exact .reject task id _ maybeId credential hEvent hTask (by simp) rfl
      | auth authFrame maybeId =>
        exact .reject task id _ maybeId credential hEvent hTask (by simp) rfl

theorem stepKind_credentialLookedUp {s : Server World}
    (hEvent : label.event = .credentialLookedUp task result)
    (hStep : quietStep deps s label = some t) : StepKind deps s label t := by
  unfold quietStep at hStep
  rw [hEvent] at hStep
  dsimp only at hStep
  cases hTask : s.tasks.get task with
  | none => rw [hTask] at hStep; cases hStep
  | some pending =>
    rw [hTask] at hStep
    dsimp only at hStep
    unfold resumeLookup at hStep
    cases pending with
    | requestLookup id frame =>
      cases result with
      | none =>
        cases hStep
        refine .of_writes (writes_take hTask) ?_
        unfold liveSendings
        rw [hEvent]
        simp only [hTask]
      | some result =>
        cases hStep
        exact stepKind_requestLookup hEvent hTask
    | heartbeatLookup id credentialId =>
      have hTaken : Writes (s.Caches label) s (s.take task) := writes_take hTask
      cases result with
      | none =>
        cases hStep
        refine .of_writes hTaken ?_
        unfold liveSendings
        rw [hEvent]
        simp only [hTask]
      | some result =>
        cases hStep
        have hSends : Sends (s.Caches label) (s.take task)
            (heartbeatSendings label.now (s.take task) id credentialId result)
            (finishHeartbeat deps label.now (s.take task) id credentialId result) := by
          refine sends_finishHeartbeat deps label.now _ id credentialId result ?_
          rintro record rfl
          exact ⟨task, _, hEvent, hTask, rfl⟩
        have hList : s.liveSendings deps label =
            heartbeatSendings label.now (s.take task) id credentialId result := by
          unfold liveSendings
          rw [hEvent]
          simp only [hTask]
          rfl
        refine .sends ?_ ?_
        · rw [hList]
          exact Sends.of_writes hTaken hSends
        · rw [hList]
          exact fun sending => notice_heartbeatSendings
    | requestResync id requestId response =>
      cases hStep
      exact .resync task id requestId response result hEvent hTask rfl
    | invalidation credentialId myGen =>
      cases hStep
      exact .release task credentialId myGen result hEvent hTask rfl
    | authLookup id authFrame => cases hStep
    | authFingerprint handshake => cases hStep
    | requestHandling id request credential => cases hStep
    | stopDraining => cases hStep
    | stopFlushing remaining => cases hStep

/-- **Step inversion.**  Every step of the server is of one of the kinds. -/
theorem step_cases {s : Server World} {out : List Returned}
    (hStep : serverStep deps s label = some (t, out)) :
    StepKind deps s label t := by
  obtain ⟨now, world, event⟩ := label
  have hQuietStep : quietStep deps s ⟨now, world, event⟩ = some t →
      StepKind deps s ⟨now, world, event⟩ t := by
    intro h
    cases event with
    | start failure => cases h
    | «open» =>
      simp only [quietStep] at h
      split at h
      · cases h
      · cases h
        exact .of_writes (writes_onOpen deps now s) rfl
    | message id message =>
      simp only [quietStep] at h
      split at h
      · cases h
        exact .of_writes (writes_onMessage deps now s id message) rfl
      · cases h
    | closed id =>
      simp only [quietStep] at h
      split at h
      · cases h
        exact .of_writes (Writes.single (.closed id)) rfl
      · cases h
    | congest id =>
      cases h
      refine .of_writes (Writes.single (.count id _ fun c _ => ?_)) rfl
      exact ⟨rfl, rfl, rfl, rfl, rfl, rfl, rfl, rfl, rfl⟩
    | drain id =>
      cases h
      refine .of_writes (Writes.single (.count id _ fun c _ => ?_)) rfl
      exact ⟨rfl, rfl, rfl, rfl, rfl, rfl, rfl, rfl, rfl⟩
    | timer ref =>
      simp only [quietStep, Option.map_eq_some_iff] at h
      obtain ⟨timer, hTimer, rfl⟩ := h
      exact .of_writes (writes_onTimer deps now s ref hTimer) rfl
    | tokenLookedUp task result => exact stepKind_tokenLookedUp rfl h
    | fingerprinted task =>
      simp only [quietStep] at h
      split at h
      · next handshake hTask =>
        cases h
        exact .finish task handshake rfl hTask rfl
      · cases h
    | credentialLookedUp task result => exact stepKind_credentialLookedUp rfl h
    | handled task result =>
      simp only [quietStep] at h
      split at h
      · next id request credential hTask =>
        cases h
        exact .of_writes ((writes_take hTask).trans (writes_finishHandling _ id request result)) rfl
      · cases h
    | broadcast credentialId event =>
      cases h
      exact .broadcast credentialId event rfl rfl
    | invalidate credentialId =>
      cases h
      exact .invalidate credentialId rfl rfl
    | stop => cases h
    | drained task =>
      simp only [quietStep] at h
      split at h
      · next hTask =>
        cases h
        exact .of_writes ((writes_take hTask).trans (writes_finishDraining deps _)) rfl
      · cases h
    | flushed task => cases h
  unfold serverStep at hStep
  cases event with
  | start failure =>
    dsimp only at hStep
    split at hStep
    · cases hStep
      exact .of_writes (Writes.refl _) rfl
    · cases failure with
      | none =>
        cases hStep
        exact .of_writes (Writes.single (.serverState _)) rfl
      | some message =>
        cases hStep
        exact .of_writes (Writes.refl _) rfl
  | stop =>
    dsimp only at hStep
    split at hStep
    · next hNot =>
      cases hStep
      exact .of_writes (Writes.refl _) (by simp [liveSendings, hNot])
    · next hListening =>
      cases hStep
      have hList : s.liveSendings deps ⟨now, world, .stop⟩ =
          s.registry.items.flatMap s.shutdownSending := if_pos (not_not.mp hListening)
      refine .sends ?_ ?_
      · rw [hList]
        exact sends_stop deps s
      · rw [hList]
        intro sending hMem
        obtain ⟨id, -, hSending⟩ := List.mem_flatMap.mp hMem
        exact notice_shutdownSending hSending
  | flushed task =>
    dsimp only at hStep
    split at hStep
    · next remaining hTask =>
      cases hStep
      exact .flush task remaining rfl hTask rfl
    · cases hStep
  | _ =>
    dsimp only at hStep
    rw [Option.map_eq_some_iff] at hStep
    obtain ⟨t', hQuiet, hEq⟩ := hStep
    cases hEq
    exact hQuietStep hQuiet

theorem sendsUpTo_broadcast (deps : WsServerDeps World) (s : Server World) {credentialId : String}
    {event : SignetEvent} (hEvent : label.event = .broadcast credentialId event) :
    SendsUpTo s (s.liveSendings deps label) (s.broadcast deps label.world credentialId event) := by
  let offered : Offered := ⟨s.offers.length, event⟩
  have hOffer : SameReplay s { s with offers := s.offers ++ [(credentialId, offered)] } :=
    .of_core rfl rfl rfl rfl
  unfold liveSendings
  rw [hEvent]
  dsimp only
  cases hPending : s.pendingInvalidations.get credentialId with
  | some pending =>
    refine .quiet (hOffer.trans ?_)
    unfold broadcast broadcastToCredential
    dsimp only
    rw [hPending]
    exact .of_core rfl rfl rfl rfl
  | none =>
    exact SendsUpTo.of_sameReplay hOffer
      (sendsUpTo_broadcastToCredential deps label.world offered hPending)

theorem sameReplay_invalidateCredential (s : Server World) (credentialId : String) :
    SameReplay s (s.invalidateCredential credentialId) := by
  unfold invalidateCredential
  dsimp only
  refine SameReplay.trans ?_ (sameReplay_spawn _ ?_)
  · exact .of_core rfl rfl rfl rfl
  · intro handshake hEq
    cases hEq

theorem sendsUpTo_releaseInvalidation (deps : WsServerDeps World) (world : World)
    (s : Server World) (credentialId : String) :
    SendsUpTo s (s.releaseSendings deps world credentialId)
      (s.releaseInvalidation deps world credentialId) := by
  unfold releaseSendings releaseInvalidation
  cases s.pendingInvalidations.get credentialId with
  | none => exact .quiet (SameReplay.refl s)
  | some entry =>
    dsimp only
    split
    · have hDeleted : SameReplay s
          { s with pendingInvalidations := s.pendingInvalidations.delete credentialId } :=
        .of_core rfl rfl rfl rfl
      exact SendsUpTo.of_sameReplay hDeleted
        (sendsUpTo_drain deps world (by simp) entry.events)
    · exact .quiet (.of_core rfl rfl rfl rfl)

theorem sameReplay_finishFlushing (s : Server World) (remaining : List Nat) :
    SameReplay s (s.finishFlushing remaining) := by
  have hClean : Quiet s (remaining.foldl cleanupConnection s) :=
    Quiet.foldl remaining (fun t id => t.quiet_cleanupConnection id) s
  refine hClean.toSameReplay.trans ?_
  obtain ⟨hCells, -, hTasks, hAttachment, hId, hSent, hOpen⟩ :=
    SameReplay.refl (remaining.foldl cleanupConnection s)
  refine ⟨hCells, ?_, hTasks, hAttachment, hId, hSent, hOpen⟩
  intro credentialId ref hGet
  cases hGet

/-- What a step does that is no part of an authentication. -/
theorem StepKind.sendsUpTo {s : Server World} (h : StepKind deps s label t) :
    SendsUpTo s (s.liveSendings deps label) t ∨
      (∃ task id authFrame result credential, label.event = .tokenLookedUp task (some result) ∧
        s.tasks.get task = some (.authLookup id authFrame) ∧ (s.connections.get id).isSome ∧
        handleAuth result = .ok credential ∧
        t = (s.take task).beginHandshake deps id authFrame credential) ∨
      (∃ task handshake, label.event = .fingerprinted task ∧
        s.tasks.get task = some (.authFingerprint handshake) ∧
        t = (s.take task).finishHandshake deps label.now handshake) := by
  -- a lookup in front of a request sends nothing live, whatever it leads to
  have hLookup : ∀ {task id : Nat} {frame : ClientFrame} {credential : CredentialRecord},
      label.event = .credentialLookedUp task (some (.ok credential)) →
      s.tasks.get task = some (.requestLookup id frame) →
      Quiet ((s.take task).cacheRecord id credential) t →
      SendsUpTo s (s.liveSendings deps label) t := by
    intro task id frame credential hEvent hTask hQuiet
    have hNone : s.liveSendings deps label = [] := by
      unfold liveSendings
      rw [hEvent]
      simp only [hTask]
    have hTaken := s.sameReplay_take hTask (by intro _ h; cases h)
    have hCached := quiet_cacheRecord (s.take task) id credential
    rw [hNone]
    exact .quiet (hTaken.trans (hCached.trans hQuiet).toSameReplay)
  cases h with
  | sends hSends _ => exact .inl (Sends.upTo hSends)
  | accept task id request credential hEvent hTask hActive hState =>
    subst hState
    exact .inl (hLookup hEvent hTask (quiet_acceptRequest _ _ id request credential))
  | reject task id frame maybeId credential hEvent hTask hFrame hState =>
    subst hState
    exact .inl (hLookup hEvent hTask (quiet_rejectFrame deps _ id maybeId))
  | resync task id requestId response result hEvent hTask hState =>
    subst hState
    have hNone : s.liveSendings deps label = [] := by
      unfold liveSendings
      rw [hEvent]
      simp only [hTask]
    have hTaken := s.sameReplay_take hTask (by intro _ h; cases h)
    rw [hNone]
    exact .inl (.quiet (hTaken.trans
      (quiet_finishResync _ id requestId response result).toSameReplay))
  | broadcast credentialId event hEvent hState =>
    subst hState
    exact .inl (sendsUpTo_broadcast deps s hEvent)
  | invalidate credentialId hEvent hState =>
    subst hState
    have hNone : s.liveSendings deps label = [] := by
      unfold liveSendings
      rw [hEvent]
    rw [hNone]
    exact .inl (.quiet (s.sameReplay_invalidateCredential credentialId))
  | release task credentialId myGen result hEvent hTask hState =>
    subst hState
    have hList : s.liveSendings deps label = releaseSendings deps label.world
        ((s.take task).refreshCredential deps credentialId myGen result) credentialId := by
      unfold liveSendings
      rw [hEvent]
      simp only [hTask]
    rw [hList]
    have hTaken := s.sameReplay_take hTask (by intro _ h; cases h)
    have hRefreshed : Writes (fun _ _ => True) (s.take task)
        ((s.take task).refreshCredential deps credentialId myGen result) :=
      writes_refreshCredential deps _ credentialId myGen result fun _ _ _ _ => trivial
    exact .inl (SendsUpTo.of_sameReplay (hTaken.trans hRefreshed.quiet.toSameReplay)
      (sendsUpTo_releaseInvalidation deps label.world _ _))
  | begin task id authFrame result credential hEvent hTask hConn hAuth hState =>
    exact .inr (.inl ⟨task, id, authFrame, result, credential, hEvent, hTask, hConn, hAuth,
      hState⟩)
  | finish task handshake hEvent hTask hState =>
    exact .inr (.inr ⟨task, handshake, hEvent, hTask, hState⟩)
  | flush task remaining hEvent hTask hState =>
    subst hState
    have hNone : s.liveSendings deps label = [] := by
      unfold liveSendings
      rw [hEvent]
    rw [hNone]
    have hTaken := s.sameReplay_take hTask (by intro _ h; cases h)
    exact .inl (.quiet (hTaken.trans (sameReplay_finishFlushing _ remaining)))

end Server
end Ws
end Signet
