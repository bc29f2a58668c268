import Signet.Ws.Snapshot

/-!
# Timers and their connections

The server keeps every timer together with the field of the connection that
refers to it, so that the cleanup of the connection clears them all.

* `Registered`, `ShutDown` — what should hold of the registry, the timers and the
  closed sockets.
* `Tidy` — the invariant: every armed timer is referred to by its connection.
* `Tends` — a step that keeps it and goes back on no connection.
* `tends_write`, `tends_moves` — every write and every move does.
-/

namespace Signet
namespace Ws

open Kit Schemas Sessions

/-- The connection a timer is armed for. -/
def Timer.conn : Timer → Nat
  | .authTimeout conn => conn
  | .heartbeat conn _ => conn
  | .requestTimeout conn _ _ => conn

def ConnectionData.RefersTo (d : ConnectionData) (timer : Timer) (ref : Nat) : Prop :=
  match timer with
  | .authTimeout _ => d.authTimer = some ref
  | .heartbeat _ _ => d.heartbeatTimer = some ref
  | .requestTimeout _ requestId _ =>
    ∃ entry, d.inFlightRequests.get requestId = some entry ∧ entry.timer = ref

variable {World : Type} {deps : WsServerDeps World}

namespace Server

/-! ## The lifecycle -/

/-- Only active and draining connections are registered. -/
def Registered (s : Server World) : Prop :=
  ∀ id, id ∈ s.registry → ∃ c, s.connections.get id = some c ∧
    (c.data.phase = .active ∨ c.data.phase = .draining)

/-- The close handler of the connection has run. -/
def isShut (s : Server World) (id : Nat) : Prop :=
  ∃ c, s.connections.get id = some c ∧ c.socket.state = .closed

theorem isShut_iff_any (s : Server World) (id : Nat) : s.isShut id ↔
    ((s.connections.get id).any fun c => decide (c.socket.state = .closed)) = true := by
  simp [isShut, Option.any_eq_true]

/-- A connection whose close handler has run is not registered and has no timer. -/
def ShutDown (s : Server World) : Prop :=
  ∀ id, s.isShut id → id ∉ s.registry ∧
    ∀ ref timer, s.timers.get ref = some timer → timer.conn ≠ id

/-! ## Writes to one connection -/

end Server

structure ConnectionData.Idle (d : ConnectionData) : Prop where
  phase : d.phase = .closed
  unreferred : ∀ timer ref, ¬ d.RefersTo timer ref

/-- The connection has not gone back: neither to its authentication nor to an open
socket, nor has it started a heartbeat. -/
structure Connection.Winds (c c' : Connection) : Prop where
  phase : c'.data.phase = .authenticating → c.data.phase = .authenticating
  heartbeat : c.data.heartbeatTimer = none → c'.data.heartbeatTimer = none
  closed : c.socket.state = .closed → c'.socket.state = .closed

theorem Connection.Winds.refl (c : Connection) : c.Winds c := ⟨fun h => h, fun h => h, fun h => h⟩

theorem Connection.Winds.trans {c c' c'' : Connection} (h : c.Winds c') (h' : c'.Winds c'') :
    c.Winds c'' :=
  ⟨fun hPhase => h.phase (h'.phase hPhase), fun hNone => h'.heartbeat (h.heartbeat hNone),
    fun hClosed => h'.closed (h.closed hClosed)⟩

/-- A write that leaves the phase, the references and the socket state. -/
structure Connection.SameRefs (c c' : Connection) : Prop where
  phase : c'.data.phase = c.data.phase
  authTimer : c'.data.authTimer = c.data.authTimer
  heartbeatTimer : c'.data.heartbeatTimer = c.data.heartbeatTimer
  inFlightRequests : c'.data.inFlightRequests = c.data.inFlightRequests
  state : c'.socket.state = c.socket.state

theorem Connection.SameRefs.refersTo {c c' : Connection} (h : c.SameRefs c') (timer : Timer)
    (ref : Nat) : c'.data.RefersTo timer ref ↔ c.data.RefersTo timer ref := by
  cases timer with
  | authTimeout conn => simp [ConnectionData.RefersTo, h.authTimer]
  | heartbeat conn credentialId => simp [ConnectionData.RefersTo, h.heartbeatTimer]
  | requestTimeout conn requestId operation =>
    simp [ConnectionData.RefersTo, h.inFlightRequests]

theorem Connection.sameRefs_sendJson (c : Connection) (frame : ServerFrame) :
    c.SameRefs (c.sendJson frame) := by
  unfold Connection.sendJson
  split
  · exact ⟨rfl, rfl, rfl, rfl, rfl⟩
  · refine ⟨?_, ?_, ?_, ?_, rfl⟩ <;> dsimp only <;> split <;> rfl

namespace Server

/-- No connection has gone back, nor vanished. -/
def Winds (s t : Server World) : Prop :=
  ∀ id c, s.connections.get id = some c → ∃ c', t.connections.get id = some c' ∧ c.Winds c'

theorem Winds.refl (s : Server World) : Winds s s := fun _ c hGet => ⟨c, hGet, .refl c⟩

variable {c : Connection} {id ref : Nat} {s t u : Server World} {timer : Timer}
  {label : ServerLabel World}

theorem Winds.trans (h : Winds s t) (h' : Winds t u) : Winds s u := by
  intro id c hGet
  obtain ⟨c', hGet', hFirst⟩ := h id c hGet
  obtain ⟨c'', hGet'', hLater⟩ := h' id c' hGet'
  exact ⟨c'', hGet'', hFirst.trans hLater⟩

/-! ## The invariant -/

/-- Every armed timer is referred to by its connection, closed connections are
idle, and an authentication that awaits its fingerprint is the only one of its
connection, whose heartbeat has not been started. -/
structure Tidy (s : Server World) : Prop where
  registered : s.Registered
  armed : ∀ ref timer, s.timers.get ref = some timer →
    ∃ c, s.connections.get timer.conn = some c ∧ c.data.RefersTo timer ref
  closed : ∀ id c, s.connections.get id = some c → c.socket.state = .closed → c.data.Idle
  fresh : ∀ id c, s.connections.get id = some c → c.data.phase = .authenticating →
    c.data.heartbeatTimer = none
  greeting : ∀ task handshake, s.tasks.get task = some (.authFingerprint handshake) →
    ∃ c, s.connections.get handshake.conn = some c ∧ c.data.phase ≠ .authenticating ∧
      c.data.heartbeatTimer = none
  greetingOnce : ∀ task task' handshake handshake',
    s.tasks.get task = some (.authFingerprint handshake) →
    s.tasks.get task' = some (.authFingerprint handshake') →
    handshake.conn = handshake'.conn → task = task'

theorem tidy_create : Tidy (create : Server World) := by
  refine ⟨?_, ?_, ?_, ?_, ?_, ?_⟩
  · intro id hMem
    exact absurd hMem (OrderedSet.not_mem_empty id)
  · intro ref timer hTimer
    cases hTimer
  · intro id c hGet
    cases hGet
  · intro id c hGet
    cases hGet
  · intro task handshake hTask
    cases hTask
  · intro task task' handshake handshake' hTask
    cases hTask

/-- A tidy server has shut down the connections whose close handler has run. -/
theorem Tidy.shutDown (h : Tidy s) : s.ShutDown := by
  rintro id ⟨c, hGet, hClosed⟩
  have hIdle := h.closed id c hGet hClosed
  constructor
  · intro hMem
    obtain ⟨c', hGet', hPhase⟩ := h.registered id hMem
    rw [hGet] at hGet'
    cases hGet'
    rcases hPhase with hPhase | hPhase <;> rw [hIdle.phase] at hPhase <;> cases hPhase
  · intro ref timer hTimer hConn
    obtain ⟨c', hGet', hRefers⟩ := h.armed ref timer hTimer
    rw [hConn, hGet] at hGet'
    cases hGet'
    exact hIdle.unreferred timer ref hRefers

/-- What a write makes of the connection it is for: with the registry and the
timers it leaves, it keeps what the invariant asks of the connection. -/
structure Rewritten (registry : OrderedSet Nat) (timers : Arena Timer) (id : Nat)
    (c c' : Connection) : Prop where
  winds : c.Winds c'
  phase : id ∈ registry → c.data.phase = .active ∨ c.data.phase = .draining →
    c'.data.phase = .active ∨ c'.data.phase = .draining
  refers : ∀ ref timer, timers.get ref = some timer → timer.conn = id →
    c.data.RefersTo timer ref → c'.data.RefersTo timer ref
  idle : c'.socket.state = .closed → (c.socket.state = .closed → c.data.Idle) → c'.data.Idle

/-- A write to one connection that neither registers it nor arms a timer. -/
structure Rewrites (s t : Server World) (id : Nat) : Prop where
  others : ∀ id', id' ≠ id → t.connections.get id' = s.connections.get id'
  registry : ∀ id', id' ∈ t.registry → id' ∈ s.registry
  timers : ∀ ref timer, t.timers.get ref = some timer → s.timers.get ref = some timer
  tasks : ∀ task handshake, t.tasks.get task = some (.authFingerprint handshake) →
    s.tasks.get task = some (.authFingerprint handshake)
  self : ∀ c, s.connections.get id = some c →
    ∃ c', t.connections.get id = some c' ∧ Rewritten t.registry t.timers id c c'
  absent : s.connections.get id = none → t.connections.get id = none

theorem Rewrites.winds (h : Rewrites s t id) : Winds s t := by
  intro id' c hGet
  by_cases hId : id' = id
  · subst hId
    obtain ⟨c', hGet', hSelf⟩ := h.self c hGet
    exact ⟨c', hGet', hSelf.winds⟩
  · exact ⟨c, by rw [h.others id' hId]; exact hGet, .refl c⟩

/-- Where a connection after the write comes from. -/
theorem Rewrites.before {id' : Nat} (h : Rewrites s t id) {c' : Connection}
    (hGet : t.connections.get id' = some c') :
    ∃ c, s.connections.get id' = some c ∧ (id' = id ∨ c' = c) := by
  by_cases hId : id' = id
  · subst hId
    cases hOld : s.connections.get id' with
    | none =>
      rw [h.absent hOld] at hGet
      cases hGet
    | some c => exact ⟨c, rfl, .inl rfl⟩
  · rw [h.others id' hId] at hGet
    exact ⟨c', hGet, .inr rfl⟩

theorem Rewrites.tidy (h : Rewrites s t id) (hTidy : Tidy s) :
    Tidy t where
  registered := by
    intro id' hMem
    obtain ⟨c, hGet, hPhase⟩ := hTidy.registered id' (h.registry id' hMem)
    by_cases hId : id' = id
    · subst hId
      obtain ⟨c', hGet', hSelf⟩ := h.self c hGet
      exact ⟨c', hGet', hSelf.phase hMem hPhase⟩
    · exact ⟨c, by rw [h.others id' hId]; exact hGet, hPhase⟩
  armed := by
    intro ref timer hTimer
    obtain ⟨c, hGet, hRefers⟩ := hTidy.armed ref timer (h.timers ref timer hTimer)
    by_cases hId : timer.conn = id
    · rw [hId] at hGet
      obtain ⟨c', hGet', hSelf⟩ := h.self c hGet
      exact ⟨c', by rw [hId]; exact hGet', hSelf.refers ref timer hTimer hId hRefers⟩
    · exact ⟨c, by rw [h.others _ hId]; exact hGet, hRefers⟩
  closed := by
    intro id' c' hGet' hClosed
    obtain ⟨c, hGet, hSame⟩ := h.before hGet'
    by_cases hId : id' = id
    · subst hId
      obtain ⟨c'', hGet'', hSelf⟩ := h.self c hGet
      rw [hGet'] at hGet''
      cases hGet''
      exact hSelf.idle hClosed (hTidy.closed id' c hGet)
    · rcases hSame with hEq | rfl
      · exact absurd hEq hId
      · exact hTidy.closed id' c' hGet hClosed
  fresh := by
    intro id' c' hGet' hPhase
    obtain ⟨c, hGet, -⟩ := h.before hGet'
    obtain ⟨c'', hGet'', hWinds⟩ := h.winds id' c hGet
    rw [hGet'] at hGet''
    cases hGet''
    exact hWinds.heartbeat (hTidy.fresh id' c hGet (hWinds.phase hPhase))
  greeting := by
    intro task handshake hTask
    obtain ⟨c, hGet, hPhase, hNone⟩ := hTidy.greeting task handshake (h.tasks _ _ hTask)
    obtain ⟨c', hGet', hWinds⟩ := h.winds _ c hGet
    exact ⟨c', hGet', fun hBack => hPhase (hWinds.phase hBack), hWinds.heartbeat hNone⟩
  greetingOnce := by
    intro task task' handshake handshake' hTask hTask'
    exact hTidy.greetingOnce _ _ _ _ (h.tasks _ _ hTask) (h.tasks _ _ hTask')

/-! ## The elementary writes -/

/-- A write to the books, or one that clears timers or leaves the registry. -/
theorem rewrites_of_connections (id : Nat) (hConnections : t.connections = s.connections)
    (hRegistry : ∀ id', id' ∈ t.registry → id' ∈ s.registry)
    (hTimers : ∀ ref timer, t.timers.get ref = some timer → s.timers.get ref = some timer)
    (hTasks : ∀ task handshake, t.tasks.get task = some (.authFingerprint handshake) →
      s.tasks.get task = some (.authFingerprint handshake)) : Rewrites s t id where
  others := fun id' _ => by rw [hConnections]
  registry := hRegistry
  timers := hTimers
  tasks := hTasks
  self := fun c hGet => ⟨c, by rw [hConnections]; exact hGet,
    ⟨.refl c, fun _ h => h, fun _ _ _ _ h => h, fun hClosed h => h hClosed⟩⟩
  absent := fun hNone => by rw [hConnections]; exact hNone

theorem rewrites_modifyConnection {f : Connection → Connection}
    (hf : ∀ c, s.connections.get id = some c →
      Rewritten s.registry s.timers id c (f c)) :
    Rewrites s (s.modifyConnection id f) id where
  others := fun id' hNe => by rw [connections_modifyConnection, if_neg hNe]
  registry := fun _ h => h
  timers := fun _ _ h => h
  tasks := fun _ _ h => h
  self := fun c hGet => ⟨f c, by rw [connections_modifyConnection, if_pos rfl, hGet]; rfl, hf c hGet⟩
  absent := fun hNone => by rw [connections_modifyConnection, if_pos rfl, hNone]; rfl

theorem rewritten_sameRefs (registry : OrderedSet Nat) (timers : Arena Timer) (id : Nat)
    {c' : Connection} (h : c.SameRefs c') : Rewritten registry timers id c c' where
  winds := ⟨fun hPhase => h.phase ▸ hPhase, fun hNone => h.heartbeatTimer.trans hNone,
    fun hClosed => h.state.trans hClosed⟩
  phase := fun _ hPhase => by rw [h.phase]; exact hPhase
  refers := fun ref timer _ _ hRefers => (h.refersTo timer ref).mpr hRefers
  idle := fun hClosed hIdle => by
    have hBefore := hIdle (h.state ▸ hClosed)
    exact ⟨h.phase.trans hBefore.phase, fun timer ref hRefers =>
      hBefore.unreferred timer ref ((h.refersTo timer ref).mp hRefers)⟩

theorem rewrites_sendJson (s : Server World) (id : Nat) (frame : ServerFrame) :
    Rewrites s (s.sendJson id frame) id :=
  rewrites_modifyConnection fun c _ => rewritten_sameRefs _ _ id (c.sameRefs_sendJson frame)

theorem rewrites_clearTimer (s : Server World) (id : Nat) (timer : Option Nat) :
    Rewrites s (s.clearTimer timer) id := by
  apply rewrites_of_connections id (by simp) (by simp)
  · intro ref timer' hTimer
    cases timer with
    | none => exact hTimer
    | some cleared =>
      simp only [clearTimer, Arena.get_free] at hTimer
      split at hTimer
      · cases hTimer
      · exact hTimer
  · intro task handshake hTask
    rw [tasks_clearTimer] at hTask
    exact hTask

theorem get_clearTimer (s : Server World) :
    (s.clearTimer (some ref)).timers.get ref = none := by
  simp [clearTimer]

/-- A tidy server stays tidy and goes back on no connection. -/
def Tends (s t : Server World) : Prop := Tidy s → Tidy t ∧ Winds s t

theorem Tends.refl (s : Server World) : Tends s s := fun hTidy => ⟨hTidy, .refl s⟩

theorem Tends.trans (h : Tends s t) (h' : Tends t u) : Tends s u := by
  intro hTidy
  obtain ⟨hMid, hFirst⟩ := h hTidy
  obtain ⟨hLast, hSecond⟩ := h' hMid
  exact ⟨hLast, hFirst.trans hSecond⟩

theorem Rewrites.tends (h : Rewrites s t id) : Tends s t :=
  fun hTidy => ⟨h.tidy hTidy, h.winds⟩

theorem tends_sendJson (s : Server World) (id : Nat) (frame : ServerFrame) :
    Tends s (s.sendJson id frame) :=
  (s.rewrites_sendJson id frame).tends

theorem tends_clearTimer (s : Server World) (timer : Option Nat) : Tends s (s.clearTimer timer) :=
  (s.rewrites_clearTimer 0 timer).tends

/-- Dropping a reference to a timer that is not armed. -/
theorem tends_dropRef (s : Server World) (id : Nat) {f : ConnectionData → ConnectionData}
    (hPhase : ∀ d, (f d).phase = d.phase)
    (hHeartbeat : ∀ d, (f d).heartbeatTimer = d.heartbeatTimer ∨ (f d).heartbeatTimer = none)
    (hRefers : ∀ d timer ref, (f d).RefersTo timer ref → d.RefersTo timer ref)
    (hKept : ∀ c, s.connections.get id = some c → ∀ ref timer, s.timers.get ref = some timer →
      timer.conn = id → c.data.RefersTo timer ref → (f c.data).RefersTo timer ref) :
    Tends s (s.modifyData id f) := by
  refine Rewrites.tends <| rewrites_modifyConnection fun c hGet => ⟨⟨?_, ?_, fun h => h⟩, ?_, hKept c hGet, ?_⟩
  · intro hAuthenticating
    rw [← hPhase]
    exact hAuthenticating
  · intro hNone
    rcases hHeartbeat c.data with hSame | hDropped
    · exact hSame.trans hNone
    · exact hDropped
  · intro _ hActive
    rw [Connection.withData_data, hPhase]
    exact hActive
  · intro hClosed hIdle
    have hBefore := hIdle hClosed
    exact ⟨(hPhase c.data).trans hBefore.phase, fun timer ref hRef =>
      hBefore.unreferred timer ref (hRefers c.data timer ref hRef)⟩

theorem ne_of_get_clearTimer {cleared : Option Nat}
    (h : (s.clearTimer cleared).timers.get ref = some timer) : cleared ≠ some ref := by
  rintro rfl
  rw [get_clearTimer] at h
  cases h

theorem tends_stopHeartbeat (s : Server World) (id : Nat) : Tends s (s.stopHeartbeat id) := by
  unfold stopHeartbeat
  split
  · exact .refl s
  · next c hGet =>
    refine (s.tends_clearTimer c.data.heartbeatTimer).trans (tends_dropRef _ id (fun _ => rfl)
      (fun _ => .inr rfl) ?_ ?_)
    · intro d timer ref hRef
      cases timer with
      | authTimeout conn => exact hRef
      | heartbeat conn credentialId => cases hRef
      | requestTimeout conn requestId operation => exact hRef
    · intro c' hGet' ref timer hTimer hConn hRef
      rw [connections_clearTimer, hGet] at hGet'
      cases hGet'
      cases timer with
      | authTimeout conn => exact hRef
      | heartbeat conn credentialId => exact absurd hRef (ne_of_get_clearTimer hTimer)
      | requestTimeout conn requestId operation => exact hRef

theorem tends_dropAuthTimer (hGet : s.connections.get id = some c) :
    Tends s ((s.clearTimer c.data.authTimer).modifyData id fun d =>
      { d with authTimer := none }) := by
  refine (s.tends_clearTimer c.data.authTimer).trans (tends_dropRef _ id (fun _ => rfl)
    (fun _ => .inl rfl) ?_ ?_)
  · intro d timer ref hRef
    cases timer with
    | authTimeout conn => cases hRef
    | heartbeat conn credentialId => exact hRef
    | requestTimeout conn requestId operation => exact hRef
  · intro c' hGet' ref timer hTimer hConn hRef
    rw [connections_clearTimer, hGet] at hGet'
    cases hGet'
    cases timer with
    | authTimeout conn => exact absurd hRef (ne_of_get_clearTimer hTimer)
    | heartbeat conn credentialId => exact hRef
    | requestTimeout conn requestId operation => exact hRef

/-- A request leaves its map once its timer is cleared. -/
theorem tends_forgetRequest {requestId : String} {inflight : InFlightRequest}
    (hGet : s.connections.get id = some c)
    (hEntry : c.data.inFlightRequests.get requestId = some inflight) (hRef : inflight.timer = ref) :
    Tends s ((s.clearTimer (some ref)).forgetRequest id requestId) := by
  refine (s.tends_clearTimer (some ref)).trans (tends_dropRef _ id (fun _ => rfl)
    (fun _ => .inl rfl) ?_ ?_)
  · intro d timer ref' hRefers
    cases timer with
    | authTimeout conn => exact hRefers
    | heartbeat conn credentialId => exact hRefers
    | requestTimeout conn requestId' operation =>
      obtain ⟨entry, hMem, hTimer⟩ := hRefers
      obtain ⟨-, hMem⟩ := AssocMap.of_get_delete hMem
      exact ⟨entry, hMem, hTimer⟩
  · intro c' hGet' ref' timer hTimer hConn hRefers
    rw [connections_clearTimer, hGet] at hGet'
    cases hGet'
    cases timer with
    | authTimeout conn => exact hRefers
    | heartbeat conn credentialId => exact hRefers
    | requestTimeout conn requestId' operation =>
      obtain ⟨entry, hMem, hEntryRef⟩ := hRefers
      refine ⟨entry, ?_, hEntryRef⟩
      rw [AssocMap.get_delete]
      split
      · next hSame =>
        -- the forgotten request is the one whose timer has been cleared
        subst hSame
        rw [hEntry] at hMem
        cases hMem
        exact absurd (congrArg some (hRef.symm.trans hEntryRef)) (ne_of_get_clearTimer hTimer)
      · exact hMem

/-! ### Cleanup -/

theorem get_clearTimer_of_get {cleared : Option Nat}
    (h : (s.clearTimer cleared).timers.get ref = some timer) : s.timers.get ref = some timer :=
  (s.rewrites_clearTimer 0 cleared).timers ref timer h

theorem get_clearRequests {entries : List InFlightRequest}
    (h : (s.clearRequests entries).timers.get ref = some timer) :
    s.timers.get ref = some timer ∧ ∀ entry ∈ entries, entry.timer ≠ ref := by
  induction entries generalizing s with
  | nil => exact ⟨h, fun _ hMem => (nomatch hMem)⟩
  | cons entry entries ih =>
    obtain ⟨hGet, hRest⟩ := ih h
    refine ⟨get_clearTimer_of_get hGet, ?_⟩
    intro entry' hMem
    rcases List.mem_cons.mp hMem with rfl | hMem
    · exact fun hEq => ne_of_get_clearTimer hGet (congrArg some hEq)
    · exact hRest entry' hMem

theorem timers_cleanupConnection (hGet : s.connections.get id = some c)
    (h : (s.cleanupConnection id).timers.get ref = some timer) :
    s.timers.get ref = some timer ∧ ¬ c.data.RefersTo timer ref := by
  rw [s.cleanupConnection_eq hGet] at h
  obtain ⟨hHeartbeat, hRequests⟩ := get_clearRequests h
  have hAuth := get_clearTimer_of_get hHeartbeat
  refine ⟨get_clearTimer_of_get hAuth, ?_⟩
  intro hRefers
  cases timer with
  | authTimeout conn => exact ne_of_get_clearTimer hAuth hRefers
  | heartbeat conn credentialId => exact ne_of_get_clearTimer hHeartbeat hRefers
  | requestTimeout conn requestId operation =>
    obtain ⟨entry, hEntry, hTimer⟩ := hRefers
    exact hRequests entry (AssocMap.mem_values.mpr ⟨requestId, hEntry⟩) hTimer

theorem phase_cleaned (d : ConnectionData) : (cleaned d).phase = .closed := by
  unfold cleaned transition
  cases hPhase : d.phase <;> simp [canTransition, validTransitions]

theorem idle_cleaned (d : ConnectionData) : (cleaned d).Idle := by
  refine ⟨phase_cleaned d, ?_⟩
  intro timer ref hRefers
  unfold cleaned transition at hRefers
  split at hRefers <;> cases timer <;> simp [ConnectionData.RefersTo] at hRefers

theorem connections_cleanupConnection (hGet : s.connections.get id = some c) :
    (s.cleanupConnection id).connections.get id = some (c.withData cleaned) := by
  rw [s.cleanupConnection_eq hGet]
  simp [modifyData, connections_modifyConnection, hGet]

theorem heartbeatTimer_cleaned (d : ConnectionData) : (cleaned d).heartbeatTimer = none := by
  unfold cleaned transition
  split <;> rfl

/-- The cleanup of a connection whose socket has been written just before: the
references are still those of the connection before. -/
theorem tends_cleanup (hTimers : u.timers = s.timers) (hTasks : u.tasks = s.tasks)
    (hRegistry : u.registry = s.registry)
    (hOthers : ∀ id', id' ≠ id → u.connections.get id' = s.connections.get id')
    (hSelf : ∀ c, s.connections.get id = some c → ∃ c', u.connections.get id = some c' ∧
      c'.data = c.data ∧ (c.socket.state = .closed → c'.socket.state = .closed))
    (hAbsent : s.connections.get id = none → u.connections.get id = none) :
    Tends s (u.cleanupConnection id) := by
  intro hTidy
  cases hGet : s.connections.get id with
  | none =>
    rw [cleanupConnection_of_none (hAbsent hGet)]
    have hRewrites : Rewrites s u id := by
      refine ⟨hOthers, ?_, ?_, ?_, ?_, hAbsent⟩
      · exact fun _ hMem => hRegistry ▸ hMem
      · exact fun _ _ hTimer => hTimers ▸ hTimer
      · exact fun _ _ hTask => hTasks ▸ hTask
      · intro c hGet'
        rw [hGet] at hGet'
        cases hGet'
    exact hRewrites.tends hTidy
  | some c =>
    obtain ⟨c', hGet', hData, hClosed⟩ := hSelf c hGet
    have hLeft : ∀ ref timer, (u.cleanupConnection id).timers.get ref = some timer →
        s.timers.get ref = some timer ∧ ¬ c.data.RefersTo timer ref := by
      intro ref timer hTimer
      have hBefore := timers_cleanupConnection hGet' hTimer
      rwa [hData, hTimers] at hBefore
    have hRewrites : Rewrites s (u.cleanupConnection id) id := by
      refine ⟨?_, ?_, ?_, ?_, ?_, ?_⟩
      · intro id' hNe
        rw [get_cleanupConnection_of_ne u hNe]
        exact hOthers id' hNe
      · intro id' hMem
        rw [u.cleanupConnection_eq hGet'] at hMem
        exact hRegistry ▸ (OrderedSet.mem_erase.mp hMem).1
      · exact fun ref timer hTimer => (hLeft ref timer hTimer).1
      · intro task handshake hTask
        rw [tasks_cleanupConnection, hTasks] at hTask
        exact hTask
      · intro c₁ hGet₁
        rw [hGet] at hGet₁
        cases hGet₁
        refine ⟨_, connections_cleanupConnection hGet', ⟨?_, ?_, hClosed⟩, ?_, ?_, ?_⟩
        · intro hAuthenticating
          rw [Connection.withData_data, phase_cleaned] at hAuthenticating
          cases hAuthenticating
        · exact fun _ => heartbeatTimer_cleaned _
        · intro hMem
          rw [u.cleanupConnection_eq hGet'] at hMem
          exact absurd rfl (OrderedSet.mem_erase.mp hMem).2
        · intro ref timer hTimer hConn hRefers
          exact absurd hRefers (hLeft ref timer hTimer).2
        · exact fun _ _ => idle_cleaned _
      · intro hNone
        rw [hGet] at hNone
        cases hNone
    exact hRewrites.tends hTidy

theorem tends_cleanupConnection (s : Server World) (id : Nat) :
    Tends s (s.cleanupConnection id) :=
  tends_cleanup rfl rfl rfl (fun _ _ => rfl) (fun c hGet => ⟨c, hGet, rfl, fun h => h⟩) (fun h => h)

theorem tends_closeHandler (s : Server World) (id : Nat) : Tends s (s.closeHandler id) := by
  unfold closeHandler
  refine tends_cleanup (s := s) rfl rfl rfl ?_ ?_ ?_
  · intro id' hNe
    exact get_modifyConnection_of_ne s hNe _
  · intro c hGet
    rw [connections_modifyConnection, if_pos rfl, hGet]
    exact ⟨_, rfl, rfl, fun _ => rfl⟩
  · intro hNone
    rw [connections_modifyConnection, if_pos rfl, hNone]
    rfl

/-! ### Opening -/

/-- One more connection, with the timers that come with it. -/
theorem tends_open (hConnections : ∀ id, t.connections.get id =
      if id = s.connections.next then some c else s.connections.get id)
    (hRegistry : t.registry = s.registry) (hTasks : t.tasks = s.tasks)
    (hTimers : ∀ ref timer, t.timers.get ref = some timer → s.timers.get ref = some timer ∨
      timer.conn = s.connections.next ∧ c.data.RefersTo timer ref) (hOpen : c.socket.state = .open)
    (hHeartbeat : c.data.heartbeatTimer = none) : Tends s t := by
  intro hTidy
  have hOld : ∀ id c', s.connections.get id = some c' → t.connections.get id = some c' := by
    intro id c' hGet
    have hNe : id ≠ s.connections.next := by
      rintro rfl
      rw [Arena.get_next] at hGet
      cases hGet
    rw [hConnections, if_neg hNe]
    exact hGet
  refine ⟨⟨?_, ?_, ?_, ?_, ?_, ?_⟩, fun id c' hGet => ⟨c', hOld id c' hGet, .refl c'⟩⟩
  · intro id hMem
    obtain ⟨c', hGet, hPhase⟩ := hTidy.registered id (hRegistry ▸ hMem)
    exact ⟨c', hOld id c' hGet, hPhase⟩
  · intro ref timer hTimer
    rcases hTimers ref timer hTimer with hBefore | ⟨hConn, hRefers⟩
    · obtain ⟨c', hGet, hRefers⟩ := hTidy.armed ref timer hBefore
      exact ⟨c', hOld _ c' hGet, hRefers⟩
    · exact ⟨c, by rw [hConnections, if_pos hConn], hRefers⟩
  · intro id c' hGet hClosed
    rw [hConnections] at hGet
    split at hGet
    · cases hGet
      rw [hOpen] at hClosed
      cases hClosed
    · exact hTidy.closed id c' hGet hClosed
  · intro id c' hGet hPhase
    rw [hConnections] at hGet
    split at hGet
    · cases hGet
      exact hHeartbeat
    · exact hTidy.fresh id c' hGet hPhase
  · intro task handshake hTask
    obtain ⟨c', hGet, hLater⟩ := hTidy.greeting task handshake (hTasks ▸ hTask)
    exact ⟨c', hOld _ c' hGet, hLater⟩
  · intro task task' handshake handshake' hTask hTask'
    exact hTidy.greetingOnce _ _ _ _ (hTasks ▸ hTask) (hTasks ▸ hTask')

section

variable (s : Server World) (now : Int) (softLimit hardLimit : Nat)

theorem tends_enter : Tends s (s.enter now softLimit hardLimit) :=
  tends_open (c := { data := createConnectionState now softLimit hardLimit })
    (fun id => by simp [enter]) rfl rfl (fun _ _ hTimer => .inl hTimer) rfl rfl

theorem tends_enterArmed :
    Tends s (((s.enter now softLimit hardLimit).arm
      (.authTimeout s.connections.next)).modifyData s.connections.next fun d =>
        { d with authTimer := some s.timers.next }) := by
  refine tends_open (c := { data :=
    { createConnectionState now softLimit hardLimit with authTimer := some s.timers.next } })
    ?_ rfl rfl ?_ rfl rfl
  · intro id
    simp only [modifyData, connections_modifyConnection, arm, enter, Arena.get_alloc]
    split <;> rfl
  · intro ref timer hTimer
    simp only [modifyData, timers_modifyConnection, arm, enter] at hTimer
    rcases Arena.get_alloc_cases hTimer with ⟨hRef, rfl⟩ | ⟨-, hTimer⟩
    · exact .inr ⟨rfl, congrArg some hRef.symm⟩
    · exact .inl hTimer

end

/-! ## Writes and moves -/

/-- A write to the books of the server. -/
theorem tends_books (hConnections : t.connections = s.connections)
    (hRegistry : t.registry = s.registry) (hTimers : t.timers = s.timers)
    (hTasks : ∀ task handshake, t.tasks.get task = some (.authFingerprint handshake) →
      s.tasks.get task = some (.authFingerprint handshake)) : Tends s t :=
  (rewrites_of_connections 0 hConnections (fun _ h => hRegistry ▸ h)
    (fun _ _ h => hTimers ▸ h) hTasks).tends

theorem tends_spawn (s : Server World) {task : Task}
    (hTask : ∀ handshake, task ≠ .authFingerprint handshake) : Tends s (s.spawn task) := by
  refine tends_books (s := s) rfl rfl rfl ?_
  intro ref handshake hGet
  simp only [spawn, Arena.get_alloc] at hGet
  split at hGet
  · exact absurd (Option.some.inj hGet) (hTask handshake)
  · exact hGet

theorem tends_take (s : Server World) (task : Nat) : Tends s (s.take task) := by
  refine tends_books (s := s) rfl rfl rfl ?_
  intro ref handshake hGet
  simp only [take, Arena.get_free] at hGet
  split at hGet
  · cases hGet
  · exact hGet

theorem tends_drain (s : Server World) (id : Nat) :
    Tends s (s.modifyData id fun d => (transition d .draining).1) := by
  have hSame : ∀ d : ConnectionData, (transition d .draining).1.authTimer = d.authTimer ∧
      (transition d .draining).1.heartbeatTimer = d.heartbeatTimer ∧
      (transition d .draining).1.inFlightRequests = d.inFlightRequests := by
    intro d
    unfold transition
    split <;> exact ⟨rfl, rfl, rfl⟩
  have hPhase : ∀ d : ConnectionData, (transition d .draining).1.phase =
      if d.phase = .active then .draining else d.phase := by
    intro d
    unfold transition
    cases hPhase : d.phase <;> simp [canTransition, validTransitions, hPhase]
  have hRefers : ∀ (d : ConnectionData) timer ref,
      (transition d .draining).1.RefersTo timer ref ↔ d.RefersTo timer ref := by
    intro d timer ref
    obtain ⟨hAuth, hHeartbeat, hRequests⟩ := hSame d
    cases timer <;> simp only [ConnectionData.RefersTo, hAuth, hHeartbeat, hRequests]
  refine Rewrites.tends <| rewrites_modifyConnection fun c _ => ⟨⟨?_, ?_, fun h => h⟩, ?_, ?_, ?_⟩
  · intro hAuthenticating
    rw [Connection.withData_data, hPhase] at hAuthenticating
    split at hAuthenticating
    · cases hAuthenticating
    · exact hAuthenticating
  · exact fun hNone => (hSame c.data).2.1.trans hNone
  · intro _ hRegistered
    rw [Connection.withData_data, hPhase]
    split
    · exact .inr rfl
    · exact hRegistered
  · exact fun ref timer _ _ hRef => (hRefers c.data timer ref).mpr hRef
  · intro hClosed hIdle
    have hBefore := hIdle hClosed
    refine ⟨?_, fun timer ref hRef => hBefore.unreferred timer ref ((hRefers _ _ _).mp hRef)⟩
    rw [Connection.withData_data, hPhase, hBefore.phase]
    rfl

theorem tends_beginClosing {code : WsCloseCode} (hGet : s.connections.get id = some c)
    (hOpen : c.socket.state = .open) :
    Tends s (s.modifyConnection id fun c =>
      { c with socket := { c.socket with state := .closing code } }) := by
  refine Rewrites.tends <| rewrites_modifyConnection fun c' hGet' =>
    ⟨⟨fun h => h, fun h => h, ?_⟩, fun _ h => h, fun _ _ _ _ h => h, fun h => (nomatch h)⟩
  intro hClosed
  rw [hGet] at hGet'
  cases hGet'
  rw [hOpen] at hClosed
  cases hClosed

theorem tends_write {records : Nat → CredentialRecord → Prop} (h : Write records s t) :
    Tends s t := by
  cases h with
  | count id f hCounts =>
    refine Rewrites.tends <| rewrites_modifyConnection fun c hGet => rewritten_sameRefs _ _ id ?_
    have hCount := hCounts c hGet
    exact ⟨hCount.phase, hCount.authTimer, hCount.heartbeatTimer, hCount.inFlightRequests,
      hCount.state⟩
  | notify id frame hNotice => exact s.tends_sendJson id frame
  | beginClosing id c code hGet hOpen => exact tends_beginClosing hGet hOpen
  | closed id => exact s.tends_closeHandler id
  | cache id record hRecord =>
    have hRewrites : Rewrites s (s.cacheRecord id record) id :=
      rewrites_modifyConnection fun c _ =>
        rewritten_sameRefs _ _ id ⟨rfl, rfl, rfl, rfl, rfl⟩
    exact hRewrites.tends
  | stopHeartbeat id => exact s.tends_stopHeartbeat id
  | dropAuthTimer id c hGet => exact tends_dropAuthTimer hGet
  | expireAuth ref id hTimer => exact s.tends_clearTimer (some ref)
  | expireRequest ref id operation response hTimer =>
    intro hTidy
    obtain ⟨c, hGet, entry, hEntry, hRef⟩ := hTidy.armed ref _ hTimer
    exact ((tends_forgetRequest hGet hEntry hRef).trans (tends_sendJson _ id _)) hTidy
  | complete id c inflight response hGet hInFlight =>
    exact (tends_forgetRequest hGet hInFlight rfl).trans (tends_sendJson _ id _)
  | drain id => exact s.tends_drain id
  | cleanup id => exact s.tends_cleanupConnection id
  | enter now softLimit hardLimit => exact s.tends_enter now softLimit hardLimit
  | enterArmed now softLimit hardLimit => exact s.tends_enterArmed now softLimit hardLimit
  | spawn task hTask =>
    apply tends_spawn
    rintro handshake rfl
    exact hTask
  | take ref task hGet hFingerprint hInvalidation => exact s.tends_take ref
  | serverState serverState => exact tends_books rfl rfl rfl (fun _ _ h => h)

theorem tends_move {s₀ : Server World} (h : Move deps s₀ label s t) : Tends s t := by
  cases h with
  | write hWrite => exact tends_write hWrite
  | sequence sending ref state hState hEmits =>
    unfold sequenceAndSend
    refine Tends.trans ?_ (tends_sendJson _ _ _)
    exact tends_books rfl rfl rfl (fun _ _ h => h)
  | replay task handshake frame hEvent hTask hFrame => exact tends_sendJson _ _ _
  | respond task id frame requestId error hEvent hTask hFrame => exact tends_sendJson _ _ _
  | invalidate credentialId hEvent =>
    unfold invalidateCredential
    refine Tends.trans ?_ (tends_spawn _ fun _ h => (nomatch h))
    exact tends_books rfl rfl rfl (fun _ _ h => h)
  | answer task credentialId myGen hTask => exact s.tends_take task
  | queue credentialId event pending hEvent hPending =>
    exact tends_books rfl rfl rfl (fun _ _ h => h)
  | dispatch credentialId event hEvent hDirect => exact tends_books rfl rfl rfl (fun _ _ h => h)
  | countDown credentialId entry hEntry => exact tends_books rfl rfl rfl (fun _ _ h => h)
  | unlist credentialId => exact tends_books rfl rfl rfl (fun _ _ h => h)
  | redispatch credentialId offered pending hPending hMem =>
    exact tends_books rfl rfl rfl (fun _ _ h => h)
  | forgetStates => exact tends_books rfl rfl rfl (fun _ _ h => h)

theorem tends_moves {s₀ : Server World} (h : Moves deps s₀ label s t) : Tends s t := by
  induction h with
  | refl => exact .refl s
  | tail _ hMove ih => exact ih.trans (tends_move hMove)

end Server
end Ws
end Signet
