import Signet.Ws.Timers

/-!
# The lifecycle of a connection

A phase is checked when a frame comes in.  What goes on after an await checks it
no more: a token lookup that answers late registers a connection that has been
closed, and a fingerprint or a request lookup that answers late arms a timer
nobody clears.

* `orderly` — the step goes on only with a connection that is still there for it.
* `tidy_step` — an orderly step keeps the invariant of the timers.
* `connection_lifecycle` — in every orderly run only active and draining
  connections are registered, each is authenticated once at most, and a closed one
  stays without timers and out of the registry.
-/

namespace Signet
namespace Ws

open Kit Machine Schemas Sessions

variable {World : Type} {deps : WsServerDeps World}

namespace Server

/-- The step ends the token lookup of a connection with success. -/
def authenticates (s : Server World) (label : ServerLabel World) (id : Nat) : Bool :=
  match label.event with
  | .tokenLookedUp task (some result) =>
    match s.tasks.get task, handleAuth result with
    | some (.authLookup id' _), .ok _ => id' == id && (s.connections.get id).isSome
    | _, _ => false
  | _ => false

/-- How often a connection has been authenticated. -/
def authentications (h : ServerHistory World) (id : Nat) : Nat :=
  (h.filter fun o => o.pre.authenticates o.label id).length

/-! ## Orderly steps -/

end Server

def Connection.trackerAfter (c : Connection) (frames : Nat) : BackpressureTracker :=
  if c.socket.congested then
    { c.data.backpressure with depth := c.data.backpressure.depth + frames }
  else c.data.backpressure

/-- The recovery event that follows the authenticated frame puts an open
connection over its hard limit, by itself or by the warning it causes. -/
def Connection.overflows (c : Connection) : Bool :=
  c.isOpen &&
    (decide ((c.trackerAfter 2).state = .exceeded) ||
      (decide ((c.trackerAfter 2).state = .warning) && !(c.trackerAfter 2).notified &&
        decide ((c.trackerAfter 3).state = .exceeded)))

namespace Server

/-- A token lookup succeeds for a connection that still authenticates, a
fingerprint comes for one that is connected and that the recovery event does not
close, and a request is accepted on one that is connected and has no request of
this id in flight. -/
def orderly (deps : WsServerDeps World) (s : Server World) (label : ServerLabel World) : Bool :=
  match label.event with
  | .tokenLookedUp task (some result) =>
    match s.tasks.get task, handleAuth result with
    | some (.authLookup id _), .ok _ =>
      decide (s.dataOf id ConnectionData.phase = some .authenticating)
    | _, _ => true
  | .fingerprinted task =>
    match s.tasks.get task with
    | some (.authFingerprint handshake) =>
      s.isConnected handshake.conn &&
        !(deps.closesSynchronously && handshake.resume.needsRecovery &&
          (s.connections.get handshake.conn).any Connection.overflows)
    | _ => true
  | .credentialLookedUp task (some (.ok credential)) =>
    match s.tasks.get task with
    | some (.requestLookup id (.request request)) =>
      decide (credential.status ≠ .active) ||
        (s.isConnected id &&
          ((s.connections.get id).any fun c =>
            (c.data.inFlightRequests.get request.requestId).isNone))
    | _ => true
  | _ => true

/-! ## The first half of an authentication -/

section Steps

variable {s t : Server World} {label : ServerLabel World}

section

variable (deps : WsServerDeps World) (s : Server World) (id : Nat)

variable (authFrame : AuthFrame) (credential : CredentialRecord)

theorem timers_beginHandshake :
    (s.beginHandshake deps id authFrame credential).timers = s.timers := by
  unfold beginHandshake
  simp [spawn, modifyData]

theorem registry_beginHandshake :
    (s.beginHandshake deps id authFrame credential).registry = s.registry.add id := by
  unfold beginHandshake
  simp [spawn, modifyData]

/-- The authentication awaits its fingerprint afterwards. -/
theorem tasks_beginHandshake :
    ∃ resume, (s.beginHandshake deps id authFrame credential).tasks =
      s.tasks.alloc (.authFingerprint ⟨id, authFrame, credential, resume⟩) := by
  unfold beginHandshake
  simp only [spawn, modifyData, tasks_modifyConnection, getOrCreateCredentialState_tasks]
  exact ⟨_, rfl⟩

end

section

variable (credential : CredentialRecord)

theorem phase_activate {d : ConnectionData} (h : d.phase = .authenticating) :
    (activate credential d).phase = .active := by
  simp [activate, transition, canTransition, validTransitions, h]

theorem refersTo_activate (d : ConnectionData) (timer : Timer) (ref : Nat) :
    (activate credential d).RefersTo timer ref ↔ d.RefersTo timer ref := by
  unfold activate transition
  split <;> cases timer <;> rfl

theorem heartbeatTimer_activate (d : ConnectionData) :
    (activate credential d).heartbeatTimer = d.heartbeatTimer := by
  unfold activate transition
  split <;> rfl

end

variable {c : Connection} {id : Nat}

theorem tends_begin (hGet : s.connections.get id = some c) (hPhase : c.data.phase = .authenticating)
    (authFrame : AuthFrame) (credential : CredentialRecord) :
    Tends s (s.beginHandshake deps id authFrame credential) := by
  intro hTidy
  have hConnections := fun id' => s.connections_beginHandshake deps id id' authFrame credential
  have hTimers := s.timers_beginHandshake deps id authFrame credential
  have hRegistry := s.registry_beginHandshake deps id authFrame credential
  obtain ⟨resume, hTasks⟩ := s.tasks_beginHandshake deps id authFrame credential
  generalize s.beginHandshake deps id authFrame credential = t at *
  -- the connection afterwards
  obtain ⟨c', hGet', hActive, hHeartbeat, hRefers, hState⟩ : ∃ c', t.connections.get id = some c' ∧
      c'.data.phase = .active ∧ c'.data.heartbeatTimer = none ∧
      (∀ timer ref, c.data.RefersTo timer ref → c'.data.RefersTo timer ref) ∧
      c'.socket.state = c.socket.state := by
    rw [hConnections, if_pos rfl, hGet]
    refine ⟨_, rfl, phase_activate credential hPhase, ?_, ?_, rfl⟩
    · exact (heartbeatTimer_activate credential c.data).trans (hTidy.fresh id c hGet hPhase)
    · intro timer ref hRef
      have hKept := (refersTo_activate credential c.data timer ref).mpr hRef
      cases timer <;> exact hKept
  have hOthers : ∀ id', id' ≠ id → t.connections.get id' = s.connections.get id' := by
    intro id' hNe
    rw [hConnections, if_neg hNe]
  have hNotClosed : c.socket.state ≠ .closed := by
    intro hClosed
    have hIdle := hTidy.closed id c hGet hClosed
    rw [hIdle.phase] at hPhase
    cases hPhase
  have hNoGreeting : ∀ task handshake, s.tasks.get task = some (.authFingerprint handshake) →
      handshake.conn ≠ id := by
    rintro task handshake hTask rfl
    obtain ⟨c₁, hGet₁, hNe, -⟩ := hTidy.greeting task handshake hTask
    rw [hGet] at hGet₁
    cases hGet₁
    exact hNe hPhase
  have hTask : ∀ task handshake, t.tasks.get task = some (.authFingerprint handshake) →
      task = s.tasks.next ∧ handshake.conn = id ∨
        s.tasks.get task = some (.authFingerprint handshake) := by
    intro task handshake hGetTask
    rw [hTasks] at hGetTask
    rcases Arena.get_alloc_cases hGetTask with ⟨hNew, hValue⟩ | ⟨-, hGetTask⟩
    · cases hValue
      exact .inl ⟨hNew, rfl⟩
    · exact .inr hGetTask
  refine ⟨⟨?_, ?_, ?_, ?_, ?_, ?_⟩, ?_⟩
  · intro id' hMem
    rw [hRegistry, OrderedSet.mem_add] at hMem
    by_cases hId : id' = id
    · exact ⟨c', by rw [hId]; exact hGet', .inl hActive⟩
    · rw [hOthers id' hId]
      exact hTidy.registered id' (hMem.resolve_left hId)
  · intro ref timer hTimer
    rw [hTimers] at hTimer
    obtain ⟨c₁, hGet₁, hRef⟩ := hTidy.armed ref timer hTimer
    by_cases hId : timer.conn = id
    · rw [hId, hGet] at hGet₁
      cases hGet₁
      exact ⟨c', by rw [hId]; exact hGet', hRefers timer ref hRef⟩
    · exact ⟨c₁, by rw [hOthers _ hId]; exact hGet₁, hRef⟩
  · intro id' c₁ hGet₁ hClosed
    by_cases hId : id' = id
    · rw [hId, hGet'] at hGet₁
      cases hGet₁
      exact absurd (hState.symm.trans hClosed) hNotClosed
    · rw [hOthers id' hId] at hGet₁
      exact hTidy.closed id' c₁ hGet₁ hClosed
  · intro id' c₁ hGet₁ hAuthenticating
    by_cases hId : id' = id
    · rw [hId, hGet'] at hGet₁
      cases hGet₁
      exact hHeartbeat
    · rw [hOthers id' hId] at hGet₁
      exact hTidy.fresh id' c₁ hGet₁ hAuthenticating
  · intro task handshake hGetTask
    rcases hTask task handshake hGetTask with ⟨-, hConn⟩ | hOld
    · refine ⟨c', by rw [hConn]; exact hGet', ?_, hHeartbeat⟩
      rw [hActive]
      simp
    · rw [hOthers _ (hNoGreeting task handshake hOld)]
      exact hTidy.greeting task handshake hOld
  · intro task task' handshake handshake' hGetTask hGetTask' hSame
    rcases hTask task handshake hGetTask with ⟨hNew, hConn⟩ | hOld <;>
      rcases hTask task' handshake' hGetTask' with ⟨hNew', hConn'⟩ | hOld'
    · exact hNew.trans hNew'.symm
    · exact absurd (hSame.symm.trans hConn) (hNoGreeting task' handshake' hOld')
    · exact absurd (hSame.trans hConn') (hNoGreeting task handshake hOld)
    · exact hTidy.greetingOnce _ _ _ _ hOld hOld' hSame
  · intro id' c₁ hGet₁
    by_cases hId : id' = id
    · rw [hId, hGet] at hGet₁
      cases hGet₁
      refine ⟨c', by rw [hId]; exact hGet', ?_, fun _ => hHeartbeat, ?_⟩
      · intro hAuthenticating
        rw [hActive] at hAuthenticating
        cases hAuthenticating
      · exact fun hClosed => hState.trans hClosed
    · exact ⟨c₁, by rw [hOthers id' hId]; exact hGet₁, .refl c₁⟩

/-! ## Arming a timer -/

/-- No connection vanishes, goes back to its authentication or opens its socket. -/
def Advances (s t : Server World) : Prop :=
  ∀ id c, s.connections.get id = some c → ∃ c', t.connections.get id = some c' ∧
    (c'.data.phase = .authenticating → c.data.phase = .authenticating) ∧
    (c.socket.state = .closed → c'.socket.state = .closed)

theorem Winds.advances (h : Winds s t) : Advances s t := by
  intro id c hGet
  obtain ⟨c', hGet', hWinds⟩ := h id c hGet
  exact ⟨c', hGet', hWinds.phase, hWinds.closed⟩

theorem Advances.trans {u : Server World} (h : Advances s t) (h' : Advances t u) :
    Advances s u := by
  intro id c hGet
  obtain ⟨c', hGet', hPhase, hClosed⟩ := h id c hGet
  obtain ⟨c'', hGet'', hPhase', hClosed'⟩ := h' id c' hGet'
  exact ⟨c'', hGet'', fun hBack => hPhase (hPhase' hBack), fun hOld => hClosed' (hClosed hOld)⟩

/-- A new timer for a connection that is there, with the reference to it. -/
theorem tidy_arm {timer : Timer} {c' : Connection} (hTidy : Tidy s)
    (hGet : s.connections.get id = some c) (hConn : timer.conn = id)
    (hConnections : ∀ id', t.connections.get id' =
      if id' = id then some c' else s.connections.get id')
    (hTimers : t.timers = s.timers.alloc timer) (hRegistry : t.registry = s.registry)
    (hTasks : ∀ task handshake, t.tasks.get task = some (.authFingerprint handshake) →
      s.tasks.get task = some (.authFingerprint handshake)) (hPhase : c'.data.phase = c.data.phase)
    (hState : c'.socket.state = c.socket.state) (hNotClosed : c.socket.state ≠ .closed)
    (hRefers : c'.data.RefersTo timer s.timers.next)
    (hKept : ∀ timer' ref, c.data.RefersTo timer' ref → c'.data.RefersTo timer' ref)
    (hHeartbeat : c'.data.heartbeatTimer = c.data.heartbeatTimer ∨
      c.data.phase ≠ .authenticating ∧ ∀ task handshake,
        s.tasks.get task = some (.authFingerprint handshake) → handshake.conn ≠ id) :
    Tidy t ∧ Advances s t := by
  have hSelf : t.connections.get id = some c' := by rw [hConnections, if_pos rfl]
  have hOthers : ∀ id', id' ≠ id → t.connections.get id' = s.connections.get id' := by
    intro id' hNe
    rw [hConnections, if_neg hNe]
  refine ⟨⟨?_, ?_, ?_, ?_, ?_, ?_⟩, ?_⟩
  · intro id' hMem
    obtain ⟨c₁, hGet₁, hRegistered⟩ := hTidy.registered id' (hRegistry ▸ hMem)
    by_cases hId : id' = id
    · subst hId
      rw [hGet] at hGet₁
      cases hGet₁
      exact ⟨c', hSelf, by rw [hPhase]; exact hRegistered⟩
    · exact ⟨c₁, by rw [hOthers id' hId]; exact hGet₁, hRegistered⟩
  · intro ref timer' hTimer
    rw [hTimers] at hTimer
    rcases Arena.get_alloc_cases hTimer with ⟨hNew, rfl⟩ | ⟨-, hTimer⟩
    · exact ⟨c', by rw [hConn]; exact hSelf, hNew ▸ hRefers⟩
    · obtain ⟨c₁, hGet₁, hRef⟩ := hTidy.armed ref timer' hTimer
      by_cases hId : timer'.conn = id
      · rw [hId, hGet] at hGet₁
        cases hGet₁
        exact ⟨c', by rw [hId]; exact hSelf, hKept timer' ref hRef⟩
      · exact ⟨c₁, by rw [hOthers _ hId]; exact hGet₁, hRef⟩
  · intro id' c₁ hGet₁ hClosed
    by_cases hId : id' = id
    · rw [hId, hSelf] at hGet₁
      cases hGet₁
      exact absurd (hState.symm.trans hClosed) hNotClosed
    · rw [hOthers id' hId] at hGet₁
      exact hTidy.closed id' c₁ hGet₁ hClosed
  · intro id' c₁ hGet₁ hAuthenticating
    by_cases hId : id' = id
    · rw [hId, hSelf] at hGet₁
      cases hGet₁
      rw [hPhase] at hAuthenticating
      rcases hHeartbeat with hSame | ⟨hNe, -⟩
      · exact hSame.trans (hTidy.fresh id c hGet hAuthenticating)
      · exact absurd hAuthenticating hNe
    · rw [hOthers id' hId] at hGet₁
      exact hTidy.fresh id' c₁ hGet₁ hAuthenticating
  · intro task handshake hTask
    obtain ⟨c₁, hGet₁, hNe, hNone⟩ := hTidy.greeting task handshake (hTasks _ _ hTask)
    by_cases hId : handshake.conn = id
    · rw [hId, hGet] at hGet₁
      cases hGet₁
      rcases hHeartbeat with hSame | ⟨-, hNoGreeting⟩
      · exact ⟨c', by rw [hId]; exact hSelf, by rw [hPhase]; exact hNe, hSame.trans hNone⟩
      · exact absurd hId (hNoGreeting task handshake (hTasks _ _ hTask))
    · exact ⟨c₁, by rw [hOthers _ hId]; exact hGet₁, hNe, hNone⟩
  · intro task task' handshake handshake' hTask hTask'
    exact hTidy.greetingOnce _ _ _ _ (hTasks _ _ hTask) (hTasks _ _ hTask')
  · intro id' c₁ hGet₁
    by_cases hId : id' = id
    · rw [hId, hGet] at hGet₁
      cases hGet₁
      exact ⟨c', by rw [hId]; exact hSelf, fun h => hPhase ▸ h, fun h => hState.trans h⟩
    · exact ⟨c₁, by rw [hOthers id' hId]; exact hGet₁, fun h => h, fun h => h⟩

/-! ## The second half of an authentication -/

theorem tidy_startHeartbeat (hTidy : Tidy s) (hGet : s.connections.get id = some c)
    (hNotClosed : c.socket.state ≠ .closed) (hPhase : c.data.phase ≠ .authenticating)
    (hNone : c.data.heartbeatTimer = none)
    (hNoGreeting : ∀ task handshake, s.tasks.get task = some (.authFingerprint handshake) →
      handshake.conn ≠ id) :
    Tidy (s.startHeartbeat id) ∧ Advances s (s.startHeartbeat id) := by
  unfold startHeartbeat
  split
  · exact ⟨hTidy, (Winds.refl s).advances⟩
  · next record hRecord =>
    let beating := c.withData fun d => { d with heartbeatTimer := some s.timers.next }
    have hConnections : ∀ id', ((s.arm (.heartbeat id record.credentialId)).modifyData id fun d =>
        { d with heartbeatTimer := some s.timers.next }).connections.get id' =
          if id' = id then some beating else s.connections.get id' := by
      intro id'
      simp only [modifyData, connections_modifyConnection, arm]
      split
      · next hId =>
        rw [hId, hGet]
        rfl
      · rfl
    refine tidy_arm hTidy hGet rfl hConnections rfl rfl (fun _ _ h => h) rfl rfl hNotClosed rfl ?_
      (.inr ⟨hPhase, hNoGreeting⟩)
    intro timer ref hRef
    cases timer with
    | authTimeout conn => exact hRef
    | heartbeat conn credentialId =>
      have hBefore : c.data.heartbeatTimer = some ref := hRef
      rw [hNone] at hBefore
      cases hBefore
    | requestTimeout conn requestId operation => exact hRef

theorem fingerprints_moves {s₀ : Server World} (h : Moves deps s₀ label s t) {task : Nat}
    {handshake : Handshake} (hTask : t.tasks.get task = some (.authFingerprint handshake)) :
    s.tasks.get task = some (.authFingerprint handshake) := by
  have hBack : t.tasks.get task = some (.authFingerprint handshake) →
      s.tasks.get task = some (.authFingerprint handshake) := by
    induction h with
    | refl => exact fun hSame => hSame
    | tail _ hMove ih =>
      intro hLater
      rcases tasks_move hMove hLater with hOld | hPlain | ⟨_, _, hEq⟩
      · exact ih hOld hOld
      · exact hPlain.elim
      · cases hEq
  exact hBack hTask

end Steps

end Server

/-! ### What the recovery event closes -/

theorem Connection.trackerAfter_sendJson {c : Connection} (hOpen : c.isOpen = true)
    (frame : ServerFrame) (frames : Nat) :
    (c.sendJson frame).trackerAfter frames = c.trackerAfter (frames + 1) := by
  have hState : c.socket.state = .open := of_decide_eq_true hOpen
  unfold trackerAfter sendJson
  rw [if_neg (not_not.mpr hState)]
  dsimp only
  cases c.socket.congested with
  | false => rfl
  | true =>
    simp only [if_true, BackpressureTracker.increment]
    rw [Nat.add_assoc, Nat.add_comm 1 frames]

theorem Connection.trackerAfter_zero (c : Connection) :
    c.trackerAfter 0 = c.data.backpressure := by
  unfold trackerAfter
  split <;> rfl

theorem Connection.state_trackerAfter_markNotified (c : Connection) (frames : Nat) :
    ((c.withData fun d => { d with backpressure := d.backpressure.markNotified }).trackerAfter
      frames).state = (c.trackerAfter frames).state := by
  unfold trackerAfter
  rw [withData_socket]
  cases c.socket.congested <;> rfl

theorem Connection.isOpen_sendJson (c : Connection) (frame : ServerFrame) :
    (c.sendJson frame).isOpen = c.isOpen := by
  simp [isOpen]

namespace Server

section Steps

variable {s t : Server World} {label : ServerLabel World}

variable {c : Connection} {id : Nat}

section

variable (hGet : s.connections.get id = some c) (hNotClosed : c.socket.state ≠ .closed)

include hGet hNotClosed

/-- A socket the server closes runs its close handler at once only where the host
does so. -/
theorem close_not_closed (hAsync : deps.closesSynchronously = false) (code : WsCloseCode) :
    ∃ c', (s.close deps id code).connections.get id = some c' ∧ c'.socket.state ≠ .closed := by
  unfold close
  rw [hGet]
  dsimp only
  rw [hAsync]
  split
  · exact ⟨c, hGet, hNotClosed⟩
  · rw [if_neg (by simp), connections_modifyConnection, if_pos rfl, hGet]
    exact ⟨_, rfl, by simp⟩

theorem checkBackpressure_not_closed
    (hBelow : deps.closesSynchronously = true → c.isOpen = true →
      (c.trackerAfter 0).state ≠ .exceeded ∧ ((c.trackerAfter 0).state = .warning →
        (c.trackerAfter 0).notified = false → (c.trackerAfter 1).state ≠ .exceeded)) :
    ∃ c', (s.checkBackpressure deps id).connections.get id = some c' ∧
      c'.socket.state ≠ .closed := by
  have hClose : ∀ (u : Server World) (c₁ : Connection), u.connections.get id = some c₁ →
      c₁.socket.state ≠ .closed → (deps.closesSynchronously = false ∨ c₁.socket.state ≠ .open) →
      ∃ c', (u.close deps id .backpressure).connections.get id = some c' ∧
        c'.socket.state ≠ .closed := by
    rintro u c₁ hGet₁ hNotClosed₁ (hAsync | hState)
    · exact close_not_closed hGet₁ hNotClosed₁ hAsync _
    · unfold close
      rw [hGet₁]
      dsimp only
      rw [if_pos hState]
      exact ⟨c₁, hGet₁, hNotClosed₁⟩
  unfold checkBackpressure
  rw [hGet]
  simp only [c.trackerAfter_zero] at hBelow
  dsimp only
  split
  · next hExceeded =>
    apply hClose s c hGet hNotClosed
    by_contra hSync
    rw [not_or, Bool.not_eq_false, not_not] at hSync
    exact (hBelow hSync.1 (by simp [Connection.isOpen, hSync.2])).1 hExceeded
  · exact ⟨c, hGet, hNotClosed⟩
  · next hWarning =>
    split
    · exact ⟨c, hGet, hNotClosed⟩
    · next hNotified =>
      let marked := c.withData fun d => { d with backpressure := d.backpressure.markNotified }
      let warned := marked.sendJson
        (.backpressure c.data.backpressure.depth deps.config.sendBufferHardLimit)
      have hMarked : (s.modifyData id fun d =>
          { d with backpressure := d.backpressure.markNotified }).connections.get id =
            some marked := by
        unfold modifyData
        rw [connections_modifyConnection, if_pos rfl, hGet]
        rfl
      have hWarned : ((s.modifyData id fun d =>
          { d with backpressure := d.backpressure.markNotified }).sendJson id
            (.backpressure c.data.backpressure.depth
              deps.config.sendBufferHardLimit)).connections.get id = some warned := by
        unfold sendJson
        rw [connections_modifyConnection, if_pos rfl, hMarked]
        rfl
      have hState : warned.socket.state = c.socket.state := marked.sendJson_state _
      split
      · next hExceeded =>
        apply hClose _ warned hWarned (by rw [hState]; exact hNotClosed)
        by_contra hSync
        rw [not_or, Bool.not_eq_false, not_not] at hSync
        have hOpen : c.isOpen = true := by
          simp only [Connection.isOpen, decide_eq_true_eq]
          exact hState.symm.trans hSync.2
        apply (hBelow hSync.1 hOpen).2 hWarning (by simpa using hNotified)
        unfold dataOf at hExceeded
        rw [hWarned, Option.map_some, Option.some.injEq] at hExceeded
        have hTracker : warned.data.backpressure = marked.trackerAfter 1 := by
          rw [← warned.trackerAfter_zero]
          exact Connection.trackerAfter_sendJson (c := marked) hOpen _ 0
        rw [← c.state_trackerAfter_markNotified, ← hTracker]
        exact hExceeded
      · exact ⟨warned, hWarned, by rw [hState]; exact hNotClosed⟩

end

/-- A connection that the recovery event does not close is there for its
heartbeat. -/
theorem sendSequenced_not_closed {frame : ServerFrame}
    (hGet : s.connections.get id = some (c.sendJson frame)) (hNotClosed : c.socket.state ≠ .closed)
    (hBelow : deps.closesSynchronously = true → c.overflows = false) (event : SignetEvent)
    (origin : Origin World) :
    ∃ c', (s.sendSequenced deps id event origin).connections.get id = some c' ∧
      c'.socket.state ≠ .closed := by
  unfold sendSequenced
  split
  · exact ⟨_, hGet, by rw [c.sendJson_state]; exact hNotClosed⟩
  · next ref state hState =>
    let sent := ServerFrame.sequenced (sequenceEvent state event origin).2
    have hSent : (s.sequenceAndSend id ref state event origin).connections.get id =
        some ((c.sendJson frame).sendJson sent) := by
      unfold sequenceAndSend sendJson
      rw [connections_modifyConnection, if_pos rfl, hGet]
      rfl
    refine checkBackpressure_not_closed hSent (by simpa using hNotClosed) ?_
    intro hSync hStillOpen
    rw [Connection.isOpen_sendJson, Connection.isOpen_sendJson] at hStillOpen
    have hFirst : (c.sendJson frame).isOpen = true := by
      rw [c.isOpen_sendJson]
      exact hStillOpen
    have hTracker : ∀ frames, ((c.sendJson frame).sendJson sent).trackerAfter frames =
        c.trackerAfter (frames + 2) := by
      intro frames
      rw [Connection.trackerAfter_sendJson hFirst, Connection.trackerAfter_sendJson hStillOpen]
    have hOverflow := hBelow hSync
    simp only [Connection.overflows, hStillOpen, Bool.true_and, Bool.or_eq_false_iff,
      decide_eq_false_iff_not, Bool.and_eq_false_iff, Bool.not_eq_false'] at hOverflow
    obtain ⟨hLimit, hWarned⟩ := hOverflow
    rw [hTracker, hTracker]
    refine ⟨hLimit, fun hWarning hNotified hExceeded => ?_⟩
    rcases hWarned with (hNot | hNot) | hNot
    · exact hNot hWarning
    · rw [hNotified] at hNot
      cases hNot
    · exact hNot hExceeded

theorem sendReplay_not_closed (frames : List SequencedFrame) (hGet : s.connections.get id = some c)
    (hNotClosed : c.socket.state ≠ .closed) :
    ∃ c', (s.sendReplay id frames).connections.get id = some c' ∧ c'.socket.state ≠ .closed := by
  induction frames generalizing s c with
  | nil => exact ⟨c, hGet, hNotClosed⟩
  | cons frame frames ih =>
    have hSent : (s.sendJson id (.sequenced frame)).connections.get id =
        some (c.sendJson (.sequenced frame)) := by
      unfold sendJson
      rw [connections_modifyConnection, if_pos rfl, hGet]
      rfl
    exact ih hSent (by rw [c.sendJson_state]; exact hNotClosed)

/-- An authentication ends for a connection that is still there for it. -/
theorem tidy_finish {task : Nat} {handshake : Handshake} (hTidy : Tidy s)
    (hEvent : label.event = .fingerprinted task)
    (hTask : s.tasks.get task = some (.authFingerprint handshake))
    (hOrderly : s.orderly deps label = true) :
    Tidy ((s.take task).finishHandshake deps label.now handshake) ∧
      Advances s ((s.take task).finishHandshake deps label.now handshake) := by
  obtain ⟨c, hGet, hPhase, hNone⟩ := hTidy.greeting task handshake hTask
  unfold orderly at hOrderly
  rw [hEvent] at hOrderly
  simp only [hTask, isConnected, hGet, Option.any_some, Bool.and_eq_true, decide_eq_true_eq,
    Bool.not_eq_true', Bool.and_eq_false_iff] at hOrderly
  obtain ⟨hNotClosed, hBelow⟩ := hOrderly
  -- the state before the heartbeat is started
  have hStart : ∀ u, Moves deps s label (s.greet deps task handshake) u →
      (∃ c', u.connections.get handshake.conn = some c' ∧ c'.socket.state ≠ .closed) →
      Tidy (u.startHeartbeat handshake.conn) ∧ Advances s (u.startHeartbeat handshake.conn) := by
    rintro u hMoves ⟨c', hGet', hNotClosed'⟩
    have hGreeted : Tends s (s.greet deps task handshake) :=
      (s.tends_take task).trans (tends_sendJson _ _ _)
    obtain ⟨hTidyU, hWinds⟩ := (hGreeted.trans (tends_moves hMoves)) hTidy
    obtain ⟨c'', hGet'', hSelf⟩ := hWinds _ c hGet
    rw [hGet'] at hGet''
    cases hGet''
    have hNoGreeting : ∀ task' handshake', u.tasks.get task' = some (.authFingerprint handshake') →
        handshake'.conn ≠ handshake.conn := by
      intro task' handshake' hTask' hSame
      have hBefore := fingerprints_moves hMoves hTask'
      have hLeft : (s.take task).tasks.get task' = some (.authFingerprint handshake') := hBefore
      simp only [take, Arena.get_free] at hLeft
      split at hLeft
      · cases hLeft
      · next hNe => exact hNe (hTidy.greetingOnce task' task handshake' handshake hLeft hTask hSame)
    obtain ⟨hTidyT, hAdvances⟩ := tidy_startHeartbeat hTidyU hGet' hNotClosed'
      (fun hBack => hPhase (hSelf.phase hBack)) (hSelf.heartbeat hNone) hNoGreeting
    exact ⟨hTidyT, hWinds.advances.trans hAdvances⟩
  obtain ⟨frame, hGreet⟩ : ∃ frame, (s.greet deps task handshake).connections.get handshake.conn =
      some (c.sendJson frame) := by
    refine ⟨.authenticated handshake.conn (tokenOf deps handshake)
      handshake.credential.effectiveScopes handshake.resume.resumedFromSeq, ?_⟩
    unfold greet sendJson
    rw [connections_modifyConnection, if_pos rfl]
    exact congrArg (Option.map _) hGet
  by_cases hRecovery : handshake.resume.needsRecovery = true
  · have hAfter := hStart ((s.greet deps task handshake).sendSequenced deps handshake.conn
      (.signetRecoveryComplete label.now) .recovery)
      (moves_sendSequenced (.recovery handshake.conn label.now)) ?_
    · unfold finishHandshake
      simp only [hRecovery, if_true]
      exact hAfter
    · apply sendSequenced_not_closed hGreet hNotClosed
      intro hSync
      rcases hBelow with (hNot | hNot) | hNot
      · rw [hSync] at hNot
        cases hNot
      · rw [hRecovery] at hNot
        cases hNot
      · exact hNot
  · have hAfter := hStart ((s.greet deps task handshake).sendReplay handshake.conn
      handshake.resume.replayFrames) (moves_sendReplay hEvent hTask _ (fun _ h => h) _) ?_
    · unfold finishHandshake
      simp only [hRecovery, Bool.false_eq_true, if_false]
      exact hAfter
    · exact sendReplay_not_closed _ hGreet (by rw [c.sendJson_state]; exact hNotClosed)

/-! ## Accepted requests -/

theorem tidy_accept {task : Nat} {request : HarnessRequest} {credential : CredentialRecord}
    (hTidy : Tidy s) (hEvent : label.event = .credentialLookedUp task (some (.ok credential)))
    (hTask : s.tasks.get task = some (.requestLookup id (.request request)))
    (hActive : credential.status = .active) (hOrderly : s.orderly deps label = true) :
    Tidy (((s.take task).cacheRecord id credential).acceptRequest label.now id request
        credential) ∧
      Advances s (((s.take task).cacheRecord id credential).acceptRequest label.now id request
        credential) := by
  unfold orderly at hOrderly
  rw [hEvent] at hOrderly
  simp only [hTask, hActive, ne_eq, not_true_eq_false, decide_false, Bool.false_or, isConnected,
    Bool.and_eq_true, Option.any_eq_true, decide_eq_true_eq, Option.isNone_iff_eq_none] at hOrderly
  obtain ⟨⟨c, hGet, hNotClosed⟩, ⟨c', hGet', hFree⟩⟩ := hOrderly
  rw [hGet] at hGet'
  cases hGet'
  have hCache : Rewrites (s.take task) ((s.take task).cacheRecord id credential) id :=
    rewrites_modifyConnection fun c _ => rewritten_sameRefs _ _ id ⟨rfl, rfl, rfl, rfl, rfl⟩
  obtain ⟨hCached, hWinds⟩ := ((s.tends_take task).trans hCache.tends) hTidy
  have hGetCached : ((s.take task).cacheRecord id credential).connections.get id =
      some (c.withData fun d => { d with credentialRecord := some credential }) := by
    unfold cacheRecord modifyData
    rw [connections_modifyConnection, if_pos rfl]
    exact congrArg (Option.map _) hGet
  generalize (s.take task).cacheRecord id credential = u at *
  let accepted := c.withData fun d => { d with
    credentialRecord := some credential
    inFlightRequests := d.inFlightRequests.set request.requestId ⟨u.timers.next, label.now⟩ }
  have hConn : (Timer.requestTimeout id request.requestId request.typeName).conn = id := rfl
  have hConnections : ∀ id', (u.acceptRequest label.now id request credential).connections.get id' =
      if id' = id then some accepted else u.connections.get id' := by
    intro id'
    simp only [acceptRequest, spawn, modifyData, connections_modifyConnection, arm]
    split
    · next hId =>
      rw [hId, hGetCached]
      rfl
    · rfl
  have hAccepted := tidy_arm hCached hGetCached hConn hConnections rfl rfl ?_ rfl rfl hNotClosed
    ?_ ?_ (.inl rfl)
  · exact ⟨hAccepted.1, hWinds.advances.trans hAccepted.2⟩
  · intro task' handshake hTask'
    simp only [acceptRequest, spawn, Arena.get_alloc] at hTask'
    split at hTask'
    · cases hTask'
    · exact hTask'
  · refine ⟨⟨u.timers.next, label.now⟩, ?_, rfl⟩
    exact AssocMap.get_set_self _ _ _
  · intro timer ref hRef
    cases timer with
    | authTimeout conn => exact hRef
    | heartbeat conn credentialId => exact hRef
    | requestTimeout conn requestId operation =>
      obtain ⟨entry, hEntry, hTimer⟩ := hRef
      refine ⟨entry, ?_, hTimer⟩
      have hOld : c.data.inFlightRequests.get requestId = some entry := hEntry
      have hNe : requestId ≠ request.requestId := by
        rintro rfl
        rw [hFree] at hOld
        cases hOld
      exact (AssocMap.get_set_of_ne _ _ hNe).trans hOld

/-! ## Steps -/

/-- An orderly step keeps the invariant. -/
theorem tidy_step {out : List Returned} (hNamed : s.ResyncsNamed) (hTidy : Tidy s)
    (hOrderly : s.orderly deps label = true) (hStep : serverStep deps s label = some (t, out)) :
    Tidy t ∧ Advances s t := by
  have hQuiet : Moves deps s label s t → Tidy t ∧ Advances s t := by
    intro hMoves
    obtain ⟨hLater, hWinds⟩ := tends_moves hMoves hTidy
    exact ⟨hLater, hWinds.advances⟩
  cases step_moves hNamed hStep with
  | moves hMoves => exact hQuiet hMoves
  | begin task id authFrame result credential hEvent hTask hConn hAuth hState =>
    unfold orderly at hOrderly
    rw [hEvent] at hOrderly
    simp only [hTask, hAuth, dataOf, decide_eq_true_eq, Option.map_eq_some_iff] at hOrderly
    obtain ⟨c, hGet, hPhase⟩ := hOrderly
    have hGetTaken : (s.take task).connections.get id = some c := hGet
    obtain ⟨hLater, hWinds⟩ := ((s.tends_take task).trans
      (tends_begin hGetTaken hPhase authFrame credential)) hTidy
    rw [hState]
    exact ⟨hLater, hWinds.advances⟩
  | finish task handshake u hEvent hTask hMoves hState =>
    have hFinished := tidy_finish hTidy hEvent hTask hOrderly
    simp only [serverStep, hEvent, quietStep, hTask, Option.map_some, Option.some.injEq,
      Prod.mk.injEq] at hStep
    rw [← hStep.1]
    exact hFinished
  | accept task id request credential hEvent hTask hState =>
    by_cases hActive : credential.status = .active
    · rw [hState]
      exact tidy_accept hTidy hEvent hTask hActive hOrderly
    · -- a credential that is no longer active closes the connection
      simp only [serverStep, hEvent, quietStep, hTask, resumeLookup, finishRequestLookup, ne_eq,
        hActive, not_false_eq_true, if_true, Option.map_some, Option.some.injEq,
        Prod.mk.injEq] at hStep
      have hTaken : Writes (s.Caches label) s (s.take task) := writes_take hTask
      have hCached := hTaken.tail (.cache id credential ⟨task, _, hEvent, hTask, rfl⟩)
      apply hQuiet
      rw [← hStep.1]
      exact Writes.moves (hCached.trans (writes_closeFor deps _ id _))

/-- An orderly step authenticates a connection that still authenticates, and
leaves it active. -/
theorem authenticated_step {out : List Returned} (hAuthenticates : s.authenticates label id = true)
    (hOrderly : s.orderly deps label = true) (hStep : serverStep deps s label = some (t, out)) :
    (∃ c, s.connections.get id = some c ∧ c.data.phase = .authenticating) ∧
      ∃ c', t.connections.get id = some c' ∧ c'.data.phase = .active := by
  unfold authenticates at hAuthenticates
  split at hAuthenticates
  · next task result hEvent =>
    split at hAuthenticates
    · next id' authFrame credential hTask hAuth =>
      rw [Bool.and_eq_true, beq_iff_eq] at hAuthenticates
      obtain ⟨rfl, -⟩ := hAuthenticates
      unfold orderly at hOrderly
      rw [hEvent] at hOrderly
      simp only [hTask, hAuth, dataOf, decide_eq_true_eq, Option.map_eq_some_iff] at hOrderly
      obtain ⟨c, hGet, hPhase⟩ := hOrderly
      refine ⟨⟨c, hGet, hPhase⟩, ?_⟩
      have hGetTaken : (s.take task).connections.get id' = some c := hGet
      simp only [serverStep, hEvent, quietStep, hTask, finishAuthLookup, hGetTaken, hAuth,
        Option.map_some, Option.some.injEq, Prod.mk.injEq] at hStep
      rw [← hStep.1, connections_beginHandshake, if_pos rfl, hGetTaken]
      exact ⟨_, rfl, phase_activate credential hPhase⟩
    · cases hAuthenticates
  · cases hAuthenticates

end Steps

/-! ## Runs -/

theorem authentications_snoc (h : ServerHistory World)
    (o : Occurrence (Server World) (ServerLabel World) Returned) (id : Nat) :
    authentications (h ++ [o]) id =
      authentications h id + if o.pre.authenticates o.label id then 1 else 0 := by
  unfold authentications
  rw [List.filter_append, List.length_append]
  cases hAuthenticates : o.pre.authenticates o.label id <;> simp [hAuthenticates]

/-- What an orderly run keeps: the invariant, the closed sockets, and that a
connection that has been authenticated does not authenticate. -/
structure Kept (h : ServerHistory World) (s : Server World) : Prop where
  tidy : Tidy s
  shut : ∀ o ∈ h, ∀ id, o.pre.isShut id → s.isShut id
  once : ∀ id, authentications h id ≤ 1
  settled : ∀ id, 0 < authentications h id →
    ∃ c, s.connections.get id = some c ∧ c.data.phase ≠ .authenticating

theorem kept_step {h : ServerHistory World} {s t : Server World} {label : ServerLabel World}
    {out : List Returned} (hNamed : s.ResyncsNamed) (hKept : Kept h s)
    (hOrderly : s.orderly deps label = true) (hStep : serverStep deps s label = some (t, out)) :
    Kept (h ++ [⟨s, label, out⟩]) t := by
  obtain ⟨hTidy, hAdvances⟩ := tidy_step hNamed hKept.tidy hOrderly hStep
  have hShut : ∀ id, s.isShut id → t.isShut id := by
    rintro id ⟨c, hGet, hClosed⟩
    obtain ⟨c', hGet', -, hStill⟩ := hAdvances id c hGet
    exact ⟨c', hGet', hStill hClosed⟩
  refine ⟨hTidy, ?_, ?_, ?_⟩
  · intro o ho id hBefore
    rcases List.mem_append.mp ho with hOld | hNew
    · exact hShut id (hKept.shut o hOld id hBefore)
    · rw [List.mem_singleton.mp hNew] at hBefore
      exact hShut id hBefore
  · intro id
    rw [authentications_snoc]
    have hOnce := hKept.once id
    split
    · next hAuthenticates =>
      obtain ⟨⟨c, hGet, hPhase⟩, -⟩ := authenticated_step hAuthenticates hOrderly hStep
      have hNever : ¬ 0 < authentications h id := by
        intro hBefore
        obtain ⟨c', hGet', hNe⟩ := hKept.settled id hBefore
        rw [hGet] at hGet'
        cases hGet'
        exact hNe hPhase
      omega
    · exact hOnce
  · intro id hCount
    rw [authentications_snoc] at hCount
    split at hCount
    · next hAuthenticates =>
      obtain ⟨-, c, hGet, hActive⟩ := authenticated_step hAuthenticates hOrderly hStep
      refine ⟨c, hGet, ?_⟩
      rw [hActive]
      simp
    · obtain ⟨c, hGet, hNe⟩ := hKept.settled id hCount
      obtain ⟨c', hGet', hBack, -⟩ := hAdvances id c hGet
      exact ⟨c', hGet', fun hPhase => hNe (hBack hPhase)⟩

theorem kept_of_runs {h : ServerHistory World} {s : Server World}
    (hRun : (serverMachine deps).Runs h s)
    (hOrderly : AllMeet (fun s label => s.orderly deps label = true) h) : Kept h s := by
  refine hRun.invariant ?_ ?_ hOrderly
  · refine ⟨tidy_create, fun o ho => (nomatch ho), fun id => Nat.zero_le 1, ?_⟩
    intro id hCount
    cases hCount
  · intro h s label t out hRun' _ hKept hMeets hStep
    exact kept_step (resyncsNamed_of_runs hRun') hKept hMeets hStep

end Server

open Server in
/-- **The lifecycle of a connection.**  In every run of orderly steps only active
and draining connections are registered, each connection is authenticated once
at most, and one whose close handler has run stays without timers and out of the
registry. -/
theorem connection_lifecycle (deps : WsServerDeps World) {h : ServerHistory World}
    {s : Server World} (hRun : (serverMachine deps).Runs h s)
    (hOrderly : AllMeet (fun s label => s.orderly deps label = true) h) :
    s.Registered ∧ (∀ id, authentications h id ≤ 1) ∧ s.ShutDown ∧
      ∀ o ∈ h, ∀ id, o.pre.isShut id → s.isShut id := by
  have hKept := kept_of_runs hRun hOrderly
  exact ⟨hKept.tidy.registered, hKept.once, hKept.tidy.shutDown, hKept.shut⟩

/-- An authenticated connection has a request accepted, and leaves. -/
def leavingEvents : List ServerEvent :=
  attachedEvents ++
    [.message 0 (.json (.request ⟨"request", .heartbeat "cred"⟩)),
     .credentialLookedUp 2 (some (.ok sampleRecord)), .closed 0]

theorem leavingEvents_enabled : ((serverMachine sampleServerDeps).exec .create
    (atZero leavingEvents)).isSome = true := by decide

open Server in
/-- The heartbeat and the timer of the request are gone with the connection. -/
theorem connection_lifecycle_leaving :
    ∃ h s, (serverMachine sampleServerDeps).exec .create (atZero leavingEvents) = some (h, s) ∧
      s.isShut 0 ∧ s.timers.next = 3 ∧ authentications h 0 = 1 ∧ s.Registered ∧ s.ShutDown := by
  have hExec := exec_outcome leavingEvents_enabled
  refine ⟨_, _, hExec, ?_, by decide, by decide, ?_⟩
  · rw [isShut_iff_any]
    decide
  · obtain ⟨hRegistered, -, hShutDown, -⟩ :=
      connection_lifecycle sampleServerDeps (runs_of_exec hExec) (by decide)
    exact ⟨hRegistered, hShutDown⟩

/-! ## A lookup that answers late -/

/-- A connection authenticates and leaves before its token lookup answers. -/
def lateEvents : List ServerEvent :=
  [.start none, .open, .message 0 (.json (.auth ⟨"token", none⟩ none)), .closed 0,
   .tokenLookedUp 0 (some (.ok sampleRecord)), .fingerprinted 1]

theorem lateEvents_enabled : ((serverMachine sampleServerDeps).exec .create
    (atZero lateEvents)).isSome = true := by decide

/-- The closed connection is registered, and its heartbeat runs. -/
theorem closed_connection_registered :
    ∃ h s, (serverMachine sampleServerDeps).exec .create (atZero lateEvents) = some (h, s) ∧
      s.isShut 0 ∧ s.registry.items = [0] ∧ s.timers.get 1 = some (.heartbeat 0 "cred") ∧
      ¬ s.Registered ∧ ¬ s.ShutDown := by
  let s := ((serverMachine sampleServerDeps).outcome .create _ lateEvents_enabled).2
  have hShut : s.isShut 0 := by
    rw [Server.isShut_iff_any]
    decide
  have hMem : 0 ∈ s.registry := by decide
  have hTimer : s.timers.get 1 = some (.heartbeat 0 "cred") := by decide
  refine ⟨_, s, exec_outcome lateEvents_enabled, hShut, by decide, hTimer, ?_, ?_⟩
  · intro hRegistered
    obtain ⟨c, hGet, hPhase⟩ := hRegistered 0 hMem
    have hClosed : s.dataOf 0 ConnectionData.phase = some .closed := by decide
    simp only [Server.dataOf, hGet, Option.map_some, Option.some.injEq] at hClosed
    rw [hClosed] at hPhase
    rcases hPhase with hPhase | hPhase <;> cases hPhase
  · intro hShutDown
    exact (hShutDown 0 hShut).1 hMem

end Ws
end Signet
