import Signet.Sdk.ClosedTerminal

/-!
# One socket at a time

The handler makes a socket only when the last one is closed: `connect` while nothing has been
started, and a reconnect after the close event.  A socket that has been asked to close gets no
more messages of the auth phase, as the standard of web sockets has it; otherwise one that
`disconnect` has given up could still become the connection, and a dead heartbeat would then
make a second one beside it.

* `Connection` — what a handler remembers of its connections.
* `OneSocket` — at most one socket is live, and nothing is on its way to make another.
* `NoLateAuth` — the messages that the standard rules out.
* `oneSocket_run` — the invariant of all other runs.
-/

namespace Signet
namespace Sdk

open Kit Machine Schemas

/-! ## The connections of a handler -/

/-- The variables of a handler that its connections depend on. -/
structure Connection where
  state : HandlerState
  ws : Option Nat
  sockets : Arena Socket
  heartbeatMonitor : Option Nat
  monitors : Arena HeartbeatMonitor
  reconnectTimers : Nat
  rejections : Nat

def SignetHandler.connection (s : SignetHandler) : Connection :=
  ⟨s.state, s.ws, s.sockets, s.heartbeatMonitor, s.monitors, s.reconnectTimers, s.rejections⟩

namespace Connection

/-- A socket has been made, and its close event has not come. -/
def Live (c : Connection) (socket : Nat) : Prop :=
  ∃ entry, c.sockets.get socket = some entry ∧ entry.closed = false

/-- A monitor can still report its connection dead, now or after the next heartbeat. -/
def Beating (c : Connection) (monitor : Nat) : Prop :=
  ∃ entry, c.monitors.get monitor = some entry ∧ (entry.deadCallback = true ∨ entry.timer = true)

/-- The present socket is live, and past its auth phase. -/
def Serving (c : Connection) : Prop :=
  ∃ socket entry, c.ws = some socket ∧ c.sockets.get socket = some entry ∧
    entry.closed = false ∧ entry.opened = true ∧ entry.authHandled = true

structure Quiet (c : Connection) : Prop where
  none_live : ∀ socket, ¬c.Live socket
  none_coming : c.reconnectTimers + c.rejections = 0
  none_beating : ∀ monitor, ¬c.Beating monitor

/-- At most one socket is live, and then no other is coming. -/
structure OneSocket (c : Connection) : Prop where
  single : ∀ a b, c.Live a → c.Live b → a = b
  alone : ∀ socket, c.Live socket → c.reconnectTimers + c.rejections = 0
  counted : c.reconnectTimers + c.rejections ≤ 1
  /-- Before the first `connect`, and when no reconnect is to follow. -/
  idle : c.state = .disconnected →
    (∀ socket, ¬c.Live socket) ∧ c.reconnectTimers + c.rejections = 0
  /-- A live socket that has not been asked to close is the present one. -/
  current : ∀ socket entry, c.sockets.get socket = some entry → entry.closed = false →
    entry.closeRequested = false → c.ws = some socket
  connected : c.state = .connected → c.Serving
  beating : ∀ monitor, c.Beating monitor → c.heartbeatMonitor = some monitor ∧ c.Serving

variable {c : Connection}

theorem Quiet.oneSocket (hQuiet : c.Quiet) (hState : c.state ≠ .connected) : c.OneSocket where
  single a _ hLive _ := absurd hLive (hQuiet.none_live a)
  alone socket hLive := absurd hLive (hQuiet.none_live socket)
  counted := by
    rw [hQuiet.none_coming]
    exact Nat.zero_le 1
  idle _ := ⟨hQuiet.none_live, hQuiet.none_coming⟩
  current socket entry hGet hClosed _ := absurd ⟨entry, hGet, hClosed⟩ (hQuiet.none_live socket)
  connected hConnected := absurd hConnected hState
  beating monitor hBeating := absurd hBeating (hQuiet.none_beating monitor)

theorem OneSocket.of_coming (hLive : ∀ socket, ¬c.Live socket)
    (hBeating : ∀ monitor, ¬c.Beating monitor) (hComing : c.reconnectTimers + c.rejections ≤ 1)
    (hDisconnected : c.state ≠ .disconnected) (hConnected : c.state ≠ .connected) :
    c.OneSocket where
  single a _ hA _ := absurd hA (hLive a)
  alone socket hA := absurd hA (hLive socket)
  counted := hComing
  idle hState := absurd hState hDisconnected
  current socket entry hGet hClosed _ := absurd ⟨entry, hGet, hClosed⟩ (hLive socket)
  connected hState := absurd hState hConnected
  beating monitor hBeats := absurd hBeats (hBeating monitor)

theorem Serving.live (hServing : c.Serving) : ∃ socket, c.Live socket := by
  obtain ⟨socket, entry, -, hGet, hClosed, -⟩ := hServing
  exact ⟨socket, entry, hGet, hClosed⟩

theorem OneSocket.still (hOne : c.OneSocket) (hLive : ∀ socket, ¬c.Live socket) (monitor : Nat) :
    ¬c.Beating monitor := by
  intro hBeating
  obtain ⟨socket, hServing⟩ := (hOne.beating monitor hBeating).2.live
  exact hLive socket hServing

theorem OneSocket.none_live (hOne : c.OneSocket) (hComing : 0 < c.reconnectTimers + c.rejections)
    (socket : Nat) : ¬c.Live socket := by
  intro hLive
  have hAlone := hOne.alone socket hLive
  omega

theorem OneSocket.quiet (hOne : c.OneSocket) (hLive : ∀ socket, ¬c.Live socket)
    (hComing : c.reconnectTimers + c.rejections = 0) : c.Quiet :=
  ⟨hLive, hComing, hOne.still hLive⟩

/-- A change of a socket that neither closes nor reopens it and takes nothing back. -/
structure Grows (f : Socket → Socket) : Prop where
  closed : ∀ entry, (f entry).closed = entry.closed
  opened : ∀ entry, entry.opened = true → (f entry).opened = true
  authHandled : ∀ entry, entry.authHandled = true → (f entry).authHandled = true
  closeRequested : ∀ entry, entry.closeRequested = true → (f entry).closeRequested = true

variable {f : Socket → Socket}

theorem live_modify {socket socket' : Nat} (hClosed : ∀ entry, (f entry).closed = entry.closed)
    (hLive : ({ c with sockets := c.sockets.modify socket f } : Connection).Live socket') :
    c.Live socket' := by
  obtain ⟨entry, hGet, hOpen⟩ := hLive
  rcases Arena.get_modify_cases hGet with ⟨-, before, hBefore, rfl⟩ | ⟨-, hBefore⟩
  · exact ⟨before, hBefore, (hClosed before).symm.trans hOpen⟩
  · exact ⟨entry, hBefore, hOpen⟩

theorem Serving.modify (hGrows : Grows f) (socket : Nat) (hServing : c.Serving) :
    ({ c with sockets := c.sockets.modify socket f } : Connection).Serving := by
  obtain ⟨present, entry, hWs, hGet, hClosed, hOpened, hAuth⟩ := hServing
  by_cases hSame : present = socket
  · refine ⟨present, f entry, hWs, ?_, ?_, hGrows.opened entry hOpened,
      hGrows.authHandled entry hAuth⟩
    · show (c.sockets.modify socket f).get present = some (f entry)
      rw [Arena.get_modify, if_pos hSame, hGet]
      rfl
    · rw [hGrows.closed, hClosed]
  · refine ⟨present, entry, hWs, ?_, hClosed, hOpened, hAuth⟩
    show (c.sockets.modify socket f).get present = some entry
    rw [Arena.get_modify, if_neg hSame, hGet]

theorem OneSocket.modify (hGrows : Grows f) (socket : Nat) (hOne : c.OneSocket) :
    ({ c with sockets := c.sockets.modify socket f } : Connection).OneSocket where
  single a b hA hB :=
    hOne.single a b (live_modify hGrows.closed hA) (live_modify hGrows.closed hB)
  alone socket' hLive := hOne.alone socket' (live_modify hGrows.closed hLive)
  counted := hOne.counted
  idle hState :=
    ⟨fun socket' hLive => (hOne.idle hState).1 socket' (live_modify hGrows.closed hLive),
      (hOne.idle hState).2⟩
  current socket' entry hGet hClosed hRequested := by
    rcases Arena.get_modify_cases hGet with ⟨-, before, hBefore, rfl⟩ | ⟨-, hBefore⟩
    · refine hOne.current socket' before hBefore ((hGrows.closed before).symm.trans hClosed) ?_
      cases hWas : before.closeRequested with
      | false => rfl
      | true =>
        rw [hGrows.closeRequested before hWas] at hRequested
        cases hRequested
    · exact hOne.current socket' entry hBefore hClosed hRequested
  connected hState := (hOne.connected hState).modify hGrows socket
  beating monitor hBeating :=
    ⟨(hOne.beating monitor hBeating).1, (hOne.beating monitor hBeating).2.modify hGrows socket⟩

theorem Quiet.modify (hClosed : ∀ entry, (f entry).closed = entry.closed) (socket : Nat)
    (hQuiet : c.Quiet) :
    ({ c with sockets := c.sockets.modify socket f } : Connection).Quiet where
  none_live socket' hLive := hQuiet.none_live socket' (live_modify hClosed hLive)
  none_coming := hQuiet.none_coming
  none_beating := hQuiet.none_beating

/-- Any state that claims neither a connection nor that there is none. -/
theorem OneSocket.setState {newState : HandlerState} (hOne : c.OneSocket)
    (hDisconnected : newState ≠ .disconnected) (hConnected : newState ≠ .connected) :
    ({ c with state := newState } : Connection).OneSocket where
  single := hOne.single
  alone := hOne.alone
  counted := hOne.counted
  idle hState := absurd hState hDisconnected
  current := hOne.current
  connected hState := absurd hState hConnected
  beating := hOne.beating

/-- The state and the present socket do not matter where there is none. -/
theorem Quiet.setState (newState : HandlerState) (ws : Option Nat) (hQuiet : c.Quiet) :
    ({ c with state := newState, ws := ws } : Connection).Quiet :=
  ⟨hQuiet.none_live, hQuiet.none_coming, hQuiet.none_beating⟩

end Connection

open Connection

variable {config : SignetHandlerConfig} {s : SignetHandler}

/-! ## The functions -/

section

variable (s : SignetHandler)

@[simp]
theorem setState_connection (newState : HandlerState) :
    (setState s newState).1.connection = { s.connection with state := newState } := by
  unfold setState
  split
  · next hState =>
    subst hState
    rfl
  · rfl

@[simp]
theorem emitError_connection (error : SignetError) :
    (emitError s error).1.connection = s.connection := rfl

@[simp]
theorem pushEvent_connection (event : Json) : (pushEvent s event).1.connection = s.connection := rfl

@[simp]
theorem completeStream_connection : (completeStream s).1.connection = s.connection := rfl

@[simp]
theorem rejectAll_connection (error : SignetError) :
    (rejectAll s error).1.connection = s.connection := rfl

end

theorem grows_settleAuth :
    Grows fun entry => { entry with authHandled := true, authTimeout := false } :=
  ⟨fun _ => rfl, fun _ h => h, fun _ _ => rfl, fun _ h => h⟩

theorem grows_clearAuthTimeout : Grows fun entry => { entry with authTimeout := false } :=
  ⟨fun _ => rfl, fun _ h => h, fun _ h => h, fun _ h => h⟩

theorem grows_closeRequested : Grows fun entry => { entry with closeRequested := true } :=
  ⟨fun _ => rfl, fun _ h => h, fun _ h => h, fun _ _ => rfl⟩

theorem grows_resolved : Grows fun entry => { entry with resolved := true } :=
  ⟨fun _ => rfl, fun _ h => h, fun _ h => h, fun _ h => h⟩

theorem grows_opened : Grows fun entry => { entry with opened := true } :=
  ⟨fun _ => rfl, fun _ _ => rfl, fun _ h => h, fun _ h => h⟩

theorem resolve_oneSocket (hOne : s.connection.OneSocket) (socket : Nat)
    (result : Except SignetError Unit) : (resolve s socket result).1.connection.OneSocket := by
  unfold resolve
  split
  · exact hOne.modify grows_resolved socket
  · exact hOne

theorem stopHeartbeat_still (hOnly : ∀ monitor, s.connection.Beating monitor →
    s.heartbeatMonitor = some monitor) (monitor : Nat) :
    ¬(stopHeartbeat s).connection.Beating monitor := by
  rintro ⟨entry, hGet, hBeats⟩
  unfold stopHeartbeat at hGet
  cases hMonitor : s.heartbeatMonitor with
  | none =>
    simp only [hMonitor] at hGet
    rw [hOnly monitor ⟨entry, hGet, hBeats⟩] at hMonitor
    cases hMonitor
  | some present =>
    simp only [hMonitor] at hGet
    replace hGet : (s.monitors.modify present fun _ => ⟨false, false⟩).get monitor = some entry :=
      hGet
    rcases Arena.get_modify_cases hGet with ⟨-, before, -, rfl⟩ | ⟨hOther, hGet⟩
    · rcases hBeats with hBeats | hBeats
      · cases hBeats
      · cases hBeats
    · rw [hOnly monitor ⟨entry, hGet, hBeats⟩] at hMonitor
      exact hOther (Option.some.inj hMonitor)

theorem stopHeartbeat_sockets (s : SignetHandler) :
    (stopHeartbeat s).sockets = s.sockets ∧
      (stopHeartbeat s).reconnectTimers = s.reconnectTimers ∧
      (stopHeartbeat s).rejections = s.rejections := by
  unfold stopHeartbeat
  split
  · exact ⟨rfl, rfl, rfl⟩
  · exact ⟨rfl, rfl, rfl⟩

/-- Nothing needs a heartbeat. -/
theorem OneSocket.of_still {c d : Connection} (hOne : c.OneSocket) (hState : d.state = c.state)
    (hWs : d.ws = c.ws) (hSockets : d.sockets = c.sockets)
    (hComing : d.reconnectTimers = c.reconnectTimers ∧ d.rejections = c.rejections)
    (hBeating : ∀ monitor, d.Beating monitor → d.heartbeatMonitor = some monitor ∧ c.Serving) :
    d.OneSocket := by
  obtain ⟨state, ws, sockets, heartbeatMonitor, monitors, reconnectTimers, rejections⟩ := d
  dsimp only at hState hWs hSockets hComing
  obtain ⟨rfl, rfl⟩ := hComing
  subst hState hWs hSockets
  exact ⟨hOne.single, hOne.alone, hOne.counted, hOne.idle, hOne.current, hOne.connected,
    hBeating⟩

theorem stopHeartbeat_oneSocket (hOne : s.connection.OneSocket) :
    (stopHeartbeat s).connection.OneSocket := by
  obtain ⟨hSockets, hTimers, hRejections⟩ := stopHeartbeat_sockets s
  refine OneSocket.of_still hOne (stopHeartbeat_state s) (stopHeartbeat_ws s) hSockets
    ⟨hTimers, hRejections⟩ ?_
  intro monitor hBeating
  exact absurd hBeating (stopHeartbeat_still (fun m hBeats => (hOne.beating m hBeats).1) monitor)

theorem recordHeartbeat_oneSocket (hOne : s.connection.OneSocket) :
    (recordHeartbeat s).connection.OneSocket := by
  unfold recordHeartbeat
  split
  · next present hMonitor =>
    refine OneSocket.of_still hOne rfl rfl rfl ⟨rfl, rfl⟩ ?_
    -- a timer that starts again has its callback still
    rintro monitor ⟨entry, hGet, hBeats⟩
    replace hGet : (s.monitors.modify present fun entry =>
        { entry with timer := entry.deadCallback }).get monitor = some entry := hGet
    rcases Arena.get_modify_cases hGet with ⟨-, before, hBefore, rfl⟩ | ⟨-, hGet⟩
    · exact hOne.beating monitor ⟨before, hBefore, Or.inl (hBeats.elim id id)⟩
    · exact hOne.beating monitor ⟨entry, hGet, hBeats⟩
  · exact hOne

/-- A reconnect is put on its way, or given up. -/
theorem attemptReconnect_oneSocket (config : SignetHandlerConfig)
    (hQuiet : s.connection.Quiet) : (attemptReconnect config s).1.connection.OneSocket := by
  have hGivesUp : ({ s.connection with state := .disconnected } : Connection).OneSocket :=
    (hQuiet.setState .disconnected s.ws).oneSocket nofun
  unfold attemptReconnect
  split
  · rw [andThen_fst, completeStream_connection, setState_connection]
    exact hGivesUp
  · split
    · rw [andThen_fst, andThen_fst, completeStream_connection, setState_connection]
      exact hGivesUp
    · show ({ (setState s .reconnecting).1.connection with
          reconnectTimers := (setState s .reconnecting).1.connection.reconnectTimers + 1 } :
            Connection).OneSocket
      rw [setState_connection]
      refine OneSocket.of_coming hQuiet.none_live hQuiet.none_beating ?_ nofun nofun
      show s.connection.reconnectTimers + 1 + s.connection.rejections ≤ 1
      have hComing := hQuiet.none_coming
      omega

/-- A socket is made, or its constructor throws. -/
theorem connectInternal_oneSocket (config : SignetHandlerConfig) (hQuiet : s.connection.Quiet)
    (opener : Option Nat) (opens : Bool) :
    (connectInternal config s opener opens).1.connection.OneSocket := by
  have hConnection := setState_connection s .connecting
  unfold connectInternal
  rw [andThen_fst]
  generalize (setState s .connecting).1 = t at hConnection
  have hQuiet' : t.connection.Quiet := by
    rw [hConnection]
    exact hQuiet.setState .connecting s.ws
  have hState : t.connection.state = .connecting := by rw [hConnection]
  cases opens with
  | true =>
    -- the socket just made is the only one
    have hOnly : ∀ socket, ({ t.connection with
        sockets := t.sockets.alloc (.fresh opener), ws := some t.sockets.next } :
          Connection).Live socket → socket = t.sockets.next := by
      rintro socket ⟨entry, hGet, hClosed⟩
      replace hGet : (t.sockets.alloc (.fresh opener)).get socket = some entry := hGet
      rcases Arena.get_alloc_cases hGet with ⟨hNew, -⟩ | ⟨-, hGet⟩
      · exact hNew
      · exact absurd ⟨entry, hGet, hClosed⟩ (hQuiet'.none_live socket)
    show ({ t.connection with
      sockets := t.sockets.alloc (.fresh opener), ws := some t.sockets.next } :
        Connection).OneSocket
    constructor
    · intro a b hA hB
      exact (hOnly a hA).trans (hOnly b hB).symm
    · exact fun _ _ => hQuiet'.none_coming
    · show t.connection.reconnectTimers + t.connection.rejections ≤ 1
      rw [hQuiet'.none_coming]
      exact Nat.zero_le 1
    · intro hIdle
      exact absurd (hState.symm.trans hIdle) nofun
    · intro socket entry hGet hClosed _
      rw [hOnly socket ⟨entry, hGet, hClosed⟩]
    · intro hConnected
      exact absurd (hState.symm.trans hConnected) nofun
    · exact fun monitor hBeating => absurd hBeating (hQuiet'.none_beating monitor)
  | false =>
    cases opener with
    | some call => exact hQuiet'.oneSocket (by rw [hState]; exact nofun)
    | none =>
      show ({ t.connection with rejections := t.connection.rejections + 1 } :
        Connection).OneSocket
      refine OneSocket.of_coming hQuiet'.none_live hQuiet'.none_beating ?_ ?_ ?_
      · show t.connection.reconnectTimers + (t.connection.rejections + 1) ≤ 1
        have hComing := hQuiet'.none_coming
        omega
      · exact fun hIdle => absurd (hState.symm.trans hIdle) nofun
      · exact fun hConnected => absurd (hState.symm.trans hConnected) nofun

theorem handleFrame_oneSocket (hOne : s.connection.OneSocket) (raw : Option Json) :
    (handleFrame s raw).1.connection.OneSocket := by
  unfold handleFrame
  dsimp only
  split
  · exact hOne
  · split
    · exact hOne
    · split
      · unfold handleResponse
        split
        · split
          · exact hOne
          · exact hOne
        · exact hOne
      · split
        · unfold handleSequenced
          dsimp only
          split
          · rw [pushEvent_connection]
            apply recordHeartbeat_oneSocket
            exact hOne
          · exact hOne
        · exact hOne
  · exact hOne
  · exact hOne

variable {socket : Nat} {entry : Socket}

section

variable (hOne : s.connection.OneSocket) (hEntry : s.sockets.get socket = some entry)
  (hReceives : entry.canReceive = true)

include hOne hEntry hReceives

variable (hPhase : entry.authHandled = false) (hRequested : entry.closeRequested = false)

include hPhase hRequested

/-- The socket becomes the connection, with a new monitor; no other beats, as that would need a
socket that is past its auth phase. -/
theorem startHeartbeat_oneSocket (info : CredentialInfo) :
    ({ (startHeartbeat { settleAuth s socket with credentialInfo := some info }).connection with
      state := .connected } : Connection).OneSocket := by
  unfold Socket.canReceive at hReceives
  rw [Bool.and_eq_true, Bool.not_eq_true'] at hReceives
  obtain ⟨hOpened, hClosed⟩ := hReceives
  have hGrown : (settleAuth s socket).connection.OneSocket := hOne.modify grows_settleAuth socket
  have hServing : (settleAuth s socket).connection.Serving := by
    refine ⟨socket, { entry with authHandled := true, authTimeout := false },
      hOne.current socket entry hEntry hClosed hRequested, ?_, hClosed, hOpened, rfl⟩
    show (s.sockets.modify socket _).get socket = _
    rw [Arena.get_modify, if_pos rfl, hEntry]
    rfl
  have hStill : ∀ monitor, ¬s.connection.Beating monitor := by
    intro monitor hBeating
    obtain ⟨present, other, -, hGet, hLive, -, hAuth⟩ := (hOne.beating monitor hBeating).2
    have hSame := hOne.single present socket ⟨other, hGet, hLive⟩ ⟨entry, hEntry, hClosed⟩
    subst hSame
    replace hGet : s.sockets.get present = some other := hGet
    rw [hEntry] at hGet
    cases hGet
    rw [hPhase] at hAuth
    cases hAuth
  constructor
  · exact hGrown.single
  · exact hGrown.alone
  · exact hGrown.counted
  · intro hIdle
    cases hIdle
  · exact hGrown.current
  · exact fun _ => hServing
  · rintro monitor ⟨beat, hGet, hBeats⟩
    refine ⟨?_, hServing⟩
    replace hGet : (s.monitors.alloc ⟨true, true⟩).get monitor = some beat := hGet
    rcases Arena.get_alloc_cases hGet with ⟨hNew, -⟩ | ⟨-, hGet⟩
    · rw [hNew]
      rfl
    · exact absurd ⟨beat, hGet, hBeats⟩ (hStill monitor)

theorem handleAuth_oneSocket (raw : Option Json) :
    (handleAuth s socket raw).1.connection.OneSocket := by
  have hSettled : (settleAuth s socket).connection.OneSocket := hOne.modify grows_settleAuth socket
  unfold handleAuth
  cases readAuth raw with
  | invalid =>
    apply resolve_oneSocket
    rw [setState_connection]
    have hCleared : (clearAuthTimeout s socket).connection.OneSocket :=
      hOne.modify grows_clearAuthTimeout socket
    exact hCleared.setState nofun nofun
  | authenticated info =>
    apply resolve_oneSocket
    rw [setState_connection]
    exact startHeartbeat_oneSocket hOne hEntry hReceives hPhase hRequested info
  | credentialMissing => exact hSettled
  | authError message code =>
    apply resolve_oneSocket
    rw [setState_connection]
    exact hSettled.setState nofun nofun
  | threw => exact hOne
  | other => exact hOne

end

theorem onClose_oneSocket (config : SignetHandlerConfig) (hOne : s.connection.OneSocket)
    (hEntry : s.sockets.get socket = some entry) (hClosed : entry.closed = false) (code : Nat)
    (reason : String) :
    (onClose config
      { s with sockets := s.sockets.modify socket fun entry => { entry with closed := true } }
      socket entry code reason).1.connection.OneSocket := by
  let closed : SignetHandler :=
    { s with sockets := s.sockets.modify socket fun entry => { entry with closed := true } }
  have hQuiet : (stopHeartbeat closed).connection.Quiet := by
    obtain ⟨hSockets, hTimers, hRejections⟩ := stopHeartbeat_sockets closed
    constructor
    · rintro other ⟨after, hGet, hOpen⟩
      replace hGet : (stopHeartbeat closed).sockets.get other = some after := hGet
      rw [hSockets] at hGet
      replace hGet : (s.sockets.modify socket _).get other = some after := hGet
      rcases Arena.get_modify_cases hGet with ⟨-, before, -, rfl⟩ | ⟨hOther, hGet⟩
      · cases hOpen
      · exact hOther (hOne.single other socket ⟨after, hGet, hOpen⟩ ⟨entry, hEntry, hClosed⟩)
    · show (stopHeartbeat closed).reconnectTimers + (stopHeartbeat closed).rejections = 0
      rw [hTimers, hRejections]
      exact hOne.alone socket ⟨entry, hEntry, hClosed⟩
    · exact stopHeartbeat_still fun monitor hBeating => (hOne.beating monitor hBeating).1
  show (onClose config closed socket entry code reason).1.connection.OneSocket
  unfold onClose
  generalize stopHeartbeat closed = t at hQuiet
  dsimp only
  split
  · have hSettled : (settleAuth t socket).connection.Quiet :=
      hQuiet.modify grows_settleAuth.closed socket
    split
    · rw [andThen_fst]
      have hGiven : (setState (settleAuth t socket) .closed).1.connection.OneSocket := by
        rw [setState_connection]
        exact (hSettled.setState .closed _).oneSocket nofun
      exact resolve_oneSocket hGiven socket _
    · rw [andThen_fst, andThen_fst]
      apply resolve_oneSocket
      apply attemptReconnect_oneSocket
      rw [rejectAll_connection]
      exact hSettled
  · have hGivenUp : ({ t with ws := none } : SignetHandler).connection.Quiet :=
      hQuiet.setState t.state none
    rw [andThen_fst]
    split
    · rw [andThen_fst, completeStream_connection, setState_connection, rejectAll_connection]
      exact (hGivenUp.setState .closed none).oneSocket nofun
    · split
      · next hState =>
        rw [rejectAll_connection]
        refine hGivenUp.oneSocket ?_
        show t.state ≠ .connected
        rw [rejectAll_state] at hState
        replace hState : t.state = .closed := hState
        rw [hState]
        exact nofun
      · apply attemptReconnect_oneSocket
        rw [rejectAll_connection]
        exact hGivenUp

theorem onAuthTimeout_oneSocket (config : SignetHandlerConfig) (hOne : s.connection.OneSocket)
    (socket : Nat) (entry : Socket) :
    (onAuthTimeout config s socket entry).1.connection.OneSocket := by
  unfold onAuthTimeout
  split
  · exact hOne
  · rw [andThen_fst, andThen_fst]
    apply resolve_oneSocket
    rw [setState_connection]
    have hSettled : (settleAuth s socket).connection.OneSocket :=
      hOne.modify grows_settleAuth socket
    have hClosing : (closeSocket (settleAuth s socket) socket (some 4000)
        "Auth timeout").1.connection.OneSocket := hSettled.modify grows_closeRequested socket
    exact hClosing.setState nofun nofun

/-- The socket that is given up has been asked to close. -/
theorem disconnect_oneSocket (hOne : s.connection.OneSocket) :
    (disconnect s).1.connection.OneSocket := by
  have hStopped := stopHeartbeat_oneSocket hOne
  have hStill := stopHeartbeat_still fun monitor hBeating => (hOne.beating monitor hBeating).1
  unfold disconnect
  simp only [andThen_fst, completeStream_connection, setState_connection]
  generalize stopHeartbeat s = t at hStopped hStill
  let rejected := (rejectAll t (InternalError.create "Disconnecting")).1
  have hRejected : rejected.connection.OneSocket := hStopped
  show ({ (closeCurrent rejected).1.connection with state := .closed } : Connection).OneSocket
  unfold closeCurrent
  split
  · next socket hWs =>
    have hClosing : (closeSocket rejected socket (some 1000)
        "Client disconnect").1.connection.OneSocket :=
      hRejected.modify grows_closeRequested socket
    constructor
    · exact hClosing.single
    · exact hClosing.alone
    · exact hClosing.counted
    · intro hIdle
      cases hIdle
    · intro other entry hGet hClosed hRequested
      -- only the present socket has not been asked to close, and now it has
      have hPresent := hClosing.current other entry hGet hClosed hRequested
      replace hPresent : rejected.ws = some other := hPresent
      rw [hWs] at hPresent
      cases hPresent
      replace hGet : (rejected.sockets.modify socket _).get socket = some entry := hGet
      rw [Arena.get_modify, if_pos rfl] at hGet
      obtain ⟨before, -, rfl⟩ := Option.map_eq_some_iff.mp hGet
      cases hRequested
    · intro hConnected
      cases hConnected
    · exact fun monitor hBeating => absurd hBeating (hStill monitor)
  · exact hRejected.setState nofun nofun

theorem connect_oneSocket (config : SignetHandlerConfig) (hOne : s.connection.OneSocket)
    (opens : Bool) : (connect config s opens).1.connection.OneSocket := by
  unfold connect
  dsimp only
  split
  · exact hOne
  · exact hOne
  · exact hOne
  · exact hOne
  · exact hOne
  · next hState =>
    obtain ⟨hLive, hComing⟩ := hOne.idle hState
    apply connectInternal_oneSocket
    exact hOne.quiet hLive hComing

theorem handleConnectionDead_oneSocket (config : SignetHandlerConfig)
    (hOne : s.connection.OneSocket) {monitor : Nat} (hBeating : s.connection.Beating monitor) :
    (handleConnectionDead config { s with
      monitors := s.monitors.modify monitor fun entry =>
        { entry with timer := false } }).1.connection.OneSocket := by
  obtain ⟨-, socket, present, hWs, -⟩ := hOne.beating monitor hBeating
  replace hWs : s.ws = some socket := hWs
  have hFired : ({ s with monitors := s.monitors.modify monitor fun entry =>
      { entry with timer := false } } : SignetHandler).connection.OneSocket := by
    refine OneSocket.of_still hOne rfl rfl rfl ⟨rfl, rfl⟩ ?_
    rintro other ⟨entry, hGet, hBeats⟩
    replace hGet : (s.monitors.modify monitor fun entry => { entry with timer := false }).get
        other = some entry := hGet
    rcases Arena.get_modify_cases hGet with ⟨-, before, hBefore, rfl⟩ | ⟨-, hGet⟩
    · rcases hBeats with hCallback | hTimer
      · exact hOne.beating other ⟨before, hBefore, Or.inl hCallback⟩
      · cases hTimer
    · exact hOne.beating other ⟨entry, hGet, hBeats⟩
  unfold handleConnectionDead
  split
  · next other _ => exact (stopHeartbeat_oneSocket hFired).modify grows_closeRequested other
  · next hNone =>
    replace hNone : s.ws = none := hNone
    rw [hWs] at hNone
    cases hNone

/-! ## The steps -/

/-- A message that comes in the auth phase of a socket comes before the socket is asked to
close. -/
def NoLateAuth (s : SignetHandler) : HandlerLabel → Prop
  | .socketMessage socket _ =>
    ∀ entry, s.sockets.get socket = some entry → entry.authHandled = false →
      entry.closeRequested = false
  | _ => True

instance (s : SignetHandler) (label : HandlerLabel) : Decidable (NoLateAuth s label) :=
  match label with
  | .socketMessage socket _ =>
    decidable_of_iff ((s.sockets.get socket).all fun entry =>
      entry.authHandled || !entry.closeRequested) (by
      cases hGet : s.sockets.get socket with
      | none => simp [NoLateAuth, hGet]
      | some entry => cases hAuth : entry.authHandled <;> simp [NoLateAuth, hGet, hAuth])
  | .connect _ | .disconnect | .next | .sendRequest _ _ | .socketOpen _ | .socketClose _ _ _
  | .authTimeout _ | .reconnectTimer _ | .rejected | .heartbeatDead _ | .requestTimeout _ =>
    isTrue trivial

theorem handlerStep_oneSocket {label : HandlerLabel} {turn : HandlerTurn}
    (hOne : s.connection.OneSocket) (hInTime : NoLateAuth s label)
    (hStep : handlerStep config s label = some turn) : turn.1.connection.OneSocket := by
  cases label with
  | connect opens =>
    cases hStep
    exact connect_oneSocket config hOne opens
  | disconnect =>
    cases hStep
    exact disconnect_oneSocket hOne
  | next =>
    cases hStep
    exact hOne
  | sendRequest requestId request =>
    cases hStep
    unfold sendRequest
    dsimp only
    split
    · split
      · exact hOne
      · exact hOne
    · exact hOne
  | socketOpen socket =>
    obtain ⟨entry, -, hStep⟩ := Option.bind_eq_some_iff.mp hStep
    split at hStep
    · cases hStep
      unfold onOpen
      rw [andThen_fst]
      dsimp only
      rw [setState_connection]
      have hOpened := hOne.modify grows_opened socket
      exact hOpened.setState nofun nofun
    · cases hStep
  | socketMessage socket raw =>
    obtain ⟨entry, hEntry, hStep⟩ := Option.bind_eq_some_iff.mp hStep
    split at hStep
    · next hReceives =>
      cases hStep
      split
      · exact handleFrame_oneSocket hOne raw
      · next hPhase =>
        rw [Bool.not_eq_true] at hPhase
        exact handleAuth_oneSocket hOne hEntry hReceives hPhase (hInTime entry hEntry hPhase) raw
    · cases hStep
  | socketClose socket code reason =>
    obtain ⟨entry, hEntry, hStep⟩ := Option.bind_eq_some_iff.mp hStep
    split at hStep
    · cases hStep
    · next hClosed =>
      cases hStep
      rw [Bool.not_eq_true] at hClosed
      exact onClose_oneSocket config hOne hEntry hClosed code reason
  | authTimeout socket =>
    obtain ⟨entry, -, hStep⟩ := Option.bind_eq_some_iff.mp hStep
    split at hStep
    · cases hStep
      have hCleared : (clearAuthTimeout s socket).connection.OneSocket :=
        hOne.modify grows_clearAuthTimeout socket
      exact onAuthTimeout_oneSocket config hCleared socket entry
    · cases hStep
  | reconnectTimer opens =>
    simp only [handlerStep] at hStep
    split at hStep
    · cases hStep
    · next hArmed =>
      cases hStep
      have hCounted : s.reconnectTimers + s.rejections ≤ 1 := hOne.counted
      have hComing : 0 < s.reconnectTimers + s.rejections := by omega
      have hLive := hOne.none_live hComing
      have hFired : ({ s with reconnectTimers := s.reconnectTimers - 1 } :
          SignetHandler).connection.Quiet := by
        refine ⟨hLive, ?_, hOne.still hLive⟩
        show s.reconnectTimers - 1 + s.rejections = 0
        omega
      split
      · exact connectInternal_oneSocket config hFired none opens
      · refine hFired.oneSocket ?_
        intro hConnected
        obtain ⟨socket, hServing⟩ := (hOne.connected hConnected).live
        exact hLive socket hServing
  | rejected =>
    simp only [handlerStep] at hStep
    split at hStep
    · cases hStep
    · next hRejected =>
      cases hStep
      have hCounted : s.reconnectTimers + s.rejections ≤ 1 := hOne.counted
      have hComing : 0 < s.reconnectTimers + s.rejections := by omega
      have hLive := hOne.none_live hComing
      apply attemptReconnect_oneSocket
      refine ⟨hLive, ?_, hOne.still hLive⟩
      show s.reconnectTimers + (s.rejections - 1) = 0
      omega
  | heartbeatDead monitor =>
    obtain ⟨entry, hEntry, hStep⟩ := Option.bind_eq_some_iff.mp hStep
    split at hStep
    · next hTimer =>
      cases hStep
      exact handleConnectionDead_oneSocket config hOne ⟨entry, hEntry, Or.inr hTimer⟩
    · cases hStep
  | requestTimeout request =>
    obtain ⟨⟨tracker, settled⟩, -, hStep⟩ := Option.bind_eq_some_iff.mp hStep
    cases hStep
    exact hOne

theorem createSignetHandler_oneSocket : createSignetHandler.connection.OneSocket := by
  have hQuiet : createSignetHandler.connection.Quiet := by
    refine ⟨?_, rfl, ?_⟩
    · rintro socket ⟨entry, hGet, -⟩
      cases hGet
    · rintro monitor ⟨entry, hGet, -⟩
      cases hGet
  exact hQuiet.oneSocket nofun

/-- **One socket at a time**, in every run without late messages of an auth phase. -/
theorem oneSocket_run {h : List HandlerOccurrence} (hRun : (handlerMachine config).Runs h s)
    (hInTime : AllMeet NoLateAuth h) : s.connection.OneSocket := by
  apply hRun.guarded hInTime
  · exact createSignetHandler_oneSocket
  · intro _ s label t out _ _ hOne hMeets hStep
    exact handlerStep_oneSocket hOne hMeets hStep

end Sdk
end Signet
