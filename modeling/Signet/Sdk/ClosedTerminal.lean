import Signet.Sdk.Handler

/-!
# The closed state of the handler

A handler that is closed should stay so, make no more sockets, and have completed its stream,
so that nobody waits for an event any more.  The events of a socket in its auth phase, and
some that come late, move the handler on whatever its state, and a handler that is closed in
the auth phase leaves its stream open.

* `ClosedTerminal` — what should hold in every run.
* `closingEffect`, `handlerStep_move` — what a step does to a closed handler, or closes it.
* `KeepsClosed` — the steps that leave it so.
* `closed_terminal_iff` — in every run, exactly these.
-/

namespace Signet
namespace Sdk

open Kit Machine Schemas

/-! ## Closed for good -/

/-- Closed, with a stream that is completed and has answered everyone. -/
def CompletedWhenClosed (s : SignetHandler) : Prop := s.state = .closed → s.eventStream.Over

def createsSocket : HandlerObservation → Bool
  | .socketCreated _ _ => true
  | _ => false

def reportsClosed : HandlerObservation → Bool
  | .stateChanged .closed _ => true
  | _ => false

/-- No observation is such. -/
def Without (p : HandlerObservation → Bool) (out : List HandlerObservation) : Prop :=
  ∀ observation ∈ out, p observation = false

/-- Once the handler is closed it remains so, it makes no socket, and its stream has
completed: what waits is answered with done when the handler is closed, and a later call gets
at once what is left in the buffer, and then done. -/
structure ClosedTerminal (h : List HandlerOccurrence) (s : SignetHandler) : Prop where
  stays : (visited h s).Pairwise fun t u => t.state = .closed → u.state = .closed
  completed : ∀ t ∈ visited h s, CompletedWhenClosed t
  noSocket : ∀ o ∈ h, o.pre.state = .closed → Without createsSocket o.out
  pending : ∀ o ∈ h, (∃ prev, .stateChanged .closed prev ∈ o.out) →
    ∀ call ∈ o.pre.eventStream.pending, .answered call none ∈ o.out
  later : ∀ o ∈ h, o.pre.state = .closed → o.label = .next →
    o.out = [.answered o.pre.eventStream.calls o.pre.eventStream.buffer.head?]

/-! ## What a step does -/

def inAuthPhase (s : SignetHandler) (socket : Nat) : Bool :=
  (s.sockets.get socket).any fun entry => !entry.authHandled

/-- What a step does to the state and the stream. -/
inductive ClosingEffect where
  /-- The state stays. -/
  | keeps
  /-- Some other state than closed is entered. -/
  | moves
  /-- The handler is closed, and the stream is left as it is. -/
  | closes
  /-- The handler is closed, and the stream is completed. -/
  | completes
deriving DecidableEq, Repr

def closingEffect (s : SignetHandler) : HandlerLabel → ClosingEffect
  | .connect _ => if s.state = .disconnected then .moves else .keeps
  | .disconnect => .completes
  | .next | .sendRequest _ _ | .requestTimeout _ => .keeps
  | .socketOpen _ => .moves
  | .socketMessage socket raw =>
    if inAuthPhase s socket then
      match readAuth raw with
      | .invalid | .authError _ _ => .closes
      | .authenticated _ => .moves
      | .threw | .credentialMissing | .other => .keeps
    else .keeps
  | .socketClose socket code _ =>
    if inAuthPhase s socket then if isRetryable code then .moves else .closes
    else if isRetryable code then if s.state = .closed then .keeps else .moves
    else .completes
  | .authTimeout socket => if inAuthPhase s socket then .closes else .keeps
  | .reconnectTimer _ => if s.state = .reconnecting then .moves else .keeps
  | .rejected => .moves
  | .heartbeatDead _ => if s.ws = none then .moves else .keeps

/-- A step with the effect. -/
def HandlerMove (s : SignetHandler) (effect : ClosingEffect) (turn : HandlerTurn) : Prop :=
  match effect with
  | .keeps =>
    turn.1.state = s.state ∧ (s.eventStream.Over → turn.1.eventStream.Over) ∧
      Without createsSocket turn.2 ∧ Without reportsClosed turn.2
  | .moves => turn.1.state ≠ .closed ∧ Without reportsClosed turn.2
  | .closes =>
    turn.1.state = .closed ∧ turn.1.eventStream = s.eventStream ∧ Without createsSocket turn.2
  | .completes =>
    turn.1.state = .closed ∧ turn.1.eventStream = s.eventStream.complete.1 ∧
      Without createsSocket turn.2 ∧
      ∀ answer ∈ s.eventStream.complete.2, .answered answer.1 answer.2 ∈ turn.2

variable {config : SignetHandlerConfig} {s t : SignetHandler} {p : HandlerObservation → Bool}

/-! ### What is seen -/

@[simp]
theorem without_nil : Without p [] := by simp [Without]

@[simp]
theorem without_cons {observation : HandlerObservation} {out : List HandlerObservation} :
    Without p (observation :: out) ↔ p observation = false ∧ Without p out := by
  simp [Without]

@[simp]
theorem without_append {out later : List HandlerObservation} :
    Without p (out ++ later) ↔ Without p out ∧ Without p later := by
  simp [Without, or_imp, forall_and]

@[simp]
theorem without_map {α : Type} {items : List α} {f : α → HandlerObservation} :
    Without p (items.map f) ↔ ∀ item ∈ items, p (f item) = false := by
  simp [Without]

section

variable (s : SignetHandler)

@[simp]
theorem setState_creates (newState : HandlerState) :
    Without createsSocket (setState s newState).2 := by
  unfold setState
  split <;> simp [createsSocket]

@[simp]
theorem setState_reports {newState : HandlerState} (h : newState ≠ .closed) :
    Without reportsClosed (setState s newState).2 := by
  unfold setState
  split
  · exact without_nil
  · cases newState <;> simp_all [reportsClosed]

@[simp]
theorem resolve_creates (socket : Nat) (result : Except SignetError Unit) :
    Without createsSocket (resolve s socket result).2 := by
  unfold resolve
  split <;> simp [createsSocket]

@[simp]
theorem resolve_reports (socket : Nat) (result : Except SignetError Unit) :
    Without reportsClosed (resolve s socket result).2 := by
  unfold resolve
  split <;> simp [reportsClosed]

@[simp]
theorem rejectAll_creates (error : SignetError) : Without createsSocket (rejectAll s error).2 := by
  simp [rejectAll, createsSocket]

@[simp]
theorem rejectAll_reports (error : SignetError) : Without reportsClosed (rejectAll s error).2 := by
  simp [rejectAll, reportsClosed]

@[simp]
theorem completeStream_creates : Without createsSocket (completeStream s).2 := by
  simp [completeStream, createsSocket]

@[simp]
theorem completeStream_reports : Without reportsClosed (completeStream s).2 := by
  simp [completeStream, reportsClosed]

end

/-! ### The state and the stream after each function -/

section

variable (s : SignetHandler)

@[simp]
theorem setState_state (newState : HandlerState) : (setState s newState).1.state = newState := by
  unfold setState
  split
  · assumption
  · rfl

@[simp]
theorem setState_eventStream (newState : HandlerState) :
    (setState s newState).1.eventStream = s.eventStream := by
  unfold setState
  split <;> rfl

@[simp]
theorem stopHeartbeat_state : (stopHeartbeat s).state = s.state := by
  unfold stopHeartbeat
  split <;> rfl

@[simp]
theorem stopHeartbeat_eventStream : (stopHeartbeat s).eventStream = s.eventStream := by
  unfold stopHeartbeat
  split <;> rfl

@[simp]
theorem stopHeartbeat_ws : (stopHeartbeat s).ws = s.ws := by
  unfold stopHeartbeat
  split <;> rfl

@[simp]
theorem recordHeartbeat_state : (recordHeartbeat s).state = s.state := by
  unfold recordHeartbeat
  split <;> rfl

@[simp]
theorem recordHeartbeat_eventStream : (recordHeartbeat s).eventStream = s.eventStream := by
  unfold recordHeartbeat
  split <;> rfl

@[simp]
theorem resolve_state (socket : Nat) (result : Except SignetError Unit) :
    (resolve s socket result).1.state = s.state := by
  unfold resolve
  split <;> rfl

@[simp]
theorem resolve_eventStream (socket : Nat) (result : Except SignetError Unit) :
    (resolve s socket result).1.eventStream = s.eventStream := by
  unfold resolve
  split <;> rfl

@[simp]
theorem rejectAll_state (error : SignetError) : (rejectAll s error).1.state = s.state := rfl

@[simp]
theorem rejectAll_eventStream (error : SignetError) :
    (rejectAll s error).1.eventStream = s.eventStream := rfl

@[simp]
theorem completeStream_state : (completeStream s).1.state = s.state := rfl

@[simp]
theorem completeStream_eventStream :
    (completeStream s).1.eventStream = s.eventStream.complete.1 := rfl

@[simp]
theorem settleAuth_eventStream (socket : Nat) :
    (settleAuth s socket).eventStream = s.eventStream := rfl

@[simp]
theorem clearAuthTimeout_state (socket : Nat) : (clearAuthTimeout s socket).state = s.state := rfl

@[simp]
theorem clearAuthTimeout_eventStream (socket : Nat) :
    (clearAuthTimeout s socket).eventStream = s.eventStream := rfl

end

/-! ### The moves of the functions -/

/-- A turn that leaves the state and the stream, and has no news of either. -/
theorem keeps_of_same {turn : HandlerTurn} (hState : turn.1.state = s.state)
    (hStream : turn.1.eventStream = s.eventStream) (hCreates : Without createsSocket turn.2)
    (hReports : Without reportsClosed turn.2) : HandlerMove s .keeps turn :=
  ⟨hState, fun hOver => hStream ▸ hOver, hCreates, hReports⟩

section

variable (config : SignetHandlerConfig) (s : SignetHandler)

@[simp]
theorem attemptReconnect_state : (attemptReconnect config s).1.state ≠ .closed := by
  unfold attemptReconnect
  split
  · simp
  · split <;> simp

@[simp]
theorem attemptReconnect_reports : Without reportsClosed (attemptReconnect config s).2 := by
  unfold attemptReconnect
  split
  · simp
  · split <;> simp [emitError, reportsClosed]

theorem connectInternal_moves (opener : Option Nat) (opens : Bool) :
    (connectInternal config s opener opens).1.state ≠ .closed ∧
      Without reportsClosed (connectInternal config s opener opens).2 := by
  unfold connectInternal
  cases opens with
  | true => simp [reportsClosed]
  | false => cases opener <;> simp [reportsClosed]

end

theorem pushEvent_keeps {event : Json} (hState : t.state = s.state)
    (hStream : t.eventStream = s.eventStream) : HandlerMove s .keeps (pushEvent t event) := by
  unfold pushEvent
  refine ⟨hState, ?_, by simp [createsSocket],
    by simp [reportsClosed]⟩
  intro hOver
  rw [hStream, AsyncQueue.push_of_over hOver]
  exact hOver

theorem resolveRequest_keeps (s : SignetHandler) (requestId : String) (result : RequestResult) :
    HandlerMove s .keeps (resolveRequest s requestId result) :=
  keeps_of_same rfl rfl (by simp [resolveRequest, createsSocket])
    (by simp [resolveRequest, reportsClosed])

theorem emitError_keeps (s : SignetHandler) (error : SignetError) :
    HandlerMove s .keeps (emitError s error) :=
  keeps_of_same rfl rfl (by simp [emitError, createsSocket])
    (by simp [emitError, reportsClosed])

theorem nothing_keeps (hState : t.state = s.state) (hStream : t.eventStream = s.eventStream) :
    HandlerMove s .keeps (t, []) :=
  keeps_of_same hState hStream without_nil without_nil

theorem threw_keeps (hState : t.state = s.state) (hStream : t.eventStream = s.eventStream) :
    HandlerMove s .keeps (t, [.threw]) :=
  keeps_of_same hState hStream (by simp [createsSocket])
    (by simp [reportsClosed])

theorem handleFrame_keeps (s : SignetHandler) (raw : Option Json) :
    HandlerMove s .keeps (handleFrame s raw) := by
  unfold handleFrame
  dsimp only
  split
  · exact emitError_keeps s _
  · split
    · exact emitError_keeps s _
    · split
      · unfold handleResponse
        split
        · split <;> exact resolveRequest_keeps _ _ _
        · exact nothing_keeps rfl rfl
      · split
        · unfold handleSequenced
          dsimp only
          split
          · exact pushEvent_keeps (recordHeartbeat_state _) (recordHeartbeat_eventStream _)
          · exact pushEvent_keeps rfl rfl
        · exact nothing_keeps rfl rfl
  · exact nothing_keeps rfl rfl
  · exact threw_keeps rfl rfl

/-- A message in the auth phase. -/
theorem handleAuth_move (s : SignetHandler) (socket : Nat) (raw : Option Json) :
    HandlerMove s
      (match readAuth raw with
        | .invalid | .authError _ _ => .closes
        | .authenticated _ => .moves
        | .threw | .credentialMissing | .other => .keeps)
      (handleAuth s socket raw) := by
  unfold handleAuth
  cases readAuth raw with
  | invalid => simp [HandlerMove]
  | authError message code => simp [HandlerMove]
  | authenticated info => simp [HandlerMove]
  | threw => exact threw_keeps rfl rfl
  | credentialMissing => exact threw_keeps rfl rfl
  | other => exact nothing_keeps rfl rfl

section

variable (config : SignetHandlerConfig) (s : SignetHandler) (socket : Nat)

theorem onClose_move (entry : Socket) (code : Nat) (reason : String) :
    HandlerMove s
      (if entry.authHandled = false then if isRetryable code then .moves else .closes
        else if isRetryable code then if s.state = .closed then .keeps else .moves
        else .completes)
      (onClose config s socket entry code reason) := by
  unfold onClose
  dsimp only
  split
  · cases isRetryable code with
    | false => simp [HandlerMove]
    | true => simp [HandlerMove]
  · cases isRetryable code with
    | false =>
      refine ⟨by simp, by simp, by simp, ?_⟩
      intro answer hAnswer
      have hLast : .answered answer.1 answer.2 ∈
          (s.eventStream.complete.2.map fun answer => HandlerObservation.answered answer.1 answer.2) :=
        List.mem_map.mpr ⟨answer, hAnswer, rfl⟩
      simpa [completeStream] using Or.inr (Or.inr hLast)
    | true =>
      simp only [Bool.true_eq_false, if_false, andThen, if_true, rejectAll_state,
        stopHeartbeat_state]
      split
      · exact keeps_of_same (by simp) (by simp) (by simp) (by simp)
      · exact ⟨by simp, by simp⟩

theorem onAuthTimeout_move (entry : Socket) :
    HandlerMove s (if entry.authHandled then .keeps else .closes)
      (onAuthTimeout config s socket entry) := by
  unfold onAuthTimeout
  split
  · exact nothing_keeps rfl rfl
  · simp [HandlerMove, closeSocket, createsSocket]

end

theorem closeCurrent_eventStream (s : SignetHandler) :
    (closeCurrent s).1.eventStream = s.eventStream := by
  unfold closeCurrent
  split <;> rfl

theorem closeCurrent_creates (s : SignetHandler) :
    Without createsSocket (closeCurrent s).2 := by
  unfold closeCurrent
  split <;> simp [closeSocket, createsSocket]

theorem disconnect_move (s : SignetHandler) : HandlerMove s .completes (disconnect s) := by
  unfold disconnect
  refine ⟨by simp, by simp [closeCurrent_eventStream],
    by simp [closeCurrent_creates, createsSocket], ?_⟩
  intro answer hAnswer
  have hLast : .answered answer.1 answer.2 ∈
      (s.eventStream.complete.2.map fun answer => HandlerObservation.answered answer.1 answer.2) :=
    List.mem_map.mpr ⟨answer, hAnswer, rfl⟩
  simpa [completeStream, closeCurrent_eventStream] using Or.inr (Or.inr (Or.inr hLast))

theorem connect_move (config : SignetHandlerConfig) (s : SignetHandler) (opens : Bool) :
    HandlerMove s (if s.state = .disconnected then .moves else .keeps)
      (connect config s opens) := by
  cases hState : s.state with
  | disconnected =>
    simp only [connect, hState, if_true]
    exact connectInternal_moves _ _ _ _
  | connecting | authenticating | connected | reconnecting | closed =>
    simp only [connect, hState, reduceCtorEq, if_false]
    exact keeps_of_same (by simp [hState]) rfl (by simp [connect.inProgress, createsSocket])
      (by simp [connect.inProgress, reportsClosed])

theorem nextEvent_keeps (s : SignetHandler) : HandlerMove s .keeps (nextEvent s) :=
  ⟨rfl, AsyncQueue.over_next, by simp [nextEvent, createsSocket],
    by simp [nextEvent, reportsClosed]⟩

theorem sendRequest_keeps (s : SignetHandler) (requestId : String)
    (request : List (String × Json)) : HandlerMove s .keeps (sendRequest s requestId request) := by
  unfold sendRequest
  dsimp only
  split
  · split <;> exact keeps_of_same rfl rfl (by simp [createsSocket]) (by simp [reportsClosed])
  · exact keeps_of_same rfl rfl (by simp [createsSocket]) (by simp [reportsClosed])

theorem handleConnectionDead_move (config : SignetHandlerConfig) (s : SignetHandler) :
    HandlerMove s (if s.ws = none then .moves else .keeps) (handleConnectionDead config s) := by
  unfold handleConnectionDead
  cases s.ws with
  | none => simp [HandlerMove]
  | some socket =>
    exact keeps_of_same (by simp [closeSocket]) (by simp [closeSocket])
      (by simp [closeSocket, createsSocket]) (by simp [closeSocket, reportsClosed])

/-- **What a step does.** -/
theorem handlerStep_move {label : HandlerLabel} {turn : HandlerTurn}
    (hStep : handlerStep config s label = some turn) :
    HandlerMove s (closingEffect s label) turn := by
  cases label with
  | connect opens =>
    cases hStep
    exact connect_move config s opens
  | disconnect =>
    cases hStep
    exact disconnect_move s
  | next =>
    cases hStep
    exact nextEvent_keeps s
  | sendRequest requestId request =>
    cases hStep
    exact sendRequest_keeps s requestId request
  | socketOpen socket =>
    obtain ⟨entry, -, hStep⟩ := Option.bind_eq_some_iff.mp hStep
    split at hStep
    · cases hStep
      exact ⟨by simp [onOpen], by simp [onOpen, reportsClosed]⟩
    · cases hStep
  | socketMessage socket raw =>
    obtain ⟨entry, hEntry, hStep⟩ := Option.bind_eq_some_iff.mp hStep
    split at hStep
    · cases hStep
      cases hAuth : entry.authHandled with
      | true =>
        simp only [closingEffect, inAuthPhase, hEntry, Option.any_some, hAuth, if_true]
        exact handleFrame_keeps s raw
      | false =>
        simp only [closingEffect, inAuthPhase, hEntry, Option.any_some, hAuth, if_true,
          Bool.not_false, Bool.false_eq_true, if_false]
        exact handleAuth_move s socket raw
    · cases hStep
  | socketClose socket code reason =>
    obtain ⟨entry, hEntry, hStep⟩ := Option.bind_eq_some_iff.mp hStep
    split at hStep
    · cases hStep
    · cases hStep
      have hMove := onClose_move config
        { s with sockets := s.sockets.modify socket fun entry => { entry with closed := true } }
        socket entry code reason
      cases hAuth : entry.authHandled <;>
        simpa [closingEffect, inAuthPhase, hEntry, hAuth, HandlerMove] using hMove
  | authTimeout socket =>
    obtain ⟨entry, hEntry, hStep⟩ := Option.bind_eq_some_iff.mp hStep
    split at hStep
    · cases hStep
      have hMove := onAuthTimeout_move config (clearAuthTimeout s socket) socket entry
      cases hAuth : entry.authHandled <;>
        simpa [closingEffect, inAuthPhase, hEntry, hAuth, HandlerMove] using hMove
    · cases hStep
  | reconnectTimer opens =>
    simp only [handlerStep] at hStep
    split at hStep
    · cases hStep
    · cases hStep
      simp only [closingEffect]
      split
      · exact connectInternal_moves _ _ _ _
      · exact nothing_keeps rfl rfl
  | rejected =>
    simp only [handlerStep] at hStep
    split at hStep
    · cases hStep
    · cases hStep
      exact ⟨attemptReconnect_state _ _, attemptReconnect_reports _ _⟩
  | heartbeatDead monitor =>
    obtain ⟨entry, -, hStep⟩ := Option.bind_eq_some_iff.mp hStep
    split at hStep
    · cases hStep
      exact handleConnectionDead_move config
        { s with monitors := s.monitors.modify monitor fun entry => { entry with timer := false } }
    · cases hStep
  | requestTimeout request =>
    obtain ⟨⟨tracker, settled⟩, -, hStep⟩ := Option.bind_eq_some_iff.mp hStep
    cases hStep
    exact keeps_of_same rfl rfl (by simp [createsSocket]) (by simp [reportsClosed])

/-! ## Every run -/

/-- A step that closes the handler leaves nobody waiting: with a stream that it does not
complete nobody waits before, and with one that it completes no call has lost its place. -/
def LeavesNobodyWaiting (s : SignetHandler) : ClosingEffect → Prop
  | .keeps | .moves => True
  | .closes => s.eventStream.Over
  | .completes => s.eventStream.abandoned = []

/-- A step that moves the handler finds it not closed. -/
def LeavesClosed (s : SignetHandler) : ClosingEffect → Prop
  | .moves => s.state ≠ .closed
  | .keeps | .closes | .completes => True

/-- The steps that leave a closed handler as it should be. -/
structure KeepsClosed (s : SignetHandler) (label : HandlerLabel) : Prop where
  nobodyWaits : LeavesNobodyWaiting s (closingEffect s label)
  staysClosed : LeavesClosed s (closingEffect s label)

instance (s : SignetHandler) (effect : ClosingEffect) : Decidable (LeavesNobodyWaiting s effect) :=
  match effect with
  | .keeps | .moves => inferInstanceAs (Decidable True)
  | .closes => inferInstanceAs (Decidable s.eventStream.Over)
  | .completes => inferInstanceAs (Decidable (s.eventStream.abandoned = []))

instance (s : SignetHandler) (effect : ClosingEffect) : Decidable (LeavesClosed s effect) :=
  match effect with
  | .moves => inferInstanceAs (Decidable (s.state ≠ .closed))
  | .keeps | .closes | .completes => inferInstanceAs (Decidable True)

instance (s : SignetHandler) (label : HandlerLabel) : Decidable (KeepsClosed s label) :=
  decidable_of_iff (LeavesNobodyWaiting s (closingEffect s label) ∧
    LeavesClosed s (closingEffect s label)) ⟨fun h => ⟨h.1, h.2⟩, fun h => ⟨h.1, h.2⟩⟩

variable {turn : HandlerTurn} {effect : ClosingEffect} {h : List HandlerOccurrence}

theorem completed_iff (hBefore : CompletedWhenClosed s) (hMove : HandlerMove s effect turn) :
    CompletedWhenClosed turn.1 ↔ LeavesNobodyWaiting s effect := by
  cases effect with
  | keeps =>
    obtain ⟨hState, hOver, -⟩ := hMove
    refine iff_of_true ?_ trivial
    intro hClosed
    exact hOver (hBefore (hState ▸ hClosed))
  | moves => exact iff_of_true (fun hClosed => absurd hClosed hMove.1) trivial
  | closes =>
    obtain ⟨hClosed, hStream, -⟩ := hMove
    unfold CompletedWhenClosed LeavesNobodyWaiting
    rw [hStream]
    exact ⟨fun h => h hClosed, fun h _ => h⟩
  | completes =>
    obtain ⟨hClosed, hStream, -⟩ := hMove
    unfold CompletedWhenClosed LeavesNobodyWaiting
    rw [hStream, AsyncQueue.over_complete_iff]
    exact ⟨fun h => h hClosed, fun h _ => h⟩

section

variable (hMove : HandlerMove s effect turn)

include hMove

theorem stays_iff : (s.state = .closed → turn.1.state = .closed) ↔ LeavesClosed s effect := by
  cases effect with
  | keeps => exact iff_of_true (fun hClosed => hMove.1.trans hClosed) trivial
  | moves =>
    show _ ↔ s.state ≠ .closed
    exact ⟨fun h hClosed => hMove.1 (h hClosed), fun h hClosed => absurd hClosed h⟩
  | closes => exact iff_of_true (fun _ => hMove.1) trivial
  | completes => exact iff_of_true (fun _ => hMove.1) trivial

theorem noSocket_of_keeps (hClosed : s.state = .closed) (hStays : LeavesClosed s effect) :
    Without createsSocket turn.2 := by
  cases effect with
  | keeps => exact hMove.2.2.1
  | moves => exact absurd hClosed hStays
  | closes => exact hMove.2.2
  | completes => exact hMove.2.2.1

theorem answered_of_closes (hWaits : LeavesNobodyWaiting s effect) {prev : HandlerState}
    (hReport : .stateChanged .closed prev ∈ turn.2) {call : Nat}
    (hCall : call ∈ s.eventStream.pending) : .answered call none ∈ turn.2 := by
  cases effect with
  | keeps => cases hMove.2.2.2 _ hReport
  | moves => cases hMove.2 _ hReport
  | closes =>
    have hNobody : s.eventStream.pending = [] := hWaits.2
    rw [hNobody] at hCall
    cases hCall
  | completes => exact hMove.2.2.2 (call, none) (AsyncQueue.answered_complete hWaits hCall)

end

theorem completed_visited_iff (hRun : (handlerMachine config).Runs h s) :
    (∀ t ∈ visited h s, CompletedWhenClosed t) ↔
      AllMeet (fun s label => LeavesNobodyWaiting s (closingEffect s label)) h := by
  refine hRun.forall_visited_iff (by intro hClosed; cases hClosed) ?_
  intro h s label t out _ hBefore hStep
  exact completed_iff hBefore (handlerStep_move hStep)

theorem stays_visited_iff (hRun : (handlerMachine config).Runs h s) :
    (visited h s).Pairwise (fun t u => t.state = .closed → u.state = .closed) ↔
      AllMeet (fun s label => LeavesClosed s (closingEffect s label)) h := by
  have hAssume : AllMeet (fun _ _ => True) h := fun _ _ => trivial
  refine hRun.pairwise_visited_iff ?_ ?_ hAssume
  · intro t u v hFirst hLater hClosed
    exact hLater (hFirst hClosed)
  · intro s label t out _ hStep
    exact stays_iff (handlerStep_move hStep)

/-- **Closed is terminal.**  In every run the closed state is final, and has answered
everyone, exactly when all steps keep it so. -/
theorem closed_terminal_iff (hRun : (handlerMachine config).Runs h s) :
    ClosedTerminal h s ↔ AllMeet KeepsClosed h := by
  constructor
  · intro hTerminal o ho
    exact ⟨(completed_visited_iff hRun).mp hTerminal.completed o ho,
      (stays_visited_iff hRun).mp hTerminal.stays o ho⟩
  · intro hMeet
    have hCompleted := (completed_visited_iff hRun).mpr fun o ho => (hMeet o ho).nobodyWaits
    have hPre : ∀ o ∈ h, CompletedWhenClosed o.pre := fun o ho =>
      hCompleted o.pre (List.mem_append_left _ (List.mem_map_of_mem ho))
    constructor
    · exact (stays_visited_iff hRun).mpr fun o ho => (hMeet o ho).staysClosed
    · exact hCompleted
    · intro o ho hClosed
      obtain ⟨t, hStep⟩ := hRun.step_of_mem ho
      exact noSocket_of_keeps (handlerStep_move hStep) hClosed (hMeet o ho).staysClosed
    · rintro o ho ⟨prev, hReport⟩ call hCall
      obtain ⟨t, hStep⟩ := hRun.step_of_mem ho
      exact answered_of_closes (handlerStep_move hStep) (hMeet o ho).nobodyWaits hReport hCall
    · intro o ho hClosed hNext
      obtain ⟨t, hStep⟩ := hRun.step_of_mem ho
      rw [hNext] at hStep
      have hOut : (nextEvent o.pre).2 = o.out := congrArg Prod.snd (Option.some.inj hStep)
      rw [← hOut, nextEvent, AsyncQueue.next_of_over (hPre o ho hClosed)]
      rfl

/-! ## Runs on fixed inputs -/

def sampleConfig : SignetHandlerConfig :=
  ⟨"ws://localhost:8393/v1/agent", "token", ⟨true, 10⟩, 30000⟩

def sampleHandler : Machine SignetHandler HandlerLabel HandlerObservation :=
  handlerMachine sampleConfig

def authenticatedFrame : Json :=
  .object [("type", .string "authenticated"), ("connectionId", .string "connection"),
    ("credential", .object [("credentialId", .string "cred_0011223344556677")])]

/-- A connection is authenticated, somebody waits for an event, and it is disconnected. -/
def disconnectsLate : List HandlerLabel :=
  [.connect true, .socketOpen 0, .socketMessage 0 (some authenticatedFrame), .next, .disconnect,
    .socketClose 0 1000 ""]

theorem disconnectsLate_keeps :
    sampleHandler.Executes disconnectsLate fun h _ => AllMeet KeepsClosed h := by
  decide

theorem disconnectsLate_isSome :
    (sampleHandler.exec sampleHandler.init disconnectsLate).isSome = true :=
  disconnectsLate_keeps.goes

/-- The waiting call is answered, and the close event changes nothing. -/
theorem disconnectsLate_terminal :
    ClosedTerminal
      (sampleHandler.outcome sampleHandler.init disconnectsLate disconnectsLate_isSome).1
      (sampleHandler.outcome sampleHandler.init disconnectsLate disconnectsLate_isSome).2 :=
  (closed_terminal_iff disconnectsLate_keeps.runs).mpr disconnectsLate_keeps.holds

/-- A connection is disconnected in its auth phase, and the close event follows. -/
def disconnectsEarly : List HandlerLabel :=
  [.connect true, .socketOpen 0, .disconnect, .socketClose 0 1000 "Client disconnect",
    .reconnectTimer true]

theorem disconnectsEarly_reopens :
    sampleHandler.Executes disconnectsEarly fun h s =>
      ¬ (visited h s).Pairwise fun t u => t.state = .closed → u.state = .closed := by
  decide

/-- The close event of a disconnected handler starts a reconnect, and a socket is made. -/
theorem disconnected_reconnects :
    ∃ h s, sampleHandler.Runs h s ∧ ¬ ClosedTerminal h s := by
  obtain ⟨h, s, -, hRun, hNot⟩ := disconnectsEarly_reopens.exists_run
  exact ⟨h, s, hRun, fun hTerminal => hNot hTerminal.stays⟩

end Sdk
end Signet
