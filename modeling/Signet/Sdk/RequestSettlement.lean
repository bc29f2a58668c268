import Signet.Kit.ListedMap
import Signet.Sdk.SingleSocket

/-!
# Requests are settled once

A request that has been sent waits for its response, for its timeout, and for the end of its
connection, in whatever order these come, and whatever other responses, reconnects and
disconnects come in between.

* `trackedBy` — the request that a step tracks, with the socket it is sent on.
* `settledBy` — what a step has for a request: its own response, its timeout, or the rejection of
  its connection.
* `Awaits` — the tracker holds exactly the given requests, and their socket is live.
* `requests_settle_once` — every tracked request is settled with the first that comes for it,
  and with nothing else.
-/

namespace Signet
namespace Sdk

open Kit Machine Schemas Connection

/-! ## Requests and what settles them -/

structure TrackedRequest where
  call : Nat
  requestId : String
  socket : Nat
deriving DecidableEq

/-- The request that a step tracks. -/
def trackedBy (s : SignetHandler) (label : HandlerLabel) : Option TrackedRequest :=
  match label, s.state, s.ws with
  | .sendRequest requestId _, .connected, some socket => some ⟨s.requests, requestId, socket⟩
  | _, _, _ => none

/-- The id of the request that a step sends, tracked or not. -/
def sentIdOf : HandlerLabel → Option String
  | .sendRequest requestId _ => some requestId
  | _ => none

def resultOf (data : Json) : RequestResult :=
  if ((data.property "ok").map Json.truthy).getD false then .ok (data.property "data")
  else .error (responseError ((data.property "error").getD .null))

/-- The request id and the result in a frame that `handleFrame` takes for a response. -/
def responseOf (raw : Option Json) : Option (String × RequestResult) :=
  match raw with
  | some (.object members) =>
    let data := Json.object members
    if data.property "type" = some (.string "backpressure") then none
    else if (data.property "requestId").isSome && (data.property "ok").isSome then
      (data.property "requestId").bind fun
        | .string requestId => some (requestId, resultOf data)
        | _ => none
    else none
  | _ => none

/-- What a step has for a request: the response to it, its timeout, or the rejection of the
connection it was sent on. -/
def settledBy (config : SignetHandlerConfig) (s : SignetHandler) (label : HandlerLabel)
    (r : TrackedRequest) : Option RequestResult :=
  match label with
  | .socketMessage socket raw =>
    if inAuthPhase s socket then none
    else (responseOf raw).bind fun response =>
      if r.requestId = response.1 then some response.2 else none
  | .requestTimeout request =>
    if r.call = request then
      some (.error (TimeoutError.create "request" config.requestTimeoutMs))
    else none
  | .socketClose socket _ _ =>
    if r.socket = socket then some (.error (InternalError.create "Connection closed")) else none
  | .disconnect => some (.error (InternalError.create "Disconnecting"))
  | _ => none

def trackedRequests (h : List HandlerOccurrence) : List TrackedRequest :=
  h.filterMap fun o => trackedBy o.pre o.label

def sentIds (h : List HandlerOccurrence) : List String := h.filterMap fun o => sentIdOf o.label

/-- The settlements among what has been seen. -/
def settledIn (out : List HandlerObservation) : List (Nat × RequestResult) :=
  out.filterMap fun
    | .requestSettled call result => some (call, result)
    | _ => none

def settlementsIn (call : Nat) (out : List HandlerObservation) : List RequestResult :=
  (settledIn out).filterMap fun settled => if settled.1 = call then some settled.2 else none

def settlementsOf (call : Nat) (h : List HandlerOccurrence) : List RequestResult :=
  settlementsIn call (outputs h)

def unsettledRequests (h : List HandlerOccurrence) : List TrackedRequest :=
  (trackedRequests h).filter fun r => (settlementsOf r.call h).isEmpty

/-- `pending` -/
def pendingCount (t : RequestTracker) : Nat := t.pending.entries.length

/-- The answer to a request that cannot be sent. -/
def notConnected : RequestResult :=
  .error (ValidationError.create "state" "Not connected to signet")

/-- The request that a step refuses to send. -/
def refusedBy (s : SignetHandler) (label : HandlerLabel) : List (Nat × RequestResult) :=
  if (sentIdOf label).isSome && (trackedBy s label).isNone then [(s.requests, notConnected)] else []

@[simp]
theorem settledIn_append (out later : List HandlerObservation) :
    settledIn (out ++ later) = settledIn out ++ settledIn later :=
  List.filterMap_append

theorem settledIn_map (settled : List (Nat × RequestResult)) :
    settledIn (settled.map fun entry => .requestSettled entry.1 entry.2) = settled := by
  unfold settledIn
  rw [List.filterMap_map]
  exact List.filterMap_some

/-! ## What the functions do to the requests -/

/-- Sockets that were there are there still, as closed as before and as far past their auth phase
at least. -/
def SocketsKept (s t : SignetHandler) : Prop :=
  ∀ socket entry, s.sockets.get socket = some entry → entry.authHandled = true →
    ∃ after, t.sockets.get socket = some after ∧ after.closed = entry.closed ∧
      after.authHandled = true

structure RequestTurn (s : SignetHandler) (tracker : RequestTracker)
    (settled : List (Nat × RequestResult)) (turn : HandlerTurn) : Prop where
  tracker : turn.1.requestTracker = tracker
  requests : turn.1.requests = s.requests
  settled : settledIn turn.2 = settled
  none_thrown : ∀ call, .requestThrew call ∉ turn.2
  sockets : SocketsKept s turn.1

abbrev LeavesRequests (s : SignetHandler) (turn : HandlerTurn) : Prop :=
  RequestTurn s s.requestTracker [] turn

variable {config : SignetHandlerConfig} {s t : SignetHandler}

theorem SocketsKept.refl (s : SignetHandler) : SocketsKept s s :=
  fun _ entry hGet hAuth => ⟨entry, hGet, rfl, hAuth⟩

theorem SocketsKept.of_eq (hSockets : t.sockets = s.sockets) : SocketsKept s t := by
  intro socket entry hGet hAuth
  exact ⟨entry, hSockets ▸ hGet, rfl, hAuth⟩

theorem SocketsKept.trans {u : SignetHandler} (hFirst : SocketsKept s t)
    (hSecond : SocketsKept t u) : SocketsKept s u := by
  intro socket entry hGet hAuth
  obtain ⟨between, hBetween, hClosed, hHandled⟩ := hFirst socket entry hGet hAuth
  obtain ⟨after, hAfter, hStill, hLater⟩ := hSecond socket between hBetween hHandled
  exact ⟨after, hAfter, hStill.trans hClosed, hLater⟩

theorem SocketsKept.modify {f : Socket → Socket} (hGrows : Grows f) (socket : Nat)
    (hSockets : t.sockets = s.sockets.modify socket f) : SocketsKept s t := by
  intro other entry hGet hAuth
  rw [hSockets, Arena.get_modify, hGet]
  split
  · exact ⟨f entry, rfl, hGrows.closed entry, hGrows.authHandled entry hAuth⟩
  · exact ⟨entry, rfl, rfl, hAuth⟩

variable {settled : List (Nat × RequestResult)} {tracker : RequestTracker} {entry : Socket}
  {requestId : String} {next : SignetHandler → HandlerTurn}

/-- A new socket takes the place of no other. -/
theorem SocketsKept.alloc (hSockets : t.sockets = s.sockets.alloc entry) :
    SocketsKept s t := by
  intro socket before hGet hAuth
  rw [hSockets, Arena.get_alloc, if_neg (Nat.ne_of_lt (Arena.lt_next_of_get hGet))]
  exact ⟨before, hGet, rfl, hAuth⟩

/-- One thing after another. -/
theorem RequestTurn.andThen {tracker tracker' : RequestTracker}
    {settled settled' : List (Nat × RequestResult)} {turn : HandlerTurn}
    (hFirst : RequestTurn s tracker settled turn)
    (hNext : RequestTurn turn.1 tracker' settled' (next turn.1)) :
    RequestTurn s tracker' (settled ++ settled') (Kit.andThen turn next) where
  tracker := hNext.tracker
  requests := hNext.requests.trans hFirst.requests
  settled := by
    rw [andThen_snd, settledIn_append, hFirst.settled, hNext.settled]
  none_thrown := by
    intro call hMem
    rcases List.mem_append.mp hMem with hMem | hMem
    · exact hFirst.none_thrown call hMem
    · exact hNext.none_thrown call hMem
  sockets := hFirst.sockets.trans hNext.sockets

/-- Nor does such a second part. -/
theorem RequestTurn.andThen_right {turn : HandlerTurn} (hFirst : RequestTurn s tracker settled turn)
    (hNext : LeavesRequests turn.1 (next turn.1)) :
    RequestTurn s tracker settled (Kit.andThen turn next) := by
  have hBoth := hFirst.andThen hNext
  rw [List.append_nil, hFirst.tracker] at hBoth
  exact hBoth

/-- A turn that changes sockets only by growing, if at all. -/
theorem leaves_of_same {turn : HandlerTurn} (hTracker : turn.1.requestTracker = s.requestTracker)
    (hRequests : turn.1.requests = s.requests) (hSockets : SocketsKept s turn.1)
    (hSettled : settledIn turn.2 = []) (hThrown : ∀ call, .requestThrew call ∉ turn.2) :
    LeavesRequests s turn :=
  ⟨hTracker, hRequests, hSettled, hThrown, hSockets⟩

theorem setState_leaves (s : SignetHandler) (newState : HandlerState) :
    LeavesRequests s (setState s newState) := by
  unfold setState
  split
  · exact leaves_of_same rfl rfl (.refl s) rfl (by simp)
  · exact leaves_of_same rfl rfl (.of_eq rfl) rfl (by simp)

theorem emitError_leaves (s : SignetHandler) (error : SignetError) :
    LeavesRequests s (emitError s error) :=
  leaves_of_same rfl rfl (.refl s) rfl (by simp [emitError])

/-- The answers to calls of `next` settle no request. -/
theorem settledIn_answered (answers : List (Nat × Option Json)) :
    settledIn (answers.map fun answer => .answered answer.1 answer.2) = [] := by
  unfold settledIn
  rw [List.filterMap_map]
  exact List.filterMap_eq_nil_iff.mpr fun _ _ => rfl

section

variable (s : SignetHandler)

theorem completeStream_leaves : LeavesRequests s (completeStream s) :=
  leaves_of_same rfl rfl (.of_eq rfl) (settledIn_answered _) (by simp [completeStream])

theorem pushEvent_leaves (event : Json) : LeavesRequests s (pushEvent s event) :=
  leaves_of_same rfl rfl (.of_eq rfl) (settledIn_answered _) (by simp [pushEvent])

theorem nextEvent_leaves : LeavesRequests s (nextEvent s) :=
  leaves_of_same rfl rfl (.of_eq rfl) (settledIn_answered _) (by simp [nextEvent])

theorem closeSocket_leaves (socket : Nat) (code : Option Nat) (reason : String) :
    LeavesRequests s (closeSocket s socket code reason) :=
  leaves_of_same rfl rfl (.modify grows_closeRequested socket rfl) rfl (by simp [closeSocket])

theorem resolve_leaves (socket : Nat) (result : Except SignetError Unit) :
    LeavesRequests s (resolve s socket result) := by
  unfold resolve
  split
  · exact leaves_of_same rfl rfl (.modify grows_resolved socket rfl) rfl (by simp)
  · exact leaves_of_same rfl rfl (.refl s) rfl (by simp)

theorem resolveRequest_turn (requestId : String) (result : RequestResult) :
    RequestTurn s (s.requestTracker.resolve requestId result).1
      (s.requestTracker.resolve requestId result).2 (resolveRequest s requestId result) :=
  ⟨rfl, rfl, settledIn_map _, by simp [resolveRequest], .of_eq rfl⟩

theorem rejectAll_turn (error : SignetError) :
    RequestTurn s (s.requestTracker.rejectAll error).1 (s.requestTracker.rejectAll error).2
      (rejectAll s error) :=
  ⟨rfl, rfl, settledIn_map _, by simp [rejectAll], .of_eq rfl⟩

theorem stopHeartbeat_same :
    (stopHeartbeat s).requestTracker = s.requestTracker ∧
      (stopHeartbeat s).requests = s.requests ∧ (stopHeartbeat s).sockets = s.sockets := by
  unfold stopHeartbeat
  split
  · exact ⟨rfl, rfl, rfl⟩
  · exact ⟨rfl, rfl, rfl⟩

theorem recordHeartbeat_same :
    (recordHeartbeat s).requestTracker = s.requestTracker ∧
      (recordHeartbeat s).requests = s.requests ∧ (recordHeartbeat s).sockets = s.sockets := by
  unfold recordHeartbeat
  split
  · exact ⟨rfl, rfl, rfl⟩
  · exact ⟨rfl, rfl, rfl⟩

end

theorem RequestTurn.of_same {turn : HandlerTurn} (hTurn : RequestTurn t tracker settled turn)
    (hRequests : t.requests = s.requests) (hSockets : SocketsKept s t) :
    RequestTurn s tracker settled turn :=
  ⟨hTurn.tracker, hTurn.requests.trans hRequests, hTurn.settled, hTurn.none_thrown,
    hSockets.trans hTurn.sockets⟩

theorem LeavesRequests.of_same {turn : HandlerTurn} (hTurn : LeavesRequests t turn)
    (hTracker : t.requestTracker = s.requestTracker) (hRequests : t.requests = s.requests)
    (hSockets : SocketsKept s t) : LeavesRequests s turn := by
  have hSame := RequestTurn.of_same hTurn hRequests hSockets
  rw [hTracker] at hSame
  exact hSame

section

variable (config : SignetHandlerConfig) (s : SignetHandler)

theorem attemptReconnect_leaves : LeavesRequests s (attemptReconnect config s) := by
  unfold attemptReconnect
  split
  · exact (setState_leaves s _).andThen_right (completeStream_leaves _)
  · split
    · refine (emitError_leaves s _).andThen_right ?_
      exact (setState_leaves _ _).andThen_right (completeStream_leaves _)
    · refine (setState_leaves s _).andThen_right ?_
      exact leaves_of_same rfl rfl (.of_eq rfl) rfl (by simp)

theorem connectInternal_leaves (opener : Option Nat) (opens : Bool) :
    LeavesRequests s (connectInternal config s opener opens) := by
  unfold connectInternal
  refine (setState_leaves s _).andThen_right ?_
  cases opens with
  | true => exact leaves_of_same rfl rfl (.alloc rfl) rfl (by simp)
  | false =>
    cases opener with
    | some call => exact leaves_of_same rfl rfl (.of_eq rfl) rfl (by simp)
    | none => exact leaves_of_same rfl rfl (.of_eq rfl) rfl (by simp)

theorem connect_leaves (opens : Bool) : LeavesRequests s (connect config s opens) := by
  unfold connect
  dsimp only
  split
  · exact leaves_of_same rfl rfl (.of_eq rfl) rfl (by simp)
  · exact leaves_of_same rfl rfl (.of_eq rfl) rfl (by simp)
  · exact leaves_of_same rfl rfl (.of_eq rfl) rfl (by simp [connect.inProgress])
  · exact leaves_of_same rfl rfl (.of_eq rfl) rfl (by simp [connect.inProgress])
  · exact leaves_of_same rfl rfl (.of_eq rfl) rfl (by simp [connect.inProgress])
  · exact (connectInternal_leaves config _ _ _).of_same rfl rfl (.of_eq rfl)

end

theorem handleSequenced_leaves (s : SignetHandler) (seq event : Json) :
    LeavesRequests s (handleSequenced s seq event) := by
  unfold handleSequenced
  dsimp only
  split
  · obtain ⟨hTracker, hRequests, hSockets⟩ :=
      recordHeartbeat_same { s with lastSeenSeq := some seq }
    exact (pushEvent_leaves _ event).of_same hTracker hRequests (.of_eq hSockets)
  · exact (pushEvent_leaves _ event).of_same rfl rfl (.of_eq rfl)

/-- What `handleResponse` makes of a frame with a text for an id. -/
theorem handleResponse_text {data : Json}
    (hId : data.property "requestId" = some (.string requestId)) (s : SignetHandler) :
    handleResponse s data = resolveRequest s requestId (resultOf data) := by
  unfold handleResponse resultOf
  rw [hId]
  dsimp only
  split
  · rfl
  · rfl

/-- A response goes to the tracker. -/
theorem handleFrame_response {raw : Option Json} {result : RequestResult}
    (hResponse : responseOf raw = some (requestId, result)) (s : SignetHandler) :
    handleFrame s raw = resolveRequest s requestId result := by
  cases raw with
  | none => cases hResponse
  | some value =>
    cases value with
    | object members =>
      simp only [responseOf] at hResponse
      by_cases hType : (Json.object members).property "type" = some (.string "backpressure")
      · rw [if_pos hType] at hResponse
        cases hResponse
      · rw [if_neg hType] at hResponse
        by_cases hBoth : ((Json.object members).property "requestId").isSome &&
            ((Json.object members).property "ok").isSome
        · rw [if_pos hBoth] at hResponse
          obtain ⟨id, hId, hRead⟩ := Option.bind_eq_some_iff.mp hResponse
          simp only [handleFrame]
          rw [if_neg hType, if_pos hBoth]
          cases id with
          | string text =>
            cases hRead
            exact handleResponse_text hId s
          | null | bool _ | number _ | object _ | array _ => cases hRead
        · rw [if_neg hBoth] at hResponse
          cases hResponse
    | null | bool _ | number _ | string _ | array _ => cases hResponse

theorem handleFrame_leaves {raw : Option Json} (hResponse : responseOf raw = none)
    (s : SignetHandler) : LeavesRequests s (handleFrame s raw) := by
  cases raw with
  | none => exact emitError_leaves s _
  | some value =>
    cases value with
    | object members =>
      simp only [responseOf] at hResponse
      simp only [handleFrame]
      by_cases hType : (Json.object members).property "type" = some (.string "backpressure")
      · rw [if_pos hType]
        exact emitError_leaves s _
      · rw [if_neg hType] at hResponse ⊢
        by_cases hBoth : ((Json.object members).property "requestId").isSome &&
            ((Json.object members).property "ok").isSome
        · rw [if_pos hBoth] at hResponse ⊢
          -- the id is no text, or this were a response
          unfold handleResponse
          split
          · next id hId =>
            rw [hId] at hResponse
            cases hResponse
          · exact leaves_of_same rfl rfl (.refl s) rfl (by simp)
        · rw [if_neg hBoth]
          split
          · exact handleSequenced_leaves s _ _
          · exact leaves_of_same rfl rfl (.refl s) rfl (by simp)
    | array items => exact leaves_of_same rfl rfl (.refl s) rfl (by simp [handleFrame])
    | null | bool _ | number _ | string _ =>
      exact leaves_of_same rfl rfl (.refl s) rfl (by simp [handleFrame])

theorem handleAuth_leaves (s : SignetHandler) (socket : Nat) (raw : Option Json) :
    LeavesRequests s (handleAuth s socket raw) := by
  have hSettled : SocketsKept s (settleAuth s socket) := .modify grows_settleAuth socket rfl
  unfold handleAuth
  cases readAuth raw with
  | invalid =>
    refine LeavesRequests.of_same (t := clearAuthTimeout s socket) ?_ rfl rfl
      (.modify grows_clearAuthTimeout socket rfl)
    exact (setState_leaves _ _).andThen_right (resolve_leaves _ _ _)
  | authenticated info =>
    refine LeavesRequests.of_same (t := { startHeartbeat { settleAuth s socket with
      credentialInfo := some info } with attempt := 0 }) ?_ rfl rfl hSettled
    exact (setState_leaves _ _).andThen_right (resolve_leaves _ _ _)
  | credentialMissing => exact leaves_of_same rfl rfl hSettled rfl (by simp)
  | authError message code =>
    refine LeavesRequests.of_same (t := settleAuth s socket) ?_ rfl rfl hSettled
    exact (setState_leaves _ _).andThen_right (resolve_leaves _ _ _)
  | threw => exact leaves_of_same rfl rfl (.refl s) rfl (by simp)
  | other => exact leaves_of_same rfl rfl (.refl s) rfl (by simp)

section

variable (config : SignetHandlerConfig) (s : SignetHandler)

theorem onOpen_leaves (socket : Nat) : LeavesRequests s (onOpen config s socket) :=
  (setState_leaves s _).andThen_right (leaves_of_same rfl rfl (.refl _) rfl (by simp))

theorem onAuthTimeout_leaves (socket : Nat) (entry : Socket) :
    LeavesRequests s (onAuthTimeout config s socket entry) := by
  unfold onAuthTimeout
  split
  · exact leaves_of_same rfl rfl (.refl s) rfl (by simp)
  · refine LeavesRequests.of_same (t := settleAuth s socket) ?_ rfl rfl
      (.modify grows_settleAuth socket rfl)
    refine (closeSocket_leaves _ _ _ _).andThen_right ?_
    exact (setState_leaves _ _).andThen_right (resolve_leaves _ _ _)

theorem handleConnectionDead_leaves : LeavesRequests s (handleConnectionDead config s) := by
  obtain ⟨hTracker, hRequests, hSockets⟩ := stopHeartbeat_same s
  unfold handleConnectionDead
  split
  · exact (closeSocket_leaves _ _ none "").of_same hTracker hRequests (.of_eq hSockets)
  · exact (attemptReconnect_leaves config _).of_same hTracker hRequests (.of_eq hSockets)

theorem onClose_auth (socket : Nat) (hPhase : entry.authHandled = false) (code : Nat)
    (reason : String) :
    LeavesRequests s (onClose config s socket entry code reason) ∨
      RequestTurn s (s.requestTracker.rejectAll (InternalError.create "Connection lost")).1
        (s.requestTracker.rejectAll (InternalError.create "Connection lost")).2
        (onClose config s socket entry code reason) := by
  obtain ⟨hTracker, hRequests, hSockets⟩ := stopHeartbeat_same s
  have hKept : SocketsKept s (settleAuth (stopHeartbeat s) socket) := by
    refine .modify grows_settleAuth socket ?_
    show (stopHeartbeat s).sockets.modify socket _ = _
    rw [hSockets]
  unfold onClose
  dsimp only
  rw [if_pos hPhase]
  split
  · left
    refine LeavesRequests.of_same (t := settleAuth (stopHeartbeat s) socket) ?_ hTracker hRequests
      hKept
    exact (setState_leaves _ _).andThen_right (resolve_leaves _ _ _)
  · right
    refine RequestTurn.of_same (t := settleAuth (stopHeartbeat s) socket) ?_ hRequests hKept
    rw [← hTracker]
    refine (rejectAll_turn _ _).andThen_right ?_
    exact (attemptReconnect_leaves config _).andThen_right (resolve_leaves _ _ _)

theorem onClose_rejects (socket : Nat) (hPhase : entry.authHandled = true) (code : Nat)
    (reason : String) :
    RequestTurn s (s.requestTracker.rejectAll (InternalError.create "Connection closed")).1
      (s.requestTracker.rejectAll (InternalError.create "Connection closed")).2
      (onClose config s socket entry code reason) := by
  obtain ⟨hTracker, hRequests, hSockets⟩ := stopHeartbeat_same s
  have hNotFalse : ¬entry.authHandled = false := by
    rw [hPhase]
    exact nofun
  unfold onClose
  dsimp only
  rw [if_neg hNotFalse]
  refine RequestTurn.of_same (t := { stopHeartbeat s with ws := none }) ?_ hRequests
    (.of_eq hSockets)
  rw [← hTracker]
  refine (rejectAll_turn _ _).andThen_right ?_
  split
  · exact (setState_leaves _ _).andThen_right (completeStream_leaves _)
  · split
    · exact leaves_of_same rfl rfl (.refl _) rfl (by simp)
    · exact attemptReconnect_leaves config _

end

theorem closeCurrent_leaves (s : SignetHandler) : LeavesRequests s (closeCurrent s) := by
  unfold closeCurrent
  split
  · refine (closeSocket_leaves s _ _ _).andThen_right ?_
    exact leaves_of_same rfl rfl (.of_eq rfl) rfl (by simp)
  · exact leaves_of_same rfl rfl (.refl s) rfl (by simp)

theorem disconnect_rejects (s : SignetHandler) :
    RequestTurn s (s.requestTracker.rejectAll (InternalError.create "Disconnecting")).1
      (s.requestTracker.rejectAll (InternalError.create "Disconnecting")).2 (disconnect s) := by
  obtain ⟨hTracker, hRequests, hSockets⟩ := stopHeartbeat_same s
  unfold disconnect
  refine RequestTurn.of_same (t := stopHeartbeat s) ?_ hRequests (.of_eq hSockets)
  rw [← hTracker]
  refine (rejectAll_turn _ _).andThen_right ?_
  refine (closeCurrent_leaves _).andThen_right ?_
  refine (setState_leaves _ _).andThen_right ?_
  refine (completeStream_leaves _).andThen_right ?_
  exact leaves_of_same rfl rfl (.refl _) rfl (by simp)

/-! ## One step -/

/-- The tracker holds exactly these requests, and their sockets are live and past their auth
phase. -/
structure Awaits (s : SignetHandler) (awaited : List TrackedRequest) : Prop where
  pending : s.requestTracker.pending.Lists TrackedRequest.requestId TrackedRequest.call awaited
  timers : s.requestTracker.timers.Lists TrackedRequest.call TrackedRequest.requestId awaited
  served : ∀ r ∈ awaited, ∃ entry, s.sockets.get r.socket = some entry ∧ entry.closed = false ∧
    entry.authHandled = true

/-- A step settles the requests it has something for, and nothing else but one that it refuses;
what it has nothing for is awaited on, and so is what it tracks. -/
structure AwaitsStep (config : SignetHandlerConfig) (s : SignetHandler) (label : HandlerLabel)
    (awaited : List TrackedRequest) (turn : HandlerTurn) : Prop where
  awaits : Awaits turn.1
    ((awaited.filter fun r => (settledBy config s label r).isNone) ++ (trackedBy s label).toList)
  settled : settledIn turn.2 =
    (awaited.filterMap fun r => (settledBy config s label r).map fun result => (r.call, result)) ++
      refusedBy s label
  none_thrown : ∀ call, .requestThrew call ∉ turn.2
  requests : turn.1.requests = s.requests + (sentIdOf label).toList.length

variable {label : HandlerLabel} {turn : HandlerTurn} {awaited : List TrackedRequest}

theorem refusedBy_of_not_sent (hSent : sentIdOf label = none) : refusedBy s label = [] := by
  unfold refusedBy
  rw [hSent]
  rfl

/-- What a step refuses it sends, and tracks nothing. -/
theorem mem_refusedBy {settled : Nat × RequestResult} (hMem : settled ∈ refusedBy s label) :
    settled.1 = s.requests ∧ (sentIdOf label).isSome = true ∧ trackedBy s label = none := by
  unfold refusedBy at hMem
  split at hMem
  · next hRefused =>
    cases List.mem_singleton.mp hMem
    rw [Bool.and_eq_true, Option.isNone_iff_eq_none] at hRefused
    exact ⟨rfl, hRefused⟩
  · cases hMem

section

variable (hStep : AwaitsStep config s label awaited turn)

include hStep

theorem AwaitsStep.mem_settled {call : Nat} {result : RequestResult}
    (hMem : (call, result) ∈ settledIn turn.2) :
    (∃ r ∈ awaited, r.call = call ∧ settledBy config s label r = some result) ∨
      (call, result) ∈ refusedBy s label := by
  rw [hStep.settled] at hMem
  rcases List.mem_append.mp hMem with hMem | hMem
  · obtain ⟨r, hIn, hResult⟩ := List.mem_filterMap.mp hMem
    obtain ⟨result', hBy, hPair⟩ := Option.map_eq_some_iff.mp hResult
    cases hPair
    exact Or.inl ⟨r, hIn, rfl, hBy⟩
  · exact Or.inr hMem

theorem AwaitsStep.counts (hSent : (sentIdOf label).isSome = true) :
    s.requests < turn.1.requests := by
  obtain ⟨requestId, hSent⟩ := Option.isSome_iff_exists.mp hSent
  rw [hStep.requests, hSent]
  exact Nat.lt_succ_self s.requests

theorem AwaitsStep.requests_le : s.requests ≤ turn.1.requests := by
  rw [hStep.requests]
  exact Nat.le_add_right _ _

end

theorem Awaits.served_of_kept (hAwaits : Awaits s awaited) (hKept : SocketsKept s t)
    {r : TrackedRequest} (hMem : r ∈ awaited) :
    ∃ entry, t.sockets.get r.socket = some entry ∧ entry.closed = false ∧
      entry.authHandled = true := by
  obtain ⟨entry, hGet, hClosed, hAuth⟩ := hAwaits.served r hMem
  obtain ⟨after, hAfter, hSame, hHandled⟩ := hKept r.socket entry hGet hAuth
  exact ⟨after, hAfter, hSame.trans hClosed, hHandled⟩

theorem awaited_stay (hNone : ∀ r ∈ awaited, settledBy config s label r = none) :
    (awaited.filter fun r => (settledBy config s label r).isNone) = awaited := by
  rw [List.filter_eq_self]
  intro r hMem
  rw [hNone r hMem]
  rfl

theorem awaited_settle_none (hNone : ∀ r ∈ awaited, settledBy config s label r = none) :
    (awaited.filterMap fun r =>
      (settledBy config s label r).map fun result => (r.call, result)) = [] := by
  rw [List.filterMap_eq_nil_iff]
  intro r hMem
  rw [hNone r hMem]
  rfl

theorem leaves_step (hAwaits : Awaits s awaited) (hTurn : LeavesRequests s turn)
    (hNone : ∀ r ∈ awaited, settledBy config s label r = none)
    (hTracked : trackedBy s label = none) (hSent : sentIdOf label = none) :
    AwaitsStep config s label awaited turn := by
  constructor
  · rw [awaited_stay hNone, hTracked, Option.toList_none, List.append_nil]
    refine ⟨?_, ?_, ?_⟩
    · rw [hTurn.tracker]
      exact hAwaits.pending
    · rw [hTurn.tracker]
      exact hAwaits.timers
    · intro r hMem
      exact hAwaits.served_of_kept hTurn.sockets hMem
  · rw [hTurn.settled, refusedBy_of_not_sent hSent, awaited_settle_none hNone]
    rfl
  · exact hTurn.none_thrown
  · rw [hTurn.requests, hSent]
    rfl

theorem rejects_step (hAwaits : Awaits s awaited) {error : SignetError}
    (hAll : ∀ r ∈ awaited, settledBy config s label r = some (.error error))
    (hTracked : trackedBy s label = none) (hSent : sentIdOf label = none)
    (hTracker : turn.1.requestTracker = (s.requestTracker.rejectAll error).1)
    (hSettled : settledIn turn.2 = (s.requestTracker.rejectAll error).2)
    (hThrown : ∀ call, .requestThrew call ∉ turn.2) (hRequests : turn.1.requests = s.requests) :
    AwaitsStep config s label awaited turn := by
  have hNobody : (awaited.filter fun r => (settledBy config s label r).isNone) = [] := by
    rw [List.filter_eq_nil_iff]
    intro r hMem
    rw [hAll r hMem]
    exact nofun
  have hValues := hAwaits.pending.values
  constructor
  · rw [hNobody, hTracked, Option.toList_none, List.append_nil]
    refine ⟨?_, ?_, nofun⟩
    · rw [hTracker]
      exact AssocMap.lists_empty
    · rw [hTracker]
      show (s.requestTracker.pending.values.foldl AssocMap.delete
        s.requestTracker.timers).Lists _ _ []
      rw [hValues]
      have hDeleted := hAwaits.timers.foldl_delete (awaited.map TrackedRequest.call)
      have hRest : (awaited.filter fun r => r.call ∉ awaited.map TrackedRequest.call) = [] := by
        rw [List.filter_eq_nil_iff]
        intro r hMem hNot
        exact of_decide_eq_true hNot (List.mem_map_of_mem hMem)
      rw [hRest] at hDeleted
      exact hDeleted
  · rw [hSettled, refusedBy_of_not_sent hSent, List.append_nil]
    have hEveryone : (s.requestTracker.rejectAll error).2 =
        awaited.map fun r => (r.call, .error error) := by
      show s.requestTracker.pending.values.map _ = _
      rw [hValues, List.map_map]
      rfl
    have hEach : (awaited.filterMap fun r =>
        (settledBy config s label r).map fun result => (r.call, result)) =
          awaited.filterMap fun r => some (r.call, .error error) := by
      apply List.filterMap_congr
      intro r hMem
      rw [hAll r hMem]
      rfl
    rw [hEveryone, hEach, List.filterMap_eq_map']
  · exact hThrown
  · rw [hRequests, hSent]
    rfl

/-- A step that settles the request with a key, if there is one.  The two maps of the tracker
have it under a key each, and it is the same request. -/
theorem one_step {κ : Type} [DecidableEq κ] (key : TrackedRequest → κ) (k : κ)
    (result : RequestResult) (hAwaits : Awaits s awaited) (hKeys : (awaited.map key).Nodup)
    (hOne : ∀ r, settledBy config s label r = if key r = k then some result else none)
    (hTracked : trackedBy s label = none) (hSent : sentIdOf label = none)
    (hTurn : RequestTurn s tracker settled turn) (hFound : ∀ r ∈ awaited, key r = k →
      tracker = ⟨s.requestTracker.pending.delete r.requestId,
        s.requestTracker.timers.delete r.call⟩ ∧ settled = [(r.call, result)])
    (hMissing : k ∉ awaited.map key → tracker = s.requestTracker ∧ settled = []) :
    AwaitsStep config s label awaited turn := by
  by_cases hMem : k ∈ awaited.map key
  · obtain ⟨r, hIn, rfl⟩ := List.mem_map.mp hMem
    obtain ⟨hTracker, hSettled⟩ := hFound r hIn rfl
    -- the others are those with another key, under whichever of the three
    have hOthers : ∀ {κ' : Type} [DecidableEq κ'] (key' : TrackedRequest → κ'),
        (awaited.map key').Nodup →
        (awaited.filter fun other => (settledBy config s label other).isNone) =
          awaited.filter fun other => key' other ≠ key' r := by
      intro κ' _ key' hNodup
      apply List.filter_congr
      intro other hOther
      rw [hOne]
      by_cases hSame : other = r
      · subst hSame
        simp
      · have hKey : key other ≠ key r := fun hEq => hSame (eq_of_key_eq hKeys hOther hIn hEq)
        have hKey' : key' other ≠ key' r := fun hEq => hSame (eq_of_key_eq hNodup hOther hIn hEq)
        simp [hKey, hKey']
    constructor
    · rw [hTracked, Option.toList_none, List.append_nil]
      refine ⟨?_, ?_, ?_⟩
      · rw [hTurn.tracker, hTracker, hOthers _ hAwaits.pending.nodup]
        exact hAwaits.pending.delete r.requestId
      · rw [hTurn.tracker, hTracker, hOthers _ hAwaits.timers.nodup]
        exact hAwaits.timers.delete r.call
      · intro other hOther
        exact hAwaits.served_of_kept hTurn.sockets (List.mem_filter.mp hOther).1
    · rw [hTurn.settled, hSettled, refusedBy_of_not_sent hSent, List.append_nil]
      have hEach : (awaited.filterMap fun other =>
          (settledBy config s label other).map fun result => (other.call, result)) =
            awaited.filterMap fun other =>
              if key other = key r then some (other.call, result) else none := by
        apply List.filterMap_congr
        intro other _
        rw [hOne]
        split
        · rfl
        · rfl
      rw [hEach]
      exact (filterMap_of_key key hKeys hIn fun other => some (other.call, result)).symm
    · exact hTurn.none_thrown
    · rw [hTurn.requests, hSent]
      rfl
  · obtain ⟨hTracker, hSettled⟩ := hMissing hMem
    rw [hTracker, hSettled] at hTurn
    refine leaves_step hAwaits hTurn ?_ hTracked hSent
    intro r hIn
    rw [hOne, if_neg]
    rintro rfl
    exact hMem (List.mem_map_of_mem hIn)

/-- A request is sent, or refused. -/
theorem send_step (hOne : s.connection.OneSocket) (hAwaits : Awaits s awaited)
    (hCalls : ∀ r ∈ awaited, r.call < s.requests)
    (hFresh : requestId ∉ awaited.map TrackedRequest.requestId) (request : List (String × Json)) :
    AwaitsStep config s (.sendRequest requestId request) awaited
      (sendRequest s requestId request) := by
  have hNone : ∀ r ∈ awaited, settledBy config s (.sendRequest requestId request) r = none :=
    fun _ _ => rfl
  by_cases hGoes : ∃ socket, s.state = .connected ∧ s.ws = some socket
  · obtain ⟨socket, hState, hWs⟩ := hGoes
    -- the socket has been opened, so that sending does not throw
    obtain ⟨present, entry, hPresent, hGet, hClosed, hOpened, hAuth⟩ := hOne.connected hState
    replace hPresent : s.ws = some present := hPresent
    replace hGet : s.sockets.get present = some entry := hGet
    rw [hWs] at hPresent
    cases hPresent
    have hTracked : trackedBy s (.sendRequest requestId request) =
        some ⟨s.requests, requestId, socket⟩ := by
      simp only [trackedBy, hState, hWs]
    have hSends : sendRequest s requestId request =
        ({ s with
          requests := s.requests + 1
          requestTracker := s.requestTracker.track s.requests requestId },
          [.sent socket (.object (setEntry "requestId" (.string requestId) request))]) := by
      simp [sendRequest, hState, hWs, hGet, hOpened]
    rw [hSends]
    constructor
    · rw [awaited_stay hNone, hTracked]
      have hNewCall : s.requests ∉ awaited.map TrackedRequest.call := by
        intro hMem
        obtain ⟨r, hIn, hCall⟩ := List.mem_map.mp hMem
        have hBefore := hCalls r hIn
        omega
      refine ⟨?_, ?_, ?_⟩
      · exact hAwaits.pending.set_fresh ⟨s.requests, requestId, socket⟩ hFresh
      · exact hAwaits.timers.set_fresh ⟨s.requests, requestId, socket⟩ hNewCall
      · intro r hMem
        rcases List.mem_append.mp hMem with hMem | hMem
        · exact hAwaits.served r hMem
        · cases List.mem_singleton.mp hMem
          exact ⟨entry, hGet, hClosed, hAuth⟩
    · rw [awaited_settle_none hNone]
      unfold refusedBy
      rw [hTracked]
      rfl
    · simp
    · rfl
  · have hTracked : trackedBy s (.sendRequest requestId request) = none := by
      unfold trackedBy
      split
      · next hLabel hState hWs => exact absurd ⟨_, hState, hWs⟩ hGoes
      · rfl
    have hRefuses : sendRequest s requestId request =
        ({ s with requests := s.requests + 1 }, [.requestSettled s.requests notConnected]) := by
      unfold sendRequest
      dsimp only
      split
      · next hState hWs => exact absurd ⟨_, hState, hWs⟩ hGoes
      · rfl
    rw [hRefuses]
    constructor
    · rw [awaited_stay hNone, hTracked, Option.toList_none, List.append_nil]
      exact ⟨hAwaits.pending, hAwaits.timers, hAwaits.served⟩
    · rw [awaited_settle_none hNone]
      unfold refusedBy
      rw [hTracked]
      rfl
    · simp
    · rfl

/-- The close event of a socket rejects what has been sent on it: what is awaited has been sent
on the one socket that is live. -/
theorem close_step (hOne : s.connection.OneSocket) (hAwaits : Awaits s awaited) {socket : Nat}
    (hEntry : s.sockets.get socket = some entry) (hClosed : entry.closed = false) (code : Nat)
    (reason : String) :
    AwaitsStep config s (.socketClose socket code reason) awaited
      (onClose config
        { s with sockets := s.sockets.modify socket fun entry => { entry with closed := true } }
        socket entry code reason) := by
  have hSame : ∀ r ∈ awaited, r.socket = socket ∧ entry.authHandled = true := by
    intro r hMem
    obtain ⟨other, hGet, hLive, hAuth⟩ := hAwaits.served r hMem
    have hSocket : r.socket = socket :=
      hOne.single r.socket socket ⟨other, hGet, hLive⟩ ⟨entry, hEntry, hClosed⟩
    rw [hSocket, hEntry] at hGet
    cases hGet
    exact ⟨hSocket, hAuth⟩
  cases hPhase : entry.authHandled with
  | true =>
    have hTurn := onClose_rejects config
      { s with sockets := s.sockets.modify socket fun entry => { entry with closed := true } }
      socket hPhase code reason
    refine rejects_step hAwaits ?_ rfl rfl hTurn.tracker hTurn.settled hTurn.none_thrown
      hTurn.requests
    intro r hMem
    exact if_pos (hSame r hMem).1
  | false =>
    -- nothing is awaited in the auth phase
    have hEmpty : awaited = [] := by
      rw [List.eq_nil_iff_forall_not_mem]
      intro r hMem
      have hAuth := (hSame r hMem).2
      rw [hPhase] at hAuth
      cases hAuth
    subst hEmpty
    rcases onClose_auth config
      { s with sockets := s.sockets.modify socket fun entry => { entry with closed := true } }
      socket hPhase code reason with hTurn | hTurn
    · refine ⟨⟨?_, ?_, nofun⟩, hTurn.settled, hTurn.none_thrown, hTurn.requests⟩
      · rw [hTurn.tracker]
        exact hAwaits.pending
      · rw [hTurn.tracker]
        exact hAwaits.timers
    · exact rejects_step hAwaits nofun rfl rfl hTurn.tracker hTurn.settled hTurn.none_thrown
        hTurn.requests

/-- A message settles the request it is a response to. -/
theorem message_step (hAwaits : Awaits s awaited) {socket : Nat}
    (hEntry : s.sockets.get socket = some entry) (raw : Option Json) :
    AwaitsStep config s (.socketMessage socket raw) awaited
      (if entry.authHandled then handleFrame s raw else handleAuth s socket raw) := by
  cases hPhase : entry.authHandled with
  | false =>
    have hIn : inAuthPhase s socket = true := by
      simp [inAuthPhase, hEntry, hPhase]
    refine leaves_step hAwaits (handleAuth_leaves s socket raw) ?_ rfl rfl
    intro r _
    simp only [settledBy, hIn, if_true]
  | true =>
    have hPast : inAuthPhase s socket = false := by
      simp [inAuthPhase, hEntry, hPhase]
    rw [if_pos rfl]
    cases hResponse : responseOf raw with
    | none =>
      refine leaves_step hAwaits (handleFrame_leaves hResponse s) ?_ rfl rfl
      intro r _
      simp [settledBy, hPast, hResponse]
    | some response =>
      obtain ⟨requestId, result⟩ := response
      rw [handleFrame_response hResponse]
      refine one_step TrackedRequest.requestId requestId result hAwaits hAwaits.pending.nodup ?_
        rfl rfl (resolveRequest_turn s requestId result) ?_ ?_
      · intro r
        simp [settledBy, hPast, hResponse]
      · rintro r hMem rfl
        have hGet := hAwaits.pending.get hMem
        simp [RequestTracker.resolve, hGet]
      · intro hNone
        have hGet := hAwaits.pending.get_none hNone
        simp [RequestTracker.resolve, hGet]

theorem timeout_step (hAwaits : Awaits s awaited) {request : Nat}
    (hStep : handlerStep config s (.requestTimeout request) = some turn) :
    AwaitsStep config s (.requestTimeout request) awaited turn := by
  obtain ⟨⟨tracker, settled⟩, hExpire, hTurn⟩ := Option.bind_eq_some_iff.mp hStep
  cases hTurn
  obtain ⟨requestId, hTimer, hSettled⟩ := Option.map_eq_some_iff.mp hExpire
  obtain ⟨armed, hArmed, rfl, rfl⟩ := hAwaits.timers.of_get hTimer
  cases hSettled
  refine one_step TrackedRequest.call armed.call _ hAwaits hAwaits.timers.nodup (fun _ => rfl) rfl
    rfl ⟨rfl, rfl, settledIn_map [(armed.call, _)], by simp, .of_eq rfl⟩ ?_ ?_
  · intro r hMem hCall
    cases eq_of_key_eq hAwaits.timers.nodup hMem hArmed hCall
    exact ⟨rfl, rfl⟩
  · intro hNone
    exact absurd (List.mem_map_of_mem hArmed) hNone

/-- **What a step does to the requests.** -/
theorem awaits_handlerStep (hOne : s.connection.OneSocket) (hAwaits : Awaits s awaited)
    (hCalls : ∀ r ∈ awaited, r.call < s.requests)
    (hFresh : ∀ requestId, sentIdOf label = some requestId →
      requestId ∉ awaited.map TrackedRequest.requestId)
    (hStep : handlerStep config s label = some turn) :
    AwaitsStep config s label awaited turn := by
  cases label with
  | connect opens =>
    cases hStep
    exact leaves_step hAwaits (connect_leaves config s opens) (fun _ _ => rfl) rfl rfl
  | disconnect =>
    cases hStep
    have hTurn := disconnect_rejects s
    exact rejects_step hAwaits (fun _ _ => rfl) rfl rfl hTurn.tracker hTurn.settled
      hTurn.none_thrown hTurn.requests
  | next =>
    cases hStep
    exact leaves_step hAwaits (nextEvent_leaves s) (fun _ _ => rfl) rfl rfl
  | sendRequest requestId request =>
    cases hStep
    exact send_step hOne hAwaits hCalls (hFresh requestId rfl) request
  | socketOpen socket =>
    obtain ⟨entry, -, hStep⟩ := Option.bind_eq_some_iff.mp hStep
    split at hStep
    · cases hStep
      refine leaves_step hAwaits ?_ (fun _ _ => rfl) rfl rfl
      exact (onOpen_leaves config _ socket).of_same rfl rfl (.modify grows_opened socket rfl)
    · cases hStep
  | socketMessage socket raw =>
    obtain ⟨entry, hEntry, hStep⟩ := Option.bind_eq_some_iff.mp hStep
    split at hStep
    · cases hStep
      exact message_step hAwaits hEntry raw
    · cases hStep
  | socketClose socket code reason =>
    obtain ⟨entry, hEntry, hStep⟩ := Option.bind_eq_some_iff.mp hStep
    split at hStep
    · cases hStep
    · next hClosed =>
      cases hStep
      exact close_step hOne hAwaits hEntry ((Bool.not_eq_true _).mp hClosed) code reason
  | authTimeout socket =>
    obtain ⟨entry, -, hStep⟩ := Option.bind_eq_some_iff.mp hStep
    split at hStep
    · cases hStep
      refine leaves_step hAwaits ?_ (fun _ _ => rfl) rfl rfl
      exact (onAuthTimeout_leaves config _ socket entry).of_same rfl rfl
        (.modify grows_clearAuthTimeout socket rfl)
    · cases hStep
  | reconnectTimer opens =>
    simp only [handlerStep] at hStep
    split at hStep
    · cases hStep
    · cases hStep
      refine leaves_step hAwaits ?_ (fun _ _ => rfl) rfl rfl
      split
      · exact (connectInternal_leaves config _ none opens).of_same rfl rfl (.of_eq rfl)
      · exact leaves_of_same rfl rfl (.of_eq rfl) rfl (by simp)
  | rejected =>
    simp only [handlerStep] at hStep
    split at hStep
    · cases hStep
    · cases hStep
      refine leaves_step hAwaits ?_ (fun _ _ => rfl) rfl rfl
      exact (attemptReconnect_leaves config _).of_same rfl rfl (.of_eq rfl)
  | heartbeatDead monitor =>
    obtain ⟨entry, -, hStep⟩ := Option.bind_eq_some_iff.mp hStep
    split at hStep
    · cases hStep
      refine leaves_step hAwaits ?_ (fun _ _ => rfl) rfl rfl
      exact (handleConnectionDead_leaves config _).of_same rfl rfl (.of_eq rfl)
    · cases hStep
  | requestTimeout request => exact timeout_step hAwaits hStep

/-! ## Every run -/

variable {h : List HandlerOccurrence} {r : TrackedRequest}

theorem trackedBy_eq_some (hTracked : trackedBy s label = some r) :
    r.call = s.requests ∧ sentIdOf label = some r.requestId := by
  unfold trackedBy at hTracked
  split at hTracked
  · cases hTracked
    exact ⟨rfl, rfl⟩
  · cases hTracked

theorem settlementsOf_snoc (call : Nat) (h : List HandlerOccurrence) (o : HandlerOccurrence) :
    settlementsOf call (h ++ [o]) = settlementsOf call h ++ settlementsIn call o.out := by
  unfold settlementsOf settlementsIn
  rw [outputs_append, outputs_singleton, settledIn_append, List.filterMap_append]

section

variable (h : List HandlerOccurrence) (o : HandlerOccurrence)

theorem trackedRequests_snoc :
    trackedRequests (h ++ [o]) = trackedRequests h ++ (trackedBy o.pre o.label).toList := by
  unfold trackedRequests
  rw [List.filterMap_append]
  congr 1

theorem sentIds_snoc : sentIds (h ++ [o]) = sentIds h ++ (sentIdOf o.label).toList := by
  unfold sentIds
  rw [List.filterMap_append]
  congr 1

end

theorem mem_trackedRequests {o : HandlerOccurrence} (hMem : o ∈ h)
    (hTracked : trackedBy o.pre o.label = some r) : r ∈ trackedRequests h :=
  List.mem_filterMap.mpr ⟨o, hMem, hTracked⟩

/-- What holds of the requests of a run, up to now. -/
structure Settling (config : SignetHandlerConfig) (h : List HandlerOccurrence)
    (s : SignetHandler) : Prop where
  awaits : Awaits s (unsettledRequests h)
  calls : ∀ r ∈ trackedRequests h, r.call < s.requests
  settledCalls : ∀ settled ∈ settledIn (outputs h), settled.1 < s.requests
  distinct : ((trackedRequests h).map TrackedRequest.call).Nodup
  ids : ∀ r ∈ trackedRequests h, r.requestId ∈ sentIds h
  none_thrown : ∀ call, .requestThrew call ∉ outputs h
  /-- A message settles nothing but the request it is a response to. -/
  responses : ∀ o ∈ h, ∀ socket raw, o.label = .socketMessage socket raw →
    ∀ call result, .requestSettled call result ∈ o.out →
      ∃ r ∈ trackedRequests h, r.call = call ∧ responseOf raw = some (r.requestId, result)
  /-- A tracked request is settled with the first that comes for it. -/
  first : ∀ h₁ o h₂ r, h = h₁ ++ o :: h₂ → trackedBy o.pre o.label = some r →
    settlementsOf r.call h = (h₂.findSome? fun o => settledBy config o.pre o.label r).toList

section

variable {out : List HandlerObservation}

section

variable (hSettling : Settling config h s)
  (hStep : AwaitsStep config s label (unsettledRequests h) (t, out))

include hSettling hStep

theorem Settling.settlementsIn_old (hTracked : r ∈ trackedRequests h) :
    settlementsIn r.call out =
      if r ∈ unsettledRequests h then (settledBy config s label r).toList else [] := by
  have hCall := hSettling.calls r hTracked
  have hRefused : ((refusedBy s label).filterMap fun settled =>
      if settled.1 = r.call then some settled.2 else none) = [] := by
    rw [List.filterMap_eq_nil_iff]
    intro settled hMem
    obtain ⟨hNow, -⟩ := mem_refusedBy hMem
    rw [if_neg]
    omega
  have hEach : (fun other : TrackedRequest =>
      ((settledBy config s label other).map fun result => (other.call, result)).bind fun settled =>
        if settled.1 = r.call then some settled.2 else none) =
          fun other => if other.call = r.call then settledBy config s label other else none := by
    funext other
    cases settledBy config s label other with
    | none => simp
    | some result => simp
  have hSettled : settledIn out = _ := hStep.settled
  unfold settlementsIn
  rw [hSettled, List.filterMap_append, hRefused, List.append_nil, List.filterMap_filterMap, hEach]
  split
  · next hMem =>
    exact filterMap_of_key TrackedRequest.call hSettling.awaits.timers.nodup hMem _
  · next hNot =>
    apply filterMap_of_no_key
    intro hMem
    obtain ⟨other, hOther, hSame⟩ := List.mem_map.mp hMem
    cases eq_of_key_eq hSettling.distinct (List.mem_filter.mp hOther).1 hTracked hSame
    exact hNot hOther

theorem Settling.settlementsIn_new (hTracked : trackedBy s label = some r) :
    settlementsOf r.call h = [] ∧ settlementsIn r.call out = [] := by
  obtain ⟨hCall, -⟩ := trackedBy_eq_some hTracked
  constructor
  · unfold settlementsOf settlementsIn
    rw [List.filterMap_eq_nil_iff]
    intro settled hMem
    have hBefore := hSettling.settledCalls settled hMem
    rw [if_neg]
    omega
  · unfold settlementsIn
    rw [List.filterMap_eq_nil_iff]
    rintro ⟨call, result⟩ hMem
    rcases hStep.mem_settled hMem with ⟨other, hOther, hSame, -⟩ | hRefused
    · have hBefore := hSettling.calls other (List.mem_filter.mp hOther).1
      rw [if_neg]
      show ¬call = r.call
      omega
    · obtain ⟨-, -, hNone⟩ := mem_refusedBy hRefused
      rw [hTracked] at hNone
      cases hNone

theorem Settling.unsettledRequests_snoc :
    unsettledRequests (h ++ [⟨s, label, out⟩]) =
      ((unsettledRequests h).filter fun r => (settledBy config s label r).isNone) ++
        (trackedBy s label).toList := by
  conv_lhs => unfold unsettledRequests
  rw [trackedRequests_snoc, List.filter_append]
  congr 1
  · conv_rhs => unfold unsettledRequests
    rw [List.filter_filter]
    apply List.filter_congr
    intro r hMem
    rw [settlementsOf_snoc, hSettling.settlementsIn_old hStep hMem]
    cases hEmpty : (settlementsOf r.call h).isEmpty with
    | true =>
      have hIn : r ∈ unsettledRequests h := List.mem_filter.mpr ⟨hMem, hEmpty⟩
      rw [if_pos hIn, List.isEmpty_iff.mp hEmpty, List.nil_append, Bool.and_true]
      cases settledBy config s label r with
      | none => rfl
      | some result => rfl
    | false =>
      rw [Bool.and_false]
      cases hList : settlementsOf r.call h with
      | nil =>
        rw [hList] at hEmpty
        cases hEmpty
      | cons result rest => rfl
  · rw [List.filter_eq_self]
    intro r hMem
    rw [Option.mem_toList] at hMem
    obtain ⟨hBefore, hNow⟩ := hSettling.settlementsIn_new hStep hMem
    rw [settlementsOf_snoc, hBefore, hNow]
    rfl

theorem Settling.calls_snoc :
    ∀ r ∈ trackedRequests (h ++ [⟨s, label, out⟩]), r.call < t.requests := by
  intro r hMem
  have hLater : s.requests ≤ t.requests := hStep.requests_le
  rw [trackedRequests_snoc, List.mem_append, Option.mem_toList] at hMem
  rcases hMem with hMem | hTracked
  · have hBefore := hSettling.calls r hMem
    omega
  · obtain ⟨hCall, hSent⟩ := trackedBy_eq_some hTracked
    rw [hCall]
    exact hStep.counts (Option.isSome_of_eq_some hSent)

theorem Settling.settledCalls_snoc :
    ∀ settled ∈ settledIn (outputs (h ++ [⟨s, label, out⟩])), settled.1 < t.requests := by
  rintro ⟨call, result⟩ hMem
  have hLater : s.requests ≤ t.requests := hStep.requests_le
  rw [outputs_append, outputs_singleton, settledIn_append] at hMem
  rcases List.mem_append.mp hMem with hMem | hMem
  · exact Nat.lt_of_lt_of_le (hSettling.settledCalls _ hMem) hLater
  · rcases hStep.mem_settled hMem with ⟨r, hIn, rfl, -⟩ | hRefused
    · exact Nat.lt_of_lt_of_le (hSettling.calls r (List.mem_filter.mp hIn).1) hLater
    · obtain ⟨hNow, hSent, -⟩ := mem_refusedBy hRefused
      rw [hNow]
      exact hStep.counts hSent

end

/-- The request that a step tracks is a new one. -/
theorem Settling.distinct_snoc (hSettling : Settling config h s) :
    ((trackedRequests (h ++ [⟨s, label, out⟩])).map TrackedRequest.call).Nodup := by
  rw [trackedRequests_snoc, List.map_append]
  cases hTracked : trackedBy s label with
  | none =>
    rw [Option.toList_none, List.map_nil, List.append_nil]
    exact hSettling.distinct
  | some r =>
    rw [Option.toList_some, List.map_singleton, List.nodup_append]
    refine ⟨hSettling.distinct, List.nodup_singleton _, ?_⟩
    intro a hA b hB hEq
    obtain ⟨other, hOther, rfl⟩ := List.mem_map.mp hA
    cases List.mem_singleton.mp hB
    have hBefore := hSettling.calls other hOther
    obtain ⟨hCall, -⟩ := trackedBy_eq_some hTracked
    omega

theorem Settling.ids_snoc (hSettling : Settling config h s) :
    ∀ r ∈ trackedRequests (h ++ [⟨s, label, out⟩]),
      r.requestId ∈ sentIds (h ++ [⟨s, label, out⟩]) := by
  intro r hMem
  rw [trackedRequests_snoc, List.mem_append, Option.mem_toList] at hMem
  rw [sentIds_snoc, List.mem_append, Option.mem_toList]
  rcases hMem with hMem | hTracked
  · exact Or.inl (hSettling.ids r hMem)
  · exact Or.inr (trackedBy_eq_some hTracked).2

theorem responseOf_of_settledBy {socket : Nat} {raw : Option Json} {result : RequestResult}
    (hBy : settledBy config s (.socketMessage socket raw) r = some result) :
    responseOf raw = some (r.requestId, result) := by
  simp only [settledBy] at hBy
  split at hBy
  · cases hBy
  · obtain ⟨response, hResponse, hSame⟩ := Option.bind_eq_some_iff.mp hBy
    split at hSame
    · next hId =>
      cases hSame
      rw [hResponse, hId]
    · cases hSame

section

variable (hSettling : Settling config h s)
  (hStep : AwaitsStep config s label (unsettledRequests h) (t, out))

include hSettling hStep

theorem Settling.responses_snoc :
    ∀ o ∈ h ++ [⟨s, label, out⟩], ∀ socket raw, o.label = .socketMessage socket raw →
      ∀ call result, .requestSettled call result ∈ o.out →
        ∃ r ∈ trackedRequests (h ++ [⟨s, label, out⟩]),
          r.call = call ∧ responseOf raw = some (r.requestId, result) := by
  intro o hMem socket raw hLabel call result hOut
  rw [trackedRequests_snoc]
  rcases List.mem_append.mp hMem with hMem | hMem
  · obtain ⟨r, hIn, hFacts⟩ := hSettling.responses o hMem socket raw hLabel call result hOut
    exact ⟨r, List.mem_append_left _ hIn, hFacts⟩
  · cases List.mem_singleton.mp hMem
    replace hLabel : label = .socketMessage socket raw := hLabel
    replace hOut : .requestSettled call result ∈ out := hOut
    subst hLabel
    have hIn : (call, result) ∈ settledIn out := List.mem_filterMap.mpr ⟨_, hOut, rfl⟩
    rcases hStep.mem_settled hIn with ⟨r, hAwaited, hCall, hBy⟩ | hRefused
    · exact ⟨r, List.mem_append_left _ (List.mem_filter.mp hAwaited).1, hCall,
        responseOf_of_settledBy hBy⟩
    · cases hRefused

/-- The first that comes for a request is still the first after a step: either it has come
before, and the request is not awaited any more, or it comes now, if at all. -/
theorem Settling.first_snoc :
    ∀ h₁ o h₂ r, h ++ [⟨s, label, out⟩] = h₁ ++ o :: h₂ → trackedBy o.pre o.label = some r →
      settlementsOf r.call (h ++ [⟨s, label, out⟩]) =
        (h₂.findSome? fun o => settledBy config o.pre o.label r).toList := by
  intro h₁ o h₂ r hSplit hTracked
  rcases List.eq_nil_or_concat h₂ with rfl | ⟨rest, last, rfl⟩
  · obtain ⟨rfl, hLast⟩ := List.append_inj' hSplit rfl
    cases hLast
    obtain ⟨hBefore, hNow⟩ := hSettling.settlementsIn_new hStep hTracked
    rw [settlementsOf_snoc, hBefore, hNow]
    rfl
  · have hCat : h ++ [⟨s, label, out⟩] = (h₁ ++ o :: rest) ++ [last] := by
      simpa using hSplit
    obtain ⟨hEarlier, hLast⟩ := List.append_inj' hCat rfl
    cases hLast
    have hMem : r ∈ trackedRequests h := by
      refine mem_trackedRequests ?_ hTracked
      rw [hEarlier]
      simp
    have hFirst := hSettling.first h₁ o rest r hEarlier hTracked
    rw [settlementsOf_snoc, hSettling.settlementsIn_old hStep hMem, List.concat_eq_append,
      List.findSome?_append]
    cases hFound : rest.findSome? fun o => settledBy config o.pre o.label r with
    | none =>
      -- still awaited: what comes now is the first
      rw [hFound] at hFirst
      have hIn : r ∈ unsettledRequests h :=
        List.mem_filter.mpr ⟨hMem, List.isEmpty_iff.mpr hFirst⟩
      rw [if_pos hIn, hFirst]
      cases hBy : settledBy config s label r with
      | none => simp [hBy]
      | some result => simp [hBy]
    | some result =>
      rw [hFound] at hFirst
      have hNot : r ∉ unsettledRequests h := by
        intro hIn
        have hEmpty := (List.mem_filter.mp hIn).2
        rw [hFirst] at hEmpty
        cases hEmpty
      rw [if_neg hNot, hFirst]
      rfl

end

theorem Settling.step (hSettling : Settling config h s) (hOne : s.connection.OneSocket)
    (hFresh : ∀ requestId, sentIdOf label = some requestId → requestId ∉ sentIds h)
    (hTaken : handlerStep config s label = some (t, out)) :
    Settling config (h ++ [⟨s, label, out⟩]) t := by
  have hUnsettled : ∀ r ∈ unsettledRequests h, r ∈ trackedRequests h :=
    fun r hMem => (List.mem_filter.mp hMem).1
  have hStep : AwaitsStep config s label (unsettledRequests h) (t, out) := by
    refine awaits_handlerStep hOne hSettling.awaits ?_ ?_ hTaken
    · exact fun r hMem => hSettling.calls r (hUnsettled r hMem)
    · intro requestId hSent hMem
      obtain ⟨r, hIn, rfl⟩ := List.mem_map.mp hMem
      exact hFresh r.requestId hSent (hSettling.ids r (hUnsettled r hIn))
  constructor
  · rw [hSettling.unsettledRequests_snoc hStep]
    exact hStep.awaits
  · exact hSettling.calls_snoc hStep
  · exact hSettling.settledCalls_snoc hStep
  · exact hSettling.distinct_snoc
  · exact hSettling.ids_snoc
  · intro call hMem
    rw [outputs_append, outputs_singleton] at hMem
    rcases List.mem_append.mp hMem with hMem | hMem
    · exact hSettling.none_thrown call hMem
    · exact hStep.none_thrown call hMem
  · exact hSettling.responses_snoc hStep
  · exact hSettling.first_snoc hStep

end

theorem settling_init (config : SignetHandlerConfig) : Settling config [] createSignetHandler where
  awaits := ⟨AssocMap.lists_empty, AssocMap.lists_empty, fun _ hMem => absurd hMem List.not_mem_nil⟩
  calls _ hMem := absurd hMem List.not_mem_nil
  settledCalls _ hMem := absurd hMem List.not_mem_nil
  distinct := List.nodup_nil
  ids _ hMem := absurd hMem List.not_mem_nil
  none_thrown _ := List.not_mem_nil
  responses _ hMem := absurd hMem List.not_mem_nil
  first h₁ o h₂ r hSplit := absurd hSplit (by simp)

theorem settling_run (hRun : (handlerMachine config).Runs h s)
    (hInTime : AllMeet NoLateAuth h) (hDistinct : (sentIds h).Nodup) :
    Settling config h s := by
  induction hRun with
  | start => exact settling_init config
  | @step h s t label out hRun' hTaken ih =>
    rw [sentIds_snoc] at hDistinct
    obtain ⟨hEarlier, -, hApart⟩ := List.nodup_append.mp hDistinct
    have hBefore := ((allMeet_snoc _ _ _).mp hInTime).1
    have hSettling := ih hBefore hEarlier
    have hOne := oneSocket_run hRun' hBefore
    refine hSettling.step hOne ?_ hTaken
    intro requestId hSent hMem
    exact hApart requestId hMem requestId (Option.mem_toList.mpr hSent) rfl

/-- **Requests are settled once.**  In every run without late messages of an auth phase, with
distinct request ids: a tracked request is settled with the first of its own response, its
timeout and the rejection of its connection, and only with that; a message settles no request
but the one it is a response to; `pending` is the number of the unsettled requests; the timeout
of each of them can fire; and no call rejects instead. -/
theorem requests_settle_once (config : SignetHandlerConfig) {h : List HandlerOccurrence}
    {s : SignetHandler} (hRun : (handlerMachine config).Runs h s)
    (hInTime : AllMeet NoLateAuth h) (hDistinct : (sentIds h).Nodup) :
    (∀ h₁ o h₂ r, h = h₁ ++ o :: h₂ → trackedBy o.pre o.label = some r →
      settlementsOf r.call h = (h₂.findSome? fun o => settledBy config o.pre o.label r).toList) ∧
    (∀ o ∈ h, ∀ socket raw, o.label = .socketMessage socket raw →
      ∀ call result, .requestSettled call result ∈ o.out →
        ∃ r ∈ trackedRequests h, r.call = call ∧ responseOf raw = some (r.requestId, result)) ∧
    pendingCount s.requestTracker = (unsettledRequests h).length ∧
    (∀ r ∈ unsettledRequests h, (handlerStep config s (.requestTimeout r.call)).isSome = true) ∧
    (∀ call, .requestThrew call ∉ outputs h) := by
  have hSettling := settling_run hRun hInTime hDistinct
  refine ⟨hSettling.first, hSettling.responses, ?_, ?_, hSettling.none_thrown⟩
  · unfold pendingCount
    rw [hSettling.awaits.pending, List.length_map]
  · intro r hMem
    have hTimer := hSettling.awaits.timers.get hMem
    simp [handlerStep, RequestTracker.expire, hTimer]

/-! ## A run on fixed inputs -/

def responseFrame (requestId : String) : Json :=
  .object [("requestId", .string requestId), ("ok", .bool true), ("data", .number 7)]

/-- Of two requests one is answered, twice, and the other loses its connection; a third one is
sent on the next, gets the late answer of the second, and times out. -/
def answersAndLoses : List HandlerLabel :=
  [.connect true, .socketOpen 0, .socketMessage 0 (some authenticatedFrame),
    .sendRequest "r1" [], .sendRequest "r2" [], .socketMessage 0 (some (responseFrame "r1")),
    .socketMessage 0 (some (responseFrame "r1")), .socketClose 0 1006 "", .reconnectTimer true,
    .socketOpen 1, .socketMessage 1 (some authenticatedFrame), .sendRequest "r3" [],
    .socketMessage 1 (some (responseFrame "r2")), .requestTimeout 2]

set_option maxRecDepth 20000 in
theorem answersAndLoses_inTime :
    sampleHandler.Executes answersAndLoses fun h _ =>
      AllMeet NoLateAuth h ∧ (sentIds h).Nodup ∧
        trackedRequests h = [⟨0, "r1", 0⟩, ⟨1, "r2", 0⟩, ⟨2, "r3", 1⟩] ∧
        settledIn (outputs h) =
          [(0, .ok (some (.number 7))), (1, .error (InternalError.create "Connection closed")),
            (2, .error (TimeoutError.create "request" 30000))] := by
  decide

/-- Each is settled with what comes first for it, and `pending` counts none any more. -/
theorem answersAndLoses_settled :
    ∃ h s, h.map Occurrence.label = answersAndLoses ∧ sampleHandler.Runs h s ∧
      settledIn (outputs h) =
        [(0, .ok (some (.number 7))), (1, .error (InternalError.create "Connection closed")),
          (2, .error (TimeoutError.create "request" 30000))] ∧
      pendingCount s.requestTracker = 0 := by
  obtain ⟨h, s, hLabels, hRun, hInTime, hDistinct, hTracked, hSettled⟩ :=
    answersAndLoses_inTime.exists_run
  refine ⟨h, s, hLabels, hRun, hSettled, ?_⟩
  obtain ⟨-, -, hPending, -⟩ := requests_settle_once sampleConfig hRun hInTime hDistinct
  rw [hPending]
  unfold unsettledRequests settlementsOf settlementsIn
  rw [hTracked, hSettled]
  rfl

end Sdk
end Signet
