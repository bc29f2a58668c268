import Signet.Sdk.ClosedTerminal

/-!
# The resume point of the handler

The handler remembers the number of the last sequenced frame and sends it when a socket opens, so
that the signet can go on from there.  Frames come from any socket that is still open, and what
the signet sends again may overlap with what has come already.

* `readSequenced`, `sequencedFrame` — the frame that a step handles.
* `handlerStep_sequenced` — such a step moves the resume point and pushes the event, and no other
  does.
* `DeliversOnce` — what should hold in every run.
* `delivers_once_iff` — exactly when.
-/

namespace Signet
namespace Sdk

open Kit Machine Schemas

/-! ## Sequenced frames -/

/-- The number and the event of a frame that `handleFrame` takes for a sequenced one. -/
def readSequenced (raw : Option Json) : Option (Json × Json) :=
  match raw with
  | some (.object members) =>
    let data := Json.object members
    if data.property "type" = some (.string "backpressure") then none
    else if (data.property "requestId").isSome && (data.property "ok").isSome then none
    else
      match data.property "seq", data.property "event" with
      | some seq, some event => some (seq, event)
      | _, _ => none
  | _ => none

/-- The sequenced frame that a step handles: one that comes after the auth phase of its socket. -/
def sequencedFrame (s : SignetHandler) : HandlerLabel → Option (Json × Json)
  | .socketMessage socket raw => if inAuthPhase s socket then none else readSequenced raw
  | _ => none

/-- What the functions other than `push` make of a stream. -/
def Unpushed (q q' : AsyncQueue Json) : Prop :=
  q' = q ∨ q' = q.complete.1 ∨ q' = q.next.1 ∨ q' = .empty

/-- A turn in which no sequenced frame is handled. -/
structure Unsequenced (s : SignetHandler) (turn : HandlerTurn) : Prop where
  lastSeenSeq : turn.1.lastSeenSeq = s.lastSeenSeq
  eventStream : Unpushed s.eventStream turn.1.eventStream

structure Sequenced (s : SignetHandler) (seq event : Json) (turn : HandlerTurn) : Prop where
  lastSeenSeq : turn.1.lastSeenSeq = some seq
  eventStream : turn.1.eventStream = (s.eventStream.push event).1

variable {config : SignetHandlerConfig} {s : SignetHandler}

/-! ### The resume point after each function -/

section

variable (s : SignetHandler)

@[simp]
theorem setState_lastSeenSeq (newState : HandlerState) :
    (setState s newState).1.lastSeenSeq = s.lastSeenSeq := by
  unfold setState
  split <;> rfl

@[simp]
theorem stopHeartbeat_lastSeenSeq : (stopHeartbeat s).lastSeenSeq = s.lastSeenSeq := by
  unfold stopHeartbeat
  split <;> rfl

@[simp]
theorem recordHeartbeat_lastSeenSeq : (recordHeartbeat s).lastSeenSeq = s.lastSeenSeq := by
  unfold recordHeartbeat
  split <;> rfl

@[simp]
theorem resolve_lastSeenSeq (socket : Nat) (result : Except SignetError Unit) :
    (resolve s socket result).1.lastSeenSeq = s.lastSeenSeq := by
  unfold resolve
  split <;> rfl

@[simp]
theorem rejectAll_lastSeenSeq (error : SignetError) :
    (rejectAll s error).1.lastSeenSeq = s.lastSeenSeq := rfl

@[simp]
theorem completeStream_lastSeenSeq : (completeStream s).1.lastSeenSeq = s.lastSeenSeq := rfl

@[simp]
theorem settleAuth_lastSeenSeq (socket : Nat) :
    (settleAuth s socket).lastSeenSeq = s.lastSeenSeq := rfl

@[simp]
theorem clearAuthTimeout_lastSeenSeq (socket : Nat) :
    (clearAuthTimeout s socket).lastSeenSeq = s.lastSeenSeq := rfl

@[simp]
theorem closeCurrent_lastSeenSeq : (closeCurrent s).1.lastSeenSeq = s.lastSeenSeq := by
  unfold closeCurrent
  split <;> rfl

end

/-! ### The turns -/

variable {label : HandlerLabel} {turn : HandlerTurn} {seq : Json} {a b : Option Json}

/-- A turn that leaves the resume point and the stream. -/
theorem unsequenced_of_same (hSeq : turn.1.lastSeenSeq = s.lastSeenSeq)
    (hStream : turn.1.eventStream = s.eventStream) : Unsequenced s turn :=
  ⟨hSeq, Or.inl hStream⟩

theorem unsequenced_of_complete (hSeq : turn.1.lastSeenSeq = s.lastSeenSeq)
    (hStream : turn.1.eventStream = s.eventStream.complete.1) : Unsequenced s turn :=
  ⟨hSeq, Or.inr (Or.inl hStream)⟩

theorem attemptReconnect_unsequenced (config : SignetHandlerConfig) (s : SignetHandler) :
    Unsequenced s (attemptReconnect config s) := by
  unfold attemptReconnect
  split
  · exact unsequenced_of_complete (by simp) (by simp)
  · split
    · exact unsequenced_of_complete (by simp [emitError]) (by simp [emitError])
    · exact unsequenced_of_same (by simp) (by simp)

theorem connectInternal_unsequenced (config : SignetHandlerConfig) (s : SignetHandler)
    (opener : Option Nat) (opens : Bool) :
    (connectInternal config s opener opens).1.lastSeenSeq = s.lastSeenSeq ∧
      (connectInternal config s opener opens).1.eventStream = s.eventStream := by
  unfold connectInternal
  cases opens with
  | true => simp
  | false => cases opener <;> simp

theorem pushEvent_sequenced {t : SignetHandler} (event : Json) (hSeq : t.lastSeenSeq = some seq)
    (hStream : t.eventStream = s.eventStream) :
    Sequenced s seq event (pushEvent t event) :=
  ⟨hSeq, congrArg (fun stream => (AsyncQueue.push stream event).1) hStream⟩

section

variable (s : SignetHandler)

theorem handleSequenced_sequenced (seq event : Json) :
    Sequenced s seq event (handleSequenced s seq event) := by
  unfold handleSequenced
  dsimp only
  split
  · exact pushEvent_sequenced event (by simp) (by simp)
  · exact pushEvent_sequenced event rfl rfl

theorem handleResponse_unsequenced (data : Json) : Unsequenced s (handleResponse s data) := by
  unfold handleResponse
  split
  · split <;> exact unsequenced_of_same rfl rfl
  · exact unsequenced_of_same rfl rfl

/-- What `handleFrame` does with a frame. -/
theorem handleFrame_cases (raw : Option Json) :
    match readSequenced raw with
    | some (seq, event) => Sequenced s seq event (handleFrame s raw)
    | none => Unsequenced s (handleFrame s raw) := by
  unfold readSequenced handleFrame
  cases raw with
  | none => exact unsequenced_of_same rfl rfl
  | some data =>
    cases data with
    | object members =>
      dsimp only
      -- backpressure first, then responses, then sequenced frames, as the handler asks
      by_cases hType : (Json.object members).property "type" = some (.string "backpressure")
      · simp only [if_pos hType]
        exact unsequenced_of_same rfl rfl
      · by_cases hResponse : ((Json.object members).property "requestId").isSome &&
            ((Json.object members).property "ok").isSome
        · simp only [if_neg hType, if_pos hResponse]
          exact handleResponse_unsequenced s _
        · simp only [if_neg hType, if_neg hResponse]
          cases (Json.object members).property "seq" with
          | none => exact unsequenced_of_same rfl rfl
          | some seq =>
            cases (Json.object members).property "event" with
            | none => exact unsequenced_of_same rfl rfl
            | some event => exact handleSequenced_sequenced s seq event
    | null | bool value | number value | string value | array items =>
      exact unsequenced_of_same rfl rfl

theorem handleAuth_unsequenced (socket : Nat) (raw : Option Json) :
    Unsequenced s (handleAuth s socket raw) := by
  unfold handleAuth
  cases readAuth raw with
  | invalid => exact unsequenced_of_same (by simp) (by simp)
  | authError message code => exact unsequenced_of_same (by simp) (by simp)
  | authenticated info =>
    exact unsequenced_of_same (by simp [startHeartbeat]) (by simp [startHeartbeat])
  | threw => exact unsequenced_of_same rfl rfl
  | credentialMissing => exact unsequenced_of_same rfl rfl
  | other => exact unsequenced_of_same rfl rfl

end

/-- A turn that goes on from a state with the same resume point and stream. -/
theorem Unsequenced.goOn {t : SignetHandler} {turn' : HandlerTurn} (h : Unsequenced t turn)
    (hSeq : t.lastSeenSeq = s.lastSeenSeq) (hStream : t.eventStream = s.eventStream)
    (hSeq' : turn'.1.lastSeenSeq = turn.1.lastSeenSeq)
    (hStream' : turn'.1.eventStream = turn.1.eventStream) : Unsequenced s turn' := by
  refine ⟨hSeq'.trans (h.lastSeenSeq.trans hSeq), ?_⟩
  rw [hStream', ← hStream]
  exact h.eventStream

theorem onClose_unsequenced (config : SignetHandlerConfig) (s : SignetHandler) (socket : Nat)
    (entry : Socket) (code : Nat) (reason : String) :
    Unsequenced s (onClose config s socket entry code reason) := by
  unfold onClose
  dsimp only
  split
  · split
    · exact unsequenced_of_same (by simp) (by simp)
    · have hReconnect := attemptReconnect_unsequenced config
        (rejectAll (settleAuth (stopHeartbeat s) socket) (InternalError.create "Connection lost")).1
      exact hReconnect.goOn (by simp) (by simp) (by simp) (by simp)
  · cases isRetryable code with
    | false => exact unsequenced_of_complete (by simp) (by simp)
    | true =>
      simp only [Bool.true_eq_false, if_false, andThen]
      split
      · exact unsequenced_of_same (by simp) (by simp)
      · have hReconnect := attemptReconnect_unsequenced config
          (rejectAll { stopHeartbeat s with ws := none }
            (InternalError.create "Connection closed")).1
        exact hReconnect.goOn (by simp) (by simp) rfl rfl

/-- **What a step does** with the resume point and the stream. -/
theorem handlerStep_sequenced (hStep : handlerStep config s label = some turn) :
    match sequencedFrame s label with
    | some (seq, event) => Sequenced s seq event turn
    | none => Unsequenced s turn := by
  cases label with
  | connect opens =>
    cases hStep
    have hConnect := fun t => connectInternal_unsequenced config t (some s.connects) opens
    cases hState : s.state with
    | disconnected =>
      -- a fresh connection takes a new stream and keeps the resume point
      simp only [connect, hState]
      exact ⟨(hConnect _).1, Or.inr (Or.inr (Or.inr (hConnect _).2))⟩
    | connecting | authenticating | connected | reconnecting | closed =>
      simp only [connect, hState]
      exact unsequenced_of_same rfl rfl
  | disconnect =>
    cases hStep
    exact unsequenced_of_complete (by simp [disconnect])
      (by simp [disconnect, closeCurrent_eventStream])
  | next =>
    cases hStep
    exact ⟨rfl, Or.inr (Or.inr (Or.inl rfl))⟩
  | sendRequest requestId request =>
    cases hStep
    show Unsequenced s _
    unfold sendRequest
    dsimp only
    split
    · split <;> exact unsequenced_of_same rfl rfl
    · exact unsequenced_of_same rfl rfl
  | socketOpen socket =>
    obtain ⟨entry, -, hStep⟩ := Option.bind_eq_some_iff.mp hStep
    split at hStep
    · cases hStep
      exact unsequenced_of_same (by simp [onOpen]) (by simp [onOpen])
    · cases hStep
  | socketMessage socket raw =>
    obtain ⟨entry, hEntry, hStep⟩ := Option.bind_eq_some_iff.mp hStep
    split at hStep
    · cases hStep
      cases hAuth : entry.authHandled with
      | true =>
        simp only [sequencedFrame, inAuthPhase, hEntry, Option.any_some, hAuth, if_true,
          Bool.not_true, Bool.false_eq_true, if_false]
        exact handleFrame_cases s raw
      | false =>
        simp only [sequencedFrame, inAuthPhase, hEntry, Option.any_some, hAuth, if_true,
          Bool.not_false, Bool.false_eq_true, if_false]
        exact handleAuth_unsequenced s socket raw
    · cases hStep
  | socketClose socket code reason =>
    obtain ⟨entry, -, hStep⟩ := Option.bind_eq_some_iff.mp hStep
    split at hStep
    · cases hStep
    · cases hStep
      -- the socket is marked as closed before its handler runs
      have hClose := onClose_unsequenced config
        { s with sockets := s.sockets.modify socket fun entry => { entry with closed := true } }
        socket entry code reason
      exact ⟨hClose.lastSeenSeq, hClose.eventStream⟩
  | authTimeout socket =>
    obtain ⟨entry, -, hStep⟩ := Option.bind_eq_some_iff.mp hStep
    split at hStep
    · cases hStep
      show Unsequenced s _
      unfold onAuthTimeout
      split
      · exact unsequenced_of_same rfl rfl
      · exact unsequenced_of_same (by simp [closeSocket]) (by simp [closeSocket])
    · cases hStep
  | reconnectTimer opens =>
    simp only [handlerStep] at hStep
    split at hStep
    · cases hStep
    · cases hStep
      show Unsequenced s _
      split
      · have hConnect := connectInternal_unsequenced config
          { s with reconnectTimers := s.reconnectTimers - 1 } none opens
        exact unsequenced_of_same hConnect.1 hConnect.2
      · exact unsequenced_of_same rfl rfl
  | rejected =>
    simp only [handlerStep] at hStep
    split at hStep
    · cases hStep
    · cases hStep
      have hReconnect := attemptReconnect_unsequenced config
        { s with rejections := s.rejections - 1 }
      exact ⟨hReconnect.lastSeenSeq, hReconnect.eventStream⟩
  | heartbeatDead monitor =>
    obtain ⟨entry, -, hStep⟩ := Option.bind_eq_some_iff.mp hStep
    split at hStep
    · cases hStep
      show Unsequenced s _
      unfold handleConnectionDead
      split
      · exact unsequenced_of_same (by simp [closeSocket]) (by simp [closeSocket])
      · exact (attemptReconnect_unsequenced config _).goOn (by simp) (by simp) rfl rfl
    · cases hStep
  | requestTimeout request =>
    obtain ⟨⟨tracker, settled⟩, -, hStep⟩ := Option.bind_eq_some_iff.mp hStep
    cases hStep
    exact unsequenced_of_same rfl rfl

/-! ## Delivery -/

/-- A resume point does not come after another: none is before every number. -/
inductive ResumeLe : Option Json → Option Json → Prop
  | same (a : Option Json) : ResumeLe a a
  | first (n : Int) : ResumeLe none (some (.number n))
  | later {m n : Int} (h : m ≤ n) : ResumeLe (some (.number m)) (some (.number n))

/-- The same of what is sent, where `null` stands for none. -/
inductive SentLe : Json → Json → Prop
  | same (a : Json) : SentLe a a
  | first (n : Int) : SentLe .null (.number n)
  | later {m n : Int} (h : m ≤ n) : SentLe (.number m) (.number n)

/-- The resume point of an auth frame. -/
def sentSeq : HandlerObservation → Option Json
  | .sent _ frame => frame.property "lastSeenSeq"
  | _ => none

/-- The resume point that a step sends. -/
def sentBy (label : HandlerLabel) (out : List HandlerObservation) : List Json :=
  match label with
  | .socketOpen _ => out.filterMap sentSeq
  | _ => []

/-- The resume points that have been sent, in the order in which the sockets opened. -/
def sentSeqs (h : List HandlerOccurrence) : List Json := h.flatMap fun o => sentBy o.label o.out

/-- The numbers of the frames whose events have been pushed, in their order. -/
def pushedSeqs (h : List HandlerOccurrence) : List Json :=
  h.filterMap fun o => (sequencedFrame o.pre o.label).map Prod.fst

/-- Each number is delivered once, and the handler never goes back: neither with what it sends nor
with what it would send next. -/
structure DeliversOnce (h : List HandlerOccurrence) (s : SignetHandler) : Prop where
  resume : (visited h s).Pairwise fun t u => ResumeLe t.lastSeenSeq u.lastSeenSeq
  sent : (sentSeqs h).Pairwise SentLe
  once : (pushedSeqs h).Nodup

/-- The number is after the last one. -/
def isNewer : Option Json → Json → Bool
  | none, .number _ => true
  | some (.number m), .number n => decide (m < n)
  | _, _ => false

/-- A sequenced frame that the step handles is newer than the last one. -/
def NewerFrame (s : SignetHandler) (label : HandlerLabel) : Prop :=
  ((sequencedFrame s label).all fun frame => isNewer s.lastSeenSeq frame.1) = true

instance (s : SignetHandler) (label : HandlerLabel) : Decidable (NewerFrame s label) :=
  inferInstanceAs (Decidable (_ = true))

theorem resumeLe_trans {c : Option Json} (hFirst : ResumeLe a b) (hLater : ResumeLe b c) :
    ResumeLe a c := by
  cases hFirst with
  | same => exact hLater
  | first m =>
    cases hLater with
    | same => exact .first m
    | later h => exact .first _
  | later h =>
    cases hLater with
    | same => exact .later h
    | later h' => exact .later (Int.le_trans h h')

theorem resumeLe_antisymm (hLe : ResumeLe a b) (hGe : ResumeLe b a) :
    a = b := by
  cases hLe with
  | same => rfl
  | first n => cases hGe
  | later h =>
    cases hGe with
    | same => rfl
    | later h' => rw [Int.le_antisymm h h']

/-- A frame that is newer moves the resume point on, and is none that it has passed. -/
theorem isNewer_iff {last : Option Json} :
    isNewer last seq = true ↔ ResumeLe last (some seq) ∧ last ≠ some seq := by
  constructor
  · intro hNewer
    unfold isNewer at hNewer
    split at hNewer
    · exact ⟨.first _, by simp⟩
    · have hLt := of_decide_eq_true hNewer
      refine ⟨.later (Int.le_of_lt hLt), ?_⟩
      intro hEq
      cases hEq
      exact Int.lt_irrefl _ hLt
    · cases hNewer
  · rintro ⟨hLe, hNe⟩
    cases hLe with
    | same => exact absurd rfl hNe
    | first n => rfl
    | @later m n h =>
      refine decide_eq_true (Int.lt_iff_le_and_ne.mpr ⟨h, ?_⟩)
      rintro rfl
      exact hNe rfl

theorem newerFrame_iff :
    NewerFrame s label ↔ ∀ seq event, sequencedFrame s label = some (seq, event) →
      ResumeLe s.lastSeenSeq (some seq) ∧ s.lastSeenSeq ≠ some seq := by
  unfold NewerFrame
  cases sequencedFrame s label with
  | none => simp
  | some frame =>
    obtain ⟨seq, event⟩ := frame
    rw [Option.all_some, isNewer_iff]
    constructor
    · rintro hBoth _ _ ⟨⟩
      exact hBoth
    · intro hAll
      exact hAll seq event rfl

variable {h : List HandlerOccurrence}

/-- What a step does to the resume point. -/
theorem lastSeenSeq_step (hStep : handlerStep config s label = some turn) :
    turn.1.lastSeenSeq = match sequencedFrame s label with
      | some (seq, _) => some seq
      | none => s.lastSeenSeq := by
  have hTurn := handlerStep_sequenced hStep
  split at hTurn
  · exact hTurn.lastSeenSeq
  · exact hTurn.lastSeenSeq

/-- The resume point never goes back exactly where no frame is older than the last one. -/
theorem resume_iff (hRun : (handlerMachine config).Runs h s) :
    ((visited h s).Pairwise fun t u => ResumeLe t.lastSeenSeq u.lastSeenSeq) ↔
      AllMeet (fun s label => ∀ seq event, sequencedFrame s label = some (seq, event) →
        ResumeLe s.lastSeenSeq (some seq)) h := by
  have hAssume : AllMeet (fun _ _ => True) h := fun _ _ => trivial
  have hTrans : ∀ t u v : SignetHandler, ResumeLe t.lastSeenSeq u.lastSeenSeq →
      ResumeLe u.lastSeenSeq v.lastSeenSeq → ResumeLe t.lastSeenSeq v.lastSeenSeq :=
    fun _ _ _ => resumeLe_trans
  refine hRun.pairwise_visited_iff hTrans ?_ hAssume
  intro s label t out _ hStep
  have hSeq : t.lastSeenSeq = _ := lastSeenSeq_step hStep
  rw [hSeq]
  cases hFrame : sequencedFrame s label with
  | none => exact iff_of_true (.same _) fun _ _ hSome => nomatch hSome
  | some frame =>
    obtain ⟨seq, event⟩ := frame
    constructor
    · rintro hLe _ _ ⟨⟩
      exact hLe
    · intro hAll
      exact hAll seq event rfl

theorem resume_pushed (hRun : (handlerMachine config).Runs h s) (hLast : s.lastSeenSeq = some seq) :
    seq ∈ pushedSeqs h := by
  induction hRun generalizing seq with
  | start => cases hLast
  | @step before t t' label out _ hStep ih =>
    rw [pushedSeqs, List.filterMap_append, List.mem_append]
    have hSeq : t'.lastSeenSeq = _ := lastSeenSeq_step hStep
    rw [hSeq] at hLast
    cases hFrame : sequencedFrame t label with
    | none =>
      rw [hFrame] at hLast
      exact Or.inl (ih hLast)
    | some frame =>
      rw [hFrame] at hLast
      cases hLast
      right
      simp [hFrame]

theorem pushedSeqs_snoc (h : List HandlerOccurrence) (o : HandlerOccurrence) :
    pushedSeqs (h ++ [o]) =
      pushedSeqs h ++ ((sequencedFrame o.pre o.label).map Prod.fst).toList := by
  rw [pushedSeqs, List.filterMap_append]
  cases hFrame : sequencedFrame o.pre o.label <;> simp [pushedSeqs, hFrame]

/-- Each number has been delivered once, and the resume point has passed it. -/
structure PassedOnce (h : List HandlerOccurrence) (s : SignetHandler) : Prop where
  once : (pushedSeqs h).Nodup
  passed : ∀ seq ∈ pushedSeqs h, ResumeLe (some seq) s.lastSeenSeq

theorem passed_once (hRun : (handlerMachine config).Runs h s)
    (hNewer : AllMeet NewerFrame h) : PassedOnce h s := by
  refine hRun.invariant ?_ ?_ hNewer
  · exact ⟨List.nodup_nil, fun _ hMem => nomatch hMem⟩
  · intro h s label t out _ _ hBefore hGuard hStep
    have hSeq : t.lastSeenSeq = _ := lastSeenSeq_step hStep
    cases hFrame : sequencedFrame s label with
    | none =>
      have hSame : pushedSeqs (h ++ [⟨s, label, out⟩]) = pushedSeqs h := by
        simp [pushedSeqs_snoc, hFrame]
      rw [hFrame] at hSeq
      refine ⟨hSame ▸ hBefore.once, ?_⟩
      rw [hSame, hSeq]
      exact hBefore.passed
    | some frame =>
      obtain ⟨seq, event⟩ := frame
      have hMore : pushedSeqs (h ++ [⟨s, label, out⟩]) = pushedSeqs h ++ [seq] := by
        simp [pushedSeqs_snoc, hFrame]
      obtain ⟨hLe, hNe⟩ := newerFrame_iff.mp hGuard seq event hFrame
      rw [hFrame] at hSeq
      constructor
      · rw [hMore, List.nodup_append]
        refine ⟨hBefore.once, by simp, ?_⟩
        rintro earlier hEarlier other hOther rfl
        rw [List.mem_singleton] at hOther
        subst hOther
        -- the resume point would be at this frame already
        exact hNe (resumeLe_antisymm hLe (hBefore.passed _ hEarlier))
      · intro earlier hEarlier
        rw [hMore, List.mem_append, List.mem_singleton] at hEarlier
        rw [hSeq]
        rcases hEarlier with hEarlier | rfl
        · exact resumeLe_trans (hBefore.passed earlier hEarlier) hLe
        · exact .same _

/-! ### What is sent -/

def opensSocket : HandlerLabel → Bool
  | .socketOpen _ => true
  | _ => false

theorem sent_onOpen (config : SignetHandlerConfig) (s : SignetHandler) (socket : Nat) :
    (onOpen config s socket).2.filterMap sentSeq = [s.lastSeenSeq.getD .null] := by
  unfold onOpen setState
  by_cases hState : s.state = .authenticating
  · rw [if_pos hState]
    rfl
  · rw [if_neg hState]
    rfl

/-- A socket that opens sends the resume point. -/
theorem sentBy_step (hStep : handlerStep config s label = some turn) :
    sentBy label turn.2 = if opensSocket label then [s.lastSeenSeq.getD .null] else [] := by
  cases label with
  | socketOpen socket =>
    obtain ⟨entry, -, hStep⟩ := Option.bind_eq_some_iff.mp hStep
    split at hStep
    · cases hStep
      exact sent_onOpen config _ socket
    · cases hStep
  | _ => rfl

theorem sentSeqs_eq (hRun : (handlerMachine config).Runs h s) :
    sentSeqs h = (h.filter fun o => opensSocket o.label).map fun o =>
      o.pre.lastSeenSeq.getD .null := by
  have hEach : ∀ o ∈ h, sentBy o.label o.out =
      if opensSocket o.label then [o.pre.lastSeenSeq.getD .null] else [] := by
    intro o ho
    obtain ⟨t, hStep⟩ := hRun.step_of_mem ho
    exact sentBy_step hStep
  rw [sentSeqs, List.flatMap_congr hEach]
  -- the induction is on the history alone
  clear hEach hRun
  induction h with
  | nil => rfl
  | cons o rest ih =>
    rw [List.flatMap_cons, ih]
    cases hOpens : opensSocket o.label <;> simp [hOpens]

theorem sentLe_of_resumeLe (hLe : ResumeLe a b) :
    SentLe (a.getD .null) (b.getD .null) := by
  cases hLe with
  | same => exact .same _
  | first n => exact .first n
  | later h => exact .later h

/-- What is sent never goes back where the resume point does not. -/
theorem sent_of_resume (hRun : (handlerMachine config).Runs h s)
    (hResume : (visited h s).Pairwise fun t u => ResumeLe t.lastSeenSeq u.lastSeenSeq) :
    (sentSeqs h).Pairwise SentLe := by
  rw [sentSeqs_eq hRun, List.pairwise_map]
  rw [visited, List.pairwise_append, List.pairwise_map] at hResume
  have hOpens := hResume.1.filter fun o => opensSocket o.label
  exact hOpens.imp sentLe_of_resumeLe

/-- **Once, and in order.**  In every run each number is delivered once and the resume point never
goes back exactly where every sequenced frame that is handled is newer than the last one. -/
theorem delivers_once_iff (hRun : (handlerMachine config).Runs h s) :
    DeliversOnce h s ↔ AllMeet NewerFrame h := by
  constructor
  · intro hOnce o ho
    refine newerFrame_iff.mpr fun seq event hFrame => ⟨?_, ?_⟩
    · exact (resume_iff hRun).mp hOnce.resume o ho seq event hFrame
    · intro hLast
      obtain ⟨before, after, rfl⟩ := List.append_of_mem ho
      -- the resume point comes from an earlier frame, so its number would come twice
      have hPushed := resume_pushed (hRun.of_append_cons rfl).1 hLast
      have hNodup := hOnce.once
      rw [pushedSeqs, List.filterMap_append, List.nodup_append] at hNodup
      refine hNodup.2.2 seq hPushed seq ?_ rfl
      simp [hFrame]
  · intro hNewer
    have hResume := (resume_iff hRun).mpr fun o ho seq event hFrame =>
      (newerFrame_iff.mp (hNewer o ho) seq event hFrame).1
    exact ⟨hResume, sent_of_resume hRun hResume, (passed_once hRun hNewer).once⟩

/-! ## Runs on fixed inputs -/

def sequenced (seq : Int) : Json :=
  .object [("seq", .number seq), ("event", .object [("type", .string "message.visible")])]

/-- Frames come over two sockets, each newer than the last one. -/
def resumes : List HandlerLabel :=
  [.connect true, .socketOpen 0, .socketMessage 0 (some authenticatedFrame),
    .socketMessage 0 (some (sequenced 1)), .socketMessage 0 (some (sequenced 2)),
    .socketClose 0 1006 "", .reconnectTimer true, .socketOpen 1,
    .socketMessage 1 (some authenticatedFrame), .socketMessage 1 (some (sequenced 3))]

theorem resumes_newer :
    sampleHandler.Executes resumes fun h _ => AllMeet NewerFrame h := by
  decide

theorem resumes_once : ∃ h s, sampleHandler.Runs h s ∧ DeliversOnce h s := by
  obtain ⟨h, s, -, hRun, hNewer⟩ := resumes_newer.exists_run
  exact ⟨h, s, hRun, (delivers_once_iff hRun).mpr hNewer⟩

/-- The frames that come over the second socket have come over the first. -/
def overlaps : List HandlerLabel :=
  [.connect true, .socketOpen 0, .socketMessage 0 (some authenticatedFrame),
    .socketMessage 0 (some (sequenced 1)), .socketMessage 0 (some (sequenced 2)),
    .socketClose 0 1006 "", .reconnectTimer true, .socketOpen 1,
    .socketMessage 1 (some authenticatedFrame), .socketMessage 1 (some (sequenced 1)),
    .socketClose 1 1006 "", .reconnectTimer true, .socketOpen 2]

def resumeNumber : Option Json → Option Int
  | some (.number n) => some n
  | _ => none

theorem le_of_sentLe {a b : Option Json} (hLe : SentLe (a.getD .null) (b.getD .null)) {m n : Int}
    (hFirst : resumeNumber a = some m) (hLater : resumeNumber b = some n) : m ≤ n := by
  unfold resumeNumber at hFirst hLater
  split at hFirst
  · split at hLater
    · cases hFirst
      cases hLater
      cases hLe with
      | same => exact Int.le_refl _
      | later h => exact h
    · cases hLater
  · cases hFirst

theorem overlaps_repeats :
    sampleHandler.Executes overlaps fun h s =>
      pushedSeqs h = [.number 1, .number 2, .number 1] ∧ s.eventStream.buffer.length = 3 ∧
        ((h.filter fun o => opensSocket o.label).map fun o => resumeNumber o.pre.lastSeenSeq) =
          [none, some 2, some 1] := by
  decide

/-- A frame that comes again is delivered again, and the next socket asks for what has come. -/
theorem overlap_delivered_twice :
    ∃ h s, sampleHandler.Runs h s ∧ pushedSeqs h = [.number 1, .number 2, .number 1] ∧
      s.eventStream.buffer.length = 3 ∧ ¬ (sentSeqs h).Pairwise SentLe ∧ ¬ DeliversOnce h s := by
  obtain ⟨h, s, -, hRun, hPushed, hBuffer, hNumbers⟩ := overlaps_repeats.exists_run
  have hTwice : ¬ (pushedSeqs h).Nodup := by
    rw [hPushed]
    decide
  refine ⟨h, s, hRun, hPushed, hBuffer, ?_, fun hOnce => hTwice hOnce.once⟩
  intro hOrdered
  rw [sentSeqs_eq hRun, List.pairwise_map] at hOrdered
  have hSent : ((h.filter fun o => opensSocket o.label).map fun o =>
      resumeNumber o.pre.lastSeenSeq).Pairwise fun a b => ∀ m n, a = some m → b = some n → m ≤ n :=
    List.pairwise_map.mpr (hOrdered.imp fun hLe m n => @le_of_sentLe _ _ hLe m n)
  -- the third socket sends a smaller number than the second
  rw [hNumbers] at hSent
  simp at hSent

end Sdk
end Signet
