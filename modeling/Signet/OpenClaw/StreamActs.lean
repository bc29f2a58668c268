import Signet.OpenClaw.Streams

/-!
# What the bridge does to the streams

Each function of the bridge, as what it does to the stream of one connection: the messages of
the auth phase, the chain of frames, the end of a connection, a delivery.  The functions of
the loop end it, make a connection, or change none.

* `handlePayload_acts`, `advance_acts`, `settle_acts` — reading, the chain, and the end.
* `deliver_changes` — a delivery.
* `enterLoop_moves`, `afterRetryable_moves` — the loop.
-/

namespace Signet
namespace OpenClaw

open Kit Schemas

variable {config : BridgeConfig} {s t : Bridge} {c : Nat} {connection stored : Connection}
  {out : List BridgeObservation} {f g : Pipe → Pipe}

/-! ## The end of a connection -/

theorem resolveConnection_fields (s : Bridge) (c : Nat) (outcome : Outcome) :
    (resolveConnection s c outcome).connections = s.connections ∧
      (resolveConnection s c outcome).ws = s.ws ∧
      (resolveConnection s c outcome).activeConnectionId = s.activeConnectionId ∧
      (resolveConnection s c outcome).deliveries = s.deliveries ∧
      (resolveConnection s c outcome).loop.map (·.stage.phase) = s.loop.map (·.stage.phase) := by
  unfold resolveConnection
  split
  · next call awaited resumeCheckpoint attempt initialResolved hLoop =>
    split
    · rw [hLoop]
      exact ⟨rfl, rfl, rfl, rfl, rfl⟩
    · exact ⟨rfl, rfl, rfl, rfl, rfl⟩
  · exact ⟨rfl, rfl, rfl, rfl, rfl⟩

/-- A loop that awaits another connection, or none, awaits it still. -/
theorem resolveConnection_loop {outcome : Outcome} {loop : Loop} (hLoop : s.loop = some loop)
    (hStage : loop.stage ≠ .connecting c) : (resolveConnection s c outcome).loop = some loop := by
  unfold resolveConnection
  split
  · next call awaited resumeCheckpoint attempt initialResolved hConnecting =>
    rw [hLoop] at hConnecting
    cases hConnecting
    rw [if_neg fun hEq => hStage (by rw [hEq])]
    exact hLoop
  · exact hLoop

/-- Of a turn that ends a connection: the loop is told. -/
theorem acts_resolve {outcome : Outcome} (h : Acts s c f (t, [])) (hEnded : t.ws ≠ some c) :
    Acts s c f (resolveConnection t c outcome, []) := by
  obtain ⟨hConnections, hWs, hActive, hDeliveries, hPhase⟩ := resolveConnection_fields t c outcome
  have hAt : ∀ c', streamAt (resolveConnection t c outcome) c' = streamAt t c' := by
    intro c'
    unfold streamAt isActive
    rw [hConnections, hWs, hActive]
  refine ⟨⟨?_, ?_, ?_⟩, (hAt c).trans h.self, fun c' hNe => (hAt c').trans (h.others c' hNe), rfl,
    ?_, ?_, hPhase.trans h.loop⟩
  · intro c' hPresent
    rw [hWs] at hPresent
    obtain ⟨loop, connection, hLoop, hStage, hGet, hId, hSettled⟩ := h.coherent.linked c' hPresent
    have hNe : c' ≠ c := fun hEq => hEnded (hEq ▸ hPresent)
    refine ⟨loop, connection, resolveConnection_loop hLoop ?_, hStage, hConnections ▸ hGet,
      hId.trans hActive.symm, hSettled⟩
    rw [hStage]
    exact fun hEq => hNe (LoopStage.connecting.inj hEq)
  · intro c' connection hGet
    exact h.coherent.sound c' connection (hConnections ▸ hGet)
  · intro hOver loop hLoop
    have hReturned := h.coherent.finished (hDeliveries ▸ hOver)
    cases hBefore : t.loop with
    | none =>
      have hNone : (resolveConnection t c outcome).loop = none := by
        rw [hBefore] at hPhase
        exact Option.map_eq_none_iff.mp hPhase
      rw [hNone] at hLoop
      cases hLoop
    | some before =>
      have hStage := hReturned before hBefore
      rw [resolveConnection_loop hBefore (by rw [hStage]; simp)] at hLoop
      cases hLoop
      exact hStage
  · show (resolveConnection t c outcome).deliveries.done = _
    rw [hDeliveries]
    exact h.done
  · intro c' hPresent
    exact h.ws c' (hWs ▸ hPresent)

/-- **The end of a connection.** -/
theorem settle_acts (h : Coherent s) (c : Nat) (outcome : Outcome) :
    Acts s c (onStream Stream.ended) (settle s c outcome, []) := by
  have hSame : Acts s c id (s, []) := acts_of_same h rfl rfl rfl rfl rfl rfl
  unfold settle
  split
  · next hNone =>
    refine hSame.of_eq ?_
    intro pipe hPipe
    simp [streamAt, hNone] at hPipe
  · next stored hGet =>
    split
    · next hSettled =>
      refine hSame.of_eq ?_
      intro pipe hPipe
      -- What is settled is not the present connection.
      have hInactive : isActive s c stored = false := by
        cases hActive : isActive s c stored with
        | false => rfl
        | true =>
          have hOpen := (h.of_active hGet hActive).2.1
          rw [hSettled] at hOpen
          cases hOpen
      simp only [streamAt, hGet, Option.map_some, Option.some.injEq] at hPipe
      rw [← hPipe, onStream, Stream.ended_of_inactive hInactive]
      rfl
    · next hSettled =>
      dsimp only
      have hStored := h.sound c stored hGet
      have hSound : Sound { stored with settled := true } :=
        ⟨hStored.unauthenticated, hStored.identified, hStored.saving⟩
      cases hActive : isActive s c stored with
      | false =>
        have hNotPresent : s.ws ≠ some c := by
          intro hWs
          obtain ⟨loop, connection, -, -, hConnection, hId, -⟩ := h.linked c hWs
          rw [hGet] at hConnection
          cases hConnection
          simp [isActive, hWs, hId] at hActive
        refine acts_resolve (acts_modify h hGet hSound rfl (fun hWs => absurd hWs hNotPresent) ?_)
          hNotPresent
        rw [hActive]
        rfl
      | true =>
        have hPresent := (h.of_active hGet hActive).1
        refine acts_resolve (acts_leave h hGet hPresent hSound rfl) ?_
        simp

/-! ## Frames and messages -/

/-- The connection a function was given, and the one the state holds by then. -/
structure Alike (connection stored : Connection) : Prop where
  connectionId : stored.connectionId = connection.connectionId
  authenticated : stored.authenticated = connection.authenticated
  credentialId : stored.credentialId = connection.credentialId
  operatorId : stored.operatorId = connection.operatorId
  lastDeliveredSeq : stored.lastDeliveredSeq = connection.lastDeliveredSeq
  saving : stored.saving = connection.saving

theorem Alike.active (h : Alike connection stored) : isActive s c stored = isActive s c connection := by
  unfold isActive
  rw [h.connectionId]

theorem streamAt_eq (hGet : s.connections.get c = some stored) :
    streamAt s c = some (stored.stream (isActive s c stored), stored.unread) := by
  unfold streamAt
  rw [hGet, Option.map_some]

variable {turn : BridgeTurn} {c' : Nat}

theorem Acts.of_stored (h : Acts s c f turn) (hGet : s.connections.get c = some stored)
    (hEq : f (stored.stream (isActive s c stored), stored.unread) =
      g (stored.stream (isActive s c stored), stored.unread)) : Acts s c g turn := by
  refine h.of_eq fun pipe hPipe => ?_
  rw [streamAt_eq hGet, Option.some.injEq] at hPipe
  rw [← hPipe, hEq]

section

variable (h : Coherent s)

include h

theorem emitError_acts (c : Nat) (error : SignetError) :
    Acts s c id (emitError s error) := acts_of_same h rfl rfl rfl rfl rfl rfl

theorem nothing_acts (c : Nat) : Acts s c id (s, []) :=
  acts_of_same h rfl rfl rfl rfl rfl rfl

/-- A frame whose turn has come. -/
theorem handleSequencedFrame_acts (hGet : s.connections.get c = some stored)
    (hAlike : Alike connection stored) (hIdle : stored.saving = none) (payload : Payload) :
    Acts s c (onStream fun x => x.unshift payload.event.toList)
      (handleSequencedFrame s c connection payload) := by
  have hSound := h.sound c stored hGet
  unfold handleSequencedFrame
  split
  · next issues hSequenced =>
    refine (emitError_acts h c _).of_stored hGet ?_
    have hNone : payload.event = none := by simp [Payload.event, hSequenced]
    rw [onStream, hNone, Option.toList_none, Stream.unshift_nil (normal_stream _ _)]
    rfl
  · next seq event hSequenced =>
    have hEvent : payload.event = some (seq, event) := by simp [Payload.event, hSequenced]
    split
    · next credentialId operatorId hCredential hOperator =>
      have hAuthenticated : stored.authenticated = true := by
        cases hCase : stored.authenticated with
        | true => rfl
        | false =>
          have hNone := (hSound.unauthenticated hCase).2.2
          rw [hAlike.operatorId, hOperator] at hNone
          cases hNone
      rw [hEvent, Option.toList_some]
      split
      · next hOld =>
        refine (nothing_acts h c).of_stored hGet ?_
        rw [← hAlike.lastDeliveredSeq] at hOld
        rw [onStream, Stream.unshift_old (normal_stream _ _) hOld]
        rfl
      · next hNew =>
        rw [← hAlike.lastDeliveredSeq] at hNew
        have hLt : stored.lastDeliveredSeq < seq := Nat.lt_of_not_le hNew
        refine acts_modify h hGet ?_ rfl (fun _ => rfl) ?_
        · refine ⟨?_, hSound.identified, ?_⟩
          · intro hUnauthenticated
            rw [hAuthenticated] at hUnauthenticated
            cases hUnauthenticated
          · rintro save hSave
            cases hSave
            exact ⟨hLt, rfl⟩
        · rw [onStream, Stream.unshift_new hAuthenticated hLt]
          -- What waited is behind the frame, in both.
          have hWaiting : stored.waiting = stored.frameChain.filterMap Link.event := by
            simp [Connection.waiting, hIdle]
          have hAhead : newFrames stored.lastDeliveredSeq
              ((seq, event) :: stored.frameChain.filterMap Link.event) =
                (seq, event) :: newFrames seq (newFrames stored.lastDeliveredSeq stored.waiting) := by
            rw [hWaiting, newFrames, newFrames, newFrames, records_cons_of_lt hLt,
              records_of_le (Nat.le_of_lt hLt)]
          exact Prod.ext (congrArg (Stream.mk (isActive s c stored) stored.authenticated
            stored.lastDeliveredSeq) hAhead) rfl
    · next hUnknown =>
      refine (emitError_acts h c _).of_stored hGet ?_
      have hAuthenticated : stored.authenticated = false := by
        cases hCase : stored.authenticated with
        | false => rfl
        | true =>
          obtain ⟨hCredential, hOperator⟩ := hSound.identified hCase
          rw [hAlike.credentialId] at hCredential
          rw [hAlike.operatorId] at hOperator
          obtain ⟨credentialId, hSome⟩ := Option.isSome_iff_exists.mp hCredential
          obtain ⟨operatorId, hSome'⟩ := Option.isSome_iff_exists.mp hOperator
          exact absurd hSome' (hUnknown credentialId operatorId hSome)
      rw [onStream, Stream.unshift_unauthenticated hAuthenticated]
      rfl

theorem nothing_ends (hGet : s.connections.get c = some stored)
    (hInactive : isActive s c stored = false) : Acts s c (onStream Stream.ended) (s, []) := by
  refine (nothing_acts h c).of_stored hGet ?_
  rw [onStream, Stream.ended_of_inactive hInactive]
  rfl

/-- A connection ends, and the bridge is in another of its states. -/
theorem settle_acts_with (c : Nat) (outcome : Outcome) (bridgeState : BridgeState) :
    Acts s c (onStream Stream.ended)
      (settle { s with bridgeState := bridgeState } c outcome, []) := by
  have hState : Coherent { s with bridgeState := bridgeState } :=
    (@acts_of_same s { s with bridgeState := bridgeState } c [] h rfl rfl rfl rfl rfl rfl).coherent
  exact (settle_acts hState c outcome).from_same rfl rfl rfl rfl rfl

end

section

variable (h : Coherent s) (hGet : s.connections.get c = some stored)

include h hGet

theorem onClosed_acts (hAlike : Alike connection stored) (code : Nat) (reason : String) :
    Acts s c (onStream Stream.ended) (onClosed s c connection code reason) := by
  unfold onClosed
  split
  · next hInactive => exact nothing_ends h hGet (hAlike.active.trans hInactive)
  · split
    · exact settle_acts_with h c _ _
    · split
      · exact settle_acts_with h c _ _
      · split
        · exact (emitError_acts h c _).andThen (settle_acts_with h c _ _)
        · exact settle_acts_with h c _ _

/-- A link is put behind those that wait. -/
theorem queueLink_acts (hAuthenticated : stored.authenticated = true) (link : Link) :
    Acts s c (onStream fun x => x.add link.event.toList)
      (modifyConnection s c fun connection =>
        { connection with frameChain := connection.frameChain ++ [link] }, []) := by
  have hSound := h.sound c stored hGet
  refine acts_modify h hGet ?_ rfl (fun _ => rfl) ?_
  · refine ⟨?_, hSound.identified, hSound.saving⟩
    intro hUnauthenticated
    have hFalse : stored.authenticated = false := hUnauthenticated
    rw [hAuthenticated] at hFalse
    cases hFalse
  · have hWaiting : ({ stored with frameChain := stored.frameChain ++ [link] } : Connection).waiting =
        stored.waiting ++ link.event.toList := by
      unfold Connection.waiting
      rw [List.filterMap_append, List.append_assoc]
      cases hEvent : link.event with
      | none => simp [hEvent]
      | some frame => simp [hEvent]
    have hAhead : newFrames stored.lastDeliveredSeq
        ({ stored with frameChain := stored.frameChain ++ [link] } : Connection).waiting =
          newFrames stored.lastDeliveredSeq
            (newFrames stored.lastDeliveredSeq stored.waiting ++ link.event.toList) := by
      rw [hWaiting]
      exact (records_append_of_records _ _).symm
    exact Prod.ext (congrArg (Stream.mk (isActive s c stored) stored.authenticated
      stored.lastDeliveredSeq) hAhead) rfl

section

variable (hAlike : Alike connection stored) (hChain : stored.frameChain = connection.frameChain)

include hAlike hChain

/-- A frame is put in the chain, or handled at once. -/
theorem appendFrame_acts (payload : Payload) :
    Acts s c (onStream fun x => x.chain payload.event.toList)
      (appendLink s c connection (.frame payload)) := by
  have hSound := h.sound c stored hGet
  unfold appendLink
  split
  · next hIdle =>
    simp only [Bool.and_eq_true, List.isEmpty_iff, Option.isNone_iff_eq_none] at hIdle
    rw [← hChain, ← hAlike.saving] at hIdle
    refine (handleSequencedFrame_acts h hGet hAlike hIdle.2 payload).of_stored hGet ?_
    -- With nothing before it, the first is the last.
    have hAhead : (stored.stream (isActive s c stored)).ahead = [] := by
      simp [Connection.stream, Connection.waiting, hIdle]
    simp only [onStream, Stream.unshift, Stream.chain, Stream.add, hAhead, List.append_nil,
      List.nil_append]
  · next hBusy =>
    have hAuthenticated : stored.authenticated = true := by
      cases hCase : stored.authenticated with
      | true => rfl
      | false =>
        obtain ⟨hEmpty, hSaving, -⟩ := hSound.unauthenticated hCase
        rw [hChain] at hEmpty
        rw [hAlike.saving] at hSaving
        simp [hEmpty, hSaving] at hBusy
    refine (queueLink_acts h hGet hAuthenticated (.frame payload)).of_stored hGet ?_
    rw [onStream, onStream, Stream.chain_of_authenticated hAuthenticated]
    rfl

/-- A close waits for what is before it, where the connection is authenticated. -/
theorem appendClosing_acts (code : Nat) (reason : String) :
    Acts s c (onStream Stream.ended) (appendLink s c connection (.closing code reason)) ∨
      stored.authenticated = true ∧ Acts s c id (appendLink s c connection (.closing code reason)) := by
  have hSound := h.sound c stored hGet
  unfold appendLink
  split
  · exact Or.inl (onClosed_acts h hGet hAlike code reason)
  · next hBusy =>
    right
    have hAuthenticated : stored.authenticated = true := by
      cases hCase : stored.authenticated with
      | true => rfl
      | false =>
        obtain ⟨hEmpty, hSaving, -⟩ := hSound.unauthenticated hCase
        rw [hChain] at hEmpty
        rw [hAlike.saving] at hSaving
        simp [hEmpty, hSaving] at hBusy
    refine ⟨hAuthenticated, ?_⟩
    refine (queueLink_acts h hGet hAuthenticated (.closing code reason)).of_stored hGet ?_
    rw [onStream]
    show (Stream.add _ [], _) = _
    rw [Stream.add_nil (normal_stream _ _)]
    rfl

end

theorem clearAuthTimeout_acts : Acts s c id (clearAuthTimeout s c, []) := by
  have hSound := h.sound c stored hGet
  exact acts_modify h hGet ⟨hSound.unauthenticated, hSound.identified, hSound.saving⟩ rfl
    (fun _ => rfl) rfl

end

theorem get_clearAuthTimeout (hGet : s.connections.get c = some stored) :
    (clearAuthTimeout s c).connections.get c = some { stored with authTimeout := false } := by
  show (s.connections.modify c _).get c = _
  rw [Arena.get_modify, if_pos rfl, hGet]
  rfl

/-- **The connection is authenticated.** -/
theorem authenticate_acts (h : Coherent s) (hGet : s.connections.get c = some stored)
    (hUnauthenticated : stored.authenticated = false) (credentialId operatorId : String) :
    Acts s c (onStream fun x => { x with authenticated := true })
      (authenticate s c connection credentialId operatorId) := by
  obtain ⟨hChain, hSaving, -⟩ := (h.sound c stored hGet).unauthenticated hUnauthenticated
  have hState : Coherent { s with bridgeState := .connected } :=
    (@acts_of_same s { s with bridgeState := .connected } c [] h rfl rfl rfl rfl rfl rfl).coherent
  have hConnected : Acts s c (onStream fun x => { x with authenticated := true })
      (modifyConnection { s with bridgeState := .connected } c fun connection =>
        { connection with
          authenticated := true
          credentialId := some credentialId
          operatorId := some operatorId }, []) := by
    refine (acts_modify hState hGet ⟨?_, fun _ => ⟨rfl, rfl⟩, ?_⟩ rfl (fun _ => rfl) rfl).from_same
      rfl rfl rfl rfl rfl
    · intro hFalse
      cases hFalse
    · intro save hSave
      have hSome : stored.saving = some save := hSave
      rw [hSaving] at hSome
      cases hSome
  unfold authenticate
  dsimp only
  split
  · exact hConnected
  · next loop hLoop =>
    refine hConnected.then_same rfl rfl rfl rfl ?_ ?_
    · show some loop.stage = s.loop.map Loop.stage
      rw [hLoop]
      rfl
    · split <;> rfl

/-! ## Reading -/

section

variable (h : Coherent s) (hGet : s.connections.get c = some stored)

include h hGet

/-- What a message does that is none of the auth phase. -/
theorem handleFrame_acts (hAlike : Alike connection stored)
    (hChain : stored.frameChain = connection.frameChain) (payload : Payload) :
    Acts s c (onStream fun x => x.chain payload.due.toList) (handleFrame s c connection payload) := by
  unfold handleFrame
  split
  · next buffered limit hBackpressure =>
    refine (emitError_acts h c _).of_stored hGet ?_
    have hNone : payload.due = none := by simp [Payload.due, hBackpressure]
    rw [onStream, hNone, Option.toList_none, Stream.chain_nil (normal_stream _ _)]
    rfl
  · next hBackpressure =>
    have hDue : payload.due = payload.event := by simp [Payload.due, hBackpressure]
    rw [hDue]
    exact appendFrame_acts h hGet hAlike hChain payload

/-- A message of the auth phase ends the connection: its timeout is cleared, and the loop told. -/
theorem refuse_acts (error : SignetError) (outcome : Outcome) (hSilent : marksOf out = []) :
    Acts s c (onStream Stream.ended)
      (Kit.andThen (emitError (clearAuthTimeout s c) error) fun s => (settle s c outcome, out)) := by
  have hCleared := clearAuthTimeout_acts h hGet
  have hRefused : Acts s c id (emitError (clearAuthTimeout s c) error) := hCleared.with_out rfl
  refine hRefused.andThen (Acts.with_out ?_ hSilent)
  exact settle_acts hRefused.coherent c outcome

/-- **A message is read.** -/
theorem handlePayload_acts (hAlike : Alike connection stored)
    (hChain : stored.frameChain = connection.frameChain) (payload : Option Payload) :
    Acts s c (onStream fun x => x.read config payload)
      (handlePayload config s c connection payload) := by
  unfold handlePayload
  split
  · exact emitError_acts h c _
  · next frame =>
    split
    · next hAuthenticated =>
      refine (handleFrame_acts h hGet hAlike hChain frame).of_stored hGet ?_
      rw [← hAlike.authenticated] at hAuthenticated
      have hRead : (stored.stream (isActive s c stored)).read config (some frame) =
          (stored.stream (isActive s c stored)).chain frame.due.toList := if_pos hAuthenticated
      rw [onStream, onStream, hRead]
    · next hUnauthenticated =>
      rw [← hAlike.authenticated, Bool.not_eq_true] at hUnauthenticated
      have hChained : (stored.stream (isActive s c stored)).chain frame.due.toList =
          stored.stream (isActive s c stored) := if_neg (by simp [Connection.stream, hUnauthenticated])
      have hRead : (stored.stream (isActive s c stored)).read config (some frame) =
          if isActive s c stored then _ else stored.stream (isActive s c stored) :=
        if_neg (by simp [Connection.stream, hUnauthenticated])
      cases hActive : isActive s c stored with
      | false =>
        -- A connection that is not the present one is not told of the auth phase.
        rw [hActive, if_neg (by simp)] at hRead
        have hInactive : isActive s c connection = false := hAlike.active.symm.trans hActive
        split
        · simp only [onAuthenticatedFrame, if_pos hInactive]
          refine (nothing_acts h c).of_stored hGet ?_
          rw [hActive, onStream, hRead]
          rfl
        · simp only [onAuthErrorFrame, if_pos hInactive]
          refine (nothing_acts h c).of_stored hGet ?_
          rw [hActive, onStream, hRead]
          rfl
        · refine (handleFrame_acts h hGet hAlike hChain frame).of_stored hGet ?_
          rw [hActive] at hChained ⊢
          rw [onStream, onStream, hRead, hChained]
      | true =>
        rw [hActive, if_pos rfl] at hRead
        have hPresent : isActive s c connection = true := hAlike.active.symm.trans hActive
        split
        · next credentialId operatorId hFrame =>
          unfold onAuthenticatedFrame
          rw [if_neg (by simp [hPresent])]
          split
          · next hOther =>
            refine (refuse_acts h hGet _ _ rfl).of_stored hGet ?_
            rw [hActive, onStream, onStream, hRead, hFrame]
            simp only [if_neg hOther]
          · next hOwn =>
            have hSame : credentialId = config.credentialId := not_not.mp hOwn
            have hCleared := clearAuthTimeout_acts h hGet
            have hAuthenticated := @authenticate_acts (clearAuthTimeout s c) c connection _
              hCleared.coherent (get_clearAuthTimeout hGet) hUnauthenticated credentialId
              operatorId
            refine (hCleared.then_acts hAuthenticated).of_stored hGet ?_
            rw [hActive]
            simp only [onStream, id, hRead, hFrame, if_pos hSame]
        · next code message hFrame hError =>
          unfold onAuthErrorFrame
          rw [if_neg (by simp [hPresent])]
          refine (refuse_acts h hGet _ _ rfl).of_stored hGet ?_
          rw [hActive, onStream, onStream, hRead, hFrame, hError]
        · next hFrame hError =>
          refine (handleFrame_acts h hGet hAlike hChain frame).of_stored hGet ?_
          rw [hActive] at hChained ⊢
          rw [onStream, onStream, hRead, hChained, hFrame, hError]

end

/-! ## The events of a connection -/

variable {label : BridgeLabel}

theorem get_modifyConnection (hGet : s.connections.get c = some connection)
    (change : Connection → Connection) :
    (modifyConnection s c change).connections.get c = some (change connection) := by
  show (s.connections.modify c change).get c = _
  rw [Arena.get_modify, if_pos rfl, hGet]
  rfl

section

variable (h : Coherent s) (hGet : s.connections.get c = some connection) {payload : Option Payload}

include h hGet

theorem socketOpen_acts
    (hStep : connectionStep config s c connection (.socketOpen c') = some (t, out)) :
    Acts s c id (t, out) := by
  simp only [connectionStep] at hStep
  split at hStep
  · cases hStep
  · rw [← Option.some.inj hStep]
    have hSound := h.sound c connection hGet
    have hOpened : Acts s c id (modifyConnection s c fun entry => { entry with opened := true }, []) :=
      acts_modify h hGet ⟨hSound.unauthenticated, hSound.identified, hSound.saving⟩ rfl (fun _ => rfl)
        rfl
    unfold onOpen
    split
    · exact hOpened.then_same rfl rfl rfl rfl rfl rfl
    · exact hOpened

theorem text_acts
    (hStep : connectionStep config s c connection (.message c' (.text payload)) = some (t, out)) :
    Acts s c (onStream fun x => if x.active then x.read config payload else x) (t, out) := by
  simp only [connectionStep] at hStep
  split at hStep
  · rw [← Option.some.inj hStep]
    simp only [onMessage]
    split
    · next hActive =>
      refine (handlePayload_acts h hGet ⟨rfl, rfl, rfl, rfl, rfl, rfl⟩ rfl payload).of_stored hGet ?_
      rw [hActive]
      rfl
    · next hActive =>
      refine (nothing_acts h c).of_stored hGet ?_
      rw [Bool.not_eq_true] at hActive
      rw [hActive]
      rfl
  · cases hStep

/-- A blob waits for its turn. -/
theorem blob_acts
    (hStep : connectionStep config s c connection (.message c' (.blob payload)) = some (t, out)) :
    Acts s c (fun pipe => if pipe.1.active then (pipe.1, pipe.2 ++ [payload]) else pipe) (t, out) := by
  simp only [connectionStep] at hStep
  split at hStep
  · rw [← Option.some.inj hStep]
    simp only [onMessage]
    have hSound := h.sound c connection hGet
    split
    · next hActive =>
      refine acts_modify h hGet ⟨hSound.unauthenticated, hSound.identified, hSound.saving⟩ rfl
        (fun _ => rfl) ?_
      rw [hActive]
      show (_, Connection.unread _) = (_, _)
      simp [Connection.unread, Connection.stream, Connection.waiting]
    · next hActive =>
      refine (nothing_acts h c).of_stored hGet ?_
      rw [Bool.not_eq_true] at hActive
      rw [hActive]
      rfl
  · cases hStep

theorem dropTask_acts (task : Nat) :
    Acts s c (fun pipe => (pipe.1, (connection.dropTask task).unread))
      (modifyConnection s c fun entry => entry.dropTask task, []) := by
  have hSound := h.sound c connection hGet
  exact acts_modify h hGet ⟨hSound.unauthenticated, hSound.identified, hSound.saving⟩ rfl
    (fun _ => rfl) rfl

theorem decodeFailed_acts {task : Nat}
    (hStep : connectionStep config s c connection (.decodeFailed c' task) = some (t, out)) :
    Acts s c (fun pipe => (pipe.1, (connection.dropTask task).unread)) (t, out) := by
  obtain ⟨payload, -, hStep⟩ := Option.bind_eq_some_iff.mp hStep
  rw [← Option.some.inj hStep]
  exact dropTask_acts h hGet task

theorem decoded_acts {task : Nat}
    (hStep : connectionStep config s c connection (.decoded c' task) = some (t, out)) :
    ∃ payload, decodingTask connection task = some payload ∧
      Acts s c (fun pipe => (pipe.1.read config payload, (connection.dropTask task).unread))
        (t, out) := by
  obtain ⟨payload, hTask, hStep⟩ := Option.bind_eq_some_iff.mp hStep
  refine ⟨payload, hTask, ?_⟩
  rw [← Option.some.inj hStep]
  have hDropped := dropTask_acts h hGet task
  have hRead := @handlePayload_acts config
    (modifyConnection s c fun entry => entry.dropTask task) c connection _ hDropped.coherent
    (get_modifyConnection hGet _) ⟨rfl, rfl, rfl, rfl, rfl, rfl⟩ rfl payload
  exact hDropped.then_acts hRead

/-- The next link of a chain: a frame is as far as before, and a close ends the connection. -/
theorem advance_acts (hStep : connectionStep config s c connection (.advance c') = some (t, out)) :
    Acts s c id (t, out) ∨
      connection.authenticated = true ∧ Acts s c (onStream Stream.ended) (t, out) := by
  have hSound := h.sound c connection hGet
  simp only [connectionStep] at hStep
  split at hStep
  · next link rest hSaving hChain =>
    rw [← Option.some.inj hStep]
    have hAuthenticated : connection.authenticated = true := by
      cases hCase : connection.authenticated with
      | true => rfl
      | false =>
        have hEmpty := (hSound.unauthenticated hCase).1
        rw [hChain] at hEmpty
        cases hEmpty
    have hRest : Sound { connection with frameChain := rest } := by
      refine ⟨?_, hSound.identified, hSound.saving⟩
      intro hFalse
      have hUnauthenticated : connection.authenticated = false := hFalse
      rw [hAuthenticated] at hUnauthenticated
      cases hUnauthenticated
    have hTaken : Acts s c (onStream fun x => { x with
        ahead := newFrames x.mark (rest.filterMap Link.event) })
        (modifyConnection s c fun entry => { entry with frameChain := rest }, []) := by
      refine acts_modify h hGet hRest rfl (fun _ => rfl) ?_
      simp [onStream, Connection.stream, Connection.waiting, Connection.unread, hSaving]
    have hAlike : Alike connection { connection with frameChain := rest } :=
      ⟨rfl, rfl, rfl, rfl, rfl, rfl⟩
    have hBefore : newFrames connection.lastDeliveredSeq connection.waiting =
        newFrames connection.lastDeliveredSeq ((link :: rest).filterMap Link.event) := by
      simp [Connection.waiting, hSaving, hChain]
    cases link with
    | frame payload =>
      left
      have hHandled := @handleSequencedFrame_acts _ c connection _ hTaken.coherent
        (get_modifyConnection hGet fun entry => { entry with frameChain := rest }) hAlike hSaving
        payload
      refine (hTaken.then_acts hHandled).of_stored hGet ?_
      refine Prod.ext ?_ rfl
      refine (Stream.unshift_of_authenticated hAuthenticated _).trans ?_
      refine congrArg (Stream.mk _ _ _) ?_
      refine Eq.trans ?_ hBefore.symm
      show newFrames connection.lastDeliveredSeq (_ ++ newFrames connection.lastDeliveredSeq _) = _
      have hLink : (Link.frame payload).event = payload.event := rfl
      cases hEvent : payload.event with
      | none =>
        rw [hEvent] at hLink
        rw [Option.toList_none, List.nil_append, List.filterMap_cons_none hLink]
        exact records_records _
      | some frame =>
        rw [hEvent] at hLink
        rw [Option.toList_some, List.singleton_append, List.filterMap_cons_some hLink]
        exact records_cons_of_records _ _
    | closing code reason =>
      right
      refine ⟨hAuthenticated, ?_⟩
      have hClosed := @onClosed_acts _ c connection _ hTaken.coherent
        (get_modifyConnection hGet fun entry => { entry with frameChain := rest }) hAlike code
        reason
      refine (hTaken.then_acts hClosed).of_stored hGet ?_
      refine Prod.ext ?_ rfl
      refine congrArg (Stream.mk _ _ _) ?_
      exact hBefore.symm
  · cases hStep

theorem written_acts (hStep : connectionStep config s c connection (.written c') = some (t, out)) :
    Acts s c id (t, out) := by
  have hSound := h.sound c connection hGet
  simp only [connectionStep] at hStep
  split at hStep
  · next save hSaving =>
    split at hStep
    · cases hStep
    · rw [← Option.some.inj hStep]
      have hWritten : Acts s c id (modifyConnection s c fun entry =>
          { entry with saving := some { save with written := true } }, []) := by
        refine acts_modify h hGet ⟨?_, hSound.identified, ?_⟩ rfl (fun _ => rfl) ?_
        · intro hUnauthenticated
          have hNone := (hSound.unauthenticated hUnauthenticated).2.1
          rw [hSaving] at hNone
          cases hNone
        · rintro later hLater
          cases hLater
          exact hSound.saving save hSaving
        · simp [Connection.stream, Connection.waiting, Connection.unread, hSaving, Save.event]
      exact hWritten.then_same rfl rfl rfl rfl rfl rfl
  · cases hStep

theorem authTimeout_acts
    (hStep : connectionStep config s c connection (.authTimeout c') = some (t, out)) :
    Acts s c (onStream fun x => if x.authenticated then x else x.ended) (t, out) := by
  simp only [connectionStep] at hStep
  split at hStep
  · rw [← Option.some.inj hStep]
    have hCleared := clearAuthTimeout_acts h hGet
    unfold onAuthTimeout
    split
    · next hNot =>
      refine hCleared.of_stored hGet ?_
      cases hAuthenticated : connection.authenticated with
      | true =>
        simp [onStream, Connection.stream, hAuthenticated]
      | false =>
        have hInactive : isActive s c connection = false := by
          cases hActive : isActive s c connection with
          | false => rfl
          | true =>
            have hOpen := (h.of_active hGet hActive).2.1
            have hStill : isActive (clearAuthTimeout s c) c connection = true := hActive
            simp [hAuthenticated, hOpen, hStill] at hNot
        rw [hInactive]
        simp [onStream, Connection.stream, Stream.ended, hAuthenticated]
    · next hTimedOut =>
      have hEnded := settle_acts hCleared.coherent c (.final connection.currentCheckpoint
        (AuthError.create "Auth response not received from signet"))
      refine ((hCleared.then_acts hEnded).with_out rfl).of_stored hGet ?_
      have hUnauthenticated : connection.authenticated = false := by
        simp only [Bool.or_eq_true, not_or, Bool.not_eq_true] at hTimedOut
        exact hTimedOut.1.1
      simp [onStream, Connection.stream, hUnauthenticated]
  · cases hStep

theorem socketClose_acts {code : Nat} {reason : String}
    (hStep : connectionStep config s c connection (.socketClose c' code reason) = some (t, out)) :
    Acts s c (onStream Stream.ended) (t, out) ∨
      connection.authenticated = true ∧ Acts s c id (t, out) := by
  have hSound := h.sound c connection hGet
  simp only [connectionStep] at hStep
  split at hStep
  · cases hStep
  · have hClosed : Acts s c id (modifyConnection s c fun entry =>
        { entry with closed := true, authTimeout := false }, []) :=
      acts_modify h hGet ⟨hSound.unauthenticated, hSound.identified, hSound.saving⟩ rfl (fun _ => rfl)
        rfl
    have hAlike : Alike connection { connection with closed := true, authTimeout := false } :=
      ⟨rfl, rfl, rfl, rfl, rfl, rfl⟩
    have hTurn := Option.some.inj hStep
    rcases @appendClosing_acts _ c connection _ hClosed.coherent
      (get_modifyConnection hGet fun entry => { entry with closed := true, authTimeout := false })
      hAlike rfl code reason with hEnded | ⟨hAuthenticated, hWaits⟩
    · rw [hTurn] at hEnded
      exact Or.inl (hClosed.then_acts hEnded)
    · rw [hTurn] at hWaits
      exact Or.inr ⟨hAuthenticated, hClosed.then_acts hWaits⟩

end

/-! ## Deliveries -/

/-- What a turn does to one connection, whatever it delivers. -/
structure Changes (s : Bridge) (c : Nat) (f : Pipe → Pipe) (t : Bridge) : Prop where
  coherent : Coherent t
  self : streamAt t c = (streamAt s c).map f
  others : ∀ c', c' ≠ c → streamAt t c' = streamAt s c'
  done : t.deliveries.done = s.deliveries.done
  ws : ∀ c', t.ws = some c' → s.ws = some c'
  loop : t.loop.map (·.stage.phase) = s.loop.map (·.stage.phase)

theorem Acts.changes (h : Acts s c f turn) : Changes s c f turn.1 :=
  ⟨h.coherent, h.self, h.others, h.done, h.ws, h.loop⟩

/-- A delivery leaves the connections as they are. -/
theorem pushDelivery_changes (h : Changes s c f t) (envelope : Envelope) :
    Changes s c f (pushDelivery t envelope).1 := by
  have hDone : (t.deliveries.push envelope).1.done = t.deliveries.done := by
    unfold AsyncQueue.push
    split
    · rfl
    · split <;> rfl
  refine ⟨⟨h.coherent.linked, h.coherent.sound, ?_⟩, h.self, h.others, hDone.trans h.done, h.ws, h.loop⟩
  intro hOver
  exact h.coherent.finished (hDone ▸ hOver)

theorem marksOf_pushDelivery (s : Bridge) (envelope : Envelope) :
    marksOf (pushDelivery s envelope).2 =
      if s.deliveries.done then [] else [.pushed (envelope.seq, envelope.event)] := by
  unfold pushDelivery
  have hAnswers : marksOf ((s.deliveries.push envelope).2.map fun answer =>
      .answered answer.1 answer.2) = [] := by
    refine marksOf_nil_of_forall ?_
    intro observation hMem
    obtain ⟨answer, -, rfl⟩ := List.mem_map.mp hMem
    rfl
  rw [marksOf_append, hAnswers, List.append_nil]
  split <;> rfl

/-- What is being saved is the first that is left. -/
theorem ahead_of_saving (hSound : Sound connection) {save : Save}
    (hSaving : connection.saving = some save) (active : Bool) :
    connection.authenticated = true ∧ connection.lastDeliveredSeq < save.event.1 ∧
      (connection.stream active).ahead =
        save.event :: newFrames save.event.1 (connection.frameChain.filterMap Link.event) := by
  have hNew := (hSound.saving save hSaving).1
  refine ⟨?_, hNew, ?_⟩
  · cases hCase : connection.authenticated with
    | true => rfl
    | false =>
      have hNone := (hSound.unauthenticated hCase).2.1
      rw [hSaving] at hNone
      cases hNone
  · have hWaiting : connection.waiting =
        save.event :: connection.frameChain.filterMap Link.event := by
      simp [Connection.waiting, hSaving]
    show newFrames connection.lastDeliveredSeq connection.waiting = _
    rw [hWaiting]
    exact @records_cons_of_lt Frame Nat _ Prod.fst _ save.event hNew _

/-- **A delivery**: the first that is left is delivered. -/
theorem deliver_changes (h : Coherent s) (hGet : s.connections.get c = some connection) {save : Save}
    (hSaving : connection.saving = some save) :
    Changes s c (fun pipe =>
      ({ pipe.1 with mark := save.event.1, ahead := pipe.1.ahead.tail }, pipe.2))
      (deliver s c save).1 := by
  have hSound := h.sound c connection hGet
  obtain ⟨hAuthenticated, hNew, hAhead⟩ := ahead_of_saving hSound hSaving (isActive s c connection)
  have hSame := (hSound.saving save hSaving).2
  refine pushDelivery_changes (Acts.changes (acts_modify h hGet ⟨?_, hSound.identified, ?_⟩ rfl
    (fun _ => rfl) ?_)) save.envelope
  · intro hUnauthenticated
    have hFalse : connection.authenticated = false := hUnauthenticated
    rw [hAuthenticated] at hFalse
    cases hFalse
  · intro later hLater
    cases hLater
  · refine Prod.ext ?_ rfl
    show Stream.mk _ _ _ _ = Stream.mk _ _ _ _
    rw [hAhead, List.tail_cons]
    have hWaiting : ({ connection with
        saving := none
        currentCheckpoint := some save.checkpoint
        lastDeliveredSeq := save.checkpoint.lastSeq } : Connection).waiting =
          connection.frameChain.filterMap Link.event := by
      simp [Connection.waiting]
    rw [hWaiting, hSame]
    rfl

/-! ## The loop -/

variable {loop : Loop} {checkpoint : Option Checkpoint}

/-- The delay before a reconnect is over, or there was none. -/
theorem wake_acts (h : Coherent s) (c : Nat) : Acts s c id (wake s, []) := by
  unfold wake
  split
  · next call resumeCheckpoint attempt initialResolved hLoop =>
    have hNone : s.ws = none := by
      cases hWs : s.ws with
      | none => rfl
      | some c' =>
        obtain ⟨loop, -, hConnecting, hStage, -⟩ := h.linked c' hWs
        rw [hLoop] at hConnecting
        cases hConnecting
        cases hStage
    have hOpen : s.deliveries.done = false := by
      cases hDone : s.deliveries.done with
      | false => rfl
      | true => cases h.finished hDone _ hLoop
    refine ⟨⟨?_, h.sound, ?_⟩, ?_, fun _ _ => rfl, rfl, rfl, fun _ hWs => hWs, ?_⟩
    · intro c' hWs
      have hSome : s.ws = some c' := hWs
      rw [hNone] at hSome
      cases hSome
    · intro hOver
      have hDone : s.deliveries.done = true := hOver
      rw [hOpen] at hDone
      cases hDone
    · rw [Option.map_id_apply]
      rfl
    · rw [hLoop]
      rfl
  · exact nothing_acts h c

theorem stop_acts (h : Coherent s) :
    (s.ws = none ∧ Acts s 0 id (stop s)) ∨
      ∃ c, s.ws = some c ∧ Acts s c (onStream Stream.ended) (stop s) := by
  have hStopped : Coherent { s with stopped := true } :=
    (@acts_of_same s { s with stopped := true } 0 [] h rfl rfl rfl rfl rfl rfl).coherent
  have hWake : ∀ c, Acts s c id (wake { s with stopped := true }, []) := fun c =>
    (wake_acts hStopped c).from_same rfl rfl rfl rfl rfl
  unfold stop
  dsimp only
  split
  · next hNone => exact Or.inl ⟨hNone, hWake 0⟩
  · next c hWs =>
    obtain ⟨loop, connection, hLoop, hStage, hGet, hId, hOpen⟩ := h.linked c hWs
    have hActive : isActive s c connection = true := by
      simp [isActive, hWs, hId]
    have hEnded := (hWake c).then_acts (settle_acts (hWake c).coherent c
      (.final none bridgeStopped))
    refine Or.inr ⟨c, hWs, ?_⟩
    rw [hGet]
    dsimp only
    rw [if_pos hActive]
    exact hEnded.with_out rfl

structure Ends (s : Bridge) (turn : BridgeTurn) : Prop where
  connections : turn.1.connections = s.connections
  ws : turn.1.ws = s.ws
  loop : ∃ later, turn.1.loop = some later ∧ later.stage = .returned
  silent : marksOf turn.2 = []

structure Connects (s : Bridge) (checkpoint : Option Checkpoint) (turn : BridgeTurn) : Prop where
  connections : turn.1.connections =
    s.connections.alloc (newConnection (s.activeConnectionId + 1) checkpoint)
  ws : turn.1.ws = some s.connections.next
  active : turn.1.activeConnectionId = s.activeConnectionId + 1
  loop : ∃ later, turn.1.loop = some later ∧ later.stage = .connecting s.connections.next
  deliveries : turn.1.deliveries = s.deliveries
  created : marksOf turn.2 = [.created s.connections.next]

theorem marksOf_answered (answers : List (Answered Envelope)) :
    marksOf (answers.map fun answer => .answered answer.1 answer.2) = [] := by
  refine marksOf_nil_of_forall ?_
  intro observation hMem
  obtain ⟨answer, -, rfl⟩ := List.mem_map.mp hMem
  rfl

theorem returnLoop_ends (s : Bridge) (loop : Loop) : Ends s (returnLoop s loop) :=
  ⟨rfl, rfl, ⟨_, rfl, rfl⟩, marksOf_answered _⟩

theorem Ends.after {next : Bridge → BridgeTurn} (h : Ends turn.1 (next turn.1))
    (hConnections : turn.1.connections = s.connections) (hWs : turn.1.ws = s.ws)
    (hSilent : marksOf turn.2 = []) : Ends s (Kit.andThen turn next) := by
  refine ⟨h.connections.trans hConnections, h.ws.trans hWs, h.loop, ?_⟩
  rw [andThen_snd, marksOf_append, hSilent, h.silent, List.append_nil]

section

variable (s : Bridge) (loop : Loop)

theorem marksOf_answerInitial (error : SignetError) :
    marksOf (answerInitial s loop error).2 = [] := by
  unfold answerInitial
  split <;> rfl

theorem breakLoop_ends : Ends s (breakLoop s loop) :=
  (returnLoop_ends _ _).after rfl rfl (marksOf_answerInitial s loop _)

theorem afterFinal_ends (error : SignetError) : Ends s (afterFinal s loop error) := by
  refine Ends.after ?_ rfl rfl (marksOf_answerInitial s loop error)
  dsimp only
  split
  · exact breakLoop_ends _ _
  · exact returnLoop_ends _ _

end

/-- The head of the loop: it ends, or makes a connection from its checkpoint. -/
theorem enterLoop_moves (config : BridgeConfig) (s : Bridge) (loop : Loop) (opens : Bool) :
    Ends s (enterLoop config s loop opens) ∨
      (s.stopped = false ∧ opens = true ∧
        Connects s loop.resumeCheckpoint (enterLoop config s loop opens)) := by
  unfold enterLoop
  split
  · exact Or.inl (breakLoop_ends s loop)
  · next hStopped =>
    unfold connectAndPump
    cases opens with
    | true => exact Or.inr ⟨by simpa using hStopped, rfl, rfl, rfl, rfl, ⟨_, rfl, rfl⟩, rfl, rfl⟩
    | false => exact Or.inl ⟨rfl, rfl, ⟨_, rfl, rfl⟩, rfl⟩

/-- Whether a connection that has ended is followed by a delay and another one. -/
def sleepsAfter (config : BridgeConfig) (s : Bridge) : Bool :=
  match s.loop with
  | some ⟨_, .settled (.retryable _), _, attempt, _⟩ =>
    !s.stopped && config.reconnect.enabled && !config.reconnect.exhausted attempt
  | _ => false

/-- A connection has ended, and another one is made after a delay. -/
theorem afterRetryable_sleeps {loop : Loop}
    (h : (!s.stopped && config.reconnect.enabled && !config.reconnect.exhausted loop.attempt) = true) :
    afterRetryable config s loop = ({ s with
      bridgeState := .reconnecting
      loop := some { loop with stage := .sleeping, attempt := loop.attempt + 1 } }, []) := by
  simp only [Bool.and_eq_true, Bool.not_eq_true'] at h
  unfold afterRetryable
  rw [if_neg (by simp [h.1.1]), if_neg (by simp [h.1.2]), if_neg (by simp [h.2])]

theorem afterRetryable_ends {loop : Loop}
    (h : (!s.stopped && config.reconnect.enabled && !config.reconnect.exhausted loop.attempt) = false) :
    Ends s (afterRetryable config s loop) := by
  unfold afterRetryable
  split
  · exact breakLoop_ends s loop
  · next hStopped =>
    split
    · exact (returnLoop_ends _ loop).after rfl rfl rfl
    · next hEnabled =>
      split
      · exact (returnLoop_ends _ loop).after rfl rfl rfl
      · next hLeft => simp_all

end OpenClaw
end Signet
