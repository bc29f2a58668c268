import Signet.Ws.ServerSpec

/-!
# The moves of the server

A step of the server is a sequence of moves: elementary writes, and the few
other things a step can do, each with what is known at that moment.  An
invariant that every move keeps, every step keeps.

* `Emits` — what is known of an event when it is sequenced.
* `Move` — one move of a step; the state before the step and its label are
  parameters.
* `StepMoves`, `step_moves` — every step in terms of its moves.  An accepted
  request, the two halves of an authentication and the start of the heartbeat
  are kept whole.
-/

namespace Signet
namespace Ws

open Kit Schemas Sessions

variable {World : Type}

namespace Server

/-- What is known of an event when it is sequenced. -/
inductive Emits (deps : WsServerDeps World) (s : Server World) (world : World) :
    Sending World → Prop
  | broadcast (conn : Nat) (credentialId : String) (offered : Offered) (c : Connection)
      (credential : CredentialRecord) (event : SignetEvent)
      (hGet : s.connections.get conn = some c) (hId : c.data.credentialId = some credentialId)
      (hRecord : c.data.credentialRecord = some credential)
      (hStatus : credential.status = .active)
      (hProject : deps.project world offered.event credential = some event)
      (hDispatched : (credentialId, offered) ∈ s.dispatched) :
      Emits deps s world ⟨conn, event, .broadcast credentialId offered credential world⟩
  | heartbeat (conn : Nat) (credentialId : String) (now : Int) :
      Emits deps s world ⟨conn, .heartbeat credentialId now, .heartbeat⟩
  | recovery (conn : Nat) (now : Int) :
      Emits deps s world ⟨conn, .signetRecoveryComplete now, .recovery⟩
  | shutdown (conn : Nat) (credentialId reason : String) :
      Emits deps s world ⟨conn, .credentialExpired credentialId reason, .shutdown⟩

/-- One move of a step from `s₀`. -/
inductive Move (deps : WsServerDeps World) (s₀ : Server World) (label : ServerLabel World)
    (s : Server World) : Server World → Prop
  | write {t : Server World} (h : Write (s₀.Caches label) s t) : Move deps s₀ label s t
  | sequence (sending : Sending World) (ref : Nat) (state : CredentialReplayState World)
      (hState : s.replayState sending.conn = some (ref, state))
      (hEmits : Emits deps s label.world sending) :
      Move deps s₀ label s
        (s.sequenceAndSend sending.conn ref state sending.event sending.origin)
  | replay (task : Nat) (handshake : Handshake) (frame : SequencedFrame)
      (hEvent : label.event = .fingerprinted task)
      (hTask : s₀.tasks.get task = some (.authFingerprint handshake))
      (hFrame : frame ∈ handshake.resume.replayFrames) :
      Move deps s₀ label s (s.sendJson handshake.conn (.sequenced frame))
  | respond (task id : Nat) (frame : ClientFrame) (requestId : String) (error : ResponseError)
      (hEvent : ∃ result, label.event = .credentialLookedUp task result)
      (hTask : s₀.tasks.get task = some (.requestLookup id frame))
      (hFrame : ∀ request, frame ≠ .request request) :
      Move deps s₀ label s (s.sendJson id (.response (.failed requestId error)))
  | queue (credentialId : String) (event : SignetEvent) (pending : PendingInvalidation)
      (hEvent : label.event = .broadcast credentialId event)
      (hPending : s.pendingInvalidations.get credentialId = some pending) :
      Move deps s₀ label s
        { s with
          offers := s.offers ++ [(credentialId, ⟨s.offers.length, event⟩)]
          pendingInvalidations := s.pendingInvalidations.set credentialId
            { pending with events := pending.events ++ [⟨s.offers.length, event⟩] } }
  | dispatch (credentialId : String) (event : SignetEvent)
      (hEvent : label.event = .broadcast credentialId event)
      (hDirect : s.pendingInvalidations.get credentialId = none) :
      Move deps s₀ label s
        { s with
          offers := s.offers ++ [(credentialId, ⟨s.offers.length, event⟩)]
          dispatched := s.dispatched ++ [(credentialId, ⟨s.offers.length, event⟩)] }
  | invalidate (credentialId : String) (hEvent : label.event = .invalidate credentialId) :
      Move deps s₀ label s (s.invalidateCredential credentialId)
  | answer (task : Nat) (credentialId : String) (myGen : Nat)
      (hTask : s.tasks.get task = some (.invalidation credentialId myGen)) :
      Move deps s₀ label s (s.take task)
  | countDown (credentialId : String) (entry : PendingInvalidation)
      (hEntry : s.pendingInvalidations.get credentialId = some entry) :
      Move deps s₀ label s
        { s with
          pendingInvalidations := s.pendingInvalidations.set credentialId
            { entry with refcount := entry.refcount - 1 } }
  | unlist (credentialId : String) :
      Move deps s₀ label s
        { s with pendingInvalidations := s.pendingInvalidations.delete credentialId }
  | redispatch (credentialId : String) (offered : Offered) (pending : PendingInvalidation)
      (hPending : s₀.pendingInvalidations.get credentialId = some pending)
      (hMem : offered ∈ pending.events) :
      Move deps s₀ label s { s with dispatched := s.dispatched ++ [(credentialId, offered)] }
  | forgetStates :
      Move deps s₀ label s { s with credentialStates := .empty, serverState := .stopped }

/-- Any number of moves of a step. -/
abbrev Moves (deps : WsServerDeps World) (s₀ : Server World) (label : ServerLabel World) :
    Server World → Server World → Prop :=
  Relation.ReflTransGen (Move deps s₀ label)

variable {deps : WsServerDeps World} {s₀ : Server World} {label : ServerLabel World}

theorem Moves.refl (s : Server World) : Moves deps s₀ label s s := Relation.ReflTransGen.refl

variable {id task : Nat} {s t : Server World} {event : SignetEvent} {credentialId : String}
  {records : Nat → CredentialRecord → Prop} {f : Connection → Connection}

theorem Moves.single (h : Move deps s₀ label s t) :
    Moves deps s₀ label s t :=
  Relation.ReflTransGen.single h

/-- **The move rule.**  What every move of a step keeps, the step keeps. -/
theorem Moves.preserves {inv : Server World → Prop} (h : Moves deps s₀ label s t)
    (hMove : ∀ s t, Move deps s₀ label s t → inv s → inv t) (hInv : inv s) : inv t := by
  induction h with
  | refl => exact hInv
  | tail _ hLast ih => exact hMove _ _ hLast ih

theorem Writes.moves (h : Writes (s₀.Caches label) s t) :
    Moves deps s₀ label s t := by
  refine Writes.relates Moves.refl Relation.ReflTransGen.trans ?_ h
  intro s t hWrite
  exact Moves.single (.write hWrite)

/-! ## Views the moves of a broadcast keep -/

@[simp]
theorem mem_getByCredentialId :
    id ∈ s.getByCredentialId credentialId ↔
      id ∈ s.registry ∧ s.credentialIdOf id = some credentialId := by
  unfold getByCredentialId credentialIdOf
  rw [List.mem_filter, OrderedSet.mem_def]
  cases s.connections.get id with
  | none => simp
  | some c => simp

theorem credentialIdOf_modifyConnection (s : Server World) (id id' : Nat)
    (hf : ∀ c, (f c).data.credentialId = c.data.credentialId) :
    (s.modifyConnection id f).credentialIdOf id' = s.credentialIdOf id' := by
  unfold credentialIdOf
  rw [connections_modifyConnection]
  split
  · cases s.connections.get id' with
    | none => rfl
    | some c => exact hf c
  · rfl

theorem credentialIdOf_sequenceAndSend (s : Server World) (id id' ref : Nat)
    (state : CredentialReplayState World) (event : SignetEvent) (origin : Origin World) :
    (s.sequenceAndSend id ref state event origin).credentialIdOf id' = s.credentialIdOf id' :=
  credentialIdOf_modifyConnection _ id id' fun c => c.sendJson_credentialId _

theorem Sends.books {l : List (Sending World)} (h : Sends records s l t) :
    (∀ id, t.credentialIdOf id = s.credentialIdOf id) ∧ t.dispatched = s.dispatched ∧
      t.pendingInvalidations = s.pendingInvalidations := by
  induction h with
  | quiet hWrites =>
    exact ⟨hWrites.quiet.credentialIdOf, hWrites.quiet.dispatched,
      hWrites.quiet.pendingInvalidations⟩
  | send hWrites _ _ ih =>
    obtain ⟨hIds, hDispatched, hPending⟩ := ih
    refine ⟨?_, ?_, ?_⟩
    · intro id
      rw [hIds, credentialIdOf_sequenceAndSend, hWrites.quiet.credentialIdOf]
    · rw [hDispatched]
      exact hWrites.quiet.dispatched
    · rw [hPending]
      exact hWrites.quiet.pendingInvalidations

/-! ## The moves of the operations that sequence -/

theorem moves_sendSequenced {origin : Origin World}
    (hEmits : Emits deps s label.world ⟨id, event, origin⟩) :
    Moves deps s₀ label s (s.sendSequenced deps id event origin) := by
  unfold sendSequenced
  split
  · exact Moves.refl s
  · next ref state hState =>
    have hSequenced : Moves deps s₀ label s (s.sequenceAndSend id ref state event origin) :=
      Moves.single (.sequence ⟨id, event, origin⟩ ref state hState hEmits)
    exact hSequenced.trans (Writes.moves (writes_checkBackpressure deps _ id))

theorem projectFor_eq_some {world : World} {projected : SignetEvent} {credential : CredentialRecord}
    (h : s.projectFor deps world event id = some (credential, projected)) :
    ∃ c, s.connections.get id = some c ∧ c.data.phase = .active ∧
      c.data.credentialRecord = some credential ∧ credential.status = .active ∧
      deps.project world event credential = some projected := by
  unfold projectFor at h
  split at h
  · cases h
  · next c hGet =>
    split at h
    · cases h
    · next hPhase =>
      split at h
      · cases h
      · next record hRecord =>
        split at h
        · cases h
        · next hStatus =>
          obtain ⟨event', hProject, hEq⟩ := Option.map_eq_some_iff.mp h
          cases hEq
          exact ⟨c, hGet, not_not.mp hPhase, hRecord, not_not.mp hStatus, hProject⟩

theorem moves_broadcastTo {offered : Offered} (hId : s.credentialIdOf id = some credentialId)
    (hDispatched : (credentialId, offered) ∈ s.dispatched) :
    Moves deps s₀ label s (broadcastTo deps label.world credentialId offered s id) := by
  unfold broadcastTo
  split
  · exact Moves.refl s
  · next credential projected hProject =>
    obtain ⟨c, hGet, -, hRecord, hStatus, hEvent⟩ := projectFor_eq_some hProject
    have hIdOf : c.data.credentialId = some credentialId := by
      unfold credentialIdOf at hId
      rwa [hGet] at hId
    apply moves_sendSequenced
    exact .broadcast id credentialId offered c credential projected hGet hIdOf hRecord hStatus
      hEvent hDispatched

theorem moves_broadcastLoop {offered : Offered} (ids : List Nat)
    (hIds : ∀ id ∈ ids, s.credentialIdOf id = some credentialId)
    (hDispatched : (credentialId, offered) ∈ s.dispatched) :
    Moves deps s₀ label s
      (ids.foldl (broadcastTo deps label.world credentialId offered) s) := by
  induction ids generalizing s with
  | nil => exact Moves.refl s
  | cons id ids ih =>
    have hTurn : Sends (fun _ _ => False) s
        (sendingTo deps label.world credentialId offered s id)
        (broadcastTo deps label.world credentialId offered s id) :=
      sends_broadcastTo deps label.world credentialId offered s id
    obtain ⟨hKept, hKeptDispatched, -⟩ := Sends.books hTurn
    rw [List.foldl_cons]
    refine (moves_broadcastTo (hIds id (List.mem_cons_self ..)) hDispatched).trans (ih ?_ ?_)
    · intro id' hId'
      rw [hKept]
      exact hIds id' (List.mem_cons_of_mem _ hId')
    · rwa [hKeptDispatched]

theorem moves_broadcast (hEvent : label.event = .broadcast credentialId event) :
    Moves deps s₀ label s (s.broadcast deps label.world credentialId event) := by
  unfold broadcast broadcastToCredential
  dsimp only
  split
  · next pending hPending => exact Moves.single (.queue credentialId event pending hEvent hPending)
  · next hDirect =>
    refine (Moves.single (.dispatch credentialId event hEvent hDirect)).trans ?_
    apply moves_broadcastLoop
    · intro id hId
      exact (mem_getByCredentialId.mp hId).2
    · simp

theorem moves_drain {pending : PendingInvalidation}
    (hPending : s₀.pendingInvalidations.get credentialId = some pending) (events : List Offered)
    (hEvents : ∀ offered ∈ events, offered ∈ pending.events)
    (hDirect : s.pendingInvalidations.get credentialId = none) :
    Moves deps s₀ label s (events.foldl
      (fun s offered => s.broadcastToCredential deps label.world credentialId offered) s) := by
  induction events generalizing s with
  | nil => exact Moves.refl s
  | cons offered events ih =>
    have hKept := pendingInvalidations_broadcastToCredential deps label.world offered hDirect
    have hFirst : Moves deps s₀ label s
        (s.broadcastToCredential deps label.world credentialId offered) := by
      unfold broadcastToCredential
      rw [hDirect]
      refine (Moves.single (.redispatch credentialId offered pending hPending
        (hEvents offered (List.mem_cons_self ..)))).trans ?_
      apply moves_broadcastLoop
      · intro id hId
        exact (mem_getByCredentialId.mp hId).2
      · simp
    rw [List.foldl_cons]
    refine hFirst.trans (ih ?_ ?_)
    · intro offered' hOffered'
      exact hEvents offered' (List.mem_cons_of_mem _ hOffered')
    · rw [hKept]
      exact hDirect

theorem moves_releaseInvalidation (hPending : s.pendingInvalidations = s₀.pendingInvalidations) :
    Moves deps s₀ label s (s.releaseInvalidation deps label.world credentialId) := by
  unfold releaseInvalidation
  split
  · exact Moves.refl s
  · next entry hEntry =>
    split
    · refine (Moves.single (.unlist credentialId)).trans ?_
      exact moves_drain (hPending ▸ hEntry) entry.events (fun _ h => h) (by simp)
    · exact Moves.single (.countDown credentialId entry hEntry)

/-- Heartbeats and shutdown notices may always be sequenced. -/
theorem moves_notices {l : List (Sending World)} (h : Sends (s₀.Caches label) s l t)
    (hNotices : ∀ sending ∈ l, Notice sending) :
    Moves deps s₀ label s t := by
  induction h with
  | quiet hWrites => exact Writes.moves hWrites
  | @send s t u sending ref state rest hWrites hState _ ih =>
    have hEmits : Emits deps t label.world sending := by
      cases hNotices sending (List.mem_cons_self ..) with
      | heartbeat conn credentialId now => exact .heartbeat conn credentialId now
      | shutdown conn credentialId reason => exact .shutdown conn credentialId reason
    have hFirst := (Writes.moves hWrites).tail (.sequence sending ref state hState hEmits)
    exact hFirst.trans (ih fun sending' hMem => hNotices sending' (List.mem_cons_of_mem _ hMem))

theorem moves_sendReplay {handshake : Handshake} (hEvent : label.event = .fingerprinted task)
    (hTask : s₀.tasks.get task = some (.authFingerprint handshake)) (frames : List SequencedFrame)
    (hFrames : ∀ frame ∈ frames, frame ∈ handshake.resume.replayFrames) (s : Server World) :
    Moves deps s₀ label s (s.sendReplay handshake.conn frames) := by
  induction frames generalizing s with
  | nil => exact Moves.refl s
  | cons frame frames ih =>
    have hFirst : Moves deps s₀ label s (s.sendJson handshake.conn (.sequenced frame)) :=
      Moves.single (.replay task handshake frame hEvent hTask
        (hFrames frame (List.mem_cons_self ..)))
    refine hFirst.trans (ih ?_ _)
    intro frame' hFrame'
    exact hFrames frame' (List.mem_cons_of_mem _ hFrame')

/-! ## Steps -/

/-- Every response that awaits a lookup answers its own request. -/
def ResyncsNamed (s : Server World) : Prop :=
  ∀ task id requestId response, s.tasks.get task = some (.requestResync id requestId response) →
    response.requestId = requestId

/-- The credential part of the authenticated frame. -/
def tokenOf (deps : WsServerDeps World) (handshake : Handshake) : CredentialToken where
  credentialId := handshake.credential.credentialId
  operatorId := handshake.credential.operatorId
  fingerprint := deps.fingerprintToken handshake.authFrame.token
  issuedAt := handshake.credential.issuedAt
  expiresAt := handshake.credential.expiresAt

/-- The server once it has confirmed an authentication. -/
def greet (deps : WsServerDeps World) (s : Server World) (task : Nat) (handshake : Handshake) :
    Server World :=
  (s.take task).sendJson handshake.conn
    (.authenticated handshake.conn (tokenOf deps handshake) handshake.credential.effectiveScopes
      handshake.resume.resumedFromSeq)

/-- A step in terms of its moves. -/
inductive StepMoves (deps : WsServerDeps World) (s : Server World) (label : ServerLabel World)
    (t : Server World) : Prop
  | moves (hMoves : Moves deps s label s t)
  | begin (task id : Nat) (authFrame : AuthFrame)
      (result : Except SignetError CredentialRecord) (credential : CredentialRecord)
      (hEvent : label.event = .tokenLookedUp task (some result))
      (hTask : s.tasks.get task = some (.authLookup id authFrame))
      (hConn : (s.connections.get id).isSome) (hAuth : handleAuth result = .ok credential)
      (hState : t = (s.take task).beginHandshake deps id authFrame credential)
  | finish (task : Nat) (handshake : Handshake) (u : Server World)
      (hEvent : label.event = .fingerprinted task)
      (hTask : s.tasks.get task = some (.authFingerprint handshake))
      (hMoves : Moves deps s label (s.greet deps task handshake) u)
      (hState : t = u.startHeartbeat handshake.conn)
  | accept (task id : Nat) (request : HarnessRequest) (credential : CredentialRecord)
      (hEvent : label.event = .credentialLookedUp task (some (.ok credential)))
      (hTask : s.tasks.get task = some (.requestLookup id (.request request)))
      (hState : t = ((s.take task).cacheRecord id credential).acceptRequest label.now id request
        credential)

theorem stepMoves_release {myGen : Nat} {result : Option (Except SignetError CredentialRecord)}
    (hEvent : label.event = .credentialLookedUp task result)
    (hTask : s.tasks.get task = some (.invalidation credentialId myGen))
    (hState : t = ((s.take task).refreshCredential deps credentialId myGen
      result).releaseInvalidation deps label.world credentialId) :
    StepMoves deps s label t := by
  have hTaken : Moves deps s label s (s.take task) :=
    Moves.single (.answer task credentialId myGen hTask)
  have hRefreshed : Writes (s.Caches label) (s.take task)
      ((s.take task).refreshCredential deps credentialId myGen result) := by
    apply writes_refreshCredential
    rintro id record rfl hId
    exact ⟨task, _, hEvent, hTask, hId⟩
  have hPending := hRefreshed.quiet.pendingInvalidations
  rw [hState]
  exact .moves (hTaken.trans ((Writes.moves hRefreshed).trans (moves_releaseInvalidation hPending)))

theorem stepMoves_finish {handshake : Handshake} (hEvent : label.event = .fingerprinted task)
    (hTask : s.tasks.get task = some (.authFingerprint handshake)) :
    StepMoves deps s label ((s.take task).finishHandshake deps label.now handshake) := by
  by_cases hRecovery : handshake.resume.needsRecovery = true
  · refine .finish task handshake ((s.greet deps task handshake).sendSequenced deps handshake.conn
      (.signetRecoveryComplete label.now) .recovery) hEvent hTask ?_ ?_
    · exact moves_sendSequenced (.recovery handshake.conn label.now)
    · unfold finishHandshake
      simp only [hRecovery, if_true]
      rfl
  · refine .finish task handshake ((s.greet deps task handshake).sendReplay handshake.conn
      handshake.resume.replayFrames) hEvent hTask ?_ ?_
    · exact moves_sendReplay hEvent hTask _ (fun _ h => h) _
    · unfold finishHandshake
      simp only [hRecovery, Bool.false_eq_true, if_false]
      rfl

/-- **Every step in terms of its moves.** -/
theorem step_moves {out : List Returned} (hNamed : s.ResyncsNamed)
    (hStep : serverStep deps s label = some (t, out)) : StepMoves deps s label t := by
  cases step_cases hStep with
  | sends hSends hNotices => exact .moves (moves_notices hSends hNotices)
  | broadcast credentialId event hEvent hState =>
    rw [hState]
    exact .moves (moves_broadcast hEvent)
  | invalidate credentialId hEvent hState =>
    rw [hState]
    exact .moves (Moves.single (.invalidate credentialId hEvent))
  | release task credentialId myGen result hEvent hTask hState =>
    exact stepMoves_release hEvent hTask hState
  | begin task id authFrame result credential hEvent hTask hConn hAuth hState =>
    exact .begin task id authFrame result credential hEvent hTask hConn hAuth hState
  | finish task handshake hEvent hTask hState =>
    rw [hState]
    exact stepMoves_finish hEvent hTask
  | accept task id request credential hEvent hTask hActive hState =>
    exact .accept task id request credential hEvent hTask hState
  | reject task id frame maybeId credential hEvent hTask hFrame hState =>
    have hTaken : Writes (s.Caches label) s (s.take task) := writes_take hTask
    have hCached := hTaken.tail (.cache id credential ⟨task, _, hEvent, hTask, rfl⟩)
    rw [hState]
    refine .moves ((Writes.moves hCached).trans ?_)
    unfold rejectFrame
    split
    · next requestId =>
      exact Moves.single (.respond task id frame requestId _ ⟨_, hEvent⟩ hTask hFrame)
    · exact Writes.moves (writes_close deps _ id _)
  | resync task id requestId response result hEvent hTask hState =>
    have hTaken : Writes (s.Caches label) s (s.take task) := writes_take hTask
    rw [hState]
    refine .moves (Writes.moves (hTaken.trans ?_))
    apply writes_finishResync _ id (hNamed task id requestId response hTask)
    rintro record rfl
    exact ⟨task, _, hEvent, hTask, rfl⟩
  | flush task remaining hEvent hTask hState =>
    have hTaken : Writes (s.Caches label) s (s.take task) := writes_take hTask
    have hCleaned : Writes (s.Caches label) s
        (remaining.foldl cleanupConnection (s.take task)) :=
      hTaken.trans (Writes.foldl remaining (fun t id _ => Writes.single (.cleanup id)) _)
    rw [hState]
    exact .moves ((Writes.moves hCleaned).tail .forgetStates)

/-! ## Calls that await -/

theorem tasks_write (h : Write records s t) {ref : Nat} {task : Task}
    (hTask : t.tasks.get ref = some task) :
    s.tasks.get ref = some task ∨ task.IsPlain := by
  cases h with
  | spawn task' hPlain =>
    simp only [spawn] at hTask
    rcases Arena.get_alloc_cases hTask with ⟨-, rfl⟩ | ⟨-, hTask⟩
    · exact .inr hPlain
    · exact .inl hTask
  | take ref' task' hGet hFingerprint hInvalidation =>
    simp only [take, Arena.get_free] at hTask
    split at hTask
    · cases hTask
    · exact .inl hTask
  | closed id =>
    unfold closeHandler at hTask
    rw [tasks_cleanupConnection] at hTask
    exact .inl hTask
  | cleanup id =>
    rw [tasks_cleanupConnection] at hTask
    exact .inl hTask
  | stopHeartbeat id =>
    rw [tasks_stopHeartbeat] at hTask
    exact .inl hTask
  | dropAuthTimer id c hGet =>
    simp only [modifyData, tasks_modifyConnection, tasks_clearTimer] at hTask
    exact .inl hTask
  | _ => exact .inl hTask

theorem tasks_move (h : Move deps s₀ label s t) {ref : Nat} {task : Task}
    (hTask : t.tasks.get ref = some task) :
    s.tasks.get ref = some task ∨ task.IsPlain ∨
      ∃ credentialId myGen, task = .invalidation credentialId myGen := by
  cases h with
  | write hWrite =>
    rcases tasks_write hWrite hTask with hOld | hPlain
    · exact .inl hOld
    · exact .inr (.inl hPlain)
  | invalidate credentialId hEvent =>
    simp only [invalidateCredential, spawn] at hTask
    rcases Arena.get_alloc_cases hTask with ⟨-, rfl⟩ | ⟨-, hTask⟩
    · exact .inr (.inr ⟨_, _, rfl⟩)
    · exact .inl hTask
  | answer task' credentialId myGen hGet =>
    simp only [take, Arena.get_free] at hTask
    split at hTask
    · cases hTask
    · exact .inl hTask
  | _ => exact .inl hTask

theorem resyncsNamed_moves (h : Moves deps s₀ label s t) (hNamed : s.ResyncsNamed) :
    t.ResyncsNamed := by
  refine h.preserves ?_ hNamed
  intro s t hMove hNamed task id requestId response hTask
  rcases tasks_move hMove hTask with hOld | hPlain | ⟨_, _, hEq⟩
  · exact hNamed task id requestId response hOld
  · exact hPlain
  · cases hEq

theorem resyncsNamed_of_runs {h : List (Occurrence (Server World) (ServerLabel World) Returned)}
    (hRun : (serverMachine deps).Runs h s) : s.ResyncsNamed := by
  refine Machine.Runs.state_invariant ?_ ?_ hRun
  · intro task id requestId response hTask
    cases hTask
  · intro s label t out hNamed hStep
    have hTaken : ∀ task, (s.take task).ResyncsNamed := by
      intro task ref id requestId response hTask
      simp only [take, Arena.get_free] at hTask
      split at hTask
      · cases hTask
      · exact hNamed ref id requestId response hTask
    cases step_moves hNamed hStep with
    | moves hMoves => exact resyncsNamed_moves hMoves hNamed
    | begin task id authFrame result credential hEvent hTask hConn hAuth hState =>
      intro ref id' requestId response hGet
      rw [hState] at hGet
      unfold beginHandshake at hGet
      simp only [spawn, Arena.get_alloc, modifyData, tasks_modifyConnection,
        getOrCreateCredentialState_tasks] at hGet
      split at hGet
      · cases hGet
      · exact hTaken task ref id' requestId response hGet
    | finish task handshake u hEvent hTask hMoves hState =>
      intro ref id' requestId response hGet
      rw [hState] at hGet
      have hGreeted : (s.greet deps task handshake).ResyncsNamed := hTaken task
      apply resyncsNamed_moves hMoves hGreeted ref id' requestId response
      unfold startHeartbeat at hGet
      split at hGet <;> exact hGet
    | accept task id request credential hEvent hTask hState =>
      intro ref id' requestId response hGet
      rw [hState] at hGet
      simp only [acceptRequest, spawn, Arena.get_alloc] at hGet
      split at hGet
      · cases hGet
      · exact hTaken task ref id' requestId response hGet

/-! ## Cached records -/

/-- The record cached on a connection. -/
def recordOf (s : Server World) (id : Nat) : Option CredentialRecord :=
  (s.connections.get id).bind fun c => c.data.credentialRecord

section

variable (s : Server World) (id id' : Nat)

theorem recordOf_modifyConnection
    (hf : ∀ c, s.connections.get id = some c →
      (f c).data.credentialRecord = c.data.credentialRecord) :
    (s.modifyConnection id f).recordOf id' = s.recordOf id' := by
  unfold recordOf
  rw [connections_modifyConnection]
  split
  · next hId =>
    cases hGet : s.connections.get id' with
    | none => rfl
    | some c => exact hf c (hId ▸ hGet)
  · rfl

theorem recordOf_sendJson (frame : ServerFrame) :
    (s.sendJson id frame).recordOf id' = s.recordOf id' :=
  s.recordOf_modifyConnection id id' fun c _ => c.sendJson_credentialRecord frame

theorem recordOf_startHeartbeat : (s.startHeartbeat id).recordOf id' = s.recordOf id' := by
  unfold startHeartbeat
  split
  · rfl
  · unfold modifyData
    rw [recordOf_modifyConnection]
    · rfl
    · exact fun c _ => rfl

end

theorem recordOf_acceptRequest (now : Int) (s : Server World) (id id' : Nat)
    (request : HarnessRequest) (credential : CredentialRecord) :
    (s.acceptRequest now id request credential).recordOf id' = s.recordOf id' := by
  have hArmed : ∀ (t : Server World) (f : ConnectionData → ConnectionData),
      (∀ d, (f d).credentialRecord = d.credentialRecord) →
        (t.modifyData id f).recordOf id' = t.recordOf id' :=
    fun t f hf => t.recordOf_modifyConnection id id' fun c _ => hf c.data
  exact hArmed _ _ fun d => rfl

/-! ## Receding connections -/

end Server

/-- A write that neither activates a connection nor opens its socket, and caches
allowed records only. -/
structure Connection.Recedes (allowed : CredentialRecord → Prop) (c c' : Connection) : Prop where
  credentialId : c'.data.credentialId = c.data.credentialId
  record : c'.data.credentialRecord = c.data.credentialRecord ∨
    ∃ record, c'.data.credentialRecord = some record ∧ allowed record
  active : c'.data.phase = .active → c.data.phase = .active
  isOpen : c'.isOpen = true → c.isOpen = true

theorem Connection.Recedes.refl (allowed : CredentialRecord → Prop) (c : Connection) :
    c.Recedes allowed c :=
  ⟨rfl, .inl rfl, fun h => h, fun h => h⟩

theorem Connection.Recedes.trans {allowed : CredentialRecord → Prop} {c c' c'' : Connection}
    (h : c.Recedes allowed c') (h' : c'.Recedes allowed c'') : c.Recedes allowed c'' where
  credentialId := h'.credentialId.trans h.credentialId
  record := by
    rcases h'.record with hSame | hNew
    · rw [hSame]
      exact h.record
    · exact .inr hNew
  active := fun hActive => h.active (h'.active hActive)
  isOpen := fun hOpen => h.isOpen (h'.isOpen hOpen)

section

variable (allowed : CredentialRecord → Prop) (c : Connection)

/-- A write to the state of a connection that leaves its credential and its
phase. -/
theorem Connection.recedes_withData {f : ConnectionData → ConnectionData}
    (hId : (f c.data).credentialId = c.data.credentialId)
    (hRecord : (f c.data).credentialRecord = c.data.credentialRecord)
    (hPhase : (f c.data).phase = .active → c.data.phase = .active) :
    c.Recedes allowed (c.withData f) :=
  ⟨hId, .inl hRecord, hPhase, fun h => h⟩

theorem Connection.recedes_withState {state : SocketState} (h : state ≠ .open) :
    c.Recedes allowed { c with socket := { c.socket with state := state } } :=
  ⟨rfl, .inl rfl, fun h => h, by simp [Connection.isOpen, h]⟩

theorem Connection.recedes_sendJson (frame : ServerFrame) : c.Recedes allowed (c.sendJson frame) :=
  ⟨c.sendJson_credentialId frame, .inl (c.sendJson_credentialRecord frame),
    by rw [c.sendJson_phase]; exact fun h => h, by simp [Connection.isOpen]⟩

end

theorem transition_active {d : ConnectionData} {phase : ConnectionPhase} (hPhase : phase ≠ .active)
    (h : (transition d phase).1.phase = .active) : d.phase = .active := by
  unfold transition at h
  split at h
  · exact absurd h hPhase
  · exact h

namespace Server

/-- No connection joins the registry, is activated or opened, and only these
records are cached. -/
structure Recedes (records : Nat → CredentialRecord → Prop) (s t : Server World) : Prop where
  registry : ∀ id, id ∈ t.registry → id ∈ s.registry
  connections : ∀ id c', t.connections.get id = some c' →
    (∃ c, s.connections.get id = some c ∧ c.Recedes (records id) c') ∨
      (c'.data.phase ≠ .active ∧
        ∀ record, c'.data.credentialRecord = some record → records id record)

section Recedes

variable {records : Nat → CredentialRecord → Prop}

variable {s t : Server World}

theorem Recedes.of_connections (hRegistry : t.registry = s.registry)
    (hConnections : t.connections = s.connections) : Recedes records s t := by
  refine ⟨fun id => by rw [hRegistry]; exact fun h => h, fun id c' hGet => ?_⟩
  rw [hConnections] at hGet
  exact .inl ⟨c', hGet, .refl _ c'⟩

theorem Recedes.refl (s : Server World) : Recedes records s s := .of_connections rfl rfl

theorem Recedes.trans {u : Server World} (h : Recedes records s t) (h' : Recedes records t u) :
    Recedes records s u where
  registry := fun id hMem => h.registry id (h'.registry id hMem)
  connections := by
    intro id c'' hGet
    rcases h'.connections id c'' hGet with ⟨c', hGet', hLater⟩ | hNew
    · rcases h.connections id c' hGet' with ⟨c, hGet, hFirst⟩ | ⟨hInactive, hRecord⟩
      · exact .inl ⟨c, hGet, hFirst.trans hLater⟩
      · refine .inr ⟨fun hActive => hInactive (hLater.active hActive), ?_⟩
        intro record hSome
        rcases hLater.record with hSame | ⟨record', hSome', hAllowed⟩
        · exact hRecord record (by rw [← hSame]; exact hSome)
        · rw [hSome'] at hSome
          cases hSome
          exact hAllowed
    · exact .inr hNew

section

variable (s : Server World)

theorem recedes_modifyConnection (id : Nat) {f : Connection → Connection}
    (hf : ∀ c, s.connections.get id = some c → c.Recedes (records id) (f c)) :
    Recedes records s (s.modifyConnection id f) := by
  refine ⟨fun _ h => h, fun id' c' hGet => .inl ?_⟩
  rw [connections_modifyConnection] at hGet
  split at hGet
  · next hId =>
    subst hId
    obtain ⟨c, hOld, rfl⟩ := Option.map_eq_some_iff.mp hGet
    exact ⟨c, hOld, hf c hOld⟩
  · exact ⟨c', hGet, .refl _ c'⟩

theorem recedes_sendJson (id : Nat) (frame : ServerFrame) :
    Recedes records s (s.sendJson id frame) :=
  s.recedes_modifyConnection id fun c _ => c.recedes_sendJson _ frame

theorem recedes_clearTimer (timer : Option Nat) : Recedes records s (s.clearTimer timer) :=
  .of_connections (by simp) (by simp)

theorem recedes_forgetRequest (id : Nat) (requestId : String) :
    Recedes records s (s.forgetRequest id requestId) :=
  s.recedes_modifyConnection id fun c _ => c.recedes_withData _ rfl rfl (fun h => h)

theorem recedes_cleanupConnection (id : Nat) : Recedes records s (s.cleanupConnection id) := by
  cases hGet : s.connections.get id with
  | none =>
    rw [cleanupConnection_of_none hGet]
    exact .refl s
  | some c =>
    have hCleared : Recedes records s (((s.clearTimer c.data.authTimer).clearTimer
        c.data.heartbeatTimer).clearRequests c.data.inFlightRequests.values) :=
      .of_connections (by simp) (by simp)
    have hCleaned : ∀ t : Server World, Recedes records t (t.modifyData id cleaned) := by
      intro t
      refine t.recedes_modifyConnection id fun c _ => c.recedes_withData _ ?_ ?_ ?_
      · exact transition_credentialId _ _
      · exact transition_credentialRecord _ _
      · exact transition_active (by simp)
    rw [s.cleanupConnection_eq hGet]
    obtain ⟨hRegistry, hConnections⟩ := hCleared.trans (hCleaned _)
    exact ⟨fun id' hMem => (OrderedSet.mem_erase.mp hMem).1, hConnections⟩

theorem recedes_enter (now : Int) (softLimit hardLimit : Nat) :
    Recedes records s (s.enter now softLimit hardLimit) := by
  refine ⟨fun _ h => h, fun id c' hGet => ?_⟩
  simp only [enter] at hGet
  rcases Arena.get_alloc_cases hGet with ⟨-, rfl⟩ | ⟨-, hGet⟩
  · exact .inr ⟨by simp [createConnectionState], by simp [createConnectionState]⟩
  · exact .inl ⟨c', hGet, .refl _ c'⟩

end

theorem recedes_write (h : Write records s t) : Recedes records s t := by
  have hData : ∀ (u : Server World) (id : Nat) (f : ConnectionData → ConnectionData),
      (∀ d, (f d).credentialId = d.credentialId) →
      (∀ d, (f d).credentialRecord = d.credentialRecord) →
      (∀ d, (f d).phase = .active → d.phase = .active) → Recedes records u (u.modifyData id f) :=
    fun u id f hId hRecord hPhase => u.recedes_modifyConnection id fun c _ =>
      c.recedes_withData _ (hId c.data) (hRecord c.data) (hPhase c.data)
  cases h with
  | count id f hCounts =>
    refine s.recedes_modifyConnection id fun c hGet => ?_
    have hCount := hCounts c hGet
    refine ⟨hCount.credentialId, .inl hCount.credentialRecord, ?_, ?_⟩
    · rw [hCount.phase]
      exact fun h => h
    · simp [Connection.isOpen, hCount.state]
  | notify id frame hNotice => exact s.recedes_sendJson id frame
  | beginClosing id c code hGet hOpen =>
    exact s.recedes_modifyConnection id fun c _ => c.recedes_withState _ (by simp)
  | closed id =>
    have hClosed : Recedes records s (s.modifyConnection id fun c =>
        { c with socket := { c.socket with state := .closed } }) :=
      s.recedes_modifyConnection id fun c _ => c.recedes_withState _ (by simp)
    exact hClosed.trans (recedes_cleanupConnection _ id)
  | cache id record hRecord =>
    refine s.recedes_modifyConnection id fun c _ => ?_
    exact ⟨rfl, .inr ⟨record, rfl, hRecord⟩, fun h => h, fun h => h⟩
  | stopHeartbeat id =>
    unfold stopHeartbeat
    split
    · exact .refl s
    · next c hGet =>
      exact (s.recedes_clearTimer c.data.heartbeatTimer).trans
        (hData _ id _ (fun _ => rfl) (fun _ => rfl) fun _ h => h)
  | dropAuthTimer id c hGet =>
    exact (s.recedes_clearTimer c.data.authTimer).trans
      (hData _ id _ (fun _ => rfl) (fun _ => rfl) fun _ h => h)
  | expireAuth ref id hTimer => exact s.recedes_clearTimer (some ref)
  | expireRequest ref id operation response hTimer =>
    exact (s.recedes_clearTimer (some ref)).trans
      ((recedes_forgetRequest _ id _).trans (recedes_sendJson _ id _))
  | complete id c inflight response hGet hInFlight =>
    exact (s.recedes_clearTimer (some inflight.timer)).trans
      ((recedes_forgetRequest _ id _).trans (recedes_sendJson _ id _))
  | drain id =>
    exact hData s id _ (fun _ => transition_credentialId _ _)
      (fun _ => transition_credentialRecord _ _) fun _ => transition_active (by simp)
  | cleanup id => exact s.recedes_cleanupConnection id
  | enter now softLimit hardLimit => exact s.recedes_enter now softLimit hardLimit
  | enterArmed now softLimit hardLimit =>
    have hArmed : Recedes records (s.enter now softLimit hardLimit)
        ((s.enter now softLimit hardLimit).arm (.authTimeout s.connections.next)) :=
      .of_connections rfl rfl
    exact (s.recedes_enter now softLimit hardLimit).trans (hArmed.trans
      (hData _ _ _ (fun _ => rfl) (fun _ => rfl) fun _ h => h))
  | spawn task hTask => exact .of_connections rfl rfl
  | take ref task hGet hFingerprint hInvalidation => exact .of_connections rfl rfl
  | serverState serverState => exact .of_connections rfl rfl

theorem Writes.recedes (h : Writes records s t) : Recedes records s t :=
  Writes.relates Recedes.refl Recedes.trans (fun _ _ => recedes_write) h

theorem Sends.recedes {l : List (Sending World)} (h : Sends records s l t) :
    Recedes records s t := by
  induction h with
  | quiet hWrites => exact hWrites.recedes
  | send hWrites _ _ ih =>
    refine hWrites.recedes.trans (Recedes.trans ?_ ih)
    refine Recedes.trans ?_ (recedes_sendJson _ _ _)
    exact .of_connections rfl rfl

/-- A record cached afterwards was cached before, or is a new one. -/
theorem Recedes.recordOf (h : Recedes records s t) {id : Nat} {record : CredentialRecord}
    (hRecord : t.recordOf id = some record) :
    s.recordOf id = some record ∨ records id record := by
  unfold Server.recordOf at hRecord ⊢
  obtain ⟨c', hGet, hSome⟩ := Option.bind_eq_some_iff.mp hRecord
  rcases h.connections id c' hGet with ⟨c, hOld, hRecedes⟩ | ⟨-, hNew⟩
  · rcases hRecedes.record with hSame | ⟨record', hSome', hAllowed⟩
    · rw [hOld]
      exact .inl (hSame.symm.trans hSome)
    · rw [hSome'] at hSome
      cases hSome
      exact .inr hAllowed
  · exact .inr (hNew record hSome)

end Recedes

theorem recordOf_move {s t : Server World} (h : Move deps s₀ label s t) {id : Nat}
    {record : CredentialRecord} (hRecord : t.recordOf id = some record) :
    s.recordOf id = some record ∨ s₀.Caches label id record := by
  cases h with
  | write hWrite => exact (recedes_write hWrite).recordOf hRecord
  | sequence sending ref state hState hEmits =>
    unfold sequenceAndSend at hRecord
    rw [recordOf_sendJson] at hRecord
    exact .inl hRecord
  | replay task handshake frame hEvent hTask hFrame =>
    rw [recordOf_sendJson] at hRecord
    exact .inl hRecord
  | respond task id' frame requestId error hEvent hTask hFrame =>
    rw [recordOf_sendJson] at hRecord
    exact .inl hRecord
  | _ => exact .inl hRecord

end Server
end Ws
end Signet
