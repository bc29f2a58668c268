import Signet.OpenClaw.StartAnswers

/-!
# The checkpoint and the consumer

What is at or below the checkpoint on disk is not sent again, so it should have been handed
to the consumer.  The bridge saves the checkpoint of an event before it puts the event into
the queue of deliveries, which is in memory only.

* `CheckpointBehind` — what should hold after every run.
* `Unwritten`, `unwritten_step` — before the first write nothing has been delivered, and
  what is about to be saved has come in a frame.
* `checkpoint_behind_iff` — in every run the checkpoint stays behind exactly when none is
  written.
-/

namespace Signet
namespace OpenClaw

open Kit Machine Schemas

/-! ## Arrivals and deliveries -/

/-- The sequence number of a sequenced frame. -/
def Payload.seq (payload : Payload) : Option Nat :=
  match payload.sequenced with
  | .ok (seq, _) => some seq
  | .error _ => none

/-- An event with the sequence number has come in a frame. -/
def Arrived (h : List BridgeOccurrence) (seq : Nat) : Prop :=
  ∃ o ∈ h, ∃ c data payload, o.label = .message c data ∧ data.payload = some payload ∧
    payload.seq = some seq

/-- The consumer has been given the event by `next`. -/
def Handed (h : List BridgeOccurrence) (seq : Nat) : Prop :=
  ∃ o ∈ h, ∃ call envelope, .answered call (some envelope) ∈ o.out ∧ envelope.seq = seq

/-- What has come and is at or below the checkpoint on disk has been handed to the consumer. -/
def CheckpointBehind (h : List BridgeOccurrence) (s : Bridge) : Prop :=
  ∀ checkpoint, s.persisted = some checkpoint → ∀ seq, Arrived h seq → seq ≤ checkpoint.lastSeq →
    Handed h seq

/-- The step writes no checkpoint. -/
def WritesNothing (_ : Bridge) (label : BridgeLabel) : Prop := ∀ c, label ≠ .written c

/-! ## Before the first write -/

/-- What waits in a connection has come in a frame, and no save has been written. -/
structure Sourced (arrived : Nat → Prop) (connection : Connection) : Prop where
  saving : ∀ save, connection.saving = some save →
    save.written = false ∧ arrived save.checkpoint.lastSeq
  chained : ∀ payload seq, .frame payload ∈ connection.frameChain → payload.seq = some seq →
    arrived seq
  decoding : ∀ task payload seq, (task, some payload) ∈ connection.decoding →
    payload.seq = some seq → arrived seq

/-- Nothing has been written, nothing is to be handed out, and what waits has come. -/
structure Unwritten (arrived : Nat → Prop) (s : Bridge) : Prop where
  persisted : s.persisted = none
  buffer : s.deliveries.buffer = []
  sourced : ∀ c connection, s.connections.get c = some connection → Sourced arrived connection

/-- Nobody is handed an event. -/
def HandsNothing (out : List BridgeObservation) : Prop :=
  ∀ call envelope, .answered call (some envelope) ∉ out

/-- A turn that leaves it so. -/
def StaysUnwritten (arrived : Nat → Prop) (turn : BridgeTurn) : Prop :=
  Unwritten arrived turn.1 ∧ HandsNothing turn.2

variable {config : BridgeConfig} {s t : Bridge} {c : Nat} {connection : Connection}
  {arrived : Nat → Prop}

theorem handsNothing_nil : HandsNothing [] := fun _ _ hMem => by cases hMem

theorem HandsNothing.append {out later : List BridgeObservation} (hFirst : HandsNothing out)
    (hLater : HandsNothing later) : HandsNothing (out ++ later) := by
  intro call envelope hMem
  rcases List.mem_append.mp hMem with hMem | hMem
  · exact hFirst call envelope hMem
  · exact hLater call envelope hMem

/-- Only answers to `next` hand out anything. -/
theorem handsNothing_of_forall {out : List BridgeObservation}
    (hNone : ∀ observation ∈ out, ∀ call envelope, observation ≠ .answered call (some envelope)) :
    HandsNothing out := fun call envelope hMem => hNone _ hMem call envelope rfl

theorem stays_of_same {out : List BridgeObservation} (h : Unwritten arrived s)
    (hPersisted : t.persisted = s.persisted) (hDeliveries : t.deliveries = s.deliveries)
    (hConnections : t.connections = s.connections) (hOut : HandsNothing out) :
    StaysUnwritten arrived (t, out) :=
  ⟨⟨hPersisted.trans h.persisted, hDeliveries ▸ h.buffer, hConnections ▸ h.sourced⟩, hOut⟩

/-- One turn after another. -/
theorem StaysUnwritten.andThen {turn : BridgeTurn} {next : Bridge → BridgeTurn}
    (hFirst : StaysUnwritten arrived turn) (hNext : StaysUnwritten arrived (next turn.1)) :
    StaysUnwritten arrived (Kit.andThen turn next) := ⟨hNext.1, hFirst.2.append hNext.2⟩

theorem emitError_stays (h : Unwritten arrived s) (error : SignetError) :
    StaysUnwritten arrived (emitError s error) :=
  stays_of_same h rfl rfl rfl (handsNothing_of_forall (by simp))

/-- A connection is changed, and what waits in it has come still. -/
theorem Unwritten.modify (h : Unwritten arrived s) {f : Connection → Connection}
    (hKeeps : ∀ connection, Sourced arrived connection → Sourced arrived (f connection)) :
    Unwritten arrived (modifyConnection s c f) := by
  refine ⟨h.persisted, h.buffer, ?_⟩
  intro c' connection' hGet
  have hSame : (s.connections.modify c f).get c' = some connection' := hGet
  rcases Arena.get_modify_cases hSame with ⟨-, before, hBefore, rfl⟩ | ⟨-, hSame⟩
  · exact hKeeps before (h.sourced c' before hBefore)
  · exact h.sourced c' connection' hSame

/-- The connection is changed to one of which the same holds. -/
theorem Unwritten.modify_to {f : Connection → Connection} (h : Unwritten arrived s)
    (hConnection : s.connections.get c = some connection) (hAfter : Sourced arrived (f connection)) :
    Unwritten arrived (modifyConnection s c f) := by
  refine ⟨h.persisted, h.buffer, ?_⟩
  intro c' connection' hGet
  have hSame : (s.connections.modify c f).get c' = some connection' := hGet
  rcases Arena.get_modify_cases hSame with ⟨rfl, before, hBefore, rfl⟩ | ⟨-, hSame⟩
  · rw [hConnection] at hBefore
    cases hBefore
    exact hAfter
  · exact h.sourced c' connection' hSame

/-- Whatever else is changed, what waits is the same. -/
theorem Sourced.of_same {later : Connection} (h : Sourced arrived connection)
    (hSaving : later.saving = connection.saving) (hChain : later.frameChain = connection.frameChain)
    (hDecoding : later.decoding = connection.decoding) : Sourced arrived later :=
  ⟨hSaving ▸ h.saving, hChain ▸ h.chained, hDecoding ▸ h.decoding⟩

section

variable (h : Unwritten arrived s)

include h

theorem resolveConnection_unwritten (c : Nat) (outcome : Outcome) :
    Unwritten arrived (resolveConnection s c outcome) := by
  unfold resolveConnection
  split
  · split
    · exact ⟨h.persisted, h.buffer, h.sourced⟩
    · exact h
  · exact h

theorem settle_unwritten (c : Nat) (outcome : Outcome) :
    Unwritten arrived (settle s c outcome) := by
  have hEnded : Unwritten arrived
      (modifyConnection s c fun connection => { connection with settled := true }) :=
    h.modify fun connection hSourced => hSourced.of_same rfl rfl rfl
  unfold settle
  split
  · exact h
  · split
    · exact h
    · refine resolveConnection_unwritten ?_ c outcome
      split
      · exact ⟨hEnded.persisted, hEnded.buffer, hEnded.sourced⟩
      · exact hEnded

theorem wake_unwritten : Unwritten arrived (wake s) := by
  unfold wake
  split
  · exact ⟨h.persisted, h.buffer, h.sourced⟩
  · exact h

/-- An open state, whatever becomes of the bridge's own variables. -/
theorem Unwritten.of_same (hPersisted : t.persisted = s.persisted)
    (hDeliveries : t.deliveries = s.deliveries) (hConnections : t.connections = s.connections) :
    Unwritten arrived t := ⟨hPersisted.trans h.persisted, hDeliveries ▸ h.buffer,
  hConnections ▸ h.sourced⟩

end

/-! ### Frames -/

theorem handleSequencedFrame_stays (h : Unwritten arrived s) {payload : Payload}
    (hPayload : ∀ seq, payload.seq = some seq → arrived seq) :
    StaysUnwritten arrived (handleSequencedFrame s c connection payload) := by
  unfold handleSequencedFrame
  split
  · exact emitError_stays h _
  · next seq event hSequenced =>
    split
    · split
      · exact ⟨h, handsNothing_nil⟩
      · refine ⟨h.modify ?_, handsNothing_nil⟩
        intro connection hSourced
        refine ⟨?_, hSourced.chained, hSourced.decoding⟩
        rintro save hSave
        cases hSave
        exact ⟨rfl, hPayload seq (by simp [Payload.seq, hSequenced])⟩
    · exact emitError_stays h _

theorem onClosed_stays (h : Unwritten arrived s) (code : Nat) (reason : String) :
    StaysUnwritten arrived (onClosed s c connection code reason) := by
  have hSettled : ∀ outcome state,
      StaysUnwritten arrived (settle { s with bridgeState := state } c outcome, []) := by
    intro outcome state
    have hState : Unwritten arrived { s with bridgeState := state } := h.of_same rfl rfl rfl
    exact ⟨settle_unwritten hState c outcome, handsNothing_nil⟩
  unfold onClosed
  split
  · exact ⟨h, handsNothing_nil⟩
  · split
    · exact hSettled _ _
    · split
      · exact hSettled _ _
      · split
        · exact (emitError_stays h _).andThen (hSettled _ _)
        · exact hSettled _ _

def LinkArrived (arrived : Nat → Prop) : Link → Prop
  | .frame payload => ∀ seq, payload.seq = some seq → arrived seq
  | .closing _ _ => True

section

variable (h : Unwritten arrived s)

include h

theorem runLink_stays {link : Link} (hLink : LinkArrived arrived link) :
    StaysUnwritten arrived (runLink s c connection link) := by
  cases link with
  | frame payload => exact handleSequencedFrame_stays h hLink
  | closing code reason => exact onClosed_stays h code reason

theorem appendLink_stays {link : Link} (hLink : LinkArrived arrived link) :
    StaysUnwritten arrived (appendLink s c connection link) := by
  unfold appendLink
  split
  · exact runLink_stays h hLink
  · refine ⟨h.modify ?_, handsNothing_nil⟩
    intro connection hSourced
    refine ⟨hSourced.saving, ?_, hSourced.decoding⟩
    intro payload seq hMem hSeq
    rcases List.mem_append.mp hMem with hMem | hMem
    · exact hSourced.chained payload seq hMem hSeq
    · cases List.mem_singleton.mp hMem
      exact hLink seq hSeq

theorem clearAuthTimeout_unwritten (c : Nat) : Unwritten arrived (clearAuthTimeout s c) :=
  h.modify fun _ hSourced => hSourced.of_same rfl rfl rfl

theorem authenticate_stays (credentialId operatorId : String) :
    StaysUnwritten arrived (authenticate s c connection credentialId operatorId) := by
  have hState : Unwritten arrived { s with bridgeState := .connected } := h.of_same rfl rfl rfl
  have hConnected : Unwritten arrived (modifyConnection { s with bridgeState := .connected } c
      fun connection => { connection with
        authenticated := true, credentialId := some credentialId, operatorId := some operatorId }) :=
    hState.modify fun _ hSourced => hSourced.of_same rfl rfl rfl
  unfold authenticate
  dsimp only
  split
  · exact ⟨hConnected, handsNothing_nil⟩
  · refine ⟨hConnected.of_same rfl rfl rfl, ?_⟩
    split
    · exact handsNothing_nil
    · exact handsNothing_of_forall (by simp)

theorem onAuthenticatedFrame_stays (credentialId operatorId : String) :
    StaysUnwritten arrived
      (onAuthenticatedFrame config s c connection credentialId operatorId) := by
  have hCleared := clearAuthTimeout_unwritten h c
  unfold onAuthenticatedFrame
  split
  · exact ⟨h, handsNothing_nil⟩
  · split
    · exact (emitError_stays hCleared _).andThen
        ⟨settle_unwritten hCleared c _, handsNothing_of_forall (by simp)⟩
    · exact authenticate_stays hCleared credentialId operatorId

theorem onAuthErrorFrame_stays (code : Int) (message : String) :
    StaysUnwritten arrived (onAuthErrorFrame s c connection code message) := by
  have hCleared := clearAuthTimeout_unwritten h c
  unfold onAuthErrorFrame
  split
  · exact ⟨h, handsNothing_nil⟩
  · exact (emitError_stays hCleared _).andThen ⟨settle_unwritten hCleared c _, handsNothing_nil⟩

theorem handleFrame_stays {payload : Payload}
    (hPayload : ∀ seq, payload.seq = some seq → arrived seq) :
    StaysUnwritten arrived (handleFrame s c connection payload) := by
  unfold handleFrame
  split
  · exact emitError_stays h _
  · exact appendLink_stays h hPayload

theorem handlePayload_stays {payload : Option Payload}
    (hPayload : ∀ frame, payload = some frame → ∀ seq, frame.seq = some seq → arrived seq) :
    StaysUnwritten arrived (handlePayload config s c connection payload) := by
  unfold handlePayload
  split
  · exact emitError_stays h _
  · next frame =>
    split
    · exact handleFrame_stays h (hPayload frame rfl)
    · split
      · exact onAuthenticatedFrame_stays h _ _
      · exact onAuthErrorFrame_stays h _ _
      · exact handleFrame_stays h (hPayload frame rfl)

end

/-! ### The loop -/

theorem closeBridge_stays (h : Unwritten arrived s) : StaysUnwritten arrived (closeBridge s) :=
  ⟨⟨h.persisted, h.buffer, h.sourced⟩, handsNothing_of_forall (by simp [closeBridge, AsyncQueue.complete])⟩

section

variable (h : Unwritten arrived s) (loop : Loop)

include h

theorem returnLoop_stays :
    StaysUnwritten arrived (returnLoop s loop) := closeBridge_stays (h.of_same rfl rfl rfl)

theorem answerInitial_stays (error : SignetError) :
    StaysUnwritten arrived (answerInitial s loop error) := by
  unfold answerInitial
  refine ⟨h.of_same rfl rfl rfl, ?_⟩
  split
  · exact handsNothing_nil
  · exact handsNothing_of_forall (by simp)

theorem breakLoop_stays : StaysUnwritten arrived (breakLoop s loop) :=
  (answerInitial_stays h loop _).andThen (returnLoop_stays (answerInitial_stays h loop _).1 _)

/-- A new connection has nothing that waits. -/
theorem connectAndPump_stays (opens : Bool) :
    StaysUnwritten arrived (connectAndPump config s loop opens) := by
  unfold connectAndPump
  dsimp only
  split
  · refine ⟨⟨h.persisted, h.buffer, ?_⟩, handsNothing_of_forall (by simp)⟩
    intro c connection hGet
    have hGet' : (s.connections.alloc (newConnection (s.activeConnectionId + 1)
        loop.resumeCheckpoint)).get c = some connection := hGet
    rcases Arena.get_alloc_cases hGet' with ⟨-, rfl⟩ | ⟨-, hGet'⟩
    · refine ⟨?_, ?_, ?_⟩
      · intro save hSave
        cases hSave
      · intro payload seq hMem
        cases hMem
      · intro task payload seq hMem
        cases hMem
    · exact h.sourced c connection hGet'
  · exact ⟨h.of_same rfl rfl rfl, handsNothing_nil⟩

theorem enterLoop_stays (opens : Bool) :
    StaysUnwritten arrived (enterLoop config s loop opens) := by
  unfold enterLoop
  split
  · exact breakLoop_stays h loop
  · exact connectAndPump_stays h loop opens

theorem afterRetryable_stays : StaysUnwritten arrived (afterRetryable config s loop) := by
  unfold afterRetryable
  split
  · exact breakLoop_stays h loop
  · split
    · exact (emitError_stays h _).andThen (returnLoop_stays h loop)
    · split
      · exact (emitError_stays h _).andThen (returnLoop_stays h loop)
      · exact ⟨h.of_same rfl rfl rfl, handsNothing_nil⟩

theorem afterFinal_stays (error : SignetError) :
    StaysUnwritten arrived (afterFinal s loop error) := by
  have hAnswered := answerInitial_stays h loop error
  refine hAnswered.andThen ?_
  dsimp only
  split
  · exact breakLoop_stays hAnswered.1 _
  · exact returnLoop_stays hAnswered.1 _

theorem afterLoad_stays (result : Except SignetError (Option Checkpoint)) (opens : Bool) :
    StaysUnwritten arrived (afterLoad config s loop result opens) := by
  unfold afterLoad
  split
  · next error =>
    refine (emitError_stays h error).andThen ?_
    have hAnswered := answerInitial_stays h loop error
    exact hAnswered.andThen (returnLoop_stays hAnswered.1 _)
  · exact enterLoop_stays h _ opens

end

/-! ### Every step -/

theorem stop_stays (h : Unwritten arrived s) : StaysUnwritten arrived (stop s) := by
  have hWake : Unwritten arrived (wake { s with stopped := true }) :=
    wake_unwritten (h.of_same rfl rfl rfl)
  unfold stop
  dsimp only
  split
  · exact ⟨hWake, handsNothing_nil⟩
  · refine ⟨?_, handsNothing_of_forall (by simp)⟩
    dsimp only
    split
    · split
      · exact settle_unwritten hWake _ _
      · exact hWake
    · exact hWake

/-- Before the first write a call of `next` finds nothing. -/
theorem nextDelivery_stays (h : Unwritten arrived s) : StaysUnwritten arrived (nextDelivery s) := by
  unfold nextDelivery AsyncQueue.next
  split
  · next value rest hBuffer =>
    rw [h.buffer] at hBuffer
    cases hBuffer
  · split
    · exact ⟨⟨h.persisted, rfl, h.sourced⟩, handsNothing_of_forall (by simp)⟩
    · exact ⟨⟨h.persisted, rfl, h.sourced⟩, handsNothing_nil⟩

theorem dropTask_sourced (task : Nat) (h : Sourced arrived connection) :
    Sourced arrived (connection.dropTask task) := by
  refine ⟨h.saving, h.chained, ?_⟩
  intro other payload seq hMem
  exact h.decoding other payload seq (List.mem_filter.mp hMem).1

theorem failSave_stays (h : Unwritten arrived s) (error : SignetError) :
    StaysUnwritten arrived (failSave s c error) := by
  have hDropped : Unwritten arrived
      (modifyConnection s c fun connection => { connection with saving := none }) := by
    refine h.modify fun _ hSourced => ⟨?_, hSourced.chained, hSourced.decoding⟩
    intro save hSave
    cases hSave
  have hFailed : Unwritten arrived
      { modifyConnection s c fun connection => { connection with saving := none } with
        fatalCheckpointError := some error } := hDropped.of_same rfl rfl rfl
  refine (emitError_stays hFailed error).andThen ⟨hFailed, handsNothing_of_forall ?_⟩
  simp

/-- A message brings only what has come. -/
theorem onMessage_stays (h : Unwritten arrived s) {data : MessageData}
    (hData : ∀ payload, data.payload = some payload → ∀ seq, payload.seq = some seq → arrived seq) :
    StaysUnwritten arrived (onMessage config s c connection data) := by
  cases data with
  | text payload =>
    simp only [onMessage]
    split
    · exact handlePayload_stays h hData
    · exact ⟨h, handsNothing_nil⟩
  | blob payload =>
    simp only [onMessage]
    split
    · refine ⟨h.modify ?_, handsNothing_nil⟩
      intro connection hSourced
      refine ⟨hSourced.saving, hSourced.chained, ?_⟩
      intro task frame seq hMem hSeq
      rcases List.mem_append.mp hMem with hMem | hMem
      · exact hSourced.decoding task frame seq hMem hSeq
      · cases List.mem_singleton.mp hMem
        exact hData frame rfl seq hSeq
    · exact ⟨h, handsNothing_nil⟩

/-- What a blob that is being decoded says has come. -/
theorem Sourced.of_task {task : Nat} {payload : Option Payload} (h : Sourced arrived connection)
    (hTask : decodingTask connection task = some payload) :
    ∀ frame, payload = some frame → ∀ seq, frame.seq = some seq → arrived seq := by
  rintro frame rfl seq hSeq
  obtain ⟨before, after, hEntry, -⟩ := List.lookup_eq_some_iff.mp hTask
  refine h.decoding task frame seq ?_ hSeq
  rw [hEntry]
  simp

variable {label : BridgeLabel} {out : List BridgeObservation}

/-- The message a step brings, if it is one, has come. -/
def BringsArrived (arrived : Nat → Prop) (label : BridgeLabel) : Prop :=
  ∀ c data payload seq, label = .message c data → data.payload = some payload →
    payload.seq = some seq → arrived seq

/-- Every event of a connection but a write. -/
theorem connectionStep_stays (h : Unwritten arrived s)
    (hConnection : s.connections.get c = some connection) (hWrites : WritesNothing s label)
    (hBrings : BringsArrived arrived label)
    (hStep : connectionStep config s c connection label = some (t, out)) :
    StaysUnwritten arrived (t, out) := by
  have hSourced := h.sourced c connection hConnection
  unfold connectionStep at hStep
  split at hStep
  · split at hStep
    · cases hStep
    · rw [← Option.some.inj hStep]
      have hOpened : Unwritten arrived
          (modifyConnection s c fun entry => { entry with opened := true }) :=
        h.modify fun _ hEntry => hEntry.of_same rfl rfl rfl
      unfold onOpen
      split
      · exact ⟨hOpened.of_same rfl rfl rfl, handsNothing_of_forall (by simp)⟩
      · exact ⟨hOpened, handsNothing_nil⟩
  · next c' data =>
    split at hStep
    · rw [← Option.some.inj hStep]
      exact onMessage_stays h fun payload hPayload seq hSeq =>
        hBrings c' data payload seq rfl hPayload hSeq
    · cases hStep
  · next c' task =>
    obtain ⟨payload, hTask, hStep⟩ := Option.bind_eq_some_iff.mp hStep
    rw [← Option.some.inj hStep]
    exact handlePayload_stays (h.modify fun _ hEntry => dropTask_sourced task hEntry)
      (hSourced.of_task hTask)
  · next c' task =>
    obtain ⟨payload, -, hStep⟩ := Option.bind_eq_some_iff.mp hStep
    rw [← Option.some.inj hStep]
    exact ⟨h.modify fun _ hEntry => dropTask_sourced task hEntry, handsNothing_nil⟩
  · split at hStep
    · next link rest hSaving hChain =>
      rw [← Option.some.inj hStep]
      have hRest : Sourced arrived { connection with frameChain := rest } := by
        refine ⟨hSourced.saving, ?_, hSourced.decoding⟩
        intro payload seq hMem
        refine hSourced.chained payload seq ?_
        rw [hChain]
        exact List.mem_cons_of_mem link hMem
      refine runLink_stays (h.modify_to hConnection hRest) ?_
      cases link with
      | frame payload =>
        intro seq
        refine hSourced.chained payload seq ?_
        rw [hChain]
        exact List.mem_cons_self
      | closing code reason => exact trivial
    · cases hStep
  · next c' => exact absurd rfl (hWrites c')
  · split at hStep
    · next save hSaving =>
      -- The save has not been written, so that it cannot have gone well.
      rw [if_neg (by simp [(hSourced.saving save hSaving).1])] at hStep
      cases hStep
    · rw [← Option.some.inj hStep]
      exact failSave_stays h _
    · cases hStep
  · split at hStep
    · rw [← Option.some.inj hStep]
      have hCleared := clearAuthTimeout_unwritten h c
      unfold onAuthTimeout
      split
      · exact ⟨hCleared, handsNothing_nil⟩
      · exact ⟨settle_unwritten hCleared c _, handsNothing_of_forall (by simp)⟩
    · cases hStep
  · split at hStep
    · cases hStep
    · rw [← Option.some.inj hStep]
      have hClosed : Unwritten arrived
          (modifyConnection s c fun entry => { entry with closed := true, authTimeout := false }) :=
        h.modify fun _ hEntry => hEntry.of_same rfl rfl rfl
      exact appendLink_stays hClosed trivial
  · cases hStep

/-- **Without a write nothing is handed out, and the checkpoint stays where it is.** -/
theorem unwritten_step (h : Unwritten arrived s) (hWrites : WritesNothing s label)
    (hBrings : BringsArrived arrived label) (hStep : bridgeStep config s label = some (t, out)) :
    StaysUnwritten arrived (t, out) := by
  cases label with
  | start =>
    rw [← Option.some.inj hStep]
    unfold start
    dsimp only
    split
    · exact ⟨h.of_same rfl rfl rfl, handsNothing_of_forall (by simp)⟩
    · exact ⟨⟨h.persisted, rfl, h.sourced⟩, handsNothing_nil⟩
  | stop =>
    rw [← Option.some.inj hStep]
    exact stop_stays h
  | next =>
    rw [← Option.some.inj hStep]
    exact nextDelivery_stays h
  | crash =>
    rw [← Option.some.inj hStep]
    refine ⟨⟨h.persisted, rfl, ?_⟩, handsNothing_nil⟩
    intro c connection hGet
    have hNone : (Arena.empty : Arena Connection).get c = some connection := hGet
    rw [Arena.get_empty] at hNone
    cases hNone
  | loaded failure opens =>
    obtain ⟨loop, -, hStep⟩ := Option.bind_eq_some_iff.mp hStep
    split at hStep
    · rw [← Option.some.inj hStep]
      exact afterLoad_stays h loop _ opens
    · cases hStep
  | continueLoop opens =>
    obtain ⟨loop, -, hStep⟩ := Option.bind_eq_some_iff.mp hStep
    split at hStep
    · rw [← Option.some.inj hStep]
      exact afterRetryable_stays h _
    · rw [← Option.some.inj hStep]
      exact afterFinal_stays h _ _
    · rw [← Option.some.inj hStep]
      exact enterLoop_stays h loop opens
    · cases hStep
  | timer =>
    obtain ⟨loop, -, hStep⟩ := Option.bind_eq_some_iff.mp hStep
    split at hStep
    · rw [← Option.some.inj hStep]
      exact ⟨wake_unwritten h, handsNothing_nil⟩
    · cases hStep
  | loopCleared =>
    obtain ⟨loop, -, hStep⟩ := Option.bind_eq_some_iff.mp hStep
    split at hStep
    · rw [← Option.some.inj hStep]
      exact ⟨h.of_same rfl rfl rfl, handsNothing_nil⟩
    · cases hStep
  | socketOpen c | message c data | decoded c task | decodeFailed c task | advance c | written c
  | saved c failure | authTimeout c | socketClose c code reason =>
    obtain ⟨connection, hConnection, hStep⟩ := Option.bind_eq_some_iff.mp hStep
    exact connectionStep_stays h hConnection hWrites hBrings hStep

/-! ## Every run -/

variable {h : List BridgeOccurrence}

theorem Arrived.mono {h' : List BridgeOccurrence} {seq : Nat} (hArrived : Arrived h seq)
    (hSubset : ∀ o ∈ h, o ∈ h') : Arrived h' seq := by
  obtain ⟨o, hMem, hRest⟩ := hArrived
  exact ⟨o, hSubset o hMem, hRest⟩

theorem Unwritten.mono {later : Nat → Prop} (hState : Unwritten arrived s)
    (hArrived : ∀ seq, arrived seq → later seq) : Unwritten later s := by
  refine ⟨hState.persisted, hState.buffer, ?_⟩
  intro c connection hGet
  have hSourced := hState.sourced c connection hGet
  refine ⟨?_, ?_, ?_⟩
  · intro save hSave
    exact ⟨(hSourced.saving save hSave).1, hArrived _ (hSourced.saving save hSave).2⟩
  · intro payload seq hMem hSeq
    exact hArrived seq (hSourced.chained payload seq hMem hSeq)
  · intro task payload seq hMem hSeq
    exact hArrived seq (hSourced.decoding task payload seq hMem hSeq)

/-- What holds after a run that has written nothing. -/
structure Fresh (h : List BridgeOccurrence) (s : Bridge) : Prop where
  state : Unwritten (Arrived h) s
  handed : ∀ seq, ¬Handed h seq

theorem fresh_init : Fresh [] createBridge := by
  refine ⟨⟨rfl, rfl, ?_⟩, ?_⟩
  · intro c connection hGet
    have hNone : (Arena.empty : Arena Connection).get c = some connection := hGet
    rw [Arena.get_empty] at hNone
    cases hNone
  · rintro seq ⟨o, hMem, -⟩
    cases hMem

theorem fresh_step (hFresh : Fresh h s) (hWrites : WritesNothing s label)
    (hStep : bridgeStep config s label = some (t, out)) : Fresh (h ++ [⟨s, label, out⟩]) t := by
  have hEarlier : Unwritten (Arrived (h ++ [⟨s, label, out⟩])) s :=
    hFresh.state.mono fun seq hSeq => hSeq.mono fun o hMem => List.mem_append_left _ hMem
  have hBrings : BringsArrived (Arrived (h ++ [⟨s, label, out⟩])) label := by
    intro c data payload seq hLabel hPayload hSeq
    exact ⟨⟨s, label, out⟩, by simp, c, data, payload, hLabel, hPayload, hSeq⟩
  have hStays := unwritten_step hEarlier hWrites hBrings hStep
  refine ⟨hStays.1, ?_⟩
  rintro seq ⟨o, hMem, call, envelope, hAnswer, hSeq⟩
  rcases List.mem_append.mp hMem with hMem | hMem
  · exact hFresh.handed seq ⟨o, hMem, call, envelope, hAnswer, hSeq⟩
  · cases List.mem_singleton.mp hMem
    exact hStays.2 call envelope hAnswer

theorem fresh_run (hRun : (bridgeMachine config).Runs h s)
    (hMeet : AllMeet WritesNothing h) : Fresh h s :=
  hRun.invariant fresh_init
    (fun _ _ _ _ _ _ _ hFresh hWrites hStep => fresh_step hFresh hWrites hStep) hMeet

/-- Before the first checkpoint is written, none can be ahead. -/
theorem Fresh.checkpointBehind (hFresh : Fresh h s) : CheckpointBehind h s := by
  intro checkpoint hPersisted
  rw [hFresh.state.persisted] at hPersisted
  cases hPersisted

/-- The first write is of an event that has come and that nobody has been given. -/
theorem Fresh.ahead_of_written (hFresh : Fresh h s)
    (hStep : bridgeStep config s (.written c) = some (t, out)) :
    ¬CheckpointBehind (h ++ [⟨s, .written c, out⟩]) t := by
  obtain ⟨connection, hConnection, hStep⟩ := Option.bind_eq_some_iff.mp hStep
  simp only [connectionStep] at hStep
  split at hStep
  · next save hSaving =>
    split at hStep
    · cases hStep
    · cases hStep
      have hArrived := ((hFresh.state.sourced c connection hConnection).saving save hSaving).2
      intro hBehind
      obtain ⟨o, hMem, call, envelope, hAnswer, hSeq⟩ := hBehind save.checkpoint rfl _
        (hArrived.mono fun o hMem => List.mem_append_left _ hMem) le_rfl
      rcases List.mem_append.mp hMem with hMem | hMem
      · exact hFresh.handed _ ⟨o, hMem, call, envelope, hAnswer, hSeq⟩
      · cases List.mem_singleton.mp hMem
        cases hAnswer
  · cases hStep

/-- **In every run the checkpoint is behind the consumer throughout exactly when the bridge
writes none.**  The write comes before the push, and the push before the call of `next`. -/
theorem checkpoint_behind_iff {s : Bridge} (hRun : (bridgeMachine config).Runs h s) :
    (∀ h' t, (bridgeMachine config).Runs h' t → h' <+: h → CheckpointBehind h' t) ↔
      AllMeet WritesNothing h := by
  constructor
  · intro hBehind
    induction hRun with
    | start => simp
    | @step h₀ t t' label out hRun' hTaken ih =>
      have hMeet := ih fun h' u hRun'' hPrefix =>
        hBehind h' u hRun'' (hPrefix.trans (List.prefix_append _ _))
      refine (allMeet_snoc _ _ _).mpr ⟨hMeet, ?_⟩
      rintro c rfl
      exact (fresh_run hRun' hMeet).ahead_of_written hTaken
        (hBehind _ _ (hRun'.step hTaken) List.prefix_rfl)
  · intro hMeet h' t hRun' hPrefix
    refine (fresh_run hRun' ?_).checkpointBehind
    intro o hMem
    exact hMeet o (hPrefix.subset hMem)

/-! ## Runs on fixed inputs -/

/-- A connection is authenticated and lost, and nothing has come. -/
def comesNothing : List BridgeLabel :=
  [.start, .loaded none true, .socketOpen 0, .message 0 (.text (some authenticatedPayload)), .next,
    .socketClose 0 1006 ""]

theorem comesNothing_isSome : (sampleBridge.exec sampleBridge.init comesNothing).isSome = true := by
  decide

theorem comesNothing_behind :
    CheckpointBehind (sampleBridge.outcome sampleBridge.init comesNothing comesNothing_isSome).1
      (sampleBridge.outcome sampleBridge.init comesNothing comesNothing_isSome).2 := by
  have hRun := runs_of_exec (exec_outcome comesNothing_isSome)
  refine (@checkpoint_behind_iff sampleConfig _ _ hRun).mpr ?_ _ _ hRun List.prefix_rfl
  have hLabels := exec_labels (exec_outcome comesNothing_isSome)
  intro o hMem c hWritten
  have hLabel : o.label ∈ comesNothing := hLabels ▸ List.mem_map_of_mem hMem
  rw [hWritten] at hLabel
  simp [comesNothing] at hLabel

def firstFrame : Payload :=
  ⟨none, none, none, .ok (1, .credentialIssued "cred_0011223344556677" "op_0011223344556677")⟩

/-- An event is saved and queued, and the bridge is stopped and started anew before anybody
asks for it. -/
def restartsUnread : List BridgeLabel :=
  [.start, .loaded none true, .socketOpen 0, .message 0 (.text (some authenticatedPayload)),
    .message 0 (.text (some firstFrame)), .written 0, .saved 0 none, .stop, .continueLoop true,
    .loopCleared, .start, .loaded none true, .socketOpen 1]

theorem restartsUnread_ahead :
    sampleBridge.Executes restartsUnread fun h s =>
      outputs h =
        [.socketCreated 0 sampleConfig.wsUrl, .sent 0 "token" none, .started 0 (.ok ()),
          .pushed (createEnvelope "cred_0011223344556677" "op_0011223344556677" 1
            (.credentialIssued "cred_0011223344556677" "op_0011223344556677")),
          .closing 0 1000 "Bridge stopping", .socketCreated 1 sampleConfig.wsUrl,
          .sent 1 "token" (some 1)] ∧
        s.persisted = some ⟨"cred_0011223344556677", 1⟩ ∧ s.deliveries.buffer = [] := by
  decide

/-- The signet is asked for what follows the event, which nobody has been given and which is
no longer in the queue. -/
theorem checkpoint_ahead :
    ∃ h s, sampleBridge.Runs h s ∧ ¬CheckpointBehind h s ∧ s.deliveries.buffer = [] ∧
      .sent 1 "token" (some 1) ∈ outputs h := by
  obtain ⟨h, s, hLabels, hRun, hOut, hPersisted, hEmpty⟩ := restartsUnread_ahead.exists_run
  refine ⟨h, s, hRun, ?_, hEmpty, ?_⟩
  · intro hBehind
    have hArrived : Arrived h 1 := by
      have hFrame : BridgeLabel.message 0 (.text (some firstFrame)) ∈ restartsUnread := by
        simp [restartsUnread]
      rw [← hLabels] at hFrame
      obtain ⟨o, hMem, hLabel⟩ := List.mem_map.mp hFrame
      exact ⟨o, hMem, 0, .text (some firstFrame), firstFrame, hLabel, rfl, rfl⟩
    obtain ⟨o, hMem, call, envelope, hAnswer, -⟩ := hBehind _ hPersisted 1 hArrived le_rfl
    have hSeen : .answered call (some envelope) ∈ outputs h :=
      List.mem_flatMap.mpr ⟨o, hMem, hAnswer⟩
    rw [hOut] at hSeen
    simp at hSeen
  · rw [hOut]
    simp

end OpenClaw
end Signet
