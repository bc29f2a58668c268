import Signet.Ws.Handshake
import Signet.Ws.Moves

/-!
# Where the frames come from

A message is projected once, when it is broadcast, and kept for replay as it was
projected.  Over every run of the server, each message frame on a socket, in a
replay state or waiting to be replayed is what the projector made of an event
broadcast to the credential, with an active record some lookup had answered.

* `Sourced` — the origin of an event that is sequenced.
* `Provenance` — the invariant.
* `provenance_of_runs` — it holds in every state a run reaches.
-/

namespace Signet
namespace Ws

open Kit Schemas Sessions

variable {World : Type}

/-- The event has been handed to `broadcast` for the credential. -/
def Broadcasted (h : ServerHistory World) (credentialId : String) (event : SignetEvent) : Prop :=
  ∃ o ∈ h, o.label.event = .broadcast credentialId event

def Answered (h : ServerHistory World) (record : CredentialRecord) : Prop :=
  ∃ o ∈ h, ∃ task, o.label.event = .tokenLookedUp task (some (.ok record)) ∨
    o.label.event = .credentialLookedUp task (some (.ok record))

/-- The event is the projection of an event broadcast to the credential, in the
world of a step taken and with an active record a lookup had answered. -/
def Projected (deps : WsServerDeps World) (h : ServerHistory World) (credentialId : String)
    (event : SignetEvent) : Prop :=
  ∃ original record world, Broadcasted h credentialId original ∧ Answered h record ∧
    record.status = .active ∧ (∃ o ∈ h, o.label.world = world) ∧
    deps.project world original record = some event

/-- Every event that is sequenced is a projected one, or no message. -/
def Sourced (deps : WsServerDeps World) (h : ServerHistory World) (credentialId : String)
    (event : SignetEvent) : Prop :=
  Projected deps h credentialId event ∨ ∀ message, event ≠ .messageVisible message

section Monotone

variable {deps : WsServerDeps World} {h h' : ServerHistory World} (hSub : ∀ o ∈ h, o ∈ h')
include hSub

theorem broadcasted_mono {credentialId : String} {event : SignetEvent}
    (hEvent : Broadcasted h credentialId event) : Broadcasted h' credentialId event := by
  obtain ⟨o, ho, hLabel⟩ := hEvent
  exact ⟨o, hSub o ho, hLabel⟩

theorem answered_mono {record : CredentialRecord} (hRecord : Answered h record) :
    Answered h' record := by
  obtain ⟨o, ho, task, hLabel⟩ := hRecord
  exact ⟨o, hSub o ho, task, hLabel⟩

theorem sourced_mono {credentialId : String} {event : SignetEvent}
    (hEvent : Sourced deps h credentialId event) : Sourced deps h' credentialId event := by
  rcases hEvent with ⟨original, record, world, hOriginal, hRecord, hActive, ⟨o, ho, hWorld⟩,
    hProject⟩ | hOther
  · exact .inl ⟨original, record, world, broadcasted_mono hSub hOriginal,
      answered_mono hSub hRecord, hActive, ⟨o, hSub o ho, hWorld⟩, hProject⟩
  · exact .inr hOther

end Monotone

namespace Server

/-- Where everything that may reach a socket comes from. -/
structure Provenance (deps : WsServerDeps World) (h : ServerHistory World) (s : Server World) :
    Prop where
  cells : ∀ ref state, s.cells.get ref = some state → ∀ frame ∈ state.frames,
    Sourced deps h state.owner frame.event
  states : ∀ credentialId ref, s.credentialStates.get credentialId = some ref →
    ∃ state, s.cells.get ref = some state ∧ state.owner = credentialId
  attached : ∀ id ref, s.attachment id = some ref →
    ∃ state, s.cells.get ref = some state ∧ s.credentialIdOf id = some state.owner
  records : ∀ id record, s.recordOf id = some record → Answered h record
  handshakes : ∀ task handshake, s.tasks.get task = some (.authFingerprint handshake) →
    ∀ frame ∈ handshake.resume.replayFrames,
      Sourced deps h handshake.credential.credentialId frame.event
  queued : ∀ credentialId pending, s.pendingInvalidations.get credentialId = some pending →
    ∀ offered ∈ pending.events, Broadcasted h credentialId offered.event
  dispatched : ∀ credentialId offered, (credentialId, offered) ∈ s.dispatched →
    Broadcasted h credentialId offered.event
  sent : ∀ id, ∀ frame ∈ s.sequencedOn id, ∃ credentialId,
    Sourced deps h credentialId frame.event

variable {deps : WsServerDeps World} {h : ServerHistory World}

variable {id : Nat} {s t : Server World} {state : CredentialReplayState World}
  {label : ServerLabel World}

theorem Provenance.mono {h' : ServerHistory World} (hSub : ∀ o ∈ h, o ∈ h')
    (hSource : Provenance deps h s) : Provenance deps h' s where
  cells := fun ref state hState frame hFrame =>
    sourced_mono hSub (hSource.cells ref state hState frame hFrame)
  states := hSource.states
  attached := hSource.attached
  records := fun id record hRecord => answered_mono hSub (hSource.records id record hRecord)
  handshakes := fun task handshake hTask frame hFrame =>
    sourced_mono hSub (hSource.handshakes task handshake hTask frame hFrame)
  queued := fun credentialId pending hPending offered hOffered =>
    broadcasted_mono hSub (hSource.queued credentialId pending hPending offered hOffered)
  dispatched := fun credentialId offered hMem =>
    broadcasted_mono hSub (hSource.dispatched credentialId offered hMem)
  sent := by
    intro id frame hFrame
    obtain ⟨credentialId, hEvent⟩ := hSource.sent id frame hFrame
    exact ⟨credentialId, sourced_mono hSub hEvent⟩

theorem provenance_create (deps : WsServerDeps World) (h : ServerHistory World) :
    Provenance deps h Server.create := by
  constructor <;> intros <;> contradiction

theorem Provenance.of_sameReplay (hSource : Provenance deps h s) (hSame : SameReplay s t)
    (hRecords : ∀ id record, t.recordOf id = some record →
      s.recordOf id = some record ∨ Answered h record)
    (hQueued : ∀ credentialId pending, t.pendingInvalidations.get credentialId = some pending →
      ∀ offered ∈ pending.events, Broadcasted h credentialId offered.event)
    (hDispatched : ∀ credentialId offered, (credentialId, offered) ∈ t.dispatched →
      Broadcasted h credentialId offered.event) :
    Provenance deps h t where
  cells := by
    rw [hSame.cells]
    exact hSource.cells
  states := by
    intro credentialId ref hGet
    rw [hSame.cells]
    exact hSource.states credentialId ref (hSame.oldStates credentialId ref hGet)
  attached := by
    intro id ref hGet
    rw [hSame.cells, hSame.credentialIdOf]
    exact hSource.attached id ref (by rwa [hSame.attachment] at hGet)
  records := by
    intro id record hRecord
    rcases hRecords id record hRecord with hOld | hNew
    · exact hSource.records id record hOld
    · exact hNew
  handshakes := fun task handshake hTask =>
    hSource.handshakes task handshake ((hSame.handshakes task handshake).mp hTask)
  queued := hQueued
  dispatched := hDispatched
  sent := by
    intro id
    rw [hSame.sequencedOn]
    exact hSource.sent id

/-- Where an event comes from when it is sequenced. -/
theorem sourced_of_emits {world : World} {sending : Sending World} (hSource : Provenance deps h s)
    (hWorld : ∃ o ∈ h, o.label.world = world) (hEmits : Emits deps s world sending) {ref : Nat}
    (hRef : s.attachment sending.conn = some ref) (hState : s.cells.get ref = some state) :
    Sourced deps h state.owner sending.event := by
  cases hEmits with
  | broadcast conn credentialId offered c credential event hGet hId hRecord hStatus hProject
      hDispatched =>
      obtain ⟨state', hState', hOwner⟩ := hSource.attached conn ref hRef
      rw [hState] at hState'
      cases hState'
      have hCredential : credentialId = state.owner := by
        unfold credentialIdOf at hOwner
        rw [hGet, Option.bind_some, hId] at hOwner
        exact Option.some.inj hOwner
      have hAnswered : Answered h credential := by
        refine hSource.records conn credential ?_
        unfold recordOf
        rw [hGet, Option.bind_some, hRecord]
      have hBroadcast := hSource.dispatched credentialId offered hDispatched
      rw [hCredential] at hBroadcast
      exact .inl ⟨offered.event, credential, world, hBroadcast, hAnswered, hStatus, hWorld,
        hProject⟩
  | heartbeat conn credentialId now => exact .inr (by simp)
  | recovery conn now => exact .inr (by simp)
  | shutdown conn credentialId reason => exact .inr (by simp)

theorem provenance_sequenceAndSend {ref : Nat} {event : SignetEvent} {origin : Origin World}
    (hState : s.cells.get ref = some state) (hEvent : Sourced deps h state.owner event)
    (hSource : Provenance deps h s) :
    Provenance deps h (s.sequenceAndSend id ref state event origin) := by
  -- the replay state keeps its owner and gets one more frame
  have hKept : ∀ ref' state', s.cells.get ref' = some state' →
      ∃ state'', (s.sequenceAndSend id ref state event origin).cells.get ref' = some state'' ∧
        state''.owner = state'.owner := by
    intro ref' state' hState'
    rw [cells_sequenceAndSend, hState']
    split
    · next hRef =>
      rw [hRef, hState] at hState'
      cases hState'
      exact ⟨_, rfl, rfl⟩
    · exact ⟨state', rfl, rfl⟩
  refine ⟨?_, ?_, ?_, ?_, hSource.handshakes, hSource.queued, hSource.dispatched, ?_⟩
  · intro ref' state' hState' frame hFrame
    rw [cells_sequenceAndSend] at hState'
    split at hState'
    · next hRef =>
      rw [hRef, hState] at hState'
      cases hState'
      rw [sequenceEvent_frames] at hFrame
      rcases List.mem_append.mp hFrame with hOld | hNew
      · exact hSource.cells ref state hState frame hOld
      · rw [List.mem_singleton] at hNew
        rw [hNew]
        exact hEvent
    · exact hSource.cells ref' state' hState' frame hFrame
  · intro credentialId ref' hGet
    obtain ⟨state', hState', hOwner⟩ := hSource.states credentialId ref' hGet
    obtain ⟨state'', hState'', hSame⟩ := hKept ref' state' hState'
    exact ⟨state'', hState'', hSame.trans hOwner⟩
  · intro id' ref' hRef
    rw [attachment_sequenceAndSend] at hRef
    obtain ⟨state', hState', hOwner⟩ := hSource.attached id' ref' hRef
    obtain ⟨state'', hState'', hSame⟩ := hKept ref' state' hState'
    refine ⟨state'', hState'', ?_⟩
    rw [credentialIdOf_sequenceAndSend, hSame, hOwner]
  · intro id' record hRecord
    unfold sequenceAndSend at hRecord
    rw [recordOf_sendJson] at hRecord
    exact hSource.records id' record hRecord
  · intro id' frame hFrame
    unfold sequencedOn at hFrame
    rw [sentOn_sequenceAndSend, List.filterMap_append, List.mem_append] at hFrame
    rcases hFrame with hOld | hNew
    · exact hSource.sent id' frame hOld
    · split at hNew
      · rw [show [ServerFrame.sequenced ⟨state.nextSeq, event⟩].filterMap ServerFrame.sequenced? =
          [⟨state.nextSeq, event⟩] from rfl, List.mem_singleton] at hNew
        rw [hNew]
        exact ⟨state.owner, hEvent⟩
      · cases hNew

theorem provenance_sendJson {frame : ServerFrame}
    (hFrame : ∀ sequenced, frame.sequenced? = some sequenced →
      ∃ credentialId, Sourced deps h credentialId sequenced.event) (hSource : Provenance deps h s) :
    Provenance deps h (s.sendJson id frame) := by
  refine ⟨hSource.cells, hSource.states, ?_, ?_, hSource.handshakes, hSource.queued,
    hSource.dispatched, ?_⟩
  · intro id' ref hRef
    have hAttached : s.attachment id' = some ref := by
      rw [← hRef]
      exact (attachment_modifyConnection s id id'
        fun c => c.sendJson_credentialReplayState _).symm
    obtain ⟨state, hState, hOwner⟩ := hSource.attached id' ref hAttached
    refine ⟨state, hState, ?_⟩
    rw [← hOwner]
    exact credentialIdOf_modifyConnection s id id' fun c => c.sendJson_credentialId _
  · intro id' record hRecord
    rw [recordOf_sendJson] at hRecord
    exact hSource.records id' record hRecord
  · intro id' sequenced hSequenced
    unfold sequencedOn at hSequenced
    by_cases hId : id' = id
    · subst hId
      rw [sentOn_sendJson_self, List.filterMap_append, List.mem_append] at hSequenced
      rcases hSequenced with hOld | hNew
      · exact hSource.sent id' sequenced hOld
      · obtain ⟨frame', hMem, hEq⟩ := List.mem_filterMap.mp hNew
        split at hMem
        · rw [List.mem_singleton] at hMem
          rw [hMem] at hEq
          exact hFrame sequenced hEq
        · cases hMem
    · rw [sentOn_sendJson_of_ne _ hId] at hSequenced
      exact hSource.sent id' sequenced hSequenced

/-- What an elementary write or the bookkeeping of broadcasts keeps. -/
theorem provenance_quiet (hQuiet : Quiet s t) (hRecords : ∀ id record, t.recordOf id = some record →
      s.recordOf id = some record ∨ Answered h record) (hSource : Provenance deps h s) :
    Provenance deps h t := by
  refine hSource.of_sameReplay hQuiet.toSameReplay hRecords ?_ ?_
  · rw [hQuiet.pendingInvalidations]
    exact hSource.queued
  · rw [hQuiet.dispatched]
    exact hSource.dispatched

theorem provenance_move {s₀ : Server World} {out : List Returned}
    (ho : (⟨s₀, label, out⟩ : Occurrence _ _ _) ∈ h) (hStart : Provenance deps h s₀)
    (hMove : Move deps s₀ label s t) (hSource : Provenance deps h s) : Provenance deps h t := by
  have hRecords : ∀ id record, t.recordOf id = some record →
      s.recordOf id = some record ∨ Answered h record := by
    intro id record hRecord
    rcases recordOf_move hMove hRecord with hOld | ⟨task, pending, hEvent, -⟩
    · exact .inl hOld
    · exact .inr ⟨_, ho, task, .inr hEvent⟩
  -- an event that is offered in this step has been broadcast
  have hOffered : ∀ {credentialId event}, label.event = .broadcast credentialId event →
      Broadcasted h credentialId event := fun hEvent => ⟨_, ho, hEvent⟩
  cases hMove with
  | write hWrite => exact provenance_quiet (quiet_write hWrite) hRecords hSource
  | sequence sending ref state hState hEmits =>
    obtain ⟨hRef, hCell⟩ := replayState_eq_some_iff.mp hState
    exact provenance_sequenceAndSend hCell
      (sourced_of_emits hSource ⟨_, ho, rfl⟩ hEmits hRef hCell) hSource
  | replay task handshake frame hEvent hTask hFrame =>
    have hEvent := hStart.handshakes task handshake hTask frame hFrame
    refine provenance_sendJson ?_ hSource
    rintro sequenced ⟨⟩
    exact ⟨_, hEvent⟩
  | respond task id frame requestId error hEvent hTask hFrame =>
    exact provenance_quiet (s.quiet_sendJson id ⟨rfl, rfl⟩) hRecords hSource
  | queue credentialId event pending hEvent hPending =>
    refine hSource.of_sameReplay (.of_core rfl rfl rfl rfl) hRecords ?_ hSource.dispatched
    intro credentialId' pending' hGet offered hMem
    dsimp only at hGet
    rcases AssocMap.get_set_cases hGet with ⟨hEq, rfl⟩ | ⟨-, hGet⟩
    · rw [hEq]
      rcases List.mem_append.mp hMem with hOld | hNew
      · exact hSource.queued credentialId pending hPending offered hOld
      · rw [List.mem_singleton] at hNew
        rw [hNew]
        exact hOffered hEvent
    · exact hSource.queued credentialId' pending' hGet offered hMem
  | dispatch credentialId event hEvent hDirect =>
    refine hSource.of_sameReplay (.of_core rfl rfl rfl rfl) hRecords hSource.queued ?_
    intro credentialId' offered hMem
    rcases List.mem_append.mp hMem with hOld | hNew
    · exact hSource.dispatched credentialId' offered hOld
    · rw [List.mem_singleton] at hNew
      cases hNew
      exact hOffered hEvent
  | invalidate credentialId hEvent =>
    refine hSource.of_sameReplay (s.sameReplay_invalidateCredential credentialId) hRecords ?_
      hSource.dispatched
    intro credentialId' pending hGet offered hMem
    unfold invalidateCredential at hGet
    dsimp only [spawn] at hGet
    rw [AssocMap.get_set] at hGet
    split at hGet
    · next hEq =>
      rw [hEq]
      split at hGet
      · next existing hExisting =>
        cases hGet
        exact hSource.queued credentialId existing hExisting offered hMem
      · cases hGet
        cases hMem
    · exact hSource.queued credentialId' pending hGet offered hMem
  | answer task credentialId myGen hTask =>
    exact hSource.of_sameReplay (s.sameReplay_take hTask (by intro _ hEq; cases hEq)) hRecords
      hSource.queued hSource.dispatched
  | countDown credentialId entry hEntry =>
    refine hSource.of_sameReplay (.of_core rfl rfl rfl rfl) hRecords ?_ hSource.dispatched
    intro credentialId' pending hGet offered hMem
    dsimp only at hGet
    rcases AssocMap.get_set_cases hGet with ⟨hEq, rfl⟩ | ⟨-, hGet⟩
    · rw [hEq]
      exact hSource.queued credentialId entry hEntry offered hMem
    · exact hSource.queued credentialId' pending hGet offered hMem
  | unlist credentialId =>
    refine hSource.of_sameReplay (.of_core rfl rfl rfl rfl) hRecords ?_ hSource.dispatched
    intro credentialId' pending hGet offered hMem
    dsimp only at hGet
    obtain ⟨-, hGet⟩ := AssocMap.of_get_delete hGet
    exact hSource.queued credentialId' pending hGet offered hMem
  | redispatch credentialId offered pending hPending hMem =>
    refine hSource.of_sameReplay (.of_core rfl rfl rfl rfl) hRecords hSource.queued ?_
    intro credentialId' offered' hMem'
    rcases List.mem_append.mp hMem' with hOld | hNew
    · exact hSource.dispatched credentialId' offered' hOld
    · rw [List.mem_singleton] at hNew
      cases hNew
      exact hStart.queued credentialId pending hPending offered hMem
  | forgetStates =>
    obtain ⟨hCells, -, hTasks, hAttachment, hId, hSent, hOpen⟩ := SameReplay.refl s
    refine hSource.of_sameReplay ⟨hCells, ?_, hTasks, hAttachment, hId, hSent, hOpen⟩ hRecords
      hSource.queued hSource.dispatched
    intro credentialId ref hGet
    cases hGet

/-- An authentication takes the frames to replay from the replay state of its
credential. -/
theorem provenance_beginHandshake {authFrame : AuthFrame} {credential : CredentialRecord}
    (hConn : (s.connections.get id).isSome) (hAnswered : Answered h credential)
    (hSource : Provenance deps h s) :
    Provenance deps h (s.beginHandshake deps id authFrame credential) := by
  have hLive : s.StatesLive := by
    intro credentialId ref hGet
    obtain ⟨state, hState, -⟩ := hSource.states credentialId ref hGet
    rw [hState]
    rfl
  obtain ⟨ref, state, hBegins⟩ := beginHandshake_spec deps hLive hConn authFrame credential
  obtain ⟨c, hGet⟩ := Option.isSome_iff_exists.mp hConn
  have hConnections := fun id' => s.connections_beginHandshake deps id id' authFrame credential
  -- the replay state is the one of the credential, old or new
  have hOwner : state.owner = credential.credentialId := by
    rcases hBegins.source with ⟨hRef, hCells⟩ | ⟨-, -, rfl, -⟩
    · obtain ⟨state', hState', hOwner⟩ := hSource.states _ ref hRef
      have hCell := hBegins.cell
      rw [hCells, hState'] at hCell
      cases hCell
      exact hOwner
    · rfl
  have hCells : ∀ ref' state',
      (s.beginHandshake deps id authFrame credential).cells.get ref' = some state' →
        ∀ frame ∈ state'.frames, Sourced deps h state'.owner frame.event := by
    intro ref' state' hGet'
    rcases hBegins.source with ⟨-, hSame⟩ | ⟨-, -, rfl, hAlloc⟩
    · rw [hSame] at hGet'
      exact hSource.cells ref' state' hGet'
    · rw [hAlloc] at hGet'
      rcases Arena.get_alloc_cases hGet' with ⟨-, rfl⟩ | ⟨-, hGet'⟩
      · intro frame hFrame
        cases hFrame
      · exact hSource.cells ref' state' hGet'
  refine ⟨hCells, ?_, ?_, ?_, ?_, ?_, ?_, ?_⟩
  · intro credentialId ref' hGet'
    rw [hBegins.states] at hGet'
    split at hGet'
    · next hEq =>
      cases hGet'
      exact ⟨state, hBegins.cell, hOwner.trans hEq.symm⟩
    · obtain ⟨state', hState', hOwner'⟩ := hSource.states credentialId ref' hGet'
      exact ⟨state', hBegins.cells ref' state' hState', hOwner'⟩
  · intro id' ref' hRef
    rw [hBegins.attachment] at hRef
    rw [hBegins.credentialIdOf]
    split at hRef
    · next hId =>
      cases hRef
      rw [if_pos hId]
      exact ⟨state, hBegins.cell, by rw [hOwner]⟩
    · next hId =>
      obtain ⟨state', hState', hOwner'⟩ := hSource.attached id' ref' hRef
      rw [if_neg hId]
      exact ⟨state', hBegins.cells ref' state' hState', hOwner'⟩
  · intro id' record hRecord
    unfold recordOf at hRecord
    rw [hConnections] at hRecord
    split at hRecord
    · next hId =>
      subst hId
      rw [hGet] at hRecord
      have hEq : credential = record := by simpa [activate] using hRecord
      rw [← hEq]
      exact hAnswered
    · exact hSource.records id' record hRecord
  · intro task handshake hTask
    rw [hBegins.tasks] at hTask
    split at hTask
    · cases hTask
      intro frame hFrame
      have hMem := (replayFrames_sublist state authFrame.lastSeenSeq).subset hFrame
      show Sourced deps h credential.credentialId frame.event
      rw [← hOwner]
      exact hCells ref state hBegins.cell frame hMem
    · exact hSource.handshakes task handshake hTask
  · rw [hBegins.pendingInvalidations]
    exact hSource.queued
  · rw [hBegins.dispatched]
    exact hSource.dispatched
  · intro id' frame hFrame
    unfold sequencedOn at hFrame
    rw [hBegins.sent] at hFrame
    exact hSource.sent id' frame hFrame

theorem provenance_step {out : List Returned} (ho : (⟨s, label, out⟩ : Occurrence _ _ _) ∈ h)
    (hNamed : s.ResyncsNamed) (hStep : serverStep deps s label = some (t, out))
    (hSource : Provenance deps h s) :
    Provenance deps h t := by
  -- a call that ends takes nothing along
  have hTaken : ∀ task pending, s.tasks.get task = some pending →
      Provenance deps h (s.take task) := by
    intro task pending hTask
    refine ⟨hSource.cells, hSource.states, hSource.attached, hSource.records, ?_, hSource.queued,
      hSource.dispatched, hSource.sent⟩
    intro task' handshake hTask'
    simp only [take, Arena.get_free] at hTask'
    split at hTask'
    · cases hTask'
    · exact hSource.handshakes task' handshake hTask'
  cases step_moves hNamed hStep with
  | moves hMoves =>
    exact hMoves.preserves (fun _ _ hMove => provenance_move ho hSource hMove) hSource
  | begin task id authFrame result credential hEvent hTask hConn hAuth hState =>
    have hAnswered : Answered h credential := by
      refine ⟨_, ho, task, .inl ?_⟩
      rw [hEvent, (handleAuth_ok_iff.mp hAuth).1]
    rw [hState]
    exact provenance_beginHandshake hConn hAnswered (hTaken task _ hTask)
  | finish task handshake u hEvent hTask hMoves hState =>
    have hGreeted : Provenance deps h (s.greet deps task handshake) := by
      refine provenance_sendJson ?_ (hTaken task _ hTask)
      rintro sequenced ⟨⟩
    have hMiddle := hMoves.preserves (fun _ _ hMove => provenance_move ho hSource hMove) hGreeted
    rw [hState]
    refine provenance_quiet (u.quiet_startHeartbeat _) ?_ hMiddle
    intro id record hRecord
    rw [recordOf_startHeartbeat] at hRecord
    exact .inl hRecord
  | accept task id request credential hEvent hTask hState =>
    have hCached : Provenance deps h ((s.take task).cacheRecord id credential) :=
      provenance_move ho hSource
        (.write (.cache id credential ⟨task, _, hEvent, hTask, rfl⟩)) (hTaken task _ hTask)
    rw [hState]
    refine provenance_quiet (quiet_acceptRequest _ _ id request credential) ?_ hCached
    intro id' record hRecord
    rw [recordOf_acceptRequest] at hRecord
    exact .inl hRecord

/-- **Provenance.**  In every state a run reaches, everything that may reach a
socket has its source in the run. -/
theorem provenance_of_runs (hRun : (serverMachine deps).Runs h s) :
    Provenance deps h s := by
  induction hRun with
  | start => exact provenance_create deps []
  | @step h s t label out hRun' hStep ih =>
    have hMono : ∀ o ∈ h, o ∈ h ++ [(⟨s, label, out⟩ : Occurrence _ _ _)] :=
      fun o ho => List.mem_append_left _ ho
    exact provenance_step (List.mem_append_right _ (List.mem_singleton.mpr rfl))
      (resyncsNamed_of_runs hRun') hStep (ih.mono hMono)

/-! ## What an authentication puts on the socket -/

theorem sequencedOn_sendJson (s : Server World) (id : Nat) (frame : ServerFrame) :
    (s.sendJson id frame).sequencedOn id = s.sequencedOn id ++
      (if s.isOpen id = true then frame.sequenced?.toList else []) := by
  unfold sequencedOn
  rw [sentOn_sendJson_self, List.filterMap_append]
  split
  · cases hSequenced : frame.sequenced? <;> simp [hSequenced]
  · rfl

theorem sequencedOn_sendReplay (s : Server World) (id : Nat) (frames : List SequencedFrame) :
    ∃ new, (s.sendReplay id frames).sequencedOn id = s.sequencedOn id ++ new ∧
      ∀ frame ∈ new, frame ∈ frames := by
  induction frames generalizing s with
  | nil => exact ⟨[], by simp [sendReplay], by simp⟩
  | cons frame frames ih =>
    obtain ⟨new, hNew, hMem⟩ := ih (s.sendJson id (.sequenced frame))
    refine ⟨(if s.isOpen id = true then [frame] else []) ++ new, ?_, ?_⟩
    · rw [← List.append_assoc]
      refine hNew.trans ?_
      rw [sequencedOn_sendJson]
      rfl
    · intro frame' hFrame'
      rcases List.mem_append.mp hFrame' with hFirst | hRest
      · split at hFirst
        · rw [List.mem_singleton] at hFirst
          exact List.mem_cons.mpr (.inl hFirst)
        · cases hFirst
      · exact List.mem_cons_of_mem _ (hMem frame' hRest)

/-- An authentication puts on the socket frames to replay, or the recovery
event. -/
theorem sequencedOn_finishHandshake (deps : WsServerDeps World) (now : Int) (s : Server World)
    (handshake : Handshake) :
    ∃ new, (s.finishHandshake deps now handshake).sequencedOn handshake.conn =
        s.sequencedOn handshake.conn ++ new ∧
      ∀ frame ∈ new, frame ∈ handshake.resume.replayFrames ∨
        frame.event = .signetRecoveryComplete now := by
  unfold finishHandshake
  dsimp only
  generalize hGreeting : ServerFrame.authenticated _ _ _ _ = greeting
  have hGreeted : (s.sendJson handshake.conn greeting).sequencedOn handshake.conn =
      s.sequencedOn handshake.conn := by
    rw [sequencedOn_sendJson, ← hGreeting]
    simp [ServerFrame.sequenced?]
  rw [(quiet_startHeartbeat _ _).toSameReplay.sequencedOn]
  split
  · unfold sendSequenced
    split
    · exact ⟨[], by rw [hGreeted, List.append_nil], by simp⟩
    · next ref state hState =>
      have hChecked : Writes (fun _ _ => False)
          ((s.sendJson handshake.conn greeting).sequenceAndSend handshake.conn ref state
            (.signetRecoveryComplete now) .recovery)
          (((s.sendJson handshake.conn greeting).sequenceAndSend handshake.conn ref state
            (.signetRecoveryComplete now) .recovery).checkBackpressure deps handshake.conn) :=
        writes_checkBackpressure deps _ _
      rw [hChecked.quiet.toSameReplay.sequencedOn]
      unfold sequenceAndSend
      rw [sequencedOn_sendJson]
      refine ⟨_, congrArg (· ++ _) hGreeted, ?_⟩
      intro frame hFrame
      split at hFrame
      · rw [show frame = ⟨state.nextSeq, .signetRecoveryComplete now⟩ from
          List.mem_singleton.mp hFrame]
        exact .inr rfl
      · cases hFrame
  · obtain ⟨new, hNew, hMem⟩ := sequencedOn_sendReplay (s.sendJson handshake.conn greeting)
      handshake.conn handshake.resume.replayFrames
    exact ⟨new, by rw [hNew, hGreeted], fun frame hFrame => .inl (hMem frame hFrame)⟩

end Server
end Ws
end Signet
