import Signet.Ws.ServerSpec

/-!
# The order of frames on a connection

A connection is registered and marked active, and the frames to replay are
computed, before the fingerprint of the token is awaited.  What is broadcast in
that window goes out at once: ahead of the authenticated frame, and ahead of the
replayed frames.

* `HandshakeOrdered` — what a connection should be sent.
* `Undisturbed` — a step sends nothing live to a connection in its handshake, and
  authenticates no connection a second time.
* `handshake_ordered` — a connection that is left undisturbed is sent its frames
  in order.
-/

namespace Signet
namespace Ws

open Kit Machine Schemas Sessions

/-- The authenticated frame comes before every sequenced one, and the sequenced
ones are numbered in increasing order. -/
def HandshakeOrdered (sent : List ServerFrame) : Prop :=
  (∀ i frame, sent[i]? = some (.sequenced frame) →
    (sent.take i).any ServerFrame.isAuthenticated = true) ∧
  (sent.filterMap ServerFrame.sequenced?).Pairwise fun f g => f.seq < g.seq

variable {more sent : List ServerFrame}

theorem filterMap_sequenced_of_plain (hPlain : ∀ frame ∈ more, frame.IsPlain) :
    more.filterMap ServerFrame.sequenced? = [] := by
  rw [List.filterMap_eq_nil_iff]
  intro frame hFrame
  exact (hPlain frame hFrame).2

/-- Frames without sequenced ones among them can follow. -/
theorem HandshakeOrdered.append (h : HandshakeOrdered sent)
    (hMore : more.filterMap ServerFrame.sequenced? = []) : HandshakeOrdered (sent ++ more) := by
  constructor
  · intro i frame hGet
    rcases Nat.lt_or_ge i sent.length with hLt | hGe
    · rw [List.getElem?_append_left hLt] at hGet
      rw [List.take_append_of_le_length (Nat.le_of_lt hLt)]
      exact h.1 i frame hGet
    · rw [List.getElem?_append_right hGe] at hGet
      rw [List.filterMap_eq_nil_iff] at hMore
      exact absurd (hMore _ (List.mem_of_getElem? hGet)) (by simp [ServerFrame.sequenced?])
  · rw [List.filterMap_append, hMore, List.append_nil]
    exact h.2

/-- A sequenced frame can follow the authenticated one and smaller numbers. -/
theorem HandshakeOrdered.snoc_sequenced (h : HandshakeOrdered sent)
    (hAuthenticated : sent.any ServerFrame.isAuthenticated = true) {frame : SequencedFrame}
    (hLater : ∀ f ∈ sent.filterMap ServerFrame.sequenced?, f.seq < frame.seq) :
    HandshakeOrdered (sent ++ [.sequenced frame]) := by
  constructor
  · intro i frame' hGet
    rcases Nat.lt_or_ge i sent.length with hLt | hGe
    · rw [List.getElem?_append_left hLt] at hGet
      rw [List.take_append_of_le_length (Nat.le_of_lt hLt)]
      exact h.1 i frame' hGet
    · have hLast : i = sent.length := by
        have hBound := (List.getElem?_eq_some_iff.mp hGet).1
        rw [List.length_append, List.length_singleton] at hBound
        omega
      rw [hLast, List.take_left]
      exact hAuthenticated
  · rw [List.filterMap_append, List.pairwise_append]
    refine ⟨h.2, by simp [ServerFrame.sequenced?], ?_⟩
    intro f hf g hg
    simp only [List.filterMap_cons, ServerFrame.sequenced?, List.filterMap_nil,
      List.mem_singleton] at hg
    subst hg
    exact hLater f hf

variable {World : Type}

namespace Server

/-! ## The invariant -/

/-- What holds of a connection that has been left undisturbed. -/
structure Aligned (s : Server World) (id : Nat) : Prop where
  ordered : HandshakeOrdered (s.sentOn id)
  /-- Before the authentication nothing is sequenced. -/
  unattached : s.attachment id = none → s.sequencedOn id = [] ∧ ¬ s.InHandshake id
  /-- The counter is ahead of what has been sent. -/
  attached : ∀ ref, s.attachment id = some ref → ∃ state, s.cells.get ref = some state ∧
    ∀ f ∈ s.sequencedOn id, f.seq < state.nextSeq
  /-- In its handshake nothing has been sequenced, and the replay is in order. -/
  waiting : ∀ task handshake, s.tasks.get task = some (.authFingerprint handshake) →
    handshake.conn = id → s.sequencedOn id = [] ∧
      handshake.resume.replayFrames.Pairwise (fun f g => f.seq < g.seq) ∧
      ∃ ref state, s.attachment id = some ref ∧ s.cells.get ref = some state ∧
        ∀ f ∈ handshake.resume.replayFrames, f.seq < state.nextSeq
  unique : ∀ task task' handshake handshake',
    s.tasks.get task = some (.authFingerprint handshake) →
    s.tasks.get task' = some (.authFingerprint handshake') →
    handshake.conn = id → handshake'.conn = id → task = task'
  /-- After its handshake it has been sent the authenticated frame. -/
  greeted : s.attachment id ≠ none → ¬ s.InHandshake id → s.isOpen id = true →
    (s.sentOn id).any ServerFrame.isAuthenticated = true

variable {authFrame : AuthFrame} {credential : CredentialRecord}
  {state : CredentialReplayState World} {handshake : Handshake} {id id' ref task : Nat}
  {s t : Server World} {label : ServerLabel World} {deps : WsServerDeps World}
  {h : List (Occurrence (Server World) (ServerLabel World) Returned)}

theorem SameReplay.inHandshake_iff (h : SameReplay s t) (id : Nat) :
    t.InHandshake id ↔ s.InHandshake id := by
  unfold InHandshake
  simp only [h.handshakes]

theorem SameReplay.sequencedOn (h : SameReplay s t) (id : Nat) :
    t.sequencedOn id = s.sequencedOn id := by
  obtain ⟨more, hMore, hPlain⟩ := h.sent id
  unfold Server.sequencedOn
  rw [hMore, List.filterMap_append, filterMap_sequenced_of_plain hPlain, List.append_nil]

theorem aligned_sameReplay (h : SameReplay s t) (hAligned : s.Aligned id) : t.Aligned id := by
  have hSequenced := h.sequencedOn id
  obtain ⟨more, hMore, hPlain⟩ := h.sent id
  refine ⟨?_, ?_, ?_, ?_, ?_, ?_⟩
  · rw [hMore]
    exact hAligned.ordered.append (filterMap_sequenced_of_plain hPlain)
  · intro hNone
    rw [h.attachment] at hNone
    rw [hSequenced, h.inHandshake_iff]
    exact hAligned.unattached hNone
  · intro ref hRef
    rw [h.attachment] at hRef
    rw [hSequenced, h.cells]
    exact hAligned.attached ref hRef
  · intro task handshake hTask hConn
    rw [h.handshakes] at hTask
    rw [hSequenced, h.attachment, h.cells]
    exact hAligned.waiting task handshake hTask hConn
  · intro task task' handshake handshake' hTask hTask'
    rw [h.handshakes] at hTask hTask'
    exact hAligned.unique task task' handshake handshake' hTask hTask'
  · intro hAttached hDone hOpen
    rw [h.attachment] at hAttached
    rw [h.inHandshake_iff] at hDone
    rw [hMore, List.any_append, hAligned.greeted hAttached hDone (h.isOpen id hAttached hOpen)]
    rfl

/-! ## One sequenced frame -/

section

variable (s : Server World) (id id' ref : Nat) (state : CredentialReplayState World)

variable (event : SignetEvent) (origin : Origin World)

theorem sentOn_sequenceAndSend :
    (s.sequenceAndSend id ref state event origin).sentOn id' =
      s.sentOn id' ++
        (if id' = id ∧ s.isOpen id = true then [.sequenced ⟨state.nextSeq, event⟩] else []) := by
  unfold sequenceAndSend
  by_cases hId : id' = id
  · subst hId
    rw [sentOn_sendJson_self]
    simp only [true_and]
    rfl
  · rw [sentOn_sendJson_of_ne _ hId, if_neg (fun h => hId h.1), List.append_nil]
    rfl

theorem isOpen_sequenceAndSend :
    (s.sequenceAndSend id ref state event origin).isOpen id' = s.isOpen id' :=
  isOpen_sendJson _ id id' _

end

/-- Sequencing moves counters forward only. -/
theorem cells_sequenceAndSend_of_get (id : Nat) {ref' : Nat} {state' : CredentialReplayState World}
    (event : SignetEvent) (origin : Origin World) (hState : s.cells.get ref = some state)
    (hState' : s.cells.get ref' = some state') :
    ∃ state'', (s.sequenceAndSend id ref state event origin).cells.get ref' = some state'' ∧
      state'.nextSeq ≤ state''.nextSeq ∧
      (ref' = ref → state''.nextSeq = state.nextSeq + 1) := by
  rw [cells_sequenceAndSend]
  split
  · next hRef =>
    subst hRef
    rw [hState] at hState'
    cases hState'
    refine ⟨(sequenceEvent state event origin).1, by rw [hState]; rfl, ?_, fun _ => rfl⟩
    exact Nat.le_succ _
  · next hRef => exact ⟨state', hState', Nat.le_refl _, fun hEq => absurd hEq hRef⟩

/-- A frame that is sequenced on another connection, or on this one when it is
not in its handshake, keeps the order. -/
theorem aligned_sequenceAndSend (event : SignetEvent) (origin : Origin World)
    (hAligned : s.Aligned id') (hState : s.replayState id = some (ref, state))
    (hDone : id = id' → s.isOpen id' = true → ¬ s.InHandshake id') :
    (s.sequenceAndSend id ref state event origin).Aligned id' := by
  obtain ⟨hRef, hCell⟩ := replayState_eq_some_iff.mp hState
  have hAttachment := s.attachment_sequenceAndSend id id' ref state event origin
  have hSent := s.sentOn_sequenceAndSend id id' ref state event origin
  have hSequenced : (s.sequenceAndSend id ref state event origin).sequencedOn id' =
      s.sequencedOn id' ++ (if id' = id ∧ s.isOpen id = true then [⟨state.nextSeq, event⟩] else
        []) := by
    unfold sequencedOn
    rw [hSent, List.filterMap_append]
    split <;> rfl
  refine ⟨?_, ?_, ?_, ?_, hAligned.unique, ?_⟩
  · rw [hSent]
    split
    · next hOpen =>
      obtain ⟨rfl, hOpen⟩ := hOpen
      refine hAligned.ordered.snoc_sequenced
        (hAligned.greeted (by simp [hRef]) (hDone rfl hOpen) hOpen) ?_
      obtain ⟨state', hCell', hBelow⟩ := hAligned.attached ref hRef
      rw [hCell] at hCell'
      cases hCell'
      exact hBelow
    · rw [List.append_nil]
      exact hAligned.ordered
  · intro hNone
    rw [hAttachment] at hNone
    have hNe : id' ≠ id := by
      rintro rfl
      rw [hRef] at hNone
      cases hNone
    rw [hSequenced, if_neg (fun h => hNe h.1), List.append_nil]
    exact hAligned.unattached hNone
  · intro ref' hRef'
    rw [hAttachment] at hRef'
    obtain ⟨state', hCell', hBelow⟩ := hAligned.attached ref' hRef'
    obtain ⟨state'', hCell'', hLe, hNext⟩ :=
      cells_sequenceAndSend_of_get id event origin hCell hCell'
    refine ⟨state'', hCell'', ?_⟩
    intro f hf
    rw [hSequenced] at hf
    rcases List.mem_append.mp hf with hOld | hNew
    · exact Nat.lt_of_lt_of_le (hBelow f hOld) hLe
    · split at hNew
      · next hOpen =>
        rw [hOpen.1, hRef] at hRef'
        cases hRef'
        rw [List.mem_singleton] at hNew
        rw [hNew, hNext rfl]
        exact Nat.lt_succ_self _
      · cases hNew
  · intro task handshake hTask hConn
    obtain ⟨hEmpty, hPairwise, ref', state', hRef', hCell', hBelow⟩ :=
      hAligned.waiting task handshake hTask hConn
    obtain ⟨state'', hCell'', hLe, -⟩ :=
      cells_sequenceAndSend_of_get id event origin hCell hCell'
    refine ⟨?_, hPairwise, ref', state'', by rw [hAttachment]; exact hRef', hCell'',
      fun f hf => Nat.lt_of_lt_of_le (hBelow f hf) hLe⟩
    -- a frame on this connection would be a live one in its handshake
    rw [hSequenced, hEmpty, if_neg, List.nil_append]
    rintro ⟨rfl, hOpen⟩
    exact hDone rfl hOpen ⟨task, handshake, hTask, hConn⟩
  · intro hAttached hOut hOpen
    rw [hAttachment] at hAttached
    rw [isOpen_sequenceAndSend] at hOpen
    rw [hSent, List.any_append, hAligned.greeted hAttached hOut hOpen]
    rfl

/-- Sends that spare a connection in its handshake keep its order. -/
theorem aligned_sendsUpTo {l : List (Sending World)} (h : SendsUpTo s l t) (hAligned : s.Aligned id)
    (hSpared : s.InHandshake id → s.isOpen id = true → ∀ sending ∈ l, sending.conn ≠ id) :
    t.Aligned id := by
  induction h with
  | quiet hSame => exact aligned_sameReplay hSame hAligned
  | @send s t u sending ref state rest hSame hState hRest ih =>
    have hAligned' := aligned_sameReplay hSame hAligned
    -- a connection in its handshake is still in it, and open only if it was
    have hBefore : t.InHandshake id → t.isOpen id = true →
        ∀ x ∈ sending :: rest, x.conn ≠ id := by
      intro hIn hOpen
      rw [hSame.inHandshake_iff] at hIn
      have hAttached : s.attachment id ≠ none := fun hNone => (hAligned.unattached hNone).2 hIn
      exact hSpared hIn (hSame.isOpen id hAttached hOpen)
    apply ih
    · apply aligned_sequenceAndSend sending.event sending.origin hAligned' hState
      rintro rfl hOpen hIn
      exact hBefore hIn hOpen sending (List.mem_cons_self ..) rfl
    · intro hIn hOpen x hx
      rw [isOpen_sequenceAndSend] at hOpen
      exact hBefore hIn hOpen x (List.mem_cons_of_mem _ hx)

/-! ## The authentication of another connection -/

/-- The invariant looks at one connection, its handshakes and the replay states. -/
theorem aligned_congr (hAttachment : t.attachment id = s.attachment id)
    (hSent : t.sentOn id = s.sentOn id) (hOpen : t.isOpen id = s.isOpen id)
    (hCells : ∀ ref state, s.cells.get ref = some state → t.cells.get ref = some state)
    (hTasks : ∀ task handshake, handshake.conn = id →
      (t.tasks.get task = some (.authFingerprint handshake) ↔
        s.tasks.get task = some (.authFingerprint handshake))) (hAligned : s.Aligned id) :
    t.Aligned id := by
  have hSequenced : t.sequencedOn id = s.sequencedOn id := by
    unfold sequencedOn
    rw [hSent]
  have hIn : t.InHandshake id ↔ s.InHandshake id := by
    constructor
    · rintro ⟨task, handshake, hTask, hConn⟩
      exact ⟨task, handshake, (hTasks task handshake hConn).mp hTask, hConn⟩
    · rintro ⟨task, handshake, hTask, hConn⟩
      exact ⟨task, handshake, (hTasks task handshake hConn).mpr hTask, hConn⟩
  refine ⟨by rw [hSent]; exact hAligned.ordered, ?_, ?_, ?_, ?_, ?_⟩
  · rw [hAttachment, hSequenced, hIn]
    exact hAligned.unattached
  · intro ref hRef
    rw [hAttachment] at hRef
    obtain ⟨state, hState, hBelow⟩ := hAligned.attached ref hRef
    exact ⟨state, hCells ref state hState, by rwa [hSequenced]⟩
  · intro task handshake hTask hConn
    rw [hTasks task handshake hConn] at hTask
    obtain ⟨hEmpty, hPairwise, ref, state, hRef, hState, hBelow⟩ :=
      hAligned.waiting task handshake hTask hConn
    exact ⟨by rw [hSequenced]; exact hEmpty, hPairwise, ref, state,
      by rw [hAttachment]; exact hRef, hCells ref state hState, hBelow⟩
  · intro task task' handshake handshake' hTask hTask' hConn hConn'
    rw [hTasks task handshake hConn] at hTask
    rw [hTasks task' handshake' hConn'] at hTask'
    exact hAligned.unique task task' handshake handshake' hTask hTask' hConn hConn'
  · rw [hAttachment, hIn, hOpen, hSent]
    exact hAligned.greeted

theorem attachment_sendJson (s : Server World) (id id' : Nat) (frame : ServerFrame) :
    (s.sendJson id frame).attachment id' = s.attachment id' :=
  s.attachment_modifyConnection id id' fun c => c.sendJson_credentialReplayState frame

theorem aligned_sendJson_of_ne (hNe : id' ≠ id) (frame : ServerFrame) (hAligned : s.Aligned id') :
    (s.sendJson id frame).Aligned id' :=
  aligned_congr (s.attachment_sendJson id id' frame) (s.sentOn_sendJson_of_ne hNe frame)
    (s.isOpen_sendJson id id' frame) (fun _ _ hState => hState) (fun _ _ _ => Iff.rfl) hAligned

theorem aligned_sendReplay_of_ne (hNe : id' ≠ id) (frames : List SequencedFrame)
    (hAligned : s.Aligned id') : (s.sendReplay id frames).Aligned id' := by
  induction frames generalizing s with
  | nil => exact hAligned
  | cons frame frames ih => exact ih (aligned_sendJson_of_ne hNe _ hAligned)

theorem aligned_take_of_ne (hTask : s.tasks.get task = some (.authFingerprint handshake))
    (hNe : handshake.conn ≠ id) (hAligned : s.Aligned id) : (s.take task).Aligned id := by
  refine aligned_congr (s := s) (t := s.take task) rfl rfl rfl (fun _ _ hState => hState) ?_
    hAligned
  intro task' handshake' hConn
  simp only [Server.take, Arena.get_free]
  split
  · next hEq =>
    subst hEq
    rw [hTask]
    simp only [Option.some.injEq, Task.authFingerprint.injEq, reduceCtorEq, false_iff]
    rintro rfl
    exact hNe hConn
  · rfl

theorem aligned_beginHandshake_of_ne
    (h : BeginsHandshake deps s t id authFrame credential ref state) (hNe : id' ≠ id)
    (hAligned : s.Aligned id') : t.Aligned id' := by
  refine aligned_congr ?_ (h.sent id') (h.isOpen id') h.cells ?_ hAligned
  · rw [h.attachment, if_neg hNe]
  · intro task handshake hConn
    rw [h.tasks]
    split
    · next hEq =>
      subst hEq
      rw [Arena.get_next]
      simp only [Option.some.injEq, Task.authFingerprint.injEq, reduceCtorEq, iff_false]
      rintro rfl
      exact hNe hConn.symm
    · rfl

/-! ## The authentication of this connection -/

/-- The replay set of a new handshake is in order and numbered. -/
theorem aligned_beginHandshake_self (h : BeginsHandshake deps s t id authFrame credential ref state)
    (hNew : s.attachment id = none) (hAligned : s.Aligned id) : t.Aligned id := by
  obtain ⟨hEmpty, hOut⟩ := hAligned.unattached hNew
  have hAttachment : t.attachment id = some ref := by rw [h.attachment, if_pos rfl]
  have hSequenced : t.sequencedOn id = [] := by
    unfold sequencedOn
    rw [h.sent]
    exact hEmpty
  -- the only handshake of the connection is the new one
  have hOnly : ∀ task handshake, t.tasks.get task = some (.authFingerprint handshake) →
      handshake.conn = id → task = s.tasks.next ∧
        handshake = ⟨id, authFrame, credential, resumeFrom state authFrame.lastSeenSeq⟩ := by
    intro task handshake hTask hConn
    rw [h.tasks] at hTask
    split at hTask
    · next hEq =>
      simp only [Option.some.injEq, Task.authFingerprint.injEq] at hTask
      exact ⟨hEq, hTask.symm⟩
    · exact absurd ⟨task, handshake, hTask, hConn⟩ hOut
  refine ⟨by rw [h.sent]; exact hAligned.ordered, ?_, ?_, ?_, ?_, ?_⟩
  · intro hNone
    rw [hAttachment] at hNone
    cases hNone
  · intro ref' hRef'
    rw [hAttachment] at hRef'
    cases hRef'
    refine ⟨state, h.cell, ?_⟩
    intro f hf
    rw [hSequenced] at hf
    cases hf
  · intro task handshake hTask hConn
    obtain ⟨-, rfl⟩ := hOnly task handshake hTask hConn
    have hSublist := replayFrames_sublist state authFrame.lastSeenSeq
    exact ⟨hSequenced, state.pairwise_frames.sublist hSublist, ref, state, hAttachment, h.cell,
      fun f hf => CredentialReplayState.seq_lt_nextSeq (hSublist.subset hf)⟩
  · intro task task' handshake handshake' hTask hTask' hConn hConn'
    rw [(hOnly task handshake hTask hConn).1, (hOnly task' handshake' hTask' hConn').1]
  · intro _ hDone
    exact absurd ⟨s.tasks.next, _, by rw [h.tasks, if_pos rfl], rfl⟩ hDone

theorem aligned_sendAuthenticated (hTask : s.tasks.get task = some (.authFingerprint handshake))
    (frame : ServerFrame) (hFrame : frame.isAuthenticated = true) (hPlain : frame.sequenced? = none)
    (hAligned : s.Aligned handshake.conn) :
    ((s.take task).sendJson handshake.conn frame).Aligned handshake.conn ∧
      ¬ ((s.take task).sendJson handshake.conn frame).InHandshake handshake.conn := by
  have hTasks : ∀ task' handshake', handshake'.conn = handshake.conn →
      (s.take task).tasks.get task' ≠ some (.authFingerprint handshake') := by
    intro task' handshake' hConn
    simp only [Server.take, Arena.get_free]
    split
    · simp
    · next hNe =>
      intro hTask'
      exact hNe (hAligned.unique task' task handshake' handshake hTask' hTask hConn rfl)
  have hOut : ¬ ((s.take task).sendJson handshake.conn frame).InHandshake handshake.conn := by
    rintro ⟨task', handshake', hTask', hConn⟩
    exact hTasks task' handshake' hConn hTask'
  have hSent : ((s.take task).sendJson handshake.conn frame).sentOn handshake.conn =
      s.sentOn handshake.conn ++ (if s.isOpen handshake.conn = true then [frame] else []) :=
    sentOn_sendJson_self (s.take task) handshake.conn frame
  have hNone : (if s.isOpen handshake.conn = true then [frame] else []).filterMap
      ServerFrame.sequenced? = [] := by
    split <;> simp [hPlain]
  have hSequenced : ((s.take task).sendJson handshake.conn frame).sequencedOn handshake.conn =
      s.sequencedOn handshake.conn := by
    unfold sequencedOn
    rw [hSent, List.filterMap_append, hNone, List.append_nil]
  have hAttachment := attachment_sendJson (s.take task) handshake.conn handshake.conn frame
  refine ⟨⟨?_, ?_, ?_, ?_, ?_, ?_⟩, hOut⟩
  · rw [hSent]
    exact hAligned.ordered.append hNone
  · rw [hAttachment, hSequenced]
    intro hUnattached
    exact ⟨(hAligned.unattached hUnattached).1, hOut⟩
  · rw [hAttachment, hSequenced]
    exact hAligned.attached
  · intro task' handshake' hTask' hConn
    exact absurd hTask' (hTasks task' handshake' hConn)
  · intro task' task'' handshake' handshake'' hTask' _ hConn
    exact absurd hTask' (hTasks task' handshake' hConn)
  · intro _ _ hOpen
    rw [isOpen_sendJson] at hOpen
    rw [hSent, if_pos (show s.isOpen handshake.conn = true from hOpen), List.any_append]
    simp [hFrame]

section

variable (hAligned : s.Aligned id) (hOut : ¬ s.InHandshake id) (hRef : s.attachment id = some ref)

include hAligned hOut hRef

/-- One replayed frame, later than what was sent and numbered before. -/
theorem aligned_sendJson_sequenced {frame : SequencedFrame} (hState : s.cells.get ref = some state)
    (hBelow : frame.seq < state.nextSeq) (hLater : ∀ f ∈ s.sequencedOn id, f.seq < frame.seq) :
    (s.sendJson id (.sequenced frame)).Aligned id := by
  have hAttachment := s.attachment_sendJson id id (.sequenced frame)
  have hSent := s.sentOn_sendJson_self id (.sequenced frame)
  have hSequenced : (s.sendJson id (.sequenced frame)).sequencedOn id =
      s.sequencedOn id ++ (if s.isOpen id = true then [frame] else []) := by
    unfold sequencedOn
    rw [hSent, List.filterMap_append]
    split <;> rfl
  refine ⟨?_, ?_, ?_, ?_, hAligned.unique, ?_⟩
  · rw [hSent]
    split
    · next hOpen =>
      exact hAligned.ordered.snoc_sequenced
        (hAligned.greeted (by simp [hRef]) hOut hOpen) hLater
    · rw [List.append_nil]
      exact hAligned.ordered
  · intro hNone
    rw [hAttachment, hRef] at hNone
    cases hNone
  · intro ref' hRef'
    rw [hAttachment, hRef] at hRef'
    cases hRef'
    refine ⟨state, hState, ?_⟩
    obtain ⟨state', hState', hSentBelow⟩ := hAligned.attached ref hRef
    rw [hState] at hState'
    cases hState'
    intro f hf
    rw [hSequenced] at hf
    rcases List.mem_append.mp hf with hOld | hNew
    · exact hSentBelow f hOld
    · split at hNew
      · rw [List.mem_singleton] at hNew
        rwa [hNew]
      · cases hNew
  · intro task handshake hTask hConn
    exact absurd ⟨task, handshake, hTask, hConn⟩ hOut
  · intro hAttached hDone hOpen
    rw [hAttachment] at hAttached
    rw [isOpen_sendJson] at hOpen
    rw [hSent, List.any_append, hAligned.greeted hAttached hDone hOpen]
    rfl

theorem aligned_sendReplay {frames : List SequencedFrame} (hState : s.cells.get ref = some state)
    (hBelow : ∀ f ∈ frames, f.seq < state.nextSeq)
    (hPairwise : frames.Pairwise fun f g => f.seq < g.seq)
    (hLater : ∀ f ∈ s.sequencedOn id, ∀ g ∈ frames, f.seq < g.seq) :
    (s.sendReplay id frames).Aligned id := by
  induction frames generalizing s with
  | nil => exact hAligned
  | cons frame frames ih =>
    rw [List.pairwise_cons] at hPairwise
    have hFirst : frame ∈ frame :: frames := List.mem_cons_self ..
    refine ih (s := s.sendJson id (.sequenced frame)) ?_ hOut ?_ hState
      (fun f hf => hBelow f (List.mem_cons_of_mem _ hf)) hPairwise.2 ?_
    · exact aligned_sendJson_sequenced hAligned hOut hRef hState (hBelow frame hFirst)
        fun f hf => hLater f hf frame hFirst
    · rw [attachment_sendJson]
      exact hRef
    · intro f hf g hg
      unfold sequencedOn at hf
      rw [sentOn_sendJson_self, List.filterMap_append] at hf
      rcases List.mem_append.mp hf with hOld | hNew
      · exact hLater f hOld g (List.mem_cons_of_mem _ hg)
      · split at hNew
        · simp only [List.filterMap_cons, ServerFrame.sequenced?, List.filterMap_nil,
            List.mem_singleton] at hNew
          rw [hNew]
          exact hPairwise.1 g hg
        · cases hNew

end

section

variable (deps : WsServerDeps World) (now : Int)
  (hTask : s.tasks.get task = some (.authFingerprint handshake))

include hTask

theorem aligned_finishHandshake_self (hAligned : s.Aligned handshake.conn) :
    ((s.take task).finishHandshake deps now handshake).Aligned handshake.conn := by
  obtain ⟨hEmpty, hPairwise, ref, state, hRef, hState, hBelow⟩ :=
    hAligned.waiting task handshake hTask rfl
  unfold finishHandshake
  dsimp only
  refine aligned_sameReplay (quiet_startHeartbeat _ _).toSameReplay ?_
  generalize hFrame : ServerFrame.authenticated handshake.conn _ _ _ = frame
  obtain ⟨hGreeted, hOut⟩ := aligned_sendAuthenticated hTask frame
    (by rw [← hFrame]; rfl) (by rw [← hFrame]; rfl) hAligned
  split
  · exact aligned_sendsUpTo (sendsUpTo_sendSequenced deps _ _ _ _) hGreeted
      fun hIn => absurd hIn hOut
  · refine aligned_sendReplay hGreeted hOut ?_ hState hBelow hPairwise ?_
    · rw [attachment_sendJson]
      exact hRef
    · intro f hf
      unfold sequencedOn at hf hEmpty
      rw [sentOn_sendJson_self, List.filterMap_append, ← hFrame] at hf
      rw [show (s.take task).sentOn handshake.conn = s.sentOn handshake.conn from rfl, hEmpty,
        List.nil_append] at hf
      split at hf
      · cases hf
      · cases hf

theorem aligned_finishHandshake_of_ne (hNe : handshake.conn ≠ id) (hAligned : s.Aligned id) :
    ((s.take task).finishHandshake deps now handshake).Aligned id := by
  have hGreeted : ∀ frame, ((s.take task).sendJson handshake.conn frame).Aligned id :=
    fun frame => aligned_sendJson_of_ne hNe.symm frame (aligned_take_of_ne hTask hNe hAligned)
  unfold finishHandshake
  dsimp only
  refine aligned_sameReplay (quiet_startHeartbeat _ _).toSameReplay ?_
  split
  · refine aligned_sendsUpTo (sendsUpTo_sendSequenced deps _ _ _ _) (hGreeted _) ?_
    intro _ _ sending hSending
    unfold ifAttached at hSending
    split at hSending
    · rw [List.mem_singleton] at hSending
      rw [hSending]
      exact hNe
    · cases hSending
  · exact aligned_sendReplay_of_ne hNe.symm _ (hGreeted _)

end

/-! ## Runs -/

/-- The step ends the token lookup of a connection that is authenticated already. -/
def reauthenticates (s : Server World) (label : ServerLabel World) (id : Nat) : Bool :=
  match label.event with
  | .tokenLookedUp task (some result) =>
    match s.tasks.get task, handleAuth result with
    | some (.authLookup id' _), .ok _ => id' == id && (s.attachment id).isSome
    | _, _ => false
  | _ => false

/-- The step sends nothing live to the connection while its handshake awaits the
fingerprint and its socket is open, and does not authenticate it again. -/
def Undisturbed (deps : WsServerDeps World) (s : Server World) (label : ServerLabel World)
    (id : Nat) : Prop :=
  (s.InHandshake id → s.isOpen id = true →
    ∀ sending ∈ s.liveSendings deps label, sending.conn ≠ id) ∧
  s.reauthenticates label id = false

instance (deps : WsServerDeps World) (s : Server World) (label : ServerLabel World) (id : Nat) :
    Decidable (Undisturbed deps s label id) :=
  inferInstanceAs (Decidable (_ ∧ _))

/-- The first authentication of a connection finds nothing attached to it. -/
theorem attachment_of_not_reauthenticates {result : Except SignetError CredentialRecord}
    (hFirst : s.reauthenticates label id = false)
    (hEvent : label.event = .tokenLookedUp task (some result))
    (hTask : s.tasks.get task = some (.authLookup id authFrame))
    (hAuth : handleAuth result = .ok credential) : s.attachment id = none := by
  unfold reauthenticates at hFirst
  rw [hEvent] at hFirst
  dsimp only at hFirst
  rw [hTask, hAuth] at hFirst
  simpa using hFirst

theorem statesLive_beginHandshake (h : BeginsHandshake deps s t id authFrame credential ref state)
    (hLive : s.StatesLive) :
    t.StatesLive := by
  intro credentialId ref' hGet
  rw [h.states] at hGet
  split at hGet
  · cases hGet
    rw [h.cell]
    rfl
  · obtain ⟨state', hState'⟩ := Option.isSome_iff_exists.mp (hLive credentialId ref' hGet)
    rw [h.cells ref' state' hState']
    rfl

theorem statesLive_sendReplay (frames : List SequencedFrame) (hLive : s.StatesLive) :
    (s.sendReplay id frames).StatesLive := by
  induction frames generalizing s with
  | nil => exact hLive
  | cons frame frames ih => exact ih (s := s.sendJson id (.sequenced frame)) hLive

theorem statesLive_finishHandshake (deps : WsServerDeps World) (now : Int) (handshake : Handshake)
    (hLive : s.StatesLive) :
    (s.finishHandshake deps now handshake).StatesLive := by
  unfold finishHandshake
  dsimp only
  refine statesLive_sameReplay (quiet_startHeartbeat _ _).toSameReplay ?_
  split
  · exact statesLive_sendsUpTo (sendsUpTo_sendSequenced deps _ _ _ _) hLive
  · exact statesLive_sendReplay _ hLive

theorem statesLive_step {out : List Returned} (hLive : s.StatesLive)
    (hStep : serverStep deps s label = some (t, out)) : t.StatesLive := by
  rcases (step_cases hStep).sendsUpTo with hSends | hBegin | hFinish
  · exact statesLive_sendsUpTo hSends hLive
  · obtain ⟨task, id, authFrame, result, credential, -, hTask, hConn, -, rfl⟩ := hBegin
    obtain ⟨ref, state, hSpec⟩ := beginHandshake_spec deps (s := s.take task) hLive hConn
      authFrame credential
    exact statesLive_beginHandshake hSpec hLive
  · obtain ⟨task, handshake, -, hTask, rfl⟩ := hFinish
    exact statesLive_finishHandshake deps label.now handshake (s := s.take task) hLive

/-- One undisturbed step keeps the order of a connection. -/
theorem aligned_step {out : List Returned} (hLive : s.StatesLive) (hAligned : s.Aligned id)
    (hUndisturbed : Undisturbed deps s label id) (hStep : serverStep deps s label = some (t, out)) :
    t.Aligned id := by
  rcases (step_cases hStep).sendsUpTo with hSends | hBegin | hFinish
  · exact aligned_sendsUpTo hSends hAligned hUndisturbed.1
  · obtain ⟨task, id', authFrame, result, credential, hEvent, hTask, hConn, hAuth, rfl⟩ := hBegin
    have hTaken := s.sameReplay_take hTask (by intro _ h; cases h)
    obtain ⟨ref, state, hSpec⟩ := beginHandshake_spec deps (s := s.take task) hLive hConn
      authFrame credential
    have hAligned' := aligned_sameReplay hTaken hAligned
    by_cases hId : id = id'
    · subst hId
      have hNew := attachment_of_not_reauthenticates hUndisturbed.2 hEvent hTask hAuth
      exact aligned_beginHandshake_self hSpec hNew hAligned'
    · exact aligned_beginHandshake_of_ne hSpec hId hAligned'
  · obtain ⟨task, handshake, -, hTask, rfl⟩ := hFinish
    by_cases hId : handshake.conn = id
    · subst hId
      exact aligned_finishHandshake_self deps label.now hTask hAligned
    · exact aligned_finishHandshake_of_ne deps label.now hTask hId hAligned

theorem statesLive_of_runs (hRun : (serverMachine deps).Runs h s) : s.StatesLive := by
  refine Runs.state_invariant ?_ ?_ hRun
  · intro credentialId ref hGet
    cases hGet
  · intro s label t out hLive hStep
    exact statesLive_step hLive hStep

theorem aligned_create (id : Nat) : (create : Server World).Aligned id := by
  refine ⟨⟨?_, List.Pairwise.nil⟩, fun _ => ⟨rfl, ?_⟩, ?_, ?_, ?_, ?_⟩
  · intro i frame hGet
    cases hGet
  · rintro ⟨task, handshake, hTask, -⟩
    cases hTask
  · intro ref hRef
    cases hRef
  · intro task handshake hTask
    cases hTask
  · intro task task' handshake handshake' hTask
    cases hTask
  · intro hAttached
    exact absurd rfl hAttached

theorem aligned_of_runs (hRun : (serverMachine deps).Runs h s)
    (hUndisturbed : AllMeet (fun s label => Undisturbed deps s label id) h) :
    s.Aligned id := by
  apply hRun.guarded hUndisturbed
  · exact aligned_create id
  · intro h s label t out hRun _ hAligned hMeets hStep
    exact aligned_step (statesLive_of_runs hRun) hAligned hMeets hStep

end Server

/-- **Handshake ordering.**  In every run, a connection that every step leaves
undisturbed is sent its authenticated frame before any sequenced frame, and its
sequenced frames in increasing order. -/
theorem handshake_ordered (deps : WsServerDeps World)
    {h : List (Occurrence (Server World) (ServerLabel World) Returned)} {s : Server World}
    (hRun : (serverMachine deps).Runs h s) {id : Nat}
    (hUndisturbed : AllMeet (fun s label => Server.Undisturbed deps s label id) h) :
    HandshakeOrdered (s.sentOn id) :=
  (Server.aligned_of_runs hRun hUndisturbed).ordered

/-! ## The resume decision -/

/-- The authentication decides with the replay state of its credential. -/
theorem resume_beginHandshake (deps : WsServerDeps World) (s : Server World) (id : Nat)
    (authFrame : AuthFrame) (credential : CredentialRecord) {state : CredentialReplayState World}
    (hState : (s.getOrCreateCredentialState deps credential.credentialId).1.cells.get
      (s.getOrCreateCredentialState deps credential.credentialId).2 = some state) :
    (s.beginHandshake deps id authFrame credential).tasks.get s.tasks.next =
      some (.authFingerprint
        ⟨id, authFrame, credential, resumeFrom state authFrame.lastSeenSeq⟩) := by
  have hSame : ∀ f : Connection → Connection,
      ((s.modifyConnection id f).getOrCreateCredentialState deps
        credential.credentialId).1.cells.get
          ((s.modifyConnection id f).getOrCreateCredentialState deps credential.credentialId).2 =
        some state := by
    intro f
    rw [← hState]
    unfold Server.getOrCreateCredentialState
    rw [show (s.modifyConnection id f).credentialStates = s.credentialStates from rfl]
    cases s.credentialStates.get credential.credentialId <;> rfl
  unfold Server.beginHandshake
  simp only [Server.spawn, Server.modifyData, Server.modifyConnection, Arena.get_alloc,
    Server.getOrCreateCredentialState_tasks]
  unfold Server.modifyConnection at hSame
  simp only [hSame, if_true]

/-- A host whose sockets close at once and whose digest is the text itself. -/
def sampleServerDeps : WsServerDeps Unit where
  config := {}
  projectEvent := none
  sha256Hex := fun text => text
  closesSynchronously := true

/-- An active credential. -/
def sampleRecord : CredentialRecord where
  id := "cred"
  config := { operatorId := "operator", chatIds := ["chat"] }
  inboxIds := []
  status := .active
  issuedAt := 0
  expiresAt := 1000
  issuedBy := "admin"
  credentialId := "cred"
  operatorId := "operator"
  effectiveScopes := ⟨[.readMessages], []⟩
  isExpired := false
  lastHeartbeat := 0

def atZero (events : List ServerEvent) : List (ServerLabel Unit) :=
  events.map fun event => ⟨0, (), event⟩

def sampleEvent : SignetEvent := .credentialIssued "cred" "operator"

/-- One connection authenticates and is sent an event, then leaves; the next one
resumes from the start, and an event is broadcast before its fingerprint is
there. -/
def windowEvents : List ServerEvent :=
  [.start none,
   .open, .message 0 (.json (.auth ⟨"token", none⟩ none)), .tokenLookedUp 0 (some (.ok sampleRecord)),
   .fingerprinted 1, .broadcast "cred" sampleEvent, .closed 0,
   .open, .message 1 (.json (.auth ⟨"token", some 0⟩ none)), .tokenLookedUp 2 (some (.ok sampleRecord)),
   .broadcast "cred" sampleEvent, .fingerprinted 3]

theorem windowEvents_enabled : ((serverMachine sampleServerDeps).exec .create
    (atZero windowEvents)).isSome = true := by decide

theorem quietEvents_enabled : ((serverMachine sampleServerDeps).exec .create
    (atZero (windowEvents.take 6))).isSome = true := by decide

/-- A host whose replay buffer holds two frames. -/
def smallBufferDeps : WsServerDeps Unit :=
  { sampleServerDeps with config := { replayBufferSize := 2 } }

def threeSequenced : CredentialReplayState Unit :=
  sequenceEvents (.create smallBufferDeps.config "cred")
    (List.replicate 3 (sampleEvent, .heartbeat))

/-- An undisturbed connection: authenticated, then sent an event. -/
theorem handshake_ordered_undisturbed :
    ∃ h s, (serverMachine sampleServerDeps).exec .create (atZero (windowEvents.take 6)) =
        some (h, s) ∧
      (s.sequencedOn 0).map SequencedFrame.seq = [1] ∧ HandshakeOrdered (s.sentOn 0) := by
  have hExec := exec_outcome quietEvents_enabled
  refine ⟨_, _, hExec, by decide, ?_⟩
  exact handshake_ordered sampleServerDeps (runs_of_exec hExec) (by decide)

/-- The second event goes out ahead of the authenticated frame, and ahead of the
replay of the first. -/
theorem replay_sent_after_live_frame :
    ∃ h s, (serverMachine sampleServerDeps).exec .create (atZero windowEvents) = some (h, s) ∧
      (s.sequencedOn 1).map SequencedFrame.seq = [2, 1] ∧
      (s.sentOn 1).map ServerFrame.isAuthenticated = [false, true, false] ∧
      ¬ HandshakeOrdered (s.sentOn 1) := by
  refine ⟨_, _, exec_outcome windowEvents_enabled, by decide, by decide, ?_⟩
  intro hOrdered
  have hFirst : (((serverMachine sampleServerDeps).outcome .create (atZero windowEvents)
      windowEvents_enabled).2.sentOn 1)[0]? = some (.sequenced ⟨2, sampleEvent⟩) := by
    decide
  exact absurd (hOrdered.1 0 _ hFirst) (by simp)

end Ws
end Signet
