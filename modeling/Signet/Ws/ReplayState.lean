import Signet.Ws.Connection

/-!
# The replay state of a credential

The replay state is shared by all connections of a credential and survives
them: a replay buffer and the counter that numbers the events.  Beside what the
source keeps, the state carries the ledger of every frame it has ever numbered,
with the reason.  Numbering is gapless, and the buffer holds the last frames of
the ledger; both are part of the structure.

* `sequenceEvent` — number an event and keep it for replay.
* `resumeFrom` — what a reconnecting harness is given.
* `needsRecovery_iff`, `replayFrames_eq` — the resume decision in terms of the
  ledger.
-/

namespace Signet
namespace Ws

open Kit Schemas Sessions

/-- An event handed to `broadcast`.  The ticket tells the calls apart; no
function of the server looks at it. -/
structure Offered where
  ticket : Nat
  event : SignetEvent
deriving DecidableEq

/-- Why a frame was sequenced. -/
inductive Origin (World : Type) where
  /-- A broadcast, projected in a world with the record cached on the connection. -/
  | broadcast (credentialId : String) (offered : Offered) (credential : CredentialRecord)
      (world : World)
  | heartbeat
  | recovery
  | shutdown
deriving DecidableEq

structure CredentialReplayState (World : Type) where
  /-- The credential it was created for; no function of the server reads it. -/
  owner : String
  buffer : CircularBuffer SequencedFrame
  nextSeq : Nat
  /-- Every frame ever sequenced, oldest first; no function of the server reads it. -/
  ledger : List (SequencedFrame × Origin World)
  numbered : ledger.map (fun entry => entry.1.seq) = List.range' 1 ledger.length
  nextSeq_eq : nextSeq = ledger.length + 1
  buffered : buffer.toArray = (ledger.map Prod.fst).drop (ledger.length - buffer.cap)

/-- What a reconnecting harness is given. -/
structure Resume where
  resumedFromSeq : Option Nat
  needsRecovery : Bool
  replayFrames : List SequencedFrame
deriving DecidableEq

namespace CredentialReplayState

variable {World : Type} {state : CredentialReplayState World} {frame : SequencedFrame}

/-- A replay state that has numbered nothing. -/
def create (config : WsServerConfig) (credentialId : String) : CredentialReplayState World where
  owner := credentialId
  buffer := .create config.replayBufferSize config.replayBufferSize_pos
  nextSeq := 1
  ledger := []
  numbered := rfl
  nextSeq_eq := rfl
  buffered := by simp [CircularBuffer.toArray_create]

def frames (state : CredentialReplayState World) : List SequencedFrame :=
  state.ledger.map Prod.fst

@[simp]
theorem length_frames (state : CredentialReplayState World) :
    state.frames.length = state.ledger.length := List.length_map _

theorem seq_frames (state : CredentialReplayState World) :
    state.frames.map SequencedFrame.seq = List.range' 1 state.ledger.length := by
  rw [← state.numbered, frames, List.map_map]
  rfl

/-- The `i`-th frame is numbered `i + 1`. -/
theorem seq_of_getElem? {i : Nat} (h : state.frames[i]? = some frame) : frame.seq = i + 1 := by
  have hSeq : (state.frames.map SequencedFrame.seq)[i]? = some frame.seq := by
    rw [List.getElem?_map, h]
    rfl
  have hLt : i < state.ledger.length := by
    rw [← state.length_frames]
    exact (List.getElem?_eq_some_iff.mp h).1
  rw [state.seq_frames, List.getElem?_range' hLt] at hSeq
  simp only [Option.some.injEq] at hSeq
  omega

theorem pairwise_frames (state : CredentialReplayState World) :
    state.frames.Pairwise fun f g => f.seq < g.seq := by
  have hRange : (state.frames.map SequencedFrame.seq).Pairwise (· < ·) := by
    rw [state.seq_frames]
    exact List.pairwise_lt_range'
  exact List.pairwise_map.mp hRange

theorem seq_lt_nextSeq (h : frame ∈ state.frames) : frame.seq < state.nextSeq := by
  have hMem : frame.seq ∈ state.frames.map SequencedFrame.seq := List.mem_map_of_mem h
  rw [state.seq_frames, List.mem_range'_1] at hMem
  rw [state.nextSeq_eq]
  omega

/-- The number of frames that have left the buffer. -/
def evicted (state : CredentialReplayState World) : Nat :=
  state.ledger.length - state.buffer.cap

theorem toArray_eq (state : CredentialReplayState World) :
    state.buffer.toArray = state.frames.drop state.evicted := state.buffered

theorem cap_pos (state : CredentialReplayState World) : 0 < state.buffer.cap :=
  Nat.lt_of_le_of_lt (Nat.zero_le _) state.buffer.head_lt

end CredentialReplayState

variable {World : Type}

/-- Pushing the frame that comes next keeps the buffer the end of the ledger. -/
theorem toArray_push_of_buffered {α : Type} {buffer : CircularBuffer α} {frames : List α}
    (hBuffered : buffer.toArray = frames.drop (frames.length - buffer.cap)) (frame : α) :
    (buffer.push frame).toArray =
      (frames ++ [frame]).drop ((frames ++ [frame]).length - buffer.cap) := by
  have hCount : buffer.count = frames.length - (frames.length - buffer.cap) := by
    rw [← buffer.length_toArray, hBuffered, List.length_drop]
  have hCap : 0 < buffer.cap := Nat.lt_of_le_of_lt (Nat.zero_le _) buffer.head_lt
  rw [buffer.toArray_push, List.length_append, List.length_singleton]
  split
  · next hNotFull =>
    have hBefore : frames.length - buffer.cap = 0 := by omega
    have hAfter : frames.length + 1 - buffer.cap = 0 := by omega
    rw [hBuffered, hBefore, hAfter, List.drop_zero, List.drop_zero]
  · next hFull =>
    have hAfter : frames.length + 1 - buffer.cap = frames.length - buffer.cap + 1 := by omega
    rw [hBuffered, hAfter, List.tail_drop, List.drop_append_of_le_length (by omega)]

/-- Wraps an event in a sequenced frame, advances the counter and pushes to the
replay buffer. -/
def sequenceEvent (state : CredentialReplayState World) (event : SignetEvent)
    (origin : Origin World) : CredentialReplayState World × SequencedFrame :=
  let frame : SequencedFrame := ⟨state.nextSeq, event⟩
  ({ owner := state.owner
     buffer := state.buffer.push frame
     nextSeq := state.nextSeq + 1
     ledger := state.ledger ++ [(frame, origin)]
     numbered := by
       rw [List.map_append, state.numbered, List.length_append, List.length_singleton,
         List.range'_concat]
       simp [frame, state.nextSeq_eq, Nat.add_comm]
     nextSeq_eq := by rw [List.length_append, state.nextSeq_eq]; rfl
     buffered := by
       have hFrames : (state.ledger ++ [(frame, origin)]).map Prod.fst =
           state.frames ++ [frame] := List.map_append
       have hLength : (state.ledger ++ [(frame, origin)]).length =
           (state.frames ++ [frame]).length := by simp
       rw [hFrames, hLength]
       exact toArray_push_of_buffered (by rw [state.length_frames]; exact state.buffered) frame },
    frame)

theorem sequenceEvent_frames (state : CredentialReplayState World) (event : SignetEvent)
    (origin : Origin World) :
    (sequenceEvent state event origin).1.frames = state.frames ++ [⟨state.nextSeq, event⟩] :=
  List.map_append

/-- The resume decision of the authentication. -/
def resumeFrom (state : CredentialReplayState World) (lastSeenSeq : Option Nat) : Resume :=
  match lastSeenSeq with
  | none => ⟨none, false, []⟩
  | some lastSeen =>
    if state.buffer.oldest.any (fun oldestFrame => decide (oldestFrame.seq > lastSeen + 1)) then
      ⟨none, true, []⟩
    else
      let replayFrames := state.buffer.itemsSince fun f => decide (f.seq > lastSeen)
      ⟨if replayFrames.length > 0 then some lastSeen else none, false, replayFrames⟩

section

variable (state : CredentialReplayState World) (lastSeen : Nat)

/-- The oldest frame of the buffer comes right after the evicted ones. -/
theorem oldest_any_iff :
    state.buffer.oldest.any (fun f => decide (f.seq > lastSeen + 1)) = true ↔
      lastSeen < state.evicted := by
  rw [state.buffer.oldest_eq_head?, state.toArray_eq, List.head?_drop]
  cases hOldest : state.frames[state.evicted]? with
  | none =>
    rw [List.getElem?_eq_none_iff, state.length_frames] at hOldest
    have hCap := state.cap_pos
    unfold CredentialReplayState.evicted at hOldest ⊢
    simp only [Option.any_none, Bool.false_eq_true, false_iff]
    omega
  | some frame =>
    have hSeq := CredentialReplayState.seq_of_getElem? hOldest
    simp only [Option.any_some, decide_eq_true_eq, hSeq]
    omega

/-- A harness has to recover exactly when a frame it has not seen was evicted. -/
theorem needsRecovery_iff :
    (resumeFrom state (some lastSeen)).needsRecovery = true ↔ lastSeen < state.evicted := by
  rw [← oldest_any_iff]
  unfold resumeFrom
  dsimp only
  split
  · next hOld => simp [hOld]
  · next hOld => simp [hOld]

end

variable {lastSeen : Nat}

/-- Otherwise it is given every frame it has not seen, in order. -/
theorem replayFrames_eq {state : CredentialReplayState World}
    (h : (resumeFrom state (some lastSeen)).needsRecovery = false) :
    (resumeFrom state (some lastSeen)).replayFrames =
      state.frames.filter fun f => decide (f.seq > lastSeen) := by
  have hKept : ¬ lastSeen < state.evicted := by
    rw [← needsRecovery_iff, h]
    exact Bool.false_ne_true
  have hFrames : (resumeFrom state (some lastSeen)).replayFrames =
      (state.frames.drop state.evicted).filter fun f => decide (f.seq > lastSeen) := by
    rw [← state.toArray_eq, ← state.buffer.itemsSince_eq_filter]
    unfold resumeFrom
    dsimp only
    rw [if_neg (by rwa [oldest_any_iff])]
  -- the evicted frames are not asked for
  have hEvicted : (state.frames.take state.evicted).filter
      (fun f => decide (f.seq > lastSeen)) = [] := by
    rw [List.filter_eq_nil_iff]
    intro f hf
    obtain ⟨i, hi⟩ := List.mem_iff_getElem?.mp hf
    rw [List.getElem?_take] at hi
    split at hi
    · next hLt =>
      have hSeq := CredentialReplayState.seq_of_getElem? hi
      simp only [decide_eq_true_eq]
      omega
    · cases hi
  conv_rhs => rw [← List.take_append_drop state.evicted state.frames, List.filter_append, hEvicted]
  rw [hFrames, List.nil_append]

theorem replayFrames_sublist (state : CredentialReplayState World) (lastSeenSeq : Option Nat) :
    (resumeFrom state lastSeenSeq).replayFrames.Sublist state.frames := by
  cases lastSeenSeq with
  | none => exact List.nil_sublist _
  | some lastSeen =>
    cases hRecovery : (resumeFrom state (some lastSeen)).needsRecovery with
    | false =>
      rw [replayFrames_eq hRecovery]
      exact List.filter_sublist
    | true =>
      have hOld := (oldest_any_iff state lastSeen).mpr
        ((needsRecovery_iff state lastSeen).mp hRecovery)
      unfold resumeFrom
      simp only [hOld, if_true]
      exact List.nil_sublist _

/-! ## Exactness of the resume decision -/

theorem seq_filter_frames (state : CredentialReplayState World) (hLt : lastSeen < state.nextSeq) :
    (state.frames.filter fun f => decide (f.seq > lastSeen)).map SequencedFrame.seq =
      List.range' (lastSeen + 1) (state.nextSeq - 1 - lastSeen) := by
  have hNext := state.nextSeq_eq
  have hSplit : List.range' 1 state.ledger.length =
      List.range' 1 lastSeen ++ List.range' (lastSeen + 1) (state.nextSeq - 1 - lastSeen) := by
    rw [Nat.add_comm lastSeen 1, List.range'_append_1]
    congr 1
    omega
  have hSeen : (List.range' 1 lastSeen).filter (fun seq => decide (seq > lastSeen)) = [] := by
    rw [List.filter_eq_nil_iff]
    intro seq hSeq
    rw [List.mem_range'_1] at hSeq
    simp only [decide_eq_true_eq]
    omega
  have hUnseen : (List.range' (lastSeen + 1) (state.nextSeq - 1 - lastSeen)).filter
      (fun seq => decide (seq > lastSeen)) =
      List.range' (lastSeen + 1) (state.nextSeq - 1 - lastSeen) := by
    rw [List.filter_eq_self]
    intro seq hSeq
    rw [List.mem_range'_1] at hSeq
    simp only [decide_eq_true_eq]
    omega
  have hMap : (state.frames.filter fun f => decide (f.seq > lastSeen)).map SequencedFrame.seq =
      (state.frames.map SequencedFrame.seq).filter fun seq => decide (seq > lastSeen) := by
    rw [List.filter_map]
    rfl
  rw [hMap, state.seq_frames, hSplit, List.filter_append, hSeen, hUnseen, List.nil_append]

/-- A frame has been evicted: it was numbered, and the buffer no longer holds it. -/
def CredentialReplayState.Evicted (state : CredentialReplayState World) (seq : Nat) : Prop :=
  1 ≤ seq ∧ seq < state.nextSeq ∧ ∀ f ∈ state.buffer.toArray, f.seq ≠ seq

theorem evicted_iff (state : CredentialReplayState World) (seq : Nat) :
    state.Evicted seq ↔ 1 ≤ seq ∧ seq ≤ state.evicted := by
  have hNext := state.nextSeq_eq
  have hEvicted : state.evicted ≤ state.ledger.length := Nat.sub_le _ _
  unfold CredentialReplayState.Evicted
  rw [state.toArray_eq]
  constructor
  · rintro ⟨hPos, hLt, hGone⟩
    refine ⟨hPos, ?_⟩
    by_contra hKept
    have hIndex : seq - 1 < state.frames.length := by rw [state.length_frames]; omega
    have hGet := List.getElem?_eq_getElem hIndex
    have hSeq := CredentialReplayState.seq_of_getElem? hGet
    refine hGone state.frames[seq - 1] ?_ (by omega)
    rw [List.mem_iff_getElem?]
    refine ⟨seq - 1 - state.evicted, ?_⟩
    rw [List.getElem?_drop, show state.evicted + (seq - 1 - state.evicted) = seq - 1 by omega, hGet]
  · rintro ⟨hPos, hLe⟩
    refine ⟨hPos, by omega, ?_⟩
    intro f hf
    obtain ⟨i, hi⟩ := List.mem_iff_getElem?.mp hf
    rw [List.getElem?_drop] at hi
    have hSeq := CredentialReplayState.seq_of_getElem? hi
    omega

/-- **The resume decision is exact.**  A harness recovers exactly when a frame it
has not seen was evicted; otherwise it is replayed the frames it has not seen,
each once and in order. -/
theorem resume_exact (state : CredentialReplayState World) (hSeen : lastSeen < state.nextSeq) :
    ((resumeFrom state (some lastSeen)).needsRecovery = true ↔
        ∃ seq, lastSeen < seq ∧ state.Evicted seq) ∧
      ((resumeFrom state (some lastSeen)).needsRecovery = false →
        (resumeFrom state (some lastSeen)).replayFrames.map SequencedFrame.seq =
          List.range' (lastSeen + 1) (state.nextSeq - 1 - lastSeen)) := by
  constructor
  · rw [needsRecovery_iff]
    constructor
    · intro hLt
      exact ⟨lastSeen + 1, by omega, (evicted_iff state _).mpr ⟨by omega, by omega⟩⟩
    · rintro ⟨seq, hLt, hEvicted⟩
      have hLe := ((evicted_iff state seq).mp hEvicted).2
      omega
  · intro hKept
    rw [replayFrames_eq hKept, seq_filter_frames state hSeen]

def sequenceEvents (state : CredentialReplayState World)
    (events : List (SignetEvent × Origin World)) : CredentialReplayState World :=
  events.foldl (fun state event => (sequenceEvent state event.1 event.2).1) state

end Ws
end Signet
