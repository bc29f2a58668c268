import Signet.Kit.AsyncQueue
import Signet.Kit.Machine

/-!
# The event stream of the SDK

The stream between the handler, which pushes events and completes it, and those who iterate over
it.  All iterators of a stream are one object, so a step is a call of `push`, `complete` or
`next`, in any order, and any number of calls of `next` may be waiting.

* `eventStreamMachine` — the stream, one call after another.
* `due` — what a call should be answered, by the order of the calls alone.
* `LosslessFifo` — every call has been answered what it was due, once.
* `lossless_fifo_iff` — exactly when.
-/

namespace Signet
namespace Sdk

open Kit Machine

/-! ## The stream -/

inductive StreamLabel (α : Type*) where
  | push (event : α)
  | complete
  | next
deriving DecidableEq

/-- `createEventStream` -/
def createEventStream {α : Type*} : AsyncQueue α := .empty

/-- The stream with its calls. -/
def eventStreamMachine (α : Type*) : Machine (AsyncQueue α) (StreamLabel α) (Answered α) where
  init := createEventStream
  step
    | stream, .push event => some (stream.push event)
    | stream, .complete => some stream.complete
    | stream, .next => some stream.next

/-- One call of a function of the stream. -/
abbrev StreamOccurrence (α : Type*) := Occurrence (AsyncQueue α) (StreamLabel α) (Answered α)

/-! ## What is due -/

variable {α : Type*}

namespace StreamLabel

def event : StreamLabel α → Option α
  | .push event => some event
  | .complete | .next => none

def isComplete : StreamLabel α → Bool
  | .complete => true
  | .push _ | .next => false

def isNext : StreamLabel α → Bool
  | .next => true
  | .push _ | .complete => false

end StreamLabel

/-- The events that are pushed before the stream is completed. -/
def accepted (labels : List (StreamLabel α)) : List α :=
  (labels.takeWhile fun label => !label.isComplete).filterMap StreamLabel.event

def completed (labels : List (StreamLabel α)) : Bool := labels.any StreamLabel.isComplete

/-- How many calls of `next` there are. -/
def nextCalls (labels : List (StreamLabel α)) : Nat := labels.countP StreamLabel.isNext

/-- What a call is due: the event of its number, or, when there is none and the stream is
completed, that there is none left. -/
def due (labels : List (StreamLabel α)) (call : Nat) : Option (Option α) :=
  match (accepted labels)[call]? with
  | some event => some (some event)
  | none => if completed labels then some none else none

def answersTo (out : List (Answered α)) (call : Nat) : List (Option α) :=
  out.filterMap fun answer => if answer.1 = call then some answer.2 else none

def labels (h : List (StreamOccurrence α)) : List (StreamLabel α) := h.map Occurrence.label

/-- The calls of `next` have been answered in their order, each once: with the events in the order
in which they were pushed, and then that there is none left. -/
def LosslessFifo (h : List (StreamOccurrence α)) : Prop :=
  ∀ call < nextCalls (labels h),
    answersTo (outputs h) call = (due (labels h) call).toList

/-- At most one call waits when an event is pushed, or the stream completed. -/
def OneWaits (stream : AsyncQueue α) : StreamLabel α → Prop
  | .push _ | .complete => stream.pending.length ≤ 1
  | .next => True

instance (stream : AsyncQueue α) (label : StreamLabel α) : Decidable (OneWaits stream label) :=
  match label with
  | .push _ | .complete => inferInstanceAs (Decidable (stream.pending.length ≤ 1))
  | .next => inferInstanceAs (Decidable True)

/-! ### One more call -/

section Snoc

variable (before : List (StreamLabel α)) (label : StreamLabel α)

theorem accepted_snoc :
    accepted (before ++ [label]) =
      if completed before then accepted before else accepted before ++ label.event.toList := by
  induction before with
  | nil => cases label <;> rfl
  | cons first rest ih =>
    cases first with
    -- everything behind a completion is dropped on both sides
    | complete => rfl
    | push event =>
      have hPush : ∀ more, accepted (.push event :: more) = event :: accepted more :=
        fun _ => rfl
      have hCompleted : completed (.push event :: rest) = completed rest := rfl
      rw [List.cons_append, hPush, hPush, hCompleted, ih]
      split <;> rfl
    | next =>
      have hNext : ∀ more : List (StreamLabel α), accepted (.next :: more) = accepted more :=
        fun _ => rfl
      have hCompleted : completed (.next :: rest) = completed rest := rfl
      rw [List.cons_append, hNext, hNext, hCompleted, ih]

theorem completed_snoc :
    completed (before ++ [label]) = (completed before || label.isComplete) := by
  simp [completed]

theorem nextCalls_snoc :
    nextCalls (before ++ [label]) = nextCalls before + label.isNext.toNat := by
  rw [nextCalls, List.countP_append, List.countP_singleton]
  cases label <;> rfl

variable {call : Nat}

theorem due_snoc {answer : Option α} (h : due before call = some answer) :
    due (before ++ [label]) call = some answer := by
  unfold due at h ⊢
  cases hDone : completed before with
  | true =>
    rw [hDone] at h
    rw [accepted_snoc, completed_snoc, hDone, if_pos rfl, Bool.true_or]
    exact h
  | false =>
    rw [accepted_snoc, hDone, if_neg Bool.false_ne_true]
    cases hEvent : (accepted before)[call]? with
    | none =>
      rw [hEvent, hDone] at h
      cases h
    | some event =>
      obtain ⟨hLt, -⟩ := List.getElem?_eq_some_iff.mp hEvent
      rw [hEvent] at h
      rw [List.getElem?_append_left hLt, hEvent]
      exact h

variable {before}

theorem due_of_lt (h : call < (accepted before).length) :
    due before call = some (some ((accepted before)[call])) := by
  unfold due
  rw [List.getElem?_eq_getElem h]

theorem due_of_le (h : (accepted before).length ≤ call) :
    due before call = if completed before then some none else none := by
  unfold due
  rw [List.getElem?_eq_none h]

theorem due_snoc_of_completed (h : completed before = true) (call : Nat) :
    due (before ++ [label]) call = due before call := by
  unfold due
  rw [accepted_snoc, if_pos h, completed_snoc, h, Bool.true_or]

/-- Nothing new is due for a call of `next`. -/
theorem due_snoc_next (before : List (StreamLabel α)) (call : Nat) :
    due (before ++ [.next]) call = due before call := by
  unfold due
  rw [accepted_snoc, completed_snoc]
  simp [StreamLabel.event, StreamLabel.isComplete]

/-- What was due of the events stays so. -/
theorem due_snoc_of_lt (h : call < (accepted before).length) :
    due (before ++ [label]) call = due before call := by
  rw [due_of_lt h]
  exact due_snoc before label (due_of_lt h)

end Snoc

@[simp]
theorem labels_snoc (h : List (StreamOccurrence α)) (o : StreamOccurrence α) :
    labels (h ++ [o]) = labels h ++ [o.label] := by
  simp [labels]

@[simp]
theorem answersTo_append (out later : List (Answered α)) (call : Nat) :
    answersTo (out ++ later) call = answersTo out call ++ answersTo later call :=
  List.filterMap_append

theorem answersTo_single (call other : Nat) (answer : Option α) :
    answersTo [(call, answer)] other = if call = other then [answer] else [] := by
  unfold answersTo
  split <;> simp [*]

/-! ## Every run -/

variable {h : List (StreamOccurrence α)} {q q' : AsyncQueue α} {label : StreamLabel α}
  {out : List (Answered α)}

/-- The calls are numbered in their order, and those that wait have had no answer. -/
structure Numbered (h : List (StreamOccurrence α)) (q : AsyncQueue α) : Prop where
  calls : q.calls = nextCalls (labels h)
  pending_lt : ∀ call ∈ q.pending, call < q.calls
  nodup : q.pending.Nodup
  unanswered : ∀ call ∈ q.pending, answersTo (outputs h) call = []
  later : ∀ call, q.calls ≤ call → answersTo (outputs h) call = []

section

variable (hNumbered : Numbered h q)

include hNumbered

/-- A function of the producer that answers nobody. -/
theorem Numbered.silent (hLabel : label.isNext = false) (hCalls : q'.calls = q.calls)
    (hPending : q'.pending = q.pending) :
    Numbered (h ++ [⟨q, label, []⟩]) q' where
  calls := by simp [hCalls, hNumbered.calls, nextCalls_snoc, hLabel]
  pending_lt := by
    rw [hPending, hCalls]
    exact hNumbered.pending_lt
  nodup := hPending ▸ hNumbered.nodup
  unanswered := by
    rw [hPending]
    simpa [answersTo] using hNumbered.unanswered
  later := by
    rw [hCalls]
    simpa [answersTo] using hNumbered.later

/-- A function of the producer that answers the waiting call. -/
theorem Numbered.answerWaiter (hLabel : label.isNext = false) {call : Nat}
    (hWaiter : q.waiter = some call) (answer : Option α) (hCalls : q'.calls = q.calls)
    (hPending : q'.pending = q.abandoned) :
    Numbered (h ++ [⟨q, label, [(call, answer)]⟩]) q' := by
  -- the waiter is the last of the calls that wait; the others keep waiting for ever
  have hBefore : q.pending = q.abandoned ++ [call] := by simp [AsyncQueue.pending, hWaiter]
  have hNodup := hNumbered.nodup
  rw [hBefore, List.nodup_append] at hNodup
  have hMem : ∀ other ∈ q.abandoned, other ∈ q.pending := by
    intro other hOther
    rw [hBefore]
    exact List.mem_append_left _ hOther
  have hCall : call < q.calls := hNumbered.pending_lt call (by simp [hBefore])
  constructor
  · simp [hCalls, hNumbered.calls, nextCalls_snoc, hLabel]
  · intro other hOther
    rw [hPending] at hOther
    rw [hCalls]
    exact hNumbered.pending_lt other (hMem other hOther)
  · exact hPending ▸ hNodup.1
  · intro other hOther
    rw [hPending] at hOther
    -- the answer goes to the waiter, and no call that waits has its number
    have hNe : call ≠ other := fun hEq => hNodup.2.2 other hOther call (by simp) hEq.symm
    rw [outputs_append, outputs_singleton, answersTo_append, answersTo_single,
      if_neg hNe, hNumbered.unanswered other (hMem other hOther)]
    rfl
  · intro other hLater
    rw [hCalls] at hLater
    rw [outputs_append, outputs_singleton, answersTo_append, answersTo_single,
      if_neg (by omega), hNumbered.later other hLater]
    rfl

/-- A call of `next` that is answered at once. -/
theorem Numbered.answerNext (answer : Option α) (hCalls : q'.calls = q.calls + 1)
    (hPending : q'.pending = q.pending) :
    Numbered (h ++ [⟨q, .next, [(q.calls, answer)]⟩]) q' := by
  constructor
  · simp [hCalls, hNumbered.calls, nextCalls_snoc, StreamLabel.isNext]
  · intro call hCall
    rw [hPending] at hCall
    rw [hCalls]
    exact Nat.lt_succ_of_lt (hNumbered.pending_lt call hCall)
  · exact hPending ▸ hNumbered.nodup
  · intro call hCall
    rw [hPending] at hCall
    have hLt := hNumbered.pending_lt call hCall
    rw [outputs_append, outputs_singleton, answersTo_append, answersTo_single,
      if_neg (by omega), hNumbered.unanswered call hCall]
    rfl
  · intro call hLater
    rw [outputs_append, outputs_singleton, answersTo_append, answersTo_single,
      if_neg (by omega), hNumbered.later call (by omega)]
    rfl

/-- A call of `next` that waits. -/
theorem Numbered.wait (hCalls : q'.calls = q.calls + 1)
    (hPending : q'.pending = q.pending ++ [q.calls]) :
    Numbered (h ++ [⟨q, .next, []⟩]) q' := by
  constructor
  · simp [hCalls, hNumbered.calls, nextCalls_snoc, StreamLabel.isNext]
  · intro call hCall
    rw [hPending, List.mem_append, List.mem_singleton] at hCall
    rcases hCall with hEarlier | rfl
    · exact hCalls ▸ Nat.lt_succ_of_lt (hNumbered.pending_lt call hEarlier)
    · omega
  · rw [hPending, List.nodup_append]
    refine ⟨hNumbered.nodup, by simp, ?_⟩
    intro call hCall other hOther
    rw [List.mem_singleton] at hOther
    have hLt := hNumbered.pending_lt call hCall
    omega
  · intro call hCall
    rw [hPending, List.mem_append, List.mem_singleton] at hCall
    rw [outputs_append, outputs_singleton, answersTo_append]
    rcases hCall with hEarlier | rfl
    · rw [hNumbered.unanswered call hEarlier]
      rfl
    · rw [hNumbered.later _ (Nat.le_refl _)]
      rfl
  · intro call hLater
    rw [outputs_append, outputs_singleton, answersTo_append,
      hNumbered.later call (by omega)]
    rfl

theorem numbered_push (event : α) :
    Numbered (h ++ [⟨q, .push event, (q.push event).2⟩]) (q.push event).1 := by
  by_cases hDone : q.done = true
  · rw [AsyncQueue.push_of_done hDone]
    exact hNumbered.silent rfl rfl rfl
  · rw [Bool.not_eq_true] at hDone
    cases hWaiter : q.waiter with
    | none =>
      obtain ⟨hOut, -, -, hCalls, hNone, hAbandoned⟩ :=
        AsyncQueue.push_of_idle hDone hWaiter event
      rw [hOut]
      refine hNumbered.silent rfl hCalls ?_
      simp only [AsyncQueue.pending, hNone, hAbandoned, hWaiter]
    | some call =>
      obtain ⟨hOut, -, -, hCalls, hNone, hAbandoned⟩ := AsyncQueue.push_of_waiter hWaiter event
      rw [hOut]
      refine hNumbered.answerWaiter rfl hWaiter _ hCalls ?_
      simp [AsyncQueue.pending, hNone, hAbandoned]

theorem numbered_complete : Numbered (h ++ [⟨q, .complete, q.complete.2⟩]) q.complete.1 := by
  unfold AsyncQueue.complete
  cases hWaiter : q.waiter with
  | none => exact hNumbered.silent rfl rfl (by simp [AsyncQueue.pending, hWaiter])
  | some call => exact hNumbered.answerWaiter rfl hWaiter _ rfl (by simp [AsyncQueue.pending])

theorem numbered_next : Numbered (h ++ [⟨q, .next, q.next.2⟩]) q.next.1 := by
  cases hBuffer : q.buffer with
  | cons event rest =>
    obtain ⟨hOut, -, -, hCalls, hWaiter, hAbandoned⟩ := AsyncQueue.next_of_buffer hBuffer
    rw [hOut]
    refine hNumbered.answerNext _ hCalls ?_
    simp only [AsyncQueue.pending, hWaiter, hAbandoned]
  | nil =>
    by_cases hDone : q.done = true
    · obtain ⟨hOut, -, -, hCalls, hWaiter, hAbandoned⟩ := AsyncQueue.next_of_done hBuffer hDone
      rw [hOut]
      refine hNumbered.answerNext _ hCalls ?_
      simp only [AsyncQueue.pending, hWaiter, hAbandoned]
    · rw [Bool.not_eq_true] at hDone
      obtain ⟨hOut, -, -, hCalls, hWaiter, hAbandoned⟩ := AsyncQueue.next_of_empty hBuffer hDone
      rw [hOut]
      refine hNumbered.wait hCalls ?_
      rw [AsyncQueue.pending, hWaiter, hAbandoned]
      rfl

end

/-- What holds at first and is kept by the three functions holds in every run. -/
theorem stream_run {P : List (StreamOccurrence α) → AsyncQueue α → Prop}
    (hRun : (eventStreamMachine α).Runs h q) (hStart : P [] createEventStream)
    (hPush : ∀ h q event, P h q →
      P (h ++ [⟨q, .push event, (q.push event).2⟩]) (q.push event).1)
    (hComplete : ∀ h q, P h q → P (h ++ [⟨q, .complete, q.complete.2⟩]) q.complete.1)
    (hNext : ∀ h q, P h q → P (h ++ [⟨q, .next, q.next.2⟩]) q.next.1) : P h q := by
  induction hRun with
  | start => exact hStart
  | @step before stream stream' label out _ hStep ih =>
    cases label with
    | push event =>
      have hTurn : stream.push event = (stream', out) := Option.some.inj hStep
      have hKept := hPush before stream event ih
      rwa [hTurn] at hKept
    | complete =>
      have hTurn : stream.complete = (stream', out) := Option.some.inj hStep
      have hKept := hComplete before stream ih
      rwa [hTurn] at hKept
    | next =>
      have hTurn : stream.next = (stream', out) := Option.some.inj hStep
      have hKept := hNext before stream ih
      rwa [hTurn] at hKept

theorem numbered_of_run (hRun : (eventStreamMachine α).Runs h q) : Numbered h q := by
  refine stream_run hRun ?_ ?_ ?_ ?_
  · exact
      { calls := rfl
        pending_lt := fun _ hCall => nomatch hCall
        nodup := List.nodup_nil
        unanswered := fun _ hCall => nomatch hCall
        later := fun _ _ => rfl }
  · exact fun _ _ event hBefore => numbered_push hBefore event
  · exact fun _ _ hBefore => numbered_complete hBefore
  · exact fun _ _ hBefore => numbered_next hBefore

/-! ## While at most one call waits -/

/-- The stream is where the order of the calls says. -/
structure InStep (h : List (StreamOccurrence α)) (q : AsyncQueue α) : Prop where
  done : q.done = completed (labels h)
  buffer : q.buffer = (accepted (labels h)).drop q.calls
  pending : q.pending = if q.done then [] else
    List.range' (accepted (labels h)).length (q.calls - (accepted (labels h)).length)
  waits : q.waiter = none → q.abandoned = []
  answered : ∀ call < q.calls,
    answersTo (outputs h) call = (due (labels h) call).toList

/-- The one call that waits is the next to get an event. -/
theorem InStep.waiter (hInStep : InStep h q) (hOne : q.pending.length ≤ 1) {call : Nat}
    (hWaiter : q.waiter = some call) :
    q.abandoned = [] ∧ call = (accepted (labels h)).length ∧ q.calls = call + 1 := by
  have hPending : q.pending = q.abandoned ++ [call] := by simp [AsyncQueue.pending, hWaiter]
  have hNone : q.abandoned = [] := by
    rw [hPending, List.length_append, List.length_singleton] at hOne
    exact List.eq_nil_of_length_eq_zero (by omega)
  have hRange := hInStep.pending
  -- somebody waits, so the stream is open and the range is not empty
  rw [(q.idle (by simp [hWaiter])).2, if_neg Bool.false_ne_true, hPending, hNone,
    List.nil_append] at hRange
  have hLength := congrArg List.length hRange
  rw [List.length_singleton, List.length_range'] at hLength
  rw [← hLength] at hRange
  have hCall : call = (accepted (labels h)).length := by
    simpa using hRange
  exact ⟨hNone, hCall, by omega⟩

/-- While nobody waits all calls have found their event. -/
theorem InStep.idle (hInStep : InStep h q) (hDone : q.done = false) (hWaiter : q.waiter = none) :
    q.abandoned = [] ∧ q.calls ≤ (accepted (labels h)).length := by
  have hNone := hInStep.waits hWaiter
  have hRange := hInStep.pending
  rw [hDone, if_neg Bool.false_ne_true, AsyncQueue.pending, hNone, hWaiter] at hRange
  have hLength := congrArg List.length hRange
  rw [List.length_range'] at hLength
  simp only [List.nil_append, Option.toList_none, List.length_nil] at hLength
  exact ⟨hNone, by omega⟩

theorem inStep_push (hInStep : InStep h q) (hOne : q.pending.length ≤ 1) (event : α) :
    InStep (h ++ [⟨q, .push event, (q.push event).2⟩]) (q.push event).1 := by
  by_cases hDone : q.done = true
  · have hCompleted : completed (labels h) = true := hInStep.done ▸ hDone
    rw [AsyncQueue.push_of_done hDone]
    constructor
    · simp [hInStep.done, completed_snoc, StreamLabel.isComplete]
    · rw [labels_snoc, accepted_snoc, if_pos hCompleted]
      exact hInStep.buffer
    · rw [labels_snoc, accepted_snoc, if_pos hCompleted]
      exact hInStep.pending
    · exact hInStep.waits
    · intro call hCall
      rw [labels_snoc, due_snoc_of_completed _ hCompleted, ← hInStep.answered call hCall]
      simp [answersTo]
  · rw [Bool.not_eq_true] at hDone
    have hOpen : completed (labels h) = false := hInStep.done ▸ hDone
    have hOpen' : completed (labels h ++ [.push event]) = false := by
      rw [completed_snoc, hOpen]
      rfl
    have hAccepted : accepted (labels h ++ [.push event]) = accepted (labels h) ++ [event] := by
      rw [accepted_snoc, hOpen]
      rfl
    cases hWaiter : q.waiter with
    | none =>
      -- nobody waits: the event goes to the end of the buffer
      obtain ⟨hNone, hFew⟩ := hInStep.idle hDone hWaiter
      obtain ⟨hOut, hBuffer, hDone', hCalls, hWaiter', hAbandoned⟩ :=
        AsyncQueue.push_of_idle hDone hWaiter event
      constructor
      · rw [labels_snoc, hOpen', hDone']
      · rw [labels_snoc, hAccepted, hBuffer, hCalls, hInStep.buffer,
          List.drop_append_of_le_length hFew]
      · rw [labels_snoc, hAccepted, hDone', AsyncQueue.pending, hWaiter', hAbandoned, hNone,
          hCalls, List.length_append, List.length_singleton,
          Nat.sub_eq_zero_of_le (Nat.le_succ_of_le hFew)]
        rfl
      · intro _
        rw [hAbandoned, hNone]
      · intro call hCall
        rw [hCalls] at hCall
        rw [hOut, labels_snoc, due_snoc_of_lt _ (by omega), ← hInStep.answered call hCall]
        simp [answersTo]
    | some waiting =>
      -- the waiter is the call whose number the new event has
      obtain ⟨hNone, hWaiting, hLast⟩ := hInStep.waiter hOne hWaiter
      obtain ⟨hOut, hBuffer, hDone', hCalls, hWaiter', hAbandoned⟩ :=
        AsyncQueue.push_of_waiter hWaiter event
      constructor
      · rw [labels_snoc, hOpen', hDone', hDone]
      · rw [labels_snoc, hAccepted, hBuffer, hCalls, (q.idle (by simp [hWaiter])).1,
          List.drop_eq_nil_of_le (by simp; omega)]
      · rw [labels_snoc, hAccepted, hDone', hDone, AsyncQueue.pending, hWaiter', hAbandoned,
          hNone, hCalls, List.length_append, List.length_singleton,
          Nat.sub_eq_zero_of_le (by omega)]
        rfl
      · intro _
        rw [hAbandoned, hNone]
      · intro call hCall
        rw [hCalls] at hCall
        rw [hOut, outputs_append, outputs_singleton, answersTo_append,
          answersTo_single, labels_snoc, hInStep.answered call hCall]
        by_cases hEq : waiting = call
        · subst hEq
          have hLt : waiting < (accepted (labels h ++ [.push event])).length := by
            rw [hAccepted, List.length_append, List.length_singleton]
            omega
          rw [if_pos rfl, due_of_le (by omega), hOpen, due_of_lt hLt]
          simp [hAccepted, hWaiting]
        · rw [if_neg hEq, due_snoc_of_lt _ (by omega), List.append_nil]

theorem inStep_complete (hInStep : InStep h q) (hOne : q.pending.length ≤ 1) :
    InStep (h ++ [⟨q, .complete, q.complete.2⟩]) q.complete.1 := by
  have hAccepted : accepted (labels h ++ [.complete]) = accepted (labels h) := by
    rw [accepted_snoc]
    split <;> simp [StreamLabel.event]
  have hCompleted : completed (labels h ++ [.complete]) = true := by
    rw [completed_snoc]
    exact Bool.or_true _
  have hNone : q.abandoned = [] := by
    cases hWaiter : q.waiter with
    | none => exact hInStep.waits hWaiter
    | some waiting => exact (hInStep.waiter hOne hWaiter).1
  constructor
  · rw [labels_snoc, hCompleted]
    rfl
  · rw [labels_snoc, hAccepted]
    exact hInStep.buffer
  · simp [AsyncQueue.complete, AsyncQueue.pending, hNone]
  · exact fun _ => hNone
  · intro call hCall
    have hCall' : call < q.calls := hCall
    rw [outputs_append, outputs_singleton, answersTo_append, labels_snoc,
      hInStep.answered call hCall']
    cases hWaiter : q.waiter with
    | some waiting =>
      obtain ⟨-, hWaiting, hLast⟩ := hInStep.waiter hOne hWaiter
      have hOpen : completed (labels h) = false :=
        hInStep.done ▸ (q.idle (by simp [hWaiter])).2
      have hOut : q.complete.2 = [(waiting, none)] := by simp [AsyncQueue.complete, hWaiter]
      rw [hOut, answersTo_single]
      by_cases hEq : waiting = call
      · subst hEq
        rw [if_pos rfl, due_of_le (by omega), hOpen, due_of_le (by rw [hAccepted]; omega),
          hCompleted]
        rfl
      · rw [if_neg hEq, due_snoc_of_lt _ (by omega), List.append_nil]
    | none =>
      have hOut : q.complete.2 = [] := by simp [AsyncQueue.complete, hWaiter]
      rw [hOut]
      cases hDone : q.done with
      | true =>
        rw [due_snoc_of_completed _ (hInStep.done ▸ hDone)]
        exact List.append_nil _
      | false =>
        obtain ⟨-, hFew⟩ := hInStep.idle hDone hWaiter
        rw [due_snoc_of_lt _ (by omega)]
        exact List.append_nil _

/-- A call of `next` that is answered what it is due. -/
theorem answered_next (hNumbered : Numbered h q) (hInStep : InStep h q)
    (hOut : q.next.2 = (due (labels h) q.calls).toList.map fun answer => (q.calls, answer)) :
    ∀ call < q.calls + 1, answersTo (outputs (h ++ [⟨q, .next, q.next.2⟩])) call =
      (due (labels (h ++ [⟨q, .next, q.next.2⟩])) call).toList := by
  intro call hCall
  rw [labels_snoc, due_snoc_next, outputs_append, outputs_singleton,
    answersTo_append, hOut]
  by_cases hEq : call = q.calls
  · subst hEq
    rw [hNumbered.later _ (Nat.le_refl _)]
    cases due (labels h) q.calls with
    | none => rfl
    | some answer => simp [answersTo_single]
  · rw [hInStep.answered call (by omega)]
    cases due (labels h) q.calls with
    | none => exact List.append_nil _
    | some answer => simp [answersTo_single, Ne.symm hEq]

theorem inStep_next (hNumbered : Numbered h q) (hInStep : InStep h q) :
    InStep (h ++ [⟨q, .next, q.next.2⟩]) q.next.1 := by
  have hAccepted : accepted (labels h ++ [.next]) = accepted (labels h) := by
    rw [accepted_snoc]
    split <;> simp [StreamLabel.event]
  have hCompleted : completed (labels h ++ [.next]) = completed (labels h) := by
    rw [completed_snoc]
    exact Bool.or_false _
  have hDrop := hInStep.buffer
  have hRange := hInStep.pending
  cases hBuffer : q.buffer with
  | cons event rest =>
    obtain ⟨hOut, hBuffer', hDone', hCalls, hWaiter', hAbandoned⟩ :=
      AsyncQueue.next_of_buffer hBuffer
    rw [hBuffer] at hDrop
    -- the buffer holds what is left of the accepted events behind the calls
    have hLt : q.calls < (accepted (labels h)).length := by
      by_contra hLe
      rw [List.drop_eq_nil_of_le (by omega)] at hDrop
      cases hDrop
    rw [List.drop_eq_getElem_cons hLt] at hDrop
    obtain ⟨hFirst, hRest⟩ := List.cons.inj hDrop
    constructor
    · rw [labels_snoc, hCompleted, hDone', hInStep.done]
    · rw [labels_snoc, hAccepted, hBuffer', hCalls, hRest]
    · rw [labels_snoc, hAccepted, hDone', hCalls, AsyncQueue.pending, hWaiter', hAbandoned]
      rw [Nat.sub_eq_zero_of_le (Nat.le_of_lt hLt)] at hRange
      rw [Nat.sub_eq_zero_of_le hLt]
      exact hRange
    · rw [hWaiter', hAbandoned]
      exact hInStep.waits
    · rw [hCalls]
      apply answered_next hNumbered hInStep
      rw [hOut, due_of_lt hLt, hFirst]
      rfl
  | nil =>
    have hFew : (accepted (labels h)).length ≤ q.calls := by
      rw [hBuffer] at hDrop
      exact List.drop_eq_nil_iff.mp hDrop.symm
    by_cases hDone : q.done = true
    · obtain ⟨hOut, hBuffer', hDone', hCalls, hWaiter', hAbandoned⟩ :=
        AsyncQueue.next_of_done hBuffer hDone
      constructor
      · rw [labels_snoc, hCompleted, hDone', ← hInStep.done, hDone]
      · rw [labels_snoc, hAccepted, hBuffer', hCalls, List.drop_eq_nil_of_le (by omega)]
      · rw [hDone, if_pos rfl] at hRange
        rw [hDone', if_pos rfl, AsyncQueue.pending, hWaiter', hAbandoned]
        exact hRange
      · rw [hWaiter', hAbandoned]
        exact hInStep.waits
      · rw [hCalls]
        apply answered_next hNumbered hInStep
        rw [hOut, due_of_le hFew, ← hInStep.done, if_pos hDone]
        rfl
    · rw [Bool.not_eq_true] at hDone
      obtain ⟨hOut, hBuffer', hDone', hCalls, hWaiter', hAbandoned⟩ :=
        AsyncQueue.next_of_empty hBuffer hDone
      constructor
      · rw [labels_snoc, hCompleted, hDone', ← hInStep.done, hDone]
      · rw [labels_snoc, hAccepted, hBuffer', hCalls, List.drop_eq_nil_of_le (by omega)]
      · have hMore : q.calls + 1 - (accepted (labels h)).length =
            q.calls - (accepted (labels h)).length + 1 := by omega
        have hLast : (accepted (labels h)).length +
            (q.calls - (accepted (labels h)).length) = q.calls := by omega
        rw [hDone, if_neg Bool.false_ne_true] at hRange
        rw [labels_snoc, hAccepted, hDone', if_neg Bool.false_ne_true, AsyncQueue.pending,
          hWaiter', hAbandoned, hCalls, hMore, List.range'_concat, ← hRange, Nat.one_mul, hLast]
        rfl
      · rw [hWaiter']
        intro hNone
        cases hNone
      · rw [hCalls]
        apply answered_next hNumbered hInStep
        rw [hOut, due_of_le hFew, ← hInStep.done, hDone]
        rfl

/-! ## Once two calls have waited for one answer -/

/-- A call that is due an answer has lost its place. -/
def Lost (h : List (StreamOccurrence α)) (q : AsyncQueue α) : Prop :=
  ∃ call ∈ q.abandoned, (due (labels h) call).isSome = true

theorem lost_step (hLost : Lost h q) (hAbandoned : ∀ call ∈ q.abandoned, call ∈ q'.abandoned) :
    Lost (h ++ [⟨q, label, out⟩]) q' := by
  obtain ⟨call, hCall, hDue⟩ := hLost
  obtain ⟨answer, hAnswer⟩ := Option.isSome_iff_exists.mp hDue
  refine ⟨call, hAbandoned call hCall, ?_⟩
  rw [labels_snoc, due_snoc _ _ hAnswer]
  rfl

theorem abandoned_push (q : AsyncQueue α) (event : α) :
    (q.push event).1.abandoned = q.abandoned := by
  by_cases hDone : q.done = true
  · rw [AsyncQueue.push_of_done hDone]
  · rw [Bool.not_eq_true] at hDone
    cases hWaiter : q.waiter with
    | none => exact (AsyncQueue.push_of_idle hDone hWaiter event).2.2.2.2.2
    | some call => exact (AsyncQueue.push_of_waiter hWaiter event).2.2.2.2.2

theorem abandoned_next (q : AsyncQueue α) : ∀ call ∈ q.abandoned, call ∈ q.next.1.abandoned := by
  intro call hCall
  cases hBuffer : q.buffer with
  | cons event rest =>
    obtain ⟨-, -, -, -, -, hAbandoned⟩ := AsyncQueue.next_of_buffer hBuffer
    rwa [hAbandoned]
  | nil =>
    by_cases hDone : q.done = true
    · obtain ⟨-, -, -, -, -, hAbandoned⟩ := AsyncQueue.next_of_done hBuffer hDone
      rwa [hAbandoned]
    · rw [Bool.not_eq_true] at hDone
      obtain ⟨-, -, -, -, -, hAbandoned⟩ := AsyncQueue.next_of_empty hBuffer hDone
      rw [hAbandoned]
      exact List.mem_append_left _ hCall

/-- With two calls waiting the first of them has lost its place, and is due what comes. -/
theorem InStep.first (hInStep : InStep h q) (hTwo : ¬ q.pending.length ≤ 1) :
    completed (labels h) = false ∧ (accepted (labels h)).length ∈ q.abandoned := by
  have hRange := hInStep.pending
  have hDone : q.done = false := by
    cases hDone : q.done with
    | false => rfl
    | true =>
      rw [hDone, if_pos rfl] at hRange
      rw [hRange] at hTwo
      exact absurd (Nat.zero_le 1) hTwo
  rw [hDone, if_neg Bool.false_ne_true] at hRange
  refine ⟨hInStep.done ▸ hDone, ?_⟩
  have hLength := congrArg List.length hRange
  rw [List.length_range'] at hLength
  -- the range has two numbers at least; the first is not the waiter's
  obtain ⟨n, hn⟩ : ∃ n, q.calls - (accepted (labels h)).length = n + 1 :=
    ⟨q.calls - (accepted (labels h)).length - 1, by omega⟩
  rw [hn, List.range'_succ, AsyncQueue.pending] at hRange
  cases hAbandoned : q.abandoned with
  | nil =>
    have hShort : q.pending.length ≤ 1 := by
      rw [AsyncQueue.pending, hAbandoned, List.nil_append]
      cases q.waiter <;> simp
    exact absurd hShort hTwo
  | cons first rest =>
    rw [hAbandoned, List.cons_append] at hRange
    rw [(List.cons.inj hRange).1]
    exact List.mem_cons_self

/-- What a step leaves: as the order of the calls says, or with a lost call. -/
def InStepOrLost (h : List (StreamOccurrence α)) (q : AsyncQueue α) : Prop :=
  AllMeet OneWaits h ∧ InStep h q ∨ ¬ AllMeet OneWaits h ∧ Lost h q

/-- A function of the producer keeps the stream in step while at most one call waits, and loses a
call otherwise. -/
theorem producer_step (hCondition : OneWaits q label ↔ q.pending.length ≤ 1)
    (hKeeps : InStep h q → q.pending.length ≤ 1 → InStep (h ++ [⟨q, label, out⟩]) q')
    (hAbandoned : q'.abandoned = q.abandoned)
    (hDue : completed (labels h) = false →
      (due (labels h ++ [label]) (accepted (labels h)).length).isSome = true)
    (hBefore : InStepOrLost h q) : InStepOrLost (h ++ [⟨q, label, out⟩]) q' := by
  unfold InStepOrLost
  rw [allMeet_snoc, hCondition]
  rcases hBefore with ⟨hMeet, hInStep⟩ | ⟨hNot, hLost⟩
  · by_cases hOne : q.pending.length ≤ 1
    · exact Or.inl ⟨⟨hMeet, hOne⟩, hKeeps hInStep hOne⟩
    · obtain ⟨hOpen, hFirst⟩ := hInStep.first hOne
      refine Or.inr ⟨fun hAll => hOne hAll.2, (accepted (labels h)).length, ?_, ?_⟩
      · rw [hAbandoned]
        exact hFirst
      · rw [labels_snoc]
        exact hDue hOpen
  · refine Or.inr ⟨fun hAll => hNot hAll.1, lost_step hLost ?_⟩
    intro call hCall
    rw [hAbandoned]
    exact hCall

theorem inStep_or_lost (hRun : (eventStreamMachine α).Runs h q) :
    Numbered h q ∧ InStepOrLost h q := by
  refine stream_run (P := fun h q => Numbered h q ∧ InStepOrLost h q) hRun ?_ ?_ ?_ ?_
  · refine ⟨numbered_of_run .start, Or.inl ⟨allMeet_nil _, ?_⟩⟩
    exact
      { done := rfl
        buffer := rfl
        pending := rfl
        waits := fun _ => rfl
        answered := fun _ hCall => absurd hCall (Nat.not_lt_zero _) }
  · rintro h q event ⟨hNumbered, hBefore⟩
    refine ⟨numbered_push hNumbered event, producer_step Iff.rfl
      (fun hInStep hOne => inStep_push hInStep hOne event) (abandoned_push q event) ?_ hBefore⟩
    intro hOpen
    have hAccepted : accepted (labels h ++ [.push event]) = accepted (labels h) ++ [event] := by
      rw [accepted_snoc, hOpen]
      rfl
    rw [due_of_lt (by rw [hAccepted, List.length_append, List.length_singleton]; omega)]
    rfl
  · rintro h q ⟨hNumbered, hBefore⟩
    refine ⟨numbered_complete hNumbered, producer_step Iff.rfl
      (fun hInStep hOne => inStep_complete hInStep hOne) rfl ?_ hBefore⟩
    intro hOpen
    have hAccepted : accepted (labels h ++ [.complete]) = accepted (labels h) := by
      rw [accepted_snoc, hOpen]
      exact List.append_nil _
    have hCompleted : completed (labels h ++ [.complete]) = true := by
      rw [completed_snoc]
      exact Bool.or_true _
    rw [due_of_le (Nat.le_of_eq (congrArg List.length hAccepted)), hCompleted]
    rfl
  · rintro h q ⟨hNumbered, hBefore⟩
    refine ⟨numbered_next hNumbered, ?_⟩
    rcases hBefore with ⟨hMeet, hInStep⟩ | ⟨hNot, hLost⟩
    · exact Or.inl ⟨(allMeet_snoc _ _ _).mpr ⟨hMeet, trivial⟩,
        inStep_next hNumbered hInStep⟩
    · exact Or.inr ⟨fun hAll => hNot ((allMeet_snoc _ _ _).mp hAll).1,
        lost_step hLost (abandoned_next q)⟩

/-- **Lossless in order.**  In every run the calls of `next` get the events in the order of the
pushes, each once, and learn that there is none left, exactly where an event is pushed and the
stream completed only while at most one call waits. -/
theorem lossless_fifo_iff (hRun : (eventStreamMachine α).Runs h q) :
    LosslessFifo h ↔ AllMeet OneWaits h := by
  obtain ⟨hNumbered, ⟨hMeet, hInStep⟩ | ⟨hNot, call, hCall, hDue⟩⟩ := inStep_or_lost hRun
  · refine iff_of_true ?_ hMeet
    intro call hCall
    rw [← hNumbered.calls] at hCall
    exact hInStep.answered call hCall
  · refine iff_of_false ?_ hNot
    -- a lost call is due an answer and still waits
    intro hLossless
    have hPending : call ∈ q.pending := List.mem_append_left _ hCall
    have hLt := hNumbered.pending_lt call hPending
    rw [hNumbered.calls] at hLt
    have hAnswers := hLossless call hLt
    obtain ⟨answer, hAnswer⟩ := Option.isSome_iff_exists.mp hDue
    rw [hNumbered.unanswered call hPending, hAnswer] at hAnswers
    cases hAnswers

/-! ## Runs on fixed inputs -/

def numberStream : Machine (AsyncQueue Nat) (StreamLabel Nat) (Answered Nat) :=
  eventStreamMachine Nat

theorem oneWaits_numbers :
    numberStream.Executes [.next, .push 1, .push 2, .next, .next, .complete, .next]
      fun h _ => AllMeet OneWaits h := by
  decide

/-- A call that waits gets the first event, and a call after completion that there is none. -/
theorem lossless_numbers : ∃ h q, numberStream.Runs h q ∧ LosslessFifo h := by
  obtain ⟨h, q, -, hRun, hMeet⟩ := oneWaits_numbers.exists_run
  exact ⟨h, q, hRun, (lossless_fifo_iff hRun).mpr hMeet⟩

instance (h : List (StreamOccurrence Nat)) : Decidable (LosslessFifo h) :=
  inferInstanceAs (Decidable (∀ call < nextCalls (labels h), _ = _))

theorem second_waits :
    numberStream.Executes [.next, .next, .push 1, .push 2, .complete] fun h q =>
      ¬ LosslessFifo h ∧ answersTo (outputs h) 0 = [] ∧ q.done = true := by
  decide

/-- Of two calls that wait the first is never answered: the second gets the first event. -/
theorem first_call_lost :
    ∃ h q, numberStream.Runs h q ∧
      labels h = [.next, .next, .push 1, .push 2, .complete] ∧
      answersTo (outputs h) 0 = [] ∧ due (labels h) 0 = some (some 1) ∧
      ¬ LosslessFifo h := by
  obtain ⟨h, q, hLabels, hRun, hNot, hNone, -⟩ := second_waits.exists_run
  have hLabels' : labels h = [.next, .next, .push 1, .push 2, .complete] := hLabels
  exact ⟨h, q, hRun, hLabels', hNone, by rw [hLabels']; rfl, hNot⟩

end Sdk
end Signet
