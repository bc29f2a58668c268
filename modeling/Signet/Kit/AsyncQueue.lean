import Mathlib.Data.List.Basic

/-!
# A queue between a producer and the callers of `next`

What is pushed while nobody waits is buffered, and a call that finds the buffer empty waits.
There is one place for a waiting call: a second call that has to wait takes the place of the
first, and nothing answers that one any more.  That a waiting call has found the buffer empty
and the queue open is part of the structure.

* `push`, `complete`, `next`, `reset` — the operations, with the calls they answer.
* `Over` — completed, and nobody left waiting.
* `push_of_waiter`, `next_of_empty` and the like — what the operations do, case by case.
* `over_complete_iff`, `push_of_over`, `next_of_over` — what becomes of `Over`.
-/

namespace Signet
namespace Kit

/-- An asynchronous queue, with the calls of `next` numbered in their order. -/
structure AsyncQueue (α : Type*) where
  buffer : List α
  done : Bool
  waiter : Option Nat
  /-- The calls that have lost their place. -/
  abandoned : List Nat
  calls : Nat
  idle : waiter.isSome = true → buffer = [] ∧ done = false

/-- A call and what it is answered: a value, or that there is none left. -/
abbrev Answered (α : Type*) := Nat × Option α

namespace AsyncQueue

variable {α : Type*}

/-- The queue as it is made. -/
def empty : AsyncQueue α := ⟨[], false, none, [], 0, by simp⟩

/-- A value goes to the waiting call, or into the buffer. -/
def push (q : AsyncQueue α) (value : α) : AsyncQueue α × List (Answered α) :=
  if q.done then (q, [])
  else
    match hWaiter : q.waiter with
    | some call => (⟨q.buffer, q.done, none, q.abandoned, q.calls, by simp⟩, [(call, some value)])
    | none =>
      (⟨q.buffer ++ [value], q.done, none, q.abandoned, q.calls, by simp⟩, [])

/-- No more values will come. -/
def complete (q : AsyncQueue α) : AsyncQueue α × List (Answered α) :=
  (⟨q.buffer, true, none, q.abandoned, q.calls, by simp⟩,
    q.waiter.toList.map fun call => (call, none))

/-- A call: it gets what is buffered, or learns that nothing will come, or waits. -/
def next (q : AsyncQueue α) : AsyncQueue α × List (Answered α) :=
  match hBuffer : q.buffer with
  | value :: rest =>
    (⟨rest, q.done, q.waiter, q.abandoned, q.calls + 1, fun hSome => by
      have hEmpty := (q.idle hSome).1
      rw [hBuffer] at hEmpty
      cases hEmpty⟩, [(q.calls, some value)])
  | [] =>
    if hDone : q.done = true then
      (⟨[], q.done, q.waiter, q.abandoned, q.calls + 1, fun hSome => ⟨rfl, (q.idle hSome).2⟩⟩,
        [(q.calls, none)])
    else
      (⟨[], q.done, some q.calls, q.abandoned ++ q.waiter.toList, q.calls + 1,
        fun _ => ⟨rfl, by simpa using hDone⟩⟩, [])

/-- Everything is dropped, the waiting call with it, and the queue is open again. -/
def reset (q : AsyncQueue α) : AsyncQueue α :=
  ⟨[], false, none, q.abandoned ++ q.waiter.toList, q.calls, by simp⟩

/-- The calls that have not been answered. -/
def pending (q : AsyncQueue α) : List Nat := q.abandoned ++ q.waiter.toList

/-- The queue is completed, and every call has been answered. -/
def Over (q : AsyncQueue α) : Prop := q.done = true ∧ q.pending = []

instance (q : AsyncQueue α) : Decidable q.Over := inferInstanceAs (Decidable (_ ∧ _))

variable {q : AsyncQueue α}

theorem waiter_of_done (h : q.done = true) : q.waiter = none := by
  cases hWaiter : q.waiter with
  | none => rfl
  | some call =>
    have hOpen := (q.idle (by simp [hWaiter])).2
    rw [h] at hOpen
    cases hOpen

/-- Once the queue is completed only calls that have lost their place can be unanswered. -/
theorem over_iff : q.Over ↔ q.done = true ∧ q.abandoned = [] := by
  unfold Over pending
  constructor
  · rintro ⟨hDone, hPending⟩
    exact ⟨hDone, (List.append_eq_nil_iff.mp hPending).1⟩
  · rintro ⟨hDone, hAbandoned⟩
    simp [hDone, hAbandoned, waiter_of_done hDone]

theorem over_complete_iff : q.complete.1.Over ↔ q.abandoned = [] := by
  rw [over_iff]
  exact ⟨And.right, fun h => ⟨rfl, h⟩⟩

theorem answered_complete (h : q.abandoned = []) {call : Nat} (hCall : call ∈ q.pending) :
    (call, none) ∈ q.complete.2 := by
  unfold pending at hCall
  rw [h, List.nil_append] at hCall
  exact List.mem_map.mpr ⟨call, hCall, rfl⟩

theorem push_of_done (h : q.done = true) (value : α) : q.push value = (q, []) := by
  unfold push
  rw [if_pos h]

/-- The waiting call gets what is pushed. -/
theorem push_of_waiter {call : Nat} (h : q.waiter = some call) (value : α) :
    (q.push value).2 = [(call, some value)] ∧ (q.push value).1.buffer = q.buffer ∧
      (q.push value).1.done = q.done ∧ (q.push value).1.calls = q.calls ∧
      (q.push value).1.waiter = none ∧ (q.push value).1.abandoned = q.abandoned := by
  have hOpen : ¬ q.done = true := by
    rw [(q.idle (by simp [h])).2]
    decide
  unfold push
  rw [if_neg hOpen]
  split
  · next found hWaiter =>
    rw [h] at hWaiter
    cases hWaiter
    exact ⟨rfl, rfl, rfl, rfl, rfl, rfl⟩
  · next hNone =>
    rw [h] at hNone
    cases hNone

theorem push_of_idle (hDone : q.done = false) (hIdle : q.waiter = none) (value : α) :
    (q.push value).2 = [] ∧ (q.push value).1.buffer = q.buffer ++ [value] ∧
      (q.push value).1.done = false ∧ (q.push value).1.calls = q.calls ∧
      (q.push value).1.waiter = none ∧ (q.push value).1.abandoned = q.abandoned := by
  have hOpen : ¬ q.done = true := by
    rw [hDone]
    decide
  unfold push
  rw [if_neg hOpen]
  split
  · next found hWaiter =>
    rw [hIdle] at hWaiter
    cases hWaiter
  · exact ⟨rfl, rfl, hDone, rfl, rfl, rfl⟩

/-- A call takes the first of what is buffered. -/
theorem next_of_buffer {value : α} {rest : List α} (h : q.buffer = value :: rest) :
    q.next.2 = [(q.calls, some value)] ∧ q.next.1.buffer = rest ∧ q.next.1.done = q.done ∧
      q.next.1.calls = q.calls + 1 ∧ q.next.1.waiter = q.waiter ∧
      q.next.1.abandoned = q.abandoned := by
  unfold next
  split
  · next found others hBuffer =>
    rw [h] at hBuffer
    cases hBuffer
    exact ⟨rfl, rfl, rfl, rfl, rfl, rfl⟩
  · next hBuffer =>
    rw [h] at hBuffer
    cases hBuffer

/-- A call learns that nothing will come. -/
theorem next_of_done (hBuffer : q.buffer = []) (hDone : q.done = true) :
    q.next.2 = [(q.calls, none)] ∧ q.next.1.buffer = [] ∧ q.next.1.done = true ∧
      q.next.1.calls = q.calls + 1 ∧ q.next.1.waiter = q.waiter ∧
      q.next.1.abandoned = q.abandoned := by
  unfold next
  split
  · next found others hSome =>
    rw [hBuffer] at hSome
    cases hSome
  · rw [dif_pos hDone]
    exact ⟨rfl, rfl, hDone, rfl, rfl, rfl⟩

/-- A call waits, and another one that has waited loses its place. -/
theorem next_of_empty (hBuffer : q.buffer = []) (hDone : q.done = false) :
    q.next.2 = [] ∧ q.next.1.buffer = [] ∧ q.next.1.done = false ∧
      q.next.1.calls = q.calls + 1 ∧ q.next.1.waiter = some q.calls ∧
      q.next.1.abandoned = q.pending := by
  have hOpen : ¬ q.done = true := by
    rw [hDone]
    decide
  unfold next
  split
  · next found others hSome =>
    rw [hBuffer] at hSome
    cases hSome
  · rw [dif_neg hOpen]
    exact ⟨rfl, rfl, hDone, rfl, rfl, rfl⟩

theorem push_of_over (h : q.Over) (value : α) : q.push value = (q, []) :=
  push_of_done h.1 value

theorem over_next (h : q.Over) : q.next.1.Over := by
  rw [over_iff] at h ⊢
  unfold next
  split
  · exact h
  · rw [dif_pos h.1]
    exact h

/-- A call of a queue that is over is answered at once: with what is left in the buffer, and
then that there is nothing. -/
theorem next_of_over (h : q.Over) : q.next.2 = [(q.calls, q.buffer.head?)] := by
  unfold next
  split
  · next value rest hBuffer =>
    show [(q.calls, some value)] = _
    rw [hBuffer, List.head?_cons]
  · next hBuffer =>
    rw [dif_pos h.1]
    show [(q.calls, none)] = _
    rw [hBuffer, List.head?_nil]

end AsyncQueue

end Kit
end Signet
