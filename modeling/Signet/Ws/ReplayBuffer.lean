import Mathlib.Data.List.Basic
import Mathlib.Data.List.DropRight
import Mathlib.Data.List.Range
import Mathlib.Data.Nat.ModEq

/-!
# The replay buffer

A circular buffer of fixed capacity that overwrites its oldest items when full.
The slots, the write position and the count are the source's; that they fit
together is part of the structure.

* `CircularBuffer.push`, `oldest`, `itemsSince`, `toArray` — the operations.
* `toArray_push` — a push appends, and drops the oldest item of a full buffer.
* `holds_last_pushed` — after any pushes and clears the buffer holds the last items.
-/

namespace Signet
namespace Ws

/-- The position of the oldest item. -/
def startOf (cap head count : Nat) : Nat := if count < cap then 0 else head

structure CircularBuffer (α : Type*) where
  cap : Nat
  buffer : List (Option α)
  head : Nat
  count : Nat
  length_buffer : buffer.length = cap
  head_lt : head < cap
  count_le : count ≤ cap
  head_eq : count < cap → head = count
  /-- The slots from the start on hold items. -/
  filled : ∀ i, i < count → ∃ a, buffer[(startOf cap head count + i) % cap]? = some (some a)

namespace CircularBuffer

variable {α : Type*}

/-- An empty buffer. -/
def create (cap : Nat) (hPos : 0 < cap) : CircularBuffer α where
  cap := cap
  buffer := List.replicate cap none
  head := 0
  count := 0
  length_buffer := List.length_replicate
  head_lt := hPos
  count_le := Nat.zero_le _
  head_eq := fun _ => rfl
  filled := fun i hLt => absurd hLt (Nat.not_lt_zero i)

/-- The slot of the `i`-th oldest item. -/
def slot (b : CircularBuffer α) (i : Nat) : Option α :=
  (b.buffer[(startOf b.cap b.head b.count + i) % b.cap]?).join

variable {cap head i : Nat}

theorem slot_isSome (b : CircularBuffer α) (h : i < b.count) :
    ∃ a, b.slot i = some a := by
  obtain ⟨a, hSlot⟩ := b.filled i h
  exact ⟨a, by rw [slot, hSlot]; rfl⟩

/-- The slot a push writes is not that of a kept item. -/
theorem index_ne_head (hHead : head < cap) (hi : i + 1 < cap) :
    ((head + 1) % cap + i) % cap ≠ head := by
  rw [Nat.mod_add_mod]
  by_cases hWrap : head + 1 + i < cap
  · rw [Nat.mod_eq_of_lt hWrap]
    omega
  · rw [Nat.mod_eq_sub_mod (by omega), Nat.mod_eq_of_lt (by omega)]
    omega

/-- The last slot after a push is the written one. -/
theorem index_last (hHead : head < cap) :
    ((head + 1) % cap + (cap - 1)) % cap = head := by
  rw [Nat.mod_add_mod, show head + 1 + (cap - 1) = head + cap by omega, Nat.add_mod_right,
    Nat.mod_eq_of_lt hHead]

theorem startOf_push_of_lt {count : Nat} (hHead : head = count) (h : count < cap) :
    startOf cap ((head + 1) % cap) (count + 1) = 0 := by
  unfold startOf
  split
  · rfl
  · next hFull =>
    have hEq : head + 1 = cap := by omega
    rw [hEq, Nat.mod_self]

/-- `push` -/
def push (b : CircularBuffer α) (item : α) : CircularBuffer α where
  cap := b.cap
  buffer := b.buffer.set b.head (some item)
  head := (b.head + 1) % b.cap
  count := if b.count < b.cap then b.count + 1 else b.count
  length_buffer := by rw [List.length_set, b.length_buffer]
  head_lt := Nat.mod_lt _ (Nat.lt_of_le_of_lt (Nat.zero_le _) b.head_lt)
  count_le := by
    have hLe := b.count_le
    split <;> omega
  head_eq := by
    intro hLt
    split at hLt
    · next hNotFull => rw [b.head_eq hNotFull, Nat.mod_eq_of_lt (by omega), if_pos hNotFull]
    · next hFull => exact (hFull hLt).elim
  filled := by
    intro i hi
    have hHead := b.head_lt
    have hBound : b.head < b.buffer.length := by rw [b.length_buffer]; exact hHead
    split at hi
    · next hNotFull =>
      rw [if_pos hNotFull, startOf_push_of_lt (b.head_eq hNotFull) hNotFull, Nat.zero_add,
        Nat.mod_eq_of_lt (by omega)]
      by_cases hLast : i = b.head
      · subst hLast
        exact ⟨item, by rw [List.getElem?_set_self hBound]⟩
      · obtain ⟨a, hSlot⟩ := b.filled i (by have := b.head_eq hNotFull; omega)
        rw [startOf, if_pos hNotFull, Nat.zero_add, Nat.mod_eq_of_lt (by omega)] at hSlot
        exact ⟨a, by rw [List.getElem?_set_ne (Ne.symm hLast)]; exact hSlot⟩
    · next hFull =>
      have hCount : b.count = b.cap := by have := b.count_le; omega
      rw [if_neg hFull, startOf, if_neg hFull]
      by_cases hLast : i + 1 < b.cap
      · rw [List.getElem?_set_ne (Ne.symm (index_ne_head hHead hLast)), Nat.mod_add_mod]
        obtain ⟨a, hSlot⟩ := b.filled (i + 1) (by omega)
        rw [startOf, if_neg hFull] at hSlot
        exact ⟨a, by rw [show b.head + 1 + i = b.head + (i + 1) by omega]; exact hSlot⟩
      · have hi' : i = b.cap - 1 := by omega
        rw [hi', index_last hHead]
        exact ⟨item, by rw [List.getElem?_set_self hBound]⟩

def size (b : CircularBuffer α) : Nat := b.count

/-- The oldest item in the buffer. -/
def oldest (b : CircularBuffer α) : Option α := if b.count = 0 then none else b.slot 0

/-- All items matching the predicate, preserving insertion order. -/
def itemsSince (b : CircularBuffer α) (predicate : α → Bool) : List α :=
  (List.range b.count).filterMap fun i => (b.slot i).filter predicate

/-- All items in insertion order. -/
def toArray (b : CircularBuffer α) : List α := (List.range b.count).filterMap b.slot

/-- `clear` -/
def clear (b : CircularBuffer α) : CircularBuffer α :=
  create b.cap (Nat.lt_of_le_of_lt (Nat.zero_le _) b.head_lt)

/-! ## What the operations mean -/

theorem toArray_create (cap : Nat) (hPos : 0 < cap) :
    (create cap hPos : CircularBuffer α).toArray = [] := rfl

variable (b : CircularBuffer α)

theorem length_toArray : b.toArray.length = b.count := by
  have hAll : ∀ n, n ≤ b.count → ((List.range n).filterMap b.slot).length = n := by
    intro n
    induction n with
    | zero => intro _; rfl
    | succ n ih =>
      intro hn
      obtain ⟨a, hSlot⟩ := b.slot_isSome (i := n) (by omega)
      rw [List.range_succ, List.filterMap_append, List.length_append, ih (by omega)]
      simp [hSlot]
  exact hAll b.count (Nat.le_refl _)

theorem slot_push_of_lt (item : α) (hNotFull : b.count < b.cap) (hi : i < b.count) :
    (b.push item).slot i = b.slot i := by
  have hHead := b.head_eq hNotFull
  have hCount : (b.push item).count = b.count + 1 := if_pos hNotFull
  unfold slot
  rw [hCount]
  show ((b.buffer.set b.head (some item))[(startOf b.cap ((b.head + 1) % b.cap) (b.count + 1) + i)
    % b.cap]?).join = _
  rw [startOf_push_of_lt hHead hNotFull, startOf, if_pos hNotFull, Nat.zero_add,
    Nat.mod_eq_of_lt (by omega), List.getElem?_set_ne (by omega)]

theorem slot_push_of_full (item : α) (hFull : ¬ b.count < b.cap) (hi : i + 1 < b.count) :
    (b.push item).slot i = b.slot (i + 1) := by
  have hHead := b.head_lt
  have hLe := b.count_le
  have hCount : (b.push item).count = b.count := if_neg hFull
  unfold slot
  rw [hCount]
  show ((b.buffer.set b.head (some item))[(startOf b.cap ((b.head + 1) % b.cap) b.count + i)
    % b.cap]?).join = _
  rw [startOf, if_neg hFull, startOf, if_neg hFull,
    List.getElem?_set_ne (Ne.symm (index_ne_head hHead (by omega))), Nat.mod_add_mod,
    show b.head + 1 + i = b.head + (i + 1) by omega]

theorem slot_push_last (item : α) : (b.push item).slot ((b.push item).count - 1) = some item := by
  have hHead := b.head_lt
  have hBound : b.head < b.buffer.length := by rw [b.length_buffer]; exact hHead
  by_cases hNotFull : b.count < b.cap
  · have hEq := b.head_eq hNotFull
    have hCount : (b.push item).count = b.count + 1 := if_pos hNotFull
    unfold slot
    rw [hCount]
    show ((b.buffer.set b.head (some item))[(startOf b.cap ((b.head + 1) % b.cap) (b.count + 1)
      + (b.count + 1 - 1)) % b.cap]?).join = _
    rw [startOf_push_of_lt hEq hNotFull, Nat.zero_add, Nat.add_sub_cancel,
      Nat.mod_eq_of_lt (by omega), ← hEq, List.getElem?_set_self hBound]
    rfl
  · have hCount : (b.push item).count = b.count := if_neg hNotFull
    have hCap : b.count = b.cap := by have := b.count_le; omega
    unfold slot
    rw [hCount]
    show ((b.buffer.set b.head (some item))[(startOf b.cap ((b.head + 1) % b.cap) b.count
      + (b.count - 1)) % b.cap]?).join = _
    rw [startOf, if_neg hNotFull, hCap, index_last hHead, List.getElem?_set_self hBound]
    rfl

/-- A push appends the item, and drops the oldest one of a full buffer. -/
theorem toArray_push (item : α) :
    (b.push item).toArray =
      if b.count < b.cap then b.toArray ++ [item] else b.toArray.tail ++ [item] := by
  have hLast := b.slot_push_last item
  split
  · next hNotFull =>
    have hCount : (b.push item).count = b.count + 1 := if_pos hNotFull
    rw [hCount, Nat.add_sub_cancel] at hLast
    unfold toArray
    rw [hCount, List.range_succ, List.filterMap_append]
    congr 1
    · refine List.filterMap_congr ?_
      intro i hi
      exact b.slot_push_of_lt item hNotFull (List.mem_range.mp hi)
    · simp [hLast]
  · next hFull =>
    have hCount : (b.push item).count = b.count := if_neg hFull
    have hPos : 0 < b.count := by
      have := b.head_lt
      have := b.count_le
      omega
    obtain ⟨n, hn⟩ : ∃ n, b.count = n + 1 := ⟨b.count - 1, by omega⟩
    rw [hCount, hn, Nat.add_sub_cancel] at hLast
    obtain ⟨first, hFirst⟩ := b.slot_isSome hPos
    -- the first slot leaves, and the others move up by one
    have hBefore : b.toArray.tail = (List.range n).filterMap (fun i => b.slot (i + 1)) := by
      unfold toArray
      rw [hn, List.range_succ_eq_map, List.filterMap_cons, hFirst, List.tail_cons,
        List.filterMap_map]
      rfl
    rw [hBefore]
    unfold toArray
    rw [hCount, hn, List.range_succ, List.filterMap_append]
    congr 1
    · refine List.filterMap_congr ?_
      intro i hi
      exact b.slot_push_of_full item hFull (by rw [hn]; have := List.mem_range.mp hi; omega)
    · simp [hLast]

/-- The oldest item is the first one. -/
theorem oldest_eq_head? : b.oldest = b.toArray.head? := by
  unfold oldest toArray
  split
  · next hEmpty => rw [hEmpty]; rfl
  · next hPos =>
    obtain ⟨n, hn⟩ : ∃ n, b.count = n + 1 := ⟨b.count - 1, by omega⟩
    obtain ⟨first, hFirst⟩ := b.slot_isSome (i := 0) (by omega)
    rw [hn, List.range_succ_eq_map, List.filterMap_cons, hFirst]
    rfl

theorem itemsSince_eq_filter (predicate : α → Bool) :
    b.itemsSince predicate = b.toArray.filter predicate := by
  unfold itemsSince toArray
  rw [List.filter_filterMap]

end CircularBuffer

/-! ## Any pushes and clears -/

/-- A change of a buffer. -/
inductive BufferOp (α : Type*) where
  | push (item : α)
  | clear

variable {α : Type*} {b : CircularBuffer α} {items : List α}

def CircularBuffer.perform (b : CircularBuffer α) : BufferOp α → CircularBuffer α
  | .push item => b.push item
  | .clear => b.clear

/-- The items pushed since the last clear, in push order, after those of before. -/
def pushedSince (before : List α) : List (BufferOp α) → List α
  | [] => before
  | .push item :: ops => pushedSince (before ++ [item]) ops
  | .clear :: ops => pushedSince [] ops

/-- The buffer holds the last of the items, as many as it can. -/
def HoldsLast (b : CircularBuffer α) (items : List α) : Prop :=
  b.toArray = items.rtake (min items.length b.cap)

theorem HoldsLast.count (h : HoldsLast b items) : b.count = min items.length b.cap := by
  rw [← b.length_toArray, h, List.rtake, List.length_drop]
  omega

theorem HoldsLast.push (h : HoldsLast b items) (item : α) :
    HoldsLast (b.push item) (items ++ [item]) := by
  have hCount := h.count
  show (b.push item).toArray = (items ++ [item]).rtake (min (items ++ [item]).length b.cap)
  rw [b.toArray_push, h, List.length_append, List.length_singleton]
  split
  · next hNotFull =>
    have hAll : min items.length b.cap = items.length := by omega
    rw [hAll, show min (items.length + 1) b.cap = items.length + 1 by omega,
      List.rtake_concat_succ]
  · next hFull =>
    obtain ⟨k, hk⟩ : ∃ k, b.cap = k + 1 := ⟨b.cap - 1, by have := b.head_lt; omega⟩
    have hLast : min (items.length + 1) b.cap = k + 1 := by omega
    have hTail : (items.rtake (min items.length b.cap)).tail = items.rtake k := by
      rw [List.rtake, List.rtake, List.tail_drop]
      congr 1
      omega
    rw [hTail, hLast, List.rtake_concat_succ]

theorem HoldsLast.run (h : HoldsLast b items) (ops : List (BufferOp α)) :
    HoldsLast (ops.foldl CircularBuffer.perform b) (pushedSince items ops) := by
  induction ops generalizing b items with
  | nil => exact h
  | cons op ops ih =>
    cases op with
    | push item => exact ih (h.push item)
    | clear => exact ih (CircularBuffer.toArray_create _ _)

/-- **What a buffer holds** after any pushes and clears: of the items pushed since the last clear
the last ones, in push order, and the first of these is the oldest. -/
theorem holds_last_pushed (cap : Nat) (hPos : 0 < cap) (ops : List (BufferOp α)) :
    let b := ops.foldl CircularBuffer.perform (.create cap hPos)
    let items := pushedSince [] ops
    b.toArray = items.rtake (min items.length cap) ∧
      b.oldest = (items.rtake (min items.length cap)).head? ∧
      (b.oldest = none ↔ items.length = 0) ∧
      b.size = min items.length cap ∧
      ∀ predicate, b.itemsSince predicate = b.toArray.filter predicate := by
  intro b items
  have hCap : b.cap = cap := by
    have hKept : ∀ (ops : List (BufferOp α)) (b : CircularBuffer α),
        (ops.foldl CircularBuffer.perform b).cap = b.cap := by
      intro ops
      induction ops with
      | nil => exact fun _ => rfl
      | cons op ops ih =>
        intro b
        rw [List.foldl_cons, ih]
        cases op <;> rfl
    exact hKept ops _
  have hEmpty : HoldsLast (.create cap hPos) ([] : List α) := CircularBuffer.toArray_create cap hPos
  have hHolds : HoldsLast b items := hEmpty.run ops
  have hCount := hHolds.count
  unfold HoldsLast at hHolds
  rw [hCap] at hHolds hCount
  refine ⟨hHolds, ?_, ?_, hCount, b.itemsSince_eq_filter⟩
  · rw [b.oldest_eq_head?, hHolds]
  · rw [b.oldest_eq_head?, List.head?_eq_none_iff, ← List.length_eq_zero_iff, b.length_toArray,
      hCount]
    omega

def pushedOverClear : List (BufferOp Nat) := [.push 1, .clear, .push 2, .push 3, .push 4]

theorem holds_last_pushed_over_clear :
    (pushedOverClear.foldl CircularBuffer.perform (.create 2 (by decide))).toArray = [3, 4] :=
  (holds_last_pushed 2 (by decide) pushedOverClear).1

end Ws
end Signet
