import Signet.Schemas.Reveal
import Mathlib.Data.List.TakeWhile

/-!
# The reveal state of a credential

An in-memory list of granted reveals with the requests they answer.  A message
is revealed while some unexpired entry of its group matches it.

Reading a date out of free text (`new Date(text).getTime()`) is a parameter
`parseDate`; `none` stands for `NaN`.
-/

namespace Signet
namespace Policy

open Schemas

/-- Internal entry pairing reveal access with its request context. -/
structure RevealEntry where
  access : RevealAccess
  request : RevealRequest
deriving DecidableEq, Repr

structure RevealStateStore where
  entries : List RevealEntry
deriving DecidableEq, Repr

/-- `createRevealStateStore` -/
def createRevealStateStore : RevealStateStore := ⟨[]⟩

namespace RevealStateStore

/-- Record active reveal access with its originating request. -/
def record (store : RevealStateStore) (reveal : RevealAccess) (request : RevealRequest) :
    RevealStateStore :=
  ⟨store.entries ++ [⟨reveal, request⟩]⟩

/-- The text before and after the first pipe, if there is one. -/
def splitAtPipe (targetId : String) : Option (String × String) :=
  let before := targetId.toList.takeWhile (fun c => c != '|')
  match targetId.toList.drop before.length with
  | [] => none
  | _ :: rest => some (String.ofList before, String.ofList rest)

/-- Whether `sentAt` falls within the window `startISO|endISO`. -/
def inTimeWindow (parseDate : String → Option Int) (targetId : String)
    (sentAt : Option Int) : Bool :=
  match splitAtPipe targetId with
  | none => false
  | some (startISO, endISO) =>
    match parseDate startISO, parseDate endISO, sentAt with
    | some windowStart, some windowEnd, some sentAtMs =>
      decide (windowStart ≤ sentAtMs ∧ sentAtMs ≤ windowEnd)
    | _, _, _ => false

/-- Whether one entry reveals a message at the time `now`. -/
def entryReveals (parseDate : String → Option Int) (now : Int) (messageId groupId : String)
    (threadId : Option String) (senderInboxId contentType sentAt : String)
    (entry : RevealEntry) : Bool :=
  if entry.access.expiresAt.any (fun expiresAt => decide (expiresAt ≤ now)) then false
  else if entry.request.groupId ≠ groupId then false
  else match entry.request.scope with
    | .message => entry.request.targetId == messageId
    | .thread => some entry.request.targetId == threadId
    | .sender => entry.request.targetId == senderInboxId
    | .contentType => entry.request.targetId == contentType
    | .timeWindow => inTimeWindow parseDate entry.request.targetId (parseDate sentAt)

/-- Check if a specific message is revealed by any active access record. -/
def isRevealed (parseDate : String → Option Int) (now : Int) (store : RevealStateStore)
    (messageId groupId : String) (threadId : Option String)
    (senderInboxId contentType sentAt : String) : Bool :=
  store.entries.any
    (entryReveals parseDate now messageId groupId threadId senderInboxId contentType sentAt)

/-- Replace the entries by those of a snapshot. -/
def restore (_store : RevealStateStore) (activeReveals : List RevealEntry) :
    RevealStateStore :=
  ⟨activeReveals⟩

/-! ## What `isRevealed` says -/

variable {targetId messageId groupId senderInboxId contentType sentAt : String}

theorem splitAtPipe_eq_some_iff {before after : String} :
    splitAtPipe targetId = some (before, after) ↔
      targetId.toList = before.toList ++ '|' :: after.toList ∧ '|' ∉ before.toList := by
  have hDrop : ∀ (p : Char → Bool) (l : List Char),
      l.drop (l.takeWhile p).length = l.dropWhile p := by
    intro p l
    induction l with
    | nil => rfl
    | cons c l ih =>
      by_cases hPass : p c = true
      · rw [List.takeWhile_cons_of_pos hPass, List.dropWhile_cons_of_pos hPass]
        exact ih
      · rw [List.takeWhile_cons_of_neg hPass, List.dropWhile_cons_of_neg hPass]
        rfl
  unfold splitAtPipe
  simp only [hDrop]
  constructor
  · intro h
    split at h
    · cases h
    · next c rest hRest =>
      simp only [Option.some.injEq, Prod.mk.injEq] at h
      obtain ⟨rfl, rfl⟩ := h
      -- the remainder starts with the character that stopped the first part
      have hHead := List.head_dropWhile_not (fun c => c != '|') (l := targetId.toList)
        (by rw [hRest]; exact List.cons_ne_nil c rest)
      simp only [hRest, List.head_cons, bne_eq_false_iff_eq] at hHead
      have hWhole := List.takeWhile_append_dropWhile (p := fun c => c != '|')
        (l := targetId.toList)
      rw [hRest, hHead] at hWhole
      refine ⟨by simpa using hWhole.symm, ?_⟩
      intro hMem
      rw [String.toList_ofList] at hMem
      simpa using List.mem_takeWhile_imp hMem
  · rintro ⟨hEq, hAbsent⟩
    have hPass : ∀ a ∈ before.toList, (a != '|') = true := by
      intro a hMem
      have hNe : a ≠ '|' := fun h => hAbsent (h ▸ hMem)
      simpa using hNe
    rw [hEq, List.takeWhile_append_of_pos hPass, List.dropWhile_append_of_pos hPass]
    simp

variable {parseDate : String → Option Int} {threadId : Option String}

/-- Whether a message falls within a time window `startISO|endISO`. -/
theorem inTimeWindow_iff {sentAt : Option Int} :
    inTimeWindow parseDate targetId sentAt = true ↔
      ∃ startISO endISO windowStart windowEnd sentAtMs,
        splitAtPipe targetId = some (startISO, endISO) ∧
        parseDate startISO = some windowStart ∧ parseDate endISO = some windowEnd ∧
        sentAt = some sentAtMs ∧ windowStart ≤ sentAtMs ∧ sentAtMs ≤ windowEnd := by
  unfold inTimeWindow
  constructor
  · intro h
    split at h
    · cases h
    · next startISO endISO hPipe =>
      split at h
      · next windowStart windowEnd sentAtMs hStart hEnd =>
        exact ⟨startISO, endISO, windowStart, windowEnd, sentAtMs, hPipe, hStart, hEnd, rfl,
          of_decide_eq_true h⟩
      · cases h
  · rintro ⟨startISO, endISO, windowStart, windowEnd, sentAtMs, hPipe, hStart, hEnd, rfl, hIn⟩
    simp only [hPipe, hStart, hEnd]
    exact decide_eq_true hIn

/-- The target a reveal request names, under its scope kind. -/
def Targets (parseDate : String → Option Int) (request : RevealRequest) (messageId : String)
    (threadId : Option String) (senderInboxId contentType sentAt : String) : Prop :=
  match request.scope with
  | .message => request.targetId = messageId
  | .thread => threadId = some request.targetId
  | .sender => request.targetId = senderInboxId
  | .contentType => request.targetId = contentType
  | .timeWindow => ∃ startISO endISO windowStart windowEnd sentAtMs,
      (request.targetId.toList = startISO.toList ++ '|' :: endISO.toList ∧
        '|' ∉ startISO.toList) ∧
      parseDate startISO = some windowStart ∧ parseDate endISO = some windowEnd ∧
      parseDate sentAt = some sentAtMs ∧ windowStart ≤ sentAtMs ∧ sentAtMs ≤ windowEnd

/-- The entry has no deadline or one ahead, is for the group, and targets the
message. -/
structure Reveals (parseDate : String → Option Int) (now : Int) (messageId groupId : String)
    (threadId : Option String) (senderInboxId contentType sentAt : String)
    (entry : RevealEntry) : Prop where
  unexpired : ∀ expiresAt, entry.access.expiresAt = some expiresAt → now < expiresAt
  sameGroup : entry.request.groupId = groupId
  targets : Targets parseDate entry.request messageId threadId senderInboxId contentType sentAt

theorem entryReveals_iff {now : Int} {entry : RevealEntry} :
    entryReveals parseDate now messageId groupId threadId senderInboxId contentType sentAt
        entry = true ↔
      Reveals parseDate now messageId groupId threadId senderInboxId contentType sentAt
        entry := by
  have hTargets : (match entry.request.scope with
        | .message => entry.request.targetId == messageId
        | .thread => some entry.request.targetId == threadId
        | .sender => entry.request.targetId == senderInboxId
        | .contentType => entry.request.targetId == contentType
        | .timeWindow => inTimeWindow parseDate entry.request.targetId (parseDate sentAt)) =
          true ↔
      Targets parseDate entry.request messageId threadId senderInboxId contentType sentAt := by
    unfold Targets
    cases entry.request.scope with
    | message => simp
    | thread =>
      simp only [beq_iff_eq]
      exact eq_comm
    | sender => simp
    | contentType => simp
    | timeWindow => simp only [inTimeWindow_iff, splitAtPipe_eq_some_iff]
  unfold entryReveals
  split
  · next hExpired =>
    simp only [Option.any_eq_true_iff_get, decide_eq_true_eq] at hExpired
    obtain ⟨hSome, hPast⟩ := hExpired
    refine iff_of_false (by simp) fun h => ?_
    have hAhead := h.unexpired _ (Option.some_get hSome).symm
    omega
  · next hExpired =>
    have hUnexpired : ∀ expiresAt, entry.access.expiresAt = some expiresAt →
        now < expiresAt := by
      intro expiresAt hSome
      rw [hSome] at hExpired
      simp only [Option.any_some, decide_eq_true_eq] at hExpired
      omega
    split
    · next hGroup => exact iff_of_false (by simp) fun h => hGroup h.sameGroup
    · next hGroup =>
      rw [hTargets]
      exact ⟨fun h => ⟨hUnexpired, not_not.mp hGroup, h⟩, fun h => h.targets⟩

theorem isRevealed_iff {now : Int} {store : RevealStateStore} :
    store.isRevealed parseDate now messageId groupId threadId senderInboxId contentType
        sentAt = true ↔
      ∃ entry ∈ store.entries, Reveals parseDate now messageId groupId threadId senderInboxId
        contentType sentAt entry := by
  unfold isRevealed
  simp only [List.any_eq_true, entryReveals_iff]

end RevealStateStore

end Policy
end Signet
