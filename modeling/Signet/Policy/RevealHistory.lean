import Signet.Kit.Machine
import Signet.Kit.SpliceLoop
import Signet.Policy.RevealState

/-!
# The reveal store and its recorded history

`packages/policy/src/reveal-state.ts`.  A deadline is a text, and one that is no date expires
neither lazily, in `isRevealed`, nor eagerly, in `expireStale`: both compare with `NaN`.  Both
compare with `<=`, so they agree at the deadline itself.  What the store has dropped is thus what
no later question would count, and its answers are those of everything it was given.
-/

namespace Signet
namespace Policy

open Kit Schemas

/-- Reveal access with the text of its deadline. -/
structure StoredAccess where
  revealId : String
  grantedAt : String
  grantedBy : String
  expiresAt : Option String
deriving DecidableEq, Repr

/-- An entry of the store. -/
structure StoredReveal where
  access : StoredAccess
  request : RevealRequest
deriving DecidableEq, Repr

/-- The message that is asked about. -/
structure RevealQuery where
  messageId : String
  groupId : String
  threadId : Option String
  senderInboxId : String
  contentType : String
  sentAt : String

variable (parseDate : String → Option Int)

/-- `expiresAt !== null && new Date(expiresAt).getTime() <= now` -/
def hasExpired (now : Int) (entry : StoredReveal) : Bool :=
  match entry.access.expiresAt with
  | none => false
  | some text =>
    match parseDate text with
    | none => false
    | some deadline => decide (deadline ≤ now)

/-- Whether one entry reveals a message. -/
def storedReveals (now : Int) (query : RevealQuery) (entry : StoredReveal) : Bool :=
  if hasExpired parseDate now entry then false
  else if entry.request.groupId ≠ query.groupId then false
  else
    match entry.request.scope with
    | .message => entry.request.targetId == query.messageId
    | .thread => some entry.request.targetId == query.threadId
    | .sender => entry.request.targetId == query.senderInboxId
    | .contentType => entry.request.targetId == query.contentType
    | .timeWindow =>
      RevealStateStore.inTimeWindow parseDate entry.request.targetId (parseDate query.sentAt)

/-- Check if a specific message is revealed by any active access record. -/
def isRevealedBy (now : Int) (entries : List StoredReveal) (query : RevealQuery) : Bool :=
  entries.any (storedReveals parseDate now query)

/-- Remove expired reveals, from the last index down; the count of the removed ones beside. -/
def expireStaleReveals (now : Int) (entries : List StoredReveal) : List StoredReveal × Nat :=
  spliceBackwards (hasExpired parseDate now) entries.length entries 0

/-! ## The store with its snapshots -/

/-- The store, and the snapshots that have been taken of it, oldest first. -/
structure RevealLog where
  entries : List StoredReveal
  snapshots : List (List StoredReveal)

/-- A call that may change the store. -/
inductive RevealCall where
  | record (access : StoredAccess) (request : RevealRequest)
  | expireStale (now : Int)
  | snapshot
  /-- `restore` of the snapshot that was taken as the one of this number. -/
  | restore (taken : Nat)
deriving DecidableEq

/-- One call; its observation is the count that `expireStale` returns. -/
def revealStep (log : RevealLog) : RevealCall → Option (RevealLog × List Nat)
  | .record access request =>
    some ({ log with entries := log.entries ++ [⟨access, request⟩] }, [])
  | .expireStale now =>
    let (entries, removed) := expireStaleReveals parseDate now log.entries
    some ({ log with entries := entries }, [removed])
  | .snapshot => some ({ log with snapshots := log.snapshots ++ [log.entries] }, [])
  | .restore taken =>
    match log.snapshots[taken]? with
    | none => none
    | some activeReveals => some ({ log with entries := activeReveals }, [])

/-- A new store and the calls on it. -/
def revealMachine : Machine RevealLog RevealCall Nat where
  init := ⟨[], []⟩
  step := revealStep parseDate

/-- The history of a store. -/
abbrev RevealRun := List (Occurrence RevealLog RevealCall Nat)

/-! ## One question and one sweep -/

/-- The entry with its deadline read; a text that is no date is no deadline. -/
def StoredReveal.read (entry : StoredReveal) : RevealEntry where
  access :=
    { revealId := entry.access.revealId
      grantedAt := (parseDate entry.access.grantedAt).getD 0
      grantedBy := entry.access.grantedBy
      expiresAt := entry.access.expiresAt.bind parseDate }
  request := entry.request

variable {now : Int} {entry : StoredReveal}

theorem hasExpired_iff :
    hasExpired parseDate now entry = true ↔
      ∃ text deadline, entry.access.expiresAt = some text ∧ parseDate text = some deadline ∧
        deadline ≤ now := by
  unfold hasExpired
  cases hText : entry.access.expiresAt with
  | none => simp
  | some text =>
    cases hDate : parseDate text with
    | none => simp [hDate]
    | some deadline => simp [hDate]

/-- An entry is checked as the entry with its deadline read. -/
theorem storedReveals_eq (now : Int) (query : RevealQuery) (entry : StoredReveal) :
    storedReveals parseDate now query entry =
      RevealStateStore.entryReveals parseDate now query.messageId query.groupId query.threadId
        query.senderInboxId query.contentType query.sentAt (entry.read parseDate) := by
  have hDeadline : hasExpired parseDate now entry =
      (entry.access.expiresAt.bind parseDate).any fun deadline => decide (deadline ≤ now) := by
    unfold hasExpired
    cases entry.access.expiresAt with
    | none => rfl
    | some text =>
      cases hDate : parseDate text with
      | none => simp [hDate]
      | some deadline => simp [hDate]
  unfold storedReveals RevealStateStore.entryReveals
  rw [hDeadline]
  rfl

/-- An entry counts for a message: it has no deadline or one ahead, is for the group, and names
the message under its scope. -/
structure Counts (now : Int) (query : RevealQuery) (entry : StoredReveal) : Prop where
  unexpired : ∀ text deadline, entry.access.expiresAt = some text →
    parseDate text = some deadline → now < deadline
  sameGroup : entry.request.groupId = query.groupId
  targets : RevealStateStore.Targets parseDate entry.request query.messageId query.threadId
    query.senderInboxId query.contentType query.sentAt

theorem storedReveals_iff {query : RevealQuery} :
    storedReveals parseDate now query entry = true ↔ Counts parseDate now query entry := by
  rw [storedReveals_eq, RevealStateStore.entryReveals_iff]
  constructor
  · intro h
    constructor
    · intro text deadline hText hDate
      apply h.unexpired
      show entry.access.expiresAt.bind parseDate = some deadline
      rw [hText]
      exact hDate
    · exact h.sameGroup
    · exact h.targets
  · intro h
    constructor
    · intro deadline hDeadline
      obtain ⟨text, hText, hDate⟩ := Option.bind_eq_some_iff.mp hDeadline
      exact h.unexpired text deadline hText hDate
    · exact h.sameGroup
    · exact h.targets

theorem isRevealedBy_iff {entries : List StoredReveal} {query : RevealQuery} :
    isRevealedBy parseDate now entries query = true ↔
      ∃ entry ∈ entries, Counts parseDate now query entry := by
  unfold isRevealedBy
  simp only [List.any_eq_true, storedReveals_iff]

/-- The entries that have not expired. -/
def unexpired (now : Int) (entries : List StoredReveal) : List StoredReveal :=
  entries.filter fun entry => !hasExpired parseDate now entry

/-- The sweep keeps what has not expired, and counts the rest. -/
theorem expireStaleReveals_eq (now : Int) (entries : List StoredReveal) :
    expireStaleReveals parseDate now entries =
      (unexpired parseDate now entries, entries.countP (hasExpired parseDate now)) :=
  spliceBackwards_eq _ entries

theorem hasExpired_mono {later : Int} (hLe : now ≤ later)
    (h : hasExpired parseDate now entry = true) : hasExpired parseDate later entry = true := by
  obtain ⟨text, deadline, hText, hDate, hPast⟩ := (hasExpired_iff parseDate).mp h
  exact (hasExpired_iff parseDate).mpr ⟨text, deadline, hText, hDate, by omega⟩

/-- A sweep drops nothing that a later one would keep. -/
theorem unexpired_unexpired {later : Int} (hLe : now ≤ later) (entries : List StoredReveal) :
    unexpired parseDate later (unexpired parseDate now entries) =
      unexpired parseDate later entries := by
  unfold unexpired
  rw [List.filter_filter]
  apply List.filter_congr
  intro entry _
  by_cases hNow : hasExpired parseDate now entry = true
  · simp [hNow, hasExpired_mono parseDate hLe hNow]
  · simp [hNow]

theorem isRevealedBy_unexpired (now : Int) (entries : List StoredReveal) (query : RevealQuery) :
    isRevealedBy parseDate now (unexpired parseDate now entries) query =
      isRevealedBy parseDate now entries query := by
  unfold isRevealedBy unexpired
  rw [List.any_filter]
  congr 1
  funext entry
  unfold storedReveals
  by_cases hExpired : hasExpired parseDate now entry = true
  · simp [hExpired]
  · simp [hExpired]

/-- Stores with the same unexpired entries give the same answers. -/
theorem isRevealedBy_congr {entries entries' : List StoredReveal}
    (h : unexpired parseDate now entries = unexpired parseDate now entries') (query : RevealQuery) :
    isRevealedBy parseDate now entries query = isRevealedBy parseDate now entries' query := by
  rw [← isRevealedBy_unexpired, h, isRevealedBy_unexpired]

/-! ## The recorded history -/

/-- What one call adds to what has been recorded: a restored snapshot takes the place of all that
came before. -/
def recordCall (recorded : List StoredReveal) (o : Occurrence RevealLog RevealCall Nat) :
    List StoredReveal :=
  match o.label with
  | .record access request => recorded ++ [⟨access, request⟩]
  | .expireStale _ => recorded
  | .snapshot => recorded
  | .restore taken => (o.pre.snapshots[taken]?).getD []

/-- All that was recorded since the last `restore`, after what the restored snapshot held. -/
def recordedHistory (h : RevealRun) : List StoredReveal := h.foldl recordCall []

theorem recordedHistory_snoc (h : RevealRun) (o : Occurrence RevealLog RevealCall Nat) :
    recordedHistory (h ++ [o]) = recordCall (recordedHistory h) o := by
  simp [recordedHistory]

/-- No sweep was asked to go past a time. -/
def SweptUpTo (now : Int) (h : RevealRun) : Prop :=
  ∀ o ∈ h, ∀ deadline, o.label = .expireStale deadline → deadline ≤ now

/-- **The store and its history hold the same unexpired entries.** -/
theorem unexpired_eq_recorded {h : RevealRun} {log : RevealLog}
    (hRun : (revealMachine parseDate).Runs h log) (hSwept : SweptUpTo now h) :
    unexpired parseDate now log.entries = unexpired parseDate now (recordedHistory h) := by
  induction hRun with
  | start => rfl
  | @step h log log' call out hRun' hTaken ih =>
    have hBefore : SweptUpTo now h := fun o ho => hSwept o (List.mem_append_left _ ho)
    have hSame := ih hBefore
    rw [recordedHistory_snoc]
    cases call with
    | record access request =>
      cases hTaken
      simp only [recordCall, unexpired, List.filter_append] at hSame ⊢
      rw [hSame]
    | expireStale deadline =>
      -- what the sweep drops has expired by now as well
      have hLe : deadline ≤ now :=
        hSwept _ (List.mem_append_right _ (List.mem_singleton_self _)) deadline rfl
      cases hTaken
      show unexpired parseDate now (expireStaleReveals parseDate deadline log.entries).1 = _
      rw [expireStaleReveals_eq, unexpired_unexpired parseDate hLe, hSame]
      rfl
    | snapshot =>
      cases hTaken
      exact hSame
    | restore taken =>
      simp only [revealMachine, revealStep] at hTaken
      split at hTaken
      · cases hTaken
      · next activeReveals hGet =>
        cases hTaken
        simp [recordCall, hGet]

/-- **The reveal store equals its recorded history.**  While no sweep has gone past the present, a
message is revealed exactly when some recorded entry counts for it; and neither a sweep up to the
present nor a `restore` of the snapshot just taken changes an answer. -/
theorem reveals_equal_history {h : RevealRun} {log : RevealLog}
    (hRun : (revealMachine parseDate).Runs h log) {now : Int} (hSwept : SweptUpTo now h)
    (query : RevealQuery) :
    (isRevealedBy parseDate now log.entries query = true ↔
      ∃ entry ∈ recordedHistory h, Counts parseDate now query entry) ∧
    (∀ deadline ≤ now, ∀ log' out,
      (revealMachine parseDate).step log (.expireStale deadline) = some (log', out) →
      isRevealedBy parseDate now log'.entries query =
        isRevealedBy parseDate now log.entries query) ∧
    ∀ taken log' out, (revealMachine parseDate).step log .snapshot = some (taken, out) →
      ∀ out', (revealMachine parseDate).step taken (.restore log.snapshots.length) =
          some (log', out') →
        isRevealedBy parseDate now log'.entries query =
          isRevealedBy parseDate now log.entries query := by
  constructor
  · rw [← isRevealedBy_iff]
    rw [isRevealedBy_congr parseDate (unexpired_eq_recorded parseDate hRun hSwept)]
  constructor
  · intro deadline hLe log' out hStep
    cases hStep
    show isRevealedBy parseDate now (expireStaleReveals parseDate deadline log.entries).1 query = _
    apply isRevealedBy_congr
    rw [expireStaleReveals_eq, unexpired_unexpired parseDate hLe]
  · intro taken log' out hSnapshot out' hRestore
    cases hSnapshot
    simp only [revealMachine, revealStep, List.getElem?_concat_length] at hRestore
    cases hRestore
    rfl

def sampleDate (text : String) : Option Int :=
  if text = "1970-01-01T00:00:00.100Z" then some 100 else none

/-- Access to a message of a group, up to a deadline. -/
def accessUntil (expiresAt : Option String) : StoredAccess :=
  ⟨"reveal", "1970-01-01T00:00:00.000Z", "inbox", expiresAt⟩

/-- A request for a message of a group. -/
def requestFor (targetId : String) : RevealRequest :=
  ⟨"reveal", "group", .message, targetId, "inbox", none⟩

def questionAbout (messageId : String) : RevealQuery :=
  ⟨messageId, "group", none, "sender", "text", "1970-01-01T00:00:00.000Z"⟩

/-- One deadline is reached and another is no date: after a sweep, a snapshot, a record and a
`restore`, only the message of the malformed deadline is revealed. -/
theorem reveals_equal_history_sample :
    ∃ h log, (revealMachine sampleDate).Runs h log ∧
      isRevealedBy sampleDate 100 log.entries (questionAbout "second") = true ∧
      ¬ ∃ entry ∈ recordedHistory h, Counts sampleDate 100 (questionAbout "first") entry := by
  obtain ⟨h, log, hLabels, hRun, hSecond, hFirst⟩ := Machine.Executes.exists_run
    (show (revealMachine sampleDate).Executes
      [.record (accessUntil (some "1970-01-01T00:00:00.100Z")) (requestFor "first"),
        .record (accessUntil (some "never")) (requestFor "second"), .expireStale 100, .snapshot,
        .record (accessUntil none) (requestFor "first"), .restore 0]
      (fun _ log => isRevealedBy sampleDate 100 log.entries (questionAbout "second") = true ∧
        isRevealedBy sampleDate 100 log.entries (questionAbout "first") = false) by decide)
  have hSwept : SweptUpTo 100 h := by
    intro o ho deadline hLabel
    have hMem := List.mem_map_of_mem (f := Occurrence.label) ho
    rw [hLabels, hLabel] at hMem
    simp only [List.mem_cons, RevealCall.expireStale.injEq, reduceCtorEq, List.not_mem_nil,
      or_false, false_or] at hMem
    omega
  refine ⟨h, log, hRun, hSecond, ?_⟩
  intro hCounts
  have hRevealed := (reveals_equal_history sampleDate hRun hSwept (questionAbout "first")).1.mpr
    hCounts
  rw [hFirst] at hRevealed
  cases hRevealed

end Policy
end Signet
