import Mathlib.Data.List.MinMax
import Signet.Cli.ReadDisclosureStore

/-!
# What the disclosure store answers in a run

The store prunes when it reads and reads twice when it writes, so its entries are
not simply what has been written.  A run is compared with a ledger that only
records: the last disclosure set or restored for a chat and session, until it is
deleted.

* `live_run` — one operation: what is live of an entry is live of its record.
* `live_runs` — the same for a sequence of calls.
* `mutate_changed` — the chats that a change reports.
* `disclosures_exact` — the answers of the store after any sequence of calls.
-/

namespace Signet
namespace Cli

open Kit

variable {Stamp : Type} [Dated Stamp]

/-! ## Live disclosures and the latest of them -/

namespace AdminReadDisclosure

variable {disclosure other : AdminReadDisclosure Stamp} {now later : Int}

theorem isLive_iff : disclosure.isLive now = true ↔
    ∃ instant, Dated.parse disclosure.expiresAt = some instant ∧ now < instant := by
  unfold isLive
  cases Dated.parse disclosure.expiresAt with
  | none => simp
  | some instant => simp

theorem isLater_iff : disclosure.isLater other = true ↔
    ∃ instant instant', Dated.parse disclosure.expiresAt = some instant ∧
      Dated.parse other.expiresAt = some instant' ∧ instant' < instant := by
  unfold isLater
  cases Dated.parse disclosure.expiresAt with
  | none => simp
  | some instant =>
    cases Dated.parse other.expiresAt with
    | none => simp
    | some instant' => simp

theorem isLive_of_le (h : disclosure.isLive later = true) (hLe : now ≤ later) :
    disclosure.isLive now = true := by
  obtain ⟨instant, hParse, hLater⟩ := isLive_iff.mp h
  exact isLive_iff.mpr ⟨instant, hParse, by omega⟩

theorem isLater_irrefl : Std.Irrefl fun a b : AdminReadDisclosure Stamp => a.isLater b = true := by
  constructor
  intro a h
  obtain ⟨instant, instant', hParse, hParse', hLt⟩ := isLater_iff.mp h
  rw [hParse, Option.some.injEq] at hParse'
  omega

theorem isLater_trans : IsTrans (AdminReadDisclosure Stamp) fun a b => a.isLater b = true := by
  constructor
  intro a b c hAb hBc
  obtain ⟨first, second, hFirst, hSecond, hLt⟩ := isLater_iff.mp hAb
  obtain ⟨second', third, hSecond', hThird, hLt'⟩ := isLater_iff.mp hBc
  rw [hSecond, Option.some.injEq] at hSecond'
  exact isLater_iff.mpr ⟨first, third, hFirst, hThird, by omega⟩

end AdminReadDisclosure

theorem latestDisclosure_eq_foldl (disclosures : List (AdminReadDisclosure Stamp)) :
    latestDisclosure disclosures =
      disclosures.foldl (List.argAux fun disclosure best => disclosure.isLater best = true)
        none := by
  unfold latestDisclosure
  congr 1
  funext latest disclosure
  cases latest <;> rfl

variable {disclosures : List (AdminReadDisclosure Stamp)}
  {latest disclosure : AdminReadDisclosure Stamp}

theorem latestDisclosure_eq_none :
    latestDisclosure disclosures = none ↔ disclosures = [] := by
  rw [latestDisclosure_eq_foldl, List.foldl_argAux_eq_none]
  simp

theorem not_isLater_latestDisclosure (h : latestDisclosure disclosures = some latest)
    (hMem : disclosure ∈ disclosures) :
    ¬ disclosure.isLater latest = true := by
  rw [latestDisclosure_eq_foldl] at h
  exact List.not_of_mem_foldl_argAux _ AdminReadDisclosure.isLater_irrefl
    AdminReadDisclosure.isLater_trans hMem h

theorem mem_of_latestDisclosure (h : latestDisclosure disclosures = some latest) :
    latest ∈ disclosures := by
  unfold latestDisclosure at h
  induction disclosures using List.reverseRecOn generalizing latest with
  | nil => cases h
  | append_singleton front disclosure ih =>
    rw [List.foldl_append, List.foldl_cons, List.foldl_nil] at h
    rw [List.mem_append, List.mem_singleton]
    split at h
    · cases h
      exact Or.inr rfl
    · next best hBest =>
      split at h
      · cases h
        exact Or.inr rfl
      · cases h
        exact Or.inl (ih hBest)

theorem keepLive_eq_some {now : Int} {found : Option (AdminReadDisclosure Stamp)} :
    keepLive now false found = some disclosure ↔
      found = some disclosure ∧ disclosure.isLive now = true := by
  unfold keepLive
  rw [Option.filter_eq_some_iff]
  simp

theorem keepLive_keepLive {now later : Int} (h : now ≤ later)
    (found : Option (AdminReadDisclosure Stamp)) :
    keepLive later false (keepLive now false found) = keepLive later false found := by
  apply Option.ext
  intro disclosure
  rw [keepLive_eq_some, keepLive_eq_some, keepLive_eq_some]
  constructor
  · rintro ⟨⟨hFound, -⟩, hLive⟩
    exact ⟨hFound, hLive⟩
  · rintro ⟨hFound, hLive⟩
    exact ⟨⟨hFound, AdminReadDisclosure.isLive_of_le hLive h⟩, hLive⟩

/-! ## What a change reports -/

/-- What `get` answers for a chat. -/
def liveAggregate (now : Int) (entries : DisclosureEntries Stamp) (chatId : String) :
    Option (AdminReadDisclosure Stamp) :=
  (aggregateForChat now false entries chatId).1

def liveSessions (now : Int) (entries : DisclosureEntries Stamp) (chatId : String) :
    SessionDisclosures Stamp :=
  (sessionsOf entries chatId).filter fun _ disclosure => disclosure.isLive now

omit [Dated Stamp] in
theorem eq_empty_of_values_isEmpty {perSession : SessionDisclosures Stamp}
    (h : perSession.values.isEmpty = true) : perSession = .empty := by
  apply AssocMap.ext
  exact List.map_eq_nil_iff.mp (List.isEmpty_iff.mp h)

section

variable (now : Int) (entries : DisclosureEntries Stamp)

theorem liveAggregate_eq (chatId : String) :
    liveAggregate now entries chatId =
      latestDisclosure (liveSessions now entries chatId).values := by
  unfold liveAggregate aggregateForChat liveSessions sessionsOf
  cases entries.get chatId with
  | none => rfl
  | some perSession =>
    dsimp only [Option.getD_some]
    split
    · next hEmpty =>
      have hNil := List.isEmpty_iff.mp hEmpty
      exact (latestDisclosure_eq_none.mpr hNil).symm
    · rfl

/-- A reading leaves the live entries of the chat and all of another one. -/
theorem sessionsOf_aggregateForChat (chatId chatId' : String) :
    sessionsOf (aggregateForChat now false entries chatId).2 chatId' =
      if chatId' = chatId then liveSessions now entries chatId else sessionsOf entries chatId' := by
  unfold aggregateForChat liveSessions sessionsOf
  cases hGet : entries.get chatId with
  | none =>
    by_cases hChat : chatId' = chatId
    · subst hChat
      rw [if_pos rfl]
      dsimp only
      rw [hGet]
      rfl
    · rw [if_neg hChat]
  | some perSession =>
    dsimp only [Option.getD_some]
    split
    · next hEmpty =>
      rw [AssocMap.get_delete]
      split
      · exact (eq_empty_of_values_isEmpty hEmpty).symm
      · rfl
    · rw [AssocMap.get_set]
      split
      · rfl
      · rfl

theorem liveSessions_aggregateForChat (chatId : String) :
    liveSessions now (aggregateForChat now false entries chatId).2 chatId =
      liveSessions now entries chatId := by
  have hRead := sessionsOf_aggregateForChat now entries chatId chatId
  rw [if_pos rfl] at hRead
  unfold liveSessions at hRead ⊢
  rw [hRead, AssocMap.filter_filter_self]

end

section Changes

variable [DecidableEq Stamp] (now : Int)
  (fn : SessionDisclosures Stamp → SessionDisclosures Stamp)

theorem mutateChat_changed (entries : DisclosureEntries Stamp) (chatId : String) :
    (mutateChat now fn entries chatId).2 =
      decide (liveAggregate now entries chatId ≠
        liveAggregate now (mutateChat now fn entries chatId).1 chatId) := by
  unfold mutateChat
  dsimp only
  rw [liveAggregate_eq now (aggregateForChat now false _ chatId).2,
    liveSessions_aggregateForChat, ← liveAggregate_eq]
  rfl

variable {chatId : String} {chatIds : List String}

theorem sessionsOf_mutateChat_of_ne (entries : DisclosureEntries Stamp) {chatId' : String}
    (hChat : chatId' ≠ chatId) :
    sessionsOf (mutateChat now fn entries chatId).1 chatId' = sessionsOf entries chatId' := by
  have hBefore := sessionsOf_aggregateForChat now entries chatId chatId'
  unfold mutateChat
  dsimp only
  rw [sessionsOf_aggregateForChat, if_neg hChat]
  rw [if_neg hChat] at hBefore
  rw [← hBefore]
  unfold sessionsOf
  split
  · rw [AssocMap.get_delete, if_neg hChat]
  · rw [AssocMap.get_set_of_ne _ _ hChat]

theorem liveAggregate_mutateChat_of_ne (entries : DisclosureEntries Stamp) {chatId' : String}
    (hChat : chatId' ≠ chatId) :
    liveAggregate now (mutateChat now fn entries chatId).1 chatId' =
      liveAggregate now entries chatId' := by
  rw [liveAggregate_eq, liveAggregate_eq]
  unfold liveSessions
  rw [sessionsOf_mutateChat_of_ne now fn entries hChat]

/-- One turn of `mutate`. -/
def mutateTurn (state : DisclosureEntries Stamp × List String) (chatId : String) :
    DisclosureEntries Stamp × List String :=
  let changed := mutateChat now fn state.1 chatId
  (changed.1, if changed.2 then state.2 ++ [chatId] else state.2)

theorem liveAggregate_turns_of_not_mem (h : chatId ∉ chatIds)
    (state : DisclosureEntries Stamp × List String) :
    liveAggregate now (chatIds.foldl (mutateTurn now fn) state).1 chatId =
      liveAggregate now state.1 chatId := by
  induction chatIds generalizing state with
  | nil => rfl
  | cons first rest ih =>
    rw [List.mem_cons, not_or] at h
    rw [List.foldl_cons, ih h.2]
    exact liveAggregate_mutateChat_of_ne now fn state.1 h.1

theorem mutateTurn_changed (state : DisclosureEntries Stamp × List String) (chatId : String) :
    (mutateTurn now fn state chatId).2 = state.2 ++ [chatId].filter fun chatId =>
      decide (liveAggregate now state.1 chatId ≠
        liveAggregate now (mutateTurn now fn state chatId).1 chatId) := by
  unfold mutateTurn
  dsimp only
  rw [mutateChat_changed]
  by_cases hSame : liveAggregate now state.1 chatId =
      liveAggregate now (mutateChat now fn state.1 chatId).1 chatId
  · simp [hSame]
  · simp [hSame]

/-- Each chat comes once, so what its turn compares is the state before and after all
turns. -/
theorem turns_changed (hNodup : chatIds.Nodup) (state : DisclosureEntries Stamp × List String) :
    (chatIds.foldl (mutateTurn now fn) state).2 = state.2 ++ chatIds.filter fun chatId =>
      decide (liveAggregate now state.1 chatId ≠
        liveAggregate now (chatIds.foldl (mutateTurn now fn) state).1 chatId) := by
  induction chatIds generalizing state with
  | nil => simp
  | cons first rest ih =>
    rw [List.nodup_cons] at hNodup
    have hSplit : ∀ p : String → Bool,
        (first :: rest).filter p = [first].filter p ++ rest.filter p :=
      fun p => List.filter_append (p := p) [first] rest
    rw [List.foldl_cons, ih hNodup.2, mutateTurn_changed, List.append_assoc, hSplit]
    -- no later turn is one of the first chat, and the first turn is one of no later chat
    congr 2
    · apply List.filter_congr
      intro chatId hMem
      rw [List.mem_singleton] at hMem
      subst hMem
      rw [liveAggregate_turns_of_not_mem now fn hNodup.1]
    · apply List.filter_congr
      intro chatId hMem
      have hNe : chatId ≠ first := fun hEq => hNodup.1 (hEq ▸ hMem)
      have hBefore : liveAggregate now (mutateTurn now fn state first).1 chatId =
          liveAggregate now state.1 chatId :=
        liveAggregate_mutateChat_of_ne now fn state.1 hNe
      rw [hBefore]

/-- The chats a change reports are those whose aggregate it has changed. -/
theorem mutate_changed (chatIds : List String) (entries : DisclosureEntries Stamp) :
    (mutate now fn chatIds entries).2 = (collectUniqueChatIds chatIds).items.filter fun chatId =>
      decide (liveAggregate now entries chatId ≠
        liveAggregate now (mutate now fn chatIds entries).1 chatId) := by
  have hTurns := turns_changed now fn (collectUniqueChatIds chatIds).nodup (entries, [])
  rw [List.nil_append] at hTurns
  exact hTurns

end Changes

/-! ## Operations and runs -/

inductive DisclosureOperation (Stamp : Type) where
  | set (chatIds : List String) (sessionKey : String) (disclosure : AdminReadDisclosure Stamp)
  | restore (chatIds : List String) (sessionKey : String)
      (disclosure : AdminReadDisclosure Stamp)
  | delete (chatIds : List String) (sessionKey : String)
  | get (chatId : String)
  | peek (chatId : String)

namespace DisclosureOperation

/-- The session whose entries the operation writes. -/
def sessionKey? : DisclosureOperation Stamp → Option String
  | .set _ sessionKey _ => some sessionKey
  | .restore _ sessionKey _ => some sessionKey
  | .delete _ sessionKey => some sessionKey
  | .get _ => none
  | .peek _ => none

def run [DecidableEq Stamp] (now : Int) (store : AdminReadDisclosureStore Stamp) :
    DisclosureOperation Stamp → AdminReadDisclosureStore Stamp
  | .set chatIds sessionKey disclosure => (store.set now chatIds sessionKey disclosure).1
  | .restore chatIds sessionKey disclosure => store.restore chatIds sessionKey disclosure
  | .delete chatIds sessionKey => (store.delete now chatIds sessionKey).1
  | .get chatId => (store.get now chatId).2
  | .peek chatId => (store.peek now chatId).2

/-- What the operation makes of the record of a chat and session: the last disclosure
that was set or restored there, until it is deleted. -/
def record (chatId sessionKey : String) (entry : Option (AdminReadDisclosure Stamp)) :
    DisclosureOperation Stamp → Option (AdminReadDisclosure Stamp)
  | .set chatIds key disclosure | .restore chatIds key disclosure =>
    if (chatId ∈ chatIds ∧ chatId ≠ "") ∧ sessionKey = key then some disclosure else entry
  | .delete chatIds key =>
    if (chatId ∈ chatIds ∧ chatId ≠ "") ∧ sessionKey = key then none else entry
  | .get _ => entry
  | .peek _ => entry

end DisclosureOperation

/-- A call of the store: an operation, and the clock during it. -/
structure DisclosureCall (Stamp : Type) where
  now : Int
  operation : DisclosureOperation Stamp

/-- The store after some calls. -/
def disclosuresAfter [DecidableEq Stamp] (calls : List (DisclosureCall Stamp)) :
    AdminReadDisclosureStore Stamp :=
  calls.foldl (fun store call => call.operation.run call.now store) .empty

/-- The last disclosure that the calls have set or restored for a chat and session, if
they have not deleted it. -/
def lastWritten (calls : List (DisclosureCall Stamp)) (chatId sessionKey : String) :
    Option (AdminReadDisclosure Stamp) :=
  calls.foldl (fun entry call => call.operation.record chatId sessionKey entry) none

/-- A disclosure of the chat, of whichever session, has been written, not been deleted
and not yet expired. -/
def HeldLive (calls : List (DisclosureCall Stamp)) (now : Int) (chatId : String)
    (disclosure : AdminReadDisclosure Stamp) : Prop :=
  ∃ sessionKey, lastWritten calls chatId sessionKey = some disclosure ∧
    disclosure.isLive now = true

theorem keepLive_record {now : Int} {found found' : Option (AdminReadDisclosure Stamp)}
    (h : keepLive now false found = keepLive now false found') (chatId sessionKey : String)
    (operation : DisclosureOperation Stamp) :
    keepLive now false (operation.record chatId sessionKey found) =
      keepLive now false (operation.record chatId sessionKey found') := by
  unfold DisclosureOperation.record
  split
  · split
    · rfl
    · exact h
  · split
    · rfl
    · exact h
  · split
    · rfl
    · exact h
  · exact h
  · exact h

section Runs

variable [DecidableEq Stamp] {now later : Int}

/-- A change that writes `value` for one session, seen from any session. -/
theorem live_mutate (h : now ≤ later)
    {fn : SessionDisclosures Stamp → SessionDisclosures Stamp} {key sessionKey : String}
    {value : Option (AdminReadDisclosure Stamp)}
    (hFn : ∀ perSession : SessionDisclosures Stamp, (fn perSession).get sessionKey =
      if sessionKey = key then value else perSession.get sessionKey)
    (chatIds : List String) (entries : DisclosureEntries Stamp) (chatId : String) :
    keepLive later false (disclosureOf (mutate now fn chatIds entries).1 chatId sessionKey) =
      keepLive later false (if (chatId ∈ chatIds ∧ chatId ≠ "") ∧ sessionKey = key then value
        else disclosureOf entries chatId sessionKey) := by
  rw [disclosureOf_mutate now (fun found => if sessionKey = key then value else found) hFn]
  by_cases hChat : chatId ∈ chatIds ∧ chatId ≠ ""
  · rw [if_pos (mem_collectUniqueChatIds.mpr hChat), keepLive_keepLive h]
    by_cases hKey : sessionKey = key
    · rw [if_pos hKey, if_pos ⟨hChat, hKey⟩]
    · rw [if_neg hKey, if_neg (fun hBoth => hKey hBoth.2), keepLive_keepLive h]
  · rw [if_neg (fun hMem => hChat (mem_collectUniqueChatIds.mp hMem)),
      if_neg (fun hBoth => hChat hBoth.1)]

/-- One operation: what will be live of the entries is what will be live of their
records. -/
theorem live_run (h : now ≤ later) (store : AdminReadDisclosureStore Stamp)
    (operation : DisclosureOperation Stamp) (chatId sessionKey : String) :
    keepLive later false
        (disclosureOf (operation.run now store).entries chatId sessionKey) =
      keepLive later false
        (operation.record chatId sessionKey (disclosureOf store.entries chatId sessionKey)) := by
  cases operation with
  | set chatIds key disclosure =>
    have hSet := fun perSession : SessionDisclosures Stamp =>
      perSession.get_set key sessionKey disclosure
    exact live_mutate h hSet chatIds store.entries chatId
  | restore chatIds key disclosure =>
    unfold DisclosureOperation.run DisclosureOperation.record
    rw [disclosureOf_restore]
    simp only [mem_collectUniqueChatIds]
  | delete chatIds key =>
    have hDelete := fun perSession : SessionDisclosures Stamp =>
      perSession.get_delete key sessionKey
    exact live_mutate h hDelete chatIds store.entries chatId
  | get chatId' =>
    unfold DisclosureOperation.run DisclosureOperation.record AdminReadDisclosureStore.get
    dsimp only
    rw [disclosureOf_aggregateForChat]
    split
    · exact keepLive_keepLive h _
    · rfl
  | peek chatId' =>
    unfold DisclosureOperation.run DisclosureOperation.record AdminReadDisclosureStore.peek
    dsimp only
    rw [disclosureOf_aggregateForChat]
    split
    · unfold keepLive
      simp
    · rfl

/-- A run: what is live of the entries, after the last call, is what is live of the
records. -/
theorem live_runs {calls : List (DisclosureCall Stamp)}
    (hClock : ∀ call ∈ calls, call.now ≤ later) (chatId sessionKey : String) :
    keepLive later false (disclosureOf (disclosuresAfter calls).entries chatId sessionKey) =
      keepLive later false (lastWritten calls chatId sessionKey) := by
  unfold disclosuresAfter lastWritten
  induction calls using List.reverseRecOn with
  | nil => rfl
  | append_singleton front last ih =>
    have hFront := ih fun call hMem => hClock call (List.mem_append_left _ hMem)
    have hLast : last.now ≤ later := hClock last (by simp)
    rw [List.foldl_append, List.foldl_append, List.foldl_cons, List.foldl_cons,
      List.foldl_nil, List.foldl_nil, live_run hLast]
    exact keepLive_record hFront chatId sessionKey last.operation

end Runs

/-! ## The answers of the store -/

section Answers

variable [DecidableEq Stamp] {now : Int} {calls : List (DisclosureCall Stamp)}

/-- The answer is a disclosure of the latest expiry among the live ones of the chat, and
none when there are none. -/
structure AnswersLatest (calls : List (DisclosureCall Stamp)) (now : Int) (chatId : String)
    (answer : Option (AdminReadDisclosure Stamp)) : Prop where
  none_iff : answer = none ↔ ∀ disclosure, ¬ HeldLive calls now chatId disclosure
  latest : ∀ disclosure, answer = some disclosure → HeldLive calls now chatId disclosure ∧
    ∀ other, HeldLive calls now chatId other →
      ∃ instant instant', Dated.parse disclosure.expiresAt = some instant ∧
        Dated.parse other.expiresAt = some instant' ∧ instant' ≤ instant

/-- The reported chats are the distinct non-empty ones of the argument that `get` answers
otherwise after the change. -/
structure ReportsChanges (now : Int) (chatIds : List String)
    (before after : AdminReadDisclosureStore Stamp) (changed : List String) : Prop where
  nodup : changed.Nodup
  mem_iff : ∀ chatId, chatId ∈ changed ↔
    chatId ∈ chatIds ∧ chatId ≠ "" ∧ (before.get now chatId).1 ≠ (after.get now chatId).1

/-- The live entries of all sessions but the one are the same. -/
def KeepsOthers (now : Int) (sessionKey? : Option String)
    (before after : AdminReadDisclosureStore Stamp) : Prop :=
  ∀ chatId sessionKey disclosure, sessionKey? ≠ some sessionKey →
    disclosure.isLive now = true →
      (disclosureOf before.entries chatId sessionKey = some disclosure ↔
        disclosureOf after.entries chatId sessionKey = some disclosure)

omit [DecidableEq Stamp] in
theorem mem_liveSessions {entries : DisclosureEntries Stamp} {chatId : String}
    {disclosure : AdminReadDisclosure Stamp} :
    disclosure ∈ (liveSessions now entries chatId).values ↔
      ∃ sessionKey, keepLive now false (disclosureOf entries chatId sessionKey) =
        some disclosure := by
  rw [AssocMap.mem_values]
  apply exists_congr
  intro sessionKey
  unfold liveSessions keepLive
  rw [AssocMap.get_filter, disclosureOf_eq]
  simp

theorem mem_liveSessions_after (hClock : ∀ call ∈ calls, call.now ≤ now) {chatId : String}
    {disclosure : AdminReadDisclosure Stamp} :
    disclosure ∈ (liveSessions now (disclosuresAfter calls).entries chatId).values ↔
      HeldLive calls now chatId disclosure := by
  rw [mem_liveSessions]
  apply exists_congr
  intro sessionKey
  rw [live_runs hClock, keepLive_eq_some]

/-- `get` answers from what has been written last. -/
theorem get_answersLatest (hClock : ∀ call ∈ calls, call.now ≤ now) (chatId : String) :
    AnswersLatest calls now chatId ((disclosuresAfter calls).get now chatId).1 := by
  have hGet : ((disclosuresAfter calls).get now chatId).1 =
      latestDisclosure (liveSessions now (disclosuresAfter calls).entries chatId).values :=
    liveAggregate_eq now (disclosuresAfter calls).entries chatId
  rw [hGet]
  constructor
  · rw [latestDisclosure_eq_none, List.eq_nil_iff_forall_not_mem]
    apply forall_congr'
    intro disclosure
    rw [mem_liveSessions_after hClock]
  · intro disclosure hLatest
    have hHeld := (mem_liveSessions_after hClock).mp (mem_of_latestDisclosure hLatest)
    refine ⟨hHeld, ?_⟩
    intro other hOther
    have hNotLater := not_isLater_latestDisclosure hLatest
      ((mem_liveSessions_after hClock).mpr hOther)
    obtain ⟨_, -, hLive⟩ := hHeld
    obtain ⟨_, -, hLive'⟩ := hOther
    obtain ⟨instant, hParse, -⟩ := AdminReadDisclosure.isLive_iff.mp hLive
    obtain ⟨instant', hParse', -⟩ := AdminReadDisclosure.isLive_iff.mp hLive'
    refine ⟨instant, instant', hParse, hParse', ?_⟩
    rw [AdminReadDisclosure.isLater_iff] at hNotLater
    by_contra hLt
    exact hNotLater ⟨instant', instant, hParse', hParse, by omega⟩

theorem mutate_reportsChanges (now : Int)
    (fn : SessionDisclosures Stamp → SessionDisclosures Stamp) (chatIds : List String)
    (store : AdminReadDisclosureStore Stamp) :
    ReportsChanges now chatIds store ⟨(mutate now fn chatIds store.entries).1⟩
      (mutate now fn chatIds store.entries).2 := by
  have hChanged := mutate_changed now fn chatIds store.entries
  constructor
  · rw [hChanged]
    exact (collectUniqueChatIds chatIds).nodup.filter _
  · intro chatId
    rw [hChanged, List.mem_filter, ← OrderedSet.mem_def, mem_collectUniqueChatIds,
      decide_eq_true_iff, and_assoc]
    rfl

omit [Dated Stamp] [DecidableEq Stamp] in
theorem record_of_ne {operation : DisclosureOperation Stamp} {sessionKey : String}
    (h : operation.sessionKey? ≠ some sessionKey) (chatId : String)
    (entry : Option (AdminReadDisclosure Stamp)) :
    operation.record chatId sessionKey entry = entry := by
  have hKey : ∀ key, operation.sessionKey? = some key → ∀ named : Prop,
      ¬ (named ∧ sessionKey = key) := by
    intro key hSession named hBoth
    exact h (hBoth.2 ▸ hSession)
  cases operation with
  | set chatIds key disclosure => exact if_neg (hKey key rfl _)
  | restore chatIds key disclosure => exact if_neg (hKey key rfl _)
  | delete chatIds key => exact if_neg (hKey key rfl _)
  | get chatId' => rfl
  | peek chatId' => rfl

theorem run_keepsOthers (now : Int) (store : AdminReadDisclosureStore Stamp)
    (operation : DisclosureOperation Stamp) :
    KeepsOthers now operation.sessionKey? store (operation.run now store) := by
  intro chatId sessionKey disclosure hSession hLive
  have hRun := live_run (Int.le_refl now) store operation chatId sessionKey
  rw [record_of_ne hSession] at hRun
  have hSame : keepLive now false (disclosureOf store.entries chatId sessionKey) =
        some disclosure ↔
      keepLive now false (disclosureOf (operation.run now store).entries chatId sessionKey) =
        some disclosure := by
    rw [hRun]
  rw [keepLive_eq_some, keepLive_eq_some] at hSame
  simpa [hLive] using hSame

/-- After any sequence of calls, none of them later than `now` (as a monotone clock has
it): `get` answers a disclosure of the latest expiry among the live ones of the chat, `set`
and `delete` report the chats whose answer they change, and an operation of one session
keeps the live entries of all others. -/
theorem disclosures_exact (calls : List (DisclosureCall Stamp)) (now : Int)
    (hClock : ∀ call ∈ calls, call.now ≤ now) :
    (∀ chatId, AnswersLatest calls now chatId ((disclosuresAfter calls).get now chatId).1) ∧
      (∀ chatIds sessionKey disclosure,
        let answer := (disclosuresAfter calls).set now chatIds sessionKey disclosure
        ReportsChanges now chatIds (disclosuresAfter calls) answer.1 answer.2) ∧
      (∀ chatIds sessionKey,
        let answer := (disclosuresAfter calls).delete now chatIds sessionKey
        ReportsChanges now chatIds (disclosuresAfter calls) answer.1 answer.2) ∧
      ∀ operation : DisclosureOperation Stamp, KeepsOthers now operation.sessionKey?
        (disclosuresAfter calls) (operation.run now (disclosuresAfter calls)) := by
  refine ⟨get_answersLatest hClock, ?_, ?_, run_keepsOthers now (disclosuresAfter calls)⟩
  · intro chatIds sessionKey disclosure
    exact mutate_reportsChanges now _ chatIds (disclosuresAfter calls)
  · intro chatIds sessionKey
    exact mutate_reportsChanges now _ chatIds (disclosuresAfter calls)

/-- Some texts of dates; the first two are of one instant. -/
structure SampleDate where
  text : String
deriving DecidableEq

instance : Dated SampleDate := ⟨fun stamp =>
  [("1970-01-01T00:00:01Z", 1000), ("1970-01-01T00:00:01.000Z", 1000),
    ("1970-01-01T00:00:02.000Z", 2000)].lookup stamp.text⟩

/-- Two sessions have read access to a chat, and the one with the longer access is
deleted. -/
def sampleCalls : List (DisclosureCall SampleDate) :=
  [⟨0, .set ["chat", "", "chat"] "one" ⟨"owner", ⟨"1970-01-01T00:00:01Z"⟩⟩⟩,
    ⟨100, .restore ["chat", "other"] "two" ⟨"owner", ⟨"1970-01-01T00:00:02.000Z"⟩⟩⟩,
    ⟨200, .peek "chat"⟩,
    ⟨300, .delete ["chat"] "two"⟩,
    ⟨400, .get "other"⟩]

theorem sampleCalls_exact :
    AnswersLatest sampleCalls 500 "chat" (some ⟨"owner", ⟨"1970-01-01T00:00:01Z"⟩⟩) ∧
      ReportsChanges 500 ["chat", "", "chat"] (disclosuresAfter sampleCalls)
        ((disclosuresAfter sampleCalls).set 500 ["chat", "", "chat"] "one"
          ⟨"owner", ⟨"1970-01-01T00:00:01.000Z"⟩⟩).1 ["chat"] := by
  have hClock : ∀ call ∈ sampleCalls, call.now ≤ 500 := by decide
  have hExact := disclosures_exact sampleCalls 500 hClock
  have hGet : ((disclosuresAfter sampleCalls).get 500 "chat").1 =
      some ⟨"owner", ⟨"1970-01-01T00:00:01Z"⟩⟩ := by decide
  have hSet : ((disclosuresAfter sampleCalls).set 500 ["chat", "", "chat"] "one"
      ⟨"owner", ⟨"1970-01-01T00:00:01.000Z"⟩⟩).2 = ["chat"] := by decide
  constructor
  · rw [← hGet]
    exact hExact.1 "chat"
  · rw [← hSet]
    exact hExact.2.1 ["chat", "", "chat"] "one" ⟨"owner", ⟨"1970-01-01T00:00:01.000Z"⟩⟩

end Answers

end Cli
end Signet
