import Signet.Kit.AssocMap
import Signet.Kit.OrderedSet

/-!
# The store of admin read disclosures

Public seal disclosure should remain active while any approved admin session
still has live read access for a chat.  The store therefore keeps an entry per
chat and session and answers with the entry of the latest expiry.

* `aggregateForChat` — the current disclosure of a chat; expired entries go.
* `mutate` — a change of the entries of some chats, with the chats whose
  disclosure it has changed.
* `disclosureOf` — the entry of a chat and session, and what each operation does
  to it.
-/

namespace Signet
namespace Cli

open Kit

/-- Texts in which `Date.parse` reads an instant, or none. -/
class Dated (Stamp : Type) where
  parse : Stamp → Option Int

/-- An instant, for the text that `toISOString` writes of it. -/
instance : Dated Int := ⟨some⟩

/-- Public seal disclosure for active owner-approved admin read access. -/
structure AdminReadDisclosure (Stamp : Type := Int) where
  operatorId : String
  expiresAt : Stamp
deriving DecidableEq, Repr

abbrev SessionDisclosures (Stamp : Type := Int) := AssocMap String (AdminReadDisclosure Stamp)

/-- The entries of the store, per chat and session. -/
abbrev DisclosureEntries (Stamp : Type := Int) := AssocMap String (SessionDisclosures Stamp)

variable {Stamp : Type} [Dated Stamp]

/-- The disclosure has not expired; one without an instant has. -/
def AdminReadDisclosure.isLive (now : Int) (disclosure : AdminReadDisclosure Stamp) : Bool :=
  match Dated.parse disclosure.expiresAt with
  | some instant => decide (now < instant)
  | none => false

/-- The disclosure expires later than the other one, as `>` compares what
`Date.parse` answers. -/
def AdminReadDisclosure.isLater (disclosure other : AdminReadDisclosure Stamp) : Bool :=
  match Dated.parse disclosure.expiresAt, Dated.parse other.expiresAt with
  | some instant, some instant' => decide (instant' < instant)
  | _, _ => false

/-- The chat ids without the empty one, each at its first place. -/
def collectUniqueChatIds (chatIds : List String) : OrderedSet String :=
  OrderedSet.ofList (chatIds.filter (· ≠ ""))

/-- The disclosure of the latest expiry, the first one of equals. -/
def latestDisclosure (disclosures : List (AdminReadDisclosure Stamp)) :
    Option (AdminReadDisclosure Stamp) :=
  disclosures.foldl (fun latest disclosure =>
    match latest with
    | none => some disclosure
    | some best => if disclosure.isLater best then some disclosure else some best)
    none

/-- The current disclosure of a chat.  Its expired entries are deleted, unless they
are to be included. -/
def aggregateForChat (now : Int) (includeExpired : Bool) (entries : DisclosureEntries Stamp)
    (chatId : String) : Option (AdminReadDisclosure Stamp) × DisclosureEntries Stamp :=
  match entries.get chatId with
  | none => (none, entries)
  | some perSession =>
    let kept := perSession.filter fun _ disclosure => includeExpired || disclosure.isLive now
    if kept.values.isEmpty then (none, entries.delete chatId)
    else (latestDisclosure kept.values, entries.set chatId kept)

/-- `fn` on the entries of one chat, and whether the disclosure of the chat is
another one after it. -/
def mutateChat [DecidableEq Stamp] (now : Int)
    (fn : SessionDisclosures Stamp → SessionDisclosures Stamp)
    (entries : DisclosureEntries Stamp) (chatId : String) : DisclosureEntries Stamp × Bool :=
  let before := aggregateForChat now false entries chatId
  let perSession := fn ((before.2.get chatId).getD .empty)
  let written :=
    if perSession.values.isEmpty then before.2.delete chatId
    else before.2.set chatId perSession
  let after := aggregateForChat now false written chatId
  (after.2, decide (before.1 ≠ after.1))

/-- `fn` on the entries of each chat in turn, and the chats it has changed. -/
def mutate [DecidableEq Stamp] (now : Int)
    (fn : SessionDisclosures Stamp → SessionDisclosures Stamp) (chatIds : List String)
    (entries : DisclosureEntries Stamp) : DisclosureEntries Stamp × List String :=
  (collectUniqueChatIds chatIds).items.foldl (fun state chatId =>
    let changed := mutateChat now fn state.1 chatId
    (changed.1, if changed.2 then state.2 ++ [chatId] else state.2)) (entries, [])

/-- Tracks active admin-read disclosure state per chat and admin session. -/
structure AdminReadDisclosureStore (Stamp : Type := Int) where
  entries : DisclosureEntries Stamp
deriving DecidableEq

namespace AdminReadDisclosureStore

/-- A store without entries. -/
def empty : AdminReadDisclosureStore Stamp := ⟨.empty⟩

/-- `set`, with the chats whose disclosure it has changed. -/
def set [DecidableEq Stamp] (now : Int) (store : AdminReadDisclosureStore Stamp)
    (chatIds : List String) (sessionKey : String) (disclosure : AdminReadDisclosure Stamp) :
    AdminReadDisclosureStore Stamp × List String :=
  let changed := mutate now (fun perSession => perSession.set sessionKey disclosure) chatIds
    store.entries
  (⟨changed.1⟩, changed.2)

/-- `restore`: the entry is written back whether it has expired or not. -/
def restore (store : AdminReadDisclosureStore Stamp) (chatIds : List String) (sessionKey : String)
    (disclosure : AdminReadDisclosure Stamp) : AdminReadDisclosureStore Stamp :=
  ⟨(collectUniqueChatIds chatIds).items.foldl (fun entries chatId =>
    let perSession := (entries.get chatId).getD .empty
    entries.set chatId (perSession.set sessionKey disclosure)) store.entries⟩

/-- `delete`, with the chats whose disclosure it has changed. -/
def delete [DecidableEq Stamp] (now : Int) (store : AdminReadDisclosureStore Stamp)
    (chatIds : List String) (sessionKey : String) :
    AdminReadDisclosureStore Stamp × List String :=
  let changed := mutate now (fun perSession => perSession.delete sessionKey) chatIds store.entries
  (⟨changed.1⟩, changed.2)

/-- `get` -/
def get (now : Int) (store : AdminReadDisclosureStore Stamp) (chatId : String) :
    Option (AdminReadDisclosure Stamp) × AdminReadDisclosureStore Stamp :=
  let answer := aggregateForChat now false store.entries chatId
  (answer.1, ⟨answer.2⟩)

/-- `peek` -/
def peek (now : Int) (store : AdminReadDisclosureStore Stamp) (chatId : String) :
    Option (AdminReadDisclosure Stamp) × AdminReadDisclosureStore Stamp :=
  let answer := aggregateForChat now true store.entries chatId
  (answer.1, ⟨answer.2⟩)

end AdminReadDisclosureStore

/-! ## The entry of a chat and session -/

/-- The entry of a chat and session. -/
def disclosureOf (entries : DisclosureEntries Stamp) (chatId sessionKey : String) :
    Option (AdminReadDisclosure Stamp) :=
  (entries.get chatId).bind fun perSession => perSession.get sessionKey

/-- The entries of a chat, none for a chat that is not listed. -/
def sessionsOf (entries : DisclosureEntries Stamp) (chatId : String) : SessionDisclosures Stamp :=
  (entries.get chatId).getD .empty

omit [Dated Stamp] in
theorem disclosureOf_eq (entries : DisclosureEntries Stamp) (chatId sessionKey : String) :
    disclosureOf entries chatId sessionKey = (sessionsOf entries chatId).get sessionKey := by
  unfold disclosureOf sessionsOf
  cases entries.get chatId <;> rfl

omit [Dated Stamp] in
/-- Entries without values have no entry under any key. -/
theorem get_of_values_isEmpty {perSession : SessionDisclosures Stamp}
    (h : perSession.values.isEmpty = true) (sessionKey : String) :
    perSession.get sessionKey = none := by
  have hNil : perSession.values = [] := List.isEmpty_iff.mp h
  cases hGet : perSession.get sessionKey with
  | none => rfl
  | some disclosure =>
    have hMem : disclosure ∈ perSession.values := AssocMap.mem_values.mpr ⟨sessionKey, hGet⟩
    rw [hNil] at hMem
    cases hMem

def keepLive (now : Int) (includeExpired : Bool) (found : Option (AdminReadDisclosure Stamp)) :
    Option (AdminReadDisclosure Stamp) :=
  found.filter fun disclosure => includeExpired || disclosure.isLive now

theorem disclosureOf_aggregateForChat (now : Int) (includeExpired : Bool)
    (entries : DisclosureEntries Stamp) (chatId chatId' sessionKey : String) :
    disclosureOf (aggregateForChat now includeExpired entries chatId).2 chatId' sessionKey =
      if chatId' = chatId then keepLive now includeExpired (disclosureOf entries chatId' sessionKey)
      else disclosureOf entries chatId' sessionKey := by
  unfold aggregateForChat
  by_cases hChat : chatId' = chatId
  · subst hChat
    rw [if_pos rfl]
    cases hGet : entries.get chatId' with
    | none => simp [disclosureOf, hGet, keepLive]
    | some perSession =>
      have hOld : disclosureOf entries chatId' sessionKey = perSession.get sessionKey := by
        simp [disclosureOf, hGet]
      rw [hOld]
      dsimp only
      split
      · next hEmpty =>
        have hNone := get_of_values_isEmpty hEmpty sessionKey
        rw [AssocMap.get_filter] at hNone
        unfold disclosureOf keepLive
        rw [AssocMap.get_delete, if_pos rfl]
        exact hNone.symm
      · unfold disclosureOf keepLive
        rw [AssocMap.get_set_self]
        exact AssocMap.get_filter perSession _ sessionKey
  · rw [if_neg hChat]
    unfold disclosureOf
    cases entries.get chatId with
    | none => rfl
    | some perSession =>
      dsimp only
      split
      · rw [AssocMap.get_delete, if_neg hChat]
      · rw [AssocMap.get_set_of_ne _ _ hChat]

section

variable (now : Int)
  (write : Option (AdminReadDisclosure Stamp) → Option (AdminReadDisclosure Stamp))
  {fn : SessionDisclosures Stamp → SessionDisclosures Stamp}

/-- What `fn` leaves of the entry of a session, in a chat it is applied to. -/
theorem disclosureOf_mutateChat [DecidableEq Stamp] {sessionKey : String}
    (hFn : ∀ perSession, (fn perSession).get sessionKey = write (perSession.get sessionKey))
    (entries : DisclosureEntries Stamp) (chatId chatId' : String) :
    disclosureOf (mutateChat now fn entries chatId).1 chatId' sessionKey =
      if chatId' = chatId then
        keepLive now false (write (keepLive now false (disclosureOf entries chatId' sessionKey)))
      else disclosureOf entries chatId' sessionKey := by
  have hBefore := disclosureOf_aggregateForChat now false entries chatId chatId' sessionKey
  unfold mutateChat
  generalize aggregateForChat now false entries chatId = before at hBefore
  dsimp only
  rw [disclosureOf_aggregateForChat]
  by_cases hChat : chatId' = chatId
  · subst hChat
    rw [if_pos rfl] at hBefore ⊢
    rw [if_pos rfl, ← hBefore, disclosureOf_eq before.2, ← sessionsOf, ← hFn]
    congr 1
    split
    · next hEmpty =>
      rw [get_of_values_isEmpty hEmpty]
      simp [disclosureOf]
    · simp [disclosureOf]
  · rw [if_neg hChat] at hBefore ⊢
    rw [if_neg hChat, ← hBefore]
    unfold disclosureOf
    split
    · rw [AssocMap.get_delete, if_neg hChat]
    · rw [AssocMap.get_set_of_ne _ _ hChat]

theorem disclosureOf_mutate [DecidableEq Stamp] {sessionKey : String}
    (hFn : ∀ perSession, (fn perSession).get sessionKey = write (perSession.get sessionKey))
    (chatIds : List String) (entries : DisclosureEntries Stamp) (chatId : String) :
    disclosureOf (mutate now fn chatIds entries).1 chatId sessionKey =
      if chatId ∈ collectUniqueChatIds chatIds then
        keepLive now false (write (keepLive now false (disclosureOf entries chatId sessionKey)))
      else disclosureOf entries chatId sessionKey := by
  unfold mutate
  simp only [OrderedSet.mem_def]
  generalize hItems : (collectUniqueChatIds chatIds).items = items
  have hNodup : items.Nodup := hItems ▸ (collectUniqueChatIds chatIds).nodup
  clear hItems
  generalize hState : (entries, ([] : List String)) = state
  have hEntries : entries = state.1 := by rw [← hState]
  rw [hEntries]
  clear hState hEntries
  induction items generalizing state with
  | nil => simp
  | cons first rest ih =>
    rw [List.nodup_cons] at hNodup
    rw [List.foldl_cons, ih hNodup.2, disclosureOf_mutateChat now write hFn]
    by_cases hFirst : chatId = first
    · -- the chat does not come again
      subst hFirst
      simp [hNodup.1]
    · simp [hFirst]

end

theorem mem_collectUniqueChatIds {chatIds : List String} {chatId : String} :
    chatId ∈ collectUniqueChatIds chatIds ↔ chatId ∈ chatIds ∧ chatId ≠ "" := by
  simp [collectUniqueChatIds]

omit [Dated Stamp] in
theorem disclosureOf_restore (store : AdminReadDisclosureStore Stamp) (chatIds : List String)
    (sessionKey : String) (disclosure : AdminReadDisclosure Stamp) (chatId sessionKey' : String) :
    disclosureOf (store.restore chatIds sessionKey disclosure).entries chatId sessionKey' =
      if chatId ∈ collectUniqueChatIds chatIds ∧ sessionKey' = sessionKey then some disclosure
      else disclosureOf store.entries chatId sessionKey' := by
  unfold AdminReadDisclosureStore.restore
  dsimp only
  simp only [OrderedSet.mem_def]
  generalize store.entries = entries
  generalize (collectUniqueChatIds chatIds).items = items
  induction items generalizing entries with
  | nil => simp
  | cons first rest ih =>
    rw [List.foldl_cons, ih]
    have hTurn : disclosureOf (entries.set first
        (((entries.get first).getD .empty).set sessionKey disclosure)) chatId sessionKey' =
        if chatId = first ∧ sessionKey' = sessionKey then some disclosure
        else disclosureOf entries chatId sessionKey' := by
      by_cases hChat : chatId = first
      · subst hChat
        rw [disclosureOf_eq entries, sessionsOf]
        simp [disclosureOf]
      · simp [disclosureOf, hChat]
    rw [hTurn]
    by_cases hSession : sessionKey' = sessionKey
    · by_cases hChat : chatId = first
      · simp [hSession, hChat]
      · simp [hSession, hChat]
    · simp [hSession]

/-- A disclosure of the chat and session lasts until the time, at least. -/
def Discloses (store : AdminReadDisclosureStore) (chatId sessionKey : String) (until' : Int) :
    Prop :=
  ∃ disclosure, disclosureOf store.entries chatId sessionKey = some disclosure ∧
    until' ≤ disclosure.expiresAt

namespace Discloses

variable {store : AdminReadDisclosureStore} {chatId sessionKey chatId' sessionKey' : String}
  {now until' : Int} {disclosure : AdminReadDisclosure}
  {fn : SessionDisclosures → SessionDisclosures}

theorem keepLive_eq (hLive : now < disclosure.expiresAt) :
    keepLive now false (some disclosure) = some disclosure := by
  have hKeep : disclosure.isLive now = true := decide_eq_true hLive
  simp [keepLive, hKeep]

theorem set (hChat : chatId ≠ "") (hUntil : until' ≤ disclosure.expiresAt)
    (hLive : now < until') :
    Discloses (store.set now [chatId] sessionKey disclosure).1 chatId sessionKey until' := by
  refine ⟨disclosure, ?_, hUntil⟩
  unfold AdminReadDisclosureStore.set
  rw [disclosureOf_mutate now (fun _ => some disclosure)
    (fun perSession => AssocMap.get_set_self perSession sessionKey disclosure),
    if_pos (mem_collectUniqueChatIds.mpr ⟨List.mem_singleton.mpr rfl, hChat⟩)]
  exact keepLive_eq (by omega)

/-- A change that leaves the session alone leaves its live disclosures. -/
theorem mutate_of_same (h : Discloses store chatId sessionKey until') (hLive : now < until')
    (chatIds : List String)
    (hFn : ∀ perSession, (fn perSession).get sessionKey = perSession.get sessionKey) :
    Discloses ⟨(mutate now fn chatIds store.entries).1⟩ chatId sessionKey until' := by
  obtain ⟨disclosure, hGet, hUntil⟩ := h
  have hKept : keepLive now false (some disclosure) = some disclosure := keepLive_eq (by omega)
  refine ⟨disclosure, ?_, hUntil⟩
  dsimp only
  rw [disclosureOf_mutate now (fun found => found) hFn, hGet, hKept, hKept]
  split <;> rfl

/-- A change of another chat leaves the disclosures of the chat. -/
theorem mutate_of_ne (h : Discloses store chatId sessionKey until')
    (write : Option AdminReadDisclosure → Option AdminReadDisclosure)
    (hFn : ∀ perSession, (fn perSession).get sessionKey = write (perSession.get sessionKey))
    (hChat : chatId ≠ chatId') :
    Discloses ⟨(mutate now fn [chatId'] store.entries).1⟩ chatId sessionKey until' := by
  obtain ⟨disclosure, hGet, hUntil⟩ := h
  refine ⟨disclosure, ?_, hUntil⟩
  have hOther : chatId ∉ collectUniqueChatIds [chatId'] := by
    rw [mem_collectUniqueChatIds, List.mem_singleton]
    exact fun hMem => hChat hMem.1
  dsimp only
  rw [disclosureOf_mutate now write hFn, if_neg hOther]
  exact hGet

section

variable (h : Discloses store chatId sessionKey until') (hLive : now < until')
  (hNe : ¬ (chatId = chatId' ∧ sessionKey = sessionKey'))

include h hLive hNe

theorem set_of_ne :
    Discloses (store.set now [chatId'] sessionKey' disclosure).1 chatId sessionKey until' := by
  by_cases hSession : sessionKey = sessionKey'
  · subst hSession
    exact h.mutate_of_ne (fun _ => some disclosure)
      (fun perSession => AssocMap.get_set_self perSession sessionKey disclosure)
      fun hChat => hNe ⟨hChat, rfl⟩
  · exact h.mutate_of_same hLive _ fun perSession =>
      AssocMap.get_set_of_ne perSession disclosure hSession

theorem delete_of_ne :
    Discloses (store.delete now [chatId'] sessionKey').1 chatId sessionKey until' := by
  by_cases hSession : sessionKey = sessionKey'
  · subst hSession
    apply h.mutate_of_ne (fun _ => none)
    · intro perSession
      rw [AssocMap.get_delete, if_pos rfl]
    · exact fun hChat => hNe ⟨hChat, rfl⟩
  · apply h.mutate_of_same hLive
    intro perSession
    rw [AssocMap.get_delete, if_neg hSession]

end

/-- A disclosure that is written back replaces the one of its chat and session. -/
theorem restore (h : Discloses store chatId sessionKey until')
    (hSame : chatId = chatId' → sessionKey = sessionKey' → until' ≤ disclosure.expiresAt) :
    Discloses (store.restore [chatId'] sessionKey' disclosure) chatId sessionKey until' := by
  obtain ⟨found, hGet, hUntil⟩ := h
  by_cases hPair : chatId ∈ collectUniqueChatIds [chatId'] ∧ sessionKey = sessionKey'
  · refine ⟨disclosure, ?_, ?_⟩
    · rw [disclosureOf_restore, if_pos hPair]
    · have hChat := (mem_collectUniqueChatIds.mp hPair.1).1
      exact hSame (List.mem_singleton.mp hChat) hPair.2
  · refine ⟨found, ?_, hUntil⟩
    rw [disclosureOf_restore, if_neg hPair]
    exact hGet

end Discloses

end Cli
end Signet
