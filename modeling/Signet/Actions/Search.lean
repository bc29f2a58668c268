import Mathlib.Data.List.Infix
import Signet.Actions.Messages

/-!
# The search for messages

A search goes through one conversation or all that a client has, and collects the messages
whose text has the query in it, without regard to case, until there are enough.  A caller
with a credential finds messages in its own chats; the admin names a conversation and has
an elevation for it.
-/

namespace Signet
namespace Actions

open Kit Schemas
open Signet.Sessions

variable (world : ActionWorld)

def authorizeAdminSearchAccess (ctx : HandlerContext) (chatId : Option String) :
    Except SignetError Unit :=
  match present ctx.credentialId, ctx.adminReadElevation, ctx.adminAuth with
  | some _, _, _ => .ok ()
  | none, none, none => .ok ()
  | none, elevation, _ =>
    match present chatId, elevation with
    | none, _ =>
      .error (PermissionError.create "Admin message search requires a specific conversation"
        (some [("hint", .text "--chat")]))
    | some chatId, some elevation => authorizeAdminReadElevation world elevation chatId
    | some chatId, none =>
      .error (PermissionError.create "Admin message search requires owner-approved elevation"
        (some [("chatId", .text chatId), ("hint", .text "--dangerously-allow-message-read")]))

/-! ## Parameters -/

structure SearchInput where
  query : String
  chatId : Option String
  limit : Option Int
  identityLabel : Option String
deriving DecidableEq

/-- `z.string().min(1)` -/
def nonEmptyStringField (params : AssocMap String Json) (field : String) :
    Except InputIssue String := do
  let value ← stringField params field
  if value = "" then throw ⟨field, "String must contain at least 1 character(s)"⟩
  return value

/-- `z.number().int().positive().optional()` -/
def positiveField (params : AssocMap String Json) (field : String) :
    Except InputIssue (Option Int) :=
  match params.get field with
  | none => .ok none
  | some (.number value) =>
    if 0 < value then .ok (some value) else .error ⟨field, "Number must be greater than 0"⟩
  | other => .error (invalidType field "number" other)

def SearchInput.parse (params : AssocMap String Json) : Except InputIssue SearchInput := do
  let query ← nonEmptyStringField params "query"
  let chatId ← optionalStringField params "chatId"
  let limit ← positiveField params "limit"
  let identityLabel ← optionalStringField params "identityLabel"
  return ⟨query, chatId, limit, identityLabel⟩

/-! ## The search -/

inductive SearchScope where
  | everywhere
  | groups (groupIds : List String)
  /-- The caller finds nothing. -/
  | nowhere
deriving DecidableEq

/-- The groups a caller can search. -/
def searchScope (ctx : HandlerContext) : SearchScope :=
  match present ctx.credentialId with
  | none => .everywhere
  | some credentialId =>
    match world.credentialLookup with
    | none => .nowhere
    | some credentialLookup =>
      match credentialLookup credentialId with
      | .error _ => .nowhere
      | .ok credential =>
        if .readMessages ∉ resolveEffectiveScopes credential.config then .nowhere
        else .groups (scopedGroupIds world.idMappings credential.config)

/-- A group is among those a search keeps to. -/
def SearchScope.covers (scope : SearchScope) (groupId : String) : Bool :=
  match scope with
  | .everywhere => true
  | .groups groupIds => decide (groupId ∈ groupIds)
  | .nowhere => false

structure FoundMessage where
  chatId : String
  message : DecodedMessage
deriving DecidableEq

structure MessageSearchHit where
  chatId : String
  messageId : String
  senderInboxId : String
  content : Json
  sentAt : String
deriving DecidableEq

def FoundMessage.hit (found : FoundMessage) : MessageSearchHit where
  chatId := found.chatId
  messageId := found.message.messageId
  senderInboxId := found.message.senderInboxId
  content := found.message.content
  sentAt := found.message.sentAt

/-- A text has the query in it, without regard to case. -/
def matchesQuery (query : String) (content : Json) : Bool :=
  match content with
  | .string text =>
    decide ((world.toLowerCase query).toList <:+: (world.toLowerCase text).toList)
  | _ => false

def collectMessages (query chatId : String) (maxResults : Nat) :
    List DecodedMessage → List FoundMessage → List FoundMessage
  | [], found => found
  | message :: rest, found =>
    if maxResults ≤ found.length then found
    else if matchesQuery world query message.content then
      collectMessages query chatId maxResults rest (found ++ [⟨chatId, message⟩])
    else collectMessages query chatId maxResults rest found

/-- `MESSAGES_PER_CONVERSATION` -/
def conversationOptions : ListMessagesOptions := { limit := some 100 }

def shownChatId (groupId : String) : String :=
  ((world.idMappings.bind fun store => store.getLocal groupId)).getD groupId

/-- Collect the messages of all conversations until there are enough; a conversation that
cannot be listed is left out. -/
def collectGroups (client : ActionClient) (scope : SearchScope) (query : String)
    (maxResults : Nat) : List GroupInfo → List FoundMessage → List FoundMessage
  | [], found => found
  | group :: rest, found =>
    if maxResults ≤ found.length then found
    else if ¬ scope.covers group.groupId then
      collectGroups client scope query maxResults rest found
    else
      match client.listMessages group.groupId conversationOptions with
      | .error _ => collectGroups client scope query maxResults rest found
      | .ok messages =>
        collectGroups client scope query maxResults rest
          (collectMessages world query (shownChatId world group.groupId) maxResults messages
            found)

def findMessages (client : ActionClient) (scope : SearchScope) (input : SearchInput) :
    Except SignetError (List FoundMessage) :=
  let maxResults := (input.limit.getD 20).toNat
  match present input.chatId with
  | some chatId =>
    let groupId := resolveGroupId world.idMappings chatId
    if ¬ scope.covers groupId then .ok []
    else
      match client.listMessages groupId conversationOptions with
      | .error error => .error error
      | .ok messages => .ok (collectMessages world input.query chatId maxResults messages [])
  | none =>
    match client.listGroups with
    | .error error => .error error
    | .ok groups => .ok (collectGroups world client scope input.query maxResults groups [])

/-- The messages `search.messages` finds. -/
def searchFound (ctx : HandlerContext) (input : SearchInput) :
    Except SignetError (List FoundMessage) :=
  match authorizeAdminSearchAccess world ctx input.chatId with
  | .error error => .error error
  | .ok () =>
    match searchScope world ctx with
    | .nowhere => .ok []
    | scope =>
      match managedClientFor world input.identityLabel with
      | .error error => .error error
      | .ok managed => findMessages world managed.client scope input

/-- What `search.messages` answers. -/
structure SearchOutput where
  query : String
  hits : List MessageSearchHit
  total : Nat
deriving DecidableEq

/-- `search.messages` -/
def searchMessages (ctx : HandlerContext) (input : SearchInput) :
    Except SignetError SearchOutput :=
  (searchFound world ctx input).map fun found =>
    ⟨input.query, found.map FoundMessage.hit, found.length⟩

/-! ## What is found -/

variable {found : List FoundMessage} {hit : FoundMessage}

theorem mem_collectMessages {query chatId : String} {maxResults : Nat}
    {messages : List DecodedMessage}
    (h : hit ∈ collectMessages world query chatId maxResults messages found) :
    hit ∈ found ∨ hit.message ∈ messages := by
  induction messages generalizing found with
  | nil => exact Or.inl h
  | cons message rest ih =>
    unfold collectMessages at h
    split at h
    · exact Or.inl h
    · split at h
      · rcases ih h with hFound | hRest
        · rw [List.mem_append, List.mem_singleton] at hFound
          rcases hFound with hEarlier | rfl
          · exact Or.inl hEarlier
          · exact Or.inr List.mem_cons_self
        · exact Or.inr (List.mem_cons_of_mem _ hRest)
      · rcases ih h with hFound | hRest
        · exact Or.inl hFound
        · exact Or.inr (List.mem_cons_of_mem _ hRest)

/-- A message that is collected from the groups has been found before, or is listed for a
group the search keeps to. -/
theorem mem_collectGroups {client : ActionClient} {scope : SearchScope} {query : String}
    {maxResults : Nat} {groups : List GroupInfo}
    (h : hit ∈ collectGroups world client scope query maxResults groups found) :
    hit ∈ found ∨ ∃ groupId messages, scope.covers groupId = true ∧
      client.listMessages groupId conversationOptions = .ok messages ∧
      hit.message ∈ messages := by
  induction groups generalizing found with
  | nil => exact Or.inl h
  | cons group rest ih =>
    unfold collectGroups at h
    split at h
    · exact Or.inl h
    · split at h
      · exact ih h
      · next hCovered =>
        split at h
        · exact ih h
        · next messages hListed =>
          rcases ih h with hFound | hRest
          · rcases mem_collectMessages world hFound with hEarlier | hHere
            · exact Or.inl hEarlier
            · exact Or.inr ⟨group.groupId, messages, not_not.mp hCovered, hListed, hHere⟩
          · exact Or.inr hRest

theorem mem_findMessages {client : ActionClient} {scope : SearchScope} {input : SearchInput}
    (hFind : findMessages world client scope input = .ok found) (hHit : hit ∈ found) :
    ∃ groupId messages, scope.covers groupId = true ∧
      client.listMessages groupId conversationOptions = .ok messages ∧
      hit.message ∈ messages ∧
      ∀ chatId, present input.chatId = some chatId →
        groupId = resolveGroupId world.idMappings chatId := by
  unfold findMessages at hFind
  dsimp only at hFind
  split at hFind
  · next chatId hChat =>
    split at hFind
    · cases hFind
      cases hHit
    · next hCovered =>
      split at hFind
      · cases hFind
      · next messages hListed =>
        cases hFind
        rcases mem_collectMessages world hHit with hNone | hHere
        · cases hNone
        · refine ⟨_, messages, not_not.mp hCovered, hListed, hHere, ?_⟩
          intro other hOther
          rw [hChat] at hOther
          cases hOther
          rfl
  · next hChat =>
    split at hFind
    · cases hFind
    · cases hFind
      rcases mem_collectGroups world hHit with hNone | ⟨groupId, messages, hCovered, hListed, hHere⟩
      · cases hNone
      · refine ⟨groupId, messages, hCovered, hListed, hHere, ?_⟩
        intro other hOther
        rw [hChat] at hOther
        cases hOther

/-- What a search finds comes from the client of the identity that is named, and from a
group the caller can search. -/
theorem mem_searchFound {ctx : HandlerContext} {input : SearchInput}
    (hSearch : searchFound world ctx input = .ok found) (hHit : hit ∈ found) :
    authorizeAdminSearchAccess world ctx input.chatId = .ok () ∧
      ∃ managed groupId messages,
        managedClientFor world input.identityLabel = .ok managed ∧
        (searchScope world ctx).covers groupId = true ∧
        managed.client.listMessages groupId conversationOptions = .ok messages ∧
        hit.message ∈ messages ∧
        ∀ chatId, present input.chatId = some chatId →
          groupId = resolveGroupId world.idMappings chatId := by
  unfold searchFound at hSearch
  split at hSearch
  · cases hSearch
  · next hAccess =>
    refine ⟨hAccess, ?_⟩
    split at hSearch
    · cases hSearch
      cases hHit
    · split at hSearch
      · cases hSearch
      · next managed hManaged =>
        obtain ⟨groupId, messages, hRest⟩ := mem_findMessages world hSearch hHit
        exact ⟨managed, groupId, messages, hManaged, hRest⟩

end Actions
end Signet
