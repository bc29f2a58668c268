import Signet.Actions.CallHandler
import Signet.Actions.Search
import Signet.Policy.Pipeline

/-!
# Reading and projecting

A credential sees messages in two ways: they are projected to it as they come, or it asks
for them.  Both look at its chats and at the permission to read messages.  The projection
also asks for the permission to read history; the handlers do not, nor do they look at the
status of the credential.

* `ReadRequest.returned` — the messages a request shows.
* `Projects` — the projection emits a message of the past.
-/

namespace Signet
namespace Actions

open Kit Schemas
open Signet.Sessions
open Signet.Policy (RawMessage projectMessage)

/-! ## What a request shows -/

inductive ReadRequest where
  | list (input : ListInput)
  | info (input : InfoInput)
  | search (input : SearchInput)
deriving DecidableEq

variable (world : ActionWorld) {message : DecodedMessage}

/-- The messages a request shows. -/
def ReadRequest.returned (ctx : HandlerContext) : ReadRequest → List DecodedMessage
  | .list input =>
    match (Actions.list world ctx input).result with
    | .ok (.listed _ messages) => messages
    | _ => []
  | .info input =>
    match (Actions.info world ctx input).result with
    | .ok (.message message) => [message]
    | _ => []
  | .search input =>
    match searchFound world ctx input with
    | .ok found => found.map FoundMessage.message
    | .error _ => []

/-- A client lists the messages of a group under the id of that group. -/
def ListsOwnMessages : Prop :=
  ∀ selector managed, managedClientFor world selector = .ok managed →
    ∀ groupId options messages, managed.client.listMessages groupId options = .ok messages →
      ∀ message ∈ messages, message.groupId = groupId

/-! ## What the projection emits -/

/-- A message as the pipeline gets it, from the past. -/
def historicalMessage (message : DecodedMessage) : RawMessage where
  messageId := message.messageId
  groupId := message.groupId
  senderInboxId := message.senderInboxId
  contentType := message.contentType
  content := message.content
  sentAt := message.sentAt
  threadId := message.threadId
  sealId := none
  isHistorical := true

def resolvedScopes (credential : CredentialRecord) : OrderedSet PermissionScope :=
  resolveScopeSet ⟨credential.config.allow.getD [], credential.config.deny.getD []⟩

/-- The pipeline emits a message of the past to a credential with a chat scope. -/
def Projects (credential : CredentialRecord) (chatScope : List String)
    (message : DecodedMessage) : Prop :=
  (projectMessage (historicalMessage message) (resolvedScopes credential) chatScope
    [message.contentType] false).isSome = true

/-- The credential is active, and the pipeline would emit the message. -/
def AgreesWithProjection (credential : CredentialRecord) (chatScope : List String)
    (message : DecodedMessage) : Prop :=
  credential.status = .active ∧ Projects credential chatScope message

theorem mem_resolvedScopes {credential : CredentialRecord} {scope : PermissionScope} :
    scope ∈ resolvedScopes credential ↔ scope ∈ resolveEffectiveScopes credential.config := by
  unfold resolvedScopes
  rw [mem_resolveScopeSet, mem_resolveEffectiveScopes]

theorem projects_iff {credential : CredentialRecord} {chatScope : List String} :
    Projects credential chatScope message ↔ message.groupId ∈ chatScope ∧
      .readMessages ∈ resolveEffectiveScopes credential.config ∧
      .readHistory ∈ resolveEffectiveScopes credential.config := by
  unfold Projects
  rw [Policy.projectMessage_isSome_iff, mem_resolvedScopes, mem_resolvedScopes]
  simp [historicalMessage]

/-! ## What the handlers have checked -/

variable {world} {ctx : HandlerContext} {credentialId : String} {credential : CredentialRecord}
  {output : MessageOutput}

/-- The record a lookup has answered with. -/
def LooksUp (world : ActionWorld) (credentialId : String) (credential : CredentialRecord) :
    Prop :=
  ∃ lookup, world.credentialLookup = some lookup ∧ lookup credentialId = .ok credential

section

variable (hCaller : present ctx.credentialId = some credentialId)
  (hLookup : LooksUp world credentialId credential)

include hCaller hLookup

theorem authorizeCredentialRead_ok {chatId : String} {refusal : SignetError}
    (h : authorizeCredentialRead world ctx chatId refusal = .ok ()) :
    resolveGroupId world.idMappings chatId ∈ scopedGroupIds world.idMappings credential.config ∧
      .readMessages ∈ resolveEffectiveScopes credential.config := by
  obtain ⟨lookup, hWired, hAnswer⟩ := hLookup
  unfold authorizeCredentialRead at h
  rw [hCaller, hWired] at h
  dsimp only at h
  rw [hAnswer] at h
  dsimp only at h
  split at h
  · cases h
  · next hScoped =>
    split at h
    · cases h
    · next hReads => exact ⟨not_not.mp hScoped, not_not.mp hReads⟩

theorem searchScope_covers {groupId : String} (h : (searchScope world ctx).covers groupId = true) :
    groupId ∈ scopedGroupIds world.idMappings credential.config ∧
      .readMessages ∈ resolveEffectiveScopes credential.config := by
  obtain ⟨lookup, hWired, hAnswer⟩ := hLookup
  unfold searchScope at h
  rw [hCaller, hWired] at h
  dsimp only at h
  rw [hAnswer] at h
  dsimp only at h
  split at h
  · simp [SearchScope.covers] at h
  · next hReads => exact ⟨by simpa [SearchScope.covers] using h, not_not.mp hReads⟩

end

/-- A handler that has gone on after a lookup. -/
theorem result_after {α β : Type} {found : Except SignetError α} {next : α → Execution β}
    {answer : β} (h : (Execution.after found next).result = .ok answer) :
    ∃ value, found = .ok value ∧ (next value).result = .ok answer := by
  cases found with
  | error error => cases h
  | ok value => exact ⟨value, rfl, h⟩

/-- What a listing has gone through. -/
theorem list_ok {input : ListInput} (h : (list world ctx input).result = .ok output) :
    authorizeAdminReadAccess world ctx input.chatId = .ok () ∧
      authorizeCredentialRead world ctx input.chatId
        (NotFoundError.create "conversation" input.chatId) = .ok () ∧
      ∃ managed messages, managedClientFor world input.identityLabel = .ok managed ∧
        managed.client.listMessages (resolveGroupId world.idMappings input.chatId)
          ⟨input.limit, input.before, input.after⟩ = .ok messages ∧
        output = .listed input.chatId messages := by
  unfold list at h
  obtain ⟨⟨⟩, hAdmin, h⟩ := result_after h
  obtain ⟨⟨⟩, hRead, h⟩ := result_after h
  obtain ⟨managed, hManaged, h⟩ := result_after h
  dsimp only at h
  split at h
  · cases h
  · next messages hListed =>
    cases h
    exact ⟨hAdmin, hRead, managed, messages, hManaged, hListed, rfl⟩

/-- What a look at one message has gone through. -/
theorem info_ok {input : InfoInput} (h : (info world ctx input).result = .ok output) :
    authorizeAdminReadAccess world ctx input.chatId = .ok () ∧
      authorizeCredentialRead world ctx input.chatId
        (NotFoundError.create "message" input.messageId) = .ok () ∧
      ∃ message, output = .message message ∧
        message.groupId = resolveGroupId world.idMappings input.chatId := by
  unfold info at h
  obtain ⟨⟨⟩, hAdmin, h⟩ := result_after h
  obtain ⟨⟨⟩, hRead, h⟩ := result_after h
  obtain ⟨managed, hManaged, h⟩ := result_after h
  dsimp only at h
  refine ⟨hAdmin, hRead, ?_⟩
  split at h
  · cases h
  · cases h
  · next message hFound =>
    split at h
    · cases h
    · next hGroup =>
      cases h
      exact ⟨message, rfl, not_not.mp hGroup⟩

/-- The group of a message that a request shows to a credential is one it is scoped to, and
it may read messages. -/
theorem returned_in_scope {request : ReadRequest} (hLists : ListsOwnMessages world)
    (hCaller : present ctx.credentialId = some credentialId)
    (hLookup : LooksUp world credentialId credential)
    (hReturned : message ∈ request.returned world ctx) :
    message.groupId ∈ scopedGroupIds world.idMappings credential.config ∧
      .readMessages ∈ resolveEffectiveScopes credential.config := by
  cases request with
  | list input =>
    unfold ReadRequest.returned at hReturned
    dsimp only at hReturned
    split at hReturned
    · next chatId messages hResult =>
      obtain ⟨-, hRead, managed, listed, hManaged, hListed, hOutput⟩ := list_ok hResult
      cases hOutput
      rw [hLists _ _ hManaged _ _ _ hListed message hReturned]
      exact authorizeCredentialRead_ok hCaller hLookup hRead
    · cases hReturned
  | info input =>
    unfold ReadRequest.returned at hReturned
    dsimp only at hReturned
    split at hReturned
    · next found hResult =>
      obtain ⟨-, hRead, other, hOutput, hGroup⟩ := info_ok hResult
      cases hOutput
      rw [List.mem_singleton.mp hReturned, hGroup]
      exact authorizeCredentialRead_ok hCaller hLookup hRead
    · cases hReturned
  | search input =>
    unfold ReadRequest.returned at hReturned
    dsimp only at hReturned
    split at hReturned
    · next found hResult =>
      obtain ⟨hit, hHit, rfl⟩ := List.mem_map.mp hReturned
      obtain ⟨-, managed, groupId, messages, hManaged, hCovered, hListed, hMember, -⟩ :=
        mem_searchFound world hResult hHit
      rw [hLists _ _ hManaged _ _ _ hListed hit.message hMember]
      exact searchScope_covers hCaller hLookup hCovered
    · cases hReturned

/-- **A message that a request shows to a credential is one that the projection would emit
exactly when the credential is active and may read history**, and, where the projection is
given the chats of the credential as they are, the group is among them under its own id. -/
theorem returned_agrees_iff {request : ReadRequest} {message : DecodedMessage}
    (hLists : ListsOwnMessages world) (hCaller : present ctx.credentialId = some credentialId)
    (hLookup : LooksUp world credentialId credential)
    (hReturned : message ∈ request.returned world ctx) :
    (AgreesWithProjection credential (scopedGroupIds world.idMappings credential.config)
        message ↔
      credential.status = .active ∧
        .readHistory ∈ resolveEffectiveScopes credential.config) ∧
    (AgreesWithProjection credential credential.config.chatIds message ↔
      credential.status = .active ∧ .readHistory ∈ resolveEffectiveScopes credential.config ∧
        message.groupId ∈ credential.config.chatIds) := by
  obtain ⟨hScoped, hReads⟩ := returned_in_scope hLists hCaller hLookup hReturned
  unfold AgreesWithProjection
  rw [projects_iff, projects_iff]
  constructor
  · constructor
    · rintro ⟨hActive, -, -, hHistory⟩
      exact ⟨hActive, hHistory⟩
    · rintro ⟨hActive, hHistory⟩
      exact ⟨hActive, hScoped, hReads, hHistory⟩
  · constructor
    · rintro ⟨hActive, hGroup, -, hHistory⟩
      exact ⟨hActive, hHistory, hGroup⟩
    · rintro ⟨hActive, hHistory, hGroup⟩
      exact ⟨hActive, hGroup, hReads, hHistory⟩

/-! ## A message of the past -/

def pastMessage : DecodedMessage :=
  ⟨"msg_1", "group_a", "inbox_2", "xmtp.org/text:1.0", .string "hello", "2026-01-01", none⟩

def oneMessageClient : ActionClient where
  perform := fun _ => .ok "msg_2"
  getMessageById := fun _ => .ok (some pastMessage)
  listMessages := fun groupId _ => .ok (if groupId = "group_a" then [pastMessage] else [])
  listGroups := .ok [⟨"group_a", "", "", none, [], ""⟩]

def chatCredential (allow : List PermissionScope) : CredentialRecord where
  id := "cred_1"
  config := { operatorId := "op_1", chatIds := ["group_a"], allow := some allow }
  inboxIds := []
  status := .active
  issuedAt := 0
  expiresAt := 1000
  issuedBy := "owner"
  credentialId := "cred_1"
  operatorId := "op_1"
  effectiveScopes := ⟨allow, []⟩
  isExpired := false
  lastHeartbeat := 0

/-- A signet with one identity, one group and one credential. -/
def oneMessageWorld (allow : List PermissionScope) : ActionWorld where
  idMappings := none
  identityStore := ⟨fun _ => none, fun _ => none, [⟨"identity_1", some "inbox_1"⟩]⟩
  getManagedClient := fun _ => some ⟨"inbox_1", oneMessageClient⟩
  getManagedClientForGroup := none
  getGroupInfo := fun groupId => .ok ⟨groupId, "", "", none, [], ""⟩
  operatorManager := none
  encodeProfileUpdate := .string
  cleanupLocalState := none
  credentialLookup := some fun _ => .ok (chatCredential allow)
  now := 0
  toLowerCase := id
  toNumber := fun _ => none

def listChat : ReadRequest := .list ⟨"group_a", none, none, none, none⟩

def credentialCaller : HandlerContext := { credentialId := some "cred_1" }

theorem oneMessageWorld_listsOwn (allow : List PermissionScope) :
    ListsOwnMessages (oneMessageWorld allow) := by
  intro selector managed hManaged groupId options messages hListed message hMessage
  have hClient : managed.client = oneMessageClient := by
    unfold managedClientFor at hManaged
    split at hManaged
    · cases hManaged
    · cases hManaged
      rfl
  rw [hClient] at hListed
  cases hListed
  split at hMessage
  · next hGroup =>
    rw [List.mem_singleton.mp hMessage, hGroup]
    rfl
  · cases hMessage

theorem oneMessageWorld_looksUp (allow : List PermissionScope) :
    LooksUp (oneMessageWorld allow) "cred_1" (chatCredential allow) :=
  ⟨_, rfl, rfl⟩

/-- A credential that may read history is shown what the projection emits to it. -/
theorem history_reader_agrees :
    AgreesWithProjection (chatCredential [.readMessages, .readHistory]) ["group_a"]
      pastMessage := by
  have hReturned : pastMessage ∈ listChat.returned
      (oneMessageWorld [.readMessages, .readHistory]) credentialCaller := by decide
  have hAgrees := returned_agrees_iff (oneMessageWorld_listsOwn [.readMessages, .readHistory])
    rfl (oneMessageWorld_looksUp [.readMessages, .readHistory]) hReturned
  exact hAgrees.2.mpr ⟨rfl, by decide, by decide⟩

/-- A credential without the permission to read history is shown a message of the past that
the projection drops. -/
theorem past_shown_without_history :
    pastMessage ∈ listChat.returned (oneMessageWorld [.readMessages]) credentialCaller ∧
      LooksUp (oneMessageWorld [.readMessages]) "cred_1" (chatCredential [.readMessages]) ∧
      ¬ AgreesWithProjection (chatCredential [.readMessages]) ["group_a"] pastMessage := by
  refine ⟨by decide, oneMessageWorld_looksUp [.readMessages], ?_⟩
  rintro ⟨-, hProjects⟩
  have hHistory := (projects_iff.mp hProjects).2.2
  exact absurd hHistory (by decide)

end Actions
end Signet
