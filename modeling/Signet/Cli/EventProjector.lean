import Signet.Policy.Pipeline
import Signet.Sessions.Service

/-!
# The event projector

The projector the runtime hands to the websocket server.  Message events go
through the projection pipeline with the scopes and chats of a credential
record and the reveal state of the moment; every other event passes.

* `ProjectorWorld` — what the projector reads at the moment of a broadcast.
* `createEventProjector` — the projector.
* `namedChats` — the chats an event names.
-/

namespace Signet
namespace Cli

open Kit Schemas Policy Sessions

/-- What the projector reads when it is called: the clock, the reveal states, and
the answers of the chat resolver where one is wired. -/
structure ProjectorWorld where
  now : Int
  getRevealState : String → Option RevealStateStore
  getChatIds : Option (String → List String) := none

variable (parseDate : String → Option Int)

def isRevealedTo (world : ProjectorWorld) (event : MessageEvent)
    (credential : CredentialRecord) : Bool :=
  match world.getRevealState credential.credentialId with
  | none => false
  | some store =>
    store.isRevealed parseDate world.now event.messageId event.groupId event.threadId
      event.senderInboxId event.contentType event.sentAt

/-- The chats in effect: those of the resolver, unless it has none, and otherwise
those of the record. -/
def chatsInEffect (world : ProjectorWorld) (credential : CredentialRecord) : List String :=
  let resolvedChatIds :=
    match world.getChatIds with
    | some getChatIds => getChatIds credential.credentialId
    | none => credential.config.chatIds
  if resolvedChatIds.length > 0 then resolvedChatIds else credential.config.chatIds

def rawMessage (event : MessageEvent) : RawMessage where
  messageId := event.messageId
  groupId := event.groupId
  senderInboxId := event.senderInboxId
  contentType := event.contentType
  content := event.content
  sentAt := event.sentAt
  sealId := event.sealId
  threadId := event.threadId
  isHistorical := decide (event.visibility = .historical)

/-- `createEventProjector` -/
def createEventProjector (world : ProjectorWorld) (event : SignetEvent)
    (credential : CredentialRecord) : Option SignetEvent :=
  match event with
  | .messageVisible message =>
    (projectMessage (rawMessage message) (resolveScopeSet credential.effectiveScopes)
      (chatsInEffect world credential) [message.contentType]
      (isRevealedTo parseDate world message credential)).map SignetEvent.messageVisible
  | event => some event

/-! ## The chats of an event -/

/-- The chats an event names, in its own fields and in nested payloads. -/
def namedChats : SignetEvent → List String
  | .messageVisible event => [event.groupId]
  | .messageRevealed event => [event.groupId]
  | .sealStamped envelope =>
    envelope.chain.current.chatId :: (envelope.chain.previous.map SealPayload.chatId).toList
  | .agentRevoked revocation => [revocation.chatId]
  | _ => []

theorem projectMessage_groupId {message : RawMessage} {scopes : OrderedSet PermissionScope}
    {chatIds effectiveAllowlist : List String} {isRevealed : Bool} {event : MessageEvent}
    (h : projectMessage message scopes chatIds effectiveAllowlist isRevealed = some event) :
    event.groupId = message.groupId := by
  unfold projectMessage at h
  split at h
  · cases h
  · split at h
    · cases h
    · simp only at h
      split at h
      · cases h
      · split at h
        · cases h
        · cases h
          rfl

variable {credential : CredentialRecord} {world : ProjectorWorld} {event : SignetEvent}

theorem createEventProjector_message {message : MessageEvent} {projected : SignetEvent}
    (h : createEventProjector parseDate world (.messageVisible message) credential =
      some projected) :
    ∃ shown, projected = .messageVisible shown ∧ shown.groupId = message.groupId ∧
      shown.groupId ∈ chatsInEffect world credential := by
  unfold createEventProjector at h
  simp only [Option.map_eq_some_iff] at h
  obtain ⟨shown, hShown, rfl⟩ := h
  have hGroup := projectMessage_groupId hShown
  have hChat := (projectMessage_authorized hShown).1
  exact ⟨shown, rfl, hGroup, by rw [hGroup]; exact hChat⟩

theorem createEventProjector_other (h : ∀ message, event ≠ .messageVisible message) :
    createEventProjector parseDate world event credential = some event := by
  unfold createEventProjector
  split
  · next message => exact absurd rfl (h message)
  · rfl

theorem createEventProjector_source {shown : MessageEvent}
    (h : createEventProjector parseDate world event credential = some (.messageVisible shown)) :
    ∃ message, event = .messageVisible message := by
  by_contra hNone
  have hOther : ∀ message, event ≠ .messageVisible message := fun message hEq =>
    hNone ⟨message, hEq⟩
  rw [createEventProjector_other parseDate hOther, Option.some.injEq] at h
  exact hOther shown h

/-- Without a resolver, or with one that narrows, the chats in effect are chats
of the record. -/
theorem chatsInEffect_subset (hNarrow : ∀ getChatIds, world.getChatIds = some getChatIds →
      getChatIds credential.credentialId ⊆ credential.config.chatIds) :
    chatsInEffect world credential ⊆ credential.config.chatIds := by
  unfold chatsInEffect
  cases hResolver : world.getChatIds with
  | none =>
    dsimp only
    split <;> exact List.Subset.refl _
  | some getChatIds =>
    dsimp only
    split
    · exact hNarrow getChatIds hResolver
    · exact List.Subset.refl _

/-- The projection depends on the record and the world through the scopes, the
chats in effect and the reveal answer only. -/
theorem createEventProjector_congr {world' : ProjectorWorld} {credential' : CredentialRecord}
    (hScopes : credential'.effectiveScopes = credential.effectiveScopes)
    (hChats : chatsInEffect world' credential' = chatsInEffect world credential)
    (hReveals : ∀ message, event = .messageVisible message →
      isRevealedTo parseDate world' message credential' =
        isRevealedTo parseDate world message credential) :
    createEventProjector parseDate world' event credential' =
      createEventProjector parseDate world event credential := by
  unfold createEventProjector
  split
  · next message => rw [hScopes, hChats, hReveals message rfl]
  · rfl

end Cli
end Signet
