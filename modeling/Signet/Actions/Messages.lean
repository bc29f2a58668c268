import Signet.Actions.Context

/-!
# The message actions

Messages are sent, replied to, reacted to and marked as read through the client of the
identity that is named.  Listing messages and looking one up first ask whether the caller
may read the conversation; the actions that write do not look at the caller.
-/

namespace Signet
namespace Actions

open Kit Schemas
open Signet.Sessions
open Signet.Cli (AdminReadElevation)

variable (world : ActionWorld)

/-! ## Who may read -/

def authorizeAdminReadElevation (elevation : AdminReadElevation) (chatId : String) :
    Except SignetError Unit :=
  if elevation.expiresAt ≤ world.now then
    .error (PermissionError.create "Admin read elevation has expired"
      (some [("approvalId", .text elevation.approvalId),
        ("expiresAt", .instant elevation.expiresAt)]))
  else if resolveGroupId world.idMappings chatId ∈
      elevation.scopeChatIds.map (resolveGroupId world.idMappings) then .ok ()
  else
    .error (PermissionError.create "Admin read elevation does not cover this conversation"
      (some [("approvalId", .text elevation.approvalId), ("chatId", .text chatId)]))

/-- An admin reads with an elevation; a credential is looked at later. -/
def authorizeAdminReadAccess (ctx : HandlerContext) (chatId : String) :
    Except SignetError Unit :=
  match present ctx.credentialId, ctx.adminReadElevation, ctx.adminAuth with
  | some _, _, _ => .ok ()
  | none, some elevation, _ => authorizeAdminReadElevation world elevation chatId
  | none, none, some _ =>
    .error (PermissionError.create "Admin message reads require owner-approved elevation"
      (some [("chatId", .text chatId), ("hint", .text "--dangerously-allow-message-read")]))
  | none, none, none => .ok ()

/-- A credential reads the chats it is scoped to, with the permission to read messages; every
refusal says the same. -/
def authorizeCredentialRead (ctx : HandlerContext) (chatId : String) (refusal : SignetError) :
    Except SignetError Unit :=
  match present ctx.credentialId with
  | none => .ok ()
  | some credentialId =>
    match world.credentialLookup with
    | none => .error refusal
    | some credentialLookup =>
      match credentialLookup credentialId with
      | .error _ => .error refusal
      | .ok credential =>
        if resolveGroupId world.idMappings chatId ∉
            scopedGroupIds world.idMappings credential.config then .error refusal
        else if .readMessages ∉ resolveEffectiveScopes credential.config then
          .error refusal
        else .ok ()

/-! ## Parameters -/

structure SendInput where
  chatId : String
  text : String
  identityLabel : Option String
deriving DecidableEq

structure ListInput where
  chatId : String
  limit : Option Int
  before : Option String
  after : Option String
  identityLabel : Option String
deriving DecidableEq

structure InfoInput where
  chatId : String
  messageId : String
  identityLabel : Option String
deriving DecidableEq

structure ReplyInput where
  chatId : String
  messageId : String
  text : String
  identityLabel : Option String
deriving DecidableEq

structure ReactInput where
  chatId : String
  messageId : String
  reaction : String
  identityLabel : Option String
deriving DecidableEq

structure ReadInput where
  chatId : String
  identityLabel : Option String
deriving DecidableEq

def SendInput.parse (params : AssocMap String Json) : Except InputIssue SendInput := do
  let chatId ← stringField params "chatId"
  let text ← stringField params "text"
  let identityLabel ← optionalStringField params "identityLabel"
  return ⟨chatId, text, identityLabel⟩

def ListInput.parse (params : AssocMap String Json) : Except InputIssue ListInput := do
  let chatId ← stringField params "chatId"
  let limit ← coercedNumberField world params "limit"
  let before ← optionalStringField params "before"
  let after ← optionalStringField params "after"
  let identityLabel ← optionalStringField params "identityLabel"
  return ⟨chatId, limit, before, after, identityLabel⟩

def InfoInput.parse (params : AssocMap String Json) : Except InputIssue InfoInput := do
  let chatId ← stringField params "chatId"
  let messageId ← stringField params "messageId"
  let identityLabel ← optionalStringField params "identityLabel"
  return ⟨chatId, messageId, identityLabel⟩

def ReplyInput.parse (params : AssocMap String Json) : Except InputIssue ReplyInput := do
  let chatId ← stringField params "chatId"
  let messageId ← stringField params "messageId"
  let text ← stringField params "text"
  let identityLabel ← optionalStringField params "identityLabel"
  return ⟨chatId, messageId, text, identityLabel⟩

def ReactInput.parse (params : AssocMap String Json) : Except InputIssue ReactInput := do
  let chatId ← stringField params "chatId"
  let messageId ← stringField params "messageId"
  let reaction ← stringField params "reaction"
  let identityLabel ← optionalStringField params "identityLabel"
  return ⟨chatId, messageId, reaction, identityLabel⟩

def ReadInput.parse (params : AssocMap String Json) : Except InputIssue ReadInput := do
  let chatId ← stringField params "chatId"
  let identityLabel ← optionalStringField params "identityLabel"
  return ⟨chatId, identityLabel⟩

/-! ## Handlers -/

/-- What an action answers. -/
inductive MessageOutput where
  | sent (messageId chatId : String)
  | listed (chatId : String) (messages : List DecodedMessage)
  | message (message : DecodedMessage)
  | replied (messageId chatId inReplyTo : String)
  | reacted (messageId chatId reactedTo : String)
  | markedRead (chatId : String)
deriving DecidableEq

/-- `message.send` -/
def send (input : SendInput) : Execution MessageOutput :=
  Execution.after (managedClientFor world input.identityLabel) fun managed =>
    Execution.perform managed.client
      (.sendMessage (resolveGroupId world.idMappings input.chatId) (.string input.text) none)
      fun messageId => .ok (.sent messageId input.chatId)

/-- `message.list` -/
def list (ctx : HandlerContext) (input : ListInput) : Execution MessageOutput :=
  Execution.after (authorizeAdminReadAccess world ctx input.chatId) fun _ =>
    Execution.after (authorizeCredentialRead world ctx input.chatId
        (NotFoundError.create "conversation" input.chatId)) fun _ =>
      Execution.after (managedClientFor world input.identityLabel) fun managed =>
        { result :=
            match managed.client.listMessages (resolveGroupId world.idMappings input.chatId)
                ⟨input.limit, input.before, input.after⟩ with
            | .error error => .error error
            | .ok messages => .ok (.listed input.chatId messages) }

/-- `message.info` -/
def info (ctx : HandlerContext) (input : InfoInput) : Execution MessageOutput :=
  let notFound := NotFoundError.create "message" input.messageId
  Execution.after (authorizeAdminReadAccess world ctx input.chatId) fun _ =>
    Execution.after (authorizeCredentialRead world ctx input.chatId notFound) fun _ =>
      Execution.after (managedClientFor world input.identityLabel) fun managed =>
        { result :=
            match managed.client.getMessageById
                (resolveMessageId world.idMappings input.messageId) with
            | .error error => .error error
            | .ok none => .error notFound
            | .ok (some message) =>
              if message.groupId ≠ resolveGroupId world.idMappings input.chatId then
                .error notFound
              else .ok (.message message) }

/-- The message that is replied or reacted to. -/
structure MessageReference where
  messageId : String
  senderInboxId : Option String
deriving DecidableEq

def resolveMessageReference (client : ActionClient) (chatId messageId : String) :
    Except SignetError MessageReference :=
  let resolvedMessageId := resolveMessageId world.idMappings messageId
  match client.getMessageById resolvedMessageId with
  | .error error => .error error
  | .ok none => .ok ⟨resolvedMessageId, none⟩
  | .ok (some message) =>
    if message.groupId ≠ resolveGroupId world.idMappings chatId then
      .error (NotFoundError.create "message" messageId)
    else .ok ⟨message.messageId, some message.senderInboxId⟩

def MessageReference.senderMember (reference : MessageReference) : List (String × Json) :=
  match present reference.senderInboxId with
  | none => []
  | some senderInboxId => [("referenceInboxId", .string senderInboxId)]

/-- `message.reply` -/
def reply (input : ReplyInput) : Execution MessageOutput :=
  Execution.after (managedClientFor world input.identityLabel) fun managed =>
    Execution.after (resolveMessageReference world managed.client input.chatId input.messageId)
      fun reference =>
        Execution.perform managed.client
          (.sendMessage (resolveGroupId world.idMappings input.chatId)
            (.object ([("text", .string input.text), ("reference", .string reference.messageId)]
              ++ reference.senderMember)) (some "reply"))
          fun messageId => .ok (.replied messageId input.chatId input.messageId)

/-- `message.react` -/
def react (input : ReactInput) : Execution MessageOutput :=
  Execution.after (managedClientFor world input.identityLabel) fun managed =>
    Execution.after (resolveMessageReference world managed.client input.chatId input.messageId)
      fun reference =>
        Execution.perform managed.client
          (.sendMessage (resolveGroupId world.idMappings input.chatId)
            (.object ([("reference", .string reference.messageId)] ++ reference.senderMember
              ++ [("action", .string "added"), ("content", .string input.reaction),
                ("schema", .string "unicode")])) (some "reaction"))
          fun messageId => .ok (.reacted messageId input.chatId input.messageId)

/-- `message.read` -/
def read (input : ReadInput) : Execution MessageOutput :=
  Execution.after (managedClientFor world input.identityLabel) fun managed =>
    Execution.perform managed.client
      (.sendMessage (resolveGroupId world.idMappings input.chatId) (.object [])
        (some "readReceipt"))
      fun _ => .ok (.markedRead input.chatId)

end Actions
end Signet
