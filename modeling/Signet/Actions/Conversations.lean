import Signet.Actions.Context

/-!
# The conversation actions that change a group

Members are added, removed, promoted and demoted, metadata and profiles are updated, and a
group is left through the client of the identity that is named, or the one responsible for
the group.  None of these handlers looks at the caller.
-/

namespace Signet
namespace Actions

open Kit Schemas
open Signet.Sessions

variable (world : ActionWorld)

/-! ## Parameters -/

structure MemberInput where
  chatId : String
  inboxId : String
  identityLabel : Option String
deriving DecidableEq

structure RoleInput where
  chatId : String
  inboxId : String
deriving DecidableEq

structure UpdateInput where
  chatId : String
  changes : MetadataChanges
deriving DecidableEq

structure UpdateProfileInput where
  chatId : String
  identityLabel : Option String
  operatorId : Option String
  profileName : Option String
deriving DecidableEq

structure LeaveInput where
  chatId : String
  purge : Option Bool
deriving DecidableEq

def MemberInput.parse (params : AssocMap String Json) : Except InputIssue MemberInput := do
  let chatId ← stringField params "chatId"
  let inboxId ← stringField params "inboxId"
  let identityLabel ← optionalStringField params "identityLabel"
  return ⟨chatId, inboxId, identityLabel⟩

def RoleInput.parse (params : AssocMap String Json) : Except InputIssue RoleInput := do
  let chatId ← stringField params "chatId"
  let inboxId ← stringField params "inboxId"
  return ⟨chatId, inboxId⟩

def UpdateInput.parse (params : AssocMap String Json) : Except InputIssue UpdateInput := do
  let chatId ← stringField params "chatId"
  let name ← optionalStringField params "name"
  let description ← optionalStringField params "description"
  let imageUrl ← optionalStringField params "imageUrl"
  if name.isNone ∧ description.isNone ∧ imageUrl.isNone then
    throw ⟨"chatId", "At least one metadata field must be provided"⟩
  return ⟨chatId, name, description, imageUrl⟩

def UpdateProfileInput.parse (params : AssocMap String Json) :
    Except InputIssue UpdateProfileInput := do
  let chatId ← stringField params "chatId"
  let identityLabel ← optionalStringField params "identityLabel"
  let operatorId ← optionalStringField params "operatorId"
  let profileName ← optionalStringField params "profileName"
  if profileName.isNone ∧ operatorId.isNone then
    throw ⟨"chatId", "Provide a profile name or operator ID"⟩
  return ⟨chatId, identityLabel, operatorId, profileName⟩

def LeaveInput.parse (params : AssocMap String Json) : Except InputIssue LeaveInput := do
  let chatId ← stringField params "chatId"
  let purge ← optionalBooleanField params "purge"
  return ⟨chatId, purge⟩

/-! ## Profiles -/

def profileUpdateContentType : String := "convos.org/profile_update:1.0"

inductive ProfileSource where
  | explicit
  | operatorDefault
deriving DecidableEq

structure ProfileSelection where
  profileName : String
  profileSource : ProfileSource
deriving DecidableEq

def resolveProfileSelection (input : UpdateProfileInput) :
    Except SignetError (Option ProfileSelection) :=
  match input.profileName, input.operatorId, world.operatorManager with
  | some profileName, _, _ => .ok (some ⟨profileName, .explicit⟩)
  | none, none, _ => .ok none
  | none, some _, none =>
    .error (InternalError.create
      "OperatorManager not initialized before resolving profile defaults")
  | none, some operatorId, some lookup =>
    match lookup operatorId with
    | .error error => .error error
    | .ok label => .ok (some ⟨label, .operatorDefault⟩)

def requiredProfile (input : UpdateProfileInput) : Except SignetError ProfileSelection :=
  match resolveProfileSelection world input with
  | .error error => .error error
  | .ok none =>
    .error (ValidationError.create "profileName"
      "A profile name or operator default is required")
  | .ok (some selection) => .ok selection

/-! ## Handlers -/

inductive MemberRole where
  | admin
  | member
deriving DecidableEq

/-- What an action answers. -/
inductive ConversationOutput where
  | membership (chatId groupId : String) (memberCount : Nat)
  | updated (chatId : String) (group : GroupInfo)
  | profile (chatId groupId : String) (selection : ProfileSelection)
  | left (chatId groupId : String) (cleanup : Option CleanupResult)
  | role (chatId groupId inboxId : String) (role : MemberRole)
deriving DecidableEq

def actOnGroup (chatId : String) (identityLabel : Option String)
    (act : String → ManagedClient → Execution ConversationOutput) :
    Execution ConversationOutput :=
  let groupId := resolveGroupId world.idMappings chatId
  Execution.after (resolveManagedClientForGroup world groupId identityLabel) (act groupId)

def afterChange (groupId : String) (answer : GroupInfo → ConversationOutput) :
    Except SignetError ConversationOutput :=
  match world.getGroupInfo groupId with
  | .error error => .error error
  | .ok group => .ok (answer group)

/-- `chat.add-member` -/
def addMember (input : MemberInput) : Execution ConversationOutput :=
  actOnGroup world input.chatId input.identityLabel fun groupId managed =>
    Execution.perform managed.client (.addMembers groupId [input.inboxId]) fun _ =>
      afterChange world groupId fun group =>
        .membership input.chatId groupId group.memberInboxIds.length

/-- `chat.update` -/
def update (input : UpdateInput) : Execution ConversationOutput :=
  actOnGroup world input.chatId none fun groupId managed =>
    Execution.perform managed.client (.updateGroupMetadata groupId input.changes) fun _ =>
      afterChange world groupId (.updated input.chatId)

/-- `chat.update-profile` -/
def updateProfile (input : UpdateProfileInput) : Execution ConversationOutput :=
  actOnGroup world input.chatId input.identityLabel fun groupId managed =>
    Execution.after (requiredProfile world input) fun selection =>
      Execution.perform managed.client
        (.sendMessage groupId (world.encodeProfileUpdate selection.profileName)
          (some profileUpdateContentType))
        fun _ => .ok (.profile input.chatId groupId selection)

/-- `runLocalCleanup`, executed -/
def runLocalCleanup (chatId groupId : String) : Except SignetError CleanupResult :=
  match world.cleanupLocalState with
  | none => .ok ⟨true, []⟩
  | some cleanup => cleanup chatId groupId true

/-- `chat.leave` -/
def leave (input : LeaveInput) : Execution ConversationOutput :=
  actOnGroup world input.chatId none fun groupId managed =>
    Execution.perform managed.client (.leaveGroup groupId) fun _ =>
      if input.purge = some true then
        match runLocalCleanup world input.chatId groupId with
        | .error error => .error error
        | .ok cleanup => .ok (.left input.chatId groupId (some cleanup))
      else .ok (.left input.chatId groupId none)

/-- `chat.remove-member` -/
def removeMember (input : MemberInput) : Execution ConversationOutput :=
  actOnGroup world input.chatId input.identityLabel fun groupId managed =>
    Execution.perform managed.client (.removeMembers groupId [input.inboxId]) fun _ =>
      afterChange world groupId fun group =>
        .membership input.chatId groupId group.memberInboxIds.length

/-- `chat.promote-member` -/
def promoteMember (input : RoleInput) : Execution ConversationOutput :=
  actOnGroup world input.chatId none fun groupId managed =>
    Execution.perform managed.client (.addAdmin groupId input.inboxId) fun _ =>
      .ok (.role input.chatId groupId input.inboxId .admin)

/-- `chat.demote-member` -/
def demoteMember (input : RoleInput) : Execution ConversationOutput :=
  actOnGroup world input.chatId none fun groupId managed =>
    Execution.perform managed.client (.removeAdmin groupId input.inboxId) fun _ =>
      .ok (.role input.chatId groupId input.inboxId .member)

end Actions
end Signet
