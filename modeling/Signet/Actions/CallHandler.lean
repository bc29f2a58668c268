import Signet.Actions.Messages
import Signet.Actions.Conversations

/-!
# Calls of tools

A tool call names an action of the registry by its tool name.  Its arguments are validated
against the schema of the action, and the handler gets a context that holds the id of the
caller's credential and nothing else.

* `KnownAction` — the actions on messages and groups, each with its schema and handler.
* `handleCallTool` — one tool call, with what it makes clients do.
-/

namespace Signet
namespace Actions

open Kit Schemas
open Signet.Sessions

/-! ## Specs -/

inductive ActionOutput where
  | message (output : MessageOutput)
  | conversation (output : ConversationOutput)
  | other (output : Json)
deriving DecidableEq

/-- An action as it is registered; a tool may go by a name of its own. -/
structure ActionSpec where
  id : String
  /-- The MCP surface, where there is one, with the tool name it authors. -/
  mcp : Option (Option String)
  /-- The arguments are validated, and the handler is called. -/
  handle : AssocMap String Json → HandlerContext → Except InputIssue (Execution ActionOutput)

/-- The actions whose handlers read messages or have a client act on a group. -/
inductive KnownAction where
  | send
  | list
  | info
  | reply
  | react
  | read
  | addMember
  | update
  | updateProfile
  | leave
  | removeMember
  | promoteMember
  | demoteMember
deriving DecidableEq

def KnownAction.id : KnownAction → String
  | .send => "message.send"
  | .list => "message.list"
  | .info => "message.info"
  | .reply => "message.reply"
  | .react => "message.react"
  | .read => "message.read"
  | .addMember => "chat.add-member"
  | .update => "chat.update"
  | .updateProfile => "chat.update-profile"
  | .leave => "chat.leave"
  | .removeMember => "chat.remove-member"
  | .promoteMember => "chat.promote-member"
  | .demoteMember => "chat.demote-member"

def KnownAction.toolName : KnownAction → Option String
  | .send => some "message_send"
  | .list => some "message_list"
  | .info => some "message_info"
  | .reply => some "message_reply"
  | .react => some "message_react"
  | .read => some "message_read"
  | .addMember | .update | .updateProfile | .leave | .removeMember | .promoteMember
  | .demoteMember => none

variable (world : ActionWorld)

def KnownAction.handle (action : KnownAction) (params : AssocMap String Json)
    (ctx : HandlerContext) : Except InputIssue (Execution ActionOutput) :=
  match action with
  | .send => (SendInput.parse params).map fun input => (Actions.send world input).map .message
  | .list =>
    (ListInput.parse world params).map fun input => (Actions.list world ctx input).map .message
  | .info => (InfoInput.parse params).map fun input => (Actions.info world ctx input).map .message
  | .reply => (ReplyInput.parse params).map fun input => (Actions.reply world input).map .message
  | .react => (ReactInput.parse params).map fun input => (Actions.react world input).map .message
  | .read => (ReadInput.parse params).map fun input => (Actions.read world input).map .message
  | .addMember =>
    (MemberInput.parse params).map fun input => (Actions.addMember world input).map .conversation
  | .update =>
    (UpdateInput.parse params).map fun input => (Actions.update world input).map .conversation
  | .updateProfile =>
    (UpdateProfileInput.parse params).map fun input =>
      (Actions.updateProfile world input).map .conversation
  | .leave =>
    (LeaveInput.parse params).map fun input => (Actions.leave world input).map .conversation
  | .removeMember =>
    (MemberInput.parse params).map fun input =>
      (Actions.removeMember world input).map .conversation
  | .promoteMember =>
    (RoleInput.parse params).map fun input =>
      (Actions.promoteMember world input).map .conversation
  | .demoteMember =>
    (RoleInput.parse params).map fun input =>
      (Actions.demoteMember world input).map .conversation

/-! ## The registry -/

inductive RegisteredAction where
  | known (action : KnownAction)
  | other (spec : ActionSpec)

def RegisteredAction.spec : RegisteredAction → ActionSpec
  | .known action => ⟨action.id, some action.toolName, action.handle world⟩
  | .other spec => spec

structure ActionRegistry where
  actions : List RegisteredAction
  unique : (actions.map fun action => (action.spec world).id).Nodup

variable {world}

/-- The name of a tool; without one of its own it goes by its id. -/
def deriveMcpToolName (id : String) (toolName : Option String) : String :=
  toolName.getD ("signet/" ++ String.ofList (id.toList.map fun c => if c = '.' then '/' else c))

/-- `listForSurface` for tools, and the first action of a tool name. -/
def findSpecByToolName (registry : ActionRegistry world) (toolName : String) :
    Option RegisteredAction :=
  registry.actions.find? fun action =>
    match (action.spec world).mcp with
    | none => false
    | some authored => deriveMcpToolName (action.spec world).id authored = toolName

/-- The context of a tool call: no admin, no elevation. -/
def createHandlerContext (credentialId : String) : HandlerContext where
  credentialId := some credentialId

/-- One tool call. -/
def handleCallTool (registry : ActionRegistry world) (credential : CredentialRecord)
    (toolName : String) (params : AssocMap String Json) : Execution ActionOutput :=
  match findSpecByToolName registry toolName with
  | none => Execution.fail (NotFoundError.create "tool" toolName)
  | some action =>
    match (action.spec world).handle params (createHandlerContext credential.credentialId) with
    | .error issue => Execution.fail (ValidationError.create issue.field issue.reason)
    | .ok execution => execution

end Actions
end Signet
