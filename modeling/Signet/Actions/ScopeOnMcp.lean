import Signet.Actions.CallHandler

/-!
# What a credential can do through tools

A tool call comes with a credential that is scoped to chats and permissions.  The handlers
that write have no look at it: a call does what its arguments say, to any group a client of
the signet is in.

* `PermittedOn` — a group and permissions within what a credential is scoped to.
* `StaysInScope` — everything a tool call does is.
* `Permits` — what has to hold of the arguments for that.
-/

namespace Signet
namespace Actions

open Kit Schemas
open Signet.Sessions

/-! ## Scope -/

def MetadataChanges.permissions (changes : MetadataChanges) : List PermissionScope :=
  (if changes.name.isSome then [.updateName] else [])
    ++ (if changes.description.isSome then [.updateDescription] else [])
    ++ (if changes.imageUrl.isSome then [.updateImage] else [])

def GroupCall.groupId : GroupCall → String
  | .sendMessage groupId _ _ | .addMembers groupId _ | .removeMembers groupId _
  | .addAdmin groupId _ | .removeAdmin groupId _ | .updateGroupMetadata groupId _
  | .leaveGroup groupId => groupId

/-- The permissions for a message, a reply, a reaction, a member that is added, removed or
promoted, a change of metadata and for leaving; none are asked for by what is left. -/
def GroupCall.permissions : GroupCall → List PermissionScope
  | .sendMessage _ _ none => [.send]
  | .sendMessage _ _ (some "reply") => [.reply]
  | .sendMessage _ _ (some "reaction") => [.react]
  | .sendMessage _ _ (some _) => []
  | .addMembers _ _ => [.addMember]
  | .removeMembers _ _ => [.removeMember]
  | .addAdmin _ _ => [.promoteAdmin]
  | .removeAdmin _ _ => []
  | .updateGroupMetadata _ changes => changes.permissions
  | .leaveGroup _ => [.leave]

variable (world : ActionWorld) (config : CredentialConfig)

/-- Where there are permissions to ask for, the credential is scoped to the group and has
them all. -/
def PermittedOn (groupId : String) (permissions : List PermissionScope) : Prop :=
  permissions ≠ [] → groupId ∈ scopedGroupIds world.idMappings config ∧
    ∀ permission ∈ permissions, permission ∈ resolveEffectiveScopes config

/-- Everything that clients are made to do is permitted. -/
def Execution.InScope {α : Type} (execution : Execution α) : Prop :=
  ∀ call ∈ execution.calls, PermittedOn world config call.groupId call.permissions

variable {world}

/-- A tool call does nothing that its credential has no permission for. -/
def StaysInScope (registry : ActionRegistry world) (credential : CredentialRecord)
    (toolName : String) (params : AssocMap String Json) : Prop :=
  (handleCallTool registry credential toolName params).InScope world credential.config

variable (world)

/-- The chat of an action is permitted where a client for it is found. -/
def PermitsGroup (chatId : String) (identityLabel : Option String)
    (permissions : List PermissionScope) : Prop :=
  ∀ managed, resolveManagedClientForGroup world (resolveGroupId world.idMappings chatId)
    identityLabel = .ok managed →
      PermittedOn world config (resolveGroupId world.idMappings chatId) permissions

/-- The chat of an answer to a message is permitted where a client is found and the message
is not of another chat. -/
def PermitsReference (chatId messageId : String) (identityLabel : Option String)
    (permissions : List PermissionScope) : Prop :=
  ∀ managed, managedClientFor world identityLabel = .ok managed →
    ∀ reference, resolveMessageReference world managed.client chatId messageId = .ok reference →
      PermittedOn world config (resolveGroupId world.idMappings chatId) permissions

def KnownAction.Permits (params : AssocMap String Json) : KnownAction → Prop
  | .send => ∀ input, SendInput.parse params = .ok input →
      ∀ managed, managedClientFor world input.identityLabel = .ok managed →
        PermittedOn world config (resolveGroupId world.idMappings input.chatId) [.send]
  | .reply => ∀ input, ReplyInput.parse params = .ok input →
      PermitsReference world config input.chatId input.messageId input.identityLabel [.reply]
  | .react => ∀ input, ReactInput.parse params = .ok input →
      PermitsReference world config input.chatId input.messageId input.identityLabel [.react]
  | .addMember => ∀ input, MemberInput.parse params = .ok input →
      PermitsGroup world config input.chatId input.identityLabel [.addMember]
  | .removeMember => ∀ input, MemberInput.parse params = .ok input →
      PermitsGroup world config input.chatId input.identityLabel [.removeMember]
  | .promoteMember => ∀ input, RoleInput.parse params = .ok input →
      PermitsGroup world config input.chatId none [.promoteAdmin]
  | .update => ∀ input, UpdateInput.parse params = .ok input →
      PermitsGroup world config input.chatId none input.changes.permissions
  | .leave => ∀ input, LeaveInput.parse params = .ok input →
      PermitsGroup world config input.chatId none [.leave]
  | .list | .info | .read | .updateProfile | .demoteMember => True

def ActionSpec.Permits (params : AssocMap String Json) (ctx : HandlerContext)
    (spec : ActionSpec) : Prop :=
  ∀ execution, spec.handle params ctx = .ok execution → execution.InScope world config

variable {world}

/-- The tool is not there, or the arguments are refused or permitted. -/
def Permitted (registry : ActionRegistry world) (credential : CredentialRecord)
    (toolName : String) (params : AssocMap String Json) : Prop :=
  match findSpecByToolName registry toolName with
  | none => True
  | some (.known action) => action.Permits world credential.config params
  | some (.other spec) =>
    spec.Permits world credential.config params
      (createHandlerContext credential.credentialId)

/-! ## What the handlers do -/

variable {config} {α β : Type}

theorem inScope_fail (error : SignetError) :
    (Execution.fail error : Execution α).InScope world config := by
  intro call hCall
  cases hCall

@[simp]
theorem inScope_map (present : α → β) (execution : Execution α) :
    (execution.map present).InScope world config ↔ execution.InScope world config := Iff.rfl

@[simp]
theorem inScope_perform (client : ActionClient) (call : GroupCall)
    (next : String → Except SignetError α) :
    (Execution.perform client call next).InScope world config ↔
      PermittedOn world config call.groupId call.permissions := by
  simp [Execution.InScope]

theorem inScope_after {found : Except SignetError α} {next : α → Execution β} :
    (Execution.after found next).InScope world config ↔
      ∀ value, found = .ok value → (next value).InScope world config := by
  unfold Execution.InScope
  simp only [Execution.mem_calls_after]
  constructor
  · intro h value hFound call hCall
    exact h call ⟨value, hFound, hCall⟩
  · rintro h call ⟨value, hFound, hCall⟩
    exact h value hFound call hCall

theorem permittedOn_nil (groupId : String) : PermittedOn world config groupId [] :=
  fun h => absurd rfl h

theorem inScope_actOnGroup (chatId : String) (identityLabel : Option String)
    {act : String → ManagedClient → Execution ConversationOutput}
    {permissions : List PermissionScope}
    (hAct : ∀ groupId managed, (act groupId managed).InScope world config ↔
      PermittedOn world config groupId permissions) :
    (actOnGroup world chatId identityLabel act).InScope world config ↔
      PermitsGroup world config chatId identityLabel permissions := by
  unfold actOnGroup PermitsGroup
  simp only [inScope_after, hAct]

theorem send_inScope (input : SendInput) :
    (send world input).InScope world config ↔
      ∀ managed, managedClientFor world input.identityLabel = .ok managed →
        PermittedOn world config (resolveGroupId world.idMappings input.chatId) [.send] := by
  unfold send
  simp only [inScope_after, inScope_perform]
  rfl

theorem reply_inScope (input : ReplyInput) :
    (reply world input).InScope world config ↔
      PermitsReference world config input.chatId input.messageId input.identityLabel
        [.reply] := by
  unfold reply PermitsReference
  simp only [inScope_after, inScope_perform]
  rfl

theorem react_inScope (input : ReactInput) :
    (react world input).InScope world config ↔
      PermitsReference world config input.chatId input.messageId input.identityLabel
        [.react] := by
  unfold react PermitsReference
  simp only [inScope_after, inScope_perform]
  rfl

theorem read_inScope (input : ReadInput) : (read world input).InScope world config := by
  unfold read
  simp only [inScope_after, inScope_perform]
  intro managed hManaged
  exact permittedOn_nil _

/-- A handler that has nothing done stays in scope. -/
theorem inScope_of_calls {execution : Execution α} (h : execution.calls = []) :
    execution.InScope world config := by
  intro call hCall
  rw [h] at hCall
  cases hCall

theorem list_inScope (ctx : HandlerContext) (input : ListInput) :
    (list world ctx input).InScope world config := by
  unfold list
  simp only [inScope_after]
  intro _ _ _ _ managed hManaged
  exact inScope_of_calls rfl

theorem info_inScope (ctx : HandlerContext) (input : InfoInput) :
    (info world ctx input).InScope world config := by
  unfold info
  simp only [inScope_after]
  intro _ _ _ _ managed hManaged
  exact inScope_of_calls rfl

theorem addMember_inScope (input : MemberInput) :
    (addMember world input).InScope world config ↔
      PermitsGroup world config input.chatId input.identityLabel [.addMember] :=
  inScope_actOnGroup _ _ fun _ _ => inScope_perform _ _ _

theorem removeMember_inScope (input : MemberInput) :
    (removeMember world input).InScope world config ↔
      PermitsGroup world config input.chatId input.identityLabel [.removeMember] :=
  inScope_actOnGroup _ _ fun _ _ => inScope_perform _ _ _

theorem promoteMember_inScope (input : RoleInput) :
    (promoteMember world input).InScope world config ↔
      PermitsGroup world config input.chatId none [.promoteAdmin] :=
  inScope_actOnGroup _ _ fun _ _ => inScope_perform _ _ _

theorem update_inScope (input : UpdateInput) :
    (update world input).InScope world config ↔
      PermitsGroup world config input.chatId none input.changes.permissions :=
  inScope_actOnGroup _ _ fun _ _ => inScope_perform _ _ _

theorem leave_inScope (input : LeaveInput) :
    (leave world input).InScope world config ↔
      PermitsGroup world config input.chatId none [.leave] :=
  inScope_actOnGroup _ _ fun _ _ => inScope_perform _ _ _

theorem demoteMember_inScope (input : RoleInput) :
    (demoteMember world input).InScope world config := by
  have hNothing : PermitsGroup world config input.chatId none [] :=
    fun _ _ => permittedOn_nil _
  exact (inScope_actOnGroup _ _ fun _ _ => inScope_perform _ _ _).mpr hNothing

theorem updateProfile_inScope (input : UpdateProfileInput) :
    (updateProfile world input).InScope world config := by
  unfold updateProfile actOnGroup
  simp only [inScope_after, inScope_perform]
  intro managed hManaged selection hSelection
  exact permittedOn_nil _

/-- Arguments that are validated, and a handler for what comes of it. -/
theorem forall_map_ok {parsed : Except InputIssue α} {handler : α → Execution ActionOutput} :
    (∀ execution, parsed.map handler = .ok execution → execution.InScope world config) ↔
      ∀ input, parsed = .ok input → (handler input).InScope world config := by
  cases parsed with
  | error issue => simp [Except.map]
  | ok input => simp [Except.map]

theorem knownAction_inScope (action : KnownAction) (params : AssocMap String Json)
    (ctx : HandlerContext) :
    (∀ execution, action.handle world params ctx = .ok execution →
      execution.InScope world config) ↔ action.Permits world config params := by
  cases action <;> unfold KnownAction.handle KnownAction.Permits <;> dsimp only <;>
    rw [forall_map_ok] <;> simp only [inScope_map]
  case send => simp only [send_inScope]
  case list => simp only [list_inScope, implies_true]
  case info => simp only [info_inScope, implies_true]
  case reply => simp only [reply_inScope]
  case react => simp only [react_inScope]
  case read => simp only [read_inScope, implies_true]
  case addMember => simp only [addMember_inScope]
  case update => simp only [update_inScope]
  case updateProfile => simp only [updateProfile_inScope, implies_true]
  case leave => simp only [leave_inScope]
  case removeMember => simp only [removeMember_inScope]
  case promoteMember => simp only [promoteMember_inScope]
  case demoteMember => simp only [demoteMember_inScope, implies_true]

theorem staysInScope_of_found {registry : ActionRegistry world} {credential : CredentialRecord}
    {toolName : String} {params : AssocMap String Json} {action : RegisteredAction}
    (hFound : findSpecByToolName registry toolName = some action) :
    StaysInScope registry credential toolName params ↔
      ∀ execution, (action.spec world).handle params
        (createHandlerContext credential.credentialId) = .ok execution →
          execution.InScope world credential.config := by
  unfold StaysInScope handleCallTool
  rw [hFound]
  dsimp only
  cases (action.spec world).handle params (createHandlerContext credential.credentialId) with
  | error issue => simpa using inScope_fail _
  | ok execution => simp

/-- **A tool call stays in scope exactly when its arguments are refused or permitted.** -/
theorem staysInScope_iff (registry : ActionRegistry world) (credential : CredentialRecord)
    (toolName : String) (params : AssocMap String Json) :
    StaysInScope registry credential toolName params ↔
      Permitted registry credential toolName params := by
  unfold Permitted
  cases hFound : findSpecByToolName registry toolName with
  | none =>
    refine iff_of_true ?_ trivial
    unfold StaysInScope handleCallTool
    rw [hFound]
    exact inScope_fail _
  | some action =>
    rw [staysInScope_of_found hFound]
    cases action with
    | known action => exact knownAction_inScope action params _
    | other spec => exact Iff.rfl

/-! ## A message to another chat -/

def takingClient : ActionClient :=
  ⟨fun _ => .ok "msg_1", fun _ => .ok none, fun _ _ => .ok [], .ok []⟩

/-- A signet with one identity that is in two groups. -/
def twoGroupWorld : ActionWorld where
  idMappings := some
    ⟨fun id => if id = "conv_a" then some "group_a"
      else if id = "conv_b" then some "group_b" else none, fun _ => none⟩
  identityStore := ⟨fun _ => none, fun _ => none, [⟨"identity_1", some "inbox_1"⟩]⟩
  getManagedClient := fun _ => some ⟨"inbox_1", takingClient⟩
  getManagedClientForGroup := none
  getGroupInfo := fun groupId => .ok ⟨groupId, "", "", none, [], ""⟩
  operatorManager := none
  encodeProfileUpdate := .string
  cleanupLocalState := none
  credentialLookup := none
  now := 0
  toLowerCase := id
  toNumber := fun _ => none

/-- All actions on messages and groups. -/
def allKnown : List RegisteredAction :=
  [.send, .list, .info, .reply, .react, .read, .addMember, .update, .updateProfile, .leave,
    .removeMember, .promoteMember, .demoteMember].map .known

def knownRegistry : ActionRegistry twoGroupWorld := ⟨allKnown, by decide⟩

def readerCredential : CredentialRecord where
  id := "cred_1"
  config := { operatorId := "op_1", chatIds := ["conv_a"], allow := some [.readMessages] }
  inboxIds := []
  status := .active
  issuedAt := 0
  expiresAt := 1000
  issuedBy := "owner"
  credentialId := "cred_1"
  operatorId := "op_1"
  effectiveScopes := ⟨[.readMessages], []⟩
  isExpired := false
  lastHeartbeat := 0

def messageToOtherChat : AssocMap String Json :=
  (AssocMap.empty.set "chatId" (.string "conv_b")).set "text" (.string "hi")

/-- A credential that may only read one chat sends a message to another. -/
theorem reader_sends_to_other_chat :
    (handleCallTool knownRegistry readerCredential "message_send" messageToOtherChat).calls =
        [.sendMessage "group_b" (.string "hi") none] ∧
      ¬ StaysInScope knownRegistry readerCredential "message_send" messageToOtherChat := by
  have hCalls : (handleCallTool knownRegistry readerCredential "message_send"
      messageToOtherChat).calls = [.sendMessage "group_b" (.string "hi") none] := by
    decide
  refine ⟨hCalls, ?_⟩
  intro hStays
  have hPermitted := hStays (.sendMessage "group_b" (.string "hi") none)
    (hCalls ▸ List.mem_singleton_self _)
  have hScoped : "group_b" ∈ scopedGroupIds twoGroupWorld.idMappings readerCredential.config :=
    (hPermitted (by decide)).1
  exact absurd hScoped (by decide)

end Actions
end Signet
