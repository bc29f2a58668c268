import Signet.Cli.ReadElevation
import Signet.Sessions.Service

/-!
# What the action handlers work with

An action takes parameters that its schema has accepted and a context that says who is
calling, and works through the clients of the identities.  Chat ids come as local ids or
as ids of the network; the mapping store turns the one into the other.

* `ActionWorld` — everything a handler looks up or asks.
* `HandlerContext` — the caller, by credential or as the admin.
* `GroupCall` — what a handler makes a client do to a group.
* `resolveIdentitySelector`, `resolveManagedClientForGroup` — the client that acts.
-/

namespace Signet
namespace Actions

open Kit Schemas
open Signet.Sessions
open Signet.Cli (AdminReadElevation)

/-! ## Ids -/

/-- The mapping store, by its two lookups. -/
structure IdMappings where
  getNetwork : String → Option String
  getLocal : String → Option String

def resolveGroupId (idMappings : Option IdMappings) (chatId : String) : String :=
  match idMappings with
  | none => chatId
  | some store => (store.getNetwork chatId).getD chatId

def resolveMessageId (idMappings : Option IdMappings) (messageId : String) : String :=
  resolveGroupId idMappings messageId

/-- Compute effective scopes from allow and deny; deny always wins. -/
def resolveEffectiveScopes (config : CredentialConfig) : OrderedSet PermissionScope :=
  (config.deny.getD []).foldl OrderedSet.erase (OrderedSet.ofList (config.allow.getD []))

private theorem mem_foldl_erase (denied : List PermissionScope)
    (scopes : OrderedSet PermissionScope) (scope : PermissionScope) :
    scope ∈ denied.foldl OrderedSet.erase scopes ↔ scope ∈ scopes ∧ scope ∉ denied := by
  induction denied generalizing scopes with
  | nil => simp
  | cons first rest ih =>
    rw [List.foldl_cons, ih, OrderedSet.mem_erase, List.mem_cons]
    tauto

theorem mem_resolveEffectiveScopes {config : CredentialConfig} {scope : PermissionScope} :
    scope ∈ resolveEffectiveScopes config ↔
      scope ∈ config.allow.getD [] ∧ scope ∉ config.deny.getD [] := by
  unfold resolveEffectiveScopes
  rw [mem_foldl_erase, OrderedSet.mem_ofList]

def scopedGroupIds (idMappings : Option IdMappings) (config : CredentialConfig) : List String :=
  config.chatIds.map (resolveGroupId idMappings)

/-! ## Clients -/

structure DecodedMessage where
  messageId : String
  groupId : String
  senderInboxId : String
  contentType : String
  content : Json
  sentAt : String
  threadId : Option String
deriving DecidableEq

structure ListMessagesOptions where
  limit : Option Int := none
  before : Option String := none
  after : Option String := none
deriving DecidableEq

structure GroupInfo where
  groupId : String
  name : String
  description : String
  imageUrl : Option String
  memberInboxIds : List String
  createdAt : String
deriving DecidableEq

/-- The fields of a group's metadata that are to change. -/
structure MetadataChanges where
  name : Option String
  description : Option String
  imageUrl : Option String
deriving DecidableEq

/-- What a handler makes a client do to a group. -/
inductive GroupCall where
  | sendMessage (groupId : String) (content : Json) (contentType : Option String)
  | addMembers (groupId : String) (inboxIds : List String)
  | removeMembers (groupId : String) (inboxIds : List String)
  | addAdmin (groupId inboxId : String)
  | removeAdmin (groupId inboxId : String)
  | updateGroupMetadata (groupId : String) (changes : MetadataChanges)
  | leaveGroup (groupId : String)
deriving DecidableEq

/-- The client of an identity, by its answers; a message that is sent has an id. -/
structure ActionClient where
  perform : GroupCall → Except SignetError String
  getMessageById : String → Except SignetError (Option DecodedMessage)
  listMessages : String → ListMessagesOptions → Except SignetError (List DecodedMessage)
  listGroups : Except SignetError (List GroupInfo)

structure ManagedClient where
  inboxId : String
  client : ActionClient

structure StoredIdentity where
  id : String
  inboxId : Option String
deriving DecidableEq

structure IdentityStore where
  getByLabel : String → Option StoredIdentity
  getByInboxId : String → Option StoredIdentity
  list : List StoredIdentity

/-! ## The world and the caller -/

structure CleanupResult where
  executed : Bool
  actions : List String
deriving DecidableEq

/-- Everything a handler looks up or asks. -/
structure ActionWorld where
  idMappings : Option IdMappings
  identityStore : IdentityStore
  getManagedClient : String → Option ManagedClient
  getManagedClientForGroup : Option (String → Option ManagedClient)
  getGroupInfo : String → Except SignetError GroupInfo
  operatorManager : Option (String → Except SignetError String)
  encodeProfileUpdate : String → Json
  /-- The cleanup of a chat, asked for by chat id, group id and whether to execute it. -/
  cleanupLocalState : Option (String → String → Bool → Except SignetError CleanupResult)
  credentialLookup : Option (String → Except SignetError CredentialRecord)
  /-- The clock, in milliseconds. -/
  now : Int
  /-- `toLowerCase` of the language. -/
  toLowerCase : String → String
  /-- `Number` of the language; nothing where it is not a number. -/
  toNumber : Json → Option Int

/-- The caller of a handler. -/
structure HandlerContext where
  /-- The fingerprint of the admin key. -/
  adminAuth : Option String := none
  credentialId : Option String := none
  adminReadElevation : Option AdminReadElevation := none
deriving DecidableEq

/-- A text that is there and not empty. -/
def present (text : Option String) : Option String := text.filter fun value => value ≠ ""

/-- What a handler has made clients do, and what it answers. -/
structure Execution (α : Type) where
  calls : List GroupCall := []
  result : Except SignetError α

namespace Execution

variable {α β : Type}

/-- A handler that ends with an error. -/
def fail (error : SignetError) : Execution α := ⟨[], .error error⟩

/-- Go on with the value of a lookup, or end with its error. -/
def after (found : Except SignetError α) (next : α → Execution β) : Execution β :=
  match found with
  | .error error => fail error
  | .ok value => next value

/-- Make a client do something, and go on with what it answers. -/
def perform (client : ActionClient) (call : GroupCall)
    (next : String → Except SignetError α) : Execution α where
  calls := [call]
  result :=
    match client.perform call with
    | .error error => .error error
    | .ok answer => next answer

/-- Present the value another way. -/
def map (present : α → β) (execution : Execution α) : Execution β :=
  ⟨execution.calls, execution.result.map present⟩

@[simp]
theorem calls_map (present : α → β) (execution : Execution α) :
    (execution.map present).calls = execution.calls := rfl

@[simp]
theorem calls_fail (error : SignetError) : (fail error : Execution α).calls = [] := rfl

@[simp]
theorem calls_perform (client : ActionClient) (call : GroupCall)
    (next : String → Except SignetError α) : (perform client call next).calls = [call] := rfl

theorem mem_calls_after {found : Except SignetError α} {next : α → Execution β}
    {call : GroupCall} :
    call ∈ (after found next).calls ↔ ∃ value, found = .ok value ∧ call ∈ (next value).calls := by
  cases found with
  | error error => simp [after]
  | ok value => simp [after]

end Execution

/-! ## The client that acts -/

/-- Resolve an acting identity from a label or a registered inbox id; a label comes first. -/
def resolveIdentitySelector (identityStore : IdentityStore) (selector : Option String) :
    Except SignetError StoredIdentity :=
  match present selector with
  | some selector =>
    match identityStore.getByLabel selector, identityStore.getByInboxId selector with
    | some byLabel, _ => .ok byLabel
    | none, some byInboxId => .ok byInboxId
    | none, none => .error (NotFoundError.create "identity" selector)
  | none =>
    match identityStore.list with
    | first :: _ => .ok first
    | [] => .error (NotFoundError.create "identity" "(none)")

/-- The client of the identity a selector names. -/
def managedClientFor (world : ActionWorld) (selector : Option String) :
    Except SignetError ManagedClient :=
  match resolveIdentitySelector world.identityStore selector with
  | .error error => .error error
  | .ok identity =>
    match world.getManagedClient identity.id with
    | none => .error (NotFoundError.create "managed-client" identity.id)
    | some managed => .ok managed

/-- The client for a group: of the identity that is named, else the one responsible for the
group, else of the first identity. -/
def resolveManagedClientForGroup (world : ActionWorld) (groupId : String)
    (identityLabel : Option String) : Except SignetError ManagedClient :=
  match identityLabel with
  | some label => managedClientFor world (some label)
  | none =>
    match world.getManagedClientForGroup.bind fun getByGroup => getByGroup groupId with
    | some byGroup => .ok byGroup
    | none => managedClientFor world none

/-! ## Parameters -/

/-- The first issue of refused parameters. -/
structure InputIssue where
  field : String
  reason : String
deriving DecidableEq

def typeName : Json → String
  | .null => "null"
  | .bool _ => "boolean"
  | .number _ => "number"
  | .string _ => "string"
  | .array _ => "array"
  | .object _ => "object"

def invalidType (field expected : String) : Option Json → InputIssue
  | none => ⟨field, "Required"⟩
  | some value => ⟨field, "Expected " ++ expected ++ ", received " ++ typeName value⟩

/-- `z.string()` -/
def stringField (params : AssocMap String Json) (field : String) : Except InputIssue String :=
  match params.get field with
  | some (.string value) => .ok value
  | other => .error (invalidType field "string" other)

/-- `z.string().optional()` -/
def optionalStringField (params : AssocMap String Json) (field : String) :
    Except InputIssue (Option String) :=
  match params.get field with
  | none => .ok none
  | some (.string value) => .ok (some value)
  | other => .error (invalidType field "string" other)

/-- `z.coerce.number().optional()` -/
def coercedNumberField (world : ActionWorld) (params : AssocMap String Json) (field : String) :
    Except InputIssue (Option Int) :=
  match params.get field with
  | none => .ok none
  | some value =>
    match world.toNumber value with
    | none => .error ⟨field, "Expected number, received nan"⟩
    | some number => .ok (some number)

/-- `z.boolean().optional()` -/
def optionalBooleanField (params : AssocMap String Json) (field : String) :
    Except InputIssue (Option Bool) :=
  match params.get field with
  | none => .ok none
  | some (.bool value) => .ok (some value)
  | other => .error (invalidType field "boolean" other)

end Actions
end Signet
