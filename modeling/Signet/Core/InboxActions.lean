import Signet.Core.IdentityStore
import Signet.Sessions.OperatorManager

/-!
# Inbox actions over the operator manager

Which operator an inbox is linked to is listed in the operators' configurations.  The actions
find it by a scan over all operators, and change it by reading one operator's list, awaiting, and
writing the whole list back.  The operator manager takes lists from its own callers too.

* `resolveOperator`, `buildInboxLinkMap` — what a call reads, one await before it goes on.
* `InboxStage` — what a call is waiting for, with what it has read.
* `addInbox`, `dropInbox` — the write at the end of a link and of an unlink.
* `inboxStep` — one event: a call, or the completion of an await.
-/

namespace Signet
namespace Core
namespace InboxActions

open Kit Schemas Sessions

abbrev Operators := AssocMap String OperatorRecord

/-! ## What the actions return -/

structure InboxSummary where
  id : String
  networkInboxId : Option String
  label : Option String
  groupId : Option String
  createdAt : Int
  operatorId : Option String
deriving DecidableEq

/-- Result returned by `inbox.rm`. -/
structure InboxRemoveResult where
  executed : Bool
  actions : List String
deriving DecidableEq

def summarizeInbox (identity : IdentityRow) (operatorId : Option String) : InboxSummary where
  id := identity.id
  networkInboxId := identity.inboxId
  label := identity.label
  groupId := identity.groupId
  createdAt := identity.createdAt
  operatorId := operatorId

structure RegisteredInbox where
  identityId : String
  inboxId : String
deriving DecidableEq

/-! ## Reading -/

def startsWith (tag value : String) : Bool := tag.toList.isPrefixOf value.toList

/-- Find an inbox by its id or its label, from what the identity store answers. -/
def resolveInbox (idOrLabel : String) (byLabel byId : Option IdentityRow) :
    Except SignetError IdentityRow :=
  if startsWith "inbox_" idOrLabel then
    if isResourceId .inbox idOrLabel then
      match byId with
      | none => .error (NotFoundError.create "inbox" idOrLabel)
      | some identity => .ok identity
    else .error (ValidationError.create "inboxId" ("Invalid inbox ID format: " ++ idOrLabel))
  else
    match byLabel, byId with
    | some identity, _ => .ok identity
    | none, some identity => .ok identity
    | none, none => .error (NotFoundError.create "inbox" idOrLabel)

/-- Find an operator by its id or its label. -/
def resolveOperator (operators : Operators) (operatorId : String) : Except SignetError String :=
  if startsWith "op_" operatorId then
    if isResourceId .operator operatorId then
      match OperatorManager.lookup operators operatorId with
      | .error error => .error error
      | .ok direct =>
        if direct.status = .removed then
          .error (NotFoundError.create "operator" operatorId)
        else .ok direct.id
    else
      .error (ValidationError.create "operatorId" ("Invalid operator ID format: " ++ operatorId))
  else
    match (OperatorManager.list operators).filter fun candidate =>
        candidate.config.label = operatorId with
    | [] => .error (NotFoundError.create "operator" operatorId)
    | [candidate] => .ok candidate.id
    | candidates =>
      .error (ValidationError.createWith "operatorId" "Ambiguous operator label"
        [("label", .text operatorId),
          ("matchingIds", .json (.array (candidates.map fun candidate => .string candidate.id)))])

def inboxes (operator : OperatorRecord) : List String := operator.config.inboxIds.getD []

def addLink (operatorId : String) (map : AssocMap String String) (inboxId : String) :
    Except SignetError (AssocMap String String) :=
  match map.get inboxId with
  | some existing =>
    if existing ≠ "" ∧ existing ≠ operatorId then
      .error (ValidationError.createWith "inboxIds" "Inbox is linked to multiple operators"
        [("inboxId", .text inboxId),
          ("operatorIds", .json (.array [.string existing, .string operatorId]))])
    else .ok (map.set inboxId operatorId)
  | none => .ok (map.set inboxId operatorId)

/-- The operator of every inbox that is listed by one. -/
def buildInboxLinkMap (operatorManager : Option Operators) :
    Except SignetError (AssocMap String String) :=
  match operatorManager with
  | none => .ok .empty
  | some operators =>
    (OperatorManager.list operators).foldlM
      (fun map operator => (inboxes operator).foldlM (addLink operator.id) map) .empty

/-! ## Writing -/

section Writing

variable (safeParse : OperatorConfig → Option (List SchemaIssue)) (operators : Operators)

/-- The changes of a link: the list that has been read, with the inbox added. -/
def withInbox (operator : OperatorRecord) (inboxId : String) : OperatorChanges :=
  { inboxIds := some (some ((OrderedSet.ofList (inboxes operator)).add inboxId).items) }

/-- The changes of an unlink: the list that has been read, without the inbox. -/
def withoutInbox (operator : OperatorRecord) (inboxId : String) : OperatorChanges :=
  let remainingInboxIds := (inboxes operator).filter fun candidate => candidate ≠ inboxId
  { inboxIds := some (if remainingInboxIds.length > 0 then some remainingInboxIds else none) }

/-- The write of `linkInboxToOperator`. -/
def addInbox (inboxId : String) (operator : OperatorRecord) :
    Operators × Except SignetError String :=
  let updated :=
    OperatorManager.update safeParse operators operator.id (withInbox operator inboxId)
  (updated.1, updated.2.map fun record => record.id)

/-- The write of `unlinkInboxFromOperator`. -/
def dropInbox (inboxId operatorId : String) (operator : OperatorRecord) :
    Operators × Except SignetError (Option String) :=
  let updated :=
    OperatorManager.update safeParse operators operatorId (withoutInbox operator inboxId)
  (updated.1, updated.2.map fun _ => some operatorId)

end Writing

/-! ## Calls in flight -/

/-- Who awaits `linkInboxToOperator`. -/
inductive LinkCaller where
  | link (identity : IdentityRow)
  | create (identityId : String)

/-- Who awaits `unlinkInboxFromOperator`. -/
inductive UnlinkCaller where
  | unlink (identity : IdentityRow)
  | remove (identity : IdentityRow) (actions : List String) (mapping : Option IdMapping)

/-- What a call is waiting for, with what it has read. -/
inductive InboxStage where
  | linkInbox (inboxId operatorId : String)
  | unlinkInbox (inboxId : String)
  | removeInbox (inboxId : String) (execute : Bool)
  | createResolved (label : Option String) (operator : Except SignetError String)
  | createRegister (linkedOperatorId : Option String)
  | createRead (identityId : String) (linkedOperatorId : Option String)
  | linkResolved (caller : LinkCaller) (inboxId : String) (operator : Except SignetError String)
  | linkMapped (caller : LinkCaller) (inboxId operatorId : String)
      (linkMap : Except SignetError (AssocMap String String))
  | linkLooked (caller : LinkCaller) (inboxId : String)
      (operator : Except SignetError OperatorRecord)
  | unlinkMapped (caller : UnlinkCaller) (inboxId : String)
      (linkMap : Except SignetError (AssocMap String String))
  | unlinkLooked (caller : UnlinkCaller) (inboxId operatorId : String)
      (operator : Except SignetError OperatorRecord)
  | removeMapped (identity : IdentityRow) (execute : Bool)
      (linkMap : Except SignetError (AssocMap String String))
  | removeCleaned (identity : IdentityRow) (execute : Bool) (actions : List String)
      (mapping : Option IdMapping)
  | removeDeleted (actions : List String)
  | revoking (operatorId : String) (existing : OperatorRecord)

/-- What an await comes back with. -/
inductive InboxAnswer where
  /-- The operator manager: what it answers is in the stage. -/
  | manager
  | resolved (byLabel byId : Option IdentityRow)
  | identity (row : Option IdentityRow)
  | registered (result : Except SignetError RegisteredInbox)
  | cleaned (result : Except SignetError (List String))
  | deleted (result : Except SignetError Unit)
  | revoked (result : Except SignetError Unit)

/-- What happens next. -/
inductive InboxLabel where
  | createOperator (now : Int) (drawnId : String) (config : OperatorConfig)
  | updateOperator (operatorId : String) (changes : OperatorChanges)
  | removeOperator (call : Nat) (operatorId : String)
  | create (call : Nat) (label operatorId : Option String)
  | link (call : Nat) (inboxId operatorId : String)
  | unlink (call : Nat) (inboxId : String)
  | remove (call : Nat) (inboxId : String) (execute : Bool)
  /-- An await is over; `mappings` is what the mapping store resolves. -/
  | resume (call : Nat) (answer : InboxAnswer) (mappings : String → Option IdMapping)

/-- What a step makes observable: what the operations on links return, what the handlers
return, and what they ask of the outside. -/
inductive InboxOutcome where
  | created (result : Except SignetError OperatorRecord)
  | updated (changes : OperatorChanges) (result : Except SignetError OperatorRecord)
  | removed (operatorId : String) (result : Except SignetError Unit)
  | linked (inboxId : String) (result : Except SignetError String)
  | unlinked (inboxId : String) (result : Except SignetError (Option String))
  | summary (call : Nat) (result : Except SignetError InboxSummary)
  | removal (call : Nat) (result : Except SignetError InboxRemoveResult)
  | register (label : Option String)
  | mapInbox (networkId localId : String)
  | unmapInbox (localId : String)
  | cleanup (identity : IdentityRow) (execute : Bool)
  | deleteIdentity (identityId : String)

structure InboxActionDeps where
  hasOperatorManager : Bool
  hasIdMappings : Bool
  hasCleanupInbox : Bool
  safeParse : OperatorConfig → Option (List SchemaIssue)

/-- The operators, and the calls in flight. -/
structure InboxState where
  operators : Operators
  calls : AssocMap Nat InboxStage

namespace InboxState

def await (s : InboxState) (call : Nat) (stage : InboxStage) : InboxState :=
  { s with calls := s.calls.set call stage }

/-- The call has returned. -/
def finish (s : InboxState) (call : Nat) : InboxState :=
  { s with calls := s.calls.delete call }

end InboxState

/-- The state after a segment of a call, and what the segment made observable. -/
abbrev InboxTurn := InboxState × List InboxOutcome

variable (deps : InboxActionDeps) (s : InboxState) (call : Nat)

/-- `deps.operatorManager` -/
def operatorManager : Option Operators :=
  if deps.hasOperatorManager then some s.operators else none

def unavailable : SignetError :=
  ValidationError.create "operatorId"
    "Operator linking is unavailable without an operator manager"

/-! ## The segments -/

/-- `linkInboxToOperator`, up to its first await. -/
def linkInboxToOperator (caller : LinkCaller) (operatorId inboxId : String) : InboxTurn :=
  (s.await call (.linkResolved caller inboxId (resolveOperator s.operators operatorId)), [])

/-- From the return of `linkInboxToOperator` on. -/
def linkReturned (caller : LinkCaller) (inboxId : String) (result : Except SignetError String) :
    InboxTurn :=
  match caller, result with
  | .link _, .error error =>
    (s.finish call, [.linked inboxId result, .summary call (.error error)])
  | .link identity, .ok operatorId =>
    (s.finish call,
      [.linked inboxId result, .summary call (.ok (summarizeInbox identity (some operatorId)))])
  | .create _, .error error =>
    (s.finish call, [.linked inboxId result, .summary call (.error error)])
  | .create identityId, .ok operatorId =>
    (s.await call (.createRead identityId (some operatorId)), [.linked inboxId result])

/-- `linkInboxToOperator`, from its map of links on. -/
def linkMapped (caller : LinkCaller) (inboxId operatorId : String)
    (linkMap : Except SignetError (AssocMap String String)) : InboxTurn :=
  match linkMap with
  | .error error => linkReturned s call caller inboxId (.error error)
  | .ok links =>
    match links.get inboxId with
    | some existingOperatorId =>
      if existingOperatorId ≠ operatorId then
        linkReturned s call caller inboxId (.error (ValidationError.createWith "inboxId"
          "Inbox is already linked to another operator"
          [("inboxId", .text inboxId), ("operatorId", .text existingOperatorId)]))
      else
        (s.await call
          (.linkLooked caller inboxId (OperatorManager.lookup s.operators operatorId)), [])
    | none =>
      (s.await call
        (.linkLooked caller inboxId (OperatorManager.lookup s.operators operatorId)), [])

/-- `linkInboxToOperator`, from its lookup on. -/
def linkLooked (caller : LinkCaller) (inboxId : String)
    (operator : Except SignetError OperatorRecord) : InboxTurn :=
  match operator with
  | .error error => linkReturned s call caller inboxId (.error error)
  | .ok operator =>
    let written := addInbox deps.safeParse s.operators inboxId operator
    linkReturned { s with operators := written.1 } call caller inboxId written.2

/-- From the return of `unlinkInboxFromOperator` on. -/
def unlinkReturned (caller : UnlinkCaller) (inboxId : String)
    (result : Except SignetError (Option String)) : InboxTurn :=
  match caller, result with
  | .unlink _, .error error =>
    (s.finish call, [.unlinked inboxId result, .summary call (.error error)])
  | .unlink identity, .ok _ =>
    (s.finish call,
      [.unlinked inboxId result, .summary call (.ok (summarizeInbox identity none))])
  | .remove _ _ _, .error error =>
    (s.finish call, [.unlinked inboxId result, .removal call (.error error)])
  | .remove identity actions mapping, .ok _ =>
    (s.await call (.removeDeleted actions),
      .unlinked inboxId result ::
        ((if mapping.isSome then [.unmapInbox identity.id] else []) ++
          [.deleteIdentity identity.id]))

/-- `unlinkInboxFromOperator`, up to its first await. -/
def unlinkInboxFromOperator (caller : UnlinkCaller) (inboxId : String) : InboxTurn :=
  match operatorManager deps s with
  | none => unlinkReturned s call caller inboxId (.ok none)
  | some operators =>
    (s.await call (.unlinkMapped caller inboxId (buildInboxLinkMap (some operators))), [])

/-- `unlinkInboxFromOperator`, from its map of links on. -/
def unlinkMapped (caller : UnlinkCaller) (inboxId : String)
    (linkMap : Except SignetError (AssocMap String String)) : InboxTurn :=
  match linkMap with
  | .error error => unlinkReturned s call caller inboxId (.error error)
  | .ok links =>
    match links.get inboxId with
    | none => unlinkReturned s call caller inboxId (.ok none)
    | some operatorId =>
      (s.await call (.unlinkLooked caller inboxId operatorId
        (OperatorManager.lookup s.operators operatorId)), [])

/-- `unlinkInboxFromOperator`, from its lookup on. -/
def unlinkLooked (caller : UnlinkCaller) (inboxId operatorId : String)
    (operator : Except SignetError OperatorRecord) : InboxTurn :=
  match operator with
  | .error error => unlinkReturned s call caller inboxId (.error error)
  | .ok operator =>
    let written := dropInbox deps.safeParse s.operators inboxId operatorId operator
    unlinkReturned { s with operators := written.1 } call caller inboxId written.2

/-- `inbox.create`, from its registration on. -/
def createRegistered (linkedOperatorId : Option String)
    (registered : Except SignetError RegisteredInbox) : InboxTurn :=
  match registered with
  | .error error => (s.finish call, [.summary call (.error error)])
  | .ok inbox =>
    let mapped : List InboxOutcome :=
      if deps.hasIdMappings then [.mapInbox inbox.inboxId inbox.identityId] else []
    match linkedOperatorId, operatorManager deps s with
    | some operatorId, some _ =>
      let turn :=
        linkInboxToOperator s call (.create inbox.identityId) operatorId inbox.identityId
      (turn.1, mapped ++ turn.2)
    | linkedOperatorId, _ =>
      (s.await call (.createRead inbox.identityId linkedOperatorId), mapped)

/-- `inbox.rm`, from its map of links on. -/
def removeMapped (identity : IdentityRow) (execute : Bool)
    (linkMap : Except SignetError (AssocMap String String))
    (mappings : String → Option IdMapping) : InboxTurn :=
  match linkMap with
  | .error error => (s.finish call, [.removal call (.error error)])
  | .ok links =>
    let unlinking := match links.get identity.id with
      | some linkedOperatorId => ["unlink operator " ++ linkedOperatorId]
      | none => []
    let byInboxId := match identity.inboxId with
      | some inboxId => if inboxId = "" then none else mappings inboxId
      | none => none
    let mapping := if deps.hasIdMappings then (mappings identity.id).or byInboxId else none
    let actions := unlinking ++ ["remove inbox " ++ identity.id]
      ++ (if mapping.isSome then ["remove id mapping"] else [])
    if deps.hasCleanupInbox then
      (s.await call (.removeCleaned identity execute actions mapping),
        [.cleanup identity execute])
    else if execute then
      unlinkInboxFromOperator deps s call (.remove identity actions mapping) identity.id
    else (s.finish call, [.removal call (.ok ⟨false, actions⟩)])

/-- `inbox.rm`, from its cleanup on. -/
def removeCleaned (identity : IdentityRow) (execute : Bool) (actions : List String)
    (mapping : Option IdMapping) (cleanup : Except SignetError (List String)) : InboxTurn :=
  match cleanup with
  | .error error => (s.finish call, [.removal call (.error error)])
  | .ok cleaned =>
    if execute then
      unlinkInboxFromOperator deps s call (.remove identity (actions ++ cleaned) mapping)
        identity.id
    else (s.finish call, [.removal call (.ok ⟨false, actions ++ cleaned⟩)])

/-- `operator.remove`, from the revocation of the credentials on. -/
def removeRevoked (operatorId : String) (existing : OperatorRecord)
    (result : Except SignetError Unit) : InboxTurn :=
  let finished := OperatorManager.finishRemove s.operators operatorId existing result
  ({ s.finish call with operators := finished.1 }, [.removed operatorId finished.2])

/-- A call goes on. -/
def resumeInbox (stage : InboxStage) (answer : InboxAnswer)
    (mappings : String → Option IdMapping) : Option InboxTurn :=
  match stage, answer with
  | .linkInbox inboxId operatorId, .resolved byLabel byId =>
    match resolveInbox inboxId byLabel byId with
    | .error error => some (s.finish call, [.summary call (.error error)])
    | .ok identity => some (linkInboxToOperator s call (.link identity) operatorId identity.id)
  | .unlinkInbox inboxId, .resolved byLabel byId =>
    match resolveInbox inboxId byLabel byId with
    | .error error => some (s.finish call, [.summary call (.error error)])
    | .ok identity => some (unlinkInboxFromOperator deps s call (.unlink identity) identity.id)
  | .removeInbox inboxId execute, .resolved byLabel byId =>
    match resolveInbox inboxId byLabel byId with
    | .error error => some (s.finish call, [.removal call (.error error)])
    | .ok identity =>
      some (s.await call (.removeMapped identity execute
        (buildInboxLinkMap (operatorManager deps s))), [])
  | .createResolved _ (.error error), .manager =>
    some (s.finish call, [.summary call (.error error)])
  | .createResolved label (.ok operatorId), .manager =>
    some (s.await call (.createRegister (some operatorId)), [.register label])
  | .createRegister linkedOperatorId, .registered result =>
    some (createRegistered deps s call linkedOperatorId result)
  | .createRead identityId _, .identity none =>
    some (s.finish call, [.summary call (.error (NotFoundError.create "inbox" identityId))])
  | .createRead _ linkedOperatorId, .identity (some identity) =>
    some (s.finish call, [.summary call (.ok (summarizeInbox identity linkedOperatorId))])
  | .linkResolved caller inboxId (.error error), .manager =>
    some (linkReturned s call caller inboxId (.error error))
  | .linkResolved caller inboxId (.ok operatorId), .manager =>
    some (s.await call (.linkMapped caller inboxId operatorId
      (buildInboxLinkMap (some s.operators))), [])
  | .linkMapped caller inboxId operatorId linkMap, .manager =>
    some (linkMapped s call caller inboxId operatorId linkMap)
  | .linkLooked caller inboxId operator, .manager =>
    some (linkLooked deps s call caller inboxId operator)
  | .unlinkMapped caller inboxId linkMap, .manager =>
    some (unlinkMapped s call caller inboxId linkMap)
  | .unlinkLooked caller inboxId operatorId operator, .manager =>
    some (unlinkLooked deps s call caller inboxId operatorId operator)
  | .removeMapped identity execute linkMap, .manager =>
    some (removeMapped deps s call identity execute linkMap mappings)
  | .removeCleaned identity execute actions mapping, .cleaned result =>
    some (removeCleaned deps s call identity execute actions mapping result)
  | .removeDeleted _, .deleted (.error error) =>
    some (s.finish call, [.removal call (.error error)])
  | .removeDeleted actions, .deleted (.ok ()) =>
    some (s.finish call, [.removal call (.ok ⟨true, actions⟩)])
  | .revoking operatorId existing, .revoked result =>
    some (removeRevoked s call operatorId existing result)
  | _, _ => none

/-- A call, up to its first await. -/
def beginInbox : InboxLabel → Option InboxTurn
  | .removeOperator _ operatorId =>
    match OperatorManager.beginRemove s.operators operatorId with
    | .error error => some (s, [.removed operatorId (.error error)])
    | .ok existing => some (s.await call (.revoking operatorId existing), [])
  | .create _ label operatorId =>
    match operatorId, operatorManager deps s with
    | none, _ => some (s.await call (.createRegister none), [.register label])
    | some _, none => some (s, [.summary call (.error unavailable)])
    | some operatorId, some operators =>
      some (s.await call (.createResolved label (resolveOperator operators operatorId)), [])
  | .link _ inboxId operatorId =>
    if deps.hasOperatorManager then some (s.await call (.linkInbox inboxId operatorId), [])
    else some (s, [.summary call (.error unavailable)])
  | .unlink _ inboxId => some (s.await call (.unlinkInbox inboxId), [])
  | .remove _ inboxId execute => some (s.await call (.removeInbox inboxId execute), [])
  | _ => none

def InboxLabel.begins : InboxLabel → Option Nat
  | .removeOperator call _ | .create call _ _ | .link call _ _ | .unlink call _
  | .remove call _ _ => some call
  | _ => none

/-- One step. -/
def inboxStep (label : InboxLabel) : Option InboxTurn :=
  match label with
  | .createOperator now drawnId config =>
    let result := OperatorManager.create deps.safeParse s.operators now drawnId config
    some ({ s with operators := result.1 }, [.created result.2])
  | .updateOperator operatorId changes =>
    let result := OperatorManager.update deps.safeParse s.operators operatorId changes
    some ({ s with operators := result.1 }, [.updated changes result.2])
  | .resume call answer mappings =>
    match s.calls.get call with
    | none => none
    | some stage => resumeInbox deps s call stage answer mappings
  | label =>
    match label.begins with
    | none => none
    | some call =>
      match s.calls.get call with
      | some _ => none
      | none => beginInbox deps s call label

/-- The operator manager and the inbox actions, from an empty manager on. -/
def inboxMachine : Machine InboxState InboxLabel InboxOutcome where
  init := ⟨.empty, .empty⟩
  step := inboxStep deps

end InboxActions
end Core
end Signet
