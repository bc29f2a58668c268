import Signet.Schemas.Seal

/-!
# Operators

The configuration of an operator, its record, and the changes an update brings.
-/

namespace Signet
namespace Schemas

/-- Role assigned to an operator within the signet. -/
inductive OperatorRole where
  | operator
  | admin
  | superadmin
deriving DecidableEq, Repr

/-- The wire form of a role. -/
def OperatorRole.value : OperatorRole → String
  | .operator => "operator"
  | .admin => "admin"
  | .superadmin => "superadmin"

inductive OperatorStatus where
  | active
  | suspended
  | removed
deriving DecidableEq, Repr

/-- Source of the operator's wallet keys. -/
inductive WalletProvider where
  | internal
  | ows
deriving DecidableEq, Repr

structure OperatorConfig where
  label : String
  role : OperatorRole
  scopeMode : ScopeMode
  provider : WalletProvider := .internal
  walletId : Option String := none
  inboxIds : Option (List String) := none
  operatorDisclosures : Option OperatorDisclosures := none
deriving DecidableEq

structure OperatorRecord where
  id : String
  config : OperatorConfig
  createdAt : Int
  createdBy : String
  status : OperatorStatus
deriving DecidableEq

/-- The fields of a `Partial<OperatorConfig>`; `some none` of the inbox ids is an `undefined`
that is there. -/
structure OperatorChanges where
  label : Option String := none
  role : Option OperatorRole := none
  scopeMode : Option ScopeMode := none
  provider : Option WalletProvider := none
  walletId : Option String := none
  inboxIds : Option (Option (List String)) := none
  operatorDisclosures : Option OperatorDisclosures := none

/-- `{ ...existing.config, ...changes }` -/
def OperatorChanges.mergeInto (changes : OperatorChanges) (config : OperatorConfig) :
    OperatorConfig where
  label := changes.label.getD config.label
  role := changes.role.getD config.role
  scopeMode := changes.scopeMode.getD config.scopeMode
  provider := changes.provider.getD config.provider
  walletId := changes.walletId <|> config.walletId
  inboxIds := changes.inboxIds.getD config.inboxIds
  operatorDisclosures := changes.operatorDisclosures <|> config.operatorDisclosures

end Schemas
end Signet
