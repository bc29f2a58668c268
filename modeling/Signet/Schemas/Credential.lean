import Signet.Schemas.PermissionScopes

/-!
# Credentials and policies

The lifecycle status of a credential, the reasons it can be revoked for, the
configuration it is issued from, and the merge of a reusable policy with the
inline overrides of a configuration.

Instants are milliseconds since the epoch.  An instant outside the range of a
date has no ISO form, and rendering one throws.
-/

namespace Signet
namespace Schemas

inductive CredentialStatus where
  | pending
  | active
  | expired
  | revoked
deriving DecidableEq, Repr

/-- The wire form of a status. -/
def CredentialStatus.value : CredentialStatus → String
  | .pending => "pending"
  | .active => "active"
  | .expired => "expired"
  | .revoked => "revoked"

inductive CredentialRevocationReason where
  | ownerInitiated
  | credentialExpired
  | heartbeatTimeout
  | policyViolation
  | reauthorizationRequired
deriving DecidableEq, Repr

/-- Configuration used to issue a new credential. -/
structure CredentialConfig where
  operatorId : String
  chatIds : List String
  policyId : Option String := none
  allow : Option (List PermissionScope) := none
  deny : Option (List PermissionScope) := none
  ttlSeconds : Option Int := none
deriving DecidableEq, Repr

/-- The scope part of a reusable permission policy. -/
structure PolicyConfig where
  allow : List PermissionScope
  deny : List PermissionScope
deriving DecidableEq, Repr

/-- Merge a policy with inline overrides. -/
def resolvePolicy (policy : PolicyConfig)
    (inlineAllow inlineDeny : Option (List PermissionScope)) : ScopeSet where
  allow := policy.allow ++ inlineAllow.getD []
  deny := policy.deny ++ inlineDeny.getD []

/-- The largest distance of a date from the epoch, in milliseconds. -/
def maxDateMs : Int := 8640000000000000

/-- `new Date(ms).toISOString()`: the instant itself, or `none` where the call
throws a `RangeError`. -/
def toISOString (ms : Int) : Option Int :=
  if -maxDateMs ≤ ms ∧ ms ≤ maxDateMs then some ms else none

end Schemas
end Signet
