import Mathlib.Data.List.Basic

/-!
# Reveal requests and reveal access

A reveal makes previously hidden content of one group visible to a credential,
for one message, thread, sender, content type or time window, and for a limited
time or permanently.
-/

namespace Signet
namespace Schemas

/-- Granularity of a reveal operation. -/
inductive RevealScope where
  | message
  | thread
  | timeWindow
  | contentType
  | sender
deriving DecidableEq, Repr

/-- Request to reveal previously hidden content within a group. -/
structure RevealRequest where
  revealId : String
  groupId : String
  scope : RevealScope
  targetId : String
  requestedBy : String
  expiresAt : Option Int
deriving DecidableEq, Repr

/-- Reveal access that makes previously hidden content visible. -/
structure RevealAccess where
  revealId : String
  grantedAt : Int
  grantedBy : String
  expiresAt : Option Int
deriving DecidableEq, Repr

end Schemas
end Signet
