import Signet.Kit.Json
import Signet.Schemas.Seal

/-!
# Signet events

The union of all events the signet can emit to a harness credential.
-/

namespace Signet
namespace Schemas

open Kit

/-- How a message is projected to the agent. -/
inductive MessageVisibility where
  | visible
  | historical
  | hidden
  | revealed
  | redacted
deriving DecidableEq, Repr

/-- Event emitted when a message is surfaced to the harness. -/
structure MessageEvent where
  messageId : String
  groupId : String
  senderInboxId : String
  contentType : String
  content : Json
  visibility : MessageVisibility
  sentAt : String
  sealId : Option String
  threadId : Option String
deriving DecidableEq

/-- Event emitted when previously hidden message content becomes available. -/
structure RevealEvent where
  messageId : String
  groupId : String
  contentType : String
  content : Json
  revealId : String
deriving DecidableEq

/-- Any event the signet may send to a harness. -/
inductive SignetEvent where
  | messageVisible (event : MessageEvent)
  | sealStamped (envelope : SealEnvelope)
  | credentialIssued (credentialId operatorId : String)
  | credentialExpired (credentialId reason : String)
  | credentialReauthorizationRequired (credentialId reason : String)
  | heartbeat (credentialId : String) (timestamp : Int)
  | messageRevealed (event : RevealEvent)
  | scopesUpdated (credentialId : String) (permissions : ScopeSet)
  | agentRevoked (revocation : RevocationSeal)
  | actionConfirmationRequired (actionId actionType : String) (preview : Json)
  | signetRecoveryComplete (caughtUpThrough : Int)
deriving DecidableEq

end Schemas
end Signet
