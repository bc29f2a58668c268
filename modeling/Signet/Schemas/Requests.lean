import Signet.Kit.Json
import Signet.Schemas.PermissionScopes
import Signet.Schemas.Reveal

/-!
# Harness requests

The union of all requests a harness can send over the socket.
-/

namespace Signet
namespace Schemas

open Kit

inductive ReactionAction where
  | added
  | removed
deriving DecidableEq, Repr

inductive RequestBody where
  | sendMessage (groupId contentType : String) (content : Json)
  | sendReaction (groupId messageId : String) (action : ReactionAction) (content : String)
  | sendReply (groupId messageId contentType : String) (content : Json)
  | updateScopes (allow deny : Option (List PermissionScope))
  | revealContent (reveal : RevealRequest)
  | confirmAction (actionId : String) (confirmed : Bool)
  | heartbeat (credentialId : String)
deriving DecidableEq

/-- Any request a harness may send to the signet. -/
structure HarnessRequest where
  requestId : String
  body : RequestBody
deriving DecidableEq

/-- The `type` discriminator of a request. -/
def HarnessRequest.typeName (request : HarnessRequest) : String :=
  match request.body with
  | .sendMessage .. => "send_message"
  | .sendReaction .. => "send_reaction"
  | .sendReply .. => "send_reply"
  | .updateScopes .. => "update_scopes"
  | .revealContent .. => "reveal_content"
  | .confirmAction .. => "confirm_action"
  | .heartbeat .. => "heartbeat"

end Schemas
end Signet
