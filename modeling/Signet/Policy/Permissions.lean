import Signet.Schemas.PermissionScopes
import Signet.Schemas.Errors

/-!
# Permission checks of the send path

Whether a chat is in scope, and whether a resolved scope set allows to send.
-/

namespace Signet
namespace Policy

open Kit Schemas

def checkChatInScope (chatId : String) (chatIds : List String) : Except SignetError Unit :=
  if chatId ∈ chatIds then .ok ()
  else .error (PermissionError.create
    ("Chat '" ++ chatId ++ "' is not in the credential's scoped conversations")
    (some [("chatId", .text chatId)]))

/-- Validate a `send_message` request against the resolved scope set. -/
def validateSendMessage (groupId : String) (scopes : OrderedSet PermissionScope)
    (chatIds : List String) : Except SignetError Unit :=
  match checkChatInScope groupId chatIds with
  | .error error => .error error
  | .ok () =>
    if PermissionScope.send ∈ scopes then .ok ()
    else .error (PermissionError.create "Permission denied: send"
      (some [("scope", .text "send")]))

theorem validateSendMessage_ok_iff {groupId : String} {scopes : OrderedSet PermissionScope}
    {chatIds : List String} :
    validateSendMessage groupId scopes chatIds = .ok () ↔
      groupId ∈ chatIds ∧ PermissionScope.send ∈ scopes := by
  unfold validateSendMessage checkChatInScope
  by_cases hChat : groupId ∈ chatIds
  · by_cases hSend : PermissionScope.send ∈ scopes
    · simp [hChat, hSend]
    · simp [hChat, hSend]
  · simp [hChat]

end Policy
end Signet
