import Signet.Core.Invite

/-!
# Processing a join request

An incoming message is evaluated as a join request: its invite is parsed and verified,
the tag of the group is looked up, and the requester is added to the group.  The two
calls of the host are awaited, so the processing is given by its segments.

* `extractJoinRequestContent`
* `verifyJoinRequest` — up to the lookup of the tag.
* `checkInviteTag` — up to the addition to the group.
* `processJoinRequest` — the segments together.
-/

namespace Signet
namespace Core

open Kit Schemas

/-- The decoded content of a message, as far as a join request is looked for in it. -/
inductive MessageContent where
  | text (value : String)
  /-- An object with a string `inviteSlug`. -/
  | joinRequest (inviteSlug : String)
  /-- An encoded envelope, with the JSON value of its content unless it has none. -/
  | encoded (content : Option Json)
  | other
deriving DecidableEq

def joinRequestSlug : Json → Option String
  | .object members =>
    match members.lookup "inviteSlug" with
    | some (.string slug) => some slug
    | _ => none
  | _ => none

/-- `extractJoinRequestContent`, as far as the slug goes. -/
def extractJoinRequestContent : MessageContent → Option String
  | .joinRequest inviteSlug => some inviteSlug
  | .encoded content => content.bind joinRequestSlug
  | _ => none

/-- `isJoinRequestContentType` -/
def isJoinRequestContentType (contentType : Option String) : Bool :=
  contentType = some "join_request" || contentType = some "convos.org/join_request:1.0"

/-- The text that should carry the invite of a join request. -/
def inviteText (content : MessageContent) : Option String :=
  match extractJoinRequestContent content with
  | some inviteSlug => some inviteSlug
  | none =>
    match content with
    | .text value => some value
    | _ => none

structure ProcessJoinRequestDeps where
  walletPrivateKeyHex : String
  creatorInboxId : String

structure VerifiedInvite where
  groupId : String
  invite : ParsedConvosInvite
deriving DecidableEq

structure JoinRequestResult where
  groupId : String
  requesterInboxId : String
  inviteTag : String
deriving DecidableEq

def inviteError (reason : String) : SignetError := ValidationError.create "invite" reason

variable (host : InviteHost)

/-- `decryptConversationToken` -/
def decryptConversationToken (tokenBytes : Bytes) (creatorInboxId : String)
    (privateKeyBytes : Bytes) : Except String String :=
  (decryptToken host.toCryptoHost convosInviteCrypto tokenBytes creatorInboxId
    privateKeyBytes).bind unpackConversationId

def verifyInvite (deps : ProcessJoinRequestDeps) (invite : ParsedConvosInvite) :
    Except SignetError VerifiedInvite :=
  -- step 2: expiration
  if invite.isExpired then .error (inviteError "Invite has expired")
  else if invite.isConversationExpired then .error (inviteError "Conversation has expired")
  -- step 3: the signature matches the wallet key
  else if verifySignatureMatchesKey host.toCryptoHost invite.signedInvitePayloadBytes
      invite.signedInviteSignature (hexToBytes deps.walletPrivateKeyHex) = false then
    .error (inviteError "Invite signature does not match creator wallet key")
  -- step 4: the creator matches
  else if invite.creatorInboxId ≠ deps.creatorInboxId then
    .error (inviteError "Invite creator inbox ID does not match")
  else
    -- step 5: the group
    match decryptConversationToken host invite.conversationToken invite.creatorInboxId
        (hexToBytes deps.walletPrivateKeyHex) with
    | .error cause => .error (inviteError ("Failed to decrypt conversation token: " ++ cause))
    | .ok groupId => .ok ⟨groupId, invite⟩

/-- `processJoinRequest`, up to the lookup of the tag. -/
def verifyJoinRequest (now : Int) (deps : ProcessJoinRequestDeps) (content : MessageContent) :
    Except SignetError VerifiedInvite :=
  match nonempty (inviteText content) with
  | none => .error (inviteError "Join request does not contain an invite")
  | some text =>
    match parseConvosInviteUrl host now text with
    | .error error => .error error
    | .ok invite => verifyInvite host deps invite

/-- `processJoinRequest`, from the answer of the tag lookup to the addition: the tag
matches, or none is stored. -/
def checkInviteTag (verified : VerifiedInvite)
    (tagResult : Except SignetError (Option String)) : Except SignetError Unit :=
  match tagResult with
  | .error error => .error error
  | .ok none => .ok ()
  | .ok (some tag) =>
    if tag = verified.invite.tag then .ok ()
    else .error (inviteError "Invite tag does not match the stored tag for this group")

/-- The result once the requester has been added. -/
def joinResult (verified : VerifiedInvite) (senderInboxId : String) : JoinRequestResult :=
  ⟨verified.groupId, senderInboxId, verified.invite.tag⟩

structure JoinRequestAnswers where
  getGroupInviteTag (groupId : String) : Except SignetError (Option String)
  addMembersToGroup (groupId : String) (inboxIds : List String) : Except SignetError Unit

/-- `processJoinRequest` with the answers that the host gives. -/
def processJoinRequest (now : Int) (deps : ProcessJoinRequestDeps) (answers : JoinRequestAnswers)
    (senderInboxId : String) (content : MessageContent) :
    Except SignetError JoinRequestResult := do
  let verified ← verifyJoinRequest host now deps content
  checkInviteTag verified (answers.getGroupInviteTag verified.groupId)
  answers.addMembersToGroup verified.groupId [senderInboxId]
  return joinResult verified senderInboxId

end Core
end Signet
