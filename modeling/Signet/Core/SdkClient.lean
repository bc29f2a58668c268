import Signet.Core.InviteCrypto
import Signet.Policy.Pipeline
import Signet.Policy.RevealState
import Signet.Schemas.ContentTypes

/-!
# Content types through the SDK client

A message is sent with a content type in one string.  The client hands the SDK an identifier in
parts, for five built-in types by calls of their own, and of the identifier that a message comes
back with, the decoder takes one part.

* `Content` — what is handed over as content, and the shapes the client looks for.
* `sdkContentTypeId` — the parts of a content type, by the places of its separators.
* `sendMessage`, `toDecodedMessage` — the two ends.
* `sdkContentTypeId_text` — of what the schema accepts the parts are those of the schema.
* `sent_type_kept_iff` — when a message comes back with the content type it was sent with.
-/

namespace Signet
namespace Core
namespace SdkClient

open Kit Schemas Policy

/-! ## Content -/

/-- A value handed over as content. -/
inductive Content where
  | undefined
  | null
  | bool (value : Bool)
  | number (value : Int)
  | string (value : String)
  | bytes (data : List UInt8)
  | array (items : List Content)
  | object (members : List (String × Content))

namespace Content

/-- `content[key]`; what is no object has none of the keys that are read. -/
def property (content : Content) (key : String) : Content :=
  match content with
  | .object members => (members.lookup key).getD .undefined
  | _ => .undefined

def asString : Content → Option String
  | .string value => some value
  | _ => none

/-- `undefined`, or a string. -/
def asOptionalString : Content → Option (Option String)
  | .undefined => some none
  | .string value => some (some value)
  | _ => none

def asNumber : Content → Option Int
  | .number value => some value
  | _ => none

end Content

/-- An identifier in parts; a number that could not be read is missing. -/
structure SdkContentTypeId where
  authorityId : String
  typeId : String
  versionMajor : Option Int
  versionMinor : Option Int
deriving DecidableEq

structure EncodedContent where
  type : SdkContentTypeId
  parameters : Content := .undefined
  content : List UInt8
  fallback : Content := .undefined

/-- `isEncodedContentEnvelope`, with what the SDK reads of the envelope. -/
def isEncodedContentEnvelope (value : Content) : Option EncodedContent :=
  let type := value.property "type"
  match value.property "content", (type.property "authorityId").asString,
    (type.property "typeId").asString with
  | .bytes content, some authorityId, some typeId =>
    some
      { type := ⟨authorityId, typeId, (type.property "versionMajor").asNumber,
          (type.property "versionMinor").asNumber⟩
        parameters := value.property "parameters"
        content := content
        fallback := value.property "fallback" }
  | _, _, _ => none

structure ReplyContent where
  reference : String
  text : String
  referenceInboxId : Option String

def isReplyContent (content : Content) : Option ReplyContent :=
  match (content.property "reference").asString, (content.property "text").asString,
    (content.property "referenceInboxId").asOptionalString with
  | some reference, some text, some referenceInboxId => some ⟨reference, text, referenceInboxId⟩
  | _, _, _ => none

inductive ReactionAction where
  | added
  | removed
deriving DecidableEq

def ReactionAction.ofValue : String → Option ReactionAction
  | "added" => some .added
  | "removed" => some .removed
  | _ => none

inductive ReactionSchema where
  | unicode
  | shortcode
  | custom
deriving DecidableEq

def ReactionSchema.ofValue : String → Option ReactionSchema
  | "unicode" => some .unicode
  | "shortcode" => some .shortcode
  | "custom" => some .custom
  | _ => none

structure ReactionContent where
  reference : String
  referenceInboxId : Option String
  action : ReactionAction
  content : String
  schema : ReactionSchema

def isReactionContent (content : Content) : Option ReactionContent := do
  let reference ← (content.property "reference").asString
  let referenceInboxId ← (content.property "referenceInboxId").asOptionalString
  let action ← (content.property "action").asString >>= ReactionAction.ofValue
  let text ← (content.property "content").asString
  let schema ← (content.property "schema").asString >>= ReactionSchema.ofValue
  return ⟨reference, referenceInboxId, action, text, schema⟩

/-- `formatContentType` -/
def formatContentType (authorityId typeId : String) (versionMajor versionMinor : Nat) : String :=
  authorityId ++ "/" ++ typeId ++ ":" ++ toString versionMajor ++ "." ++ toString versionMinor

structure OnboardingScheme where
  joinRequestContentType : String
  errorContentType : String
  profileUpdateContentType : String
  profileSnapshotContentType : String
  isEncodedContent : Content → Option EncodedContent

/-- The scheme of a client that is created without one. -/
def convosOnboardingScheme : OnboardingScheme where
  joinRequestContentType := formatContentType "convos.org" "join_request" 1 0
  errorContentType := formatContentType "convos.app" "inviteJoinError" 1 0
  profileUpdateContentType := formatContentType "convos.org" "profile_update" 1 0
  profileSnapshotContentType := formatContentType "convos.org" "profile_snapshot" 1 0
  isEncodedContent := isEncodedContentEnvelope

def isOnboardingContentType (scheme : OnboardingScheme) (contentType : String) : Bool :=
  contentType == scheme.joinRequestContentType || contentType == scheme.errorContentType
    || contentType == scheme.profileUpdateContentType
    || contentType == scheme.profileSnapshotContentType

/-! ## Sending -/

/-- `parseInt(text, 10)`; none for `NaN`. -/
def parseInt (text : List Char) : Option Int :=
  let digitsOf (rest : List Char) : Option Int :=
    let digits := rest.takeWhile isDigitChar
    if digits = [] then none
    else some (digits.foldl (fun value c => 10 * value + (c.toNat - '0'.toNat : Nat)) 0)
  match text.dropWhile isWhiteSpace with
  | '-' :: rest => (digitsOf rest).map fun value => -value
  | '+' :: rest => digitsOf rest
  | rest => digitsOf rest

/-- Parse "authority/type:major.minor" format. -/
def sdkContentTypeId (contentType : String) : SdkContentTypeId :=
  let chars := contentType.toList
  let slashIdx := (chars.idxOf? '/').filter fun slash => 0 < slash
  let colonIdx := chars.idxOf? ':'
  let versionStr := match colonIdx.filter fun colon => 0 < colon with
    | some colon => chars.drop (colon + 1)
    | none => "1.0".toList
  let parts := versionStr.splitOn '.'
  { authorityId := match slashIdx with
      | some slash => String.ofList (chars.take slash)
      | none => "xmtp.org"
    typeId := match slashIdx with
      | some slash =>
        match colonIdx.filter fun colon => slash < colon with
        | some colon => String.ofList ((chars.take colon).drop (slash + 1))
        | none => String.ofList (chars.drop (slash + 1))
      | none => contentType
    versionMajor := parseInt (parts[0]?.getD "1".toList)
    versionMinor := parseInt (parts[1]?.getD "0".toList) }

/-- What the client calls on the group. -/
inductive SdkCall where
  | send (content : EncodedContent)
  | sendText (text : Option String)
  | sendReply (reference : String) (referenceInboxId : Option String) (content : EncodedContent)
  | sendReaction (content : ReactionContent)
  | sendReadReceipt

def encodeTextContent (text : String) : EncodedContent where
  type := ⟨"xmtp.org", "text", some 1, some 0⟩
  parameters := .object [("encoding", .string "UTF-8")]
  content := textEncode text

section Sending

variable (scheme : OnboardingScheme) (stringify : Content → Option String)

def resolveTextContent (content : Content) : Option String :=
  match content with
  | .string text => some text
  | content =>
    match content.property "text" with
    | .string text => some text
    | _ => stringify content

/-- `content` as the bytes of a custom content type. -/
def contentBytes (content : Content) : List UInt8 :=
  match content with
  | .string text => textEncode text
  -- no text at all is encoded as the empty one
  | content => textEncode ((stringify content).getD "")

/-- `sendMessage`, on a group that has been found: what is called on it. -/
def sendMessage (content : Content) (contentType : Option String) :
    Except SignetError SdkCall :=
  match contentType with
  | none => .ok (.sendText (resolveTextContent stringify content))
  | some contentType =>
    if contentType = "" ∨ contentType = "xmtp.org/text:1.0" then
      .ok (.sendText (resolveTextContent stringify content))
    else
      match isOnboardingContentType scheme contentType, scheme.isEncodedContent content with
      | true, some encoded => .ok (.send encoded)
      | _, _ =>
        if contentType = "reply" ∨ contentType = "xmtp.org/reply:1.0" then
          match isReplyContent content with
          | none => .error (ValidationError.create "content"
              "Reply messages require text and reference fields")
          | some reply => .ok (.sendReply reply.reference
              (reply.referenceInboxId.filter fun id => id ≠ "") (encodeTextContent reply.text))
        else if contentType = "reaction" ∨ contentType = "xmtp.org/reaction:1.0" then
          match isReactionContent content with
          | none => .error (ValidationError.create "content"
              "Reaction messages require reference, action, content, and schema fields")
          | some reaction => .ok (.sendReaction reaction)
        else if contentType = "readReceipt" ∨ contentType = "xmtp.org/readReceipt:1.0" then
          .ok .sendReadReceipt
        else
          .ok (.send
            { type := sdkContentTypeId contentType
              content := contentBytes stringify content })

end Sending

/-! ## Decoding -/

structure DecodedMessageLike where
  id : String
  conversationId : String
  senderInboxId : String
  contentType : Option SdkContentTypeId
  content : Content
  /-- The ISO text of the date. -/
  sentAt : String

structure XmtpDecodedMessage where
  messageId : String
  groupId : String
  senderInboxId : String
  contentType : String
  content : Content
  sentAt : String
  threadId : Option String

def extractThreadId (content : Content) : Option String := (content.property "reference").asString

/-- Convert an SDK DecodedMessage to signet XmtpDecodedMessage. -/
def toDecodedMessage (msg : DecodedMessageLike) : XmtpDecodedMessage where
  messageId := msg.id
  groupId := msg.conversationId
  senderInboxId := msg.senderInboxId
  contentType := (msg.contentType.map fun contentType => contentType.typeId).getD "unknown"
  content := msg.content
  sentAt := msg.sentAt
  threadId := extractThreadId msg.content

/-- The identifier a call sends its message with. -/
def SdkCall.contentType : SdkCall → SdkContentTypeId
  | .send content => content.type
  | .sendText _ => ⟨"xmtp.org", "text", some 1, some 0⟩
  | .sendReply _ _ _ => ⟨"xmtp.org", "reply", some 1, some 0⟩
  | .sendReaction _ => ⟨"xmtp.org", "reaction", some 1, some 0⟩
  | .sendReadReceipt => ⟨"xmtp.org", "readReceipt", some 1, some 0⟩

/-- The SDK hands a message over with the identifier it was sent with. -/
def PreservesType (deliver : SdkCall → DecodedMessageLike) : Prop :=
  ∀ call, (deliver call).contentType = some call.contentType

/-! ## The parts of an identifier -/

theorem idxOf?_append_cons {c : Char} {before after : List Char} (h : c ∉ before) :
    (before ++ c :: after).idxOf? c = some before.length := by
  rw [List.idxOf?_eq_some_iff]
  refine ⟨by simp, ?_, ?_⟩
  · simp
  · intro j hj
    rw [List.getElem_append_left hj]
    intro hEq
    exact h (hEq ▸ List.getElem_mem hj)

variable {contentType : String}

/-- Of a content type that the schema accepts the client reads the schema's authority and type. -/
theorem sdkContentTypeId_text {parts : ContentTypeParts} (hText : contentType.toList = parts.text) :
    (sdkContentTypeId contentType).authorityId = String.ofList parts.authority ∧
      (sdkContentTypeId contentType).typeId = String.ofList parts.type ∧
      (sdkContentTypeId contentType).versionMajor = parseInt parts.major ∧
      (sdkContentTypeId contentType).versionMinor = parseInt parts.minor := by
  have hSlash : (parts.text.idxOf? '/') = some parts.authority.length :=
    idxOf?_append_cons parts.slash_not_mem_authority
  have hBefore : parts.text = (parts.authority ++ '/' :: parts.type) ++
      ':' :: (parts.major ++ '.' :: parts.minor) := by
    simp [ContentTypeParts.text]
  have hNotColon : ':' ∉ parts.authority ++ '/' :: parts.type := by
    simp [parts.colon_not_mem_authority, parts.colon_not_mem_type]
  have hColon : (parts.text.idxOf? ':') = some (parts.authority ++ '/' :: parts.type).length := by
    rw [hBefore]
    exact idxOf?_append_cons hNotColon
  have hAuthority : 0 < parts.authority.length :=
    List.length_pos_iff.mpr parts.authority_chars.1
  have hLater : parts.authority.length < (parts.authority ++ '/' :: parts.type).length := by
    simp
  have hSlashAt : (some parts.authority.length).filter (fun slash => decide (0 < slash)) =
      some parts.authority.length := by
    simp [hAuthority]
  have hColonAt : (some (parts.authority ++ '/' :: parts.type).length).filter
      (fun colon => decide (0 < colon)) = some (parts.authority ++ '/' :: parts.type).length := by
    rw [Option.filter_some, if_pos]
    exact decide_eq_true (Nat.zero_lt_of_lt hLater)
  have hColonAfter : (some (parts.authority ++ '/' :: parts.type).length).filter
      (fun colon => decide (parts.authority.length < colon)) =
        some (parts.authority ++ '/' :: parts.type).length := by
    simp
  have hVersion : (parts.text.drop ((parts.authority ++ '/' :: parts.type).length + 1)).splitOn '.'
      = [parts.major, parts.minor] := by
    have hDrop : parts.text.drop ((parts.authority ++ '/' :: parts.type).length + 1) =
        parts.major ++ '.' :: parts.minor := by
      rw [hBefore, ← List.drop_drop, List.drop_left]
      rfl
    rw [hDrop, List.splitOn_append_cons_self_of_not_mem parts.dot_not_mem_major,
      List.splitOn_eq_singleton parts.dot_not_mem_minor]
  have hType : (parts.text.take (parts.authority ++ '/' :: parts.type).length).drop
      (parts.authority.length + 1) = parts.type := by
    rw [hBefore, List.take_left, ← List.drop_drop, List.drop_left]
    rfl
  have hFirst : parts.text.take parts.authority.length = parts.authority := List.take_left
  unfold sdkContentTypeId
  simp only [hText, hSlash, hColon, hSlashAt, hColonAt, hColonAfter, hVersion, hType, hFirst]
  exact ⟨trivial, trivial, rfl, rfl⟩

/-! ## What comes back -/

structure TypeKept (contentType : String) (message : XmtpDecodedMessage) : Prop where
  same : message.contentType = contentType
  allowed : ∀ allowlist, contentType ∈ allowlist →
    isContentTypeAllowed message.contentType allowlist = true
  revealed : ∀ parseDate now (entry : RevealEntry), entry.request.scope = .contentType →
    entry.request.targetId = contentType → entry.request.groupId = message.groupId →
      (∀ expiresAt, entry.access.expiresAt = some expiresAt → now < expiresAt) →
        RevealStateStore.entryReveals parseDate now message.messageId message.groupId
          message.threadId message.senderInboxId message.contentType message.sentAt entry = true

theorem TypeKept.of_eq {message : XmtpDecodedMessage} (hSame : message.contentType = contentType) :
    TypeKept contentType message := by
  refine ⟨hSame, ?_, ?_⟩
  · intro allowlist hMem
    rw [hSame]
    exact decide_eq_true hMem
  · intro parseDate now entry hScope hTarget hGroup hUnexpired
    rw [RevealStateStore.entryReveals_iff]
    refine ⟨hUnexpired, hGroup, ?_⟩
    unfold RevealStateStore.Targets
    rw [hScope, hSame]
    exact hTarget

def NamesWhole (scheme : OnboardingScheme) (contentType : String) (content : Content) : Prop :=
  contentType ≠ "xmtp.org/text:1.0" ∧ isOnboardingContentType scheme contentType = true ∧
    ∃ encoded, scheme.isEncodedContent content = some encoded ∧
      encoded.type.typeId = contentType

variable {scheme : OnboardingScheme} {stringify : Content → Option String}

section

variable (hType : isContentTypeId contentType = true)

include hType

theorem ne_empty_of_isContentTypeId : contentType ≠ "" := by
  rintro rfl
  revert hType
  decide

/-- What the client sends of an accepted content type is the content's own envelope, or has a type
without a slash. -/
theorem sendMessage_type {content : Content} {call : SdkCall}
    (hSend : sendMessage scheme stringify content (some contentType) = .ok call) :
    (contentType ≠ "xmtp.org/text:1.0" ∧ isOnboardingContentType scheme contentType = true ∧
        ∃ encoded, scheme.isEncodedContent content = some encoded ∧ call = .send encoded) ∨
      '/' ∉ call.contentType.typeId.toList := by
  unfold sendMessage at hSend
  simp only at hSend
  split at hSend
  · cases hSend
    right
    show '/' ∉ "text".toList
    decide
  · next hText =>
    rw [not_or] at hText
    split at hSend
    · next encoded hOnboarding hEncoded =>
      cases hSend
      exact Or.inl ⟨hText.2, hOnboarding, encoded, hEncoded, rfl⟩
    · right
      split at hSend
      · split at hSend
        · cases hSend
        · cases hSend
          show '/' ∉ "reply".toList
          decide
      · split at hSend
        · split at hSend
          · cases hSend
          · cases hSend
            show '/' ∉ "reaction".toList
            decide
        · split at hSend
          · cases hSend
            show '/' ∉ "readReceipt".toList
            decide
          · cases hSend
            obtain ⟨parts, hParts⟩ := isContentTypeId_iff.mp hType
            show '/' ∉ (sdkContentTypeId contentType).typeId.toList
            rw [(sdkContentTypeId_text hParts).2.1, String.toList_ofList]
            exact parts.slash_not_mem_type

theorem slash_mem_of_isContentTypeId : '/' ∈ contentType.toList := by
  obtain ⟨parts, hParts⟩ := isContentTypeId_iff.mp hType
  rw [hParts]
  exact parts.slash_mem_text

end

/-- A message comes back with the content type it was sent with exactly when the content is an
envelope of the onboarding scheme that names the whole content type as its type. -/
theorem sent_type_kept_iff {deliver : SdkCall → DecodedMessageLike} (hSdk : PreservesType deliver)
    {contentType : String} (hType : isContentTypeId contentType = true) (content : Content) :
    (∃ call, sendMessage scheme stringify content (some contentType) = .ok call ∧
        TypeKept contentType (toDecodedMessage (deliver call))) ↔
      NamesWhole scheme contentType content := by
  have hDecoded : ∀ call,
      (toDecodedMessage (deliver call)).contentType = call.contentType.typeId := by
    intro call
    simp only [toDecodedMessage, hSdk call, Option.map_some, Option.getD_some]
  constructor
  · rintro ⟨call, hSend, hKept⟩
    have hSame : call.contentType.typeId = contentType := (hDecoded call).symm.trans hKept.same
    rcases sendMessage_type hType hSend with ⟨hText, hOnboarding, encoded, hEncoded, rfl⟩ | hSlash
    · exact ⟨hText, hOnboarding, encoded, hEncoded, hSame⟩
    · rw [hSame] at hSlash
      exact absurd (slash_mem_of_isContentTypeId hType) hSlash
  · rintro ⟨hText, hOnboarding, encoded, hEncoded, hWhole⟩
    refine ⟨.send encoded, ?_, TypeKept.of_eq ((hDecoded _).trans hWhole)⟩
    unfold sendMessage
    simp only [ne_empty_of_isContentTypeId hType, hText, or_self, if_false, hOnboarding, hEncoded]

/-! ## Samples -/

/-- Every message is handed over as it was sent. -/
def sampleDeliver (call : SdkCall) : DecodedMessageLike where
  id := "msg_1"
  conversationId := "group_1"
  senderInboxId := "net_1"
  contentType := some call.contentType
  content := .undefined
  sentAt := "2025-01-01T00:00:00.000Z"

/-- An envelope that names a whole content type as its type. -/
def wholeEnvelope : Content :=
  .object [("type", .object [("authorityId", .string "convos.app"),
      ("typeId", .string "convos.app/inviteJoinError:1.0")]),
    ("content", .bytes [])]

theorem wholeEnvelope_kept_iff :
    (∃ call, sendMessage convosOnboardingScheme (fun _ => none) wholeEnvelope
          (some "convos.app/inviteJoinError:1.0") = .ok call ∧
        TypeKept "convos.app/inviteJoinError:1.0" (toDecodedMessage (sampleDeliver call))) ↔
      NamesWhole convosOnboardingScheme "convos.app/inviteJoinError:1.0" wholeEnvelope :=
  sent_type_kept_iff (fun _ => rfl) (by decide) wholeEnvelope

/-- A text comes back as a `text`, and no reveal of the content type it was sent with is one of
it. -/
theorem text_not_kept :
    isContentTypeId "xmtp.org/text:1.0" = true ∧ PreservesType sampleDeliver ∧
      ¬∃ call, sendMessage convosOnboardingScheme (fun _ => none) (.string "hi")
          (some "xmtp.org/text:1.0") = .ok call ∧
        TypeKept "xmtp.org/text:1.0" (toDecodedMessage (sampleDeliver call)) := by
  refine ⟨by decide, fun _ => rfl, ?_⟩
  rintro ⟨call, hSend, hKept⟩
  cases hSend
  have hSame : "text" = "xmtp.org/text:1.0" := hKept.same
  revert hSame
  decide

end SdkClient
end Core
end Signet
