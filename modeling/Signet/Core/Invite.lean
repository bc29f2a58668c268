import Signet.Core.InviteCrypto
import Signet.Kit.Base64

/-!
# Convos invites

Generating the slug of an invite, and parsing a slug or a URL that carries one.  The
two messages inside are written and read by the protobuf library, and a URL by the
host; `InviteHost` has both next to the cryptography.

* `packConversationId`, `unpackConversationId`
* `generateConvosInviteSlug`
* `parseConvosInviteUrl`
-/

namespace Signet
namespace Core

open Kit Schemas

/-! ## Conversation ids -/

/-- Preferred packing strategy for a conversation id. -/
inductive ConversationIdFormat where
  | uuid
  | string
deriving DecidableEq

/-- The thirty-two digits of a canonical UUID. -/
def uuidMatch (conversationId : String) : Option String :=
  let chars := conversationId.toList
  let groups := [chars.take 8, (chars.drop 9).take 4, (chars.drop 14).take 4,
    (chars.drop 19).take 4, chars.drop 24]
  let digits := groups.flatten
  if chars.length = 36 ∧ (∀ i ∈ [8, 13, 18, 23], chars[i]? = some '-') ∧
      digits.all (fun c => (hexValue c).isSome) then some (String.ofList digits)
  else none

/-- `packConversationId` -/
def packConversationId (conversationId : String) (format : Option ConversationIdFormat) :
    Except String Bytes :=
  let found := uuidMatch conversationId
  let shouldUseUuidEncoding :=
    match format with
    | some .uuid => true
    | some .string => false
    | none => found.isSome
  if shouldUseUuidEncoding then
    match found with
    | none => .error ("Conversation ID format \"uuid\" requires a canonical UUID: "
        ++ conversationId)
    | some hex => .ok (0x01 :: hexToBytes hex)
  else
    let strBytes := textEncode conversationId
    if strBytes.length ≤ 255 then .ok (0x02 :: UInt8.ofNat strBytes.length :: strBytes)
    else .ok (0x02 :: 0x00 :: UInt8.ofNat (strBytes.length / 256) ::
      UInt8.ofNat strBytes.length :: strBytes)

/-- The digits of a packed UUID with its dashes. -/
def dashed (hex : String) : String :=
  let chars := hex.toList
  String.ofList (chars.take 8 ++ '-' :: ((chars.drop 8).take 4 ++ '-' ::
    ((chars.drop 12).take 4 ++ '-' :: ((chars.drop 16).take 4 ++ '-' :: chars.drop 20))))

/-- `unpackConversationId` -/
def unpackConversationId : Bytes → Except String String
  | 0x01 :: rest => .ok (dashed (bytesToHex (rest.take 16)))
  | 0x02 :: rest =>
    match rest with
    | [] => .error "Invalid packed conversation ID"
    | 0x00 :: high :: low :: text =>
      .ok (textDecode (text.take (high.toNat * 256 + low.toNat)))
    | 0x00 :: _ => .error "Invalid packed conversation ID length"
    | length :: text => .ok (textDecode (text.take length.toNat))
  | data => .error ("Unknown conversation ID tag: " ++ byteText data.head?)

/-! ## Messages -/

structure InvitePayload where
  conversationToken : Bytes
  creatorInboxId : Bytes
  tag : String
  name : Option String := none
  description : Option String := none
  imageURL : Option String := none
  conversationExpiresAtUnix : Option Int := none
  expiresAtUnix : Option Int := none
  expiresAfterUse : Bool
deriving DecidableEq

structure SignedInvite where
  payload : Bytes
  signature : Bytes
deriving DecidableEq

/-- What the URL parser of the host makes of a text. -/
structure ParsedUrl where
  searchParams : String → Option String
  pathname : String

/-- The host: cryptography, protobuf messages and URLs. -/
structure InviteHost extends CryptoHost where
  /-- `InvitePayloadType.verify` -/
  verifyPayload (payload : InvitePayload) : Option String
  encodePayload (payload : InvitePayload) : Except String Bytes
  decodePayload (data : Bytes) : Except String InvitePayload
  encodeSigned (invite : SignedInvite) : Except String Bytes
  decodeSigned (data : Bytes) : Except String SignedInvite
  /-- `new URL(text)` -/
  parseUrl (text : String) : Option ParsedUrl

variable (host : InviteHost)

/-! ## Generating -/

structure GenerateInviteSlugOptions where
  conversationId : String
  conversationIdFormat : Option ConversationIdFormat := none
  creatorInboxId : String
  walletPrivateKeyHex : String
  inviteTag : String
  name : Option String := none
  description : Option String := none
  imageUrl : Option String := none
  expiresAt : Option Int := none
  expiresAfterUse : Option Bool := none

/-- The character of a sextet in the alphabet for URLs. -/
def urlDigit (n : Nat) : Char :=
  let c := Base64.digit n
  if c = '+' then '-' else if c = '/' then '_' else c

/-- `base64UrlEncode` -/
def base64UrlEncode (data : Bytes) : String :=
  String.ofList ((Base64.sextets data).map urlDigit)

/-- The characters with a separator after every so many of them; `room` is how many may
still come before the next one. -/
def separated (sep : Char) (every : Nat) : Nat → List Char → List Char
  | _, [] => []
  | 0, c :: rest => sep :: c :: separated sep every (every - 1) rest
  | room + 1, c :: rest => c :: separated sep every room rest

/-- `insertSeparators` with one character as the separator. -/
def insertSeparators (text : String) (sep : Char) (every : Nat) : String :=
  String.ofList (separated sep every every text.toList)

def generatedPayload (opts : GenerateInviteSlugOptions) (conversationToken : Bytes) :
    InvitePayload :=
  { conversationToken := conversationToken
    creatorInboxId := hexToBytes opts.creatorInboxId
    tag := opts.inviteTag
    name := opts.name
    description := opts.description
    imageURL := opts.imageUrl
    expiresAtUnix := opts.expiresAt.map fun ms => ms / 1000
    expiresAfterUse := opts.expiresAfterUse.getD false }

/-- The body of `generateConvosInviteSlug`; what it throws is an error here. -/
def buildInviteSlug (opts : GenerateInviteSlugOptions) (nonce : Bytes) :
    Except String (Except SignetError String) := do
  let privateKeyBytes := hexToBytes opts.walletPrivateKeyHex
  -- step 1: encrypt the conversation id
  let packed ← packConversationId opts.conversationId opts.conversationIdFormat
  let conversationToken := encryptToken host.toCryptoHost convosInviteCrypto nonce packed
    opts.creatorInboxId privateKeyBytes
  -- step 2: build the payload
  let payload := generatedPayload opts conversationToken
  match host.verifyPayload payload with
  | some message => return .error (InternalError.create ("Invalid invite payload: " ++ message))
  | none =>
    let payloadBytes ← host.encodePayload payload
    -- step 3: sign its hash
    let signature ← sign host.toCryptoHost payloadBytes privateKeyBytes
    -- step 4: wrap it, compress it if beneficial
    let signedInviteBytes ← host.encodeSigned ⟨payloadBytes, signature⟩
    let compressed := compress host.toCryptoHost convosInviteCrypto signedInviteBytes
    -- step 5: encode it and insert separators
    return .ok (insertSeparators (base64UrlEncode compressed) '*' 300)

/-- `generateConvosInviteSlug`; the nonce is the one drawn for the token. -/
def generateConvosInviteSlug (opts : GenerateInviteSlugOptions) (nonce : Bytes) :
    Except SignetError String :=
  match buildInviteSlug host opts nonce with
  | .error cause => .error (InternalError.create ("Failed to generate invite slug: " ++ cause))
  | .ok result => result

/-! ## Parsing -/

structure ParsedConvosInvite where
  signedInvitePayloadBytes : Bytes
  signedInviteSignature : Bytes
  conversationToken : Bytes
  creatorInboxId : String
  tag : String
  name : Option String
  description : Option String
  imageUrl : Option String
  isExpired : Bool
  isConversationExpired : Bool
  expiresAfterUse : Bool
deriving DecidableEq

/-- `trim` -/
def trimmed (text : String) : String :=
  String.ofList (((text.toList.dropWhile isWhiteSpace).reverse.dropWhile isWhiteSpace).reverse)

/-- A text that is there and not empty. -/
def nonempty (text : Option String) : Option String := text.filter fun text => text ≠ ""

def lastPathPart (pathname : String) : Option String :=
  ((pathname.toList.splitOn '/').filter fun part => part ≠ []).getLast?.map String.ofList

/-- `extractSlug` -/
def extractSlug (input : String) : String :=
  match host.parseUrl (trimmed input) with
  | none => trimmed input
  | some url =>
    (((nonempty (url.searchParams "i")).or (nonempty (url.searchParams "code"))).or
      (lastPathPart url.pathname)).getD (trimmed input)

def withoutSeparators (slug : String) : List Char := slug.toList.filter fun c => c ≠ '*'

/-- `base64UrlDecode` of the characters of a text. -/
def base64UrlDecode (chars : List Char) : Bytes :=
  let base64 := chars.map fun c => if c = '-' then '+' else if c = '_' then '/' else c
  let padding := List.replicate ((4 - base64.length % 4) % 4) '='
  Base64.bytes ((base64 ++ padding).filterMap Base64.value)

/-- A time that is given, not zero and past. -/
def isPast (nowUnix : Int) (time : Option Int) : Bool :=
  match time with
  | none => false
  | some time => decide (time ≠ 0) && decide (time < nowUnix)

def missingField (reason : String) : SignetError := ValidationError.create "inviteUrl" reason

/-- The body of `parseConvosInviteUrl` from the decoding of the messages on. -/
def parseSignedInvite (now : Int) (decompressed : Bytes) :
    Except String (Except SignetError ParsedConvosInvite) := do
  let signedInvite ← host.decodeSigned decompressed
  if signedInvite.payload = [] ∨ signedInvite.signature = [] then
    return .error (missingField "Invalid SignedInvite: missing payload or signature")
  let payload ← host.decodePayload signedInvite.payload
  if payload.creatorInboxId = [] then
    return .error (missingField "Invalid InvitePayload: missing creatorInboxId")
  if payload.tag = "" then
    return .error (missingField "Invalid InvitePayload: missing tag")
  let nowUnix := now / 1000
  return .ok
    { signedInvitePayloadBytes := signedInvite.payload
      signedInviteSignature := signedInvite.signature
      conversationToken := payload.conversationToken
      creatorInboxId := bytesToHex payload.creatorInboxId
      tag := payload.tag
      name := nonempty payload.name
      description := nonempty payload.description
      imageUrl := nonempty payload.imageURL
      isExpired := isPast nowUnix payload.expiresAtUnix
      isConversationExpired := isPast nowUnix payload.conversationExpiresAtUnix
      expiresAfterUse := payload.expiresAfterUse }

/-- `parseConvosInviteUrl`, at a clock reading in milliseconds. -/
def parseConvosInviteUrl (now : Int) (input : String) : Except SignetError ParsedConvosInvite :=
  let decoded := base64UrlDecode (withoutSeparators (extractSlug host input))
  if decoded = [] then .error (ValidationError.create "inviteUrl" "Empty invite data")
  else
    match decompress host.toCryptoHost convosInviteCrypto "inviteUrl" decoded with
    | .error error => .error error
    | .ok decompressed =>
      match parseSignedInvite host now decompressed with
      | .error cause =>
        .error (ValidationError.create "inviteUrl" ("Failed to parse invite: " ++ cause))
      | .ok result => result

end Core
end Signet
