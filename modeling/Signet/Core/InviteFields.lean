import Signet.Core.InviteRoundTrip

/-!
# The fields of an invite

An invite is shown to the one who opens it: who made it, for which tag, with which name, and
whether it has expired.  It is opened by its slug or by the URL that carries the slug.

* `encodeURIComponent`, `generateConvosInviteUrl`
* `parse_url` — the URL is read like its slug.
* `ShowsFields` — the invite that is read says what the options said.
* `invite_fields_iff` — exactly when it does.
-/

namespace Signet
namespace Core

open Kit Schemas

/-! ## URLs -/

/-- The characters that a component of a URL keeps. -/
def isUnreserved (c : Char) : Bool :=
  ('A' ≤ c && c ≤ 'Z') || ('a' ≤ c && c ≤ 'z') || ('0' ≤ c && c ≤ '9') ||
    c ∈ ['-', '_', '.', '!', '~', '*', '\'', '(', ')']

/-- A byte behind a percent sign. -/
def percentEncoded (byte : UInt8) : List Char :=
  ['%', (Json.hexDigit (byte.toNat / 16)).toUpper, (Json.hexDigit (byte.toNat % 16)).toUpper]

/-- `encodeURIComponent` -/
def encodeURIComponent (text : String) : String :=
  String.ofList (text.toList.flatMap fun c =>
    if isUnreserved c then [c] else (Utf8.charBytes c).flatMap percentEncoded)

inductive InviteEnv where
  | production
  | dev
  | «local»
deriving DecidableEq

/-- Where the invites of an environment are opened. -/
def inviteBaseUrl : Option InviteEnv → String
  | some .dev | some .local => "https://dev.convos.org/v2"
  | some .production | none => "https://popup.convos.org/v2"

/-- `generateConvosInviteUrl`, with the nonce that is drawn for the token. -/
def generateConvosInviteUrl (host : InviteHost) (opts : GenerateInviteSlugOptions)
    (env : Option InviteEnv) (nonce : Bytes) : Except SignetError String :=
  match generateConvosInviteSlug host opts nonce with
  | .error error => .error error
  | .ok slug => .ok (inviteBaseUrl env ++ "?i=" ++ encodeURIComponent slug)

/-- A URL with one parameter of plain characters is parsed, and the parameter is what was
written. -/
def ReadsQuery (host : InviteHost) : Prop :=
  ∀ (env : Option InviteEnv) (value : String), (∀ c ∈ value.toList, isUnreserved c = true) →
    ∃ url, host.parseUrl (inviteBaseUrl env ++ "?i=" ++ value) = some url ∧
      url.searchParams "i" = some value

theorem encodeURIComponent_of_unreserved {text : String}
    (h : ∀ c ∈ text.toList, isUnreserved c = true) : encodeURIComponent text = text := by
  have hSame : text.toList.flatMap (fun c =>
      if isUnreserved c then [c] else (Utf8.charBytes c).flatMap percentEncoded) =
        text.toList.flatMap fun c => [c] :=
    List.flatMap_congr fun c hc => if_pos (h c hc)
  rw [encodeURIComponent, hSame, List.flatMap_singleton', String.ofList_toList]

set_option maxRecDepth 20000 in
theorem urlDigit_unreserved {n : Nat} (h : n < 64) : isUnreserved (urlDigit n) = true := by
  have hAll : ∀ n < 64, isUnreserved (urlDigit n) = true := by decide
  exact hAll n h

/-- A slug has only characters that a URL keeps. -/
theorem slugOf_unreserved (data : Bytes) : ∀ c ∈ (slugOf data).toList, isUnreserved c = true := by
  intro c hc
  rw [slugOf_chars] at hc
  rcases mem_separated hc with rfl | hMem
  · decide
  · obtain ⟨n, hn, rfl⟩ := List.mem_map.mp hMem
    exact urlDigit_unreserved (Base64.sextets_lt data n hn)

set_option maxRecDepth 20000 in
theorem inviteBaseUrl_plain (env : Option InviteEnv) :
    ∀ c ∈ (inviteBaseUrl env ++ "?i=").toList, isWhiteSpace c = false := by
  have hDev : ("https://dev.convos.org/v2" ++ "?i=").toList.all (!isWhiteSpace ·) = true := by
    decide
  have hPopup : ("https://popup.convos.org/v2" ++ "?i=").toList.all (!isWhiteSpace ·) = true := by
    decide
  intro c hc
  rw [← Bool.not_eq_true']
  match env with
  | none | some .production => exact List.all_eq_true.mp hPopup c hc
  | some .dev | some .local => exact List.all_eq_true.mp hDev c hc

variable {host : InviteHost} {opts : GenerateInviteSlugOptions} {nonce : Bytes} {slug : String}
variable {packed payloadBytes signature signedBytes : Bytes}

section

variable (hLawful : host.Lawful) (hReads : ReadsQuery host)
  (h : Generated host opts nonce slug packed payloadBytes signature signedBytes)

include hLawful hReads h

theorem extractSlug_url (env : Option InviteEnv) :
    extractSlug host (inviteBaseUrl env ++ "?i=" ++ encodeURIComponent slug) = slug := by
  have hPlain : ∀ c ∈ slug.toList, isUnreserved c = true := by
    rw [h.slug_eq]
    exact slugOf_unreserved _
  have hTrimmed : trimmed (inviteBaseUrl env ++ "?i=" ++ slug) =
      inviteBaseUrl env ++ "?i=" ++ slug := by
    apply trimmed_of_plain
    intro c hc
    rw [String.toList_append, List.mem_append] at hc
    rcases hc with hBase | hSlug
    · exact inviteBaseUrl_plain env c hBase
    · rw [h.slug_eq] at hSlug
      exact (slugOf_plain hSlug).2
  obtain ⟨url, hUrl, hParam⟩ := hReads env slug hPlain
  -- nothing in a slug is escaped, so the parameter is the slug itself
  rw [encodeURIComponent_of_unreserved hPlain]
  unfold extractSlug
  rw [hTrimmed, hUrl]
  dsimp only
  rw [hParam, nonempty_slug hLawful h]
  rfl

/-- The URL is read like its slug. -/
theorem parse_url (env : Option InviteEnv) (now : Int) :
    parseConvosInviteUrl host now (inviteBaseUrl env ++ "?i=" ++ encodeURIComponent slug) =
      parseConvosInviteUrl host now slug := by
  have hSlug : extractSlug host slug = slug := by
    rw [h.slug_eq]
    exact extractSlug_slugOf hLawful _
  unfold parseConvosInviteUrl
  rw [extractSlug_url hLawful hReads h env, hSlug]

end

/-! ## Inbox ids -/

/-- The characters of an inbox id without `0x`. -/
def without0x (inboxId : String) : List Char :=
  match inboxId.toList with
  | '0' :: 'x' :: rest => rest
  | chars => chars

/-- An inbox id that is written by its bytes: two digits for each of them, after `0x` or not. -/
structure HexInbox (inboxId : String) : Prop where
  digits : ∀ c ∈ without0x inboxId, c ∈ hexDigits
  even : (without0x inboxId).length % 2 = 0
  some : without0x inboxId ≠ []

theorem hexToBytes_eq (inboxId : String) : hexToBytes inboxId = pairBytes (without0x inboxId) := by
  by_cases hStart : ∃ rest, inboxId.toList = '0' :: 'x' :: rest
  · obtain ⟨rest, hText⟩ := hStart
    have hBytes : hexToBytes inboxId = pairBytes rest := by
      unfold hexToBytes
      simp only [hText]
    have hWithout : without0x inboxId = rest := by
      unfold without0x
      simp only [hText]
    rw [hBytes, hWithout]
  · have hBytes : hexToBytes inboxId = pairBytes inboxId.toList := by
      unfold hexToBytes
      split
      · next rest hText => exact absurd ⟨rest, hText⟩ hStart
      · rfl
    have hWithout : without0x inboxId = inboxId.toList := by
      unfold without0x
      split
      · next rest hText => exact absurd ⟨rest, hText⟩ hStart
      · rfl
    rw [hBytes, hWithout]

theorem mem_hexDigits_of_toLower {c : Char} (h : c.toLower ∈ hexDigits) : c ∈ hexDigits := by
  have hAll : ∀ n < 91, (Char.ofNat n).toLower ∈ hexDigits → Char.ofNat n ∈ hexDigits := by
    decide
  by_cases hUpper : c.val ≥ 'A'.val ∧ c.val ≤ 'Z'.val
  · have hAscii : c.toNat < 91 := Nat.lt_of_le_of_lt hUpper.2 (by decide)
    have hChar := hAll c.toNat hAscii
    rw [Char.ofNat_toNat] at hChar
    exact hChar h
  · unfold Char.toLower at h
    rwa [dif_neg hUpper] at h

theorem HexInbox.bytes_ne_nil {inboxId : String} (h : HexInbox inboxId) :
    hexToBytes inboxId ≠ [] := by
  intro hEmpty
  -- two digits or more make a byte
  have hLength := pairBytes_length (without0x inboxId)
  rw [← hexToBytes_eq, hEmpty, List.length_nil] at hLength
  have hSome := List.length_pos_of_ne_nil h.some
  have hEven := h.even
  omega

/-- The bytes of an inbox id are written as its digits in lower case exactly where it is written
by its bytes. -/
theorem bytesToHex_without0x_iff (inboxId : String) :
    bytesToHex (hexToBytes inboxId) = String.ofList ((without0x inboxId).map Char.toLower) ↔
      (∀ c ∈ without0x inboxId, c ∈ hexDigits) ∧ (without0x inboxId).length % 2 = 0 := by
  constructor
  · intro hBack
    have hCanonical := canonical_bytesToHex (hexToBytes inboxId)
    rw [hBack] at hCanonical
    have hDigits := hCanonical.digits
    have hEven := hCanonical.even
    rw [String.toList_ofList] at hDigits hEven
    rw [List.length_map] at hEven
    refine ⟨fun c hc => ?_, hEven⟩
    exact mem_hexDigits_of_toLower (hDigits _ (List.mem_map_of_mem hc)).1
  · rintro ⟨hDigits, hEven⟩
    rw [hexToBytes_eq, bytesToHex_eq, digits_pairBytes _ hDigits hEven]

/-! ## What the invite says -/

/-- The invite that is read says what the options said, at a clock reading in milliseconds. -/
structure ShowsFields (now : Int) (opts : GenerateInviteSlugOptions) (invite : ParsedConvosInvite) :
    Prop where
  tag : invite.tag = opts.inviteTag
  expiresAfterUse : invite.expiresAfterUse = opts.expiresAfterUse.getD false
  name : invite.name = nonempty opts.name
  description : invite.description = nonempty opts.description
  imageUrl : invite.imageUrl = nonempty opts.imageUrl
  creator : invite.creatorInboxId = String.ofList ((without0x opts.creatorInboxId).map Char.toLower)
  expired : invite.isExpired = true ↔ ∃ ms, opts.expiresAt = some ms ∧ ms / 1000 < now / 1000

/-- The slug and the URL are read alike, and say what the options said. -/
def InviteShown (host : InviteHost) (now : Int) (opts : GenerateInviteSlugOptions)
    (env : Option InviteEnv) (nonce : Bytes) (slug : String) : Prop :=
  ∃ url invite, generateConvosInviteUrl host opts env nonce = .ok url ∧
    parseConvosInviteUrl host now slug = .ok invite ∧
    parseConvosInviteUrl host now url = .ok invite ∧ ShowsFields now opts invite

/-- The times of the options are those of a `Date` from 1970 on. -/
def DatesFrom1970 (opts : GenerateInviteSlugOptions) : Prop :=
  ∀ ms ∈ opts.expiresAt, 0 ≤ ms ∧ ms ≤ 8640000000000000

theorem DatesFrom1970.inRange (h : DatesFrom1970 opts) : DatesInRange opts := by
  intro ms hMs
  obtain ⟨hLow, hHigh⟩ := h ms hMs
  exact ⟨by omega, hHigh⟩

/-- The invite is over, but its time is in the first second of 1970, which is written as no time
at all. -/
def LostExpiry (now : Int) (opts : GenerateInviteSlugOptions) : Prop :=
  ∃ ms, opts.expiresAt = some ms ∧ ms < 1000 ∧ 1000 ≤ now

/-- A time that has been written is past exactly where it was, unless it was lost. -/
theorem isPast_iff (hDates : DatesFrom1970 opts) (now : Int) :
    (isPast (now / 1000) (opts.expiresAt.map fun ms => ms / 1000) = true ↔
      ∃ ms, opts.expiresAt = some ms ∧ ms / 1000 < now / 1000) ↔ ¬ LostExpiry now opts := by
  cases hExpires : opts.expiresAt with
  | none => simp [isPast, LostExpiry, hExpires]
  | some ms =>
    obtain ⟨hLow, -⟩ := hDates ms (by rw [hExpires]; rfl)
    simp only [isPast, LostExpiry, hExpires, Option.map_some, Option.some.injEq, exists_eq_left',
      Bool.and_eq_true, decide_eq_true_eq, ne_eq, not_and]
    omega

theorem showsFields_iff (hDates : DatesFrom1970 opts) (now : Int) :
    ShowsFields now opts (parsedInvite now (payloadOf host opts nonce packed) payloadBytes
        signature) ↔
      ((∀ c ∈ without0x opts.creatorInboxId, c ∈ hexDigits) ∧
        (without0x opts.creatorInboxId).length % 2 = 0) ∧ ¬ LostExpiry now opts := by
  rw [← bytesToHex_without0x_iff, ← isPast_iff hDates now]
  constructor
  · intro hShows
    exact ⟨hShows.creator, hShows.expired⟩
  · rintro ⟨hCreator, hExpired⟩
    exact
      { tag := rfl
        expiresAfterUse := rfl
        name := rfl
        description := rfl
        imageUrl := rfl
        creator := hCreator
        expired := hExpired }

theorem Generated.url_ok
    (h : Generated host opts nonce slug packed payloadBytes signature signedBytes)
    (env : Option InviteEnv) :
    generateConvosInviteUrl host opts env nonce =
      .ok (inviteBaseUrl env ++ "?i=" ++ encodeURIComponent slug) := by
  unfold generateConvosInviteUrl
  rw [h.ok]

/-- **The fields of an invite.**  The slug and the URL that are made from options with a tag say
what the options said exactly where the inbox id is written by its bytes, the message is taken
when it comes back, and a time of the first second of 1970 is not past yet. -/
theorem invite_fields_iff (hLawful : host.Lawful) (hReads : ReadsQuery host)
    (hGenerated : generateConvosInviteSlug host opts nonce = .ok slug) (hTag : opts.inviteTag ≠ "")
    (hDates : DatesFrom1970 opts) (env : Option InviteEnv) (now : Int) :
    InviteShown host now opts env nonce slug ↔
      HexInbox opts.creatorInboxId ∧
        (∀ bytes, signedInviteBytes host opts nonce = .ok bytes → Fits host bytes) ∧
        ¬ LostExpiry now opts := by
  obtain ⟨packed, payloadBytes, signature, signedBytes, h⟩ := generated_of_ok hGenerated
  have hParse := parse_generated_iff hLawful hDates.inRange h now
  have hUrl := parse_url hLawful hReads h env now
  constructor
  · rintro ⟨url, invite, -, hSlug, -, hShows⟩
    -- what is read is the payload of the options, so its fields can be compared
    obtain ⟨⟨hBytes, -, hFits⟩, rfl⟩ := (hParse invite).mp hSlug
    obtain ⟨⟨hDigits, hEven⟩, hKept⟩ := (showsFields_iff hDates now).mp hShows
    refine ⟨⟨hDigits, hEven, ?_⟩, ?_, hKept⟩
    · intro hNone
      rw [hexToBytes_eq, hNone] at hBytes
      exact hBytes rfl
    · intro bytes hOk
      rw [h.signedInviteBytes] at hOk
      cases hOk
      exact hFits
  · rintro ⟨hHex, hFits, hKept⟩
    let invite := parsedInvite now (payloadOf host opts nonce packed) payloadBytes signature
    have hSlug := (hParse invite).mpr
      ⟨⟨hHex.bytes_ne_nil, hTag, hFits _ h.signedInviteBytes⟩, rfl⟩
    exact ⟨_, invite, h.url_ok env, hSlug, hUrl.trans hSlug,
      (showsFields_iff hDates now).mpr ⟨⟨hHex.digits, hHex.even⟩, hKept⟩⟩

/-! ## An invite that is over at the epoch -/

def epochOptions : GenerateInviteSlugOptions := { textInvite.options with expiresAt := some 0 }

def epochPayload : InvitePayload := { textInvite.payload with expiresAtUnix := some 0 }

/-- The payload in the wire format. -/
def epochPayloadBytes : Bytes :=
  0x0A :: 36 :: (textInvite.token ++ [0x12, 2, 0xAA, 0xBB, 0x1A, 3, 0x74, 0x61, 0x67, 0x41] ++
    zeros 8 ++ [0x48, 0])

def epochSigned : SignedInvite := ⟨epochPayloadBytes, sampleKey ++ zeros 33⟩

/-- The signed invite in the wire format. -/
def epochSignedBytes : Bytes :=
  0x0A :: 58 :: (epochPayloadBytes ++ 0x12 :: 65 :: epochSigned.signature)

/-- The signed invite when it is deflated. -/
def epochDeflated : Bytes :=
  [120, 156, 227, 178, 226, 82, 97, 100, 64, 2, 76, 172, 233, 69, 249, 165, 5, 12, 104, 64, 136,
    105, 213, 110, 41, 230, 146, 196, 116, 71, 152, 136, 7, 131, 144, 35, 186, 42, 52, 192, 72, 64,
    158, 129, 1, 0, 72, 15, 6, 87]

def popupBase : String := "https://popup.convos.org/v2?i="

def devBase : String := "https://dev.convos.org/v2?i="

/-- The parameter of the URL of an invite. -/
def queryOf (text : String) : Option String :=
  if popupBase.toList <+: text.toList then
    some (String.ofList (text.toList.drop popupBase.toList.length))
  else if devBase.toList <+: text.toList then
    some (String.ofList (text.toList.drop devBase.toList.length))
  else none

/-- A host for the invite: other messages are neither written nor read. -/
def epochHost : InviteHost :=
  { textInvite.host with
    deflate := fun data => if data = epochSignedBytes then epochDeflated else 0 :: data
    inflate := fun limit data =>
      let inflated := if data = epochDeflated then epochSignedBytes else data.tail
      if inflated.length ≤ limit then .ok inflated else .error "too large"
    encodePayload := fun payload =>
      if payload = epochPayload then .ok epochPayloadBytes else .error "no sample"
    decodePayload := fun data =>
      if data = epochPayloadBytes then .ok epochPayload else .error "no sample"
    encodeSigned := fun invite =>
      if invite = epochSigned then .ok epochSignedBytes else .error "no sample"
    decodeSigned := fun data =>
      if data = epochSignedBytes then .ok epochSigned else .error "no sample"
    parseUrl := fun text =>
      (queryOf text).map fun value => ⟨fun name => if name = "i" then some value else none, "/v2"⟩ }

theorem epochHost_inflate (limit : Nat) (data : Bytes) :
    epochHost.inflate limit (epochHost.deflate data) =
      if data.length ≤ limit then .ok data else .error "too large" := by
  simp only [epochHost]
  by_cases hSample : data = epochSignedBytes
  · simp only [hSample, if_true]
  · have hOther : (0 :: data : Bytes) ≠ epochDeflated := by
      intro hEq
      cases hEq
    simp only [if_neg hSample, if_neg hOther, List.tail_cons]

theorem queryOf_popup (value : String) : queryOf (popupBase ++ value) = some value := by
  unfold queryOf
  rw [String.toList_append, if_pos (List.prefix_append _ _), List.drop_left, String.ofList_toList]

theorem queryOf_dev (value : String) : queryOf (devBase ++ value) = some value := by
  have hOther : ¬ popupBase.toList <+: devBase.toList ++ value.toList := by
    rintro ⟨rest, hRest⟩
    have hPopup : (popupBase.toList ++ rest)[8]? = some 'p' := rfl
    have hDev : (devBase.toList ++ value.toList)[8]? = some 'd' := rfl
    -- the two URLs differ behind `https://`
    rw [hRest, hDev] at hPopup
    cases hPopup
  unfold queryOf
  rw [String.toList_append, if_neg hOther, if_pos (List.prefix_append _ _), List.drop_left,
    String.ofList_toList]

theorem queryOf_base (env : Option InviteEnv) (value : String) :
    queryOf (inviteBaseUrl env ++ "?i=" ++ value) = some value := by
  match env with
  | none | some .production => exact queryOf_popup value
  | some .dev | some .local => exact queryOf_dev value

theorem queryOf_none {text : String} (h : ':' ∉ text.toList) : queryOf text = none := by
  have hNone : ∀ base : String, ':' ∈ base.toList → ¬ base.toList <+: text.toList := by
    intro base hMem hBase
    exact h (hBase.subset hMem)
  unfold queryOf
  rw [if_neg (hNone _ (by decide)), if_neg (hNone _ (by decide))]

theorem epochHost_lawful : epochHost.Lawful where
  decrypt_encrypt := textInvite.host_lawful.decrypt_encrypt
  sign_recover := textInvite.host_lawful.sign_recover
  payload_read := by
    intro payload bytes _ _ hEncode
    simp only [epochHost] at hEncode ⊢
    split at hEncode
    · next hPayload =>
      cases hEncode
      rw [hPayload]
      exact ⟨List.cons_ne_nil _ _, if_pos rfl⟩
    · cases hEncode
  signed_read := by
    intro invite bytes hEncode
    simp only [epochHost] at hEncode ⊢
    split at hEncode
    · next hInvite =>
      cases hEncode
      rw [hInvite]
      exact ⟨rfl, if_pos rfl⟩
    · cases hEncode
  inflate_deflate := by
    intro limit data hFew
    rw [epochHost_inflate, if_pos hFew]
  inflate_limit := by
    intro limit data hMany
    exact ⟨"too large", by rw [epochHost_inflate, if_neg (Nat.not_le.mpr hMany)]⟩
  parse_none := by
    intro text hNoColon
    simp only [epochHost, queryOf_none hNoColon, Option.map_none]

theorem epochHost_reads : ReadsQuery epochHost := by
  intro env value _
  refine ⟨⟨fun name => if name = "i" then some value else none, "/v2"⟩, ?_, rfl⟩
  simp only [epochHost, queryOf_base, Option.map_some]

def epochSlug : String :=
  slugOf (compress epochHost.toCryptoHost convosInviteCrypto epochSignedBytes)

theorem epoch_generated :
    Generated epochHost epochOptions (zeros 12) epochSlug textInvite.packed epochPayloadBytes
      epochSigned.signature epochSignedBytes := by
  have hKey : hexToBytes sampleKeyHex = sampleKey := by decide
  have hCreator : hexToBytes "aabb" = [0xAA, 0xBB] := by decide
  have hPayload : payloadOf epochHost epochOptions (zeros 12) textInvite.packed = epochPayload := by
    unfold payloadOf generatedPayload
    simp only [epochOptions, SampleInvite.options, hKey, hCreator]
    rfl
  have hEncodes : epochHost.encodePayload epochPayload = .ok epochPayloadBytes := by
    simp only [epochHost, if_true]
  have hWraps : epochHost.encodeSigned epochSigned = .ok epochSignedBytes := by
    simp only [epochHost, if_true]
  have hSigns : sign epochHost.toCryptoHost epochPayloadBytes sampleKey =
      .ok epochSigned.signature := rfl
  exact
    { packs := ok_of_toOption (by decide)
      verifies := rfl
      encodes := hPayload.symm ▸ hEncodes
      signs := by
        have hWallet : epochOptions.walletPrivateKeyHex = sampleKeyHex := rfl
        rw [hWallet, hKey, hSigns]
      wraps := hWraps
      slug_eq := rfl }

set_option maxRecDepth 20000 in
theorem epoch_short : epochSignedBytes.length ≤ convosInviteCrypto.maxDecompressedSize := by
  have hLength : epochSignedBytes.length = 127 := by decide
  have hMax : convosInviteCrypto.maxDecompressedSize = 1048576 := rfl
  omega

theorem epoch_inbox : HexInbox epochOptions.creatorInboxId := by
  have hDigits : (without0x "aabb").all (hexDigits.contains ·) = true := by decide
  refine ⟨fun c hc => ?_, by decide, by decide⟩
  exact List.contains_iff_mem.mp (List.all_eq_true.mp hDigits c hc)

theorem epoch_dates : DatesFrom1970 epochOptions := by
  intro ms hMs
  cases hMs
  exact ⟨by decide, by decide⟩

set_option maxRecDepth 20000 in
/-- Within the first second the invite is shown as it is. -/
theorem invite_fields_iff_epoch :
    InviteShown epochHost 500 epochOptions (some .dev) (zeros 12) epochSlug := by
  apply (invite_fields_iff epochHost_lawful epochHost_reads epoch_generated.ok (by decide)
    epoch_dates (some .dev) 500).mpr
  refine ⟨epoch_inbox, ?_, ?_⟩
  · intro bytes hOk
    rw [epoch_generated.signedInviteBytes] at hOk
    cases hOk
    exact Or.inl epoch_short
  · rintro ⟨ms, -, -, hLate⟩
    omega

set_option maxRecDepth 20000 in
/-- An invite that was over at the epoch is shown as one that is not. -/
theorem epoch_invite_open :
    ∃ (host : InviteHost) (opts : GenerateInviteSlugOptions) (nonce : Bytes) (slug : String)
      (invite : ParsedConvosInvite),
      host.Lawful ∧ ReadsQuery host ∧ generateConvosInviteSlug host opts nonce = .ok slug ∧
        opts.inviteTag ≠ "" ∧ HexInbox opts.creatorInboxId ∧ opts.expiresAt = some 0 ∧
        parseConvosInviteUrl host 1700000000000 slug = .ok invite ∧ invite.isExpired = false ∧
        ∀ env, ¬ InviteShown host 1700000000000 opts env nonce slug := by
  have hParse := parse_generated_iff epochHost_lawful epoch_dates.inRange epoch_generated
    1700000000000
  have hTag : epochOptions.inviteTag ≠ "" := by decide
  have hFits : Fits epochHost epochSignedBytes := Or.inl epoch_short
  refine ⟨epochHost, epochOptions, zeros 12, epochSlug, _, epochHost_lawful, epochHost_reads,
    epoch_generated.ok, hTag, epoch_inbox, rfl,
    (hParse _).mpr ⟨⟨epoch_inbox.bytes_ne_nil, hTag, hFits⟩, rfl⟩, rfl, ?_⟩
  rintro env ⟨url, invite, -, hSlug, -, hShows⟩
  obtain ⟨-, rfl⟩ := (hParse invite).mp hSlug
  -- the options say that it is over, the payload has no time
  have hOpen := hShows.expired.mpr ⟨0, rfl, by decide⟩
  cases hOpen

end Core
end Signet
