import Mathlib.Algebra.Group.Int.Defs
import Signet.Core.ConversationId
import Signet.Core.InviteCompression
import Signet.Core.ProcessJoinRequest

/-!
# From the generator of invites to the processing of join requests

An invite that has been generated is processed by the host that made it: the slug is
read back, the signature recovers the key, and the token is decrypted and unpacked.
The creator's inbox id travels as bytes and the conversation id in its packed form, so
only the ids that these determine come back.

* `InviteHost.Lawful` — what the libraries of the host are relied on for.
* `Recoverable` — what is required of the options.
* `invite_recovered_iff` — exactly these invites are accepted for their conversation.
-/

namespace Signet
namespace Core

open Kit Schemas

/-! ## The host -/

/-- The times of the payload fit in the fields that are written for them. -/
def InvitePayload.InRange (payload : InvitePayload) : Prop :=
  (∀ time ∈ payload.expiresAtUnix, -2 ^ 63 ≤ time ∧ time < 2 ^ 63) ∧
    ∀ time ∈ payload.conversationExpiresAtUnix, -2 ^ 63 ≤ time ∧ time < 2 ^ 63

/-- What the libraries are relied on for: the cipher decrypts what it has encrypted, the
key of a signature is recovered, messages are read back, and a text without a colon is no
URL. -/
structure InviteHost.Lawful (host : InviteHost) : Prop where
  decrypt_encrypt : ∀ key nonce aad plaintext, nonce.length = 12 →
    host.decrypt key nonce aad (host.encrypt key nonce aad plaintext) = .ok plaintext
  sign_recover : ∀ hash key compact recoveryBit, host.sign hash key = .ok (compact, recoveryBit) →
    compact.length = 64 ∧ recoveryBit ≤ 3 ∧ ∃ publicKey,
      host.recoverPublicKey hash compact recoveryBit = .ok publicKey ∧
        host.getPublicKey key = .ok publicKey
  payload_read : ∀ payload bytes, host.verifyPayload payload = none → payload.InRange →
    host.encodePayload payload = .ok bytes →
      bytes ≠ [] ∧ host.decodePayload bytes = .ok payload
  /-- The message begins with the key of its first field. -/
  signed_read : ∀ invite bytes, host.encodeSigned invite = .ok bytes →
    bytes.head? = some 0x0A ∧ host.decodeSigned bytes = .ok invite
  inflate_deflate : ∀ limit data, data.length ≤ limit →
    host.inflate limit (host.deflate data) = .ok data
  inflate_limit : ∀ limit data, limit < data.length →
    ∃ cause, host.inflate limit (host.deflate data) = .error cause
  parse_none : ∀ text : String, ':' ∉ text.toList → host.parseUrl text = none

section Lawful

variable (host : InviteHost)

/-! ## Slugs -/

def slugChars (data : Bytes) : List Char := (Base64.sextets data).map urlDigit

theorem urlDigit_plain {n : Nat} (h : n < 64) :
    urlDigit n ≠ '*' ∧ urlDigit n ≠ ':' ∧ isWhiteSpace (urlDigit n) = false := by
  have hAll : ∀ n < 64, urlDigit n ≠ '*' ∧ urlDigit n ≠ ':' ∧
      isWhiteSpace (urlDigit n) = false := by
    decide +kernel
  exact hAll n h

/-- The character that `base64UrlDecode` reads in the place of one. -/
def plainDigit (c : Char) : Char := if c = '-' then '+' else if c = '_' then '/' else c

theorem value_urlDigit {n : Nat} (h : n < 64) :
    Base64.value (plainDigit (urlDigit n)) = some n := by
  have hAll : ∀ n < 64, Base64.value (plainDigit (urlDigit n)) = some n := by
    decide +kernel
  exact hAll n h

variable {data : Bytes} {c : Char} {now : Int} {text senderInboxId : String}

theorem mem_slugChars (h : c ∈ slugChars data) :
    c ≠ '*' ∧ c ≠ ':' ∧ isWhiteSpace c = false := by
  obtain ⟨n, hn, rfl⟩ := List.mem_map.mp h
  exact urlDigit_plain (Base64.sextets_lt data n hn)

theorem filter_separated (sep : Char) (every room : Nat) (chars : List Char)
    (hNone : sep ∉ chars) : (separated sep every room chars).filter (fun c => c ≠ sep) = chars := by
  fun_induction separated sep every room chars with
  | case1 => rfl
  | case2 c rest ih =>
    have hNe : c ≠ sep := fun hEq => hNone (by simp [hEq])
    have hRest := ih fun hMem => hNone (List.mem_cons_of_mem c hMem)
    simp only [List.filter_cons, ne_eq, not_true_eq_false, decide_false, Bool.false_eq_true,
      if_false, hNe, not_false_eq_true, decide_true, if_true]
    exact congrArg (c :: ·) hRest
  | case3 room c rest ih =>
    have hNe : c ≠ sep := fun hEq => hNone (by simp [hEq])
    have hRest := ih fun hMem => hNone (List.mem_cons_of_mem c hMem)
    simp only [List.filter_cons, ne_eq, hNe, not_false_eq_true, decide_true, if_true]
    exact congrArg (c :: ·) hRest

theorem mem_separated {sep : Char} {every room : Nat} {chars : List Char}
    (h : c ∈ separated sep every room chars) : c = sep ∨ c ∈ chars := by
  fun_induction separated sep every room chars with
  | case1 => cases h
  | case2 x rest ih =>
    simp only [List.mem_cons] at h ⊢
    rcases h with hSep | hHead | hRest
    · exact Or.inl hSep
    · exact Or.inr (Or.inl hHead)
    · exact (ih hRest).imp_right Or.inr
  | case3 room x rest ih =>
    simp only [List.mem_cons] at h ⊢
    rcases h with hHead | hRest
    · exact Or.inr (Or.inl hHead)
    · exact (ih hRest).imp_right Or.inr

def slugOf (data : Bytes) : String := insertSeparators (base64UrlEncode data) '*' 300

theorem slugOf_chars (data : Bytes) :
    (slugOf data).toList = separated '*' 300 300 (slugChars data) := by
  simp only [slugOf, insertSeparators, base64UrlEncode, slugChars, String.toList_ofList]

theorem withoutSeparators_slugOf (data : Bytes) :
    withoutSeparators (slugOf data) = slugChars data := by
  rw [withoutSeparators, slugOf_chars]
  apply filter_separated
  intro hMem
  exact (mem_slugChars hMem).1 rfl

/-- A slug is read back. -/
theorem base64UrlDecode_slugChars (data : Bytes) : base64UrlDecode (slugChars data) = data := by
  unfold base64UrlDecode
  simp only
  have hValues : ((slugChars data).map plainDigit).filterMap Base64.value =
      Base64.sextets data := by
    rw [slugChars, List.map_map, List.filterMap_map]
    have hEach : ∀ n ∈ Base64.sextets data,
        (Base64.value ∘ plainDigit ∘ urlDigit) n = some n :=
      fun n hn => value_urlDigit (Base64.sextets_lt data n hn)
    rw [List.filterMap_congr hEach, List.filterMap_some]
  rw [List.filterMap_append, Base64.filterMap_padding, List.append_nil]
  exact (congrArg Base64.bytes hValues).trans (Base64.bytes_sextets data)

theorem slugOf_plain (h : c ∈ (slugOf data).toList) :
    c ≠ ':' ∧ isWhiteSpace c = false := by
  rw [slugOf_chars] at h
  rcases mem_separated h with rfl | hMem
  · exact ⟨by decide, by decide⟩
  · exact (mem_slugChars hMem).2

theorem trimmed_of_plain (h : ∀ c ∈ text.toList, isWhiteSpace c = false) : trimmed text = text := by
  have hStart : text.toList.dropWhile isWhiteSpace = text.toList := by
    cases hText : text.toList with
    | nil => rfl
    | cons c rest =>
      have hHead := h c (by simp [hText])
      simp [hHead]
  have hEnd : text.toList.reverse.dropWhile isWhiteSpace = text.toList.reverse := by
    cases hText : text.toList.reverse with
    | nil => rfl
    | cons c rest =>
      have hMem : c ∈ text.toList := by
        rw [← List.mem_reverse, hText]
        exact List.mem_cons_self
      simp [h c hMem]
  rw [trimmed, hStart, hEnd, List.reverse_reverse, String.ofList_toList]

variable {host}

theorem extractSlug_slugOf (hLawful : host.Lawful) (data : Bytes) :
    extractSlug host (slugOf data) = slugOf data := by
  have hTrimmed := @trimmed_of_plain (slugOf data) fun c hc => (slugOf_plain hc).2
  have hNoUrl := hLawful.parse_none (slugOf data) fun hMem => (slugOf_plain hMem).1 rfl
  simp only [extractSlug, hTrimmed, hNoUrl]

/-! ## Compression -/

/-- The bytes are left as they are, or are few enough to be taken when they come back. -/
def Fits (host : InviteHost) (data : Bytes) : Prop :=
  data.length ≤ convosInviteCrypto.maxDecompressedSize ∨
    compress host.toCryptoHost convosInviteCrypto data = data

theorem decompress_plain (hHead : data.head? = some 0x0A) (field : String) :
    decompress host.toCryptoHost convosInviteCrypto field data = .ok data := by
  apply decompress_unmarked
  rw [hHead]
  decide

/-- The bytes of the compressed form. -/
def deflated (host : InviteHost) (data : Bytes) : Bytes :=
  convosInviteCrypto.compressionMarker :: (sizeBytes data.length ++ host.deflate data)

theorem compress_cases (host : InviteHost) (data : Bytes) :
    compress host.toCryptoHost convosInviteCrypto data = data ∨
      compress host.toCryptoHost convosInviteCrypto data = deflated host data := by
  unfold compress
  split
  · exact Or.inl rfl
  · dsimp only
    split
    · exact Or.inr rfl
    · exact Or.inl rfl

/-- The compressed form has a header, with the size up to 32 bits. -/
theorem header_deflated (host : InviteHost) (data : Bytes) :
    ∃ declaredSize ≤ data.length,
      Header convosInviteCrypto (deflated host data) declaredSize (host.deflate data) := by
  refine ⟨_, ?_, _, _, _, _, rfl, rfl⟩
  simp only [UInt8.toNat_ofNat']
  omega

theorem decompress_deflated (hLawful : host.Lawful) (field : String) (data : Bytes) :
    (data.length ≤ convosInviteCrypto.maxDecompressedSize →
      decompress host.toCryptoHost convosInviteCrypto field (deflated host data) = .ok data) ∧
    (convosInviteCrypto.maxDecompressedSize < data.length →
      ∃ error, decompress host.toCryptoHost convosInviteCrypto field (deflated host data) =
        .error error) := by
  obtain ⟨declaredSize, hDeclared, hHeader⟩ := header_deflated host data
  constructor
  · intro hFew
    have hInflate := hLawful.inflate_deflate _ data hFew
    exact (decompress_header hHeader).mpr ⟨by omega, hInflate, hFew⟩
  · intro hMany
    obtain ⟨cause, hInflate⟩ := hLawful.inflate_limit _ data hMany
    cases hResult : decompress host.toCryptoHost convosInviteCrypto field (deflated host data) with
    | error error => exact ⟨error, rfl⟩
    | ok result =>
      -- what is taken has been inflated
      obtain ⟨-, hOk, -⟩ := (decompress_header hHeader).mp hResult
      rw [hInflate] at hOk
      cases hOk

theorem decompress_compress (hLawful : host.Lawful) (hHead : data.head? = some 0x0A)
    (field : String) :
    (Fits host data → decompress host.toCryptoHost convosInviteCrypto field
      (compress host.toCryptoHost convosInviteCrypto data) = .ok data) ∧
    (¬ Fits host data → ∃ error, decompress host.toCryptoHost convosInviteCrypto field
      (compress host.toCryptoHost convosInviteCrypto data) = .error error) := by
  obtain ⟨hFew, hMany⟩ := decompress_deflated hLawful field data
  constructor
  · intro hFits
    rcases compress_cases host data with hSame | hDeflated
    · rw [hSame]
      exact decompress_plain hHead field
    · rcases hFits with hShort | hSame
      · rw [hDeflated]
        exact hFew hShort
      · rw [hSame]
        exact decompress_plain hHead field
  · intro hFits
    obtain ⟨hLong, hDiffers⟩ := not_or.mp hFits
    rcases compress_cases host data with hSame | hDeflated
    · exact absurd hSame hDiffers
    · rw [hDeflated]
      exact hMany (Nat.lt_of_not_le hLong)

/-! ## What has been generated -/

/-- The payload of an invite with the packed conversation id. -/
def payloadOf (host : InviteHost) (opts : GenerateInviteSlugOptions) (nonce packed : Bytes) :
    InvitePayload :=
  generatedPayload opts (encryptToken host.toCryptoHost convosInviteCrypto nonce packed
    opts.creatorInboxId (hexToBytes opts.walletPrivateKeyHex))

/-- The message that is compressed into the slug. -/
def signedInviteBytes (host : InviteHost) (opts : GenerateInviteSlugOptions) (nonce : Bytes) :
    Except String Bytes := do
  let packed ← packConversationId opts.conversationId opts.conversationIdFormat
  let payloadBytes ← host.encodePayload (payloadOf host opts nonce packed)
  let signature ← sign host.toCryptoHost payloadBytes (hexToBytes opts.walletPrivateKeyHex)
  host.encodeSigned ⟨payloadBytes, signature⟩

structure Generated (host : InviteHost) (opts : GenerateInviteSlugOptions) (nonce : Bytes)
    (slug : String) (packed payloadBytes signature signedBytes : Bytes) : Prop where
  packs : packConversationId opts.conversationId opts.conversationIdFormat = .ok packed
  verifies : host.verifyPayload (payloadOf host opts nonce packed) = none
  encodes : host.encodePayload (payloadOf host opts nonce packed) = .ok payloadBytes
  signs : sign host.toCryptoHost payloadBytes (hexToBytes opts.walletPrivateKeyHex) =
    .ok signature
  wraps : host.encodeSigned ⟨payloadBytes, signature⟩ = .ok signedBytes
  slug_eq : slug = slugOf (compress host.toCryptoHost convosInviteCrypto signedBytes)

theorem bind_ok {ε α β : Type*} {x : Except ε α} {f : α → Except ε β} {y : β}
    (h : x.bind f = .ok y) : ∃ a, x = .ok a ∧ f a = .ok y := by
  cases x with
  | error cause => cases h
  | ok a => exact ⟨a, rfl, h⟩

theorem generated_of_ok {opts : GenerateInviteSlugOptions} {nonce : Bytes} {slug : String}
    (h : generateConvosInviteSlug host opts nonce = .ok slug) :
    ∃ packed payloadBytes signature signedBytes,
      Generated host opts nonce slug packed payloadBytes signature signedBytes := by
  unfold generateConvosInviteSlug at h
  split at h
  · cases h
  · next result hBuilt =>
    subst h
    obtain ⟨packed, hPacked, hBuilt⟩ := bind_ok hBuilt
    dsimp only at hBuilt
    split at hBuilt
    · cases Except.ok.inj hBuilt
    · next hVerified =>
      obtain ⟨payloadBytes, hPayload, hBuilt⟩ := bind_ok hBuilt
      obtain ⟨signature, hSignature, hBuilt⟩ := bind_ok hBuilt
      obtain ⟨signedBytes, hSigned, hBuilt⟩ := bind_ok hBuilt
      have hSlug := Except.ok.inj (Except.ok.inj hBuilt)
      exact ⟨packed, payloadBytes, signature, signedBytes, hPacked, hVerified, hPayload,
        hSignature, hSigned, hSlug.symm⟩

variable {opts : GenerateInviteSlugOptions} {nonce : Bytes} {slug : String}
  {packed payloadBytes signature signedBytes : Bytes} {answers : JoinRequestAnswers}
  {content : MessageContent}

section

variable (h : Generated host opts nonce slug packed payloadBytes signature signedBytes)

include h

theorem Generated.ok : generateConvosInviteSlug host opts nonce = .ok slug := by
  have hBuilt : buildInviteSlug host opts nonce = .ok (.ok slug) := by
    have hPayload := h.verifies
    have hEncodes := h.encodes
    unfold payloadOf at hPayload hEncodes
    simp only [buildInviteSlug, h.packs, bind, Except.bind, hPayload, hEncodes, h.signs, h.wraps,
      h.slug_eq]
    rfl
  unfold generateConvosInviteSlug
  rw [hBuilt]

theorem Generated.signedInviteBytes : signedInviteBytes host opts nonce = .ok signedBytes := by
  simp only [Core.signedInviteBytes, h.packs, h.encodes, h.signs, bind, Except.bind]
  exact h.wraps

end

/-! ## Parsing it -/

/-- The times of the options are those of a `Date`. -/
def DatesInRange (opts : GenerateInviteSlugOptions) : Prop :=
  ∀ ms ∈ opts.expiresAt, -8640000000000000 ≤ ms ∧ ms ≤ 8640000000000000

theorem payloadOf_inRange (hDates : DatesInRange opts) : (payloadOf host opts nonce packed).InRange := by
  constructor
  · intro time hTime
    obtain ⟨ms, hMs, rfl⟩ := Option.map_eq_some_iff.mp hTime
    obtain ⟨hLow, hHigh⟩ := hDates ms hMs
    omega
  · intro time hTime
    cases hTime

/-- What is made of a payload that has been read. -/
def parsedInvite (now : Int) (payload : InvitePayload) (payloadBytes signature : Bytes) :
    ParsedConvosInvite :=
  { signedInvitePayloadBytes := payloadBytes
    signedInviteSignature := signature
    conversationToken := payload.conversationToken
    creatorInboxId := bytesToHex payload.creatorInboxId
    tag := payload.tag
    name := nonempty payload.name
    description := nonempty payload.description
    imageUrl := nonempty payload.imageURL
    isExpired := isPast (now / 1000) payload.expiresAtUnix
    isConversationExpired := isPast (now / 1000) payload.conversationExpiresAtUnix
    expiresAfterUse := payload.expiresAfterUse }

section

variable (hLawful : host.Lawful)
  (h : Generated host opts nonce slug packed payloadBytes signature signedBytes)

include hLawful h

theorem signature_parts :
    ∃ compact recoveryBit publicKey, signature = compact ++ [recoveryBit] ∧
      compact.length = 64 ∧ recoveryBit ≤ 3 ∧
      host.recoverPublicKey (host.sha256 payloadBytes) compact recoveryBit = .ok publicKey ∧
      host.getPublicKey (hexToBytes opts.walletPrivateKeyHex) = .ok publicKey := by
  have hSigns := h.signs
  unfold sign at hSigns
  cases hSign : host.sign (host.sha256 payloadBytes) (hexToBytes opts.walletPrivateKeyHex) with
  | error cause =>
    rw [hSign] at hSigns
    cases hSigns
  | ok pair =>
    rw [hSign] at hSigns
    cases hSigns
    obtain ⟨compact, recoveryBit⟩ := pair
    obtain ⟨hLength, hBit, publicKey, hRecover, hPublic⟩ :=
      hLawful.sign_recover _ _ compact recoveryBit hSign
    exact ⟨compact, recoveryBit, publicKey, rfl, hLength, hBit, hRecover, hPublic⟩

theorem verifies_generated :
    verifySignatureMatchesKey host.toCryptoHost payloadBytes signature
      (hexToBytes opts.walletPrivateKeyHex) = true := by
  obtain ⟨compact, recoveryBit, publicKey, rfl, hLength, hBit, hRecover, hPublic⟩ :=
    signature_parts hLawful h
  have hTake : (compact ++ [recoveryBit]).take 64 = compact := by
    rw [List.take_append_of_le_length (by omega), List.take_of_length_le (by omega)]
  have hNotMore : ¬ recoveryBit > 3 := UInt8.not_lt.mpr hBit
  simp [verifySignatureMatchesKey, hLength, hNotMore, hTake, hRecover, hPublic]

theorem compress_ne_nil : compress host.toCryptoHost convosInviteCrypto signedBytes ≠ [] := by
  obtain ⟨hHead, -⟩ := hLawful.signed_read _ _ h.wraps
  rcases compress_cases host signedBytes with hSame | hDeflated
  · rw [hSame]
    rintro rfl
    cases hHead
  · rw [hDeflated]
    exact List.cons_ne_nil _ _

end

theorem parse_generated_iff (hLawful : host.Lawful) (hDates : DatesInRange opts)
    (h : Generated host opts nonce slug packed payloadBytes signature signedBytes) (now : Int)
    (invite : ParsedConvosInvite) :
    parseConvosInviteUrl host now slug = .ok invite ↔
      (hexToBytes opts.creatorInboxId ≠ [] ∧ opts.inviteTag ≠ "" ∧ Fits host signedBytes) ∧
        invite = parsedInvite now (payloadOf host opts nonce packed) payloadBytes signature := by
  obtain ⟨hHead, hSigned⟩ := hLawful.signed_read _ _ h.wraps
  obtain ⟨hPayload, hDecoded⟩ :=
    hLawful.payload_read _ _ h.verifies (payloadOf_inRange hDates) h.encodes
  obtain ⟨compact, recoveryBit, -, hParts, -⟩ := signature_parts hLawful h
  have hSignature : signature ≠ [] := by
    rw [hParts]
    simp
  obtain ⟨hFew, hMany⟩ := decompress_compress hLawful hHead "inviteUrl"
  have hNonempty := compress_ne_nil hLawful h
  have hSlug : base64UrlDecode (withoutSeparators (extractSlug host slug)) =
      compress host.toCryptoHost convosInviteCrypto signedBytes := by
    rw [h.slug_eq, extractSlug_slugOf hLawful, withoutSeparators_slugOf,
      base64UrlDecode_slugChars]
  have hCreator : (payloadOf host opts nonce packed).creatorInboxId =
      hexToBytes opts.creatorInboxId := rfl
  have hTag : (payloadOf host opts nonce packed).tag = opts.inviteTag := rfl
  simp only [parseConvosInviteUrl, hSlug, if_neg hNonempty]
  by_cases hFits : Fits host signedBytes
  · rw [hFew hFits]
    simp only [parseSignedInvite, hSigned, hDecoded, hPayload, hSignature, or_self, if_false,
      bind, Except.bind, pure, Except.pure, hCreator, hTag]
    by_cases hEmpty : hexToBytes opts.creatorInboxId = []
    · simp [hEmpty]
    · by_cases hNoTag : opts.inviteTag = ""
      · simp [hEmpty, hNoTag]
      · rw [if_neg hEmpty, if_neg hNoTag]
        simp only [ne_eq, hEmpty, hNoTag, hFits, not_false_eq_true, and_self, true_and]
        exact ok_inj_iff.trans eq_comm
  · obtain ⟨error, hError⟩ := hMany hFits
    rw [hError]
    simp [hFits]

/-! ## Processing it -/

theorem decrypt_generated (hLawful : host.Lawful) (hNonce : nonce.length = 12) (inboxId : String)
    (plaintext key : Bytes) :
    decryptToken host.toCryptoHost convosInviteCrypto
      (encryptToken host.toCryptoHost convosInviteCrypto nonce plaintext inboxId key) inboxId key =
      .ok plaintext := by
  have hTake : ∀ rest : Bytes, (nonce ++ rest).take 12 = nonce := by
    intro rest
    rw [List.take_append_of_le_length (by omega), List.take_of_length_le (by omega)]
  have hDrop : ∀ rest : Bytes, (nonce ++ rest).drop 12 = rest := by
    intro rest
    rw [List.drop_append_of_le_length (by omega), List.drop_eq_nil_of_le (by omega),
      List.nil_append]
  simp only [decryptToken, encryptToken, List.head?_cons, ne_eq, not_true_eq_false, if_false,
    List.drop_succ_cons, List.drop_zero, hTake, hDrop]
  exact hLawful.decrypt_encrypt _ _ _ _ hNonce

/-- The invite has not expired. -/
def Unexpired (now : Int) (opts : GenerateInviteSlugOptions) : Prop :=
  ∀ ms ∈ opts.expiresAt, now ≤ ms

theorem isPast_unexpired (h : Unexpired now opts) :
    isPast (now / 1000) (opts.expiresAt.map fun ms => ms / 1000) = false := by
  cases hExpires : opts.expiresAt with
  | none => rfl
  | some ms =>
    have hNow := h ms (by rw [hExpires]; rfl)
    have hLater : ¬ ms / 1000 < now / 1000 := by omega
    simp [isPast, hLater]

def creatorOf (opts : GenerateInviteSlugOptions) : ProcessJoinRequestDeps :=
  ⟨opts.walletPrivateKeyHex, opts.creatorInboxId⟩

/-- The invite is verified for its conversation: one with a canonical creator, and an id
that can be unpacked. -/
theorem verify_generated_iff (hLawful : host.Lawful) (hNonce : nonce.length = 12)
    (h : Generated host opts nonce slug packed payloadBytes signature signedBytes) {now : Int}
    (hUnexpired : Unexpired now opts) (verified : VerifiedInvite) :
    verifyInvite host (creatorOf opts) (parsedInvite now (payloadOf host opts nonce packed)
        payloadBytes signature) = .ok verified ↔
      CanonicalHex opts.creatorInboxId ∧ unpackConversationId packed = .ok verified.groupId ∧
        verified.invite = parsedInvite now (payloadOf host opts nonce packed) payloadBytes
          signature := by
  have hPast := isPast_unexpired hUnexpired
  have hNever : isPast (now / 1000) none = false := rfl
  have hVerifies := verifies_generated hLawful h
  obtain ⟨groupId, invite⟩ := verified
  rw [← bytesToHex_hexToBytes_iff]
  simp only [verifyInvite, parsedInvite, payloadOf, generatedPayload, creatorOf, hPast, hNever,
    hVerifies, Bool.false_eq_true, if_false, reduceCtorEq]
  by_cases hCreator : bytesToHex (hexToBytes opts.creatorInboxId) = opts.creatorInboxId
  · have hDecrypted := decrypt_generated hLawful hNonce opts.creatorInboxId packed
      (hexToBytes opts.walletPrivateKeyHex)
    simp only [hCreator, ne_eq, not_true_eq_false, if_false, true_and, decryptConversationToken,
      hDecrypted, Except.bind]
    cases hUnpacked : unpackConversationId packed with
    | error cause => simp
    | ok id => simp [eq_comm]
  · simp [hCreator]

/-- What is required of the options for the invite to come back: a creator in lower
case, a tag, an id that its packed form determines, and a message that is taken. -/
structure Recoverable (host : InviteHost) (opts : GenerateInviteSlugOptions) (nonce : Bytes) :
    Prop where
  creator : CanonicalHex opts.creatorInboxId ∧ opts.creatorInboxId ≠ ""
  tag : opts.inviteTag ≠ ""
  conversation : PacksFaithfully opts.conversationId opts.conversationIdFormat
  message : ∀ bytes, signedInviteBytes host opts nonce = .ok bytes → Fits host bytes

theorem packsAsUuid_of_match {conversationId hex : String}
    (h : uuidMatch conversationId = some hex) : packsAsUuid conversationId none = true := by
  unfold packsAsUuid
  rw [h]
  rfl

/-- A UUID that comes back is in lower case. -/
theorem Recoverable.lower {host : InviteHost} (h : Recoverable host opts nonce)
    (hUuid : packsAsUuid opts.conversationId opts.conversationIdFormat = true) :
    ∀ c ∈ opts.conversationId.toList, c.toLower = c := by
  have hFaithful := h.conversation
  unfold PacksFaithfully at hFaithful
  rwa [if_pos hUuid] at hFaithful

theorem hexToBytes_eq_nil_iff (h : CanonicalHex text) : hexToBytes text = [] ↔ text = "" := by
  constructor
  · intro hEmpty
    have hBack := (bytesToHex_hexToBytes_iff text).mpr h
    rw [hEmpty] at hBack
    exact hBack.symm
  · rintro rfl
    rfl

/-- The host accepts the requester for the conversation of the invite. -/
def Recovers (host : InviteHost) (now : Int) (opts : GenerateInviteSlugOptions)
    (answers : JoinRequestAnswers) (senderInboxId : String) (content : MessageContent) : Prop :=
  ∃ join, processJoinRequest host now (creatorOf opts) answers senderInboxId content = .ok join ∧
    join.groupId = opts.conversationId

theorem nonempty_slug (hLawful : host.Lawful)
    (h : Generated host opts nonce slug packed payloadBytes signature signedBytes) :
    nonempty (some slug) = some slug := by
  have hSlug : slug ≠ "" := by
    intro hEmpty
    have hChars := withoutSeparators_slugOf
      (compress host.toCryptoHost convosInviteCrypto signedBytes)
    rw [← h.slug_eq, hEmpty] at hChars
    have hBytes := base64UrlDecode_slugChars
      (compress host.toCryptoHost convosInviteCrypto signedBytes)
    rw [← hChars] at hBytes
    exact compress_ne_nil hLawful h hBytes.symm
  simp [nonempty, hSlug]

/-- An invite that is accepted for its conversation has recoverable options. -/
theorem recoverable_of_recovers (hLawful : host.Lawful) (hNonce : nonce.length = 12)
    (hDates : DatesInRange opts)
    (h : Generated host opts nonce slug packed payloadBytes signature signedBytes)
    (hUnexpired : Unexpired now opts) (hContent : inviteText content = some slug)
    (hRecovers : Recovers host now opts answers senderInboxId content) :
    Recoverable host opts nonce := by
  obtain ⟨join, hProcess, hGroup⟩ := hRecovers
  obtain ⟨verified, hVerified, hRest⟩ := bind_ok hProcess
  obtain ⟨-, -, hRest⟩ := bind_ok hRest
  obtain ⟨-, -, hJoin⟩ := bind_ok hRest
  cases hJoin
  simp only [verifyJoinRequest, hContent, nonempty_slug hLawful h] at hVerified
  split at hVerified
  · cases hVerified
  · next invite hInvite =>
    obtain ⟨⟨hCreator, hTagged, hFits⟩, rfl⟩ :=
      (parse_generated_iff hLawful hDates h now invite).mp hInvite
    obtain ⟨hCanonical, hUnpacked, -⟩ :=
      (@verify_generated_iff _ _ _ _ _ _ _ _ hLawful hNonce h _ hUnexpired verified).mp hVerified
    have hId : verified.groupId = opts.conversationId := hGroup
    rw [hId] at hUnpacked
    refine ⟨⟨hCanonical, ?_⟩, hTagged, (unpack_pack_iff h.packs).mp hUnpacked, ?_⟩
    · intro hEmpty
      exact hCreator ((hexToBytes_eq_nil_iff hCanonical).mpr hEmpty)
    · intro bytes hBytes
      rw [h.signedInviteBytes] at hBytes
      cases hBytes
      exact hFits

theorem recovers_of_recoverable (hLawful : host.Lawful) (hNonce : nonce.length = 12)
    (hDates : DatesInRange opts)
    (h : Generated host opts nonce slug packed payloadBytes signature signedBytes)
    (hUnexpired : Unexpired now opts) (hContent : inviteText content = some slug)
    (hTag : answers.getGroupInviteTag opts.conversationId = .ok (some opts.inviteTag))
    (hAdded : answers.addMembersToGroup opts.conversationId [senderInboxId] = .ok ())
    (hRecoverable : Recoverable host opts nonce) :
    Recovers host now opts answers senderInboxId content := by
  obtain ⟨hCanonical, hCreator⟩ := hRecoverable.creator
  have hFits := hRecoverable.message signedBytes h.signedInviteBytes
  have hBytes : hexToBytes opts.creatorInboxId ≠ [] := by
    intro hEmpty
    exact hCreator ((hexToBytes_eq_nil_iff hCanonical).mp hEmpty)
  let invite := parsedInvite now (payloadOf host opts nonce packed) payloadBytes signature
  have hInvite := (parse_generated_iff hLawful hDates h now invite).mpr
    ⟨⟨hBytes, hRecoverable.tag, hFits⟩, rfl⟩
  have hVerified := (@verify_generated_iff _ _ _ _ _ _ _ _ hLawful hNonce h _ hUnexpired
    ⟨opts.conversationId, invite⟩).mpr
    ⟨hCanonical, (unpack_pack_iff h.packs).mpr hRecoverable.conversation, rfl⟩
  refine ⟨⟨opts.conversationId, senderInboxId, opts.inviteTag⟩, ?_, rfl⟩
  have hRequest : verifyJoinRequest host now (creatorOf opts) content =
      .ok ⟨opts.conversationId, invite⟩ := by
    simp only [verifyJoinRequest, hContent, nonempty_slug hLawful h, hInvite]
    exact hVerified
  have hCheck : checkInviteTag ⟨opts.conversationId, invite⟩ (.ok (some opts.inviteTag)) =
      .ok () := if_pos rfl
  simp only [processJoinRequest, hRequest, hTag, hCheck, hAdded, bind, Except.bind]
  rfl

/-- **Invites end to end.**  An invite that has been generated is accepted by its
creator, before it expires and with its tag, for exactly its conversation if and only if
its options are recoverable. -/
theorem invite_recovered_iff (hLawful : host.Lawful) (hNonce : nonce.length = 12)
    (hDates : DatesInRange opts) (hGenerated : generateConvosInviteSlug host opts nonce = .ok slug)
    {now : Int} (hUnexpired : Unexpired now opts) {content : MessageContent}
    (hContent : inviteText content = some slug) {answers : JoinRequestAnswers}
    {senderInboxId : String}
    (hTag : answers.getGroupInviteTag opts.conversationId = .ok (some opts.inviteTag))
    (hAdded : answers.addMembersToGroup opts.conversationId [senderInboxId] = .ok ()) :
    Recovers host now opts answers senderInboxId content ↔ Recoverable host opts nonce := by
  obtain ⟨packed, payloadBytes, signature, signedBytes, h⟩ := generated_of_ok hGenerated
  exact ⟨recoverable_of_recovers hLawful hNonce hDates h hUnexpired hContent,
    recovers_of_recoverable hLawful hNonce hDates h hUnexpired hContent hTag hAdded⟩

end Lawful

/-! ## Invites on fixed inputs -/

def zeros (count : Nat) : Bytes := List.replicate count 0

/-- The key of the samples in hexadecimal digits, and in bytes. -/
def sampleKeyHex : String := String.ofList (List.replicate 63 '0' ++ ['1'])

def sampleKey : Bytes := zeros 31 ++ [1]

structure SampleInvite where
  conversationId : String
  packed : Bytes
  deflated : Bytes
  begins : deflated.head? = some 120

namespace SampleInvite

variable (sample : SampleInvite)

def options : GenerateInviteSlugOptions :=
  { conversationId := sample.conversationId
    creatorInboxId := "aabb"
    walletPrivateKeyHex := sampleKeyHex
    inviteTag := "tag" }

/-- The cipher of the samples adds an authentication tag of zeros. -/
def token : Bytes := 1 :: (zeros 12 ++ (sample.packed ++ zeros 16))

def payload : InvitePayload :=
  { conversationToken := sample.token
    creatorInboxId := [0xAA, 0xBB]
    tag := "tag"
    expiresAfterUse := false }

/-- The payload in the wire format. -/
def payloadBytes : Bytes :=
  0x0A :: UInt8.ofNat sample.token.length :: (sample.token ++
    [0x12, 2, 0xAA, 0xBB, 0x1A, 3, 0x74, 0x61, 0x67, 0x48, 0])

/-- The signature of the samples begins with the key. -/
def signed : SignedInvite := ⟨sample.payloadBytes, sampleKey ++ zeros 33⟩

/-- The signed invite in the wire format. -/
def signedBytes : Bytes :=
  0x0A :: UInt8.ofNat sample.payloadBytes.length :: (sample.payloadBytes ++
    0x12 :: 65 :: sample.signed.signature)

/-- A host for the sample: other messages are neither written nor read. -/
def host : InviteHost where
  hkdf := fun key _ _ => key
  encrypt := fun _ _ _ plaintext => plaintext ++ zeros 16
  decrypt := fun _ _ _ ciphertext => .ok (ciphertext.take (ciphertext.length - 16))
  sha256 := fun data => data
  sign := fun _ key =>
    if key.length = 32 then .ok (key ++ zeros 32, 0) else .error "invalid private key"
  recoverPublicKey := fun _ compact _ => .ok (compact.take 32)
  getPublicKey := fun key => .ok key
  deflate := fun data => if data = sample.signedBytes then sample.deflated else 0 :: data
  inflate := fun limit data =>
    let inflated := if data = sample.deflated then sample.signedBytes else data.tail
    if inflated.length ≤ limit then .ok inflated else .error "too large"
  verifyPayload := fun _ => none
  encodePayload := fun payload =>
    if payload = sample.payload then .ok sample.payloadBytes else .error "no sample"
  decodePayload := fun data =>
    if data = sample.payloadBytes then .ok sample.payload else .error "no sample"
  encodeSigned := fun invite =>
    if invite = sample.signed then .ok sample.signedBytes else .error "no sample"
  decodeSigned := fun data =>
    if data = sample.signedBytes then .ok sample.signed else .error "no sample"
  parseUrl := fun _ => none

theorem inflate_deflate (limit : Nat) (data : Bytes) :
    sample.host.inflate limit (sample.host.deflate data) =
      if data.length ≤ limit then .ok data else .error "too large" := by
  simp only [host]
  by_cases hSample : data = sample.signedBytes
  · simp only [hSample, if_true]
  · have hOther : (0 :: data : Bytes) ≠ sample.deflated := by
      intro hEq
      have hBegins := sample.begins
      rw [← hEq] at hBegins
      cases hBegins
    simp only [if_neg hSample, if_neg hOther, List.tail_cons]

theorem host_lawful : sample.host.Lawful where
  decrypt_encrypt := by
    intro key nonce aad plaintext hNonce
    simp [host, zeros]
  sign_recover := by
    intro hash key compact recoveryBit hSign
    simp only [host] at hSign
    split at hSign
    · next hKey =>
      cases hSign
      refine ⟨by simp [zeros, hKey], by decide, key, ?_, rfl⟩
      simp only [host, ← hKey, List.take_left]
    · cases hSign
  payload_read := by
    intro payload bytes _ _ hEncode
    simp only [host] at hEncode ⊢
    split at hEncode
    · next hPayload =>
      cases hEncode
      rw [hPayload]
      exact ⟨List.cons_ne_nil _ _, if_pos rfl⟩
    · cases hEncode
  signed_read := by
    intro invite bytes hEncode
    simp only [host] at hEncode ⊢
    split at hEncode
    · next hInvite =>
      cases hEncode
      rw [hInvite]
      exact ⟨rfl, if_pos rfl⟩
    · cases hEncode
  inflate_deflate := by
    intro limit data hFew
    rw [sample.inflate_deflate, if_pos hFew]
  inflate_limit := by
    intro limit data hMany
    exact ⟨"too large", by rw [sample.inflate_deflate, if_neg (Nat.not_le.mpr hMany)]⟩
  parse_none := by
    intro text _
    rfl

end SampleInvite

def textInvite : SampleInvite where
  conversationId := "group"
  packed := [2, 5, 0x67, 0x72, 0x6F, 0x75, 0x70]
  deflated := [120, 156, 227, 50, 228, 82, 97, 100, 64, 2, 76, 172, 233, 69, 249, 165, 5, 12, 104,
    64, 136, 105, 213, 110, 41, 230, 146, 196, 116, 15, 6, 33, 71, 116, 73, 52, 192, 72, 64, 158,
    129, 1, 0, 254, 203, 6, 13]
  begins := rfl

/-- An invite of a group by a UUID in upper case. -/
def uuidInvite : SampleInvite where
  conversationId := "AAAAAAAA-AAAA-4AAA-8AAA-AAAAAAAAAAAA"
  packed := [1, 0xAA, 0xAA, 0xAA, 0xAA, 0xAA, 0xAA, 0x4A, 0xAA, 0x8A, 0xAA, 0xAA, 0xAA, 0xAA, 0xAA,
    0xAA, 0xAA]
  deflated := [120, 156, 227, 178, 230, 210, 99, 100, 64, 2, 140, 171, 192, 192, 107, 85, 23, 132,
    177, 138, 1, 13, 8, 49, 173, 218, 45, 197, 92, 146, 152, 238, 193, 32, 228, 136, 46, 137, 6, 24,
    9, 200, 51, 48, 0, 0, 69, 22, 14, 14]
  begins := rfl

theorem ok_of_toOption {ε α : Type*} {x : Except ε α} {a : α} (h : x.toOption = some a) :
    x = .ok a := by
  cases x with
  | error cause => cases h
  | ok b =>
    cases h
    rfl

def SampleInvite.slug (sample : SampleInvite) : String :=
  slugOf (compress sample.host.toCryptoHost convosInviteCrypto sample.signedBytes)

theorem SampleInvite.generated {sample : SampleInvite}
    (hPacks : packConversationId sample.conversationId none = .ok sample.packed) :
    Generated sample.host sample.options (zeros 12) sample.slug sample.packed
      sample.payloadBytes sample.signed.signature sample.signedBytes := by
  have hKey : hexToBytes sampleKeyHex = sampleKey := by decide
  have hCreator : hexToBytes "aabb" = [0xAA, 0xBB] := by decide
  have hPayload : payloadOf sample.host sample.options (zeros 12) sample.packed =
      sample.payload := by
    unfold payloadOf generatedPayload
    simp only [SampleInvite.options, hKey, hCreator]
    rfl
  have hSigns : sign sample.host.toCryptoHost sample.payloadBytes sampleKey =
      .ok sample.signed.signature := rfl
  have hEncodes : sample.host.encodePayload sample.payload = .ok sample.payloadBytes := if_pos rfl
  have hWraps : sample.host.encodeSigned sample.signed = .ok sample.signedBytes := if_pos rfl
  exact
    { packs := hPacks
      verifies := rfl
      encodes := hPayload.symm ▸ hEncodes
      signs := by
        have hWallet : sample.options.walletPrivateKeyHex = sampleKeyHex := rfl
        rw [hWallet, hKey, hSigns]
      wraps := hWraps
      slug_eq := rfl }

theorem textInvite_generated :
    Generated textInvite.host textInvite.options (zeros 12) textInvite.slug textInvite.packed
      textInvite.payloadBytes textInvite.signed.signature textInvite.signedBytes :=
  SampleInvite.generated (ok_of_toOption (by decide))

theorem uuidInvite_match :
    uuidMatch "AAAAAAAA-AAAA-4AAA-8AAA-AAAAAAAAAAAA" = some "AAAAAAAAAAAA4AAA8AAAAAAAAAAAAAAA" := by
  let chars := "AAAAAAAA-AAAA-4AAA-8AAA-AAAAAAAAAAAA".toList
  let digits := [chars.take 8, (chars.drop 9).take 4, (chars.drop 14).take 4,
    (chars.drop 19).take 4, chars.drop 24].flatten
  have hDashes : [8, 13, 18, 23].all (fun i => chars[i]? = some '-') = true := by decide
  have hDigits : digits.all (fun c => (hexValue c).isSome) = true := by decide
  have hText : String.ofList digits = "AAAAAAAAAAAA4AAA8AAAAAAAAAAAAAAA" := by decide
  have hShape : chars.length = 36 ∧ (∀ i ∈ [8, 13, 18, 23], chars[i]? = some '-') ∧
      digits.all (fun c => (hexValue c).isSome) :=
    ⟨by decide, fun i hi => of_decide_eq_true (List.all_eq_true.mp hDashes i hi), hDigits⟩
  have hMatch : uuidMatch "AAAAAAAA-AAAA-4AAA-8AAA-AAAAAAAAAAAA" = some (String.ofList digits) := by
    unfold uuidMatch
    exact if_pos hShape
  rw [hMatch, hText]

theorem uuidInvite_generated :
    Generated uuidInvite.host uuidInvite.options (zeros 12) uuidInvite.slug uuidInvite.packed
      uuidInvite.payloadBytes uuidInvite.signed.signature uuidInvite.signedBytes := by
  have hBytes : 0x01 :: hexToBytes "AAAAAAAAAAAA4AAA8AAAAAAAAAAAAAAA" = uuidInvite.packed := by
    decide
  apply SampleInvite.generated
  rw [← hBytes]
  unfold packConversationId uuidInvite
  simp only [uuidInvite_match]
  rfl

/-- Answers of a host that knows the tag and adds the requester. -/
def sampleAnswers : JoinRequestAnswers := ⟨fun _ => .ok (some "tag"), fun _ _ => .ok ()⟩

theorem text_invite_recovered :
    Recovers textInvite.host 0 textInvite.options sampleAnswers "inbox" (.text textInvite.slug) := by
  have hNoDate : DatesInRange textInvite.options := fun _ hMs => nomatch hMs
  have hUnexpired : Unexpired 0 textInvite.options := fun _ hMs => nomatch hMs
  have hMessage : ∀ bytes, signedInviteBytes textInvite.host textInvite.options (zeros 12) =
      .ok bytes → Fits textInvite.host bytes := by
    intro bytes hOk
    rw [textInvite_generated.signedInviteBytes] at hOk
    cases hOk
    exact Or.inl (by decide)
  have hFaithful : PacksFaithfully "group" none := by
    have hText : packsAsUuid "group" none = false := by decide
    rw [PacksFaithfully, hText, if_neg (by decide)]
    exact ⟨by decide, by decide, by decide⟩
  apply (invite_recovered_iff textInvite.host_lawful rfl hNoDate textInvite_generated.ok hUnexpired
    rfl rfl rfl).mpr
  have hCreator : CanonicalHex textInvite.options.creatorInboxId :=
    (bytesToHex_hexToBytes_iff _).mp (by decide)
  exact ⟨⟨hCreator, by decide⟩, by decide, hFaithful, hMessage⟩

/-- The requester is accepted for another conversation id. -/
theorem uuid_invite_not_recovered :
    ∃ (host : InviteHost) (opts : GenerateInviteSlugOptions) (nonce : Bytes) (slug : String)
      (answers : JoinRequestAnswers),
      host.Lawful ∧ nonce.length = 12 ∧ DatesInRange opts ∧
        generateConvosInviteSlug host opts nonce = .ok slug ∧ Unexpired 0 opts ∧
        answers.getGroupInviteTag opts.conversationId = .ok (some opts.inviteTag) ∧
        answers.addMembersToGroup opts.conversationId ["inbox"] = .ok () ∧
        ¬ Recovers host 0 opts answers "inbox" (.text slug) := by
  refine ⟨uuidInvite.host, uuidInvite.options, zeros 12, uuidInvite.slug, sampleAnswers,
    uuidInvite.host_lawful, rfl, (fun _ hMs => nomatch hMs), uuidInvite_generated.ok,
    (fun _ hMs => nomatch hMs), rfl, rfl, ?_⟩
  intro hRecovers
  have hNoDate : DatesInRange uuidInvite.options := fun _ hMs => nomatch hMs
  have hUnexpired : Unexpired 0 uuidInvite.options := fun _ hMs => nomatch hMs
  have hContent : inviteText (.text uuidInvite.slug) = some uuidInvite.slug := rfl
  have hRecoverable : Recoverable uuidInvite.host uuidInvite.options (zeros 12) :=
    recoverable_of_recovers uuidInvite.host_lawful rfl hNoDate uuidInvite_generated
      hUnexpired hContent hRecovers
  have hLower := hRecoverable.lower (packsAsUuid_of_match uuidInvite_match)
  -- an upper case digit does not come back
  have hUpper : 'A' ∈ uuidInvite.options.conversationId.toList :=
    List.contains_iff_mem.mp (by decide)
  exact absurd (hLower 'A' hUpper) (by decide)

end Core
end Signet
