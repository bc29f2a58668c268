import Signet.Verifier.Payload

/-!
# The seal checks of the verifier

Two checks look at a seal.  The signature check compares the claimed payload
with the current payload of the envelope and verifies the signature over it; the
chain check makes the same comparison and validates the inline chain and its
stored delta.

* `VerifierHost` — dates, base64 and Ed25519 of the host.
* `sealSignatureCheck`, `sealChainCheck` — the checks.
* `rejects_sealSignatureCheck`, `rejects_sealChainCheck` — when they reject an
  envelope.
-/

namespace Signet
namespace Verifier

open Kit Schemas Seals

/-- What the checks take from the host; a call that throws answers with its
message. -/
structure VerifierHost (Key : Type) where
  /-- `new Date(text).getTime()`, or nothing where that is not a number. -/
  getTime : String → Option Int
  decodeBase64 : String → Except String (List UInt8)
  importKey : List UInt8 → Except String Key
  /-- Verify a signature over the bytes of a text. -/
  verify : Key → List UInt8 → String → Except String Bool

/-- Outcome of a single verification check. -/
inductive CheckVerdict where
  | pass
  | fail
  | skip
deriving DecidableEq, Repr

structure VerificationCheck where
  checkId : String
  verdict : CheckVerdict
  reason : String
  evidence : Option Json
deriving DecidableEq

/-- A verification request: the fields the seal checks read. -/
structure VerificationRequest where
  «seal» : Option WirePayload
  sealEnvelope : Option WireEnvelope
  sealPublicKey : Option String

/-! ## Public keys -/

/-- The value of a hexadecimal digit in lower case. -/
def hexDigitValue (c : Char) : Option Nat :=
  if c.isDigit then some (c.toNat - '0'.toNat)
  else if 'a' ≤ c ∧ c ≤ 'f' then some (c.toNat - 'a'.toNat + 10)
  else none

/-- `parseInt(text, 16)` of two characters, as the byte it is stored as; what is
not a number is stored as zero. -/
def parseHexPair (first second : Char) : UInt8 :=
  match hexDigitValue first, hexDigitValue second with
  | some high, some low => UInt8.ofNat (16 * high + low)
  -- `0x` is a prefix without digits
  | some high, none => if first = '0' ∧ second = 'x' then 0 else UInt8.ofNat high
  | none, some low =>
    if first = '-' then 0 - UInt8.ofNat low
    else if first = '+' ∨ first.isWhitespace then UInt8.ofNat low
    else 0
  | none, none => 0

/-- The bytes of pairs of characters; a character left over is dropped. -/
def hexPairs : List Char → List UInt8
  | first :: second :: rest => parseHexPair first second :: hexPairs rest
  | _ => []

/-- `hexToBytes` -/
def hexToBytes (hex : String) : List UInt8 := hexPairs hex.toLower.toList

variable {Key : Type}

/-- `importEd25519PublicKey` -/
def importEd25519PublicKey (host : VerifierHost Key) (publicKeyHex : String) :
    Except SignetError Key :=
  match host.importKey (hexToBytes publicKeyHex) with
  | .ok key => .ok key
  | .error cause =>
    .error (InternalError.create "Failed to import Ed25519 public key"
      (some [("cause", .text cause)]))

/-- `decodeBase64` -/
def decodeBase64 (host : VerifierHost Key) (value : String) : Except SignetError (List UInt8) :=
  match host.decodeBase64 value with
  | .ok bytes => .ok bytes
  | .error cause =>
    .error (InternalError.create "Failed to decode base64 signature"
      (some [("cause", .text cause)]))

/-- `verifyEd25519Signature` -/
def verifyEd25519Signature (host : VerifierHost Key) (publicKey : Key) (data : String)
    (signature : List UInt8) : Except SignetError Bool :=
  match host.verify publicKey signature data with
  | .ok valid => .ok valid
  | .error cause =>
    .error (InternalError.create "Ed25519 verification failed" (some [("cause", .text cause)]))

/-! ## The signature check -/

/-- The structural failures of a payload; its scope mode is present by its type. -/
def signatureFailures (host : VerifierHost Key) (payload : WirePayload) : List String :=
  (if payload.operatorId = "" then ["Missing operatorId field"] else [])
    ++ (if payload.issuedAt = "" then ["Missing issuedAt timestamp"]
        else
          -- impossible dates are normalized, so the text has to come back
          match host.getTime payload.issuedAt with
          | none => ["Invalid or non-canonical issuedAt timestamp"]
          | some issued =>
            if toISOString issued ≠ payload.issuedAt then
              ["Invalid or non-canonical issuedAt timestamp"]
            else [])

def textsJson (texts : List String) : Json := .array (texts.map .string)

def signatureResult (verdict : CheckVerdict) (reason : String) (evidence : List (String × Json)) :
    VerificationCheck :=
  ⟨"seal_signature", verdict, reason, some (.object evidence)⟩

def verifyEnvelope (host : VerifierHost Key) (payload : WirePayload) (envelope : WireEnvelope)
    (publicKeyHex : String) : Except SignetError VerificationCheck :=
  if envelope.chain.current.sealId ≠ payload.sealId then
    .ok (signatureResult .fail "Seal envelope does not match the requested seal payload"
      [("expectedSealId", .string payload.sealId),
        ("envelopeSealId", .string envelope.chain.current.sealId),
        ("signatureVerified", .bool false)])
  else if canonicalize (payloadJson payload) ≠ canonicalize (payloadJson envelope.chain.current)
  then
    .ok (signatureResult .fail "Seal payload does not match signed envelope content"
      [("sealId", .string payload.sealId), ("signatureVerified", .bool false)])
  else do
    let publicKey ← importEd25519PublicKey host publicKeyHex
    let signatureBytes ← decodeBase64 host envelope.signature
    let verified ← verifyEd25519Signature host publicKey
      (canonicalize (payloadJson envelope.chain.current)) signatureBytes
    if verified then
      return signatureResult .pass "Seal signature verified against the local signer public key"
        [("keyId", .string envelope.keyId), ("signatureVerified", .bool true)]
    else
      return signatureResult .fail "Seal signature verification failed"
        [("keyId", .string envelope.keyId), ("signatureVerified", .bool false)]

/-- `createSealSignatureCheck` -/
def sealSignatureCheck (host : VerifierHost Key) (request : VerificationRequest) :
    Except SignetError VerificationCheck :=
  match request.«seal» with
  | none => .ok ⟨"seal_signature", .skip, "No seal provided", none⟩
  | some payload =>
    match signatureFailures host payload with
    | [] =>
      match request.sealEnvelope, request.sealPublicKey with
      | some envelope, some publicKeyHex => verifyEnvelope host payload envelope publicKeyHex
      | _, _ =>
        .ok (signatureResult .skip
          "Seal structural validation passed; signature verification requires a local envelope and signer public key"
          [("operatorId", .string payload.operatorId), ("signatureVerified", .null)])
    | failures =>
      .ok (signatureResult .fail
        ("Seal structural validation failed: " ++ "; ".intercalate failures)
        [("failures", textsJson failures), ("signatureVerified", .bool false)])

/-! ## The chain check -/

def chainFailures (payload : WirePayload) : List String :=
  (if payload.sealId = "" then ["Missing sealId"] else [])
    ++ (if payload.chatId = "" then ["Missing chatId"] else [])
    ++ (if payload.operatorId = "" then ["Missing operatorId"] else [])
    ++ (if payload.credentialId = "" then ["Missing credentialId"] else [])

/-- A received payload at an instant. -/
def WirePayload.at (payload : WirePayload) (issuedAt : Int) : SealPayload where
  sealId := payload.sealId
  credentialId := payload.credentialId
  operatorId := payload.operatorId
  chatId := payload.chatId
  scopeMode := payload.scopeMode
  permissions := payload.permissions
  adminAccess := payload.adminAccess
  issuedAt := issuedAt
  bypassed := payload.bypassed
  trustTier := payload.trustTier
  operatorDisclosures := payload.operatorDisclosures
  provenanceMap := payload.provenanceMap

/-- The instants of a payload and its predecessor.  A text that is no date is
neither before nor after another, so the two are then taken to be one instant. -/
def issuedTimes (host : VerifierHost Key) (chain : WireChain) : Int × Int :=
  match host.getTime chain.current.issuedAt,
    chain.previous.bind fun previous => host.getTime previous.issuedAt with
  | some current, some previous => (current, previous)
  | _, _ => (0, 0)

/-- A received chain as the chain functions read it. -/
def WireChain.dated (host : VerifierHost Key) (chain : WireChain) : SealChain where
  current := chain.current.at (issuedTimes host chain).1
  previous := chain.previous.map fun previous => previous.at (issuedTimes host chain).2
  delta := chain.delta

def chainResult (verdict : CheckVerdict) (reason : String) (evidence : List (String × Json)) :
    VerificationCheck :=
  ⟨"seal_chain", verdict, reason, some (.object evidence)⟩

def validateEnvelope (host : VerifierHost Key) (payload : WirePayload) (envelope : WireEnvelope) :
    VerificationCheck :=
  let walked : Json := .bool envelope.chain.previous.isSome
  if envelope.chain.current.sealId ≠ payload.sealId then
    chainResult .fail "Seal envelope does not match the requested seal payload"
      [("expectedSealId", .string payload.sealId),
        ("envelopeSealId", .string envelope.chain.current.sealId),
        ("chainValid", .bool false), ("chainWalked", .bool false)]
  else if canonicalize (payloadJson payload) ≠ canonicalize (payloadJson envelope.chain.current)
  then
    chainResult .fail "Seal payload does not match signed envelope content"
      [("sealId", .string payload.sealId), ("chainValid", .bool false),
        ("chainWalked", .bool false)]
  else
    match validateSealChain (envelope.chain.dated host) with
    | .error error =>
      chainResult .fail error.message
        [("sealId", .string payload.sealId), ("chainValid", .bool false),
          ("chainWalked", walked)]
    | .ok () =>
      match verifyChainDelta (envelope.chain.dated host) with
      | .error error =>
        chainResult .fail error.message
          [("sealId", .string payload.sealId), ("chainValid", .bool false),
            ("chainWalked", walked)]
      | .ok () =>
        chainResult .pass "Seal chain and stored delta validated locally"
          [("sealId", .string payload.sealId), ("chainWalked", walked),
            ("chainValid", .bool true)]

/-- `createSealChainCheck` -/
def sealChainCheck (host : VerifierHost Key) (request : VerificationRequest) :
    Except SignetError VerificationCheck :=
  match request.«seal» with
  | none => .ok ⟨"seal_chain", .skip, "No seal provided", none⟩
  | some payload =>
    match chainFailures payload with
    | [] =>
      match request.sealEnvelope with
      | some envelope => .ok (validateEnvelope host payload envelope)
      | none =>
        .ok (chainResult .skip
          "Seal payload structurally valid; full chain validation requires the local envelope"
          [("sealId", .string payload.sealId), ("chainWalked", .bool false),
            ("chainValid", .bool true)])
    | failures =>
      .ok (chainResult .fail
        ("Seal chain validation failed: " ++ "; ".intercalate failures)
        [("failures", textsJson failures), ("sealId", .string payload.sealId),
          ("chainValid", .bool false), ("chainWalked", .bool false)])

/-! ## Verdicts -/

/-- The check lets the request through: it passes. -/
def Passes (result : Except SignetError VerificationCheck) : Prop :=
  ∃ check, result = .ok check ∧ check.verdict = .pass

/-- The check rejects the request: it fails, or cannot be carried out. -/
def Rejects (result : Except SignetError VerificationCheck) : Prop :=
  match result with
  | .ok check => check.verdict = .fail
  | .error _ => True

/-- The signature of the envelope is one of its current payload, under the public
key. -/
def Verified (host : VerifierHost Key) (publicKeyHex : String) (envelope : WireEnvelope) : Prop :=
  ∃ key bytes, host.importKey (hexToBytes publicKeyHex) = .ok key ∧
    host.decodeBase64 envelope.signature = .ok bytes ∧
    host.verify key bytes (canonicalize (payloadJson envelope.chain.current)) = .ok true

variable {host : VerifierHost Key} {envelope : WireEnvelope} {payload : WirePayload}

/-- The signature check lets an envelope through only with the claimed payload and
a signature of it. -/
theorem rejects_verifyEnvelope {publicKeyHex : String} :
    Rejects (verifyEnvelope host payload envelope publicKeyHex) ↔
      ¬ (payload.Same envelope.chain.current ∧ Verified host publicKeyHex envelope) := by
  unfold verifyEnvelope
  split
  · next hId =>
    refine iff_of_true rfl ?_
    rintro ⟨hSame, -⟩
    exact hId hSame.sealId.symm
  · split
    · next hText =>
      refine iff_of_true rfl ?_
      rintro ⟨hSame, -⟩
      exact hText (canonicalize_eq_iff.mpr hSame)
    · next hText =>
      have hSame := canonicalize_eq_iff.mp (not_not.mp hText)
      cases hKey : host.importKey (hexToBytes publicKeyHex) with
      | error cause => simp [importEd25519PublicKey, Verified, hKey, Rejects, bind, Except.bind]
      | ok key =>
        cases hBytes : host.decodeBase64 envelope.signature with
        | error cause =>
          simp [importEd25519PublicKey, decodeBase64, Verified, hKey, hBytes, Rejects, bind,
            Except.bind]
        | ok bytes =>
          cases hValid : host.verify key bytes
              (canonicalize (payloadJson envelope.chain.current)) with
          | error cause =>
            simp [importEd25519PublicKey, decodeBase64, verifyEd25519Signature, Verified,
              hKey, hBytes, hValid, Rejects, bind, Except.bind]
          | ok valid =>
            cases valid <;>
              simp [importEd25519PublicKey, decodeBase64, verifyEd25519Signature, Verified,
                hKey, hBytes, hValid, hSame, Rejects, signatureResult, bind, Except.bind,
                pure, Except.pure]

theorem rejects_sealSignatureCheck {publicKeyHex : String} :
    Rejects (sealSignatureCheck host ⟨some payload, some envelope, some publicKeyHex⟩) ↔
      signatureFailures host payload ≠ [] ∨
        ¬ (payload.Same envelope.chain.current ∧ Verified host publicKeyHex envelope) := by
  unfold sealSignatureCheck
  split
  · next hPayload => cases hPayload
  · next claimed hPayload =>
    cases hPayload
    split
    · next hNone =>
      rw [hNone, ← rejects_verifyEnvelope]
      simp
    · next hSome => exact iff_of_true rfl (.inl hSome)

/-- The predecessor of a received chain is of the operator, credential and chat of
its current payload, and not later. -/
def LinkKept (host : VerifierHost Key) (chain : WireChain) : Prop :=
  ∀ previous, chain.previous = some previous →
    chain.current.operatorId = previous.operatorId ∧
      chain.current.credentialId = previous.credentialId ∧
      chain.current.chatId = previous.chatId ∧
      ∀ before now, host.getTime previous.issuedAt = some before →
        host.getTime chain.current.issuedAt = some now → before ≤ now

/-- The stored delta is the one between the two payloads. -/
def DeltaKept (host : VerifierHost Key) (chain : WireChain) : Prop :=
  SameDelta (expectedDelta (chain.dated host).current (chain.dated host).previous) chain.delta

theorem issuedTimes_le_iff {chain : WireChain} {previous : WirePayload}
    (hPrevious : chain.previous = some previous) :
    (issuedTimes host chain).2 ≤ (issuedTimes host chain).1 ↔
      ∀ before now, host.getTime previous.issuedAt = some before →
        host.getTime chain.current.issuedAt = some now → before ≤ now := by
  unfold issuedTimes
  rw [hPrevious, Option.bind_some]
  cases hNow : host.getTime chain.current.issuedAt with
  | none => simp
  | some now =>
    cases hBefore : host.getTime previous.issuedAt with
    | none => simp
    | some before => simp

theorem validateSealChain_dated {chain : WireChain} :
    validateSealChain (chain.dated host) = .ok () ↔ LinkKept host chain := by
  rw [validateSealChain_iff]
  unfold LinkKept WireChain.dated
  cases hPrevious : chain.previous with
  | none => simp
  | some previous =>
    simp only [Option.map_some, Option.some.injEq, forall_eq', WirePayload.at,
      issuedTimes_le_iff hPrevious]

/-- The chain check lets an envelope through only with the claimed payload, a
predecessor that fits and the delta between the two. -/
theorem rejects_validateEnvelope :
    Rejects (.ok (validateEnvelope host payload envelope)) ↔
      ¬ (payload.Same envelope.chain.current ∧ LinkKept host envelope.chain ∧
        DeltaKept host envelope.chain) := by
  unfold validateEnvelope
  simp only
  split
  · next hId =>
    refine iff_of_true rfl ?_
    rintro ⟨hSame, -⟩
    exact hId hSame.sealId.symm
  · split
    · next hText =>
      refine iff_of_true rfl ?_
      rintro ⟨hSame, -⟩
      exact hText (canonicalize_eq_iff.mpr hSame)
    · next hText =>
      have hSame := canonicalize_eq_iff.mp (not_not.mp hText)
      have hLink : validateSealChain (envelope.chain.dated host) = .ok () ↔
          LinkKept host envelope.chain := validateSealChain_dated
      have hDelta : verifyChainDelta (envelope.chain.dated host) = .ok () ↔
          DeltaKept host envelope.chain := verifyChainDelta_iff
      split
      · next error hError =>
        refine iff_of_true rfl ?_
        rintro ⟨-, hKept, -⟩
        rw [hLink.mpr hKept] at hError
        cases hError
      · next hOk =>
        split
        · next error hError =>
          refine iff_of_true rfl ?_
          rintro ⟨-, -, hKept⟩
          rw [hDelta.mpr hKept] at hError
          cases hError
        · next hOk' =>
          refine iff_of_false (fun hFail => nomatch hFail) ?_
          exact not_not.mpr ⟨hSame, hLink.mp hOk, hDelta.mp hOk'⟩

theorem rejects_sealChainCheck {publicKeyHex : Option String} :
    Rejects (sealChainCheck host ⟨some payload, some envelope, publicKeyHex⟩) ↔
      chainFailures payload ≠ [] ∨
        ¬ (payload.Same envelope.chain.current ∧ LinkKept host envelope.chain ∧
          DeltaKept host envelope.chain) := by
  unfold sealChainCheck
  split
  · next hPayload => cases hPayload
  · next claimed hPayload =>
    cases hPayload
    split
    · next hNone =>
      rw [hNone, ← rejects_validateEnvelope]
      simp
    · next hSome => exact iff_of_true rfl (.inl hSome)

end Verifier
end Signet
