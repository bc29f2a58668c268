import Signet.Seals.Stamper
import Signet.Verifier.Checks

/-!
# What the verifier accepts of an envelope

The signature of an envelope is one of its current payload alone.  The manager
puts the chain in place of the stamper's own after the signing, and the checks
of the verifier compare the rest of the chain with itself: the predecessor has
to fit the current payload, and the stored delta has to be the one between the
two.

* `SignsFor` — a signing key, and the public key the verifier is given.
* `Rejected` — some check rejects the envelope, whatever payload is claimed.
* `envelope_integrity` — when an envelope with another chain is rejected.
* `predecessor_forged` — an invented predecessor is accepted.
-/

namespace Signet
namespace Verifier

open Kit Machine Schemas Seals

variable {Key : Type}

/-- The public key verifies a signature of the signing key for the signed text, and
for no other. -/
structure SignsFor (host : VerifierHost Key) (signingKey : SigningKeyHandle)
    (publicKeyHex : String) : Prop where
  decodes : ∀ text bytes, signingKey.sign text = .ok bytes →
    host.decodeBase64 (Base64.encode bytes) = .ok bytes
  verifies : ∃ key, host.importKey (hexToBytes publicKeyHex) = .ok key ∧
    ∀ text bytes, signingKey.sign text = .ok bytes →
      ∀ data, host.verify key bytes data = .ok (decide (data = text))

/-- Whatever payload is claimed for the envelope, one of the two seal checks rejects
it. -/
def Rejected (host : VerifierHost Key) (publicKeyHex : String) (envelope : WireEnvelope) : Prop :=
  ∀ claimed, Rejects (sealSignatureCheck host ⟨some claimed, some envelope, some publicKeyHex⟩) ∨
    Rejects (sealChainCheck host ⟨some claimed, some envelope, some publicKeyHex⟩)

variable {host : VerifierHost Key} {envelope : WireEnvelope}

theorem verified_iff {signingKey : SigningKeyHandle} {publicKeyHex text : String}
    (hKey : SignsFor host signingKey publicKeyHex) {bytes : List UInt8}
    (hBytes : signingKey.sign text = .ok bytes)
    (hSignature : envelope.signature = Base64.encode bytes) :
    Verified host publicKeyHex envelope ↔
      canonicalize (payloadJson envelope.chain.current) = text := by
  obtain ⟨key, hImport, hVerify⟩ := hKey.verifies
  have hDecode := hKey.decodes text bytes hBytes
  rw [← hSignature] at hDecode
  constructor
  · rintro ⟨key', bytes', hImport', hDecode', hVerified⟩
    rw [hImport] at hImport'
    rw [hDecode] at hDecode'
    cases hImport'
    cases hDecode'
    rw [hVerify text bytes hBytes] at hVerified
    exact of_decide_eq_true (Except.ok.inj hVerified)
  · intro hText
    refine ⟨key, bytes, hImport, hDecode, ?_⟩
    rw [hVerify text bytes hBytes, decide_eq_true hText]

/-- A payload with its ids and a date that is read back has no structural failure. -/
theorem failures_eq_nil {payload : SealPayload} (hNamed : Named payload)
    (hDate : host.getTime (toISOString payload.issuedAt) = some payload.issuedAt)
    {claimed : WirePayload} (hSame : claimed.Same (wirePayload payload)) :
    signatureFailures host claimed = [] ∧ chainFailures claimed = [] := by
  have hOperator : claimed.operatorId ≠ "" := hSame.operatorId ▸ hNamed.operatorId
  have hSeal : claimed.sealId ≠ "" := hSame.sealId ▸ hNamed.sealId
  have hChat : claimed.chatId ≠ "" := hSame.chatId ▸ hNamed.chatId
  have hCredential : claimed.credentialId ≠ "" := hSame.credentialId ▸ hNamed.credentialId
  have hIssued : claimed.issuedAt = toISOString payload.issuedAt := hSame.issuedAt
  constructor
  · unfold signatureFailures
    rw [if_neg hOperator, hIssued, if_neg (toISOString_ne_empty payload.issuedAt), hDate]
    simp
  · unfold chainFailures
    rw [if_neg hOperator, if_neg hSeal, if_neg hChat, if_neg hCredential]
    rfl

theorem passes_sealSignatureCheck {payload : WirePayload} {publicKeyHex : String}
    (hFailures : signatureFailures host payload = []) (hSame : payload.Same envelope.chain.current)
    (hVerified : Verified host publicKeyHex envelope) :
    Passes (sealSignatureCheck host ⟨some payload, some envelope, some publicKeyHex⟩) := by
  obtain ⟨key, bytes, hImport, hDecode, hValid⟩ := hVerified
  have hText := canonicalize_eq_iff.mpr hSame
  refine ⟨signatureResult .pass "Seal signature verified against the local signer public key"
    [("keyId", .string envelope.keyId), ("signatureVerified", .bool true)], ?_, rfl⟩
  unfold sealSignatureCheck
  simp only [hFailures]
  unfold verifyEnvelope
  rw [if_neg (not_not.mpr hSame.sealId.symm), if_neg (not_not.mpr hText)]
  simp [importEd25519PublicKey, decodeBase64, verifyEd25519Signature, hImport, hDecode, hValid,
    bind, Except.bind, pure, Except.pure]

/-- **The altered chains that the checks reject.**  An envelope of the manager with
another chain in it is rejected exactly when its current payload is not the signed
one, its predecessor does not fit, or its delta is not the one between the two. -/
theorem envelope_integrity (zod : ZodEnv) {host : VerifierHost Key}
    {signingKey : SigningKeyHandle} {publicKeyHex : String}
    (hKey : SignsFor host signingKey publicKeyHex) {h : List SealOccurrence} {s : SealState}
    (hRun : (sealMachine zod).Runs h s) (hStamped : AllMeet (Stamped signingKey) h)
    {chatId : String} {envelope : SealEnvelope}
    (hOut : .publishing chatId envelope ∈ outputs h)
    (hDate : host.getTime (toISOString envelope.chain.current.issuedAt) =
      some envelope.chain.current.issuedAt) (altered : WireChain) :
    Rejected host publicKeyHex { wireEnvelope envelope with chain := altered } ↔
      ¬ (altered.current.Same (wirePayload envelope.chain.current) ∧ LinkKept host altered ∧
        DeltaKept host altered) := by
  obtain ⟨hNamed, bytes, hBytes, hSignature⟩ := publishing_of_run hRun hStamped hOut
  have hVerified : Verified host publicKeyHex { wireEnvelope envelope with chain := altered } ↔
      altered.current.Same (wirePayload envelope.chain.current) :=
    (verified_iff hKey hBytes hSignature).trans canonicalize_eq_iff
  constructor
  · -- the altered payload itself is claimed
    rintro hRejected ⟨hSame, hLink, hDelta⟩
    obtain ⟨hSignatureOk, hChainOk⟩ := failures_eq_nil hNamed hDate hSame
    have hSelf : altered.current.Same altered.current := canonicalize_eq_iff.mp rfl
    rcases hRejected altered.current with hCheck | hCheck
    · rcases rejects_sealSignatureCheck.mp hCheck with hFailures | hVerdict
      · exact hFailures hSignatureOk
      · exact hVerdict ⟨hSelf, hVerified.mpr hSame⟩
    · rcases rejects_sealChainCheck.mp hCheck with hFailures | hVerdict
      · exact hFailures hChainOk
      · exact hVerdict ⟨hSelf, hLink, hDelta⟩
  · intro hAltered claimed
    by_cases hSame : altered.current.Same (wirePayload envelope.chain.current)
    · refine .inr (rejects_sealChainCheck.mpr (.inr ?_))
      rintro ⟨-, hLink, hDelta⟩
      exact hAltered ⟨hSame, hLink, hDelta⟩
    · refine .inl (rejects_sealSignatureCheck.mpr (.inr ?_))
      rintro ⟨-, hValid⟩
      exact hSame (hVerified.mp hValid)

/-! ## A forged predecessor -/

def textBytes (text : String) : List UInt8 := text.toByteArray.data.toList

theorem textBytes_injective {a b : String} (h : textBytes a = textBytes b) : a = b := by
  have hData : a.toByteArray.data = b.toByteArray.data := Array.toList_inj.mp h
  exact String.toByteArray_inj.mp (ByteArray.ext hData)

/-- A key whose signatures are the texts themselves. -/
def sampleSigningKey : SigningKeyHandle := ⟨fun text => .ok (textBytes text), "key"⟩

theorem sampleSigningKey_sign (text : String) :
    sampleSigningKey.sign text = .ok (textBytes text) := rfl

/-- A host that knows one date and verifies those signatures. -/
def sampleHost : VerifierHost Unit where
  getTime := fun text => if text = "1970-01-01T00:00:00.000Z" then some 0 else none
  decodeBase64 := fun text => .ok (Base64.decode text)
  importKey := fun bytes => if bytes.length = 32 then .ok () else .error "invalid key length"
  verify := fun _ signature data => .ok (decide (signature = textBytes data))

def samplePublicKey : String :=
  "d75a980182b10ab7d54bfed3c964073a0ee172f3daa62325af021a68f707511a"

theorem sample_signsFor : SignsFor sampleHost sampleSigningKey samplePublicKey := by
  refine ⟨?_, (), by decide +kernel, ?_⟩
  · intro text bytes _
    exact congrArg Except.ok (Base64.decode_encode bytes)
  · intro text bytes hSign data
    cases hSign
    have hIff : textBytes text = textBytes data ↔ data = text := by
      refine ⟨fun hBytes => (textBytes_injective hBytes).symm, ?_⟩
      rintro rfl
      rfl
    exact congrArg Except.ok (decide_eq_decide.mpr hIff)

def stampedWith (payload : SealPayload) : SealSignature where
  signature := Base64.encode (textBytes (canonicalize (payloadJson (wirePayload payload))))
  keyId := "key"

theorem stampedWith_signature (payload : SealPayload) :
    (stampedWith payload).signature =
      Base64.encode (textBytes (canonicalize (payloadJson (wirePayload payload)))) := rfl

theorem sign_sample (payload : SealPayload) :
    sign sampleSigningKey payload =
      .ok ⟨⟨payload, none, .empty⟩, (stampedWith payload).signature, (stampedWith payload).keyId⟩ :=
  rfl

/-- The signature of the first draft. -/
def stampedSignature : SealSignature := stampedWith firstDraft.chain.current

/-- The first seal is issued and signed. -/
def stampedSeal : List SealLabel :=
  [⟨0, .issue 1 sampleInput.credentialId sampleInput.chatId⟩,
    ⟨0, .inputResolved 1 (.ok sampleInput) firstDraft.chain.current.sealId⟩,
    ⟨1, .signed 1 (.ok stampedSignature)⟩]

/-- The history of the first seal up to its publication. -/
def stampedHistory : List SealOccurrence :=
  [⟨firstSealStates 0, ⟨0, .issue 1 sampleInput.credentialId sampleInput.chatId⟩, []⟩,
    ⟨firstSealStates 1,
      ⟨0, .inputResolved 1 (.ok sampleInput) firstDraft.chain.current.sealId⟩, []⟩,
    ⟨firstSealStates 2, ⟨1, .signed 1 (.ok stampedSignature)⟩,
      [.publishing firstDraft.chatId (firstDraft.envelope stampedSignature)]⟩]

/-- The state in which the first seal awaits its publication. -/
def stampedState : SealState :=
  await (firstSealStates 0) 1 (.publishing firstDraft (firstDraft.envelope stampedSignature))

theorem stampedSeal_exec (zod : ZodEnv) :
    (sealMachine zod).exec (sealMachine zod).init stampedSeal =
      some (stampedHistory, stampedState) := by
  refine exec_cons (show _ = some (firstSealStates 1, _) from rfl) ?_
  refine exec_cons (show _ = some (firstSealStates 2, _) from rfl) ?_
  exact exec_cons (show _ = some (stampedState, _) from rfl) rfl

theorem stampedHistory_stamped : AllMeet (Stamped sampleSigningKey) stampedHistory := by
  intro o ho call draft signature hCall hEvent
  simp only [stampedHistory, List.mem_cons, List.not_mem_nil, or_false] at ho
  rcases ho with rfl | rfl | rfl
  · cases hEvent
  · cases hEvent
  · obtain ⟨rfl, hSignature⟩ := SealEvent.signed.inj hEvent
    have hStage : SealStage.signing firstDraft = .signing draft := Option.some.inj hCall
    rw [← SealStage.signing.inj hStage, ← Except.ok.inj hSignature]
    exact ⟨_, sign_sample firstDraft.chain.current, rfl⟩

theorem stampedHistory_publishes :
    .publishing firstDraft.chatId (firstDraft.envelope stampedSignature) ∈
      outputs stampedHistory := by
  simp [stampedHistory, outputs]

/-- The first seal on the wire. -/
def stampedEnvelope : WireEnvelope := wireEnvelope (firstDraft.envelope stampedSignature)

/-- A predecessor that was never issued, and the delta from it. -/
def forgedChain : WireChain where
  current := stampedEnvelope.chain.current
  previous := some { stampedEnvelope.chain.current with
    sealId := "seal_00000000000000ff"
    permissions := ⟨[], [.send]⟩ }
  delta := ⟨[], [], [⟨.send, .deny, .allow⟩]⟩

theorem forged_signature :
    stampedEnvelope.signature =
      Base64.encode (textBytes (canonicalize (payloadJson forgedChain.current))) :=
  stampedWith_signature firstDraft.chain.current

instance (result : Except SignetError VerificationCheck) : Decidable (Passes result) :=
  match result with
  | .ok check =>
    decidable_of_iff (check.verdict = .pass)
      ⟨fun h => ⟨check, rfl, h⟩, fun ⟨_, hEq, h⟩ => by cases hEq; exact h⟩
  | .error _ => .isFalse fun ⟨_, hEq, _⟩ => nomatch hEq

/-- A first seal that is given a predecessor passes both checks. -/
theorem predecessor_forged :
    (sealMachine sampleZod).Runs stampedHistory stampedState ∧
      AllMeet (Stamped sampleSigningKey) stampedHistory ∧
      SignsFor sampleHost sampleSigningKey samplePublicKey ∧
      .publishing firstDraft.chatId (firstDraft.envelope stampedSignature) ∈
        outputs stampedHistory ∧
      stampedEnvelope.chain.previous = none ∧ forgedChain ≠ stampedEnvelope.chain ∧
      Passes (sealSignatureCheck sampleHost ⟨some forgedChain.current,
        some { stampedEnvelope with chain := forgedChain }, some samplePublicKey⟩) ∧
      Passes (sealChainCheck sampleHost ⟨some forgedChain.current,
        some { stampedEnvelope with chain := forgedChain }, some samplePublicKey⟩) := by
  refine ⟨runs_of_exec (stampedSeal_exec sampleZod), stampedHistory_stamped,
    sample_signsFor, stampedHistory_publishes, rfl, ?_, ?_, by decide +kernel⟩
  · intro hEq
    have hPrevious := congrArg WireChain.previous hEq
    cases hPrevious
  · have hVerified : Verified sampleHost samplePublicKey
        { stampedEnvelope with chain := forgedChain } :=
      (verified_iff sample_signsFor
        (sampleSigningKey_sign (canonicalize (payloadJson forgedChain.current)))
        forged_signature).mpr rfl
    exact passes_sealSignatureCheck (by decide) (canonicalize_eq_iff.mp rfl) hVerified

/-- The check rejects the first seal with another current payload. -/
theorem envelope_integrity_altered :
    ∃ altered : WireChain, altered ≠ stampedEnvelope.chain ∧
      Rejected sampleHost samplePublicKey { stampedEnvelope with chain := altered } := by
  refine ⟨⟨{ stampedEnvelope.chain.current with permissions := ⟨[], []⟩ }, none, .empty⟩, ?_, ?_⟩
  · intro hEq
    have hPermissions := congrArg (fun chain => chain.current.permissions.allow) hEq
    cases hPermissions
  · refine (envelope_integrity sampleZod sample_signsFor
      (runs_of_exec (stampedSeal_exec sampleZod)) stampedHistory_stamped
      stampedHistory_publishes (by decide) _).mpr ?_
    rintro ⟨hSame, -⟩
    have hPermissions := congrArg ScopeSet.allow hSame.permissions
    cases hPermissions

end Verifier
end Signet
