import Signet.Core.ConversationId
import Signet.Keys.KeyBackend
import Signet.Seals.Stamper

/-!
# The stampers of the keys package

A seal stamper signs with the operational key of an identity or with an account of a
wallet.  Neither names its key by a resource id: the one writes the public key, and the
other the digits of four bytes after the tag.  The schema of an envelope asks for eight.

* `OperationalKeys` — the operational keys of the key manager, with their operations.
* `SealStamper.sign` — a stamper of either kind.
* `keyIdIssue` — the complaint of the schema about an envelope.
* `envelopes_refused` — it is the only one, and no envelope is without it.
-/

namespace Signet
namespace Keys

open Kit Machine Schemas Seals Verifier
open Signet.Core

/-! ## Operational keys -/

structure OperationalKey where
  keyId : String
  identityId : String
  groupId : Option String
  publicKey : String
  fingerprint : String
  createdAt : String
  rotatedAt : Option String
deriving DecidableEq

structure OperationalKeyEntry where
  key : OperationalKey
  privateKey : Bytes
  digits : CanonicalHex key.publicKey

/-- The operational keys by identity, and the identities of groups. -/
structure OperationalKeys where
  opKeys : AssocMap String OperationalKeyEntry
  groupIdIndex : AssocMap String String

/-- What the host makes of the signatures and the digests of the stampers. -/
structure StamperHost extends KeyHost where
  /-- `crypto.subtle.sign({ name: "Ed25519" }, privateKey, data)` -/
  subtleSign (privateKey data : Bytes) : Except String Bytes

structure KeyPair where
  publicKey : Bytes
  privateKey : Bytes
  /-- `fingerprint` -/
  fingerprint : String

/-- `signEd25519` -/
def signEd25519 (host : StamperHost) (privateKey data : Bytes) : Except SignetError Bytes :=
  match host.subtleSign privateKey data with
  | .ok signature => .ok signature
  | .error cause =>
    .error (InternalError.create "Ed25519 signing failed" (some [("cause", .text cause)]))

namespace OperationalKeys

/-- `createOperationalKeyRecord`, with the pair the host has generated. -/
def createOperationalKeyRecord (keys : OperationalKeys) (identityId : String)
    (groupId : Option String) (pair : Except SignetError KeyPair) (now : String) :
    OperationalKeys × Except SignetError OperationalKey :=
  match pair with
  | .error error => (keys, .error error)
  | .ok pair =>
    let operationalKey : OperationalKey :=
      { keyId := "op-" ++ String.ofList (pair.fingerprint.toList.take 16)
        identityId := identityId
        groupId := groupId
        publicKey := bytesToHex pair.publicKey
        fingerprint := pair.fingerprint
        createdAt := now
        rotatedAt := none }
    ({ opKeys := keys.opKeys.set identityId
        ⟨operationalKey, pair.privateKey, canonical_bytesToHex pair.publicKey⟩
       groupIdIndex := match groupId with
        | none => keys.groupIdIndex
        | some group => keys.groupIdIndex.set group identityId },
      .ok operationalKey)

/-- `getOperationalKey` -/
def getOperationalKey (keys : OperationalKeys) (identityId : String) :
    Except SignetError OperationalKey :=
  match keys.opKeys.get identityId with
  | none => .error (NotFoundError.create "operational-key" identityId)
  | some entry => .ok entry.key

/-- `signWithOperationalKey` -/
def signWithOperationalKey (host : StamperHost) (keys : OperationalKeys) (identityId : String)
    (data : Bytes) : Except SignetError Bytes :=
  match keys.opKeys.get identityId with
  | none => .error (NotFoundError.create "operational-key" identityId)
  | some entry => signEd25519 host entry.privateKey data

theorem digits_of_getOperationalKey {keys : OperationalKeys} {identityId : String}
    {key : OperationalKey} (h : keys.getOperationalKey identityId = .ok key) :
    CanonicalHex key.publicKey := by
  unfold getOperationalKey at h
  split at h
  · cases h
  · next entry hEntry =>
    cases h
    exact entry.digits

end OperationalKeys

/-! ## The stampers -/

def canonicalBytes (payload : SealPayload) : Bytes :=
  textEncode (canonicalize (payloadJson (wirePayload payload)))

/-- The envelope of a stamper; it takes the payload for the whole chain. -/
def stampedEnvelope (payload : SealPayload) (signature : Bytes) (keyId : String) :
    SealEnvelope where
  chain := { current := payload, previous := none, delta := .empty }
  signature := Base64.encode signature
  keyId := keyId

/-- `toKeyId` -/
def toKeyId (host : StamperHost) (publicKey : Bytes) : String :=
  "key_" ++ bytesToHex ((host.sha256 publicKey).take 4)

inductive SealStamper where
  /-- Bound to an identity of the key manager.  Other calls run between the signature and
  the lookup of the public key. -/
  | identity (atSignature atLookup : OperationalKeys) (identityId : String)
  | account (backend : KeyBackend) (passphrase walletId : String) (accountIndex : Nat)

/-- `createSealStamperCompat.sign` for an identity, `createSealStamper.sign` for an
account. -/
def SealStamper.sign (host : StamperHost) (stamper : SealStamper) (payload : SealPayload) :
    Except SignetError SealEnvelope :=
  match stamper with
  | .identity atSignature atLookup identityId =>
    match atSignature.signWithOperationalKey host identityId (canonicalBytes payload) with
    | .error error => .error error
    | .ok signature =>
      match atLookup.getOperationalKey identityId with
      | .error error => .error error
      | .ok key => .ok (stampedEnvelope payload signature key.publicKey)
  | .account backend passphrase walletId accountIndex =>
    match backend.sign host.toKeyHost passphrase walletId accountIndex
        (canonicalBytes payload) with
    | .error error => .error error
    | .ok signed =>
      .ok (stampedEnvelope payload signed.signature (toKeyId host signed.publicKey))

def SignedByStamper (host : StamperHost) (s : SealState) (label : SealLabel) : Prop :=
  ∀ call draft signature, s.calls.get call = some (.signing draft) →
    label.event = .signed call (.ok signature) →
    ∃ stamper envelope, SealStamper.sign host stamper draft.chain.current = .ok envelope ∧
      signature = ⟨envelope.signature, envelope.keyId⟩

/-! ## Key ids -/

/-- The complaint about the key id of an envelope. -/
def keyIdIssue : Issue := ⟨["keyId"], resourceIdMessage .key⟩

theorem not_keyId_of_digits {text : String} (h : CanonicalHex text) :
    isResourceId .key text = false := by
  by_contra hId
  rw [Bool.not_eq_false] at hId
  simp only [isResourceId, Bool.and_eq_true, beq_iff_eq] at hId
  have hTag : 'k' ∈ text.toList := by
    apply List.mem_of_mem_take
    rw [hId.1.1]
    decide
  exact absurd (h.digits 'k' hTag).1 (by decide)

/-- Four bytes have eight digits. -/
theorem not_keyId_of_toKeyId (host : StamperHost) (publicKey : Bytes) :
    isResourceId .key (toKeyId host publicKey) = false := by
  by_contra hId
  rw [Bool.not_eq_false] at hId
  simp only [isResourceId, Bool.and_eq_true, beq_iff_eq, resourceIdHexLength] at hId
  have hLength : ((toKeyId host publicKey).toList.drop 4).length = 16 := hId.1.2
  have hDigits := length_bytesToHex ((host.sha256 publicKey).take 4)
  have hTake : ((host.sha256 publicKey).take 4).length ≤ 4 := by
    rw [List.length_take]
    omega
  rw [toKeyId, String.toList_append, List.length_drop, List.length_append, hDigits] at hLength
  have hPrefix : "key_".toList.length = 4 := rfl
  omega

theorem keyId_refused {host : StamperHost} {stamper : SealStamper} {payload : SealPayload}
    {envelope : SealEnvelope} (h : stamper.sign host payload = .ok envelope) :
    resourceIdIssues .key ["keyId"] envelope.keyId = [keyIdIssue] := by
  have hNot : isResourceId .key envelope.keyId = false := by
    unfold SealStamper.sign at h
    cases stamper with
    | identity atSignature atLookup identityId =>
      simp only at h
      split at h
      · cases h
      · split at h
        · cases h
        · next key hKey =>
          cases h
          exact not_keyId_of_digits (OperationalKeys.digits_of_getOperationalKey hKey)
    | account backend passphrase walletId accountIndex =>
      simp only at h
      split at h
      · cases h
      · next signed _ =>
        cases h
        exact not_keyId_of_toKeyId host signed.publicKey
  rw [resourceIdIssues, hNot]
  rfl

theorem chain_of_sign {host : StamperHost} {stamper : SealStamper} {payload : SealPayload}
    {envelope : SealEnvelope} (h : stamper.sign host payload = .ok envelope) :
    envelope.chain = { current := payload, previous := none, delta := .empty } := by
  unfold SealStamper.sign at h
  cases stamper with
  | identity atSignature atLookup identityId =>
    simp only at h
    split at h
    · cases h
    · split at h
      · cases h
      · cases h
        rfl
  | account backend passphrase walletId accountIndex =>
    simp only at h
    split at h
    · cases h
    · cases h
      rfl

/-! ## Chains of a run -/

theorem sealChainIssues_eq_nil {zod : ZodEnv} {chain : SealChain}
    (hCurrent : sealPayloadIssues zod chain.current = [])
    (hPrevious : ∀ previous, chain.previous = some previous →
      sealPayloadIssues zod previous = []) :
    sealChainIssues zod chain = [] := by
  unfold sealChainIssues
  rw [hCurrent]
  cases hEq : chain.previous with
  | none => rfl
  | some previous => simp [hPrevious previous hEq]

structure Accepted (zod : ZodEnv) (s : SealState) : Prop where
  heads : ∀ key e, s.maps.currentSeals.get key = some e →
    sealPayloadIssues zod e.chain.current = []
  tracked : ∀ id e, s.maps.sealsById.get id = some e →
    sealPayloadIssues zod e.chain.current = []
  payloads : ∀ draft, InFlight s draft → sealPayloadIssues zod draft.chain.current = []
  drafts : ∀ draft, InFlight s draft → sealChainIssues zod draft.chain = []
  signed : ∀ call draft e, s.calls.get call = some (.publishing draft e) → e.chain = draft.chain

section

variable {zod : ZodEnv} {s : SealState}

variable (h : Accepted zod s)

include h

theorem Accepted.step {s' : SealState} {label : SealLabel} {out : List SealObservation}
    (hMove : SealMove zod s label s' out) : Accepted zod s' := by
  have hAccepts : ∀ {draft : Draft} {now drawnId previous},
      buildSeal zod now drawnId draft.input previous = .ok draft.chain →
      (∀ payload, previous = some payload → sealPayloadIssues zod payload = []) →
      sealPayloadIssues zod draft.chain.current = [] ∧ sealChainIssues zod draft.chain = [] := by
    intro draft now drawnId previous hBuild hPrevious
    obtain ⟨hCurrent, -, hLink, -⟩ := buildSeal_ok hBuild
    refine ⟨hCurrent, sealChainIssues_eq_nil hCurrent ?_⟩
    intro payload hPayload
    exact hPrevious payload (hLink.symm.trans hPayload)
  have hBuilt : ∀ draft, Built zod s label draft →
      sealPayloadIssues zod draft.chain.current = [] ∧ sealChainIssues zod draft.chain = [] := by
    intro draft hMade
    cases hMade with
    | issued call credentialId chatId drawnId input hCall hEvent hDraft =>
      obtain ⟨-, -, rfl, -, hBuild⟩ := issueWithInput_draft hDraft
      apply hAccepts hBuild
      intro payload hPayload
      obtain ⟨e, hHead, rfl⟩ := Option.map_eq_some_iff.mp hPayload
      exact h.heads draft.key e hHead
    | refreshed call sealId drawnId hEvent hDraft =>
      obtain ⟨existing, hSeal, -, -, -, -, -, hBuild⟩ := refreshHead_ok hDraft
      apply hAccepts hBuild
      rintro payload ⟨⟩
      exact h.tracked sealId existing hSeal
  refine ⟨?_, ?_, ?_, ?_, signed_of_move h.signed hMove⟩
  · intro key e hGet
    rcases head_of_move h.signed hMove hGet with hOld | ⟨draft, hFlight, hChain, -⟩
    · exact h.heads key e hOld
    · rw [hChain]
      exact h.payloads draft hFlight
  · intro id e hGet
    rcases seal_of_move h.signed hMove hGet with ⟨hOld, -⟩ | ⟨draft, hFlight, hChain, -⟩
    · exact h.tracked id e hOld
    · rw [hChain]
      exact h.payloads draft hFlight
  · intro draft hFlight
    rcases inFlight_of_move hMove hFlight with hOld | hMade
    · exact h.payloads draft hOld
    · exact (hBuilt draft hMade).1
  · intro draft hFlight
    rcases inFlight_of_move hMove hFlight with hOld | hMade
    · exact h.drafts draft hOld
    · exact (hBuilt draft hMade).2

end

theorem accepted_run {zod : ZodEnv} {h : List SealOccurrence} {s : SealState}
    (hRun : (sealMachine zod).Runs h s) : Accepted zod s := by
  have hInit : Accepted zod (sealMachine zod).init := by
    refine ⟨?_, ?_, ?_, ?_, ?_⟩
    · intro key e hGet
      cases hGet
    · intro id e hGet
      cases hGet
    · rintro draft ⟨call, stage, hGet, -⟩
      cases hGet
    · rintro draft ⟨call, stage, hGet, -⟩
      cases hGet
    · intro call draft e hGet
      cases hGet
  refine hRun.state_invariant hInit ?_
  intro s label s' out hAccepted hStep
  exact hAccepted.step (sealStep_move hStep)

/-! ## Envelopes -/

/-- **Sealed envelopes.**  The schema refuses every envelope of a stamper, and every one the
manager publishes with a stamper as its signer, for its key id alone. -/
theorem envelopes_refused (zod : ZodEnv) (host : StamperHost) :
    (∀ (stamper : SealStamper) (payload : SealPayload) (envelope : SealEnvelope),
      sealPayloadIssues zod payload = [] → stamper.sign host payload = .ok envelope →
        sealEnvelopeIssues zod envelope = [keyIdIssue]) ∧
    ∀ (h : List SealOccurrence) (s : SealState), (sealMachine zod).Runs h s →
      AllMeet (SignedByStamper host) h →
        ∀ chatId envelope, SealObservation.publishing chatId envelope ∈ outputs h →
          sealEnvelopeIssues zod envelope = [keyIdIssue] := by
  constructor
  · intro stamper payload envelope hPayload hSign
    have hChain : sealChainIssues zod envelope.chain = [] := by
      rw [chain_of_sign hSign]
      exact sealChainIssues_eq_nil hPayload (fun _ hEq => nomatch hEq)
    rw [sealEnvelopeIssues, hChain, keyId_refused hSign]
    rfl
  · intro h s hRun hStamped chatId envelope hOut
    obtain ⟨o, ho, hMem⟩ := List.mem_flatMap.mp hOut
    obtain ⟨h₁, h₂, hSplit⟩ := List.append_of_mem ho
    obtain ⟨hBefore, s', hStep⟩ := hRun.of_append_cons hSplit
    obtain ⟨call, draft, signature, hCall, hEvent, rfl⟩ :=
      publishing_of_move (sealStep_move hStep) hMem
    obtain ⟨stamper, stamped, hSign, rfl⟩ := hStamped o ho call draft signature hCall hEvent
    have hChain : sealChainIssues zod draft.chain = [] :=
      (accepted_run hBefore).drafts draft ⟨call, _, hCall, rfl⟩
    rw [sealEnvelopeIssues]
    show (sealChainIssues zod draft.chain).map _ ++ resourceIdIssues _ _ stamped.keyId = _
    rw [hChain, keyId_refused hSign]
    rfl

def oneSignatureHost : StamperHost :=
  { markingHost with subtleSign := fun _ _ => .ok (List.replicate 64 1) }

/-- The keys after one has been made for an identity. -/
def sampleKeys : OperationalKeys :=
  (OperationalKeys.createOperationalKeyRecord ⟨.empty, .empty⟩ "identity_a" none
    (.ok ⟨List.replicate 32 7, [1], "00aa"⟩) "2026-01-01T00:00:00.000Z").1

def sampleStamper : SealStamper := .identity sampleKeys sampleKeys "identity_a"

/-- The first seal of the sample input, as the stamper signs it. -/
def sampleStamped : SealEnvelope :=
  stampedEnvelope firstDraft.chain.current (List.replicate 64 1) (bytesToHex (List.replicate 32 7))

theorem sampleStamper_sign :
    sampleStamper.sign oneSignatureHost firstDraft.chain.current = .ok sampleStamped := rfl

/-- The first seal is issued and signed. -/
def stampedSeal : List SealLabel :=
  [⟨0, .issue 1 sampleInput.credentialId sampleInput.chatId⟩,
    ⟨0, .inputResolved 1 (.ok sampleInput) firstDraft.chain.current.sealId⟩,
    ⟨1, .signed 1 (.ok ⟨sampleStamped.signature, sampleStamped.keyId⟩)⟩]

/-- The history of the first seal up to its publisher. -/
def stampedHistory : List SealOccurrence :=
  [⟨firstSealStates 0, ⟨0, .issue 1 sampleInput.credentialId sampleInput.chatId⟩, []⟩,
    ⟨firstSealStates 1,
      ⟨0, .inputResolved 1 (.ok sampleInput) firstDraft.chain.current.sealId⟩, []⟩,
    ⟨firstSealStates 2, ⟨1, .signed 1 (.ok ⟨sampleStamped.signature, sampleStamped.keyId⟩)⟩,
      [.publishing firstDraft.chatId
        (firstDraft.envelope ⟨sampleStamped.signature, sampleStamped.keyId⟩)]⟩]

theorem stampedSeal_exec (zod : ZodEnv) :
    (sealMachine zod).exec (sealMachine zod).init stampedSeal =
      some (stampedHistory, await (firstSealStates 2) 1 (.publishing firstDraft
        (firstDraft.envelope ⟨sampleStamped.signature, sampleStamped.keyId⟩))) := by
  refine exec_cons (show _ = some (firstSealStates 1, _) from rfl) ?_
  refine exec_cons (show _ = some (firstSealStates 2, _) from rfl) ?_
  exact exec_cons (show _ = some (_, _) from rfl) rfl

theorem stampedHistory_signed :
    AllMeet (SignedByStamper oneSignatureHost) stampedHistory := by
  intro o ho call draft signature hCall hEvent
  simp only [stampedHistory, List.mem_cons, List.not_mem_nil, or_false] at ho
  rcases ho with rfl | rfl | rfl
  · cases hEvent
  · cases hEvent
  · cases hEvent
    cases hCall
    exact ⟨sampleStamper, sampleStamped, sampleStamper_sign, rfl⟩

/-- The envelope of the sample is refused, and so is the one that is published of it. -/
theorem sample_envelopes_refused :
    sealEnvelopeIssues sampleZod sampleStamped = [keyIdIssue] ∧
      sealEnvelopeIssues sampleZod
        (firstDraft.envelope ⟨sampleStamped.signature, sampleStamped.keyId⟩) = [keyIdIssue] := by
  obtain ⟨hStamper, hManager⟩ := envelopes_refused sampleZod oneSignatureHost
  refine ⟨hStamper sampleStamper firstDraft.chain.current sampleStamped rfl sampleStamper_sign, ?_⟩
  refine hManager stampedHistory _ (runs_of_exec (stampedSeal_exec sampleZod))
    stampedHistory_signed firstDraft.chatId _ ?_
  simp [outputs, stampedHistory]

/-- A payload is accepted, and its envelope is not. -/
theorem stamped_envelope_invalid :
    ∃ zod host stamper payload envelope, sealPayloadIssues zod payload = [] ∧
      SealStamper.sign host stamper payload = .ok envelope ∧
        sealEnvelopeIssues zod envelope ≠ [] := by
  refine ⟨sampleZod, oneSignatureHost, sampleStamper, firstDraft.chain.current, sampleStamped, rfl,
    sampleStamper_sign, ?_⟩
  decide

end Keys
end Signet
