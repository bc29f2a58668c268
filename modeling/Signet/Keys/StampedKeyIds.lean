import Signet.Keys.GroupLookup
import Signet.Seals.Revocation

/-!
# The key id of a stamp

A stamper signs with the private key that an identity has when the signature is begun, and names
the public key that the identity has when the signature is there.  A rotation in between makes
these the keys of two pairs.

* `NamesItsSigner` — the key that an envelope names is the one that has signed it.
* `noneSigning` — a record is written while no stamper of its identity is between the two.
* `SignersCurrent` — what holds in runs whose records are.
* `stamped_by_named_key` — every envelope of such a run names its signer.
* `rotatedWhileSigning` — a rotation between the two lookups.
-/

namespace Signet
namespace Keys

open Kit Machine Schemas Seals
open Signet.Core

variable {host : VerifyingHost} {rotationIntervalSeconds : Int} {content : StampedContent}

/-! ## What is named and what has signed -/

def GeneratedIn (h : List (OperationalOccurrence host)) (pair : SigningPair host) : Prop :=
  ∃ o ∈ h, ∃ task now, o.label = .generated task (.ok pair) now

/-- The envelope names the public key of a pair whose private key has made its signature, so
that whoever verifies it with the key it names accepts it. -/
structure NamesItsSigner (h : List (OperationalOccurrence host)) (content : StampedContent)
    (envelope : Stamped) : Prop where
  signer : ∃ pair signature, GeneratedIn h pair ∧ envelope.keyId = bytesToHex pair.publicKey ∧
    host.subtleSign pair.privateKey content.canonical = .ok signature ∧
      envelope.signature = Base64.encode signature
  accepted : ∀ publicKey, envelope.keyId = bytesToHex publicKey →
    ∃ signature, envelope.signature = Base64.encode signature ∧
      host.subtleVerify publicKey content.canonical signature = true

def StampsNameSigners (h : List (OperationalOccurrence host)) : Prop :=
  ∀ stamp content envelope,
    OperationalReply.stamped stamp content (.ok envelope) ∈ outputs h →
      NamesItsSigner h content envelope

/-- A record is written for an identity whose key no stamper is signing with. -/
def noneSigning (s : OperationalState) (event : OperationalEvent host) : Bool :=
  match recordOf s event with
  | none => true
  | some (identityId, _, _, _) =>
    s.stamps.entries.all fun stamp =>
      stamp.2.identityId ≠ identityId || stamp.2.signer?.isNone

theorem noneSigning_iff {s : OperationalState} {event : OperationalEvent host}
    {identityId : String} {groupId : Option String} {pair : SigningPair host} {now : String}
    (h : recordOf s event = some (identityId, groupId, pair, now)) :
    noneSigning s event = true ↔
      ∀ stamp call, s.stamps.get stamp = some call → call.identityId = identityId →
        call.signer? = none := by
  unfold noneSigning
  rw [h]
  simp only [List.all_eq_true, Prod.forall, Bool.or_eq_true, decide_eq_true_eq,
    ← AssocMap.get_eq_some_iff, ne_eq, ← imp_iff_not_or, Option.isNone_iff_eq_none]

theorem GeneratedIn.mono {h : List (OperationalOccurrence host)} {pair : SigningPair host}
    (hPair : GeneratedIn h pair) (o : OperationalOccurrence host) :
    GeneratedIn (h ++ [o]) pair := by
  obtain ⟨o', ho', hLabel⟩ := hPair
  exact ⟨o', List.mem_append_left _ ho', hLabel⟩

theorem NamesItsSigner.mono {h : List (OperationalOccurrence host)} {envelope : Stamped}
    (hNames : NamesItsSigner h content envelope) (o : OperationalOccurrence host) :
    NamesItsSigner (h ++ [o]) content envelope where
  signer := by
    obtain ⟨pair, signature, hPair, hRest⟩ := hNames.signer
    exact ⟨pair, signature, hPair.mono o, hRest⟩
  accepted := hNames.accepted

/-! ## What a step does to the stampers -/

/-- What a step does to the calls of the stampers, and what it returns of them. -/
inductive StampMove (host : VerifyingHost) (s s' : OperationalState)
    (out : List OperationalReply) : Prop
  | kept (hStamps : s'.stamps = s.stamps)
      (hOut : ∀ stamp content result, OperationalReply.stamped stamp content result ∉ out)
  | begun (stamp : Nat) (identityId : String) (content : StampedContent)
      (hKeys : s'.keys = s.keys)
      (hStamps : s'.stamps = s.stamps.set stamp (beginStamp s identityId content))
      (hOut : out = [])
  | answered (stamp : Nat) (call : StampCall) (signer : OperationalKeyEntry)
      (hCall : s.stamps.get stamp = some call) (hStage : call.stage = .signing signer)
      (hKeys : s'.keys = s.keys)
      (hStamps : s'.stamps = s.stamps.set stamp (answerStamp host call signer)) (hOut : out = [])
  | ended (stamp : Nat) (call : StampCall) (result : Except SignetError Stamped)
      (hCall : s.stamps.get stamp = some call) (hResult : endStamp s call = some result)
      (hKeys : s'.keys = s.keys) (hStamps : s'.stamps = s.stamps.delete stamp)
      (hOut : out = [.stamped stamp call.content result])

theorem stampMove_of_step {s s' : OperationalState} {event : OperationalEvent host}
    {out : List OperationalReply}
    (h : operationalStep host rotationIntervalSeconds s event = some (s', out)) :
    StampMove host s s' out := by
  have hKept : ∀ {t : OperationalState} {task : Nat} {position : Option Nat}
      {result : Except SignetError OperationalKey}, t.endTask task position result = (s', out) →
        t.stamps = s.stamps → StampMove host s s' out := by
    intro t task position result hEnd hStamps
    cases position with
    | none =>
      cases hEnd
      exact .kept hStamps (by simp)
    | some position =>
      cases hEnd
      exact .kept hStamps (by simp)
  cases event with
  | generated task result now =>
    simp only [operationalStep] at h
    split at h
    · exact hKept (Option.some.inj h) rfl
    · cases h
  | gate task result =>
    simp only [operationalStep] at h
    split at h
    · cases h
      exact .kept rfl (by simp)
    · exact hKept (Option.some.inj h) rfl
    · cases h
  | sign stamp identityId content =>
    simp only [operationalStep] at h
    split at h
    · cases h
    · cases h
      exact .begun stamp identityId content rfl rfl rfl
  | signature stamp =>
    simp only [operationalStep] at h
    split at h
    · cases h
    · next call hCall =>
      split at h
      · next signer hStage =>
        cases h
        exact .answered stamp call signer hCall hStage rfl rfl rfl
      · cases h
  | resume stamp =>
    simp only [operationalStep] at h
    split at h
    · cases h
    · next call hCall =>
      split at h
      · cases h
      · next result hResult =>
        cases h
        exact .ended stamp call result hCall hResult rfl rfl rfl
  | createOperationalKey | rotateOperationalKey | startAutoRotation | stopAutoRotation | tick
    | next =>
      simp only [operationalStep] at h
      repeat' split at h
      all_goals first
        | contradiction
        | obtain ⟨rfl, rfl⟩ := Prod.ext_iff.mp (Option.some.inj h)
          exact .kept (by simp) (by simp)

/-! ## The invariant -/

/-- The keys have been generated, and a stamper between its two lookups signs with the key that
its identity has. -/
structure SignersCurrent (h : List (OperationalOccurrence host)) (s : OperationalState) :
    Prop where
  generated : ∀ identityId entry, s.keys.opKeys.get identityId = some entry →
    ∃ pair, GeneratedIn h pair ∧ entry.key.publicKey = bytesToHex pair.publicKey ∧
      entry.privateKey = pair.privateKey
  current : ∀ stamp call signer, s.stamps.get stamp = some call → call.signer? = some signer →
    s.keys.opKeys.get call.identityId = some signer
  signed : ∀ stamp call signer signature, s.stamps.get stamp = some call →
    call.stage = .signed signer signature →
      host.subtleSign signer.privateKey call.content.canonical = .ok signature

theorem signEd25519_eq_ok_iff {host : StamperHost} {privateKey data signature : Bytes} :
    signEd25519 host privateKey data = .ok signature ↔
      host.subtleSign privateKey data = .ok signature := by
  unfold signEd25519
  cases host.subtleSign privateKey data <;> simp

theorem signer_beginStamp {s : OperationalState} {identityId : String}
    {signer : OperationalKeyEntry} (h : (beginStamp s identityId content).signer? = some signer) :
    (beginStamp s identityId content).identityId = identityId ∧
      s.keys.opKeys.get identityId = some signer ∧
        (beginStamp s identityId content).stage = .signing signer := by
  unfold beginStamp at h ⊢
  split at h
  · cases h
  · next entry hEntry =>
    cases h
    exact ⟨rfl, hEntry, rfl⟩

/-- A signature is that of the private key, and leaves the rest of the call as it is. -/
theorem answerStamp_cases (host : VerifyingHost) (call : StampCall)
    (signer : OperationalKeyEntry) :
    (answerStamp host call signer).signer? = none ∨
      ∃ signature, host.subtleSign signer.privateKey call.content.canonical = .ok signature ∧
        answerStamp host call signer = { call with stage := .signed signer signature } := by
  unfold answerStamp
  cases hSign : signEd25519 host.toStamperHost signer.privateKey call.content.canonical with
  | error error => exact Or.inl rfl
  | ok signature => exact Or.inr ⟨signature, signEd25519_eq_ok_iff.mp hSign, rfl⟩

section

variable {h : List (OperationalOccurrence host)} {s s' : OperationalState}
  {event : OperationalEvent host} {out : List OperationalReply}

theorem SignersCurrent.generated_step (hInv : SignersCurrent h s)
    (hStep : operationalStep host rotationIntervalSeconds s event = some (s', out)) :
    ∀ identityId entry, s'.keys.opKeys.get identityId = some entry →
      ∃ pair, GeneratedIn (h ++ [⟨s, event, out⟩]) pair ∧
        entry.key.publicKey = bytesToHex pair.publicKey ∧ entry.privateKey = pair.privateKey := by
  intro identityId entry hEntry
  have hOld : s.keys.opKeys.get identityId = some entry →
      ∃ pair, GeneratedIn (h ++ [⟨s, event, out⟩]) pair ∧
        entry.key.publicKey = bytesToHex pair.publicKey ∧
          entry.privateKey = pair.privateKey := by
    intro hBefore
    obtain ⟨pair, hPair, hKeys⟩ := hInv.generated identityId entry hBefore
    exact ⟨pair, hPair.mono _, hKeys⟩
  rcases keys_of_step hStep with ⟨-, hKeys⟩ | ⟨recorded, groupId, pair, now, hRecord, hKeys⟩
  · rw [hKeys] at hEntry
    exact hOld hEntry
  · rw [hKeys] at hEntry
    rcases AssocMap.get_set_cases hEntry with ⟨-, rfl⟩ | ⟨-, hBefore⟩
    · refine ⟨pair, ⟨_, List.mem_append_right _ (List.mem_singleton_self _), ?_⟩, rfl, rfl⟩
      exact generated_of_recordOf hRecord
    · exact hOld hBefore

section

variable (hInv : SignersCurrent h s) (hNone : noneSigning s event = true)
  (hStep : operationalStep host rotationIntervalSeconds s event = some (s', out))

include hInv hNone hStep

theorem SignersCurrent.get_step {stamp : Nat} {call : StampCall} {signer : OperationalKeyEntry}
    (hCall : s.stamps.get stamp = some call) (hSigner : call.signer? = some signer) :
    s'.keys.opKeys.get call.identityId = some signer := by
  have hBefore := hInv.current stamp call signer hCall hSigner
  rcases keys_of_step hStep with ⟨-, hKeys⟩ | ⟨recorded, groupId, pair, now, hRecord, hKeys⟩
  · rw [hKeys]
    exact hBefore
  · have hOther : call.identityId ≠ recorded := by
      intro hSame
      rw [(noneSigning_iff hRecord).mp hNone stamp call hCall hSame] at hSigner
      cases hSigner
    rw [hKeys]
    exact (AssocMap.get_set_of_ne _ _ hOther).trans hBefore

theorem SignersCurrent.step : SignersCurrent (h ++ [⟨s, event, out⟩]) s' := by
  refine ⟨hInv.generated_step hStep, ?_, ?_⟩
  · intro stamp call signer hCall hSigner
    cases stampMove_of_step hStep with
    | kept hStamps hOut =>
      rw [hStamps] at hCall
      exact hInv.get_step hNone hStep hCall hSigner
    | begun begun identityId content hKeys hStamps hOut =>
      rw [hStamps] at hCall
      rcases AssocMap.get_set_cases hCall with ⟨-, rfl⟩ | ⟨-, hOld⟩
      · obtain ⟨hIdentity, hEntry, -⟩ := signer_beginStamp hSigner
        rw [hKeys, hIdentity]
        exact hEntry
      · exact hInv.get_step hNone hStep hOld hSigner
    | answered answered signing signer' hSigning hStage hKeys hStamps hOut =>
      rw [hStamps] at hCall
      rcases AssocMap.get_set_cases hCall with ⟨-, rfl⟩ | ⟨-, hOld⟩
      · rcases answerStamp_cases host signing signer' with hNo | ⟨signature, -, hAnswer⟩
        · rw [hNo] at hSigner
          cases hSigner
        · rw [hAnswer] at hSigner ⊢
          cases hSigner
          rw [hKeys]
          refine hInv.current answered signing signer hSigning ?_
          unfold StampCall.signer?
          rw [hStage]
      · exact hInv.get_step hNone hStep hOld hSigner
    | ended ended ending result hEnding hResult hKeys hStamps hOut =>
      rw [hStamps] at hCall
      exact hInv.get_step hNone hStep (AssocMap.of_get_delete hCall).2 hSigner
  · intro stamp call signer signature hCall hStage
    cases stampMove_of_step hStep with
    | kept hStamps hOut =>
      rw [hStamps] at hCall
      exact hInv.signed stamp call signer signature hCall hStage
    | begun begun identityId content hKeys hStamps hOut =>
      rw [hStamps] at hCall
      rcases AssocMap.get_set_cases hCall with ⟨-, rfl⟩ | ⟨-, hOld⟩
      · -- what has just begun has no signature yet
        unfold beginStamp at hStage
        split at hStage <;> cases hStage
      · exact hInv.signed stamp call signer signature hOld hStage
    | answered answered signing signer' hSigning hSigner hKeys hStamps hOut =>
      rw [hStamps] at hCall
      rcases AssocMap.get_set_cases hCall with ⟨-, rfl⟩ | ⟨-, hOld⟩
      · rcases answerStamp_cases host signing signer' with hNo | ⟨made, hMade, hAnswer⟩
        · unfold StampCall.signer? at hNo
          rw [hStage] at hNo
          cases hNo
        · rw [hAnswer] at hStage ⊢
          cases hStage
          exact hMade
      · exact hInv.signed stamp call signer signature hOld hStage
    | ended ended ending result hEnding hResult hKeys hStamps hOut =>
      rw [hStamps] at hCall
      exact hInv.signed stamp call signer signature (AssocMap.of_get_delete hCall).2 hStage

end

theorem SignersCurrent.names (hInv : SignersCurrent h s) {stamp : Nat} {call : StampCall}
    {envelope : Stamped} (hCall : s.stamps.get stamp = some call)
    (hEnd : endStamp s call = some (.ok envelope)) : NamesItsSigner h call.content envelope := by
  unfold endStamp at hEnd
  split at hEnd
  · cases hEnd
  · cases hEnd
  · next signer signature hStage =>
    have hSigner : call.signer? = some signer := by
      unfold StampCall.signer?
      rw [hStage]
    have hCurrent := hInv.current stamp call signer hCall hSigner
    have hSigned := hInv.signed stamp call signer signature hCall hStage
    obtain ⟨pair, hPair, hPublic, hPrivate⟩ := hInv.generated call.identityId signer hCurrent
    unfold OperationalKeys.getOperationalKey at hEnd
    rw [hCurrent] at hEnd
    have hEnvelope : call.content.envelope signature signer.key.publicKey = envelope := by
      simpa using hEnd
    have hKeyId : envelope.keyId = bytesToHex pair.publicKey := by
      rw [← hPublic, ← hEnvelope]
      cases call.content <;> rfl
    have hSignature : envelope.signature = Base64.encode signature := by
      rw [← hEnvelope]
      cases call.content <;> rfl
    rw [hPrivate] at hSigned
    refine ⟨⟨pair, signature, hPair, hKeyId, hSigned, hSignature⟩, ?_⟩
    intro publicKey hNamed
    rw [hKeyId] at hNamed
    rw [← bytesToHex_injective hNamed]
    exact ⟨signature, hSignature, pair.verifies _ _ hSigned⟩

end

/-! ## Runs -/

/-- The invariant and the envelopes of a run whose records are written while no stamper of their
identity is signing. -/
theorem signersCurrent_run {h : List (OperationalOccurrence host)} {s : OperationalState}
    (hRun : (operationalMachine host rotationIntervalSeconds).Runs h s)
    (hMeet : AllMeet (fun s event => noneSigning s event = true) h) :
    SignersCurrent h s ∧ StampsNameSigners h := by
  apply hRun.invariant ?_ ?_ hMeet
  · refine ⟨⟨?_, ?_, ?_⟩, ?_⟩
    · intro identityId entry hEntry
      cases hEntry
    · intro stamp call signer hCall
      cases hCall
    · intro stamp call signer signature hCall
      cases hCall
    · intro stamp content envelope hOut
      cases hOut
  · intro h s event s' out _ _ hBefore hNone hStep
    refine ⟨hBefore.1.step hNone hStep, ?_⟩
    intro stamp content envelope hOut
    rw [outputs_append, outputs_singleton, List.mem_append] at hOut
    rcases hOut with hEarlier | hNow
    · exact (hBefore.2 stamp content envelope hEarlier).mono _
    · cases stampMove_of_step hStep with
      | kept hStamps hNot => exact absurd hNow (hNot stamp content (.ok envelope))
      | begun begun identityId content hKeys hStamps hEmpty =>
        rw [hEmpty] at hNow
        cases hNow
      | answered answered signing signer hSigning hStage hKeys hStamps hEmpty =>
        rw [hEmpty] at hNow
        cases hNow
      | ended ended call result hCall hResult hKeys hStamps hReply =>
        rw [hReply, List.mem_singleton] at hNow
        cases hNow
        exact (hBefore.1.names hCall hResult).mono _

/-- **Signature and key id.**  In every run of the manager, its automatic rotation and its
stampers in which a record is written only while no stamper of its identity is between its two
lookups, every envelope names the key that has signed it. -/
theorem stamped_by_named_key {h : List (OperationalOccurrence host)} {s : OperationalState}
    (hRun : (operationalMachine host rotationIntervalSeconds).Runs h s)
    (hMeet : AllMeet (fun s event => noneSigning s event = true) h) :
    StampsNameSigners h :=
  (signersCurrent_run hRun hMeet).2

/-! ## Runs on fixed inputs -/

def OperationalReply.bears (signature keyId : String) : OperationalReply → Bool
  | .stamped _ _ (.ok envelope) => envelope.signature == signature && envelope.keyId == keyId
  | _ => false

def stampedRevocation : RevocationSeal := firstRevocation "seal_00000000000000cc"

/-- A revocation and a seal are signed, and the key is rotated before and after each. -/
def rotatedBetweenStamps : List (OperationalEvent plainSigner) :=
  [.createOperationalKey 0 "agent" none, .gate 0 (.ok ()), .generated 0 (.ok (plainPair 1)) "",
    .sign 0 "agent" (.revocation stampedRevocation), .signature 0, .resume 0,
    .rotateOperationalKey 0 "agent", .gate 0 (.ok ()), .generated 0 (.ok (plainPair 2)) "",
    .sign 0 "agent" (.sealPayload firstDraft.chain.current), .signature 0, .resume 0]

theorem rotatedBetweenStamps_named :
    ∃ h s, h.map Occurrence.label = rotatedBetweenStamps ∧
      (operationalMachine plainSigner 0).Runs h s ∧ StampsNameSigners h := by
  have hExecutes : (operationalMachine plainSigner 0).Executes rotatedBetweenStamps fun h _ =>
      AllMeet (fun s event => noneSigning s event = true) h := by
    decide
  obtain ⟨h, s, hLabels, hRun, hMeet⟩ := hExecutes.exists_run
  exact ⟨h, s, hLabels, hRun, stamped_by_named_key hRun hMeet⟩

/-- The timer has the key rotated while the signature of a revocation is awaited. -/
def rotatedWhileSigning : List (OperationalEvent plainSigner) :=
  [.createOperationalKey 0 "agent" none, .gate 0 (.ok ()), .generated 0 (.ok (plainPair 1)) "",
    .startAutoRotation, .sign 0 "agent" (.revocation stampedRevocation), .tick 0,
    .gate 0 (.ok ()), .generated 0 (.ok (plainPair 2)) "", .signature 0, .resume 0]

/-- The first key has signed, and the second is named. -/
theorem rotatedWhileSigning_misnamed :
    ∃ h s, h.map Occurrence.label = rotatedWhileSigning ∧
      (operationalMachine plainSigner 60).Runs h s ∧ ¬StampsNameSigners h := by
  have hExecutes : (operationalMachine plainSigner 60).Executes rotatedWhileSigning fun h _ =>
      (outputs h).any (OperationalReply.bears "AQ==" "02") = true := by
    decide
  obtain ⟨h, s, hLabels, hRun, hBears⟩ := hExecutes.exists_run
  refine ⟨h, s, hLabels, hRun, ?_⟩
  intro hNames
  obtain ⟨reply, hReply, hBears⟩ := List.any_eq_true.mp hBears
  cases reply with
  | key task result => cases hBears
  | stamped stamp content result =>
    cases result with
    | error error => cases hBears
    | ok envelope =>
      simp only [OperationalReply.bears, Bool.and_eq_true, beq_iff_eq] at hBears
      obtain ⟨hSignature, hKeyId⟩ := hBears
      -- with the key that is named, only its own signature is accepted
      obtain ⟨signature, hEncoded, hVerified⟩ :=
        (hNames stamp content envelope hReply).accepted [2] (hKeyId.trans (by decide))
      have hOwn : [2] = signature := beq_iff_eq.mp hVerified
      rw [hSignature, ← hOwn] at hEncoded
      exact absurd hEncoded (by decide)

end Keys
end Signet
