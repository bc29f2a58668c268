import Signet.Kit.Base64
import Signet.Seals.ManagerSpec
import Signet.Verifier.Payload

/-!
# The seal stamper

The stamper canonicalizes a payload, signs the bytes and wraps the result in an
envelope.  The manager puts the full chain in place of the stamper's own.

* `signBytes`, `sign` — the stamper.
* `Stamped` — the signer of the manager is a stamper.
* `publishing_of_run` — what an envelope of a run is made of.
-/

namespace Signet
namespace Seals

open Kit Machine Schemas Verifier

inductive Thrown where
  | signet (error : SignetError)
  /-- Anything else, as text. -/
  | other (text : String)

structure SigningKeyHandle where
  /-- Sign the bytes of a text and return the raw signature. -/
  sign : String → Except Thrown (List UInt8)
  fingerprint : String

/-- `signBytes` -/
def signBytes (signingKey : SigningKeyHandle) (payload : Json) : Except SignetError String :=
  match signingKey.sign (canonicalize payload) with
  | .ok signature => .ok (Base64.encode signature)
  | .error (.signet error) => .error error
  | .error (.other cause) =>
    .error (InternalError.create "Seal signing failed" (some [("cause", .text cause)]))

/-- `createSealStamper.sign` -/
def sign (signingKey : SigningKeyHandle) (payload : SealPayload) :
    Except SignetError SealEnvelope :=
  (signBytes signingKey (payloadJson (wirePayload payload))).map fun signature =>
    { chain := { current := payload, previous := none, delta := .empty }
      signature := signature
      keyId := signingKey.fingerprint }

/-- An answer of the signer comes from the stamper with this key. -/
def Stamped (signingKey : SigningKeyHandle) (s : SealState) (label : SealLabel) : Prop :=
  ∀ call draft signature, s.calls.get call = some (.signing draft) →
    label.event = .signed call (.ok signature) →
    ∃ envelope, sign signingKey draft.chain.current = .ok envelope ∧
      signature = ⟨envelope.signature, envelope.keyId⟩

variable {envelope : SealEnvelope} {s : SealState} {zod : ZodEnv} {signingKey : SigningKeyHandle}
  {h : List SealOccurrence} {out : List SealObservation} {payload : SealPayload} {chatId : String}

/-- A stamped payload has a signature of its canonical text. -/
theorem sign_ok (h : sign signingKey payload = .ok envelope) :
    ∃ bytes, signingKey.sign (canonicalize (payloadJson (wirePayload payload))) = .ok bytes ∧
      envelope.signature = Base64.encode bytes := by
  unfold sign signBytes at h
  split at h
  · next bytes hBytes =>
    cases h
    exact ⟨bytes, hBytes, rfl⟩
  · cases h
  · cases h

/-! ## Drafts of a run -/

/-- No id of the payload is empty. -/
structure Named (payload : SealPayload) : Prop where
  sealId : payload.sealId ≠ ""
  credentialId : payload.credentialId ≠ ""
  operatorId : payload.operatorId ≠ ""
  chatId : payload.chatId ≠ ""

/-- A payload that its schema accepts has its ids. -/
theorem named_of_issues (h : sealPayloadIssues zod payload = []) : Named payload := by
  have hEmpty : ∀ type id, isResourceId type id = true → id ≠ "" := by
    intro type id hId hEq
    rw [hEq] at hId
    revert hId
    cases type <;> decide
  obtain ⟨hSeal, hCredential, hOperator, hChat⟩ := ids_of_sealPayloadIssues_eq_nil h
  exact ⟨hEmpty _ _ hSeal, hEmpty _ _ hCredential, hEmpty _ _ hOperator, hEmpty _ _ hChat⟩

/-- Every draft on its way has its ids. -/
def DraftsNamed (s : SealState) : Prop := ∀ draft, InFlight s draft → Named draft.chain.current

theorem draftsNamed_step {s' : SealState} {label : SealLabel} (h : DraftsNamed s)
    (hMove : SealMove zod s label s' out) :
    DraftsNamed s' := by
  intro draft hFlight
  rcases inFlight_of_move hMove hFlight with hOld | hBuilt
  · exact h draft hOld
  · obtain ⟨drawnId, -, hBuild⟩ := hBuilt.chain
    exact named_of_issues (buildSeal_ok hBuild).1

theorem draftsNamed_run (hRun : (sealMachine zod).Runs h s) : DraftsNamed s := by
  have hInit : DraftsNamed (sealMachine zod).init := by
    rintro draft ⟨call, stage, hGet, -⟩
    cases hGet
  refine hRun.state_invariant hInit ?_
  intro s label s' out hNamed hStep
  exact draftsNamed_step hNamed (sealStep_move hStep)

theorem publishing_of_move {s' : SealState} {label : SealLabel}
    (hMove : SealMove zod s label s' out) (hOut : .publishing chatId envelope ∈ out) :
    ∃ call draft signature, s.calls.get call = some (.signing draft) ∧
      label.event = .signed call (.ok signature) ∧ envelope = draft.envelope signature := by
  cases hMove with
  | publishing call draft signature hCall hEvent =>
    rw [List.mem_singleton] at hOut
    cases hOut
    exact ⟨call, draft, signature, hCall, hEvent, rfl⟩
  | _ => simp at hOut

/-- An envelope that a run hands to the publisher, with a stamper as its signer,
carries a signature of the canonical text of its current payload. -/
theorem publishing_of_run (hRun : (sealMachine zod).Runs h s)
    (hStamped : AllMeet (Stamped signingKey) h) (hOut : .publishing chatId envelope ∈ outputs h) :
    Named envelope.chain.current ∧
      ∃ bytes, signingKey.sign (canonicalize (payloadJson
          (wirePayload envelope.chain.current))) = .ok bytes ∧
        envelope.signature = Base64.encode bytes := by
  obtain ⟨o, ho, hMem⟩ := List.mem_flatMap.mp hOut
  obtain ⟨h₁, h₂, hSplit⟩ := List.append_of_mem ho
  obtain ⟨hBefore, s', hStep⟩ := hRun.of_append_cons hSplit
  obtain ⟨call, draft, signature, hCall, hEvent, rfl⟩ :=
    publishing_of_move (sealStep_move hStep) hMem
  obtain ⟨stamped, hSign, rfl⟩ := hStamped o ho call draft signature hCall hEvent
  obtain ⟨bytes, hBytes, hText⟩ := sign_ok hSign
  exact ⟨draftsNamed_run hBefore draft ⟨call, _, hCall, rfl⟩, bytes, hBytes, hText⟩

end Seals
end Signet
