import Signet.Keys.SealStampers

/-!
# Operational keys while calls await

The key manager makes the operational key of an identity, and rotates it, behind a gate and a
generation that are awaited; only then it puts the new key in the place of the old one.  The
automatic rotation goes through the identities in the same way, one after the other, and a
stamper signs with a key and, after the signature, looks up what key that was.

* `KeyTask`, `StampCall` — what a call awaits, with what it has read before.
* `OperationalState`, `operationalStep` — the manager with its calls.
* `keys_of_step` — a step changes no key, or it writes the record of one identity.
-/

namespace Signet
namespace Keys

open Kit Schemas Seals Verifier
open Signet.Core

/-! ## What is signed -/

/-- The wire form of a reason. -/
def agentRevocationReasonValue : AgentRevocationReason → String
  | .ownerInitiated => "owner-initiated"
  | .credentialExpired => "credential-expired"
  | .adminRemoved => "admin-removed"
  | .heartbeatTimeout => "heartbeat-timeout"
  | .policyViolation => "policy-violation"

def revocationJson (payload : RevocationSeal) : Json :=
  .object [("sealId", .string payload.sealId),
    ("previousSealId", .string payload.previousSealId),
    ("operatorId", .string payload.operatorId),
    ("credentialId", .string payload.credentialId),
    ("chatId", .string payload.chatId),
    ("reason", .string (agentRevocationReasonValue payload.reason)),
    ("revokedAt", .string (toISOString payload.revokedAt)),
    ("issuer", .string payload.issuer)]

/-- What a stamper is asked to sign: `sign` takes a seal, `signRevocation` a revocation. -/
inductive StampedContent where
  | sealPayload (payload : SealPayload)
  | revocation (payload : RevocationSeal)

/-- `canonical` -/
def StampedContent.canonical : StampedContent → Bytes
  | .sealPayload payload => canonicalBytes payload
  | .revocation payload => textEncode (canonicalize (revocationJson payload))

inductive Stamped where
  | sealEnvelope (envelope : SealEnvelope)
  | revocationEnvelope (envelope : SignedRevocationEnvelope)

def StampedContent.envelope (content : StampedContent) (signature : Bytes) (keyId : String) :
    Stamped :=
  match content with
  | .sealPayload payload => .sealEnvelope (stampedEnvelope payload signature keyId)
  | .revocation payload => .revocationEnvelope
      { revocation := payload
        signature := Base64.encode signature
        signerKeyRef := keyId }

def Stamped.signature : Stamped → String
  | .sealEnvelope envelope => envelope.signature
  | .revocationEnvelope envelope => envelope.signature

/-- `keyId` of a seal, `signerKeyRef` of a revocation. -/
def Stamped.keyId : Stamped → String
  | .sealEnvelope envelope => envelope.keyId
  | .revocationEnvelope envelope => envelope.signerKeyRef

/-! ## Calls -/

structure VerifyingHost extends StamperHost where
  /-- `crypto.subtle.verify({ name: "Ed25519" }, publicKey, signature, data)` -/
  subtleVerify (publicKey data signature : Bytes) : Bool

structure SigningPair (host : VerifyingHost) extends KeyPair where
  verifies : ∀ data signature, host.subtleSign privateKey data = .ok signature →
    host.subtleVerify publicKey data signature = true

/-- A call that makes a key; one of the automatic rotation has a position in its loop. -/
inductive KeyTask where
  /-- `gate` -/
  | gating (identityId : String) (groupId : Option String) (position : Option Nat)
  /-- `generateEd25519KeyPair`, `exportPublicKey`, `fingerprint` -/
  | generating (identityId : String) (groupId : Option String) (position : Option Nat)
  /-- The rotation that the loop awaits has returned. -/
  | rotated (position : Nat)

/-- What a call of a stamper awaits. -/
inductive StampStage where
  /-- `signEd25519` with the private key of an entry. -/
  | signing (signer : OperationalKeyEntry)
  /-- `signWithOperationalKey` has returned a signature. -/
  | signed (signer : OperationalKeyEntry) (signature : Bytes)
  | failed (error : SignetError)

/-- A call of `sign` or `signRevocation`. -/
structure StampCall where
  identityId : String
  content : StampedContent
  stage : StampStage

/-- The key whose signature a call awaits or holds. -/
def StampCall.signer? (call : StampCall) : Option OperationalKeyEntry :=
  match call.stage with
  | .signing signer => some signer
  | .signed signer _ => some signer
  | .failed _ => none

/-- The manager with its calls. -/
structure OperationalState where
  keys : OperationalKeys
  tasks : AssocMap Nat KeyTask
  stamps : AssocMap Nat StampCall
  /-- `rotationTimer !== null` -/
  rotationTimer : Bool

/-- What happens, with what the environment answers. -/
inductive OperationalEvent (host : VerifyingHost) where
  | createOperationalKey (task : Nat) (identityId : String) (groupId : Option String)
  | rotateOperationalKey (task : Nat) (identityId : String)
  | gate (task : Nat) (result : Except SignetError Unit)
  | generated (task : Nat) (result : Except SignetError (SigningPair host)) (now : String)
  | startAutoRotation
  | stopAutoRotation
  /-- The interval is over. -/
  | tick (task : Nat)
  /-- The loop of the automatic rotation goes on. -/
  | next (task : Nat)
  | sign (stamp : Nat) (identityId : String) (content : StampedContent)
  | signature (stamp : Nat)
  /-- A stamper goes on after `signWithOperationalKey`. -/
  | resume (stamp : Nat)

/-- What a call returns. -/
inductive OperationalReply where
  | key (task : Nat) (result : Except SignetError OperationalKey)
  | stamped (stamp : Nat) (content : StampedContent) (result : Except SignetError Stamped)

namespace OperationalState

variable (s : OperationalState)

/-- A call of the manager goes on to a stage. -/
def setTask (task : Nat) (stage : KeyTask) : OperationalState :=
  { s with tasks := s.tasks.set task stage }

/-- A call of a stamper goes on to a stage. -/
def setStamp (stamp : Nat) (call : StampCall) : OperationalState :=
  { s with stamps := s.stamps.set stamp call }

/-- A call that makes a key ends; the loop of the automatic rotation ignores the result. -/
def endTask (task : Nat) (position : Option Nat) (result : Except SignetError OperationalKey) :
    OperationalState × List OperationalReply :=
  match position with
  | none => ({ s with tasks := s.tasks.delete task }, [.key task result])
  | some position => (s.setTask task (.rotated position), [])

/-- The loop of the automatic rotation at a position of `opKeys.keys()`. -/
def rotateAt (task position : Nat) : OperationalState :=
  match s.keys.opKeys.keys[position]? with
  | none => { s with tasks := s.tasks.delete task }
  | some identityId =>
    match s.keys.opKeys.get identityId with
    | none => s.setTask task (.rotated position)
    | some existing =>
      s.setTask task (.gating identityId existing.key.groupId (some position))

@[simp]
theorem setTask_keys (task : Nat) (stage : KeyTask) : (s.setTask task stage).keys = s.keys := rfl

@[simp]
theorem setTask_stamps (task : Nat) (stage : KeyTask) :
    (s.setTask task stage).stamps = s.stamps := rfl

@[simp]
theorem setStamp_keys (stamp : Nat) (call : StampCall) :
    (s.setStamp stamp call).keys = s.keys := rfl

@[simp]
theorem setStamp_stamps (stamp : Nat) (call : StampCall) :
    (s.setStamp stamp call).stamps = s.stamps.set stamp call := rfl

section

variable (task : Nat) (position : Option Nat) (result : Except SignetError OperationalKey)

@[simp]
theorem endTask_keys : (s.endTask task position result).1.keys = s.keys := by
  cases position <;> rfl

@[simp]
theorem endTask_stamps : (s.endTask task position result).1.stamps = s.stamps := by
  cases position <;> rfl

end

@[simp]
theorem rotateAt_keys (task position : Nat) : (s.rotateAt task position).keys = s.keys := by
  unfold rotateAt
  split
  · rfl
  · split <;> rfl

@[simp]
theorem rotateAt_stamps (task position : Nat) : (s.rotateAt task position).stamps = s.stamps := by
  unfold rotateAt
  split
  · rfl
  · split <;> rfl

end OperationalState

section

variable (host : VerifyingHost) (rotationIntervalSeconds : Int)

/-- A call of a stamper begins: `signWithOperationalKey` looks up the key at once. -/
def beginStamp (s : OperationalState) (identityId : String) (content : StampedContent) :
    StampCall :=
  match s.keys.opKeys.get identityId with
  | none => ⟨identityId, content, .failed (NotFoundError.create "operational-key" identityId)⟩
  | some entry => ⟨identityId, content, .signing entry⟩

def answerStamp (call : StampCall) (signer : OperationalKeyEntry) : StampCall :=
  match signEd25519 host.toStamperHost signer.privateKey call.content.canonical with
  | .ok signature => { call with stage := .signed signer signature }
  | .error error => { call with stage := .failed error }

/-- A call of a stamper goes on after the signature: it looks up the key once more. -/
def endStamp (s : OperationalState) (call : StampCall) : Option (Except SignetError Stamped) :=
  match call.stage with
  | .signing _ => none
  | .failed error => some (.error error)
  | .signed _ signature =>
    match s.keys.getOperationalKey call.identityId with
    | .error error => some (.error error)
    | .ok key => some (.ok (call.content.envelope signature key.publicKey))

/-- One step. -/
def operationalStep (s : OperationalState) :
    OperationalEvent host → Option (OperationalState × List OperationalReply)
  | .createOperationalKey task identityId groupId =>
    match s.tasks.get task with
    | some _ => none
    | none => some (s.setTask task (.gating identityId groupId none), [])
  | .rotateOperationalKey task identityId =>
    match s.tasks.get task, s.keys.opKeys.get identityId with
    | some _, _ => none
    | none, none =>
      some (s, [.key task (.error (NotFoundError.create "operational-key" identityId))])
    | none, some existing =>
      some (s.setTask task (.gating identityId existing.key.groupId none), [])
  | .gate task result =>
    match s.tasks.get task, result with
    | some (.gating identityId groupId position), .ok () =>
      some (s.setTask task (.generating identityId groupId position), [])
    | some (.gating _ _ position), .error error =>
      some (s.endTask task position (.error error))
    | _, _ => none
  | .generated task result now =>
    match s.tasks.get task with
    | some (.generating identityId groupId position) =>
      let (keys, result) := s.keys.createOperationalKeyRecord identityId groupId
        (result.map SigningPair.toKeyPair) now
      some (({ s with keys := keys } : OperationalState).endTask task position result)
    | _ => none
  | .startAutoRotation =>
    if rotationIntervalSeconds ≤ 0 || s.rotationTimer then some (s, [])
    else some ({ s with rotationTimer := true }, [])
  | .stopAutoRotation => some ({ s with rotationTimer := false }, [])
  | .tick task =>
    match s.tasks.get task, s.rotationTimer with
    | none, true => some (s.rotateAt task 0, [])
    | _, _ => none
  | .next task =>
    match s.tasks.get task with
    | some (.rotated position) => some (s.rotateAt task (position + 1), [])
    | _ => none
  | .sign stamp identityId content =>
    match s.stamps.get stamp with
    | some _ => none
    | none => some (s.setStamp stamp (beginStamp s identityId content), [])
  | .signature stamp =>
    match s.stamps.get stamp with
    | none => none
    | some call =>
      match call.stage with
      | .signing signer => some (s.setStamp stamp (answerStamp host call signer), [])
      | _ => none
  | .resume stamp =>
    match s.stamps.get stamp with
    | none => none
    | some call =>
      match endStamp s call with
      | none => none
      | some result =>
        some ({ s with stamps := s.stamps.delete stamp },
          [.stamped stamp call.content result])

/-- The manager without keys and calls. -/
def operationalMachine : Machine OperationalState (OperationalEvent host) OperationalReply where
  init := ⟨⟨.empty, .empty⟩, .empty, .empty, false⟩
  step := operationalStep host rotationIntervalSeconds

end

/-- A step of a run of the manager. -/
abbrev OperationalOccurrence (host : VerifyingHost) :=
  Occurrence OperationalState (OperationalEvent host) OperationalReply

/-! ## What a step does to the keys -/

/-- The record of an identity that a step writes. -/
def recordOf {host : VerifyingHost} (s : OperationalState) :
    OperationalEvent host → Option (String × Option String × SigningPair host × String)
  | .generated task (.ok pair) now =>
    match s.tasks.get task with
    | some (.generating identityId groupId _) => some (identityId, groupId, pair, now)
    | _ => none
  | _ => none

variable {host : VerifyingHost} {rotationIntervalSeconds : Int} {s s' : OperationalState}
  {event : OperationalEvent host} {out : List OperationalReply}

theorem generated_of_recordOf {identityId : String} {groupId : Option String}
    {pair : SigningPair host} {now : String}
    (h : recordOf s event = some (identityId, groupId, pair, now)) :
    ∃ task now, event = .generated task (.ok pair) now := by
  cases event with
  | generated task result moment =>
    cases result with
    | error error => cases h
    | ok drawn =>
      simp only [recordOf] at h
      split at h
      · cases h
        exact ⟨task, now, rfl⟩
      · cases h
  | _ => cases h

/-- **What a step does to the keys.**  It writes the record of one identity, or changes none. -/
theorem keys_of_step
    (h : operationalStep host rotationIntervalSeconds s event = some (s', out)) :
    (recordOf s event = none ∧ s'.keys = s.keys) ∨
      ∃ identityId groupId pair now, recordOf s event = some (identityId, groupId, pair, now) ∧
        s'.keys = (s.keys.createOperationalKeyRecord identityId groupId
          (.ok pair.toKeyPair) now).1 := by
  cases event with
  | generated task result now =>
    simp only [operationalStep] at h
    split at h
    · next identityId groupId position hTask =>
      obtain ⟨rfl, -⟩ := Prod.ext_iff.mp (Option.some.inj h)
      cases result with
      | error error =>
        refine Or.inl ⟨rfl, ?_⟩
        rw [OperationalState.endTask_keys]
        rfl
      | ok pair =>
        refine Or.inr ⟨identityId, groupId, pair, now, ?_, ?_⟩
        · simp only [recordOf, hTask]
        · rw [OperationalState.endTask_keys]
          rfl
    · cases h
  | createOperationalKey | rotateOperationalKey | gate | startAutoRotation | stopAutoRotation
    | tick | next | sign | signature | resume =>
      refine Or.inl ⟨rfl, ?_⟩
      simp only [operationalStep] at h
      repeat' split at h
      all_goals first
        | contradiction
        | obtain ⟨rfl, -⟩ := Prod.ext_iff.mp (Option.some.inj h)
          simp

end Keys
end Signet
