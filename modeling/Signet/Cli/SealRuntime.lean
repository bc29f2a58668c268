import Signet.Cli.ReadElevation
import Signet.Cli.SealInputResolver
import Signet.Seals.Manager
import Signet.Sessions.CredentialLifecycle

/-!
# The seals as `start` wires them

The seal manager resolves its inputs from the credential manager, the operators and
the disclosure store; the read-elevation manager has the head seals of a chat
refreshed whenever its disclosure changes; and the revocation of a credential has its
current seals revoked, one chat after the other.  Each of these runs in segments
between its awaits, next to all the others.

* `SealResolution` — the resolver, for an issuance in flight.
* `DisclosureRefresh` — a call of `onDisclosureChanged`.
* `RevocationJob` — what `onCredentialRevoked` has started.
* `runtimeMachine` — everything together.
-/

namespace Signet
namespace Cli

open Kit Schemas Policy Sessions Seals

/-- What the runtime takes from outside. -/
structure RuntimeDeps where
  zod : ZodEnv
  config : CredentialManagerConfig
  hash : HashEnv
  trustTier : TrustTier

/-- How far the resolver is for an issuance. -/
inductive SealResolution where
  /-- `credentialManager.lookup` has answered. -/
  | credentialRead (result : Except SignetError CredentialRecord)
  /-- `operatorManager.lookup` has answered. -/
  | operatorRead (credential : CredentialRecord) (result : Except SignetError OperatorRecord)
  | resolved (result : Except SignetError SealInput)

/-- Where a call of `onDisclosureChanged` awaits. -/
inductive RefreshStage where
  /-- `sealManager.list` has answered, or the seals that are left of its answer. -/
  | listed (envelopes : List SealEnvelope)
  /-- `sealManager.refresh` runs as a call of the seal manager. -/
  | refreshing (sealCall : Nat) (rest : List SealEnvelope)
  | done (result : Except SignetError Unit)

/-- A call of `onDisclosureChanged`. -/
structure DisclosureRefresh where
  chatIds : List String
  includeExpired : Bool
  /-- `refreshedSealIds` -/
  refreshedSealIds : OrderedSet String
  /-- The chats after the present one. -/
  remaining : List String
  stage : RefreshStage
  /-- What `lookupAdminAccess` answers when the call begins. -/
  inForce : String → Option AdminAccess

/-- Where a revocation job awaits. -/
inductive RevocationStage where
  /-- `sealManager.current` has answered. -/
  | found (envelope : Option SealEnvelope)
  /-- `sealManager.revoke` runs as a call of the seal manager. -/
  | revoking (sealCall : Nat)

/-- The seals of a revoked credential on their way to be revoked. -/
structure RevocationJob where
  credential : InternalCredentialRecord
  /-- The chats after the present one. -/
  remaining : List String
  stage : RevocationStage

/-- The state of the wired components. -/
structure RuntimeState where
  elevation : ElevationState
  seals : SealState
  store : CredentialStore
  operators : AssocMap String OperatorRecord
  rollbacks : ReadDisclosureRollbackTracker
  /-- The resolver of each issuance in flight. -/
  resolutions : AssocMap Nat SealResolution
  returned : AssocMap Nat (Except SignetError SealEnvelope)
  /-- The calls of `onDisclosureChanged`, by the elevation call that awaits them. -/
  refreshes : AssocMap Nat DisclosureRefresh
  revocations : AssocMap Nat RevocationJob
  /-- How many revocation jobs have been started. -/
  jobs : Nat

/-- What happens next; a drawn id is the one `generateSealId` would draw. -/
inductive RuntimeEvent where
  | elevation (event : ElevationEvent)
  | credential (op : CredentialOp)
  | setOperator (operatorId : String) (record : OperatorRecord)
  | issueSeal (call : Nat) (credentialId chatId : String)
  /-- The resolver of an issuance goes on. -/
  | resolve (call : Nat)
  /-- An issuance goes on with its input. -/
  | deliver (call : Nat) (drawnId : String)
  | refreshSeal (call : Nat) (sealId drawnId : String)
  | revokeSeal (call : Nat) (sealId : String) (reason : AgentRevocationReason)
      (drawnId : String)
  | signed (call : Nat) (result : Except SignetError SealSignature)
  | published (call : Nat) (result : Except SignetError Unit)
  /-- A call of `onDisclosureChanged` goes on; a refresh it starts is the given call. -/
  | advanceRefresh (call sealCall : Nat) (drawnId : String)
  | advanceRevocation (job sealCall : Nat) (drawnId : String)

/-- An event at a clock reading. -/
structure RuntimeLabel where
  now : Int
  event : RuntimeEvent

/-- What a step makes observable. -/
inductive RuntimeObservation where
  | elevation (observation : ElevationObservation)
  | credential (outcome : CredentialOutcome)
  | issued (observation : SealObservation)
  /-- A call of `onDisclosureChanged` has a result. -/
  | refreshed (refresh : DisclosureRefresh) (result : Except SignetError Unit)

/-- The state after a segment, and what the segment made observable. -/
abbrev RuntimeTurn := RuntimeState × List RuntimeObservation

variable (deps : RuntimeDeps)

/-! ## The credential manager and its hook -/

def agentReason : Option CredentialRevocationReason → AgentRevocationReason
  | some .ownerInitiated => .ownerInitiated
  | some .credentialExpired => .credentialExpired
  | some .heartbeatTimeout => .heartbeatTimeout
  | some .policyViolation => .policyViolation
  | some .reauthorizationRequired => .adminRemoved
  | none => .ownerInitiated

/-- A revocation job comes to its next chat: `sealManager.current` is called. -/
def nextRevocation (maps : SealMaps) (credential : InternalCredentialRecord) :
    List String → Option RevocationJob
  | [] => none
  | chatId :: remaining =>
    some ⟨credential, remaining, .found (current maps credential.credentialId chatId)⟩

/-- `onCredentialRevoked` -/
def onCredentialRevoked (s : RuntimeState) (credential : InternalCredentialRecord) :
    RuntimeState :=
  match nextRevocation s.seals.maps credential credential.chatIds with
  | none => s
  | some job => { s with revocations := s.revocations.set s.jobs job, jobs := s.jobs + 1 }

/-- The credentials revoked between two states of the store. -/
def newlyRevoked (before after : CredentialStore) : List InternalCredentialRecord :=
  (after.notifications.drop before.notifications.length).filterMap fun
    | .revoked credential => some credential
    | .mutated _ => none

/-- The credential manager has changed its store. -/
def notifyRevoked (s : RuntimeState) (store : CredentialStore) : RuntimeState :=
  (newlyRevoked s.store store).foldl onCredentialRevoked { s with store := store }

/-! ## The seal manager -/

def keepReturned (returned : AssocMap Nat (Except SignetError SealEnvelope)) :
    List SealObservation → AssocMap Nat (Except SignetError SealEnvelope)
  | [] => returned
  | .returned call result :: rest => keepReturned (returned.set call result) rest
  | _ :: rest => keepReturned returned rest

/-- A segment of the seal manager. -/
def runSeals (s : RuntimeState) (label : SealLabel) : Option RuntimeTurn :=
  (sealStep deps.zod s.seals label).map fun turn =>
    ({ s with seals := turn.1, returned := keepReturned s.returned turn.2 },
      turn.2.map .issued)

/-- No call of the seal manager has had this number yet. -/
def freshSealCall (s : RuntimeState) (call : Nat) : Bool :=
  (s.seals.calls.get call).isNone && (s.returned.get call).isNone

/-- `sealManager.issue`, up to the answer of the credential manager to the resolver. -/
def issueSeal (now : Int) (s : RuntimeState) (call : Nat) (credentialId chatId : String) :
    Option RuntimeTurn :=
  if freshSealCall s call then
    (runSeals deps s ⟨now, .issue call credentialId chatId⟩).map fun turn =>
      let answer := Service.lookup deps.config now turn.1.store credentialId
      (notifyRevoked { turn.1 with
        resolutions := turn.1.resolutions.set call (.credentialRead answer.2) } answer.1, turn.2)
  else none

/-- The resolver goes on from the credential manager to the operator manager, and from
there to its answer. -/
def resolveInput (now : Int) (s : RuntimeState) (call : Nat) (credentialId chatId : String) :
    SealResolution → Option RuntimeState
  | .credentialRead result =>
    match result with
    | .error error =>
      some { s with resolutions := s.resolutions.set call (.resolved (.error error)) }
    | .ok credential =>
      let answer := OperatorManager.lookup s.operators credential.config.operatorId
      some { s with resolutions := s.resolutions.set call (.operatorRead credential answer) }
  | .operatorRead credential result =>
    match result with
    | .error error =>
      some { s with resolutions := s.resolutions.set call (.resolved (.error error)) }
    | .ok operator =>
      match checkChatInScope chatId credential.config.chatIds with
      | .error _ =>
        let input := resolveSealInput deps.trustTier credential operator credentialId
          chatId none
        some { s with resolutions := s.resolutions.set call (.resolved input) }
      | .ok () =>
        let answer := lookupAdminAccess now s.rollbacks s.elevation.disclosureStore chatId
        let input := resolveSealInput deps.trustTier credential operator credentialId
          chatId answer.1
        some { s with
          resolutions := s.resolutions.set call (.resolved input)
          elevation := { s.elevation with disclosureStore := answer.2 } }
  | .resolved _ => none

/-- An issuance goes on with the input that has been resolved for it. -/
def deliverInput (now : Int) (s : RuntimeState) (call : Nat) (drawnId : String) :
    Option RuntimeTurn :=
  match s.resolutions.get call with
  | some (.resolved result) =>
    runSeals deps { s with resolutions := s.resolutions.delete call }
      ⟨now, .inputResolved call result drawnId⟩
  | _ => none

/-! ## Refreshes of the disclosure -/

def nextSeal (refreshed : OrderedSet String) :
    List SealEnvelope → Option (SealEnvelope × List SealEnvelope)
  | [] => none
  | envelope :: rest =>
    if sealIdOf envelope ∈ refreshed then nextSeal refreshed rest else some (envelope, rest)

/-- Close the rollback window of a call. -/
def leaveRollback (s : RuntimeState) (refresh : DisclosureRefresh) : RuntimeState :=
  if refresh.includeExpired then
    { s with rollbacks := ReadDisclosureRollbackTracker.leave s.rollbacks refresh.chatIds }
  else s

/-- A call of `onDisclosureChanged` has its result. -/
def finishRefresh (s : RuntimeState) (call : Nat) (refresh : DisclosureRefresh)
    (result : Except SignetError Unit) : RuntimeTurn :=
  let closed := leaveRollback s refresh
  ({ closed with refreshes := closed.refreshes.set call { refresh with stage := .done result } },
    [.refreshed refresh result])

/-- A call of `onDisclosureChanged` comes to its next chat: `sealManager.list` is
called. -/
def listNext (s : RuntimeState) (call : Nat) (refresh : DisclosureRefresh) : RuntimeTurn :=
  match refresh.remaining with
  | [] => finishRefresh s call refresh (.ok ())
  | chatId :: remaining =>
    let listed := list s.seals.maps { chatId := some chatId }
    let next := { refresh with remaining := remaining, stage := .listed listed }
    ({ s with refreshes := s.refreshes.set call next }, [])

/-- `onDisclosureChanged`, up to its first await. -/
def onDisclosureChanged (now : Int) (s : RuntimeState) (call : Nat) (chatIds : List String)
    (includeExpired : Bool) : RuntimeTurn :=
  let entered :=
    if includeExpired then
      { s with rollbacks := ReadDisclosureRollbackTracker.enter s.rollbacks chatIds }
    else s
  listNext entered call
    { chatIds := chatIds
      includeExpired := includeExpired
      refreshedSealIds := .empty
      remaining := chatIds
      stage := .listed []
      inForce := fun chatId =>
        (lookupAdminAccess now entered.rollbacks entered.elevation.disclosureStore chatId).1 }

/-- The loop over the listed seals goes on. -/
def refreshNext (now : Int) (s : RuntimeState) (call sealCall : Nat) (drawnId : String)
    (refresh : DisclosureRefresh) (envelopes : List SealEnvelope) : Option RuntimeTurn :=
  match nextSeal refresh.refreshedSealIds envelopes with
  | none => some (listNext s call refresh)
  | some (envelope, rest) =>
    if freshSealCall s sealCall then
      let awaiting := { refresh with
        refreshedSealIds := refresh.refreshedSealIds.add (sealIdOf envelope)
        stage := .refreshing sealCall rest }
      runSeals deps { s with refreshes := s.refreshes.set call awaiting }
        ⟨now, .refresh sealCall (sealIdOf envelope) drawnId⟩
    else none

/-- A call of `onDisclosureChanged` goes on. -/
def advanceRefresh (now : Int) (s : RuntimeState) (call sealCall : Nat) (drawnId : String) :
    Option RuntimeTurn :=
  match s.refreshes.get call with
  | none => none
  | some refresh =>
    match refresh.stage with
    | .done _ => none
    | .listed envelopes => refreshNext deps now s call sealCall drawnId refresh envelopes
    | .refreshing awaited rest =>
      match s.returned.get awaited with
      | none => none
      | some (.error error) => some (finishRefresh s call refresh (.error error))
      | some (.ok _) => refreshNext deps now s call sealCall drawnId refresh rest

/-! ## Revocations -/

/-- A revocation job has dealt with a chat. -/
def continueRevocation (s : RuntimeState) (job : Nat) (revocation : RevocationJob) :
    RuntimeState :=
  match nextRevocation s.seals.maps revocation.credential revocation.remaining with
  | none => { s with revocations := s.revocations.delete job }
  | some next => { s with revocations := s.revocations.set job next }

/-- A revocation job goes on; what a revocation returns does not matter to it. -/
def advanceRevocation (now : Int) (s : RuntimeState) (job sealCall : Nat) (drawnId : String) :
    Option RuntimeTurn :=
  match s.revocations.get job with
  | none => none
  | some revocation =>
    match revocation.stage with
    | .found none => some (continueRevocation s job revocation, [])
    | .found (some envelope) =>
      if freshSealCall s sealCall then
        let awaiting := { revocation with stage := .revoking sealCall }
        runSeals deps { s with revocations := s.revocations.set job awaiting }
          ⟨now, .revoke sealCall (sealIdOf envelope)
            (agentReason revocation.credential.revocationReason) drawnId⟩
      else none
    | .revoking awaited =>
      if (s.seals.calls.get awaited).isSome then none
      else some (continueRevocation s job revocation, [])

/-! ## The elevation manager -/

/-- The dependencies of the elevation manager in `start`. -/
def elevationDeps : AdminReadElevationManagerDeps := {}

/-- The elevation call may go on: what it awaits of `onDisclosureChanged` has this
result. -/
def refreshAnswers (s : RuntimeState) : ElevationEvent → Bool
  | .answer call (.notify result) =>
    match s.refreshes.get call with
    | none => result.isOk
    | some refresh =>
      match refresh.stage with
      | .done given => decide (given = result)
      | _ => false
  | _ => true

/-- The elevation call has taken the result of its refresh. -/
def takeRefresh (s : RuntimeState) : ElevationEvent → RuntimeState
  | .answer call (.notify _) => { s with refreshes := s.refreshes.delete call }
  | _ => s

/-- The calls of `onDisclosureChanged` that a segment of the elevation manager makes. -/
def announce (now : Int) (call : Nat) (turn : RuntimeTurn) : List ElevationObservation → RuntimeTurn
  | [] => turn
  | .announced chatIds includeExpired :: rest =>
    let begun := onDisclosureChanged now turn.1 call chatIds includeExpired
    announce now call (begun.1, turn.2 ++ begun.2) rest
  | _ :: rest => announce now call turn rest

/-- A segment of the elevation manager. -/
def runElevation (now : Int) (s : RuntimeState) (event : ElevationEvent) : Option RuntimeTurn :=
  if refreshAnswers s event then
    (elevationStep elevationDeps s.elevation ⟨now, event⟩).map fun turn =>
      announce now event.call
        ({ takeRefresh s event with elevation := turn.1 }, turn.2.map .elevation) turn.2
  else none

/-! ## The machine -/

def runtimeStep (s : RuntimeState) (label : RuntimeLabel) : Option RuntimeTurn :=
  match label.event with
  | .elevation event => runElevation label.now s event
  | .credential op =>
    let result := runOp deps.config deps.hash s.store ⟨label.now, op⟩
    some (notifyRevoked s result.1, [.credential result.2])
  | .setOperator operatorId record =>
    some ({ s with operators := s.operators.set operatorId record }, [])
  | .issueSeal call credentialId chatId => issueSeal deps label.now s call credentialId chatId
  | .resolve call =>
    match s.seals.calls.get call, s.resolutions.get call with
    | some (.resolving credentialId chatId), some resolution =>
      (resolveInput deps label.now s call credentialId chatId resolution).map fun t => (t, [])
    | _, _ => none
  | .deliver call drawnId => deliverInput deps label.now s call drawnId
  | .refreshSeal call sealId drawnId =>
    if freshSealCall s call then runSeals deps s ⟨label.now, .refresh call sealId drawnId⟩
    else none
  | .revokeSeal call sealId reason drawnId =>
    if freshSealCall s call then
      runSeals deps s ⟨label.now, .revoke call sealId reason drawnId⟩
    else none
  | .signed call result => runSeals deps s ⟨label.now, .signed call result⟩
  | .published call result => runSeals deps s ⟨label.now, .published call result⟩
  | .advanceRefresh call sealCall drawnId =>
    advanceRefresh deps label.now s call sealCall drawnId
  | .advanceRevocation job sealCall drawnId =>
    advanceRevocation deps label.now s job sealCall drawnId

/-- The runtime, started at a clock reading with empty stores. -/
def runtimeMachine (start : Int) : Machine RuntimeState RuntimeLabel RuntimeObservation where
  init :=
    { elevation := (elevationMachine elevationDeps start).init
      seals := (sealMachine deps.zod).init
      store := .empty
      operators := .empty
      rollbacks := .empty
      resolutions := .empty
      returned := .empty
      refreshes := .empty
      revocations := .empty
      jobs := 0 }
  step := runtimeStep deps

/-! ## Credentials and seals -/

/-- The credential of the samples. -/
def sealedId : String := "cred_0123456789abcdef"

def sealedChat : String := "conv_0123456789abcdef"

def sealOperator : OperatorRecord :=
  ⟨"op_0123456789abcdef", { label := "operator", role := .operator, scopeMode := .shared }, 0,
    "owner", .active⟩

def credentialForChat : List RuntimeLabel :=
  [⟨0, .setOperator sealOperator.id sealOperator⟩,
    ⟨1, .credential (.issueCredential
      { operatorId := sealOperator.id, chatIds := [sealedChat], allow := some [.send] } {}
      ⟨sealedId, "token"⟩)⟩]

/-- A seal of the credential that is resolved, signed and published at once. -/
def issueSealAt (now : Int) (call : Nat) (drawnId : String) : List RuntimeLabel :=
  [⟨now, .issueSeal call sealedId sealedChat⟩, ⟨now, .resolve call⟩, ⟨now, .resolve call⟩,
    ⟨now, .deliver call drawnId⟩, ⟨now, .signed call (.ok sampleSignature)⟩,
    ⟨now, .published call (.ok ())⟩]

def sampleRuntimeDeps : RuntimeDeps := ⟨sampleZod, {}, sampleEnv, .unverified⟩

/-- The runtime, started at the epoch. -/
def sampleRuntimeMachine : Machine RuntimeState RuntimeLabel RuntimeObservation :=
  runtimeMachine sampleRuntimeDeps 0

end Cli
end Signet
