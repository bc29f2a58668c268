import Signet.Kit.Machine
import Signet.Seals.Build

/-!
# The seal manager

The full seal lifecycle: creation, signing, publishing, chaining, renewal and
revocation.  A call runs in segments between its awaits; what it has captured
when it awaits is a `SealStage`, and the maps it works on are shared with every
other call.

* `SealMaps` — the tracking maps.
* `issueWithInput`, `refreshHead`, `revokeSeal` — the segments that read the maps.
* `track`, `markRevoked` — the segments that write them.
* `history`, `list`, `current` — the inspection API.
* `sealMachine` — the manager with any number of calls in flight.
-/

namespace Signet
namespace Seals

open Kit Machine Schemas

/-- The in-memory tracking of a seal manager. -/
structure SealMaps where
  /-- Current seal per credential and chat. -/
  currentSeals : AssocMap String SealEnvelope
  /-- Seals by id for refresh and revoke lookups. -/
  sealsById : AssocMap String SealEnvelope
  inputsBySealId : AssocMap String SealInput
  revokedPairs : OrderedSet String

/-- A manager that has tracked nothing. -/
def SealMaps.empty : SealMaps := ⟨.empty, .empty, .empty, .empty⟩

/-- Composite key for credential and chat tracking. -/
def chainKey (credentialId chatId : String) : String := credentialId ++ ":" ++ chatId

def payloadKey (payload : SealPayload) : String := chainKey payload.credentialId payload.chatId

def sealIdOf (envelope : SealEnvelope) : String := envelope.chain.current.sealId

/-- A built seal on its way through signing and publishing. -/
structure Draft where
  key : String
  chatId : String
  input : SealInput
  chain : SealChain

/-- What a signature adds to a payload. -/
structure SealSignature where
  signature : String
  keyId : String
deriving DecidableEq

structure SignedRevocationEnvelope where
  revocation : RevocationSeal
  signature : String
  signerKeyRef : String
deriving DecidableEq

/-! ## Materiality -/

/-- Any added, removed or flipped scope is material because the seal changes. -/
def isMaterialChange (delta : SealDelta) : Bool :=
  decide (delta.added.length > 0) || decide (delta.removed.length > 0)
    || decide (delta.changed.length > 0)

/-- Check if non-permission fields changed between inputs. -/
def hasInputChanges (previous next : SealInput) : Bool :=
  previous.credentialId != next.credentialId || previous.operatorId != next.operatorId
    || previous.chatId != next.chatId || decide (previous.scopeMode ≠ next.scopeMode)
    || stableSerialize (previous.adminAccess.map adminAccessJson)
        != stableSerialize (next.adminAccess.map adminAccessJson)
    || decide (previous.trustTier ≠ next.trustTier)
    || stableSerialize (previous.operatorDisclosures.map operatorDisclosuresJson)
        != stableSerialize (next.operatorDisclosures.map operatorDisclosuresJson)
    || stableSerialize (previous.provenanceMap.map provenanceMapJson)
        != stableSerialize (next.provenanceMap.map provenanceMapJson)

/-- A head seal still says what the input would say. -/
def isImmaterial (maps : SealMaps) (previous : SealEnvelope) (input : SealInput) : Bool :=
  match maps.inputsBySealId.get (sealIdOf previous) with
  | none => false
  | some previousInput =>
    let delta := computePayloadDelta previous.chain.current
      { previous.chain.current with
        permissions := input.permissions
        scopeMode := input.scopeMode
        adminAccess := input.adminAccess }
    !isMaterialChange delta && !hasInputChanges previousInput input

/-! ## The segments of the calls -/

/-- How `issue` goes on once its input is resolved. -/
inductive IssueStep where
  /-- The head is returned as it is. -/
  | unchanged (envelope : SealEnvelope)
  /-- A new seal goes to the signer. -/
  | draft (draft : Draft)

/-- `issue` from its resolved input to the await of the signer. -/
def issueWithInput (zod : ZodEnv) (now : Int) (sealId : String) (maps : SealMaps)
    (chatId : String) (input : SealInput) : Except SignetError IssueStep :=
  let key := chainKey input.credentialId chatId
  if key ∈ maps.revokedPairs then
    .error (SealError.create "" "Cannot issue seal for revoked credential+chat")
  else
    let previous := maps.currentSeals.get key
    match previous.filter (isImmaterial maps · input) with
    | some head => .ok (.unchanged head)
    | none =>
      (buildSeal zod now sealId input (previous.map fun e => e.chain.current)).map fun chain =>
        .draft ⟨key, chatId, input, chain⟩

/-- `refresh` from the call to the await of the signer. -/
def refreshHead (zod : ZodEnv) (now : Int) (drawnId : String) (maps : SealMaps)
    (sealId : String) : Except SignetError Draft :=
  match maps.sealsById.get sealId with
  | none => .error (SealError.create sealId "Seal not found")
  | some existing =>
    match maps.inputsBySealId.get sealId with
    | none => .error (SealError.create sealId "Input not found for seal")
    | some input =>
      let current := existing.chain.current
      let key := payloadKey current
      if (maps.currentSeals.get key).map sealIdOf ≠ some sealId then
        .error (SealError.create sealId "Only the current head seal can be refreshed")
      else if key ∈ maps.revokedPairs then
        .error (SealError.create sealId
          "Cannot refresh: credential+chat pair has been revoked")
      else
        (buildSeal zod now drawnId input (some current)).map fun chain =>
          ⟨key, current.chatId, input, chain⟩

/-- `revoke` from the call to the await of the signer: the payload it captures and
the revocation to sign. -/
def revokeSeal (zod : ZodEnv) (now : Int) (drawnId : String) (maps : SealMaps)
    (sealId : String) (reason : AgentRevocationReason) :
    Except SignetError (SealPayload × RevocationSeal) :=
  match maps.sealsById.get sealId with
  | none => .error (SealError.create sealId "Seal not found")
  | some existing =>
    let current := existing.chain.current
    if payloadKey current ∈ maps.revokedPairs then
      .error (SealError.create sealId "Credential+chat already revoked")
    else
      let revocation : RevocationSeal :=
        { sealId := drawnId
          previousSealId := sealId
          operatorId := current.operatorId
          credentialId := current.credentialId
          chatId := current.chatId
          reason := reason
          revokedAt := now
          issuer := "signet" }
      match revocationSealIssues revocation with
      | [] => .ok (current, revocation)
      | issues => .error (ValidationError.create "revocation" (zod.errorMessage issues))

def Draft.envelope (draft : Draft) (signature : SealSignature) : SealEnvelope :=
  ⟨draft.chain, signature.signature, signature.keyId⟩

/-- Track a published envelope. -/
def track (maps : SealMaps) (draft : Draft) (envelope : SealEnvelope) : SealMaps :=
  { maps with
    currentSeals := maps.currentSeals.set draft.key envelope
    sealsById := maps.sealsById.set (sealIdOf envelope) envelope
    inputsBySealId := maps.inputsBySealId.set (sealIdOf envelope) draft.input }

/-- Mark a pair as revoked and clear its current seal. -/
def markRevoked (maps : SealMaps) (key : String) : SealMaps :=
  { maps with
    revokedPairs := maps.revokedPairs.add key
    currentSeals := maps.currentSeals.delete key }

/-! ## Inspection -/

/-- `current` -/
def current (maps : SealMaps) (credentialId chatId : String) : Option SealEnvelope :=
  maps.currentSeals.get (chainKey credentialId chatId)

structure SealListFilter where
  chatId : Option String := none
  credentialId : Option String := none

/-- Apply the optional list filters. -/
def matchesFilter (envelope : SealEnvelope) (filter : SealListFilter) : Bool :=
  filter.chatId.all (envelope.chain.current.chatId == ·)
    && filter.credentialId.all (envelope.chain.current.credentialId == ·)

/-- The most recently issued seal first, equal times in their old order. -/
def sortNewestFirst (envelopes : List SealEnvelope) : List SealEnvelope :=
  envelopes.insertionSort fun left right =>
    right.chain.current.issuedAt ≤ left.chain.current.issuedAt

/-- `list` -/
def list (maps : SealMaps) (filter : SealListFilter) : List SealEnvelope :=
  sortNewestFirst (maps.currentSeals.values.filter (matchesFilter · filter))

/-- The id of the seal an envelope names as its predecessor. -/
def previousId (envelope : SealEnvelope) : Option String :=
  envelope.chain.previous.map fun previous => previous.sealId

/-- Finds the current head of a seal chain by looking for the only envelope that
is not referenced as another envelope's predecessor. -/
def findHistoryHead (envelopes : List SealEnvelope) : Option SealEnvelope :=
  let referenced := OrderedSet.ofList (envelopes.filterMap previousId)
  envelopes.find? fun envelope => sealIdOf envelope ∉ referenced

/-- The envelope a predecessor id leads to; an empty id leads nowhere. -/
def predecessor (maps : SealMaps) (envelope : SealEnvelope) : Option SealEnvelope :=
  match previousId envelope with
  | none => none
  | some id => if id = "" then none else maps.sealsById.get id

/-- The walk of `history`, newest first, until it ends or meets a seal again.
Each turn sees a new seal, so the number of tracked seals bounds the turns. -/
def walkBack (maps : SealMaps) : Nat → OrderedSet String → Option SealEnvelope →
    List SealEnvelope
  | 0, _, _ => []
  | _ + 1, _, none => []
  | fuel + 1, seen, some cursor =>
    if sealIdOf cursor ∈ seen then []
    else cursor :: walkBack maps fuel (seen.add (sealIdOf cursor)) (predecessor maps cursor)

def trackedFor (maps : SealMaps) (credentialId chatId : String) : List SealEnvelope :=
  maps.sealsById.values.filter fun envelope =>
    envelope.chain.current.credentialId == credentialId
      && envelope.chain.current.chatId == chatId

/-- `history` -/
def history (maps : SealMaps) (credentialId chatId : String) : List SealEnvelope :=
  let envelopes := trackedFor maps credentialId chatId
  if envelopes.isEmpty then []
  else
    let head := (current maps credentialId chatId).or
      ((findHistoryHead envelopes).or (sortNewestFirst envelopes).head?)
    walkBack maps (maps.sealsById.values.length + 1) .empty head

/-! ## Calls in flight -/

/-- A call at one of its awaits. -/
inductive SealStage where
  /-- `issue` awaits `resolveInput`. -/
  | resolving (credentialId chatId : String)
  /-- `issue` or `refresh` awaits `signer.sign`. -/
  | signing (draft : Draft)
  /-- `issue` or `refresh` awaits `publisher.publish`. -/
  | publishing (draft : Draft) (envelope : SealEnvelope)
  /-- `revoke` awaits `signer.signRevocation`. -/
  | signingRevocation (current : SealPayload) (revocation : RevocationSeal)
  /-- `revoke` awaits `publisher.publishRevocation`. -/
  | publishingRevocation (current : SealPayload)

/-- The maps and the calls in flight. -/
structure SealState where
  maps : SealMaps
  calls : AssocMap Nat SealStage

/-- What happens next; a drawn id is the one `generateSealId` would draw. -/
inductive SealEvent where
  | issue (call : Nat) (credentialId chatId : String)
  | inputResolved (call : Nat) (result : Except SignetError SealInput) (drawnId : String)
  | refresh (call : Nat) (sealId drawnId : String)
  | revoke (call : Nat) (sealId : String) (reason : AgentRevocationReason) (drawnId : String)
  | signed (call : Nat) (result : Except SignetError SealSignature)
  | published (call : Nat) (result : Except SignetError Unit)

/-- An event at a clock reading. -/
structure SealLabel where
  now : Int
  event : SealEvent

/-- What a step makes observable. -/
inductive SealObservation where
  /-- `publisher.publish` is called. -/
  | publishing (chatId : String) (envelope : SealEnvelope)
  /-- `publisher.publish` has succeeded and the envelope is tracked. -/
  | published (envelope : SealEnvelope)
  /-- `publisher.publishRevocation` is called. -/
  | publishingRevocation (chatId : String) (revocation : SignedRevocationEnvelope)
  /-- `issue` or `refresh` has returned. -/
  | returned (call : Nat) (result : Except SignetError SealEnvelope)
  /-- `revoke` has returned Ok for the seal with this payload. -/
  | revoked (call : Nat) (current : SealPayload)
  /-- `revoke` has returned an error. -/
  | revokeFailed (call : Nat) (error : SignetError)

/-- The call goes on to another await. -/
def await (s : SealState) (call : Nat) (stage : SealStage) : SealState :=
  { s with calls := s.calls.set call stage }

def endCall (s : SealState) (call : Nat) : SealState :=
  { s with calls := s.calls.delete call }

def onSigned (s : SealState) (call : Nat) (result : Except SignetError SealSignature) :
    SealStage → Option (SealState × List SealObservation)
  | .signing draft =>
    match result with
    | .error error => some (endCall s call, [.returned call (.error error)])
    | .ok signature =>
      let envelope := draft.envelope signature
      some (await s call (.publishing draft envelope), [.publishing draft.chatId envelope])
  | .signingRevocation current revocation =>
    match result with
    | .error error => some (endCall s call, [.revokeFailed call error])
    | .ok signature =>
      some (await s call (.publishingRevocation current),
        [.publishingRevocation current.chatId
          ⟨revocation, signature.signature, signature.keyId⟩])
  | _ => none

def onPublished (s : SealState) (call : Nat) (result : Except SignetError Unit) :
    SealStage → Option (SealState × List SealObservation)
  | .publishing draft envelope =>
    match result with
    | .error error => some (endCall s call, [.returned call (.error error)])
    | .ok () =>
      some (endCall { s with maps := track s.maps draft envelope } call,
        [.published envelope, .returned call (.ok envelope)])
  | .publishingRevocation current =>
    match result with
    | .error error => some (endCall s call, [.revokeFailed call error])
    | .ok () =>
      some (endCall { s with maps := markRevoked s.maps (payloadKey current) } call,
        [.revoked call current])
  | _ => none

def onInputResolved (zod : ZodEnv) (now : Int) (s : SealState) (call : Nat) (chatId : String)
    (result : Except SignetError SealInput) (drawnId : String) :
    SealState × List SealObservation :=
  match result with
  | .error error => (endCall s call, [.returned call (.error error)])
  | .ok input =>
    match issueWithInput zod now drawnId s.maps chatId input with
    | .error error => (endCall s call, [.returned call (.error error)])
    | .ok (.unchanged head) => (endCall s call, [.returned call (.ok head)])
    | .ok (.draft draft) => (await s call (.signing draft), [])

def sealStep (zod : ZodEnv) (s : SealState) (label : SealLabel) :
    Option (SealState × List SealObservation) :=
  match label.event with
  | .issue call credentialId chatId =>
    if (s.calls.get call).isSome then none
    else some (await s call (.resolving credentialId chatId), [])
  | .inputResolved call result drawnId =>
    match s.calls.get call with
    | some (.resolving _ chatId) =>
      some (onInputResolved zod label.now s call chatId result drawnId)
    | _ => none
  | .refresh call sealId drawnId =>
    if (s.calls.get call).isSome then none
    else
      match refreshHead zod label.now drawnId s.maps sealId with
      | .error error => some (s, [.returned call (.error error)])
      | .ok draft => some (await s call (.signing draft), [])
  | .revoke call sealId reason drawnId =>
    if (s.calls.get call).isSome then none
    else
      match revokeSeal zod label.now drawnId s.maps sealId reason with
      | .error error => some (s, [.revokeFailed call error])
      | .ok (current, revocation) =>
        some (await s call (.signingRevocation current revocation), [])
  | .signed call result => (s.calls.get call).bind (onSigned s call result)
  | .published call result => (s.calls.get call).bind (onPublished s call result)

/-- The manager with any number of calls in flight, started empty. -/
def sealMachine (zod : ZodEnv) : Machine SealState SealLabel SealObservation where
  init := ⟨.empty, .empty⟩
  step := sealStep zod

/-! ## A first seal -/

/-- A schema library that accepts every date. -/
def sampleZod : ZodEnv := ⟨fun _ => true, fun _ => "invalid"⟩

/-- An input for a credential that may send to a chat. -/
def sampleInput : SealInput :=
  { credentialId := "cred_0123456789abcdef"
    operatorId := "op_0123456789abcdef"
    chatId := "conv_0123456789abcdef"
    scopeMode := .perChat
    permissions := ⟨[.send], []⟩ }

def sampleDraft (now : Int) (sealId : String) (previous : Option SealPayload) : Draft :=
  { key := chainKey sampleInput.credentialId sampleInput.chatId
    chatId := sampleInput.chatId
    input := sampleInput
    chain :=
      { current := rawPayload now sealId sampleInput
        previous := previous
        delta := .empty } }

def firstDraft : Draft := sampleDraft 0 "seal_00000000000000aa" none

/-- The refresh of the first seal. -/
def refreshDraft : Draft :=
  sampleDraft 10 "seal_00000000000000bb" (some firstDraft.chain.current)

def sampleSignature : SealSignature := ⟨"signature", "key"⟩

/-- The first seal is issued, signed, published and tracked. -/
def firstSeal : List SealLabel :=
  [⟨0, .issue 1 sampleInput.credentialId sampleInput.chatId⟩,
    ⟨0, .inputResolved 1 (.ok sampleInput) firstDraft.chain.current.sealId⟩,
    ⟨1, .signed 1 (.ok sampleSignature)⟩, ⟨2, .published 1 (.ok ())⟩]

def firstSealStates : Nat → SealState
  | 0 => ⟨.empty, .empty⟩
  | 1 => await ⟨.empty, .empty⟩ 1 (.resolving sampleInput.credentialId sampleInput.chatId)
  | 2 => await ⟨.empty, .empty⟩ 1 (.signing firstDraft)
  | 3 => await ⟨.empty, .empty⟩ 1 (.publishing firstDraft (firstDraft.envelope sampleSignature))
  | _ => ⟨track .empty firstDraft (firstDraft.envelope sampleSignature), .empty⟩

def firstSealHistory : List (Occurrence SealState SealLabel SealObservation) :=
  let envelope := firstDraft.envelope sampleSignature
  [⟨firstSealStates 0, ⟨0, .issue 1 sampleInput.credentialId sampleInput.chatId⟩, []⟩,
    ⟨firstSealStates 1,
      ⟨0, .inputResolved 1 (.ok sampleInput) firstDraft.chain.current.sealId⟩, []⟩,
    ⟨firstSealStates 2, ⟨1, .signed 1 (.ok sampleSignature)⟩,
      [.publishing firstDraft.chatId envelope]⟩,
    ⟨firstSealStates 3, ⟨2, .published 1 (.ok ())⟩,
      [.published envelope, .returned 1 (.ok envelope)]⟩]

theorem firstSeal_exec (zod : ZodEnv) :
    (sealMachine zod).exec (sealMachine zod).init firstSeal =
      some (firstSealHistory, firstSealStates 4) := by
  refine exec_cons (show _ = some (firstSealStates 1, _) from rfl) ?_
  refine exec_cons (show _ = some (firstSealStates 2, _) from rfl) ?_
  refine exec_cons (show _ = some (firstSealStates 3, _) from rfl) ?_
  exact exec_cons (show _ = some (firstSealStates 4, _) from rfl) rfl

def firstMaps : SealMaps := track .empty firstDraft (firstDraft.envelope sampleSignature)

/-- A refresh of the first seal, once that is tracked. -/
def refreshInTurn : List SealLabel :=
  [⟨10, .refresh 2 firstDraft.chain.current.sealId "seal_00000000000000bb"⟩,
    ⟨11, .signed 2 (.ok sampleSignature)⟩, ⟨12, .published 2 (.ok ())⟩]

def refreshHistory : List (Occurrence SealState SealLabel SealObservation) :=
  [⟨firstSealStates 4,
      ⟨10, .refresh 2 firstDraft.chain.current.sealId "seal_00000000000000bb"⟩, []⟩,
    ⟨await (firstSealStates 4) 2 (.signing refreshDraft), ⟨11, .signed 2 (.ok sampleSignature)⟩,
      [.publishing sampleInput.chatId (refreshDraft.envelope sampleSignature)]⟩,
    ⟨await (firstSealStates 4) 2
        (.publishing refreshDraft (refreshDraft.envelope sampleSignature)),
      ⟨12, .published 2 (.ok ())⟩,
      [.published (refreshDraft.envelope sampleSignature),
        .returned 2 (.ok (refreshDraft.envelope sampleSignature))]⟩]

def refreshedState : SealState :=
  ⟨track firstMaps refreshDraft (refreshDraft.envelope sampleSignature), .empty⟩

theorem refresh_exec (zod : ZodEnv) :
    (sealMachine zod).exec (sealMachine zod).init (firstSeal ++ refreshInTurn) =
      some (firstSealHistory ++ refreshHistory, refreshedState) := by
  refine exec_append (firstSeal_exec zod) ?_
  refine exec_cons (show _ = some (await (firstSealStates 4) 2 (.signing refreshDraft), _)
    from rfl) ?_
  refine exec_cons (show _ = some (await (firstSealStates 4) 2
    (.publishing refreshDraft (refreshDraft.envelope sampleSignature)), _) from rfl) ?_
  exact exec_cons (show _ = some (refreshedState, _) from rfl) rfl

end Seals
end Signet
