import Signet.Actions.ReadAgreement
import Signet.Cli.ElevationOrigin

/-!
# Reads by the admin

A request that reads messages for the admin comes over the socket, over the admin route of
the HTTP server or over the route of an action.  Each transport asks the manager for an
elevation, with the parameters as they came or with the validated ones, and runs the
handler with what it answers.

* `AdminRequest.input` — what the manager is asked with.
* `AdminRequest.shown` — the messages the request shows.
* `admin_read_approved` — what is shown was approved for the session.
-/

namespace Signet
namespace Actions

open Kit Machine Schemas
open Signet.Cli (AdminReadElevation AdminReadElevationManagerDeps ElevationState ElevationLabel
  ElevationObservation ElevationRequest ResolveAdminReadElevationInput elevationMachine
  wantsDangerousMessageRead resolveChatId buildCacheKey UsesNormalizer Made)

/-! ## Ids -/

/-- Both ids of an id; ids of the network come first. -/
def IdMappings.resolve (store : IdMappings) (id : String) : Option (String × String) :=
  match store.getLocal id with
  | some localId => some (id, localId)
  | none => (store.getNetwork id).map fun networkId => (networkId, id)

def normalizeChatId (idMappings : Option IdMappings) (chatId : String) : String :=
  match idMappings.bind fun store => store.resolve chatId with
  | some (_, localId) => localId
  | none => chatId

/-- The two lookups are of one partial bijection between local ids and ids of the network. -/
def IdMappings.PartialBijection (store : IdMappings) : Prop :=
  ∀ networkId localId,
    store.getNetwork localId = some networkId ↔ store.getLocal networkId = some localId

structure IdMappings.Separate (store : IdMappings) : Prop where
  bijective : store.PartialBijection
  apart : ∀ id, store.getLocal id = none ∨ store.getNetwork id = none

variable {store : IdMappings} {idMappings : Option IdMappings}

theorem normalizeChatId_some (chatId : String) :
    normalizeChatId (some store) chatId = (store.getLocal chatId).getD chatId := by
  unfold normalizeChatId IdMappings.resolve
  rw [Option.bind_some]
  cases store.getLocal chatId with
  | some localId => rfl
  | none => cases store.getNetwork chatId <;> rfl

namespace IdMappings.Separate

/-- An elevation is kept under an id that is not one of the network's. -/
theorem getLocal_normalizeChatId (h : store.Separate) (chatId : String) :
    store.getLocal (normalizeChatId (some store) chatId) = none := by
  rw [normalizeChatId_some]
  cases hLocal : store.getLocal chatId with
  | none => exact hLocal
  | some localId =>
    have hNetwork := (h.bijective chatId localId).mpr hLocal
    rcases h.apart localId with hNone | hNone
    · exact hNone
    · rw [hNetwork] at hNone
      cases hNone

theorem resolveGroupId_normalizeChatId (h : store.Separate) (chatId : String) :
    resolveGroupId (some store) (normalizeChatId (some store) chatId) =
      resolveGroupId (some store) chatId := by
  rw [normalizeChatId_some]
  cases hLocal : store.getLocal chatId with
  | none => rfl
  | some localId =>
    have hNetwork := (h.bijective chatId localId).mpr hLocal
    have hNone : store.getNetwork chatId = none := by
      rcases h.apart chatId with hOther | hOther
      · rw [hLocal] at hOther
        cases hOther
      · exact hOther
    unfold resolveGroupId
    simp only [Option.getD_some, hNetwork, hNone, Option.getD_none]

theorem eq_of_resolveGroupId (h : store.Separate) {chatId chatId' : String}
    (hLocal : store.getLocal chatId = none) (hLocal' : store.getLocal chatId' = none)
    (hGroup : resolveGroupId (some store) chatId = resolveGroupId (some store) chatId') :
    chatId = chatId' := by
  unfold resolveGroupId at hGroup
  dsimp only at hGroup
  cases hNetwork : store.getNetwork chatId with
  | none =>
    rw [hNetwork, Option.getD_none] at hGroup
    cases hNetwork' : store.getNetwork chatId' with
    | none => rwa [hNetwork', Option.getD_none] at hGroup
    | some groupId' =>
      rw [hNetwork', Option.getD_some] at hGroup
      have hMapped := (h.bijective groupId' chatId').mp hNetwork'
      rw [← hGroup, hLocal] at hMapped
      cases hMapped
  | some groupId =>
    rw [hNetwork, Option.getD_some] at hGroup
    have hMapped := (h.bijective groupId chatId).mp hNetwork
    cases hNetwork' : store.getNetwork chatId' with
    | none =>
      rw [hNetwork', Option.getD_none] at hGroup
      rw [hGroup, hLocal'] at hMapped
      cases hMapped
    | some groupId' =>
      rw [hNetwork', Option.getD_some] at hGroup
      have hMapped' := (h.bijective groupId' chatId').mp hNetwork'
      rw [hGroup, hMapped'] at hMapped
      exact (Option.some.inj hMapped).symm

end IdMappings.Separate

def SeparateIds (idMappings : Option IdMappings) : Prop := ∀ store ∈ idMappings, store.Separate

theorem SeparateIds.resolveGroupId_normalizeChatId (h : SeparateIds idMappings)
    (chatId : String) :
    resolveGroupId idMappings (normalizeChatId idMappings chatId) =
      resolveGroupId idMappings chatId := by
  cases idMappings with
  | none => rfl
  | some store => exact (h store rfl).resolveGroupId_normalizeChatId chatId

theorem SeparateIds.normalizeChatId_inj (h : SeparateIds idMappings) {chatId chatId' : String}
    (hGroup : resolveGroupId idMappings chatId = resolveGroupId idMappings chatId') :
    normalizeChatId idMappings chatId = normalizeChatId idMappings chatId' := by
  cases idMappings with
  | none => exact hGroup
  | some store =>
    have hSeparate := h store rfl
    apply hSeparate.eq_of_resolveGroupId (hSeparate.getLocal_normalizeChatId chatId)
      (hSeparate.getLocal_normalizeChatId chatId')
    rw [hSeparate.resolveGroupId_normalizeChatId, hSeparate.resolveGroupId_normalizeChatId]
    exact hGroup

/-! ## Requests -/

/-- The actions that read messages. -/
inductive ReadMethod where
  | list
  | info
  | search
deriving DecidableEq

/-- The name of an action. -/
def ReadMethod.id : ReadMethod → String
  | .list => "message.list"
  | .info => "message.info"
  | .search => "search.messages"

/-- Validate the parameters of an action. -/
def ReadMethod.parse (world : ActionWorld) (params : AssocMap String Json) :
    ReadMethod → Except InputIssue ReadRequest
  | .list => (ListInput.parse world params).map ReadRequest.list
  | .info => (InfoInput.parse params).map ReadRequest.info
  | .search => (SearchInput.parse params).map ReadRequest.search

/-- Parameters with a member that may be left out. -/
def withMember (params : AssocMap String Json) (key : String) (value : Option Json) :
    AssocMap String Json :=
  match value with
  | none => params
  | some value => params.set key value

theorem get_withMember {params : AssocMap String Json} {key other : String}
    {value : Option Json} (hOther : other ≠ key) :
    (withMember params key value).get other = params.get other := by
  cases value with
  | none => rfl
  | some value => exact params.get_set_of_ne value hOther

/-- The validated parameters: what the schema of the action names. -/
def ReadRequest.params : ReadRequest → AssocMap String Json
  | .list input =>
    withMember (withMember (withMember (withMember
      (AssocMap.empty.set "chatId" (.string input.chatId))
      "limit" (input.limit.map Json.number)) "before" (input.before.map Json.string))
      "after" (input.after.map Json.string))
      "identityLabel" (input.identityLabel.map Json.string)
  | .info input =>
    withMember
      ((AssocMap.empty.set "chatId" (.string input.chatId)).set "messageId"
        (.string input.messageId))
      "identityLabel" (input.identityLabel.map Json.string)
  | .search input =>
    withMember (withMember (withMember
      (AssocMap.empty.set "query" (.string input.query))
      "chatId" (input.chatId.map Json.string)) "limit" (input.limit.map Json.number))
      "identityLabel" (input.identityLabel.map Json.string)

def ReadRequest.chatId : ReadRequest → Option String
  | .list input => some input.chatId
  | .info input => some input.chatId
  | .search input => input.chatId

/-- How a request of the admin comes in. -/
inductive AdminTransport where
  | socket
  /-- `handleAdminRoute` of the HTTP server. -/
  | adminRoute
  /-- `handleActionRoute` of the HTTP server, for an action that takes the admin. -/
  | actionRoute
deriving DecidableEq

structure AdminRequest where
  transport : AdminTransport
  method : ReadMethod
  params : AssocMap String Json
  adminFingerprint : String
  sessionKey : String
deriving DecidableEq

/-- The validated parameters, with the flag for dangerous reads as it came. -/
def mergeTransportControls (rawParams validatedParams : AssocMap String Json) :
    AssocMap String Json :=
  match rawParams.get "dangerouslyAllowMessageRead" with
  | some (.bool true) => validatedParams.set "dangerouslyAllowMessageRead" (.bool true)
  | some (.string "true") => validatedParams.set "dangerouslyAllowMessageRead" (.string "true")
  | _ => validatedParams

namespace AdminRequest

/-- The parameters the manager is asked with; the route of an action passes them on as they
came. -/
def elevationParams (request : AdminRequest) (validated : ReadRequest) : AssocMap String Json :=
  match request.transport with
  | .socket | .adminRoute => mergeTransportControls request.params validated.params
  | .actionRoute => request.params

/-- What the manager is asked with. -/
def input (request : AdminRequest) (validated : ReadRequest) : ResolveAdminReadElevationInput where
  method := request.method.id
  params := request.elevationParams validated
  adminFingerprint := request.adminFingerprint
  sessionKey := request.sessionKey

/-- The caller a handler sees. -/
def context (request : AdminRequest) (elevation : Option AdminReadElevation) :
    HandlerContext where
  adminAuth := some request.adminFingerprint
  adminReadElevation := elevation

/-- The messages a request shows, with what the manager has answered. -/
def shown (world : ActionWorld) (request : AdminRequest)
    (elevation : Option AdminReadElevation) : List DecodedMessage :=
  match request.method.parse world request.params with
  | .error _ => []
  | .ok validated => validated.returned world (request.context elevation)

end AdminRequest

/-- A step of the manager answers a request: without an elevation, or with one. -/
def Answers (o : Occurrence ElevationState ElevationLabel ElevationObservation)
    (input : ResolveAdminReadElevationInput) : Option AdminReadElevation → Prop
  | none => .passed input ∈ o.out
  | some elevation => ∃ request, request.input = input ∧ .resolved request (.ok elevation) ∈ o.out

/-! ## What the manager is asked with -/

variable {world : ActionWorld} {request : AdminRequest} {validated : ReadRequest}
  {elevation : Option AdminReadElevation} {message : DecodedMessage} {normalize : String → String}

theorem stringField_ok {params : AssocMap String Json} {field value : String}
    (h : stringField params field = .ok value) : params.get field = some (.string value) := by
  unfold stringField at h
  split at h
  · next found hFound =>
    cases h
    exact hFound
  · cases h

theorem optionalStringField_ok {params : AssocMap String Json} {field : String}
    {value : Option String} (h : optionalStringField params field = .ok value) :
    params.get field = value.map Json.string := by
  unfold optionalStringField at h
  split at h
  · next hNone =>
    cases h
    exact hNone
  · next found hFound =>
    cases h
    exact hFound
  · cases h

/-- Parameters that have been read field by field. -/
theorem except_bind_ok {ε α β : Type} {first : Except ε α} {next : α → Except ε β} {answer : β}
    (h : (first >>= next) = .ok answer) : ∃ value, first = .ok value ∧ next value = .ok answer := by
  cases first with
  | error error => cases h
  | ok value => exact ⟨value, rfl, h⟩

/-- Parameters that have been accepted name the chat of the request. -/
theorem parse_chatId {method : ReadMethod} {params : AssocMap String Json}
    (h : method.parse world params = .ok validated) :
    params.get "chatId" = validated.chatId.map Json.string := by
  cases method with
  | list =>
    unfold ReadMethod.parse at h
    cases hParse : ListInput.parse world params with
    | error issue => rw [hParse] at h; cases h
    | ok input =>
      rw [hParse] at h
      cases h
      obtain ⟨chatId, hChat, hRest⟩ := except_bind_ok hParse
      obtain ⟨limit, -, hRest⟩ := except_bind_ok hRest
      obtain ⟨before, -, hRest⟩ := except_bind_ok hRest
      obtain ⟨after, -, hRest⟩ := except_bind_ok hRest
      obtain ⟨identityLabel, -, hRest⟩ := except_bind_ok hRest
      cases hRest
      exact stringField_ok hChat
  | info =>
    unfold ReadMethod.parse at h
    cases hParse : InfoInput.parse params with
    | error issue => rw [hParse] at h; cases h
    | ok input =>
      rw [hParse] at h
      cases h
      obtain ⟨chatId, hChat, hRest⟩ := except_bind_ok hParse
      obtain ⟨messageId, -, hRest⟩ := except_bind_ok hRest
      obtain ⟨identityLabel, -, hRest⟩ := except_bind_ok hRest
      cases hRest
      exact stringField_ok hChat
  | search =>
    unfold ReadMethod.parse at h
    cases hParse : SearchInput.parse params with
    | error issue => rw [hParse] at h; cases h
    | ok input =>
      rw [hParse] at h
      cases h
      obtain ⟨query, -, hRest⟩ := except_bind_ok hParse
      obtain ⟨chatId, hChat, hRest⟩ := except_bind_ok hRest
      obtain ⟨limit, -, hRest⟩ := except_bind_ok hRest
      obtain ⟨identityLabel, -, hRest⟩ := except_bind_ok hRest
      cases hRest
      exact optionalStringField_ok hChat

theorem get_chatId_params :
    validated.params.get "chatId" = validated.chatId.map Json.string := by
  cases validated with
  | list input =>
    unfold ReadRequest.params
    rw [get_withMember (by decide), get_withMember (by decide), get_withMember (by decide),
      get_withMember (by decide), AssocMap.get_set_self]
    rfl
  | info input =>
    unfold ReadRequest.params
    rw [get_withMember (by decide), AssocMap.get_set_of_ne _ _ (by decide),
      AssocMap.get_set_self]
    rfl
  | search input =>
    unfold ReadRequest.params
    rw [get_withMember (by decide), get_withMember (by decide)]
    cases hChat : input.chatId with
    | none =>
      simp only [withMember, ReadRequest.chatId, hChat, Option.map_none]
      rw [AssocMap.get_set_of_ne _ _ (by decide), AssocMap.get_empty]
    | some chatId =>
      simp only [withMember, ReadRequest.chatId, hChat, Option.map_some]
      rw [AssocMap.get_set_self]

theorem get_flag_params : validated.params.get "dangerouslyAllowMessageRead" = none := by
  cases validated with
  | list input =>
    unfold ReadRequest.params
    rw [get_withMember (by decide), get_withMember (by decide), get_withMember (by decide),
      get_withMember (by decide), AssocMap.get_set_of_ne _ _ (by decide), AssocMap.get_empty]
  | info input =>
    unfold ReadRequest.params
    rw [get_withMember (by decide), AssocMap.get_set_of_ne _ _ (by decide),
      AssocMap.get_set_of_ne _ _ (by decide), AssocMap.get_empty]
  | search input =>
    unfold ReadRequest.params
    rw [get_withMember (by decide), get_withMember (by decide), get_withMember (by decide),
      AssocMap.get_set_of_ne _ _ (by decide), AssocMap.get_empty]

theorem get_chatId_mergeTransportControls {rawParams validatedParams : AssocMap String Json} :
    (mergeTransportControls rawParams validatedParams).get "chatId" =
      validatedParams.get "chatId" := by
  unfold mergeTransportControls
  split
  · exact AssocMap.get_set_of_ne _ _ (by decide)
  · exact AssocMap.get_set_of_ne _ _ (by decide)
  · rfl

theorem wants_mergeTransportControls {rawParams : AssocMap String Json}
    (h : wantsDangerousMessageRead (mergeTransportControls rawParams validated.params) = true) :
    wantsDangerousMessageRead rawParams = true := by
  unfold mergeTransportControls at h
  unfold wantsDangerousMessageRead
  split at h
  · next hFlag => simp [hFlag]
  · next hFlag => simp [hFlag]
  · simp [wantsDangerousMessageRead, get_flag_params] at h

/-- Whatever the transport, the manager is asked for the chat of the request. -/
theorem get_chatId_elevationParams
    (hParse : request.method.parse world request.params = .ok validated) :
    (request.elevationParams validated).get "chatId" = validated.chatId.map Json.string := by
  unfold AdminRequest.elevationParams
  split
  · rw [get_chatId_mergeTransportControls, get_chatId_params]
  · rw [get_chatId_mergeTransportControls, get_chatId_params]
  · exact parse_chatId hParse

/-- Whatever the transport, the manager sees a flag only where the request has it. -/
theorem wants_elevationParams
    (h : wantsDangerousMessageRead (request.elevationParams validated) = true) :
    wantsDangerousMessageRead request.params = true := by
  unfold AdminRequest.elevationParams at h
  split at h
  · exact wants_mergeTransportControls h
  · exact wants_mergeTransportControls h
  · exact h

/-! ## What the handlers have checked -/

/-- What an elevation has to meet for a message to be shown. -/
structure Covers (world : ActionWorld) (elevation : AdminReadElevation) (chatId : String)
    (message : DecodedMessage) : Prop where
  unexpired : world.now < elevation.expiresAt
  scope : resolveGroupId world.idMappings chatId ∈
    elevation.scopeChatIds.map (resolveGroupId world.idMappings)
  group : message.groupId = resolveGroupId world.idMappings chatId

theorem covers_of_authorized {elevation : AdminReadElevation} {chatId : String}
    (h : authorizeAdminReadElevation world elevation chatId = .ok ())
    (hGroup : message.groupId = resolveGroupId world.idMappings chatId) :
    Covers world elevation chatId message := by
  unfold authorizeAdminReadElevation at h
  split at h
  · cases h
  · next hLive =>
    split at h
    · next hScope => exact ⟨by omega, hScope, hGroup⟩
    · cases h

theorem covers_of_read {chatId : String}
    (h : authorizeAdminReadAccess world (request.context elevation) chatId = .ok ())
    (hGroup : message.groupId = resolveGroupId world.idMappings chatId) :
    ∃ granted, elevation = some granted ∧ Covers world granted chatId message := by
  cases elevation with
  | none => cases h
  | some granted => exact ⟨granted, rfl, covers_of_authorized h hGroup⟩

/-- A message that is shown is of the chat that the request names, and an elevation has been
granted for it. -/
theorem covers_of_shown (hLists : ListsOwnMessages world)
    (hShown : message ∈ validated.returned world (request.context elevation)) :
    ∃ granted chatId, elevation = some granted ∧ validated.chatId = some chatId ∧
      Covers world granted chatId message := by
  cases validated with
  | list input =>
    unfold ReadRequest.returned at hShown
    dsimp only at hShown
    split at hShown
    · next chatId messages hResult =>
      obtain ⟨hAdmin, -, managed, listed, hManaged, hListed, hOutput⟩ := list_ok hResult
      cases hOutput
      obtain ⟨granted, hGranted, hCovers⟩ :=
        covers_of_read hAdmin (hLists _ _ hManaged _ _ _ hListed message hShown)
      exact ⟨granted, input.chatId, hGranted, rfl, hCovers⟩
    · cases hShown
  | info input =>
    unfold ReadRequest.returned at hShown
    dsimp only at hShown
    split at hShown
    · next found hResult =>
      obtain ⟨hAdmin, -, other, hOutput, hGroup⟩ := info_ok hResult
      cases hOutput
      rw [List.mem_singleton.mp hShown]
      obtain ⟨granted, hGranted, hCovers⟩ := covers_of_read hAdmin hGroup
      exact ⟨granted, input.chatId, hGranted, rfl, hCovers⟩
    · cases hShown
  | search input =>
    unfold ReadRequest.returned at hShown
    dsimp only at hShown
    split at hShown
    · next found hResult =>
      obtain ⟨hit, hHit, rfl⟩ := List.mem_map.mp hShown
      obtain ⟨hAdmin, managed, groupId, messages, hManaged, -, hListed, hMember, hChat⟩ :=
        mem_searchFound world hResult hHit
      have hGroup := hLists _ _ hManaged _ _ _ hListed hit.message hMember
      unfold authorizeAdminSearchAccess AdminRequest.context at hAdmin
      cases hPresent : present input.chatId with
      | none =>
        rw [hPresent] at hAdmin
        cases elevation <;> cases hAdmin
      | some chatId =>
        rw [hPresent] at hAdmin
        cases elevation with
        | none => cases hAdmin
        | some granted =>
          rw [hChat chatId hPresent] at hGroup
          refine ⟨granted, chatId, rfl, ?_, covers_of_authorized hAdmin hGroup⟩
          exact (Option.filter_eq_some_iff.mp hPresent).1
    · cases hShown

/-! ## What has been approved -/

/-- The request has the flag for dangerous reads and names a chat, and an approval that has
not expired was given to its session before a step, for a chat of the group. -/
structure ReadApproved (world : ActionWorld) (approvals : List Cli.Approval)
    (request : AdminRequest) (groupId : String) : Prop where
  flag : wantsDangerousMessageRead request.params = true
  chat : ∃ chatId, resolveChatId request.params = some chatId ∧
    resolveGroupId world.idMappings chatId = groupId
  approval : ∃ approval ∈ approvals, approval.sessionKey = request.sessionKey ∧
    resolveGroupId world.idMappings approval.chatId = groupId ∧
    world.now < approval.elevation.expiresAt

theorem sessionKey_of_key {sessionKey sessionKey' chatId : String}
    (h : buildCacheKey sessionKey chatId = buildCacheKey sessionKey' chatId) :
    sessionKey = sessionKey' := by
  have hChars : sessionKey.toList ++ (':' :: chatId.toList) =
      sessionKey'.toList ++ (':' :: chatId.toList) := by
    simpa [buildCacheKey] using congrArg String.toList h
  exact String.toList_inj.mp (List.append_cancel_right hChars)

/-- What a request for an elevation has asked for. -/
theorem made_iff {request : ElevationRequest} :
    Made normalize request ↔ Cli.isMessageReadMethod request.input.method = true ∧
      wantsDangerousMessageRead request.input.params = true ∧
      ∃ chatId, resolveChatId request.input.params = some chatId ∧
        request.canonicalChatId = normalize chatId := by
  unfold Made Cli.elevationRequest
  split
  · next hAsks =>
    rw [Bool.and_eq_true] at hAsks
    constructor
    · intro h
      obtain ⟨chatId, hChat, hEq⟩ := Option.map_eq_some_iff.mp h
      refine ⟨hAsks.1, hAsks.2, chatId, hChat, ?_⟩
      rw [← hEq]
    · rintro ⟨-, -, chatId, hChat, hCanonical⟩
      rw [hChat, Option.map_some, ← hCanonical]
  · next hAsks =>
    rw [Bool.and_eq_true] at hAsks
    constructor
    · intro h
      cases h
    · rintro ⟨hMethod, hWants, -⟩
      exact absurd ⟨hMethod, hWants⟩ hAsks

variable {deps : AdminReadElevationManagerDeps} {start : Int}
  {h : List (Occurrence ElevationState ElevationLabel ElevationObservation)}
  {s : ElevationState} {o : Occurrence ElevationState ElevationLabel ElevationObservation}

/-- **What is shown to the admin was approved.**  Where no id is both a local id and one of
the network, a message that a request of a session shows is of the chat that the request
names with the flag for dangerous reads, and an approval for a chat of that group had been
given to the session and has not expired when the handler looks. -/
theorem admin_read_approved (hIds : SeparateIds world.idMappings)
    (hLists : ListsOwnMessages world) (hRun : (elevationMachine deps start).Runs h s)
    (hUses : AllMeet (UsesNormalizer (normalizeChatId world.idMappings)) h)
    (ho : o ∈ h) (hParse : request.method.parse world request.params = .ok validated)
    (hAnswer : Answers o (request.input validated) elevation)
    (hShown : message ∈ request.shown world elevation) :
    ReadApproved world o.pre.approvals request message.groupId := by
  unfold AdminRequest.shown at hShown
  rw [hParse] at hShown
  obtain ⟨granted, chatId, rfl, hChat, hCovers⟩ := covers_of_shown hLists hShown
  obtain ⟨asked, hInput, hResolved⟩ := hAnswer
  obtain ⟨hMade, cached, rfl, hOnce, hKey⟩ := Cli.elevation_origin hRun hUses ho hResolved
  obtain ⟨-, hWants, chatId', hAsked, hCanonical⟩ := made_iff.mp hMade
  rw [hInput] at hWants hAsked
  -- the manager is asked for the chat of the request
  have hParams := get_chatId_elevationParams hParse
  rw [hChat, Option.map_some] at hParams
  have hRaw := parse_chatId hParse
  rw [hChat, Option.map_some] at hRaw
  have hSame : chatId' = chatId ∧ resolveChatId request.params = some chatId := by
    unfold resolveChatId AdminRequest.input at hAsked
    dsimp only at hAsked
    rw [hParams] at hAsked
    dsimp only at hAsked
    unfold resolveChatId
    rw [hRaw]
    dsimp only
    split at hAsked
    · cases hAsked
    · next hPresent =>
      cases hAsked
      exact ⟨rfl, if_neg hPresent⟩
  obtain ⟨rfl, hRawChat⟩ := hSame
  -- the elevation is kept under the chat of the request, and so under its session
  have hScope := hCovers.scope
  rw [hOnce.scope, List.map_singleton, List.mem_singleton] at hScope
  obtain ⟨source, hSourceMade, hSource⟩ := hOnce.source
  obtain ⟨-, -, sourceChat, -, hSourceCanonical⟩ := made_iff.mp hSourceMade
  have hCachedChat : cached.chatId = normalizeChatId world.idMappings sourceChat := by
    rw [← hSource, hSourceCanonical]
  have hCanonicalChat : asked.canonicalChatId = cached.chatId := by
    rw [hCanonical, hCachedChat]
    apply hIds.normalizeChatId_inj
    rw [hScope, hCachedChat, hIds.resolveGroupId_normalizeChatId]
  have hSession : request.sessionKey = cached.sessionKey := by
    have hJoined : buildCacheKey asked.input.sessionKey cached.chatId = cached.key := by
      rw [← hKey, ← hCanonicalChat]
      rfl
    rw [hInput] at hJoined
    exact sessionKey_of_key hJoined
  refine ⟨wants_elevationParams hWants, ⟨chatId', hRawChat, hCovers.group.symm⟩, ?_⟩
  refine ⟨cached.approval, hOnce.approved, hSession.symm, ?_, hCovers.unexpired⟩
  exact hScope.symm.trans hCovers.group.symm

/-! ## Two sessions -/

def oneChatIds : IdMappings where
  getNetwork := fun localId => if localId = "chat_a" then some "group_a" else none
  getLocal := fun networkId => if networkId = "group_a" then some "chat_a" else none

/-- A mapping of two chats, in which the local id of the one is the other's id of the
network. -/
def overlappingIds : IdMappings where
  getNetwork := fun localId =>
    if localId = "chat_a" then some "group_a"
    else if localId = "one:chat_a" then some "chat_a" else none
  getLocal := fun networkId =>
    if networkId = "group_a" then some "chat_a"
    else if networkId = "chat_a" then some "one:chat_a" else none

theorem oneChatIds_separate : oneChatIds.Separate where
  bijective := by
    intro networkId localId
    simp only [oneChatIds, Option.ite_none_right_eq_some, Option.some.injEq]
    tauto
  apart := by
    intro id
    simp only [oneChatIds, ite_eq_right_iff, reduceCtorEq, imp_false]
    by_cases hId : id = "group_a"
    · exact Or.inr (by rw [hId]; decide)
    · exact Or.inl hId

theorem overlappingIds_bijective : overlappingIds.PartialBijection := by
  intro networkId localId
  unfold overlappingIds
  grind

/-- The client of one group, with a mapping. -/
def mappedWorld (ids : IdMappings) : ActionWorld :=
  { oneMessageWorld [] with
    idMappings := some ids
    now := 20 }

theorem mappedWorld_listsOwn (ids : IdMappings) : ListsOwnMessages (mappedWorld ids) :=
  oneMessageWorld_listsOwn []

/-- A request over the socket to list a chat, with the flag for dangerous reads. -/
def listRequest (sessionKey : String) (chatId : String) : AdminRequest where
  transport := .socket
  method := .list
  params := (AssocMap.empty.set "dangerouslyAllowMessageRead" (.bool true)).set "chatId"
    (.string chatId)
  adminFingerprint := "fingerprint"
  sessionKey := sessionKey

/-- All messages of a chat. -/
def listOf (chatId : String) : ReadRequest := .list ⟨chatId, none, none, none, none⟩

/-- The owner approves a request of a session. -/
def approveList (ids : IdMappings) (sessionKey chatId : String) : List ElevationLabel :=
  [⟨10, .request 1 (normalizeChatId (some ids))
      ((listRequest sessionKey chatId).input (listOf chatId))⟩,
    ⟨11, .answer 1 (.authorize (.ok ()))⟩,
    ⟨12, .answer 1 (.fingerprint (.ok "key") "approval_1")⟩,
    ⟨13, .answer 1 (.notify (.ok ()))⟩, ⟨14, .answer 1 (.audit (.ok ()))⟩]

/-- A request of a session is answered from the cache. -/
def reuseList (ids : IdMappings) (sessionKey chatId : String) : List ElevationLabel :=
  [⟨15, .request 2 (normalizeChatId (some ids))
      ((listRequest sessionKey chatId).input (listOf chatId))⟩,
    ⟨16, .answer 2 (.audit (.ok ()))⟩]

theorem approveList_isSome :
    (Cli.sampleElevationMachine.exec Cli.sampleElevationMachine.init
      (approveList oneChatIds "key" "chat_a")).isSome = true := by
  decide

theorem overlap_isSome :
    (Cli.sampleElevationMachine.exec Cli.sampleElevationMachine.init
      (approveList overlappingIds "key:one" "group_a" ++
        reuseList overlappingIds "key" "chat_a")).isSome = true := by
  decide

theorem usesNormalizer_of_labels {labels : List ElevationLabel}
    (hLabels : ∀ label ∈ labels, ∀ s, UsesNormalizer normalize s label)
    (hExec : (elevationMachine deps start).exec (elevationMachine deps start).init labels =
      some (h, s)) :
    AllMeet (UsesNormalizer normalize) h := by
  intro o ho
  apply hLabels o.label
  rw [← exec_labels hExec]
  exact List.mem_map_of_mem ho

theorem usesNormalizer_approveList (ids : IdMappings) (sessionKey chatId : String) :
    ∀ label ∈ approveList ids sessionKey chatId, ∀ s,
      UsesNormalizer (normalizeChatId (some ids)) s label := by
  intro label hMem s
  simp only [approveList, List.mem_cons, List.not_mem_nil, or_false] at hMem
  rcases hMem with rfl | rfl | rfl | rfl | rfl
  · rfl
  all_goals trivial

theorem usesNormalizer_reuseList (ids : IdMappings) (sessionKey chatId : String) :
    ∀ label ∈ reuseList ids sessionKey chatId, ∀ s,
      UsesNormalizer (normalizeChatId (some ids)) s label := by
  intro label hMem s
  simp only [reuseList, List.mem_cons, List.not_mem_nil, or_false] at hMem
  rcases hMem with rfl | rfl
  · rfl
  · trivial

def approvedElevation : AdminReadElevation := ⟨"approval_1", ["chat_a"], 12, 60012, "key"⟩

/-- The session that was approved is shown the chat. -/
theorem approved_session_reads :
    ∃ h s, Cli.sampleElevationMachine.exec Cli.sampleElevationMachine.init
        (approveList oneChatIds "key" "chat_a") = some (h, s) ∧
      ∃ o ∈ h, pastMessage ∈ (listRequest "key" "chat_a").shown (mappedWorld oneChatIds)
          (some approvedElevation) ∧
        ReadApproved (mappedWorld oneChatIds) o.pre.approvals (listRequest "key" "chat_a")
          pastMessage.groupId := by
  have hExec := exec_outcome approveList_isSome
  have hShown : pastMessage ∈ (listRequest "key" "chat_a").shown (mappedWorld oneChatIds)
      (some approvedElevation) := by decide
  have hIds : SeparateIds (mappedWorld oneChatIds).idMappings := by
    rintro _ ⟨⟩
    exact oneChatIds_separate
  have hParse : (listRequest "key" "chat_a").method.parse (mappedWorld oneChatIds)
      (listRequest "key" "chat_a").params = .ok (listOf "chat_a") := rfl
  have hUses := usesNormalizer_of_labels
    (usesNormalizer_approveList oneChatIds "key" "chat_a") hExec
  refine ⟨_, _, hExec, _, List.getLast_mem (l := (Cli.sampleElevationMachine.outcome
    Cli.sampleElevationMachine.init _ approveList_isSome).1) (by decide), hShown, ?_⟩
  refine admin_read_approved hIds (mappedWorld_listsOwn oneChatIds)
    (runs_of_exec hExec) hUses (List.getLast_mem _) hParse ?_ hShown
  exact ⟨⟨(listRequest "key" "chat_a").input (listOf "chat_a"), "chat_a"⟩, rfl,
    by decide⟩

/-- A session with no approval at all is shown a chat that was approved for another one,
under the same joined key. -/
theorem unapproved_session_reads :
    overlappingIds.PartialBijection ∧ ListsOwnMessages (mappedWorld overlappingIds) ∧
      ∃ h s, Cli.sampleElevationMachine.Runs h s ∧
        AllMeet (UsesNormalizer (normalizeChatId (some overlappingIds))) h ∧
        (∃ o ∈ h, Answers o ((listRequest "key" "chat_a").input (listOf "chat_a"))
          (some approvedElevation)) ∧
        pastMessage ∈ (listRequest "key" "chat_a").shown (mappedWorld overlappingIds)
          (some approvedElevation) ∧
        ∀ approval ∈ s.approvals, approval.sessionKey ≠ "key" := by
  have hExec := exec_outcome overlap_isSome
  refine ⟨overlappingIds_bijective, mappedWorld_listsOwn overlappingIds, _, _,
    runs_of_exec hExec, ?_, ⟨_, List.getLast_mem (l := (Cli.sampleElevationMachine.outcome
      Cli.sampleElevationMachine.init _ overlap_isSome).1) (by decide), ?_⟩,
    by decide, by decide⟩
  · refine usesNormalizer_of_labels ?_ hExec
    intro label hMem
    rcases List.mem_append.mp hMem with hFirst | hSecond
    · exact usesNormalizer_approveList _ _ _ label hFirst
    · exact usesNormalizer_reuseList _ _ _ label hSecond
  · exact ⟨⟨(listRequest "key" "chat_a").input (listOf "chat_a"), "one:chat_a"⟩, rfl,
      by decide⟩

end Actions
end Signet
