import Mathlib.Algebra.Order.Archimedean.Basic
import Mathlib.Data.Rat.Floor
import Signet.Core.IdentityRegistration
import Signet.Core.Invite
import Signet.Core.SdkClient

/-!
# Joining a conversation

An identity is registered for an invite, a request goes to the creator of the invite, and the
groups of the identity are polled until there is one.  The identity is removed again at every exit
but the last.

* `findInviteJoinErrorReply` — a rejection among the messages of the creator.
* `pollLoop`, `joinConversation` — the protocol; the fuel is spent by polls.
* `join_atomic` — a join that fails leaves the identity store as it was, and one that succeeds
  adds the row of its identity.
* `joinConversation_returns` — a join with a finite limit returns.
* `joined_invited_iff` — when the joined group is one of the creator's.
-/

namespace Signet
namespace Core
namespace JoinConversation

open Kit Schemas SdkClient IdentityRegistration

/-! ## Invites and rejections -/

/-- Parsed invite data returned by an onboarding scheme. -/
structure ParsedInvite where
  schemeId : String
  signedPayloadBytes : Bytes
  signatureBytes : Bytes
  conversationToken : Bytes
  creatorInboxId : String
  tag : String
  name : Option String := none
  description : Option String := none
  imageUrl : Option String := none
  isExpired : Bool := false
  isConversationExpired : Bool := false
  expiresAfterUse : Bool := false

inductive MemberKind where
  | human
  | agent
deriving DecidableEq

structure ProfileData where
  memberKind : MemberKind
  name : Option String

structure JoinScheme extends OnboardingScheme where
  parse : String → Except SignetError ParsedInvite
  verify : ParsedInvite → Except SignetError Unit
  encodeProfileUpdate : ProfileData → EncodedContent

inductive JsNumber where
  | finite (value : ℚ)
  | infinity
  | negativeInfinity
  | nan

/-- `attempt < limit` -/
def JsNumber.exceeds : JsNumber → Nat → Bool
  | .finite value, attempt => decide ((attempt : ℚ) < value)
  | .infinity, _ => true
  | .negativeInfinity, _ => false
  | .nan, _ => false

/-- The language and its URLs. -/
structure JoinHost where
  /-- `new URL(text)` -/
  parseUrl : String → Option ParsedUrl
  /-- `JSON.parse`; none where it throws. -/
  parseJson : String → Option Content
  toLowerCase : String → String
  timeoutError : JsNumber → JsNumber → SignetError

inductive InviteJoinErrorType where
  | conversationExpired
  | genericFailure
  | unknown
deriving DecidableEq

/-- An error type by its value; what has none of the values is unknown. -/
def InviteJoinErrorType.ofContent (content : Content) : InviteJoinErrorType :=
  match content.asString with
  | some "conversationExpired" => .conversationExpired
  | some "genericFailure" => .genericFailure
  | _ => .unknown

/-- Structured payload describing why an invite join failed. -/
structure InviteJoinError where
  errorType : InviteJoinErrorType
  inviteTag : String
deriving DecidableEq

/-- The error type and the tag of a record. -/
def inviteJoinErrorOf (record : Content) : InviteJoinError where
  errorType := InviteJoinErrorType.ofContent (record.property "errorType")
  inviteTag := ((record.property "inviteTag").asString).getD ""

/-- `key in value`; only the members of an object are looked for. -/
def hasKey (value : Content) (key : String) : Bool :=
  match value with
  | .object members => (members.lookup key).isSome
  | _ => false

section Rejections

variable (host : JoinHost)

/-- `decodeInviteJoinError`; none where it throws. -/
def decodeInviteJoinError (encoded : EncodedContent) : Option InviteJoinError :=
  match host.parseJson (textDecode encoded.content) with
  | none => none
  -- a property of `null` cannot be read
  | some .null => none
  | some parsed => some (inviteJoinErrorOf parsed)

def extractInviteJoinError (value : Content) : Option InviteJoinError :=
  if hasKey value "errorType" && hasKey value "inviteTag" && hasKey value "timestamp" then
    some (inviteJoinErrorOf value)
  else
    match isEncodedContentEnvelope value with
    | some encoded => decodeInviteJoinError host encoded
    | none => none

def isInviteJoinErrorContentType (contentType : String) : Bool :=
  contentType == "inviteJoinError" || contentType == "convos.app/inviteJoinError:1.0"
    || contentType == "convos.org/invite_join_error:1.0" || contentType == "invite_join_error"

def getInviteJoinErrorMessage (error : InviteJoinError) : String :=
  match error.errorType with
  | .conversationExpired => "This conversation is no longer available"
  | .genericFailure => "Failed to join conversation"
  | .unknown => "Failed to join conversation"

/-- The first message of the creator that rejects the invite. -/
def findInviteJoinErrorReply (messages : List XmtpDecodedMessage) (creatorInboxId : String)
    (inviteTag : String) : Option String :=
  messages.findSome? fun message =>
    if host.toLowerCase message.senderInboxId ≠ host.toLowerCase creatorInboxId then none
    else if !isInviteJoinErrorContentType message.contentType then none
    else
      match extractInviteJoinError host message.content with
      | none => none
      | some error =>
        if error.inviteTag ≠ inviteTag then none else some (getInviteJoinErrorMessage error)

/-- Extract the raw slug from an invite URL for sending as a DM join request. -/
def extractSlugForDm (input : String) : String :=
  match host.parseUrl (trimmed input) with
  | none => trimmed input
  | some url =>
    ((nonempty (url.searchParams "i")).or (nonempty (url.searchParams "code"))).getD
      (trimmed input)

end Rejections

/-! ## The client -/

structure XmtpDmInfo where
  dmId : String
  peerInboxId : String

structure XmtpGroupInfo where
  groupId : String
  name : String
  description : String := ""
  imageUrl : Option String := none
  memberInboxIds : List String
  createdAt : String := ""

structure JoinRequestContent where
  inviteSlug : String
  profile : ProfileData

inductive ListDirection where
  | ascending
  | descending
deriving DecidableEq

structure ListMessagesOptions where
  limit : Nat
  direction : ListDirection

structure PollAnswers where
  syncAll : Except SignetError Unit
  listGroups : Except SignetError (List XmtpGroupInfo)
  /-- `sendMessage` of a profile update. -/
  sendMessage : String → EncodedContent → String → Except SignetError String
  listMessages : String → ListMessagesOptions → Except SignetError (List XmtpDecodedMessage)

structure JoinClient where
  createDm : String → Except SignetError XmtpDmInfo
  /-- `sendMessage` of a join request. -/
  sendMessage : String → JoinRequestContent → String → Except SignetError String
  sendDmMessage : String → String → Except SignetError String
  poll : Nat → PollAnswers

/-- What is outside of the store during a join. -/
structure JoinWorld extends RegistrationWorld where
  /-- The signer of the identity, once it has been registered. -/
  joinSigner : String → SignerAnswers
  /-- Whether the client can be created again. -/
  recreateClient : XmtpClientCreateOptions → Except SignetError Unit
  client : JoinClient

structure JoinConversationOptions where
  label : Option String := none
  profileName : Option String := none
  pollIntervalMs : Option JsNumber := none
  maxPollAttempts : Option JsNumber := none

structure JoinResult where
  identityId : String
  inboxId : String
  groupId : String
  inviteTag : String
  groupName : Option String
  creatorInboxId : String
  profileName : Option String
  profileApplied : Bool

/-! ## The protocol -/

/-- A join whose request has been sent. -/
structure Joining where
  store : IdentityStore
  identityId : String
  inboxId : String
  invite : ParsedInvite
  dmId : String
  profileName : Option String
  pollIntervalMs : JsNumber
  maxPollAttempts : JsNumber

variable (host : JoinHost) (scheme : JoinScheme)

def joinProfile (profileName : Option String) : ProfileData := ⟨.agent, profileName⟩

/-- The poll loop; nothing where the fuel is spent before it ends. -/
def pollLoop (client : JoinClient) (joining : Joining) :
    Nat → Nat → Option (IdentityStore × Except SignetError JoinResult)
  | 0, _ => none
  | fuel + 1, attempt =>
    if joining.maxPollAttempts.exceeds attempt then
      let answers := client.poll attempt
      match answers.syncAll with
      | .error error => some (abandoned joining.store joining.identityId error)
      | .ok () =>
        match answers.listGroups with
        | .error error => some (abandoned joining.store joining.identityId error)
        | .ok (group :: _) =>
          let profileUpdate := answers.sendMessage group.groupId
            (scheme.encodeProfileUpdate (joinProfile joining.profileName))
            scheme.profileUpdateContentType
          some (joining.store, .ok
            { identityId := joining.identityId
              inboxId := joining.inboxId
              groupId := group.groupId
              inviteTag := joining.invite.tag
              groupName := (nonempty (some group.name)).or joining.invite.name
              creatorInboxId := joining.invite.creatorInboxId
              profileName := joining.profileName
              profileApplied := profileUpdate.isOk })
        | .ok [] =>
          -- the replies are looked at only where they can be listed
          let rejection := match answers.listMessages joining.dmId ⟨20, .descending⟩ with
            | .error _ => none
            | .ok messages => findInviteJoinErrorReply host messages
                joining.invite.creatorInboxId joining.invite.tag
          match rejection with
          | some message => some (abandoned joining.store joining.identityId
              (ValidationError.create "inviteUrl" message))
          | none => pollLoop client joining fuel (attempt + 1)
    else
      some (abandoned joining.store joining.identityId
        (host.timeoutError joining.maxPollAttempts joining.pollIntervalMs))

def requestJoin (config : RegistrationConfig) (world : JoinWorld) (fuel : Nat)
    (store : IdentityStore) (registered : IdentityRegistration.RegisteredIdentity)
    (invite : ParsedInvite) (inviteUrl : String) (options : JoinConversationOptions) :
    Option (IdentityStore × Except SignetError JoinResult) :=
  let identityId := registered.identityId
  let signer := world.joinSigner identityId
  match signer.getDbEncryptionKey with
  | .error error => some (abandoned store identityId error)
  | .ok dbKey =>
    match signer.getXmtpIdentityKey with
    | .error error => some (abandoned store identityId error)
    | .ok identityKey =>
      match world.recreateClient (clientOptions config identityId dbKey identityKey) with
      | .error error => some (abandoned store identityId error)
      | .ok () =>
        -- step 5: create a DM with the creator and send the join request
        match world.client.createDm invite.creatorInboxId with
        | .error error => some (abandoned store identityId error)
        | .ok dm =>
          let slug := extractSlugForDm host inviteUrl
          match world.client.sendMessage dm.dmId
              ⟨slug, joinProfile options.profileName⟩ scheme.joinRequestContentType with
          | .error error => some (abandoned store identityId error)
          | .ok _ =>
            -- what comes of the text fallback is not looked at
            let _fallback := world.client.sendDmMessage dm.dmId slug
            -- step 6: poll for groups
            pollLoop host scheme world.client
              { store := store
                identityId := identityId
                inboxId := registered.inboxId
                invite := invite
                dmId := dm.dmId
                profileName := options.profileName
                pollIntervalMs := options.pollIntervalMs.getD (.finite 2000)
                maxPollAttempts := options.maxPollAttempts.getD (.finite 30) }
              fuel 0

/-- Join a Convos conversation via an invite URL. -/
def joinConversation (config : RegistrationConfig) (world : JoinWorld) (fuel : Nat)
    (store : IdentityStore) (inviteUrl : String) (options : JoinConversationOptions) :
    Option (IdentityStore × Except SignetError JoinResult) :=
  -- step 1: parse the invite
  match scheme.parse inviteUrl with
  | .error error => some (store, .error error)
  | .ok invite =>
    -- step 2: verify its signature
    match scheme.verify invite with
    | .error error => some (store, .error error)
    | .ok () =>
      -- step 3: check expiration
      if invite.isExpired then
        some (store, .error (ValidationError.create "inviteUrl" "Invite has expired"))
      else if invite.isConversationExpired then
        some (store, .error (ValidationError.create "inviteUrl" "Conversation has expired"))
      else
        -- step 4: create a new identity for this conversation
        match registerIdentity config world.toRegistrationWorld store
            { label := options.label } with
        | (store, .error error) => some (store, .error error)
        | (store, .ok registered) =>
          requestJoin host scheme config world fuel store registered invite inviteUrl options

/-! ## What is left of a join -/

/-- The store is the one before where a join has failed; where it has succeeded, the row of its
identity has come in. -/
def Atomic (before : IdentityStore) : IdentityStore × Except SignetError JoinResult → Prop
  | (after, .error _) => after = before
  | (after, .ok joined) => Registers before after joined.identityId joined.inboxId

variable {host : JoinHost} {scheme : JoinScheme} {config : RegistrationConfig} {world : JoinWorld}

variable {after before : IdentityStore} {client : JoinClient} {options : JoinConversationOptions}
  {joining : Joining} {attempt fuel : Nat} {outcome : IdentityStore × Except SignetError JoinResult}

theorem atomic_abandoned {identityId inboxId : String}
    (h : Registers before after identityId inboxId) (error : SignetError) :
    Atomic before (abandoned after identityId error) := by
  obtain ⟨row, hExtends, rfl, -⟩ := h
  exact hExtends.remove

theorem pollLoop_atomic (h : Registers before joining.store joining.identityId joining.inboxId)
    (hLoop : pollLoop host scheme client joining fuel attempt = some outcome) :
    Atomic before outcome := by
  induction fuel generalizing attempt with
  | zero => cases hLoop
  | succ fuel ih =>
    unfold pollLoop at hLoop
    split at hLoop
    · dsimp only at hLoop
      split at hLoop
      · cases hLoop
        exact atomic_abandoned h _
      · split at hLoop
        · cases hLoop
          exact atomic_abandoned h _
        · cases hLoop
          exact h
        · split at hLoop
          · cases hLoop
            exact atomic_abandoned h _
          · exact ih hLoop
    · cases hLoop
      exact atomic_abandoned h _

theorem requestJoin_atomic {store : IdentityStore}
    {registered : IdentityRegistration.RegisteredIdentity} {invite : ParsedInvite}
    {inviteUrl : String} (h : Registers before store registered.identityId registered.inboxId)
    (hJoin : requestJoin host scheme config world fuel store registered invite inviteUrl options =
      some outcome) :
    Atomic before outcome := by
  unfold requestJoin at hJoin
  dsimp only at hJoin
  split at hJoin
  · cases hJoin
    exact atomic_abandoned h _
  · split at hJoin
    · cases hJoin
      exact atomic_abandoned h _
    · split at hJoin
      · cases hJoin
        exact atomic_abandoned h _
      · split at hJoin
        · cases hJoin
          exact atomic_abandoned h _
        · split at hJoin
          · cases hJoin
            exact atomic_abandoned h _
          · exact pollLoop_atomic h hJoin

/-- A join that fails leaves the identity store as it was, and a join that succeeds adds one row,
for the identity that is returned with the inbox that is returned. -/
theorem join_atomic {store : IdentityStore} {fuel : Nat} {inviteUrl : String}
    {options : JoinConversationOptions}
    {outcome : IdentityStore × Except SignetError JoinResult}
    (hJoin : joinConversation host scheme config world fuel store inviteUrl options =
      some outcome) :
    Atomic store outcome := by
  unfold joinConversation at hJoin
  split at hJoin
  · cases hJoin
    rfl
  · split at hJoin
    · cases hJoin
      rfl
    · split at hJoin
      · cases hJoin
        rfl
      · split at hJoin
        · cases hJoin
          rfl
        · rcases registerIdentity_registers config world.toRegistrationWorld store
            { label := options.label } with
            ⟨error, hRegister⟩ | ⟨after, registered, hRegister, hRegisters⟩
          · rw [hRegister] at hJoin
            cases hJoin
            rfl
          · rw [hRegister] at hJoin
            exact requestJoin_atomic hRegisters hJoin

/-! ## The end of the loop -/

/-- A loop whose limit is reached returns. -/
theorem pollLoop_isSome {last : Nat} (hLast : joining.maxPollAttempts.exceeds last = false)
    (hFuel : attempt + fuel = last + 1) (hAttempt : attempt ≤ last) :
    (pollLoop host scheme client joining fuel attempt).isSome = true := by
  induction fuel generalizing attempt with
  | zero => omega
  | succ fuel ih =>
    unfold pollLoop
    split
    · next hMore =>
      have hBefore : attempt ≠ last := by
        rintro rfl
        rw [hLast] at hMore
        cases hMore
      have hNext : (pollLoop host scheme client joining fuel (attempt + 1)).isSome = true :=
        ih (by omega) (by omega)
      dsimp only
      split
      · rfl
      · split
        · rfl
        · rfl
        · split
          · rfl
          · exact hNext
    · rfl

/-- Every limit but infinity is reached. -/
theorem exists_not_exceeds {limit : JsNumber} (hLimit : limit ≠ .infinity) :
    ∃ last, limit.exceeds last = false := by
  cases limit with
  | finite value =>
    obtain ⟨last, hLast⟩ := exists_nat_ge value
    exact ⟨last, decide_eq_false (not_lt.mpr hLast)⟩
  | infinity => exact absurd rfl hLimit
  | negativeInfinity => exact ⟨0, rfl⟩
  | nan => exact ⟨0, rfl⟩

structure FirstListing (client : JoinClient) (attempt : Nat) (groups : List XmtpGroupInfo) :
    Prop where
  listed : (client.poll attempt).listGroups = .ok groups
  nonempty : groups ≠ []
  before : ∀ earlier < attempt, (client.poll earlier).listGroups = .ok []

theorem FirstListing.unique {attempt' : Nat} {groups groups' : List XmtpGroupInfo}
    (h : FirstListing client attempt groups) (h' : FirstListing client attempt' groups') :
    groups = groups' := by
  have hAttempt : attempt = attempt' := by
    by_contra hNe
    rcases Nat.lt_or_gt_of_ne hNe with hLt | hGt
    · have hNone := h'.before attempt hLt
      rw [h.listed] at hNone
      cases hNone
      exact h.nonempty rfl
    · have hNone := h.before attempt' hGt
      rw [h'.listed] at hNone
      cases hNone
      exact h'.nonempty rfl
  have hListed := h.listed
  rw [hAttempt, h'.listed] at hListed
  cases hListed
  rfl

/-- The first poll that lists groups lists one with an id, and with a member. -/
def ListedWith (client : JoinClient) (groupId creatorInboxId : String) : Prop :=
  ∃ attempt groups, FirstListing client attempt groups ∧
    ∃ group ∈ groups, group.groupId = groupId ∧ creatorInboxId ∈ group.memberInboxIds

def FirstGroupHas (client : JoinClient) (creatorInboxId : String) : Prop :=
  ∃ attempt first rest, FirstListing client attempt (first :: rest) ∧
    ∃ group ∈ first :: rest, group.groupId = first.groupId ∧
      creatorInboxId ∈ group.memberInboxIds

theorem pollLoop_ok {joined : JoinResult}
    (hLoop : pollLoop host scheme client joining fuel attempt = some (after, .ok joined))
    (hBefore : ∀ earlier < attempt, (client.poll earlier).listGroups = .ok []) :
    ∃ last first rest, FirstListing client last (first :: rest) ∧
      joined.groupId = first.groupId := by
  induction fuel generalizing attempt with
  | zero => cases hLoop
  | succ fuel ih =>
    unfold pollLoop at hLoop
    split at hLoop
    · dsimp only at hLoop
      split at hLoop
      · cases hLoop
      · split at hLoop
        · cases hLoop
        · next group rest hGroups =>
          cases hLoop
          exact ⟨attempt, group, rest, ⟨hGroups, List.cons_ne_nil _ _, hBefore⟩, rfl⟩
        · next hNone =>
          split at hLoop
          · cases hLoop
          · apply ih hLoop
            intro earlier hEarlier
            rcases Nat.lt_succ_iff_lt_or_eq.mp hEarlier with hLt | rfl
            · exact hBefore earlier hLt
            · exact hNone
    · cases hLoop

theorem joinConversation_ok {store : IdentityStore} {inviteUrl : String} {joined : JoinResult}
    (hJoin : joinConversation host scheme config world fuel store inviteUrl options =
      some (after, .ok joined)) :
    ∃ last first rest, FirstListing world.client last (first :: rest) ∧
      joined.groupId = first.groupId := by
  unfold joinConversation at hJoin
  split at hJoin
  · cases hJoin
  · split at hJoin
    · cases hJoin
    · split at hJoin
      · cases hJoin
      · split at hJoin
        · cases hJoin
        · split at hJoin
          · cases hJoin
          · unfold requestJoin at hJoin
            dsimp only at hJoin
            split at hJoin
            · cases hJoin
            · split at hJoin
              · cases hJoin
              · split at hJoin
                · cases hJoin
                · split at hJoin
                  · cases hJoin
                  · split at hJoin
                    · cases hJoin
                    · exact pollLoop_ok hJoin fun earlier hEarlier =>
                        absurd hEarlier (Nat.not_lt_zero _)

/-- The group of a join has the creator of the invite among its members. -/
def LandsInvited (scheme : JoinScheme) (client : JoinClient) (inviteUrl : String)
    (joined : JoinResult) : Prop :=
  ∃ invite, scheme.parse inviteUrl = .ok invite ∧
    ListedWith client joined.groupId invite.creatorInboxId

/-- The group that is listed first has the creator of the invite among its members. -/
def FirstGroupInvited (scheme : JoinScheme) (client : JoinClient) (inviteUrl : String) : Prop :=
  ∃ invite, scheme.parse inviteUrl = .ok invite ∧ FirstGroupHas client invite.creatorInboxId

/-- A join that succeeds lands in a group of the creator's exactly when the group that is listed
first is one. -/
theorem joined_invited_iff {store after : IdentityStore} {fuel : Nat} {inviteUrl : String}
    {options : JoinConversationOptions} {joined : JoinResult}
    (hJoin : joinConversation host scheme config world fuel store inviteUrl options =
      some (after, .ok joined)) :
    LandsInvited scheme world.client inviteUrl joined ↔
      FirstGroupInvited scheme world.client inviteUrl := by
  obtain ⟨last, first, rest, hFirst, hSame⟩ := joinConversation_ok hJoin
  apply exists_congr
  intro invite
  apply and_congr_right
  intro _
  constructor
  · rintro ⟨attempt, groups, hListing, group, hMem, hGroup, hCreator⟩
    obtain rfl := hListing.unique hFirst
    exact ⟨last, first, rest, hFirst, group, hMem, hGroup.trans hSame, hCreator⟩
  · rintro ⟨attempt, first', rest', hListing, group, hMem, hGroup, hCreator⟩
    have hGroups := hListing.unique hFirst
    cases hGroups
    exact ⟨last, first :: rest, hFirst, group, hMem, hGroup.trans hSame.symm, hCreator⟩

/-! ## Samples -/

def sampleJoinHost : JoinHost where
  parseUrl := fun _ => none
  parseJson := fun _ => none
  toLowerCase := id
  timeoutError := fun _ _ => TimeoutError.create "joinConversation" 60000

/-- An invite of the inbox "net_c" with its slug as its token. -/
def sampleInvite (slug : String) : ParsedInvite where
  schemeId := "convos"
  signedPayloadBytes := []
  signatureBytes := []
  conversationToken := textEncode slug
  creatorInboxId := "net_c"
  tag := "tag"

def sampleScheme : JoinScheme where
  toOnboardingScheme := convosOnboardingScheme
  parse := fun slug => .ok (sampleInvite slug)
  verify := fun _ => .ok ()
  encodeProfileUpdate := fun _ =>
    { type := ⟨"convos.org", "profile_update", some 1, some 0⟩, content := [] }

def sampleConfig : RegistrationConfig := ⟨":memory:", "dev", "signet"⟩

/-- A client that is told of groups by every poll. -/
def listingClient (groups : List XmtpGroupInfo) : JoinClient where
  createDm := fun peerInboxId => .ok ⟨"dm", peerInboxId⟩
  sendMessage := fun _ _ _ => .ok "message_1"
  sendDmMessage := fun _ _ => .ok "message_2"
  poll := fun _ =>
    { syncAll := .ok ()
      listGroups := .ok groups
      sendMessage := fun _ _ _ => .ok "message_3"
      listMessages := fun _ _ => .ok [] }

def listingWorld (groups : List XmtpGroupInfo) : JoinWorld where
  drawn := ⟨"inbox_0123456789abcdef", 0, none⟩
  signerProviderFactory := fun _ => ⟨.ok [], .ok "0x01"⟩
  addressOf := id
  createClient := fun _ => .ok "net_j"
  joinSigner := fun _ => ⟨.ok [], .ok "0x01"⟩
  recreateClient := fun _ => .ok ()
  client := listingClient groups

def noIdentities : IdentityStore := ⟨[], true, List.nodup_nil, List.nodup_nil⟩

/-- The group of the invite, and one of somebody else's. -/
def invitedGroup : XmtpGroupInfo :=
  { groupId := "group_c", name := "", memberInboxIds := ["net_c", "net_j"] }

def foreignGroup : XmtpGroupInfo :=
  { groupId := "group_x", name := "", memberInboxIds := ["net_x", "net_j"] }

/-- The join of a slug where every poll lists the same groups. -/
def sampleJoin (groups : List XmtpGroupInfo) :
    Option (IdentityStore × Except SignetError JoinResult) :=
  joinConversation sampleJoinHost sampleScheme sampleConfig (listingWorld groups) 1 noIdentities
    "slug" {}

def sampleJoined (group : XmtpGroupInfo) : JoinResult :=
  ⟨"inbox_0123456789abcdef", "net_j", group.groupId, "tag", (nonempty (some group.name)).or none,
    "net_c", none, true⟩

theorem sampleJoin_returns (group : XmtpGroupInfo) (rest : List XmtpGroupInfo) :
    ∃ after, sampleJoin (group :: rest) = some (after, .ok (sampleJoined group)) :=
  ⟨_, rfl⟩

theorem invited_join_atomic :
    ∃ after, sampleJoin [invitedGroup] = some (after, .ok (sampleJoined invitedGroup)) ∧
      Atomic noIdentities (after, .ok (sampleJoined invitedGroup)) := by
  obtain ⟨after, hJoin⟩ := sampleJoin_returns invitedGroup []
  exact ⟨after, hJoin, join_atomic hJoin⟩

theorem invited_join_lands :
    ∃ after, sampleJoin [invitedGroup] = some (after, .ok (sampleJoined invitedGroup)) ∧
      (LandsInvited sampleScheme (listingClient [invitedGroup]) "slug"
          (sampleJoined invitedGroup) ↔
        FirstGroupInvited sampleScheme (listingClient [invitedGroup]) "slug") := by
  obtain ⟨after, hJoin⟩ := sampleJoin_returns invitedGroup []
  exact ⟨after, hJoin, joined_invited_iff hJoin⟩

/-- A group of somebody else's that is listed before the creator's is what is joined. -/
theorem foreign_group_joined :
    ∃ after joined, sampleJoin [foreignGroup, invitedGroup] = some (after, .ok joined) ∧
      ¬ LandsInvited sampleScheme (listingClient [foreignGroup, invitedGroup]) "slug" joined := by
  obtain ⟨after, hJoin⟩ := sampleJoin_returns foreignGroup [invitedGroup]
  refine ⟨after, _, hJoin, ?_⟩
  rintro ⟨invite, hParse, attempt, groups, hListing, group, hMem, hGroup, hCreator⟩
  cases hParse
  have hListed := hListing.listed
  cases hListed
  rw [List.mem_cons, List.mem_singleton] at hMem
  rcases hMem with rfl | rfl
  · revert hCreator
    decide
  · revert hGroup
    decide

end JoinConversation
end Core
end Signet
