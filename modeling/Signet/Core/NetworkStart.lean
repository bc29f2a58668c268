import Signet.Core.ClientRegistry

/-!
# Starting a core on the network

A start hydrates the stored identities one after the other: keys, client, inbox id,
sync, groups and three streams.  A start that fails aborts every stream, forgets every
client and goes back to the state it came from.

* `hydrateIdentity`, `hydrateAll`, `start` — the call, with what its awaits answer.
* `SameAsBefore` — the clients, the open streams, the timers and the store are as before.
* `NothingToLose` — no client is there to be forgotten, and no inbox id comes to be stored.
* `failed_start_noop_iff` — a failed start changes nothing exactly then.
-/

namespace Signet
namespace Core

open Kit Schemas

/-! ## The call -/

structure HydrationAnswers where
  dbEncryptionKey : Settled Unit := .ok ()
  xmtpIdentityKey : Settled Unit := .ok ()
  /-- A client, by its inbox id. -/
  client : Settled String
  syncAll : Settled Unit := .ok ()
  listGroups : Settled (List String) := .ok []
  streamAllMessages : Settled Unit := .ok ()
  streamGroups : Settled Unit := .ok ()
  streamDms : Settled Unit := .ok ()

structure StartAnswers where
  /-- The listing of the identities returns, or throws. -/
  listed : Settled Unit := .ok ()
  hydration : String → HydrationAnswers

/-- A core after some awaits, and how they have ended. -/
abbrev Awaited (α : Type) := CoreRuntime × Settled α

/-- Go on with the value of an await. -/
def Settled.andThen {α β : Type} (answer : Settled α) (core : CoreRuntime)
    (next : α → Awaited β) : Awaited β :=
  match answer with
  | .ok value => next value
  | .error failure => (core, .error failure)
  | .thrown cause => (core, .thrown cause)

/-- An error that is given another text. -/
def Settled.orFail {α : Type} (answer : Settled α) (message : String) : Settled α :=
  match answer with
  | .ok value => .ok value
  | .error _ => .error (InternalError.create message)
  | .thrown cause => .thrown cause

namespace CoreRuntime

def storeInboxId (core : CoreRuntime) (identityId inboxId : String) : Awaited Unit :=
  let written := core.identityStore.setInboxId identityId inboxId
  match written.2 with
  | .ok () => ({ core with identityStore := written.1 }, .ok ())
  | .error _ =>
    ({ core with identityStore := written.1 },
      .error (InternalError.create "Failed to persist inbox ID"
        (some [("identityId", .text identityId), ("inboxId", .text inboxId)])))

/-- The client as the registry has it from now on. -/
def keepClient (core : CoreRuntime) (managed : GroupClient) : CoreRuntime :=
  { core with registry := core.registry.register managed }

/-- `registry.register`, in the states that take a client. -/
def registerClient (core : CoreRuntime) (managed : GroupClient) : CoreRuntime :=
  if core.lifecycle = .running ∨ core.lifecycle = .starting ∨ core.lifecycle = .localOnly then
    core.keepClient managed
  else core

def openStream (core : CoreRuntime) (identityId : String) (kind : StreamKind) : CoreRuntime :=
  { core with streamTable := core.streamTable.openStream identityId kind }

/-- Sync, groups and streams of a client that has been registered. -/
def connectClient (core : CoreRuntime) (answers : HydrationAnswers) (managed : GroupClient) :
    Awaited GroupClient :=
  answers.syncAll.andThen core fun _ =>
  answers.listGroups.andThen core fun groups =>
  let joined := { managed with groupIds := groups.foldl OrderedSet.add managed.groupIds }
  let listed := core.keepClient joined
  answers.streamAllMessages.andThen listed fun _ =>
  let heard := listed.openStream managed.identityId .messages
  answers.streamGroups.andThen heard fun _ =>
  let grouped := heard.openStream managed.identityId .groups
  answers.streamDms.andThen grouped fun _ =>
  (grouped.openStream managed.identityId .dms, .ok joined)

/-- `#hydrateIdentity`, once there is a client. -/
def hydrateClient (core : CoreRuntime) (answers : HydrationAnswers) (identity : IdentityRow)
    (inboxId : String) : Awaited GroupClient :=
  let managed : GroupClient :=
    ⟨⟨identity.id, inboxId⟩, .ofList (identity.groupId.filter fun id => id ≠ "").toList⟩
  let registered := core.registerClient managed
  if registered.lifecycle = .running ∨ registered.lifecycle = .starting then
    registered.connectClient answers managed
  else (registered, .ok managed)

/-- `#hydrateIdentity` -/
def hydrateIdentity (core : CoreRuntime) (answers : HydrationAnswers)
    (registerNetworkIdentity : Bool) (identity : IdentityRow) : Awaited GroupClient :=
  (answers.dbEncryptionKey.orFail "Failed to get DB encryption key for identity").andThen core
    fun _ =>
  (answers.xmtpIdentityKey.orFail "Failed to get XMTP identity key for identity").andThen core
    fun _ =>
  answers.client.andThen core fun inboxId =>
  if registerNetworkIdentity ∨ identity.inboxId = none then
    let stored := core.storeInboxId identity.id inboxId
    stored.2.andThen stored.1 fun _ => stored.1.hydrateClient answers identity inboxId
  else core.hydrateClient answers identity inboxId

/-- The loop of `start` over the identities. -/
def hydrateAll (answers : StartAnswers) : CoreRuntime → List IdentityRow → Awaited Unit
  | core, [] => (core, .ok ())
  | core, identity :: remaining =>
    let hydrated := core.hydrateIdentity (answers.hydration identity.id) false identity
    hydrated.2.andThen hydrated.1 fun _ => hydrateAll answers hydrated.1 remaining

/-- A start up to the end of the loop. -/
def hydrateStored (core : CoreRuntime) (answers : StartAnswers) : Awaited Unit :=
  let starting := { core with lifecycle := .starting }
  answers.listed.andThen starting fun _ => hydrateAll answers starting core.identityStore.list

/-- `failStart` -/
def failStart (core : CoreRuntime) (fallback : SignetState) (error : SignetError) :
    CoreRuntime × Except SignetError Unit :=
  ({ core.resetStartupArtifacts with lifecycle := fallback }, .error error)

/-- What `start` makes of a thrown cause. -/
def unexpected (cause : String) : SignetError :=
  InternalError.create "Unexpected error during startup" (some [("cause", .text cause)])

/-- `#startHeartbeat` -/
def startHeartbeat (core : CoreRuntime) : CoreRuntime :=
  { core with heartbeatTimer := true, livenessTimer := true }

def start (core : CoreRuntime) (answers : StartAnswers) :
    CoreRuntime × Except SignetError Unit :=
  if core.lifecycle ≠ .idle ∧ core.lifecycle ≠ .localOnly then
    (core, .error (ValidationError.create "state"
      ("Cannot start from '" ++ core.lifecycle.text
        ++ "' state (expected 'idle' or 'local')")))
  else
    let fallback := if core.lifecycle = .localOnly then .localOnly else .error
    let hydrated := core.hydrateStored answers
    match hydrated.2 with
    | .ok () => ({ hydrated.1.startHeartbeat with lifecycle := .running }, .ok ())
    | .error error => hydrated.1.failStart fallback error
    | .thrown cause => hydrated.1.failStart fallback (unexpected cause)

end CoreRuntime

/-! ## What a hydration leaves -/

/-- A hydration has added streams only, and has stored nothing else than inbox ids. -/
structure Extends (core core' : CoreRuntime) : Prop where
  streams : ∃ added, core'.streamTable.streams = core.streamTable.streams ++ added ∧
    core'.streamTable.opened = core.streamTable.opened ++ added ∧
    ∀ stream ∈ added, core.streamTable.handles ≤ stream.handle
  handles : core.streamTable.handles ≤ core'.streamTable.handles
  lifecycle : core'.lifecycle = core.lifecycle

namespace Extends

theorem refl (core : CoreRuntime) : Extends core core :=
  ⟨⟨[], by simp⟩, Nat.le_refl _, rfl⟩

variable {core' : CoreRuntime} {core : CoreRuntime}

/-- Clients, stored ids and timers make no difference. -/
theorem of_same (hTable : core'.streamTable = core.streamTable)
    (hLifecycle : core'.lifecycle = core.lifecycle) : Extends core core' := by
  refine ⟨⟨[], ?_⟩, ?_, hLifecycle⟩
  · simp [hTable]
  · rw [hTable]

theorem openStream (core : CoreRuntime) (identityId : String) (kind : StreamKind) :
    Extends core (core.openStream identityId kind) := by
  refine ⟨⟨[⟨identityId, kind, core.streamTable.handles⟩], rfl, rfl, ?_⟩, Nat.le_succ _, rfl⟩
  intro stream hMem
  rw [List.mem_singleton.mp hMem]

theorem trans {core'' : CoreRuntime} (h : Extends core core') (h' : Extends core' core'') :
    Extends core core'' := by
  obtain ⟨⟨added, hStreams, hOpened, hNew⟩, hHandles, hLifecycle⟩ := h
  obtain ⟨⟨added', hStreams', hOpened', hNew'⟩, hHandles', hLifecycle'⟩ := h'
  refine ⟨⟨added ++ added', ?_, ?_, ?_⟩, Nat.le_trans hHandles hHandles',
    hLifecycle'.trans hLifecycle⟩
  · rw [hStreams', hStreams, List.append_assoc]
  · rw [hOpened', hOpened, List.append_assoc]
  · intro stream hMem
    rcases List.mem_append.mp hMem with hOld | hLater
    · exact hNew stream hOld
    · exact Nat.le_trans hHandles (hNew' stream hLater)

theorem thenOpen (h : Extends core core') (identityId : String) (kind : StreamKind) :
    Extends core (core'.openStream identityId kind) :=
  h.trans (openStream core' identityId kind)

/-- An await adds nothing by itself. -/
theorem andThen {α β : Type} {before : CoreRuntime} {answer : Settled α} {next : α → Awaited β}
    (h : Extends core before) (hNext : ∀ value, answer = .ok value → Extends core (next value).1) :
    Extends core (answer.andThen before next).1 := by
  cases answer with
  | ok value => exact hNext value rfl
  | error failure => exact h
  | thrown cause => exact h

end Extends

section

variable (core : CoreRuntime)

theorem extends_keepClient (managed : GroupClient) :
    Extends core (core.keepClient managed) := .of_same rfl rfl

theorem extends_connectClient (answers : HydrationAnswers) (managed : GroupClient) :
    Extends core (core.connectClient answers managed).1 := by
  unfold CoreRuntime.connectClient
  refine .andThen (.refl core) fun _ _ => ?_
  refine .andThen (.refl core) fun groups _ => ?_
  have hListed := extends_keepClient core
    { managed with groupIds := groups.foldl OrderedSet.add managed.groupIds }
  have hHeard := hListed.thenOpen managed.identityId .messages
  have hGrouped := hHeard.thenOpen managed.identityId .groups
  refine .andThen hListed fun _ _ => ?_
  refine .andThen hHeard fun _ _ => ?_
  refine .andThen hGrouped fun _ _ => ?_
  exact hGrouped.thenOpen managed.identityId .dms

theorem extends_registerClient (managed : GroupClient) :
    Extends core (core.registerClient managed) := by
  unfold CoreRuntime.registerClient
  split
  · exact extends_keepClient core managed
  · exact .refl core

theorem extends_hydrateClient (answers : HydrationAnswers) (identity : IdentityRow)
    (inboxId : String) :
    Extends core (core.hydrateClient answers identity inboxId).1 := by
  unfold CoreRuntime.hydrateClient
  dsimp only
  split
  · exact (extends_registerClient core _).trans (extends_connectClient _ answers _)
  · exact extends_registerClient core _

theorem extends_storeInboxId (identityId inboxId : String) :
    Extends core (core.storeInboxId identityId inboxId).1 := by
  unfold CoreRuntime.storeInboxId
  dsimp only
  split
  · exact .of_same rfl rfl
  · exact .of_same rfl rfl

theorem extends_hydrateIdentity (answers : HydrationAnswers) (registerNetworkIdentity : Bool)
    (identity : IdentityRow) :
    Extends core (core.hydrateIdentity answers registerNetworkIdentity identity).1 := by
  unfold CoreRuntime.hydrateIdentity
  refine .andThen (.refl core) fun _ _ => ?_
  refine .andThen (.refl core) fun _ _ => ?_
  refine .andThen (.refl core) fun inboxId _ => ?_
  split
  · have hStored := extends_storeInboxId core identity.id inboxId
    refine .andThen hStored fun _ _ => ?_
    exact hStored.trans (extends_hydrateClient _ answers identity inboxId)
  · exact extends_hydrateClient core answers identity inboxId

end

theorem extends_hydrateAll (answers : StartAnswers) (core : CoreRuntime)
    (identities : List IdentityRow) : Extends core (core.hydrateAll answers identities).1 := by
  induction identities generalizing core with
  | nil => exact .refl core
  | cons identity remaining ih =>
    unfold CoreRuntime.hydrateAll
    have hHydrated := extends_hydrateIdentity core (answers.hydration identity.id) false identity
    exact .andThen hHydrated fun _ _ => hHydrated.trans (ih _)

/-! ## What is stored -/

def HydrationAnswers.inboxOfClient (answers : HydrationAnswers) : Option String :=
  match answers.dbEncryptionKey, answers.xmtpIdentityKey, answers.client with
  | .ok (), .ok (), .ok inboxId => some inboxId
  | _, _, _ => none

def Settled.isOk {α : Type} : Settled α → Bool
  | .ok _ => true
  | .error _ | .thrown _ => false

/-- The client is created, and what is asked of it is answered. -/
def HydrationAnswers.hydrates (answers : HydrationAnswers) : Bool :=
  answers.inboxOfClient.isSome && answers.syncAll.isOk && answers.listGroups.isOk
    && answers.streamAllMessages.isOk && answers.streamGroups.isOk && answers.streamDms.isOk

section

variable (core : CoreRuntime)

theorem connectClient_identityStore (answers : HydrationAnswers) (managed : GroupClient) :
    (core.connectClient answers managed).1.identityStore = core.identityStore := by
  unfold CoreRuntime.connectClient
  cases answers.syncAll <;> try rfl
  cases answers.listGroups <;> try rfl
  cases answers.streamAllMessages <;> try rfl
  cases answers.streamGroups <;> try rfl
  cases answers.streamDms <;> rfl

theorem hydrateClient_identityStore (answers : HydrationAnswers) (identity : IdentityRow)
    (inboxId : String) :
    (core.hydrateClient answers identity inboxId).1.identityStore = core.identityStore := by
  have hRegister : ∀ managed, (core.registerClient managed).identityStore = core.identityStore := by
    intro managed
    unfold CoreRuntime.registerClient
    split <;> rfl
  unfold CoreRuntime.hydrateClient
  dsimp only
  split
  · rw [connectClient_identityStore, hRegister]
  · exact hRegister _

theorem storeInboxId_cases (identityId inboxId : String) :
    core.storeInboxId identityId inboxId =
        ({ core with identityStore := core.identityStore.updateInboxId identityId inboxId },
          .ok ()) ∨
      ∃ failure, core.storeInboxId identityId inboxId = (core, .error failure) := by
  unfold CoreRuntime.storeInboxId IdentityStore.setInboxId
  cases core.identityStore.getById identityId with
  | none => exact Or.inr ⟨_, rfl⟩
  | some row =>
    dsimp only
    cases core.identityStore.takesInboxId identityId inboxId with
    | true => exact Or.inl rfl
    | false => exact Or.inr ⟨_, rfl⟩

theorem hydrateIdentity_stores (answers : HydrationAnswers) (registerNetworkIdentity : Bool)
    (identity : IdentityRow) :
    (core.hydrateIdentity answers registerNetworkIdentity identity).1.identityStore =
        core.identityStore ∨
      ∃ id inboxId, (core.hydrateIdentity answers registerNetworkIdentity identity).1.identityStore
        = core.identityStore.updateInboxId id inboxId := by
  unfold CoreRuntime.hydrateIdentity
  cases answers.dbEncryptionKey with
  | error failure => exact Or.inl rfl
  | thrown cause => exact Or.inl rfl
  | ok _ =>
  cases answers.xmtpIdentityKey with
  | error failure => exact Or.inl rfl
  | thrown cause => exact Or.inl rfl
  | ok _ =>
  cases answers.client with
  | error failure => exact Or.inl rfl
  | thrown cause => exact Or.inl rfl
  | ok inboxId =>
  simp only [Settled.orFail, Settled.andThen]
  split
  · rcases storeInboxId_cases core identity.id inboxId with hStored | ⟨failure, hStored⟩
    · rw [hStored]
      exact Or.inr ⟨identity.id, inboxId, hydrateClient_identityStore _ answers identity inboxId⟩
    · rw [hStored]
      exact Or.inl rfl
  · exact Or.inl (hydrateClient_identityStore core answers identity inboxId)

end

def HasInbox (store : IdentityStore) (id : String) : Prop :=
  ∃ row ∈ store.rows, row.id = id ∧ row.inboxId.isSome = true

theorem hasInbox_updateInboxId {store : IdentityStore} {id : String} (id' inboxId : String)
    (h : HasInbox store id) : HasInbox (store.updateInboxId id' inboxId) id := by
  obtain ⟨row, hRow, hId, hInbox⟩ := h
  refine ⟨IdentityStore.writeInboxId id' inboxId row, List.mem_map.mpr ⟨row, hRow, rfl⟩, ?_, ?_⟩
  · rw [IdentityStore.writeInboxId_id, hId]
  · unfold IdentityStore.writeInboxId
    split
    · rfl
    · exact hInbox

theorem hasInbox_hydrateAll {id : String} (answers : StartAnswers) (core : CoreRuntime)
    (identities : List IdentityRow) (h : HasInbox core.identityStore id) :
    HasInbox (core.hydrateAll answers identities).1.identityStore id := by
  induction identities generalizing core with
  | nil => exact h
  | cons identity remaining ih =>
    have hHydrated : HasInbox (core.hydrateIdentity (answers.hydration identity.id) false
        identity).1.identityStore id := by
      rcases hydrateIdentity_stores core (answers.hydration identity.id) false identity with
        hSame | ⟨id', inboxId, hWritten⟩
      · rw [hSame]
        exact h
      · rw [hWritten]
        exact hasInbox_updateInboxId id' inboxId h
    unfold CoreRuntime.hydrateAll
    cases hResult : (core.hydrateIdentity (answers.hydration identity.id) false identity).2 with
    | ok value =>
      simp only [hResult, Settled.andThen]
      exact ih _ hHydrated
    | error failure =>
      simp only [hResult, Settled.andThen]
      exact hHydrated
    | thrown cause =>
      simp only [hResult, Settled.andThen]
      exact hHydrated

/-! ## The identities a start comes to -/

/-- A client is created for an identity that has no inbox id, and the store takes the id of
its inbox. -/
def StoresInbox (store : IdentityStore) (answers : StartAnswers) (identity : IdentityRow) :
    Prop :=
  identity.inboxId = none ∧ ∃ inboxId,
    (answers.hydration identity.id).inboxOfClient = some inboxId ∧
      store.takesInboxId identity.id inboxId = true

/-- The identity has an inbox id, and its hydration goes through. -/
def HydratesStored (answers : StartAnswers) (identity : IdentityRow) : Prop :=
  identity.inboxId.isSome = true ∧ (answers.hydration identity.id).hydrates = true

variable {answers : StartAnswers} {core : CoreRuntime} {identity : IdentityRow}

theorem connectClient_isOk (core : CoreRuntime) (answers : HydrationAnswers)
    (managed : GroupClient) :
    (core.connectClient answers managed).2.isOk =
      (answers.syncAll.isOk && answers.listGroups.isOk && answers.streamAllMessages.isOk
        && answers.streamGroups.isOk && answers.streamDms.isOk) := by
  unfold CoreRuntime.connectClient
  cases answers.syncAll <;> try rfl
  cases answers.listGroups <;> try rfl
  cases answers.streamAllMessages <;> try rfl
  cases answers.streamGroups <;> try rfl
  cases answers.streamDms <;> rfl

theorem hydrateClient_isOk (answers : HydrationAnswers) (inboxId : String)
    (hStarting : core.lifecycle = .starting) :
    (core.hydrateClient answers identity inboxId).2.isOk =
      (answers.syncAll.isOk && answers.listGroups.isOk && answers.streamAllMessages.isOk
        && answers.streamGroups.isOk && answers.streamDms.isOk) := by
  have hRegister : ∀ managed, (core.registerClient managed).lifecycle = .starting := by
    intro managed
    rw [(extends_registerClient core managed).lifecycle, hStarting]
  simp only [CoreRuntime.hydrateClient, hRegister, or_true, if_true]
  exact connectClient_isOk _ answers _

/-- A hydration that stores no inbox id goes through when the identity has one and
everything is answered. -/
theorem hydrateIdentity_of_not_stores (hStarting : core.lifecycle = .starting)
    (hMem : identity ∈ core.identityStore.rows)
    (hNot : ¬ StoresInbox core.identityStore answers identity) :
    (core.hydrateIdentity (answers.hydration identity.id) false identity).1.identityStore =
        core.identityStore ∧
      ((core.hydrateIdentity (answers.hydration identity.id) false identity).2.isOk = true ↔
        HydratesStored answers identity) := by
  unfold StoresInbox at hNot
  unfold HydratesStored HydrationAnswers.hydrates
  generalize answers.hydration identity.id = given at hNot ⊢
  unfold CoreRuntime.hydrateIdentity HydrationAnswers.inboxOfClient
  unfold HydrationAnswers.inboxOfClient at hNot
  cases hDb : given.dbEncryptionKey with
  | error failure => simp [Settled.orFail, Settled.andThen, Settled.isOk]
  | thrown cause => simp [Settled.orFail, Settled.andThen, Settled.isOk]
  | ok _ =>
  cases hKey : given.xmtpIdentityKey with
  | error failure => simp [Settled.orFail, Settled.andThen, Settled.isOk]
  | thrown cause => simp [Settled.orFail, Settled.andThen, Settled.isOk]
  | ok _ =>
  cases hClient : given.client with
  | error failure => simp [Settled.orFail, Settled.andThen, Settled.isOk]
  | thrown cause => simp [Settled.orFail, Settled.andThen, Settled.isOk]
  | ok inboxId =>
  simp only [hDb, hKey, hClient, Option.some.injEq, exists_eq_left'] at hNot
  simp only [Settled.orFail, Settled.andThen, Bool.false_eq_true, false_or, Option.isSome_some,
    Bool.true_and]
  cases hInbox : identity.inboxId with
  | some stored =>
    simp only [reduceCtorEq, if_false, Option.isSome_some, true_and]
    exact ⟨hydrateClient_identityStore core given identity inboxId,
      by rw [hydrateClient_isOk given inboxId hStarting]⟩
  | none =>
    -- the store does not take the id, and the hydration ends there
    have hRefused : core.identityStore.takesInboxId identity.id inboxId = false := by
      rcases IdentityStore.setInboxId_of_mem inboxId hMem with ⟨hTakes, -⟩ | ⟨hRefused, -⟩
      · exact absurd ⟨hInbox, hTakes⟩ hNot
      · exact hRefused
    rcases IdentityStore.setInboxId_of_mem inboxId hMem with ⟨hTakes, -⟩ | ⟨-, error, hSet⟩
    · rw [hRefused] at hTakes
      cases hTakes
    · simp [CoreRuntime.storeInboxId, hSet, Settled.isOk]

theorem hydrateIdentity_of_stores (hMem : identity ∈ core.identityStore.rows)
    (hStores : StoresInbox core.identityStore answers identity) :
    HasInbox (core.hydrateIdentity (answers.hydration identity.id) false
      identity).1.identityStore identity.id := by
  obtain ⟨hInbox, inboxId, hClient, hTakes⟩ := hStores
  generalize answers.hydration identity.id = given at hClient ⊢
  have hWritten : HasInbox (core.identityStore.updateInboxId identity.id inboxId) identity.id := by
    refine ⟨IdentityStore.writeInboxId identity.id inboxId identity,
      List.mem_map.mpr ⟨identity, hMem, rfl⟩, IdentityStore.writeInboxId_id _ _ _, ?_⟩
    simp [IdentityStore.writeInboxId]
  unfold HydrationAnswers.inboxOfClient at hClient
  split at hClient
  · next hDb hKey hCreated =>
    cases hClient
    rcases IdentityStore.setInboxId_of_mem inboxId hMem with ⟨-, hSet⟩ | ⟨hRefused, -⟩
    · simp only [CoreRuntime.hydrateIdentity, hDb, hKey, hCreated, Settled.orFail,
        Settled.andThen, hInbox, or_true, if_true, CoreRuntime.storeInboxId, hSet]
      rw [hydrateClient_identityStore]
      exact hWritten
    · rw [hRefused] at hTakes
      cases hTakes
  · cases hClient

/-- No identity that a start comes to has its inbox id stored. -/
def StoresNothing (store : IdentityStore) (answers : StartAnswers)
    (identities : List IdentityRow) : Prop :=
  ∀ before identity after, identities = before ++ identity :: after →
    (∀ earlier ∈ before, HydratesStored answers earlier) → ¬ StoresInbox store answers identity

theorem storesNothing_cons {store : IdentityStore} {remaining : List IdentityRow} :
    StoresNothing store answers (identity :: remaining) ↔
      ¬ StoresInbox store answers identity ∧
        (HydratesStored answers identity → StoresNothing store answers remaining) := by
  constructor
  · intro hNothing
    refine ⟨hNothing [] identity remaining rfl (fun _ hMem => nomatch hMem), ?_⟩
    intro hHydrates before later after hSplit hBefore
    refine hNothing (identity :: before) later after (by rw [hSplit]; rfl) ?_
    intro earlier hMem
    rcases List.mem_cons.mp hMem with rfl | hRest
    · exact hHydrates
    · exact hBefore earlier hRest
  · rintro ⟨hFirst, hRest⟩ before later after hSplit hBefore
    cases before with
    | nil =>
      cases hSplit
      exact hFirst
    | cons first before =>
      cases hSplit
      exact hRest (hBefore identity (List.mem_cons_self ..)) before later after rfl
        fun earlier hMem => hBefore earlier (List.mem_cons_of_mem _ hMem)

theorem hydrateAll_identityStore (identities : List IdentityRow)
    (hStarting : core.lifecycle = .starting)
    (hMem : ∀ identity ∈ identities, identity ∈ core.identityStore.rows) :
    (core.hydrateAll answers identities).1.identityStore = core.identityStore ↔
      StoresNothing core.identityStore answers identities := by
  induction identities generalizing core with
  | nil =>
    refine iff_of_true rfl ?_
    intro before identity after hSplit
    simp at hSplit
  | cons identity remaining ih =>
    rw [storesNothing_cons]
    have hRow := hMem identity (List.mem_cons_self ..)
    unfold CoreRuntime.hydrateAll
    by_cases hStores : StoresInbox core.identityStore answers identity
    · -- the id is stored, and nothing takes it back
      have hWritten := hydrateIdentity_of_stores hRow hStores
      refine iff_of_false ?_ fun h => h.1 hStores
      intro hSame
      have hAfter : HasInbox core.identityStore identity.id := by
        rw [← hSame]
        cases hResult : (core.hydrateIdentity (answers.hydration identity.id) false
            identity).2 with
        | ok value =>
          simp only [hResult, Settled.andThen]
          exact hasInbox_hydrateAll answers _ remaining hWritten
        | error failure =>
          simp only [hResult, Settled.andThen]
          exact hWritten
        | thrown cause =>
          simp only [hResult, Settled.andThen]
          exact hWritten
      obtain ⟨row, hOther, hId, hInbox⟩ := hAfter
      rw [eq_of_column core.identityStore.ids_nodup hOther hRow hId, hStores.1] at hInbox
      cases hInbox
    · obtain ⟨hStore, hOk⟩ := hydrateIdentity_of_not_stores hStarting hRow hStores
      cases hResult : (core.hydrateIdentity (answers.hydration identity.id) false
          identity).2 with
      | ok value =>
        rw [hResult] at hOk
        have hHydrates : HydratesStored answers identity := hOk.mp rfl
        have hNext := @ih (core.hydrateIdentity (answers.hydration identity.id) false
            identity).1
          (by rw [(extends_hydrateIdentity core _ false identity).lifecycle, hStarting])
          (fun later hLater => by
            rw [hStore]
            exact hMem later (List.mem_cons_of_mem _ hLater))
        rw [hStore] at hNext
        simp only [hResult, Settled.andThen]
        rw [hNext]
        exact ⟨fun h => ⟨hStores, fun _ => h⟩, fun h => h.2 hHydrates⟩
      | error failure =>
        rw [hResult] at hOk
        simp only [hResult, Settled.andThen]
        exact iff_of_true hStore ⟨hStores, fun h => nomatch hOk.mpr h⟩
      | thrown cause =>
        rw [hResult] at hOk
        simp only [hResult, Settled.andThen]
        exact iff_of_true hStore ⟨hStores, fun h => nomatch hOk.mpr h⟩

/-! ## A start that fails -/

/-- Clients, open streams, timers and stored identities are as before. -/
structure SameAsBefore (before after : CoreRuntime) : Prop where
  registry : after.registry = before.registry
  streams : after.streamTable.streams = before.streamTable.streams
  opened : after.streamTable.opened = before.streamTable.opened
  heartbeat : after.heartbeatTimer = before.heartbeatTimer
  liveness : after.livenessTimer = before.livenessTimer
  identityStore : after.identityStore = before.identityStore

/-- No client is registered, no stream is kept and no timer is set, and the start stores
no inbox id before it fails. -/
structure NothingToLose (core : CoreRuntime) (answers : StartAnswers) : Prop where
  registry : core.registry = .empty
  streams : core.streamTable.streams = []
  heartbeat : core.heartbeatTimer = false
  liveness : core.livenessTimer = false
  stores : answers.listed.isOk = true →
    StoresNothing core.identityStore answers core.identityStore.list

theorem extends_hydrateStored (core : CoreRuntime) (answers : StartAnswers) :
    Extends { core with lifecycle := .starting } (core.hydrateStored answers).1 :=
  .andThen (.refl _) fun _ _ => extends_hydrateAll answers _ _

theorem hydrateStored_identityStore (core : CoreRuntime) (answers : StartAnswers) :
    (core.hydrateStored answers).1.identityStore = core.identityStore ↔
      (answers.listed.isOk = true →
        StoresNothing core.identityStore answers core.identityStore.list) := by
  unfold CoreRuntime.hydrateStored
  cases answers.listed with
  | ok _ =>
    have hLoop := @hydrateAll_identityStore answers { core with lifecycle := .starting }
      core.identityStore.list rfl (fun identity hMem => IdentityStore.mem_list.mp hMem)
    exact hLoop.trans ⟨fun h _ => h, fun h => h rfl⟩
  | error failure => exact iff_of_true rfl (fun h => nomatch h)
  | thrown cause => exact iff_of_true rfl (fun h => nomatch h)

/-- A start that fails from `'local'` resets what the loop leaves. -/
theorem start_failed {after : CoreRuntime} {error : SignetError}
    (hLocal : core.lifecycle = .localOnly) (h : core.start answers = (after, .error error)) :
    after = { (core.hydrateStored answers).1.resetStartupArtifacts with lifecycle := .localOnly } := by
  simp only [CoreRuntime.start, hLocal, reduceCtorEq, not_false_eq_true, ne_eq,
    not_true_eq_false, and_false, if_false, if_true, CoreRuntime.failStart] at h
  split at h
  · cases h
  · cases h
    rfl
  · cases h
    rfl

/-- **A failed start.**  When a start from `'local'` fails, the core is in `'local'` again,
and it is as before the call exactly when it had nothing to lose. -/
theorem failed_start_noop_iff {after : CoreRuntime} {error : SignetError}
    (hLocal : core.lifecycle = .localOnly) (h : core.start answers = (after, .error error)) :
    after.lifecycle = .localOnly ∧ SameAsBefore core after ↔ NothingToLose core answers := by
  have hAfter := start_failed hLocal h
  subst hAfter
  obtain ⟨⟨added, hStreams, hOpened, hNew⟩, -, -⟩ := extends_hydrateStored core answers
  have hStore := hydrateStored_identityStore core answers
  constructor
  · rintro ⟨-, hSame⟩
    refine ⟨hSame.registry.symm, ?_, hSame.heartbeat.symm, hSame.liveness.symm,
      hStore.mp hSame.identityStore⟩
    have hNone : ((core.hydrateStored answers).1.resetStartupArtifacts).streamTable.streams = [] := by
      simp [CoreRuntime.resetStartupArtifacts, StreamTable.abort]
    exact hSame.streams.symm.trans hNone
  · intro hLose
    refine ⟨rfl, hLose.registry.symm, ?_, ?_, hLose.heartbeat.symm, hLose.liveness.symm,
      hStore.mpr hLose.stores⟩
    · simp [CoreRuntime.resetStartupArtifacts, StreamTable.abort, hLose.streams]
    · -- what the start has opened is aborted again, and nothing else
      have hStreams' : (core.hydrateStored answers).1.streamTable.streams = added := by
        rw [hStreams]
        simp [hLose.streams]
      have hKept : ∀ stream ∈ core.streamTable.opened, stream ∉ added := by
        intro stream hOld hMem
        have hLow := core.streamTable.fresh stream hOld
        have hHigh := hNew stream hMem
        simp only at hHigh
        omega
      show List.filter _ (core.hydrateStored answers).1.streamTable.opened = core.streamTable.opened
      rw [hOpened]
      simp only [hStreams', List.filter_append]
      rw [List.filter_eq_self.mpr, List.filter_eq_nil_iff.mpr]
      · simp
      · intro stream hMem
        simp [hMem]
      · intro stream hOld
        simpa using hKept stream hOld

/-! ## Starts on fixed inputs -/

/-- An identity whose inbox id is stored. -/
def sampleRow : IdentityRow := ⟨"inbox_1", some "aabb", none, none, 0⟩

/-- A core in `'local'` with the identity. -/
def sampleLocal (registry : ClientRegistry) : CoreRuntime where
  lifecycle := .localOnly
  registry := registry
  streamTable := ⟨[], [], 0, fun _ hMem => nomatch hMem⟩
  heartbeatTimer := false
  livenessTimer := false
  identityStore := ⟨[sampleRow], true, by decide, by decide⟩

def syncFails : StartAnswers where
  hydration := fun _ =>
    { client := .ok "aabb"
      syncAll := .error (InternalError.create "sync failed") }

theorem sampleLocal_start (registry : ClientRegistry) :
    (sampleLocal registry).start syncFails =
      (sampleLocal .empty, .error (InternalError.create "sync failed")) := rfl

/-- With nothing to lose, a start fails without a trace. -/
theorem failed_start_noop_unregistered :
    (sampleLocal .empty).lifecycle = .localOnly ∧
      SameAsBefore (sampleLocal .empty) (sampleLocal .empty) := by
  refine (@failed_start_noop_iff syncFails (sampleLocal .empty) (sampleLocal .empty) _ rfl
    (sampleLocal_start .empty)).mpr ⟨rfl, rfl, rfl, rfl, ?_⟩
  rintro - before identity after hSplit - ⟨hNone, -⟩
  have hMem : identity ∈ [sampleRow] := by
    have hList : (sampleLocal .empty).identityStore.list = [sampleRow] := rfl
    rw [hList] at hSplit
    simp [hSplit]
  rw [List.mem_singleton.mp hMem] at hNone
  cases hNone

/-- The client of the identity, registered while the core was in `'local'`. -/
def sampleRegistry : ClientRegistry :=
  ClientRegistry.empty.register ⟨⟨"inbox_1", "aabb"⟩, .empty⟩

/-- A start that fails at the sync loses the client that was registered before it. -/
theorem failed_start_forgets_clients :
    ∃ core answers after error, core.lifecycle = .localOnly ∧
      core.start answers = (after, .error error) ∧
        ¬ (after.lifecycle = .localOnly ∧ SameAsBefore core after) := by
  refine ⟨sampleLocal sampleRegistry, syncFails, _, _, rfl, sampleLocal_start sampleRegistry, ?_⟩
  rintro ⟨-, hSame⟩
  have hClients : (none : Option GroupClient) = some ⟨⟨"inbox_1", "aabb"⟩, .empty⟩ :=
    congrArg (fun registry => registry.get "inbox_1") hSame.registry
  cases hClients

end Core
end Signet
