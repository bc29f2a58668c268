import Signet.Core.ClientRegistry
import Signet.Seals.Manager
import Signet.Sessions.CredentialEffects
import Signet.Sessions.Service

/-!
# Removing a chat from the local state

The cleanup collects what belongs to a chat: the credentials that list one of its ids,
their seals, its mapping and the identity that is bound to its group.  A call that only
looks names them; a call that executes revokes, removes and forgets.  It takes the group
from one client, and the identity out of the registry without a look at its streams.

* `cleanupLocalState` — the call; `matchChatIds` — the ids of a chat.
* `CleanedUp`, `NamesRemoved` — nothing of the chat is left, and what was named is gone.
* `CleansUp` — one mapping, one client besides that of the identity, and no open stream.
* `cleanup_complete_iff` — a cleanup is complete exactly then.
-/

namespace Signet
namespace Cli

open Kit Schemas Sessions Core

/-! ## The call -/

structure CleanupState where
  /-- The credential manager, once there is one. -/
  credentials : Option CredentialStore
  /-- The seal manager, once there is one. -/
  seals : Option Seals.SealMaps
  mappings : IdMappingStore
  core : CoreRuntime
  /-- The database files of the clients. -/
  files : OrderedSet String

structure CleanupDeps where
  credentialConfig : CredentialManagerConfig := {}
  /-- `none` for `":memory:"` -/
  dataDir : Option String := none
  env : String := "dev"
  /-- Why a file cannot be removed, if it cannot. -/
  rmThrows : String → Option String := fun _ => none

inductive CleanupAction where
  | revokeCredential (credentialId : String)
  | revokeSeal (sealId : String)
  | removeMapping (mapping : IdMapping)
  | removeIdentity (identityId : String)
  | deleteDb (dbPath : String)
deriving DecidableEq

structure CleanupResult where
  executed : Bool
  actions : List CleanupAction

def given (value : Option String) : Option String := value.filter fun text => text ≠ ""

def addMapped (mappings : IdMappingStore) (ids : OrderedSet String) (candidate : String) :
    OrderedSet String :=
  match mappings.resolve candidate with
  | none => ids
  | some mapped => (ids.add mapped.localId).add mapped.networkId

/-- The ids of a chat: those that are given, and those they are mapped to. -/
def matchChatIds (mappings : IdMappingStore) (chatId : Option String) (groupId : String) :
    OrderedSet String :=
  let chatIds := (given chatId).elim (OrderedSet.empty.add groupId)
    (OrderedSet.empty.add groupId).add
  ((given (some groupId)).toList ++ (given chatId).toList).foldl (addMapped mappings) chatIds

def isForChat (ids : OrderedSet String) (chatIds : List String) : Bool :=
  chatIds.any fun id => id ∈ ids

/-- The credentials that are listed, and those among them that are for the chat. -/
def matchingCredentials (deps : CleanupDeps) (now : Int) (credentials : Option CredentialStore)
    (ids : OrderedSet String) : Option CredentialStore × List String :=
  match credentials with
  | none => (none, [])
  | some store =>
    let listed := Service.list deps.credentialConfig now store none
    (some listed.1,
      (listed.2.filter fun credential => isForChat ids credential.config.chatIds).map
        CredentialRecord.credentialId)

def currentSealIds (seals : Option Seals.SealMaps) (credentialIds : List String)
    (ids : OrderedSet String) : List String :=
  match seals with
  | none => []
  | some maps =>
    credentialIds.flatMap fun credentialId =>
      ids.items.filterMap fun chatId =>
        given ((Seals.current maps credentialId chatId).map Seals.sealIdOf)

def mappingOf (mappings : IdMappingStore) (chatId : Option String) (groupId : String) :
    Option IdMapping :=
  ((given chatId).bind mappings.resolve).or (mappings.resolve groupId)

/-- The database file of an identity, if it has one. -/
def dbBase (deps : CleanupDeps) (identityId : String) : Option String :=
  deps.dataDir.map fun dataDir => dataDir ++ "/db/" ++ deps.env ++ "/" ++ identityId ++ ".db3"

/-- What belongs to the chat. -/
def cleanupActions (deps : CleanupDeps) (s : CleanupState) (chatId : Option String)
    (groupId : String) (credentialIds : List String) : List CleanupAction :=
  let ids := matchChatIds s.mappings chatId groupId
  credentialIds.map .revokeCredential
    ++ (currentSealIds s.seals credentialIds ids).map .revokeSeal
    ++ (mappingOf s.mappings chatId groupId).toList.map .removeMapping
    ++ (s.core.identityStore.getByGroupId groupId).toList.flatMap fun identity =>
        .removeIdentity identity.id :: (dbBase deps identity.id).toList.map .deleteDb

def revokeEach (now : Int) : CredentialStore → List String →
    CredentialStore × Except SignetError Unit
  | store, [] => (store, .ok ())
  | store, credentialId :: rest =>
    match Service.revoke now store credentialId .ownerInitiated with
    | (revoked, .error error) => (revoked, .error error)
    | (revoked, .ok ()) => revokeEach now revoked rest

/-- Remove one file after the other, up to the first that cannot be removed. -/
def rmEach (deps : CleanupDeps) : OrderedSet String → List String →
    OrderedSet String × Option String
  | files, [] => (files, none)
  | files, path :: rest =>
    match deps.rmThrows path with
    | some cause => (files, some cause)
    | none => rmEach deps (files.erase path) rest

/-- Remove the identity that is bound to the group, and its files. -/
def removeIdentity (deps : CleanupDeps) (s : CleanupState) (identity : IdentityRow)
    (result : CleanupResult) : CleanupState × Settled CleanupResult :=
  let unregistered := s.core.unregisterManagedClient identity.id
  let removed := unregistered.identityStore.remove identity.id
  let s := { s with core := { unregistered with identityStore := removed.1 } }
  match removed.2 with
  | .error error => (s, .error error)
  | .ok () =>
    match dbBase deps identity.id with
    | none => (s, .ok result)
    | some base =>
      let left := rmEach deps s.files [base, base ++ "-shm", base ++ "-wal"]
      ({ s with files := left.1 },
        match left.2 with
        | some cause => .thrown cause
        | none => .ok result)

/-- The steps of a cleanup after the credentials have been revoked. -/
def removeLocal (deps : CleanupDeps) (s : CleanupState) (chatId : Option String)
    (groupId : String) (result : CleanupResult) : CleanupState × Settled CleanupResult :=
  let mappings := (mappingOf s.mappings chatId groupId).elim s.mappings fun mapping =>
    (s.mappings.remove mapping.localId).1
  let forgotten := { s with mappings := mappings, core := s.core.forgetGroup groupId }
  match s.core.identityStore.getByGroupId groupId with
  | none => (forgotten, .ok result)
  | some identity => removeIdentity deps forgotten identity result

def cleanupLocalState (deps : CleanupDeps) (now : Int) (s : CleanupState)
    (chatId : Option String) (groupId : String) (execute : Bool) :
    CleanupState × Settled CleanupResult :=
  let ids := matchChatIds s.mappings chatId groupId
  let listed := matchingCredentials deps now s.credentials ids
  let s := { s with credentials := listed.1 }
  let actions := cleanupActions deps s chatId groupId listed.2
  if !execute then (s, .ok ⟨false, actions⟩)
  else
    match s.credentials with
    | none => removeLocal deps s chatId groupId ⟨true, actions⟩
    | some store =>
      let revoked := revokeEach now store listed.2
      let s := { s with credentials := some revoked.1 }
      match revoked.2 with
      | .error error => (s, .error error)
      | .ok () => removeLocal deps s chatId groupId ⟨true, actions⟩

/-! ## What a cleanup promises -/

def ActiveFor (ids : OrderedSet String) (credentials : Option CredentialStore) (id : String) :
    Prop :=
  ∃ store ∈ credentials, ∃ record, store.byId.get id = some record ∧
    record.status = .active ∧ isForChat ids record.chatIds = true

/-- Nothing of the chat is left. -/
structure CleanedUp (before after : CleanupState) (ids : OrderedSet String) (groupId : String) :
    Prop where
  credentials : ∀ id, ¬ ActiveFor ids after.credentials id
  mappings : ∀ id ∈ ids, after.mappings.resolve id = none
  clients : ∀ identityId client, after.core.registry.get identityId = some client →
    groupId ∉ client.groupIds
  identities : ∀ row ∈ after.core.identityStore.rows, row.groupId ≠ some groupId
  streams : ∀ row ∈ before.core.identityStore.rows, row ∉ after.core.identityStore.rows →
    ∀ stream ∈ after.core.streamTable.opened, stream.identityId ≠ row.id

/-- The credentials, the mapping and the identity that are named are those that are
removed; a credential that is not named is only swept. -/
structure NamesRemoved (config : CredentialManagerConfig) (now : Int)
    (actions : List CleanupAction) (before after : CleanupState) (ids : OrderedSet String) :
    Prop where
  credentials : ∀ id, .revokeCredential id ∈ actions ↔
    ActiveFor ids before.credentials id ∧ ¬ ActiveFor ids after.credentials id
  others : ∀ store ∈ before.credentials, ∃ store' ∈ after.credentials, ∀ id record,
    store.byId.get id = some record → .revokeCredential id ∉ actions →
      store'.byId.get id = some (sweptRecord config now record)
  mapping : ∀ row, .removeMapping row ∈ actions ↔
    row ∈ before.mappings.rows ∧ row ∉ after.mappings.rows
  identity : ∀ id, .removeIdentity id ∈ actions ↔
    ∃ row ∈ before.core.identityStore.rows, row.id = id ∧
      row ∉ after.core.identityStore.rows

/-- A cleanup is complete: nothing of the chat is left, and a call just before it that only
looked has named what it removes. -/
structure CleanupComplete (deps : CleanupDeps) (now : Int) (before after : CleanupState)
    (chatId : Option String) (groupId : String) : Prop where
  cleanedUp : CleanedUp before after (matchChatIds before.mappings chatId groupId) groupId
  named : ∀ earlier lookedAt result,
    cleanupLocalState deps lookedAt earlier chatId groupId false = (before, .ok result) →
      NamesRemoved deps.credentialConfig now result.actions before after
        (matchChatIds before.mappings chatId groupId)

/-- The store has no row for the chat but its mapping, which is found by its local id; no
client but the first one and that of the bound identity has the group; and the bound
identity has no open stream. -/
structure CleansUp (s : CleanupState) (chatId : Option String) (groupId : String) : Prop where
  mapping : ∀ row ∈ s.mappings.rows, ∀ id ∈ matchChatIds s.mappings chatId groupId,
    IdMappingStore.Touches id row → mappingOf s.mappings chatId groupId = some row ∧
      ∀ other ∈ s.mappings.rows, other.networkId = row.localId → other = row
  clients : ∀ identityId client, s.core.registry.get identityId = some client →
    groupId ∈ client.groupIds →
      (∀ first, s.core.registry.getByGroupId groupId = some first →
        first.identityId = identityId) ∨
      ∃ row, s.core.identityStore.getByGroupId groupId = some row ∧ row.id = identityId
  streams : ∀ row, s.core.identityStore.getByGroupId groupId = some row →
    ∀ stream ∈ s.core.streamTable.opened, stream.identityId ≠ row.id

variable {deps : CleanupDeps} {now : Int} {s : CleanupState} {chatId : Option String}
  {groupId : String} {ids : OrderedSet String} {credentialIds : List String}
  {store : CredentialStore}

/-! ## Credentials -/

theorem active_of_sweptRecord {config : CredentialManagerConfig} {record : InternalCredentialRecord}
    (h : (sweptRecord config now record).status = .active) :
    sweptRecord config now record = record := by
  unfold sweptRecord at h ⊢
  split at h
  · next hNot => rw [if_pos hNot]
  · split at h
    · cases h
    · split at h
      · cases h
      · next hNot hExpired hStale => rw [if_neg hNot, if_neg hExpired, if_neg hStale]

/-- The credentials that are listed for the chat are the active ones after the sweep. -/
theorem mem_matchingCredentials {credentials : Option CredentialStore} {id : String} :
    id ∈ (matchingCredentials deps now credentials ids).2 ↔
      ActiveFor ids (matchingCredentials deps now credentials ids).1 id := by
  cases credentials with
  | none => simp [matchingCredentials, ActiveFor]
  | some store =>
    simp only [matchingCredentials, Service.list, listCredentials, ActiveFor, List.mem_map,
      List.mem_filter, Option.mem_def, Option.some.injEq, exists_eq_left']
    constructor
    · rintro ⟨_, ⟨⟨record, ⟨hMem, hActive⟩, rfl⟩, hChat⟩, rfl⟩
      obtain ⟨key, hGet⟩ := AssocMap.mem_values.mp hMem
      have hKey := CredentialStore.keyed _ key record hGet
      subst hKey
      exact ⟨record, hGet, of_decide_eq_true hActive, hChat⟩
    · rintro ⟨record, hGet, hActive, hChat⟩
      have hKey := CredentialStore.keyed _ id record hGet
      refine ⟨toCredentialRecord now record, ⟨⟨record, ⟨?_, ?_⟩, rfl⟩, hChat⟩, hKey⟩
      · exact AssocMap.mem_values.mpr ⟨id, hGet⟩
      · exact decide_eq_true hActive

/-- What a round of revocations leaves under an id. -/
theorem revokeEach_get (hOk : (revokeEach now store credentialIds).2 = .ok ()) (id : String) :
    (revokeEach now store credentialIds).1.byId.get id =
      (store.byId.get id).map fun record =>
        if id ∈ credentialIds then (revocation now .ownerInitiated).applyTo record else record := by
  induction credentialIds generalizing store with
  | nil => simp [revokeEach]
  | cons credentialId rest ih =>
    unfold revokeEach at hOk ⊢
    cases hRevoke : Service.revoke now store credentialId .ownerInitiated with
    | mk revoked result =>
      cases result with
      | error error =>
        simp only [hRevoke] at hOk
        cases hOk
      | ok value =>
        simp only [hRevoke] at hOk ⊢
        have hStore : revoked = (revokeCredential now store credentialId
            .ownerInitiated).1 := by
          have hFst := congrArg Prod.fst hRevoke
          exact hFst.symm
        rw [ih hOk]
        cases hGet : store.byId.get id with
        | none =>
          have hNone : revoked.byId.get id = none := by
            rw [hStore]
            exact writerRelation_addsNothing.revokeCredential now store credentialId
              .ownerInitiated id hGet
          rw [hNone]
          rfl
        | some record =>
          rw [hStore, revokeCredential_get now store credentialId id .ownerInitiated hGet]
          by_cases hId : credentialId = id
          · subst hId
            simp [revocation_applyTo_idem]
          · have hId' : ¬ id = credentialId := fun hEq => hId hEq.symm
            simp [hId, hId']

/-! ## What an executed cleanup leaves -/

def coreWithout (core : CoreRuntime) (groupId : String) : CoreRuntime :=
  match core.identityStore.getByGroupId groupId with
  | none => core.forgetGroup groupId
  | some identity =>
    { (core.forgetGroup groupId).unregisterManagedClient identity.id with
      identityStore := core.identityStore.deleteRow identity.id }

def mappingsWithout (mappings : IdMappingStore) (chatId : Option String) (groupId : String) :
    IdMappingStore :=
  (mappingOf mappings chatId groupId).elim mappings fun mapping =>
    (mappings.remove mapping.localId).1

theorem removeLocal_ok {result answer : CleanupResult} {after : CleanupState}
    (h : removeLocal deps s chatId groupId result = (after, .ok answer)) :
    after.credentials = s.credentials ∧
      after.mappings = mappingsWithout s.mappings chatId groupId ∧
        after.core = coreWithout s.core groupId := by
  unfold removeLocal at h
  unfold coreWithout
  dsimp only at h
  split at h
  · next hNone =>
    cases h
    exact ⟨rfl, rfl, rfl⟩
  · next identity hBound =>
    have hMem := (IdentityStore.mem_of_getByGroupId hBound).1
    have hRemove : ((s.core.forgetGroup groupId).unregisterManagedClient
        identity.id).identityStore.remove identity.id =
          (s.core.identityStore.deleteRow identity.id, .ok ()) :=
      IdentityStore.remove_of_mem hMem
    simp only [removeIdentity, hRemove] at h
    split at h
    · cases h
      exact ⟨rfl, rfl, rfl⟩
    · split at h
      · cases h
      · cases h
        exact ⟨rfl, rfl, rfl⟩

structure Executed (deps : CleanupDeps) (now : Int) (s after : CleanupState)
    (chatId : Option String) (groupId : String) : Prop where
  mappings : after.mappings = mappingsWithout s.mappings chatId groupId
  core : after.core = coreWithout s.core groupId
  credentials : ∀ id, ¬ ActiveFor (matchChatIds s.mappings chatId groupId) after.credentials id
  others : ∀ store ∈ s.credentials, ∃ store' ∈ after.credentials, ∀ id record,
    store.byId.get id = some record →
      ¬ ActiveFor (matchChatIds s.mappings chatId groupId) s.credentials id →
        store'.byId.get id = some (sweptRecord deps.credentialConfig now record)

theorem not_activeFor_revokeEach
    (hListed : ∀ id, ActiveFor ids (some store) id → id ∈ credentialIds)
    (hOk : (revokeEach now store credentialIds).2 = .ok ()) (id : String) :
    ¬ ActiveFor ids (some (revokeEach now store credentialIds).1) id := by
  rintro ⟨_, hStore, record, hGet, hActive, hChat⟩
  cases hStore
  rw [revokeEach_get hOk] at hGet
  obtain ⟨before, hBefore, hRecord⟩ := Option.map_eq_some_iff.mp hGet
  split at hRecord
  · rw [← hRecord] at hActive
    cases hActive
  · next hNot =>
    subst hRecord
    exact hNot (hListed id ⟨store, rfl, before, hBefore, hActive, hChat⟩)

theorem cleanup_executed {after : CleanupState} {answer : CleanupResult}
    (h : cleanupLocalState deps now s chatId groupId true = (after, .ok answer)) :
    Executed deps now s after chatId groupId := by
  unfold cleanupLocalState at h
  simp only [Bool.not_true, Bool.false_eq_true, if_false] at h
  split at h
  · next hNone =>
    -- without a credential manager there are no credentials
    obtain ⟨hCredentials, hMappings, hCore⟩ := removeLocal_ok h
    have hBefore : s.credentials = none := by
      cases hStore : s.credentials with
      | none => rfl
      | some store =>
        rw [hStore] at hNone
        cases hNone
    rw [hNone] at hCredentials
    refine ⟨hMappings, hCore, ?_, ?_⟩
    · rintro id ⟨store, hStore, -⟩
      rw [hCredentials] at hStore
      cases hStore
    · intro store hStore
      rw [hBefore] at hStore
      cases hStore
  · next listed hListed =>
    have hEvery := fun id => @mem_matchingCredentials deps now
      (matchChatIds s.mappings chatId groupId) s.credentials id
    rw [hListed] at hEvery
    generalize hIds : (matchingCredentials deps now s.credentials
      (matchChatIds s.mappings chatId groupId)).2 = credentialIds at h hEvery
    split at h
    · cases h
    · next hOk =>
      obtain ⟨hCredentials, hMappings, hCore⟩ := removeLocal_ok h
      refine ⟨hMappings, hCore, ?_, ?_⟩
      · intro id
        rw [hCredentials]
        exact not_activeFor_revokeEach (fun id hActive => (hEvery id).mpr hActive) hOk id
      · intro store hStore
        rw [hStore] at hListed
        have hSwept : (sweepExpired deps.credentialConfig now store).1 = listed :=
          Option.some.inj hListed
        refine ⟨_, hCredentials, ?_⟩
        intro id record hGet hNot
        have hGetSwept : listed.byId.get id =
            some (sweptRecord deps.credentialConfig now record) := by
          rw [← hSwept, sweepExpired_get, hGet]
          rfl
        have hKept : id ∉ credentialIds := by
          intro hMem
          obtain ⟨_, hStore', found, hFound, hActive, hChat⟩ := (hEvery id).mp hMem
          cases hStore'
          rw [hGetSwept] at hFound
          cases hFound
          have hSame := active_of_sweptRecord hActive
          rw [hSame] at hActive hChat
          exact hNot ⟨store, hStore, record, hGet, hActive, hChat⟩
        rw [revokeEach_get hOk, hGetSwept]
        simp [hKept]

/-! ## The mapping of a chat -/

variable {mappings : IdMappingStore} {row : IdentityRow}

theorem mem_foldl_addMapped {candidates : List String} {id : String} (h : id ∈ ids) :
    id ∈ candidates.foldl (addMapped mappings) ids := by
  induction candidates generalizing ids with
  | nil => exact h
  | cons candidate rest ih =>
    refine ih ?_
    unfold addMapped
    split
    · exact h
    · exact OrderedSet.mem_add.mpr (Or.inr (OrderedSet.mem_add.mpr (Or.inr h)))

theorem groupId_mem_matchChatIds (mappings : IdMappingStore) (chatId : Option String)
    (groupId : String) : groupId ∈ matchChatIds mappings chatId groupId := by
  refine mem_foldl_addMapped ?_
  cases given chatId with
  | none => exact OrderedSet.mem_add.mpr (Or.inl rfl)
  | some id => exact OrderedSet.mem_add.mpr (Or.inr (OrderedSet.mem_add.mpr (Or.inl rfl)))

theorem given_mem_matchChatIds {id : String} (groupId : String) (h : given chatId = some id) :
    id ∈ matchChatIds mappings chatId groupId := by
  refine mem_foldl_addMapped ?_
  rw [h]
  exact OrderedSet.mem_add.mpr (Or.inl rfl)

theorem mappingOf_touches {row : IdMapping} (h : mappingOf mappings chatId groupId = some row) :
    row ∈ mappings.rows ∧
      ∃ id ∈ matchChatIds mappings chatId groupId, IdMappingStore.Touches id row := by
  unfold mappingOf at h
  rcases Option.or_eq_some_iff.mp h with hChat | ⟨-, hGroup⟩
  · obtain ⟨id, hGiven, hResolve⟩ := Option.bind_eq_some_iff.mp hChat
    obtain ⟨hMem, hTouch⟩ := IdMappingStore.mem_of_resolve hResolve
    exact ⟨hMem, id, given_mem_matchChatIds groupId hGiven, hTouch⟩
  · obtain ⟨hMem, hTouch⟩ := IdMappingStore.mem_of_resolve hGroup
    exact ⟨hMem, groupId, groupId_mem_matchChatIds _ _ _, hTouch⟩

/-- The rows of a chat are taken when there is no other than its mapping and the local id
leads to that. -/
theorem mappings_gone_iff (mappings : IdMappingStore) (chatId : Option String)
    (groupId : String) :
    (∀ id ∈ matchChatIds mappings chatId groupId,
        (mappingsWithout mappings chatId groupId).resolve id = none) ↔
      ∀ row ∈ mappings.rows, ∀ id ∈ matchChatIds mappings chatId groupId,
        IdMappingStore.Touches id row → mappingOf mappings chatId groupId = some row ∧
          ∀ other ∈ mappings.rows, other.networkId = row.localId → other = row := by
  simp only [IdMappingStore.resolve_eq_none, mappingsWithout]
  cases hMapping : mappingOf mappings chatId groupId with
  | none =>
    constructor
    · intro hGone row hRow id hId hTouch
      exact absurd hTouch (hGone id hId row hRow)
    · intro hOnly id hId row hRow hTouch
      cases (hOnly row hRow id hId hTouch).1
  | some mapping =>
    obtain ⟨hMem, id₀, hId₀, hTouch₀⟩ := mappingOf_touches hMapping
    simp only [Option.elim_some, Option.some.injEq]
    constructor
    · intro hGone row hRow id hId hTouch
      have hTaken : ∀ row ∈ mappings.rows, ∀ id ∈ matchChatIds mappings chatId groupId,
          IdMappingStore.Touches id row → row.networkId = mapping.localId ∨
            row = mapping ∧ ∀ row' ∈ mappings.rows, row'.networkId ≠ mapping.localId := by
        intro row hRow id hId hTouch
        by_contra hKept
        exact hGone id hId row ((IdMappingStore.mem_remove hMem hRow).mpr hKept) hTouch
      rcases hTaken mapping hMem id₀ hId₀ hTouch₀ with hSelf | ⟨-, hNone⟩
      · -- the network id of the mapping is its local id
        have hSame : ∀ other ∈ mappings.rows, other.networkId = mapping.localId →
            other = mapping := fun other hOther hNetwork =>
          eq_of_column mappings.networkIds_nodup hOther hMem (hNetwork.trans hSelf.symm)
        have hRowIs : row = mapping := by
          rcases hTaken row hRow id hId hTouch with hNetwork | ⟨hEq, -⟩
          · exact hSame row hRow hNetwork
          · exact hEq
        subst hRowIs
        exact ⟨rfl, hSame⟩
      · rcases hTaken row hRow id hId hTouch with hNetwork | ⟨hEq, -⟩
        · exact absurd hNetwork (hNone row hRow)
        · subst hEq
          exact ⟨rfl, fun other hOther hNetwork => absurd hNetwork (hNone other hOther)⟩
    · intro hOnly id hId row hAfter hTouch
      have hRow := IdMappingStore.mem_of_mem_remove hAfter
      obtain ⟨hEq, hOther⟩ := hOnly row hRow id hId hTouch
      subst hEq
      refine (IdMappingStore.mem_remove hRow hRow).mp hAfter ?_
      by_cases hNetwork : ∃ other ∈ mappings.rows, other.networkId = mapping.localId
      · obtain ⟨other, hMember, hId'⟩ := hNetwork
        rw [hOther other hMember hId'] at hId'
        exact Or.inl hId'
      · refine Or.inr ⟨rfl, ?_⟩
        intro other hMember hId'
        exact hNetwork ⟨other, hMember, hId'⟩

/-! ## The clients and streams of a chat -/

section

variable (core : CoreRuntime) (groupId : String)

theorem coreWithout_registry {identityId : String} {client : GroupClient}
    (hGroup : groupId ∈ client.groupIds) :
    (coreWithout core groupId).registry.get identityId = some client ↔
      core.registry.get identityId = some client ∧
        (∀ first, core.registry.getByGroupId groupId = some first →
          first.identityId ≠ identityId) ∧
        ∀ row, core.identityStore.getByGroupId groupId = some row → row.id ≠ identityId := by
  have hForget := @ClientRegistry.get_forgetGroup core.registry groupId identityId client hGroup
  unfold coreWithout
  cases hBound : core.identityStore.getByGroupId groupId with
  | none =>
    simp only [CoreRuntime.forgetGroup, hForget, reduceCtorEq, false_implies, implies_true,
      and_true]
  | some row =>
    simp only [CoreRuntime.unregisterManagedClient, CoreRuntime.forgetGroup,
      ClientRegistry.unregister, ClientRegistry.get, AssocMap.get_delete, Option.some.injEq,
      forall_eq']
    by_cases hId : identityId = row.id
    · simp [hId]
    · have hId' : row.id ≠ identityId := fun hEq => hId hEq.symm
      rw [if_neg hId]
      exact hForget.trans (by simp only [ClientRegistry.get, hId', ne_eq, not_false_eq_true,
        and_true])

theorem clients_gone_iff :
    (∀ identityId client, (coreWithout core groupId).registry.get identityId = some client →
        groupId ∉ client.groupIds) ↔
      ∀ identityId client, core.registry.get identityId = some client →
        groupId ∈ client.groupIds →
          (∀ first, core.registry.getByGroupId groupId = some first →
            first.identityId = identityId) ∨
          ∃ row, core.identityStore.getByGroupId groupId = some row ∧ row.id = identityId := by
  constructor
  · intro hGone identityId client hGet hGroup
    have hNot : ¬ _ := fun h => hGone identityId client
      ((coreWithout_registry core groupId hGroup).mpr h) hGroup
    rw [not_and, not_and_or] at hNot
    rcases hNot hGet with hFirst | hBound
    · left
      simp only [not_forall, not_not] at hFirst
      obtain ⟨first, hFound, hId⟩ := hFirst
      intro other hOther
      rw [hFound] at hOther
      cases hOther
      exact hId
    · right
      simp only [not_forall, not_not] at hBound
      obtain ⟨row, hRow, hId⟩ := hBound
      exact ⟨row, hRow, hId⟩
  · intro hOnly identityId client hGet hGroup
    obtain ⟨hBefore, hNotFirst, hNotBound⟩ := (coreWithout_registry core groupId hGroup).mp hGet
    rcases hOnly identityId client hBefore hGroup with hFirst | ⟨row, hRow, hId⟩
    · cases hFound : core.registry.getByGroupId groupId with
      | none => exact ClientRegistry.getByGroupId_eq_none.mp hFound identityId client hBefore hGroup
      | some first => exact hNotFirst first hFound (hFirst first hFound)
    · exact hNotBound row hRow hId

theorem coreWithout_rows (hRow : row ∈ core.identityStore.rows) :
    row ∈ (coreWithout core groupId).identityStore.rows ↔
      core.identityStore.getByGroupId groupId ≠ some row := by
  unfold coreWithout
  cases hBound : core.identityStore.getByGroupId groupId with
  | none => simp [CoreRuntime.forgetGroup, hRow]
  | some identity =>
    have hMem := (IdentityStore.mem_of_getByGroupId hBound).1
    simp only [IdentityStore.deleteRow, List.mem_filter, hRow, true_and, decide_eq_true_eq,
      ne_eq, Option.some.injEq]
    constructor
    · rintro hNe rfl
      exact hNe rfl
    · intro hNe hId
      exact hNe (eq_of_column core.identityStore.ids_nodup hMem hRow hId.symm)

end

theorem coreWithout_rows_subset {core : CoreRuntime}
    (h : row ∈ (coreWithout core groupId).identityStore.rows) : row ∈ core.identityStore.rows := by
  unfold coreWithout at h
  split at h
  · exact h
  · exact List.mem_of_mem_filter h

theorem coreWithout_opened (core : CoreRuntime) (groupId : String) :
    (coreWithout core groupId).streamTable.opened = core.streamTable.opened := by
  unfold coreWithout
  split <;> rfl

/-! ## What a look names -/

section Look

variable {earlier before : CleanupState} {lookedAt : Int} {result : CleanupResult}

/-- A call that only looks sweeps the credentials and names what belongs to the chat. -/
theorem look_eq (h : cleanupLocalState deps lookedAt earlier chatId groupId false =
      (before, .ok result)) :
    ∃ credentialIds, (∀ id, id ∈ credentialIds ↔
        ActiveFor (matchChatIds before.mappings chatId groupId) before.credentials id) ∧
      result.actions = cleanupActions deps before chatId groupId credentialIds := by
  simp only [cleanupLocalState, Bool.not_false, if_true, Prod.mk.injEq, Settled.ok.injEq] at h
  obtain ⟨rfl, rfl⟩ := h
  exact ⟨_, fun _ => mem_matchingCredentials, rfl⟩

theorem look_names (h : cleanupLocalState deps lookedAt earlier chatId groupId false =
      (before, .ok result)) :
    (∀ id, .revokeCredential id ∈ result.actions ↔
        ActiveFor (matchChatIds before.mappings chatId groupId) before.credentials id) ∧
      (∀ row, .removeMapping row ∈ result.actions ↔
        mappingOf before.mappings chatId groupId = some row) ∧
      ∀ id, .removeIdentity id ∈ result.actions ↔
        ∃ row, before.core.identityStore.getByGroupId groupId = some row ∧ row.id = id := by
  obtain ⟨credentialIds, hListed, hActions⟩ := look_eq h
  rw [hActions]
  refine ⟨?_, ?_, ?_⟩
  · intro id
    simp [cleanupActions, hListed]
  · intro row
    simp [cleanupActions]
  · intro id
    simp [cleanupActions, eq_comm]

end Look

/-! ## When a cleanup is complete -/

variable {after : CleanupState} {answer : CleanupResult}

theorem taken_mapping (hReady : CleansUp s chatId groupId)
    (hMappings : after.mappings = mappingsWithout s.mappings chatId groupId)
    (hGone : ∀ id ∈ matchChatIds s.mappings chatId groupId, after.mappings.resolve id = none)
    (row : IdMapping) :
    mappingOf s.mappings chatId groupId = some row ↔
      row ∈ s.mappings.rows ∧ row ∉ after.mappings.rows := by
  constructor
  · intro hMapping
    obtain ⟨hMem, id, hId, hTouch⟩ := mappingOf_touches hMapping
    exact ⟨hMem, fun hAfter => IdMappingStore.resolve_eq_none.mp (hGone id hId) row hAfter hTouch⟩
  · rintro ⟨hMem, hTaken⟩
    rw [hMappings, mappingsWithout] at hTaken
    cases hMapping : mappingOf s.mappings chatId groupId with
    | none =>
      rw [hMapping] at hTaken
      exact absurd hMem hTaken
    | some mapping =>
      obtain ⟨hMapped, id, hId, hTouch⟩ := mappingOf_touches hMapping
      have hOnly := (hReady.mapping mapping hMapped id hId hTouch).2
      rw [hMapping, Option.elim_some, IdMappingStore.mem_remove hMapped hMem, not_not] at hTaken
      rcases hTaken with hNetwork | ⟨hEq, -⟩
      · rw [hOnly row hMem hNetwork]
      · rw [hEq]

theorem taken_identity (hCore : after.core = coreWithout s.core groupId)
    (hRow : row ∈ s.core.identityStore.rows) :
    row ∉ after.core.identityStore.rows ↔
      s.core.identityStore.getByGroupId groupId = some row := by
  rw [hCore, coreWithout_rows s.core groupId hRow, not_not]

theorem cleanedUp_of_cleansUp (hDone : Executed deps now s after chatId groupId)
    (hReady : CleansUp s chatId groupId) :
    CleanedUp s after (matchChatIds s.mappings chatId groupId) groupId := by
  refine ⟨hDone.credentials, ?_, ?_, ?_, ?_⟩
  · rw [hDone.mappings]
    exact (mappings_gone_iff s.mappings chatId groupId).mpr hReady.mapping
  · rw [hDone.core]
    exact (clients_gone_iff s.core groupId).mpr hReady.clients
  · intro row hAfter hGroup
    rw [hDone.core] at hAfter
    have hRow := coreWithout_rows_subset hAfter
    have hFound : s.core.identityStore.getByGroupId groupId = some row := by
      cases hBound : s.core.identityStore.getByGroupId groupId with
      | none => exact absurd hGroup (IdentityStore.getByGroupId_eq_none.mp hBound row hRow)
      | some bound =>
        obtain ⟨hMem, hBoundGroup⟩ := IdentityStore.mem_of_getByGroupId hBound
        rw [eq_of_optional_column s.core.identityStore.groupIds_nodup hMem hRow hBoundGroup
          hGroup]
    exact (coreWithout_rows s.core groupId hRow).mp hAfter hFound
  · intro row hRow hTaken stream hOpen
    rw [hDone.core, coreWithout_opened] at hOpen
    exact hReady.streams row ((taken_identity hDone.core hRow).mp hTaken) stream hOpen

/-- **Chat cleanup.**  A cleanup that is executed is complete exactly when the chat has one
mapping, no client besides the first and that of its identity, and no open stream. -/
theorem cleanup_complete_iff
    (h : cleanupLocalState deps now s chatId groupId true = (after, .ok answer)) :
    CleanupComplete deps now s after chatId groupId ↔ CleansUp s chatId groupId := by
  have hDone := cleanup_executed h
  constructor
  · rintro ⟨hClean, -⟩
    refine ⟨?_, ?_, ?_⟩
    · have hMappings := hClean.mappings
      rw [hDone.mappings] at hMappings
      exact (mappings_gone_iff s.mappings chatId groupId).mp hMappings
    · have hClients := hClean.clients
      rw [hDone.core] at hClients
      exact (clients_gone_iff s.core groupId).mp hClients
    · intro row hBound stream hOpen
      have hRow := (IdentityStore.mem_of_getByGroupId hBound).1
      refine hClean.streams row hRow ((taken_identity hDone.core hRow).mpr hBound) stream ?_
      rw [hDone.core, coreWithout_opened]
      exact hOpen
  · intro hReady
    have hClean := cleanedUp_of_cleansUp hDone hReady
    refine ⟨hClean, ?_⟩
    intro earlier lookedAt result hLook
    obtain ⟨hCredentials, hMapping, hIdentity⟩ := look_names hLook
    refine ⟨?_, ?_, ?_, ?_⟩
    · intro id
      rw [hCredentials]
      exact ⟨fun hActive => ⟨hActive, hClean.credentials id⟩, And.left⟩
    · intro store hStore
      obtain ⟨store', hStore', hOthers⟩ := hDone.others store hStore
      refine ⟨store', hStore', ?_⟩
      intro id record hGet hNot
      rw [hCredentials] at hNot
      exact hOthers id record hGet hNot
    · intro row
      rw [hMapping]
      exact taken_mapping hReady hDone.mappings hClean.mappings row
    · intro id
      rw [hIdentity]
      constructor
      · rintro ⟨row, hBound, hId⟩
        have hRow := (IdentityStore.mem_of_getByGroupId hBound).1
        exact ⟨row, hRow, hId, (taken_identity hDone.core hRow).mpr hBound⟩
      · rintro ⟨row, hRow, hId, hTaken⟩
        exact ⟨row, (taken_identity hDone.core hRow).mp hTaken, hId⟩

/-! ## Cleanups on fixed inputs -/

def sampleMappings : IdMappingStore :=
  ⟨[⟨"xmtp_group", "conv_chat"⟩], by decide, by decide⟩

def boundRow : IdentityRow := ⟨"inbox_1", some "aabb", some "xmtp_group", none, 0⟩

/-- A core with the identity, and with a client of it that is responsible for the group. -/
def boundCore (streamTable : StreamTable) : CoreRuntime where
  lifecycle := .running
  registry := ClientRegistry.empty.register
    ⟨⟨"inbox_1", "aabb"⟩, OrderedSet.empty.add "xmtp_group"⟩
  streamTable := streamTable
  heartbeatTimer := true
  livenessTimer := true
  identityStore := ⟨[boundRow], true, by decide, by decide⟩

theorem nothing_opened : ∀ stream ∈ ([] : List CoreStream), stream.handle < 0 := nofun

def noStreams : StreamTable := ⟨[], [], 0, nothing_opened⟩

/-- The chat has a mapping, an identity and a client. -/
def sampleCleanup (streamTable : StreamTable) : CleanupState :=
  ⟨none, none, sampleMappings, boundCore streamTable, .empty⟩

theorem sampleCleanup_cleansUp : CleansUp (sampleCleanup noStreams) (some "conv_chat")
    "xmtp_group" := by
  refine ⟨?_, ?_, fun _ _ stream hOpen => nomatch hOpen⟩
  · intro row hRow id _ _
    rw [List.mem_singleton.mp hRow]
    refine ⟨by decide, ?_⟩
    intro other hOther _
    exact List.mem_singleton.mp hOther
  · intro identityId client hGet _
    right
    refine ⟨boundRow, by decide, ?_⟩
    by_contra hNe
    have hNone : (sampleCleanup noStreams).core.registry.get identityId = none := by
      have hNe' : identityId ≠ "inbox_1" := fun hEq => hNe hEq.symm
      show ((AssocMap.empty : AssocMap String GroupClient).set "inbox_1" _).get identityId = none
      rw [AssocMap.get_set_of_ne _ _ hNe', AssocMap.get_empty]
    rw [hNone] at hGet
    cases hGet

theorem cleanup_complete_without_streams :
    CleanupComplete {} 0 (sampleCleanup noStreams)
      (cleanupLocalState {} 0 (sampleCleanup noStreams) (some "conv_chat") "xmtp_group" true).1
      (some "conv_chat") "xmtp_group" := by
  have hDone : cleanupLocalState {} 0 (sampleCleanup noStreams) (some "conv_chat") "xmtp_group"
      true = (_, .ok ⟨true, [.removeMapping ⟨"xmtp_group", "conv_chat"⟩,
        .removeIdentity "inbox_1"]⟩) := rfl
  exact (cleanup_complete_iff hDone).mpr sampleCleanup_cleansUp

/-- The client of the identity reads its messages. -/
def openStreams : StreamTable := noStreams.openStream "inbox_1" .messages

/-- The identity is removed, and its stream stays open. -/
theorem cleanup_leaves_stream :
    ∃ deps now s after chatId groupId answer,
      cleanupLocalState deps now s chatId groupId true = (after, .ok answer) ∧
        ¬ CleanupComplete deps now s after chatId groupId := by
  refine ⟨{}, 0, sampleCleanup openStreams, _, some "conv_chat", "xmtp_group", _, rfl, ?_⟩
  intro hComplete
  refine hComplete.cleanedUp.streams boundRow (List.mem_singleton.mpr rfl) ?_
    ⟨"inbox_1", .messages, 0⟩ (List.mem_singleton.mpr rfl) rfl
  decide

end Cli
end Signet
