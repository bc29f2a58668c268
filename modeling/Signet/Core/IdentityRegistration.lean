import Signet.Core.IdentityStore
import Signet.Core.InviteCrypto

/-!
# Registering an identity

A row is created for an identity, its keys are asked for, a client is registered with the network,
and the inbox id of the client is written into the row.  Whatever fails on the way, the row is
removed again.

* `IdentityStore.create`, `IdentityStore.setInboxIdUnless` — the two writes, with what the database
  can turn down.
* `registerIdentity` — the registration.
* `Extends`, `Registers` — one row more; one row more with an inbox.
* `Extends.remove` — to remove the row that has come in leaves what was there before.
* `registerIdentity_registers` — a registration that fails changes nothing, and one that succeeds
  adds one row.
-/

namespace Signet
namespace Core

open Kit Schemas

/-! ## Writing rows -/

/-- What is drawn for a new row, and what the database says of its own accord. -/
structure DrawnRow where
  id : String
  createdAt : Int
  /-- The text of an exception that is not about a key. -/
  failure : Option String := none

namespace IdentityStore

/-- The keys of a row are not in use. -/
structure Admits (store : IdentityStore) (row : IdentityRow) : Prop where
  id_free : ∀ other ∈ store.rows, other.id ≠ row.id
  groupId_free : ∀ groupId ∈ row.groupId, ∀ other ∈ store.rows, other.groupId ≠ some groupId
  label_free : ∀ label ∈ row.label, ∀ other ∈ store.rows, other.label ≠ some label

theorem admits_iff {store : IdentityStore} {row : IdentityRow} :
    store.Admits row ↔ (∀ other ∈ store.rows, other.id ≠ row.id) ∧
      (∀ groupId ∈ row.groupId, ∀ other ∈ store.rows, other.groupId ≠ some groupId) ∧
        ∀ label ∈ row.label, ∀ other ∈ store.rows, other.label ≠ some label :=
  ⟨fun h => ⟨h.id_free, h.groupId_free, h.label_free⟩, fun h => ⟨h.1, h.2.1, h.2.2⟩⟩

instance (store : IdentityStore) (row : IdentityRow) : Decidable (store.Admits row) :=
  decidable_of_iff' _ admits_iff

/-- The insert statement of `create`. -/
def insertRow (store : IdentityStore) (row : IdentityRow) (h : store.Admits row) :
    IdentityStore where
  rows := store.rows ++ [row]
  uniqueInboxIds := store.uniqueInboxIds
  ids_nodup := by
    rw [List.map_append, List.nodup_append]
    refine ⟨store.ids_nodup, List.nodup_singleton _, ?_⟩
    intro id hId id' hNew hSame
    obtain ⟨other, hOther, rfl⟩ := List.mem_map.mp hId
    rw [List.map_singleton, List.mem_singleton] at hNew
    exact h.id_free other hOther (hSame.trans hNew)
  groupIds_nodup := by
    rw [List.filterMap_append, List.nodup_append]
    refine ⟨store.groupIds_nodup, ?_, ?_⟩
    · cases hGroup : row.groupId with
      | none => simp [hGroup]
      | some groupId => simp [hGroup]
    · intro groupId hOld groupId' hNew hSame
      obtain ⟨other, hOther, hOtherGroup⟩ := List.mem_filterMap.mp hOld
      obtain ⟨new, hMem, hNewGroup⟩ := List.mem_filterMap.mp hNew
      rw [List.mem_singleton.mp hMem, ← hSame] at hNewGroup
      exact h.groupId_free groupId hNewGroup other hOther hOtherGroup

/-- The text of the exception when a key is in use. -/
def constraintCause (store : IdentityStore) (row : IdentityRow) : String :=
  "SQLiteError: UNIQUE constraint failed: identities." ++
    if ∃ other ∈ store.rows, other.id = row.id then "id"
    else if ∃ groupId ∈ row.groupId, ∃ other ∈ store.rows, other.groupId = some groupId then
      "group_id"
    else "label"

def create (store : IdentityStore) (drawn : DrawnRow) (groupId label : Option String) :
    IdentityStore × Except SignetError IdentityRow :=
  let row : IdentityRow := ⟨drawn.id, none, groupId, label, drawn.createdAt⟩
  let failed (cause : String) : SignetError :=
    InternalError.create "Failed to create identity" (some [("cause", .text cause)])
  match drawn.failure with
  | some cause => (store, .error (failed cause))
  | none =>
    if h : store.Admits row then (store.insertRow row h, .ok row)
    else (store, .error (failed (store.constraintCause row)))

/-- `setInboxId` on a database whose update can fail of its own accord. -/
def setInboxIdUnless (store : IdentityStore) (failure : Option String) (id inboxId : String) :
    IdentityStore × Except SignetError Unit :=
  match failure, store.getById id with
  | some cause, some _ =>
    (store, .error (InternalError.create "Failed to persist inbox ID"
      (some [("identityId", .text id), ("inboxId", .text inboxId), ("cause", .text cause)])))
  | _, _ => store.setInboxId id inboxId

end IdentityStore

namespace IdentityRegistration

/-! ## The registration -/

structure RegistrationConfig where
  dataDir : String
  env : String
  appVersion : String

structure SignerAnswers where
  getDbEncryptionKey : Except SignetError Bytes
  getXmtpIdentityKey : Except SignetError String

structure XmtpClientCreateOptions where
  identityId : String
  dbPath : String
  dbEncryptionKey : Bytes
  env : String
  appVersion : String
  signerPrivateKey : String

structure RegisterIdentityInput where
  label : Option String := none
  groupId : Option String := none

structure RegisteredIdentity where
  identityId : String
  inboxId : String
  address : String
  env : String
  label : Option String

/-- What is outside of the store while an identity is registered. -/
structure RegistrationWorld where
  drawn : DrawnRow
  /-- The signer of an identity, asked for its keys. -/
  signerProviderFactory : String → SignerAnswers
  /-- The address of the account of a private key. -/
  addressOf : String → String
  createClient : XmtpClientCreateOptions → Except SignetError String
  /-- The text of an exception at the update of the row. -/
  updateFailure : Option String := none

def resolveDbPath (dataDir env identityId : String) : String :=
  if dataDir = ":memory:" then ":memory:"
  else dataDir ++ "/db/" ++ env ++ "/" ++ identityId ++ ".db3"

def clientOptions (config : RegistrationConfig) (identityId : String) (dbEncryptionKey : Bytes)
    (signerPrivateKey : String) : XmtpClientCreateOptions where
  identityId := identityId
  dbPath := resolveDbPath config.dataDir config.env identityId
  dbEncryptionKey := dbEncryptionKey
  env := config.env
  appVersion := config.appVersion
  signerPrivateKey := signerPrivateKey

/-- An identity is removed, whatever comes of that, and an error is returned. -/
def abandoned {β : Type} (store : IdentityStore) (identityId : String) (error : SignetError) :
    IdentityStore × Except SignetError β :=
  ((store.remove identityId).1, .error error)

/-- Orchestrates registering a new XMTP identity on the network. -/
def registerIdentity (config : RegistrationConfig) (world : RegistrationWorld)
    (store : IdentityStore) (input : RegisterIdentityInput) :
    IdentityStore × Except SignetError RegisteredIdentity :=
  -- step 1: create the row
  match store.create world.drawn input.groupId input.label with
  | (store, .error error) => (store, .error error)
  | (store, .ok identity) =>
    -- step 2: derive signing keys
    let signer := world.signerProviderFactory identity.id
    match signer.getDbEncryptionKey with
    | .error error => abandoned store identity.id error
    | .ok dbKey =>
      match signer.getXmtpIdentityKey with
      | .error error => abandoned store identity.id error
      | .ok identityKey =>
        -- step 3: create the client
        match world.createClient (clientOptions config identity.id dbKey identityKey) with
        | .error error => abandoned store identity.id error
        | .ok inboxId =>
          -- step 4: persist the inbox id
          match store.setInboxIdUnless world.updateFailure identity.id inboxId with
          | (store, .error _) =>
            abandoned store identity.id
              (InternalError.create "Failed to persist inbox ID"
                (some [("identityId", .text identity.id), ("inboxId", .text inboxId)]))
          | (store, .ok ()) =>
            (store, .ok ⟨identity.id, inboxId, world.addressOf identityKey, config.env,
              input.label⟩)

/-! ## One row more -/

/-- The rows are those of before and one more. -/
structure Extends (before after : IdentityStore) (row : IdentityRow) : Prop where
  rows_eq : after.rows = before.rows ++ [row]
  uniqueInboxIds_eq : after.uniqueInboxIds = before.uniqueInboxIds

namespace Extends

variable {before after : IdentityStore} {row : IdentityRow}

variable (h : Extends before after row)

include h

theorem mem : row ∈ after.rows := by
  rw [h.rows_eq]
  exact List.mem_append_right _ (List.mem_singleton_self row)

theorem id_free : ∀ other ∈ before.rows, other.id ≠ row.id := by
  have hNodup := after.ids_nodup
  rw [h.rows_eq, List.map_append, List.nodup_append] at hNodup
  intro other hOther hSame
  exact hNodup.2.2 other.id (List.mem_map_of_mem hOther) row.id (by simp) hSame

theorem remove : (after.remove row.id).1 = before := by
  rw [IdentityStore.remove_of_mem h.mem]
  apply IdentityStore.ext
  · have hKept : before.rows.filter (fun other => other.id ≠ row.id) = before.rows := by
      rw [List.filter_eq_self]
      intro other hOther
      exact decide_eq_true (h.id_free other hOther)
    show after.rows.filter (fun other => other.id ≠ row.id) = before.rows
    rw [h.rows_eq, List.filter_append, hKept]
    simp
  · exact h.uniqueInboxIds_eq

theorem updateInboxId (inboxId : String) :
    Extends before (after.updateInboxId row.id inboxId) { row with inboxId := some inboxId } := by
  refine ⟨?_, h.uniqueInboxIds_eq⟩
  have hOthers : before.rows.map (IdentityStore.writeInboxId row.id inboxId) = before.rows := by
    have hSame : ∀ other ∈ before.rows,
        IdentityStore.writeInboxId row.id inboxId other = id other :=
      fun other hOther => if_neg (h.id_free other hOther)
    rw [List.map_congr_left hSame, List.map_id]
  show after.rows.map (IdentityStore.writeInboxId row.id inboxId) = _
  rw [h.rows_eq, List.map_append, hOthers]
  simp [IdentityStore.writeInboxId]

end Extends

theorem create_cases (store : IdentityStore) (drawn : DrawnRow)
    (groupId label : Option String) :
    (∃ error, store.create drawn groupId label = (store, .error error)) ∨
      ∃ after row, store.create drawn groupId label = (after, .ok row) ∧ row.id = drawn.id ∧
        Extends store after row := by
  unfold IdentityStore.create
  cases drawn.failure with
  | some cause => exact Or.inl ⟨_, rfl⟩
  | none =>
    by_cases hAdmits : store.Admits ⟨drawn.id, none, groupId, label, drawn.createdAt⟩
    · exact Or.inr ⟨_, _, dif_pos hAdmits, rfl, rfl, rfl⟩
    · exact Or.inl ⟨_, dif_neg hAdmits⟩

theorem setInboxIdUnless_cases {before after : IdentityStore} {row : IdentityRow}
    (h : Extends before after row) (failure : Option String) (inboxId : String) :
    (∃ error, after.setInboxIdUnless failure row.id inboxId = (after, .error error)) ∨
      after.setInboxIdUnless failure row.id inboxId =
        (after.updateInboxId row.id inboxId, .ok ()) := by
  unfold IdentityStore.setInboxIdUnless
  rw [IdentityStore.getById_of_mem h.mem]
  cases failure with
  | some cause => exact Or.inl ⟨_, rfl⟩
  | none =>
    rcases IdentityStore.setInboxId_of_mem inboxId h.mem with ⟨-, hSet⟩ | ⟨-, error, hSet⟩
    · exact Or.inr hSet
    · exact Or.inl ⟨error, hSet⟩

/-- One row has come in, for an identity with an inbox. -/
def Registers (before after : IdentityStore) (identityId inboxId : String) : Prop :=
  ∃ row, Extends before after row ∧ row.id = identityId ∧ row.inboxId = some inboxId

theorem abandoned_fst {β : Type} {before after : IdentityStore} {row : IdentityRow}
    (h : Extends before after row) (error : SignetError) :
    (@abandoned β after row.id error).1 = before :=
  h.remove

/-- A registration that fails changes nothing, and one that succeeds adds one row, for the
identity with its inbox. -/
theorem registerIdentity_registers (config : RegistrationConfig) (world : RegistrationWorld)
    (store : IdentityStore) (input : RegisterIdentityInput) :
    (∃ error, registerIdentity config world store input = (store, .error error)) ∨
      ∃ after registered, registerIdentity config world store input = (after, .ok registered) ∧
        Registers store after registered.identityId registered.inboxId := by
  unfold registerIdentity
  rcases create_cases store world.drawn input.groupId input.label with
    ⟨error, hCreate⟩ | ⟨created, row, hCreate, -, hExtends⟩
  · left
    simp only [hCreate]
    exact ⟨error, rfl⟩
  · have hGone : ∀ error : SignetError,
        (abandoned created row.id error : IdentityStore × Except SignetError RegisteredIdentity) =
          (store, .error error) :=
      fun error => Prod.ext (abandoned_fst hExtends error) rfl
    simp only [hCreate]
    cases (world.signerProviderFactory row.id).getDbEncryptionKey with
    | error error => exact Or.inl ⟨error, hGone error⟩
    | ok dbKey =>
      cases (world.signerProviderFactory row.id).getXmtpIdentityKey with
      | error error => exact Or.inl ⟨error, hGone error⟩
      | ok identityKey =>
        cases hClient : world.createClient (clientOptions config row.id dbKey identityKey) with
        | error error =>
          simp only [hClient]
          exact Or.inl ⟨error, hGone error⟩
        | ok inboxId =>
          simp only [hClient]
          rcases setInboxIdUnless_cases hExtends world.updateFailure inboxId with
            ⟨error, hSet⟩ | hSet
          · simp only [hSet]
            exact Or.inl ⟨_, hGone _⟩
          · simp only [hSet]
            exact Or.inr ⟨_, _, rfl, _, hExtends.updateInboxId inboxId, rfl, rfl⟩

end IdentityRegistration
end Core
end Signet
