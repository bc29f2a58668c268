import Signet.Keys.Vault
import Signet.Kit.Machine
import Signet.Kit.NamedMap
import Signet.Kit.OrderedSet
import Signet.Kit.Sorting
import Mathlib.Data.List.Lex

/-!
# Secrets over a vault and a legacy directory

The secrets of the early runtime layers are kept in the vault.  Older versions kept them in a
directory of hexadecimal files, and a secret that is still there moves into the vault when it is
read or written.

* `SecretVault` — the secrets of a vault, in memory or in files.
* `CompatStore` — the vault over the legacy directory, with `get`, `set`, `delete` and `list`.
* `SecretMap`, `MapStep` — one map of keys to byte strings, and what its operations may answer.
* `CompatStore.content` — the map that a store stands for: the vault shadows the directory.
* `compat_refines_map` — every run of the store is one of its map.
-/

namespace Signet
namespace Keys

open Kit Schemas
open Signet.Core

/-! ## The host -/

/-- The names of files, the directory listing and the encryption of the host.  What throws has no
value. -/
structure SecretHost where
  encodeURIComponent (text : String) : String
  decodeURIComponent (text : String) : Option String
  decode_encode : ∀ text, decodeURIComponent (encodeURIComponent text) = some text
  /-- The order in which `readdirSync` lists the files of a directory. -/
  readdir (names : List String) : List String
  readdir_perm : ∀ names, (readdir names).Perm names
  /-- `crypto.subtle.encrypt` with the key of the vault -/
  encrypt (iv plaintext : Bytes) : Bytes
  /-- `crypto.subtle.decrypt` with the key of the vault -/
  decrypt (iv ciphertext : Bytes) : Option Bytes
  decrypt_encrypt : ∀ iv plaintext, decrypt iv (encrypt iv plaintext) = some plaintext
  /-- The text of the exception that `decrypt` throws. -/
  decryptFailure : String

/-- The bytes that `getRandomValues` draws for one encryption. -/
structure SecretIv where
  bytes : Bytes
  size : bytes.length = 12
deriving DecidableEq

/-- What the environment makes of an operation: the exceptions of the files it reads, and the end
of its write. -/
structure SecretEnv where
  vaultRead : Option String
  legacyRead : Option String
  write : WriteOutcome
  iv : SecretIv
  /-- The empty legacy directory can be removed. -/
  rmdir : Bool

/-! ## The secrets of a vault -/

section

variable (host : SecretHost)

/-- `encryptSecret` -/
def encryptSecret (iv : SecretIv) (plaintext : Bytes) : Bytes :=
  iv.bytes ++ host.encrypt iv.bytes plaintext

/-- `decryptSecret` -/
def decryptSecret (data : Bytes) : Option Bytes := host.decrypt (data.take 12) (data.drop 12)

theorem decryptSecret_encryptSecret (iv : SecretIv) (plaintext : Bytes) :
    decryptSecret host (encryptSecret host iv plaintext) = some plaintext := by
  unfold decryptSecret encryptSecret
  rw [List.take_append_of_le_length (Nat.le_of_eq iv.size.symm),
    List.take_of_length_le (Nat.le_of_eq iv.size),
    List.drop_append_of_le_length (Nat.le_of_eq iv.size.symm),
    List.drop_of_length_le (Nat.le_of_eq iv.size), List.nil_append]
  exact host.decrypt_encrypt iv.bytes plaintext

/-- `encodeSecretName` -/
def encodeSecretName (name : String) : String := host.encodeURIComponent name

/-- `decodeSecretName` -/
def decodeSecretName (filename : String) : Option String :=
  let chars := filename.toList
  if ".bin".toList <:+ chars then
    host.decodeURIComponent (String.ofList (chars.take (chars.length - 4)))
  else none

def secretPath (kind : VaultKind) (name : String) : String :=
  match kind with
  | .memory => name
  | .file => encodeSecretName host name ++ ".bin"

def secretName? (kind : VaultKind) (path : String) : Option String :=
  match kind with
  | .memory => some path
  | .file => decodeSecretName host path

theorem secretName?_secretPath (kind : VaultKind) (name : String) :
    secretName? host kind (secretPath host kind name) = some name := by
  cases kind with
  | memory => rfl
  | file =>
    simp only [secretName?, decodeSecretName, secretPath, encodeSecretName, String.toList_append]
    rw [if_pos (List.suffix_append _ _), List.length_append,
      show ".bin".toList.length = 4 from rfl, Nat.add_sub_cancel, List.take_left,
      String.ofList_toList]
    exact host.decode_encode name

theorem secretPath_injective (kind : VaultKind) : Function.Injective (secretPath host kind) := by
  intro name name' hPath
  have hName := secretName?_secretPath host kind name
  rw [hPath, secretName?_secretPath] at hName
  exact (Option.some.inj hName).symm

end

/-- The secrets of a vault: the bytes in memory, or the contents of the files. -/
abbrev SecretVault (host : SecretHost) (kind : VaultKind) :=
  NamedMap (secretPath host kind) Bytes

/-- The code units of a text, in the order of which `sort` puts texts. -/
def codeUnits (text : String) : List Nat :=
  text.toList.flatMap fun c =>
    if c.toNat < 0x10000 then [c.toNat]
    else [0xD800 + (c.toNat - 0x10000) / 0x400, 0xDC00 + (c.toNat - 0x10000) % 0x400]

namespace SecretVault

variable {host : SecretHost} {kind : VaultKind}

def kept (host : SecretHost) (kind : VaultKind) (iv : SecretIv) (value : Bytes) : Bytes :=
  match kind with
  | .memory => value
  | .file => encryptSecret host iv value

/-- The secret in what is kept. -/
def opened? (host : SecretHost) (kind : VaultKind) (data : Bytes) : Option Bytes :=
  match kind with
  | .memory => some data
  | .file => decryptSecret host data

theorem opened?_kept (iv : SecretIv) (value : Bytes) :
    opened? host kind (kept host kind iv value) = some value := by
  cases kind with
  | memory => rfl
  | file => exact decryptSecret_encryptSecret host iv value

/-- What comes of the write of a vault; one of maps cannot fail. -/
def writeOf (kind : VaultKind) (env : SecretEnv) : WriteOutcome :=
  match kind with
  | .memory => .ok
  | .file => env.write

/-- `set` -/
def set (vault : SecretVault host kind) (name : String) (value : Bytes) (env : SecretEnv) :
    SecretVault host kind × Except SignetError Unit :=
  let stored := vault.store name (kept host kind env.iv value)
  match writeOf kind env with
  | .ok => (stored, .ok ())
  | .failed cause => (vault, .error (InternalError.create "Failed to store vault secret"
      (some [("name", .text name), ("cause", .text cause)])))
  | .failedAfter cause => (stored, .error (InternalError.create "Failed to store vault secret"
      (some [("name", .text name), ("cause", .text cause)])))

def readError (name cause : String) : SignetError :=
  InternalError.create "Failed to read vault secret"
    (some [("name", .text name), ("cause", .text cause)])

/-- `get` -/
def get (vault : SecretVault host kind) (name : String) (env : SecretEnv) :
    Except SignetError Bytes :=
  match vault.find name with
  | none => .error (NotFoundError.create "VaultSecret" name)
  | some data =>
    match kind with
    | .memory => .ok data
    | .file =>
      match env.vaultRead with
      | some cause => .error (readError name cause)
      | none =>
        match decryptSecret host data with
        | none => .error (readError name host.decryptFailure)
        | some plaintext => .ok plaintext

/-- `delete` -/
def delete (vault : SecretVault host kind) (name : String) :
    SecretVault host kind × Except SignetError Unit :=
  match vault.find name with
  | none => (vault, .error (NotFoundError.create "VaultSecret" name))
  | some _ => (vault.remove name, .ok ())

/-- `list` -/
def list (vault : SecretVault host kind) : List String :=
  let names :=
    match kind with
    | .memory => vault.names
    | .file => host.readdir vault.names
  sortByKey codeUnits (names.filterMap (secretName? host kind))

theorem mem_list (vault : SecretVault host kind) (name : String) :
    name ∈ vault.list ↔ (vault.find name).isSome = true := by
  unfold list
  rw [(sortByKey_perm codeUnits _).mem_iff]
  refine NamedMap.mem_filterMap_names (secretName?_secretPath host kind) vault ?_ name
  intro path
  cases kind with
  | memory => exact Iff.rfl
  | file => exact (host.readdir_perm vault.names).mem_iff

end SecretVault

/-! ## The legacy directory -/

/-- The files of the directory; a directory that is not there has none. -/
abbrev LegacyFiles (host : SecretHost) := Option (NamedMap host.encodeURIComponent String)

namespace LegacyFiles

variable {host : SecretHost}

/-- `hexToBytes`; a character beyond the basic plane is two code units, and no digit. -/
def hexToBytes (hex : String) : Bytes :=
  pairBytes (hex.toList.flatMap fun c => if c.toNat < 0x10000 then [c] else [c, c])

def textOf (legacy : LegacyFiles host) (key : String) : Option String :=
  Option.bind legacy fun files => files.find key

/-- `readLegacyKvEntry` -/
def readLegacyKvEntry (legacy : LegacyFiles host) (key : String) (env : SecretEnv) :
    Except SignetError Bytes :=
  match legacy.textOf key with
  | none => .error (NotFoundError.create "kv-entry" key)
  | some hex =>
    match env.legacyRead with
    | some cause => .error (InternalError.create "Failed to read legacy compat vault entry"
        (some [("key", .text key), ("cause", .text cause)]))
    | none => .ok (hexToBytes hex)

/-- `removeLegacyKvEntry`: the directory goes with its last file. -/
def removeLegacyKvEntry (legacy : LegacyFiles host) (key : String) (env : SecretEnv) :
    LegacyFiles host :=
  match legacy with
  | none => none
  | some files =>
    match files.find key with
    | none => some files
    | some _ =>
      let rest := files.remove key
      if rest.names = [] && env.rmdir then none else some rest

/-- `listLegacyKvEntries` -/
def listLegacyKvEntries (legacy : LegacyFiles host) : List String :=
  match legacy with
  | none => []
  | some files => (host.readdir files.names).filterMap host.decodeURIComponent

theorem encode_injective : Function.Injective host.encodeURIComponent := by
  intro key key' hName
  have hKey := host.decode_encode key
  rw [hName, host.decode_encode] at hKey
  exact (Option.some.inj hKey).symm

theorem textOf_remove (legacy : LegacyFiles host) (key other : String) (env : SecretEnv) :
    (legacy.removeLegacyKvEntry key env).textOf other =
      if other = key then none else legacy.textOf other := by
  cases legacy with
  | none => simp [removeLegacyKvEntry, textOf]
  | some files =>
    have hRest : (files.remove key).find other =
        if other = key then none else files.find other :=
      NamedMap.find_remove encode_injective files key other
    simp only [removeLegacyKvEntry]
    split
    · next hNone =>
      show files.find other = if other = key then none else files.find other
      split
      · next hEq => rw [hEq, hNone]
      · rfl
    · split
      · next hEmpty =>
        -- nothing is found in what has no names
        show none = if other = key then none else files.find other
        rw [← hRest]
        cases hFound : (files.remove key).find other with
        | none => rfl
        | some hex =>
          have hName : host.encodeURIComponent other ∈ (files.remove key).names :=
            AssocMap.mem_keys.mpr ⟨hex, hFound⟩
          simp only [Bool.and_eq_true, decide_eq_true_eq] at hEmpty
          rw [hEmpty.1] at hName
          cases hName
      · exact hRest

theorem mem_listLegacyKvEntries (legacy : LegacyFiles host) (key : String) :
    key ∈ legacy.listLegacyKvEntries ↔ (legacy.textOf key).isSome = true := by
  cases legacy with
  | none => simp [listLegacyKvEntries, textOf]
  | some files =>
    exact NamedMap.mem_filterMap_names host.decode_encode files
      (fun _ => (host.readdir_perm files.names).mem_iff) key

end LegacyFiles

/-! ## The store -/

/-- A vault over the legacy directory. -/
structure CompatStore (host : SecretHost) (kind : VaultKind) where
  vault : SecretVault host kind
  legacy : LegacyFiles host

inductive SecretOperation where
  | get (key : String) (env : SecretEnv)
  | set (key : String) (value : Bytes) (env : SecretEnv)
  | delete (key : String) (env : SecretEnv)
  | list

/-- What an operation answers. -/
inductive SecretReply where
  | bytes (result : Except SignetError Bytes)
  | done (result : Except SignetError Unit)
  | keys (names : List String)
deriving DecidableEq

namespace CompatStore

variable {host : SecretHost} {kind : VaultKind}

/-- `get` -/
def get (store : CompatStore host kind) (key : String) (env : SecretEnv) :
    CompatStore host kind × Except SignetError Bytes :=
  match store.vault.get key env with
  | .ok current => (store, .ok current)
  | .error error =>
    if error.tag ≠ .notFoundError then (store, .error error)
    else
      match store.legacy.readLegacyKvEntry key env with
      | .error legacyError => (store, .error legacyError)
      | .ok legacy =>
        match store.vault.set key legacy env with
        | (vault, .error migrated) => ({ store with vault := vault }, .error migrated)
        | (vault, .ok ()) =>
          (⟨vault, store.legacy.removeLegacyKvEntry key env⟩, .ok legacy)

/-- `set` -/
def set (store : CompatStore host kind) (key : String) (value : Bytes) (env : SecretEnv) :
    CompatStore host kind × Except SignetError Unit :=
  match store.vault.set key value env with
  | (vault, .ok ()) => (⟨vault, store.legacy.removeLegacyKvEntry key env⟩, .ok ())
  | (vault, .error error) => ({ store with vault := vault }, .error error)

/-- `delete` -/
def delete (store : CompatStore host kind) (key : String) (env : SecretEnv) :
    CompatStore host kind × Except SignetError Unit :=
  let hadLegacy := (store.legacy.textOf key).isSome
  match store.vault.delete key with
  | (vault, .ok ()) =>
    (⟨vault, if hadLegacy then store.legacy.removeLegacyKvEntry key env else store.legacy⟩,
      .ok ())
  | (vault, .error error) =>
    if error.tag ≠ .notFoundError then ({ store with vault := vault }, .error error)
    else if hadLegacy then (⟨vault, store.legacy.removeLegacyKvEntry key env⟩, .ok ())
    else ({ store with vault := vault }, .error error)

/-- `list` -/
def list (store : CompatStore host kind) : List String :=
  (OrderedSet.ofList (store.vault.list ++ store.legacy.listLegacyKvEntries)).items

def perform (store : CompatStore host kind) : SecretOperation → CompatStore host kind × SecretReply
  | .get key env =>
    let (next, result) := store.get key env
    (next, .bytes result)
  | .set key value env =>
    let (next, result) := store.set key value env
    (next, .done result)
  | .delete key env =>
    let (next, result) := store.delete key env
    (next, .done result)
  | .list => (store, .keys store.list)

end CompatStore

/-- The operations one after the other, over an initial content. -/
def compatMachine {host : SecretHost} {kind : VaultKind} (initial : CompatStore host kind) :
    Machine (CompatStore host kind) SecretOperation SecretReply where
  init := initial
  step := fun store operation =>
    let (next, reply) := store.perform operation
    some (next, [reply])

/-! ## One map -/

/-- What is under a key: bytes, or something that no read gets at. -/
inductive Secret where
  | readable (bytes : Bytes)
  | unreadable
deriving DecidableEq

/-- A single map of secrets. -/
abbrev SecretMap := String → Option Secret

/-- The environment gets in the way of the operation somewhere. -/
def SecretEnv.Faulty (env : SecretEnv) : Prop :=
  env.vaultRead.isSome = true ∨ env.legacyRead.isSome = true ∨ env.write ≠ .ok

/-- What an operation on a map may answer, and the map after it.  An internal error needs a
faulty environment or a secret that cannot be read, and leaves the map as it is; only a write
that is reported as failed can have been made. -/
inductive MapStep (m : SecretMap) : SecretOperation → SecretReply → SecretMap → Prop
  | found (key : String) (env : SecretEnv) (bytes : Bytes) (h : m key = some (.readable bytes)) :
      MapStep m (.get key env) (.bytes (.ok bytes)) m
  | missing (key : String) (env : SecretEnv) (error : SignetError) (h : m key = none)
      (hTag : error.tag = .notFoundError) : MapStep m (.get key env) (.bytes (.error error)) m
  | unread (key : String) (env : SecretEnv) (error : SignetError)
      (h : env.Faulty ∨ m key = some .unreadable) (hTag : error.tag = .internalError) :
      MapStep m (.get key env) (.bytes (.error error)) m
  | stored (key : String) (value : Bytes) (env : SecretEnv) :
      MapStep m (.set key value env) (.done (.ok ()))
        (Function.update m key (some (.readable value)))
  | failed (key : String) (value : Bytes) (env : SecretEnv) (error : SignetError) (m' : SecretMap)
      (h : env.Faulty) (hTag : error.tag = .internalError)
      (hMap : m' = m ∨ m' = Function.update m key (some (.readable value))) :
      MapStep m (.set key value env) (.done (.error error)) m'
  | deleted (key : String) (env : SecretEnv) (h : (m key).isSome = true) :
      MapStep m (.delete key env) (.done (.ok ())) (Function.update m key none)
  | absent (key : String) (env : SecretEnv) (error : SignetError) (h : m key = none)
      (hTag : error.tag = .notFoundError) : MapStep m (.delete key env) (.done (.error error)) m
  | listed (names : List String) (hNodup : names.Nodup)
      (h : ∀ key, key ∈ names ↔ (m key).isSome = true) : MapStep m .list (.keys names) m

inductive MapRun (initial : SecretMap) : List (SecretOperation × SecretReply) → SecretMap → Prop
  | start : MapRun initial [] initial
  | step {steps : List (SecretOperation × SecretReply)} {m m' : SecretMap}
      {operation : SecretOperation} {reply : SecretReply} (hRun : MapRun initial steps m)
      (hStep : MapStep m operation reply m') :
      MapRun initial (steps ++ [(operation, reply)]) m'

theorem MapStep.none_kept {m m' : SecretMap} {operation : SecretOperation} {reply : SecretReply}
    (h : MapStep m operation reply m') {key : String} (hNone : m key = none)
    (hSet : ∀ value env, operation ≠ .set key value env) : m' key = none := by
  have hUpdate : ∀ {other : String} {entry : Option Secret}, key ≠ other →
      Function.update m other entry key = none := by
    intro other entry hNe
    rw [Function.update_of_ne hNe]
    exact hNone
  cases h with
  | stored other value env => exact hUpdate (by rintro rfl; exact hSet value env rfl)
  | failed other value env error m' hFaulty hTag hMap =>
    rcases hMap with rfl | rfl
    · exact hNone
    · exact hUpdate (by rintro rfl; exact hSet value env rfl)
  | deleted other env hSome =>
    by_cases hEq : key = other
    · rw [hEq, Function.update_self]
    · exact hUpdate hEq
  | _ => exact hNone

theorem MapStep.none_of_deleted {m m' : SecretMap} {key : String} {env : SecretEnv}
    (h : MapStep m (.delete key env) (.done (.ok ())) m') : m' key = none := by
  cases h with
  | deleted _ _ hSome => exact Function.update_self ..

/-! ## The map that a store stands for -/

namespace CompatStore

variable {host : SecretHost} {kind : VaultKind}

/-- What the vault keeps under a key, and else what the legacy directory keeps. -/
def content (store : CompatStore host kind) : SecretMap := fun key =>
  match store.vault.find key with
  | some data =>
    match SecretVault.opened? host kind data with
    | some bytes => some (.readable bytes)
    | none => some .unreadable
  | none => (store.legacy.textOf key).map fun hex => .readable (LegacyFiles.hexToBytes hex)

variable {store : CompatStore host kind} {key : String} {store' : CompatStore host kind}

theorem content_of_missing (h : store.vault.find key = none) :
    store.content key =
      (store.legacy.textOf key).map fun hex => .readable (LegacyFiles.hexToBytes hex) := by
  unfold content
  rw [h]

theorem content_congr (hVault : store'.vault.find key = store.vault.find key)
    (hLegacy : store'.legacy.textOf key = store.legacy.textOf key) :
    store'.content key = store.content key := by
  unfold content
  rw [hVault, hLegacy]

/-- A secret that the vault has been given is in the map, whatever is left of the directory. -/
theorem content_store (store : CompatStore host kind) (key : String) (value : Bytes)
    (iv : SecretIv) (legacy : LegacyFiles host)
    (hOthers : ∀ other, other ≠ key → legacy.textOf other = store.legacy.textOf other) :
    (⟨store.vault.store key (SecretVault.kept host kind iv value), legacy⟩ :
        CompatStore host kind).content =
      Function.update store.content key (some (.readable value)) := by
  have hFind := NamedMap.find_store (secretPath_injective host kind) store.vault key
  funext other
  by_cases hKey : other = key
  · subst hKey
    rw [Function.update_self]
    unfold content
    simp only [hFind, if_true, SecretVault.opened?_kept]
  · rw [Function.update_of_ne hKey]
    exact content_congr (by simp only [hFind, if_neg hKey]) (hOthers other hKey)

/-- A key that is in neither place is not in the map. -/
theorem content_drop
    (hVault : ∀ other,
      store'.vault.find other = if other = key then none else store.vault.find other)
    (hLegacy : ∀ other,
      store'.legacy.textOf other = if other = key then none else store.legacy.textOf other) :
    store'.content = Function.update store.content key none := by
  funext other
  by_cases hKey : other = key
  · subst hKey
    rw [Function.update_self, content_of_missing (by rw [hVault, if_pos rfl]), hLegacy, if_pos rfl]
    rfl
  · rw [Function.update_of_ne hKey]
    exact content_congr (by rw [hVault, if_neg hKey]) (by rw [hLegacy, if_neg hKey])

theorem content_isSome (store : CompatStore host kind) (key : String) :
    (store.content key).isSome = true ↔
      (store.vault.find key).isSome = true ∨ (store.legacy.textOf key).isSome = true := by
  unfold content
  cases store.vault.find key with
  | none => simp
  | some data =>
    dsimp only
    cases SecretVault.opened? host kind data <;> simp

/-! ## The operations on the vault -/

/-- Everything that setting a secret of the vault can do. -/
theorem vault_set_cases (vault : SecretVault host kind) (key : String) (value : Bytes)
    (env : SecretEnv) :
    vault.set key value env = (vault.store key (SecretVault.kept host kind env.iv value), .ok ()) ∨
      ∃ vault' error, vault.set key value env = (vault', .error error) ∧ env.Faulty ∧
        error.tag = .internalError ∧
        (vault' = vault ∨ vault' = vault.store key (SecretVault.kept host kind env.iv value)) := by
  have hFaulty : SecretVault.writeOf kind env ≠ .ok → env.Faulty := by
    intro hWrite
    cases kind with
    | memory => exact absurd rfl hWrite
    | file => exact Or.inr (Or.inr hWrite)
  unfold SecretVault.set
  cases hWrite : SecretVault.writeOf kind env with
  | ok => exact Or.inl rfl
  | failed cause =>
    exact Or.inr ⟨_, _, rfl, hFaulty (by rw [hWrite]; simp), rfl, Or.inl rfl⟩
  | failedAfter cause =>
    exact Or.inr ⟨_, _, rfl, hFaulty (by rw [hWrite]; simp), rfl, Or.inr rfl⟩

/-- Everything that getting a secret of the vault can answer. -/
theorem vault_get_cases (vault : SecretVault host kind) (key : String) (env : SecretEnv) :
    (vault.find key = none ∧
      vault.get key env = .error (NotFoundError.create "VaultSecret" key)) ∨
    ∃ data, vault.find key = some data ∧
      ((∃ bytes, SecretVault.opened? host kind data = some bytes ∧
          vault.get key env = .ok bytes) ∨
        ∃ error, vault.get key env = .error error ∧ error.tag = .internalError ∧
          (env.Faulty ∨ SecretVault.opened? host kind data = none)) := by
  unfold SecretVault.get
  cases vault.find key with
  | none => exact Or.inl ⟨rfl, rfl⟩
  | some data =>
    refine Or.inr ⟨data, rfl, ?_⟩
    cases kind with
    | memory => exact Or.inl ⟨data, rfl, rfl⟩
    | file =>
      dsimp only
      cases hRead : env.vaultRead with
      | some cause =>
        exact Or.inr ⟨_, rfl, rfl, Or.inl (Or.inl (by rw [hRead]; rfl))⟩
      | none =>
        cases hOpened : decryptSecret host data with
        | none => exact Or.inr ⟨_, rfl, rfl, Or.inr hOpened⟩
        | some plaintext => exact Or.inl ⟨plaintext, hOpened, rfl⟩

/-! ## One operation -/

variable (store : CompatStore host kind)

theorem get_mapStep (key : String) (env : SecretEnv) :
    MapStep store.content (.get key env) (.bytes (store.get key env).2)
      (store.get key env).1.content := by
  unfold get
  rcases vault_get_cases store.vault key env with
    ⟨hFind, hGet⟩ | ⟨data, hFind, ⟨bytes, hOpened, hGet⟩ | ⟨error, hGet, hTag, hWhy⟩⟩
  · rw [hGet]
    have hContent := content_of_missing hFind
    have hHere : ¬ (NotFoundError.create "VaultSecret" key).tag ≠ .notFoundError := by
      intro hNe
      exact hNe rfl
    simp only [if_neg hHere]
    unfold LegacyFiles.readLegacyKvEntry
    cases hText : store.legacy.textOf key with
    | none =>
      rw [hText] at hContent
      exact .missing key env _ hContent rfl
    | some hex =>
      rw [hText] at hContent
      cases hRead : env.legacyRead with
      | some cause =>
        exact .unread key env _ (Or.inl (Or.inr (Or.inl (by rw [hRead]; rfl)))) rfl
      | none =>
        -- the entry moves into the vault, where it has been in the map before
        have hSame : Function.update store.content key
            (some (.readable (LegacyFiles.hexToBytes hex))) = store.content :=
          Function.update_eq_self_iff.mpr hContent.symm
        have hMoved : ∀ legacy : LegacyFiles host,
            (∀ other, other ≠ key → legacy.textOf other = store.legacy.textOf other) →
            (⟨store.vault.store key
              (SecretVault.kept host kind env.iv (LegacyFiles.hexToBytes hex)), legacy⟩ :
                CompatStore host kind).content = store.content := by
          intro legacy hOthers
          rw [content_store store key _ env.iv legacy hOthers, hSame]
        rcases vault_set_cases store.vault key (LegacyFiles.hexToBytes hex) env with
          hSet | ⟨vault', error, hSet, hFaulty, hTag, hVault⟩
        · simp only [hSet]
          rw [hMoved]
          · exact .found key env _ hContent
          · intro other hNe
            rw [LegacyFiles.textOf_remove, if_neg hNe]
        · simp only [hSet]
          rcases hVault with rfl | rfl
          · exact .unread key env _ (Or.inl hFaulty) hTag
          · rw [hMoved store.legacy fun _ _ => rfl]
            exact .unread key env _ (Or.inl hFaulty) hTag
  · rw [hGet]
    refine .found key env bytes ?_
    simp only [content, hFind, hOpened]
  · have hStays : error.tag ≠ .notFoundError := by
      rw [hTag]
      exact nofun
    rw [hGet]
    simp only [if_pos hStays]
    refine .unread key env error (hWhy.imp_right ?_) hTag
    intro hOpened
    simp only [content, hFind, hOpened]

theorem set_mapStep (key : String) (value : Bytes) (env : SecretEnv) :
    MapStep store.content (.set key value env) (.done (store.set key value env).2)
      (store.set key value env).1.content := by
  unfold set
  rcases vault_set_cases store.vault key value env with
    hSet | ⟨vault', error, hSet, hFaulty, hTag, hVault⟩
  · rw [hSet]
    dsimp only
    rw [content_store store key value env.iv]
    · exact .stored key value env
    · intro other hNe
      rw [LegacyFiles.textOf_remove, if_neg hNe]
  · rw [hSet]
    refine .failed key value env error _ hFaulty hTag ?_
    rcases hVault with rfl | rfl
    · exact Or.inl rfl
    · exact Or.inr (content_store store key value env.iv store.legacy fun _ _ => rfl)

theorem delete_mapStep (key : String) (env : SecretEnv) :
    MapStep store.content (.delete key env) (.done (store.delete key env).2)
      (store.delete key env).1.content := by
  have hRemoved := fun other => LegacyFiles.textOf_remove store.legacy key other env
  unfold delete SecretVault.delete
  cases hFind : store.vault.find key with
  | some data =>
    let legacy :=
      if (store.legacy.textOf key).isSome then store.legacy.removeLegacyKvEntry key env
      else store.legacy
    have hLegacy : ∀ other,
        legacy.textOf other = if other = key then none else store.legacy.textOf other := by
      intro other
      show LegacyFiles.textOf (if _ then _ else _) other = _
      split
      · exact hRemoved other
      · next hNone =>
        split
        · next hEq =>
          rw [hEq]
          exact Option.not_isSome_iff_eq_none.mp hNone
        · rfl
    have hContent : (⟨store.vault.remove key, legacy⟩ : CompatStore host kind).content =
        Function.update store.content key none :=
      content_drop (NamedMap.find_remove (secretPath_injective host kind) store.vault key) hLegacy
    show MapStep store.content _ _ (CompatStore.content ⟨store.vault.remove key, legacy⟩)
    rw [hContent]
    exact .deleted key env ((content_isSome store key).mpr (Or.inl (by rw [hFind]; rfl)))
  | none =>
    have hHere : ¬ (NotFoundError.create "VaultSecret" key).tag ≠ .notFoundError := by
      intro hNe
      exact hNe rfl
    simp only [if_neg hHere]
    by_cases hLegacy : (store.legacy.textOf key).isSome = true
    · rw [if_pos hLegacy]
      have hContent : (⟨store.vault, store.legacy.removeLegacyKvEntry key env⟩ :
          CompatStore host kind).content = Function.update store.content key none := by
        refine content_drop ?_ hRemoved
        intro other
        split
        · next hEq => rw [hEq, hFind]
        · rfl
      show MapStep store.content _ _ (CompatStore.content ⟨store.vault, _⟩)
      rw [hContent]
      exact .deleted key env ((content_isSome store key).mpr (Or.inr hLegacy))
    · rw [if_neg hLegacy]
      refine .absent key env _ ?_ rfl
      rw [content_of_missing hFind, Option.not_isSome_iff_eq_none.mp hLegacy]
      rfl

theorem list_mapStep : MapStep store.content .list (.keys store.list) store.content := by
  refine .listed store.list (OrderedSet.nodup _) ?_
  intro key
  have hList : key ∈ store.list ↔ key ∈ store.vault.list ++ store.legacy.listLegacyKvEntries :=
    OrderedSet.mem_ofList
  rw [hList, List.mem_append, SecretVault.mem_list, LegacyFiles.mem_listLegacyKvEntries,
    content_isSome]

theorem perform_mapStep (operation : SecretOperation) :
    MapStep store.content operation (store.perform operation).2
      (store.perform operation).1.content := by
  cases operation with
  | get key env => exact get_mapStep store key env
  | set key value env => exact set_mapStep store key value env
  | delete key env => exact delete_mapStep store key env
  | list => exact list_mapStep store

end CompatStore

/-! ## Runs -/

/-- A step of a run of the store. -/
abbrev SecretStep (host : SecretHost) (kind : VaultKind) :=
  Occurrence (CompatStore host kind) SecretOperation SecretReply

section

variable {host : SecretHost} {kind : VaultKind}

def answered (h : List (SecretStep host kind)) : List (SecretOperation × SecretReply) :=
  h.flatMap fun o => o.out.map fun reply => (o.label, reply)

theorem compatStep_eq {initial store next : CompatStore host kind} {operation : SecretOperation}
    {out : List SecretReply}
    (hStep : (compatMachine initial).step store operation = some (next, out)) :
    out = [(store.perform operation).2] ∧ next = (store.perform operation).1 := by
  have hPair := Option.some.inj hStep
  exact ⟨(congrArg Prod.snd hPair).symm, (congrArg Prod.fst hPair).symm⟩

theorem deleted_stays {initial : CompatStore host kind} {h : List (SecretStep host kind)}
    {s : CompatStore host kind} (hRun : (compatMachine initial).Runs h s) {key : String}
    {h₁ h₂ : List (SecretStep host kind)} {o : SecretStep host kind} {env : SecretEnv}
    (hSplit : h = h₁ ++ o :: h₂) (hDelete : o.label = .delete key env)
    (hDone : o.out = [.done (.ok ())])
    (hUnset : ∀ o' ∈ h₂, ∀ value env', o'.label ≠ .set key value env') :
    s.content key = none := by
  induction hRun generalizing h₂ with
  | start => simp at hSplit
  | @step h₀ store next operation out hRun' hTaken ih =>
    obtain ⟨hOut, rfl⟩ := compatStep_eq hTaken
    have hMap := store.perform_mapStep operation
    rcases List.eq_nil_or_concat h₂ with rfl | ⟨rest, last, rfl⟩
    · -- the step is the deletion
      obtain ⟨-, hLast⟩ := List.append_inj' hSplit rfl
      cases hLast
      have hReply : (store.perform operation).2 = .done (.ok ()) :=
        (List.cons.inj (hOut.symm.trans hDone)).1
      rw [hReply] at hMap
      rw [show operation = .delete key env from hDelete] at hMap ⊢
      exact hMap.none_of_deleted
    · rw [List.concat_eq_append] at hSplit hUnset
      rw [← List.cons_append, ← List.append_assoc] at hSplit
      obtain ⟨hBefore, hLast⟩ := List.append_inj' hSplit rfl
      cases hLast
      refine hMap.none_kept (ih hBefore fun o' hMem => hUnset o' ?_) ?_
      · exact List.mem_append_left _ hMem
      · exact hUnset _ (List.mem_append_right _ (List.mem_singleton.mpr rfl))

/-- **The store is one map.**  Whatever the vault and the legacy directory contain at first, every
sequence of operations is answered as by the map in which the vault shadows the directory; what a
read moves into the vault was in the map before.  A key that has been deleted is not in the map
again until it is set. -/
theorem compat_refines_map {initial : CompatStore host kind} {h : List (SecretStep host kind)}
    {s : CompatStore host kind} (hRun : (compatMachine initial).Runs h s) :
    MapRun initial.content (answered h) s.content ∧
      ∀ h₁ o h₂ key env, h = h₁ ++ o :: h₂ → o.label = .delete key env →
        o.out = [.done (.ok ())] → (∀ o' ∈ h₂, ∀ value env', o'.label ≠ .set key value env') →
          s.content key = none := by
  constructor
  · induction hRun with
    | start => exact .start
    | @step h₀ store next operation out _ hTaken ih =>
      obtain ⟨rfl, rfl⟩ := compatStep_eq hTaken
      have hAnswered : answered (h₀ ++ [⟨store, operation, [(store.perform operation).2]⟩]) =
          answered h₀ ++ [(operation, (store.perform operation).2)] := by
        unfold answered
        rw [List.flatMap_append]
        rfl
      rw [hAnswered]
      exact .step ih (store.perform_mapStep operation)
  · intro h₁ o h₂ key env hSplit hDelete hDone hUnset
    exact deleted_stays hRun hSplit hDelete hDone hUnset

end

/-! ## A key that moves -/

/-- A host that encodes and encrypts nothing. -/
def plainHost : SecretHost where
  encodeURIComponent := fun text => text
  decodeURIComponent := some
  decode_encode := fun _ => rfl
  readdir := fun names => names
  readdir_perm := fun names => List.Perm.refl names
  encrypt := fun _ plaintext => plaintext
  decrypt := fun _ ciphertext => some ciphertext
  decrypt_encrypt := fun _ _ => rfl
  decryptFailure := "OperationError"

/-- Nothing gets in the way. -/
def calmEnv : SecretEnv := ⟨none, none, .ok, ⟨List.replicate 12 0, rfl⟩, true⟩

/-- A vault of files without secrets, over a directory with one. -/
def legacyAdminKey : CompatStore plainHost .file :=
  ⟨.empty, some (NamedMap.empty.store "admin-key" "0aff")⟩

def readsSecret : List SecretOperation := [.list, .get "admin-key" calmEnv, .list]

/-- It is looked for once more. -/
def looksForSecret : List SecretOperation := [.get "admin-key" calmEnv, .list]

def deletesDone (h : List (SecretStep plainHost .file)) : Bool :=
  h.all fun o =>
    match o.label with
    | .delete _ _ => o.out = [.done (.ok ())]
    | _ => true

theorem readsSecret_deletesDone :
    (compatMachine legacyAdminKey).Executes
      (readsSecret ++ .delete "admin-key" calmEnv :: looksForSecret) fun h _ =>
        deletesDone h = true := by
  decide

theorem compat_refines_map_deleted :
    ∃ (h : List (SecretStep plainHost .file)) (s : CompatStore plainHost .file),
      h.map Occurrence.label = readsSecret ++ .delete "admin-key" calmEnv :: looksForSecret ∧
      MapRun legacyAdminKey.content (answered h) s.content ∧ s.content "admin-key" = none := by
  obtain ⟨h, s, hLabels, hRun, hDeletes⟩ := readsSecret_deletesDone.exists_run
  obtain ⟨hMap, hStays⟩ := compat_refines_map hRun
  refine ⟨h, s, hLabels, hMap, ?_⟩
  obtain ⟨h₁, rest, rfl, -, hRest⟩ := List.map_eq_append_iff.mp hLabels
  obtain ⟨o, h₂, rfl, hDelete, hLater⟩ := List.map_eq_cons_iff.mp hRest
  refine hStays h₁ o h₂ "admin-key" calmEnv rfl hDelete ?_ ?_
  · have hDone := List.all_eq_true.mp hDeletes o (by simp)
    rw [hDelete] at hDone
    simpa using hDone
  · intro o' hMem value env hSet
    have hLabel := List.mem_map_of_mem (f := Occurrence.label) hMem
    rw [hLater, hSet] at hLabel
    simp [looksForSecret] at hLabel

end Keys
end Signet
