import Signet.Keys.ApiKeyLifetime

/-!
# The vault in memory and the vault of files

The two vaults answer alike although one looks a token up in an index and the other tries every
key file.  The index goes stale when a key is made again or revoked, and then leads to a file that
the token does not open.  It leads past one key that is there: the key whose id is empty.

* `VaultTwin`, `vaultTwinMachine` — both vaults, operated alike.
* `Agrees` — the same results, and for a token that is looked up the same payload or no payload.
* `Paired` — every entry of one vault has its counterpart, made of the same text and secret.
* `vaults_agree_iff` — when the vaults agree along a run.
* `empty_id_disagrees` — the key with the empty id.
-/

namespace Signet
namespace Keys

open Kit Machine Schemas
open Signet.Core

/-! ## Operations on both vaults -/

structure FileId where
  name : String
  plain : '/' ∉ name.toList
deriving DecidableEq

/-- What a vault draws and reads of the clock for one file. -/
structure Drawn where
  nonces : Nonces
  createdAt : String

inductive VaultOperation where
  | createWallet (id : FileId) (label mnemonic passphrase : String) (drawn : VaultKind → Drawn)
  | readWallet (id : FileId) (passphrase : String)
  | deleteWallet (id : FileId)
  | getWalletAccounts (id : FileId)
  | updateWalletAccounts (id : FileId) (accounts : List AccountEntry)
  | createApiKey (id : FileId) (walletId mnemonic token expiresAt : String)
      (drawn : VaultKind → Drawn)
  | readApiKey (token : String)
  | revokeApiKey (id : FileId)

/-- The result of an operation, by its type. -/
inductive VaultReply where
  | done (result : Except SignetError Unit)
  | mnemonic (result : Except SignetError String)
  | accounts (result : Except SignetError (List AccountEntry))
  | payload (result : Except SignetError ApiKeyPayload)
deriving DecidableEq

def VaultReply.isErr : VaultReply → Bool
  | .done (.error _) => true
  | .mnemonic (.error _) => true
  | .accounts (.error _) => true
  | .payload (.error _) => true
  | _ => false

/-- The two vaults. -/
structure VaultTwin where
  memory : Vault
  file : Vault

variable (host : VaultHost)

/-- One operation on a vault; the file operations succeed. -/
def Vault.perform (kind : VaultKind) (vault : Vault) : VaultOperation → Vault × VaultReply
  | .createWallet id label mnemonic passphrase drawn =>
    let (next, result) := vault.createWallet kind host id.name label mnemonic passphrase
      (drawn kind).nonces (drawn kind).createdAt (.ok ())
    (next, .done result)
  | .readWallet id passphrase => (vault, .mnemonic (vault.readWallet host id.name passphrase))
  | .deleteWallet id =>
    let (next, result) := vault.deleteWallet id.name
    (next, .done result)
  | .getWalletAccounts id => (vault, .accounts (vault.getWalletAccounts id.name))
  | .updateWalletAccounts id accounts =>
    let (next, result) := vault.updateWalletAccounts kind id.name accounts (.ok ())
    (next, .done result)
  | .createApiKey id walletId mnemonic token expiresAt drawn =>
    let (next, result) := vault.createApiKey kind host id.name walletId mnemonic token expiresAt
      (drawn kind).nonces (drawn kind).createdAt (.ok ())
    (next, .done result)
  | .readApiKey token => (vault, .payload (vault.readApiKey kind host token))
  | .revokeApiKey id =>
    let (next, result) := vault.revokeApiKey kind id.name
    (next, .done result)

/-- One operation on both. -/
def VaultTwin.perform (t : VaultTwin) (operation : VaultOperation) :
    VaultTwin × VaultReply × VaultReply :=
  let memory := t.memory.perform host .memory operation
  let file := t.file.perform host .file operation
  (⟨memory.1, file.1⟩, memory.2, file.2)

/-- Both vaults, empty at first. -/
def vaultTwinMachine : Machine VaultTwin VaultOperation (VaultReply × VaultReply) where
  init := ⟨Vault.empty, Vault.empty⟩
  step := fun t operation =>
    let (next, replies) := t.perform host operation
    some (next, [replies])

/-- A step of a run of both vaults. -/
abbrev TwinStep := Occurrence VaultTwin VaultOperation (VaultReply × VaultReply)

/-- The tokens of the API keys that have been created. -/
def issuedTokens (h : List TwinStep) : List String :=
  h.filterMap fun o =>
    match o.label with
    | .createApiKey _ _ _ token _ _ => some token
    | _ => none

/-- The replies are the same; when a token is looked up, both may fail in their own way. -/
def Agrees (operation : VaultOperation) (replies : VaultReply × VaultReply) : Prop :=
  match operation with
  | .readApiKey _ => replies.1 = replies.2 ∨ (replies.1.isErr = true ∧ replies.2.isErr = true)
  | _ => replies.1 = replies.2

def opensEmptyId (vault : Vault) (token : String) : Bool :=
  match vault.apiKeys.get "" with
  | none => false
  | some file =>
    match file.open? host token with
    | .ok _ => true
    | .error _ => false

def sparesEmptyId (t : VaultTwin) : VaultOperation → Bool
  | .readApiKey token => !opensEmptyId host t.file token
  | _ => true

/-! ## The libraries -/

/-- Authenticated decryption succeeds with the right key and with no other. -/
structure VaultHost.Exact (host : VaultHost) : Prop extends host.Authentic where
  gcm_open : ∀ key iv plaintext, host.gcmDecrypt key iv (host.gcmEncrypt key iv plaintext) =
    some plaintext
  mac_key : ∀ dk dk' data, host.sha256 (dk' ++ data) = host.sha256 (dk ++ data) → dk' = dk
  scrypt_password : ∀ password password' params,
    host.scrypt password' params = host.scrypt password params → password' = password

variable {host}

theorem decryptWithScrypt_encrypt (hExact : host.Exact) (nonces : Nonces)
    (mnemonic passphrase other : String) (isTest : Bool) :
    decryptWithScrypt host (encryptWithScrypt host nonces mnemonic passphrase isTest) other =
      if other = passphrase then .ok (textDecode (textEncode mnemonic))
      else .error (AuthError.create "Wrong passphrase or corrupted wallet") := by
  unfold decryptWithScrypt encryptWithScrypt
  by_cases hSame : other = passphrase
  · subst hSame
    rw [if_pos rfl]
    simp [hExact.gcm_open]
  · have hMac : ∀ params data,
        host.sha256 (host.scrypt (textEncode other) params ++ data) ≠
          host.sha256 (host.scrypt (textEncode passphrase) params ++ data) := by
      intro params data hEq
      exact hSame (textEncode_injective
        (hExact.scrypt_password _ _ _ (hExact.mac_key _ _ _ hEq)))
    rw [if_neg hSame]
    simp [hMac]

variable {file : ApiKeyFile} {payload : ApiKeyPayload} {issued : List String} {nonces : Nonces}
  {id text token : String} {vault : Vault} {t : VaultTwin}

section

variable (hExact : host.Exact) (h : file.crypto = encryptWithHkdf host nonces text token)

include hExact h

theorem open?_of_crypto :
    file.open? host token = parseApiKeyPayload host (textDecode (textEncode text)) := by
  unfold ApiKeyFile.open? decryptWithHkdf
  rw [h]
  simp [encryptWithHkdf, hExact.gcm_open]

theorem token_of_open? {other : String} (hOpen : file.open? host other = .ok payload) :
    other = token := by
  unfold ApiKeyFile.open? decryptWithHkdf at hOpen
  rw [h] at hOpen
  simp only [encryptWithHkdf] at hOpen
  split at hOpen
  · cases hOpen
  · next decrypted hDecrypt =>
    split at hDecrypt
    · cases hDecrypt
    · next bytes hGcm =>
      have hKey := hExact.gcm_key _ _ _ _ _ hGcm
      exact textEncode_injective (hExact.hkdf_token _ _ _ _ hKey)

end

/-! ## Counterparts -/

variable (host)

inductive WalletFilePair : Option WalletFile → Option WalletFile → Prop
  | none : WalletFilePair none none
  | some (nonces nonces' : Nonces) (mnemonic passphrase : String) (memory file : WalletFile)
      (hMemory : memory.crypto = encryptWithScrypt host nonces mnemonic passphrase true)
      (hFile : file.crypto = encryptWithScrypt host nonces' mnemonic passphrase false)
      (hAccounts : memory.accounts = file.accounts) : WalletFilePair (some memory) (some file)

/-- The files of one API key in both vaults; the index knows its token. -/
inductive ApiKeyPair (indexed : String → Prop) : Option ApiKeyFile → Option ApiKeyFile → Prop
  | none : ApiKeyPair indexed none none
  | some (nonces nonces' : Nonces) (text token : String) (memory file : ApiKeyFile)
      (hMemory : memory.crypto = encryptWithHkdf host nonces text token)
      (hFile : file.crypto = encryptWithHkdf host nonces' text token)
      (hIndexed : indexed token) : ApiKeyPair indexed (some memory) (some file)

/-- Every entry has its counterpart, and the index knows issued tokens only. -/
structure Paired (issued : List String) (t : VaultTwin) : Prop where
  wallets : ∀ id, WalletFilePair host (t.memory.wallets.files.get id) (t.file.wallets.files.get id)
  keys : ∀ id, ApiKeyPair host (fun token => t.memory.tokenIndex.get token = some id)
    (t.memory.apiKeys.get id) (t.file.apiKeys.get id)
  issued : ∀ token id, t.memory.tokenIndex.get token = some id → token ∈ issued

variable {host}

theorem ApiKeyPair.imp {indexed indexed' : String → Prop} {memory file : Option ApiKeyFile}
    (h : ApiKeyPair host indexed memory file) (hImp : ∀ token, indexed token → indexed' token) :
    ApiKeyPair host indexed' memory file := by
  cases h with
  | none => exact .none
  | some nonces nonces' text token memory file hMemory hFile hIndexed =>
    exact .some nonces nonces' text token memory file hMemory hFile (hImp token hIndexed)

theorem paired_init : Paired host [] ⟨Vault.empty, Vault.empty⟩ where
  wallets := fun _ => .none
  keys := fun _ => .none
  issued := nofun

/-- The wallets of both vaults change in one file. -/
theorem Paired.setWallet (h : Paired host issued t) {memory file : WalletFile}
    (hId : memory.id = file.id) (hPair : WalletFilePair host (some memory) (some file)) :
    Paired host issued ⟨{ t.memory with wallets := t.memory.wallets.store memory },
      { t.file with wallets := t.file.wallets.store file }⟩ := by
  refine ⟨?_, h.keys, h.issued⟩
  intro id
  show WalletFilePair host ((t.memory.wallets.files.set memory.id memory).get id)
    ((t.file.wallets.files.set file.id file).get id)
  rw [AssocMap.get_set, AssocMap.get_set, hId]
  split
  · exact hPair
  · exact h.wallets id

theorem Paired.removeWallet (h : Paired host issued t) (id : String) :
    Paired host issued ⟨{ t.memory with wallets := t.memory.wallets.remove id },
      { t.file with wallets := t.file.wallets.remove id }⟩ := by
  refine ⟨?_, h.keys, h.issued⟩
  intro other
  show WalletFilePair host ((t.memory.wallets.files.delete id).get other)
    ((t.file.wallets.files.delete id).get other)
  rw [AssocMap.get_delete, AssocMap.get_delete]
  split
  · exact .none
  · exact h.wallets other

theorem Paired.setKey (h : Paired host issued t) (hFresh : token ∉ issued) {memory : ApiKeyFile}
    {nonces' : Nonces} (hMemory : memory.crypto = encryptWithHkdf host nonces text token)
    (hFile : file.crypto = encryptWithHkdf host nonces' text token) :
    Paired host (issued ++ [token])
      ⟨{ t.memory with
          apiKeys := t.memory.apiKeys.set id memory
          tokenIndex := t.memory.tokenIndex.set token id },
        { t.file with apiKeys := t.file.apiKeys.set id file }⟩ := by
  refine ⟨h.wallets, ?_, ?_⟩
  · intro other
    simp only [AssocMap.get_set]
    split
    · next hEq =>
      exact .some nonces nonces' text token memory file hMemory hFile (by simp [hEq])
    · -- the other keys keep their tokens, which have been issued before
      refine (h.keys other).imp ?_
      intro token' hIndexed
      have hNe : token' ≠ token := by
        rintro rfl
        exact hFresh (h.issued token' other hIndexed)
      rw [if_neg hNe]
      exact hIndexed
  · intro token' id' hGet
    simp only [AssocMap.get_set] at hGet
    split at hGet
    · next hEq => simp [hEq]
    · exact List.mem_append_left _ (h.issued token' id' hGet)

/-! ## Revoking a key -/

theorem get_dropToken_of_ne {tokenIndex : AssocMap String String} {id' : String}
    (hGet : tokenIndex.get token = some id') (hNe : id' ≠ id) :
    (Vault.dropToken tokenIndex id).get token = some id' := by
  unfold Vault.dropToken
  split
  · exact hGet
  · next entry hFound =>
    have hValue : entry.2 = id := by simpa using List.find?_some hFound
    have hEntry : tokenIndex.get entry.1 = some id := by
      rw [← hValue]
      exact AssocMap.get_eq_some_iff.mpr (List.mem_of_find?_eq_some hFound)
    rw [AssocMap.get_delete, if_neg]
    · exact hGet
    · rintro rfl
      rw [hEntry] at hGet
      exact hNe (Option.some.inj hGet).symm

theorem get_of_dropToken {tokenIndex : AssocMap String String} {id' : String}
    (hGet : (Vault.dropToken tokenIndex id).get token = some id') :
    tokenIndex.get token = some id' := by
  unfold Vault.dropToken at hGet
  split at hGet
  · exact hGet
  · exact (AssocMap.of_get_delete hGet).2

theorem Paired.removeKey (h : Paired host issued t) (id : String) :
    Paired host issued
      ⟨{ t.memory with
          apiKeys := t.memory.apiKeys.delete id
          tokenIndex := Vault.dropToken t.memory.tokenIndex id },
        { t.file with apiKeys := t.file.apiKeys.delete id }⟩ := by
  refine ⟨h.wallets, ?_, fun token id' hGet => h.issued token id' (get_of_dropToken hGet)⟩
  intro other
  simp only [AssocMap.get_delete]
  split
  · exact .none
  · next hNe => exact (h.keys other).imp fun token hIndexed => get_dropToken_of_ne hIndexed hNe

/-! ## Looking a token up -/

theorem firstOpened_of_only (hFile : vault.apiKeys.get id = some file)
    (hOpen : file.open? host token = .ok payload)
    (hOnly : ∀ id' file' payload', vault.apiKeys.get id' = some file' →
      file'.open? host token = .ok payload' → id' = id) {names : List String}
    (hListed : id ∈ names) : Vault.firstOpened host vault token names = some payload := by
  induction names with
  | nil => cases hListed
  | cons name names ih =>
    unfold Vault.firstOpened
    have hLater : name ≠ id → Vault.firstOpened host vault token names = some payload := by
      intro hNe
      refine ih ?_
      rcases List.mem_cons.mp hListed with rfl | hMem
      · exact absurd rfl hNe
      · exact hMem
    cases hGet : vault.apiKeys.get name with
    | none =>
      refine hLater ?_
      rintro rfl
      rw [hGet] at hFile
      cases hFile
    | some file' =>
      dsimp only
      cases hOpen' : file'.open? host token with
      | error error =>
        refine hLater ?_
        rintro rfl
        rw [hGet] at hFile
        cases hFile
        rw [hOpen'] at hOpen
        cases hOpen
      | ok payload' =>
        obtain rfl := hOnly name file' payload' hGet hOpen'
        rw [hGet] at hFile
        cases hFile
        rw [hOpen'] at hOpen
        cases hOpen
        rfl

theorem firstOpened_of_none (hNone : ∀ id file payload, vault.apiKeys.get id = some file →
      file.open? host token ≠ .ok payload) (names : List String) :
    Vault.firstOpened host vault token names = none := by
  induction names with
  | nil => rfl
  | cons name names ih =>
    unfold Vault.firstOpened
    cases hGet : vault.apiKeys.get name with
    | none => exact ih
    | some file =>
      dsimp only
      cases hOpen : file.open? host token with
      | error error => exact ih
      | ok payload => exact absurd hOpen (hNone name file payload hGet)

/-- A file that a token opens has a counterpart in memory that it opens, and the index leads
there. -/
theorem Paired.opened (h : Paired host issued t) (hExact : host.Exact)
    (hFile : t.file.apiKeys.get id = some file) (hOpen : file.open? host token = .ok payload) :
    t.memory.tokenIndex.get token = some id ∧
      ∃ memory, t.memory.apiKeys.get id = some memory ∧
        memory.open? host token = .ok payload := by
  have hPair := h.keys id
  rw [hFile] at hPair
  generalize hMemory : t.memory.apiKeys.get id = found at hPair
  cases hPair with
  | some nonces nonces' text token' memory _ hMemoryText hFileText hIndexed =>
    obtain rfl := token_of_open? hExact hFileText hOpen
    refine ⟨hIndexed, memory, rfl, ?_⟩
    rw [open?_of_crypto hExact hMemoryText, ← open?_of_crypto hExact hFileText]
    exact hOpen

theorem Paired.opened_file (h : Paired host issued t) (hExact : host.Exact) {memory : ApiKeyFile}
    (hMemory : t.memory.apiKeys.get id = some memory)
    (hOpen : memory.open? host token = .ok payload) :
    ∃ file, t.file.apiKeys.get id = some file ∧ file.open? host token = .ok payload := by
  have hPair := h.keys id
  rw [hMemory] at hPair
  generalize hFile : t.file.apiKeys.get id = found at hPair
  cases hPair with
  | some nonces nonces' text token' _ file hMemoryText hFileText hIndexed =>
    obtain rfl := token_of_open? hExact hMemoryText hOpen
    refine ⟨file, rfl, ?_⟩
    rw [open?_of_crypto hExact hFileText, ← open?_of_crypto hExact hMemoryText]
    exact hOpen

theorem opensEmptyId_iff :
    opensEmptyId host vault token = true ↔
      ∃ file payload, vault.apiKeys.get "" = some file ∧ file.open? host token = .ok payload := by
  unfold opensEmptyId
  cases hGet : vault.apiKeys.get "" with
  | none => simp
  | some file =>
    dsimp only
    cases hOpen : file.open? host token with
    | error error => simp [hOpen]
    | ok payload => simp [hOpen]

theorem Paired.readApiKey_agrees (h : Paired host issued t) (hExact : host.Exact) (token : String) :
    Agrees (.readApiKey token) (.payload (t.memory.readApiKey .memory host token),
        .payload (t.file.readApiKey .file host token)) ↔
      opensEmptyId host t.file token = false := by
  by_cases hSome : ∃ id file payload,
      t.file.apiKeys.get id = some file ∧ file.open? host token = .ok payload
  · obtain ⟨id, file, payload, hFile, hOpen⟩ := hSome
    obtain ⟨hIndexed, memory, hMemory, hOpenMemory⟩ := h.opened hExact hFile hOpen
    have hOnly : ∀ id' file' payload', t.file.apiKeys.get id' = some file' →
        file'.open? host token = .ok payload' → id' = id := by
      intro id' file' payload' hFile' hOpen'
      have hIndexed' := (h.opened hExact hFile' hOpen').1
      rw [hIndexed] at hIndexed'
      exact (Option.some.inj hIndexed').symm
    have hListed : id ∈ host.readdir t.file.apiKeys.keys :=
      (host.readdir_perm _).mem_iff.mpr (AssocMap.mem_keys.mpr ⟨file, hFile⟩)
    have hOnDisk : t.file.readApiKey .file host token = .ok payload := by
      simp only [Vault.readApiKey, firstOpened_of_only hFile hOpen hOnly hListed]
    rw [hOnDisk]
    by_cases hId : id = ""
    · -- the index leads to the key, and the empty id counts as none
      subst hId
      have hInMemory : t.memory.readApiKey .memory host token =
          .error (NotFoundError.create "ApiKey" "by-token") := by
        simp [Vault.readApiKey, hIndexed]
      have hOpens : opensEmptyId host t.file token = true :=
        opensEmptyId_iff.mpr ⟨file, payload, hFile, hOpen⟩
      simp [Agrees, hInMemory, hOpens, VaultReply.isErr]
    · have hInMemory : t.memory.readApiKey .memory host token = .ok payload := by
        simp [Vault.readApiKey, hIndexed, hId, hMemory, hOpenMemory]
      have hSpares : opensEmptyId host t.file token = false := by
        rw [← Bool.not_eq_true, opensEmptyId_iff]
        rintro ⟨file', payload', hFile', hOpen'⟩
        exact hId (hOnly "" file' payload' hFile' hOpen').symm
      simp [Agrees, hInMemory, hSpares]
  · have hNone : ∀ id file payload, t.file.apiKeys.get id = some file →
        file.open? host token ≠ .ok payload :=
      fun id file payload hFile hOpen => hSome ⟨id, file, payload, hFile, hOpen⟩
    have hOnDisk : t.file.readApiKey .file host token =
        .error (NotFoundError.create "ApiKey" "by-token") := by
      simp only [Vault.readApiKey, firstOpened_of_none hNone]
    have hInMemory :
        (VaultReply.payload (t.memory.readApiKey .memory host token)).isErr = true := by
      cases hRead : t.memory.readApiKey .memory host token with
      | error error => rfl
      | ok payload =>
        obtain ⟨id, memory, hMemory, hOpen⟩ := Vault.opened_of_readApiKey hRead
        obtain ⟨file, hFile, hOpenFile⟩ := h.opened_file hExact hMemory hOpen
        exact absurd hOpenFile (hNone id file payload hFile)
    have hSpares : opensEmptyId host t.file token = false := by
      rw [← Bool.not_eq_true, opensEmptyId_iff]
      rintro ⟨file, payload, hFile, hOpen⟩
      exact hNone "" file payload hFile hOpen
    rw [hOnDisk]
    exact iff_of_true (Or.inr ⟨hInMemory, rfl⟩) hSpares

/-! ## One operation -/

def VaultOperation.token? : VaultOperation → Option String
  | .createApiKey _ _ _ token _ _ => some token
  | _ => none

/-- An operation with a fresh token keeps the counterparts, and the vaults agree on it unless it
looks up the token of the key whose id is empty. -/
theorem Paired.perform (h : Paired host issued t) (hExact : host.Exact) (operation : VaultOperation)
    (hFresh : ∀ token, operation.token? = some token → token ∉ issued) :
    Paired host (issued ++ operation.token?.toList) (t.perform host operation).1 ∧
      (Agrees operation (t.perform host operation).2 ↔ sparesEmptyId host t operation = true) := by
  have hSame : ∀ {t' : VaultTwin}, Paired host issued t' → Paired host (issued ++ []) t' := by
    intro t' h'
    rw [List.append_nil]
    exact h'
  cases operation with
  | createWallet id label mnemonic passphrase drawn =>
    refine ⟨hSame (h.setWallet rfl ?_), iff_of_true rfl rfl⟩
    exact .some (drawn .memory).nonces (drawn .file).nonces mnemonic passphrase _ _ rfl rfl rfl
  | readWallet id passphrase =>
    refine ⟨hSame h, iff_of_true ?_ rfl⟩
    have hPair := h.wallets id.name
    simp only [VaultTwin.perform, Vault.perform, Vault.readWallet, Agrees]
    generalize t.memory.wallets.files.get id.name = memory at hPair
    generalize t.file.wallets.files.get id.name = file at hPair
    cases hPair with
    | none => rfl
    | some nonces nonces' mnemonic passphrase' memory file hMemory hFile hAccounts =>
      dsimp only
      rw [hMemory, hFile, decryptWithScrypt_encrypt hExact, decryptWithScrypt_encrypt hExact]
  | deleteWallet id =>
    have hPair := h.wallets id.name
    have hRemoved := h.removeWallet id.name
    simp only [VaultTwin.perform, Vault.perform, Vault.deleteWallet, Agrees]
    generalize t.memory.wallets.files.get id.name = memory at hPair
    generalize t.file.wallets.files.get id.name = file at hPair
    cases hPair with
    | none => exact ⟨hSame h, iff_of_true rfl rfl⟩
    | some => exact ⟨hSame hRemoved, iff_of_true rfl rfl⟩
  | getWalletAccounts id =>
    refine ⟨hSame h, iff_of_true ?_ rfl⟩
    have hPair := h.wallets id.name
    simp only [VaultTwin.perform, Vault.perform, Vault.getWalletAccounts, Agrees]
    generalize t.memory.wallets.files.get id.name = memory at hPair
    generalize t.file.wallets.files.get id.name = file at hPair
    cases hPair with
    | none => rfl
    | some nonces nonces' mnemonic passphrase memory file hMemory hFile hAccounts =>
      dsimp only
      rw [hAccounts]
  | updateWalletAccounts id accounts =>
    have hPair := h.wallets id.name
    have hNamed := t.memory.wallets.named id.name
    have hNamed' := t.file.wallets.named id.name
    simp only [VaultTwin.perform, Vault.perform, Vault.updateWalletAccounts, Agrees]
    generalize t.memory.wallets.files.get id.name = memory at hPair hNamed
    generalize t.file.wallets.files.get id.name = file at hPair hNamed'
    cases hPair with
    | none => exact ⟨hSame h, iff_of_true rfl rfl⟩
    | some nonces nonces' mnemonic passphrase memory file hMemory hFile hAccounts =>
      refine ⟨hSame (h.setWallet ?_ ?_), iff_of_true rfl rfl⟩
      · exact (hNamed memory rfl).trans (hNamed' file rfl).symm
      · exact .some nonces nonces' mnemonic passphrase _ _ hMemory hFile rfl
  | createApiKey id walletId mnemonic token expiresAt drawn =>
    exact ⟨h.setKey (hFresh token rfl) rfl rfl, iff_of_true rfl rfl⟩
  | readApiKey token =>
    refine ⟨hSame h, (h.readApiKey_agrees hExact token).trans ?_⟩
    simp [sparesEmptyId]
  | revokeApiKey id =>
    have hPair := h.keys id.name
    have hRemoved := h.removeKey id.name
    simp only [VaultTwin.perform, Vault.perform, Vault.revokeApiKey, Agrees]
    generalize t.memory.apiKeys.get id.name = memory at hPair
    generalize t.file.apiKeys.get id.name = file at hPair
    cases hPair with
    | none => exact ⟨hSame h, iff_of_true rfl rfl⟩
    | some => exact ⟨hSame hRemoved, iff_of_true rfl rfl⟩

/-! ## Runs -/

theorem issuedTokens_snoc (h : List TwinStep) (o : TwinStep) :
    issuedTokens (h ++ [o]) = issuedTokens h ++ o.label.token?.toList := by
  unfold issuedTokens
  rw [List.filterMap_append]
  obtain ⟨pre, label, out⟩ := o
  cases label <;> rfl

def StepAgrees (o : TwinStep) : Prop := ∀ replies ∈ o.out, Agrees o.label replies

theorem pairedSteps {h : List TwinStep} {s : VaultTwin} (hExact : host.Exact)
    (hRun : (vaultTwinMachine host).Runs h s) (hFresh : (issuedTokens h).Nodup) :
    Paired host (issuedTokens h) s ∧
      ∀ o ∈ h, StepAgrees o ↔ sparesEmptyId host o.pre o.label = true := by
  induction hRun with
  | start => exact ⟨paired_init, fun _ hMem => nomatch hMem⟩
  | @step h t t' operation out hBefore hTaken ih =>
    rw [issuedTokens_snoc] at hFresh ⊢
    obtain ⟨hPaired, hSteps⟩ := ih hFresh.of_append_left
    have hNew : ∀ token, operation.token? = some token → token ∉ issuedTokens h := by
      intro token hToken hMem
      refine (List.nodup_append.mp hFresh).2.2 token hMem token ?_ rfl
      show token ∈ operation.token?.toList
      rw [hToken]
      exact List.mem_singleton.mpr rfl
    obtain ⟨hNext, hAgrees⟩ := hPaired.perform hExact operation hNew
    have hPair := Option.some.inj hTaken
    obtain rfl : t' = (t.perform host operation).1 := (congrArg Prod.fst hPair).symm
    obtain rfl : out = [(t.perform host operation).2] := (congrArg Prod.snd hPair).symm
    refine ⟨hNext, ?_⟩
    intro o hMem
    rcases List.mem_append.mp hMem with hOld | hLast
    · exact hSteps o hOld
    · rw [List.mem_singleton] at hLast
      subst hLast
      simpa [StepAgrees] using hAgrees

/-- **The two vaults along a run.**  With fresh tokens the vaults agree on every operation exactly
if no token is looked up that belongs to a key whose id is empty. -/
theorem vaults_agree_iff {h : List TwinStep} {s : VaultTwin} (hExact : host.Exact)
    (hRun : (vaultTwinMachine host).Runs h s) (hFresh : (issuedTokens h).Nodup) :
    (∀ o ∈ h, StepAgrees o) ↔
      AllMeet (fun t operation => sparesEmptyId host t operation = true) h := by
  obtain ⟨-, hSteps⟩ := pairedSteps hExact hRun hFresh
  constructor
  · intro hAgree o hMem
    exact (hSteps o hMem).mp (hAgree o hMem)
  · intro hMeet o hMem
    exact (hSteps o hMem).mpr (hMeet o hMem)

/-! ## A key made again, and a key without an id -/

theorem markingHost_exact : markingHost.toVaultHost.Exact where
  toAuthentic := markingHost_authentic
  gcm_open := by
    intro key iv plaintext
    simp [markingHost]
  mac_key := fun dk dk' data h => List.append_cancel_right h
  scrypt_password := fun password password' params h => h

/-- Nothing that is drawn matters to the sample host. -/
def drawnNothing : VaultKind → Drawn := fun _ => ⟨⟨[], []⟩, "t0"⟩

/-- The key `id` of a wallet is created with a token. -/
def createsKey (id token : String) (hPlain : '/' ∉ id.toList) : VaultOperation :=
  .createApiKey ⟨id, hPlain⟩ "wallet" "zoo" token "soon" drawnNothing

/-- A key is made again with another token and revoked, and both tokens are looked up. -/
def keyMadeAgain : List VaultOperation :=
  [createsKey "cred" "first" (by decide), createsKey "cred" "second" (by decide),
    .readApiKey "first", .readApiKey "second", .revokeApiKey ⟨"cred", by decide⟩,
    .readApiKey "second"]

theorem keyMadeAgain_spares :
    (vaultTwinMachine markingHost.toVaultHost).Executes keyMadeAgain fun h _ =>
      (issuedTokens h).Nodup ∧
        AllMeet
          (fun t operation => sparesEmptyId markingHost.toVaultHost t operation = true) h := by
  decide

theorem vaults_agree_keyMadeAgain :
    ∃ h : List TwinStep, h.map Occurrence.label = keyMadeAgain ∧ ∀ o ∈ h, StepAgrees o := by
  obtain ⟨h, s, hLabels, hRun, hFresh, hSpares⟩ := keyMadeAgain_spares.exists_run
  exact ⟨h, hLabels, (vaults_agree_iff markingHost_exact hRun hFresh).mpr hSpares⟩

/-- A key is created under the empty id, and its token looked up. -/
def keyWithoutId : List VaultOperation := [createsKey "" "token" (by decide), .readApiKey "token"]

theorem keyWithoutId_replies :
    (vaultTwinMachine markingHost.toVaultHost).Executes keyWithoutId fun h _ =>
      (issuedTokens h).Nodup ∧ outputs h =
        [(.done (.ok ()), .done (.ok ())),
          (.payload (.error (NotFoundError.create "ApiKey" "by-token")),
            .payload (.ok ⟨"zoo", "wallet"⟩))] := by
  decide

/-- The vault in memory does not find a key whose id is empty. -/
theorem empty_id_disagrees :
    ∃ (h : List TwinStep) (s : VaultTwin), (vaultTwinMachine markingHost.toVaultHost).Runs h s ∧
      h.map Occurrence.label = keyWithoutId ∧ (issuedTokens h).Nodup ∧
        ¬ ∀ o ∈ h, StepAgrees o := by
  obtain ⟨h, s, hLabels, hRun, hFresh, hOut⟩ := keyWithoutId_replies.exists_run
  refine ⟨h, s, hRun, hLabels, hFresh, ?_⟩
  intro hAgree
  have hLast : (VaultReply.payload (.error (NotFoundError.create "ApiKey" "by-token")),
      VaultReply.payload (.ok ⟨"zoo", "wallet"⟩)) ∈ outputs h := by
    rw [hOut]
    exact List.mem_cons_of_mem _ (List.mem_singleton.mpr rfl)
  obtain ⟨o, hMem, hReply⟩ := List.mem_flatMap.mp hLast
  have hEither := hAgree o hMem _ hReply
  unfold Agrees at hEither
  split at hEither
  · rcases hEither with hEq | ⟨-, hErr⟩
    · cases hEq
    · cases hErr
  · cases hEither

end Keys
end Signet
