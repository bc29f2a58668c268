import Signet.Core.InviteCrypto
import Signet.Kit.AssocMap

/-!
# The vault of wallets and API keys

A vault keeps the mnemonic of a wallet encrypted under a passphrase, and for each API
key a copy of it encrypted under the token of the key.  There are two implementations:
one of maps, and one of a file for each wallet and each key.

* `Vault.createWallet`, `Vault.readWallet`, …, `Vault.updateWalletAccounts`
* `Vault.createApiKey`, `Vault.readApiKey`, `Vault.revokeApiKey`
-/

namespace Signet
namespace Keys

open Kit Schemas
open Signet.Core

/-! ## The records -/

inductive Chain where
  | evm
  | ed25519
deriving DecidableEq

/-- A derived account address entry stored in a wallet file. -/
structure AccountEntry where
  index : Nat
  chain : Chain
  address : String
deriving DecidableEq

structure ScryptParams where
  n : Nat
  r : Nat
  p : Nat
  dklen : Nat
  salt : Bytes
deriving DecidableEq

/-- The encrypted part of a wallet file; the fields in hexadecimal digits by their bytes. -/
structure WalletFileCrypto where
  ciphertext : Bytes
  iv : Bytes
  kdfparams : ScryptParams
  mac : Bytes
deriving DecidableEq

structure WalletFile where
  id : String
  label : String
  crypto : WalletFileCrypto
  accounts : List AccountEntry
  createdAt : String
deriving DecidableEq

structure ApiKeyCrypto where
  ciphertext : Bytes
  iv : Bytes
  salt : Bytes
  info : String
deriving DecidableEq

structure ApiKeyFile where
  id : String
  walletId : String
  crypto : ApiKeyCrypto
  expiresAt : String
  createdAt : String
deriving DecidableEq

/-- Metadata for a wallet file, returned by `listWallets`. -/
structure WalletFileInfo where
  id : String
  label : String
  accountCount : Nat
  createdAt : String
deriving DecidableEq

structure ApiKeyPayload where
  mnemonic : String
  walletId : String
deriving DecidableEq

/-! ## The host -/

/-- The cryptography, the parser and the directory listing of the host; what throws has
no value. -/
structure VaultHost where
  scrypt (password : Bytes) (params : ScryptParams) : Bytes
  /-- `hkdf(sha256, token, salt, info, 32)` -/
  hkdf (token salt info : Bytes) : Bytes
  sha256 (data : Bytes) : Bytes
  /-- `gcm(key, iv).encrypt(plaintext)` -/
  gcmEncrypt (key iv plaintext : Bytes) : Bytes
  /-- `gcm(key, iv).decrypt(ciphertext)` -/
  gcmDecrypt (key iv ciphertext : Bytes) : Option Bytes
  /-- `JSON.parse` -/
  jsonParse (text : String) : Option Json
  /-- The order in which `readdirSync` lists the files of a directory. -/
  readdir (names : List String) : List String
  readdir_perm : ∀ names, (readdir names).Perm names

/-- Which vault it is: `createMemoryVault` or `createFileVault`. -/
inductive VaultKind where
  | memory
  | file
deriving DecidableEq

/-- The bytes drawn for one encryption. -/
structure Nonces where
  salt : Bytes
  iv : Bytes

/-! ## Encryption -/

section

variable (host : VaultHost)

/-- `encryptWithScrypt`; the in-memory vault takes the cheaper parameters of the tests. -/
def encryptWithScrypt (nonces : Nonces) (plaintext passphrase : String) (isTest : Bool) :
    WalletFileCrypto :=
  let params : ScryptParams := ⟨if isTest then 1024 else 131072, 8, 1, 32, nonces.salt⟩
  let dk := host.scrypt (textEncode passphrase) params
  let encrypted := host.gcmEncrypt dk nonces.iv (textEncode plaintext)
  ⟨encrypted, nonces.iv, params, host.sha256 (dk ++ encrypted)⟩

/-- `decryptWithScrypt` -/
def decryptWithScrypt (cryptoBlock : WalletFileCrypto) (passphrase : String) :
    Except SignetError String :=
  let dk := host.scrypt (textEncode passphrase) cryptoBlock.kdfparams
  if host.sha256 (dk ++ cryptoBlock.ciphertext) ≠ cryptoBlock.mac then
    .error (AuthError.create "Wrong passphrase or corrupted wallet")
  else
    match host.gcmDecrypt dk cryptoBlock.iv cryptoBlock.ciphertext with
    | none =>
      .error (AuthError.create "Decryption failed — wrong passphrase or corrupt data")
    | some decrypted => .ok (textDecode decrypted)

/-- `encryptWithHkdf` -/
def encryptWithHkdf (nonces : Nonces) (plaintext token : String) : ApiKeyCrypto :=
  let info := "signet-api-key"
  let dk := host.hkdf (textEncode token) nonces.salt (textEncode info)
  ⟨host.gcmEncrypt dk nonces.iv (textEncode plaintext), nonces.iv, nonces.salt, info⟩

/-- `decryptWithHkdf` -/
def decryptWithHkdf (cryptoBlock : ApiKeyCrypto) (token : String) :
    Except SignetError String :=
  let dk := host.hkdf (textEncode token) cryptoBlock.salt (textEncode cryptoBlock.info)
  match host.gcmDecrypt dk cryptoBlock.iv cryptoBlock.ciphertext with
  | none => .error (InternalError.create "API key decryption failed — invalid token")
  | some decrypted => .ok (textDecode decrypted)

def ApiKeyPayload.text (payload : ApiKeyPayload) : String :=
  Json.stringify (.object
    [("mnemonic", .string payload.mnemonic), ("walletId", .string payload.walletId)])

/-- A member of a parsed object: the last one of its name. -/
def jsonMember (members : List (String × Json)) (key : String) : Option Json :=
  members.reverse.lookup key

/-- `isApiKeyPayload` -/
def apiKeyPayload? : Json → Option ApiKeyPayload
  | .object members =>
    match jsonMember members "mnemonic", jsonMember members "walletId" with
    | some (.string mnemonic), some (.string walletId) => some ⟨mnemonic, walletId⟩
    | _, _ => none
  | _ => none

/-- `parseApiKeyPayload` -/
def parseApiKeyPayload (decrypted : String) : Except SignetError ApiKeyPayload :=
  match host.jsonParse decrypted with
  | none => .error (InternalError.create "Failed to parse API key data")
  | some parsed =>
    match apiKeyPayload? parsed with
    | none => .error (InternalError.create "Corrupt API key payload")
    | some payload => .ok payload

def ApiKeyFile.open? (file : ApiKeyFile) (token : String) : Except SignetError ApiKeyPayload :=
  match decryptWithHkdf host file.crypto token with
  | .error error => .error error
  | .ok decrypted => parseApiKeyPayload host decrypted

end

/-! ## The contents -/

/-- The wallets of a vault, each under its own id. -/
structure WalletFiles where
  files : AssocMap String WalletFile
  named : ∀ id file, files.get id = some file → file.id = id

namespace WalletFiles

def empty : WalletFiles := ⟨AssocMap.empty, fun _ _ h => nomatch h⟩

/-- Write the file of a wallet. -/
def store (wallets : WalletFiles) (file : WalletFile) : WalletFiles where
  files := wallets.files.set file.id file
  named := by
    intro id other h
    rw [AssocMap.get_set] at h
    split at h
    · next hId =>
      cases h
      exact hId.symm
    · exact wallets.named id other h

def remove (wallets : WalletFiles) (id : String) : WalletFiles where
  files := wallets.files.delete id
  named := by
    intro id' file h
    rw [AssocMap.get_delete] at h
    split at h
    · cases h
    · exact wallets.named id' file h

end WalletFiles

structure Vault where
  wallets : WalletFiles
  apiKeys : AssocMap String ApiKeyFile
  tokenIndex : AssocMap String String

/-- A vault without entries. -/
def Vault.empty : Vault := ⟨WalletFiles.empty, AssocMap.empty, AssocMap.empty⟩

/-- What comes of writing a file, if the vault is one of files. -/
def writeResult (kind : VaultKind) (written : Except String Unit) (message id : String) :
    Except SignetError Unit :=
  match kind, written with
  | .file, .error cause =>
    .error (InternalError.create message (some [("id", .text id), ("cause", .text cause)]))
  | _, _ => .ok ()

/-- What comes of a write of the vault.  The mode of a file is set after the file is written, and
either can fail. -/
inductive WriteOutcome where
  | ok
  | failed (cause : String)
  | failedAfter (cause : String)

/-- The write as it shows in the vault. -/
def WriteOutcome.contents : WriteOutcome → Except String Unit
  | .failed cause => .error cause
  | _ => .ok ()

def WriteOutcome.report : WriteOutcome → Except String Unit
  | .ok => .ok ()
  | .failed cause => .error cause
  | .failedAfter cause => .error cause

namespace Vault

variable (kind : VaultKind) (host : VaultHost)

/-! ## Wallets -/

/-- `createWallet` -/
def createWallet (vault : Vault) (id label mnemonic passphrase : String) (nonces : Nonces)
    (createdAt : String) (written : Except String Unit) : Vault × Except SignetError Unit :=
  match writeResult kind written "Failed to create wallet file" id with
  | .error error => (vault, .error error)
  | .ok () =>
    let cryptoBlock := encryptWithScrypt host nonces mnemonic passphrase (kind = .memory)
    ({ vault with wallets := vault.wallets.store ⟨id, label, cryptoBlock, [], createdAt⟩ }, .ok ())

/-- `readWallet` -/
def readWallet (vault : Vault) (id passphrase : String) : Except SignetError String :=
  match vault.wallets.files.get id with
  | none => .error (NotFoundError.create "Wallet" id)
  | some file => decryptWithScrypt host file.crypto passphrase

/-- `deleteWallet` -/
def deleteWallet (vault : Vault) (id : String) : Vault × Except SignetError Unit :=
  match vault.wallets.files.get id with
  | none => (vault, .error (NotFoundError.create "Wallet" id))
  | some _ => ({ vault with wallets := vault.wallets.remove id }, .ok ())

/-- The names under which wallets are listed, in order. -/
def listed (names : List String) : List String :=
  match kind with
  | .memory => names
  | .file => host.readdir names

/-- `listWallets` -/
def listWallets (vault : Vault) : List WalletFileInfo :=
  (listed kind host vault.wallets.files.keys).filterMap fun name =>
    (vault.wallets.files.get name).map fun file =>
      ⟨file.id, file.label, file.accounts.length, file.createdAt⟩

/-- `getWalletAccounts` -/
def getWalletAccounts (vault : Vault) (id : String) : Except SignetError (List AccountEntry) :=
  match vault.wallets.files.get id with
  | none => .error (NotFoundError.create "Wallet" id)
  | some file => .ok file.accounts

/-- `updateWalletAccounts` -/
def updateWalletAccounts (vault : Vault) (id : String) (accounts : List AccountEntry)
    (written : Except String Unit) : Vault × Except SignetError Unit :=
  match vault.wallets.files.get id with
  | none => (vault, .error (NotFoundError.create "Wallet" id))
  | some file =>
    match writeResult kind written "Failed to update wallet accounts" id with
    | .error error => (vault, .error error)
    | .ok () =>
      ({ vault with wallets := vault.wallets.store { file with accounts := accounts } }, .ok ())

/-! ## API keys -/

/-- `createApiKey` -/
def createApiKey (vault : Vault) (id walletId mnemonic token expiresAt : String)
    (nonces : Nonces) (createdAt : String) (written : Except String Unit) :
    Vault × Except SignetError Unit :=
  let cryptoBlock := encryptWithHkdf host nonces (ApiKeyPayload.text ⟨mnemonic, walletId⟩) token
  let file : ApiKeyFile := ⟨id, walletId, cryptoBlock, expiresAt, createdAt⟩
  match kind with
  | .memory =>
    ({ vault with
      apiKeys := vault.apiKeys.set id file
      tokenIndex := vault.tokenIndex.set token id }, .ok ())
  | .file =>
    match writeResult kind written "Failed to create API key file" id with
    | .error error => (vault, .error error)
    | .ok () => ({ vault with apiKeys := vault.apiKeys.set id file }, .ok ())

def firstOpened (vault : Vault) (token : String) : List String → Option ApiKeyPayload
  | [] => none
  | name :: names =>
    match vault.apiKeys.get name with
    | none => firstOpened vault token names
    | some file =>
      match file.open? host token with
      | .error _ => firstOpened vault token names
      | .ok payload => some payload

/-- `readApiKey`: by the index of tokens in memory, and by trying every file on disk. -/
def readApiKey (vault : Vault) (token : String) : Except SignetError ApiKeyPayload :=
  match kind with
  | .memory =>
    match vault.tokenIndex.get token with
    | none => .error (NotFoundError.create "ApiKey" "by-token")
    | some keyId =>
      if keyId = "" then .error (NotFoundError.create "ApiKey" "by-token")
      else
        match vault.apiKeys.get keyId with
        | none => .error (NotFoundError.create "ApiKey" keyId)
        | some file => file.open? host token
  | .file =>
    match firstOpened host vault token (host.readdir vault.apiKeys.keys) with
    | none => .error (NotFoundError.create "ApiKey" "by-token")
    | some payload => .ok payload

/-- The index without the first token of a key. -/
def dropToken (tokenIndex : AssocMap String String) (id : String) : AssocMap String String :=
  match tokenIndex.entries.find? fun entry => entry.2 = id with
  | none => tokenIndex
  | some entry => tokenIndex.delete entry.1

/-- `revokeApiKey` -/
def revokeApiKey (vault : Vault) (id : String) : Vault × Except SignetError Unit :=
  match vault.apiKeys.get id with
  | none => (vault, .error (NotFoundError.create "ApiKey" id))
  | some _ =>
    let removed := { vault with apiKeys := vault.apiKeys.delete id }
    match kind with
    | .memory => ({ removed with tokenIndex := dropToken vault.tokenIndex id }, .ok ())
    | .file => (removed, .ok ())

/-! ## The files after a write -/

section

variable {vault : Vault}

theorem listWallets_of_get {id : String} {file : WalletFile}
    (h : vault.wallets.files.get id = some file) :
    ∃ info ∈ listWallets kind host vault, info.id = id := by
  have hName : id ∈ listed kind host vault.wallets.files.keys := by
    have hKey : id ∈ vault.wallets.files.keys := AssocMap.mem_keys.mpr ⟨file, h⟩
    unfold listed
    cases kind with
    | memory => exact hKey
    | file => exact (host.readdir_perm _).mem_iff.mpr hKey
  refine ⟨_, List.mem_filterMap.mpr ⟨id, hName, by rw [h]; rfl⟩, ?_⟩
  exact vault.wallets.named id file h

variable {kind host}

theorem opened_of_readApiKey {token : String} {payload : ApiKeyPayload}
    (h : readApiKey kind host vault token = .ok payload) :
    ∃ id file, vault.apiKeys.get id = some file ∧ file.open? host token = .ok payload := by
  have hFirst : ∀ names, firstOpened host vault token names = some payload →
      ∃ id file, vault.apiKeys.get id = some file ∧ file.open? host token = .ok payload := by
    intro names
    induction names with
    | nil => intro hNone; cases hNone
    | cons name names ih =>
      intro hSome
      unfold firstOpened at hSome
      cases hFile : vault.apiKeys.get name with
      | none =>
        rw [hFile] at hSome
        exact ih hSome
      | some file =>
        cases hOpen : file.open? host token with
        | error error =>
          simp only [hFile, hOpen] at hSome
          exact ih hSome
        | ok opened =>
          simp only [hFile, hOpen, Option.some.injEq] at hSome
          subst hSome
          exact ⟨name, file, hFile, hOpen⟩
  cases kind with
  | memory =>
    unfold readApiKey at h
    dsimp only at h
    cases hKey : vault.tokenIndex.get token with
    | none => rw [hKey] at h; cases h
    | some keyId =>
      rw [hKey] at h
      dsimp only at h
      split at h
      · cases h
      · cases hFile : vault.apiKeys.get keyId with
        | none => rw [hFile] at h; cases h
        | some file =>
          rw [hFile] at h
          exact ⟨keyId, file, hFile, h⟩
  | file =>
    unfold readApiKey at h
    dsimp only at h
    cases hOpened : firstOpened host vault token (host.readdir vault.apiKeys.keys) with
    | none => rw [hOpened] at h; cases h
    | some opened =>
      rw [hOpened] at h
      cases h
      exact hFirst _ hOpened

end

/-! ## What a write does -/

/-- Everything `createWallet` can do. -/
theorem createWallet_cases (vault : Vault) (id label mnemonic passphrase : String)
    (nonces : Nonces) (createdAt : String) (written : Except String Unit) :
    (∃ error, createWallet kind host vault id label mnemonic passphrase nonces createdAt written =
      (vault, .error error)) ∨
    (∃ cryptoBlock, createWallet kind host vault id label mnemonic passphrase nonces createdAt
      written = ({ vault with
        wallets := vault.wallets.store ⟨id, label, cryptoBlock, [], createdAt⟩ }, .ok ())) := by
  unfold createWallet
  cases writeResult kind written "Failed to create wallet file" id with
  | error error => exact Or.inl ⟨error, rfl⟩
  | ok _ => exact Or.inr ⟨_, rfl⟩

/-- Everything `deleteWallet` can do. -/
theorem deleteWallet_cases (vault : Vault) (id : String) :
    (∃ error, deleteWallet vault id = (vault, .error error)) ∨
    deleteWallet vault id = ({ vault with wallets := vault.wallets.remove id }, .ok ()) := by
  unfold deleteWallet
  cases vault.wallets.files.get id with
  | none => exact Or.inl ⟨_, rfl⟩
  | some file => exact Or.inr rfl

/-- Everything `updateWalletAccounts` can do to a wallet that is there. -/
theorem updateWalletAccounts_cases {vault : Vault} {id : String} {file : WalletFile}
    (h : vault.wallets.files.get id = some file) (accounts : List AccountEntry)
    (written : Except String Unit) :
    (∃ error, updateWalletAccounts kind vault id accounts written = (vault, .error error)) ∨
    updateWalletAccounts kind vault id accounts written =
      ({ vault with wallets := vault.wallets.store { file with accounts := accounts } }, .ok ()) := by
  unfold updateWalletAccounts
  rw [h]
  dsimp only
  cases writeResult kind written "Failed to update wallet accounts" id with
  | error error => exact Or.inl ⟨error, rfl⟩
  | ok _ => exact Or.inr rfl

/-- Everything `createApiKey` can do. -/
theorem createApiKey_cases (vault : Vault) (id walletId mnemonic token expiresAt : String)
    (nonces : Nonces) (createdAt : String) (written : Except String Unit) :
    (∃ error, createApiKey kind host vault id walletId mnemonic token expiresAt nonces createdAt
      written = (vault, .error error)) ∨
    (∃ tokenIndex, createApiKey kind host vault id walletId mnemonic token expiresAt nonces
      createdAt written = ({ vault with
        apiKeys := vault.apiKeys.set id ⟨id, walletId, encryptWithHkdf host nonces
          (ApiKeyPayload.text ⟨mnemonic, walletId⟩) token, expiresAt, createdAt⟩
        tokenIndex := tokenIndex }, .ok ())) := by
  unfold createApiKey
  cases kind with
  | memory => exact Or.inr ⟨_, rfl⟩
  | file =>
    dsimp only
    cases writeResult .file written "Failed to create API key file" id with
    | error error => exact Or.inl ⟨error, rfl⟩
    | ok _ => exact Or.inr ⟨vault.tokenIndex, rfl⟩

/-- Everything `revokeApiKey` can do. -/
theorem revokeApiKey_cases (vault : Vault) (id : String) :
    (∃ error, revokeApiKey kind vault id = (vault, .error error)) ∨
    (∃ tokenIndex, revokeApiKey kind vault id = ({ vault with
      apiKeys := vault.apiKeys.delete id
      tokenIndex := tokenIndex }, .ok ())) := by
  unfold revokeApiKey
  cases vault.apiKeys.get id with
  | none => exact Or.inl ⟨_, rfl⟩
  | some file =>
    cases kind with
    | memory => exact Or.inr ⟨_, rfl⟩
    | file => exact Or.inr ⟨vault.tokenIndex, rfl⟩

end Vault

end Keys
end Signet
