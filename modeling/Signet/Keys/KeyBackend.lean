import Signet.Keys.Vault

/-!
# The internal key backend

The backend derives accounts from the mnemonics of the vault and signs with them.  It
keeps the accounts of the wallets it has worked with in memory; `ensureWalletState`
reads them from the vault when they are missing there, and `chainAt` does not.

* `KeyBackend.perform` — one operation of the backend.
* `nextIndexOf`, `ensureWalletState` — the state of a wallet from its stored accounts.
-/

namespace Signet
namespace Keys

open Kit Schemas
open Signet.Core

/-! ## The host -/

structure DerivedEvmKey where
  privateKey : Bytes
  publicKey : Bytes
  address : String

structure DerivedEd25519Key where
  privateKey : Bytes
  publicKey : Bytes

structure KeyHost extends VaultHost where
  mnemonicToSeed (mnemonic : String) : Bytes
  deriveEvmKey (seed : Bytes) (index : Nat) : DerivedEvmKey
  deriveEd25519Key (seed : Bytes) (index : Nat) : DerivedEd25519Key
  /-- `secp256k1.sign(hash, privateKey)` -/
  secp256k1Sign (hash privateKey : Bytes) : Bytes
  /-- `secp256k1.getPublicKey(privateKey, false)` -/
  secp256k1PublicKey (privateKey : Bytes) : Bytes
  /-- `ed25519.sign(data, privateKey)` -/
  ed25519Sign (data privateKey : Bytes) : Bytes
  /-- `ed25519.getPublicKey(privateKey)` -/
  ed25519PublicKey (privateKey : Bytes) : Bytes

/-! ## What the backend returns -/

/-- Summary information about a managed wallet; the provider is always `internal`. -/
structure WalletInfo where
  id : String
  label : String
  accountCount : Nat
  createdAt : String
deriving DecidableEq

/-- A derived account within a wallet. -/
structure AccountInfo where
  index : Nat
  address : String
  chain : Chain
  publicKey : String
deriving DecidableEq

inductive SigningAlgorithm where
  | secp256k1
  | ed25519
deriving DecidableEq

structure SigningResult where
  signature : Bytes
  publicKey : Bytes
  algorithm : SigningAlgorithm
deriving DecidableEq

/-- Metadata for an API key that grants signing access to a wallet. -/
structure ApiKeyInfo where
  id : String
  walletId : String
  token : String
  expiresAt : String
deriving DecidableEq

/-- The reply of an operation, by its type. -/
inductive KeyReply where
  | wallet (result : Except SignetError WalletInfo)
  | wallets (result : Except SignetError (List WalletInfo))
  | account (result : Except SignetError AccountInfo)
  | accounts (result : Except SignetError (List AccountInfo))
  | identityKey (result : Except SignetError String)
  | signature (result : Except SignetError SigningResult)
  | apiKey (result : Except SignetError ApiKeyInfo)
  | done (result : Except SignetError Unit)
deriving DecidableEq

/-! ## The state -/

/-- What is kept in memory of a wallet. -/
structure WalletState where
  /-- Next derivation index (across all chains). -/
  nextIndex : Nat
  /-- Derived accounts in order. -/
  accounts : List AccountEntry

structure KeyBackend where
  vault : Vault
  walletStates : AssocMap String WalletState

def KeyBackend.fresh (vault : Vault) : KeyBackend := ⟨vault, AssocMap.empty⟩

/-- The index after those of the stored accounts. -/
def nextIndexOf (accounts : List AccountEntry) : Nat :=
  accounts.foldl (fun next entry => max next (entry.index + 1)) 0

/-- An operation with what it draws, what it reads of the clock, and what comes of the
file it writes.  The passphrase of a caller is not looked at. -/
inductive KeyOperation where
  | createWallet (label id mnemonic : String) (nonces : Nonces) (storedAt now : String)
      (written : Except String Unit)
  | deleteWallet (walletId : String)
  | listWallets
  | getWallet (walletId : String)
  | deriveAccount (walletId : String) (chain : Chain) (written : Except String Unit)
  | listAccounts (walletId : String)
  | getXmtpIdentityKey (walletId : String) (accountIndex : Nat)
  | sign (walletId : String) (accountIndex : Nat) (data : Bytes)
  | createApiKey (walletId credentialId expiresAt : String) (tokenBytes : Bytes)
      (nonces : Nonces) (storedAt : String) (written : Except String Unit)
  | revokeApiKey (keyId : String)
  | signWithApiKey (token : String) (accountIndex : Nat) (data : Bytes)

section

variable (host : KeyHost)

/-- `signWithSeed` -/
def signWithSeed (seed : Bytes) (accountIndex : Nat) (chain : Chain) (data : Bytes) :
    SigningResult :=
  match chain with
  | .evm =>
    let derived := host.deriveEvmKey seed accountIndex
    ⟨host.secp256k1Sign (host.sha256 data) derived.privateKey,
      host.secp256k1PublicKey derived.privateKey, .secp256k1⟩
  | .ed25519 =>
    let derived := host.deriveEd25519Key seed accountIndex
    ⟨host.ed25519Sign data derived.privateKey,
      host.ed25519PublicKey derived.privateKey, .ed25519⟩

def derivedAccount (seed : Bytes) (index : Nat) : Chain → AccountEntry × String
  | .evm =>
    let d := host.deriveEvmKey seed index
    (⟨index, .evm, d.address⟩, bytesToHex d.publicKey)
  | .ed25519 =>
    let d := host.deriveEd25519Key seed index
    let publicKeyHex := bytesToHex d.publicKey
    (⟨index, .ed25519, publicKeyHex⟩, publicKeyHex)

def accountInfo (seed : Bytes) (e : AccountEntry) : AccountInfo :=
  let publicKeyHex :=
    match e.chain with
    | .evm => bytesToHex (host.deriveEvmKey seed e.index).publicKey
    | .ed25519 => bytesToHex (host.deriveEd25519Key seed e.index).publicKey
  ⟨e.index, e.address, e.chain, publicKeyHex⟩

end

namespace KeyBackend

variable (kind : VaultKind) (host : KeyHost) (passphrase : String)

/-! ## Reading the state of a wallet -/

/-- `getSeed` -/
def getSeed (backend : KeyBackend) (walletId : String) : Except SignetError Bytes :=
  match backend.vault.readWallet host.toVaultHost walletId passphrase with
  | .error error => .error error
  | .ok mnemonic => .ok (host.mnemonicToSeed mnemonic)

/-- `ensureWalletState` -/
def ensureWalletState (backend : KeyBackend) (walletId : String) :
    KeyBackend × Except SignetError (WalletState × Bytes) :=
  let existing := backend.walletStates.get walletId
  match backend.getSeed host passphrase walletId with
  | .error error => (backend, .error error)
  | .ok seed =>
    match existing with
    | some state => (backend, .ok (state, seed))
    | none =>
      match (backend.vault.listWallets kind host.toVaultHost).find?
          fun entry => entry.id = walletId with
      | none => (backend, .error (NotFoundError.create "Wallet" walletId))
      | some _ =>
        match backend.vault.getWalletAccounts walletId with
        | .error error => (backend, .error error)
        | .ok accounts =>
          let state : WalletState := ⟨nextIndexOf accounts, accounts⟩
          ({ backend with walletStates := backend.walletStates.set walletId state },
            .ok (state, seed))

/-- `chainAt` -/
def chainAt (backend : KeyBackend) (walletId : String) (index : Nat) : Option Chain :=
  match backend.walletStates.get walletId with
  | none => none
  | some state => (state.accounts.find? fun a => a.index = index).map AccountEntry.chain

/-- `resolveAndSign` -/
def resolveAndSign (backend : KeyBackend) (walletId : String) (seed : Bytes)
    (accountIndex : Nat) (data : Bytes) : Except SignetError SigningResult :=
  match backend.chainAt walletId accountIndex with
  | none =>
    .error (NotFoundError.create "Account" (walletId ++ "/" ++ toString accountIndex))
  | some chain => .ok (signWithSeed host seed accountIndex chain data)

/-! ## The operations -/

/-- `createWallet` -/
def createWallet (backend : KeyBackend) (label id mnemonic : String) (nonces : Nonces)
    (storedAt now : String) (written : Except String Unit) :
    KeyBackend × Except SignetError WalletInfo :=
  match backend.vault.createWallet kind host.toVaultHost id label mnemonic passphrase nonces
      storedAt written with
  | (vault, .error error) => ({ backend with vault := vault }, .error error)
  | (vault, .ok ()) =>
    (⟨vault, backend.walletStates.set id ⟨0, []⟩⟩, .ok ⟨id, label, 0, now⟩)

/-- `deleteWallet` -/
def deleteWallet (backend : KeyBackend) (walletId : String) :
    KeyBackend × Except SignetError Unit :=
  match backend.vault.deleteWallet walletId with
  | (vault, .error error) => ({ backend with vault := vault }, .error error)
  | (vault, .ok ()) => (⟨vault, backend.walletStates.delete walletId⟩, .ok ())

/-- A wallet as the backend shows it. -/
def walletInfo (file : WalletFileInfo) : WalletInfo :=
  ⟨file.id, file.label, file.accountCount, file.createdAt⟩

/-- `listWallets` -/
def listWallets (backend : KeyBackend) : Except SignetError (List WalletInfo) :=
  .ok ((backend.vault.listWallets kind host.toVaultHost).map walletInfo)

/-- `getWallet` -/
def getWallet (backend : KeyBackend) (walletId : String) : Except SignetError WalletInfo :=
  match (backend.vault.listWallets kind host.toVaultHost).find? fun w => w.id = walletId with
  | none => .error (NotFoundError.create "Wallet" walletId)
  | some found => .ok (walletInfo found)

/-- `deriveAccount` -/
def deriveAccount (backend : KeyBackend) (walletId : String) (chain : Chain)
    (written : Except String Unit) : KeyBackend × Except SignetError AccountInfo :=
  match backend.ensureWalletState kind host passphrase walletId with
  | (loaded, .error error) => (loaded, .error error)
  | (loaded, .ok (state, seed)) =>
    let index := state.nextIndex
    let (entry, publicKeyHex) := derivedAccount host seed index chain
    let newAccounts := state.accounts ++ [entry]
    match loaded.vault.updateWalletAccounts kind walletId newAccounts written with
    | (vault, .error error) => ({ loaded with vault := vault }, .error error)
    | (vault, .ok ()) =>
      (⟨vault, loaded.walletStates.set walletId ⟨index + 1, newAccounts⟩⟩,
        .ok ⟨index, entry.address, chain, publicKeyHex⟩)

/-- `listAccounts` -/
def listAccounts (backend : KeyBackend) (walletId : String) :
    KeyBackend × Except SignetError (List AccountInfo) :=
  match backend.ensureWalletState kind host passphrase walletId with
  | (loaded, .error error) => (loaded, .error error)
  | (loaded, .ok (state, seed)) => (loaded, .ok (state.accounts.map (accountInfo host seed)))

/-- `getXmtpIdentityKey` -/
def getXmtpIdentityKey (backend : KeyBackend) (walletId : String) (accountIndex : Nat) :
    KeyBackend × Except SignetError String :=
  match backend.ensureWalletState kind host passphrase walletId with
  | (loaded, .error error) => (loaded, .error error)
  | (loaded, .ok (state, seed)) =>
    match state.accounts.find? fun entry => entry.index = accountIndex ∧ entry.chain = .evm with
    | none =>
      (loaded, .error (NotFoundError.create "EvmAccount"
        (walletId ++ "/" ++ toString accountIndex)))
    | some _ =>
      (loaded, .ok ("0x" ++ bytesToHex (host.deriveEvmKey seed accountIndex).privateKey))

/-- `sign` -/
def sign (backend : KeyBackend) (walletId : String) (accountIndex : Nat) (data : Bytes) :
    Except SignetError SigningResult :=
  match backend.getSeed host passphrase walletId with
  | .error error => .error error
  | .ok seed => backend.resolveAndSign host walletId seed accountIndex data

/-- `createApiKey` -/
def createApiKey (backend : KeyBackend) (walletId credentialId expiresAt : String)
    (tokenBytes : Bytes) (nonces : Nonces) (storedAt : String) (written : Except String Unit) :
    KeyBackend × Except SignetError ApiKeyInfo :=
  match backend.vault.readWallet host.toVaultHost walletId passphrase with
  | .error error => (backend, .error error)
  | .ok mnemonic =>
    let token := bytesToHex tokenBytes
    match backend.vault.createApiKey kind host.toVaultHost credentialId walletId mnemonic token
        expiresAt nonces storedAt written with
    | (vault, .error error) => ({ backend with vault := vault }, .error error)
    | (vault, .ok ()) =>
      ({ backend with vault := vault }, .ok ⟨credentialId, walletId, token, expiresAt⟩)

/-- `revokeApiKey` -/
def revokeApiKey (backend : KeyBackend) (keyId : String) :
    KeyBackend × Except SignetError Unit :=
  match backend.vault.revokeApiKey kind keyId with
  | (vault, result) => ({ backend with vault := vault }, result)

/-- `signWithApiKey` -/
def signWithApiKey (backend : KeyBackend) (token : String) (accountIndex : Nat)
    (data : Bytes) : Except SignetError SigningResult :=
  match backend.vault.readApiKey kind host.toVaultHost token with
  | .error error => .error error
  | .ok payload =>
    let seed := host.mnemonicToSeed payload.mnemonic
    backend.resolveAndSign host payload.walletId seed accountIndex data

def perform (backend : KeyBackend) : KeyOperation → KeyBackend × KeyReply
  | .createWallet label id mnemonic nonces storedAt now written =>
    let (next, result) := backend.createWallet kind host passphrase label id mnemonic nonces
      storedAt now written
    (next, .wallet result)
  | .deleteWallet walletId =>
    let (next, result) := backend.deleteWallet walletId
    (next, .done result)
  | .listWallets => (backend, .wallets (backend.listWallets kind host))
  | .getWallet walletId => (backend, .wallet (backend.getWallet kind host walletId))
  | .deriveAccount walletId chain written =>
    let (next, result) := backend.deriveAccount kind host passphrase walletId chain written
    (next, .account result)
  | .listAccounts walletId =>
    let (next, result) := backend.listAccounts kind host passphrase walletId
    (next, .accounts result)
  | .getXmtpIdentityKey walletId accountIndex =>
    let (next, result) := backend.getXmtpIdentityKey kind host passphrase walletId accountIndex
    (next, .identityKey result)
  | .sign walletId accountIndex data =>
    (backend, .signature (backend.sign host passphrase walletId accountIndex data))
  | .createApiKey walletId credentialId expiresAt tokenBytes nonces storedAt written =>
    let (next, result) := backend.createApiKey kind host passphrase walletId credentialId
      expiresAt tokenBytes nonces storedAt written
    (next, .apiKey result)
  | .revokeApiKey keyId =>
    let (next, result) := backend.revokeApiKey kind keyId
    (next, .done result)
  | .signWithApiKey token accountIndex data =>
    (backend, .signature (backend.signWithApiKey kind host token accountIndex data))

end KeyBackend

/-! ## A host for fixed inputs -/

def keyMark (key : Bytes) : Bytes := key.flatMap (fun byte => [1, byte]) ++ [0]

def markingHost : KeyHost where
  scrypt := fun password _ => password
  hkdf := fun token _ _ => token
  sha256 := fun data => data
  gcmEncrypt := fun key _ plaintext => keyMark key ++ plaintext
  gcmDecrypt := fun key _ ciphertext =>
    if keyMark key <+: ciphertext then some (ciphertext.drop (keyMark key).length) else none
  jsonParse := fun _ => some (.object [("mnemonic", .string "zoo"), ("walletId", .string "wallet")])
  readdir := fun names => names
  readdir_perm := fun names => List.Perm.refl names
  mnemonicToSeed := textEncode
  deriveEvmKey := fun seed index => ⟨seed ++ [UInt8.ofNat index], seed ++ [UInt8.ofNat index], "0x"⟩
  deriveEd25519Key := fun seed index => ⟨seed ++ [UInt8.ofNat index], seed ++ [UInt8.ofNat index]⟩
  secp256k1Sign := fun hash privateKey => hash ++ privateKey
  secp256k1PublicKey := fun privateKey => privateKey
  ed25519Sign := fun data privateKey => data ++ privateKey
  ed25519PublicKey := fun privateKey => privateKey

end Keys
end Signet
