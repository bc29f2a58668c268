import Signet.Keys.KeyBackend
import Signet.Kit.Machine

/-!
# The lifetime of an API key

An API key is created with an expiry and can be revoked.  Revoking it removes its file,
and nothing opens with its token any more.  The expiry is stored in the file and never
looked at: the key works until it is revoked.

* `apiKeyMachine` — the backend over its vault, and calls of the vault itself.
* `liveGrants` — the keys that have been created and not been revoked since.
* `Covered` — a use of a token by a key that is live and has not expired.
-/

namespace Signet
namespace Keys

open Kit Machine Schemas
open Signet.Core

/-! ## The machine -/

inductive ApiKeyCall where
  | backend (operation : KeyOperation)
  | vaultCreateApiKey (id walletId mnemonic token expiresAt : String) (nonces : Nonces)
      (storedAt : String) (written : Except String Unit)
  | vaultReadApiKey (token : String)
  | vaultRevokeApiKey (id : String)
  /-- The backend is opened again over the contents of its vault. -/
  | restart

/-- A call at a clock reading in milliseconds. -/
structure ApiKeyLabel where
  now : Int
  call : ApiKeyCall

/-- What has come of a call that is about API keys. -/
inductive ApiKeyObservation where
  | created (id token expiresAt : String)
  | revoked (id : String)
  /-- The token has been looked up, or signed with. -/
  | used (token : String)
deriving DecidableEq

/-- What a reply of the backend says about API keys. -/
def apiKeyObservation : KeyOperation → KeyReply → List ApiKeyObservation
  | .createApiKey .., .apiKey (.ok info) => [.created info.id info.token info.expiresAt]
  | .revokeApiKey keyId, .done (.ok ()) => [.revoked keyId]
  | .signWithApiKey token .., .signature (.ok _) => [.used token]
  | _, _ => []

variable (kind : VaultKind) (host : KeyHost) (passphrase : String)

/-- One call. -/
def apiKeyStep (backend : KeyBackend) (label : ApiKeyLabel) :
    Option (KeyBackend × List ApiKeyObservation) :=
  match label.call with
  | .backend operation =>
    let (next, reply) := backend.perform kind host passphrase operation
    some (next, apiKeyObservation operation reply)
  | .vaultCreateApiKey id walletId mnemonic token expiresAt nonces storedAt written =>
    match backend.vault.createApiKey kind host.toVaultHost id walletId mnemonic token expiresAt
        nonces storedAt written with
    | (vault, .error _) => some ({ backend with vault := vault }, [])
    | (vault, .ok ()) => some ({ backend with vault := vault }, [.created id token expiresAt])
  | .vaultReadApiKey token =>
    match backend.vault.readApiKey kind host.toVaultHost token with
    | .error _ => some (backend, [])
    | .ok _ => some (backend, [.used token])
  | .vaultRevokeApiKey id =>
    match backend.vault.revokeApiKey kind id with
    | (vault, .error _) => some ({ backend with vault := vault }, [])
    | (vault, .ok ()) => some ({ backend with vault := vault }, [.revoked id])
  | .restart => some (KeyBackend.fresh backend.vault, [])

/-- The backend over a vault that is empty at first. -/
def apiKeyMachine : Machine KeyBackend ApiKeyLabel ApiKeyObservation where
  init := KeyBackend.fresh Vault.empty
  step := apiKeyStep kind host passphrase

/-! ## Grants -/

structure ApiKeyGrant where
  id : String
  token : String
  expiresAt : String
deriving DecidableEq

def addObservation (grants : List ApiKeyGrant) : ApiKeyObservation → List ApiKeyGrant
  | .created id token expiresAt => grants ++ [⟨id, token, expiresAt⟩]
  | .revoked id => grants.filter fun grant => grant.id ≠ id
  | .used _ => grants

/-- The API keys that have been created and not been revoked since. -/
def liveGrants (observations : List ApiKeyObservation) : List ApiKeyGrant :=
  observations.foldl addObservation []

def Expired (parseDate : String → Option Int) (now : Int) (expiresAt : String) : Prop :=
  ∃ ms, parseDate expiresAt = some ms ∧ ms ≤ now

/-- What the libraries are relied on for: a cipher does not decrypt with another key, and
another token gives another key. -/
structure VaultHost.Authentic (host : VaultHost) : Prop where
  gcm_key : ∀ key key' iv plaintext decrypted,
    host.gcmDecrypt key' iv (host.gcmEncrypt key iv plaintext) = some decrypted → key' = key
  hkdf_token : ∀ token token' salt info,
    host.hkdf token' salt info = host.hkdf token salt info → token' = token

def FileOf (host : VaultHost) (grant : ApiKeyGrant) (file : ApiKeyFile) : Prop :=
  file.expiresAt = grant.expiresAt ∧
    ∃ nonces plaintext, file.crypto = encryptWithHkdf host nonces plaintext grant.token

/-- A use of a token is covered: a live grant that has not expired has a file that the token
opens, and its token is the one that has been used. -/
def Covered (parseDate : String → Option Int) (grants : List ApiKeyGrant) (now : Int)
    (token : String) : Prop :=
  ∃ grant ∈ grants, ¬ Expired parseDate now grant.expiresAt ∧
    (∃ file payload, FileOf host.toVaultHost grant file ∧
      file.open? host.toVaultHost token = .ok payload) ∧
    (host.toVaultHost.Authentic → grant.token = token)

/-- The token of a use opens no key file that has expired. -/
def UsedInTime (parseDate : String → Option Int) (backend : KeyBackend) (label : ApiKeyLabel) :
    Prop :=
  ∀ token, label.call = .vaultReadApiKey token ∨
      (∃ accountIndex data, label.call = .backend (.signWithApiKey token accountIndex data)) →
    ∀ id file payload, backend.vault.apiKeys.get id = some file →
      file.open? host.toVaultHost token = .ok payload →
        ¬ Expired parseDate label.now file.expiresAt

/-! ## What a call does to the keys -/

/-- Everything a call can do to the keys. -/
inductive KeyMove (before after : KeyBackend) (label : ApiKeyLabel) :
    List ApiKeyObservation → Prop
  | none (hKeys : after.vault.apiKeys = before.vault.apiKeys) : KeyMove before after label []
  | created (id token expiresAt : String) (file : ApiKeyFile)
      (hFile : FileOf host.toVaultHost ⟨id, token, expiresAt⟩ file)
      (hKeys : after.vault.apiKeys = before.vault.apiKeys.set id file) :
      KeyMove before after label [.created id token expiresAt]
  | revoked (id : String) (hKeys : after.vault.apiKeys = before.vault.apiKeys.delete id) :
      KeyMove before after label [.revoked id]
  | used (token : String) (payload : ApiKeyPayload)
      (hCall : label.call = .vaultReadApiKey token ∨
        ∃ accountIndex data, label.call = .backend (.signWithApiKey token accountIndex data))
      (hRead : before.vault.readApiKey kind host.toVaultHost token = .ok payload)
      (hKeys : after.vault.apiKeys = before.vault.apiKeys) :
      KeyMove before after label [.used token]

theorem ensureWalletState_vault (backend : KeyBackend) (walletId : String) :
    (backend.ensureWalletState kind host passphrase walletId).1.vault = backend.vault := by
  unfold KeyBackend.ensureWalletState
  cases backend.getSeed host passphrase walletId with
  | error error => rfl
  | ok seed =>
    cases backend.walletStates.get walletId with
    | some state => rfl
    | none =>
      dsimp only
      cases (backend.vault.listWallets kind host.toVaultHost).find?
          fun entry => entry.id = walletId with
      | none => rfl
      | some info =>
        dsimp only
        cases backend.vault.getWalletAccounts walletId with
        | error error => rfl
        | ok accounts => rfl

theorem updateWalletAccounts_apiKeys (vault : Vault) (id : String) (accounts : List AccountEntry)
    (written : Except String Unit) :
    (vault.updateWalletAccounts kind id accounts written).1.apiKeys = vault.apiKeys := by
  cases hFile : vault.wallets.files.get id with
  | none =>
    unfold Vault.updateWalletAccounts
    rw [hFile]
  | some file =>
    rcases Vault.updateWalletAccounts_cases kind hFile accounts written with
      ⟨error, hUpdate⟩ | hUpdate <;> rw [hUpdate]

theorem deriveAccount_apiKeys (backend : KeyBackend) (walletId : String) (chain : Chain)
    (written : Except String Unit) :
    (backend.deriveAccount kind host passphrase walletId chain written).1.vault.apiKeys =
      backend.vault.apiKeys := by
  have hVault := ensureWalletState_vault kind host passphrase backend walletId
  unfold KeyBackend.deriveAccount
  rcases hEnsured : backend.ensureWalletState kind host passphrase walletId with ⟨loaded, result⟩
  rw [hEnsured] at hVault
  rw [← hVault]
  cases result with
  | error error => rfl
  | ok state =>
    dsimp only
    have hKeys := updateWalletAccounts_apiKeys kind loaded.vault walletId
      (state.1.accounts ++ [(derivedAccount host state.2 state.1.nextIndex chain).1]) written
    rcases hUpdate : loaded.vault.updateWalletAccounts kind walletId
      (state.1.accounts ++ [(derivedAccount host state.2 state.1.nextIndex chain).1]) written
      with ⟨vault, updated⟩
    rw [hUpdate] at hKeys
    cases updated with
    | error error => exact hKeys
    | ok _ => exact hKeys

variable {label : ApiKeyLabel} {after before : KeyBackend} {out : List ApiKeyObservation}
  {backend : KeyBackend}

theorem KeyMove.of_keys {operation : KeyOperation} {reply : KeyReply}
    (hKeys : after.vault.apiKeys = before.vault.apiKeys)
    (hQuiet : apiKeyObservation operation reply = []) :
    KeyMove kind host before after label (apiKeyObservation operation reply) := by
  rw [hQuiet]
  exact .none hKeys

theorem perform_move (backend : KeyBackend) (now : Int) (operation : KeyOperation) :
    KeyMove kind host backend (backend.perform kind host passphrase operation).1
      ⟨now, .backend operation⟩
      (apiKeyObservation operation (backend.perform kind host passphrase operation).2) := by
  cases operation with
  | createWallet label id mnemonic nonces storedAt now written =>
    apply KeyMove.of_keys
    · simp only [KeyBackend.perform, KeyBackend.createWallet]
      rcases Vault.createWallet_cases kind host.toVaultHost backend.vault id label mnemonic
        passphrase nonces storedAt written with ⟨error, hCreate⟩ | ⟨cryptoBlock, hCreate⟩ <;>
        rw [hCreate]
    · rfl
  | deleteWallet walletId =>
    apply KeyMove.of_keys
    · simp only [KeyBackend.perform, KeyBackend.deleteWallet]
      rcases Vault.deleteWallet_cases backend.vault walletId with ⟨error, hDelete⟩ | hDelete <;>
        rw [hDelete]
    · rfl
  | listWallets => exact KeyMove.of_keys kind host rfl rfl
  | getWallet walletId => exact KeyMove.of_keys kind host rfl rfl
  | deriveAccount walletId chain written =>
    exact KeyMove.of_keys kind host
      (deriveAccount_apiKeys kind host passphrase backend walletId chain written) rfl
  | listAccounts walletId =>
    apply KeyMove.of_keys
    · have hVault := ensureWalletState_vault kind host passphrase backend walletId
      simp only [KeyBackend.perform, KeyBackend.listAccounts]
      rcases hEnsured : backend.ensureWalletState kind host passphrase walletId
        with ⟨loaded, result⟩
      rw [hEnsured] at hVault
      cases result <;> exact congrArg Vault.apiKeys hVault
    · rfl
  | getXmtpIdentityKey walletId accountIndex =>
    apply KeyMove.of_keys
    · have hVault := ensureWalletState_vault kind host passphrase backend walletId
      simp only [KeyBackend.perform, KeyBackend.getXmtpIdentityKey]
      rcases hEnsured : backend.ensureWalletState kind host passphrase walletId
        with ⟨loaded, result⟩
      rw [hEnsured] at hVault
      cases result with
      | error error => exact congrArg Vault.apiKeys hVault
      | ok state =>
        dsimp only
        split <;> exact congrArg Vault.apiKeys hVault
    · rfl
  | sign walletId accountIndex data => exact KeyMove.of_keys kind host rfl rfl
  | createApiKey walletId credentialId expiresAt tokenBytes nonces storedAt written =>
    simp only [KeyBackend.perform, KeyBackend.createApiKey]
    cases backend.vault.readWallet host.toVaultHost walletId passphrase with
    | error error => exact .none rfl
    | ok mnemonic =>
      dsimp only
      rcases Vault.createApiKey_cases kind host.toVaultHost backend.vault credentialId walletId
        mnemonic (bytesToHex tokenBytes) expiresAt nonces storedAt written
        with ⟨error, hCreate⟩ | ⟨tokenIndex, hCreate⟩
      · rw [hCreate]
        exact .none rfl
      · rw [hCreate]
        exact .created credentialId _ expiresAt _ ⟨rfl, nonces, _, rfl⟩ rfl
  | revokeApiKey keyId =>
    simp only [KeyBackend.perform, KeyBackend.revokeApiKey]
    rcases Vault.revokeApiKey_cases kind backend.vault keyId with
      ⟨error, hRevoke⟩ | ⟨tokenIndex, hRevoke⟩
    · rw [hRevoke]
      exact .none rfl
    · rw [hRevoke]
      exact .revoked keyId rfl
  | signWithApiKey token accountIndex data =>
    simp only [KeyBackend.perform]
    cases hSigned : backend.signWithApiKey kind host token accountIndex data with
    | error error => exact .none rfl
    | ok signature =>
      cases hRead : backend.vault.readApiKey kind host.toVaultHost token with
      | error error =>
        unfold KeyBackend.signWithApiKey at hSigned
        rw [hRead] at hSigned
        cases hSigned
      | ok payload => exact .used token payload (Or.inr ⟨accountIndex, data, rfl⟩) hRead rfl

theorem apiKeyStep_move (h : apiKeyStep kind host passphrase before label = some (after, out)) :
    KeyMove kind host before after label out := by
  obtain ⟨now, call⟩ := label
  cases call with
  | backend operation =>
    cases h
    exact perform_move kind host passphrase before now operation
  | vaultCreateApiKey id walletId mnemonic token expiresAt nonces storedAt written =>
    unfold apiKeyStep at h
    rcases Vault.createApiKey_cases kind host.toVaultHost before.vault id walletId mnemonic token
      expiresAt nonces storedAt written with ⟨error, hCreate⟩ | ⟨tokenIndex, hCreate⟩
    · simp only [hCreate] at h
      cases h
      exact .none rfl
    · simp only [hCreate] at h
      cases h
      exact .created id token expiresAt _ ⟨rfl, nonces, _, rfl⟩ rfl
  | vaultReadApiKey token =>
    unfold apiKeyStep at h
    cases hRead : before.vault.readApiKey kind host.toVaultHost token with
    | error error =>
      simp only [hRead] at h
      cases h
      exact .none rfl
    | ok payload =>
      simp only [hRead] at h
      cases h
      exact .used token payload (Or.inl rfl) hRead rfl
  | vaultRevokeApiKey id =>
    unfold apiKeyStep at h
    rcases Vault.revokeApiKey_cases kind before.vault id with
      ⟨error, hRevoke⟩ | ⟨tokenIndex, hRevoke⟩
    · simp only [hRevoke] at h
      cases h
      exact .none rfl
    · simp only [hRevoke] at h
      cases h
      exact .revoked id rfl
  | restart =>
    cases h
    exact .none rfl

/-! ## The files of live grants -/

/-- Every key file was written for a live grant. -/
def KeysGranted (grants : List ApiKeyGrant) (backend : KeyBackend) : Prop :=
  ∀ id file, backend.vault.apiKeys.get id = some file →
    ∃ grant ∈ grants, grant.id = id ∧ FileOf host.toVaultHost grant file

theorem liveGrants_append (earlier later : List ApiKeyObservation) :
    liveGrants (earlier ++ later) = later.foldl addObservation (liveGrants earlier) :=
  List.foldl_append

/-- A call keeps every file under a live grant. -/
theorem KeyMove.granted (hMove : KeyMove kind host before after label out)
    {grants : List ApiKeyGrant} (h : KeysGranted host grants before) :
    KeysGranted host (out.foldl addObservation grants) after := by
  cases hMove with
  | none hKeys =>
    unfold KeysGranted
    rw [hKeys]
    exact h
  | created id token expiresAt file hFile hKeys =>
    intro name found hFound
    rw [hKeys] at hFound
    rcases AssocMap.get_set_cases hFound with ⟨hName, rfl⟩ | ⟨-, hFound⟩
    · exact ⟨_, List.mem_append_right _ (List.mem_singleton_self _), hName.symm, hFile⟩
    · obtain ⟨grant, hGrant, hSpec⟩ := h name found hFound
      exact ⟨grant, List.mem_append_left _ hGrant, hSpec⟩
  | revoked id hKeys =>
    intro name found hFound
    rw [hKeys] at hFound
    obtain ⟨hOther, hFound⟩ := AssocMap.of_get_delete hFound
    obtain ⟨grant, hGrant, hName, hFile⟩ := h name found hFound
    refine ⟨grant, List.mem_filter.mpr ⟨hGrant, ?_⟩, hName, hFile⟩
    rw [hName]
    exact decide_eq_true hOther
  | used token payload hCall hRead hKeys =>
    unfold KeysGranted
    rw [hKeys]
    exact h

theorem keysGranted_of_runs {h : List (Occurrence KeyBackend ApiKeyLabel ApiKeyObservation)}
    (hRun : (apiKeyMachine kind host passphrase).Runs h backend) :
    KeysGranted host (liveGrants (outputs h)) backend := by
  induction hRun with
  | start => exact fun _ _ hNone => nomatch hNone
  | step hRun' hTaken ih =>
    rw [outputs_append, outputs_singleton, liveGrants_append]
    exact (apiKeyStep_move kind host passphrase hTaken).granted kind host ih

theorem textEncode_injective {text text' : String} (h : textEncode text = textEncode text') :
    text = text' := by
  have hBack := congrArg Utf8.decode h
  unfold textEncode at hBack
  rwa [Utf8.decode_encode, Utf8.decode_encode] at hBack

theorem FileOf.token_eq {grant : ApiKeyGrant} {file : ApiKeyFile} {token : String}
    {payload : ApiKeyPayload} (hAuthentic : host.toVaultHost.Authentic)
    (hFile : FileOf host.toVaultHost grant file)
    (hOpen : file.open? host.toVaultHost token = .ok payload) : grant.token = token := by
  obtain ⟨-, nonces, plaintext, hCrypto⟩ := hFile
  unfold ApiKeyFile.open? decryptWithHkdf at hOpen
  rw [hCrypto] at hOpen
  unfold encryptWithHkdf at hOpen
  dsimp only at hOpen
  cases hDecrypted : host.gcmDecrypt (host.hkdf (textEncode token) nonces.salt
      (textEncode "signet-api-key")) nonces.iv (host.gcmEncrypt (host.hkdf (textEncode grant.token)
        nonces.salt (textEncode "signet-api-key")) nonces.iv (textEncode plaintext)) with
  | none =>
    rw [hDecrypted] at hOpen
    cases hOpen
  | some decrypted =>
    have hKey := hAuthentic.gcm_key _ _ _ _ _ hDecrypted
    exact (textEncode_injective (hAuthentic.hkdf_token _ _ _ _ hKey)).symm

/-! ## Uses -/

/-- **API keys in time.**  In a run in which no token is used that opens an expired key
file, every use is covered by a key that has been created, has not been revoked since, and
has not expired. -/
theorem uses_covered (parseDate : String → Option Int)
    {h : List (Occurrence KeyBackend ApiKeyLabel ApiKeyObservation)} {backend : KeyBackend}
    (hRun : (apiKeyMachine kind host passphrase).Runs h backend)
    (hInTime : AllMeet (UsedInTime host parseDate) h)
    {earlier later : List (Occurrence KeyBackend ApiKeyLabel ApiKeyObservation)}
    {o : Occurrence KeyBackend ApiKeyLabel ApiKeyObservation} (hSplit : h = earlier ++ o :: later)
    {token : String} (hUsed : .used token ∈ o.out) :
    Covered host parseDate (liveGrants (outputs earlier)) o.label.now token := by
  obtain ⟨hEarlier, after, hTaken⟩ := hRun.of_append_cons hSplit
  have hGranted := keysGranted_of_runs kind host passphrase hEarlier
  have hMove := apiKeyStep_move kind host passphrase hTaken
  have hGuard : UsedInTime host parseDate o.pre o.label :=
    hInTime o (by rw [hSplit]; exact List.mem_append_right _ List.mem_cons_self)
  generalize o.out = out at hMove hUsed
  cases hMove with
  | none hKeys => cases hUsed
  | created id other expiresAt file hFile hKeys =>
    rw [List.mem_singleton] at hUsed
    cases hUsed
  | revoked id hKeys =>
    rw [List.mem_singleton] at hUsed
    cases hUsed
  | used other payload hCall hRead hKeys =>
    rw [List.mem_singleton] at hUsed
    cases hUsed
    obtain ⟨id, file, hFile, hOpen⟩ := Vault.opened_of_readApiKey hRead
    obtain ⟨grant, hGrant, -, hWritten⟩ := hGranted id file hFile
    have hUnexpired := hGuard token hCall id file payload hFile hOpen
    rw [hWritten.1] at hUnexpired
    exact ⟨grant, hGrant, hUnexpired, ⟨file, payload, hWritten, hOpen⟩,
      fun hAuthentic => hWritten.token_eq host hAuthentic hOpen⟩

/-! ## A key before and after its expiry -/

theorem keyMark_prefix (key key' rest : Bytes) (h : keyMark key' <+: keyMark key ++ rest) :
    key' = key := by
  induction key generalizing key' with
  | nil =>
    cases key' with
    | nil => rfl
    | cons b key' => exact absurd (List.cons_prefix_cons.mp h).1 (by decide)
  | cons a key ih =>
    cases key' with
    | nil => exact absurd (List.cons_prefix_cons.mp h).1 (by decide)
    | cons b key' =>
      have hRest := (List.cons_prefix_cons.mp h).2
      obtain ⟨rfl, hMark⟩ := List.cons_prefix_cons.mp hRest
      rw [ih key' hMark]

theorem markingHost_authentic : markingHost.toVaultHost.Authentic where
  gcm_key := by
    intro key key' iv plaintext decrypted h
    simp only [markingHost] at h
    split at h
    · next hPrefix => exact keyMark_prefix key key' plaintext hPrefix
    · cases h
  hkdf_token := by
    intro token token' salt info h
    exact h

def createdKey : List ApiKeyLabel :=
  [⟨500, .backend (.createWallet "main" "wallet" "zoo" ⟨[], []⟩ "t0" "t1" (.ok ()))⟩,
    ⟨500, .backend (.deriveAccount "wallet" .evm (.ok ()))⟩,
    ⟨500, .backend (.createApiKey "wallet" "cred" "soon" [1] ⟨[], []⟩ "t2" (.ok ()))⟩]

/-- Signing with the key of `createdKey`. -/
def signedWithKey (now : Int) : ApiKeyLabel :=
  ⟨now, .backend (.signWithApiKey "01" 0 [7])⟩

theorem createdKey_signs (kind : VaultKind) (now : Int) :
    ∃ (h : List (Occurrence KeyBackend ApiKeyLabel ApiKeyObservation))
      (before after : KeyBackend),
      (apiKeyMachine kind markingHost "secret").Runs
        (h ++ [⟨before, signedWithKey now, [.used "01"]⟩]) after ∧
      h.map Occurrence.label = createdKey ∧
      outputs h = [.created "cred" "01" "soon"] := by
  let M := apiKeyMachine kind markingHost "secret"
  have hSome : (M.exec M.init createdKey).isSome = true := by
    cases kind <;> decide
  let created := M.outcome M.init createdKey hSome
  have hOut : outputs created.1 = [.created "cred" "01" "soon"] := by
    cases kind <;> decide +revert
  have hSigned : (M.step created.2 (signedWithKey 0)).map Prod.snd = some [.used "01"] := by
    cases kind <;> decide +revert
  obtain ⟨⟨after, out⟩, hStep, rfl⟩ := Option.map_eq_some_iff.mp hSigned
  have hTaken : M.step created.2 (signedWithKey now) = some (after, [.used "01"]) := hStep
  have hExec := exec_outcome hSome
  exact ⟨created.1, created.2, after, (runs_of_exec hExec).step hTaken,
    exec_labels hExec, hOut⟩

/-- Before a date that is later than the call, nothing has expired. -/
theorem usedInTime_of_now {parseDate : String → Option Int}
    (h : ∀ text ms, parseDate text = some ms → label.now < ms) :
    UsedInTime host parseDate backend label := by
  rintro token - id file payload - - ⟨ms, hDate, hPast⟩
  exact absurd hPast (Int.not_le.mpr (h _ ms hDate))

/-- A key that is used before it expires is covered. -/
theorem key_covered_before_expiry :
    ∃ earlier : List (Occurrence KeyBackend ApiKeyLabel ApiKeyObservation),
      outputs earlier = [.created "cred" "01" "soon"] ∧
      Covered markingHost (fun _ => some 1000) (liveGrants (outputs earlier)) 600 "01" := by
  obtain ⟨h, before, after, hRun, hLabels, hOut⟩ := createdKey_signs .file 600
  have hInTime : AllMeet (UsedInTime markingHost fun _ => some 1000)
      (h ++ [⟨before, signedWithKey 600, [.used "01"]⟩]) := by
    intro o ho
    have hNow : o.label.now < 1000 := by
      rcases List.mem_append.mp ho with hEarlier | hLast
      · have hLabel : o.label ∈ createdKey := hLabels ▸ List.mem_map_of_mem hEarlier
        simp only [createdKey, List.mem_cons, List.not_mem_nil, or_false] at hLabel
        rcases hLabel with hLabel | hLabel | hLabel <;> rw [hLabel] <;> decide
      · rw [List.mem_singleton.mp hLast]
        show (600 : Int) < 1000
        decide
    apply usedInTime_of_now
    intro text ms hDate
    cases hDate
    exact hNow
  exact ⟨h, hOut, uses_covered .file markingHost "secret" (fun _ => some 1000) hRun hInTime rfl
    (List.mem_singleton_self _)⟩

def SignsAfterExpiry (kind : VaultKind) : Prop :=
  ∃ (h : List (Occurrence KeyBackend ApiKeyLabel ApiKeyObservation)) (before after : KeyBackend),
    (apiKeyMachine kind markingHost "secret").Runs
      (h ++ [⟨before, signedWithKey 2000, [.used "01"]⟩]) after ∧
    outputs h = [.created "cred" "01" "soon"] ∧
    Expired (fun _ => some 1000) 2000 "soon"

theorem signsAfterExpiry (kind : VaultKind) : SignsAfterExpiry kind := by
  obtain ⟨h, before, after, hRun, -, hOut⟩ := createdKey_signs kind 2000
  exact ⟨h, before, after, hRun, hOut, 1000, rfl, by decide⟩

/-- A key that has expired still signs, in either vault. -/
theorem expired_key_signs : SignsAfterExpiry .memory ∧ SignsAfterExpiry .file :=
  ⟨signsAfterExpiry .memory, signsAfterExpiry .file⟩

end Keys
end Signet
