import Signet.Keys.KeyBackend
import Signet.Kit.Machine

/-!
# The key backend across restarts

A restart leaves the vault and loses what the backend keeps in memory.  The operations
that go through `ensureWalletState` read it back from the vault.  `sign` and
`signWithApiKey` do not: they look an account up in memory alone, and miss every account
of a wallet that has not been worked with since the restart.

* `twinMachine` — one backend that is restarted and one that is not, operated alike.
* `Follows` — what the restarted one has kept of the other.
* `Ready` — the wallet an operation signs for has been read back.
-/

namespace Signet
namespace Keys

open Kit Machine Schemas
open Signet.Core

/-! ## Two backends -/

/-- A backend without a restart and one with restarts. -/
structure Twin where
  plain : KeyBackend
  restarted : KeyBackend

/-- What happens to the two. -/
inductive TwinEvent where
  | perform (operation : KeyOperation)
  /-- The second backend is opened again over the contents of its vault. -/
  | restart

variable (kind : VaultKind) (host : KeyHost) (passphrase : String)

/-- One step; an operation makes both replies observable. -/
def twinStep (t : Twin) : TwinEvent → Option (Twin × List (KeyReply × KeyReply))
  | .perform operation =>
    let plain := t.plain.perform kind host passphrase operation
    let restarted := t.restarted.perform kind host passphrase operation
    some (⟨plain.1, restarted.1⟩, [(plain.2, restarted.2)])
  | .restart => some ({ t with restarted := KeyBackend.fresh t.restarted.vault }, [])

/-- Both backends are opened over the same contents. -/
def twinMachine (vault : Vault) : Machine Twin TwinEvent (KeyReply × KeyReply) where
  init := ⟨KeyBackend.fresh vault, KeyBackend.fresh vault⟩
  step := twinStep kind host passphrase

/-! ## What is kept in memory -/

def WalletFile.state (file : WalletFile) : WalletState :=
  ⟨nextIndexOf file.accounts, file.accounts⟩

/-- What a backend keeps of a wallet is what the file of the wallet says. -/
def KeyBackend.Current (backend : KeyBackend) : Prop :=
  ∀ walletId state, backend.walletStates.get walletId = some state →
    ∃ file, backend.vault.wallets.files.get walletId = some file ∧ state = file.state

/-- The accounts of a wallet are in memory. -/
def KeyBackend.Loaded (backend : KeyBackend) (walletId : String) : Prop :=
  (backend.walletStates.get walletId).isSome = true

/-- An account is in memory. -/
def KeyBackend.Knows (backend : KeyBackend) (walletId : String) (index : Nat) : Prop :=
  ∃ state, backend.walletStates.get walletId = some state ∧ ∃ a ∈ state.accounts, a.index = index

theorem KeyBackend.fresh_current (vault : Vault) : (KeyBackend.fresh vault).Current :=
  fun _ _ h => nomatch h

theorem nextIndexOf_append (accounts : List AccountEntry) (entry : AccountEntry)
    (h : entry.index = nextIndexOf accounts) :
    nextIndexOf (accounts ++ [entry]) = entry.index + 1 := by
  unfold nextIndexOf at h ⊢
  rw [List.foldl_append, ← h]
  exact Nat.max_eq_right (Nat.le_succ _)

/-! ## Loading a wallet -/

structure KeyBackend.LoadedFrom (before after : KeyBackend) (walletId : String)
    (file : WalletFile) : Prop where
  vault : after.vault = before.vault
  states : ∀ other, after.walletStates.get other =
    if other = walletId then some file.state else before.walletStates.get other

/-- Everything `ensureWalletState` can do. -/
theorem ensureWalletState_cases {backend : KeyBackend} (hCurrent : backend.Current)
    (walletId : String) :
    (∃ error, backend.getSeed host passphrase walletId = .error error ∧
      backend.ensureWalletState kind host passphrase walletId = (backend, .error error)) ∨
    (∃ seed file loaded, backend.getSeed host passphrase walletId = .ok seed ∧
      backend.vault.wallets.files.get walletId = some file ∧
      backend.LoadedFrom loaded walletId file ∧
      backend.ensureWalletState kind host passphrase walletId =
        (loaded, .ok (file.state, seed))) := by
  unfold KeyBackend.ensureWalletState
  cases hSeed : backend.getSeed host passphrase walletId with
  | error error => exact Or.inl ⟨error, rfl, rfl⟩
  | ok seed =>
    right
    cases hState : backend.walletStates.get walletId with
    | some state =>
      obtain ⟨file, hFile, rfl⟩ := hCurrent walletId state hState
      refine ⟨seed, file, backend, rfl, hFile, ⟨rfl, ?_⟩, rfl⟩
      intro other
      split
      · next hEq => rw [hEq, hState]
      · rfl
    | none =>
      cases hFile : backend.vault.wallets.files.get walletId with
      | none =>
        -- a wallet without a file has no seed
        unfold KeyBackend.getSeed Vault.readWallet at hSeed
        rw [hFile] at hSeed
        cases hSeed
      | some file =>
        obtain ⟨info, hListed, hId⟩ :=
          Vault.listWallets_of_get kind host.toVaultHost hFile
        have hFound : ((backend.vault.listWallets kind host.toVaultHost).find?
            fun entry => entry.id = walletId).isSome = true :=
          List.find?_isSome.mpr ⟨info, hListed, decide_eq_true hId⟩
        obtain ⟨found, hFound⟩ := Option.isSome_iff_exists.mp hFound
        have hAccounts : backend.vault.getWalletAccounts walletId = .ok file.accounts := by
          unfold Vault.getWalletAccounts
          rw [hFile]
        refine ⟨seed, file, { backend with
          walletStates := backend.walletStates.set walletId file.state }, rfl, rfl,
          ⟨rfl, fun other => AssocMap.get_set _ _ _ _⟩, ?_⟩
        simp only [hFound, hAccounts]
        rfl

/-! ## The restarted backend follows the other -/

/-- The vaults are the same, and what the restarted backend keeps in memory the other
keeps too. -/
structure Follows (t : Twin) : Prop where
  vault : t.restarted.vault = t.plain.vault
  states : ∀ walletId state, t.restarted.walletStates.get walletId = some state →
    t.plain.walletStates.get walletId = some state
  current : t.plain.Current

variable {t : Twin} {vault : Vault}

theorem Follows.restarted_current (h : Follows t) : t.restarted.Current := by
  intro walletId state hState
  obtain ⟨file, hFile, hEq⟩ := h.current walletId state (h.states walletId state hState)
  exact ⟨file, h.vault ▸ hFile, hEq⟩

theorem Follows.getSeed (h : Follows t) (walletId : String) :
    t.restarted.getSeed host passphrase walletId = t.plain.getSeed host passphrase walletId := by
  unfold KeyBackend.getSeed
  rw [h.vault]

/-- Loading a wallet in both. -/
theorem Follows.ensure (h : Follows t) (walletId : String) :
    (∃ error,
      t.plain.ensureWalletState kind host passphrase walletId = (t.plain, .error error) ∧
      t.restarted.ensureWalletState kind host passphrase walletId =
        (t.restarted, .error error)) ∨
    (∃ seed file plain restarted,
      t.plain.vault.wallets.files.get walletId = some file ∧
      t.plain.LoadedFrom plain walletId file ∧ t.restarted.LoadedFrom restarted walletId file ∧
      t.plain.ensureWalletState kind host passphrase walletId = (plain, .ok (file.state, seed)) ∧
      t.restarted.ensureWalletState kind host passphrase walletId =
        (restarted, .ok (file.state, seed))) := by
  have hSeeds := h.getSeed host passphrase walletId
  rcases ensureWalletState_cases kind host passphrase
      h.current walletId with ⟨error, hSeed, hPlain⟩ | ⟨seed, file, plain, hSeed, hFile, hLoaded, hPlain⟩
  · rcases ensureWalletState_cases kind host passphrase
        h.restarted_current walletId with
      ⟨error', hSeed', hRestarted⟩ | ⟨seed', _, _, hSeed', _, _, _⟩
    · rw [hSeeds, hSeed] at hSeed'
      cases hSeed'
      exact Or.inl ⟨error, hPlain, hRestarted⟩
    · rw [hSeeds, hSeed] at hSeed'
      cases hSeed'
  · rcases ensureWalletState_cases kind host passphrase
        h.restarted_current walletId with
      ⟨error', hSeed', _⟩ | ⟨seed', file', restarted, hSeed', hFile', hLoaded', hRestarted⟩
    · rw [hSeeds, hSeed] at hSeed'
      cases hSeed'
    · rw [hSeeds, hSeed] at hSeed'
      cases hSeed'
      rw [h.vault, hFile] at hFile'
      cases hFile'
      exact Or.inr ⟨seed, file, plain, restarted, hFile, hLoaded, hLoaded', hPlain, hRestarted⟩

theorem Follows.loaded (h : Follows t) {walletId : String} {file : WalletFile}
    {plain restarted : KeyBackend} (hFile : t.plain.vault.wallets.files.get walletId = some file)
    (hPlain : t.plain.LoadedFrom plain walletId file)
    (hRestarted : t.restarted.LoadedFrom restarted walletId file) : Follows ⟨plain, restarted⟩ where
  vault := by rw [hPlain.vault, hRestarted.vault, h.vault]
  states := by
    intro other state hState
    rw [hRestarted.states] at hState
    rw [hPlain.states]
    split at hState
    · next hEq => rw [if_pos hEq, hState]
    · next hNe => rw [if_neg hNe, h.states other state hState]
  current := by
    intro other state hState
    rw [hPlain.states] at hState
    rw [hPlain.vault]
    split at hState
    · next hEq =>
      cases hState
      exact ⟨file, hEq ▸ hFile, rfl⟩
    · exact h.current other state hState

theorem Follows.stored {t : Twin} (h : Follows t) {file : WalletFile} {vault : Vault}
    (hFile : vault.wallets = t.plain.vault.wallets.store file) :
    Follows ⟨⟨vault, t.plain.walletStates.set file.id file.state⟩,
      ⟨vault, t.restarted.walletStates.set file.id file.state⟩⟩ where
  vault := rfl
  states := by
    intro other state hState
    rw [AssocMap.get_set] at hState ⊢
    split at hState
    · next hEq => rw [if_pos hEq, hState]
    · next hNe => rw [if_neg hNe, h.states other state hState]
  current := by
    intro other state hState
    dsimp only at hState ⊢
    rw [AssocMap.get_set] at hState
    rw [hFile]
    unfold WalletFiles.store
    dsimp only
    rw [AssocMap.get_set]
    split at hState
    · next hEq =>
      cases hState
      exact ⟨file, if_pos hEq, rfl⟩
    · next hNe =>
      rw [if_neg hNe]
      exact h.current other state hState

/-- Both backends have dropped a wallet. -/
theorem Follows.removed (h : Follows t) {walletId : String}
    (hRemoved : vault.wallets = t.plain.vault.wallets.remove walletId) :
    Follows ⟨⟨vault, t.plain.walletStates.delete walletId⟩,
      ⟨vault, t.restarted.walletStates.delete walletId⟩⟩ where
  vault := rfl
  states := by
    intro other state hState
    rw [AssocMap.get_delete] at hState ⊢
    split at hState
    · cases hState
    · next hNe => rw [if_neg hNe, h.states other state hState]
  current := by
    intro other state hState
    dsimp only at hState ⊢
    rw [AssocMap.get_delete] at hState
    rw [hRemoved]
    unfold WalletFiles.remove
    dsimp only
    rw [AssocMap.get_delete]
    split at hState
    · cases hState
    · next hNe =>
      rw [if_neg hNe]
      exact h.current other state hState

theorem Follows.elsewhere (h : Follows t) (hSame : vault.wallets = t.plain.vault.wallets) :
    Follows ⟨{ t.plain with vault := vault }, { t.restarted with vault := vault }⟩ where
  vault := rfl
  states := h.states
  current := by
    intro walletId state hState
    obtain ⟨file, hFile, hEq⟩ := h.current walletId state hState
    exact ⟨file, by rw [hSame]; exact hFile, hEq⟩

/-! ## One step -/

/-- An operation that signs goes through: the other backend knows the account only if the
wallet is in memory after the restart too. -/
def SignsAlike (t : Twin) (walletId : String) (accountIndex : Nat) : Prop :=
  t.plain.Knows walletId accountIndex → t.restarted.Loaded walletId

/-- The wallet an operation signs for has been read back since the restart, or its account
is not known without the restart either. -/
def Ready (t : Twin) : TwinEvent → Prop
  | .perform (.sign walletId accountIndex _) =>
    ∀ mnemonic, t.plain.vault.readWallet host.toVaultHost walletId passphrase = .ok mnemonic →
      SignsAlike t walletId accountIndex
  | .perform (.signWithApiKey token accountIndex _) =>
    ∀ payload, t.plain.vault.readApiKey kind host.toVaultHost token = .ok payload →
      SignsAlike t payload.walletId accountIndex
  | _ => True

theorem chainAt_isSome_iff (backend : KeyBackend) (walletId : String) (index : Nat) :
    (backend.chainAt walletId index).isSome = true ↔ backend.Knows walletId index := by
  unfold KeyBackend.chainAt KeyBackend.Knows
  cases hState : backend.walletStates.get walletId with
  | none => simp
  | some state =>
    simp only [Option.isSome_map, List.find?_isSome, decide_eq_true_eq, Option.some.injEq,
      exists_eq_left']

section

variable (h : Follows t)

include h

/-- Both backends sign alike exactly when the wallet is loaded where it has to be. -/
theorem Follows.resolveAndSign_iff (walletId : String) (seed data : Bytes) (accountIndex : Nat) :
    t.plain.resolveAndSign host walletId seed accountIndex data =
      t.restarted.resolveAndSign host walletId seed accountIndex data ↔
    SignsAlike t walletId accountIndex := by
  unfold SignsAlike KeyBackend.Loaded
  cases hState : t.restarted.walletStates.get walletId with
  | some state =>
    have hPlain := h.states walletId state hState
    have hChain : t.plain.chainAt walletId accountIndex =
        t.restarted.chainAt walletId accountIndex := by
      unfold KeyBackend.chainAt
      rw [hState, hPlain]
    unfold KeyBackend.resolveAndSign
    rw [hChain]
    exact iff_of_true rfl fun _ => rfl
  | none =>
    have hMissing : t.restarted.chainAt walletId accountIndex = none := by
      unfold KeyBackend.chainAt
      rw [hState]
    rw [← chainAt_isSome_iff]
    unfold KeyBackend.resolveAndSign
    rw [hMissing]
    cases t.plain.chainAt walletId accountIndex with
    | none => simp
    | some chain => simp

/-- A twin whose backends have taken the same step. -/
theorem Follows.sign_iff (walletId : String) (accountIndex : Nat) (data : Bytes) :
    t.plain.sign host passphrase walletId accountIndex data =
      t.restarted.sign host passphrase walletId accountIndex data ↔
    Ready kind host passphrase t (.perform (.sign walletId accountIndex data)) := by
  unfold KeyBackend.sign Ready
  rw [h.getSeed host passphrase]
  unfold KeyBackend.getSeed
  cases hRead : t.plain.vault.readWallet host.toVaultHost walletId passphrase with
  | error error => simp [hRead]
  | ok mnemonic => simp [hRead, h.resolveAndSign_iff host]

theorem Follows.signWithApiKey_iff (token : String) (accountIndex : Nat) (data : Bytes) :
    t.plain.signWithApiKey kind host token accountIndex data =
      t.restarted.signWithApiKey kind host token accountIndex data ↔
    Ready kind host passphrase t (.perform (.signWithApiKey token accountIndex data)) := by
  unfold KeyBackend.signWithApiKey Ready
  rw [h.vault]
  cases hRead : t.plain.vault.readApiKey kind host.toVaultHost token with
  | error error => simp [hRead]
  | ok payload => simp [hRead, h.resolveAndSign_iff host]

theorem Follows.deriveAccount (walletId : String) (chain : Chain) (written : Except String Unit) :
    Follows ⟨(t.plain.deriveAccount kind host passphrase walletId chain written).1,
      (t.restarted.deriveAccount kind host passphrase walletId chain written).1⟩ ∧
    (t.plain.deriveAccount kind host passphrase walletId chain written).2 =
      (t.restarted.deriveAccount kind host passphrase walletId chain written).2 := by
  unfold KeyBackend.deriveAccount
  rcases h.ensure kind host passphrase walletId with
    ⟨error, hPlain, hRestarted⟩ | ⟨seed, file, plain, restarted, hFile, hLoaded, hLoaded', hPlain,
      hRestarted⟩
  · rw [hPlain, hRestarted]
    exact ⟨h, rfl⟩
  · rw [hPlain, hRestarted]
    have hNext := h.loaded hFile hLoaded hLoaded'
    have hVault : restarted.vault = plain.vault := hNext.vault
    have hId : file.id = walletId := t.plain.vault.wallets.named walletId file hFile
    rw [← hLoaded.vault] at hFile
    dsimp only
    rw [hVault]
    obtain ⟨entry, publicKeyHex, hDerived, hIndex⟩ : ∃ entry publicKeyHex,
        derivedAccount host seed file.state.nextIndex chain = (entry, publicKeyHex) ∧
          entry.index = nextIndexOf file.accounts := by
      cases chain <;> exact ⟨_, _, rfl, rfl⟩
    rw [hDerived]
    dsimp only
    have hState : (⟨file.state.nextIndex + 1, file.state.accounts ++ [entry]⟩ : WalletState) =
        { file with accounts := file.state.accounts ++ [entry] : WalletFile }.state := by
      have hAppend := nextIndexOf_append file.accounts entry hIndex
      unfold WalletFile.state
      rw [hAppend, hIndex]
    rcases Vault.updateWalletAccounts_cases kind hFile (file.state.accounts ++ [entry])
      written with ⟨error, hUpdate⟩ | hUpdate
    · rw [hUpdate]
      exact ⟨hNext.elsewhere rfl, rfl⟩
    · rw [hUpdate, hState]
      refine ⟨?_, rfl⟩
      subst hId
      exact @Follows.stored _ hNext { file with accounts := file.state.accounts ++ [entry] } _ rfl

/-- Both backends take the same step, and reply alike exactly when the step is ready. -/
theorem Follows.perform (operation : KeyOperation) :
    Follows ⟨(t.plain.perform kind host passphrase operation).1,
      (t.restarted.perform kind host passphrase operation).1⟩ ∧
    ((t.plain.perform kind host passphrase operation).2 =
      (t.restarted.perform kind host passphrase operation).2 ↔
      Ready kind host passphrase t (.perform operation)) := by
  obtain ⟨⟨contents, plainStates⟩, ⟨contents', restartedStates⟩⟩ := t
  obtain rfl : contents = contents' := h.vault.symm
  cases operation with
  | createWallet label id mnemonic nonces storedAt now written =>
    simp only [KeyBackend.perform, KeyBackend.createWallet]
    rcases Vault.createWallet_cases kind host.toVaultHost contents id label
      mnemonic passphrase nonces storedAt written with ⟨error, hCreate⟩ | ⟨cryptoBlock, hCreate⟩
    · rw [hCreate]
      exact ⟨h, iff_of_true rfl trivial⟩
    · rw [hCreate]
      let file : WalletFile := ⟨id, label, cryptoBlock, [], storedAt⟩
      exact ⟨@Follows.stored _ h file _ rfl, iff_of_true rfl trivial⟩
  | deleteWallet walletId =>
    simp only [KeyBackend.perform, KeyBackend.deleteWallet]
    rcases Vault.deleteWallet_cases contents walletId with ⟨error, hDelete⟩ | hDelete
    · rw [hDelete]
      exact ⟨h, iff_of_true rfl trivial⟩
    · rw [hDelete]
      exact ⟨h.removed rfl, iff_of_true rfl trivial⟩
  | listWallets => exact ⟨h, iff_of_true rfl trivial⟩
  | getWallet walletId => exact ⟨h, iff_of_true rfl trivial⟩
  | deriveAccount walletId chain written =>
    obtain ⟨hNext, hReply⟩ := h.deriveAccount kind host passphrase walletId chain written
    exact ⟨hNext, iff_of_true (congrArg KeyReply.account hReply) trivial⟩
  | listAccounts walletId =>
    simp only [KeyBackend.perform, KeyBackend.listAccounts]
    rcases h.ensure kind host passphrase walletId with
      ⟨error, hPlain, hRestarted⟩ | ⟨seed, file, plain, restarted, hFile, hLoaded, hLoaded',
        hPlain, hRestarted⟩
    · rw [hPlain, hRestarted]
      exact ⟨h, iff_of_true rfl trivial⟩
    · rw [hPlain, hRestarted]
      exact ⟨h.loaded hFile hLoaded hLoaded', iff_of_true rfl trivial⟩
  | getXmtpIdentityKey walletId accountIndex =>
    simp only [KeyBackend.perform, KeyBackend.getXmtpIdentityKey]
    rcases h.ensure kind host passphrase walletId with
      ⟨error, hPlain, hRestarted⟩ | ⟨seed, file, plain, restarted, hFile, hLoaded, hLoaded',
        hPlain, hRestarted⟩
    · rw [hPlain, hRestarted]
      exact ⟨h, iff_of_true rfl trivial⟩
    · rw [hPlain, hRestarted]
      have hNext := h.loaded hFile hLoaded hLoaded'
      cases hFound : file.state.accounts.find?
          fun entry => entry.index = accountIndex ∧ entry.chain = .evm with
      | none =>
        simp only [hFound]
        exact ⟨hNext, iff_of_true trivial trivial⟩
      | some entry =>
        simp only [hFound]
        exact ⟨hNext, iff_of_true trivial trivial⟩
  | sign walletId accountIndex data =>
    refine ⟨h, Iff.trans ?_ (h.sign_iff kind host passphrase walletId accountIndex data)⟩
    simp only [KeyBackend.perform, KeyReply.signature.injEq]
  | createApiKey walletId credentialId expiresAt tokenBytes nonces storedAt written =>
    simp only [KeyBackend.perform, KeyBackend.createApiKey]
    cases hRead : contents.readWallet host.toVaultHost walletId passphrase with
    | error error => exact ⟨h, iff_of_true rfl trivial⟩
    | ok mnemonic =>
      dsimp only
      rcases Vault.createApiKey_cases kind host.toVaultHost contents
        credentialId walletId mnemonic (bytesToHex tokenBytes) expiresAt nonces storedAt written
        with ⟨error, hCreate⟩ | ⟨tokenIndex, hCreate⟩
      · rw [hCreate]
        exact ⟨h, iff_of_true rfl trivial⟩
      · rw [hCreate]
        exact ⟨h.elsewhere rfl, iff_of_true rfl trivial⟩
  | revokeApiKey keyId =>
    simp only [KeyBackend.perform, KeyBackend.revokeApiKey]
    rcases Vault.revokeApiKey_cases kind contents keyId with
      ⟨error, hRevoke⟩ | ⟨tokenIndex, hRevoke⟩
    · rw [hRevoke]
      exact ⟨h, iff_of_true trivial trivial⟩
    · rw [hRevoke]
      exact ⟨h.elsewhere rfl, iff_of_true trivial trivial⟩
  | signWithApiKey token accountIndex data =>
    refine ⟨h, Iff.trans ?_ (h.signWithApiKey_iff kind host passphrase token accountIndex data)⟩
    simp only [KeyBackend.perform, KeyReply.signature.injEq]

end

/-! ## Runs -/

/-- **The step lemma.** -/
theorem Follows.step {t t' : Twin} (h : Follows t) {event : TwinEvent}
    {out : List (KeyReply × KeyReply)} (hStep : twinStep kind host passphrase t event = some (t', out)) :
    Follows t' ∧ ((∀ replies ∈ out, replies.1 = replies.2) ↔ Ready kind host passphrase t event) := by
  cases event with
  | perform operation =>
    obtain ⟨hNext, hReplies⟩ := h.perform kind host passphrase operation
    cases hStep
    refine ⟨hNext, ?_⟩
    rw [← hReplies]
    simp only [List.mem_singleton, forall_eq]
  | restart =>
    cases hStep
    refine ⟨⟨h.vault, (fun _ _ hState => nomatch hState), h.current⟩, ?_⟩
    exact iff_of_true (fun _ hNone => nomatch hNone) trivial

theorem follows_of_runs {h : List (Occurrence Twin TwinEvent (KeyReply × KeyReply))}
    (hRun : (twinMachine kind host passphrase vault).Runs h t) : Follows t :=
  hRun.state_invariant
    ⟨rfl, fun _ _ hState => hState, KeyBackend.fresh_current vault⟩
    fun _ _ _ _ hFollows hStep => (hFollows.step kind host passphrase hStep).1

/-- **Restarts of the key backend.**  In a run of operations with restarts, every reply is
the one without the restarts exactly when every operation that signs finds the wallet in
memory, or would not have known the account without the restarts either. -/
theorem restarts_transparent_iff {vault : Vault}
    {h : List (Occurrence Twin TwinEvent (KeyReply × KeyReply))} {t : Twin}
    (hRun : (twinMachine kind host passphrase vault).Runs h t) :
    (∀ replies ∈ outputs h, replies.1 = replies.2) ↔
      AllMeet (Ready kind host passphrase) h := by
  induction hRun with
  | start => simp
  | step hRun' hTaken ih =>
    have hFollows := follows_of_runs kind host passphrase hRun'
    rw [allMeet_snoc, outputs_append, outputs_singleton,
      ← (hFollows.step kind host passphrase hTaken).2, ← ih]
    simp only [List.mem_append, or_imp, forall_and]

/-! ## A wallet before and after a restart -/

/-- A wallet is made and an account of it derived, and the backend is opened again. -/
def restartedWallet : List TwinEvent :=
  [.perform (.createWallet "main" "wallet" "zoo" ⟨[], []⟩ "t0" "t1" (.ok ())),
    .perform (.deriveAccount "wallet" .evm (.ok ())),
    .restart]

/-- Listing the accounts reads the wallet back, and it signs as before. -/
theorem listed_wallet_ready :
    ∃ h t, (twinMachine .file markingHost "secret" Vault.empty).Runs h t ∧
      h.map Occurrence.label =
        restartedWallet ++ [.perform (.listAccounts "wallet"), .perform (.sign "wallet" 0 [7])] ∧
      AllMeet (Ready .file markingHost "secret") h := by
  let events := restartedWallet ++
    [.perform (.listAccounts "wallet"), .perform (.sign "wallet" 0 [7])]
  let M := twinMachine .file markingHost "secret" Vault.empty
  have hSome : (M.exec M.init events).isSome = true := by decide
  have hAlike : ∀ replies ∈ outputs (M.outcome M.init events hSome).1,
      replies.1 = replies.2 := by
    decide +revert
  have hRun := runs_of_exec (exec_outcome hSome)
  exact ⟨_, _, hRun, exec_labels (exec_outcome hSome),
    (restarts_transparent_iff .file markingHost "secret" hRun).mp hAlike⟩

/-- Signing with an account right after a restart fails. -/
theorem restart_forgets_account :
    ∃ h t signature, (twinMachine .file markingHost "secret" Vault.empty).Runs h t ∧
      h.map Occurrence.label = restartedWallet ++ [.perform (.sign "wallet" 0 [7])] ∧
      (KeyReply.signature (.ok signature),
        KeyReply.signature (.error (NotFoundError.create "Account" "wallet/0"))) ∈
          outputs h := by
  let events := restartedWallet ++ [.perform (.sign "wallet" 0 [7])]
  let M := twinMachine .file markingHost "secret" Vault.empty
  let seed := textEncode "zoo"
  let signature : SigningResult := ⟨7 :: (seed ++ [0]), seed ++ [0], .secp256k1⟩
  have hSome : (M.exec M.init events).isSome = true := by decide
  have hMember : (KeyReply.signature (.ok signature),
      KeyReply.signature (.error (NotFoundError.create "Account" "wallet/0"))) ∈
        outputs (M.outcome M.init events hSome).1 := by
    decide +revert
  exact ⟨_, _, signature, runs_of_exec (exec_outcome hSome),
    exec_labels (exec_outcome hSome), hMember⟩

end Keys
end Signet
