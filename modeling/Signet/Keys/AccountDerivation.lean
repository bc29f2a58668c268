import Signet.Keys.RestartTransparency
import Signet.Kit.Arena

/-!
# Deriving accounts at the same time

The backend keeps the next index of a wallet in memory.  A derivation reads it, has the vault
write the longer list of accounts, and only then counts on; and the state itself is loaded by the
first call that needs it, over several awaits.  So the calls of one wallet can read one index, or
hold two states of the wallet.

* `DeriveState`, `deriveStep` — the calls and their awaits, the states by reference.
* `UniqueIndexes` — what the indexes are for.
* `takesTurns` — a call reads the index, or puts in a loaded state, when no other call is about to
  write, and neither is out of date.
* `DeriveInvariant` — what holds then.
* `unique_indexes` — over every run whose calls take turns.
* `overlapping_derivations` — two calls at once.
-/

namespace Signet
namespace Keys

open Kit Machine Schemas
open Signet.Core

/-! ## Calls of `deriveAccount` -/

structure TakenIndex where
  /-- The state that the call works on. -/
  ref : Nat
  entry : AccountEntry
  publicKey : String
  newAccounts : List AccountEntry
deriving DecidableEq

/-- What a call awaits. -/
inductive DeriveStage where
  /-- `getSeed`; the state of the wallet has been looked up. -/
  | seed (existing : Option Nat)
  /-- `vault.listWallets` -/
  | wallets (seed : Bytes)
  /-- `vault.getWalletAccounts` -/
  | accounts (seed : Bytes)
  | accountsRead (seed : Bytes) (accounts : List AccountEntry)
  /-- `ensureWalletState` has returned. -/
  | ensured (ref : Nat) (seed : Bytes)
  /-- `vault.updateWalletAccounts` -/
  | writing (taken : TakenIndex)
  /-- The write is done. -/
  | written (taken : TakenIndex) (result : Except SignetError Unit)
deriving DecidableEq

/-- A call of `deriveAccount`. -/
structure DeriveCall where
  walletId : String
  chain : Chain
  stage : DeriveStage
deriving DecidableEq

def DeriveCall.taken? (call : DeriveCall) : Option TakenIndex :=
  match call.stage with
  | .writing taken => some taken
  | .written taken _ => some taken
  | _ => none

/-- The backend with its calls. -/
structure DeriveState where
  vault : Vault
  /-- The states that have been made, whether or not they are still in the map. -/
  states : Arena WalletState
  walletStates : AssocMap String Nat
  calls : AssocMap Nat DeriveCall

/-- What happens to a call. -/
inductive DeriveEvent where
  | start (walletId : String) (chain : Chain)
  /-- The vault answers, or a call goes on after its answer. -/
  | resume
  /-- The write of the vault comes to its end. -/
  | write (outcome : WriteOutcome)

structure DeriveLabel where
  call : Nat
  event : DeriveEvent

structure DeriveReturn where
  walletId : String
  result : Except SignetError AccountInfo

namespace DeriveState

/-- Make a state of a wallet and put it into the map. -/
def install (s : DeriveState) (walletId : String) (state : WalletState) : DeriveState :=
  { s with
    states := s.states.alloc state
    walletStates := s.walletStates.set walletId s.states.next }

/-- The call goes on to a stage. -/
def goOn (s : DeriveState) (k : Nat) (call : DeriveCall) (stage : DeriveStage) : DeriveState :=
  { s with calls := s.calls.set k { call with stage := stage } }

/-- The call returns. -/
def finish (s : DeriveState) (k : Nat) : DeriveState :=
  { s with calls := s.calls.delete k }

/-- The state that is in the map for a wallet. -/
def current (s : DeriveState) (walletId : String) : Option WalletState :=
  (s.walletStates.get walletId).bind s.states.get

/-- A backend without calls. -/
def ofBackend (backend : KeyBackend) : DeriveState :=
  backend.walletStates.entries.foldl (fun s entry => s.install entry.1 entry.2)
    ⟨backend.vault, .empty, .empty, .empty⟩

end DeriveState

section

variable (kind : VaultKind) (host : KeyHost) (passphrase : String)

/-- The next step of a call that is awaiting or has just been answered. -/
def deriveResume (s : DeriveState) (k : Nat) (call : DeriveCall) :
    Option (DeriveState × List DeriveReturn) :=
  match call.stage with
  | .seed existing =>
    match (KeyBackend.fresh s.vault).getSeed host passphrase call.walletId with
    | .error error => some (s.finish k, [⟨call.walletId, .error error⟩])
    | .ok seed =>
      match existing with
      | some ref => some (s.goOn k call (.ensured ref seed), [])
      | none => some (s.goOn k call (.wallets seed), [])
  | .wallets seed =>
    match (s.vault.listWallets kind host.toVaultHost).find?
        fun entry => entry.id = call.walletId with
    | none => some (s.finish k,
        [⟨call.walletId, .error (NotFoundError.create "Wallet" call.walletId)⟩])
    | some _ => some (s.goOn k call (.accounts seed), [])
  | .accounts seed =>
    match s.vault.getWalletAccounts call.walletId with
    | .error error => some (s.finish k, [⟨call.walletId, .error error⟩])
    | .ok accounts => some (s.goOn k call (.accountsRead seed accounts), [])
  | .accountsRead seed accounts =>
    some ((s.install call.walletId ⟨nextIndexOf accounts, accounts⟩).goOn k call
      (.ensured s.states.next seed), [])
  | .ensured ref seed =>
    match s.states.get ref with
    | none => none
    | some state =>
      let index := state.nextIndex
      let (entry, publicKeyHex) := derivedAccount host seed index call.chain
      let newAccounts := state.accounts ++ [entry]
      some (s.goOn k call (.writing ⟨ref, entry, publicKeyHex, newAccounts⟩), [])
  | .writing _ => none
  | .written _ (.error error) => some (s.finish k, [⟨call.walletId, .error error⟩])
  | .written taken (.ok ()) =>
    let states' := s.states.modify taken.ref fun _ => ⟨taken.entry.index + 1, taken.newAccounts⟩
    some (({ s with states := states' } : DeriveState).finish k,
      [⟨call.walletId,
        .ok ⟨taken.entry.index, taken.entry.address, call.chain, taken.publicKey⟩⟩])

/-- One step. -/
def deriveStep (s : DeriveState) (label : DeriveLabel) :
    Option (DeriveState × List DeriveReturn) :=
  match label.event, s.calls.get label.call with
  | .start walletId chain, none =>
    let call : DeriveCall := ⟨walletId, chain, .seed (s.walletStates.get walletId)⟩
    some ({ s with calls := s.calls.set label.call call }, [])
  | .resume, some call => deriveResume kind host passphrase s label.call call
  | .write outcome, some ⟨walletId, chain, .writing taken⟩ =>
    let vault' := (s.vault.updateWalletAccounts kind walletId taken.newAccounts
      outcome.contents).1
    let result := (s.vault.updateWalletAccounts kind walletId taken.newAccounts
      outcome.report).2
    some ({ s with
      vault := vault'
      calls := s.calls.set label.call ⟨walletId, chain, .written taken result⟩ }, [])
  | _, _ => none

/-- The calls over a backend. -/
def deriveMachine (backend : KeyBackend) : Machine DeriveState DeriveLabel DeriveReturn where
  init := .ofBackend backend
  step := deriveStep kind host passphrase

end

/-! ## What the indexes are for -/

/-- A step of a run of the calls. -/
abbrev DerivationStep := Occurrence DeriveState DeriveLabel DeriveReturn

def DeriveReturn.account? (r : DeriveReturn) : Option (String × AccountInfo) :=
  match r.result with
  | .ok info => some (r.walletId, info)
  | .error _ => none

def returnedAccounts (h : List DerivationStep) : List (String × AccountInfo) :=
  (outputs h).filterMap DeriveReturn.account?

def returnedIndexes (returned : List (String × AccountInfo)) (walletId : String) : List Nat :=
  (returned.filter fun r => r.1 = walletId).map fun r => r.2.index

/-- The account as the vault lists it. -/
def Stored (vault : Vault) (walletId : String) (info : AccountInfo) : Prop :=
  ∃ accounts, vault.getWalletAccounts walletId = .ok accounts ∧
    (⟨info.index, info.chain, info.address⟩ : AccountEntry) ∈ accounts

/-- The returned accounts of a wallet have different indexes, the vault lists all of them, and
when none of its calls is in flight the state in memory lists what the vault lists. -/
structure UniqueIndexes (h : List DerivationStep) (s : DeriveState) : Prop where
  distinct : ∀ walletId, (returnedIndexes (returnedAccounts h) walletId).Nodup
  stored : ∀ walletId info, (walletId, info) ∈ returnedAccounts h → Stored s.vault walletId info
  mirrored : ∀ walletId, (∀ k call, s.calls.get k = some call → call.walletId ≠ walletId) →
    ∀ state, s.current walletId = some state →
      s.vault.getWalletAccounts walletId = .ok state.accounts

/-- No other call of the wallet has taken an index. -/
def noneTaken (s : DeriveState) (k : Nat) (walletId : String) : Bool :=
  s.calls.entries.all fun entry =>
    entry.1 = k || entry.2.walletId ≠ walletId || entry.2.taken?.isNone

/-- A call that reads the next index has the state that is in the map, a call that puts a state
into the map has read what the vault lists now, and at either moment no other call of the wallet
has taken an index.  No write is reported as failed when it has been made. -/
def takesTurns (s : DeriveState) (label : DeriveLabel) : Bool :=
  match label.event, s.calls.get label.call with
  | .resume, some ⟨walletId, _, .accountsRead _ accounts⟩ =>
    noneTaken s label.call walletId
      && s.vault.getWalletAccounts walletId = .ok accounts
  | .resume, some ⟨walletId, _, .ensured ref _⟩ =>
    noneTaken s label.call walletId && s.walletStates.get walletId = some ref
  | .write (.failedAfter _), _ => false
  | _, _ => true

variable {accounts : List AccountEntry} {walletId : String} {state : WalletState} {vault : Vault}
  {entry : AccountEntry}

theorem noneTaken_iff {s : DeriveState} {k : Nat} :
    noneTaken s k walletId = true ↔ ∀ k' call, s.calls.get k' = some call → k' ≠ k →
      call.walletId = walletId → call.taken? = none := by
  unfold noneTaken
  rw [List.all_eq_true]
  constructor
  · intro hAll k' call hGet hNe hWallet
    have hEntry := hAll (k', call) (AssocMap.get_eq_some_iff.mp hGet)
    simpa [hNe, hWallet] using hEntry
  · rintro hNone ⟨k', call⟩ hMem
    have hGet := AssocMap.get_eq_some_iff.mpr hMem
    by_cases hNe : k' = k
    · simp [hNe]
    · by_cases hWallet : call.walletId = walletId
      · simp [hNone k' call hGet hNe hWallet]
      · simp [hWallet]

/-! ## Indexes of a list of accounts -/

theorem lt_foldl_nextIndex (accounts : List AccountEntry) (next : Nat) :
    next ≤ accounts.foldl (fun next entry => max next (entry.index + 1)) next ∧
      ∀ entry ∈ accounts,
        entry.index < accounts.foldl (fun next entry => max next (entry.index + 1)) next := by
  induction accounts generalizing next with
  | nil => simp
  | cons account accounts ih =>
    obtain ⟨hBase, hRest⟩ := ih (max next (account.index + 1))
    rw [List.foldl_cons]
    refine ⟨by omega, ?_⟩
    intro entry hMem
    rcases List.mem_cons.mp hMem with rfl | hMem
    · omega
    · exact hRest entry hMem

theorem lt_nextIndexOf (h : entry ∈ accounts) : entry.index < nextIndexOf accounts :=
  (lt_foldl_nextIndex accounts 0).2 entry h

theorem derivedAccount_fst (host : KeyHost) (seed : Bytes) (index : Nat) (chain : Chain) :
    (derivedAccount host seed index chain).1.index = index ∧
      (derivedAccount host seed index chain).1.chain = chain := by
  cases chain <;> exact ⟨rfl, rfl⟩

/-! ## The invariant -/

structure TakenFrom (s : DeriveState) (call : DeriveCall) (taken : TakenIndex)
    (state : WalletState) : Prop where
  installed : s.walletStates.get call.walletId = some taken.ref
  read : s.states.get taken.ref = some state
  index : taken.entry.index = state.nextIndex
  chain : taken.entry.chain = call.chain
  accounts : taken.newAccounts = state.accounts ++ [taken.entry]
  next : state.nextIndex = nextIndexOf state.accounts

/-- The call has made its account in the vault and not yet in memory. -/
def DeriveCall.ahead (call : DeriveCall) (taken : TakenIndex) : Prop :=
  call.stage = .written taken (.ok ())

theorem DeriveCall.ahead.taken {call : DeriveCall} {taken : TakenIndex} (h : call.ahead taken) :
    call.taken? = some taken := by
  unfold DeriveCall.taken?
  rw [show call.stage = _ from h]

/-- What holds as long as the calls take turns. -/
structure DeriveInvariant (returned : List (String × AccountInfo)) (s : DeriveState) : Prop where
  known : ∀ walletId ref, s.walletStates.get walletId = some ref → ref < s.states.next
  own : ∀ walletId walletId' ref, s.walletStates.get walletId = some ref →
    s.walletStates.get walletId' = some ref → walletId = walletId'
  turns : ∀ k k' call call', s.calls.get k = some call → s.calls.get k' = some call' →
    call.walletId = call'.walletId → call.taken?.isSome = true → call'.taken?.isSome = true →
      k = k'
  takes : ∀ k call taken, s.calls.get k = some call → call.taken? = some taken →
    ∃ state, TakenFrom s call taken state
  mirrors : ∀ walletId state, s.current walletId = some state →
    (∀ k call taken, s.calls.get k = some call → call.walletId = walletId →
      ¬ call.ahead taken) →
    ∃ file, s.vault.wallets.files.get walletId = some file ∧ state = file.state
  landed : ∀ k call taken, s.calls.get k = some call → call.ahead taken →
    ∃ file, s.vault.wallets.files.get call.walletId = some file ∧
      file.accounts = taken.newAccounts
  stored : ∀ walletId info, (walletId, info) ∈ returned → Stored s.vault walletId info
  below : ∀ walletId info, (walletId, info) ∈ returned → ∀ state,
    s.current walletId = some state → info.index < state.nextIndex
  distinct : ∀ walletId, (returnedIndexes returned walletId).Nodup

theorem getWalletAccounts_of_get {walletId : String} {file : WalletFile}
    (h : vault.wallets.files.get walletId = some file) :
    vault.getWalletAccounts walletId = .ok file.accounts := by
  unfold Vault.getWalletAccounts
  rw [h]

theorem get_of_getWalletAccounts (h : vault.getWalletAccounts walletId = .ok accounts) :
    ∃ file, vault.wallets.files.get walletId = some file ∧ file.accounts = accounts := by
  unfold Vault.getWalletAccounts at h
  split at h
  · cases h
  · next file hFile =>
    cases h
    exact ⟨file, hFile, rfl⟩

theorem TakenFrom.current {s : DeriveState} {call : DeriveCall} {taken : TakenIndex}
    (h : TakenFrom s call taken state) :
    s.current call.walletId = some state := by
  unfold DeriveState.current
  rw [h.installed]
  exact h.read

theorem TakenFrom.congr {s t : DeriveState} {call call' : DeriveCall} {taken : TakenIndex}
    (h : TakenFrom s call taken state) (hMap : t.walletStates = s.walletStates)
    (hStates : t.states = s.states) (hWallet : call'.walletId = call.walletId)
    (hChain : call'.chain = call.chain) :
    TakenFrom t call' taken state where
  installed := by
    rw [hMap, hWallet]
    exact h.installed
  read := by
    rw [hStates]
    exact h.read
  index := h.index
  chain := h.chain.trans hChain.symm
  accounts := h.accounts
  next := h.next

theorem DeriveCall.taken?_writing {call : DeriveCall} {taken : TakenIndex}
    (hStage : call.stage = .writing taken) : call.taken? = some taken := by
  unfold DeriveCall.taken?
  rw [hStage]

/-- Where no call of a wallet is ahead after one of the calls has moved, none has been before,
unless that one was. -/
theorem none_ahead_of_others {calls calls' : AssocMap Nat DeriveCall} {k : Nat}
    (hOthers : ∀ k', k' ≠ k → calls'.get k' = calls.get k')
    (hOld : ∀ call taken, calls.get k = some call → call.walletId = walletId →
      ¬ call.ahead taken)
    (hNone : ∀ k call taken, calls'.get k = some call → call.walletId = walletId →
      ¬ call.ahead taken) :
    ∀ k call taken, calls.get k = some call → call.walletId = walletId → ¬ call.ahead taken := by
  intro k' call taken hGet hWallet hAhead
  by_cases hKey : k' = k
  · subst hKey
    exact hOld call taken hGet hWallet hAhead
  · refine hNone k' call taken ?_ hWallet hAhead
    rw [hOthers k' hKey]
    exact hGet

theorem current_install {returned : List (String × AccountInfo)} {s : DeriveState}
    (inv : DeriveInvariant returned s) (walletId : String) (state : WalletState)
    (other : String) :
    (s.install walletId state).current other =
      if other = walletId then some state else s.current other := by
  unfold DeriveState.current DeriveState.install
  simp only [AssocMap.get_set]
  split
  · simp
  · cases hRef : s.walletStates.get other with
    | none => rfl
    | some ref =>
      have hNe : ref ≠ s.states.next := Nat.ne_of_lt (inv.known other ref hRef)
      simp [hNe]

variable {returned : List (String × AccountInfo)} {s : DeriveState}

section

variable (inv : DeriveInvariant returned s)

include inv

/-- A call that has taken no index, or gives back its index, changes nothing else. -/
theorem DeriveInvariant.moves (k : Nat) {calls : AssocMap Nat DeriveCall}
    (hOthers : ∀ k', k' ≠ k → calls.get k' = s.calls.get k')
    (hNew : ∀ call, calls.get k = some call → call.taken? = none)
    (hOld : ∀ call taken, s.calls.get k = some call → ¬ call.ahead taken) :
    DeriveInvariant returned { s with calls := calls } := by
  have hBack : ∀ k' call taken, calls.get k' = some call → call.taken? = some taken →
      s.calls.get k' = some call := by
    intro k' call taken hGet hTaken
    by_cases hKey : k' = k
    · subst hKey
      rw [hNew call hGet] at hTaken
      cases hTaken
    · rw [← hOthers k' hKey]
      exact hGet
  constructor
  · exact inv.known
  · exact inv.own
  · intro k₁ k₂ call₁ call₂ hGet₁ hGet₂ hWallet hTaken₁ hTaken₂
    obtain ⟨taken₁, hSome₁⟩ := Option.isSome_iff_exists.mp hTaken₁
    obtain ⟨taken₂, hSome₂⟩ := Option.isSome_iff_exists.mp hTaken₂
    exact inv.turns k₁ k₂ call₁ call₂ (hBack k₁ call₁ taken₁ hGet₁ hSome₁)
      (hBack k₂ call₂ taken₂ hGet₂ hSome₂) hWallet hTaken₁ hTaken₂
  · intro k' call taken hGet hTaken
    obtain ⟨state, hFrom⟩ := inv.takes k' call taken (hBack k' call taken hGet hTaken) hTaken
    exact ⟨state, hFrom.congr rfl rfl rfl rfl⟩
  · intro walletId state hCurrent hNone
    exact inv.mirrors walletId state hCurrent
      (none_ahead_of_others hOthers (fun call taken hGet _ => hOld call taken hGet) hNone)
  · intro k' call taken hGet hAhead
    exact inv.landed k' call taken (hBack k' call taken hGet hAhead.taken) hAhead
  · exact inv.stored
  · exact inv.below
  · exact inv.distinct

/-- A state is put into the map that says what the vault lists. -/
theorem DeriveInvariant.install {file : WalletFile}
    (hFile : s.vault.wallets.files.get walletId = some file)
    (hNone : ∀ k call, s.calls.get k = some call → call.walletId = walletId → call.taken? = none) :
    DeriveInvariant returned (s.install walletId file.state) := by
  constructor
  · intro other ref hRef
    show ref < (s.states.alloc file.state).next
    rw [Arena.next_alloc]
    rcases AssocMap.get_set_cases hRef with ⟨-, rfl⟩ | ⟨-, hWas⟩
    · omega
    · have hLess := inv.known other ref hWas
      omega
  · intro w w' ref hRef hRef'
    rcases AssocMap.get_set_cases hRef with ⟨rfl, rfl⟩ | ⟨-, hWas⟩
    · rcases AssocMap.get_set_cases hRef' with ⟨rfl, -⟩ | ⟨-, hWas'⟩
      · rfl
      · exact absurd (inv.known w' _ hWas') (Nat.lt_irrefl _)
    · rcases AssocMap.get_set_cases hRef' with ⟨-, rfl⟩ | ⟨-, hWas'⟩
      · exact absurd (inv.known w _ hWas) (Nat.lt_irrefl _)
      · exact inv.own w w' ref hWas hWas'
  · exact inv.turns
  · intro k call taken hGet hTaken
    obtain ⟨state, hFrom⟩ := inv.takes k call taken hGet hTaken
    have hNe : call.walletId ≠ walletId := by
      intro hEq
      rw [hNone k call hGet hEq] at hTaken
      cases hTaken
    refine ⟨state, ?_, ?_, hFrom.index, hFrom.chain, hFrom.accounts, hFrom.next⟩
    · simp only [DeriveState.install, AssocMap.get_set, if_neg hNe]
      exact hFrom.installed
    · have hLess := inv.known _ _ hFrom.installed
      simp only [DeriveState.install, Arena.get_alloc, if_neg (Nat.ne_of_lt hLess)]
      exact hFrom.read
  · intro other state hCurrent hAhead
    rw [current_install inv] at hCurrent
    split at hCurrent
    · next hEq =>
      cases hCurrent
      exact ⟨file, by rw [hEq]; exact hFile, rfl⟩
    · exact inv.mirrors other state hCurrent hAhead
  · exact inv.landed
  · exact inv.stored
  · intro other info hReturned state hCurrent
    rw [current_install inv] at hCurrent
    split at hCurrent
    · next hEq =>
      cases hCurrent
      obtain ⟨accounts, hAccounts, hMem⟩ := inv.stored other info hReturned
      rw [hEq, getWalletAccounts_of_get hFile] at hAccounts
      cases hAccounts
      exact lt_nextIndexOf hMem
    · exact inv.below other info hReturned state hCurrent
  · exact inv.distinct

theorem DeriveInvariant.take {k : Nat} {call : DeriveCall} (hCall : s.calls.get k = some call)
    (hNotYet : call.taken? = none)
    (hAlone : ∀ k' call', s.calls.get k' = some call' → k' ≠ k →
      call'.walletId = call.walletId → call'.taken? = none) {ref : Nat}
    (hRef : s.walletStates.get call.walletId = some ref) (hState : s.states.get ref = some state)
    (publicKey : String) (hIndex : entry.index = state.nextIndex)
    (hChain : entry.chain = call.chain) :
    DeriveInvariant returned
      (s.goOn k call (.writing ⟨ref, entry, publicKey, state.accounts ++ [entry]⟩)) := by
  have hNone : ∀ k' call', s.calls.get k' = some call' → call'.walletId = call.walletId →
      call'.taken? = none := by
    intro k' call' hGet hWallet
    by_cases hKey : k' = k
    · subst hKey
      rw [hCall] at hGet
      cases hGet
      exact hNotYet
    · exact hAlone k' call' hGet hKey hWallet
  have hCurrent : s.current call.walletId = some state := by
    unfold DeriveState.current
    rw [hRef]
    exact hState
  have hNext : state.nextIndex = nextIndexOf state.accounts := by
    obtain ⟨file, -, rfl⟩ := inv.mirrors call.walletId state hCurrent (by
      intro k' call' taken hGet hWallet hAhead
      have hNot := hNone k' call' hGet hWallet
      rw [hAhead.taken] at hNot
      cases hNot)
    rfl
  constructor
  · exact inv.known
  · exact inv.own
  · intro k₁ k₂ call₁ call₂ hGet₁ hGet₂ hWallet hTaken₁ hTaken₂
    rcases AssocMap.get_set_cases hGet₁ with ⟨rfl, rfl⟩ | ⟨hKey₁, hWas₁⟩
    · rcases AssocMap.get_set_cases hGet₂ with ⟨rfl, -⟩ | ⟨hKey₂, hWas₂⟩
      · rfl
      · rw [hAlone k₂ call₂ hWas₂ hKey₂ hWallet.symm] at hTaken₂
        cases hTaken₂
    · rcases AssocMap.get_set_cases hGet₂ with ⟨rfl, rfl⟩ | ⟨-, hWas₂⟩
      · rw [hAlone k₁ call₁ hWas₁ hKey₁ hWallet] at hTaken₁
        cases hTaken₁
      · exact inv.turns k₁ k₂ call₁ call₂ hWas₁ hWas₂ hWallet hTaken₁ hTaken₂
  · intro k' call' taken hGet hTaken
    rcases AssocMap.get_set_cases hGet with ⟨-, rfl⟩ | ⟨-, hWas⟩
    · cases hTaken
      exact ⟨state, hRef, hState, hIndex, hChain, rfl, hNext⟩
    · obtain ⟨state', hFrom⟩ := inv.takes k' call' taken hWas hTaken
      exact ⟨state', hFrom.congr rfl rfl rfl rfl⟩
  · intro walletId state' hCurrent' hNoneAhead
    refine inv.mirrors walletId state' hCurrent' (none_ahead_of_others
      (fun k' hKey => AssocMap.get_set_of_ne _ _ hKey) ?_ hNoneAhead)
    intro call' taken hGet _ hIsAhead
    rw [hCall] at hGet
    cases hGet
    rw [hIsAhead.taken] at hNotYet
    cases hNotYet
  · intro k' call' taken hGet hAhead
    rcases AssocMap.get_set_cases hGet with ⟨-, rfl⟩ | ⟨-, hWas⟩
    · cases hAhead
    · exact inv.landed k' call' taken hWas hAhead
  · exact inv.stored
  · exact inv.below
  · exact inv.distinct

end

theorem get_store (wallets : WalletFiles) (file : WalletFile) (id : String) :
    (wallets.store file).files.get id =
      if id = file.id then some file else wallets.files.get id := by
  unfold WalletFiles.store
  exact AssocMap.get_set _ _ _ _

theorem Stored.store {info : AccountInfo} (h : Stored vault walletId info) {id : String}
    {file : WalletFile} (hFile : vault.wallets.files.get id = some file)
    (hLonger : ∀ entry ∈ file.accounts, entry ∈ accounts) :
    Stored { vault with wallets := vault.wallets.store { file with accounts := accounts } }
      walletId info := by
  obtain ⟨listed, hListed, hMem⟩ := h
  have hId : file.id = id := vault.wallets.named id file hFile
  by_cases hWallet : walletId = id
  · subst hWallet
    rw [getWalletAccounts_of_get hFile] at hListed
    cases hListed
    refine ⟨accounts, ?_, hLonger _ hMem⟩
    have hGet := get_store vault.wallets { file with accounts := accounts } walletId
    rw [if_pos hId.symm] at hGet
    exact @getWalletAccounts_of_get _ _ { file with accounts := accounts } hGet
  · obtain ⟨other, hOther, rfl⟩ := get_of_getWalletAccounts hListed
    refine ⟨other.accounts, getWalletAccounts_of_get ?_, hMem⟩
    show (vault.wallets.store { file with accounts := accounts }).files.get walletId = some other
    rw [get_store, if_neg (by rw [hId]; exact hWallet)]
    exact hOther

section

variable {k : Nat} {call : DeriveCall} {taken : TakenIndex}

theorem DeriveInvariant.turns_set (inv : DeriveInvariant returned s)
    (hCall : s.calls.get k = some call) (hTaken : call.taken? = some taken) {new : DeriveCall}
    (hWallet : new.walletId = call.walletId) :
    ∀ k₁ k₂ call₁ call₂, (s.calls.set k new).get k₁ = some call₁ →
      (s.calls.set k new).get k₂ = some call₂ → call₁.walletId = call₂.walletId →
      call₁.taken?.isSome = true → call₂.taken?.isSome = true → k₁ = k₂ := by
  have hSome : call.taken?.isSome = true := Option.isSome_of_eq_some hTaken
  intro k₁ k₂ call₁ call₂ hGet₁ hGet₂ hSame hTaken₁ hTaken₂
  rcases AssocMap.get_set_cases hGet₁ with ⟨rfl, rfl⟩ | ⟨-, hWas₁⟩
  · rcases AssocMap.get_set_cases hGet₂ with ⟨rfl, -⟩ | ⟨-, hWas₂⟩
    · rfl
    · exact inv.turns _ _ call call₂ hCall hWas₂ (hWallet.symm.trans hSame) hSome hTaken₂
  · rcases AssocMap.get_set_cases hGet₂ with ⟨rfl, rfl⟩ | ⟨-, hWas₂⟩
    · exact inv.turns _ _ call₁ call hWas₁ hCall (hSame.trans hWallet) hTaken₁ hSome
    · exact inv.turns _ _ call₁ call₂ hWas₁ hWas₂ hSame hTaken₁ hTaken₂

variable {state : WalletState}

theorem DeriveInvariant.takes_set (inv : DeriveInvariant returned s)
    (hFrom : TakenFrom s call taken state) (new : DeriveCall) (hNew : new.taken? = some taken)
    (hWallet : new.walletId = call.walletId) (hChain : new.chain = call.chain) :
    ∀ k' call' taken', (s.calls.set k new).get k' = some call' → call'.taken? = some taken' →
      ∃ state, TakenFrom s call' taken' state := by
  intro k' call' taken' hGet hTaken'
  rcases AssocMap.get_set_cases hGet with ⟨-, rfl⟩ | ⟨-, hWas⟩
  · rw [hNew] at hTaken'
    cases hTaken'
    exact ⟨state, hFrom.congr rfl rfl hWallet hChain⟩
  · exact inv.takes k' call' taken' hWas hTaken'

section

variable (inv : DeriveInvariant returned s) (hCall : s.calls.get k = some call)
  (hStage : call.stage = .writing taken)

include inv hCall hStage

theorem DeriveInvariant.none_ahead :
    ∀ k' call' taken', s.calls.get k' = some call' → call'.walletId = call.walletId →
      ¬ call'.ahead taken' := by
  intro k' call' taken' hGet hWallet hAhead
  have hKey := inv.turns k' k call' call hGet hCall hWallet
    (Option.isSome_of_eq_some hAhead.taken)
    (Option.isSome_of_eq_some (DeriveCall.taken?_writing hStage))
  subst hKey
  rw [hCall] at hGet
  cases hGet
  exact DeriveStage.noConfusion (hStage.symm.trans hAhead)

theorem DeriveInvariant.write_failed (error : SignetError) :
    DeriveInvariant returned
      { s with calls := s.calls.set k { call with stage := .written taken (.error error) } } := by
  have hTaken := DeriveCall.taken?_writing hStage
  obtain ⟨state, hFrom⟩ := inv.takes k call taken hCall hTaken
  constructor
  · exact inv.known
  · exact inv.own
  · exact inv.turns_set hCall hTaken rfl
  · intro k' call' taken' hGet hTaken'
    obtain ⟨state', h⟩ := inv.takes_set hFrom
      { call with stage := .written taken (.error error) } rfl rfl rfl k' call' taken' hGet hTaken'
    exact ⟨state', h.congr rfl rfl rfl rfl⟩
  · intro walletId state' hCurrent hNone
    refine inv.mirrors walletId state' hCurrent (none_ahead_of_others
      (fun k' hKey => AssocMap.get_set_of_ne _ _ hKey) ?_ hNone)
    intro call' taken' hGet _
    rw [hCall] at hGet
    cases hGet
    exact inv.none_ahead hCall hStage k call taken' hCall rfl
  · intro k' call' taken' hGet hAhead
    rcases AssocMap.get_set_cases hGet with ⟨-, rfl⟩ | ⟨-, hWas⟩
    · cases hAhead
    · exact inv.landed k' call' taken' hWas hAhead
  · exact inv.stored
  · exact inv.below
  · exact inv.distinct

theorem DeriveInvariant.write_done {file : WalletFile}
    (hFile : s.vault.wallets.files.get call.walletId = some file) :
    DeriveInvariant returned { s with
      vault := { s.vault with
        wallets := s.vault.wallets.store { file with accounts := taken.newAccounts } }
      calls := s.calls.set k { call with stage := .written taken (.ok ()) } } := by
  have hTaken := DeriveCall.taken?_writing hStage
  obtain ⟨state, hFrom⟩ := inv.takes k call taken hCall hTaken
  have hOnly := inv.none_ahead hCall hStage
  have hAccounts : file.accounts = state.accounts := by
    obtain ⟨file', hFile', hSame⟩ := inv.mirrors call.walletId state hFrom.current hOnly
    rw [hFile] at hFile'
    cases hFile'
    rw [hSame]
    rfl
  have hId : file.id = call.walletId := s.vault.wallets.named _ file hFile
  have hElse : ∀ walletId, walletId ≠ call.walletId →
      (s.vault.wallets.store { file with accounts := taken.newAccounts }).files.get walletId =
        s.vault.wallets.files.get walletId := by
    intro walletId hOther
    rw [get_store, if_neg]
    rw [hId]
    exact hOther
  constructor
  · exact inv.known
  · exact inv.own
  · exact inv.turns_set hCall hTaken rfl
  · intro k' call' taken' hGet hTaken'
    obtain ⟨state', h⟩ := inv.takes_set hFrom
      { call with stage := .written taken (.ok ()) } rfl rfl rfl k' call' taken' hGet hTaken'
    exact ⟨state', h.congr rfl rfl rfl rfl⟩
  · intro walletId state' hCurrent hNone
    -- the wallet is another one: for this one the call is ahead
    have hOther : walletId ≠ call.walletId := by
      rintro rfl
      exact hNone k _ taken (AssocMap.get_set_self _ _ _) rfl rfl
    obtain ⟨file', hFile', hSame'⟩ := inv.mirrors walletId state' hCurrent
      (none_ahead_of_others (fun k' hKey => AssocMap.get_set_of_ne _ _ hKey) (by
        intro call' taken' hGet hWallet
        rw [hCall] at hGet
        cases hGet
        exact absurd hWallet.symm hOther) hNone)
    exact ⟨file', (hElse walletId hOther).trans hFile', hSame'⟩
  · intro k' call' taken' hGet hAhead
    rcases AssocMap.get_set_cases hGet with ⟨-, rfl⟩ | ⟨-, hWas⟩
    · cases hAhead
      exact ⟨{ file with accounts := taken.newAccounts }, by rw [get_store, if_pos hId.symm], rfl⟩
    · obtain ⟨file', hFile', hLanded⟩ := inv.landed k' call' taken' hWas hAhead
      have hOther : call'.walletId ≠ call.walletId :=
        fun hWallet => hOnly k' call' taken' hWas hWallet hAhead
      exact ⟨file', (hElse _ hOther).trans hFile', hLanded⟩
  · intro walletId info hReturned
    refine (inv.stored walletId info hReturned).store hFile ?_
    intro entry hMem
    rw [hFrom.accounts, ← hAccounts]
    exact List.mem_append_left _ hMem
  · exact inv.below
  · exact inv.distinct

theorem DeriveInvariant.write {kind : VaultKind} {written : Except String Unit} {vault : Vault}
    {result : Except SignetError Unit}
    (hWritten : s.vault.updateWalletAccounts kind call.walletId taken.newAccounts written =
      (vault, result)) :
    DeriveInvariant returned { s with
      vault := vault
      calls := s.calls.set k { call with stage := .written taken result } } := by
  obtain ⟨state, hFrom⟩ := inv.takes k call taken hCall (DeriveCall.taken?_writing hStage)
  obtain ⟨file, hFile, -⟩ := inv.mirrors call.walletId state hFrom.current
    (inv.none_ahead hCall hStage)
  rcases Vault.updateWalletAccounts_cases kind hFile taken.newAccounts written with
    ⟨error, hUpdate⟩ | hUpdate
  · rw [hUpdate] at hWritten
    cases hWritten
    exact inv.write_failed hCall hStage error
  · rw [hUpdate] at hWritten
    cases hWritten
    exact inv.write_done hCall hStage hFile

end

theorem returnedIndexes_snoc (returned : List (String × AccountInfo)) (walletId other : String)
    (info : AccountInfo) :
    returnedIndexes (returned ++ [(walletId, info)]) other =
      returnedIndexes returned other ++ if walletId = other then [info.index] else [] := by
  unfold returnedIndexes
  rw [List.filter_append, List.map_append]
  split
  · next h => simp [h]
  · next h => simp [h]

variable (inv : DeriveInvariant returned s)

include inv

theorem DeriveInvariant.current_modify (hFrom : TakenFrom s call taken state)
    (counted : WalletState) (calls : AssocMap Nat DeriveCall) (walletId : String) :
    ({ s with states := s.states.modify taken.ref fun _ => counted, calls := calls } :
        DeriveState).current walletId =
      if walletId = call.walletId then some counted else s.current walletId := by
  unfold DeriveState.current
  split
  · next hEq =>
    simp only [hEq, hFrom.installed, Option.bind_some, Arena.get_modify, if_true, hFrom.read,
      Option.map_some]
  · next hNe =>
    cases hRef : s.walletStates.get walletId with
    | none => rfl
    | some ref =>
      have hOther : ref ≠ taken.ref := by
        rintro rfl
        exact hNe (inv.own walletId call.walletId _ hRef hFrom.installed)
      simp only [Option.bind_some, Arena.get_modify, if_neg hOther]

theorem DeriveInvariant.fresh (hFrom : TakenFrom s call taken state) :
    taken.entry.index ∉ returnedIndexes returned call.walletId := by
  intro hMem
  obtain ⟨⟨walletId, info⟩, hReturned, hIndex⟩ := List.mem_map.mp hMem
  obtain ⟨hIn, hWallet⟩ := List.mem_filter.mp hReturned
  obtain rfl : walletId = call.walletId := by simpa using hWallet
  have hLess := inv.below _ info hIn state hFrom.current
  have hTakenIndex := hFrom.index
  simp only at hIndex
  omega

/-- A call counts on in memory and returns its account. -/
theorem DeriveInvariant.commit (hCall : s.calls.get k = some call) (hAhead : call.ahead taken) :
    DeriveInvariant
      (returned ++ [(call.walletId,
        ⟨taken.entry.index, taken.entry.address, call.chain, taken.publicKey⟩)])
      { s with
        states := s.states.modify taken.ref fun _ => ⟨taken.entry.index + 1, taken.newAccounts⟩
        calls := s.calls.delete k } := by
  obtain ⟨state, hFrom⟩ := inv.takes k call taken hCall hAhead.taken
  obtain ⟨file, hFile, hLanded⟩ := inv.landed k call taken hCall hAhead
  have hCurrent := inv.current_modify hFrom ⟨taken.entry.index + 1, taken.newAccounts⟩
    (s.calls.delete k)
  constructor
  · intro walletId ref hRef
    show ref < (s.states.modify _ _).next
    rw [Arena.next_modify]
    exact inv.known walletId ref hRef
  · exact inv.own
  · intro k₁ k₂ call₁ call₂ hGet₁ hGet₂
    exact inv.turns k₁ k₂ call₁ call₂ (AssocMap.of_get_delete hGet₁).2
      (AssocMap.of_get_delete hGet₂).2
  · intro k' call' taken' hGet hTaken
    obtain ⟨hKey, hWas⟩ := AssocMap.of_get_delete hGet
    obtain ⟨state', h⟩ := inv.takes k' call' taken' hWas hTaken
    have hOther : taken'.ref ≠ taken.ref := by
      intro hRef
      have hWallet : call'.walletId = call.walletId :=
        inv.own _ _ _ h.installed (by rw [hRef]; exact hFrom.installed)
      exact hKey (inv.turns k' k call' call hWas hCall hWallet (by rw [hTaken]; rfl)
        (by rw [hAhead.taken]; rfl))
    refine ⟨state', h.installed, ?_, h.index, h.chain, h.accounts, h.next⟩
    simp only [Arena.get_modify, if_neg hOther]
    exact h.read
  · intro walletId state' hState hNone
    rw [hCurrent] at hState
    split at hState
    · next hEq =>
      cases hState
      refine ⟨file, by rw [hEq]; exact hFile, ?_⟩
      have hNext : nextIndexOf taken.newAccounts = taken.entry.index + 1 := by
        rw [hFrom.accounts]
        exact nextIndexOf_append _ _ (by rw [hFrom.index, hFrom.next])
      unfold WalletFile.state
      rw [hLanded, hNext]
    · next hNe =>
      refine inv.mirrors walletId state' hState (none_ahead_of_others
        (fun k' hKey => by rw [AssocMap.get_delete, if_neg hKey]) ?_ hNone)
      intro call' taken' hGet hWallet
      rw [hCall] at hGet
      cases hGet
      exact absurd hWallet.symm hNe
  · intro k' call' taken' hGet hIsAhead
    exact inv.landed k' call' taken' (AssocMap.of_get_delete hGet).2 hIsAhead
  · intro walletId info hReturned
    rcases List.mem_append.mp hReturned with hOld | hNew
    · exact inv.stored walletId info hOld
    · rw [List.mem_singleton] at hNew
      cases hNew
      refine ⟨taken.newAccounts, by rw [getWalletAccounts_of_get hFile, hLanded], ?_⟩
      rw [hFrom.accounts, ← hFrom.chain]
      exact List.mem_append_right _ (List.mem_singleton.mpr rfl)
  · intro walletId info hReturned state' hState
    rw [hCurrent] at hState
    rcases List.mem_append.mp hReturned with hOld | hNew
    · split at hState
      · next hEq =>
        cases hState
        subst hEq
        have hLess := inv.below call.walletId info hOld state hFrom.current
        have hIndex := hFrom.index
        show info.index < taken.entry.index + 1
        omega
      · exact inv.below walletId info hOld state' hState
    · rw [List.mem_singleton] at hNew
      cases hNew
      rw [if_pos rfl] at hState
      cases hState
      exact Nat.lt_succ_self _
  · intro walletId
    rw [returnedIndexes_snoc]
    split
    · next hEq =>
      subst hEq
      rw [List.nodup_append]
      refine ⟨inv.distinct _, List.nodup_singleton _, ?_⟩
      rintro a hA b hB rfl
      rw [List.mem_singleton] at hB
      subst hB
      exact inv.fresh hFrom hA
    · rw [List.append_nil]
      exact inv.distinct walletId

end

/-! ## Steps and runs -/

section

variable (kind : VaultKind) (host : KeyHost) (passphrase : String)

section

variable (inv : DeriveInvariant returned s) {call : DeriveCall} {out : List DeriveReturn}

include inv

/-- The call returns an error, or ends without a result. -/
theorem DeriveInvariant.finish {k : Nat} (hCall : s.calls.get k = some call)
    (hNot : ∀ taken, ¬ call.ahead taken) :
    DeriveInvariant returned (s.finish k) := by
  refine inv.moves k ?_ ?_ ?_
  · intro k' hKey
    rw [AssocMap.get_delete, if_neg hKey]
  · intro call' hGet
    rw [AssocMap.get_delete, if_pos rfl] at hGet
    cases hGet
  · intro call' taken hGet
    rw [hCall] at hGet
    cases hGet
    exact hNot taken

/-- The call goes on, and takes no index. -/
theorem DeriveInvariant.goOn {k : Nat} (hCall : s.calls.get k = some call)
    (hNot : ∀ taken, ¬ call.ahead taken) {stage : DeriveStage}
    (hStage : ({ call with stage := stage } : DeriveCall).taken? = none) :
    DeriveInvariant returned (s.goOn k call stage) := by
  refine inv.moves k ?_ ?_ ?_
  · intro k' hKey
    rw [AssocMap.get_set, if_neg hKey]
  · intro call' hGet
    rw [AssocMap.get_set, if_pos rfl] at hGet
    cases hGet
    exact hStage
  · intro call' taken hGet
    rw [hCall] at hGet
    cases hGet
    exact hNot taken

theorem deriveInvariant_resume {k : Nat} (hCall : s.calls.get k = some call)
    (hTurn : takesTurns s ⟨k, .resume⟩ = true) {s' : DeriveState}
    (hStep : deriveResume kind host passphrase s k call = some (s', out)) :
    DeriveInvariant (returned ++ out.filterMap DeriveReturn.account?) s' := by
  have hQuiet : ∀ {t : DeriveState} {out : List DeriveReturn},
      out.filterMap DeriveReturn.account? = [] → DeriveInvariant returned t →
        DeriveInvariant (returned ++ out.filterMap DeriveReturn.account?) t := by
    intro t out hNone h
    rw [hNone, List.append_nil]
    exact h
  obtain ⟨walletId, chain, stage⟩ := call
  cases stage with
  | seed existing =>
    simp only [deriveResume] at hStep
    split at hStep
    · cases hStep
      exact hQuiet rfl (inv.finish hCall fun _ => nofun)
    · split at hStep <;> cases hStep <;>
        exact hQuiet rfl (inv.goOn hCall (fun _ => nofun) rfl)
  | wallets seed =>
    simp only [deriveResume] at hStep
    split at hStep <;> cases hStep
    · exact hQuiet rfl (inv.finish hCall fun _ => nofun)
    · exact hQuiet rfl (inv.goOn hCall (fun _ => nofun) rfl)
  | accounts seed =>
    simp only [deriveResume] at hStep
    split at hStep <;> cases hStep
    · exact hQuiet rfl (inv.finish hCall fun _ => nofun)
    · exact hQuiet rfl (inv.goOn hCall (fun _ => nofun) rfl)
  | accountsRead seed accounts =>
    cases hStep
    simp only [takesTurns, hCall, Bool.and_eq_true, decide_eq_true_eq] at hTurn
    obtain ⟨hAlone, hListed⟩ := hTurn
    obtain ⟨file, hFile, rfl⟩ := get_of_getWalletAccounts hListed
    have hNone : ∀ k' call, s.calls.get k' = some call → call.walletId = walletId →
        call.taken? = none := by
      intro k' call hGet hWallet
      by_cases hKey : k' = k
      · subst hKey
        rw [hCall] at hGet
        cases hGet
        rfl
      · exact noneTaken_iff.mp hAlone k' call hGet hKey hWallet
    exact hQuiet rfl ((inv.install hFile hNone).goOn hCall (fun _ => nofun) rfl)
  | ensured ref seed =>
    simp only [takesTurns, hCall, Bool.and_eq_true, decide_eq_true_eq] at hTurn
    obtain ⟨hAlone, hRef⟩ := hTurn
    simp only [deriveResume] at hStep
    split at hStep
    · cases hStep
    · next state hState =>
      cases hStep
      obtain ⟨hIndex, hChain⟩ := derivedAccount_fst host seed state.nextIndex chain
      exact hQuiet rfl (inv.take hCall rfl (noneTaken_iff.mp hAlone) hRef hState _ hIndex hChain)
  | writing taken => cases hStep
  | written taken result =>
    cases result with
    | error error =>
      cases hStep
      exact hQuiet rfl (inv.finish hCall fun _ => nofun)
    | ok _ =>
      cases hStep
      exact inv.commit hCall rfl

theorem deriveInvariant_step {label : DeriveLabel} (hTurn : takesTurns s label = true)
    {s' : DeriveState} (hStep : deriveStep kind host passphrase s label = some (s', out)) :
    DeriveInvariant (returned ++ out.filterMap DeriveReturn.account?) s' := by
  obtain ⟨k, event⟩ := label
  unfold deriveStep at hStep
  cases hCall : s.calls.get k with
  | none =>
    cases event with
    | start walletId chain =>
      simp only [hCall] at hStep
      cases hStep
      rw [List.filterMap_nil, List.append_nil]
      refine inv.moves k ?_ ?_ ?_
      · intro k' hKey
        rw [AssocMap.get_set, if_neg hKey]
      · intro call hGet
        rw [AssocMap.get_set, if_pos rfl] at hGet
        cases hGet
        rfl
      · intro call taken hGet
        rw [hCall] at hGet
        cases hGet
    | resume => simp [hCall] at hStep
    | write outcome => simp [hCall] at hStep
  | some call =>
    cases event with
    | start walletId chain => simp [hCall] at hStep
    | resume =>
      simp only [hCall] at hStep
      exact deriveInvariant_resume kind host passphrase inv hCall hTurn hStep
    | write outcome =>
      obtain ⟨walletId, chain, stage⟩ := call
      cases stage with
      | writing taken =>
        simp only [hCall] at hStep
        cases hStep
        rw [List.filterMap_nil, List.append_nil]
        have hReport : outcome.report = outcome.contents := by
          cases outcome with
          | failedAfter cause => cases hTurn
          | _ => rfl
        rw [hReport]
        exact inv.write hCall rfl rfl
      | _ => simp [hCall] at hStep

end

theorem deriveInvariant_init {backend : KeyBackend} (hCurrent : backend.Current) :
    DeriveInvariant [] (DeriveState.ofBackend backend) := by
  have hNoCalls : ∀ entries : List (String × WalletState), ∀ s : DeriveState,
      (∀ k, s.calls.get k = none) → s.vault = backend.vault → DeriveInvariant [] s →
      (∀ entry ∈ entries, ∃ file, backend.vault.wallets.files.get entry.1 = some file ∧
        entry.2 = file.state) →
      DeriveInvariant [] (entries.foldl (fun s entry => s.install entry.1 entry.2) s) := by
    intro entries
    induction entries with
    | nil => exact fun s _ _ inv _ => inv
    | cons entry entries ih =>
      intro s hCalls hVault inv hFiles
      obtain ⟨file, hFile, hState⟩ := hFiles entry List.mem_cons_self
      rw [List.foldl_cons]
      refine ih _ hCalls hVault ?_ fun e hMem => hFiles e (List.mem_cons_of_mem _ hMem)
      rw [hState]
      refine inv.install (by rw [hVault]; exact hFile) ?_
      intro k call hGet
      rw [hCalls k] at hGet
      cases hGet
  refine hNoCalls backend.walletStates.entries _ (fun _ => rfl) rfl ?_ ?_
  · constructor <;> intros <;> first | contradiction | exact List.nodup_nil
  · intro entry hMem
    exact hCurrent entry.1 entry.2 (AssocMap.get_eq_some_iff.mpr hMem)

theorem returnedAccounts_snoc (h : List DerivationStep) (o : DerivationStep) :
    returnedAccounts (h ++ [o]) = returnedAccounts h ++ o.out.filterMap DeriveReturn.account? := by
  unfold returnedAccounts
  rw [outputs_append, outputs_singleton, List.filterMap_append]

/-- **Indexes of calls that take turns.**  However the calls of `deriveAccount` over a backend
interleave, if each takes its index, and puts in what it has loaded, when no other call of the
wallet holds an index, and from what is not out of date, then the returned indexes differ, the
vault lists every returned account, and the list in memory is that of the vault between calls. -/
theorem unique_indexes {backend : KeyBackend} (hCurrent : backend.Current)
    {h : List DerivationStep} {s : DeriveState}
    (hRun : (deriveMachine kind host passphrase backend).Runs h s)
    (hTurns : AllMeet (fun s label => takesTurns s label = true) h) :
    UniqueIndexes h s := by
  have inv : DeriveInvariant (returnedAccounts h) s := by
    apply hRun.invariant ?_ ?_ hTurns
    · exact deriveInvariant_init hCurrent
    intro h₀ t label t' out _ _ ih hTurn hStep
    rw [returnedAccounts_snoc]
    exact deriveInvariant_step kind host passphrase ih hTurn hStep
  refine ⟨inv.distinct, inv.stored, ?_⟩
  intro walletId hIdle state hState
  obtain ⟨file, hFile, rfl⟩ := inv.mirrors walletId state hState
    fun k call taken hGet hWallet _ => hIdle k call hGet hWallet
  exact getWalletAccounts_of_get hFile

end

/-! ## Two derivations -/

/-- A backend that is opened over a wallet without accounts. -/
def reopened : KeyBackend :=
  KeyBackend.fresh (Vault.empty.createWallet .file markingHost.toVaultHost "wallet" "main" "zoo"
    "secret" ⟨[], []⟩ "t0" (.ok ())).1

/-- The calls of `deriveAccount` over it. -/
def sampleDerivations : Machine DeriveState DeriveLabel DeriveReturn :=
  deriveMachine .file markingHost "secret" reopened

/-- The first call loads the wallet, and the second one has looked it up in memory. -/
def bothEnsured : List DeriveLabel :=
  [⟨1, .start "wallet" .evm⟩, ⟨1, .resume⟩, ⟨1, .resume⟩, ⟨1, .resume⟩, ⟨1, .resume⟩,
    ⟨2, .start "wallet" .ed25519⟩, ⟨2, .resume⟩]

/-- The second call takes its index when the first has returned. -/
def derivedInTurn : List DeriveLabel :=
  bothEnsured ++ [⟨1, .resume⟩, ⟨1, .write .ok⟩, ⟨1, .resume⟩, ⟨2, .resume⟩, ⟨2, .write .ok⟩,
    ⟨2, .resume⟩]

/-- The second call takes its index while the vault writes for the first. -/
def derivedAtOnce : List DeriveLabel :=
  bothEnsured ++ [⟨1, .resume⟩, ⟨2, .resume⟩, ⟨1, .write .ok⟩, ⟨2, .write .ok⟩, ⟨1, .resume⟩,
    ⟨2, .resume⟩]

theorem derivedInTurn_takesTurns :
    sampleDerivations.Executes derivedInTurn fun h _ =>
      AllMeet (fun s label => takesTurns s label = true) h := by
  decide

theorem unique_indexes_in_turn :
    ∃ h s, sampleDerivations.Runs h s ∧ h.map Occurrence.label = derivedInTurn ∧
      UniqueIndexes h s := by
  obtain ⟨h, s, hLabels, hRun, hTurns⟩ := derivedInTurn_takesTurns.exists_run
  exact ⟨h, s, hRun, hLabels, unique_indexes .file markingHost "secret"
    (KeyBackend.fresh_current _) hRun hTurns⟩

theorem derivedAtOnce_indexes :
    sampleDerivations.Executes derivedAtOnce fun h _ =>
      returnedIndexes (returnedAccounts h) "wallet" = [0, 0] := by
  decide

/-- Two calls at once return one index twice. -/
theorem overlapping_derivations :
    ∃ h s, sampleDerivations.Runs h s ∧ h.map Occurrence.label = derivedAtOnce ∧
      ¬ UniqueIndexes h s := by
  obtain ⟨h, s, hLabels, hRun, hTwice⟩ := derivedAtOnce_indexes.exists_run
  refine ⟨h, s, hRun, hLabels, ?_⟩
  intro hUnique
  have hDistinct := hUnique.distinct "wallet"
  rw [hTwice] at hDistinct
  simp at hDistinct

end Keys
end Signet
