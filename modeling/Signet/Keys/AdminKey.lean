import Signet.Core.Invite
import Signet.Keys.CompatSecrets

/-!
# The admin key

The admin key lives twice: as two fields of the key manager, and as two secrets of its
store, one for the private and one for the public key.  `create` sets the fields, writes
the private key and then the public one; `initialize` reads the two secrets, one after the
other, into the fields of a manager that has just been started.

* `create`, `initializeKeys`, `get`, `signJwt` — the operations.
* `AdminSame` — everything there is to see of the admin key is as it was.
* `Completes` — the key is there already, or there is none to be written, or both writes
  succeed.
* `admin_create_atomic_iff` — a `create` that fails leaves everything as it was exactly in
  these cases, and in runs of them the two secrets are there together or not at all.
-/

namespace Signet
namespace Keys

open Kit Machine Schemas
open Signet.Core

/-! ## The manager -/

inductive KeyPolicy where
  | biometric
  | passcode
  | openAccess
deriving DecidableEq

/-- Actual hardware security capability detected. -/
inductive PlatformCapability where
  | secureEnclave
  | keychainSoftware
  | tpm
  | softwareVault
deriving DecidableEq

structure RootKeyHandle where
  keyRef : String
  publicKey : String
  policy : KeyPolicy
  platform : PlatformCapability
  createdAt : Int
deriving DecidableEq

/-- `AdminKeyInfo` -/
structure AdminKeyInfo where
  publicKey : String
  fingerprint : String
deriving DecidableEq

/-- The cryptography of the host, and the configuration of the manager. -/
structure AdminDeps (CryptoKey : Type) where
  importEd25519PrivateKey (pkcs8 : Bytes) : Except SignetError CryptoKey
  signEd25519 (privateKey : CryptoKey) (data : Bytes) : Except SignetError Bytes
  /-- `crypto.subtle.digest("SHA-256", …)` -/
  sha256 (data : Bytes) : Bytes
  rootKeyPolicy : KeyPolicy
  platform : PlatformCapability

/-- The store of the manager and its fields. -/
structure AdminState (host : SecretHost) (kind : VaultKind) (CryptoKey : Type) where
  kv : CompatStore host kind
  adminPublicKeyHex : Option String
  adminPrivateKey : Option CryptoKey
  rootKeyHandle : Option RootKeyHandle

structure CryptoKeyPair (CryptoKey : Type) where
  publicKey : CryptoKey
  privateKey : CryptoKey

/-- What the environment makes of a call of `create`. -/
structure AdminCreation (CryptoKey : Type) where
  gate : Except SignetError Unit
  generateEd25519KeyPair : Except SignetError (CryptoKeyPair CryptoKey)
  exportPublicKey (key : CryptoKey) : Except SignetError Bytes
  exportPrivateKey (key : CryptoKey) : Except SignetError Bytes
  setPrivate : SecretEnv
  setPublic : SecretEnv

/-- A key that is ready to be kept. -/
structure AdminMaterial (CryptoKey : Type) where
  privateKey : CryptoKey
  publicBytes : Bytes
  privateBytes : Bytes

/-- `create` up to the first assignment: the gate, the generation and the two exports. -/
def AdminCreation.material {CryptoKey : Type} (creation : AdminCreation CryptoKey) :
    Except SignetError (AdminMaterial CryptoKey) := do
  creation.gate
  let pair ← creation.generateEd25519KeyPair
  let publicBytes ← creation.exportPublicKey pair.publicKey
  let privateBytes ← creation.exportPrivateKey pair.privateKey
  return ⟨pair.privateKey, publicBytes, privateBytes⟩

/-- What a call of `signJwt` draws and reads from the clock, in seconds. -/
structure JwtCall where
  ttlSeconds : Int
  now : Int
  jti : Bytes

variable {host : SecretHost} {kind : VaultKind} {CryptoKey : Type}

namespace AdminKey

variable (deps : AdminDeps CryptoKey) (s : AdminState host kind CryptoKey)

/-- `exists` -/
def adminExists : Bool := s.adminPublicKeyHex.isSome

/-- `readAdminInfo` -/
def readAdminInfo : Except SignetError AdminKeyInfo :=
  match s.adminPublicKeyHex with
  | none => .error (NotFoundError.create "admin-key" "admin")
  | some adminPublicKeyHex =>
    .ok ⟨adminPublicKeyHex,
      bytesToHex (deps.sha256 (LegacyFiles.hexToBytes adminPublicKeyHex))⟩

/-- `get` -/
def get : Except SignetError AdminKeyInfo := readAdminInfo deps s

/-- `signJwt` -/
def signJwt (call : JwtCall) : Except SignetError String :=
  match s.adminPrivateKey with
  | none => .error (InternalError.create "Admin key not initialized")
  | some adminPrivateKey => do
      let header := base64UrlEncode (textEncode (Json.stringify (.object
        [("alg", .string "EdDSA"), ("typ", .string "JWT")])))
      let payload := base64UrlEncode (textEncode (Json.stringify (.object
        [("iat", .number call.now), ("exp", .number (call.now + call.ttlSeconds)),
          ("sub", .string "admin"),
          ("iss", .string (s.adminPublicKeyHex.getD "compat-admin")),
          ("jti", .string (bytesToHex call.jti))])))
      let signature ←
        deps.signEd25519 adminPrivateKey (textEncode (header ++ "." ++ payload))
      return header ++ "." ++ payload ++ "." ++ base64UrlEncode signature

/-- The fields after a key has been generated. -/
def withKey (material : AdminMaterial CryptoKey) : AdminState host kind CryptoKey :=
  { s with
    adminPublicKeyHex := some (bytesToHex material.publicBytes)
    adminPrivateKey := some material.privateKey }

/-- `create` -/
def create (creation : AdminCreation CryptoKey) :
    AdminState host kind CryptoKey × Except SignetError AdminKeyInfo :=
  if s.adminPublicKeyHex.isSome then
    (s, .error (InternalError.create "Admin key already exists"))
  else
    match creation.material with
    | .error error => (s, .error error)
    | .ok material =>
      let held := withKey s material
      let setPrivate := held.kv.set "admin-key" material.privateBytes creation.setPrivate
      match setPrivate.2 with
      | .error error => ({ held with kv := setPrivate.1 }, .error error)
      | .ok () =>
        let setPublic := setPrivate.1.set "admin-key-pub"
          (textEncode (bytesToHex material.publicBytes)) creation.setPublic
        match setPublic.2 with
        | .error error => ({ held with kv := setPublic.1 }, .error error)
        | .ok () =>
          let created := { held with kv := setPublic.1 }
          match readAdminInfo deps created with
          | .error _ => (created, .error
              (InternalError.create "Failed to read created admin key metadata"))
          | .ok info => (created, .ok info)

/-- `initialize`, with what the environment makes of the two reads, at a clock reading. -/
def initializeKeys (readPublic readPrivate : SecretEnv) (now : Int) :
    AdminState host kind CryptoKey × Except SignetError RootKeyHandle :=
  match s.rootKeyHandle with
  | some rootKeyHandle => (s, .ok rootKeyHandle)
  | none =>
    let existingPublic := s.kv.get "admin-key-pub" readPublic
    let adminPublicKeyHex :=
      match existingPublic.2 with
      | .ok value => some (textDecode value)
      | .error _ => s.adminPublicKeyHex
    let existingPrivate := existingPublic.1.get "admin-key" readPrivate
    let found := { s with kv := existingPrivate.1, adminPublicKeyHex := adminPublicKeyHex }
    let handle : RootKeyHandle :=
      ⟨"root-compat", adminPublicKeyHex.getD "compat-root", deps.rootKeyPolicy, deps.platform,
        now⟩
    match existingPrivate.2 with
    | .error _ => ({ found with rootKeyHandle := some handle }, .ok handle)
    | .ok value =>
      match deps.importEd25519PrivateKey value with
      | .error error => (found, .error error)
      | .ok imported =>
        ({ found with adminPrivateKey := some imported, rootKeyHandle := some handle },
          .ok handle)

end AdminKey

/-- What happens to the manager. -/
inductive AdminEvent (CryptoKey : Type) where
  | create (creation : AdminCreation CryptoKey)
  | initializeKeys (readPublic readPrivate : SecretEnv) (now : Int)
  /-- The process ends, and a manager is started over the same files. -/
  | restart

/-- What a call has returned. -/
inductive AdminReply where
  | created (result : Except SignetError AdminKeyInfo)
  | initialized (result : Except SignetError RootKeyHandle)

/-- One call, or a restart; what is in memory does not outlive one. -/
def adminStep (deps : AdminDeps CryptoKey) (s : AdminState host kind CryptoKey) :
    AdminEvent CryptoKey → Option (AdminState host kind CryptoKey × List AdminReply)
  | .create creation =>
    let result := AdminKey.create deps s creation
    some (result.1, [.created result.2])
  | .initializeKeys readPublic readPrivate now =>
    let result := AdminKey.initializeKeys deps s readPublic readPrivate now
    some (result.1, [.initialized result.2])
  | .restart =>
    match kind with
    | .memory => none
    | .file => some (⟨s.kv, none, none, none⟩, [])

/-- A manager that has just been started over a store. -/
def adminMachine (deps : AdminDeps CryptoKey) (kv : CompatStore host kind) :
    Machine (AdminState host kind CryptoKey) (AdminEvent CryptoKey) AdminReply where
  init := ⟨kv, none, none, none⟩
  step := adminStep deps

/-! ## The store -/

namespace CompatStore

variable (store : CompatStore host kind) (key : String) {env : SecretEnv}

theorem set_of_written (value : Bytes) (hWritten : SecretVault.writeOf kind env = .ok) :
    (store.set key value env).2 = .ok () ∧
      (store.set key value env).1.content =
        Function.update store.content key (some (.readable value)) := by
  have hReply : (store.set key value env).2 = .ok () := by
    unfold set SecretVault.set
    rw [hWritten]
  have hStep := set_mapStep store key value env
  rw [hReply] at hStep
  refine ⟨hReply, ?_⟩
  generalize (store.set key value env).1.content = after at hStep
  cases hStep with
  | stored key value env => rfl

/-- A write of the vault that goes wrong is reported. -/
theorem set_of_unwritten (value : Bytes) (hUnwritten : SecretVault.writeOf kind env ≠ .ok) :
    ∃ error, (store.set key value env).2 = .error error := by
  unfold set SecretVault.set
  cases hWrite : SecretVault.writeOf kind env with
  | ok => exact absurd hWrite hUnwritten
  | failed cause => exact ⟨_, rfl⟩
  | failedAfter cause => exact ⟨_, rfl⟩

/-- Reading may move a secret, and changes none. -/
theorem content_get (env : SecretEnv) : (store.get key env).1.content = store.content := by
  have hStep := get_mapStep store key env
  generalize (store.get key env).1.content = after at hStep ⊢
  generalize SecretReply.bytes (store.get key env).2 = reply at hStep
  cases hStep with
  | found key env bytes h => rfl
  | missing key env error h hTag => rfl
  | unread key env error h hTag => rfl

end CompatStore

/-! ## What is to be seen of the key -/

/-- Whether there is a key, what is told of it, what it signs and what is kept of it are the
same in both states. -/
structure AdminSame (deps : AdminDeps CryptoKey) (s t : AdminState host kind CryptoKey) : Prop where
  adminExists : AdminKey.adminExists t = AdminKey.adminExists s
  get : AdminKey.get deps t = AdminKey.get deps s
  signJwt : ∀ call, AdminKey.signJwt deps t call = AdminKey.signJwt deps s call
  privateEntry : t.kv.content "admin-key" = s.kv.content "admin-key"
  publicEntry : t.kv.content "admin-key-pub" = s.kv.content "admin-key-pub"

theorem AdminSame.refl (deps : AdminDeps CryptoKey) (s : AdminState host kind CryptoKey) :
    AdminSame deps s s :=
  ⟨rfl, rfl, fun _ => rfl, rfl, rfl⟩

/-- The private and the public key are kept together or not at all. -/
def KeptTogether (kv : CompatStore host kind) : Prop :=
  (kv.content "admin-key").isSome = (kv.content "admin-key-pub").isSome

/-- Both writes of a `create` succeed. -/
def BothWritten (kind : VaultKind) (creation : AdminCreation CryptoKey) : Prop :=
  SecretVault.writeOf kind creation.setPrivate = .ok ∧
    SecretVault.writeOf kind creation.setPublic = .ok

/-- There is a key already, none comes of the gate, the generation and the exports, or the
one that does is written. -/
def Completes (s : AdminState host kind CryptoKey) (creation : AdminCreation CryptoKey) : Prop :=
  s.adminPublicKeyHex.isSome = true ∨ (∃ error, creation.material = .error error) ∨
    BothWritten kind creation

/-! ## One call -/

section

variable (deps : AdminDeps CryptoKey) {s : AdminState host kind CryptoKey}
  {creation : AdminCreation CryptoKey} {material : AdminMaterial CryptoKey}

/-- Where there is a key or none to be written, `create` fails and does nothing. -/
theorem create_refused (h : s.adminPublicKeyHex.isSome = true ∨
    ∃ error, creation.material = .error error) :
    ∃ error, AdminKey.create deps s creation = (s, .error error) := by
  unfold AdminKey.create
  split
  · exact ⟨_, rfl⟩
  · next hNone =>
    rcases h with hSome | ⟨error, hMaterial⟩
    · exact absurd hSome hNone
    · rw [hMaterial]
      exact ⟨error, rfl⟩

section

variable (hNone : ¬s.adminPublicKeyHex.isSome = true) (hMaterial : creation.material = .ok material)

include hNone hMaterial

/-- Where both writes succeed, so does `create`, and both keys are kept. -/
theorem create_written (hWritten : BothWritten kind creation) :
    (∃ info, (AdminKey.create deps s creation).2 = .ok info) ∧
      KeptTogether (AdminKey.create deps s creation).1.kv := by
  obtain ⟨hPrivate, hPublic⟩ := hWritten
  unfold AdminKey.create
  rw [if_neg hNone, hMaterial]
  simp only
  obtain ⟨hSet, hContent⟩ := CompatStore.set_of_written (AdminKey.withKey s material).kv
    "admin-key" material.privateBytes hPrivate
  rw [hSet]
  simp only
  obtain ⟨hSet', hContent'⟩ := CompatStore.set_of_written
    ((AdminKey.withKey s material).kv.set "admin-key" material.privateBytes
      creation.setPrivate).1 "admin-key-pub" (textEncode (bytesToHex material.publicBytes)) hPublic
  rw [hSet']
  simp only [AdminKey.readAdminInfo, AdminKey.withKey]
  refine ⟨⟨_, rfl⟩, ?_⟩
  unfold KeptTogether
  simp only [AdminKey.withKey] at hContent hContent'
  -- the public key is under another name, so its write leaves the private one
  rw [hContent', hContent]
  simp [Function.update]

/-- Where a write fails, `create` fails and leaves the key in the fields. -/
theorem create_unwritten (hUnwritten : ¬BothWritten kind creation) :
    (∃ error, (AdminKey.create deps s creation).2 = .error error) ∧
      AdminKey.adminExists (AdminKey.create deps s creation).1 = true := by
  unfold AdminKey.create
  rw [if_neg hNone, hMaterial]
  simp only
  by_cases hPrivate : SecretVault.writeOf kind creation.setPrivate = .ok
  · -- the private key has been written, so it is the public one that has not
    have hPublic : SecretVault.writeOf kind creation.setPublic ≠ .ok := by
      intro hPublic
      exact hUnwritten ⟨hPrivate, hPublic⟩
    rw [(CompatStore.set_of_written _ "admin-key" material.privateBytes hPrivate).1]
    simp only
    obtain ⟨error, hSet⟩ := CompatStore.set_of_unwritten
      ((AdminKey.withKey s material).kv.set "admin-key" material.privateBytes
        creation.setPrivate).1 "admin-key-pub" (textEncode (bytesToHex material.publicBytes))
      hPublic
    rw [hSet]
    exact ⟨⟨error, rfl⟩, rfl⟩
  · obtain ⟨error, hSet⟩ := CompatStore.set_of_unwritten (AdminKey.withKey s material).kv
      "admin-key" material.privateBytes hPrivate
    rw [hSet]
    exact ⟨⟨error, rfl⟩, rfl⟩

end

/-- How `create` can end: it is refused and does nothing, it keeps both keys, or a write fails
and the key stays in the fields. -/
inductive CreateEnd (deps : AdminDeps CryptoKey) (s : AdminState host kind CryptoKey)
    (creation : AdminCreation CryptoKey) : Prop
  | refused (error : SignetError) (hCreate : AdminKey.create deps s creation = (s, .error error))
      (hCompletes : Completes s creation)
  | written (info : AdminKeyInfo) (hInfo : (AdminKey.create deps s creation).2 = .ok info)
      (hTogether : KeptTogether (AdminKey.create deps s creation).1.kv)
      (hCompletes : Completes s creation)
  | unwritten (error : SignetError)
      (hError : (AdminKey.create deps s creation).2 = .error error)
      (hBefore : AdminKey.adminExists s = false)
      (hAfter : AdminKey.adminExists (AdminKey.create deps s creation).1 = true)
      (hNot : ¬Completes s creation)

theorem create_end (s : AdminState host kind CryptoKey) (creation : AdminCreation CryptoKey) :
    CreateEnd deps s creation := by
  by_cases hSome : s.adminPublicKeyHex.isSome = true
  · obtain ⟨error, hCreate⟩ := @create_refused _ _ _ deps s creation (Or.inl hSome)
    exact .refused error hCreate (Or.inl hSome)
  · cases hMaterial : creation.material with
    | error cause =>
      obtain ⟨error, hCreate⟩ := @create_refused _ _ _ deps s creation
        (Or.inr ⟨cause, hMaterial⟩)
      exact .refused error hCreate (Or.inr (Or.inl ⟨cause, hMaterial⟩))
    | ok material =>
      by_cases hWritten : BothWritten kind creation
      · obtain ⟨⟨info, hInfo⟩, hTogether⟩ := create_written deps hSome hMaterial hWritten
        exact .written info hInfo hTogether (Or.inr (Or.inr hWritten))
      · obtain ⟨⟨error, hError⟩, hExists⟩ := create_unwritten deps hSome hMaterial hWritten
        refine .unwritten error hError (Bool.eq_false_iff.mpr hSome) hExists ?_
        rintro (hSome' | ⟨cause, hCause⟩ | hBoth)
        · exact hSome hSome'
        · rw [hMaterial] at hCause
          cases hCause
        · exact hWritten hBoth

/-- **One call.**  A `create` that fails leaves everything as it was exactly when it
completes. -/
theorem create_failure_iff :
    (∀ error, (AdminKey.create deps s creation).2 = .error error →
        AdminSame deps s (AdminKey.create deps s creation).1) ↔ Completes s creation := by
  cases create_end deps s creation with
  | refused error hCreate hCompletes =>
    rw [hCreate]
    exact iff_of_true (fun _ _ => .refl deps s) hCompletes
  | written info hInfo hTogether hCompletes =>
    rw [hInfo]
    exact iff_of_true (fun _ hError => nomatch hError) hCompletes
  | unwritten error hError hBefore hAfter hNot =>
    refine iff_of_false ?_ hNot
    -- there was no key, and now there is one
    intro hSame
    have hExists := (hSame error hError).adminExists
    rw [hBefore, hAfter] at hExists
    cases hExists

/-- After a `create` that has failed and completes, one that nothing hinders succeeds. -/
theorem create_again (hCompletes : Completes s creation) {error : SignetError}
    (hError : (AdminKey.create deps s creation).2 = .error error)
    (hNone : ¬s.adminPublicKeyHex.isSome = true) {later : AdminCreation CryptoKey}
    (hLater : later.material = .ok material) (hWritten : BothWritten kind later) :
    ∃ info, (AdminKey.create deps (AdminKey.create deps s creation).1 later).2 = .ok info := by
  cases create_end deps s creation with
  | refused error' hCreate _ =>
    rw [hCreate]
    exact (create_written deps hNone hLater hWritten).1
  | written info hInfo _ _ =>
    rw [hInfo] at hError
    cases hError
  | unwritten _ _ _ _ hNot => exact absurd hCompletes hNot

/-- Reading the two secrets changes neither. -/
theorem content_initializeKeys (readPublic readPrivate : SecretEnv) (now : Int) :
    (AdminKey.initializeKeys deps s readPublic readPrivate now).1.kv.content = s.kv.content := by
  have hContent : ((s.kv.get "admin-key-pub" readPublic).1.get "admin-key" readPrivate).1.content =
      s.kv.content := by
    rw [CompatStore.content_get, CompatStore.content_get]
  unfold AdminKey.initializeKeys
  split
  · rfl
  · simp only
    split
    · exact hContent
    · split
      · exact hContent
      · exact hContent

end

/-! ## Runs -/

/-- A call of `create` in a run completes. -/
def CreateCompletes (s : AdminState host kind CryptoKey) : AdminEvent CryptoKey → Prop
  | .create creation => Completes s creation
  | _ => True

theorem keptTogether_adminStep (deps : AdminDeps CryptoKey) {s t : AdminState host kind CryptoKey}
    {event : AdminEvent CryptoKey} {out : List AdminReply} (hTogether : KeptTogether s.kv)
    (hCompletes : CreateCompletes s event) (hStep : adminStep deps s event = some (t, out)) :
    KeptTogether t.kv := by
  cases event with
  | create creation =>
    cases hStep
    cases create_end deps s creation with
    | refused error hCreate _ =>
      rw [hCreate]
      exact hTogether
    | written info _ hKept _ => exact hKept
    | unwritten _ _ _ _ hNot => exact absurd hCompletes hNot
  | initializeKeys readPublic readPrivate now =>
    cases hStep
    unfold KeptTogether
    rw [content_initializeKeys]
    exact hTogether
  | restart =>
    cases kind with
    | memory => cases hStep
    | file =>
      cases hStep
      exact hTogether

/-- **All or nothing.**  In every state that a manager reaches, over any store: a `create`
that fails leaves everything as it was exactly when it completes; another one can succeed
after it; and in a run in which every `create` completes the two secrets stay together, so
that no restart finds one without the other. -/
theorem admin_create_atomic_iff (deps : AdminDeps CryptoKey) (kv : CompatStore host kind)
    {h : List (Occurrence (AdminState host kind CryptoKey) (AdminEvent CryptoKey) AdminReply)}
    {s : AdminState host kind CryptoKey} (hRun : (adminMachine deps kv).Runs h s) :
    (∀ creation, (∀ error, (AdminKey.create deps s creation).2 = .error error →
        AdminSame deps s (AdminKey.create deps s creation).1) ↔ Completes s creation) ∧
    (∀ creation later error material, Completes s creation →
        (AdminKey.create deps s creation).2 = .error error →
        AdminKey.adminExists s = false → later.material = .ok material →
        BothWritten kind later →
        ∃ info, (AdminKey.create deps (AdminKey.create deps s creation).1 later).2 = .ok info) ∧
    (KeptTogether kv → AllMeet CreateCompletes h → KeptTogether s.kv) := by
  refine ⟨?_, ?_, ?_⟩
  · intro creation
    exact create_failure_iff deps
  · intro creation later error material hCompletes hError hExists hLater hWritten
    refine create_again deps hCompletes hError ?_ hLater hWritten
    exact Bool.eq_false_iff.mp hExists
  · intro hTogether hMeet
    apply hRun.guarded hMeet
    · exact hTogether
    · intro _ s event t out _ _ hBefore hCompletes hStep
      exact keptTogether_adminStep deps hBefore hCompletes hStep

/-! ## Runs on fixed inputs -/

/-- Keys that are their own exports, and a signature without bytes. -/
def sampleDeps : AdminDeps Bytes :=
  ⟨.ok, fun _ _ => .ok [], fun data => data, .openAccess, .softwareVault⟩

/-- A call that nothing hinders. -/
def sampleCreation : AdminCreation Bytes :=
  ⟨.ok (), .ok ⟨[1], [2]⟩, .ok, .ok, calmEnv, calmEnv⟩

/-- A manager over an empty vault of files. -/
def sampleAdmin : Machine (AdminState plainHost .file Bytes) (AdminEvent Bytes) AdminReply :=
  adminMachine sampleDeps ⟨.empty, none⟩

/-- The gate denies a `create` and lets the next one through; then the process starts anew. -/
def deniedOnce : List (AdminEvent Bytes) :=
  [.create { sampleCreation with gate := .error (InternalError.create "denied") },
    .create sampleCreation, .restart, .initializeKeys calmEnv calmEnv 0]

theorem deniedOnce_keptTogether :
    ∃ h s, sampleAdmin.exec sampleAdmin.init deniedOnce = some (h, s) ∧ KeptTogether s.kv := by
  have hExec : ∃ h s, sampleAdmin.exec sampleAdmin.init deniedOnce = some (h, s) ∧
      AllMeet CreateCompletes h := by
    refine ⟨_, _, rfl, ?_⟩
    intro o ho
    simp only [List.mem_cons, List.not_mem_nil, or_false] at ho
    rcases ho with rfl | rfl | rfl | rfl
    · exact Or.inr (Or.inl ⟨_, rfl⟩)
    · exact Or.inr (Or.inr ⟨rfl, rfl⟩)
    · trivial
    · trivial
  obtain ⟨h, s, hGoes, hMeets⟩ := hExec
  exact ⟨h, s, hGoes, (admin_create_atomic_iff sampleDeps ⟨.empty, none⟩
    (runs_of_exec hGoes)).2.2 rfl hMeets⟩

/-- The disk is full when the public key is to be written. -/
def fullDisk : AdminCreation Bytes :=
  { sampleCreation with setPublic := { calmEnv with write := .failed "ENOSPC" } }

/-- A `create` runs into the full disk, another is made when there is room again, and the
process starts anew. -/
def createdHalf : List (AdminEvent Bytes) :=
  [.create fullDisk, .create sampleCreation, .restart, .initializeKeys calmEnv calmEnv 0]

/-- There has been no key, and the failed `create` leaves one; so the next fails as well, and
after the restart there is a private key without a public one. -/
theorem create_fails_and_stays :
    (AdminKey.create sampleDeps sampleAdmin.init fullDisk).2 =
        .error (InternalError.create "Failed to store vault secret"
          (some [("name", .text "admin-key-pub"), ("cause", .text "ENOSPC")])) ∧
      ¬AdminSame sampleDeps sampleAdmin.init
        (AdminKey.create sampleDeps sampleAdmin.init fullDisk).1 ∧
      sampleAdmin.Executes createdHalf fun _ s =>
        (s.kv.content "admin-key").isSome = true ∧ s.kv.content "admin-key-pub" = none ∧
          s.adminPrivateKey.isSome = true ∧ s.adminPublicKeyHex = none := by
  refine ⟨by decide, ?_, by decide⟩
  intro hSame
  exact absurd hSame.adminExists (by decide)

end Keys
end Signet
