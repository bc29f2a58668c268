import Signet.Core.InviteCrypto
import Signet.Kit.AssocMap
import Signet.Kit.Machine

/-!
# The stored keys of an identity

The database key and the XMTP key of an identity are read from the secrets of the vault
and made up when they are missing there.  An entry of an earlier store is moved into the
vault when it is first read.  Between the reading and the writing other calls run: of two
calls that both find no key, each makes one up, and the later write stands.

* `secretMachine` — calls of `getOrCreateDbKey` and `getOrCreateXmtpIdentityKey`.
* `AloneWithoutKey` — a key is made up where there is none, and no other is on its way.
* `Stable` — the vault holds the key that has been returned.
-/

namespace Signet
namespace Keys

open Kit Machine Schemas
open Signet.Core

/-! ## The keys -/

inductive IdentityKeyKind where
  /-- `getOrCreateDbKey` -/
  | db
  /-- `getOrCreateXmtpIdentityKey` -/
  | xmtpIdentity
deriving DecidableEq

structure IdentityKey where
  kind : IdentityKeyKind
  identityId : String
deriving DecidableEq

def IdentityKey.name (key : IdentityKey) : String :=
  match key.kind with
  | .db => "db-key:" ++ key.identityId
  | .xmtpIdentity => "xmtp-identity-key:" ++ key.identityId

inductive KeyValue where
  | bytes (value : Bytes)
  | hex (value : String)
deriving DecidableEq

/-- The form in which a key is returned. -/
def IdentityKey.present (key : IdentityKey) (value : Bytes) : KeyValue :=
  match key.kind with
  | .db => .bytes value
  | .xmtpIdentity => .hex ("0x" ++ bytesToHex value)

/-! ## The store -/

/-- Where a value comes from that is being written. -/
inductive KeyOrigin where
  | legacy
  | generated
deriving DecidableEq

/-- How far a call has come. -/
inductive KeyStage where
  /-- `vault.get` has been called. -/
  | reading
  /-- The vault has looked the secret up. -/
  | read (found : Except SignetError Bytes)
  /-- The store has answered that there is no key. -/
  | missing
  /-- `vault.set` has been called, and has written the value or not yet. -/
  | storing (origin : KeyOrigin) (value : Bytes) (written : Bool)

structure KeyCall where
  key : IdentityKey
  stage : KeyStage

/-- The secrets of the vault, the entries of the earlier store in hexadecimal digits, and
the calls that have not returned. -/
structure SecretState where
  vault : AssocMap String Bytes
  legacy : AssocMap String String
  calls : AssocMap Nat KeyCall
  /-- How many calls there have been. -/
  begun : Nat

/-- What happens next. -/
inductive SecretEvent where
  | getOrCreate (key : IdentityKey)
  /-- The vault looks a secret up; a failure has its cause. -/
  | vaultRead (call : Nat) (failure : Option String)
  /-- The store goes on with what the vault has found; the entry of the earlier store can
  be read, or not. -/
  | readAnswered (call : Nat) (legacyFailure : Option String)
  /-- A key is made up of random bytes, and written. -/
  | generate (call : Nat) (generated : Bytes)
  | vaultWrite (call : Nat)
  /-- The store goes on after the writing; the entry of the earlier store can be removed,
  or not. -/
  | writeAnswered (call : Nat) (failure : Option String) (unlinked : Bool)

structure KeyReturned where
  key : IdentityKey
  result : Except SignetError KeyValue
deriving DecidableEq

/-- The state after a segment, and what the segment made observable. -/
abbrev SecretTurn := SecretState × List KeyReturned

def hostFailure (message field name cause : String) : SignetError :=
  InternalError.create message (some [(field, .text name), ("cause", .text cause)])

/-- `hexToBytes` of an entry of the earlier store. -/
def legacyBytes (text : String) : Bytes := pairBytes text.toList

namespace SecretState

/-- Put a call at another stage. -/
def atStage (s : SecretState) (call : Nat) (key : IdentityKey) (stage : KeyStage) : SecretState :=
  { s with calls := s.calls.set call ⟨key, stage⟩ }

def returns (s : SecretState) (call : Nat) (key : IdentityKey)
    (result : Except SignetError Bytes) : SecretTurn :=
  ({ s with calls := s.calls.delete call }, [⟨key, result.map key.present⟩])

/-- `vault.get` looks the secret up. -/
def lookUp (s : SecretState) (name : String) (failure : Option String) :
    Except SignetError Bytes :=
  match s.vault.get name with
  | none => .error (NotFoundError.create "VaultSecret" name)
  | some value =>
    match failure with
    | none => .ok value
    | some cause => .error (hostFailure "Failed to read vault secret" "name" name cause)

/-- `get` of the store, after `vault.get`, and what follows in the call. -/
def afterRead (s : SecretState) (call : Nat) (key : IdentityKey)
    (found : Except SignetError Bytes) (legacyFailure : Option String) : SecretTurn :=
  match found with
  | .ok value => s.returns call key (.ok value)
  | .error error =>
    if error.tag ≠ .notFoundError then s.returns call key (.error error)
    else
      -- `readLegacyKvEntry`
      match s.legacy.get key.name, legacyFailure with
      | none, _ => (s.atStage call key .missing, [])
      | some _, some cause =>
        s.returns call key (.error
          (hostFailure "Failed to read legacy compat vault entry" "key" key.name cause))
      | some text, none => (s.atStage call key (.storing .legacy (legacyBytes text) false), [])

/-- `removeLegacyKvEntry` -/
def removeLegacyKvEntry (s : SecretState) (name : String) (unlinked : Bool) : SecretState :=
  if unlinked then { s with legacy := s.legacy.delete name } else s

/-- `get` or `set` of the store, after `vault.set`. -/
def afterWrite (s : SecretState) (call : Nat) (key : IdentityKey) (value : Bytes)
    (unlinked : Bool) : SecretTurn :=
  (s.removeLegacyKvEntry key.name unlinked).returns call key (.ok value)

end SecretState

def secretStep (s : SecretState) : SecretEvent → Option SecretTurn
  | .getOrCreate key =>
    some ({ s with
      calls := s.calls.set s.begun ⟨key, .reading⟩
      begun := s.begun + 1 }, [])
  | .vaultRead call failure =>
    match s.calls.get call with
    | some ⟨key, .reading⟩ =>
      some (s.atStage call key (.read (s.lookUp key.name failure)), [])
    | _ => none
  | .readAnswered call legacyFailure =>
    match s.calls.get call with
    | some ⟨key, .read found⟩ => some (s.afterRead call key found legacyFailure)
    | _ => none
  | .generate call generated =>
    match s.calls.get call with
    | some ⟨key, .missing⟩ =>
      some (s.atStage call key (.storing .generated generated false), [])
    | _ => none
  | .vaultWrite call =>
    match s.calls.get call with
    | some ⟨key, .storing origin value false⟩ =>
      some ({ s.atStage call key (.storing origin value true) with
        vault := s.vault.set key.name value }, [])
    | _ => none
  | .writeAnswered call failure unlinked =>
    match s.calls.get call, failure with
    | some ⟨key, .storing _ _ _⟩, some cause =>
      some (s.returns call key (.error
        (hostFailure "Failed to store vault secret" "name" key.name cause)))
    | some ⟨key, .storing _ value true⟩, none => some (s.afterWrite call key value unlinked)
    | _, _ => none

/-- The calls over what the vault and the earlier store hold at first. -/
def secretMachine (vault : AssocMap String Bytes) (legacy : AssocMap String String) :
    Machine SecretState SecretEvent KeyReturned where
  init := ⟨vault, legacy, AssocMap.empty, 0⟩
  step := secretStep

/-! ## Stability -/

/-- The vault holds every key that has been returned. -/
def Stable (s : SecretState) (outs : List KeyReturned) : Prop :=
  ∀ returned ∈ outs, ∀ shown, returned.result = .ok shown →
    ∃ value, s.vault.get returned.key.name = some value ∧ shown = returned.key.present value

/-- A call has made a key up that has not been written. -/
def KeyStage.Creating : KeyStage → Prop
  | .storing .generated _ false => True
  | _ => False

/-- When a call makes a key up, the vault holds none and no other call has made one up that
has not been written. -/
def AloneWithoutKey (s : SecretState) : SecretEvent → Prop
  | .generate call _ =>
    ∀ c ∈ s.calls.get call, s.vault.get c.key.name = none ∧
      ∀ c' ∈ s.calls.values, c'.key.name = c.key.name → ¬ c'.stage.Creating
  | _ => True

instance : DecidablePred KeyStage.Creating
  | .storing .generated _ false => isTrue trivial
  | .storing .generated _ true | .storing .legacy _ _ | .reading | .read _ | .missing =>
    isFalse fun h => h

instance (s : SecretState) : DecidablePred (AloneWithoutKey s)
  | .generate call _ => inferInstanceAs (Decidable (∀ c ∈ s.calls.get call, _))
  | .getOrCreate _ | .vaultRead _ _ | .readAnswered _ _ | .vaultWrite _ | .writeAnswered _ _ _ =>
    isTrue trivial

/-! ## What a stage knows -/

def StageSound (s : SecretState) (name : String) : KeyStage → Prop
  | .reading => True
  | .read (.ok value) => s.vault.get name = some value
  | .read (.error error) => error.tag = .notFoundError → ∀ text, s.legacy.get name = some text →
      s.vault.get name = none ∨ s.vault.get name = some (legacyBytes text)
  | .missing => s.legacy.get name = none
  | .storing .generated _ false => s.vault.get name = none ∧ s.legacy.get name = none
  | .storing .legacy value false => s.vault.get name = some value ∨
      (s.vault.get name = none ∧ ∃ text, s.legacy.get name = some text ∧ value = legacyBytes text)
  | .storing _ value true => s.vault.get name = some value

/-- What a stage knows rests on the vault and the earlier store alone. -/
theorem stageSound_congr {s s' : SecretState} (hVault : s'.vault = s.vault)
    (hLegacy : s'.legacy = s.legacy) (name : String) (stage : KeyStage) :
    StageSound s' name stage ↔ StageSound s name stage := by
  unfold StageSound
  rw [hVault, hLegacy]

variable {value : Bytes} {name other : String}

/-- A value is written where there was none, or the same. -/
theorem StageSound.write {s s' : SecretState} (hVault : s'.vault = s.vault.set other value)
    (hLegacy : s'.legacy = s.legacy)
    (hOld : s.vault.get other = some value ∨
      (s.vault.get other = none ∧
        ∀ text, s.legacy.get other = some text → value = legacyBytes text)) {stage : KeyStage}
    (hApart : name = other → ¬ stage.Creating) (h : StageSound s name stage) :
    StageSound s' name stage := by
  by_cases hName : name = other
  · subst hName
    have hNew : s'.vault.get name = some value := by rw [hVault, AssocMap.get_set_self]
    have hKeeps : ∀ value', s.vault.get name = some value' → s'.vault.get name = some value' := by
      intro value' hSome
      rcases hOld with hSame | ⟨hNone, -⟩
      · rw [hNew, ← hSame, hSome]
      · rw [hNone] at hSome
        cases hSome
    cases stage with
    | reading => trivial
    | read found =>
      cases found with
      | ok found => exact hKeeps found h
      | error error =>
        intro hTag text hText
        rw [hLegacy] at hText
        rcases hOld with hSame | ⟨-, hLegacyValue⟩
        · rcases h hTag text hText with hNone | hSome
          · rw [hSame] at hNone
            cases hNone
          · exact Or.inr (hKeeps _ hSome)
        · rw [hNew, hLegacyValue text hText]
          exact Or.inr rfl
    | missing =>
      show s'.legacy.get name = none
      rw [hLegacy]
      exact h
    | storing origin stored written =>
      cases written with
      | true => cases origin <;> exact hKeeps stored h
      | false =>
        cases origin with
        | generated => exact absurd trivial (hApart rfl)
        | legacy =>
          left
          rcases h with hSome | ⟨hNone, text, hText, rfl⟩
          · exact hKeeps stored hSome
          · rcases hOld with hSame | ⟨-, hLegacyValue⟩
            · rw [hNone] at hSame
              cases hSame
            · rw [hNew, hLegacyValue text hText]
  · have hSame : s'.vault.get name = s.vault.get name := by
      rw [hVault, AssocMap.get_set_of_ne _ _ hName]
    unfold StageSound at h ⊢
    rw [hSame, hLegacy]
    exact h

/-- An entry of the earlier store is removed when the vault holds the secret. -/
theorem StageSound.remove {s s' : SecretState} (hVault : s'.vault = s.vault)
    (hLegacy : s'.legacy = s.legacy.delete other) (hHeld : s.vault.get other = some value)
    {stage : KeyStage} (h : StageSound s name stage) : StageSound s' name stage := by
  by_cases hName : name = other
  · subst hName
    have hGone : s'.legacy.get name = none := by
      rw [hLegacy, AssocMap.get_delete, if_pos rfl]
    cases stage with
    | reading => trivial
    | read found =>
      cases found with
      | ok found =>
        show s'.vault.get name = some found
        rw [hVault]
        exact h
      | error error =>
        intro _ text hText
        rw [hGone] at hText
        cases hText
    | missing => exact hGone
    | storing origin stored written =>
      cases written with
      | true =>
        cases origin <;>
        · show s'.vault.get name = some stored
          rw [hVault]
          exact h
      | false =>
        cases origin with
        | generated =>
          obtain ⟨hNone, -⟩ := h
          rw [hHeld] at hNone
          cases hNone
        | legacy =>
          left
          rw [hVault]
          rcases h with hSome | ⟨hNone, -⟩
          · exact hSome
          · rw [hHeld] at hNone
            cases hNone
  · have hSame : s'.legacy.get name = s.legacy.get name := by
      rw [hLegacy, AssocMap.get_delete, if_neg hName]
    unfold StageSound at h ⊢
    rw [hSame, hVault]
    exact h

/-! ## The invariant -/

/-- Every stage is sound, a name has at most one key made up and not written, and every key
that has been returned is held. -/
structure Sound (s : SecretState) (outs : List KeyReturned) : Prop where
  stages : ∀ call key stage, s.calls.get call = some ⟨key, stage⟩ → StageSound s key.name stage
  alone : ∀ call call' key key' stage stage', s.calls.get call = some ⟨key, stage⟩ →
    s.calls.get call' = some ⟨key', stage'⟩ → key.name = key'.name →
      stage.Creating → stage'.Creating → call = call'
  stable : Stable s outs

variable {s : SecretState} {outs : List KeyReturned}

section

variable (h : Sound s outs)

include h

theorem Sound.atStage {call : Nat} {key : IdentityKey} {stage : KeyStage}
    (hStage : StageSound s key.name stage)
    (hAlone : stage.Creating → ∀ other key' stage', s.calls.get other = some ⟨key', stage'⟩ →
      key'.name = key.name → ¬ stage'.Creating) :
    Sound (s.atStage call key stage) outs where
  stages := by
    intro other key' stage' hCall
    refine (stageSound_congr rfl rfl key'.name stage').mpr ?_
    unfold SecretState.atStage at hCall
    dsimp only at hCall
    rcases AssocMap.get_set_cases hCall with ⟨-, hValue⟩ | ⟨-, hCall⟩
    · cases hValue
      exact hStage
    · exact h.stages other key' stage' hCall
  alone := by
    intro one two key₁ key₂ stage₁ stage₂ hOne hTwo hName hCreating₁ hCreating₂
    unfold SecretState.atStage at hOne hTwo
    dsimp only at hOne hTwo
    rw [AssocMap.get_set] at hOne hTwo
    split at hOne
    · next hFirst =>
      split at hTwo
      · next hSecond => rw [hFirst, hSecond]
      · cases hOne
        exact absurd hCreating₂ (hAlone hCreating₁ two key₂ stage₂ hTwo hName.symm)
    · split at hTwo
      · cases hTwo
        exact absurd hCreating₁ (hAlone hCreating₂ one key₁ stage₁ hOne hName)
      · exact h.alone one two key₁ key₂ stage₁ stage₂ hOne hTwo hName hCreating₁ hCreating₂
  stable := h.stable

theorem Sound.returns {call : Nat} {key : IdentityKey} {result : Except SignetError Bytes}
    (hHeld : ∀ value, result = .ok value → s.vault.get key.name = some value) :
    Sound (s.returns call key result).1 (outs ++ (s.returns call key result).2) where
  stages := by
    intro other key' stage' hCall
    unfold SecretState.returns at hCall ⊢
    dsimp only at hCall
    obtain ⟨-, hCall⟩ := AssocMap.of_get_delete hCall
    exact h.stages other key' stage' hCall
  alone := by
    intro one two key₁ key₂ stage₁ stage₂ hOne hTwo
    unfold SecretState.returns at hOne hTwo
    dsimp only at hOne hTwo
    rw [AssocMap.get_delete] at hOne hTwo
    split at hOne
    · cases hOne
    · split at hTwo
      · cases hTwo
      · exact h.alone one two key₁ key₂ stage₁ stage₂ hOne hTwo
  stable := by
    intro returned hReturned shown hShown
    rcases List.mem_append.mp hReturned with hEarlier | hLast
    · exact h.stable returned hEarlier shown hShown
    · unfold SecretState.returns at hLast
      rw [List.mem_singleton] at hLast
      subst hLast
      cases result with
      | error error => cases hShown
      | ok value =>
        cases hShown
        exact ⟨value, hHeld value rfl, rfl⟩

/-- A secret is written by the call that stores it. -/
theorem Sound.write {call : Nat} {key : IdentityKey} {origin : KeyOrigin}
    (hCall : s.calls.get call = some ⟨key, .storing origin value false⟩) :
    Sound { s.atStage call key (.storing origin value true) with
      vault := s.vault.set key.name value } outs := by
  have hStage := h.stages call key _ hCall
  -- nothing is replaced by another value
  have hOld : s.vault.get key.name = some value ∨ (s.vault.get key.name = none ∧
      ∀ text, s.legacy.get key.name = some text → value = legacyBytes text) := by
    cases origin with
    | generated =>
      refine Or.inr ⟨hStage.1, fun text hText => ?_⟩
      rw [hStage.2] at hText
      cases hText
    | legacy =>
      rcases hStage with hSame | ⟨hNone, text, hText, hValue⟩
      · exact Or.inl hSame
      · refine Or.inr ⟨hNone, fun text' hText' => ?_⟩
        rw [hText] at hText'
        cases hText'
        exact hValue
  have hOthers : ∀ other key' stage', other ≠ call → s.calls.get other = some ⟨key', stage'⟩ →
      key'.name = key.name → ¬ stage'.Creating := by
    intro other key' stage' hOther hGet hName hCreating
    have hGuarded := h.stages other key' stage' hGet
    cases stage' with
    | reading => exact hCreating
    | read found => exact hCreating
    | missing => exact hCreating
    | storing origin' value' written =>
      cases origin' with
      | legacy => exact hCreating
      | generated =>
        cases written with
        | true => exact hCreating
        | false =>
          rw [hName] at hGuarded
          cases origin with
          | generated =>
            exact hOther (h.alone other call key' key _ _ hGet hCall hName trivial trivial)
          | legacy =>
            rcases hStage with hSame | ⟨-, text, hText, -⟩
            · rw [hGuarded.1] at hSame
              cases hSame
            · rw [hGuarded.2] at hText
              cases hText
  refine ⟨?_, ?_, ?_⟩
  · intro other key' stage' hGet
    unfold SecretState.atStage at hGet
    dsimp only at hGet
    rcases AssocMap.get_set_cases hGet with ⟨-, hValue⟩ | ⟨hOther, hGet⟩
    · cases hValue
      cases origin <;> exact AssocMap.get_set_self _ _ _
    · refine StageSound.write ?_ ?_ hOld (hOthers other key' stage' hOther hGet)
        (h.stages other key' stage' hGet)
      · rfl
      · rfl
  · intro one two key₁ key₂ stage₁ stage₂ hOne hTwo hName hCreating₁ hCreating₂
    unfold SecretState.atStage at hOne hTwo
    dsimp only at hOne hTwo
    rw [AssocMap.get_set] at hOne hTwo
    split at hOne
    · cases hOne
      cases origin <;> cases hCreating₁
    · split at hTwo
      · cases hTwo
        cases origin <;> cases hCreating₂
      · exact h.alone one two key₁ key₂ stage₁ stage₂ hOne hTwo hName hCreating₁ hCreating₂
  · intro returned hReturned shown hShown
    obtain ⟨held, hHeld, hForm⟩ := h.stable returned hReturned shown hShown
    refine ⟨held, ?_, hForm⟩
    dsimp only
    rw [AssocMap.get_set]
    split
    · next hName =>
      rw [hName] at hHeld
      rcases hOld with hSame | ⟨hNone, -⟩
      · rw [← hHeld, hSame]
      · rw [hNone] at hHeld
        cases hHeld
    · exact hHeld

/-- The store goes on after the reading. -/
theorem Sound.afterRead (call : Nat) {key : IdentityKey} {found : Except SignetError Bytes}
    (hStage : StageSound s key.name (.read found)) (legacyFailure : Option String) :
    Sound (s.afterRead call key found legacyFailure).1
      (outs ++ (s.afterRead call key found legacyFailure).2) := by
  unfold SecretState.afterRead
  cases found with
  | ok value =>
    apply h.returns
    intro value' hValue
    cases hValue
    exact hStage
  | error error =>
    dsimp only
    split
    · apply h.returns
      intro value hValue
      cases hValue
    · next hTag =>
      rw [not_not] at hTag
      cases hText : s.legacy.get key.name with
      | none =>
        rw [List.append_nil]
        exact h.atStage hText fun hCreating => hCreating.elim
      | some text =>
        cases legacyFailure with
        | some cause =>
          apply h.returns
          intro value hValue
          cases hValue
        | none =>
          rw [List.append_nil]
          apply h.atStage
          · rcases hStage hTag text hText with hNone | hSome
            · exact Or.inr ⟨hNone, text, hText, rfl⟩
            · exact Or.inl hSome
          · exact fun hCreating => hCreating.elim

theorem Sound.remove (hHeld : s.vault.get name = some value) (unlinked : Bool) :
    Sound (s.removeLegacyKvEntry name unlinked) outs := by
  cases unlinked with
  | false => exact h
  | true =>
    refine ⟨?_, h.alone, h.stable⟩
    intro call key stage hCall
    refine StageSound.remove ?_ ?_ hHeld (h.stages call key stage hCall)
    · rfl
    · rfl

end

/-! ## Runs -/

/-- **The step lemma.** -/
theorem Sound.step (h : Sound s outs) {event : SecretEvent} (hGuard : AloneWithoutKey s event)
    {s' : SecretState} {out : List KeyReturned} (hStep : secretStep s event = some (s', out)) :
    Sound s' (outs ++ out) := by
  cases event with
  | getOrCreate key =>
    cases hStep
    rw [List.append_nil]
    obtain ⟨hStages, hAlone, hStable⟩ :=
      @Sound.atStage s outs h s.begun key .reading trivial fun hCreating => hCreating.elim
    exact ⟨hStages, hAlone, hStable⟩
  | vaultRead call failure =>
    simp only [secretStep] at hStep
    split at hStep
    · next key hCall =>
      cases hStep
      rw [List.append_nil]
      apply h.atStage
      · unfold SecretState.lookUp
        cases hHeld : s.vault.get key.name with
        | none =>
          intro _ text _
          exact Or.inl hHeld
        | some value =>
          cases failure with
          | none => exact hHeld
          | some cause =>
            intro hTag
            cases hTag
      · exact fun hCreating => hCreating.elim
    · cases hStep
  | readAnswered call legacyFailure =>
    simp only [secretStep] at hStep
    split at hStep
    · next key found hCall =>
      have hNext := h.afterRead call (h.stages call key _ hCall) legacyFailure
      rw [Option.some.inj hStep] at hNext
      exact hNext
    · cases hStep
  | generate call generated =>
    simp only [secretStep] at hStep
    split at hStep
    · next key hCall =>
      cases hStep
      rw [List.append_nil]
      obtain ⟨hNone, hOthers⟩ := hGuard ⟨key, .missing⟩ hCall
      refine h.atStage ⟨hNone, h.stages call key _ hCall⟩ ?_
      intro _ other key' stage' hOther hName
      exact hOthers ⟨key', stage'⟩ (AssocMap.mem_values.mpr ⟨other, hOther⟩) hName
    · cases hStep
  | vaultWrite call =>
    simp only [secretStep] at hStep
    split at hStep
    · next key origin value hCall =>
      cases hStep
      rw [List.append_nil]
      exact h.write hCall
    · cases hStep
  | writeAnswered call failure unlinked =>
    simp only [secretStep] at hStep
    split at hStep
    · cases hStep
      apply h.returns
      intro value hValue
      cases hValue
    · next key origin value hCall =>
      cases hStep
      have hHeld : s.vault.get key.name = some value := by
        have hStage := h.stages call key _ hCall
        cases origin <;> exact hStage
      apply (h.remove hHeld unlinked).returns
      intro value' hValue
      cases hValue
      cases unlinked <;> exact hHeld
    · cases hStep

theorem sound_of_runs {vault : AssocMap String Bytes} {legacy : AssocMap String String}
    {h : List (Occurrence SecretState SecretEvent KeyReturned)}
    (hRun : (secretMachine vault legacy).Runs h s) (hAlone : AllMeet AloneWithoutKey h) :
    Sound s (outputs h) := by
  apply hRun.invariant ?_ ?_ hAlone
  · exact ⟨(fun _ _ _ hNone => nomatch hNone), (fun _ _ _ _ _ _ hNone => nomatch hNone),
      (fun _ hNone => nomatch hNone)⟩
  · intro h s event s' out _ _ hSound hGuard hStep
    rw [outputs_append, outputs_singleton]
    exact hSound.step hGuard hStep

/-- **Stable keys.**  In a run in which a key is only made up where the vault holds none and
no other is on its way, all calls for a key that return one return the same, and the vault
holds it. -/
theorem keys_stable {vault : AssocMap String Bytes} {legacy : AssocMap String String}
    {h : List (Occurrence SecretState SecretEvent KeyReturned)} {s : SecretState}
    (hRun : (secretMachine vault legacy).Runs h s)
    (hAlone : AllMeet AloneWithoutKey h) :
    Stable s (outputs h) ∧
      ∀ key shown shown', ⟨key, .ok shown⟩ ∈ outputs h →
        ⟨key, .ok shown'⟩ ∈ outputs h → shown = shown' := by
  have hStable := (sound_of_runs hRun hAlone).stable
  refine ⟨hStable, ?_⟩
  intro key shown shown' hOne hTwo
  obtain ⟨value, hHeld, hShown⟩ := hStable _ hOne shown rfl
  obtain ⟨value', hHeld', hShown'⟩ := hStable _ hTwo shown' rfl
  rw [hHeld] at hHeld'
  cases hHeld'
  rw [hShown, hShown']

/-! ## Two calls for a key -/

def aliceKey : IdentityKey := ⟨.db, "alice"⟩

def sampleKeyBytes (byte : UInt8) : Bytes := List.replicate 32 byte

/-- A call of the store finds no key, makes one up and returns it. -/
def keyCreated (call : Nat) (byte : UInt8) : List SecretEvent :=
  [.readAnswered call none, .generate call (sampleKeyBytes byte), .vaultWrite call,
    .writeAnswered call none true]

/-- A second call after the first returns the key of the first. -/
theorem later_call_returns_key :
    ∃ h s, (secretMachine AssocMap.empty AssocMap.empty).Runs h s ∧
      outputs h = [⟨aliceKey, .ok (.bytes (sampleKeyBytes 1))⟩,
        ⟨aliceKey, .ok (.bytes (sampleKeyBytes 1))⟩] ∧
      Stable s (outputs h) := by
  let M := secretMachine AssocMap.empty AssocMap.empty
  let events := [.getOrCreate aliceKey, .vaultRead 0 none] ++ keyCreated 0 1 ++
    [.getOrCreate aliceKey, .vaultRead 1 none, .readAnswered 1 none]
  have hSome : (M.exec M.init events).isSome = true := by decide
  have hOut : outputs (M.outcome M.init events hSome).1 =
      [⟨aliceKey, .ok (.bytes (sampleKeyBytes 1))⟩,
        ⟨aliceKey, .ok (.bytes (sampleKeyBytes 1))⟩] := by
    decide +revert
  have hAlone : AllMeet AloneWithoutKey (M.outcome M.init events hSome).1 := by
    decide +revert
  have hRun := runs_of_exec (exec_outcome hSome)
  exact ⟨_, _, hRun, hOut, (keys_stable hRun hAlone).1⟩

/-- Two calls that overlap return two keys. -/
theorem overlapping_calls_return_two_keys :
    ∃ h s, (secretMachine AssocMap.empty AssocMap.empty).Runs h s ∧
      outputs h = [⟨aliceKey, .ok (.bytes (sampleKeyBytes 1))⟩,
        ⟨aliceKey, .ok (.bytes (sampleKeyBytes 2))⟩] := by
  let M := secretMachine AssocMap.empty AssocMap.empty
  let events := [.getOrCreate aliceKey, .getOrCreate aliceKey, .vaultRead 0 none,
    .vaultRead 1 none] ++ keyCreated 0 1 ++ keyCreated 1 2
  have hSome : (M.exec M.init events).isSome = true := by decide
  have hOut : outputs (M.outcome M.init events hSome).1 =
      [⟨aliceKey, .ok (.bytes (sampleKeyBytes 1))⟩,
        ⟨aliceKey, .ok (.bytes (sampleKeyBytes 2))⟩] := by
    decide +revert
  exact ⟨_, _, runs_of_exec (exec_outcome hSome), hOut⟩

end Keys
end Signet
