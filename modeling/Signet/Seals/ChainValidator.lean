import Signet.Schemas.Errors
import Signet.Seals.ComputeDelta
import Signet.Kit.Sorting
import Mathlib.Data.String.Basic

/-!
# Validation of a seal chain

The structural check of a link and the check that the stored delta is the one
recomputed from the two payloads, up to the order of its scopes.
-/

namespace Signet
namespace Seals

open Kit Schemas

def validateSealChain (chain : SealChain) : Except SignetError Unit :=
  match chain.previous with
  | none => .ok ()
  | some previous =>
    if chain.current.operatorId ≠ previous.operatorId then
      .error (ValidationError.create "chain"
        "Operator mismatch: current and previous seal must belong to the same operator")
    else if chain.current.credentialId ≠ previous.credentialId then
      .error (ValidationError.create "chain"
        "Credential mismatch: current and previous seal must belong to the same credential")
    else if chain.current.chatId ≠ previous.chatId then
      .error (ValidationError.create "chain"
        "Chat mismatch: current and previous seal must belong to the same chat")
    else if chain.current.issuedAt < previous.issuedAt then
      .error (ValidationError.create "chain"
        "issuedAt of current seal must not be before previous seal")
    else .ok ()

/-- Scopes in the order of their wire names. -/
def sortScopes (scopes : List PermissionScope) : List PermissionScope :=
  scopes.insertionSort fun x y => x.value ≤ y.value

/-- Changes in the order of their scopes; changes of one scope keep their order. -/
def sortChanges (changes : List ScopeChange) : List ScopeChange :=
  changes.insertionSort fun x y => x.scope.value ≤ y.scope.value

def deltaEquals (a b : SealDelta) : Bool :=
  a.added.length == b.added.length && a.removed.length == b.removed.length
    && a.changed.length == b.changed.length
    && sortScopes a.added == sortScopes b.added
    && sortScopes a.removed == sortScopes b.removed
    && decide (sortChanges a.changed = sortChanges b.changed)

/-- The delta a chain should store. -/
def expectedDelta (current : SealPayload) (previous : Option SealPayload) : SealDelta :=
  match previous with
  | none => .empty
  | some previous => computePayloadDelta previous current

/-- Verifies that a chain's stored delta matches the actual difference between
the current and previous payloads. -/
def verifyChainDelta (chain : SealChain) : Except SignetError Unit :=
  if deltaEquals (expectedDelta chain.current chain.previous) chain.delta then .ok ()
  else .error (ValidationError.create "chain"
    "Delta mismatch: stored delta does not match recomputed delta")

theorem deltaEquals_refl (delta : SealDelta) : deltaEquals delta delta = true := by
  simp [deltaEquals]

variable {chain : SealChain}

theorem verifyChainDelta_of_delta_eq
    (h : chain.delta = expectedDelta chain.current chain.previous) :
    verifyChainDelta chain = .ok () := by
  unfold verifyChainDelta
  rw [h, deltaEquals_refl]
  rfl

/-- A link between payloads of one operator, credential and chat, in the order of
time, is valid. -/
theorem validateSealChain_of_link (h : ∀ previous, chain.previous = some previous →
      chain.current.operatorId = previous.operatorId ∧
        chain.current.credentialId = previous.credentialId ∧
        chain.current.chatId = previous.chatId ∧ previous.issuedAt ≤ chain.current.issuedAt) :
    validateSealChain chain = .ok () := by
  unfold validateSealChain
  split
  · rfl
  · next previous hPrevious =>
    obtain ⟨hOperator, hCredential, hChat, hTime⟩ := h previous hPrevious
    have hNotBefore : ¬ chain.current.issuedAt < previous.issuedAt := by omega
    rw [if_neg (not_not.mpr hOperator), if_neg (not_not.mpr hCredential),
      if_neg (not_not.mpr hChat), if_neg hNotBefore]

/-- Only such links are valid. -/
theorem validateSealChain_iff :
    validateSealChain chain = .ok () ↔ ∀ previous, chain.previous = some previous →
      chain.current.operatorId = previous.operatorId ∧
        chain.current.credentialId = previous.credentialId ∧
        chain.current.chatId = previous.chatId ∧
        previous.issuedAt ≤ chain.current.issuedAt := by
  refine ⟨?_, validateSealChain_of_link⟩
  intro hOk previous hPrevious
  unfold validateSealChain at hOk
  rw [hPrevious] at hOk
  simp only at hOk
  split at hOk
  · cases hOk
  · next hOperator =>
    split at hOk
    · cases hOk
    · next hCredential =>
      split at hOk
      · cases hOk
      · next hChat =>
        split at hOk
        · cases hOk
        · next hTime =>
          exact ⟨not_not.mp hOperator, not_not.mp hCredential, not_not.mp hChat,
            not_lt.mp hTime⟩

/-! ## Equal deltas -/

/-- Two deltas with the same scopes and changes, in whatever order. -/
structure SameDelta (a b : SealDelta) : Prop where
  added : a.added.Perm b.added
  removed : a.removed.Perm b.removed
  changed : a.changed.Perm b.changed

/-- A delta that lists no scope twice in a field. -/
structure Distinct (delta : SealDelta) : Prop where
  added : delta.added.Nodup
  removed : delta.removed.Nodup
  changed : (delta.changed.map ScopeChange.scope).Nodup

theorem distinct_expectedDelta (current : SealPayload) (previous : Option SealPayload) :
    Distinct (expectedDelta current previous) := by
  cases previous with
  | none => exact ⟨List.nodup_nil, List.nodup_nil, List.nodup_nil⟩
  | some previous =>
    exact ⟨nodup_added previous current, nodup_removed previous current,
      nodup_changed previous current⟩

theorem sortScopes_eq_iff_perm {l l' : List PermissionScope} (h : l.Nodup) :
    sortScopes l = sortScopes l' ↔ l.Perm l' := by
  have hValues : (l.map PermissionScope.value).Nodup :=
    h.map fun _ _ hEq => PermissionScope.value_injective hEq
  exact sortByKey_eq_iff_perm PermissionScope.value hValues

theorem sortChanges_eq_iff_perm {l l' : List ScopeChange}
    (h : (l.map ScopeChange.scope).Nodup) : sortChanges l = sortChanges l' ↔ l.Perm l' := by
  have hValues : (l.map fun change => change.scope.value).Nodup := by
    have hMapped := h.map fun _ _ hEq => PermissionScope.value_injective hEq
    rwa [List.map_map] at hMapped
  exact sortByKey_eq_iff_perm (fun change : ScopeChange => change.scope.value) hValues

/-- The comparison of the validator does not see an order. -/
theorem deltaEquals_iff {a b : SealDelta} (h : Distinct a) :
    deltaEquals a b = true ↔ SameDelta a b := by
  have hAdded : sortScopes a.added = sortScopes b.added ↔ a.added.Perm b.added :=
    sortScopes_eq_iff_perm h.added
  have hRemoved : sortScopes a.removed = sortScopes b.removed ↔ a.removed.Perm b.removed :=
    sortScopes_eq_iff_perm h.removed
  have hChanged : sortChanges a.changed = sortChanges b.changed ↔ a.changed.Perm b.changed :=
    sortChanges_eq_iff_perm h.changed
  simp only [deltaEquals, Bool.and_eq_true, beq_iff_eq, decide_eq_true_eq]
  constructor
  · rintro ⟨⟨⟨-, hEqAdded⟩, hEqRemoved⟩, hEqChanged⟩
    exact ⟨hAdded.mp hEqAdded, hRemoved.mp hEqRemoved, hChanged.mp hEqChanged⟩
  · intro hSame
    exact ⟨⟨⟨⟨⟨hSame.added.length_eq, hSame.removed.length_eq⟩, hSame.changed.length_eq⟩,
      hAdded.mpr hSame.added⟩, hRemoved.mpr hSame.removed⟩, hChanged.mpr hSame.changed⟩

theorem verifyChainDelta_iff :
    verifyChainDelta chain = .ok () ↔
      SameDelta (expectedDelta chain.current chain.previous) chain.delta := by
  rw [← deltaEquals_iff (distinct_expectedDelta chain.current chain.previous)]
  unfold verifyChainDelta
  split
  · next h => exact ⟨fun _ => h, fun _ => rfl⟩
  · next h => exact ⟨fun hOk => (nomatch hOk), fun hEq => absurd hEq h⟩

end Seals
end Signet
