import Signet.Policy.Materiality
import Signet.Seals.Manager
import Signet.Sessions.Materiality

/-!
# The disclosed delta and the enforced authority

The delta of a seal sorts the scopes by the lists that name them, the sessions
package by what they resolve to.  The two agree as long as no scope changes its
place on the lists without changing what it resolves to.

* `mem_added`, …, `mem_changed_deny` — the buckets, scope by scope.
* `Agrees` — the delta names each scope once, reports the gained ones as gained,
  and needs a reauthorization when the sessions package does.
* `delta_agrees_iff` — it agrees exactly when every scope that is now on both
  lists was allowed before, and every scope that was denied is still listed.
-/

namespace Signet
namespace Seals

open Kit Schemas Policy Sessions

variable (previous next : SealPayload)

/-! ## The buckets -/

def policyDeltaOf (delta : SealDelta) : PolicyDelta :=
  ⟨delta.added, delta.removed, delta.changed⟩

theorem mem_added (scope : PermissionScope) :
    scope ∈ (computePayloadDelta previous next).added ↔
      (scope ∈ next.permissions.allow ∧ scope ∉ previous.permissions.allow ∧
        scope ∉ previous.permissions.deny) ∨
      (scope ∈ previous.permissions.deny ∧ scope ∉ next.permissions.deny ∧
        scope ∉ next.permissions.allow) := by
  simp only [computePayloadDelta, List.mem_append, List.mem_filter, decide_eq_true_eq,
    ← OrderedSet.mem_def, OrderedSet.mem_ofList, and_assoc]

theorem mem_removed (scope : PermissionScope) :
    scope ∈ (computePayloadDelta previous next).removed ↔
      (scope ∈ previous.permissions.allow ∧ scope ∉ next.permissions.allow ∧
        scope ∉ next.permissions.deny) ∨
      (scope ∈ next.permissions.deny ∧ scope ∉ previous.permissions.deny ∧
        scope ∉ previous.permissions.allow) := by
  simp only [computePayloadDelta, List.mem_append, List.mem_filter, decide_eq_true_eq,
    ← OrderedSet.mem_def, OrderedSet.mem_ofList, and_assoc]

theorem mem_changed (change : ScopeChange) :
    change ∈ (computePayloadDelta previous next).changed ↔
      (change.fromSide = .deny ∧ change.toSide = .allow ∧
        ((change.scope ∈ next.permissions.allow ∧ change.scope ∉ previous.permissions.allow ∧
            change.scope ∈ previous.permissions.deny) ∨
          (change.scope ∈ previous.permissions.deny ∧ change.scope ∉ next.permissions.deny ∧
            change.scope ∈ previous.permissions.allow ∧
            change.scope ∈ next.permissions.allow))) ∨
      (change.fromSide = .allow ∧ change.toSide = .deny ∧
        ((change.scope ∈ previous.permissions.allow ∧ change.scope ∉ next.permissions.allow ∧
            change.scope ∈ next.permissions.deny) ∨
          (change.scope ∈ next.permissions.deny ∧ change.scope ∉ previous.permissions.deny ∧
            change.scope ∈ previous.permissions.allow ∧
            change.scope ∈ next.permissions.allow))) := by
  obtain ⟨scope, fromSide, toSide⟩ := change
  simp only [computePayloadDelta, List.mem_append, List.mem_map, List.mem_filter,
    decide_eq_true_eq, ← OrderedSet.mem_def, OrderedSet.mem_ofList, ScopeChange.mk.injEq]
  cases fromSide <;> cases toSide <;> simp [and_assoc]

/-! ## Agreement -/

/-- The delta reports that the scope is now allowed. -/
def ReportsGain (delta : SealDelta) (scope : PermissionScope) : Prop :=
  scope ∈ delta.added ∨ ∃ change ∈ delta.changed, change.scope = scope ∧ change.toSide = .allow

/-- The scope resolves to allowed now and did not before. -/
def Gains (old new : ScopeSet) (scope : PermissionScope) : Prop :=
  scope ∈ resolveScopeSet new ∧ scope ∉ resolveScopeSet old

/-- The delta between two payloads agrees with the authority that is enforced. -/
structure Agrees : Prop where
  addedRemoved : ∀ scope ∈ (computePayloadDelta previous next).added,
    scope ∉ (computePayloadDelta previous next).removed
  addedChanged : ∀ scope ∈ (computePayloadDelta previous next).added,
    ∀ change ∈ (computePayloadDelta previous next).changed, change.scope ≠ scope
  removedChanged : ∀ scope ∈ (computePayloadDelta previous next).removed,
    ∀ change ∈ (computePayloadDelta previous next).changed, change.scope ≠ scope
  gains : ∀ scope, ReportsGain (computePayloadDelta previous next) scope ↔
    Gains previous.permissions next.permissions scope
  reauthorization :
    Policy.requiresReauthorization [policyDeltaOf (computePayloadDelta previous next)] =
      (checkMateriality previous.permissions next.permissions).requiresReauthorization
  resolved : (checkMateriality previous.permissions next.permissions).requiresReauthorization =
    true ↔ ∃ scope, Gains previous.permissions next.permissions scope

/-- No scope has come onto both lists without having been allowed, and no denied
scope has left both. -/
def ListedPlainly : Prop :=
  ∀ scope, (scope ∈ next.permissions.allow → scope ∈ next.permissions.deny →
      scope ∈ previous.permissions.allow) ∧
    (scope ∈ previous.permissions.deny →
      scope ∈ next.permissions.allow ∨ scope ∈ next.permissions.deny)

theorem reportsGain_iff (scope : PermissionScope) :
    ReportsGain (computePayloadDelta previous next) scope ↔
      (scope ∈ next.permissions.allow ∧ scope ∉ previous.permissions.allow) ∨
      (scope ∈ previous.permissions.deny ∧ scope ∉ next.permissions.deny ∧
        (scope ∈ next.permissions.allow → scope ∈ previous.permissions.allow)) := by
  have hChanged : (∃ change ∈ (computePayloadDelta previous next).changed,
      change.scope = scope ∧ change.toSide = .allow) ↔
        (scope ∈ next.permissions.allow ∧ scope ∉ previous.permissions.allow ∧
          scope ∈ previous.permissions.deny) ∨
        (scope ∈ previous.permissions.deny ∧ scope ∉ next.permissions.deny ∧
          scope ∈ previous.permissions.allow ∧ scope ∈ next.permissions.allow) := by
    constructor
    · rintro ⟨change, hMem, rfl, hAllow⟩
      rcases (mem_changed previous next change).mp hMem with ⟨-, -, hLists⟩ | ⟨-, hDeny, -⟩
      · exact hLists
      · rw [hAllow] at hDeny
        cases hDeny
    · intro hLists
      exact ⟨⟨scope, .deny, .allow⟩,
        (mem_changed previous next _).mpr (.inl ⟨rfl, rfl, hLists⟩), rfl, rfl⟩
  unfold ReportsGain
  rw [hChanged, mem_added]
  grind

/-- A scope is reported as gained without being so only where its lists changed
and its resolution did not. -/
theorem gains_iff (scope : PermissionScope)
    (hBoth : scope ∈ next.permissions.allow → scope ∈ next.permissions.deny →
      scope ∈ previous.permissions.allow)
    (hLeft : scope ∈ previous.permissions.deny →
      scope ∈ next.permissions.allow ∨ scope ∈ next.permissions.deny) :
    ReportsGain (computePayloadDelta previous next) scope ↔
      Gains previous.permissions next.permissions scope := by
  rw [reportsGain_iff]
  unfold Gains
  simp only [mem_resolveScopeSet]
  grind

theorem requiresReauthorization_delta_iff :
    Policy.requiresReauthorization [policyDeltaOf (computePayloadDelta previous next)] = true ↔
      ∃ scope, ReportsGain (computePayloadDelta previous next) scope := by
  unfold Policy.requiresReauthorization
  rw [List.any_cons, List.any_nil, Bool.or_false, isSingleDeltaEscalation_iff]
  rfl

theorem reportsGain_of_unlisted {scope : PermissionScope}
    (h : (scope ∈ next.permissions.allow ∧ scope ∈ next.permissions.deny ∧
        scope ∉ previous.permissions.allow) ∨
      (scope ∈ previous.permissions.deny ∧ scope ∉ next.permissions.allow ∧
        scope ∉ next.permissions.deny)) :
    ReportsGain (computePayloadDelta previous next) scope ∧
      ¬ Gains previous.permissions next.permissions scope := by
  rw [reportsGain_iff]
  unfold Gains
  simp only [mem_resolveScopeSet]
  grind

/-- **The disclosed delta agrees with the enforced authority** exactly when no
scope changes its place on the lists without changing what it resolves to. -/
theorem delta_agrees_iff : Agrees previous next ↔ ListedPlainly previous next := by
  constructor
  · intro h scope
    -- a scope that only changes its place is reported as gained, and is not
    have hReported := h.gains scope
    constructor
    · intro hAllow hDeny
      by_contra hNot
      obtain ⟨hReports, hNo⟩ := reportsGain_of_unlisted previous next
        (.inl ⟨hAllow, hDeny, hNot⟩)
      exact hNo (hReported.mp hReports)
    · intro hDenied
      by_contra hGone
      rw [not_or] at hGone
      obtain ⟨hReports, hNo⟩ := reportsGain_of_unlisted previous next
        (.inr ⟨hDenied, hGone.1, hGone.2⟩)
      exact hNo (hReported.mp hReports)
  · intro h
    have hGains : ∀ scope, ReportsGain (computePayloadDelta previous next) scope ↔
        Gains previous.permissions next.permissions scope :=
      fun scope => gains_iff previous next scope (h scope).1 (h scope).2
    have hResolved := requiresReauthorization_iff previous.permissions next.permissions
    refine ⟨?_, ?_, ?_, hGains, ?_, hResolved⟩
    · intro scope hAdded hRemoved
      rw [mem_added] at hAdded
      rw [mem_removed] at hRemoved
      have hScope := h scope
      grind
    · rintro scope hAdded change hChanged rfl
      rw [mem_added] at hAdded
      rw [mem_changed] at hChanged
      have hScope := h change.scope
      grind
    · rintro scope hRemoved change hChanged rfl
      rw [mem_removed] at hRemoved
      rw [mem_changed] at hChanged
      have hScope := h change.scope
      grind
    · rw [Bool.eq_iff_iff, requiresReauthorization_delta_iff, hResolved]
      exact exists_congr hGains

/-! ## A scope on both lists -/

def payloadWith (permissions : ScopeSet) : SealPayload :=
  rawPayload 0 "seal_00000000000000aa" { sampleInput with permissions := permissions }

/-- A scope that comes onto both lists is disclosed as added and as removed, and
wants a reauthorization, although it was and is denied. -/
theorem both_lists_added_and_removed :
    PermissionScope.send ∈
        (computePayloadDelta (payloadWith ⟨[], []⟩) (payloadWith ⟨[.send], [.send]⟩)).added ∧
      PermissionScope.send ∈
        (computePayloadDelta (payloadWith ⟨[], []⟩) (payloadWith ⟨[.send], [.send]⟩)).removed ∧
      Policy.requiresReauthorization
        [policyDeltaOf (computePayloadDelta (payloadWith ⟨[], []⟩)
          (payloadWith ⟨[.send], [.send]⟩))] = true ∧
      (checkMateriality ⟨[], []⟩ ⟨[.send], [.send]⟩).requiresReauthorization = false ∧
      ¬ Agrees (payloadWith ⟨[], []⟩) (payloadWith ⟨[.send], [.send]⟩) := by
  have hAdded : PermissionScope.send ∈
      (computePayloadDelta (payloadWith ⟨[], []⟩) (payloadWith ⟨[.send], [.send]⟩)).added := by
    decide
  have hRemoved : PermissionScope.send ∈
      (computePayloadDelta (payloadWith ⟨[], []⟩) (payloadWith ⟨[.send], [.send]⟩)).removed := by
    decide
  exact ⟨hAdded, hRemoved, by decide, by decide, fun h => h.addedRemoved _ hAdded hRemoved⟩

end Seals
end Signet
