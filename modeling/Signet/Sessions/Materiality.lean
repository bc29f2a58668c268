import Signet.Schemas.PermissionScopes

/-!
# Materiality of a scope change

A scope change is material if some scope is effectively allowed on one side
only, and needs reauthorization if some scope becomes allowed.  The check walks
the scopes either side mentions and sorts each into added, removed, changed or
untouched; the theorems below say what the two verdicts mean for the resolved
scope sets.
-/

namespace Signet
namespace Sessions

open Kit Schemas

/-- Materiality result with policy delta for diagnostics. -/
structure DetailedMaterialityCheck where
  isMaterial : Bool
  reason : Option String
  delta : PolicyDelta
  requiresReauthorization : Bool
deriving DecidableEq, Repr

def classifyScope (oldScopes newScopes : ScopeSet) (delta : PolicyDelta)
    (scope : PermissionScope) : PolicyDelta :=
  let oldAllowed := decide (scope ∈ oldScopes.allow) && !decide (scope ∈ oldScopes.deny)
  let newAllowed := decide (scope ∈ newScopes.allow) && !decide (scope ∈ newScopes.deny)
  if oldAllowed = newAllowed then delta
  else if !oldAllowed && newAllowed then
    if scope ∈ oldScopes.allow ∨ scope ∈ oldScopes.deny then
      { delta with changed := delta.changed ++ [⟨scope, .deny, .allow⟩] }
    else { delta with added := delta.added ++ [scope] }
  else if scope ∈ newScopes.deny then
    { delta with changed := delta.changed ++ [⟨scope, .allow, .deny⟩] }
  else { delta with removed := delta.removed ++ [scope] }

def buildReason (delta : PolicyDelta) : String :=
  let added := if delta.added.length > 0 then
    ["added: " ++ ", ".intercalate (delta.added.map PermissionScope.value)] else []
  let removed := if delta.removed.length > 0 then
    ["removed: " ++ ", ".intercalate (delta.removed.map PermissionScope.value)] else []
  let changed := if delta.changed.length > 0 then
    ["changed: " ++ ", ".intercalate (delta.changed.map fun c =>
      c.scope.value ++ " (" ++ c.fromSide.value ++ " -> " ++ c.toSide.value ++ ")")] else []
  "Material change: " ++ "; ".intercalate (added ++ removed ++ changed)

/-- The scopes either side mentions, each once. -/
def allScopes (oldScopes newScopes : ScopeSet) : OrderedSet PermissionScope :=
  OrderedSet.ofList (oldScopes.allow ++ oldScopes.deny ++ newScopes.allow ++ newScopes.deny)

def scopeDelta (oldScopes newScopes : ScopeSet) : PolicyDelta :=
  (allScopes oldScopes newScopes).items.foldl (classifyScope oldScopes newScopes) ⟨[], [], []⟩

def checkMateriality (oldScopes newScopes : ScopeSet) : DetailedMaterialityCheck :=
  let delta := scopeDelta oldScopes newScopes
  let isMaterial := decide (delta.added.length > 0) || decide (delta.removed.length > 0)
    || decide (delta.changed.length > 0)
  let escalations := delta.changed.filter (fun c => c.toSide = .allow)
  { isMaterial := isMaterial
    reason := if isMaterial then some (buildReason delta) else none
    delta := delta
    requiresReauthorization :=
      decide (delta.added.length > 0) || decide (escalations.length > 0) }

/-- Some scope of the delta becomes allowed. -/
def Escalates (delta : PolicyDelta) : Prop :=
  delta.added ≠ [] ∨ ∃ c ∈ delta.changed, c.toSide = .allow

section

variable (oldScopes newScopes : ScopeSet)

theorem requiresReauthorization_iff_escalates :
    (checkMateriality oldScopes newScopes).requiresReauthorization = true ↔
      Escalates (scopeDelta oldScopes newScopes) := by
  simp only [checkMateriality, Escalates, gt_iff_lt, Bool.or_eq_true,
    decide_eq_true_eq, List.length_pos_iff]
  refine or_congr Iff.rfl ?_
  simp [List.filter_eq_nil_iff]

/-- One scope escalates the delta exactly if it becomes effectively allowed. -/
theorem escalates_classifyScope (delta : PolicyDelta) (scope : PermissionScope) :
    Escalates (classifyScope oldScopes newScopes delta scope) ↔
      Escalates delta ∨
        (scope ∉ resolveScopeSet oldScopes ∧ scope ∈ resolveScopeSet newScopes) := by
  unfold classifyScope
  simp only [Escalates, mem_resolveScopeSet]
  by_cases hOldAllow : scope ∈ oldScopes.allow <;> by_cases hOldDeny : scope ∈ oldScopes.deny <;>
    by_cases hNewAllow : scope ∈ newScopes.allow <;>
    by_cases hNewDeny : scope ∈ newScopes.deny <;>
    simp [hOldAllow, hOldDeny, hNewAllow, hNewDeny, exists_or, or_and_right]

theorem escalates_foldl (l : List PermissionScope) (delta : PolicyDelta) :
    Escalates (l.foldl (classifyScope oldScopes newScopes) delta) ↔
      Escalates delta ∨
        ∃ scope ∈ l, scope ∉ resolveScopeSet oldScopes ∧ scope ∈ resolveScopeSet newScopes := by
  induction l generalizing delta with
  | nil => simp
  | cons scope l ih =>
    rw [List.foldl_cons, ih, escalates_classifyScope, or_assoc]
    refine or_congr Iff.rfl ?_
    simp only [List.mem_cons, exists_eq_or_imp]

/-- Reauthorization is required exactly if some scope becomes effectively allowed. -/
theorem requiresReauthorization_iff :
    (checkMateriality oldScopes newScopes).requiresReauthorization = true ↔
      ∃ scope, scope ∈ resolveScopeSet newScopes ∧ scope ∉ resolveScopeSet oldScopes := by
  rw [requiresReauthorization_iff_escalates, scopeDelta, escalates_foldl]
  constructor
  · rintro (hEmpty | ⟨scope, _, hOld, hNew⟩)
    · rcases hEmpty with h | ⟨c, hc, _⟩
      · exact absurd rfl h
      · cases hc
    · exact ⟨scope, hNew, hOld⟩
  · rintro ⟨scope, hNew, hOld⟩
    refine Or.inr ⟨scope, ?_, hOld, hNew⟩
    have hAllow := (mem_resolveScopeSet.mp hNew).1
    have hAll : scope ∈ allScopes oldScopes newScopes := by
      simp [allScopes, hAllow]
    exact OrderedSet.mem_def.mp hAll

end

theorem resolve_subset_of_not_requiresReauthorization {oldScopes newScopes : ScopeSet}
    (h : (checkMateriality oldScopes newScopes).requiresReauthorization = false)
    {scope : PermissionScope} (hNew : scope ∈ resolveScopeSet newScopes) :
    scope ∈ resolveScopeSet oldScopes := by
  by_contra hOld
  have hTrue := (requiresReauthorization_iff oldScopes newScopes).mpr ⟨scope, hNew, hOld⟩
  rw [h] at hTrue
  cases hTrue

end Sessions
end Signet
