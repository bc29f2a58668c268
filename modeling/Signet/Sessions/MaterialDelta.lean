import Signet.Sessions.Materiality

/-!
# What the delta of a scope change lists

`packages/sessions/src/materiality.ts` walks the scopes that either side mentions and puts each
into at most one of three lists.  Laid end to end, the three lists are a rearrangement of the
scopes that are effectively allowed on one side only; the verdicts of the check are read off from
that.
-/

namespace Signet
namespace Sessions

open Kit Schemas

/-- A scope is effectively allowed on one side only. -/
def Differs (oldScopes newScopes : ScopeSet) (scope : PermissionScope) : Prop :=
  ¬ (scope ∈ resolveScopeSet oldScopes ↔ scope ∈ resolveScopeSet newScopes)

instance (oldScopes newScopes : ScopeSet) (scope : PermissionScope) :
    Decidable (Differs oldScopes newScopes scope) :=
  inferInstanceAs (Decidable (¬ _))

/-- The scopes of the three lists of a delta, laid end to end. -/
def listedScopes (delta : PolicyDelta) : List PermissionScope :=
  delta.added ++ delta.removed ++ delta.changed.map (·.scope)

/-- Whether a scope is effectively allowed, as the walk decides it. -/
def effectivelyAllowed (scopes : ScopeSet) (scope : PermissionScope) : Bool :=
  decide (scope ∈ scopes.allow) && !decide (scope ∈ scopes.deny)

theorem differs_iff {oldScopes newScopes : ScopeSet} {scope : PermissionScope} :
    Differs oldScopes newScopes scope ↔
      effectivelyAllowed oldScopes scope ≠ effectivelyAllowed newScopes scope := by
  unfold Differs effectivelyAllowed
  rw [mem_resolveScopeSet, mem_resolveScopeSet, ne_eq, Bool.eq_iff_iff]
  simp

/-- **One scope is listed once or not at all.**  The walk passes over a scope that is allowed on
both sides or on neither; each of the other branches puts it into one list. -/
theorem listedScopes_classifyScope (oldScopes newScopes : ScopeSet) (delta : PolicyDelta)
    (scope : PermissionScope) :
    (listedScopes (classifyScope oldScopes newScopes delta scope)).Perm
      (listedScopes delta ++ if Differs oldScopes newScopes scope then [scope] else []) := by
  rw [show classifyScope oldScopes newScopes delta scope =
    if effectivelyAllowed oldScopes scope = effectivelyAllowed newScopes scope then delta
    else if !effectivelyAllowed oldScopes scope && effectivelyAllowed newScopes scope then
      if scope ∈ oldScopes.allow ∨ scope ∈ oldScopes.deny then
        { delta with changed := delta.changed ++ [⟨scope, .deny, .allow⟩] }
      else { delta with added := delta.added ++ [scope] }
    else if scope ∈ newScopes.deny then
      { delta with changed := delta.changed ++ [⟨scope, .allow, .deny⟩] }
    else { delta with removed := delta.removed ++ [scope] } from rfl]
  by_cases hSame : effectivelyAllowed oldScopes scope = effectivelyAllowed newScopes scope
  · simp [hSame, differs_iff]
  · rw [if_neg hSame, if_pos (differs_iff.mpr hSame)]
    unfold listedScopes
    -- the new element is the last of its list, and is moved past the lists that follow
    split
    · split
      · simp
      · simp only [List.append_assoc]
        apply List.Perm.append_left
        exact List.perm_append_comm.trans (by simp)
    · split
      · simp
      · simp only [List.append_assoc]
        apply List.Perm.append_left
        apply List.Perm.append_left
        exact List.perm_append_comm

theorem listedScopes_foldl (oldScopes newScopes : ScopeSet) (l : List PermissionScope)
    (delta : PolicyDelta) :
    (listedScopes (l.foldl (classifyScope oldScopes newScopes) delta)).Perm
      (listedScopes delta ++ l.filter (Differs oldScopes newScopes)) := by
  induction l generalizing delta with
  | nil => simp
  | cons scope l ih =>
    rw [List.foldl_cons]
    calc listedScopes (l.foldl (classifyScope oldScopes newScopes)
          (classifyScope oldScopes newScopes delta scope))
        |>.Perm (listedScopes (classifyScope oldScopes newScopes delta scope) ++
          l.filter (Differs oldScopes newScopes)) := ih _
      _ |>.Perm ((listedScopes delta ++
          if Differs oldScopes newScopes scope then [scope] else []) ++
          l.filter (Differs oldScopes newScopes)) :=
        (listedScopes_classifyScope oldScopes newScopes delta scope).append_right _
      _ |>.Perm (listedScopes delta ++
          (scope :: l).filter (Differs oldScopes newScopes)) := by
        by_cases hDiffers : Differs oldScopes newScopes scope
        · simp [hDiffers]
        · simp [hDiffers]

/-- A scope that is allowed on one side is mentioned. -/
theorem mem_allScopes_of_differs {oldScopes newScopes : ScopeSet} {scope : PermissionScope}
    (h : Differs oldScopes newScopes scope) : scope ∈ allScopes oldScopes newScopes := by
  unfold Differs at h
  rw [mem_resolveScopeSet, mem_resolveScopeSet] at h
  have hMentioned : scope ∈ oldScopes.allow ∨ scope ∈ newScopes.allow := by
    by_contra hNeither
    rw [not_or] at hNeither
    simp [hNeither.1, hNeither.2] at h
  rcases hMentioned with hOld | hNew
  · simp [allScopes, hOld]
  · simp [allScopes, hNew]

/-- The delta lists exactly the scopes allowed on one side only, and none twice. -/
theorem listedScopes_scopeDelta (oldScopes newScopes : ScopeSet) :
    (listedScopes (scopeDelta oldScopes newScopes)).Nodup ∧
      ∀ scope, scope ∈ listedScopes (scopeDelta oldScopes newScopes) ↔
        Differs oldScopes newScopes scope := by
  have hPerm : (listedScopes (scopeDelta oldScopes newScopes)).Perm
      ((allScopes oldScopes newScopes).items.filter (Differs oldScopes newScopes)) := by
    unfold scopeDelta
    exact listedScopes_foldl oldScopes newScopes (allScopes oldScopes newScopes).items ⟨[], [], []⟩
  constructor
  · rw [hPerm.nodup_iff]
    exact (allScopes oldScopes newScopes).nodup.filter _
  · intro scope
    rw [hPerm.mem_iff, List.mem_filter, decide_eq_true_eq]
    constructor
    · exact fun h => h.2
    · exact fun h => ⟨OrderedSet.mem_def.mp (mem_allScopes_of_differs h), h⟩

theorem isMaterial_iff_listed (oldScopes newScopes : ScopeSet) :
    (checkMateriality oldScopes newScopes).isMaterial = true ↔
      ∃ scope, scope ∈ listedScopes (scopeDelta oldScopes newScopes) := by
  have hNonempty : (∃ scope, scope ∈ listedScopes (scopeDelta oldScopes newScopes)) ↔
      listedScopes (scopeDelta oldScopes newScopes) ≠ [] := by
    rw [ne_eq, List.eq_nil_iff_forall_not_mem, not_forall]
    simp only [not_not]
  rw [hNonempty]
  simp only [checkMateriality, listedScopes, Bool.or_eq_true, decide_eq_true_eq, gt_iff_lt,
    List.length_pos_iff, ne_eq, List.append_eq_nil_iff, List.map_eq_nil_iff, not_and_or]

/-- **The materiality check is exact.**  The three lists of its delta hold the scopes that are
effectively allowed on one side only, each in one of them and once; the change is material when
there is such a scope, and needs reauthorization when one is allowed on the new side. -/
theorem checkMateriality_exact (oldScopes newScopes : ScopeSet) :
    let check := checkMateriality oldScopes newScopes
    (∀ scope, (scope ∈ check.delta.added ∨ scope ∈ check.delta.removed ∨
        ∃ change ∈ check.delta.changed, change.scope = scope) ↔
      ¬ (scope ∈ resolveScopeSet oldScopes ↔ scope ∈ resolveScopeSet newScopes)) ∧
    (∀ scope, ¬ (scope ∈ resolveScopeSet oldScopes ↔ scope ∈ resolveScopeSet newScopes) →
      check.delta.added.count scope + check.delta.removed.count scope +
        (check.delta.changed.map (·.scope)).count scope = 1) ∧
    (check.isMaterial = true ↔
      ¬ ∀ scope, scope ∈ resolveScopeSet oldScopes ↔ scope ∈ resolveScopeSet newScopes) ∧
    (check.requiresReauthorization = true ↔
      ¬ ∀ scope ∈ resolveScopeSet newScopes, scope ∈ resolveScopeSet oldScopes) := by
  obtain ⟨hNodup, hListed⟩ := listedScopes_scopeDelta oldScopes newScopes
  constructor
  · intro scope
    show _ ↔ Differs oldScopes newScopes scope
    rw [← hListed scope]
    simp [listedScopes, checkMateriality, or_assoc]
  constructor
  · intro scope hDiffers
    have hMem := (hListed scope).mpr hDiffers
    have hOnce := List.count_eq_one_of_mem hNodup hMem
    unfold listedScopes at hOnce
    rw [List.count_append, List.count_append] at hOnce
    exact hOnce
  constructor
  · rw [isMaterial_iff_listed, not_forall]
    exact exists_congr fun scope => hListed scope
  · rw [requiresReauthorization_iff]
    push Not
    rfl

end Sessions
end Signet
