import Signet.Schemas.Seal

/-!
# The delta between two seal payloads

Six passes over the permission sets of two payloads, in the order the loops run:
a scope is sorted by the side it was listed on and the side it is listed on now.
-/

namespace Signet
namespace Seals

open Kit Schemas

/-- Computes the delta between two seal payloads by comparing their permission
scope sets. -/
def computePayloadDelta (previous next : SealPayload) : SealDelta :=
  let prevAllow := OrderedSet.ofList previous.permissions.allow
  let nextAllow := OrderedSet.ofList next.permissions.allow
  let prevDeny := OrderedSet.ofList previous.permissions.deny
  let nextDeny := OrderedSet.ofList next.permissions.deny
  -- scopes newly allowed
  let newlyAllowed := nextAllow.items.filter fun scope => scope ∉ prevAllow
  -- scopes removed from allow
  let noLongerAllowed := prevAllow.items.filter fun scope => scope ∉ nextAllow
  -- scopes that stay listed in allow but toggle deny state
  let stillAllowed := fun scope => scope ∈ prevAllow ∧ scope ∈ nextAllow
  let toggledDeny := nextDeny.items.filter fun scope => scope ∉ prevDeny ∧ stillAllowed scope
  let toggledAllow := prevDeny.items.filter fun scope => scope ∉ nextDeny ∧ stillAllowed scope
  -- scopes newly denied that were not in the previous allow
  let newlyDenied := nextDeny.items.filter fun scope => scope ∉ prevDeny ∧ scope ∉ prevAllow
  -- scopes removed from deny that are not in the next allow
  let noLongerDenied := prevDeny.items.filter fun scope => scope ∉ nextDeny ∧ scope ∉ nextAllow
  { added := newlyAllowed.filter (fun scope => scope ∉ prevDeny) ++ noLongerDenied
    removed := noLongerAllowed.filter (fun scope => scope ∉ nextDeny) ++ newlyDenied
    changed :=
      (newlyAllowed.filter fun scope => scope ∈ prevDeny).map (⟨·, .deny, .allow⟩)
        ++ (noLongerAllowed.filter fun scope => scope ∈ nextDeny).map (⟨·, .allow, .deny⟩)
        ++ toggledDeny.map (⟨·, .allow, .deny⟩)
        ++ toggledAllow.map (⟨·, .deny, .allow⟩) }

/-! ## No scope is listed twice -/

variable (previous next : SealPayload)

theorem nodup_added : (computePayloadDelta previous next).added.Nodup := by
  unfold computePayloadDelta
  rw [List.nodup_append]
  refine ⟨((OrderedSet.nodup _).filter _).filter _, (OrderedSet.nodup _).filter _, ?_⟩
  intro scope hAllowed scope' hDenied hEq
  subst hEq
  -- a scope denied no longer is not in the next allow
  simp only [List.mem_filter, decide_eq_true_eq, ← OrderedSet.mem_def] at hAllowed hDenied
  exact hDenied.2.2 hAllowed.1.1

theorem nodup_removed : (computePayloadDelta previous next).removed.Nodup := by
  unfold computePayloadDelta
  rw [List.nodup_append]
  refine ⟨((OrderedSet.nodup _).filter _).filter _, (OrderedSet.nodup _).filter _, ?_⟩
  intro scope hAllowed scope' hDenied hEq
  subst hEq
  -- a scope newly denied was not in the previous allow
  simp only [List.mem_filter, decide_eq_true_eq, ← OrderedSet.mem_def] at hAllowed hDenied
  exact hDenied.2.2 hAllowed.1.1

/-- The four kinds of change exclude each other. -/
theorem nodup_changed :
    ((computePayloadDelta previous next).changed.map ScopeChange.scope).Nodup := by
  unfold computePayloadDelta
  simp only [List.map_append, List.map_map, Function.comp_def, List.map_id']
  -- a newly allowed scope was not allowed, a toggled one was and still is
  refine List.nodup_append.mpr ⟨List.nodup_append.mpr ⟨List.nodup_append.mpr ⟨?_, ?_, ?_⟩,
    ?_, ?_⟩, ?_, ?_⟩
  · exact ((OrderedSet.nodup _).filter _).filter _
  · exact ((OrderedSet.nodup _).filter _).filter _
  · intro scope hAllowed scope' hRemoved hEq
    simp only [List.mem_filter, decide_eq_true_eq, ← OrderedSet.mem_def] at hAllowed hRemoved
    exact hAllowed.1.2 (hEq ▸ hRemoved.1.1)
  · exact (OrderedSet.nodup _).filter _
  · intro scope hMoved scope' hToggled hEq
    subst hEq
    simp only [List.mem_append, List.mem_filter, decide_eq_true_eq, ← OrderedSet.mem_def]
      at hMoved hToggled
    obtain ⟨-, -, hPrevious, hNext⟩ := hToggled
    rcases hMoved with hMoved | hMoved
    · exact hMoved.1.2 hPrevious
    · exact hMoved.1.2 hNext
  · exact (OrderedSet.nodup _).filter _
  · intro scope hMoved scope' hToggled hEq
    subst hEq
    simp only [List.mem_append, List.mem_filter, decide_eq_true_eq, ← OrderedSet.mem_def]
      at hMoved hToggled
    obtain ⟨hDenied, -, hPrevious, hNext⟩ := hToggled
    rcases hMoved with (hMoved | hMoved) | hMoved
    · exact hMoved.1.2 hPrevious
    · exact hMoved.1.2 hNext
    · exact hMoved.2.1 hDenied

end Seals
end Signet
