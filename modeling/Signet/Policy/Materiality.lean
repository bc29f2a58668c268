import Signet.Schemas.PermissionScopes

/-!
# Materiality of policy deltas

A change is material if any scope was added, removed or flipped, and needs a
reauthorization if privileges expand: a newly added scope, or a flip to allow.
-/

namespace Signet
namespace Policy

open Schemas

/-- Reauthorization is only required when privileges expand: newly added scopes
or deny-to-allow flips. -/
def isSingleDeltaEscalation (delta : PolicyDelta) : Bool :=
  decide (delta.added.length > 0)
    || delta.changed.any fun change => decide (change.toSide = .allow)

/-- Whether any delta in a set of policy changes requires credential
reauthorization. -/
def requiresReauthorization (deltas : List PolicyDelta) : Bool :=
  deltas.any isSingleDeltaEscalation

theorem isSingleDeltaEscalation_iff (delta : PolicyDelta) :
    isSingleDeltaEscalation delta = true ↔
      ∃ scope, scope ∈ delta.added ∨
        ∃ change ∈ delta.changed, change.scope = scope ∧ change.toSide = .allow := by
  unfold isSingleDeltaEscalation
  simp only [gt_iff_lt, Bool.or_eq_true, decide_eq_true_eq, List.any_eq_true]
  constructor
  · rintro (hAdded | ⟨change, hMem, hAllow⟩)
    · obtain ⟨scope, hScope⟩ := List.exists_mem_of_length_pos hAdded
      exact ⟨scope, .inl hScope⟩
    · exact ⟨change.scope, .inr ⟨change, hMem, rfl, hAllow⟩⟩
  · rintro ⟨scope, hScope | ⟨change, hMem, -, hAllow⟩⟩
    · exact .inl (List.length_pos_of_mem hScope)
    · exact .inr ⟨change, hMem, hAllow⟩

end Policy
end Signet
