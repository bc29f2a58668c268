import Signet.Seals.ChainValidator

/-!
# The comparison of deltas, element by element

`packages/seals/src/chain-validator.ts` sorts both lists of a pair and walks the first, looking up
each place in the second.  Scopes are sorted by the order of their names.  Changes are sorted with
a comparator that answers `1` for two changes of one scope, whichever comes first, so for a list
that holds such a pair the language fixes no order at all.  What it does fix is that sorting
rearranges, and that a list whose scopes are distinct comes out in their order.  No more than that
is used here: the recomputed delta has no scope twice among its changes, and a stored one that has
is no rearrangement of it.
-/

namespace Signet
namespace Seals

open Kit Schemas

/-- What sorting changes with `(x, y) => (x.scope < y.scope ? -1 : 1)` is known to do. -/
structure SortsByScope (sort : List ScopeChange → List ScopeChange) : Prop where
  /-- It moves elements and makes none. -/
  perm : ∀ changes, (sort changes).Perm changes
  /-- On distinct scopes the comparator is an order. -/
  ascending : ∀ changes, (changes.map ScopeChange.scope).Nodup →
    (sort changes).Pairwise fun x y => x.scope.value < y.scope.value

/-- `a.some((v, i) => v !== b[i])` -/
def someDiffers (a b : List PermissionScope) : Bool :=
  a.zipIdx.any fun (v, i) => decide (b[i]? ≠ some v)

/-- Each change of the first list stands at its place in the second. -/
def everyMatches (a b : List ScopeChange) : Bool :=
  a.zipIdx.all fun (v, i) =>
    match b[i]? with
    | none => false
    | some other =>
      v.scope == other.scope && v.fromSide == other.fromSide && v.toSide == other.toSide

def deltaEqualsBy (sort : List ScopeChange → List ScopeChange) (a b : SealDelta) : Bool :=
  if a.added.length ≠ b.added.length then false
  else if a.removed.length ≠ b.removed.length then false
  else if a.changed.length ≠ b.changed.length then false
  else if someDiffers (sortScopes a.added) (sortScopes b.added) then false
  else if someDiffers (sortScopes a.removed) (sortScopes b.removed) then false
  else everyMatches (sort a.changed) (sort b.changed)

/-- Verifies that a chain's stored delta matches the actual difference between the current and
previous payloads. -/
def verifyChainDeltaBy (sort : List ScopeChange → List ScopeChange) (chain : SealChain) :
    Except SignetError Unit :=
  if deltaEqualsBy sort (expectedDelta chain.current chain.previous) chain.delta then .ok ()
  else .error (ValidationError.create "chain"
    "Delta mismatch: stored delta does not match recomputed delta")

/-! ## Walking two lists of one length -/

/-- Lists of one length are equal when each element of the first stands at its place in the
second. -/
theorem eq_of_zipIdx {α : Type*} {l l' : List α} (hLength : l.length = l'.length)
    (h : ∀ v i, (v, i) ∈ l.zipIdx → l'[i]? = some v) : l = l' := by
  apply List.ext_getElem?
  intro i
  by_cases hi : i < l.length
  · have hMem : (l[i], i) ∈ l.zipIdx := by
      rw [List.mem_zipIdx_iff_getElem?]
      exact List.getElem?_eq_getElem hi
    rw [h l[i] i hMem, List.getElem?_eq_getElem hi]
  · rw [List.getElem?_eq_none (by omega), List.getElem?_eq_none (by omega)]

theorem someDiffers_eq_false_iff {a b : List PermissionScope} (hLength : a.length = b.length) :
    someDiffers a b = false ↔ a = b := by
  unfold someDiffers
  rw [List.any_eq_false]
  constructor
  · intro h
    apply eq_of_zipIdx hLength
    intro v i hMem
    simpa using h (v, i) hMem
  · rintro rfl ⟨v, i⟩ hMem
    simpa using List.mem_zipIdx_iff_getElem?.mp hMem

theorem everyMatches_iff {a b : List ScopeChange} (hLength : a.length = b.length) :
    everyMatches a b = true ↔ a = b := by
  unfold everyMatches
  rw [List.all_eq_true]
  constructor
  · intro h
    apply eq_of_zipIdx hLength
    intro v i hMem
    have hPlace := h (v, i) hMem
    dsimp only at hPlace
    split at hPlace
    · cases hPlace
    · next other hOther =>
      simp only [Bool.and_eq_true, beq_iff_eq] at hPlace
      obtain ⟨⟨hScope, hFrom⟩, hTo⟩ := hPlace
      have hSame : v = other := by
        cases v
        cases other
        simp_all
      rw [hOther, hSame]
  · rintro rfl ⟨v, i⟩ hMem
    have hPlace := List.mem_zipIdx_iff_getElem?.mp hMem
    simp [hPlace]

/-! ## The sorts -/

/-- The stable sort of the validator's model is one such sort. -/
theorem sortsByScope_sortChanges : SortsByScope sortChanges := by
  constructor
  · intro changes
    exact sortByKey_perm (fun change : ScopeChange => change.scope.value) changes
  · intro changes hNodup
    have hAscending := pairwise_sortByKey (fun change : ScopeChange => change.scope.value) changes
    have hDistinct : (sortChanges changes).Pairwise fun x y => x.scope ≠ y.scope := by
      have hPerm : (sortChanges changes).Perm changes :=
        sortByKey_perm (fun change : ScopeChange => change.scope.value) changes
      exact List.pairwise_map.mp ((hPerm.map ScopeChange.scope).nodup_iff.mpr hNodup)
    apply hAscending.imp₂ ?_ hDistinct
    intro x y hLe hNe
    exact lt_of_le_of_ne hLe fun hEq => hNe (PermissionScope.value_injective hEq)

variable {sort : List ScopeChange → List ScopeChange}

/-- Where one of the lists has distinct scopes, the sorted lists are equal when one is a
rearrangement of the other. -/
theorem SortsByScope.eq_iff_perm (hSort : SortsByScope sort) {changes changes' : List ScopeChange}
    (hNodup : (changes.map ScopeChange.scope).Nodup) :
    sort changes = sort changes' ↔ changes.Perm changes' := by
  constructor
  · intro hEq
    have hBack := hSort.perm changes'
    rw [← hEq] at hBack
    exact (hSort.perm changes).symm.trans hBack
  · intro hPerm
    have hNodup' : (changes'.map ScopeChange.scope).Nodup :=
      (hPerm.map ScopeChange.scope).nodup_iff.mp hNodup
    have hSorted : (sort changes).Perm (sort changes') :=
      (hSort.perm changes).trans (hPerm.trans (hSort.perm changes').symm)
    apply hSorted.eq_of_pairwise ?_ (hSort.ascending changes hNodup)
      (hSort.ascending changes' hNodup')
    -- no two elements lie below each other
    intro x y _ _ hLt hGt
    exact absurd hLt (lt_asymm hGt)

/-! ## Verification -/

/-- Against a delta without repeated scopes, the comparison accepts its rearrangements. -/
theorem deltaEqualsBy_iff (hSort : SortsByScope sort) {a b : SealDelta} (h : Distinct a) :
    deltaEqualsBy sort a b = true ↔ SameDelta a b := by
  unfold deltaEqualsBy
  by_cases hAdded : a.added.length = b.added.length
  · by_cases hRemoved : a.removed.length = b.removed.length
    · by_cases hChanged : a.changed.length = b.changed.length
      · have hSortedAdded : (sortScopes a.added).length = (sortScopes b.added).length := by
          simpa [sortScopes] using hAdded
        have hSortedRemoved : (sortScopes a.removed).length = (sortScopes b.removed).length := by
          simpa [sortScopes] using hRemoved
        have hSortedChanged : (sort a.changed).length = (sort b.changed).length := by
          rw [(hSort.perm _).length_eq, (hSort.perm _).length_eq, hChanged]
        rw [if_neg (not_not.mpr hAdded), if_neg (not_not.mpr hRemoved),
          if_neg (not_not.mpr hChanged)]
        constructor
        · intro hEquals
          split at hEquals
          · cases hEquals
          · next hSameAdded =>
            split at hEquals
            · cases hEquals
            · next hSameRemoved =>
              rw [Bool.not_eq_true, someDiffers_eq_false_iff hSortedAdded] at hSameAdded
              rw [Bool.not_eq_true, someDiffers_eq_false_iff hSortedRemoved] at hSameRemoved
              rw [everyMatches_iff hSortedChanged] at hEquals
              exact ⟨(sortScopes_eq_iff_perm h.added).mp hSameAdded,
                (sortScopes_eq_iff_perm h.removed).mp hSameRemoved,
                (hSort.eq_iff_perm h.changed).mp hEquals⟩
        · intro hSame
          have hNoneAdded := (someDiffers_eq_false_iff hSortedAdded).mpr
            ((sortScopes_eq_iff_perm h.added).mpr hSame.added)
          have hNoneRemoved := (someDiffers_eq_false_iff hSortedRemoved).mpr
            ((sortScopes_eq_iff_perm h.removed).mpr hSame.removed)
          rw [hNoneAdded, hNoneRemoved]
          exact (everyMatches_iff hSortedChanged).mpr
            ((hSort.eq_iff_perm h.changed).mpr hSame.changed)
      · simp only [hAdded, hRemoved, hChanged, ne_eq, not_true_eq_false, not_false_eq_true,
          if_true, if_false, Bool.false_eq_true, false_iff]
        exact fun hSame => hChanged hSame.changed.length_eq
    · simp only [hAdded, hRemoved, ne_eq, not_true_eq_false, not_false_eq_true, if_true,
        if_false, Bool.false_eq_true, false_iff]
      exact fun hSame => hRemoved hSame.removed.length_eq
  · simp only [hAdded, ne_eq, not_false_eq_true, if_true, Bool.false_eq_true, false_iff]
    exact fun hSame => hAdded hSame.added.length_eq

/-- **Delta verification is exact.**  However the sort treats changes of one scope, a chain is
accepted exactly when each stored list is a rearrangement of the recomputed one. -/
theorem verifyChainDelta_exact (sort : List ScopeChange → List ScopeChange)
    (hSort : SortsByScope sort) (chain : SealChain) :
    verifyChainDeltaBy sort chain = .ok () ↔
      let expected : SealDelta := match chain.previous with
        | some previous => computePayloadDelta previous chain.current
        | none => ⟨[], [], []⟩
      chain.delta.added.Perm expected.added ∧ chain.delta.removed.Perm expected.removed ∧
        chain.delta.changed.Perm expected.changed := by
  have hExpected : (match chain.previous with
      | some previous => computePayloadDelta previous chain.current
      | none => ⟨[], [], []⟩) = expectedDelta chain.current chain.previous := by
    unfold expectedDelta
    cases chain.previous with
    | none => rfl
    | some previous => rfl
  have hOk : verifyChainDeltaBy sort chain = .ok () ↔
      deltaEqualsBy sort (expectedDelta chain.current chain.previous) chain.delta = true := by
    unfold verifyChainDeltaBy
    split
    · next hEquals => simp [hEquals]
    · next hDiffers => simp [hDiffers]
  rw [hExpected, hOk,
    deltaEqualsBy_iff hSort (distinct_expectedDelta chain.current chain.previous)]
  constructor
  · intro hSame
    exact ⟨hSame.added.symm, hSame.removed.symm, hSame.changed.symm⟩
  · rintro ⟨hAdded, hRemoved, hChanged⟩
    exact ⟨hAdded.symm, hRemoved.symm, hChanged.symm⟩

def payloadAllowing (permissions : ScopeSet) : SealPayload :=
  { sealId := "seal_0123456789abcdef"
    credentialId := "cred_0123456789abcdef"
    operatorId := "op_0123456789abcdef"
    chatId := "conv_0123456789abcdef"
    scopeMode := .perChat
    permissions := permissions
    issuedAt := 0 }

/-- Two scopes change sides.  Stored in the other order they are accepted, and one of them stored
twice in the place of both is not. -/
theorem verifyChainDelta_exact_sample :
    let chainStoring (changed : List ScopeChange) : SealChain :=
      { current := payloadAllowing ⟨[.send], [.reply]⟩
        previous := some (payloadAllowing ⟨[.reply], [.send]⟩)
        delta := ⟨[], [], changed⟩ }
    verifyChainDeltaBy sortChanges
        (chainStoring [⟨.reply, .allow, .deny⟩, ⟨.send, .deny, .allow⟩]) = .ok () ∧
      verifyChainDeltaBy sortChanges
        (chainStoring [⟨.send, .deny, .allow⟩, ⟨.send, .deny, .allow⟩]) ≠ .ok () := by
  intro chainStoring
  constructor
  · exact (verifyChainDelta_exact sortChanges sortsByScope_sortChanges _).mpr (by decide)
  · intro hOk
    have hPerm := ((verifyChainDelta_exact sortChanges sortsByScope_sortChanges _).mp hOk).2.2
    exact absurd hPerm (by decide)

end Seals
end Signet
