import Signet.Keys.OperationalCalls

/-!
# The operational key of a group

The key manager keeps its operational keys by identity, and beside them the identity of each
group.  A record is put into both maps at once; the index keeps the entry of a group that the
identity was in before.

* `getOperationalKeyByGroupId` — the lookup through the index.
* `GroupLookupConsistent` — what it finds is of the group, and it finds a key where there is one.
* `staysInGroup` — a record leaves its identity in the group under which the index has it.
* `group_lookup_iff` — the lookup is consistent all along a run exactly when all records do.
-/

namespace Signet
namespace Keys

open Kit Machine Schemas

/-! ## The lookup -/

namespace OperationalKeys

/-- `getOperationalKeyByGroupId` -/
def getOperationalKeyByGroupId (keys : OperationalKeys) (groupId : String) :
    Except SignetError OperationalKey :=
  match keys.groupIdIndex.get groupId with
  | none => .error (NotFoundError.create "operational-key" groupId)
  | some identityId => keys.getOperationalKey identityId

end OperationalKeys

/-- The lookup finds only keys of the group, and one where there is one. -/
structure GroupLookupConsistent (keys : OperationalKeys) : Prop where
  ofGroup : ∀ groupId key, keys.getOperationalKeyByGroupId groupId = .ok key →
    key.groupId = some groupId
  found : ∀ groupId identityId entry, keys.opKeys.get identityId = some entry →
    entry.key.groupId = some groupId → ∃ key, keys.getOperationalKeyByGroupId groupId = .ok key

/-- A record that is written is of every group under which the index has its identity. -/
def staysInGroup {host : VerifyingHost} (s : OperationalState) (event : OperationalEvent host) :
    Bool :=
  match recordOf s event with
  | none => true
  | some (identityId, groupId, _, _) =>
    s.keys.groupIdIndex.entries.all fun indexed =>
      indexed.2 ≠ identityId || groupId = some indexed.1

theorem staysInGroup_of_none {host : VerifyingHost} {s : OperationalState}
    {event : OperationalEvent host} (h : recordOf s event = none) :
    staysInGroup s event = true := by
  unfold staysInGroup
  rw [h]

theorem staysInGroup_iff {host : VerifyingHost} {s : OperationalState}
    {event : OperationalEvent host} {identityId : String} {groupId : Option String}
    {pair : SigningPair host} {now : String}
    (h : recordOf s event = some (identityId, groupId, pair, now)) :
    staysInGroup s event = true ↔
      ∀ indexed, s.keys.groupIdIndex.get indexed = some identityId → groupId = some indexed := by
  unfold staysInGroup
  rw [h]
  simp only [List.all_eq_true, Prod.forall, Bool.or_eq_true, decide_eq_true_eq,
    ← AssocMap.get_eq_some_iff, ne_eq, ← imp_iff_not_or]
  constructor
  · intro hAll indexed hIndex
    exact hAll indexed identityId hIndex rfl
  · rintro hAll indexed _ hIndex rfl
    exact hAll indexed hIndex

/-! ## The index -/

structure Indexed (keys : OperationalKeys) : Prop where
  target : ∀ groupId identityId, keys.groupIdIndex.get groupId = some identityId →
    ∃ entry, keys.opKeys.get identityId = some entry
  source : ∀ identityId entry groupId, keys.opKeys.get identityId = some entry →
    entry.key.groupId = some groupId →
      ∃ holder, keys.groupIdIndex.get groupId = some holder

section

variable {keys : OperationalKeys} {groupId : String} {key : OperationalKey}

theorem getOperationalKeyByGroupId_eq_ok_iff :
    keys.getOperationalKeyByGroupId groupId = .ok key ↔
      ∃ identityId entry, keys.groupIdIndex.get groupId = some identityId ∧
        keys.opKeys.get identityId = some entry ∧ entry.key = key := by
  unfold OperationalKeys.getOperationalKeyByGroupId OperationalKeys.getOperationalKey
  constructor
  · intro h
    split at h
    · cases h
    · next identityId hIndex =>
      split at h
      · cases h
      · next entry hEntry =>
        cases h
        exact ⟨identityId, entry, hIndex, hEntry, rfl⟩
  · rintro ⟨identityId, entry, hIndex, hEntry, rfl⟩
    rw [hIndex]
    simp only [hEntry]

theorem Indexed.consistent_iff (h : Indexed keys) :
    GroupLookupConsistent keys ↔
      ∀ groupId identityId entry, keys.groupIdIndex.get groupId = some identityId →
        keys.opKeys.get identityId = some entry → entry.key.groupId = some groupId := by
  constructor
  · intro hConsistent groupId identityId entry hIndex hEntry
    exact hConsistent.ofGroup groupId entry.key
      (getOperationalKeyByGroupId_eq_ok_iff.mpr ⟨identityId, entry, hIndex, hEntry, rfl⟩)
  · intro hOf
    refine ⟨?_, ?_⟩
    · intro groupId key hKey
      obtain ⟨identityId, entry, hIndex, hEntry, rfl⟩ :=
        getOperationalKeyByGroupId_eq_ok_iff.mp hKey
      exact hOf groupId identityId entry hIndex hEntry
    · intro groupId identityId entry hEntry hGroup
      obtain ⟨holder, hIndex⟩ := h.source identityId entry groupId hEntry hGroup
      obtain ⟨held, hHeld⟩ := h.target groupId holder hIndex
      exact ⟨held.key,
        getOperationalKeyByGroupId_eq_ok_iff.mpr ⟨holder, held, hIndex, hHeld, rfl⟩⟩

end

/-! ## One record -/

section

variable (keys : OperationalKeys) (identityId : String) (groupId : Option String) (pair : KeyPair)
  (now : String) {entry : OperationalKeyEntry}

abbrev recorded : OperationalKeys :=
  (keys.createOperationalKeyRecord identityId groupId (.ok pair) now).1

theorem get_recorded_cases {other : String}
    (h : (recorded keys identityId groupId pair now).opKeys.get other = some entry) :
    (other = identityId ∧ entry.key.groupId = groupId) ∨
      (other ≠ identityId ∧ keys.opKeys.get other = some entry) := by
  rcases AssocMap.get_set_cases h with ⟨rfl, rfl⟩ | ⟨hOther, hEntry⟩
  · exact Or.inl ⟨rfl, rfl⟩
  · exact Or.inr ⟨hOther, hEntry⟩

theorem get_recorded_of_get {other : String} (h : keys.opKeys.get other = some entry) :
    ∃ entry', (recorded keys identityId groupId pair now).opKeys.get other = some entry' := by
  show ∃ entry', (keys.opKeys.set _ _).get other = some entry'
  rw [AssocMap.get_set]
  split
  · exact ⟨_, rfl⟩
  · exact ⟨entry, h⟩

theorem get_recorded_self :
    ∃ entry, (recorded keys identityId groupId pair now).opKeys.get identityId = some entry ∧
      entry.key.groupId = groupId :=
  ⟨_, AssocMap.get_set_self _ _ _, rfl⟩

theorem index_recorded (group : String) :
    (recorded keys identityId groupId pair now).groupIdIndex.get group =
      if groupId = some group then some identityId else keys.groupIdIndex.get group := by
  cases groupId with
  | none => rfl
  | some own =>
    show (keys.groupIdIndex.set own identityId).get group = _
    rw [AssocMap.get_set]
    by_cases hOwn : group = own
    · rw [if_pos hOwn, if_pos (congrArg some hOwn.symm)]
    · rw [if_neg hOwn, if_neg (fun hEq => hOwn (Option.some.inj hEq).symm)]

variable {keys}

theorem Indexed.record (h : Indexed keys) :
    Indexed (recorded keys identityId groupId pair now) where
  target := by
    intro group holder hIndex
    rw [index_recorded] at hIndex
    split at hIndex
    · cases hIndex
      obtain ⟨entry, hEntry, -⟩ := get_recorded_self keys identityId groupId pair now
      exact ⟨entry, hEntry⟩
    · obtain ⟨entry, hEntry⟩ := h.target group holder hIndex
      exact get_recorded_of_get keys identityId groupId pair now hEntry
  source := by
    intro other entry group hEntry hGroup
    rw [index_recorded]
    rcases get_recorded_cases keys identityId groupId pair now hEntry with
      ⟨-, rfl⟩ | ⟨-, hOld⟩
    · rw [if_pos hGroup]
      exact ⟨identityId, rfl⟩
    · split
      · exact ⟨identityId, rfl⟩
      · exact h.source other entry group hOld hGroup

/-- **One record.**  It keeps the lookup consistent exactly when the index has its identity
under no other group. -/
theorem consistent_record_iff (hIndexed : Indexed keys) (hBefore : GroupLookupConsistent keys) :
    GroupLookupConsistent (recorded keys identityId groupId pair now) ↔
      ∀ indexed, keys.groupIdIndex.get indexed = some identityId → groupId = some indexed := by
  rw [(hIndexed.record identityId groupId pair now).consistent_iff]
  rw [hIndexed.consistent_iff] at hBefore
  constructor
  · intro hAfter indexed hIndex
    obtain ⟨entry, hEntry, hGroup⟩ := get_recorded_self keys identityId groupId pair now
    rw [← hGroup]
    refine hAfter indexed identityId entry ?_ hEntry
    rw [index_recorded, hIndex, ite_self]
  · intro hStays group holder entry hIndex hEntry
    rw [index_recorded] at hIndex
    rcases get_recorded_cases keys identityId groupId pair now hEntry with
      ⟨rfl, rfl⟩ | ⟨hOther, hOld⟩
    · split at hIndex
      · next hOwn => exact hOwn
      · exact hStays group hIndex
    · split at hIndex
      · exact absurd (Option.some.inj hIndex).symm hOther
      · exact hBefore group holder entry hIndex hOld

end

/-! ## Runs -/

section

variable {host : VerifyingHost} {rotationIntervalSeconds : Int}

theorem indexed_run {h : List (OperationalOccurrence host)} {s : OperationalState}
    (hRun : (operationalMachine host rotationIntervalSeconds).Runs h s) : Indexed s.keys := by
  apply hRun.state_invariant
  · constructor
    · intro groupId identityId hIndex
      cases hIndex
    · intro identityId entry groupId hEntry
      cases hEntry
  · intro s event s' out hIndexed hStep
    rcases keys_of_step hStep with ⟨-, hKeys⟩ | ⟨identityId, groupId, pair, now, -, hKeys⟩
    · rw [hKeys]
      exact hIndexed
    · rw [hKeys]
      exact hIndexed.record identityId groupId pair.toKeyPair now

/-- **Group lookup.**  In every run of creations, rotations and the automatic rotation the lookup
by group is consistent in every state exactly when no record moves its identity out of a group
under which the index has it. -/
theorem group_lookup_iff {h : List (OperationalOccurrence host)} {s : OperationalState}
    (hRun : (operationalMachine host rotationIntervalSeconds).Runs h s) :
    (∀ t ∈ visited h s, GroupLookupConsistent t.keys) ↔
      AllMeet (fun s event => staysInGroup s event = true) h := by
  apply hRun.forall_visited_iff
  · refine ⟨?_, ?_⟩
    · intro groupId key hKey
      cases hKey
    · intro groupId identityId entry hEntry
      cases hEntry
  · intro h s event s' out hRuns hBefore hStep
    rcases keys_of_step hStep with
      ⟨hNone, hKeys⟩ | ⟨identityId, groupId, pair, now, hRecord, hKeys⟩
    · rw [hKeys]
      exact iff_of_true hBefore (staysInGroup_of_none hNone)
    · rw [hKeys, staysInGroup_iff hRecord]
      exact consistent_record_iff identityId groupId pair.toKeyPair now (indexed_run hRuns) hBefore

end

/-! ## Runs on fixed inputs -/

/-- A host whose signature is the private key, which is the public one. -/
def plainSigner : VerifyingHost :=
  { oneSignatureHost with
    subtleSign := fun privateKey _ => .ok privateKey
    subtleVerify := fun publicKey _ signature => publicKey == signature }

def plainPair (byte : UInt8) : SigningPair plainSigner where
  publicKey := [byte]
  privateKey := [byte]
  fingerprint := "00"
  verifies := by
    intro data signature hSign
    cases hSign
    exact beq_self_eq_true [byte]

/-- A key is made for an identity in a group, and rotated by the timer. -/
def rotatedOnce : List (OperationalEvent plainSigner) :=
  [.createOperationalKey 0 "agent" (some "g"), .gate 0 (.ok ()),
    .generated 0 (.ok (plainPair 1)) "",
    .startAutoRotation, .tick 1, .gate 1 (.ok ()), .generated 1 (.ok (plainPair 2)) "", .next 1]

theorem rotatedOnce_consistent :
    ∃ h s, h.map Occurrence.label = rotatedOnce ∧
      (operationalMachine plainSigner 60).Runs h s ∧
        ∀ t ∈ visited h s, GroupLookupConsistent t.keys := by
  have hExecutes : (operationalMachine plainSigner 60).Executes rotatedOnce fun h _ =>
      AllMeet (fun s event => staysInGroup s event = true) h := by
    decide
  obtain ⟨h, s, hLabels, hRun, hMeet⟩ := hExecutes.exists_run
  exact ⟨h, s, hLabels, hRun, (group_lookup_iff hRun).mpr hMeet⟩

/-- A key is made for an identity in a group, and then one for it in another. -/
def movedIdentity : List (OperationalEvent plainSigner) :=
  [.createOperationalKey 0 "agent" (some "g"), .gate 0 (.ok ()),
    .generated 0 (.ok (plainPair 1)) "",
    .createOperationalKey 1 "agent" (some "other"), .gate 1 (.ok ()),
    .generated 1 (.ok (plainPair 2)) ""]

/-- The lookup by the first group finds the key of the second. -/
theorem movedIdentity_inconsistent :
    ∃ h s, h.map Occurrence.label = movedIdentity ∧
      (operationalMachine plainSigner 0).Runs h s ∧ ¬GroupLookupConsistent s.keys := by
  have hExecutes : (operationalMachine plainSigner 0).Executes movedIdentity fun _ s =>
      (s.keys.getOperationalKeyByGroupId "g").toOption.map OperationalKey.groupId =
        some (some "other") := by
    decide
  obtain ⟨h, s, hLabels, hRun, hFound⟩ := hExecutes.exists_run
  refine ⟨h, s, hLabels, hRun, ?_⟩
  intro hConsistent
  cases hKey : s.keys.getOperationalKeyByGroupId "g" with
  | error error =>
    rw [hKey] at hFound
    cases hFound
  | ok key =>
    rw [hKey] at hFound
    have hOther : key.groupId = some "other" := Option.some.inj hFound
    rw [hConsistent.ofGroup "g" key hKey] at hOther
    exact absurd hOther (by decide)

end Keys
end Signet
