import Signet.Core.SignetCore
import Signet.Kit.Rows
import Signet.Kit.Sorting

/-!
# The identity store and the mapping store

Two SQLite tables.  A row of the one is an identity with its optional inbox, group and
label; a row of the other pairs an id of the network with a local id.  The keys of the
tables are fields of the structures, so that two rows with one key cannot be built.

* `IdentityStore` — ids are a primary key, group ids are unique.
* `IdMappingStore` — both ids are unique, each in its own column.
* `getByGroupId_deleteRow`, `mem_remove` — what is left after a removal.
* `mapping_bijection` — the ids of the mapping store after any writes and removals.
-/

namespace Signet
namespace Core

open Kit Schemas

/-! ## Identities -/

structure IdentityRow where
  id : String
  inboxId : Option String
  groupId : Option String
  label : Option String
  createdAt : Int
deriving DecidableEq

/-- The table of identities. -/
structure IdentityStore where
  rows : List IdentityRow
  /-- Whether the unique index on inbox ids could be created. -/
  uniqueInboxIds : Bool
  ids_nodup : (rows.map IdentityRow.id).Nodup
  groupIds_nodup : (rows.filterMap IdentityRow.groupId).Nodup

namespace IdentityStore

variable {row : IdentityRow} {store : IdentityStore}

@[ext]
theorem ext {store' : IdentityStore} (hRows : store.rows = store'.rows)
    (hUnique : store.uniqueInboxIds = store'.uniqueInboxIds) : store = store' := by
  cases store
  cases store'
  simp_all

def getById (store : IdentityStore) (id : String) : Option IdentityRow :=
  rowWith IdentityRow.id store.rows id

def getByGroupId (store : IdentityStore) (groupId : String) : Option IdentityRow :=
  rowWith IdentityRow.groupId store.rows (some groupId)

/-- The identities, oldest first. -/
def list (store : IdentityStore) : List IdentityRow :=
  sortByKey IdentityRow.createdAt store.rows

/-- The unique index turns an inbox id down that another row has. -/
def takesInboxId (store : IdentityStore) (id inboxId : String) : Bool :=
  !store.uniqueInboxIds
    || store.rows.all fun row => decide (row.id = id ∨ row.inboxId ≠ some inboxId)

def writeInboxId (id inboxId : String) (row : IdentityRow) : IdentityRow :=
  if row.id = id then { row with inboxId := some inboxId } else row

theorem writeInboxId_id (id inboxId : String) (row : IdentityRow) :
    (writeInboxId id inboxId row).id = row.id := by
  unfold writeInboxId
  split <;> rfl

theorem writeInboxId_groupId (id inboxId : String) (row : IdentityRow) :
    (writeInboxId id inboxId row).groupId = row.groupId := by
  unfold writeInboxId
  split <;> rfl

/-- The update statement of `setInboxId`. -/
def updateInboxId (store : IdentityStore) (id inboxId : String) : IdentityStore where
  rows := store.rows.map (writeInboxId id inboxId)
  uniqueInboxIds := store.uniqueInboxIds
  ids_nodup := by
    have hIds : IdentityRow.id ∘ writeInboxId id inboxId = IdentityRow.id := by
      funext row
      exact writeInboxId_id id inboxId row
    rw [List.map_map, hIds]
    exact store.ids_nodup
  groupIds_nodup := by
    have hGroupIds : IdentityRow.groupId ∘ writeInboxId id inboxId = IdentityRow.groupId := by
      funext row
      exact writeInboxId_groupId id inboxId row
    rw [List.filterMap_map, hGroupIds]
    exact store.groupIds_nodup

/-- Update the inbox id after XMTP registration. -/
def setInboxId (store : IdentityStore) (id inboxId : String) :
    IdentityStore × Except SignetError Unit :=
  match store.getById id with
  | none => (store, .error (NotFoundError.create "identity" id))
  | some _ =>
    if store.takesInboxId id inboxId then (store.updateInboxId id inboxId, .ok ())
    else
      (store, .error (InternalError.create "Failed to persist inbox ID"
        (some [("identityId", .text id), ("inboxId", .text inboxId),
          ("cause", .text "UNIQUE constraint failed: identities.inbox_id")])))

/-- The delete statement of `remove`. -/
def deleteRow (store : IdentityStore) (id : String) : IdentityStore where
  rows := store.rows.filter fun row => row.id ≠ id
  uniqueInboxIds := store.uniqueInboxIds
  ids_nodup := store.ids_nodup.sublist (List.filter_sublist.map IdentityRow.id)
  groupIds_nodup :=
    store.groupIds_nodup.sublist (List.filter_sublist.filterMap IdentityRow.groupId)

def remove (store : IdentityStore) (id : String) : IdentityStore × Except SignetError Unit :=
  match store.getById id with
  | none => (store, .error (NotFoundError.create "identity" id))
  | some _ => (store.deleteRow id, .ok ())

/-! ### Reading after a write -/

theorem mem_list :
    row ∈ store.list ↔ row ∈ store.rows :=
  (sortByKey_perm IdentityRow.createdAt store.rows).mem_iff

theorem getById_of_mem (h : row ∈ store.rows) :
    store.getById row.id = some row :=
  rowWith_of_mem store.ids_nodup h

theorem mem_of_getByGroupId {groupId : String} (h : store.getByGroupId groupId = some row) :
    row ∈ store.rows ∧ row.groupId = some groupId :=
  rowWith_some h

theorem getByGroupId_eq_none {groupId : String} :
    store.getByGroupId groupId = none ↔ ∀ row ∈ store.rows, row.groupId ≠ some groupId :=
  rowWith_none

/-- An identity that a row names can be removed. -/
theorem remove_of_mem (h : row ∈ store.rows) :
    store.remove row.id = (store.deleteRow row.id, .ok ()) := by
  simp only [remove, getById_of_mem h]

/-- The inbox id of a row that has none is written, or turned down. -/
theorem setInboxId_of_mem (inboxId : String) (h : row ∈ store.rows) :
    (store.takesInboxId row.id inboxId = true ∧
        store.setInboxId row.id inboxId = (store.updateInboxId row.id inboxId, .ok ())) ∨
      store.takesInboxId row.id inboxId = false ∧
        ∃ error, store.setInboxId row.id inboxId = (store, .error error) := by
  cases hTakes : store.takesInboxId row.id inboxId with
  | true =>
    refine Or.inl ⟨rfl, ?_⟩
    simp only [setInboxId, getById_of_mem h, hTakes, if_true]
  | false =>
    refine Or.inr ⟨rfl, ?_⟩
    simp only [setInboxId, getById_of_mem h, hTakes]
    exact ⟨_, rfl⟩

end IdentityStore

/-! ## Mappings -/

/-- A row of the table of mappings. -/
structure IdMapping where
  networkId : String
  localId : String
deriving DecidableEq

/-- The table of mappings. -/
structure IdMappingStore where
  rows : List IdMapping
  networkIds_nodup : (rows.map IdMapping.networkId).Nodup
  localIds_nodup : (rows.map IdMapping.localId).Nodup

namespace IdMappingStore

def getLocal (store : IdMappingStore) (networkId : String) : Option String :=
  (rowWith IdMapping.networkId store.rows networkId).map IdMapping.localId

def getNetwork (store : IdMappingStore) (localId : String) : Option String :=
  (rowWith IdMapping.localId store.rows localId).map IdMapping.networkId

/-- By the id of the network first, and then by the local id. -/
def resolve (store : IdMappingStore) (id : String) : Option IdMapping :=
  match rowWith IdMapping.networkId store.rows id with
  | some byNetwork => some byNetwork
  | none => rowWith IdMapping.localId store.rows id

/-- The rows that pass a test. -/
def keep (store : IdMappingStore) (test : IdMapping → Bool) : IdMappingStore where
  rows := store.rows.filter test
  networkIds_nodup := store.networkIds_nodup.sublist (List.filter_sublist.map IdMapping.networkId)
  localIds_nodup := store.localIds_nodup.sublist (List.filter_sublist.map IdMapping.localId)

def remove (store : IdMappingStore) (id : String) : IdMappingStore × Option IdMapping :=
  match store.resolve id with
  | none => (store, none)
  | some mapping =>
    if mapping.networkId = id then (store.keep fun row => row.networkId ≠ id, some mapping)
    else (store.keep fun row => row.localId ≠ id, some mapping)

/-- The row has the id in one of its columns. -/
def Touches (id : String) (row : IdMapping) : Prop := row.networkId = id ∨ row.localId = id

variable {row : IdMapping} {store : IdMappingStore} {id : String} {networkId localId : String}
  {store' : IdMappingStore}

theorem mem_of_resolve (h : store.resolve id = some row) : row ∈ store.rows ∧ Touches id row := by
  unfold resolve at h
  split at h
  · next byNetwork hFound =>
    cases h
    obtain ⟨hMem, hNetwork⟩ := rowWith_some hFound
    exact ⟨hMem, Or.inl hNetwork⟩
  · obtain ⟨hMem, hLocal⟩ := rowWith_some h
    exact ⟨hMem, Or.inr hLocal⟩

theorem resolve_eq_none :
    store.resolve id = none ↔ ∀ row ∈ store.rows, ¬ Touches id row := by
  constructor
  · intro hNone row hRow hTouch
    unfold resolve at hNone
    split at hNone
    · cases hNone
    · next hNetwork =>
      rcases hTouch with hEq | hEq
      · exact rowWith_none.mp hNetwork row hRow hEq
      · exact rowWith_none.mp hNone row hRow hEq
  · intro hAll
    cases hResolve : store.resolve id with
    | none => rfl
    | some row =>
      obtain ⟨hMem, hTouch⟩ := mem_of_resolve hResolve
      exact absurd hTouch (hAll row hMem)

/-- What a removal takes by the local id of a row: the row of the network that has the
id, and else the row itself. -/
theorem mem_remove {other : IdMapping} (h : row ∈ store.rows) (hOther : other ∈ store.rows) :
    other ∈ (store.remove row.localId).1.rows ↔
      ¬ (other.networkId = row.localId ∨
        other = row ∧ ∀ row' ∈ store.rows, row'.networkId ≠ row.localId) := by
  unfold remove resolve
  cases hFound : rowWith IdMapping.networkId store.rows row.localId with
  | some byNetwork =>
    obtain ⟨hMem, hNetwork⟩ := rowWith_some hFound
    have hExists : ¬ ∀ row' ∈ store.rows, row'.networkId ≠ row.localId :=
      fun hAll => hAll byNetwork hMem hNetwork
    simp only [hNetwork, if_true, keep, List.mem_filter, hOther, true_and, hExists, and_false,
      or_false, decide_eq_true_eq, ne_eq]
  | none =>
    have hNone := rowWith_none.mp hFound
    have hRow : row.networkId ≠ row.localId := hNone row h
    have hEqual : other.localId = row.localId ↔ other = row := by
      constructor
      · exact eq_of_column store.localIds_nodup hOther h
      · rintro rfl
        rfl
    simp only [rowWith_of_mem store.localIds_nodup h, hRow, if_false, keep, List.mem_filter,
      hOther, true_and, hNone other hOther, false_or, decide_eq_true_eq, ne_eq, hEqual]
    constructor
    · intro hNe hBoth
      exact hNe hBoth.1
    · intro hNot hEq
      exact hNot ⟨hEq, hNone⟩

theorem mem_of_mem_remove (h : row ∈ (store.remove id).1.rows) : row ∈ store.rows := by
  unfold remove at h
  split at h
  · exact h
  · split at h
    · exact List.mem_of_mem_filter h
    · exact List.mem_of_mem_filter h

/-! ### Writing a mapping -/

/-- The row as the upsert leaves it: the row of the network id takes the local id. -/
def remap (networkId localId : String) (row : IdMapping) : IdMapping :=
  if row.networkId = networkId then ⟨networkId, localId⟩ else row

theorem remap_networkId (networkId localId : String) (row : IdMapping) :
    (remap networkId localId row).networkId = row.networkId := by
  unfold remap
  split
  · next hSame => exact hSame.symm
  · rfl

/-- The upsert of `set`.  A local id of another row makes it throw. -/
def set (store : IdMappingStore) (networkId localId : String) : Except String IdMappingStore :=
  if hFree : ∀ row ∈ store.rows, row.networkId ≠ networkId → row.localId ≠ localId then
    if hNew : ∀ row ∈ store.rows, row.networkId ≠ networkId then
      .ok
        { rows := store.rows ++ [⟨networkId, localId⟩]
          networkIds_nodup := by
            rw [List.map_append, List.nodup_append]
            refine ⟨store.networkIds_nodup, List.nodup_singleton _, ?_⟩
            rintro id hOld _ hMem rfl
            obtain ⟨row, hRow, rfl⟩ := List.mem_map.mp hOld
            exact hNew row hRow (List.mem_singleton.mp hMem)
          localIds_nodup := by
            rw [List.map_append, List.nodup_append]
            refine ⟨store.localIds_nodup, List.nodup_singleton _, ?_⟩
            rintro id hOld _ hMem rfl
            obtain ⟨row, hRow, rfl⟩ := List.mem_map.mp hOld
            exact hFree row hRow (hNew row hRow) (List.mem_singleton.mp hMem) }
    else
      .ok
        { rows := store.rows.map (remap networkId localId)
          networkIds_nodup := by
            have hIds : IdMapping.networkId ∘ remap networkId localId = IdMapping.networkId :=
              funext (remap_networkId networkId localId)
            rw [List.map_map, hIds]
            exact store.networkIds_nodup
          localIds_nodup := by
            rw [List.map_map]
            refine List.Nodup.map_on ?_ store.networkIds_nodup.of_map
            intro row hRow row' hRow' hEq
            simp only [Function.comp_apply, remap] at hEq
            split at hEq
            · next hSame =>
              split at hEq
              · next hSame' =>
                exact eq_of_column store.networkIds_nodup hRow hRow' (hSame.trans hSame'.symm)
              · next hOther => exact absurd hEq.symm (hFree row' hRow' hOther)
            · next hOther =>
              split at hEq
              · exact absurd hEq (hFree row hRow hOther)
              · exact eq_of_column store.localIds_nodup hRow hRow' hEq }
  else .error "UNIQUE constraint failed: id_mappings.local_id"

/-- The rows after a `set` that returns. -/
theorem mem_set (h : store.set networkId localId = .ok store') :
    row ∈ store'.rows ↔
      row = ⟨networkId, localId⟩ ∨ row ∈ store.rows ∧ row.networkId ≠ networkId := by
  unfold set at h
  split at h
  · split at h
    · next hNew =>
      cases h
      simp only [List.mem_append, List.mem_singleton]
      constructor
      · rintro (hOld | hEq)
        · exact Or.inr ⟨hOld, hNew row hOld⟩
        · exact Or.inl hEq
      · rintro (hEq | ⟨hOld, -⟩)
        · exact Or.inr hEq
        · exact Or.inl hOld
    · next hOld =>
      cases h
      push Not at hOld
      obtain ⟨found, hFound, hSame⟩ := hOld
      rw [List.mem_map]
      constructor
      · rintro ⟨before, hBefore, rfl⟩
        unfold remap
        split
        · exact Or.inl rfl
        · next hOther => exact Or.inr ⟨hBefore, hOther⟩
      · rintro (rfl | ⟨hBefore, hOther⟩)
        · exact ⟨found, hFound, if_pos hSame⟩
        · exact ⟨row, hBefore, if_neg hOther⟩
  · cases h

/-! ### Any writes and removals -/

def empty : IdMappingStore := ⟨[], List.nodup_nil, List.nodup_nil⟩

/-- A call that changes the table. -/
inductive MappingOp where
  | set (networkId localId : String)
  | remove (id : String)

/-- A call on the table; a `set` that throws leaves it. -/
def perform (store : IdMappingStore) : MappingOp → IdMappingStore
  | .set networkId localId =>
    match store.set networkId localId with
    | .ok store' => store'
    | .error _ => store
  | .remove id => (store.remove id).1

theorem getLocal_iff :
    store.getLocal networkId = some localId ↔ ⟨networkId, localId⟩ ∈ store.rows := by
  unfold getLocal
  rw [Option.map_eq_some_iff]
  constructor
  · rintro ⟨row, hFound, rfl⟩
    obtain ⟨hMem, rfl⟩ := rowWith_some hFound
    exact hMem
  · intro hMem
    exact ⟨_, rowWith_of_mem store.networkIds_nodup hMem, rfl⟩

theorem getNetwork_iff :
    store.getNetwork localId = some networkId ↔ ⟨networkId, localId⟩ ∈ store.rows := by
  unfold getNetwork
  rw [Option.map_eq_some_iff]
  constructor
  · rintro ⟨row, hFound, rfl⟩
    obtain ⟨hMem, rfl⟩ := rowWith_some hFound
    exact hMem
  · intro hMem
    exact ⟨_, rowWith_of_mem store.localIds_nodup hMem, rfl⟩

/-- The id a network id has lost is no local id any more. -/
theorem getNetwork_set {previous : String} (h : store.set networkId localId = .ok store')
    (hBefore : store.getLocal networkId = some previous) (hOther : previous ≠ localId) :
    store'.getNetwork previous = none := by
  cases hFound : store'.getNetwork previous with
  | none => rfl
  | some other =>
    rcases (mem_set h).mp (getNetwork_iff.mp hFound) with hEq | ⟨hOld, hNe⟩
    · cases hEq
      exact absurd rfl hOther
    · have hSame := eq_of_column store.localIds_nodup hOld (getLocal_iff.mp hBefore) rfl
      exact absurd (congrArg IdMapping.networkId hSame) hNe

/-- A removal deletes the mapping that the id resolves to, and no other. -/
theorem rows_remove : (store.remove id).2 = store.resolve id ∧
    ∀ row, row ∈ (store.remove id).1.rows ↔ row ∈ store.rows ∧ store.resolve id ≠ some row := by
  unfold remove
  split
  · next hNone => simp [hNone]
  · next mapping hFound =>
    obtain ⟨hMem, hTouches⟩ := mem_of_resolve hFound
    have hOne : ∀ {column : IdMapping → String}, (store.rows.map column).Nodup →
        column mapping = id → ∀ row ∈ store.rows, (column row ≠ id ↔ mapping ≠ row) := by
      intro column hKey hId row hRow
      rw [← hId, not_iff_not]
      constructor
      · exact fun hEq => eq_of_column hKey hMem hRow hEq.symm
      · rintro rfl
        rfl
    split
    · next hNetwork =>
      refine ⟨hFound.symm, fun row => ?_⟩
      simp only [keep, List.mem_filter, decide_eq_true_eq, hFound, Option.some.injEq, ne_eq]
      exact and_congr_right fun hRow => hOne store.networkIds_nodup hNetwork row hRow
    · next hLocal =>
      refine ⟨hFound.symm, fun row => ?_⟩
      simp only [keep, List.mem_filter, decide_eq_true_eq, hFound, Option.some.injEq, ne_eq]
      exact and_congr_right fun hRow =>
        hOne store.localIds_nodup (hTouches.resolve_left hLocal) row hRow

/-- **A partial bijection**, after any writes and removals. -/
theorem mapping_bijection (ops : List MappingOp) :
    let store := ops.foldl perform empty
    (∀ networkId localId,
      store.getLocal networkId = some localId ↔ store.getNetwork localId = some networkId) ∧
    (∀ networkId localId message, store.set networkId localId = .error message →
      store.perform (.set networkId localId) = store) ∧
    (∀ networkId localId store', store.set networkId localId = .ok store' →
      store'.getLocal networkId = some localId ∧
        ∀ previous, store.getLocal networkId = some previous → previous ≠ localId →
          store'.getNetwork previous = none ∧
            ((∀ row ∈ store'.rows, row.networkId ≠ previous) → store'.resolve previous = none)) ∧
    ∀ id, (store.remove id).2 = store.resolve id ∧
      ∀ row, row ∈ (store.remove id).1.rows ↔ row ∈ store.rows ∧ store.resolve id ≠ some row := by
  intro store
  refine ⟨?_, ?_, ?_, fun id => rows_remove⟩
  · exact fun networkId localId => getLocal_iff.trans getNetwork_iff.symm
  · intro networkId localId message hThrown
    simp only [perform, hThrown]
  · intro networkId localId store' hSet
    refine ⟨getLocal_iff.mpr ((mem_set hSet).mpr (Or.inl rfl)), ?_⟩
    intro previous hBefore hOther
    have hGone := getNetwork_set hSet hBefore hOther
    refine ⟨hGone, fun hNoNetwork => ?_⟩
    rw [getNetwork, Option.map_eq_none_iff] at hGone
    unfold resolve
    rw [rowWith_none.mpr hNoNetwork]
    exact hGone

/-- The local id that `n` loses is the network id of another mapping. -/
def mappedBothWays : List MappingOp := [.set "n" "both", .set "both" "l"]

theorem previous_resolves :
    ∃ store', (mappedBothWays.foldl perform empty).set "n" "next" = .ok store' ∧
      (mappedBothWays.foldl perform empty).getLocal "n" = some "both" ∧
      store'.resolve "both" = some ⟨"both", "l"⟩ :=
  ⟨_, rfl, by decide, by decide⟩

end IdMappingStore

end Core
end Signet
