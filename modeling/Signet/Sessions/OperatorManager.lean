import Signet.Schemas.Errors
import Signet.Schemas.Operator

/-!
# The operator manager

Registration, lookup, updates and removal over an in-memory map.  The removal
awaits the revocation of the operator's credentials: `beginRemove` looks the
operator up, `finishRemove` runs from the answer of the revocation on.

Whether a configuration passes its schema is a parameter, with the issues of one
that does not: the path and the message of each.
-/

namespace Signet
namespace Sessions

open Kit Schemas

/-- An issue of the schema check: its path and its message. -/
abbrev SchemaIssue := List String × String

namespace OperatorManager

variable (safeParse : OperatorConfig → Option (List SchemaIssue))
  (store : AssocMap String OperatorRecord)

/-- The error of an operator config that its schema rejects. -/
def validateConfig (config : OperatorConfig) : Option SignetError :=
  match safeParse config with
  | none => none
  | some issues =>
    let issue := issues.head?
    let field := (issue.map fun issue => ".".intercalate issue.1).getD "config"
    let reason := (issue.map fun issue => issue.2).getD "Invalid config"
    some (ValidationError.create field reason)

/-- `create`, with the id drawn for the operator. -/
def create (now : Int) (drawnId : String) (config : OperatorConfig) :
    AssocMap String OperatorRecord × Except SignetError OperatorRecord :=
  match validateConfig safeParse config with
  | some validationErr => (store, .error validationErr)
  | none =>
    if config.role = .superadmin then
      (store, .error (PermissionError.create
        "Cannot create operator with superadmin role without owner authorization"
        (some [("role", .text config.role.value)])))
    else
      let record : OperatorRecord := ⟨drawnId, config, now, "owner", .active⟩
      (store.set drawnId record, .ok record)

/-- `list` -/
def list : List OperatorRecord := store.values.filter fun record => record.status ≠ .removed

/-- `lookup` -/
def lookup (operatorId : String) : Except SignetError OperatorRecord :=
  match store.get operatorId with
  | none => .error (NotFoundError.create "operator" operatorId)
  | some record => .ok record

/-- `update` -/
def update (operatorId : String) (changes : OperatorChanges) :
    AssocMap String OperatorRecord × Except SignetError OperatorRecord :=
  match store.get operatorId with
  | none => (store, .error (NotFoundError.create "operator" operatorId))
  | some existing =>
    if changes.role = some .superadmin then
      (store, .error (PermissionError.create "Cannot escalate operator role to superadmin"
        (some [("operatorId", .text operatorId), ("requestedRole", .text "superadmin")])))
    else
      let merged := changes.mergeInto existing.config
      match validateConfig safeParse merged with
      | some validationErr => (store, .error validationErr)
      | none =>
        let updated := { existing with config := merged }
        (store.set operatorId updated, .ok updated)

/-- `remove` up to its await: the operator whose credentials are to be revoked. -/
def beginRemove (operatorId : String) : Except SignetError OperatorRecord :=
  lookup store operatorId

/-- `remove` from the answer of the revocation on. -/
def finishRemove (operatorId : String) (existing : OperatorRecord)
    (revokeResult : Except SignetError Unit) :
    AssocMap String OperatorRecord × Except SignetError Unit :=
  match revokeResult with
  | .error error => (store, .error error)
  | .ok () => (store.set operatorId { existing with status := .removed }, .ok ())

/-! ## What the operations can do -/

theorem create_cases (now : Int) (drawnId : String) (config : OperatorConfig) :
    (∃ error, create safeParse store now drawnId config = (store, .error error)) ∨
      (validateConfig safeParse config = none ∧ config.role ≠ .superadmin ∧
        create safeParse store now drawnId config =
          (store.set drawnId ⟨drawnId, config, now, "owner", .active⟩,
            .ok ⟨drawnId, config, now, "owner", .active⟩)) := by
  unfold create
  cases hValid : validateConfig safeParse config with
  | some error => exact Or.inl ⟨error, rfl⟩
  | none =>
    by_cases hRole : config.role = .superadmin
    · exact Or.inl ⟨_, if_pos hRole⟩
    · exact Or.inr ⟨rfl, hRole, if_neg hRole⟩

theorem update_cases (operatorId : String) (changes : OperatorChanges) :
    (∃ error, update safeParse store operatorId changes = (store, .error error)) ∨
      ∃ existing, store.get operatorId = some existing ∧ changes.role ≠ some .superadmin ∧
        validateConfig safeParse (changes.mergeInto existing.config) = none ∧
        update safeParse store operatorId changes =
          (store.set operatorId { existing with config := changes.mergeInto existing.config },
            .ok { existing with config := changes.mergeInto existing.config }) := by
  unfold update
  cases hGet : store.get operatorId with
  | none => exact Or.inl ⟨_, rfl⟩
  | some existing =>
    by_cases hRole : changes.role = some .superadmin
    · exact Or.inl ⟨_, if_pos hRole⟩
    · cases hValid : validateConfig safeParse (changes.mergeInto existing.config) with
      | some error =>
        left
        refine ⟨error, ?_⟩
        simp only [hRole, if_false, hValid]
      | none =>
        right
        refine ⟨existing, rfl, hRole, hValid, ?_⟩
        simp only [hRole, if_false, hValid]

/-! ## What the operations do to a status -/

def Removed (operatorId : String) : Prop :=
  ∃ record, store.get operatorId = some record ∧ record.status = .removed

variable {store} {safeParse}

variable {id operatorId : String}

theorem removed_set_iff {record : OperatorRecord} :
    Removed (store.set operatorId record) id ↔
      if id = operatorId then record.status = .removed else Removed store id := by
  unfold Removed
  rw [AssocMap.get_set]
  split
  · simp
  · rfl

theorem removed_update_iff {changes : OperatorChanges} :
    Removed (update safeParse store operatorId changes).1 id ↔ Removed store id := by
  unfold update
  split
  · rfl
  · next existing hExisting =>
    split
    · rfl
    · simp only
      split
      · rfl
      · rw [removed_set_iff]
        split
        · next hId =>
          subst hId
          simp [Removed, hExisting]
        · rfl

theorem removed_create_iff {drawnId : String} {now : Int} {config : OperatorConfig}
    (hFresh : store.get drawnId = none) :
    Removed (create safeParse store now drawnId config).1 id ↔ Removed store id := by
  unfold create
  split
  · rfl
  · split
    · rfl
    · rw [removed_set_iff]
      split
      · next hId =>
        subst hId
        simp [Removed, hFresh]
      · rfl

theorem removed_finishRemove_iff {existing : OperatorRecord} :
    Removed (finishRemove store operatorId existing (.ok ())).1 id ↔
      id = operatorId ∨ Removed store id := by
  show Removed (store.set operatorId { existing with status := .removed }) id ↔ _
  rw [removed_set_iff]
  by_cases hId : id = operatorId
  · simp [hId]
  · simp [hId]

end OperatorManager

end Sessions
end Signet
