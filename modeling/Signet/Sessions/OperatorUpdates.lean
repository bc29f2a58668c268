import Signet.Kit.Machine
import Signet.Sessions.OperatorManager

/-!
# Updates of an operator while it is being removed

Any number of `update` and `remove` calls on one operator manager.  An update runs
at once; a removal with a `revokeCredentials` hook captures the record, waits for the
hook as long as the hook likes, and then writes the captured record back.

* `appliedUpdates` — the config that results from the successful updates, in the
  order in which they returned.
* `CapturedCurrent` — a removal that goes through writes back the config that is
  stored.
* `updates_kept_iff` — at every moment of a run the stored config is that result
  exactly when all removals are of this kind; the status needs no condition.
-/

namespace Signet
namespace Sessions

open Kit Machine Schemas

/-! ## The calls -/

/-- How the hook ends: it returns a result, or its promise is rejected. -/
inductive HookAnswer where
  | returned (result : Except SignetError Unit)
  | rejected

/-- What happens next. -/
inductive UpdateEvent where
  | update (operatorId : String) (changes : OperatorChanges)
  | remove (call : Nat) (operatorId : String)
  /-- The hook of a removal has ended. -/
  | revoked (call : Nat) (answer : HookAnswer)

/-- A call has returned, or has thrown. -/
inductive UpdateOutcome where
  | updated (operatorId : String) (changes : OperatorChanges)
      (result : Except SignetError OperatorRecord)
  | removed (operatorId : String) (result : Except SignetError Unit)
  | removeThrew (operatorId : String)

/-- The stored operators and the removals that wait for their hook, with the record each
has captured. -/
structure UpdateState where
  operators : AssocMap String OperatorRecord
  removals : AssocMap Nat (String × OperatorRecord)

variable (safeParse : OperatorConfig → Option (List SchemaIssue))

/-- One step; `hasHook` says whether the manager was created with `revokeCredentials`. -/
def updateStep (hasHook : Bool) (s : UpdateState) :
    UpdateEvent → Option (UpdateState × List UpdateOutcome)
  | .update operatorId changes =>
    let result := OperatorManager.update safeParse s.operators operatorId changes
    some ({ s with operators := result.1 }, [.updated operatorId changes result.2])
  | .remove call operatorId =>
    if (s.removals.get call).isSome then none
    else match OperatorManager.beginRemove s.operators operatorId with
      | .error error => some (s, [.removed operatorId (.error error)])
      | .ok existing =>
        if hasHook then
          some ({ s with removals := s.removals.set call (operatorId, existing) }, [])
        else
          let finished :=
            OperatorManager.finishRemove s.operators operatorId existing (.ok ())
          some ({ s with operators := finished.1 }, [.removed operatorId finished.2])
  | .revoked call answer =>
    match s.removals.get call with
    | none => none
    | some (operatorId, existing) =>
      match answer with
      | .rejected =>
        some ({ s with removals := s.removals.delete call }, [.removeThrew operatorId])
      | .returned revokeResult =>
        let finished :=
          OperatorManager.finishRemove s.operators operatorId existing revokeResult
        some (⟨finished.1, s.removals.delete call⟩, [.removed operatorId finished.2])

/-- The manager from a given store on, with no call in flight. -/
def updateMachine (hasHook : Bool) (store : AssocMap String OperatorRecord) :
    Machine UpdateState UpdateEvent UpdateOutcome where
  init := ⟨store, .empty⟩
  step := updateStep safeParse hasHook

/-! ## What the calls have reported -/

/-- The config after one more outcome: a successful update of the operator merges its
changes. -/
def applyOutcome (operatorId : String) (config : OperatorConfig) : UpdateOutcome → OperatorConfig
  | .updated id changes (.ok _) => if id = operatorId then changes.mergeInto config else config
  | _ => config

/-- All successful updates of the operator, applied in the order in which they returned. -/
def appliedUpdates (operatorId : String) (config : OperatorConfig)
    (outcomes : List UpdateOutcome) : OperatorConfig :=
  outcomes.foldl (applyOutcome operatorId) config

@[simp]
theorem appliedUpdates_snoc (operatorId : String) (config : OperatorConfig)
    (outcomes : List UpdateOutcome) (outcome : UpdateOutcome) :
    appliedUpdates operatorId config (outcomes ++ [outcome]) =
      applyOutcome operatorId (appliedUpdates operatorId config outcomes) outcome := by
  unfold appliedUpdates
  rw [List.foldl_append, List.foldl_cons, List.foldl_nil]

/-- The stored config of the operator is what its successful updates have made of the config
it had at first. -/
def UpdatesKept (operatorId : String) (config : OperatorConfig)
    (h : List (Occurrence UpdateState UpdateEvent UpdateOutcome)) (s : UpdateState) : Prop :=
  ∃ stored, s.operators.get operatorId = some stored ∧
    stored.config = appliedUpdates operatorId config (outputs h)

/-- A call has gone through. -/
def UpdateOutcome.Succeeds : UpdateOutcome → Prop
  | .updated _ _ (.ok _) => True
  | .removed _ (.ok ()) => True
  | _ => False

/-- A removal of the operator that goes through finds the config it has captured. -/
def CapturedCurrent (operatorId : String) (s : UpdateState) : UpdateEvent → Prop
  | .revoked call (.returned (.ok ())) =>
    ∀ existing stored, s.removals.get call = some (operatorId, existing) →
      s.operators.get operatorId = some stored → existing.config = stored.config
  | _ => True

/-! ## One step -/

variable {safeParse} {hasHook : Bool} {s t : UpdateState} {event : UpdateEvent}
  {out : List UpdateOutcome} {outcome : UpdateOutcome}

/-- What a step does: nothing to the operators, without a success; an update; or a removal,
which writes back the record it has found just now or the one it has captured. -/
inductive UpdateMove (s t : UpdateState) : UpdateEvent → List UpdateOutcome → Prop
  | keeps {event : UpdateEvent} {out : List UpdateOutcome}
      (hOperators : t.operators = s.operators)
      (hFails : ∀ outcome ∈ out, ¬outcome.Succeeds)
      (hEvent : ∀ call, event ≠ .revoked call (.returned (.ok ()))) : UpdateMove s t event out
  | updates {operatorId : String} {changes : OperatorChanges} {existing : OperatorRecord}
      {updated : OperatorRecord} (hGet : s.operators.get operatorId = some existing)
      (hUpdated : updated = { existing with config := changes.mergeInto existing.config })
      (hOperators : t.operators = s.operators.set operatorId updated) :
      UpdateMove s t (.update operatorId changes) [.updated operatorId changes (.ok updated)]
  | removes {operatorId : String} {existing : OperatorRecord} {call : Nat}
      (hGet : s.operators.get operatorId = some existing)
      (hOperators : t.operators =
        s.operators.set operatorId { existing with status := .removed }) :
      UpdateMove s t (.remove call operatorId) [.removed operatorId (.ok ())]
  | writesBack {operatorId : String} {existing : OperatorRecord} {call : Nat}
      (hCaptured : s.removals.get call = some (operatorId, existing))
      (hOperators : t.operators =
        s.operators.set operatorId { existing with status := .removed }) :
      UpdateMove s t (.revoked call (.returned (.ok ()))) [.removed operatorId (.ok ())]

theorem updateStep_move (hStep : updateStep safeParse hasHook s event = some (t, out)) :
    UpdateMove s t event out := by
  cases event with
  | update operatorId changes =>
    simp only [updateStep, Option.some.injEq, Prod.mk.injEq] at hStep
    obtain ⟨rfl, rfl⟩ := hStep
    rcases OperatorManager.update_cases safeParse s.operators operatorId changes with
      ⟨error, hUpdate⟩ | ⟨existing, hGet, -, -, hUpdate⟩
    · rw [hUpdate]
      refine UpdateMove.keeps rfl ?_ ?_
      · simp [UpdateOutcome.Succeeds]
      · nofun
    · rw [hUpdate]
      exact UpdateMove.updates hGet rfl rfl
  | remove call operatorId =>
    simp only [updateStep] at hStep
    split at hStep
    · cases hStep
    · unfold OperatorManager.beginRemove OperatorManager.lookup at hStep
      cases hGet : s.operators.get operatorId with
      | none =>
        simp only [hGet, Option.some.injEq, Prod.mk.injEq] at hStep
        obtain ⟨rfl, rfl⟩ := hStep
        refine UpdateMove.keeps rfl ?_ ?_
        · simp [UpdateOutcome.Succeeds]
        · nofun
      | some existing =>
        simp only [hGet] at hStep
        split at hStep
        · simp only [Option.some.injEq, Prod.mk.injEq] at hStep
          obtain ⟨rfl, rfl⟩ := hStep
          refine UpdateMove.keeps rfl ?_ ?_
          · simp
          · nofun
        · simp only [Option.some.injEq, Prod.mk.injEq] at hStep
          obtain ⟨rfl, rfl⟩ := hStep
          exact UpdateMove.removes hGet rfl
  | revoked call answer =>
    simp only [updateStep] at hStep
    split at hStep
    · cases hStep
    · next operatorId existing hCaptured =>
      cases answer with
      | rejected =>
        simp only [Option.some.injEq, Prod.mk.injEq] at hStep
        obtain ⟨rfl, rfl⟩ := hStep
        refine UpdateMove.keeps rfl ?_ ?_
        · simp [UpdateOutcome.Succeeds]
        · nofun
      | returned revokeResult =>
        simp only [Option.some.injEq, Prod.mk.injEq] at hStep
        obtain ⟨rfl, rfl⟩ := hStep
        cases revokeResult with
        | error error =>
          refine UpdateMove.keeps rfl ?_ ?_
          · simp [OperatorManager.finishRemove, UpdateOutcome.Succeeds]
          · nofun
        | ok done => exact UpdateMove.writesBack hCaptured rfl

theorem operators_of_failure (hStep : updateStep safeParse hasHook s event = some (t, out))
    (hFails : ∀ outcome ∈ out, ¬outcome.Succeeds) : t.operators = s.operators := by
  cases updateStep_move hStep with
  | keeps hOperators _ _ => exact hOperators
  | updates _ _ _ => exact absurd trivial (hFails _ (List.mem_singleton_self _))
  | removes _ _ => exact absurd trivial (hFails _ (List.mem_singleton_self _))
  | writesBack _ _ => exact absurd trivial (hFails _ (List.mem_singleton_self _))

theorem applyOutcome_of_failure {operatorId : String} {config : OperatorConfig}
    (hFails : ¬outcome.Succeeds) :
    applyOutcome operatorId config outcome = config := by
  cases outcome with
  | updated id changes result =>
    cases result with
    | error error => rfl
    | ok record => exact absurd trivial hFails
  | removed id result => rfl
  | removeThrew id => rfl

theorem appliedUpdates_append_failures {operatorId : String} {config : OperatorConfig}
    (outcomes : List UpdateOutcome) (hFails : ∀ outcome ∈ out, ¬outcome.Succeeds) :
    appliedUpdates operatorId config (outcomes ++ out) =
      appliedUpdates operatorId config outcomes := by
  induction out generalizing outcomes with
  | nil => rw [List.append_nil]
  | cons outcome rest ih =>
    rw [List.append_cons, ih (outcomes ++ [outcome])
      (fun later hMem => hFails later (List.mem_cons_of_mem _ hMem)), appliedUpdates_snoc]
    exact applyOutcome_of_failure (hFails outcome List.mem_cons_self)

/-! ## The config -/

variable {operatorId : String} {config : OperatorConfig}
  {h : List (Occurrence UpdateState UpdateEvent UpdateOutcome)} {stored : OperatorRecord}

/-- Writing a record of the operator leaves the property in the hands of its config. -/
theorem updatesKept_of_get (hGet : s.operators.get operatorId = some stored) :
    UpdatesKept operatorId config h s ↔
      stored.config = appliedUpdates operatorId config (outputs h) := by
  unfold UpdatesKept
  rw [hGet]
  simp

/-- Outcomes of others do not matter, nor do the records of others. -/
theorem updatesKept_congr {h' : List (Occurrence UpdateState UpdateEvent UpdateOutcome)}
    (hGet : t.operators.get operatorId = s.operators.get operatorId)
    (hApplied : appliedUpdates operatorId config (outputs h') =
      appliedUpdates operatorId config (outputs h)) :
    UpdatesKept operatorId config h' t ↔ UpdatesKept operatorId config h s := by
  unfold UpdatesKept
  rw [hGet, hApplied]

/-- Writing the record of another operator keeps the updates, where the outcome applies none. -/
theorem updatesKept_of_other {id : String} (hKept : UpdatesKept operatorId config h s)
    (hId : id ≠ operatorId) (hOperators : t.operators = s.operators.set id stored)
    (hOutcome : ∀ before, applyOutcome operatorId before outcome = before) :
    UpdatesKept operatorId config (h ++ [⟨s, event, [outcome]⟩]) t := by
  refine (updatesKept_congr ?_ ?_).mpr hKept
  · rw [hOperators, AssocMap.get_set_of_ne _ _ (Ne.symm hId)]
  · rw [outputs_append, outputs_singleton, appliedUpdates_snoc, hOutcome]

/-- Only a removal that goes through writes back what it has captured. -/
theorem capturedCurrent_of_ne (hEvent : ∀ call, event ≠ .revoked call (.returned (.ok ()))) :
    CapturedCurrent operatorId s event := by
  cases event with
  | update id changes => trivial
  | remove call id => trivial
  | revoked call answer =>
    cases answer with
    | rejected => trivial
    | returned result =>
      cases result with
      | error error => trivial
      | ok done => exact absurd rfl (hEvent call)

/-- A step of the manager keeps the updates exactly when what it writes back is current. -/
theorem updatesKept_step_iff (hKept : UpdatesKept operatorId config h s)
    (hStep : updateStep safeParse hasHook s event = some (t, out)) :
    UpdatesKept operatorId config (h ++ [⟨s, event, out⟩]) t ↔
      CapturedCurrent operatorId s event := by
  cases updateStep_move hStep with
  | keeps hOperators hFails hEvent =>
    have hSame : t.operators.get operatorId = s.operators.get operatorId := by rw [hOperators]
    refine iff_of_true ((updatesKept_congr hSame ?_).mpr hKept) (capturedCurrent_of_ne hEvent)
    rw [outputs_append, outputs_singleton]
    exact appliedUpdates_append_failures _ hFails
  | @updates id changes existing updated hGet hUpdated hOperators =>
    refine iff_of_true ?_ trivial
    by_cases hId : id = operatorId
    · subst hId
      -- the update reads the stored config and writes the merged one
      have hGet' : t.operators.get id = some updated := by
        rw [hOperators, AssocMap.get_set_self]
      rw [updatesKept_of_get hGet', outputs_append, outputs_singleton,
        appliedUpdates_snoc, ← (updatesKept_of_get hGet).mp hKept, hUpdated]
      simp [applyOutcome]
    · exact updatesKept_of_other hKept hId hOperators (fun before => by simp [applyOutcome, hId])
  | @removes id existing call hGet hOperators =>
    refine iff_of_true ?_ trivial
    by_cases hId : id = operatorId
    · subst hId
      -- without a hook nothing comes between the lookup and the write
      have hGet' : t.operators.get id = some { existing with status := .removed } := by
        rw [hOperators, AssocMap.get_set_self]
      rw [updatesKept_of_get hGet', outputs_append, outputs_singleton,
        appliedUpdates_snoc]
      exact (updatesKept_of_get hGet).mp hKept
    · exact updatesKept_of_other hKept hId hOperators (fun _ => rfl)
  | @writesBack id existing call hCaptured hOperators =>
    by_cases hId : id = operatorId
    · subst hId
      obtain ⟨stored, hGet, hConfig⟩ := hKept
      have hGet' : t.operators.get id = some { existing with status := .removed } := by
        rw [hOperators, AssocMap.get_set_self]
      rw [updatesKept_of_get hGet', outputs_append, outputs_singleton,
        appliedUpdates_snoc]
      show existing.config = appliedUpdates id config (outputs h) ↔ _
      rw [← hConfig]
      simp [CapturedCurrent, hCaptured, hGet]
    · refine iff_of_true ?_ ?_
      · exact updatesKept_of_other hKept hId hOperators (fun _ => rfl)
      · intro captured stored hOther
        rw [hCaptured] at hOther
        cases hOther
        exact absurd rfl hId

/-! ## The status -/

/-- The operator is there, and is removed once a removal of it has succeeded. -/
def StatusReported (operatorId : String) (outcomes : List UpdateOutcome) (s : UpdateState) : Prop :=
  ∃ stored, s.operators.get operatorId = some stored ∧
    (stored.status = .removed ↔ .removed operatorId (.ok ()) ∈ outcomes)

theorem statusReported_step (hBefore : StatusReported operatorId (outputs h) s)
    (hStep : updateStep safeParse hasHook s event = some (t, out)) :
    StatusReported operatorId (outputs (h ++ [⟨s, event, out⟩])) t := by
  obtain ⟨stored, hStored, hStatus⟩ := hBefore
  rw [outputs_append, outputs_singleton]
  cases updateStep_move hStep with
  | keeps hOperators hFails hEvent =>
    refine ⟨stored, by rw [hOperators, hStored], hStatus.trans ?_⟩
    rw [List.mem_append]
    constructor
    · exact Or.inl
    · rintro (hMem | hMem)
      · exact hMem
      · exact absurd trivial (hFails _ hMem)
  | @updates id changes existing updated hGet hUpdated hOperators =>
    by_cases hId : id = operatorId
    · subst hId
      rw [hStored] at hGet
      cases hGet
      refine ⟨updated, by rw [hOperators, AssocMap.get_set_self], ?_⟩
      rw [hUpdated]
      simpa using hStatus
    · refine ⟨stored, ?_, by simpa using hStatus⟩
      rw [hOperators, AssocMap.get_set_of_ne _ _ (Ne.symm hId), hStored]
  | @removes id existing call hGet hOperators =>
    by_cases hId : id = operatorId
    · subst hId
      exact ⟨_, by rw [hOperators, AssocMap.get_set_self], by simp⟩
    · refine ⟨stored, ?_, by simpa [Ne.symm hId] using hStatus⟩
      rw [hOperators, AssocMap.get_set_of_ne _ _ (Ne.symm hId), hStored]
  | @writesBack id existing call hCaptured hOperators =>
    by_cases hId : id = operatorId
    · subst hId
      exact ⟨_, by rw [hOperators, AssocMap.get_set_self], by simp⟩
    · refine ⟨stored, ?_, by simpa [Ne.symm hId] using hStatus⟩
      rw [hOperators, AssocMap.get_set_of_ne _ _ (Ne.symm hId), hStored]

/-! ## Every interleaving -/

/-- **Updates survive exactly where removals write back what is stored.**  From any store
with the operator in it, in every run of updates and removals: at every moment the stored
config is the outcome of the successful updates exactly when every removal that goes
through has captured the config it finds; the operator is removed exactly when a removal
of it has succeeded; and a step without a success changes no operator. -/
theorem updates_kept_iff (safeParse : OperatorConfig → Option (List SchemaIssue))
    (hasHook : Bool) (store : AssocMap String OperatorRecord) {operatorId : String}
    {record : OperatorRecord} (hGet : store.get operatorId = some record)
    (hStatus : record.status ≠ .removed)
    {h : List (Occurrence UpdateState UpdateEvent UpdateOutcome)} {s : UpdateState}
    (hRun : (updateMachine safeParse hasHook store).Runs h s) :
    ((∀ h' t, (updateMachine safeParse hasHook store).Runs h' t → h' <+: h →
        UpdatesKept operatorId record.config h' t) ↔
      AllMeet (CapturedCurrent operatorId) h) ∧
    StatusReported operatorId (outputs h) s ∧
    ∀ o ∈ h, (∀ outcome ∈ o.out, ¬outcome.Succeeds) →
      ∀ t, updateStep safeParse hasHook o.pre o.label = some (t, o.out) →
        t.operators = o.pre.operators := by
  refine ⟨?_, ?_, ?_⟩
  · refine hRun.forall_moment_iff ⟨record, hGet, rfl⟩ ?_
    intro h s event t out _ hKept hStep
    exact updatesKept_step_iff hKept hStep
  · have hInit : StatusReported operatorId [] (updateMachine safeParse hasHook store).init :=
      ⟨record, hGet, iff_of_false hStatus (by simp)⟩
    have hAny : AllMeet (fun _ _ => True) h := fun _ _ => trivial
    apply hRun.invariant ?_ ?_ hAny
    · exact hInit
    · intro h s event t out _ _ hBefore _ hStep
      exact statusReported_step hBefore hStep
  · intro o _ hFails t hStep
    exact operators_of_failure hStep hFails

/-! ## Runs on fixed inputs -/

/-- A registered operator. -/
def sampleRecord : OperatorRecord :=
  ⟨"op_0011223344556677", ⟨"alice", .operator, .perChat, .internal, none, none, none⟩, 0, "owner",
    .active⟩

def sampleStore : AssocMap String OperatorRecord :=
  .set .empty sampleRecord.id sampleRecord

/-- A manager with a hook, which takes every config. -/
def sampleManager : Machine UpdateState UpdateEvent UpdateOutcome :=
  updateMachine (fun _ => none) true sampleStore

/-- A removal that fails, an update, and a removal that goes through. -/
def updatedBetween : List UpdateEvent :=
  [.remove 0 sampleRecord.id, .revoked 0 (.returned (.error (InternalError.create "down"))),
    .update sampleRecord.id { label := some "bob" }, .remove 1 sampleRecord.id,
    .revoked 1 (.returned (.ok ()))]

/-- The update is in the removed operator. -/
theorem updatedBetween_kept :
    ∃ h s, sampleManager.exec sampleManager.init updatedBetween = some (h, s) ∧
      UpdatesKept sampleRecord.id sampleRecord.config h s := by
  have hGet : sampleStore.get sampleRecord.id = some sampleRecord := by decide
  have hStatus : sampleRecord.status ≠ .removed := by decide
  have hExec : ∃ h s, sampleManager.exec sampleManager.init updatedBetween = some (h, s) ∧
      AllMeet (CapturedCurrent sampleRecord.id) h := by
    refine ⟨_, _, rfl, ?_⟩
    intro o ho
    simp only [List.mem_cons, List.not_mem_nil, or_false] at ho
    rcases ho with rfl | rfl | rfl | rfl | rfl
    · trivial
    · trivial
    · trivial
    · trivial
    · -- the second removal has captured the new label
      intro existing stored hCaptured hStored
      cases hCaptured
      cases hStored
      rfl
  obtain ⟨h, s, hGoes, hMeets⟩ := hExec
  have hRun := runs_of_exec hGoes
  refine ⟨h, s, hGoes, ?_⟩
  exact (updates_kept_iff (fun _ => none) true sampleStore hGet hStatus hRun).1.mpr hMeets h s hRun
    List.prefix_rfl

/-- The operator is updated while its removal waits for the hook. -/
def updatedDuring : List UpdateEvent :=
  [.remove 0 sampleRecord.id, .update sampleRecord.id { label := some "bob" },
    .revoked 0 (.returned (.ok ()))]

theorem updatedDuring_outcome :
    sampleManager.Executes updatedDuring fun h s =>
      s.removals.entries = [] ∧
        s.operators.get sampleRecord.id = some { sampleRecord with status := .removed } ∧
        appliedUpdates sampleRecord.id sampleRecord.config (outputs h) =
          { sampleRecord.config with label := "bob" } := by
  decide

/-- The update has returned the new label, and all calls are over; the old label is back. -/
theorem update_lost :
    ∃ h s, sampleManager.Runs h s ∧ s.removals.entries = [] ∧
      ¬UpdatesKept sampleRecord.id sampleRecord.config h s := by
  obtain ⟨h, s, -, hRun, hOver, hGet, hApplied⟩ := updatedDuring_outcome.exists_run
  refine ⟨h, s, hRun, hOver, ?_⟩
  rintro ⟨stored, hStored, hConfig⟩
  rw [hGet] at hStored
  cases hStored
  rw [hApplied] at hConfig
  exact absurd hConfig (by decide)

end Sessions
end Signet
