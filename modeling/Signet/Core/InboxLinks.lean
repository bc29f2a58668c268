import Signet.Core.InboxActions

/-!
# One operator per inbox

Which operator lists which inbox is a relation, and every operation that has succeeded changes one
operator's row of it.  The lists of the manager are what these changes make of them as long as no
call writes over a change it has not read, and no inbox has two operators as long as no list is
written with an inbox that another operator has.

* `LinkChange` — the changes of the relation, and what they do to it.
* `ledger` — the relation that the returned results account for.
* `KeepsLinks` — the steps that write over nothing and share no inbox.
* `links_run` — in a run of such steps an inbox has one operator, the one of the ledger.
* `links_go_wrong` — without them a link is lost, and an inbox gets two operators.
-/

namespace Signet
namespace Core
namespace InboxActions

open Kit Machine Schemas Sessions

/-! ## The relation and its changes -/

/-- What a successful operation does to the links. -/
inductive LinkChange where
  | listed (operatorId : String) (inboxIds : List String)
  | cleared (operatorId : String)
  | linked (operatorId inboxId : String)
  | unlinked (operatorId inboxId : String)
deriving DecidableEq

namespace LinkChange

def operatorId : LinkChange → String
  | .listed operatorId _ | .cleared operatorId | .linked operatorId _ | .unlinked operatorId _ =>
    operatorId

/-- Whether the operator has an inbox afterwards. -/
def row (before : Bool) (inboxId : String) : LinkChange → Bool
  | .listed _ inboxIds => decide (inboxId ∈ inboxIds)
  | .cleared _ => false
  | .linked _ added => before || decide (inboxId = added)
  | .unlinked _ dropped => before && decide (inboxId ≠ dropped)

/-- The links after a change: those of one operator, and those of the others as before. -/
def apply (links : String → String → Bool) (change : LinkChange) : String → String → Bool :=
  fun inboxId operatorId =>
    if operatorId = change.operatorId then change.row (links inboxId operatorId) inboxId
    else links inboxId operatorId

end LinkChange

/-- No inbox has two operators. -/
def OneEach (links : String → String → Bool) : Prop :=
  ∀ inboxId operatorId operatorId', links inboxId operatorId = true →
    links inboxId operatorId' = true → operatorId = operatorId'

/-- A change keeps the operators of an inbox apart when what the operator has afterwards no other
operator had. -/
theorem OneEach.apply {links : String → String → Bool} {change : LinkChange}
    (hOne : OneEach links)
    (hFree : ∀ inboxId, change.row (links inboxId change.operatorId) inboxId = true →
      ∀ operatorId, links inboxId operatorId = true → operatorId = change.operatorId) :
    OneEach (change.apply links) := by
  intro inboxId operatorId operatorId' hLinks hLinks'
  unfold LinkChange.apply at hLinks hLinks'
  by_cases hOwn : operatorId = change.operatorId
  · by_cases hOwn' : operatorId' = change.operatorId
    · rw [hOwn, hOwn']
    · rw [if_pos hOwn, hOwn] at hLinks
      rw [if_neg hOwn'] at hLinks'
      exact absurd (hFree inboxId hLinks operatorId' hLinks') hOwn'
  · by_cases hOwn' : operatorId' = change.operatorId
    · rw [if_neg hOwn] at hLinks
      rw [if_pos hOwn', hOwn'] at hLinks'
      exact absurd (hFree inboxId hLinks' operatorId hLinks) hOwn
    · rw [if_neg hOwn] at hLinks
      rw [if_neg hOwn'] at hLinks'
      exact hOne inboxId operatorId operatorId' hLinks hLinks'

/-! ## The ledger -/

/-- One taken step. -/
abbrev InboxOccurrence := Occurrence InboxState InboxLabel InboxOutcome

def InboxOutcome.change : InboxOutcome → Option LinkChange
  | .created (.ok record) => some (.listed record.id (inboxes record))
  | .updated changes (.ok record) =>
    if changes.inboxIds = none ∨ record.status = .removed then none
    else some (.listed record.id (inboxes record))
  | .removed operatorId (.ok ()) => some (.cleared operatorId)
  | .linked inboxId (.ok operatorId) => some (.linked operatorId inboxId)
  | .unlinked inboxId (.ok (some operatorId)) => some (.unlinked operatorId inboxId)
  | _ => none

/-- The links that the results returned in a run account for: every operation that has succeeded
has taken effect, in the order in which they did. -/
def ledger (h : List InboxOccurrence) : String → String → Bool :=
  h.foldl (fun links o => (o.out.filterMap InboxOutcome.change).foldl LinkChange.apply links)
    fun _ _ => false

theorem ledger_snoc (h : List InboxOccurrence) (o : InboxOccurrence) :
    ledger (h ++ [o]) =
      (o.out.filterMap InboxOutcome.change).foldl LinkChange.apply (ledger h) := by
  simp [ledger]

/-! ## What the manager lists -/

def Lists (operators : Operators) (inboxId operatorId : String) : Prop :=
  ∃ record, operators.get operatorId = some record ∧ record.status ≠ .removed ∧
    inboxId ∈ inboxes record

instance (operators : Operators) (inboxId operatorId : String) :
    Decidable (Lists operators inboxId operatorId) :=
  match h : operators.get operatorId with
  | none => isFalse fun ⟨record, hRecord, _⟩ => by
      rw [h] at hRecord
      cases hRecord
  | some record =>
    decidable_of_iff (record.status ≠ .removed ∧ inboxId ∈ inboxes record)
      ⟨fun hBoth => ⟨record, h, hBoth⟩, fun ⟨record', hRecord, hBoth⟩ => by
        rw [h] at hRecord
        cases hRecord
        exact hBoth⟩

/-- Every inbox is listed by at most one operator that is not removed. -/
def OneOperatorPerInbox (operators : Operators) : Prop :=
  ∀ inboxId operatorId operatorId', Lists operators inboxId operatorId →
    Lists operators inboxId operatorId' → operatorId = operatorId'

/-- The relation that the lists of the manager make. -/
def links (operators : Operators) : String → String → Bool :=
  fun inboxId operatorId => decide (Lists operators inboxId operatorId)

variable {turn : InboxTurn} {existing operator record : OperatorRecord} {operators : Operators}
  {inboxId other : String}

theorem links_iff {operatorId : String} :
    links operators inboxId operatorId = true ↔ Lists operators inboxId operatorId :=
  decide_eq_true_iff

/-- The links of an operator that is there. -/
theorem lists_of_get {operatorId : String} (hGet : operators.get operatorId = some record)
    (inboxId : String) :
    Lists operators inboxId operatorId ↔
      record.status ≠ .removed ∧ inboxId ∈ inboxes record := by
  unfold Lists
  rw [hGet]
  constructor
  · rintro ⟨found, hFound, hBoth⟩
    cases hFound
    exact hBoth
  · exact fun hBoth => ⟨record, rfl, hBoth⟩

/-- The links after a record has been written. -/
theorem lists_set {operatorId id : String} :
    Lists (operators.set id record) inboxId operatorId ↔
      if operatorId = id then record.status ≠ .removed ∧ inboxId ∈ inboxes record
      else Lists operators inboxId operatorId := by
  by_cases hId : operatorId = id
  · rw [if_pos hId, hId, lists_of_get (AssocMap.get_set_self operators id record)]
  · rw [if_neg hId]
    unfold Lists
    rw [AssocMap.get_set_of_ne operators record hId]

/-- A write does what a change says, when it gives the operator the change's row. -/
theorem links_set {id : String} {change : LinkChange} (hId : change.operatorId = id)
    (hRow : ∀ inboxId, (record.status ≠ .removed ∧ inboxId ∈ inboxes record) ↔
      change.row (links operators inboxId id) inboxId = true) :
    links (operators.set id record) = change.apply (links operators) := by
  funext inboxId operatorId
  unfold LinkChange.apply
  rw [Bool.eq_iff_iff, links_iff, lists_set, hId]
  by_cases hOwn : operatorId = id
  · rw [if_pos hOwn, if_pos hOwn, hOwn]
    exact hRow inboxId
  · rw [if_neg hOwn, if_neg hOwn]
    exact links_iff.symm

/-! ## The steps that keep the links -/

/-- The changes go through for the operator. -/
def Accepts (safeParse : OperatorConfig → Option (List SchemaIssue)) (existing : OperatorRecord)
    (changes : OperatorChanges) : Prop :=
  changes.role ≠ some .superadmin ∧
    OperatorManager.validateConfig safeParse (changes.mergeInto existing.config) = none

instance (safeParse : OperatorConfig → Option (List SchemaIssue)) (existing : OperatorRecord)
    (changes : OperatorChanges) : Decidable (Accepts safeParse existing changes) :=
  inferInstanceAs (Decidable (_ ∧ _))

def FreeFor (operators : Operators) (operatorId : String) (inboxIds : List String) : Prop :=
  ∀ inboxId ∈ inboxIds, ∀ other ∈ operators.keys, Lists operators inboxId other →
    other = operatorId

instance (operators : Operators) (operatorId : String) (inboxIds : List String) :
    Decidable (FreeFor operators operatorId inboxIds) :=
  inferInstanceAs (Decidable (∀ inboxId ∈ inboxIds, ∀ other ∈ operators.keys, _))

/-- Up to the inbox itself, what a call has read of an operator is what the operator lists. -/
def SameInboxes (read existing : OperatorRecord) (inboxId : String) : Prop :=
  ∀ other ∈ inboxes read ++ inboxes existing, other ≠ inboxId →
    (other ∈ inboxes read ↔ other ∈ inboxes existing)

instance (read existing : OperatorRecord) (inboxId : String) :
    Decidable (SameInboxes read existing inboxId) :=
  inferInstanceAs (Decidable (∀ other ∈ inboxes read ++ inboxes existing, _))

section Guard

variable (deps : InboxActionDeps) (s : InboxState)

/-- The write of a link finds the operator as it was read, and the inbox with no other. -/
def LinkKeeps (inboxId : String) (operator : OperatorRecord) : Prop :=
  ∀ existing ∈ s.operators.get operator.id,
    Accepts deps.safeParse existing (withInbox operator inboxId) →
      existing.status ≠ .removed ∧ SameInboxes operator existing inboxId ∧
        FreeFor s.operators operator.id [inboxId]

/-- The write of an unlink finds the operator as it was read. -/
def UnlinkKeeps (inboxId operatorId : String) (operator : OperatorRecord) : Prop :=
  ∀ existing ∈ s.operators.get operatorId, existing.status ≠ .removed →
    Accepts deps.safeParse existing (withoutInbox operator inboxId) →
      SameInboxes operator existing inboxId

instance (inboxId : String) (operator : OperatorRecord) :
    Decidable (LinkKeeps deps s inboxId operator) :=
  inferInstanceAs (Decidable (∀ existing ∈ s.operators.get operator.id, _))

instance (inboxId operatorId : String) (operator : OperatorRecord) :
    Decidable (UnlinkKeeps deps s inboxId operatorId operator) :=
  inferInstanceAs (Decidable (∀ existing ∈ s.operators.get operatorId, _))

/-- What waits for its lookup keeps the links. -/
def StageKeeps : InboxStage → Prop
  | .linkLooked _ inboxId (.ok operator) => LinkKeeps deps s inboxId operator
  | .unlinkLooked _ inboxId operatorId (.ok operator) =>
    UnlinkKeeps deps s inboxId operatorId operator
  | _ => True

instance (stage : InboxStage) : Decidable (StageKeeps deps s stage) := by
  unfold StageKeeps
  split <;> infer_instance

/-- A step that writes over no change it has not read, and gives no operator an inbox of
another. -/
def KeepsLinks (label : InboxLabel) : Prop :=
  match label with
  | .createOperator _ drawnId config =>
    OperatorManager.validateConfig deps.safeParse config = none → config.role ≠ .superadmin →
      FreeFor s.operators drawnId (config.inboxIds.getD [])
  | .updateOperator operatorId changes =>
    ∀ existing ∈ s.operators.get operatorId, existing.status ≠ .removed →
      Accepts deps.safeParse existing changes →
        FreeFor s.operators operatorId ((changes.mergeInto existing.config).inboxIds.getD [])
  | .resume call _ _ => ∀ stage ∈ s.calls.get call, StageKeeps deps s stage
  | _ => True

instance (label : InboxLabel) : Decidable (KeepsLinks deps s label) := by
  unfold KeepsLinks
  split <;> infer_instance

end Guard

/-! ## What a step does -/

/-- The changes that the results of a step account for. -/
def changesOf (out : List InboxOutcome) : List LinkChange := out.filterMap InboxOutcome.change

/-- A segment of a call that leaves the operators alone. -/
structure TurnFacts (s : InboxState) (turn : InboxTurn) (changes : List LinkChange) : Prop where
  operators : turn.1.operators = s.operators
  changes : changesOf turn.2 = changes
  revoking : ∀ call operatorId existing,
    turn.1.calls.get call = some (.revoking operatorId existing) →
      s.calls.get call = some (.revoking operatorId existing)

variable {deps : InboxActionDeps} {s : InboxState} {call : Nat} {stage : InboxStage}

theorem facts_finish {out : List InboxOutcome} :
    TurnFacts s (s.finish call, out) (changesOf out) := by
  refine ⟨rfl, rfl, ?_⟩
  intro other operatorId existing hGet
  have hDeleted : (s.calls.delete call).get other = some (.revoking operatorId existing) := hGet
  exact (AssocMap.of_get_delete hDeleted).2

theorem facts_await {out : List InboxOutcome}
    (hStage : ∀ operatorId existing, stage ≠ .revoking operatorId existing) :
    TurnFacts s (s.await call stage, out) (changesOf out) := by
  refine ⟨rfl, rfl, ?_⟩
  intro other operatorId existing hGet
  have hSet : (s.calls.set call stage).get other = some (.revoking operatorId existing) := hGet
  rw [AssocMap.get_set] at hSet
  split at hSet
  · exact absurd (Option.some.inj hSet) (hStage operatorId existing)
  · exact hSet

theorem facts_same {out : List InboxOutcome} : TurnFacts s (s, out) (changesOf out) :=
  ⟨rfl, rfl, fun _ _ _ hGet => hGet⟩

theorem facts_linkReturned (caller : LinkCaller) (inboxId : String)
    (result : Except SignetError String) :
    TurnFacts s (linkReturned s call caller inboxId result)
      (changesOf [.linked inboxId result]) := by
  unfold linkReturned
  split
  · exact facts_finish
  · exact facts_finish
  · exact facts_finish
  · exact facts_await (by simp)

theorem facts_unlinkReturned (caller : UnlinkCaller) (inboxId : String)
    (result : Except SignetError (Option String)) :
    TurnFacts s (unlinkReturned s call caller inboxId result)
      (changesOf [.unlinked inboxId result]) := by
  cases caller with
  | unlink identity => cases result <;> exact facts_finish
  | remove identity actions mapping =>
    cases result with
    | error error => exact facts_finish
    | ok operatorId =>
      have hFacts := @facts_await s call (.removeDeleted actions)
        (.unlinked inboxId (.ok operatorId) ::
          ((if mapping.isSome then [.unmapInbox identity.id] else []) ++
            [.deleteIdentity identity.id])) (by simp)
      refine ⟨hFacts.operators, hFacts.changes.trans ?_, hFacts.revoking⟩
      cases mapping <;> cases operatorId <;> rfl

theorem facts_linkMapped (caller : LinkCaller) (inboxId operatorId : String)
    (linkMap : Except SignetError (AssocMap String String)) :
    TurnFacts s (linkMapped s call caller inboxId operatorId linkMap) [] := by
  unfold linkMapped
  split
  · exact facts_linkReturned caller inboxId (.error _)
  · split
    · split
      · exact facts_linkReturned caller inboxId (.error _)
      · exact facts_await (by simp)
    · exact facts_await (by simp)

theorem facts_unlinkInboxFromOperator (caller : UnlinkCaller) (inboxId : String) :
    TurnFacts s (unlinkInboxFromOperator deps s call caller inboxId) [] := by
  unfold unlinkInboxFromOperator
  split
  · exact facts_unlinkReturned caller inboxId (.ok none)
  · exact facts_await (by simp)

theorem facts_unlinkMapped (caller : UnlinkCaller) (inboxId : String)
    (linkMap : Except SignetError (AssocMap String String)) :
    TurnFacts s (unlinkMapped s call caller inboxId linkMap) [] := by
  unfold unlinkMapped
  split
  · exact facts_unlinkReturned caller inboxId (.error _)
  · split
    · exact facts_unlinkReturned caller inboxId (.ok none)
    · exact facts_await (by simp)

theorem facts_createRegistered (linkedOperatorId : Option String)
    (registered : Except SignetError RegisteredInbox) :
    TurnFacts s (createRegistered deps s call linkedOperatorId registered) [] := by
  unfold createRegistered
  split
  · exact facts_finish
  · next inbox =>
    have hMapped : changesOf (if deps.hasIdMappings then
        [.mapInbox inbox.inboxId inbox.identityId] else []) = [] := by
      split <;> rfl
    simp only
    split
    · next operatorId _ _ =>
      have hFacts := @facts_await s call
        (.linkResolved (.create inbox.identityId) inbox.identityId
          (resolveOperator s.operators operatorId)) [] (by simp)
      refine ⟨hFacts.operators, ?_, hFacts.revoking⟩
      show changesOf (_ ++ []) = []
      rw [List.append_nil]
      exact hMapped
    · next linked _ _ _ =>
      have hFacts := @facts_await s call (.createRead inbox.identityId linked)
        (if deps.hasIdMappings then [.mapInbox inbox.inboxId inbox.identityId] else [])
        (by simp)
      exact ⟨hFacts.operators, hMapped, hFacts.revoking⟩

theorem facts_removeMapped (identity : IdentityRow) (execute : Bool)
    (linkMap : Except SignetError (AssocMap String String))
    (mappings : String → Option IdMapping) :
    TurnFacts s (removeMapped deps s call identity execute linkMap mappings) [] := by
  unfold removeMapped
  split
  · exact facts_finish
  · simp only
    split
    · exact facts_await (by simp)
    · split
      · exact facts_unlinkInboxFromOperator _ _
      · exact facts_finish

theorem facts_removeCleaned (identity : IdentityRow) (execute : Bool) (actions : List String)
    (mapping : Option IdMapping) (cleanup : Except SignetError (List String)) :
    TurnFacts s (removeCleaned deps s call identity execute actions mapping cleanup) [] := by
  unfold removeCleaned
  split
  · exact facts_finish
  · split
    · exact facts_unlinkInboxFromOperator _ _
    · exact facts_finish

/-- What a call does that goes on: it leaves the operators alone, or makes one of three writes. -/
inductive ResumeMove (deps : InboxActionDeps) (s : InboxState) (call : Nat) (stage : InboxStage)
    (turn : InboxTurn) : Prop
  | quiet (hFacts : TurnFacts s turn [])
  | link (caller : LinkCaller) (inboxId : String) (operator : OperatorRecord)
      (hStage : stage = .linkLooked caller inboxId (.ok operator))
      (hTurn : turn = linkLooked deps s call caller inboxId (.ok operator))
  | unlink (caller : UnlinkCaller) (inboxId operatorId : String) (operator : OperatorRecord)
      (hStage : stage = .unlinkLooked caller inboxId operatorId (.ok operator))
      (hTurn : turn = unlinkLooked deps s call caller inboxId operatorId (.ok operator))
  | revoke (operatorId : String) (existing : OperatorRecord) (result : Except SignetError Unit)
      (hStage : stage = .revoking operatorId existing)
      (hTurn : turn = removeRevoked s call operatorId existing result)

theorem resumeInbox_move {answer : InboxAnswer} {mappings : String → Option IdMapping}
    (hTurn : resumeInbox deps s call stage answer mappings = some turn) :
    ResumeMove deps s call stage turn := by
  unfold resumeInbox at hTurn
  split at hTurn
  · split at hTurn <;> cases hTurn
    · exact .quiet facts_finish
    · exact .quiet (facts_await (by simp))
  · split at hTurn <;> cases hTurn
    · exact .quiet facts_finish
    · exact .quiet (facts_unlinkInboxFromOperator _ _)
  · split at hTurn <;> cases hTurn
    · exact .quiet facts_finish
    · exact .quiet (facts_await (by simp))
  · cases hTurn
    exact .quiet facts_finish
  · cases hTurn
    exact .quiet (facts_await (by simp))
  · cases hTurn
    exact .quiet (facts_createRegistered _ _)
  · cases hTurn
    exact .quiet facts_finish
  · cases hTurn
    exact .quiet facts_finish
  · cases hTurn
    exact .quiet (facts_linkReturned _ _ (.error _))
  · cases hTurn
    exact .quiet (facts_await (by simp))
  · cases hTurn
    exact .quiet (facts_linkMapped _ _ _ _)
  · next caller inboxId operator =>
    cases hTurn
    cases operator with
    | error error => exact .quiet (facts_linkReturned caller inboxId (.error error))
    | ok operator => exact .link caller inboxId operator rfl rfl
  · cases hTurn
    exact .quiet (facts_unlinkMapped _ _ _)
  · next caller inboxId operatorId operator =>
    cases hTurn
    cases operator with
    | error error => exact .quiet (facts_unlinkReturned caller inboxId (.error error))
    | ok operator => exact .unlink caller inboxId operatorId operator rfl rfl
  · cases hTurn
    exact .quiet (facts_removeMapped _ _ _ _)
  · cases hTurn
    exact .quiet (facts_removeCleaned _ _ _ _ _)
  · cases hTurn
    exact .quiet facts_finish
  · cases hTurn
    exact .quiet facts_finish
  · next operatorId existing result =>
    cases hTurn
    exact .revoke operatorId existing result rfl rfl
  · cases hTurn

/-! ## What holds between the steps -/

/-- An operator is registered under its id. -/
def Keyed (operators : Operators) : Prop :=
  ∀ operatorId record, operators.get operatorId = some record → record.id = operatorId

/-- The invariant of a run that keeps the links. -/
structure LinksKept (s : InboxState) : Prop where
  keyed : Keyed s.operators
  revoking : ∀ call operatorId existing,
    s.calls.get call = some (.revoking operatorId existing) → existing.id = operatorId
  one : OneEach (links s.operators)

theorem Keyed.set {operatorId : String} (hKeyed : Keyed operators)
    (hRecord : record.id = operatorId) :
    Keyed (operators.set operatorId record) := by
  intro other found hFound
  rcases AssocMap.get_set_cases hFound with ⟨hOther, rfl⟩ | ⟨-, hFound⟩
  · rw [hOther, hRecord]
  · exact hKeyed other found hFound

structure StepKeeps (s : InboxState) (operators : Operators) (changes : List LinkChange) :
    Prop where
  keyed : Keyed operators
  one : OneEach (links operators)
  links : links operators = changes.foldl LinkChange.apply (links s.operators)

theorem LinksKept.same (hKept : LinksKept s) : StepKeeps s s.operators [] :=
  ⟨hKept.keyed, hKept.one, rfl⟩

/-- A write that changes no link. -/
theorem LinksKept.rewrite (hKept : LinksKept s) {operatorId : String}
    (hGet : s.operators.get operatorId = some existing) (hId : record.id = existing.id)
    (hRow : ∀ inboxId, (record.status ≠ .removed ∧ inboxId ∈ inboxes record) ↔
      (existing.status ≠ .removed ∧ inboxId ∈ inboxes existing)) :
    StepKeeps s (s.operators.set operatorId record) [] := by
  have hSame : links (s.operators.set operatorId record) = links s.operators := by
    funext inboxId other
    rw [Bool.eq_iff_iff, links_iff, links_iff, lists_set]
    by_cases hOther : other = operatorId
    · rw [if_pos hOther, hOther, lists_of_get hGet]
      exact hRow inboxId
    · rw [if_neg hOther]
  refine ⟨hKept.keyed.set (hId.trans (hKept.keyed _ _ hGet)), ?_, hSame⟩
  rw [hSame]
  exact hKept.one

theorem LinksKept.write (hKept : LinksKept s) {operatorId : String} {record : OperatorRecord}
    {change : LinkChange} (hRecord : record.id = operatorId)
    (hChange : change.operatorId = operatorId)
    (hRow : ∀ inboxId, (record.status ≠ .removed ∧ inboxId ∈ inboxes record) ↔
      change.row (links s.operators inboxId operatorId) inboxId = true)
    (hFree : ∀ inboxId, record.status ≠ .removed → inboxId ∈ inboxes record →
      ∀ other, Lists s.operators inboxId other → other = operatorId) :
    StepKeeps s (s.operators.set operatorId record) [change] := by
  have hLinks := links_set hChange hRow
  refine ⟨hKept.keyed.set hRecord, ?_, hLinks⟩
  rw [hLinks]
  apply hKept.one.apply
  intro inboxId hOwn other hOther
  rw [hChange] at hOwn ⊢
  obtain ⟨hStatus, hMem⟩ := (hRow inboxId).mpr hOwn
  exact hFree inboxId hStatus hMem other (links_iff.mp hOther)

theorem FreeFor.eq {operatorId : String} {inboxIds : List String}
    (hFree : FreeFor operators operatorId inboxIds) (hMem : inboxId ∈ inboxIds)
    (hLists : Lists operators inboxId other) : other = operatorId := by
  have hKey : other ∈ operators.keys := by
    obtain ⟨record, hGet, -⟩ := hLists
    exact AssocMap.mem_keys.mpr ⟨record, hGet⟩
  exact hFree inboxId hMem other hKey hLists

theorem SameInboxes.mem_iff {read : OperatorRecord} (hSame : SameInboxes read existing inboxId)
    (hOther : other ≠ inboxId) :
    other ∈ inboxes read ↔ other ∈ inboxes existing := by
  by_cases hMem : other ∈ inboxes read ++ inboxes existing
  · exact hSame other hMem hOther
  · rw [List.mem_append, not_or] at hMem
    exact iff_of_false hMem.1 hMem.2

/-! ## The writes -/

/-- The list after a link. -/
theorem mem_inboxes_withInbox :
    other ∈ inboxes
        { existing with config := (withInbox operator inboxId).mergeInto existing.config }
      ↔ other = inboxId ∨ other ∈ inboxes operator := by
  show other ∈ ((OrderedSet.ofList (inboxes operator)).add inboxId).items ↔ _
  rw [← OrderedSet.mem_def, OrderedSet.mem_add, OrderedSet.mem_ofList]

/-- The list after an unlink. -/
theorem mem_inboxes_withoutInbox :
    other ∈ inboxes
        { existing with config := (withoutInbox operator inboxId).mergeInto existing.config }
      ↔ other ∈ inboxes operator ∧ other ≠ inboxId := by
  have hList : inboxes
      { existing with config := (withoutInbox operator inboxId).mergeInto existing.config } =
      (inboxes operator).filter fun candidate => candidate ≠ inboxId := by
    show (if _ then some _ else none : Option (List String)).getD [] = _
    split
    · rfl
    · next hEmpty =>
      rw [Option.getD_none]
      exact (List.eq_nil_of_length_eq_zero (Nat.eq_zero_of_not_pos hEmpty)).symm
  rw [hList, List.mem_filter, decide_eq_true_eq]

section

variable (hKept : LinksKept s)

include hKept

/-- Who is registered. -/
theorem keeps_create {now : Int} {drawnId : String} {config : OperatorConfig}
    (hGuard : KeepsLinks deps s (.createOperator now drawnId config)) :
    StepKeeps s (OperatorManager.create deps.safeParse s.operators now drawnId config).1
      (changesOf [.created
        (OperatorManager.create deps.safeParse s.operators now drawnId config).2]) := by
  rcases OperatorManager.create_cases deps.safeParse s.operators now drawnId config with
    ⟨error, hCreate⟩ | ⟨hValid, hRole, hCreate⟩
  · rw [hCreate]
    exact hKept.same
  · rw [hCreate]
    refine hKept.write rfl rfl ?_ ?_
    · intro inboxId
      rw [LinkChange.row, decide_eq_true_eq]
      exact and_iff_right (by simp)
    · intro inboxId _ hMem other hOther
      exact (hGuard hValid hRole).eq hMem hOther

theorem keeps_update {operatorId : String} {changes : OperatorChanges}
    (hGuard : KeepsLinks deps s (.updateOperator operatorId changes)) :
    StepKeeps s (OperatorManager.update deps.safeParse s.operators operatorId changes).1
      (changesOf [.updated changes
        (OperatorManager.update deps.safeParse s.operators operatorId changes).2]) := by
  rcases OperatorManager.update_cases deps.safeParse s.operators operatorId changes with
    ⟨error, hUpdate⟩ | ⟨existing, hGet, hRole, hValid, hUpdate⟩
  · rw [hUpdate]
    exact hKept.same
  · rw [hUpdate]
    by_cases hQuiet : changes.inboxIds = none ∨ existing.status = .removed
    · have hNone : changesOf [.updated changes
          (.ok { existing with config := changes.mergeInto existing.config })] = [] := by
        simp [changesOf, InboxOutcome.change, hQuiet]
      rw [hNone]
      refine hKept.rewrite hGet rfl ?_
      intro inboxId
      rcases hQuiet with hAbsent | hRemoved
      · simp [inboxes, OperatorChanges.mergeInto, hAbsent]
      · simp [hRemoved]
    · have hListed : changesOf [.updated changes
          (.ok { existing with config := changes.mergeInto existing.config })] =
            [.listed existing.id ((changes.mergeInto existing.config).inboxIds.getD [])] := by
        simp [changesOf, InboxOutcome.change, hQuiet, inboxes]
      rw [hListed]
      rw [not_or] at hQuiet
      have hId : existing.id = operatorId := hKept.keyed _ _ hGet
      refine hKept.write hId hId ?_ ?_
      · intro inboxId
        rw [LinkChange.row, decide_eq_true_eq]
        exact and_iff_right hQuiet.2
      · intro inboxId _ hMem other hOther
        exact (hGuard existing hGet hQuiet.2 ⟨hRole, hValid⟩).eq hMem hOther

/-- The write of a link. -/
theorem keeps_addInbox (hGuard : LinkKeeps deps s inboxId operator) :
    StepKeeps s (addInbox deps.safeParse s.operators inboxId operator).1
      (changesOf [.linked inboxId (addInbox deps.safeParse s.operators inboxId operator).2]) := by
  unfold addInbox
  rcases OperatorManager.update_cases deps.safeParse s.operators operator.id
      (withInbox operator inboxId) with
    ⟨error, hUpdate⟩ | ⟨existing, hGet, hRole, hValid, hUpdate⟩
  · rw [hUpdate]
    exact hKept.same
  · rw [hUpdate]
    obtain ⟨hStatus, hSame, hFree⟩ := hGuard existing hGet ⟨hRole, hValid⟩
    have hMine : ∀ other, Lists s.operators other operator.id ↔ other ∈ inboxes existing := by
      intro other
      rw [lists_of_get hGet]
      exact and_iff_right hStatus
    have hId : existing.id = operator.id := hKept.keyed _ _ hGet
    refine @LinksKept.write s hKept operator.id _ (.linked existing.id inboxId) hId hId ?_ ?_
    · intro other
      rw [mem_inboxes_withInbox, LinkChange.row, Bool.or_eq_true, links_iff, hMine,
        decide_eq_true_eq]
      by_cases hOther : other = inboxId
      · simp [hOther, hStatus]
      · simp [hOther, hStatus, hSame.mem_iff hOther]
    · intro other _ hMem holder hHolder
      rw [mem_inboxes_withInbox] at hMem
      by_cases hOther : other = inboxId
      · subst hOther
        exact hFree.eq (List.mem_singleton_self other) hHolder
      · -- An inbox that was linked before still has the operator it had.
        have hOld := (hSame.mem_iff hOther).mp (hMem.resolve_left hOther)
        exact hKept.one other holder operator.id (links_iff.mpr hHolder)
          (links_iff.mpr ((hMine other).mpr hOld))

/-- The write of an unlink. -/
theorem keeps_dropInbox {operatorId : String}
    (hGuard : UnlinkKeeps deps s inboxId operatorId operator) :
    StepKeeps s (dropInbox deps.safeParse s.operators inboxId operatorId operator).1
      (changesOf [.unlinked inboxId
        (dropInbox deps.safeParse s.operators inboxId operatorId operator).2]) := by
  unfold dropInbox
  rcases OperatorManager.update_cases deps.safeParse s.operators operatorId
      (withoutInbox operator inboxId) with
    ⟨error, hUpdate⟩ | ⟨existing, hGet, hRole, hValid, hUpdate⟩
  · rw [hUpdate]
    exact hKept.same
  · rw [hUpdate]
    have hMine : ∀ other, Lists s.operators other operatorId ↔
        existing.status ≠ .removed ∧ other ∈ inboxes existing :=
      fun other => lists_of_get hGet other
    have hList : ∀ other, existing.status ≠ .removed →
        (other ∈ inboxes operator ∧ other ≠ inboxId ↔
          other ∈ inboxes existing ∧ other ≠ inboxId) := by
      intro other hStatus
      constructor
      · rintro ⟨hMem, hOther⟩
        exact ⟨((hGuard existing hGet hStatus ⟨hRole, hValid⟩).mem_iff hOther).mp hMem, hOther⟩
      · rintro ⟨hMem, hOther⟩
        exact ⟨((hGuard existing hGet hStatus ⟨hRole, hValid⟩).mem_iff hOther).mpr hMem, hOther⟩
    have hId : existing.id = operatorId := hKept.keyed _ _ hGet
    refine @LinksKept.write s hKept operatorId _ (.unlinked operatorId inboxId) hId rfl ?_ ?_
    · intro other
      rw [mem_inboxes_withoutInbox, LinkChange.row, Bool.and_eq_true, links_iff, hMine,
        decide_eq_true_eq, and_assoc]
      exact and_congr_right (hList other)
    · intro other hStatus hMem holder hHolder
      rw [mem_inboxes_withoutInbox] at hMem
      have hOld := ((hList other hStatus).mp hMem).1
      exact hKept.one other holder operatorId (links_iff.mpr hHolder)
        (links_iff.mpr ((hMine other).mpr ⟨hStatus, hOld⟩))

theorem keeps_finishRemove {operatorId : String} (hExisting : existing.id = operatorId)
    (result : Except SignetError Unit) :
    StepKeeps s (OperatorManager.finishRemove s.operators operatorId existing result).1
      (changesOf [.removed operatorId
        (OperatorManager.finishRemove s.operators operatorId existing result).2]) := by
  cases result with
  | error error => exact hKept.same
  | ok _ =>
    refine @LinksKept.write s hKept operatorId _ (.cleared operatorId) hExisting rfl ?_ ?_
    · intro inboxId
      simp [LinkChange.row]
    · intro inboxId hStatus
      exact absurd rfl hStatus

end

/-! ## Runs -/

/-- A step, from its write and from what its call does after it. -/
theorem LinksKept.after {changes : List LinkChange} (hKept : LinksKept s)
    (hKeeps : StepKeeps s operators changes)
    (hFacts : TurnFacts { s with operators := operators } turn changes) :
    LinksKept turn.1 ∧
      links turn.1.operators = (changesOf turn.2).foldl LinkChange.apply (links s.operators) := by
  rw [hFacts.changes]
  have hOperators : turn.1.operators = operators := hFacts.operators
  refine ⟨⟨?_, ?_, ?_⟩, ?_⟩
  · rw [hOperators]
    exact hKeeps.keyed
  · intro call operatorId existing hGet
    exact hKept.revoking call operatorId existing (hFacts.revoking _ _ _ hGet)
  · rw [hOperators]
    exact hKeeps.one
  · rw [hOperators]
    exact hKeeps.links

theorem LinksKept.resume (hKept : LinksKept s) (hStage : s.calls.get call = some stage)
    (hGuard : StageKeeps deps s stage) (hMove : ResumeMove deps s call stage turn) :
    LinksKept turn.1 ∧
      links turn.1.operators = (changesOf turn.2).foldl LinkChange.apply (links s.operators) := by
  cases hMove with
  | quiet hFacts => exact hKept.after hKept.same hFacts
  | link caller inboxId operator hLooked hTurn =>
    subst hLooked hTurn
    exact hKept.after (keeps_addInbox hKept hGuard) (facts_linkReturned caller inboxId _)
  | unlink caller inboxId operatorId operator hLooked hTurn =>
    subst hLooked hTurn
    exact hKept.after (keeps_dropInbox hKept hGuard) (facts_unlinkReturned caller inboxId _)
  | revoke operatorId existing result hRevoking hTurn =>
    subst hRevoking hTurn
    have hExisting := hKept.revoking call operatorId existing hStage
    exact hKept.after (keeps_finishRemove hKept hExisting result) facts_finish

theorem LinksKept.begin (hKept : LinksKept s) {label : InboxLabel}
    (hTurn : beginInbox deps s call label = some turn) :
    LinksKept turn.1 ∧
      links turn.1.operators = (changesOf turn.2).foldl LinkChange.apply (links s.operators) := by
  unfold beginInbox at hTurn
  split at hTurn
  · next operatorId =>
    split at hTurn <;> cases hTurn
    · exact hKept.after hKept.same facts_same
    · next existing hBegin =>
      -- The record that the removal writes back is the one it has read.
      refine ⟨⟨hKept.keyed, ?_, hKept.one⟩, rfl⟩
      intro other operatorId' existing' hGet
      have hSet : (s.calls.set call (.revoking operatorId existing)).get other =
          some (.revoking operatorId' existing') := hGet
      rcases AssocMap.get_set_cases hSet with ⟨-, hValue⟩ | ⟨-, hSet⟩
      · cases hValue
        unfold OperatorManager.beginRemove OperatorManager.lookup at hBegin
        split at hBegin
        · cases hBegin
        · next found hFound =>
          cases hBegin
          exact hKept.keyed _ _ hFound
      · exact hKept.revoking _ _ _ hSet
  · split at hTurn <;> cases hTurn
    · exact hKept.after hKept.same (facts_await (by simp))
    · exact hKept.after hKept.same facts_same
    · exact hKept.after hKept.same (facts_await (by simp))
  · split at hTurn <;> cases hTurn
    · exact hKept.after hKept.same (facts_await (by simp))
    · exact hKept.after hKept.same facts_same
  · cases hTurn
    exact hKept.after hKept.same (facts_await (by simp))
  · cases hTurn
    exact hKept.after hKept.same (facts_await (by simp))
  · cases hTurn

theorem LinksKept.step (hKept : LinksKept s) {label : InboxLabel} {turn : InboxTurn}
    (hGuard : KeepsLinks deps s label) (hStep : inboxStep deps s label = some turn) :
    LinksKept turn.1 ∧
      links turn.1.operators = (changesOf turn.2).foldl LinkChange.apply (links s.operators) := by
  unfold inboxStep at hStep
  split at hStep
  · cases hStep
    exact hKept.after (keeps_create hKept hGuard) facts_same
  · cases hStep
    exact hKept.after (keeps_update hKept hGuard) facts_same
  · split at hStep
    · cases hStep
    · next stage hStage =>
      exact hKept.resume hStage (hGuard stage hStage) (resumeInbox_move hStep)
  · split at hStep
    · cases hStep
    · split at hStep
      · cases hStep
      · exact hKept.begin hStep

theorem linksKept_init : LinksKept (inboxMachine deps).init := by
  refine ⟨?_, ?_, ?_⟩
  · intro operatorId record hGet
    cases hGet
  · intro other operatorId existing hGet
    cases hGet
  · intro inboxId operatorId operatorId' hLinks
    obtain ⟨record, hGet, -⟩ := links_iff.mp hLinks
    cases hGet

/-- After a run whose steps write over no change they have not read, and give no operator an inbox
of another, every inbox has at most one operator, and every link and unlink that has succeeded has
taken effect. -/
theorem links_run {h : List InboxOccurrence} (hRun : (inboxMachine deps).Runs h s)
    (hMeet : AllMeet (KeepsLinks deps) h) :
    OneOperatorPerInbox s.operators ∧
      ∀ inboxId operatorId,
        Lists s.operators inboxId operatorId ↔ ledger h inboxId operatorId = true := by
  have hInv : LinksKept s ∧ links s.operators = ledger h := by
    apply hRun.invariant ?_ ?_ hMeet
    · exact ⟨linksKept_init, rfl⟩
    · intro h₀ t label t' out _ _ hInv hGuard hStep
      have hKept := hInv.1.step hGuard hStep
      rw [hInv.2] at hKept
      exact ⟨hKept.1, hKept.2.trans (ledger_snoc h₀ ⟨t, label, out⟩).symm⟩
  refine ⟨?_, ?_⟩
  · intro inboxId operatorId operatorId' hLists hLists'
    exact hInv.1.one inboxId operatorId operatorId' (links_iff.mpr hLists) (links_iff.mpr hLists')
  · intro inboxId operatorId
    rw [← hInv.2, links_iff]

/-! ## Runs on sample inboxes -/

/-- Every configuration passes, and inboxes have no mapping. -/
def sampleDeps : InboxActionDeps where
  hasOperatorManager := true
  hasIdMappings := false
  hasCleanupInbox := false
  safeParse := fun _ => none

abbrev sampleInboxes : Machine InboxState InboxLabel InboxOutcome := inboxMachine sampleDeps

def aliceId : String := "op_00000000000000a1"

def bobId : String := "op_00000000000000b2"

def workInbox : IdentityRow := ⟨"inbox_0000000000000001", some "net_1", none, some "work", 1⟩

def homeInbox : IdentityRow := ⟨"inbox_0000000000000002", some "net_2", none, some "home", 2⟩

def sampleConfig (label : String) (inboxIds : Option (List String)) : OperatorConfig :=
  { label := label, role := .operator, scopeMode := .shared, inboxIds := inboxIds }

/-- The await of a call on the operator manager is over. -/
def goesOn (call : Nat) : InboxLabel := .resume call .manager fun _ => none

/-- The identity store has found the inbox. -/
def finds (call : Nat) (inbox : IdentityRow) : InboxLabel :=
  .resume call (.resolved (some inbox) (some inbox)) fun _ => none

def linkAlone (call : Nat) (inbox : IdentityRow) (operatorId : String) : List InboxLabel :=
  [.link call inbox.id operatorId, finds call inbox, goesOn call, goesOn call, goesOn call]

def unlinkAlone (call : Nat) (inbox : IdentityRow) : List InboxLabel :=
  [.unlink call inbox.id, finds call inbox, goesOn call, goesOn call]

/-- One call after the other: two inboxes are linked, and one of them moves on. -/
def inTurn : List InboxLabel :=
  [.createOperator 0 aliceId (sampleConfig "alice" none),
    .createOperator 1 bobId (sampleConfig "bob" none)] ++
    linkAlone 1 workInbox aliceId ++ linkAlone 2 homeInbox "alice" ++ unlinkAlone 3 workInbox ++
    linkAlone 4 workInbox bobId

theorem inTurn_keeps :
    sampleInboxes.Executes inTurn fun h _ => AllMeet (KeepsLinks sampleDeps) h := by
  decide

theorem inTurn_links :
    OneOperatorPerInbox
        (sampleInboxes.outcome sampleInboxes.init inTurn inTurn_keeps.goes).2.operators ∧
      ∀ inboxId operatorId,
        Lists (sampleInboxes.outcome sampleInboxes.init inTurn inTurn_keeps.goes).2.operators
            inboxId operatorId ↔
          ledger (sampleInboxes.outcome sampleInboxes.init inTurn inTurn_keeps.goes).1 inboxId
            operatorId = true :=
  links_run inTurn_keeps.runs inTurn_keeps.holds

/-- Two inboxes are linked to one operator at the same time. -/
def atOnce : List InboxLabel :=
  [.createOperator 0 aliceId (sampleConfig "alice" none),
    .link 1 workInbox.id aliceId, .link 2 homeInbox.id aliceId, finds 1 workInbox,
    finds 2 homeInbox, goesOn 1, goesOn 2, goesOn 1, goesOn 2, goesOn 1, goesOn 2]

theorem atOnce_lost :
    sampleInboxes.Executes atOnce fun h s =>
      ledger h workInbox.id aliceId = true ∧ ¬Lists s.operators workInbox.id aliceId := by
  decide

/-- One inbox is linked to two operators at the same time. -/
def toBoth : List InboxLabel :=
  [.createOperator 0 aliceId (sampleConfig "alice" none),
    .createOperator 1 bobId (sampleConfig "bob" none),
    .link 1 workInbox.id aliceId, .link 2 workInbox.id bobId, finds 1 workInbox,
    finds 2 workInbox, goesOn 1, goesOn 2, goesOn 1, goesOn 2, goesOn 1, goesOn 2]

theorem toBoth_shared :
    sampleInboxes.Executes toBoth fun _ s =>
      Lists s.operators workInbox.id aliceId ∧ Lists s.operators workInbox.id bobId := by
  decide

def registeredWith : List InboxLabel :=
  [.createOperator 0 aliceId (sampleConfig "alice" (some [workInbox.id])),
    .createOperator 1 bobId (sampleConfig "bob" (some [workInbox.id]))]

theorem registeredWith_shared :
    sampleInboxes.Executes registeredWith fun _ s =>
      Lists s.operators workInbox.id aliceId ∧ Lists s.operators workInbox.id bobId := by
  decide

theorem not_one_of_shared
    (h : Lists operators workInbox.id aliceId ∧ Lists operators workInbox.id bobId) :
    ¬OneOperatorPerInbox operators := by
  intro hOne
  have hSame : aliceId = bobId := hOne workInbox.id aliceId bobId h.1 h.2
  revert hSame
  decide

/-- Of two links to one operator the first is lost, two links of one inbox both stay, and so do
two lists with one inbox. -/
theorem links_go_wrong :
    (∃ h s, h.map Occurrence.label = atOnce ∧ sampleInboxes.Runs h s ∧
      ledger h workInbox.id aliceId = true ∧ ¬Lists s.operators workInbox.id aliceId) ∧
    (∃ h s, h.map Occurrence.label = toBoth ∧ sampleInboxes.Runs h s ∧
      ¬OneOperatorPerInbox s.operators) ∧
    ∃ h s, h.map Occurrence.label = registeredWith ∧ sampleInboxes.Runs h s ∧
      ¬OneOperatorPerInbox s.operators := by
  refine ⟨atOnce_lost.exists_run, ?_, ?_⟩
  · obtain ⟨h, s, hLabels, hRun, hShared⟩ := toBoth_shared.exists_run
    exact ⟨h, s, hLabels, hRun, not_one_of_shared hShared⟩
  · obtain ⟨h, s, hLabels, hRun, hShared⟩ := registeredWith_shared.exists_run
    exact ⟨h, s, hLabels, hRun, not_one_of_shared hShared⟩

end InboxActions
end Core
end Signet
