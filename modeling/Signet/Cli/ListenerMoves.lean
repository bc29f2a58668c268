import Signet.Cli.InviteHostListener

/-!
# What a step of the listener can do

* `Flight`, `Recovery` — what a task dispatches, and the recovery it belongs to.
* `ListenerStep` — the steps of the listener, one constructor for each kind, with the state
  they lead to; `listenerStep_cases` says that every step is one.
-/

namespace Signet
namespace Cli

open Kit Schemas Signet.Core

/-- A step of the listener with what it made observable. -/
abbrev ListenerOccurrence := Occurrence ListenerState ListenerLabel ListenerObservation

/-! ## Tasks -/

def DispatchStage.isAccepted : DispatchStage → Bool
  | .accepted => true
  | _ => false

/-- A message on its way through the identities. -/
structure Flight where
  event : RawMessageEvent
  accepted : Bool
deriving DecidableEq

def ListenerTask.flight : ListenerTask → Option Flight
  | .candidate event stage _ => some ⟨event, stage.isAccepted⟩
  | _ => none

/-- A recovery, and whether it owes another one. -/
structure Recovery where
  dmId : String
  retryCount : Nat
  owes : Bool
deriving DecidableEq

def ListenerTask.recovery : ListenerTask → Option Recovery
  | .candidate _ _ .event => none
  | .candidate _ _ (.recovery dmId retryCount _ shouldRetry) => some ⟨dmId, retryCount, shouldRetry⟩
  | .scanIdentities dmId retryCount => some ⟨dmId, retryCount, false⟩
  | .scanPage dmId retryCount _ _ progress => some ⟨dmId, retryCount, progress.shouldRetry⟩
  | .recovering dmId retryCount _ shouldRetry => some ⟨dmId, retryCount, shouldRetry⟩

/-- What a task dispatches. -/
def flightOf (s : ListenerState) (task : Nat) : Option Flight :=
  (s.tasks.get task).bind ListenerTask.flight

/-- The task goes on with the same recovery, which owes at least what it did. -/
def ListenerTask.GoesOnAs (running later : ListenerTask) : Prop :=
  ∀ recovery, running.recovery = some recovery →
    ∃ onward, later.recovery = some onward ∧ onward.dmId = recovery.dmId ∧
      onward.retryCount = recovery.retryCount ∧ (recovery.owes = true → onward.owes = true)

theorem ListenerTask.goesOnAs_of_eq {running later : ListenerTask}
    (h : later.recovery = running.recovery) : running.GoesOnAs later := by
  intro recovery hRecovery
  exact ⟨recovery, h.trans hRecovery, rfl, rfl, id⟩

/-! ## Steps -/

variable (deps : ListenerDeps)

/-- A step of the listener. -/
inductive ListenerStep (s : ListenerState) (label : ListenerLabel) : ListenerTurn → Prop
  | ignored (task : Nat) (event : RawMessageEvent) :
      label.event = .message task event → ListenerStep s label (s, [])
  /-- A message has been accepted or is in flight. -/
  | leftOut (task : Nat) (event : RawMessageEvent) :
      label.event = .message task event → skipsCandidate s event = true →
      ListenerStep s label (s, [.processed event true false])
  /-- A message is dispatched as it comes. -/
  | arrived (task : Nat) (event : RawMessageEvent) :
      label.event = .message task event → s.tasks.get task = none →
      skipsCandidate s event = false →
      ListenerStep s label (startCandidate s task event .event, [])
  /-- A direct message is scanned since it has been joined. -/
  | joined (task : Nat) (dmId : String) :
      label.event = .dmJoined task dmId → s.tasks.get task = none →
      ListenerStep s label ({ s with tasks := s.tasks.set task (.scanIdentities dmId 0) }, [])
  /-- A direct message is scanned again. -/
  | retried (task : Nat) (dmId : String) (timer : RetryTimer) :
      label.event = .retryTimer task dmId → s.recoveryRetryTimers.get dmId = some timer →
      s.tasks.get task = none →
      ListenerStep s label ({ s with
        recoveryRetryTimers := s.recoveryRetryTimers.delete dmId
        tasks := s.tasks.set task (.scanIdentities dmId timer.retryCount) }, [])
  | expired (requestKey : String) (dueAt : Int) :
      label.event = .keyTimer requestKey →
      s.processedInviteKeyTimers.get requestKey = some dueAt → dueAt ≤ label.now →
      ListenerStep s label ({ s with
        processedInviteKeys := s.processedInviteKeys.erase requestKey
        processedInviteKeyTimers := s.processedInviteKeyTimers.delete requestKey }, [])
  | stopped :
      label.event = .stop →
      ListenerStep s label ({ s with
        recoveryRetryTimers := .empty
        processedInviteKeyTimers := .empty
        stopped := true }, [])
  /-- A task comes to another await. -/
  | onward (task : Nat) (answer : ListenerAnswer) (running later : ListenerTask)
      (out : List ListenerObservation) :
      label.event = .answer task answer → s.tasks.get task = some running →
      later.flight = running.flight → running.GoesOnAs later →
      (∀ acceptance, .accepted acceptance ∉ out) →
      (∀ event accepted shouldRetry, .processed event accepted shouldRetry ∉ out) →
      ListenerStep s label ({ s with tasks := s.tasks.set task later }, out)
  /-- A candidate of a recovery is dispatched. -/
  | begun (task : Nat) (answer : ListenerAnswer) (dmId : String) (retryCount : Nat)
      (event : RawMessageEvent) (rest : List RawMessageEvent) (shouldRetry : Bool) :
      label.event = .answer task answer →
      s.tasks.get task = some (.recovering dmId retryCount (event :: rest) shouldRetry) →
      skipsCandidate s event = false →
      ListenerStep s label
        (startCandidate s task event (.recovery dmId retryCount rest shouldRetry), [])
  /-- A candidate of a recovery has been accepted or is in flight. -/
  | skipped (task : Nat) (answer : ListenerAnswer) (dmId : String) (retryCount : Nat)
      (event : RawMessageEvent) (rest : List RawMessageEvent) (shouldRetry : Bool) :
      label.event = .answer task answer →
      s.tasks.get task = some (.recovering dmId retryCount (event :: rest) shouldRetry) →
      skipsCandidate s event = true →
      ListenerStep s label
        (recoverLater s task dmId retryCount shouldRetry rest, [.processed event true false])
  | accepted (task : Nat) (answer : ListenerAnswer) (event : RawMessageEvent)
      (next : AfterCandidate) (host : DispatchHost) (verified : VerifiedInvite)
      (progress : DispatchProgress) :
      label.event = .answer task answer →
      s.tasks.get task = some (.candidate event (.adding host verified progress) next) →
      ListenerStep s label (acceptCandidate deps label.now s task event next host verified)
  /-- A candidate has its result. -/
  | ended (task : Nat) (answer : ListenerAnswer) (event : RawMessageEvent)
      (stage : DispatchStage) (next : AfterCandidate) (accepted shouldRetry : Bool) :
      label.event = .answer task answer →
      s.tasks.get task = some (.candidate event stage next) →
      stage.isAccepted = accepted →
      ListenerStep s label (finishCandidate s task event accepted shouldRetry next)
  | broken (task : Nat) (event : RawMessageEvent) (stage : DispatchStage)
      (next : AfterCandidate) :
      label.event = .answer task .thrown →
      s.tasks.get task = some (.candidate event stage next) →
      ListenerStep s label
        ({ leaveFlight s event with tasks := s.tasks.delete task }, [])
  | scanBroken (task : Nat) (running : ListenerTask) :
      label.event = .answer task .thrown → s.tasks.get task = some running →
      running.flight = none →
      ListenerStep s label ({ s with tasks := s.tasks.delete task }, [])
  /-- A recovery has no candidates left. -/
  | recovered (task : Nat) (answer : ListenerAnswer) (dmId : String) (retryCount : Nat)
      (shouldRetry : Bool) :
      label.event = .answer task answer →
      s.tasks.get task = some (.recovering dmId retryCount [] shouldRetry) →
      ListenerStep s label (finishRecovery label.now s task dmId retryCount shouldRetry, [])

section

variable {s : ListenerState} {label : ListenerLabel} {task : Nat} {answer : ListenerAnswer}
  {event : RawMessageEvent} {stage : DispatchStage} {next : AfterCandidate}

section

variable (hEvent : label.event = .answer task answer)
  (hTask : s.tasks.get task = some (.candidate event stage next))

include hEvent hTask

section

variable (hStage : stage.isAccepted = false)

include hStage

/-- A dispatch that goes on is in flight as before. -/
theorem onward_candidate (later : DispatchStage) (hLater : later.isAccepted = false)
    {out : List ListenerObservation} (hAccepted : ∀ acceptance, .accepted acceptance ∉ out)
    (hProcessed : ∀ event accepted shouldRetry,
      ListenerObservation.processed event accepted shouldRetry ∉ out) :
    ListenerStep deps s label
      ({ s with tasks := s.tasks.set task (.candidate event later next) }, out) := by
  refine .onward task answer _ _ out hEvent hTask ?_ (ListenerTask.goesOnAs_of_eq ?_) hAccepted
    hProcessed
  · simp only [ListenerTask.flight, hStage, hLater]
  · cases next <;> rfl

theorem step_concludeDispatch (lastError : Option SignetError) (shouldRetry : Bool) :
    ListenerStep deps s label (concludeDispatch s task event next lastError shouldRetry) := by
  unfold concludeDispatch
  split
  · exact .ended task answer event stage next false shouldRetry hEvent hTask hStage
  · split
    · exact .ended task answer event stage next false shouldRetry hEvent hTask hStage
    · refine onward_candidate deps hEvent hTask hStage .rejected rfl ?_ ?_
      · intro acceptance hMem
        cases List.mem_singleton.mp hMem
      · intro event' accepted shouldRetry' hMem
        cases List.mem_singleton.mp hMem

theorem step_nextIdentity (managed : String → Bool) (lastError : Option SignetError)
    (shouldRetry : Bool) (identities : List ManagedIdentity) :
    ListenerStep deps s label
      (nextIdentity managed s task event next lastError shouldRetry identities) := by
  induction identities generalizing shouldRetry with
  | nil => exact step_concludeDispatch deps hEvent hTask hStage lastError shouldRetry
  | cons identity remaining ih =>
    unfold nextIdentity
    split
    · exact ih true
    · next inboxId _ =>
      split
      · exact onward_candidate deps hEvent hTask hStage
          (.walletKey ⟨identity.id, inboxId⟩ ⟨remaining, lastError, shouldRetry⟩) rfl
          (fun _ hMem => nomatch hMem) (fun _ _ _ hMem => nomatch hMem)
      · exact ih true

end

theorem step_resumeCandidate {turn : ListenerTurn}
    (h : resumeCandidate deps label.now label.managed s task event next stage answer = some turn) :
    ListenerStep deps s label turn := by
  unfold resumeCandidate at h
  split at h
  · cases h
    exact step_nextIdentity deps hEvent hTask rfl _ _ _ _
  · next host progress result =>
    split at h
    · cases h
      exact step_nextIdentity deps hEvent hTask rfl _ _ _ _
    · split at h <;> cases h
      · exact step_nextIdentity deps hEvent hTask rfl _ _ _ _
      · next verified _ =>
        exact onward_candidate deps hEvent hTask rfl (.tag host verified progress) rfl
          (fun _ hMem => nomatch hMem) (fun _ _ _ hMem => nomatch hMem)
  · next host verified progress result =>
    split at h
    · cases h
      exact step_nextIdentity deps hEvent hTask rfl _ _ _ _
    · cases h
      refine onward_candidate deps hEvent hTask rfl (.adding host verified progress) rfl ?_ ?_
      · intro acceptance hMem
        cases List.mem_singleton.mp hMem
      · intro event' accepted shouldRetry hMem
        cases List.mem_singleton.mp hMem
  · next host verified progress result =>
    split at h
    · cases h
      exact step_nextIdentity deps hEvent hTask rfl _ _ _ _
    · cases h
      exact .accepted task _ event next host verified progress hEvent hTask
  · cases h
    exact .ended task _ event _ next true false hEvent hTask rfl
  · cases h
    exact .ended task _ event _ next false false hEvent hTask rfl
  · cases h
  · cases h
  · cases h
    exact .broken task event _ next hEvent hTask
  · cases h

end

variable {retryCount : Nat} {dmId : String}

variable (hEvent : label.event = .answer task answer)

include hEvent

theorem step_nextScanIdentity {running : ListenerTask} {owes shouldRetry : Bool}
    (hTask : s.tasks.get task = some running) (hFlight : running.flight = none)
    (hRecovery : running.recovery = some ⟨dmId, retryCount, owes⟩)
    (hOwes : owes = true → shouldRetry = true) (managed : String → Bool)
    (messages : AssocMap String RawMessageEvent) (identities : List ManagedIdentity) :
    ListenerStep deps s label
      (nextScanIdentity managed s task dmId retryCount messages shouldRetry identities, []) := by
  have hGoesOn : ∀ later : ListenerTask,
      later.recovery = some ⟨dmId, retryCount, shouldRetry⟩ → running.GoesOnAs later := by
    intro later hLater recovery hEq
    rw [hRecovery] at hEq
    cases hEq
    exact ⟨_, hLater, rfl, rfl, hOwes⟩
  induction identities with
  | nil =>
    exact .onward task answer running _ [] hEvent hTask hFlight.symm (hGoesOn _ rfl)
      (fun _ hMem => nomatch hMem) (fun _ _ _ hMem => nomatch hMem)
  | cons identity remaining ih =>
    unfold nextScanIdentity
    split
    · exact .onward task answer running _ [] hEvent hTask hFlight.symm (hGoesOn _ rfl)
        (fun _ hMem => nomatch hMem) (fun _ _ _ hMem => nomatch hMem)
    · exact ih

theorem step_resumePage {identityId : String} {before : Option String} {progress : ScanProgress}
    (hTask : s.tasks.get task = some (.scanPage dmId retryCount identityId before progress))
    (managed : String → Bool) (result : Except SignetError (List RawMessageEvent)) :
    ListenerStep deps s label
      (resumePage managed s task dmId retryCount identityId progress result, []) := by
  unfold resumePage
  split
  · refine step_nextScanIdentity deps hEvent hTask rfl rfl ?_ _ _ _
    intro hOwes
    simp [hOwes]
  · dsimp only
    split
    · exact step_nextScanIdentity deps hEvent hTask rfl rfl id _ _ _
    · exact .onward task answer _ _ [] hEvent hTask rfl (ListenerTask.goesOnAs_of_eq rfl)
        (fun _ hMem => nomatch hMem) (fun _ _ _ hMem => nomatch hMem)

theorem step_nextCandidate {rest : List RawMessageEvent} {shouldRetry : Bool}
    (hTask : s.tasks.get task = some (.recovering dmId retryCount rest shouldRetry)) :
    ListenerStep deps s label
      (nextCandidate label.now s task dmId retryCount shouldRetry rest) := by
  cases rest with
  | nil => exact .recovered task answer dmId retryCount shouldRetry hEvent hTask
  | cons event rest =>
    simp only [nextCandidate]
    split
    · next hSkip =>
      exact .skipped task answer dmId retryCount event rest shouldRetry hEvent hTask hSkip
    · next hSkip =>
      exact .begun task answer dmId retryCount event rest shouldRetry hEvent hTask
        (Bool.eq_false_iff.mpr hSkip)

end

/-- Every step is one of these. -/
theorem listenerStep_cases {s : ListenerState} {label : ListenerLabel} {turn : ListenerTurn}
    (h : listenerStep deps s label = some turn) : ListenerStep deps s label turn := by
  obtain ⟨now, managed, event⟩ := label
  cases event with
  | message task event =>
    simp only [listenerStep] at h
    split at h
    · cases h
    · next hFree =>
      simp only [Bool.or_eq_true, not_or, Bool.not_eq_true, Option.isSome_eq_false_iff,
        Option.isNone_iff_eq_none] at hFree
      split at h
      · cases h
        exact .ignored task event rfl
      · split at h <;> cases h
        · next hSkip => exact .leftOut task event rfl hSkip
        · next hSkip => exact .arrived task event rfl hFree.2 (Bool.eq_false_iff.mpr hSkip)
  | dmJoined task dmId =>
    simp only [listenerStep] at h
    split at h
    · cases h
    · next hFree =>
      simp only [Bool.or_eq_true, not_or, Bool.not_eq_true, Option.isSome_eq_false_iff,
        Option.isNone_iff_eq_none] at hFree
      cases h
      exact .joined task dmId rfl hFree.2
  | retryTimer task dmId =>
    simp only [listenerStep] at h
    split at h
    · cases h
    · next timer hTimer =>
      split at h
      · cases h
      · next hReady =>
        simp only [Bool.or_eq_true, not_or, Bool.not_eq_true, Option.isSome_eq_false_iff,
          Option.isNone_iff_eq_none] at hReady
        cases h
        exact .retried task dmId timer rfl hTimer hReady.2
  | keyTimer requestKey =>
    simp only [listenerStep] at h
    split at h
    · cases h
    · next dueAt hTimer =>
      split at h
      · cases h
      · next hDue =>
        cases h
        exact .expired requestKey dueAt rfl hTimer (Int.not_lt.mp hDue)
  | answer task answer =>
    obtain ⟨running, hTask, hResume⟩ := Option.bind_eq_some_iff.mp h
    cases running with
    | candidate event stage next => exact step_resumeCandidate deps rfl hTask hResume
    | scanIdentities dmId retryCount =>
      simp only [resumeTask] at hResume
      split at hResume <;> cases hResume
      · exact step_nextScanIdentity deps rfl hTask rfl rfl (fun h => h) _ _ _
      · exact .scanBroken task _ rfl hTask rfl
    | scanPage dmId retryCount identityId before progress =>
      simp only [resumeTask] at hResume
      split at hResume <;> cases hResume
      · exact step_resumePage deps rfl hTask _ _
      · exact .scanBroken task _ rfl hTask rfl
    | recovering dmId retryCount rest shouldRetry =>
      simp only [resumeTask] at hResume
      split at hResume <;> cases hResume
      exact step_nextCandidate deps rfl hTask
  | stop =>
    simp only [listenerStep] at h
    split at h <;> cases h
    exact .stopped rfl

end Cli
end Signet
