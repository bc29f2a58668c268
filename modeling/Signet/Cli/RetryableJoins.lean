import Signet.Cli.InviteDedupe

/-!
# Joins that may succeed later

A recovery that has had a candidate fail in a way that may pass owes another one of its
direct message.  A message that is dispatched as it comes has nobody who owes anything for
it, and a recovery that leaves a candidate out since it is in flight counts it as accepted.

* `Scheduled` — a timer is set, or a recovery owes one.
* `NoJoinDropped` — what failed, or was left out, has another attempt coming.
* `KeepsAttempts` — the steps that leave it so.
* `no_join_dropped_iff` — in every run, exactly these.
-/

namespace Signet
namespace Cli

open Kit Machine Schemas Signet.Core

/-! ## Attempts -/

/-- A task with a recovery of the direct message that owes another one. -/
def OwedBy (s : ListenerState) (dmId : String) (task : Nat) : Prop :=
  ∃ running recovery, s.tasks.get task = some running ∧ running.recovery = some recovery ∧
    recovery.dmId = dmId ∧ recovery.owes = true

/-- Another recovery of the direct message is on its way, whatever becomes of a task. -/
def ScheduledBesides (s : ListenerState) (dmId : String) (task : Nat) : Prop :=
  (s.recoveryRetryTimers.get dmId).isSome = true ∨ ∃ other, other ≠ task ∧ OwedBy s dmId other

/-- Another recovery of the direct message is on its way. -/
def Scheduled (s : ListenerState) (dmId : String) : Prop :=
  (s.recoveryRetryTimers.get dmId).isSome = true ∨ ∃ task, OwedBy s dmId task

/-- The timer of the direct message fires, and it is scanned again. -/
def Attempts (o : ListenerOccurrence) (dmId : String) : Prop :=
  ∃ task, o.label.event = .retryTimer task dmId

/-- A recovery of the direct message is over, and the limit forbids another one. -/
def Exhausts (o : ListenerOccurrence) (dmId : String) : Prop :=
  ∃ task answer retryCount, o.label.event = .answer task answer ∧
    o.pre.tasks.get task = some (.recovering dmId retryCount [] true) ∧
    maxDmRecoveryRetries ≤ retryCount

/-- The attempt is scheduled still, or it has been made, or the limit has been reached, or
the listener has been stopped. -/
def AttemptKept (dmId : String) (later : List ListenerOccurrence) (s : ListenerState) : Prop :=
  Scheduled s dmId ∨ s.stopped = true ∨ ∃ o ∈ later, Attempts o dmId ∨ Exhausts o dmId

/-! ## Joins that fail -/

/-- The direct message in which a candidate has been found. -/
def AfterCandidate.dmOf (event : RawMessageEvent) : AfterCandidate → String
  | .event => event.groupId
  | .recovery dmId _ _ _ => dmId

/-- The dispatch of a task ends without an acceptance, and with an error that may pass. -/
structure FailsRetryably (o : ListenerOccurrence) (task : Nat) (event : RawMessageEvent)
    (next : AfterCandidate) : Prop where
  running : ∃ answer stage, o.label.event = .answer task answer ∧
    o.pre.tasks.get task = some (.candidate event stage next)
  result : .processed event false true ∈ o.out

/-- The message is new, but the task dispatches it, or another one with its request. -/
structure DispatchedBy (s : ListenerState) (event : RawMessageEvent) (task : Nat) : Prop where
  processedId : event.messageId ∉ s.processedMessageIds
  processedKey : ∀ key, resolveInviteRequestKey event = some key → key ∉ s.processedInviteKeys
  flight : ∃ flight, flightOf s task = some flight ∧
    (flight.event.messageId = event.messageId ∨ SameRequest flight.event event)

/-- A recovery of the direct message leaves a candidate out since the task dispatches it. -/
structure SkipsFor (o : ListenerOccurrence) (dmId : String) (event : RawMessageEvent)
    (task : Nat) : Prop where
  recovering : ∃ own answer retryCount rest shouldRetry, o.label.event = .answer own answer ∧
    o.pre.tasks.get own = some (.recovering dmId retryCount (event :: rest) shouldRetry)
  dispatched : DispatchedBy o.pre event task

def InFlightAlong (h : List ListenerOccurrence) (task : Nat) : Prop :=
  ∀ o ∈ h, (flightOf o.pre task).isSome = true

/-- The dispatch of the task is one for the direct message: its candidate has been found
there, or a message that came from there has been left out since the task dispatches it. -/
def DispatchesFor (h : List ListenerOccurrence) (task : Nat) (event : RawMessageEvent)
    (next : AfterCandidate) (dmId : String) : Prop :=
  next.dmOf event = dmId ∨ ∃ h₁ o h₂ own message, h = h₁ ++ o :: h₂ ∧
    o.label.event = .message own message ∧ isInviteCandidate message = true ∧
    DispatchedBy o.pre message task ∧ message.groupId = dmId ∧ InFlightAlong h₂ task

/-- What a dispatch for a direct message has failed with may pass, and the direct message has
another attempt coming.  A recovery calls no candidate accepted that it leaves out for such a
dispatch. -/
structure NoJoinDropped (h : List ListenerOccurrence) (s : ListenerState) : Prop where
  failed : ∀ h₁ o h₂ task event next dmId, h = h₁ ++ o :: h₂ →
    FailsRetryably o task event next → DispatchesFor h₁ task event next dmId →
      AttemptKept dmId h₂ s
  skipped : ∀ h₁ o h₂ p h₃ dmId event task event' next, h = h₁ ++ o :: (h₂ ++ p :: h₃) →
    SkipsFor o dmId event task → InFlightAlong h₂ task → FailsRetryably p task event' next →
      AttemptKept dmId h₃ s ∧ .processed event true false ∉ o.out

/-- A recovery has left a candidate out for what the task dispatches now. -/
def SkippedFor (h : List ListenerOccurrence) (task : Nat) : Prop :=
  ∃ h₁ o h₂ dmId event, h = h₁ ++ o :: h₂ ∧ SkipsFor o dmId event task ∧ InFlightAlong h₂ task

/-- A dispatch for the direct message has failed, and there has been no attempt since. -/
def Owed (h : List ListenerOccurrence) (dmId : String) : Prop :=
  ∃ h₁ o h₂ task event next, h = h₁ ++ o :: h₂ ∧ FailsRetryably o task event next ∧
    DispatchesFor h₁ task event next dmId ∧
    ∀ later ∈ h₂, ¬ (Attempts later dmId ∨ Exhausts later dmId)

/-- A recovery of the direct message goes on after the candidate. -/
def AfterCandidate.Recovers (dmId : String) (next : AfterCandidate) : Prop :=
  ∃ retryCount rest shouldRetry, next = .recovery dmId retryCount rest shouldRetry

/-- A dispatch for a direct message fails in a way that may pass only if it is of a recovery
of that, or while that has an attempt coming; no dispatch does for which a recovery has left
a candidate out; and no recovery that owes an attempt is broken off while nothing else has
it. -/
structure KeepsAttempts (h : List ListenerOccurrence) (o : ListenerOccurrence) : Prop where
  recovers : ∀ task event next dmId, FailsRetryably o task event next →
    DispatchesFor h task event next dmId →
      next.Recovers dmId ∨ Scheduled o.pre dmId ∨ o.pre.stopped = true
  unskipped : ∀ task event next, FailsRetryably o task event next → ¬ SkippedFor h task
  unbroken : ∀ task dmId, o.label.event = .answer task .thrown → OwedBy o.pre dmId task →
    Owed h dmId → ScheduledBesides o.pre dmId task ∨ o.pre.stopped = true

/-! ## What a step leaves scheduled -/

variable {deps : ListenerDeps} {s t : ListenerState} {label : ListenerLabel}
  {out : List ListenerObservation} {dmId : String} {task : Nat}

theorem scheduled_of_besides (h : ScheduledBesides s dmId task) : Scheduled s dmId := by
  rcases h with hTimer | ⟨other, -, hOwed⟩
  · exact Or.inl hTimer
  · exact Or.inr ⟨other, hOwed⟩

theorem besides_of_scheduled (h : Scheduled s dmId) :
    OwedBy s dmId task ∨ ScheduledBesides s dmId task := by
  rcases h with hTimer | ⟨other, hOwed⟩
  · exact Or.inr (Or.inl hTimer)
  · by_cases hEq : other = task
    · exact Or.inl (hEq ▸ hOwed)
    · exact Or.inr (Or.inr ⟨other, hEq, hOwed⟩)

theorem OwedBy.congr (h : OwedBy s dmId task) (hTask : t.tasks.get task = s.tasks.get task) :
    OwedBy t dmId task := by
  obtain ⟨running, recovery, hGet, hRecovery⟩ := h
  exact ⟨running, recovery, hTask.trans hGet, hRecovery⟩

theorem besides_congr (hTimers : t.recoveryRetryTimers = s.recoveryRetryTimers)
    (hOthers : ∀ other, other ≠ task → t.tasks.get other = s.tasks.get other) :
    ScheduledBesides t dmId task ↔ ScheduledBesides s dmId task := by
  unfold ScheduledBesides
  rw [hTimers]
  refine or_congr_right (exists_congr fun other => and_congr_right fun hNe => ?_)
  exact ⟨fun hOwed => hOwed.congr (hOthers other hNe).symm,
    fun hOwed => hOwed.congr (hOthers other hNe)⟩

theorem scheduled_iff_besides (hNone : ¬ OwedBy s dmId task) :
    Scheduled s dmId ↔ ScheduledBesides s dmId task :=
  ⟨fun h => (besides_of_scheduled h).resolve_left hNone, scheduled_of_besides⟩

variable {later : ListenerTask} {stage : DispatchStage}

theorem get_of_set (hTasks : t.tasks = s.tasks.set task later) (other : Nat) (hNe : other ≠ task) :
    t.tasks.get other = s.tasks.get other := by
  rw [hTasks, AssocMap.get_set_of_ne _ _ hNe]

theorem get_of_delete (hTasks : t.tasks = s.tasks.delete task) (other : Nat)
    (hNe : other ≠ task) : t.tasks.get other = s.tasks.get other := by
  rw [hTasks, AssocMap.get_delete, if_neg hNe]

section

variable (h : Scheduled s dmId) (hTimers : t.recoveryRetryTimers = s.recoveryRetryTimers)
  (hTasks : t.tasks = s.tasks.set task later)

include h hTimers hTasks

theorem Scheduled.set
    (hGoesOn : ∀ running, s.tasks.get task = some running → running.GoesOnAs later) :
    Scheduled t dmId := by
  rcases @besides_of_scheduled _ _ task h with hOwn | hElse
  · obtain ⟨running, recovery, hGet, hRecovery, hDm, hOwes⟩ := hOwn
    obtain ⟨onward, hOnward, hSame, -, hStill⟩ := hGoesOn running hGet recovery hRecovery
    refine Or.inr ⟨task, later, onward, ?_, hOnward, hSame.trans hDm, hStill hOwes⟩
    rw [hTasks, AssocMap.get_set_self]
  · exact scheduled_of_besides ((besides_congr hTimers (get_of_set hTasks)).mpr hElse)

/-- So does a task that is new, -/
theorem Scheduled.start (hNone : s.tasks.get task = none) : Scheduled t dmId := by
  refine h.set hTimers hTasks ?_
  intro running hGet
  rw [hNone] at hGet
  cases hGet

theorem Scheduled.goOn {running : ListenerTask} (hTask : s.tasks.get task = some running)
    (hGoesOn : running.GoesOnAs later) : Scheduled t dmId := by
  refine h.set hTimers hTasks ?_
  intro running' hGet
  rw [hTask] at hGet
  cases hGet
  exact hGoesOn

end

/-- A timer that fires takes only its own direct message off. -/
theorem Scheduled.fire {fired : String} (h : Scheduled s dmId)
    (hTimers : t.recoveryRetryTimers = s.recoveryRetryTimers.delete fired)
    (hTasks : t.tasks = s.tasks.set task later) (hNone : s.tasks.get task = none)
    (hOther : dmId ≠ fired) : Scheduled t dmId := by
  rcases h with hTimer | ⟨other, hOwed⟩
  · refine Or.inl ?_
    rw [hTimers, AssocMap.get_delete, if_neg hOther]
    exact hTimer
  · refine Or.inr ⟨other, hOwed.congr ?_⟩
    obtain ⟨running, -, hGet, -⟩ := hOwed
    refine get_of_set hTasks other ?_
    rintro rfl
    rw [hNone] at hGet
    cases hGet

theorem scheduled_of_gone (h : Scheduled s dmId)
    (hTimers : t.recoveryRetryTimers = s.recoveryRetryTimers)
    (hTasks : t.tasks = s.tasks.delete task) :
    Scheduled t dmId ∨ OwedBy s dmId task ∧ ¬ ScheduledBesides s dmId task := by
  by_cases hElse : ScheduledBesides s dmId task
  · exact Or.inl (scheduled_of_besides ((besides_congr hTimers (get_of_delete hTasks)).mpr hElse))
  · exact Or.inr ⟨(besides_of_scheduled h).resolve_right hElse, hElse⟩

/-- Nobody owes anything for a message that came by itself. -/
theorem not_owedBy_event {event : RawMessageEvent}
    (hTask : s.tasks.get task = some (.candidate event stage .event)) : ¬ OwedBy s dmId task := by
  rintro ⟨running, recovery, hGet, hRecovery, -⟩
  rw [hTask] at hGet
  cases hGet
  cases hRecovery

/-- The end of a recovery sets the timer that it owes, unless it comes to the limit, and
leaves those that are set. -/
theorem scheduled_finishRecovery {own : String} {retryCount : Nat} {shouldRetry : Bool}
    (now : Int) (hTask : s.tasks.get task = some (.recovering own retryCount [] shouldRetry))
    (h : Scheduled s dmId) :
    Scheduled (finishRecovery now s task own retryCount shouldRetry) dmId ∨
      own = dmId ∧ shouldRetry = true ∧ maxDmRecoveryRetries ≤ retryCount := by
  have hTimer : (s.recoveryRetryTimers.get dmId).isSome = true →
      Scheduled (finishRecovery now s task own retryCount shouldRetry) dmId := by
    intro hSome
    unfold finishRecovery
    dsimp only
    split
    · exact Or.inl hSome
    · refine Or.inl ?_
      rw [AssocMap.get_set]
      split
      · rfl
      · exact hSome
  rcases @besides_of_scheduled _ _ task h with hOwn | hSome | ⟨other, hNe, hOwed⟩
  · -- the recovery itself owes the attempt
    obtain ⟨running, recovery, hGet, hRecovery, hDm, hOwes⟩ := hOwn
    rw [hTask] at hGet
    cases hGet
    cases hRecovery
    simp only at hDm hOwes
    subst hDm
    subst hOwes
    by_cases hLimit : maxDmRecoveryRetries ≤ retryCount
    · exact Or.inr ⟨rfl, rfl, hLimit⟩
    · by_cases hSome : (s.recoveryRetryTimers.get own).isSome = true
      · exact Or.inl (hTimer hSome)
      · refine Or.inl (Or.inl ?_)
        simp [finishRecovery, hLimit, hSome]
  · exact Or.inl (hTimer hSome)
  · refine Or.inl (Or.inr ⟨other, hOwed.congr ?_⟩)
    unfold finishRecovery
    dsimp only
    split
    · rw [AssocMap.get_delete, if_neg hNe]
    · rw [AssocMap.get_delete, if_neg hNe]

/-- A step leaves what is scheduled, or makes the attempt, or comes to the limit, or stops
the listener, or breaks off the recovery that owes it. -/
theorem scheduled_step (hStep : ListenerStep deps s label (t, out)) (h : Scheduled s dmId) :
    AttemptKept dmId [⟨s, label, out⟩] t ∨
      ∃ task, label.event = .answer task .thrown ∧ OwedBy s dmId task ∧
        ¬ ScheduledBesides s dmId task := by
  generalize hTurn : (t, out) = turn at hStep
  cases hStep with
  | ignored task event hEvent =>
    cases hTurn
    exact Or.inl (Or.inl h)
  | leftOut task event hEvent hSkip =>
    cases hTurn
    exact Or.inl (Or.inl h)
  | arrived task event hEvent hTask hFresh =>
    cases hTurn
    exact Or.inl (Or.inl (h.start rfl rfl hTask))
  | joined task dmId' hEvent hTask =>
    cases hTurn
    exact Or.inl (Or.inl (h.start rfl rfl hTask))
  | retried task dmId' timer hEvent hTimer hTask =>
    cases hTurn
    by_cases hDm : dmId = dmId'
    · subst hDm
      exact Or.inl (Or.inr (Or.inr ⟨_, List.mem_singleton.mpr rfl, Or.inl ⟨task, hEvent⟩⟩))
    · exact Or.inl (Or.inl (h.fire rfl rfl hTask hDm))
  | expired requestKey dueAt hEvent hTimer hDue =>
    cases hTurn
    exact Or.inl (Or.inl h)
  | stopped hEvent =>
    cases hTurn
    exact Or.inl (Or.inr (Or.inl rfl))
  | onward task answer running later out' hEvent hTask hFlight hGoesOn hAccepted hProcessed =>
    cases hTurn
    exact Or.inl (Or.inl (h.goOn rfl rfl hTask hGoesOn))
  | begun task answer dmId' retryCount event rest shouldRetry hEvent hTask hFresh =>
    cases hTurn
    exact Or.inl (Or.inl (h.goOn rfl rfl hTask (ListenerTask.goesOnAs_of_eq rfl)))
  | skipped task answer dmId' retryCount event rest shouldRetry hEvent hTask hSkip =>
    cases hTurn
    exact Or.inl (Or.inl (h.goOn rfl rfl hTask (ListenerTask.goesOnAs_of_eq rfl)))
  | accepted task answer event next host verified progress hEvent hTask =>
    have hAfter : t = (acceptCandidate deps label.now s task event next host verified).1 :=
      congrArg Prod.fst hTurn
    have hBoth : t.recoveryRetryTimers = s.recoveryRetryTimers ∧
        t.tasks = s.tasks.set task (.candidate event .accepted next) := by
      rw [hAfter]
      unfold acceptCandidate
      dsimp only
      split <;> exact ⟨rfl, rfl⟩
    refine Or.inl (Or.inl (h.goOn hBoth.1 hBoth.2 hTask ?_))
    exact ListenerTask.goesOnAs_of_eq (by cases next <;> rfl)
  | ended task answer event stage next accepted shouldRetry hEvent hTask hStage =>
    cases hTurn
    cases next with
    | event =>
      rcases @scheduled_of_gone s (finishCandidate s task event accepted shouldRetry .event).1
        dmId task h rfl rfl with hAfter | ⟨hOwed, -⟩
      · exact Or.inl (Or.inl hAfter)
      · exact absurd hOwed (not_owedBy_event hTask)
    | recovery dmId' retryCount rest owed =>
      refine Or.inl (Or.inl (h.goOn rfl rfl hTask ?_))
      intro recovery hRecovery
      cases hRecovery
      refine ⟨_, rfl, rfl, rfl, ?_⟩
      intro hOwes
      simp only at hOwes
      simp [hOwes]
  | broken task event stage next hEvent hTask =>
    cases hTurn
    rcases @scheduled_of_gone s { leaveFlight s event with tasks := s.tasks.delete task }
      dmId task h rfl rfl with hAfter | hOwed
    · exact Or.inl (Or.inl hAfter)
    · exact Or.inr ⟨task, hEvent, hOwed⟩
  | scanBroken task running hEvent hTask hFlight =>
    cases hTurn
    rcases @scheduled_of_gone s { s with tasks := s.tasks.delete task } dmId task h rfl rfl
      with hAfter | hOwed
    · exact Or.inl (Or.inl hAfter)
    · exact Or.inr ⟨task, hEvent, hOwed⟩
  | recovered task answer dmId' retryCount shouldRetry hEvent hTask =>
    cases hTurn
    rcases scheduled_finishRecovery label.now hTask h with hAfter | ⟨rfl, rfl, hLimit⟩
    · exact Or.inl (Or.inl hAfter)
    · exact Or.inl (Or.inr (Or.inr ⟨_, List.mem_singleton.mpr rfl,
        Or.inr ⟨task, answer, retryCount, hEvent, hTask, hLimit⟩⟩))

theorem stopped_step (hStep : ListenerStep deps s label (t, out)) (h : s.stopped = true) :
    t.stopped = true := by
  generalize hTurn : (t, out) = turn at hStep
  cases hStep with
  | stopped hEvent =>
    cases hTurn
    rfl
  | accepted task answer event next host verified progress hEvent hTask =>
    have hAfter : t = (acceptCandidate deps label.now s task event next host verified).1 :=
      congrArg Prod.fst hTurn
    rw [hAfter]
    unfold acceptCandidate
    dsimp only
    split <;> exact h
  | ended task answer event stage next accepted shouldRetry hEvent hTask hStage =>
    cases hTurn
    cases next <;> exact h
  | recovered task answer dmId' retryCount shouldRetry hEvent hTask =>
    cases hTurn
    unfold finishRecovery
    dsimp only
    split <;> exact h
  | _ =>
    cases hTurn
    exact h

theorem AttemptKept.extend {later : List ListenerOccurrence}
    (h : AttemptKept dmId [⟨s, label, out⟩] t) :
    AttemptKept dmId (later ++ [⟨s, label, out⟩]) t := by
  rcases h with hScheduled | hStopped | ⟨o, ho, hOver⟩
  · exact Or.inl hScheduled
  · exact Or.inr (Or.inl hStopped)
  · exact Or.inr (Or.inr ⟨o, List.mem_append_right _ ho, hOver⟩)

/-! ## Failures and omissions -/

variable {event : RawMessageEvent} {next : AfterCandidate}

theorem ended_of_fails (hStep : ListenerStep deps s label (t, out))
    (hFails : FailsRetryably ⟨s, label, out⟩ task event next) :
    (t, out) = finishCandidate s task event false true next := by
  obtain ⟨⟨answer, stage, hLabel, hTask⟩, hOut⟩ := hFails
  simp only at hLabel hTask hOut
  generalize hTurn : (t, out) = turn at hStep
  -- only a candidate's own task runs in the step
  have hOwn : ∀ {own : Nat} {answer' : ListenerAnswer}, label.event = .answer own answer' →
      own = task := by
    intro own answer' hEvent
    rw [hLabel] at hEvent
    cases hEvent
    rfl
  cases hStep with
  | leftOut task' event' hEvent hSkip =>
    rw [hLabel] at hEvent
    cases hEvent
  | onward task' answer' running later out' hEvent hTask' hFlight hGoesOn hAccepted hNone =>
    cases hTurn
    exact absurd hOut (hNone event false true)
  | skipped task' answer' dmId' retryCount event' rest shouldRetry hEvent hTask' hSkip =>
    rw [hOwn hEvent, hTask] at hTask'
    cases hTask'
  | accepted task' answer' event' next' host verified progress hEvent hTask' =>
    have hOnly : out = [.accepted ⟨joinResult verified event'.senderInboxId, host.identityId,
        host.inboxId, event'⟩] := congrArg Prod.snd hTurn
    rw [hOnly] at hOut
    cases List.mem_singleton.mp hOut
  | ended task' answer' event' stage' next' accepted shouldRetry hEvent hTask' hStage =>
    obtain rfl := hOwn hEvent
    rw [hTask] at hTask'
    cases hTask'
    have hOnly : out = [.processed event accepted shouldRetry] := congrArg Prod.snd hTurn
    rw [hOnly] at hOut
    cases List.mem_singleton.mp hOut
    rfl
  | _ =>
    cases hTurn
    cases hOut

theorem scheduled_of_fails {retryCount : Nat} {rest : List RawMessageEvent} {owed : Bool}
    (hTurn : (t, out) = finishCandidate s task event false true
      (.recovery dmId retryCount rest owed)) : Scheduled t dmId := by
  have hAfter : t = (finishCandidate s task event false true
      (.recovery dmId retryCount rest owed)).1 := congrArg Prod.fst hTurn
  refine Or.inr ⟨task, .recovering dmId retryCount rest (owed || (!false && true)), _, ?_, rfl, rfl,
    by simp⟩
  rw [hAfter]
  exact AssocMap.get_set_self _ _ _

/-- For another direct message the failure changes nothing. -/
theorem scheduled_fails_iff (hTask : s.tasks.get task = some (.candidate event stage next))
    (hTurn : (t, out) = finishCandidate s task event false true next)
    (hOther : ¬ next.Recovers dmId) : Scheduled t dmId ↔ Scheduled s dmId := by
  have hAfter : t = (finishCandidate s task event false true next).1 := congrArg Prod.fst hTurn
  have hBefore : ¬ OwedBy s dmId task := by
    rintro ⟨running, recovery, hGet, hRecovery, hDm, -⟩
    rw [hTask] at hGet
    cases hGet
    cases next with
    | event => cases hRecovery
    | recovery dmId' retryCount rest owed =>
      cases hRecovery
      cases hDm
      exact hOther ⟨retryCount, rest, owed, rfl⟩
  rw [scheduled_iff_besides hBefore]
  subst hAfter
  cases next with
  | event =>
    have hGone : ¬ OwedBy (finishCandidate s task event false true .event).1 dmId task := by
      rintro ⟨running, recovery, hGet, -⟩
      simp [finishCandidate, AssocMap.get_delete] at hGet
    rw [scheduled_iff_besides hGone]
    exact besides_congr rfl (get_of_delete rfl)
  | recovery dmId' retryCount rest owed =>
    have hGone : ¬ OwedBy (finishCandidate s task event false true
        (.recovery dmId' retryCount rest owed)).1 dmId task := by
      rintro ⟨running, recovery, hGet, hRecovery, hDm, -⟩
      simp only [finishCandidate, recoverLater, AssocMap.get_set_self, Option.some.injEq] at hGet
      subst hGet
      cases hRecovery
      cases hDm
      exact hOther ⟨retryCount, rest, owed, rfl⟩
    rw [scheduled_iff_besides hGone]
    exact besides_congr rfl (get_of_set rfl)

/-- A candidate that is left out for another dispatch counts as accepted. -/
theorem reported_of_skipsFor (hApart : Apart s) (hStep : listenerStep deps s label = some (t, out))
    (hSkips : SkipsFor ⟨s, label, out⟩ dmId event task) :
    ListenerObservation.processed event true false ∈ out := by
  obtain ⟨⟨own, answer, retryCount, rest, shouldRetry, hLabel, hTask⟩, -, -, flight, hFlight,
    hShared⟩ := hSkips
  simp only at hLabel hTask hFlight
  have hSkip : skipsCandidate s event = true := by
    by_contra hNot
    have hNew := unseen_of_not_skips (Bool.eq_false_iff.mpr hNot)
    rcases hShared with hId | ⟨key, hKey, hKey'⟩
    · exact hNew.flightId (hId ▸ hApart.ids task flight hFlight)
    · exact hNew.flightKey key hKey' (hApart.keys task flight key hFlight hKey)
  simp only [listenerStep, hLabel, hTask, Option.bind_some, resumeTask, nextCandidate, hSkip,
    if_true] at hStep
  split at hStep
  · cases hStep
    exact List.mem_singleton.mpr rfl
  · cases hStep

/-- What is awaited throws: the task is gone, and with it nothing else. -/
theorem thrown_step (hStep : listenerStep deps s label = some (t, out))
    (hLabel : label.event = .answer task .thrown) :
    t.tasks = s.tasks.delete task ∧ t.recoveryRetryTimers = s.recoveryRetryTimers ∧
      t.stopped = s.stopped := by
  simp only [listenerStep, hLabel] at hStep
  obtain ⟨running, -, hResume⟩ := Option.bind_eq_some_iff.mp hStep
  cases running with
  | candidate event stage next =>
    simp only [resumeTask] at hResume
    cases stage <;> simp only [resumeCandidate] at hResume <;> cases hResume <;>
      exact ⟨rfl, rfl, rfl⟩
  | scanIdentities dmId retryCount =>
    cases hResume
    exact ⟨rfl, rfl, rfl⟩
  | scanPage dmId retryCount identityId before progress =>
    cases hResume
    exact ⟨rfl, rfl, rfl⟩
  | recovering dmId retryCount rest shouldRetry => cases hResume

/-! ## Every run -/

variable {h : List ListenerOccurrence}

theorem attemptKept_step {later : List ListenerOccurrence}
    (hStep : ListenerStep deps s label (t, out)) (hKept : AttemptKept dmId later s)
    (hUnbroken : (∀ o ∈ later, ¬ (Attempts o dmId ∨ Exhausts o dmId)) →
      ∀ task, label.event = .answer task .thrown → OwedBy s dmId task →
        ScheduledBesides s dmId task ∨ s.stopped = true) :
    AttemptKept dmId (later ++ [⟨s, label, out⟩]) t := by
  by_cases hOver : ∃ o ∈ later, Attempts o dmId ∨ Exhausts o dmId
  · obtain ⟨o, ho, hEnd⟩ := hOver
    exact Or.inr (Or.inr ⟨o, List.mem_append_left _ ho, hEnd⟩)
  · rcases hKept with hScheduled | hStopped | hEnd
    · rcases scheduled_step hStep hScheduled with hKept | ⟨task, hThrown, hOwed, hAlone⟩
      · exact hKept.extend
      · have hNone : ∀ o ∈ later, ¬ (Attempts o dmId ∨ Exhausts o dmId) :=
          fun o ho hEnd => hOver ⟨o, ho, hEnd⟩
        rcases hUnbroken hNone task hThrown hOwed with hElse | hStopped
        · exact absurd hElse hAlone
        · exact Or.inr (Or.inl (stopped_step hStep hStopped))
    · exact Or.inr (Or.inl (stopped_step hStep hStopped))
    · exact absurd hEnd hOver

/-- A failure leaves an attempt scheduled, if it is of a recovery or something else has one. -/
theorem attemptKept_of_fails (hStep : ListenerStep deps s label (t, out))
    (hFails : FailsRetryably ⟨s, label, out⟩ task event next)
    (hRecovers : next.Recovers dmId ∨ Scheduled s dmId ∨ s.stopped = true) :
    AttemptKept dmId [] t := by
  have hTurn := ended_of_fails hStep hFails
  obtain ⟨⟨answer, stage, -, hTask⟩, -⟩ := hFails
  by_cases hOwn : next.Recovers dmId
  · obtain ⟨retryCount, rest, owed, rfl⟩ := hOwn
    exact Or.inl (scheduled_of_fails hTurn)
  · rcases hRecovers.resolve_left hOwn with hScheduled | hStopped
    · exact Or.inl ((scheduled_fails_iff hTask hTurn hOwn).mpr hScheduled)
    · exact Or.inr (Or.inl (stopped_step hStep hStopped))

def AllKeepAttempts (h : List ListenerOccurrence) : Prop :=
  ∀ h₁ o h₂, h = h₁ ++ o :: h₂ → KeepsAttempts h₁ o

theorem AllKeepAttempts.of_prefix {h' : List ListenerOccurrence} (hAll : AllKeepAttempts h)
    (hPrefix : h' <+: h) : AllKeepAttempts h' := by
  obtain ⟨rest, rfl⟩ := hPrefix
  rintro h₁ o h₂ rfl
  exact hAll h₁ o (h₂ ++ rest) (by simp)

section

variable (hRun : (listenerMachine deps).Runs h s)

include hRun

theorem failed_kept (hKeeps : AllKeepAttempts h) :
    ∀ h₁ o h₂ task event next dmId, h = h₁ ++ o :: h₂ → FailsRetryably o task event next →
      DispatchesFor h₁ task event next dmId → AttemptKept dmId h₂ s := by
  induction hRun with
  | start =>
    intro h₁ o h₂ task event next dmId hSplit
    simp at hSplit
  | @step h s t label out hRun hStep ih =>
    have hMove := listenerStep_cases deps hStep
    have hLast := hKeeps h ⟨s, label, out⟩ [] rfl
    have hBefore := ih (hKeeps.of_prefix ⟨[⟨s, label, out⟩], rfl⟩)
    intro h₁ o h₂ task event next dmId hSplit hFails hFor
    rcases split_snoc hSplit with ⟨rfl, rfl, rfl⟩ | ⟨rest, rfl, hSplit'⟩
    · exact attemptKept_of_fails hMove hFails (hLast.recovers task event next dmId hFails hFor)
    · refine attemptKept_step hMove
        (hBefore h₁ o rest task event next dmId hSplit' hFails hFor) ?_
      intro hNone other hThrown hOwed
      exact hLast.unbroken other dmId hThrown hOwed
        ⟨h₁, o, rest, task, event, next, hSplit', hFails, hFor, hNone⟩

theorem noJoinDropped_run (hKeeps : AllKeepAttempts h) : NoJoinDropped h s := by
  refine ⟨failed_kept hRun hKeeps, ?_⟩
  intro h₁ o h₂ p h₃ dmId event task event' next hSplit hSkips hAlong hFails
  have hSplit' : h = (h₁ ++ o :: h₂) ++ p :: h₃ := by
    rw [hSplit]
    simp
  exact absurd ⟨h₁, o, h₂, dmId, event, rfl, hSkips, hAlong⟩
    ((hKeeps _ p h₃ hSplit').unskipped task event' next hFails)

theorem keepsAttempts_of_states
    (hStates : ∀ h' t, (listenerMachine deps).Runs h' t → h' <+: h → NoJoinDropped h' t) :
    AllKeepAttempts h := by
  intro h₁ o h₂ hSplit
  obtain ⟨hBefore, t, hStep⟩ := hRun.of_append_cons hSplit
  have hMove := listenerStep_cases deps hStep
  have hAfter : NoJoinDropped (h₁ ++ [o]) t := by
    refine hStates _ t (hBefore.step hStep) ⟨h₂, ?_⟩
    rw [hSplit]
    simp
  constructor
  · intro task event next dmId hFails hFor
    obtain ⟨⟨answer, stage, hLabel, hTask⟩, -⟩ := id hFails
    have hTurn := ended_of_fails hMove hFails
    by_cases hOwn : next.Recovers dmId
    · exact Or.inl hOwn
    · refine Or.inr ?_
      rcases hAfter.failed h₁ o [] task event next dmId rfl hFails hFor with
        hScheduled | hStopped | hEnd
      · exact Or.inl ((scheduled_fails_iff hTask hTurn hOwn).mp hScheduled)
      · right
        have hSame : t.stopped = o.pre.stopped := by
          have hEq := congrArg (fun turn : ListenerTurn => turn.1.stopped) hTurn
          cases next <;> exact hEq
        rw [← hSame]
        exact hStopped
      · obtain ⟨later, hMem, -⟩ := hEnd
        cases hMem
  · rintro task event next hFails ⟨h₁', o', h₂', dmId, event', rfl, hSkips, hAlong⟩
    have hSplit' : h₁' ++ o' :: h₂' ++ [o] = h₁' ++ o' :: (h₂' ++ o :: []) := by simp
    have hUnreported := (hAfter.skipped h₁' o' h₂' o [] dmId event' task event next hSplit' hSkips
      hAlong hFails).2
    obtain ⟨hEarlier, t', hStep'⟩ := hBefore.of_append_cons rfl
    exact hUnreported (reported_of_skipsFor (apart_run hEarlier) hStep' hSkips)
  · rintro task dmId hThrown hOwed ⟨h₁', o', h₂', task', event, next, rfl, hFails, hFor, hNone⟩
    have hSplit' : h₁' ++ o' :: h₂' ++ [o] = h₁' ++ o' :: (h₂' ++ [o]) := by simp
    obtain ⟨hTasks, hTimers, hStopped⟩ := thrown_step hStep hThrown
    rcases hAfter.failed h₁' o' (h₂' ++ [o]) task' event next dmId hSplit' hFails hFor with
      hScheduled | hStopped' | ⟨later, hMem, hEnd⟩
    · left
      rcases hScheduled with hTimer | ⟨other, running, recovery, hGet, hRecovery⟩
      · exact Or.inl (hTimers ▸ hTimer)
      · rw [hTasks] at hGet
        obtain ⟨hNe, hGet⟩ := AssocMap.of_get_delete hGet
        exact Or.inr ⟨other, hNe, running, recovery, hGet, hRecovery⟩
    · exact Or.inr (hStopped ▸ hStopped')
    · rcases List.mem_append.mp hMem with hEarlier | hLast
      · exact absurd hEnd (hNone later hEarlier)
      · -- the step itself makes no attempt and ends no recovery
        obtain rfl := List.mem_singleton.mp hLast
        rcases hEnd with ⟨own, hEvent⟩ | ⟨own, answer, retryCount, hEvent, hTask, -⟩
        · rw [hThrown] at hEvent
          cases hEvent
        · rw [hThrown] at hEvent
          cases hEvent
          have hTaken : listenerStep deps _ _ = some _ := hStep
          simp [listenerStep, hThrown, hTask, resumeTask] at hTaken

end

/-- **Retryable joins.**  No state of a run has dropped a join exactly when all its steps
keep the attempts. -/
theorem no_join_dropped_iff (hRun : (listenerMachine deps).Runs h s) :
    (∀ h' t, (listenerMachine deps).Runs h' t → h' <+: h → NoJoinDropped h' t) ↔
      AllKeepAttempts h := by
  constructor
  · exact keepsAttempts_of_states hRun
  · intro hKeeps h' t hRun' hPrefix
    exact noJoinDropped_run hRun' (hKeeps.of_prefix hPrefix)

/-! ## Runs on fixed inputs -/

/-- The task dispatches a message that came by itself. -/
def ListenerTask.isLive : ListenerTask → Bool
  | .candidate _ _ .event => true
  | _ => false

/-- No message comes, and nothing throws. -/
def ListenerEvent.isQuiet : ListenerEvent → Bool
  | .message _ _ => false
  | .answer _ .thrown => false
  | _ => true

def ListenerObservation.isLeftOut : ListenerObservation → Bool
  | .processed _ true false => true
  | _ => false

/-- A quiet step that dispatches for recoveries only, and leaves no candidate out. -/
def QuietStep (o : ListenerOccurrence) : Prop :=
  (∀ running ∈ o.pre.tasks.values, running.isLive = false) ∧ o.label.event.isQuiet = true ∧
    ∀ observation ∈ o.out, observation.isLeftOut = false

instance (o : ListenerOccurrence) : Decidable (QuietStep o) := inferInstanceAs (Decidable (_ ∧ _))

theorem keepsAttempts_of_quietSteps (hRun : (listenerMachine deps).Runs h s)
    (hQuiet : ∀ o ∈ h, QuietStep o) : AllKeepAttempts h := by
  rintro h₁ o h₂ rfl
  have hBefore : ∀ o' ∈ h₁, QuietStep o' := fun o' ho => hQuiet o' (List.mem_append_left _ ho)
  obtain ⟨hTasks, hEvent, -⟩ := hQuiet o (by simp)
  obtain ⟨hEarlier, -⟩ := hRun.of_append_cons rfl
  constructor
  · intro task event next dmId hFails hFor
    left
    rcases hFor with hDm | ⟨h₁', o', h₂', own, message, rfl, hMessage, -⟩
    · obtain ⟨⟨answer, stage, -, hTask⟩, -⟩ := hFails
      have hLive := hTasks _ (AssocMap.mem_values.mpr ⟨task, hTask⟩)
      cases next with
      | event => cases hLive
      | recovery dmId' retryCount rest owed => exact ⟨retryCount, rest, owed, hDm ▸ rfl⟩
    · have hLabel := (hBefore o' (by simp)).2.1
      rw [hMessage] at hLabel
      cases hLabel
  · rintro task event next hFails ⟨h₁', o', h₂', dmId', event', rfl, hSkips, -⟩
    obtain ⟨hEarliest, t, hStep⟩ := hEarlier.of_append_cons rfl
    have hReported := reported_of_skipsFor (apart_run hEarliest) hStep hSkips
    cases (hBefore o' (by simp)).2.2 _ hReported
  · intro task dmId hThrown
    rw [hThrown] at hEvent
    cases hEvent

/-- A direct message is joined, and the identity for its request is not ready. -/
def recoveryFails : List ListenerLabel :=
  [listenAt 0 (.dmJoined 1 "dm"),
    listenAt 0 (.answer 1 (.identities [⟨"identity", some "aabb"⟩])),
    listenAt 0 (.answer 1 (.messages (.ok [requestFrom "message_1" "inbox_a"]))),
    listenAt 0 (.answer 1 .resumed), listenAt 0 (.answer 1 (.identities [⟨"identity", none⟩])),
    listenAt 0 (.answer 1 .resumed)]

theorem recoveryFails_isSome :
    (sampleListener.exec sampleListener.init recoveryFails).isSome = true := by
  decide

theorem recoveryFails_quiet :
    ∀ o ∈ (sampleListener.outcome sampleListener.init recoveryFails recoveryFails_isSome).1,
      QuietStep o := by
  decide

/-- The recovery is repeated. -/
theorem recovery_drops_nothing :
    NoJoinDropped
      (sampleListener.outcome sampleListener.init recoveryFails recoveryFails_isSome).1
      (sampleListener.outcome sampleListener.init recoveryFails recoveryFails_isSome).2 :=
  (@no_join_dropped_iff ⟨sampleInviteHost, 5000⟩ _ _
    (runs_of_exec (exec_outcome recoveryFails_isSome))).mpr
      (keepsAttempts_of_quietSteps
        (runs_of_exec (exec_outcome recoveryFails_isSome)) recoveryFails_quiet)
      _ _ (runs_of_exec (exec_outcome recoveryFails_isSome)) (List.prefix_refl _)

def sampleRequest : RawMessageEvent := requestFrom "message_1" "inbox_a"

/-- The request comes by itself, and the key of the wallet cannot be read. -/
def liveFails : List ListenerLabel :=
  [listenAt 0 (.message 1 sampleRequest),
    listenAt 0 (.answer 1 (.identities [⟨"identity", some "aabb"⟩])),
    listenAt 0 (.answer 1 (.walletKey (.error (InternalError.create "vault is locked"))))]

/-- The request is dispatched. -/
def liveStarted : ListenerState := startCandidate sampleListener.init 1 sampleRequest .event

/-- The key of the wallet is read for it. -/
def liveAtKey : ListenerState :=
  { liveStarted with
    tasks := liveStarted.tasks.set 1
      (.candidate sampleRequest (.walletKey ⟨"identity", "aabb"⟩ ⟨[], none, false⟩) .event) }

/-- The request is given up. -/
def liveEnded : ListenerState := (finishCandidate liveAtKey 1 sampleRequest false true .event).1

def liveFailure : ListenerOccurrence :=
  ⟨liveAtKey, listenAt 0 (.answer 1 (.walletKey (.error (InternalError.create "vault is locked")))),
    [.processed sampleRequest false true]⟩

/-- What comes before the failure. -/
def liveBefore : List ListenerOccurrence :=
  [⟨sampleListener.init, listenAt 0 (.message 1 sampleRequest), []⟩,
    ⟨liveStarted, listenAt 0 (.answer 1 (.identities [⟨"identity", some "aabb"⟩])), []⟩]

theorem liveFails_exec :
    sampleListener.exec sampleListener.init liveFails =
      some (liveBefore ++ [liveFailure], liveEnded) := by
  have hCandidate : isInviteCandidate sampleRequest = true := by decide
  have hNew : skipsCandidate sampleListener.init sampleRequest = false := by decide
  have hStart : sampleListener.step sampleListener.init (listenAt 0 (.message 1 sampleRequest)) =
      some (liveStarted, []) := by
    unfold sampleListener at hNew ⊢
    simp only [listenerMachine, listenerStep, listenAt] at hNew ⊢
    simp only [hCandidate, hNew]
    rfl
  refine exec_cons hStart ?_
  refine exec_cons (show _ = some (liveAtKey, _) from rfl) ?_
  exact exec_cons (show _ = some (liveEnded, _) from rfl) rfl

/-- Nobody tries again. -/
theorem live_join_dropped :
    ∃ h s, sampleListener.Runs h s ∧ ¬ NoJoinDropped h s := by
  refine ⟨_, _, runs_of_exec liveFails_exec, ?_⟩
  intro hKept
  have hFails : FailsRetryably liveFailure 1 sampleRequest .event :=
    ⟨⟨_, _, rfl, AssocMap.get_set_self _ _ _⟩, List.mem_singleton.mpr rfl⟩
  rcases hKept.failed liveBefore liveFailure [] 1 sampleRequest .event sampleRequest.groupId rfl hFails
    (Or.inl rfl) with (hTimer | ⟨task, running, recovery, hGet, -⟩) | hStopped | ⟨o, hMem, -⟩
  · cases hTimer
  · have hNone : liveEnded.tasks = .empty := rfl
    rw [hNone] at hGet
    cases hGet
  · cases hStopped
  · cases hMem

end Cli
end Signet
