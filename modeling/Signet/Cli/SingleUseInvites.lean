import Signet.Cli.InviteHostListener

/-!
# Single-use invites

The generator writes into an invite that it expires after its first use, and the parser
reads it out again; neither the join processor nor the listener asks for it.  A request
is let through to the group by the tag alone, and what keeps requests out afterwards is
kept by sender.

* `Carries`, `SingleUse` — the requests and the slugs in question.
* `ListenerMove` — what a step does to the requests that are let through.
* `OneInboxAtATime` — a request that passes the check of the tag is of the inbox that
  the same invite has been used by, if any.
* `single_use_invites` — in every run of such steps.
-/

namespace Signet
namespace Cli

open Kit Machine Schemas Signet.Core

/-! ## Requests for an invite -/

/-- The slug a request carries, without separators. -/
def carriedSlug (host : InviteHost) (event : RawMessageEvent) : Option (List Char) :=
  (nonempty (inviteText event.content)).map fun text =>
    withoutSeparators (extractSlug host text)

/-- The request carries the slug, as it is, inside a URL, or with other separators. -/
def Carries (host : InviteHost) (event : RawMessageEvent) (slug : String) : Prop :=
  carriedSlug host event = some (withoutSeparators slug)

instance (host : InviteHost) (event : RawMessageEvent) (slug : String) :
    Decidable (Carries host event slug) :=
  inferInstanceAs (Decidable (_ = _))

/-- The slug is one of an invite that was generated to expire after its first use. -/
def SingleUse (host : InviteHost) (slug : String) : Prop :=
  ∃ opts nonce, opts.expiresAfterUse = some true ∧
    generateConvosInviteSlug host opts nonce = .ok slug

/-- The requests that have been accepted in a history. -/
def acceptedIn (h : List (Occurrence ListenerState ListenerLabel ListenerObservation)) :
    List ManagedInviteJoinAcceptance :=
  (outputs h).filterMap fun
    | .accepted acceptance => some acceptance
    | _ => none

theorem mem_acceptedIn_snoc
    {h : List (Occurrence ListenerState ListenerLabel ListenerObservation)}
    {o : Occurrence ListenerState ListenerLabel ListenerObservation}
    {a : ManagedInviteJoinAcceptance} (hMem : a ∈ acceptedIn (h ++ [o])) :
    a ∈ acceptedIn h ∨ .accepted a ∈ o.out := by
  simp only [acceptedIn, outputs_append, outputs_singleton,
    List.filterMap_append, List.mem_append] at hMem
  rcases hMem with hOld | hNew
  · exact Or.inl hOld
  · obtain ⟨observation, hOut, hEq⟩ := List.mem_filterMap.mp hNew
    split at hEq
    · cases hEq
      exact Or.inr hOut
    · cases hEq

def SingleUseInvites (host : InviteHost)
    (h : List (Occurrence ListenerState ListenerLabel ListenerObservation)) : Prop :=
  ∀ slug, SingleUse host slug → ∀ a ∈ acceptedIn h, ∀ b ∈ acceptedIn h,
    Carries host a.requestMessage slug → Carries host b.requestMessage slug →
      a.join.requesterInboxId = b.join.requesterInboxId

/-! ## Requests that are let through -/

def ListenerTask.addingRequest : ListenerTask → Option RawMessageEvent
  | .candidate event (.adding ..) _ => some event
  | _ => none

/-- The requests that have been let through: their senders have been accepted, or are
being added. -/
def admitted (s : ListenerState) : List RawMessageEvent :=
  s.acceptances.map (fun acceptance => acceptance.requestMessage)
    ++ s.tasks.values.filterMap ListenerTask.addingRequest

variable {label : ListenerLabel} {t : ListenerState} {turn : ListenerTurn} {task : Nat}
  {event : RawMessageEvent}

theorem mem_admitted {s : ListenerState} :
    event ∈ admitted s ↔ (∃ a ∈ s.acceptances, a.requestMessage = event) ∨
      ∃ task running, s.tasks.get task = some running ∧ running.addingRequest = some event := by
  simp only [admitted, List.mem_append, List.mem_map, List.mem_filterMap, AssocMap.mem_values]
  constructor
  · rintro (hOld | ⟨running, ⟨task, hGet⟩, hAdding⟩)
    · exact Or.inl hOld
    · exact Or.inr ⟨task, running, hGet, hAdding⟩
  · rintro (hOld | ⟨task, running, hGet, hAdding⟩)
    · exact Or.inl hOld
    · exact Or.inr ⟨running, ⟨task, hGet⟩, hAdding⟩

/-- The request that passes the check of the tag with this step. -/
def admits (s : ListenerState) (label : ListenerLabel) : Option RawMessageEvent :=
  match label.event with
  | .answer task (.tag result) =>
    match s.tasks.get task with
    | some (.candidate event (.tag _ verified _) _) =>
      if (checkInviteTag verified result).isOk then some event else none
    | _ => none
  | _ => none

structure LetsNobody (s t : ListenerState) : Prop where
  acceptances : t.acceptances = s.acceptances
  adding : ∀ task running event, t.tasks.get task = some running →
    running.addingRequest = some event → s.tasks.get task = some running

theorem LetsNobody.of_set {s : ListenerState} {running : ListenerTask}
    (hAcceptances : t.acceptances = s.acceptances) (hTasks : t.tasks = s.tasks.set task running)
    (hNone : running.addingRequest = none) : LetsNobody s t := by
  refine ⟨hAcceptances, ?_⟩
  intro task' running' event hGet hAdding
  rw [hTasks] at hGet
  rcases AssocMap.get_set_cases hGet with ⟨-, rfl⟩ | ⟨-, hGet⟩
  · rw [hNone] at hAdding
    cases hAdding
  · exact hGet

theorem LetsNobody.of_delete {s : ListenerState} (hAcceptances : t.acceptances = s.acceptances)
    (hTasks : t.tasks = s.tasks.delete task) :
    LetsNobody s t := by
  refine ⟨hAcceptances, ?_⟩
  intro task' running' event hGet hAdding
  rw [hTasks] at hGet
  exact (AssocMap.of_get_delete hGet).2

/-- What does not change tasks and acceptances may come before. -/
theorem LetsNobody.after {s s' : ListenerState} (h : LetsNobody s' t)
    (hAcceptances : s'.acceptances = s.acceptances) (hTasks : s'.tasks = s.tasks) :
    LetsNobody s t := by
  refine ⟨h.acceptances.trans hAcceptances, ?_⟩
  intro task running event hGet hAdding
  rw [← hTasks]
  exact h.adding task running event hGet hAdding

/-! ## Segments that let nobody through -/

theorem letsNobody_finishRecovery (now : Int) (s : ListenerState) (task : Nat) (dmId : String)
    (retryCount : Nat) (shouldRetry : Bool) :
    LetsNobody s (finishRecovery now s task dmId retryCount shouldRetry) := by
  unfold finishRecovery
  dsimp only
  split
  · exact .of_delete rfl rfl
  · exact .of_delete rfl rfl

theorem letsNobody_recoverLater (s : ListenerState) (task : Nat) (dmId : String)
    (retryCount : Nat) (shouldRetry : Bool) (rest : List RawMessageEvent) :
    LetsNobody s (recoverLater s task dmId retryCount shouldRetry rest) :=
  .of_set rfl rfl rfl

structure Refuses (s : ListenerState) (turn : ListenerTurn) : Prop where
  letsNobody : LetsNobody s turn.1
  acceptsNobody : ∀ acceptance, .accepted acceptance ∉ turn.2

theorem Refuses.silent {s : ListenerState} (h : LetsNobody s t) : Refuses s (t, []) :=
  ⟨h, fun _ hMem => nomatch hMem⟩

/-- Of a candidate that has its result, only that is made known. -/
theorem Refuses.processed {s : ListenerState} (h : LetsNobody s t) (event : RawMessageEvent)
    (accepted shouldRetry : Bool) : Refuses s (t, [.processed event accepted shouldRetry]) := by
  refine ⟨h, ?_⟩
  intro acceptance hMem
  cases List.mem_singleton.mp hMem

theorem refuses_nextCandidate (now : Int) (s : ListenerState) (task : Nat) (dmId : String)
    (retryCount : Nat) (shouldRetry : Bool) (events : List RawMessageEvent) :
    Refuses s (nextCandidate now s task dmId retryCount shouldRetry events) := by
  cases events with
  | nil => exact .silent (letsNobody_finishRecovery now s task dmId retryCount shouldRetry)
  | cons event rest =>
    simp only [nextCandidate]
    split
    · exact .processed (letsNobody_recoverLater s task dmId retryCount shouldRetry rest)
        event true false
    · exact .silent (.of_set rfl rfl rfl)

section

variable (s : ListenerState) (task : Nat) (event : RawMessageEvent)

theorem refuses_finishCandidate (accepted shouldRetry : Bool) (next : AfterCandidate) :
    Refuses s (finishCandidate s task event accepted shouldRetry next) := by
  cases next with
  | event =>
    have hLeft : LetsNobody s { leaveFlight s event with tasks := s.tasks.delete task } :=
      .of_delete rfl rfl
    exact .processed hLeft event accepted shouldRetry
  | recovery dmId retryCount rest owed =>
    have hLater := letsNobody_recoverLater (leaveFlight s event) task dmId retryCount
      (owed || (!accepted && shouldRetry)) rest
    have hBoth : LetsNobody s (recoverLater (leaveFlight s event) task dmId retryCount
        (owed || (!accepted && shouldRetry)) rest) := hLater.after rfl rfl
    exact .processed hBoth event accepted shouldRetry

theorem refuses_concludeDispatch (next : AfterCandidate) (lastError : Option SignetError)
    (shouldRetry : Bool) :
    Refuses s (concludeDispatch s task event next lastError shouldRetry) := by
  unfold concludeDispatch
  split
  · exact refuses_finishCandidate s task event _ _ next
  · split
    · exact refuses_finishCandidate s task event _ _ next
    · refine ⟨.of_set rfl rfl rfl, ?_⟩
      intro acceptance hMem
      cases List.mem_singleton.mp hMem

end

section

variable (managed : String → Bool) (s : ListenerState) (task : Nat)

theorem refuses_nextIdentity (event : RawMessageEvent) (next : AfterCandidate)
    (lastError : Option SignetError) (shouldRetry : Bool) (identities : List ManagedIdentity) :
    Refuses s (nextIdentity managed s task event next lastError shouldRetry identities) := by
  induction identities generalizing shouldRetry with
  | nil => exact refuses_concludeDispatch s task event next lastError shouldRetry
  | cons identity remaining ih =>
    unfold nextIdentity
    split
    · exact ih true
    · split
      · exact .silent (.of_set rfl rfl rfl)
      · exact ih true

theorem letsNobody_nextScanIdentity (dmId : String) (retryCount : Nat)
    (messages : AssocMap String RawMessageEvent) (shouldRetry : Bool)
    (identities : List ManagedIdentity) :
    LetsNobody s
      (nextScanIdentity managed s task dmId retryCount messages shouldRetry identities) := by
  induction identities with
  | nil => exact letsNobody_recoverLater s task dmId retryCount shouldRetry _
  | cons identity remaining ih =>
    unfold nextScanIdentity
    split
    · exact .of_set rfl rfl rfl
    · exact ih

theorem letsNobody_resumePage (dmId : String) (retryCount : Nat) (identityId : String)
    (progress : ScanProgress) (result : Except SignetError (List RawMessageEvent)) :
    LetsNobody s
      (resumePage managed s task dmId retryCount identityId progress result) := by
  unfold resumePage
  split
  · exact letsNobody_nextScanIdentity managed s task dmId retryCount _ _ _
  · dsimp only
    split
    · exact letsNobody_nextScanIdentity managed s task dmId retryCount _ _ _
    · exact .of_set rfl rfl rfl

end

/-! ## What a step does -/

variable (deps : ListenerDeps)

/-- What a step does to the requests that are let through. -/
inductive ListenerMove (s : ListenerState) (label : ListenerLabel) (turn : ListenerTurn) : Prop
  | refuse (hRefuses : Refuses s turn)
  /-- A request passes the check of the tag; its sender is being added. -/
  | letThrough (task : Nat) (event : RawMessageEvent) (running : ListenerTask)
      (hAdmits : admits s label = some event) (hRunning : running.addingRequest = some event)
      (hAcceptances : turn.1.acceptances = s.acceptances)
      (hTasks : turn.1.tasks = s.tasks.set task running)
      (hOut : ∀ acceptance, .accepted acceptance ∉ turn.2)
  /-- A sender has been added. -/
  | accept (task : Nat) (running done : ListenerTask) (acceptance : ManagedInviteJoinAcceptance)
      (hRunning : s.tasks.get task = some running)
      (hAdding : running.addingRequest = some acceptance.requestMessage)
      (hSender : acceptance.join.requesterInboxId = acceptance.requestMessage.senderInboxId)
      (hAcceptances : turn.1.acceptances = s.acceptances ++ [acceptance])
      (hTasks : turn.1.tasks = s.tasks.set task done) (hDone : done.addingRequest = none)
      (hOut : turn.2 = [.accepted acceptance])

theorem move_resumeCandidate {s : ListenerState} {stage : DispatchStage} {next : AfterCandidate}
    {answer : ListenerAnswer} (hTask : s.tasks.get task = some (.candidate event stage next))
    (hEvent : label.event = .answer task answer)
    (h : resumeCandidate deps label.now label.managed s task event next stage answer =
      some turn) : ListenerMove s label turn := by
  unfold resumeCandidate at h
  split at h
  · cases h
    exact .refuse (refuses_nextIdentity _ s task event next _ _ _)
  · split at h
    · cases h
      exact .refuse (refuses_nextIdentity _ s task event next _ _ _)
    · split at h <;> cases h
      · exact .refuse (refuses_nextIdentity _ s task event next _ _ _)
      · exact .refuse (.silent (.of_set rfl rfl rfl))
  · next host verified progress result =>
    split at h
    · cases h
      exact .refuse (refuses_nextIdentity _ s task event next _ _ _)
    · next hCheck =>
      cases h
      have hAdmits : admits s label = some event := by
        simp only [admits, hEvent, hTask, hCheck]
        rfl
      refine .letThrough task event _ hAdmits rfl rfl rfl ?_
      intro acceptance hMem
      cases List.mem_singleton.mp hMem
  · next host verified progress result =>
    split at h
    · cases h
      exact .refuse (refuses_nextIdentity _ s task event next _ _ _)
    · cases h
      unfold acceptCandidate
      dsimp only
      split
      · exact .accept task _ _ _ hTask rfl rfl rfl rfl rfl rfl
      · exact .accept task _ _ _ hTask rfl rfl rfl rfl rfl rfl
  · cases h
    exact .refuse (refuses_finishCandidate s task event _ _ next)
  · cases h
    exact .refuse (refuses_finishCandidate s task event _ _ next)
  · cases h
  · cases h
  · cases h
    exact .refuse (.silent (.of_delete rfl rfl))
  · cases h

theorem listenerStep_move {s : ListenerState} (h : listenerStep deps s label = some turn) :
    ListenerMove s label turn := by
  obtain ⟨now, managed, event⟩ := label
  cases event with
  | message task event =>
    simp only [listenerStep] at h
    split at h
    · cases h
    · split at h
      · cases h
        exact .refuse (.silent ⟨rfl, fun _ _ _ hGet _ => hGet⟩)
      · split at h <;> cases h
        · exact .refuse (.processed ⟨rfl, fun _ _ _ hGet _ => hGet⟩ event true false)
        · exact .refuse (.silent (.of_set rfl rfl rfl))
  | dmJoined task dmId =>
    simp only [listenerStep] at h
    split at h <;> cases h
    exact .refuse (.silent (.of_set rfl rfl rfl))
  | retryTimer task dmId =>
    simp only [listenerStep] at h
    split at h
    · cases h
    · split at h <;> cases h
      exact .refuse (.silent (.of_set rfl rfl rfl))
  | keyTimer requestKey =>
    simp only [listenerStep] at h
    split at h
    · cases h
    · split at h <;> cases h
      exact .refuse (.silent ⟨rfl, fun _ _ _ hGet _ => hGet⟩)
  | answer task answer =>
    obtain ⟨running, hTask, hResume⟩ := Option.bind_eq_some_iff.mp h
    cases running with
    | candidate event stage next => exact move_resumeCandidate deps hTask rfl hResume
    | scanIdentities dmId retryCount =>
      simp only [resumeTask] at hResume
      split at hResume <;> cases hResume
      · exact .refuse (.silent (letsNobody_nextScanIdentity managed s task dmId _ _ _ _))
      · exact .refuse (.silent (.of_delete rfl rfl))
    | scanPage dmId retryCount identityId before progress =>
      simp only [resumeTask] at hResume
      split at hResume <;> cases hResume
      · exact .refuse (.silent (letsNobody_resumePage managed s task dmId _ _ _ _))
      · exact .refuse (.silent (.of_delete rfl rfl))
    | recovering dmId retryCount rest shouldRetry =>
      simp only [resumeTask] at hResume
      split at hResume <;> cases hResume
      exact .refuse (refuses_nextCandidate now s task dmId retryCount shouldRetry rest)
  | stop =>
    simp only [listenerStep] at h
    split at h <;> cases h
    exact .refuse (.silent ⟨rfl, fun _ _ _ hGet _ => hGet⟩)

/-! ## One inbox for an invite -/

variable {deps}

/-- A request that has been let through was so before the step, or the step lets it
through. -/
theorem admitted_of_move {s : ListenerState} (hMove : ListenerMove s label turn)
    (hMem : event ∈ admitted turn.1) : event ∈ admitted s ∨ admits s label = some event := by
  rw [mem_admitted] at hMem
  cases hMove with
  | refuse hRefuses =>
    left
    rw [mem_admitted, ← hRefuses.letsNobody.acceptances]
    rcases hMem with hOld | ⟨task, running, hGet, hAdding⟩
    · exact Or.inl hOld
    · exact Or.inr ⟨task, running,
        hRefuses.letsNobody.adding task running event hGet hAdding, hAdding⟩
  | letThrough task event' running hAdmits hRunning hAcceptances hTasks hOut =>
    rw [hAcceptances, hTasks] at hMem
    rcases hMem with hOld | ⟨task', running', hGet, hAdding⟩
    · exact Or.inl (mem_admitted.mpr (Or.inl hOld))
    · rcases AssocMap.get_set_cases hGet with ⟨-, rfl⟩ | ⟨-, hGet⟩
      · rw [hRunning] at hAdding
        cases hAdding
        exact Or.inr hAdmits
      · exact Or.inl (mem_admitted.mpr (Or.inr ⟨task', running', hGet, hAdding⟩))
  | accept task running done acceptance hRunning hAdding hSender hAcceptances hTasks hDone hOut =>
    left
    rw [hAcceptances, hTasks] at hMem
    rcases hMem with ⟨a, hAccepted, rfl⟩ | ⟨task', running', hGet, hAdding'⟩
    · rcases List.mem_append.mp hAccepted with hOld | hNew
      · exact mem_admitted.mpr (Or.inl ⟨a, hOld, rfl⟩)
      · rw [List.mem_singleton.mp hNew]
        exact mem_admitted.mpr (Or.inr ⟨task, running, hRunning, hAdding⟩)
    · rcases AssocMap.get_set_cases hGet with ⟨-, rfl⟩ | ⟨-, hGet⟩
      · rw [hDone] at hAdding'
        cases hAdding'
      · exact mem_admitted.mpr (Or.inr ⟨task', running', hGet, hAdding'⟩)

variable (deps)

/-- A request that passes the check of the tag is of the inbox of every other request
with the same single-use invite that has been let through. -/
def OneInboxAtATime (s : ListenerState) (label : ListenerLabel) : Prop :=
  ∀ event ∈ admits s label, ∀ other ∈ admitted s, ∀ slug, SingleUse deps.host slug →
    Carries deps.host event slug → Carries deps.host other slug →
      other.senderInboxId = event.senderInboxId

/-- All requests with a single-use invite that have been let through are of one inbox,
and the accepted ones are among them. -/
structure OneInbox (h : List (Occurrence ListenerState ListenerLabel ListenerObservation))
    (s : ListenerState) : Prop where
  senders : ∀ slug, SingleUse deps.host slug → ∀ e ∈ admitted s, ∀ e' ∈ admitted s,
    Carries deps.host e slug → Carries deps.host e' slug → e.senderInboxId = e'.senderInboxId
  accepted : ∀ a ∈ acceptedIn h, a ∈ s.acceptances
  requester : ∀ a ∈ s.acceptances, a.join.requesterInboxId = a.requestMessage.senderInboxId

variable {deps}
variable {h : List (Occurrence ListenerState ListenerLabel ListenerObservation)}
  {s : ListenerState}

theorem oneInbox_step {out : List ListenerObservation} (hOne : OneInbox deps h s)
    (hGuard : OneInboxAtATime deps s label) (hMove : ListenerMove s label (t, out)) :
    OneInbox deps (h ++ [⟨s, label, out⟩]) t := by
  have hKept : t.acceptances = s.acceptances → (∀ a, .accepted a ∉ out) →
      (∀ a ∈ acceptedIn (h ++ [⟨s, label, out⟩]), a ∈ t.acceptances) ∧
        ∀ a ∈ t.acceptances, a.join.requesterInboxId = a.requestMessage.senderInboxId := by
    intro hAcceptances hOut
    rw [hAcceptances]
    refine ⟨?_, hOne.requester⟩
    intro a hMem
    rcases mem_acceptedIn_snoc hMem with hOld | hNew
    · exact hOne.accepted a hOld
    · exact absurd hNew (hOut a)
  have hSenders : ∀ slug, SingleUse deps.host slug → ∀ e ∈ admitted t, ∀ e' ∈ admitted t,
      Carries deps.host e slug → Carries deps.host e' slug →
        e.senderInboxId = e'.senderInboxId := by
    intro slug hSlug e he e' he' hCarries hCarries'
    rcases admitted_of_move hMove he with hOld | hNew
    · rcases admitted_of_move hMove he' with hOld' | hNew'
      · exact hOne.senders slug hSlug e hOld e' hOld' hCarries hCarries'
      · exact hGuard e' hNew' e hOld slug hSlug hCarries' hCarries
    · rcases admitted_of_move hMove he' with hOld' | hNew'
      · exact (hGuard e hNew e' hOld' slug hSlug hCarries hCarries').symm
      · rw [hNew] at hNew'
        cases hNew'
        rfl
  cases hMove with
  | refuse hRefuses =>
    obtain ⟨hAccepted, hRequester⟩ :=
      hKept hRefuses.letsNobody.acceptances hRefuses.acceptsNobody
    exact ⟨hSenders, hAccepted, hRequester⟩
  | letThrough task event running hAdmits hRunning hAcceptances hTasks hOut =>
    obtain ⟨hAccepted, hRequester⟩ := hKept hAcceptances hOut
    exact ⟨hSenders, hAccepted, hRequester⟩
  | accept task running done acceptance hRunning hAdding hSender hAcceptances hTasks hDone hOut =>
    refine ⟨hSenders, ?_, ?_⟩
    · intro a hMem
      rw [hAcceptances]
      rcases mem_acceptedIn_snoc hMem with hOld | hNew
      · exact List.mem_append_left _ (hOne.accepted a hOld)
      · have hOnly : out = [.accepted acceptance] := hOut
        have hAccepted : .accepted a ∈ out := hNew
        rw [hOnly] at hAccepted
        cases List.mem_singleton.mp hAccepted
        exact List.mem_append_right _ (List.mem_singleton.mpr rfl)
    · intro a hMem
      rw [hAcceptances] at hMem
      rcases List.mem_append.mp hMem with hOld | hNew
      · exact hOne.requester a hOld
      · rw [List.mem_singleton.mp hNew]
        exact hSender

theorem oneInbox_run (hRun : (listenerMachine deps).Runs h s)
    (hMeet : AllMeet (OneInboxAtATime deps) h) : OneInbox deps h s := by
  induction hRun with
  | start =>
    refine ⟨?_, ?_, ?_⟩
    · intro slug hSlug e hMem
      cases hMem
    · intro a hMem
      cases hMem
    · intro a hMem
      cases hMem
  | step hRun hStep ih =>
    rw [allMeet_snoc] at hMeet
    exact oneInbox_step (ih hMeet.1) hMeet.2 (listenerStep_move deps hStep)

/-- A request that passes the check of the tag is of the inbox of every other request
with the same slug that has been let through. -/
def OneSenderASlug (deps : ListenerDeps) (s : ListenerState) (label : ListenerLabel) : Prop :=
  ∀ event ∈ admits s label, ∀ other ∈ admitted s,
    carriedSlug deps.host event = carriedSlug deps.host other →
      other.senderInboxId = event.senderInboxId

instance (s : ListenerState) (label : ListenerLabel) : Decidable (OneSenderASlug deps s label) :=
  inferInstanceAs (Decidable (∀ event ∈ admits s label, ∀ other ∈ admitted s, _ → _))

theorem OneSenderASlug.oneInbox (hOne : OneSenderASlug deps s label) :
    OneInboxAtATime deps s label := by
  intro event hEvent other hOther slug _ hCarries hCarries'
  exact hOne event hEvent other hOther (hCarries.trans hCarries'.symm)

def creatorKeyHex : String := String.ofList (List.replicate 63 '0' ++ ['1'])

def singleUseOptions : GenerateInviteSlugOptions :=
  { conversationId := "group"
    creatorInboxId := "aabb"
    walletPrivateKeyHex := creatorKeyHex
    inviteTag := "tag"
    expiresAfterUse := some true }

def sampleNonce : Bytes := List.replicate 12 0

def wireBytes (key : UInt8) (data : Bytes) : Bytes := key :: UInt8.ofNat data.length :: data

/-- A short payload without the optional fields in the wire format. -/
def wirePayload (payload : InvitePayload) : Bytes :=
  wireBytes 0x0A payload.conversationToken ++ wireBytes 0x12 payload.creatorInboxId
    ++ wireBytes 0x1A (textEncode payload.tag) ++ [0x48, if payload.expiresAfterUse then 1 else 0]

def wireSigned (invite : SignedInvite) : Bytes :=
  wireBytes 0x0A invite.payload ++ wireBytes 0x12 invite.signature

/-- The bytes of the key `1`. -/
def creatorKey : Bytes := List.replicate 31 0 ++ [1]

/-- The payload of the sample; its cipher adds a tag of zeros. -/
def singleUsePayload : InvitePayload :=
  { conversationToken :=
      (1 :: sampleNonce) ++ [2, 5, 0x67, 0x72, 0x6F, 0x75, 0x70] ++ List.replicate 16 0
    creatorInboxId := [0xAA, 0xBB]
    tag := "tag"
    expiresAfterUse := true }

/-- The signed invite of the sample; its signature begins with the key. -/
def singleUseSigned : SignedInvite :=
  ⟨wirePayload singleUsePayload, creatorKey ++ List.replicate 33 0⟩

/-- The signed invite, deflated. -/
def singleUseDeflated : Bytes :=
  [120, 156, 227, 50, 228, 82, 97, 100, 64, 2, 76, 172, 233, 69, 249, 165, 5, 12, 104, 64, 136,
    105, 213, 110, 41, 230, 146, 196, 116, 15, 70, 33, 71, 116, 73, 52, 192, 72, 64, 158, 129, 1,
    0, 255, 15, 6, 14]

/-- A host whose cipher appends the authentication tag only and whose signature begins
with the key. -/
def sampleCryptoHost : CryptoHost where
  hkdf := fun key _ _ => key
  encrypt := fun _ _ _ plaintext => plaintext ++ List.replicate 16 0
  decrypt := fun _ _ _ ciphertext => .ok (ciphertext.take (ciphertext.length - 16))
  sha256 := fun data => data
  sign := fun _ key => .ok (key ++ List.replicate 32 0, 0)
  recoverPublicKey := fun _ compact _ => .ok (compact.take 32)
  getPublicKey := fun key => .ok key
  deflate := fun data => if data = wireSigned singleUseSigned then singleUseDeflated else data
  inflate := fun _ data =>
    if data = singleUseDeflated then .ok (wireSigned singleUseSigned) else .error "invalid"

def sampleInviteHost : InviteHost :=
  { sampleCryptoHost with
    verifyPayload := fun _ => none
    encodePayload := fun payload => .ok (wirePayload payload)
    decodePayload := fun data =>
      if data = wirePayload singleUsePayload then .ok singleUsePayload else .error "invalid"
    encodeSigned := fun invite => .ok (wireSigned invite)
    decodeSigned := fun data =>
      if data = wireSigned singleUseSigned then .ok singleUseSigned else .error "invalid"
    parseUrl := fun _ => none }

def singleUseSlug : String :=
  "HwAAAHZ4nOMy5FJhZEACTKzpRfmlBQxoQIhp1W4p5pLEdA9GIUd0STTASECegQEA_w8GDg"

theorem singleUseSlug_generated :
    (generateConvosInviteSlug sampleInviteHost singleUseOptions sampleNonce).toOption =
      some singleUseSlug := by
  decide +kernel

/-- A join request with the slug. -/
def requestFrom (messageId inboxId : String) : RawMessageEvent :=
  ⟨messageId, "dm", inboxId, some "join_request", .joinRequest singleUseSlug, "", false⟩

/-- A step while every identity has a client. -/
def listenAt (now : Int) (event : ListenerEvent) : ListenerLabel := ⟨now, fun _ => true, event⟩

def requestTag (now : Int) (task : Nat) (messageId inboxId : String) : List ListenerLabel :=
  [listenAt now (.message task (requestFrom messageId inboxId)),
    listenAt now (.answer task (.identities [⟨"identity", some "aabb"⟩])),
    listenAt now (.answer task (.walletKey (.ok creatorKeyHex)))]

/-- A request whose sender is added. -/
def joinWith (now : Int) (task : Nat) (messageId inboxId : String) : List ListenerLabel :=
  requestTag now task messageId inboxId ++
    [listenAt now (.answer task (.tag (.ok (some "tag")))),
      listenAt now (.answer task (.added (.ok ()))), listenAt now (.answer task .notified)]

def sampleListener : Machine ListenerState ListenerLabel ListenerObservation :=
  listenerMachine ⟨sampleInviteHost, 5000⟩

/-- Two inboxes with one invite; the tag of the group is another one by the time of the
second request. -/
def joinsAcrossTags : List ListenerLabel :=
  joinWith 0 1 "message_1" "inbox_a" ++ requestTag 10 2 "message_2" "inbox_b" ++
    [listenAt 10 (.answer 2 (.tag (.ok (some "next")))), listenAt 10 (.answer 2 .notified)]

theorem joinsAcrossTags_oneSender :
    sampleListener.Executes joinsAcrossTags fun h _ =>
      AllMeet (OneSenderASlug ⟨sampleInviteHost, 5000⟩) h := by
  decide +kernel

theorem joinsAcrossTags_isSome :
    (sampleListener.exec sampleListener.init joinsAcrossTags).isSome = true :=
  joinsAcrossTags_oneSender.goes

/-- Two inboxes with one invite. -/
def twoJoins : List ListenerLabel :=
  joinWith 0 1 "message_1" "inbox_a" ++ joinWith 10 2 "message_2" "inbox_b"

theorem twoJoins_accepted :
    sampleListener.Executes twoJoins fun h _ =>
      ¬ ∀ a ∈ acceptedIn h, ∀ b ∈ acceptedIn h,
        Carries sampleInviteHost a.requestMessage singleUseSlug →
          Carries sampleInviteHost b.requestMessage singleUseSlug →
            a.join.requesterInboxId = b.join.requesterInboxId := by
  decide +kernel

theorem twoJoins_isSome : (sampleListener.exec sampleListener.init twoJoins).isSome = true :=
  twoJoins_accepted.goes

theorem singleUseSlug_singleUse : SingleUse sampleInviteHost singleUseSlug := by
  have hGenerated := singleUseSlug_generated
  refine ⟨singleUseOptions, sampleNonce, rfl, ?_⟩
  cases hResult : generateConvosInviteSlug sampleInviteHost singleUseOptions sampleNonce with
  | error error =>
    rw [hResult] at hGenerated
    cases hGenerated
  | ok slug =>
    rw [hResult] at hGenerated
    cases hGenerated
    rfl

end Cli
end Signet
