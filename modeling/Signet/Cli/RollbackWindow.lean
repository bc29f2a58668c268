import Signet.Cli.DisclosureRuns
import Signet.Cli.SealDisclosure

/-!
# Disclosures while their rollback is published

An expired disclosure whose withdrawal could not be published is written back, and the seals of
its chat are refreshed once more.  Until that has ended, lookups of the chat keep expired entries;
but a change for another session first deletes what has expired.

* `openRollbacks` — the elevations whose disclosure has been written back and is being published.
* `Tracked` — their chats are looked up with expired entries.
* `SparesRollbacks` — a change of the disclosures of a chat leaves one that lasts as long.
* `rollback_visible` — in every run of such steps.
-/

namespace Signet
namespace Cli

open Kit Machine Schemas

/-! ## Rollback windows -/

/-- The refresh has its chat looked up with expired entries. -/
def DisclosureRefresh.opens (refresh : DisclosureRefresh) (chatId : String) : Bool :=
  refresh.includeExpired && !refresh.stage.over &&
    decide (chatId ∈ collectUniqueChatIds refresh.chatIds)

def ElevationStage.rolledBack : ElevationStage → Option CachedElevation
  | .expiryRollback cached _ _ _ => some cached
  | _ => none

/-- The elevations whose disclosure has been written back, while their chat is refreshed. -/
def openRollbacks (s : RuntimeState) : List CachedElevation :=
  s.elevation.calls.entries.filterMap fun (call, stage) =>
    stage.rolledBack.filter fun cached =>
      (s.refreshes.get call).any fun refresh => refresh.opens cached.chatId

/-- Lookups of the chat find the disclosure that has been written back, or a later one. -/
def RollbackVisible (s : RuntimeState) (cached : CachedElevation) : Prop :=
  ∃ disclosure, (disclosure = disclosureFor elevationDeps cached ∨
      cached.elevation.expiresAt < disclosure.expiresAt) ∧
    ∀ now, (s.elevation.disclosureStore.peek now cached.chatId).1 = some disclosure ∧
      (lookupAdminAccess now s.rollbacks s.elevation.disclosureStore cached.chatId).1 =
        some ⟨disclosure.operatorId, Verifier.toISOString disclosure.expiresAt⟩

/-- A change of the entry of a chat and session. -/
structure DisclosureWrite where
  chatId : String
  sessionKey : String
  /-- When the written entry expires, or none if the entry is deleted. -/
  expiresAt : Option Int
  /-- The expired entries of the chat are deleted first. -/
  prunes : Bool

def disclosureWrites (s : ElevationState) (label : ElevationLabel) : List DisclosureWrite :=
  ((expires s label).toList ++ (withdraws s label).toList).map (fun gone =>
      ⟨gone.chatId, gone.sessionKey, none, true⟩)
    ++ (restores s label).toList.map (fun back =>
      ⟨back.chatId, back.sessionKey, some back.elevation.expiresAt, false⟩)
    ++ (mints s label).toList.map fun minted =>
      ⟨minted.1.canonicalChatId, minted.1.input.sessionKey,
        some (label.now + elevationDeps.ttlMs), true⟩

/-- The write leaves an entry of the chat that lasts until the time: its own one, or that of another
session. -/
def DisclosureWrite.Spares (write : DisclosureWrite) (now : Int) (store : AdminReadDisclosureStore)
    (until' : Int) : Prop :=
  (write.expiresAt.any fun expiresAt => decide (until' ≤ expiresAt)) = true ∨
    ∃ entry ∈ (sessionsOf store.entries write.chatId).entries, entry.1 ≠ write.sessionKey ∧
      until' ≤ entry.2.expiresAt ∧ (write.prunes = true → now < entry.2.expiresAt)

instance (write : DisclosureWrite) (now : Int) (store : AdminReadDisclosureStore) (until' : Int) :
    Decidable (write.Spares now store until') :=
  inferInstanceAs (Decidable (_ = _ ∨ ∃ entry ∈ _, _ ∧ _ ∧ (_ → _)))

def runtimeWrites (s : RuntimeState) (label : RuntimeLabel) : List DisclosureWrite :=
  match label.event with
  | .elevation event => disclosureWrites s.elevation ⟨label.now, event⟩
  | _ => []

/-- What the step does to the disclosures of a chat spares those that are being rolled back. -/
def SparesRollbacks (s : RuntimeState) (label : RuntimeLabel) : Prop :=
  ∀ write ∈ runtimeWrites s label, ∀ cached ∈ openRollbacks s, cached.chatId = write.chatId →
    write.Spares label.now s.elevation.disclosureStore cached.elevation.expiresAt

instance (s : RuntimeState) (label : RuntimeLabel) : Decidable (SparesRollbacks s label) :=
  inferInstanceAs (Decidable (∀ write ∈ _, ∀ cached ∈ _, _ → _))

variable {s t : RuntimeState} {cached : CachedElevation} {call : Nat} {chatId sessionKey : String}
  {refresh : DisclosureRefresh} {deps : RuntimeDeps} {start now until' : Int}
  {store : AdminReadDisclosureStore} {label : RuntimeLabel} {out : List RuntimeObservation}
  {event : ElevationEvent}

theorem mem_openRollbacks : cached ∈ openRollbacks s ↔
    ∃ call stage refresh, s.elevation.calls.get call = some stage ∧
      stage.rolledBack = some cached ∧ s.refreshes.get call = some refresh ∧
      refresh.opens cached.chatId = true := by
  simp only [openRollbacks, List.mem_filterMap, Prod.exists, Option.filter_eq_some_iff,
    Option.any_eq_true, AssocMap.get_eq_some_iff]
  constructor
  · rintro ⟨call, stage, hStage, hRolled, refresh, hRefresh, hOpens⟩
    exact ⟨call, stage, refresh, hStage, hRolled, hRefresh, hOpens⟩
  · rintro ⟨call, stage, refresh, hStage, hRolled, hRefresh, hOpens⟩
    exact ⟨call, stage, hStage, hRolled, refresh, hRefresh, hOpens⟩

/-! ## The tracker -/

def windowsOf (counts : ReadDisclosureRollbackTracker) (chatId : String) : Nat :=
  (counts.get chatId).getD 0

theorem windowsOf_foldl
    {turn : ReadDisclosureRollbackTracker → String → ReadDisclosureRollbackTracker} {f : Nat → Nat}
    (hTurn : ∀ counts first chatId, windowsOf (turn counts first) chatId =
      if chatId = first then f (windowsOf counts chatId) else windowsOf counts chatId)
    {chatIds : List String} (hNodup : chatIds.Nodup) (counts : ReadDisclosureRollbackTracker) :
    windowsOf (chatIds.foldl turn counts) chatId =
      if chatId ∈ chatIds then f (windowsOf counts chatId) else windowsOf counts chatId := by
  induction chatIds generalizing counts with
  | nil => simp
  | cons first rest ih =>
    rw [List.nodup_cons] at hNodup
    rw [List.foldl_cons, ih hNodup.2, hTurn]
    by_cases hFirst : chatId = first
    · -- the chat does not come again
      subst hFirst
      simp [hNodup.1]
    · simp [hFirst]

section

variable (counts : ReadDisclosureRollbackTracker) (chatIds : List String)

theorem windowsOf_enter (chatId : String) :
    windowsOf (ReadDisclosureRollbackTracker.enter counts chatIds) chatId =
      windowsOf counts chatId + (decide (chatId ∈ collectUniqueChatIds chatIds)).toNat := by
  unfold ReadDisclosureRollbackTracker.enter
  rw [windowsOf_foldl (f := fun count => count + 1) ?_ (collectUniqueChatIds chatIds).nodup]
  · simp only [← OrderedSet.mem_def]
    split <;> simp_all
  · intro counts first chatId
    unfold windowsOf
    rw [AssocMap.get_set]
    split
    · next hSame => simp [hSame]
    · rfl

theorem windowsOf_leave :
    windowsOf (ReadDisclosureRollbackTracker.leave counts chatIds) chatId =
      windowsOf counts chatId - (decide (chatId ∈ collectUniqueChatIds chatIds)).toNat := by
  unfold ReadDisclosureRollbackTracker.leave
  rw [windowsOf_foldl (f := fun count => count - 1) ?_ (collectUniqueChatIds chatIds).nodup]
  · simp only [← OrderedSet.mem_def]
    split <;> simp_all
  · intro counts first chatId
    unfold windowsOf
    dsimp only
    split
    · rw [AssocMap.get_set]
      split
      · next hSame => simp [hSame]
      · rfl
    · next hLast =>
      rw [AssocMap.get_delete]
      split
      · next hSame =>
        subst hSame
        simp only [Option.getD_none]
        omega
      · rfl

end

/-- Every refresh that includes expired entries is counted for its chats. -/
def Tracked (s : RuntimeState) : Prop :=
  ∀ chatId, s.refreshes.values.countP (fun refresh => refresh.opens chatId) ≤
    windowsOf s.rollbacks chatId

/-- It will be so with the refresh as that of the call. -/
def Counted (s : RuntimeState) (call : Nat) (refresh : DisclosureRefresh) : Prop :=
  ∀ chatId, s.refreshes.values.countP (fun refresh => refresh.opens chatId) +
      (refresh.opens chatId).toNat ≤
    windowsOf s.rollbacks chatId +
      ((s.refreshes.get call).any fun refresh => refresh.opens chatId).toNat

theorem Tracked.counted (h : Tracked s) (hGet : s.refreshes.get call = some refresh) :
    Counted s call refresh := by
  intro chatId
  rw [hGet, Option.any_some]
  exact Nat.add_le_add_right (h chatId) _

theorem opens_done (refresh : DisclosureRefresh) (result : Except SignetError Unit)
    (chatId : String) :
    ({ refresh with stage := .done result } : DisclosureRefresh).opens chatId = false := by
  simp [DisclosureRefresh.opens, RefreshStage.over]

theorem Counted.next (h : Counted s call refresh) {next : DisclosureRefresh}
    (hNext : ∀ chatId, next.opens chatId = refresh.opens chatId)
    (hRefreshes : t.refreshes = s.refreshes.set call next)
    (hRollbacks : t.rollbacks = s.rollbacks) : Tracked t := by
  intro chatId
  have hCounted := h chatId
  have hSet := AssocMap.countP_set s.refreshes call next fun refresh => refresh.opens chatId
  rw [hRefreshes, hRollbacks]
  rw [hNext] at hSet
  omega

theorem Counted.finish (h : Counted s call refresh) (hOpen : refresh.stage.over = false)
    {next : DisclosureRefresh} (hNext : ∀ chatId, next.opens chatId = false)
    (hRefreshes : t.refreshes = s.refreshes.set call next)
    (hRollbacks : t.rollbacks = (leaveRollback s refresh).rollbacks) : Tracked t := by
  intro chatId
  have hCounted := h chatId
  have hSet := AssocMap.countP_set s.refreshes call next fun refresh => refresh.opens chatId
  rw [hRefreshes, hRollbacks]
  rw [hNext, Bool.toNat_false] at hSet
  unfold leaveRollback
  cases hExpired : refresh.includeExpired with
  | false =>
    have hNever : refresh.opens chatId = false := by simp [DisclosureRefresh.opens, hExpired]
    rw [if_neg Bool.false_ne_true]
    rw [hNever] at hCounted
    omega
  | true =>
    rw [if_pos rfl, windowsOf_leave]
    have hOpens : refresh.opens chatId =
        decide (chatId ∈ collectUniqueChatIds refresh.chatIds) := by
      simp [DisclosureRefresh.opens, hExpired, hOpen]
    rw [hOpens] at hCounted
    omega

theorem Counted.listNext (h : Counted s call refresh) (hOpen : refresh.stage.over = false) :
    Tracked (listNext s call refresh).1 := by
  unfold Cli.listNext
  split
  · refine h.finish hOpen (opens_done refresh (.ok ())) ?_ rfl
    unfold finishRefresh leaveRollback
    split <;> rfl
  · refine h.next (fun chatId => ?_) rfl rfl
    simp only [DisclosureRefresh.opens, hOpen]
    rfl

theorem Tracked.begin (h : Tracked s) (chatIds : List String) (includeExpired : Bool) :
    Tracked (onDisclosureChanged now s call chatIds includeExpired).1 := by
  unfold onDisclosureChanged
  refine Counted.listNext ?_ rfl
  intro chatId
  have hTracked := h chatId
  cases includeExpired with
  | false => exact Nat.le_add_right_of_le hTracked
  | true =>
    have hEnter := windowsOf_enter s.rollbacks chatIds chatId
    change _ + (decide (chatId ∈ collectUniqueChatIds chatIds)).toNat ≤
      windowsOf (ReadDisclosureRollbackTracker.enter s.rollbacks chatIds) chatId + _
    rw [hEnter]
    exact Nat.le_add_right_of_le (Nat.add_le_add_right hTracked _)

theorem Tracked.step (h : Tracked s) (hStep : runtimeStep deps s label = some (t, out)) :
    Tracked t := by
  by_cases hElevation : ∃ event, label.event = .elevation event
  · obtain ⟨event, hEvent⟩ := hElevation
    have hMove := runtimeStep_move deps hStep
    rw [hEvent] at hMove
    cases hMove with
    | elevation event turn hRun =>
      apply runElevation_keeps Tracked hRun fun s chatIds includeExpired h =>
        h.begin chatIds includeExpired
      intro elevationTurn _ _ chatId
      unfold takeRefresh
      split
      · exact Nat.le_trans ((List.filter_sublist).map Prod.snd).countP_le (h chatId)
      · exact h chatId
  · cases (refreshMove_of_step hStep (not_exists.mp hElevation)).2.1 with
    | same hRefreshes hRollbacks =>
      intro chatId
      rw [hRefreshes, hRollbacks]
      exact h chatId
    | next call refresh seals remaining stage hGet hOpen hRefreshes hStage hRollbacks =>
      refine (h.counted hGet).next (fun chatId => ?_) hRefreshes hRollbacks
      simp [DisclosureRefresh.opens, hOpen, hStage]
    | finish call refresh result hGet hOpen hRefreshes hRollbacks =>
      exact (h.counted hGet).finish hOpen (opens_done refresh result) hRefreshes hRollbacks

/-! ## Where windows open -/

/-- The call does not publish a rollback of an expired disclosure. -/
def Unrolled (s : ElevationState) (call : Nat) : Prop :=
  ∀ stage, s.calls.get call = some stage → stage.rolledBack = none

section Elevation

variable {s : ElevationState} {stage : ElevationStage}

section

variable (s : ElevationState) (call : Nat)

theorem unrolled_await (hStage : stage.rolledBack = none) : Unrolled (s.await call stage) call := by
  intro stage' hGet
  have hSet : (s.calls.set call stage).get call = some stage' := hGet
  rw [AssocMap.get_set_self] at hSet
  cases hSet
  exact hStage

theorem unrolled_finish : Unrolled (s.finish call) call := by
  intro stage hGet
  have hDeleted : (s.calls.delete call).get call = some stage := hGet
  exact absurd rfl (AssocMap.of_get_delete hDeleted).1

theorem unrolled_askApprover (request : ElevationRequest) :
    Unrolled (askApprover elevationDeps s call request).1 call :=
  unrolled_await s call rfl

theorem unrolled_expirySynced (cached : CachedElevation) (caller : ExpiryCaller)
    (result : Except SignetError Unit) :
    Unrolled (expirySynced elevationDeps s call cached caller result).1 call := by
  unfold expirySynced
  split
  · exact unrolled_await s call rfl
  · split
    · exact unrolled_finish s call
    · exact unrolled_finish s call

theorem unrolled_expiryDone (cached : CachedElevation) (request : Option ElevationRequest)
    (result : Except SignetError Unit) :
    Unrolled (expiryDone elevationDeps s call cached request result).1 call := by
  unfold expiryDone
  split
  · exact unrolled_askApprover s call _
  · exact unrolled_finish s call
  · exact unrolled_finish s call

end

/-- The disclosure of the elevation is written back, and its call publishes that. -/
def WritesBack (s t : ElevationState) (call : Nat) (cached : CachedElevation) : Prop :=
  t.disclosureStore = s.disclosureStore.restore [cached.chatId] cached.sessionKey
      (disclosureFor elevationDeps cached) ∧
    ∀ stage, t.calls.get call = some stage → stage.rolledBack = some cached

theorem writesBack_resumeElevation {answer : ElevationAnswer} {turn : ElevationTurn}
    (hTurn : resumeElevation elevationDeps now s call stage answer = some turn) :
    Unrolled turn.1 call ∨ ∃ cached, WritesBack s turn.1 call cached := by
  unfold resumeElevation at hTurn
  split at hTurn
  · split at hTurn <;> cases hTurn <;> exact Or.inl (unrolled_finish _ call)
  · split at hTurn <;> cases hTurn
    · exact Or.inl (unrolled_expirySynced _ call _ _ _)
    · refine Or.inr ⟨_, rfl, ?_⟩
      intro stage' hGet
      rw [ElevationState.await, AssocMap.get_set_self] at hGet
      cases hGet
      rfl
  · split at hTurn <;> cases hTurn <;> exact Or.inl (unrolled_expirySynced _ call _ _ _)
  · split at hTurn <;> cases hTurn
    · exact Or.inl (unrolled_await _ call rfl)
    · exact Or.inl (unrolled_expiryDone _ call _ _ _)
    · exact Or.inl (unrolled_expiryDone _ call _ _ _)
  · split at hTurn <;> cases hTurn <;> exact Or.inl (unrolled_expiryDone _ call _ _ _)
  · split at hTurn <;> cases hTurn <;> exact Or.inl (unrolled_await _ call rfl)
  · split at hTurn <;> cases hTurn <;> exact Or.inl (unrolled_finish _ call)
  · split at hTurn <;> cases hTurn
    · exact Or.inl (unrolled_finish _ call)
    · exact Or.inl (unrolled_await _ call rfl)
  · split at hTurn <;> cases hTurn <;> exact Or.inl (unrolled_await _ call rfl)
  · split at hTurn <;> cases hTurn <;> exact Or.inl (unrolled_await _ call rfl)
  · split at hTurn <;> cases hTurn <;> exact Or.inl (unrolled_finish _ call)
  · split at hTurn <;> cases hTurn
    · exact Or.inl (unrolled_await _ call rfl)
    · exact Or.inl (unrolled_finish _ call)
  · cases hTurn

/-- A call comes to publish a rollback when its disclosure is written back. -/
theorem writesBack_of_step {label : ElevationLabel} {turn : ElevationTurn}
    (hStep : elevationStep elevationDeps s label = some turn) :
    Unrolled turn.1 label.call ∨ ∃ cached, WritesBack s turn.1 label.call cached := by
  obtain ⟨now, event⟩ := label
  unfold elevationStep elevationTurn at hStep
  cases event with
  | request call normalizeChatId input =>
    dsimp only at hStep
    split at hStep
    · cases hStep
    · next hFree =>
      cases hStep
      left
      unfold resolveForRequest
      split
      · intro stage hGet
        exact absurd (Option.isSome_of_eq_some hGet) hFree
      · split
        · split <;> exact unrolled_await _ call rfl
        · exact unrolled_askApprover _ call _
  | timer call cacheKey =>
    dsimp only at hStep
    split at hStep
    · cases hStep
    · obtain ⟨cached, -, rfl⟩ := Option.map_eq_some_iff.mp hStep
      exact Or.inl (unrolled_await _ call rfl)
  | answer call answer =>
    obtain ⟨stage, -, hRest⟩ := Option.bind_eq_some_iff.mp hStep
    split at hRest
    · have hBack := writesBack_resumeElevation hRest
      exact hBack
    · cases hRest

end Elevation

theorem refreshes_listNext {other : Nat} (hOther : other ≠ call) (s : RuntimeState)
    (refresh : DisclosureRefresh) :
    (listNext s call refresh).1.refreshes.get other = s.refreshes.get other := by
  unfold listNext finishRefresh leaveRollback
  split
  · dsimp only
    rw [AssocMap.get_set_of_ne _ _ hOther]
    split <;> rfl
  · exact AssocMap.get_set_of_ne _ _ hOther

theorem refreshes_onDisclosureChanged {other : Nat} (hOther : other ≠ call) (s : RuntimeState)
    (chatIds : List String) (includeExpired : Bool) :
    (onDisclosureChanged now s call chatIds includeExpired).1.refreshes.get other =
      s.refreshes.get other := by
  unfold onDisclosureChanged
  rw [refreshes_listNext hOther]
  split <;> rfl

/-- What a segment of the elevation manager does to its state, and to the refreshes of others. -/
theorem elevation_of_run {turn : RuntimeTurn} (hRun : runElevation now s event = some turn) :
    ∃ elevationTurn, elevationStep elevationDeps s.elevation ⟨now, event⟩ = some elevationTurn ∧
      turn.1.elevation = elevationTurn.1 ∧
      ∀ other, other ≠ event.call → turn.1.refreshes.get other = s.refreshes.get other := by
  refine runElevation_keeps (fun t => ∃ turn, elevationStep elevationDeps s.elevation ⟨now, event⟩ =
    some turn ∧ t.elevation = turn.1 ∧ ∀ other, other ≠ event.call →
      t.refreshes.get other = s.refreshes.get other) hRun ?_ ?_
  · rintro s' chatIds includeExpired ⟨turn, hTurn, hAfter, hRefreshes⟩
    refine ⟨turn, hTurn, ?_, ?_⟩
    · rw [onDisclosureChanged_read (fun s => s.elevation) fun _ _ _ => rfl, hAfter]
    · intro other hOther
      rw [refreshes_onDisclosureChanged hOther, hRefreshes other hOther]
  · intro turn _ hTurn
    refine ⟨turn, hTurn, rfl, ?_⟩
    intro other hOther
    unfold takeRefresh
    split
    · exact (AssocMap.get_delete _ _ _).trans (if_neg hOther)
    · rfl

theorem runElevation_of_step (hEvent : label.event = .elevation event)
    (hStep : runtimeStep deps s label = some (t, out)) :
    runElevation label.now s event = some (t, out) := by
  simpa only [runtimeStep, hEvent] using hStep

theorem chatId_ne_of_open (hOpen : cached ∈ openRollbacks s) : cached.chatId ≠ "" := by
  obtain ⟨call, stage, refresh, -, -, -, hOpens⟩ := mem_openRollbacks.mp hOpen
  simp only [DisclosureRefresh.opens, Bool.and_eq_true, decide_eq_true_eq] at hOpens
  exact (mem_collectUniqueChatIds.mp hOpens.2).2

/-- A window was open before the step, or it is opened by the step. -/
theorem openRollbacks_of_step (hStep : runtimeStep deps s label = some (t, out))
    (hOpen : cached ∈ openRollbacks t) :
    cached ∈ openRollbacks s ∨ ∃ call, WritesBack s.elevation t.elevation call cached := by
  obtain ⟨call, stage, refresh, hStage, hRolled, hGet, hOpens⟩ := mem_openRollbacks.mp hOpen
  rw [mem_openRollbacks]
  by_cases hElevation : ∃ event, label.event = .elevation event
  · obtain ⟨event, hEvent⟩ := hElevation
    obtain ⟨turn, hTurn, hAfter, hRefreshes⟩ :=
      elevation_of_run (runElevation_of_step hEvent hStep)
    dsimp only at hAfter hRefreshes
    rw [hAfter] at hStage ⊢
    by_cases hCall : call = event.call
    · subst hCall
      rcases writesBack_of_step hTurn with hNone | ⟨cached', hStore, hAt⟩
      · rw [hNone stage hStage] at hRolled
        cases hRolled
      · cases (hAt stage hStage).symm.trans hRolled
        exact Or.inr ⟨event.call, hStore, hAt⟩
    · rw [others_step hTurn call hCall] at hStage
      rw [hRefreshes call hCall] at hGet
      exact Or.inl ⟨call, stage, refresh, hStage, hRolled, hGet, hOpens⟩
  · left
    obtain ⟨hCalls, hMove, -⟩ := refreshMove_of_step hStep (not_exists.mp hElevation)
    rw [hCalls] at hStage
    have hBefore : ∃ before, s.refreshes.get call = some before ∧
        before.opens cached.chatId = true := by
      cases hMove with
      | same hRefreshes hRollbacks =>
        rw [hRefreshes] at hGet
        exact ⟨refresh, hGet, hOpens⟩
      | next call' before seals remaining stage hGet' hOpen hRefreshes hStage hRollbacks =>
        rw [hRefreshes] at hGet
        rcases AssocMap.get_set_cases hGet with ⟨rfl, rfl⟩ | ⟨-, hGet⟩
        · refine ⟨before, hGet', ?_⟩
          simpa [DisclosureRefresh.opens, hOpen, hStage] using hOpens
        · exact ⟨refresh, hGet, hOpens⟩
      | finish call' before result hGet' hOpen hRefreshes hRollbacks =>
        rw [hRefreshes] at hGet
        rcases AssocMap.get_set_cases hGet with ⟨rfl, rfl⟩ | ⟨-, hGet⟩
        · rw [opens_done] at hOpens
          cases hOpens
        · exact ⟨refresh, hGet, hOpens⟩
    obtain ⟨before, hGet, hOpens⟩ := hBefore
    exact ⟨call, stage, before, hStage, hRolled, hGet, hOpens⟩

theorem Tracked.has (h : Tracked s) (hOpen : cached ∈ openRollbacks s) :
    ReadDisclosureRollbackTracker.has s.rollbacks cached.chatId = true := by
  obtain ⟨call, stage, refresh, -, -, hGet, hOpens⟩ := mem_openRollbacks.mp hOpen
  have hCounted : 0 < s.refreshes.values.countP fun refresh => refresh.opens cached.chatId :=
    List.countP_pos_iff.mpr ⟨refresh, AssocMap.mem_values.mpr ⟨call, hGet⟩, hOpens⟩
  exact decide_eq_true (Nat.lt_of_lt_of_le hCounted (h cached.chatId))

/-! ## The entries of a chat -/

/-- The chat has an entry that lasts until the time. -/
def Lasts (store : AdminReadDisclosureStore) (chatId : String) (until' : Int) : Prop :=
  ∃ sessionKey, Discloses store chatId sessionKey until'

/-- Every entry is for the actor of the elevation manager. -/
def Owned (store : AdminReadDisclosureStore) : Prop :=
  ∀ chatId sessionKey disclosure, disclosureOf store.entries chatId sessionKey = some disclosure →
    disclosure.operatorId = elevationDeps.disclosureActorId

theorem Discloses.lasts {later : Int} (h : Discloses store chatId sessionKey later)
    (hLater : until' ≤ later) : Lasts store chatId until' := by
  obtain ⟨disclosure, hGet, hUntil⟩ := h
  exact ⟨sessionKey, disclosure, hGet, Int.le_trans hLater hUntil⟩

theorem discloses_of_mem {entry : String × AdminReadDisclosure}
    (h : entry ∈ (sessionsOf store.entries chatId).entries) :
    Discloses store chatId entry.1 entry.2.expiresAt := by
  refine ⟨entry.2, ?_, Int.le_refl _⟩
  rw [disclosureOf_eq]
  exact AssocMap.get_eq_some_iff.mpr h

section

variable (h : Lasts store chatId until')

include h

theorem Lasts.withdraw (gone : CachedElevation)
    (hSpares : chatId = gone.chatId →
      DisclosureWrite.Spares ⟨gone.chatId, gone.sessionKey, none, true⟩ now store until') :
    Lasts (withdrawDisclosure elevationDeps now store gone).1 chatId until' := by
  by_cases hChat : chatId = gone.chatId
  · subst hChat
    rcases hSpares rfl with hOwn | ⟨entry, hMem, hNe, hUntil, hLive⟩
    · cases hOwn
    · exact ((discloses_of_mem hMem).delete_of_ne (hLive rfl) fun hSame => hNe hSame.2).lasts hUntil
  · obtain ⟨key, hKept⟩ := h
    exact ⟨key, hKept.mutate_of_ne (fun found => if key = gone.sessionKey then none else found)
      (fun perSession => AssocMap.get_delete _ _ _) hChat⟩

theorem Lasts.disclose (hNamed : chatId ≠ "") {minted : CachedElevation}
    (hLive : now < minted.elevation.expiresAt)
    (hSpares : chatId = minted.chatId → DisclosureWrite.Spares
      ⟨minted.chatId, minted.sessionKey, some minted.elevation.expiresAt, true⟩ now store until') :
    Lasts (discloseApproval elevationDeps now store minted).1 chatId until' := by
  by_cases hChat : chatId = minted.chatId
  · subst hChat
    rcases hSpares rfl with hOwn | ⟨entry, hMem, hNe, hUntil, hOther⟩
    · exact (Discloses.set hNamed (Int.le_refl _) hLive).lasts (of_decide_eq_true hOwn)
    · exact ((discloses_of_mem hMem).set_of_ne (hOther rfl) fun hSame => hNe hSame.2).lasts hUntil
  · obtain ⟨key, hKept⟩ := h
    exact ⟨key, hKept.mutate_of_ne
      (fun found => if key = minted.sessionKey then some (disclosureFor elevationDeps minted)
        else found)
      (fun perSession => AssocMap.get_set _ _ _ _) hChat⟩

theorem Lasts.restore (back : CachedElevation)
    (hSpares : chatId = back.chatId → DisclosureWrite.Spares
      ⟨back.chatId, back.sessionKey, some back.elevation.expiresAt, false⟩ now store until') :
    Lasts (store.restore [back.chatId] back.sessionKey (disclosureFor elevationDeps back)) chatId
      until' := by
  by_cases hChat : chatId = back.chatId
  · rcases hSpares hChat with hOwn | ⟨entry, hMem, hNe, hUntil, -⟩
    · obtain ⟨key, hKept⟩ := h
      exact ⟨key, hKept.restore fun _ _ => of_decide_eq_true hOwn⟩
    · subst hChat
      exact ((discloses_of_mem hMem).restore fun _ hSame => absurd hSame hNe).lasts hUntil
  · obtain ⟨key, hKept⟩ := h
    exact ⟨key, hKept.restore fun hSame => absurd hSame hChat⟩

end

section Move

variable {s t : ElevationState} {label : ElevationLabel}

/-- A step of the elevation manager that spares the disclosure of a chat. -/
theorem Lasts.move (h : Lasts s.disclosureStore chatId until') (hNamed : chatId ≠ "")
    (hMove : ElevationMove elevationDeps s label call t)
    (hSpares : ∀ write ∈ disclosureWrites s label, chatId = write.chatId →
      write.Spares label.now s.disclosureStore until') :
    Lasts t.disclosureStore chatId until' := by
  cases hMove with
  | quiet hSame hMoved => rwa [hSame.store]
  | reuse request cached hHit hFound hSame hMoved => rwa [hSame.store]
  | expire gone hExpires hCache hStore hApprovals hMoved =>
    rw [hStore]
    refine h.withdraw gone (hSpares ⟨gone.chatId, gone.sessionKey, none, true⟩ ?_)
    simp [disclosureWrites, hExpires]
  | withdraw gone hWithdraws hCache hStore hApprovals hMoved =>
    rw [hStore]
    refine h.withdraw gone (hSpares ⟨gone.chatId, gone.sessionKey, none, true⟩ ?_)
    simp [disclosureWrites, hWithdraws]
  | restore back hRestores hCache hStore hApprovals hMoved =>
    rw [hStore]
    refine h.restore back (hSpares
      ⟨back.chatId, back.sessionKey, some back.elevation.expiresAt, false⟩ ?_)
    simp [disclosureWrites, hRestores]
  | mint request approvalId fingerprint hMints hCache hStore hApprovals hMoved =>
    rw [hStore]
    apply h.disclose hNamed
    · exact Int.lt_add_of_pos_right _ (by decide)
    · refine hSpares ⟨request.canonicalChatId, request.input.sessionKey,
        some (label.now + elevationDeps.ttlMs), true⟩ ?_
      simp [disclosureWrites, hMints]
  | proceed stage request cached hStage hApproving hSame hMoved => rwa [hSame.store]
  | cache stage request cached hStage hApproving hCache hStore hApprovals hMoved => rwa [hStore]

theorem Owned.mutate (h : Owned store) {chatIds : List String}
    {fn : SessionDisclosures → SessionDisclosures}
    (write : String → Option AdminReadDisclosure → Option AdminReadDisclosure)
    (hFn : ∀ sessionKey perSession,
      (fn perSession).get sessionKey = write sessionKey (perSession.get sessionKey))
    (hWrite : ∀ sessionKey found disclosure, write sessionKey found = some disclosure →
      found = some disclosure ∨ disclosure.operatorId = elevationDeps.disclosureActorId) :
    Owned ⟨(mutate now fn chatIds store.entries).1⟩ := by
  intro chatId sessionKey disclosure hGet
  dsimp only at hGet
  rw [disclosureOf_mutate now (write sessionKey) (hFn sessionKey)] at hGet
  split at hGet
  · rcases hWrite _ _ _ (keepLive_eq_some.mp hGet).1 with hFound | hOwner
    · exact h _ _ _ (keepLive_eq_some.mp hFound).1
    · exact hOwner
  · exact h _ _ _ hGet

theorem Owned.withdraw (h : Owned store) (gone : CachedElevation) :
    Owned (withdrawDisclosure elevationDeps now store gone).1 := by
  refine h.mutate (fun key found => if key = gone.sessionKey then none else found)
    (fun key perSession => AssocMap.get_delete _ _ _) ?_
  intro key found disclosure hSome
  split at hSome
  · cases hSome
  · exact Or.inl hSome

theorem Owned.move (h : Owned s.disclosureStore)
    (hMove : ElevationMove elevationDeps s label call t) : Owned t.disclosureStore := by
  cases hMove with
  | quiet hSame hMoved => rwa [hSame.store]
  | reuse request cached hHit hFound hSame hMoved => rwa [hSame.store]
  | expire gone hExpires hCache hStore hApprovals hMoved =>
    rw [hStore]
    exact h.withdraw gone
  | withdraw gone hWithdraws hCache hStore hApprovals hMoved =>
    rw [hStore]
    exact h.withdraw gone
  | restore back hRestores hCache hStore hApprovals hMoved =>
    rw [hStore]
    intro chatId key disclosure hGet
    rw [disclosureOf_restore] at hGet
    split at hGet
    · cases hGet
      rfl
    · exact h _ _ _ hGet
  | mint request approvalId fingerprint hMints hCache hStore hApprovals hMoved =>
    rw [hStore]
    refine h.mutate (fun key found => if key = request.input.sessionKey then some (disclosureFor
      elevationDeps (mintElevation elevationDeps label.now request approvalId fingerprint))
        else found)
      (fun key perSession => AssocMap.get_set _ _ _ _) ?_
    intro key found disclosure hSome
    split at hSome
    · cases hSome
      exact Or.inr rfl
    · exact Or.inl hSome
  | proceed stage request cached hStage hApproving hSame hMoved => rwa [hSame.store]
  | cache stage request cached hStage hApproving hCache hStore hApprovals hMoved => rwa [hStore]

end Move

/-- What a lookup leaves of an entry. -/
theorem disclosureOf_lookup (rollbacks : ReadDisclosureRollbackTracker) (chatId chatId' : String) :
    disclosureOf (lookupAdminAccess now rollbacks store chatId').2.entries chatId sessionKey =
      if chatId = chatId' then
        keepLive now (ReadDisclosureRollbackTracker.has rollbacks chatId')
          (disclosureOf store.entries chatId sessionKey)
      else disclosureOf store.entries chatId sessionKey := by
  unfold lookupAdminAccess
  dsimp only
  split
  · next hHas =>
    rw [hHas]
    exact disclosureOf_aggregateForChat now true store.entries chatId' chatId sessionKey
  · next hHas =>
    rw [Bool.not_eq_true] at hHas
    rw [hHas]
    exact disclosureOf_aggregateForChat now false store.entries chatId' chatId sessionKey

theorem peek_eq (now : Int) (store : AdminReadDisclosureStore) (chatId : String) :
    (store.peek now chatId).1 = latestDisclosure (sessionsOf store.entries chatId).values := by
  unfold AdminReadDisclosureStore.peek aggregateForChat sessionsOf
  cases store.entries.get chatId with
  | none => rfl
  | some perSession =>
    have hAll : perSession.filter (fun _ disclosure => true || disclosure.isLive now) =
        perSession := AssocMap.ext (List.filter_eq_self.mpr fun _ _ => rfl)
    simp only [hAll, Option.getD_some]
    split
    · next hEmpty => rw [List.isEmpty_iff.mp hEmpty]; rfl
    · rfl

/-! ## Every run -/

structure Windowed (s : RuntimeState) : Prop where
  tracked : Tracked s
  owned : Owned s.elevation.disclosureStore
  lasting : ∀ cached ∈ openRollbacks s,
    Lasts s.elevation.disclosureStore cached.chatId cached.elevation.expiresAt

/-- A lookup of the resolver deletes no entry of a chat with an open window. -/
theorem Windowed.read (h : Windowed s) (hRead : StoreRead now s t) :
    Owned t.elevation.disclosureStore ∧ ∀ cached ∈ openRollbacks s,
      Lasts t.elevation.disclosureStore cached.chatId cached.elevation.expiresAt := by
  rcases hRead with hSame | ⟨chatId', hLookup⟩
  · rw [hSame]
    exact ⟨h.owned, h.lasting⟩
  · rw [hLookup]
    constructor
    · intro chatId sessionKey disclosure hGet
      rw [disclosureOf_lookup] at hGet
      split at hGet
      · exact h.owned _ _ _ (Option.filter_eq_some_iff.mp hGet).1
      · exact h.owned _ _ _ hGet
    · intro cached hOpen
      obtain ⟨sessionKey, disclosure, hGet, hUntil⟩ := h.lasting cached hOpen
      refine ⟨sessionKey, disclosure, ?_, hUntil⟩
      rw [disclosureOf_lookup, hGet]
      split
      · next hChat =>
        rw [← hChat, h.tracked.has hOpen]
        rfl
      · rfl

theorem Windowed.step (h : Windowed s) (hSpares : SparesRollbacks s label)
    (hStep : runtimeStep deps s label = some (t, out)) : Windowed t := by
  have hKept : Owned t.elevation.disclosureStore ∧ ∀ cached ∈ openRollbacks s,
      Lasts t.elevation.disclosureStore cached.chatId cached.elevation.expiresAt := by
    by_cases hElevation : ∃ event, label.event = .elevation event
    · obtain ⟨event, hEvent⟩ := hElevation
      obtain ⟨⟨after, observed⟩, hTurn, hAfter, -⟩ :=
        elevation_of_run (runElevation_of_step hEvent hStep)
      have hMove := elevationStep_move elevationDeps hTurn
      dsimp only at hAfter
      rw [hAfter]
      let now := { s.elevation with clock := label.now }
      refine ⟨Owned.move (s := now) h.owned hMove, fun cached hOpen => ?_⟩
      apply Lasts.move (s := now) (h.lasting cached hOpen) (chatId_ne_of_open hOpen) hMove
      intro write hWrite hChat
      refine hSpares write ?_ cached hOpen hChat
      rw [runtimeWrites, hEvent]
      exact hWrite
    · exact h.read (refreshMove_of_step hStep (not_exists.mp hElevation)).2.2
  refine ⟨h.tracked.step hStep, hKept.1, ?_⟩
  intro cached hOpen
  rcases openRollbacks_of_step hStep hOpen with hOld | ⟨call, hStore, -⟩
  · exact hKept.2 cached hOld
  · have hNamed := chatId_ne_of_open hOpen
    rw [hStore]
    refine ⟨cached.sessionKey, disclosureFor elevationDeps cached, ?_, Int.le_refl _⟩
    rw [disclosureOf_restore, if_pos ⟨mem_collectUniqueChatIds.mpr ⟨by simp, hNamed⟩, rfl⟩]

/-- The entry of the latest expiry is disclosed, and it lasts as long as the restored one. -/
theorem Windowed.visible (h : Windowed s) (hOpen : cached ∈ openRollbacks s) :
    RollbackVisible s cached := by
  obtain ⟨sessionKey, disclosure, hGet, hUntil⟩ := h.lasting cached hOpen
  rw [disclosureOf_eq] at hGet
  have hMem := AssocMap.mem_values.mpr ⟨sessionKey, hGet⟩
  cases hLatest : latestDisclosure
      (sessionsOf s.elevation.disclosureStore.entries cached.chatId).values with
  | none =>
    rw [latestDisclosure_eq_none.mp hLatest] at hMem
    cases hMem
  | some latest =>
    refine ⟨latest, ?_, fun now => ?_⟩
    · have hLater := not_isLater_latestDisclosure hLatest hMem
      have hLe : disclosure.expiresAt ≤ latest.expiresAt := by
        simpa [AdminReadDisclosure.isLater, Dated.parse] using hLater
      obtain ⟨key, hLatestGet⟩ := AssocMap.mem_values.mp (mem_of_latestDisclosure hLatest)
      rw [← disclosureOf_eq] at hLatestGet
      have hOwner := h.owned _ _ _ hLatestGet
      rcases Int.lt_or_le cached.elevation.expiresAt latest.expiresAt with hLt | hNot
      · exact Or.inr hLt
      · left
        obtain ⟨operatorId, expiresAt⟩ := latest
        have hSame : expiresAt = cached.elevation.expiresAt :=
          Int.le_antisymm hNot (Int.le_trans hUntil hLe)
        dsimp only at hOwner
        rw [hOwner, hSame]
        rfl
    · have hPeek : (s.elevation.disclosureStore.peek now cached.chatId).1 = some latest :=
        (peek_eq now _ _).trans hLatest
      refine ⟨hPeek, ?_⟩
      unfold lookupAdminAccess
      rw [if_pos (h.tracked.has hOpen)]
      dsimp only
      rw [hPeek]
      rfl

/-- **Rollbacks stay visible** until they have been published, in every run whose steps spare the
disclosures that are being rolled back. -/
theorem rollback_visible {h : List RuntimeOccurrence} (hRun : (runtimeMachine deps start).Runs h s)
    (hSpares : AllMeet SparesRollbacks h) :
    ∀ t ∈ visited h s, ∀ cached ∈ openRollbacks t, RollbackVisible t cached := by
  intro t hVisited cached hOpen
  obtain ⟨h', hRun', hSub⟩ := hRun.of_mem_visited hVisited
  have hWindowed : Windowed t := by
    refine hRun'.guarded (fun o ho => hSpares o (hSub o ho)) ?_ ?_
    · exact ⟨fun _ => Nat.zero_le _, (fun _ _ _ hGet => nomatch hGet), (fun _ hMem => nomatch hMem)⟩
    · intro _ s label t out _ _ hBefore hMeets hStep
      exact hBefore.step hMeets hStep
  exact hWindowed.visible hOpen

/-! ## Runs on fixed inputs -/

def signingError : SignetError := InternalError.create "signing failed"

/-- A timer fires just before its elevation expires and the seal of the chat cannot be refreshed,
so the disclosure, expired by then, is written back.  Then another session gets an elevation. -/
def rolledBackBeside : List RuntimeLabel :=
  credentialForChat ++ approveForChat 10 1 "approval_1" ++
    [⟨11, .advanceRefresh 1 0 ""⟩] ++ returnApproved 12 1 ++
    issueSealAt 20 1 "seal_00000000000000aa" ++
    [elevate 60009 (.timer 2 (buildCacheKey "key" sealedChat)),
      ⟨60010, .advanceRefresh 2 2 "seal_00000000000000bb"⟩,
      ⟨60011, .signed 2 (.error signingError)⟩, ⟨60012, .advanceRefresh 2 0 ""⟩,
      elevate 60013 (.answer 2 (.notify (.error signingError))),
      elevate 60014 (.request 3 (fun chatId => chatId) (readInput "other" sealedChat)),
      elevate 60015 (.answer 3 (.authorize (.ok ()))),
      elevate 60016 (.answer 3 (.fingerprint (.ok "admin") "approval_2"))]

set_option maxRecDepth 20000 in
theorem rolledBackBeside_spares :
    sampleRuntimeMachine.Executes rolledBackBeside fun h s =>
      AllMeet SparesRollbacks h ∧ openRollbacks s ≠ [] := by
  decide

theorem rollback_visible_beside :
    ∃ h s, sampleRuntimeMachine.Runs h s ∧ openRollbacks s ≠ [] ∧
      ∀ cached ∈ openRollbacks s, RollbackVisible s cached := by
  obtain ⟨h, s, -, hRun, hSpares, hOpen⟩ := rolledBackBeside_spares.exists_run
  exact ⟨h, s, hRun, hOpen, rollback_visible hRun hSpares s (mem_visited_self h s)⟩

/-- The approval of the other session cannot be published, either. -/
def withdrawnBeside : List RuntimeLabel :=
  rolledBackBeside ++
    [⟨60017, .advanceRefresh 3 3 "seal_00000000000000cc"⟩,
      ⟨60018, .signed 3 (.error signingError)⟩,
      ⟨60019, .advanceRefresh 3 0 ""⟩, elevate 60020 (.answer 3 (.notify (.error signingError)))]

set_option maxRecDepth 20000 in
theorem withdrawnBeside_hidden :
    sampleRuntimeMachine.Executes withdrawnBeside fun _ s => ∃ cached ∈ openRollbacks s,
      (lookupAdminAccess 60020 s.rollbacks s.elevation.disclosureStore cached.chatId).1 = none := by
  decide

/-- Its withdrawal has deleted the disclosure that was written back. -/
theorem rollback_invisible :
    ∃ h s, sampleRuntimeMachine.Runs h s ∧
      ¬ ∀ cached ∈ openRollbacks s, RollbackVisible s cached := by
  obtain ⟨h, s, -, hRun, cached, hOpen, hNone⟩ := withdrawnBeside_hidden.exists_run
  refine ⟨h, s, hRun, fun hVisible => ?_⟩
  obtain ⟨disclosure, -, hFound⟩ := hVisible cached hOpen
  rw [(hFound 60020).2] at hNone
  cases hNone

end Cli
end Signet
