import Signet.Cli.ReadElevation

/-!
# What a step of the read-elevation manager can do

A step moves one call.  Most steps only change what that call awaits; the others
touch the cache, the disclosure store or the list of approvals, each in one way.

* `hits`, `expires`, `withdraws`, `restores`, `mints`, `returns` — what a step is
  about to do, read off the state before it and its label.
* `ElevationMove` — the steps, one constructor for each kind.
* `elevationStep_move` — every step is one of them.
* `Keyed` — what is cached is under its own key, and what is about to be cached is
  its request's.
* `resolved_ok` — the elevations that are returned.
-/

namespace Signet
namespace Cli

open Kit Schemas

def ElevationStage.approving : ElevationStage → Option (ElevationRequest × CachedElevation)
  | .approvalNotify request cached _ => some (request, cached)
  | .approvedAudit request cached => some (request, cached)
  | _ => none

def ElevationStage.returning : ElevationStage → Option (ElevationRequest × CachedElevation)
  | .reuseAudit request cached => some (request, cached)
  | .approvalNotify request cached _ => some (request, cached)
  | .approvedAudit request cached => some (request, cached)
  | _ => none

def ElevationRequest.key (request : ElevationRequest) : String :=
  buildCacheKey request.input.sessionKey request.canonicalChatId

/-- The step is a request that finds an unexpired elevation under its key. -/
def hits (s : ElevationState) (label : ElevationLabel) :
    Option (ElevationRequest × CachedElevation) :=
  match label.event with
  | .request _ normalizeChatId input =>
    (elevationRequest normalizeChatId input).bind fun request =>
      ((s.cache.get request.key).filter fun cached =>
        decide (label.now < cached.elevation.expiresAt)).map fun cached => (request, cached)
  | _ => none

/-- The elevation whose expiry the step begins: an expired one that a request has
found, or the one of a timer. -/
def expires (s : ElevationState) (label : ElevationLabel) : Option CachedElevation :=
  match label.event with
  | .request _ normalizeChatId input =>
    (elevationRequest normalizeChatId input).bind fun request =>
      (s.cache.get request.key).filter fun cached =>
        decide (cached.elevation.expiresAt ≤ label.now)
  | .timer _ cacheKey => s.expirationTimers.get cacheKey
  | .answer .. => none

/-- The approved elevation that the step rolls back. -/
def withdraws (s : ElevationState) (label : ElevationLabel) : Option CachedElevation :=
  match label.event with
  | .answer call (.notify (.error _)) =>
    match s.calls.get call with
    | some (.approvalNotify _ cached _) => some cached
    | _ => none
  | .answer call (.audit (.error _)) =>
    match s.calls.get call with
    | some (.approvedAudit _ cached) => some cached
    | _ => none
  | _ => none

/-- The elevation whose disclosure the step writes back. -/
def restores (s : ElevationState) (label : ElevationLabel) : Option CachedElevation :=
  match label.event with
  | .answer call (.notify (.error _)) =>
    match s.calls.get call with
    | some (.expiryNotify cached _ _) => some cached
    | _ => none
  | _ => none

/-- The request for which the step gives an approval, and the id of the approval. -/
def mints (s : ElevationState) (label : ElevationLabel) : Option (ElevationRequest × String) :=
  match label.event with
  | .answer call (.fingerprint (.ok _) approvalId) =>
    match s.calls.get call with
    | some (.fingerprint request) => some (request, approvalId)
    | _ => none
  | _ => none

/-- The elevation that the step returns. -/
def returns (s : ElevationState) (label : ElevationLabel) :
    Option (ElevationRequest × CachedElevation) :=
  match label.event with
  | .answer call (.audit (.ok ())) =>
    match s.calls.get call with
    | some (.reuseAudit request cached) => some (request, cached)
    | some (.approvedAudit request cached) => some (request, cached)
    | _ => none
  | _ => none

/-- The call awaits at a stage that satisfies the condition, or it is over; the
other calls stay where they are. -/
structure Moved (s t : ElevationState) (call : Nat) (at' : ElevationStage → Prop) : Prop where
  clock : t.clock = s.clock
  mine : ∀ stage, t.calls.get call = some stage → at' stage
  others : ∀ other, other ≠ call → t.calls.get other = s.calls.get other

variable (deps : AdminReadElevationManagerDeps)

structure SameStores (s t : ElevationState) : Prop where
  cache : t.cache = s.cache
  store : t.disclosureStore = s.disclosureStore
  approvals : t.approvals = s.approvals

/-- The effect of a step. -/
inductive ElevationMove (s : ElevationState) (label : ElevationLabel) (call : Nat)
    (t : ElevationState) : Prop
  | quiet (hSame : SameStores s t) (hMoved : Moved s t call fun stage => stage.returning = none)
  | reuse (request : ElevationRequest) (cached : CachedElevation)
      (hHit : hits s label = some (request, cached))
      (hFound : s.cache.get request.key = some cached) (hSame : SameStores s t)
      (hMoved : Moved s t call fun stage => stage = .reuseAudit request cached)
  | expire (cached : CachedElevation) (hExpires : expires s label = some cached)
      (hCache : t.cache = s.cache.delete cached.key)
      (hStore : t.disclosureStore =
        (withdrawDisclosure deps label.now s.disclosureStore cached).1)
      (hApprovals : t.approvals = s.approvals)
      (hMoved : Moved s t call fun stage => stage.returning = none)
  /-- An approved elevation is rolled back. -/
  | withdraw (cached : CachedElevation) (hWithdraws : withdraws s label = some cached)
      (hCache : t.cache = s.cache)
      (hStore : t.disclosureStore =
        (withdrawDisclosure deps label.now s.disclosureStore cached).1)
      (hApprovals : t.approvals = s.approvals)
      (hMoved : Moved s t call fun stage => stage.returning = none)
  /-- The disclosure of an elevation is written back. -/
  | restore (cached : CachedElevation) (hRestores : restores s label = some cached)
      (hCache : t.cache = s.cache)
      (hStore : t.disclosureStore = s.disclosureStore.restore [cached.chatId] cached.sessionKey
        (disclosureFor deps cached))
      (hApprovals : t.approvals = s.approvals)
      (hMoved : Moved s t call fun stage => stage.returning = none)
  | mint (request : ElevationRequest) (approvalId fingerprint : String)
      (hMints : mints s label = some (request, approvalId))
      (hCache : t.cache = s.cache)
      (hStore : t.disclosureStore = (discloseApproval deps label.now s.disclosureStore
        (mintElevation deps label.now request approvalId fingerprint)).1)
      (hApprovals : t.approvals = s.approvals ++ [⟨request.input.sessionKey,
        request.canonicalChatId,
        (mintElevation deps label.now request approvalId fingerprint).elevation⟩])
      (hMoved : Moved s t call fun stage => stage.returning =
        some (request, mintElevation deps label.now request approvalId fingerprint))
  /-- The disclosure of an approved elevation has been published. -/
  | proceed (stage : ElevationStage) (request : ElevationRequest) (cached : CachedElevation)
      (hStage : s.calls.get call = some stage)
      (hApproving : stage.approving = some (request, cached))
      (hSame : SameStores s t)
      (hMoved : Moved s t call fun stage => stage = .approvedAudit request cached)
  | cache (stage : ElevationStage) (request : ElevationRequest) (cached : CachedElevation)
      (hStage : s.calls.get call = some stage)
      (hApproving : stage.approving = some (request, cached))
      (hCache : t.cache = s.cache.set request.key cached)
      (hStore : t.disclosureStore = s.disclosureStore)
      (hApprovals : t.approvals = s.approvals)
      (hMoved : Moved s t call fun _ => False)

/-! ## Every step is one of them -/

variable {elevation : AdminReadElevation} {label : ElevationLabel} {request : ElevationRequest}
  {stage : ElevationStage} {at' : ElevationStage → Prop} {s t : ElevationState}
  {turn : ElevationTurn} {out : List ElevationObservation} {answer : ElevationAnswer}

theorem moved_set {call : Nat} (hClock : t.clock = s.clock)
    (hCalls : t.calls = s.calls.set call stage) (hStage : at' stage) : Moved s t call at' := by
  refine ⟨hClock, ?_, ?_⟩
  · intro stage' hGet
    rw [hCalls, AssocMap.get_set_self] at hGet
    cases hGet
    exact hStage
  · intro other hOther
    rw [hCalls, AssocMap.get_set_of_ne _ _ hOther]

theorem moved_delete {call : Nat} (hClock : t.clock = s.clock)
    (hCalls : t.calls = s.calls.delete call) :
    Moved s t call at' := by
  refine ⟨hClock, ?_, ?_⟩
  · intro stage hGet
    rw [hCalls, AssocMap.get_delete, if_pos rfl] at hGet
    cases hGet
  · intro other hOther
    rw [hCalls, AssocMap.get_delete, if_neg hOther]

section

variable (s : ElevationState) (label : ElevationLabel) (call : Nat)

/-- A call that only comes to another await, away from an elevation. -/
theorem quiet_await (hStage : stage.returning = none) :
    ElevationMove deps s label call (s.await call stage) :=
  .quiet ⟨rfl, rfl, rfl⟩ (moved_set rfl rfl hStage)

/-- A call that ends and leaves nothing behind. -/
theorem quiet_finish : ElevationMove deps s label call (s.finish call) :=
  .quiet ⟨rfl, rfl, rfl⟩ (moved_delete rfl rfl)

theorem move_askApprover (request : ElevationRequest) :
    ElevationMove deps s label call (askApprover deps s call request).1 := by
  unfold askApprover
  split
  · exact quiet_await deps s label call rfl
  · exact quiet_finish deps s label call

theorem move_expirySynced (cached : CachedElevation) (caller : ExpiryCaller)
    (result : Except SignetError Unit) :
    ElevationMove deps s label call (expirySynced deps s call cached caller result).1 := by
  unfold expirySynced
  split
  · exact quiet_await deps s label call rfl
  · split
    · exact quiet_finish deps s label call
    · exact quiet_finish deps s label call

theorem move_expiryDone (cached : CachedElevation) (request : Option ElevationRequest)
    (result : Except SignetError Unit) :
    ElevationMove deps s label call (expiryDone deps s call cached request result).1 := by
  unfold expiryDone
  split
  · exact move_askApprover deps s label call _
  · exact quiet_finish deps s label call
  · exact quiet_finish deps s label call

/-- A request, up to its first await. -/
theorem move_resolveForRequest (normalizeChatId : String → String)
    (input : ResolveAdminReadElevationInput) (hFree : s.calls.get call = none)
    (hEvent : label.event = .request call normalizeChatId input) :
    ElevationMove deps s label call
      (resolveForRequest deps label.now s call normalizeChatId input).1 := by
  unfold resolveForRequest
  split
  · refine .quiet ⟨rfl, rfl, rfl⟩ ⟨rfl, ?_, fun _ _ => rfl⟩
    intro stage hGet
    rw [hFree] at hGet
    cases hGet
  · next request hRequest =>
    have hKey : buildCacheKey input.sessionKey request.canonicalChatId = request.key := by
      unfold elevationRequest at hRequest
      split at hRequest
      · obtain ⟨chatId, -, rfl⟩ := Option.map_eq_some_iff.mp hRequest
        rfl
      · cases hRequest
    rw [hKey]
    split
    · next cached hFound =>
      split
      · next hLive =>
        refine .reuse request cached ?_ hFound ⟨rfl, rfl, rfl⟩ (moved_set rfl rfl rfl)
        simp [hits, hEvent, hRequest, hFound, hLive]
      · next hExpired =>
        refine .expire cached ?_ rfl rfl rfl (moved_set rfl rfl rfl)
        simp [expires, hEvent, hRequest, hFound, Int.not_lt.mp hExpired]
    · exact move_askApprover deps s label call request

end

/-- A call that goes on. -/
theorem move_resumeElevation {call : Nat} (hStage : s.calls.get call = some stage)
    (hEvent : label.event = .answer call answer)
    (hTurn : resumeElevation deps label.now s call stage answer = some turn) :
    ElevationMove deps s label call turn.1 := by
  unfold resumeElevation at hTurn
  split at hTurn
  · split at hTurn <;> cases hTurn <;> exact quiet_finish deps s label call
  · split at hTurn <;> cases hTurn
    · exact move_expirySynced deps s label call _ _ _
    · refine .restore _ ?_ rfl rfl rfl (moved_set rfl rfl rfl)
      simp [restores, hEvent, hStage]
  · split at hTurn <;> cases hTurn <;> exact move_expirySynced deps s label call _ _ _
  · split at hTurn <;> cases hTurn
    · exact quiet_await deps s label call rfl
    · exact move_expiryDone deps s label call _ _ _
    · exact move_expiryDone deps s label call _ _ _
  · split at hTurn <;> cases hTurn <;> exact move_expiryDone deps s label call _ _ _
  · split at hTurn <;> cases hTurn <;> exact quiet_await deps s label call rfl
  · split at hTurn <;> cases hTurn <;> exact quiet_finish deps s label call
  · split at hTurn <;> cases hTurn
    · exact quiet_finish deps s label call
    · refine .mint _ _ _ ?_ rfl rfl rfl (moved_set rfl rfl rfl)
      simp [mints, hEvent, hStage]
  · split at hTurn <;> cases hTurn
    · exact .proceed _ _ _ hStage rfl ⟨rfl, rfl, rfl⟩ (moved_set rfl rfl rfl)
    · refine .withdraw _ ?_ rfl rfl rfl (moved_set rfl rfl rfl)
      simp [withdraws, hEvent, hStage]
  · split at hTurn <;> cases hTurn <;> exact quiet_await deps s label call rfl
  · split at hTurn <;> cases hTurn <;> exact quiet_finish deps s label call
  · split at hTurn <;> cases hTurn
    · refine .withdraw _ ?_ rfl rfl rfl (moved_set rfl rfl rfl)
      simp [withdraws, hEvent, hStage]
    · exact .cache _ _ _ hStage rfl rfl rfl rfl (moved_delete rfl rfl)
  · cases hTurn

def ElevationLabel.call (label : ElevationLabel) : Nat := label.event.call

theorem elevationTurn_move (hTurn : elevationTurn deps s label.now label.event = some turn) :
    ElevationMove deps s label label.call turn.1 := by
  unfold elevationTurn at hTurn
  cases hEvent : label.event with
  | request call normalizeChatId input =>
    simp only [hEvent] at hTurn
    split at hTurn
    · cases hTurn
    · next hFree =>
      cases hTurn
      rw [show label.call = call by simp [ElevationLabel.call, hEvent, ElevationEvent.call]]
      exact move_resolveForRequest deps s label call normalizeChatId input
        (by simpa using hFree) hEvent
  | timer call cacheKey =>
    simp only [hEvent] at hTurn
    split at hTurn
    · cases hTurn
    · obtain ⟨cached, hTimer, rfl⟩ := Option.map_eq_some_iff.mp hTurn
      rw [show label.call = call by simp [ElevationLabel.call, hEvent, ElevationEvent.call]]
      refine .expire cached ?_ rfl rfl rfl (moved_set rfl rfl rfl)
      simp [expires, hEvent, hTimer]
  | answer call answer =>
    simp only [hEvent] at hTurn
    obtain ⟨stage, hStage, hRest⟩ := Option.bind_eq_some_iff.mp hTurn
    split at hRest
    · rw [show label.call = call by simp [ElevationLabel.call, hEvent, ElevationEvent.call]]
      exact move_resumeElevation deps hStage hEvent hRest
    · cases hRest

/-- Every step, in the state with the new clock reading. -/
theorem elevationStep_move (hStep : elevationStep deps s label = some (t, out)) :
    ElevationMove deps { s with clock := label.now } label label.call t :=
  elevationTurn_move deps hStep

/-- The other calls stay where they are. -/
theorem others_step {deps : AdminReadElevationManagerDeps}
    (hStep : elevationStep deps s label = some (t, out)) :
    ∀ other, other ≠ label.call → t.calls.get other = s.calls.get other := by
  intro other hNe
  cases elevationStep_move deps hStep with
  | quiet _ hMoved => exact hMoved.others other hNe
  | reuse _ _ _ _ _ hMoved => exact hMoved.others other hNe
  | expire _ _ _ _ _ hMoved => exact hMoved.others other hNe
  | withdraw _ _ _ _ _ hMoved => exact hMoved.others other hNe
  | restore _ _ _ _ _ hMoved => exact hMoved.others other hNe
  | mint _ _ _ _ _ _ _ hMoved => exact hMoved.others other hNe
  | proceed _ _ _ _ _ _ hMoved => exact hMoved.others other hNe
  | cache _ _ _ _ _ _ _ _ hMoved => exact hMoved.others other hNe

/-! ## Keys -/

/-- The elevation is for the session and the chat of the request. -/
def SamePair (request : ElevationRequest) (cached : CachedElevation) : Prop :=
  cached.sessionKey = request.input.sessionKey ∧ cached.chatId = request.canonicalChatId

instance (request : ElevationRequest) (cached : CachedElevation) :
    Decidable (SamePair request cached) :=
  inferInstanceAs (Decidable (_ ∧ _))

theorem SamePair.key_eq {cached : CachedElevation} (h : SamePair request cached) :
    request.key = cached.key := by
  unfold ElevationRequest.key CachedElevation.key
  rw [h.1, h.2]

/-- What is cached is under its own key, and what is about to be cached is for the
session and the chat of its request. -/
structure Keyed (s : ElevationState) : Prop where
  cache : ∀ key cached, s.cache.get key = some cached → key = cached.key
  approving : ∀ call stage, s.calls.get call = some stage → ∀ request cached,
    stage.approving = some (request, cached) → SamePair request cached

theorem approving_of_returning (h : stage.returning = none) :
    stage.approving = none := by
  cases stage <;> first | rfl | cases h

theorem returning_of_approving {carried : ElevationRequest × CachedElevation}
    (h : stage.approving = some carried) :
    stage.returning = some carried := by
  cases stage <;> first | exact h | cases h

theorem approvals_move {call : Nat} (hMove : ElevationMove deps s label call t) :
    t.approvals = s.approvals ∨ ∃ approval request approvalId,
      mints s label = some (request, approvalId) ∧ approval.elevation.approvalId = approvalId ∧
        t.approvals = s.approvals ++ [approval] := by
  cases hMove with
  | quiet hSame _ => exact Or.inl hSame.approvals
  | reuse _ _ _ _ hSame _ => exact Or.inl hSame.approvals
  | expire _ _ _ _ hApprovals _ => exact Or.inl hApprovals
  | withdraw _ _ _ _ hApprovals _ => exact Or.inl hApprovals
  | restore _ _ _ _ hApprovals _ => exact Or.inl hApprovals
  | mint request approvalId fingerprint hMints _ _ hApprovals _ =>
    exact Or.inr ⟨_, request, approvalId, hMints, rfl, hApprovals⟩
  | proceed _ _ _ _ _ hSame _ => exact Or.inl hSame.approvals
  | cache _ _ _ _ _ _ _ hApprovals _ => exact Or.inl hApprovals

theorem approvals_subset {call : Nat} (hMove : ElevationMove deps s label call t) :
    s.approvals ⊆ t.approvals := by
  rcases approvals_move deps hMove with hSame | ⟨_, _, _, -, -, hMore⟩
  · rw [hSame]
    exact fun _ hMem => hMem
  · rw [hMore]
    exact List.subset_append_left _ _

/-- The ids of the approvals stay apart where a drawn id is new among them. -/
theorem unique_move {call : Nat} (hMove : ElevationMove deps s label call t)
    (hUnique : (s.approvals.map fun approval => approval.elevation.approvalId).Nodup)
    (hFresh : ∀ drawn ∈ mints s label, ∀ approval ∈ s.approvals,
      approval.elevation.approvalId ≠ drawn.2) :
    (t.approvals.map fun approval => approval.elevation.approvalId).Nodup := by
  rcases approvals_move deps hMove with hSame | ⟨approval, request, approvalId, hMints, hId, hMore⟩
  · exact hSame ▸ hUnique
  · rw [hMore, List.map_append, List.nodup_append]
    refine ⟨hUnique, List.nodup_singleton _, ?_⟩
    intro id hMem id' hMem' hEq
    obtain ⟨other, hOther, rfl⟩ := List.mem_map.mp hMem
    cases List.mem_singleton.mp hMem'
    exact hFresh _ hMints other hOther (hEq.trans hId)

/-! ## What is carried along -/

section

variable (P : ElevationState → String → CachedElevation → Prop)
  (carries : ElevationStage → Option (ElevationRequest × CachedElevation))
  (R : ElevationState → ElevationRequest → CachedElevation → Prop)

/-- What holds of all that is cached, and of what the calls carry. -/
structure CarriesAlong (s : ElevationState) : Prop where
  cache : ∀ key cached, s.cache.get key = some cached → P s key cached
  calls : ∀ call stage, s.calls.get call = some stage → ∀ request cached,
    carries stage = some (request, cached) → R s request cached

variable {P carries R}

/-- **What a move carries along**: it holds of what is approved and of what is found in the
cache, and is passed on to what is cached. -/
theorem CarriesAlong.move {call : Nat} (h : CarriesAlong P carries R s)
    (hMove : ElevationMove deps s label call t)
    (hReturning : ∀ {stage carried}, carries stage = some carried →
      stage.returning = some carried)
    (hApproving : ∀ {stage carried}, stage.approving = some carried →
      carries stage = some carried)
    (hP : ∀ {key cached}, s.approvals ⊆ t.approvals → P s key cached → P t key cached)
    (hR : ∀ {request cached}, s.approvals ⊆ t.approvals → R s request cached →
      R t request cached)
    (hReuse : ∀ request cached, hits s label = some (request, cached) →
      s.cache.get request.key = some cached →
      carries (.reuseAudit request cached) = some (request, cached) → R s request cached)
    (hMint : ∀ request approvalId fingerprint, mints s label = some (request, approvalId) →
      t.approvals = s.approvals ++ [⟨request.input.sessionKey, request.canonicalChatId,
        (mintElevation deps label.now request approvalId fingerprint).elevation⟩] →
        R t request (mintElevation deps label.now request approvalId fingerprint))
    (hCache : ∀ {request cached}, R s request cached → P s request.key cached) :
    CarriesAlong P carries R t := by
  have hKept := approvals_subset deps hMove
  have hCalls : ∀ {at' : ElevationStage → Prop}, Moved s t call at' →
      (∀ stage, at' stage → ∀ request cached, carries stage = some (request, cached) →
        R t request cached) →
      ∀ other stage, t.calls.get other = some stage → ∀ request cached,
        carries stage = some (request, cached) → R t request cached := by
    intro at' hMoved hMine other stage hGet
    by_cases hCall : other = call
    · subst hCall
      exact hMine stage (hMoved.mine stage hGet)
    · rw [hMoved.others other hCall] at hGet
      exact fun request cached hCarries => hR hKept (h.calls other stage hGet _ _ hCarries)
  have hNothing : ∀ stage : ElevationStage, stage.returning = none → ∀ request cached,
      carries stage = some (request, cached) → R t request cached := by
    intro stage hNone request cached hCarries
    rw [hReturning hCarries] at hNone
    cases hNone
  have hSameCache : t.cache = s.cache → ∀ key cached, t.cache.get key = some cached →
      P t key cached := by
    intro hSame key cached hGet
    rw [hSame] at hGet
    exact hP hKept (h.cache key cached hGet)
  cases hMove with
  | quiet hSame hMoved => exact ⟨hSameCache hSame.cache, hCalls hMoved hNothing⟩
  | reuse request cached hHit hFound hSame hMoved =>
    refine ⟨hSameCache hSame.cache, hCalls hMoved ?_⟩
    rintro stage rfl request' cached' hCarries
    cases hReturning hCarries
    exact hR hKept (hReuse request cached hHit hFound hCarries)
  | expire gone hExpires hDeleted hStore hApprovals hMoved =>
    refine ⟨?_, hCalls hMoved hNothing⟩
    intro key cached hGet
    rw [hDeleted] at hGet
    exact hP hKept (h.cache key cached (AssocMap.of_get_delete hGet).2)
  | withdraw gone hWithdraws hSame hStore hApprovals hMoved =>
    exact ⟨hSameCache hSame, hCalls hMoved hNothing⟩
  | restore back hRestores hSame hStore hApprovals hMoved =>
    exact ⟨hSameCache hSame, hCalls hMoved hNothing⟩
  | mint request approvalId fingerprint hMints hSame hStore hApprovals hMoved =>
    refine ⟨hSameCache hSame, hCalls hMoved ?_⟩
    intro stage hStage request' cached' hCarries
    rw [hReturning hCarries] at hStage
    cases hStage
    exact hMint request approvalId fingerprint hMints hApprovals
  | proceed stage request cached hStage hApproves hSame hMoved =>
    refine ⟨hSameCache hSame.cache, hCalls hMoved ?_⟩
    rintro stage' rfl request' cached' hCarries
    cases hReturning hCarries
    exact hR hKept (h.calls call stage hStage _ _ (hApproving hApproves))
  | cache stage request cached hStage hApproves hSet hStore hApprovals hMoved =>
    refine ⟨?_, hCalls hMoved fun _ hFalse => hFalse.elim⟩
    intro key cached' hGet
    rw [hSet] at hGet
    rcases AssocMap.get_set_cases hGet with ⟨rfl, hValue⟩ | ⟨-, hGet⟩
    · cases hValue
      exact hP hKept (hCache (h.calls call stage hStage _ _ (hApproving hApproves)))
    · exact hP hKept (h.cache key cached' hGet)

end

theorem Keyed.move {call : Nat} (h : Keyed s) (hMove : ElevationMove deps s label call t) :
    Keyed t := by
  have hCarried : CarriesAlong (fun _ key cached => key = cached.key) ElevationStage.approving
      (fun _ request cached => SamePair request cached) s := ⟨h.cache, h.approving⟩
  have hAfter := hCarried.move deps hMove returning_of_approving id (fun _ => id) (fun _ => id)
    (by rintro request cached - - ⟨⟩) (fun _ _ _ _ _ => ⟨rfl, rfl⟩) SamePair.key_eq
  exact ⟨hAfter.cache, hAfter.calls⟩

theorem keyed_run {start : Int}
    {h : List (Occurrence ElevationState ElevationLabel ElevationObservation)}
    (hRun : (elevationMachine deps start).Runs h s) : Keyed s := by
  have hInit : Keyed (elevationMachine deps start).init := by
    constructor
    · intro key cached hGet
      cases hGet
    · intro call stage hGet
      cases hGet
  apply hRun.state_invariant hInit
  intro s label t out hKeyed hStep
  have hNow : Keyed { s with clock := label.now } := ⟨hKeyed.cache, hKeyed.approving⟩
  exact hNow.move deps (elevationStep_move deps hStep)

/-! ## What is returned -/

/-- No elevation is returned. -/
def Unresolved (out : List ElevationObservation) : Prop :=
  ∀ request elevation, .resolved request (.ok elevation) ∉ out

theorem unresolved_error (request : ElevationRequest) (error : SignetError) :
    Unresolved [.resolved request (.error error)] := by
  intro request' elevation hMem
  cases List.mem_singleton.mp hMem

theorem unresolved_nil : Unresolved [] := by
  intro request elevation hMem
  cases hMem

theorem unresolved_appendAudit (s : ElevationState) (call : Nat) (stage : ElevationStage)
    (entry : AdminAuditEntry) : Unresolved (appendAudit deps s call stage entry).2 := by
  intro request elevation hMem
  unfold appendAudit at hMem
  split at hMem
  · cases List.mem_singleton.mp hMem
  · cases hMem

theorem unresolved_notify (chatIds : List String) (includeExpired : Bool) :
    Unresolved (notifyDisclosureChanged deps chatIds includeExpired) := by
  intro request elevation hMem
  unfold notifyDisclosureChanged at hMem
  split at hMem
  · cases hMem
  · cases List.mem_singleton.mp hMem

section

variable (s : ElevationState) (call : Nat)

theorem unresolved_askApprover (request : ElevationRequest) :
    Unresolved (askApprover deps s call request).2 := by
  unfold askApprover
  split
  · exact unresolved_nil
  · exact unresolved_error request _

theorem unresolved_expirySynced (cached : CachedElevation) (caller : ExpiryCaller)
    (result : Except SignetError Unit) :
    Unresolved (expirySynced deps s call cached caller result).2 := by
  unfold expirySynced
  split
  · exact unresolved_appendAudit deps s call _ _
  · split
    · exact unresolved_error _ _
    · exact unresolved_error _ _

theorem unresolved_expiryDone (cached : CachedElevation) (request : Option ElevationRequest)
    (result : Except SignetError Unit) :
    Unresolved (expiryDone deps s call cached request result).2 := by
  unfold expiryDone
  split
  · exact unresolved_askApprover deps s call _
  · exact unresolved_error _ _
  · intro request elevation hMem
    cases List.mem_singleton.mp hMem

end

theorem unresolved_resolveForRequest (now : Int) (s : ElevationState) (call : Nat)
    (normalizeChatId : String → String) (input : ResolveAdminReadElevationInput) :
    Unresolved (resolveForRequest deps now s call normalizeChatId input).2 := by
  unfold resolveForRequest
  split
  · intro request elevation hMem
    cases List.mem_singleton.mp hMem
  · split
    · split
      · exact unresolved_appendAudit deps s call _ _
      · exact unresolved_notify deps _ _
    · exact unresolved_askApprover deps s call _

/-- An elevation is returned by a call that has carried it to its last await. -/
theorem resolved_resumeElevation {call : Nat} (hStage : s.calls.get call = some stage)
    (hEvent : label.event = .answer call answer)
    (hTurn : resumeElevation deps label.now s call stage answer = some turn)
    (hMem : .resolved request (.ok elevation) ∈ turn.2) :
    ∃ cached, returns s label = some (request, cached) ∧ elevation = cached.elevation := by
  unfold resumeElevation at hTurn
  split at hTurn
  · next cached _ =>
    split at hTurn <;> cases hTurn
    · exact absurd hMem (unresolved_error _ _ _ _)
    · cases List.mem_singleton.mp hMem
      exact ⟨cached, by simp [returns, hEvent, hStage], rfl⟩
  · split at hTurn <;> cases hTurn
    · exact absurd hMem (unresolved_expirySynced deps _ _ _ _ _ _ _)
    · exact absurd hMem (unresolved_notify deps _ _ _ _)
  · split at hTurn <;> cases hTurn <;>
      exact absurd hMem (unresolved_expirySynced deps _ _ _ _ _ _ _)
  · split at hTurn <;> cases hTurn
    · exact absurd hMem (unresolved_appendAudit deps _ _ _ _ _ _)
    · exact absurd hMem (unresolved_expiryDone deps _ _ _ _ _ _ _)
    · exact absurd hMem (unresolved_expiryDone deps _ _ _ _ _ _ _)
  · split at hTurn <;> cases hTurn <;>
      exact absurd hMem (unresolved_expiryDone deps _ _ _ _ _ _ _)
  · split at hTurn <;> cases hTurn
    · exact absurd hMem (unresolved_appendAudit deps _ _ _ _ _ _)
    · exact absurd hMem (unresolved_nil _ _)
  · split at hTurn <;> cases hTurn <;> exact absurd hMem (unresolved_error _ _ _ _)
  · split at hTurn <;> cases hTurn
    · exact absurd hMem (unresolved_error _ _ _ _)
    · exact absurd hMem (unresolved_notify deps _ _ _ _)
  · split at hTurn <;> cases hTurn
    · exact absurd hMem (unresolved_appendAudit deps _ _ _ _ _ _)
    · exact absurd hMem (unresolved_notify deps _ _ _ _)
  · split at hTurn <;> cases hTurn <;>
      exact absurd hMem (unresolved_appendAudit deps _ _ _ _ _ _)
  · split at hTurn <;> cases hTurn <;> exact absurd hMem (unresolved_error _ _ _ _)
  · next cached _ =>
    split at hTurn <;> cases hTurn
    · exact absurd hMem (unresolved_notify deps _ _ _ _)
    · cases List.mem_singleton.mp hMem
      exact ⟨cached, by simp [returns, hEvent, hStage], rfl⟩
  · cases hTurn

theorem resolved_elevationTurn (hTurn : elevationTurn deps s label.now label.event = some turn)
    (hMem : .resolved request (.ok elevation) ∈ turn.2) :
    ∃ cached, returns s label = some (request, cached) ∧ elevation = cached.elevation := by
  unfold elevationTurn at hTurn
  cases hEvent : label.event with
  | request call normalizeChatId input =>
    simp only [hEvent] at hTurn
    split at hTurn
    · cases hTurn
    · cases hTurn
      exact absurd hMem (unresolved_resolveForRequest deps _ _ _ _ _ _ _)
  | timer call cacheKey =>
    simp only [hEvent] at hTurn
    split at hTurn
    · cases hTurn
    · obtain ⟨cached, -, rfl⟩ := Option.map_eq_some_iff.mp hTurn
      exact absurd hMem (unresolved_notify deps _ _ _ _)
  | answer call answer =>
    simp only [hEvent] at hTurn
    obtain ⟨stage, hStage, hRest⟩ := Option.bind_eq_some_iff.mp hTurn
    split at hRest
    · exact resolved_resumeElevation deps hStage hEvent hRest hMem
    · cases hRest

/-- The elevations a step returns. -/
theorem resolved_ok (hStep : elevationStep deps s label = some (t, out))
    (hMem : .resolved request (.ok elevation) ∈ out) :
    ∃ cached, returns s label = some (request, cached) ∧ elevation = cached.elevation :=
  resolved_elevationTurn deps (s := { s with clock := label.now }) hStep hMem

end Cli
end Signet
