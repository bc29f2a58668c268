import Signet.Cli.ElevationMoves

/-!
# The disclosure behind a live elevation

An approved elevation is disclosed first and cached afterwards, and the disclosure
of a session and chat is one entry, however many approvals it stands for.  Taking it
back for one of them, or writing an older one back, takes it from the others as
well.

* `reliedOn` — the elevations whose disclosure a step must not take.
* `KeepsDisclosed` — a step takes no disclosure that another elevation relies on.
* `Disclosed` — every live cached elevation is disclosed at least as long.
* `live_elevation_disclosed` — after every run of such steps.
-/

namespace Signet
namespace Cli

open Kit Machine Schemas

/-- The elevations that calls other than the named one are about to cache. -/
def approvingOthers (s : ElevationState) (call : Nat) : List CachedElevation :=
  s.calls.entries.filterMap fun entry =>
    if entry.1 = call then none else entry.2.approving.map Prod.snd

/-- The elevations that rely on their disclosure, the one of the named call apart. -/
def reliedOn (s : ElevationState) (call : Nat) : List CachedElevation :=
  s.cache.values ++ approvingOthers s call

variable {cached : CachedElevation} {now ttlMs : Int} {call : Nat}

theorem mem_approvingOthers {s : ElevationState} {k : Nat} {stage : ElevationStage}
    {request : ElevationRequest} (hGet : s.calls.get k = some stage)
    (hApproving : stage.approving = some (request, cached)) (hOther : k ≠ call) :
    cached ∈ approvingOthers s call := by
  unfold approvingOthers
  rw [List.mem_filterMap]
  exact ⟨(k, stage), AssocMap.get_eq_some_iff.mp hGet, by simp [hOther, hApproving]⟩

/-- The elevations are for the same chat and session. -/
def CachedElevation.SameEntry (cached other : CachedElevation) : Prop :=
  other.chatId = cached.chatId ∧ other.sessionKey = cached.sessionKey

instance (cached other : CachedElevation) : Decidable (cached.SameEntry other) :=
  inferInstanceAs (Decidable (_ ∧ _))

/-- The clock does not go back, an approval is for a named chat, and the disclosure of
an elevation is taken back, or an older one written back, only when no other live
elevation of its session and chat relies on it. -/
structure KeepsDisclosed (s : ElevationState) (label : ElevationLabel) : Prop where
  clock : s.clock ≤ label.now
  named : ∀ drawn ∈ mints s label, drawn.1.canonicalChatId ≠ ""
  expire : ∀ cached ∈ expires s label, ∀ other ∈ approvingOthers s label.call,
    cached.SameEntry other → other.elevation.expiresAt ≤ label.now
  withdraw : ∀ cached ∈ withdraws s label, ∀ other ∈ reliedOn s label.call,
    cached.SameEntry other → other.elevation.expiresAt ≤ label.now
  restore : ∀ cached ∈ restores s label, ∀ other ∈ reliedOn s label.call,
    cached.SameEntry other → label.now < other.elevation.expiresAt →
      other.elevation.expiresAt ≤ cached.elevation.expiresAt

instance (s : ElevationState) (label : ElevationLabel) : Decidable (KeepsDisclosed s label) :=
  decidable_of_iff
    (s.clock ≤ label.now ∧ (∀ drawn ∈ mints s label, drawn.1.canonicalChatId ≠ "") ∧
      (∀ cached ∈ expires s label, ∀ other ∈ approvingOthers s label.call,
        cached.SameEntry other → other.elevation.expiresAt ≤ label.now) ∧
      (∀ cached ∈ withdraws s label, ∀ other ∈ reliedOn s label.call,
        cached.SameEntry other → other.elevation.expiresAt ≤ label.now) ∧
      ∀ cached ∈ restores s label, ∀ other ∈ reliedOn s label.call,
        cached.SameEntry other → label.now < other.elevation.expiresAt →
          other.elevation.expiresAt ≤ cached.elevation.expiresAt)
    ⟨fun h => ⟨h.1, h.2.1, h.2.2.1, h.2.2.2.1, h.2.2.2.2⟩,
      fun h => ⟨h.clock, h.named, h.expire, h.withdraw, h.restore⟩⟩

/-- The elevation is disclosed, at least until it expires. -/
def DisclosedIn (store : AdminReadDisclosureStore) (cached : CachedElevation) : Prop :=
  Discloses store cached.chatId cached.sessionKey cached.elevation.expiresAt

/-- Every cached elevation that has not expired is disclosed at least as long. -/
def Disclosed (s : ElevationState) : Prop :=
  ∀ key cached, s.cache.get key = some cached → s.clock < cached.elevation.expiresAt →
    DisclosedIn s.disclosureStore cached

/-! ## The invariant -/

/-- The elevation is cached, or a call is about to cache it. -/
def Relies (s : ElevationState) (cached : CachedElevation) : Prop :=
  (∃ key, s.cache.get key = some cached) ∨
    ∃ call stage request, s.calls.get call = some stage ∧
      stage.approving = some (request, cached)

/-- What is relied on is disclosed while it is live, and nothing lasts longer than an
approval given now. -/
structure Covers (ttlMs : Int) (s : ElevationState) : Prop where
  bound : ∀ cached, Relies s cached → cached.elevation.expiresAt ≤ s.clock + ttlMs
  covered : ∀ cached, Relies s cached → s.clock < cached.elevation.expiresAt →
    DisclosedIn s.disclosureStore cached

variable {deps : AdminReadElevationManagerDeps} {s t : ElevationState} {label : ElevationLabel}
  {store : AdminReadDisclosureStore} {at' : ElevationStage → Prop} {other : CachedElevation}

/-- What is relied on after a step was so before, or it is what the call of the step
is about to cache. -/
theorem relies_of_moved (hMoved : Moved s t call at')
    (hCache : ∀ key cached, t.cache.get key = some cached → s.cache.get key = some cached)
    (h : Relies t cached) :
    (∃ key, s.cache.get key = some cached ∧ t.cache.get key = some cached) ∨
      cached ∈ approvingOthers s call ∨
      ∃ stage request, at' stage ∧ stage.approving = some (request, cached) := by
  rcases h with ⟨key, hGet⟩ | ⟨k, stage, request, hGet, hApproving⟩
  · exact Or.inl ⟨key, hCache key cached hGet, hGet⟩
  · by_cases hCall : k = call
    · subst hCall
      exact Or.inr (Or.inr ⟨stage, request, hMoved.mine stage hGet, hApproving⟩)
    · rw [hMoved.others k hCall] at hGet
      exact Or.inr (Or.inl (mem_approvingOthers hGet hApproving hCall))

theorem mem_reliedOn_of_cache {key : String} (hGet : s.cache.get key = some cached) :
    cached ∈ reliedOn s call :=
  List.mem_append_left _ (AssocMap.mem_values.mpr ⟨key, hGet⟩)

/-- A step after which nothing new is relied on, in a store that keeps what is. -/
theorem Covers.of_fewer (h : Covers ttlMs s) (hClock : s.clock ≤ t.clock)
    (hRelies : ∀ cached, Relies t cached → Relies s cached)
    (hStore : ∀ cached, Relies t cached → t.clock < cached.elevation.expiresAt →
      DisclosedIn s.disclosureStore cached → DisclosedIn t.disclosureStore cached) :
    Covers ttlMs t := by
  constructor
  · intro cached hRelied
    have hOld := h.bound cached (hRelies cached hRelied)
    omega
  · intro cached hRelied hLive
    exact hStore cached hRelied hLive (h.covered cached (hRelies cached hRelied) (by omega))

section

variable (h : DisclosedIn store other) (hLive : now < other.elevation.expiresAt)

include h hLive

/-- Taking back the disclosure of one elevation leaves those of other chats and
sessions. -/
theorem disclosedIn_withdraw (hNe : ¬ cached.SameEntry other) :
    DisclosedIn (withdrawDisclosure deps now store cached).1 other := by
  unfold withdrawDisclosure
  split
  · exact h.delete_of_ne hLive hNe
  · exact h

/-- Disclosing an approval leaves what was disclosed, unless it lasts longer. -/
theorem disclosedIn_disclose (hChat : cached.chatId ≠ "")
    (hUntil : other.elevation.expiresAt ≤ cached.elevation.expiresAt) :
    DisclosedIn (discloseApproval deps now store cached).1 other := by
  unfold discloseApproval
  split
  · by_cases hSame : other.chatId = cached.chatId ∧ other.sessionKey = cached.sessionKey
    · unfold DisclosedIn
      rw [hSame.1, hSame.2]
      exact Discloses.set hChat hUntil hLive
    · exact h.set_of_ne hLive hSame
  · exact h

end

/-- The clock has gone on. -/
theorem Covers.tick (h : Covers ttlMs s) (hNow : s.clock ≤ now) :
    Covers ttlMs { s with clock := now } := by
  constructor
  · intro cached hRelied
    have hOld := h.bound cached hRelied
    change cached.elevation.expiresAt ≤ now + ttlMs
    omega
  · intro cached hRelied hLive
    change now < cached.elevation.expiresAt at hLive
    exact h.covered cached hRelied (by omega)

/-- What is relied on after a step that brings no elevation on its way. -/
theorem relies_of_quiet (hMoved : Moved s t call fun stage => stage.returning = none)
    (hCache : ∀ key cached, t.cache.get key = some cached → s.cache.get key = some cached)
    (h : Relies t cached) :
    (∃ key, s.cache.get key = some cached ∧ t.cache.get key = some cached) ∨
      cached ∈ approvingOthers s call := by
  rcases relies_of_moved hMoved hCache h with hCached | hOther | ⟨stage, request, hNone, hSome⟩
  · exact Or.inl hCached
  · exact Or.inr hOther
  · rw [approving_of_returning hNone] at hSome
    cases hSome

/-- What is relied on after a step was so before, when that holds of what the call of
the step is about to cache. -/
theorem relies_before (hMoved : Moved s t call at')
    (hCache : ∀ key cached, t.cache.get key = some cached → Relies s cached)
    (hMine : ∀ stage request cached, at' stage → stage.approving = some (request, cached) →
      Relies s cached) (h : Relies t cached) : Relies s cached := by
  rcases h with ⟨key, hGet⟩ | ⟨k, stage, request, hGet, hApproving⟩
  · exact hCache key cached hGet
  · by_cases hCall : k = call
    · subst hCall
      exact hMine stage request cached (hMoved.mine stage hGet) hApproving
    · rw [hMoved.others k hCall] at hGet
      exact Or.inr ⟨k, stage, request, hGet, hApproving⟩

theorem relies_before_quiet (hMoved : Moved s t call fun stage => stage.returning = none)
    (hCache : ∀ key cached, t.cache.get key = some cached → s.cache.get key = some cached)
    (cached : CachedElevation) (h : Relies t cached) : Relies s cached := by
  refine relies_before hMoved (fun key cached hGet => Or.inl ⟨key, hCache key cached hGet⟩) ?_ h
  intro stage request cached hNone hSome
  rw [approving_of_returning hNone] at hSome
  cases hSome

/-- A cache that is the same holds nothing new. -/
theorem relies_of_cache_eq (hCache : t.cache = s.cache) (key : String)
    (cached : CachedElevation) (hGet : t.cache.get key = some cached) : Relies s cached := by
  rw [hCache] at hGet
  exact Or.inl ⟨key, hGet⟩

/-- A step that takes back the disclosure of an elevation nobody else relies on. -/
theorem Covers.withdraw (h : Covers ttlMs s) {gone : CachedElevation} (hNow : label.now = s.clock)
    (hMoved : Moved s t call fun stage => stage.returning = none)
    (hCache : ∀ key cached, t.cache.get key = some cached → s.cache.get key = some cached)
    (hStore : t.disclosureStore = (withdrawDisclosure deps label.now s.disclosureStore gone).1)
    (hAlone : ∀ cached, ((∃ key, s.cache.get key = some cached ∧ t.cache.get key = some cached) ∨
      cached ∈ approvingOthers s call) → gone.SameEntry cached →
        cached.elevation.expiresAt ≤ label.now) : Covers ttlMs t := by
  apply h.of_fewer (Int.le_of_eq hMoved.clock.symm) (relies_before_quiet hMoved hCache)
  · intro cached hRelied hLive hDisclosed
    rw [hMoved.clock, ← hNow] at hLive
    rw [hStore]
    refine disclosedIn_withdraw hDisclosed hLive ?_
    intro hSame
    have hOver := hAlone cached (relies_of_quiet hMoved hCache hRelied) hSame
    omega

/-- One step. -/
theorem Covers.move (h : Covers deps.ttlMs s) (hKeyed : Keyed s) (hNow : label.now = s.clock)
    (hDisclosing : deps.hasDisclosureStore = true) (hGuard : KeepsDisclosed s label)
    (hMove : ElevationMove deps s label label.call t) : Covers deps.ttlMs t := by
  cases hMove with
  | quiet hSame hMoved =>
    have hCache : ∀ key cached, t.cache.get key = some cached → s.cache.get key = some cached := by
      rw [hSame.cache]
      exact fun _ _ hGet => hGet
    apply h.of_fewer (Int.le_of_eq hMoved.clock.symm) (relies_before_quiet hMoved hCache)
    rw [hSame.store]
    exact fun _ _ _ hDisclosed => hDisclosed
  | reuse request found hHit hFound hSame hMoved =>
    refine h.of_fewer (Int.le_of_eq hMoved.clock.symm) ?_ ?_
    · intro cached
      apply relies_before hMoved (relies_of_cache_eq hSame.cache)
      rintro stage request' cached' rfl hApproving
      cases hApproving
    · rw [hSame.store]
      exact fun _ _ _ hDisclosed => hDisclosed
  | expire gone hExpires hCache hStore hApprovals hMoved =>
    refine h.withdraw hNow hMoved ?_ hStore ?_
    · intro key cached hGet
      rw [hCache] at hGet
      exact (AssocMap.of_get_delete hGet).2
    · rintro cached (⟨key, hOld, hGet⟩ | hOther) hSame
      · -- the key of the entry has just been deleted
        have hKey : key = gone.key := by
          rw [hKeyed.cache key cached hOld]
          unfold CachedElevation.key
          rw [hSame.1, hSame.2]
        rw [hCache, AssocMap.get_delete, if_pos hKey] at hGet
        cases hGet
      · exact hGuard.expire gone hExpires cached hOther hSame
  | withdraw gone hWithdraws hCache hStore hApprovals hMoved =>
    refine h.withdraw hNow hMoved ?_ hStore ?_
    · rw [hCache]
      exact fun _ _ hGet => hGet
    · rintro cached (⟨key, hOld, -⟩ | hOther) hSame
      · exact hGuard.withdraw gone hWithdraws cached (mem_reliedOn_of_cache hOld) hSame
      · exact hGuard.withdraw gone hWithdraws cached (List.mem_append_right _ hOther) hSame
  | restore back hRestores hCache hStore hApprovals hMoved =>
    have hCacheOld : ∀ key cached, t.cache.get key = some cached →
        s.cache.get key = some cached := by
      rw [hCache]
      exact fun _ _ hGet => hGet
    apply h.of_fewer (Int.le_of_eq hMoved.clock.symm) (relies_before_quiet hMoved hCacheOld)
    intro cached hRelied hLive hDisclosed
    rw [hMoved.clock, ← hNow] at hLive
    rw [hStore]
    have hOn : cached ∈ reliedOn s label.call := by
      rcases relies_of_quiet hMoved hCacheOld hRelied with ⟨key, hGet, -⟩ | hOther
      · exact mem_reliedOn_of_cache hGet
      · exact List.mem_append_right _ hOther
    apply Discloses.restore hDisclosed
    intro hChat hSession
    exact hGuard.restore back hRestores cached hOn ⟨hChat, hSession⟩ hLive
  | mint request approvalId fingerprint hMints hCache hStore hApprovals hMoved =>
    let fresh := mintElevation deps label.now request approvalId fingerprint
    have hChat : fresh.chatId ≠ "" := hGuard.named _ hMints
    have hRelies : ∀ cached, Relies t cached → Relies s cached ∨ cached = fresh := by
      rintro cached (⟨key, hGet⟩ | ⟨k, stage, request', hGet, hApproving⟩)
      · rw [hCache] at hGet
        exact Or.inl (Or.inl ⟨key, hGet⟩)
      · by_cases hCall : k = label.call
        · subst hCall
          have hReturning := returning_of_approving hApproving
          rw [hMoved.mine stage hGet] at hReturning
          cases hReturning
          exact Or.inr rfl
        · rw [hMoved.others k hCall] at hGet
          exact Or.inl (Or.inr ⟨k, stage, request', hGet, hApproving⟩)
    have hFresh : fresh.elevation.expiresAt = s.clock + deps.ttlMs := by rw [← hNow]; rfl
    constructor
    · intro cached hRelied
      rw [hMoved.clock]
      rcases hRelies cached hRelied with hOld | rfl
      · exact h.bound cached hOld
      · exact Int.le_of_eq hFresh
    · intro cached hRelied hLive
      rw [hMoved.clock, ← hNow] at hLive
      rw [hStore]
      rcases hRelies cached hRelied with hOld | rfl
      · apply disclosedIn_disclose (h.covered cached hOld (hNow ▸ hLive)) hLive hChat
        rw [hFresh]
        exact h.bound cached hOld
      · unfold discloseApproval
        rw [if_pos hDisclosing]
        exact Discloses.set hChat (Int.le_refl _) hLive
  | proceed stage request found hStage hApproving hSame hMoved =>
    refine h.of_fewer (Int.le_of_eq hMoved.clock.symm) ?_ ?_
    · intro cached
      apply relies_before hMoved (relies_of_cache_eq hSame.cache)
      rintro stage' request' cached' rfl hApproving'
      cases hApproving'
      exact Or.inr ⟨label.call, stage, request, hStage, hApproving⟩
    · rw [hSame.store]
      exact fun _ _ _ hDisclosed => hDisclosed
  | cache stage request found hStage hApproving hCache hStore hApprovals hMoved =>
    refine h.of_fewer (Int.le_of_eq hMoved.clock.symm) ?_ ?_
    · intro cached
      refine relies_before hMoved ?_ (fun _ _ _ hFalse => hFalse.elim)
      intro key cached' hGet
      rw [hCache] at hGet
      rcases AssocMap.get_set_cases hGet with ⟨-, rfl⟩ | ⟨-, hGet⟩
      · exact Or.inr ⟨label.call, stage, request, hStage, hApproving⟩
      · exact Or.inl ⟨key, hGet⟩
    · rw [hStore]
      exact fun _ _ _ hDisclosed => hDisclosed

/-! ## Runs -/

variable {start : Int}
  {h : List (Occurrence ElevationState ElevationLabel ElevationObservation)}

theorem covers_run (hDisclosing : deps.hasDisclosureStore = true)
    (hRun : (elevationMachine deps start).Runs h s)
    (hMeet : AllMeet KeepsDisclosed h) : Covers deps.ttlMs s := by
  have hInit : Covers deps.ttlMs (elevationMachine deps start).init := by
    constructor
    · rintro cached (⟨key, hGet⟩ | ⟨k, stage, request, hGet, -⟩)
      · cases hGet
      · cases hGet
    · rintro cached (⟨key, hGet⟩ | ⟨k, stage, request, hGet, -⟩)
      · cases hGet
      · cases hGet
  refine hRun.guarded hMeet hInit ?_
  intro h s label t out hRun _ hCovers hGuard hStep
  have hKeyed := keyed_run deps hRun
  have hKeyedNow : Keyed { s with clock := label.now } := ⟨hKeyed.cache, hKeyed.approving⟩
  have hGuardNow : KeepsDisclosed { s with clock := label.now } label :=
    ⟨Int.le_refl _, hGuard.named, hGuard.expire, hGuard.withdraw, hGuard.restore⟩
  exact (hCovers.tick hGuard.clock).move hKeyedNow rfl hDisclosing hGuardNow
    (elevationStep_move deps hStep)

/-- **A live elevation is disclosed.**  In a run in which no disclosure is taken from
another elevation that relies on it, every cached elevation that has not expired is
disclosed for its session and chat, and at least as long. -/
theorem live_elevation_disclosed (hDisclosing : deps.hasDisclosureStore = true)
    (hRun : (elevationMachine deps start).Runs h s)
    (hMeet : AllMeet KeepsDisclosed h) : Disclosed s := by
  intro key cached hGet hLive
  exact (covers_run hDisclosing hRun hMeet).covered cached (Or.inl ⟨key, hGet⟩) hLive

def refreshError : SignetError := InternalError.create "refresh failed"

/-- An approval and a reuse of it, an approval for another session, and the expiry of
both; the timer of the second one is early, and its refresh fails. -/
def expiryInTurn : List ElevationLabel :=
  approveRead 10 1 "key:one" "chat" "approval_1" ++ reuseRead 20 2 "key:one" "chat" ++
    approveRead 30 3 "key:two" "chat" "approval_2" ++
    [⟨60012, .timer 4 "key:one:chat"⟩, ⟨60013, .answer 4 (.notify (.ok ()))⟩,
      ⟨60014, .answer 4 (.audit (.ok ()))⟩, ⟨60031, .timer 5 "key:two:chat"⟩,
      ⟨60032, .answer 5 (.notify (.error refreshError))⟩, ⟨60033, .answer 5 (.notify (.ok ()))⟩]

theorem expiryInTurn_keeps :
    sampleElevationMachine.Executes expiryInTurn fun h _ => AllMeet KeepsDisclosed h := by
  decide

theorem expiryInTurn_isSome :
    (sampleElevationMachine.exec sampleElevationMachine.init expiryInTurn).isSome = true :=
  expiryInTurn_keeps.goes

theorem live_elevation_disclosed_in_turn :
    Disclosed (sampleElevationMachine.outcome sampleElevationMachine.init expiryInTurn
      expiryInTurn_isSome).2 :=
  live_elevation_disclosed rfl expiryInTurn_keeps.runs expiryInTurn_keeps.holds

/-- Two requests of one session for one chat, side by side: the first one is approved
and cached, and the refresh for the second one fails. -/
def rollbackBeside : List ElevationLabel :=
  [⟨10, .request 1 (fun chatId => chatId) (readInput "key:one" "chat")⟩,
    ⟨11, .request 2 (fun chatId => chatId) (readInput "key:one" "chat")⟩,
    ⟨12, .answer 1 (.authorize (.ok ()))⟩, ⟨13, .answer 2 (.authorize (.ok ()))⟩,
    ⟨14, .answer 1 (.fingerprint (.ok "key") "approval_1")⟩,
    ⟨15, .answer 1 (.notify (.ok ()))⟩, ⟨16, .answer 1 (.audit (.ok ()))⟩,
    ⟨17, .answer 2 (.fingerprint (.ok "key") "approval_2")⟩,
    ⟨18, .answer 2 (.notify (.error refreshError))⟩]

theorem rollbackBeside_undisclosed :
    sampleElevationMachine.Executes rollbackBeside fun _ s =>
      s.cache.get "key:one:chat" =
          some ⟨⟨"approval_1", ["chat"], 14, 60014, "key"⟩, "chat", "key:one"⟩ ∧
        s.clock < 60014 ∧ disclosureOf s.disclosureStore.entries "chat" "key:one" = none := by
  decide

/-- The rollback of the second request has taken the disclosure of the first. -/
theorem live_elevation_undisclosed :
    ∃ h s, sampleElevationMachine.Runs h s ∧ ¬ Disclosed s := by
  obtain ⟨h, s, -, hRun, hCached, hLive, hNone⟩ := rollbackBeside_undisclosed.exists_run
  refine ⟨h, s, hRun, ?_⟩
  intro hDisclosed
  obtain ⟨disclosure, hGet, -⟩ := hDisclosed _ _ hCached hLive
  rw [hNone] at hGet
  cases hGet

end Cli
end Signet
