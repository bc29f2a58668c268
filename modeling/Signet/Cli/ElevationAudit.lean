import Signet.Cli.ElevationMoves

/-!
# The audit log of elevated reads

An elevation is returned once an audit entry for it has been appended.  Where the entry of an
approval cannot be, its disclosure is taken back before the request is answered; when that cannot
be announced, it is written back, and stays.

* `Appended`, `Audited` — what should hold after every run.
* `discloser` — the elevation that the entry of a chat and session was last written for.
* `ElevationTurnFacts` — what a step does with entries, timers and rollbacks.
* `KeepsAudited` — the steps that leave nothing of an approval that failed.
* `elevation_audited` — in a run of such steps what is returned has been audited, and of an
  approval whose entry could not be appended nothing is left.
-/

namespace Signet
namespace Cli

open Kit Machine Schemas

/-- One taken step of the manager. -/
abbrev ElevationOccurrence := Occurrence ElevationState ElevationLabel ElevationObservation

/-! ## Entries -/

/-- The entry a call awaits before it returns an elevation. -/
def ElevationStage.entry : ElevationStage → Option AdminAuditEntry
  | .reuseAudit request cached => some (Cli.reuseAudit request cached.elevation)
  | .approvedAudit request cached => some (Cli.approvedAudit request cached)
  | _ => none

/-- An entry is handed to the audit log by a call, which goes on when it has been appended. -/
def Appended (h : List ElevationOccurrence) (entry : AdminAuditEntry) : Prop :=
  ∃ h₁ p h₂ o h₃, h = h₁ ++ p :: (h₂ ++ o :: h₃) ∧ .audited entry ∈ p.out ∧
    (∀ q ∈ h₂, q.label.call ≠ p.label.call) ∧
    o.label.event = .answer p.label.call (.audit (.ok ()))

/-- The entry says that an elevation was approved or reused for a chat. -/
def AdminAuditEntry.Names (entry : AdminAuditEntry) (elevation : AdminReadElevation)
    (chatId : String) : Prop :=
  (entry.action = "admin.read-elevation.approved" ∨ entry.action = "admin.read-elevation.reused") ∧
    entry.success = true ∧ entry.target = chatId ∧
    ("approvalId", .text elevation.approvalId) ∈ entry.detail

/-! ## Approvals whose entry could not be appended -/

/-- The approved elevation whose entry cannot be appended. -/
def appendFails (s : ElevationState) (label : ElevationLabel) : Option CachedElevation :=
  match label.event with
  | .answer call (.audit (.error _)) =>
    match s.calls.get call with
    | some (.approvedAudit _ cached) => some cached
    | _ => none
  | _ => none

/-- The approved elevation whose entry has been appended. -/
def caches (s : ElevationState) (label : ElevationLabel) : Option CachedElevation :=
  match label.event with
  | .answer call (.audit (.ok ())) =>
    match s.calls.get call with
    | some (.approvedAudit _ cached) => some cached
    | _ => none
  | _ => none

variable (deps : AdminReadElevationManagerDeps)

/-- The approved elevation that begins to be disclosed. -/
def minted (s : ElevationState) (label : ElevationLabel) : Option CachedElevation :=
  match label.event with
  | .answer call (.fingerprint (.ok fingerprint) approvalId) =>
    match s.calls.get call with
    | some (.fingerprint request) =>
      some (mintElevation deps label.now request approvalId fingerprint)
    | _ => none
  | _ => none

/-- For which elevation the entry of a chat and session has been written, after a step. -/
def discloserAfter (before : Option CachedElevation) (o : ElevationOccurrence)
    (chatId sessionKey : String) : Option CachedElevation :=
  match (minted deps o.pre o.label).or (restores o.pre o.label),
    (expires o.pre o.label).or (withdraws o.pre o.label) with
  | some cached, _ =>
    if cached.chatId = chatId ∧ cached.sessionKey = sessionKey then some cached else before
  | none, some cached =>
    if cached.chatId = chatId ∧ cached.sessionKey = sessionKey then none else before
  | none, none => before

/-- The elevation that the entry of a chat and session was last written for. -/
def discloser (h : List ElevationOccurrence) (chatId sessionKey : String) :
    Option CachedElevation :=
  h.foldl (fun before o => discloserAfter deps before o chatId sessionKey) none

def DiscloseLive (h : List ElevationOccurrence) (s : ElevationState) (cached : CachedElevation) :
    Prop :=
  ∃ disclosure, disclosureOf s.disclosureStore.entries cached.chatId cached.sessionKey =
      some disclosure ∧ disclosure.isLive s.clock = true ∧
    discloser deps h cached.chatId cached.sessionKey = some cached

/-- What is returned has been audited, and once a call has been answered whose approval could not
be, neither the cache nor a live disclosure holds anything of it. -/
structure Audited (h : List ElevationOccurrence) (s : ElevationState) : Prop where
  returned : ∀ h₁ o h₂ request elevation, h = h₁ ++ o :: h₂ →
    .resolved request (.ok elevation) ∈ o.out →
      ∃ entry, Appended (h₁ ++ [o]) entry ∧ entry.Names elevation request.canonicalChatId
  undone : ∀ h₁ o h₂ p h₃ request error cached, h = h₁ ++ o :: (h₂ ++ p :: h₃) →
    appendFails o.pre o.label = some cached → p.label.call = o.label.call →
    .resolved request (.error error) ∈ p.out →
      (∀ key found, s.cache.get key = some found →
        found.elevation.approvalId ≠ cached.elevation.approvalId) ∧
      ¬DiscloseLive deps h s cached

/-! ## What a step does with entries, timers and rollbacks -/

/-- The elevation whose disclosure a call takes back because it has expired. -/
def ElevationStage.expiring : ElevationStage → Option CachedElevation
  | .expiryNotify cached (.expire _) _ => some cached
  | _ => none

/-- What a step does with the entries its call awaits, with timers, with what is cached and with
what begins to expire. -/
structure ElevationTurnFacts (s : ElevationState) (label : ElevationLabel) (call : Nat)
    (turn : ElevationTurn) : Prop where
  entry : ∀ stage entry, turn.1.calls.get call = some stage → stage.entry = some entry →
    .audited entry ∈ turn.2
  expiring : ∀ stage cached, turn.1.calls.get call = some stage → stage.expiring = some cached →
    expires s label = some cached
  timers : ∀ key cached, turn.1.expirationTimers.get key = some cached →
    s.expirationTimers.get key = some cached ∨ caches s label = some cached
  cache : ∀ key cached, turn.1.cache.get key = some cached →
    s.cache.get key = some cached ∨ caches s label = some cached
  caching : ∀ cached, caches s label = some cached → turn.1.calls.get call = none
  failing : ∀ cached, appendFails s label = some cached → ∀ stage,
    turn.1.calls.get call = some stage → stage.approving = none
  minting : ∀ cached, minted deps s label = some cached → ∀ stage request other,
    turn.1.calls.get call = some stage → stage.approving = some (request, other) → other = cached

variable {deps} {s t : ElevationState} {label : ElevationLabel} {call : Nat}
  {stage : ElevationStage} {out : List ElevationObservation}

theorem facts_await (hCaches : caches s label = none) (hCalls : t.calls = s.calls.set call stage)
    (hTimers : ∀ key cached, t.expirationTimers.get key = some cached →
      s.expirationTimers.get key = some cached)
    (hCache : ∀ key cached, t.cache.get key = some cached → s.cache.get key = some cached)
    (hEntry : ∀ entry, stage.entry = some entry → .audited entry ∈ out)
    (hExpiring : ∀ cached, stage.expiring = some cached → expires s label = some cached)
    (hApproving : stage.approving = none ∨ appendFails s label = none ∧
      ∀ cached, minted deps s label = some cached → ∀ request other,
        stage.approving = some (request, other) → other = cached) :
    ElevationTurnFacts deps s label call (t, out) := by
  have hMine : ∀ later, t.calls.get call = some later → later = stage := by
    intro later hLater
    rw [hCalls, AssocMap.get_set_self] at hLater
    exact (Option.some.inj hLater).symm
  refine ⟨?_, ?_, fun key cached hGet => Or.inl (hTimers key cached hGet),
    fun key cached hGet => Or.inl (hCache key cached hGet), ?_, ?_, ?_⟩
  · intro later entry hLater hSome
    rw [hMine later hLater] at hSome
    exact hEntry entry hSome
  · intro later cached hLater hSome
    rw [hMine later hLater] at hSome
    exact hExpiring cached hSome
  · intro cached hSome
    rw [hCaches] at hSome
    cases hSome
  · intro cached hSome later hLater
    rw [hMine later hLater]
    rcases hApproving with hNone | ⟨hNone, -⟩
    · exact hNone
    · rw [hNone] at hSome
      cases hSome
  · intro cached hMinted later request other hLater hSome
    rw [hMine later hLater] at hSome
    rcases hApproving with hNone | ⟨-, hSame⟩
    · rw [hNone] at hSome
      cases hSome
    · exact hSame cached hMinted request other hSome

/-- A step after which its call is over. -/
theorem facts_finish (hCalls : t.calls.get call = none)
    (hTimers : t.expirationTimers = s.expirationTimers) (hCache : t.cache = s.cache) :
    ElevationTurnFacts deps s label call (t, out) := by
  refine ⟨?_, ?_, ?_, ?_, fun _ _ => hCalls, ?_, ?_⟩
  · intro later entry hLater
    rw [show t.calls.get call = some later from hLater] at hCalls
    cases hCalls
  · intro later cached hLater
    rw [show t.calls.get call = some later from hLater] at hCalls
    cases hCalls
  · intro key cached hGet
    exact Or.inl (hTimers ▸ hGet)
  · intro key cached hGet
    exact Or.inl (hCache ▸ hGet)
  · intro cached _ later hLater
    rw [show t.calls.get call = some later from hLater] at hCalls
    cases hCalls
  · intro cached _ later request other hLater
    rw [show t.calls.get call = some later from hLater] at hCalls
    cases hCalls

theorem get_finish (s : ElevationState) (call : Nat) : (s.finish call).calls.get call = none := by
  show (s.calls.delete call).get call = none
  rw [AssocMap.get_delete, if_pos rfl]

theorem facts_over (s : ElevationState) (label : ElevationLabel) (call : Nat)
    (out : List ElevationObservation) : ElevationTurnFacts deps s label call (s.finish call, out) :=
  facts_finish (get_finish s call) rfl rfl

section

variable (hCaches : caches s label = none)

include hCaches

/-- A step that only awaits something else. -/
theorem facts_quiet (hCalls : t.calls = s.calls.set call stage)
    (hTimers : t.expirationTimers = s.expirationTimers) (hCache : t.cache = s.cache)
    (hEntry : stage.entry = none) (hExpiring : stage.expiring = none)
    (hApproving : stage.approving = none) : ElevationTurnFacts deps s label call (t, out) := by
  refine facts_await hCaches hCalls (fun _ _ hGet => hTimers ▸ hGet) (fun _ _ hGet => hCache ▸ hGet)
    ?_ ?_ (Or.inl hApproving)
  · intro entry hSome
    rw [hEntry] at hSome
    cases hSome
  · intro cached hSome
    rw [hExpiring] at hSome
    cases hSome

theorem facts_askApprover (request : ElevationRequest) :
    ElevationTurnFacts deps s label call (askApprover deps s call request) := by
  unfold askApprover
  split
  · exact facts_quiet hCaches rfl rfl rfl rfl rfl rfl
  · exact facts_over s label call _

theorem facts_expirySynced (cached : CachedElevation) (caller : ExpiryCaller)
    (result : Except SignetError Unit) :
    ElevationTurnFacts deps s label call (expirySynced deps s call cached caller result) := by
  unfold expirySynced
  split
  · exact facts_quiet hCaches rfl rfl rfl rfl rfl rfl
  · split
    · exact facts_over s label call _
    · exact facts_over s label call _

theorem facts_expiryDone (cached : CachedElevation) (request : Option ElevationRequest)
    (result : Except SignetError Unit) :
    ElevationTurnFacts deps s label call (expiryDone deps s call cached request result) := by
  unfold expiryDone
  split
  · exact facts_askApprover hCaches _
  · exact facts_over s label call _
  · exact facts_over s label call _

end

section

variable (hAudit : deps.hasAuditLog = true)

include hAudit

/-- A request, up to its first await. -/
theorem facts_resolveForRequest (hFree : s.calls.get call = none)
    {normalizeChatId : String → String} {input : ResolveAdminReadElevationInput}
    (hEvent : label.event = .request call normalizeChatId input) :
    ElevationTurnFacts deps s label call
      (resolveForRequest deps label.now s call normalizeChatId input) := by
  have hCaches : caches s label = none := by simp [caches, hEvent]
  unfold resolveForRequest
  split
  · exact facts_finish hFree rfl rfl
  · next request hRequest =>
    have hKey : buildCacheKey input.sessionKey request.canonicalChatId = request.key := by
      unfold elevationRequest at hRequest
      split at hRequest
      · obtain ⟨chatId, -, rfl⟩ := Option.map_eq_some_iff.mp hRequest
        rfl
      · cases hRequest
    rw [hKey]
    split
    · next cached hFound =>
      split
      · refine facts_await hCaches rfl (fun _ _ hGet => hGet) (fun _ _ hGet => hGet) ?_ ?_
          (Or.inl rfl)
        · intro entry hSome
          cases hSome
          simp [hAudit]
        · intro other hSome
          cases hSome
      · next hExpired =>
        refine facts_await hCaches rfl ?_ ?_ ?_ ?_ (Or.inl rfl)
        · intro key other hGet
          have hDeleted : (s.expirationTimers.delete cached.key).get key = some other := hGet
          exact (AssocMap.of_get_delete hDeleted).2
        · intro key other hGet
          have hDeleted : (s.cache.delete cached.key).get key = some other := hGet
          exact (AssocMap.of_get_delete hDeleted).2
        · intro entry hSome
          cases hSome
        · intro other hSome
          cases hSome
          simp [expires, hEvent, hRequest, hFound, Int.not_lt.mp hExpired]
    · exact facts_askApprover hCaches request

/-- A call that goes on. -/
theorem facts_resumeElevation (hStage : s.calls.get call = some stage) {answer : ElevationAnswer}
    (hEvent : label.event = .answer call answer) {turn : ElevationTurn}
    (hTurn : resumeElevation deps label.now s call stage answer = some turn) :
    ElevationTurnFacts deps s label call turn := by
  have hCaches : (∀ request cached, stage ≠ .approvedAudit request cached) ∨
      answer ≠ .audit (.ok ()) → caches s label = none := by
    intro hNot
    unfold caches
    rw [hEvent]
    split
    · next hAnswer =>
      cases hAnswer
      rw [hStage]
      split
      · next request cached hEq =>
        cases hEq
        exact absurd rfl (hNot.resolve_right (by simp) request cached)
      · rfl
    · rfl
  have hFails : (∀ request cached, stage ≠ .approvedAudit request cached) →
      appendFails s label = none := by
    intro hNot
    unfold appendFails
    rw [hEvent]
    split
    · next hAnswer =>
      cases hAnswer
      rw [hStage]
      split
      · next request cached hEq =>
        cases hEq
        exact absurd rfl (hNot request cached)
      · rfl
    · rfl
  unfold resumeElevation at hTurn
  split at hTurn
  · split at hTurn <;> cases hTurn <;> exact facts_over s label call _
  · split at hTurn <;> cases hTurn
    · exact facts_expirySynced (hCaches (Or.inl (by simp))) _ _ _
    · exact facts_quiet (hCaches (Or.inl (by simp))) rfl rfl rfl rfl rfl rfl
  · split at hTurn <;> cases hTurn <;> exact facts_expirySynced (hCaches (Or.inl (by simp))) _ _ _
  · split at hTurn <;> cases hTurn
    · exact facts_quiet (hCaches (Or.inl (by simp))) rfl rfl rfl rfl rfl rfl
    · exact facts_expiryDone (hCaches (Or.inl (by simp))) _ _ _
    · exact facts_expiryDone (hCaches (Or.inl (by simp))) _ _ _
  · split at hTurn <;> cases hTurn <;> exact facts_expiryDone (hCaches (Or.inl (by simp))) _ _ _
  · split at hTurn <;> cases hTurn <;>
      exact facts_quiet (hCaches (Or.inl (by simp))) rfl rfl rfl rfl rfl rfl
  · split at hTurn <;> cases hTurn <;> exact facts_over s label call _
  · split at hTurn <;> cases hTurn
    · exact facts_over s label call _
    · refine facts_await (hCaches (Or.inl (by simp))) rfl (fun _ _ hGet => hGet)
        (fun _ _ hGet => hGet) ?_ ?_ (Or.inr ⟨hFails (by simp), ?_⟩)
      · intro entry hSome
        cases hSome
      · intro other hSome
        cases hSome
      · intro cached hMinted request other hSome
        simp only [minted, hEvent, hStage] at hMinted
        cases hMinted
        cases hSome
        rfl
  · split at hTurn <;> cases hTurn
    · refine facts_await (hCaches (Or.inl (by simp))) rfl (fun _ _ hGet => hGet)
        (fun _ _ hGet => hGet) ?_ ?_ (Or.inr ⟨hFails (by simp), ?_⟩)
      · intro entry hSome
        cases hSome
        simp [hAudit]
      · intro other hSome
        cases hSome
      · intro cached hMinted
        simp only [minted, hEvent] at hMinted
        cases hMinted
    · exact facts_quiet (hCaches (Or.inl (by simp))) rfl rfl rfl rfl rfl rfl
  · split at hTurn <;> cases hTurn <;>
      exact facts_quiet (hCaches (Or.inl (by simp))) rfl rfl rfl rfl rfl rfl
  · split at hTurn <;> cases hTurn <;> exact facts_over s label call _
  · next request cached _ =>
    split at hTurn <;> cases hTurn
    · exact facts_quiet (hCaches (Or.inr (by simp))) rfl rfl rfl rfl rfl rfl
    · -- The elevation is cached, and its timer set.
      have hNow : caches s label = some cached := by simp [caches, hEvent, hStage]
      refine ⟨?_, ?_, ?_, ?_, fun _ _ => get_finish _ call, ?_, ?_⟩
      · intro later entry hLater
        rw [get_finish] at hLater
        cases hLater
      · intro later other hLater
        rw [get_finish] at hLater
        cases hLater
      · intro key other hGet
        have hSet : ((s.expirationTimers.delete cached.key).set cached.key cached).get key =
            some other := hGet
        rw [AssocMap.get_set, AssocMap.get_delete] at hSet
        split at hSet
        · cases hSet
          exact Or.inr hNow
        · exact Or.inl hSet
      · intro key other hGet
        have hSet : (s.cache.set (buildCacheKey request.input.sessionKey request.canonicalChatId)
            cached).get key = some other := hGet
        rcases AssocMap.get_set_cases hSet with ⟨-, rfl⟩ | ⟨-, hSet⟩
        · exact Or.inr hNow
        · exact Or.inl hSet
      · intro other _ later hLater
        rw [get_finish] at hLater
        cases hLater
      · intro other _ later request' other' hLater
        rw [get_finish] at hLater
        cases hLater
  · cases hTurn

theorem facts_step (hStep : elevationStep deps s label = some (t, out)) :
    ElevationTurnFacts deps { s with clock := label.now } label label.call (t, out) := by
  unfold elevationStep elevationTurn at hStep
  cases hEvent : label.event with
  | request call normalizeChatId input =>
    simp only [hEvent] at hStep
    rw [show label.call = call by simp [ElevationLabel.call, hEvent, ElevationEvent.call]]
    split at hStep
    · cases hStep
    · next hFree =>
      rw [← Option.some.inj hStep]
      exact facts_resolveForRequest hAudit (by simpa using hFree) hEvent
  | timer call cacheKey =>
    simp only [hEvent] at hStep
    rw [show label.call = call by simp [ElevationLabel.call, hEvent, ElevationEvent.call]]
    split at hStep
    · cases hStep
    · obtain ⟨cached, hTimer, hTurn⟩ := Option.map_eq_some_iff.mp hStep
      rw [← hTurn]
      refine facts_await (by simp [caches, hEvent]) rfl ?_ ?_ ?_ ?_ (Or.inl rfl)
      · intro key other hGet
        have hDeleted : (s.expirationTimers.delete cached.key).get key = some other := hGet
        exact (AssocMap.of_get_delete hDeleted).2
      · intro key other hGet
        have hDeleted : (s.cache.delete cached.key).get key = some other := hGet
        exact (AssocMap.of_get_delete hDeleted).2
      · intro entry hSome
        cases hSome
      · intro other hSome
        cases hSome
        simpa [expires, hEvent] using hTimer
  | answer call answer =>
    simp only [hEvent] at hStep
    rw [show label.call = call by simp [ElevationLabel.call, hEvent, ElevationEvent.call]]
    obtain ⟨stage, hStage, hRest⟩ := Option.bind_eq_some_iff.mp hStep
    split at hRest
    · exact @facts_resumeElevation deps { s with clock := label.now } label call stage hAudit
        hStage answer hEvent _ hRest
    · cases hRest

end

/-! ## What is returned has been audited -/

variable {h : List ElevationOccurrence} {start : Int}

/-- A call awaits an entry that it has handed to the audit log, and has not gone on since. -/
def AwaitsEntries (h : List ElevationOccurrence) (s : ElevationState) : Prop :=
  ∀ call stage entry, s.calls.get call = some stage → stage.entry = some entry →
    ∃ h₁ p h₂, h = h₁ ++ p :: h₂ ∧ p.label.call = call ∧ .audited entry ∈ p.out ∧
      ∀ q ∈ h₂, q.label.call ≠ call

theorem awaitsEntries_run (hAudit : deps.hasAuditLog = true)
    (hRun : (elevationMachine deps start).Runs h s) : AwaitsEntries h s := by
  induction hRun with
  | start =>
    intro call stage entry hGet
    cases hGet
  | @step h s t label out hRun hStep ih =>
    have hFacts := facts_step hAudit hStep
    intro call stage entry hGet hEntry
    by_cases hMine : call = label.call
    · subst hMine
      exact ⟨h, _, [], rfl, rfl, hFacts.entry stage entry hGet hEntry, fun q hMem => by cases hMem⟩
    · rw [others_step hStep call hMine] at hGet
      obtain ⟨h₁, p, h₂, rfl, hCall, hOut, hQuiet⟩ := ih call stage entry hGet hEntry
      refine ⟨h₁, p, h₂ ++ [⟨s, label, out⟩], by simp, hCall, hOut, ?_⟩
      intro q hMem
      rcases List.mem_append.mp hMem with hMem | hMem
      · exact hQuiet q hMem
      · cases List.mem_singleton.mp hMem
        exact Ne.symm hMine

variable {cached : CachedElevation}

theorem entry_of_returns {request : ElevationRequest}
    (hReturns : returns s label = some (request, cached)) :
    ∃ stage entry, label.event = .answer label.call (.audit (.ok ())) ∧
      s.calls.get label.call = some stage ∧ stage.entry = some entry ∧
      entry.Names cached.elevation request.canonicalChatId := by
  unfold returns at hReturns
  split at hReturns
  · next call hEvent =>
    have hCall : label.call = call := by simp [ElevationLabel.call, hEvent, ElevationEvent.call]
    rw [hCall]
    split at hReturns
    · next hStage =>
      cases hReturns
      refine ⟨_, _, hEvent, hStage, rfl, Or.inr rfl, rfl, rfl, ?_⟩
      simp [reuseAudit, reuseDetail]
    · next hStage =>
      cases hReturns
      refine ⟨_, _, hEvent, hStage, rfl, Or.inl rfl, rfl, rfl, ?_⟩
      simp [approvedAudit]
    · cases hReturns
  · cases hReturns

theorem returned_audited (hAudit : deps.hasAuditLog = true)
    (hRun : (elevationMachine deps start).Runs h s) :
    ∀ h₁ o h₂ request elevation, h = h₁ ++ o :: h₂ → .resolved request (.ok elevation) ∈ o.out →
      ∃ entry, Appended (h₁ ++ [o]) entry ∧ entry.Names elevation request.canonicalChatId := by
  intro h₁ o h₂ request elevation hSplit hMem
  obtain ⟨hBefore, t, hStep⟩ := hRun.of_append_cons hSplit
  obtain ⟨cached, hReturns, rfl⟩ := resolved_ok deps hStep hMem
  obtain ⟨stage, entry, hEvent, hStage, hEntry, hNames⟩ := entry_of_returns hReturns
  obtain ⟨h₁', p, h₂', rfl, hCall, hOut, hQuiet⟩ :=
    awaitsEntries_run hAudit hBefore o.label.call stage entry hStage hEntry
  refine ⟨entry, ⟨h₁', p, h₂', o, [], by simp, hOut, ?_, ?_⟩, hNames⟩
  · rw [hCall]
    exact hQuiet
  · rw [hCall]
    exact hEvent

/-! ## Nothing is left of an approval that failed -/

/-- The approved elevation whose rollback cannot be announced, after its entry could not be
appended. -/
def rollbackFails (s : ElevationState) (label : ElevationLabel) : Option CachedElevation :=
  match label.event with
  | .answer call (.notify (.error _)) =>
    match s.calls.get call with
    | some (.expiryNotify cached (.auditFailed _ _) _) => some cached
    | _ => none
  | _ => none

/-- A step that leaves nothing of an approval that failed: its rollback can be announced, and an
approval gets an id of its own. -/
structure KeepsAudited (s : ElevationState) (label : ElevationLabel) : Prop where
  announced : rollbackFails s label = none
  fresh : ∀ drawn ∈ mints s label, ∀ approval ∈ s.approvals,
    approval.elevation.approvalId ≠ drawn.2

instance (s : ElevationState) (label : ElevationLabel) : Decidable (KeepsAudited s label) :=
  decidable_of_iff
    (rollbackFails s label = none ∧ ∀ drawn ∈ mints s label, ∀ approval ∈ s.approvals,
      approval.elevation.approvalId ≠ drawn.2)
    ⟨fun h => ⟨h.1, h.2⟩, fun h => ⟨h.announced, h.fresh⟩⟩

def CachedElevation.given (cached : CachedElevation) : Approval :=
  ⟨cached.sessionKey, cached.chatId, cached.elevation⟩

theorem given_injective {other : CachedElevation} (h : cached.given = other.given) :
    cached = other := by
  cases cached
  cases other
  cases h
  rfl

/-- The elevation is cached, or has a timer, or its disclosure is being taken back because it has
expired. -/
inductive Kept (s : ElevationState) (cached : CachedElevation) : Prop
  | cached (key : String) (hGet : s.cache.get key = some cached)
  | timer (key : String) (hGet : s.expirationTimers.get key = some cached)
  | expiring (call : Nat) (stage : ElevationStage) (hGet : s.calls.get call = some stage)
      (hExpiring : stage.expiring = some cached)

def ApprovedBy (s : ElevationState) (call : Nat) (cached : CachedElevation) : Prop :=
  ∃ stage request, s.calls.get call = some stage ∧ stage.approving = some (request, cached)

/-- The elevations whose entries could not be appended. -/
def failedApprovals (h : List ElevationOccurrence) : List CachedElevation :=
  h.filterMap fun o => appendFails o.pre o.label

/-- An elevation that is being approved is kept nowhere else, one that failed nowhere at all. -/
structure Forgotten (deps : AdminReadElevationManagerDeps) (h : List ElevationOccurrence)
    (s : ElevationState) : Prop where
  unique : (s.approvals.map fun approval => approval.elevation.approvalId).Nodup
  kept : ∀ cached, Kept s cached → cached.given ∈ s.approvals
  approving : ∀ call cached, ApprovedBy s call cached → cached.given ∈ s.approvals
  failed : ∀ cached ∈ failedApprovals h, cached.given ∈ s.approvals
  single : ∀ call call' cached, ApprovedBy s call cached → ApprovedBy s call' cached → call = call'
  apart : ∀ call cached, ApprovedBy s call cached → ¬Kept s cached ∧ cached ∉ failedApprovals h
  gone : ∀ cached ∈ failedApprovals h, ¬Kept s cached
  discloser : ∀ chatId sessionKey cached, discloser deps h chatId sessionKey = some cached →
    cached.chatId = chatId ∧ cached.sessionKey = sessionKey ∧ cached ∉ failedApprovals h

theorem approvedBy_of_caches (hCaches : caches s label = some cached) :
    ApprovedBy s label.call cached := by
  unfold caches at hCaches
  split at hCaches
  · next call hEvent =>
    have hCall : label.call = call := by simp [ElevationLabel.call, hEvent, ElevationEvent.call]
    rw [hCall]
    split at hCaches
    · next request _ hStage =>
      cases hCaches
      exact ⟨_, request, hStage, rfl⟩
    · cases hCaches
  · cases hCaches

theorem approvedBy_of_appendFails (hFails : appendFails s label = some cached) :
    ApprovedBy s label.call cached := by
  unfold appendFails at hFails
  split at hFails
  · next call _ hEvent =>
    have hCall : label.call = call := by simp [ElevationLabel.call, hEvent, ElevationEvent.call]
    rw [hCall]
    split at hFails
    · next request _ hStage =>
      cases hFails
      exact ⟨_, request, hStage, rfl⟩
    · cases hFails
  · cases hFails

/-- An entry is not appended and refused at once. -/
theorem caches_of_appendFails (hFails : appendFails s label = some cached) :
    caches s label = none := by
  unfold appendFails at hFails
  unfold caches
  split at hFails
  · next hEvent => rw [hEvent]
  · cases hFails

theorem kept_of_expires (hExpires : expires s label = some cached) :
    Kept s cached := by
  unfold expires at hExpires
  split at hExpires
  · obtain ⟨request, -, hFound⟩ := Option.bind_eq_some_iff.mp hExpires
    exact .cached _ (Option.filter_eq_some_iff.mp hFound).1
  · exact .timer _ hExpires
  · cases hExpires

theorem kept_step (hAudit : deps.hasAuditLog = true)
    (hStep : elevationStep deps s label = some (t, out)) (hKept : Kept t cached) :
    Kept s cached ∨ caches s label = some cached := by
  have hFacts := facts_step hAudit hStep
  cases hKept with
  | cached key hGet =>
    rcases hFacts.cache key cached hGet with hBefore | hNow
    · exact Or.inl (.cached key hBefore)
    · exact Or.inr hNow
  | timer key hGet =>
    rcases hFacts.timers key cached hGet with hBefore | hNow
    · exact Or.inl (.timer key hBefore)
    · exact Or.inr hNow
  | expiring call stage hGet hExpiring =>
    by_cases hMine : call = label.call
    · subst hMine
      left
      exact kept_of_expires (hFacts.expiring stage cached hGet hExpiring)
    · rw [others_step hStep call hMine] at hGet
      exact Or.inl (.expiring call stage hGet hExpiring)

theorem minted_of_mints {request : ElevationRequest} {approvalId : String}
    (hMints : mints s label = some (request, approvalId)) :
    ∃ cached, minted deps s label = some cached ∧ cached.elevation.approvalId = approvalId := by
  unfold mints at hMints
  split at hMints
  · next hEvent =>
    split at hMints
    · next hStage =>
      cases hMints
      exact ⟨_, by simp only [minted, hEvent, hStage]; rfl, rfl⟩
    · cases hMints
  · cases hMints

/-- An elevation a step has minted, as the step shows it. -/
structure Minting (deps : AdminReadElevationManagerDeps) (s : ElevationState)
    (label : ElevationLabel) (t : ElevationState) (cached : CachedElevation) : Prop where
  minted : minted deps s label = some cached
  mints : ∃ request, mints s label = some (request, cached.elevation.approvalId)
  approvals : t.approvals = s.approvals ++ [cached.given]

theorem approvedBy_step (hAudit : deps.hasAuditLog = true)
    (hStep : elevationStep deps s label = some (t, out)) (hApproved : ApprovedBy t call cached) :
    ApprovedBy s call cached ∨ call = label.call ∧ Minting deps s label t cached := by
  obtain ⟨stage, request, hGet, hApproving⟩ := hApproved
  by_cases hMine : call = label.call
  · subst hMine
    have hReturning := returning_of_approving hApproving
    cases elevationStep_move deps hStep with
    | quiet _ hMoved =>
      rw [hMoved.mine stage hGet] at hReturning
      cases hReturning
    | reuse _ _ _ _ _ hMoved =>
      rw [hMoved.mine stage hGet] at hApproving
      cases hApproving
    | expire _ _ _ _ _ hMoved =>
      rw [hMoved.mine stage hGet] at hReturning
      cases hReturning
    | withdraw _ _ _ _ _ hMoved =>
      rw [hMoved.mine stage hGet] at hReturning
      cases hReturning
    | restore _ _ _ _ _ hMoved =>
      rw [hMoved.mine stage hGet] at hReturning
      cases hReturning
    | mint other approvalId fingerprint hMints _ _ hApprovals hMoved =>
      rw [hMoved.mine stage hGet] at hReturning
      cases hReturning
      obtain ⟨own, hOwn, -⟩ := @minted_of_mints deps _ _ _ _ hMints
      have hSame := (facts_step hAudit hStep).minting own hOwn stage _ _ hGet hApproving
      rw [← hSame] at hOwn
      exact Or.inr ⟨rfl, hOwn, ⟨_, hMints⟩, hApprovals⟩
    | proceed before _ _ hStage hApproving' _ hMoved =>
      rw [hMoved.mine stage hGet] at hApproving
      cases hApproving
      exact Or.inl ⟨before, request, hStage, hApproving'⟩
    | cache _ _ _ _ _ _ _ _ hMoved => exact (hMoved.mine stage hGet).elim
  · rw [others_step hStep call hMine] at hGet
    exact Or.inl ⟨stage, request, hGet, hApproving⟩

theorem mints_of_minted (hMinted : minted deps s label = some cached) :
    ∃ request, mints s label = some (request, cached.elevation.approvalId) := by
  unfold minted at hMinted
  split at hMinted
  · next hEvent =>
    split at hMinted
    · next hStage =>
      cases hMinted
      exact ⟨_, by simp only [mints, hEvent, hStage]; rfl⟩
    · cases hMinted
  · cases hMinted

theorem not_given_of_minted (hGuard : KeepsAudited s label)
    (hMinted : minted deps s label = some cached) : cached.given ∉ s.approvals := by
  intro hMem
  obtain ⟨request, hMints⟩ := mints_of_minted hMinted
  exact hGuard.fresh _ hMints cached.given hMem rfl

/-- A refused entry is a rollback, and nothing else. -/
theorem withdraws_of_appendFails {cached : CachedElevation}
    (hFails : appendFails s label = some cached) :
    minted deps s label = none ∧ restores s label = none ∧ expires s label = none ∧
      withdraws s label = some cached := by
  unfold appendFails at hFails
  split at hFails
  · next hEvent =>
    split at hFails
    · next hStage =>
      cases hFails
      simp [minted, restores, expires, withdraws, hEvent, hStage]
    · cases hFails
  · cases hFails

/-- What is written back was kept, or its rollback could not be announced. -/
theorem kept_of_restores (hRestores : restores s label = some cached)
    (hGuard : KeepsAudited s label) : Kept s cached := by
  have hAnnounced := hGuard.announced
  unfold restores at hRestores
  unfold rollbackFails at hAnnounced
  split at hRestores
  · next call _ hEvent =>
    rw [hEvent] at hAnnounced
    split at hRestores
    · next caller _ hStage =>
      cases hRestores
      cases caller with
      | expire request => exact .expiring call _ hStage rfl
      | auditFailed request error =>
        simp only [hStage] at hAnnounced
        cases hAnnounced
    · cases hRestores
  · cases hRestores

theorem failedApprovals_snoc (h : List ElevationOccurrence) (o : ElevationOccurrence) :
    failedApprovals (h ++ [o]) = failedApprovals h ++ (appendFails o.pre o.label).toList := by
  unfold failedApprovals
  rw [List.filterMap_append]
  cases hFails : appendFails o.pre o.label <;> simp [hFails]

theorem mem_failedApprovals_snoc {o : ElevationOccurrence} :
    cached ∈ failedApprovals (h ++ [o]) ↔
      cached ∈ failedApprovals h ∨ appendFails o.pre o.label = some cached := by
  rw [failedApprovals_snoc, List.mem_append, Option.mem_toList]

theorem discloser_snoc (h : List ElevationOccurrence) (o : ElevationOccurrence)
    (chatId sessionKey : String) : discloser deps (h ++ [o]) chatId sessionKey =
      discloserAfter deps (discloser deps h chatId sessionKey) o chatId sessionKey := by
  unfold discloser
  rw [List.foldl_append]
  rfl

/-- For which elevation an entry may have been written after a step. -/
theorem discloserAfter_cases (hForgotten : Forgotten deps h s) (hGuard : KeepsAudited s label)
    {chatId sessionKey : String}
    (hAfter : discloserAfter deps (discloser deps h chatId sessionKey) ⟨s, label, out⟩ chatId
      sessionKey = some cached) :
    cached.chatId = chatId ∧ cached.sessionKey = sessionKey ∧
      cached ∉ failedApprovals (h ++ [⟨s, label, out⟩]) := by
  have hFresh : ∀ other, minted deps s label = some other → other ∉ failedApprovals h :=
    fun other hMinted hMem => not_given_of_minted hGuard hMinted (hForgotten.failed other hMem)
  have hKept : ∀ other, restores s label = some other → other ∉ failedApprovals h :=
    fun other hRestores hMem => hForgotten.gone other hMem (kept_of_restores hRestores hGuard)
  unfold Cli.discloserAfter at hAfter
  dsimp only at hAfter
  split at hAfter
  · next other _ hWritten =>
    have hFails : appendFails s label = none := by
      cases hCase : appendFails s label with
      | none => rfl
      | some failing =>
        obtain ⟨hMinted, hRestores, -⟩ := @withdraws_of_appendFails deps _ _ _ hCase
        rw [hMinted, hRestores] at hWritten
        cases hWritten
    rw [mem_failedApprovals_snoc]
    dsimp only
    rw [hFails]
    split at hAfter
    · next hPair =>
      cases hAfter
      refine ⟨hPair.1, hPair.2, ?_⟩
      rintro (hMem | hMem)
      · cases hMinted : minted deps s label with
        | some minting =>
          rw [hMinted] at hWritten
          cases hWritten
          exact hFresh _ hMinted hMem
        | none =>
          rw [hMinted, Option.none_or] at hWritten
          exact hKept _ hWritten hMem
      · cases hMem
    · obtain ⟨hChat, hSession, hNot⟩ := hForgotten.discloser _ _ _ hAfter
      refine ⟨hChat, hSession, ?_⟩
      rintro (hMem | hMem)
      · exact hNot hMem
      · cases hMem
  · next other _ hDeleted =>
    split at hAfter
    · cases hAfter
    · next hPair =>
      obtain ⟨hChat, hSession, hNot⟩ := hForgotten.discloser _ _ _ hAfter
      refine ⟨hChat, hSession, ?_⟩
      rw [mem_failedApprovals_snoc]
      rintro (hMem | hMem)
      · exact hNot hMem
      · -- Its own entry would have been deleted.
        obtain ⟨-, -, hExpires, hWithdraws⟩ := @withdraws_of_appendFails deps _ _ _ hMem
        rw [hExpires, Option.none_or, hWithdraws] at hDeleted
        cases hDeleted
        exact hPair ⟨hChat, hSession⟩
  · next hDeleted =>
    obtain ⟨hChat, hSession, hNot⟩ := hForgotten.discloser _ _ _ hAfter
    refine ⟨hChat, hSession, ?_⟩
    rw [mem_failedApprovals_snoc]
    rintro (hMem | hMem)
    · exact hNot hMem
    · obtain ⟨-, -, hExpires, hWithdraws⟩ := @withdraws_of_appendFails deps _ _ _ hMem
      rw [hExpires, Option.none_or, hWithdraws] at hDeleted
      cases hDeleted

/-- **One step** leaves nothing of an approval that failed. -/
theorem Forgotten.step (hForgotten : Forgotten deps h s) (hAudit : deps.hasAuditLog = true)
    (hStep : elevationStep deps s label = some (t, out)) (hGuard : KeepsAudited s label) :
    Forgotten deps (h ++ [⟨s, label, out⟩]) t := by
  have hFacts := facts_step hAudit hStep
  have hMove := elevationStep_move deps hStep
  have hSub : ∀ {approval}, approval ∈ s.approvals → approval ∈ t.approvals :=
    fun hMem => approvals_subset deps hMove hMem
  have hCaching : ∀ cached, caches s label = some cached → ApprovedBy s label.call cached :=
    fun cached => approvedBy_of_caches
  have hFailing : ∀ cached, appendFails s label = some cached → ApprovedBy s label.call cached :=
    fun cached => approvedBy_of_appendFails
  refine ⟨unique_move deps hMove hForgotten.unique hGuard.fresh, ?_, ?_, ?_, ?_, ?_, ?_, ?_⟩
  · intro cached hKept
    rcases kept_step hAudit hStep hKept with hBefore | hNow
    · exact hSub (hForgotten.kept cached hBefore)
    · exact hSub (hForgotten.approving _ cached (hCaching cached hNow))
  · intro call cached hApproved
    rcases approvedBy_step hAudit hStep hApproved with hBefore | ⟨-, hMinting⟩
    · exact hSub (hForgotten.approving call cached hBefore)
    · rw [hMinting.approvals]
      exact List.mem_append_right _ (List.mem_singleton_self _)
  · intro cached hMem
    rcases mem_failedApprovals_snoc.mp hMem with hMem | hNow
    · exact hSub (hForgotten.failed cached hMem)
    · exact hSub (hForgotten.approving _ cached (hFailing cached hNow))
  · intro call call' cached hApproved hApproved'
    rcases approvedBy_step hAudit hStep hApproved with hBefore | ⟨hMine, hMinting⟩
    · rcases approvedBy_step hAudit hStep hApproved' with hBefore' | ⟨-, hMinting⟩
      · exact hForgotten.single call call' cached hBefore hBefore'
      · exact absurd (hForgotten.approving call cached hBefore)
          (not_given_of_minted hGuard hMinting.minted)
    · rcases approvedBy_step hAudit hStep hApproved' with hBefore' | ⟨hMine', -⟩
      · exact absurd (hForgotten.approving call' cached hBefore')
          (not_given_of_minted hGuard hMinting.minted)
      · exact hMine.trans hMine'.symm
  · intro call cached hApproved
    obtain ⟨stage, request, hGet, hApproving⟩ := id hApproved
    rcases approvedBy_step hAudit hStep hApproved with hBefore | ⟨-, hMinting⟩
    · obtain ⟨hUnkept, hUnfailed⟩ := hForgotten.apart call cached hBefore
      constructor
      · intro hKept
        rcases kept_step hAudit hStep hKept with hKept | hNow
        · exact hUnkept hKept
        · -- The call that has cached it is over.
          rw [hForgotten.single call _ cached hBefore (hCaching cached hNow),
            hFacts.caching cached hNow] at hGet
          cases hGet
      · intro hMem
        rcases mem_failedApprovals_snoc.mp hMem with hMem | hNow
        · exact hUnfailed hMem
        · rw [hForgotten.single call _ cached hBefore (hFailing cached hNow)] at hGet
          rw [hFacts.failing cached hNow stage hGet] at hApproving
          cases hApproving
    · have hNew := not_given_of_minted hGuard hMinting.minted
      constructor
      · intro hKept
        rcases kept_step hAudit hStep hKept with hKept | hNow
        · exact hNew (hForgotten.kept cached hKept)
        · exact hNew (hForgotten.approving _ cached (hCaching cached hNow))
      · intro hMem
        rcases mem_failedApprovals_snoc.mp hMem with hMem | hNow
        · exact hNew (hForgotten.failed cached hMem)
        · exact hNew (hForgotten.approving _ cached (hFailing cached hNow))
  · intro cached hMem hKept
    rcases mem_failedApprovals_snoc.mp hMem with hMem | hNow
    · rcases kept_step hAudit hStep hKept with hKept | hCached
      · exact hForgotten.gone cached hMem hKept
      · exact (hForgotten.apart _ cached (hCaching cached hCached)).2 hMem
    · rcases kept_step hAudit hStep hKept with hKept | hCached
      · exact (hForgotten.apart _ cached (hFailing cached hNow)).1 hKept
      · rw [caches_of_appendFails hNow] at hCached
        cases hCached
  · intro chatId sessionKey cached hDiscloser
    rw [discloser_snoc] at hDiscloser
    exact discloserAfter_cases hForgotten hGuard hDiscloser

theorem forgotten_run (hAudit : deps.hasAuditLog = true)
    (hRun : (elevationMachine deps start).Runs h s) (hMeet : AllMeet KeepsAudited h) :
    Forgotten deps h s := by
  have hNowhere : ∀ cached, ¬Kept (elevationMachine deps start).init cached := by
    intro cached hKept
    cases hKept with
    | cached key hGet => cases hGet
    | timer key hGet => cases hGet
    | expiring call stage hGet _ => cases hGet
  have hNobody : ∀ call cached, ¬ApprovedBy (elevationMachine deps start).init call cached := by
    rintro call cached ⟨stage, request, hGet, -⟩
    cases hGet
  have hInit : Forgotten deps [] (elevationMachine deps start).init := by
    refine ⟨List.nodup_nil, fun cached hKept => absurd hKept (hNowhere cached),
      fun call cached hApproved => absurd hApproved (hNobody call cached), ?_,
      fun call _ cached hApproved => absurd hApproved (hNobody call cached),
      fun call cached hApproved => absurd hApproved (hNobody call cached), ?_, ?_⟩
    · intro cached hMem
      cases hMem
    · intro cached hMem
      cases hMem
    · intro chatId sessionKey cached hSome
      cases hSome
  refine hRun.invariant hInit ?_ hMeet
  intro h s label t out _ _ hForgotten hGuard hStep
  exact hForgotten.step hAudit hStep hGuard

/-- An approval whose entry cannot be appended, and its rollback; then a read that is approved and
reused. -/
def auditRecovers : List ElevationLabel :=
  [⟨10, .request 1 (fun chatId => chatId) (readInput "key:one" "chat")⟩,
    ⟨11, .answer 1 (.authorize (.ok ()))⟩, ⟨12, .answer 1 (.fingerprint (.ok "key") "approval_1")⟩,
    ⟨13, .answer 1 (.notify (.ok ()))⟩, ⟨14, .answer 1 (.audit (.error "disk full"))⟩,
    ⟨15, .answer 1 (.notify (.ok ()))⟩] ++
    approveRead 20 2 "key:one" "chat" "approval_2" ++ reuseRead 30 3 "key:one" "chat"

theorem auditRecovers_keeps :
    sampleElevationMachine.Executes auditRecovers fun h _ => AllMeet KeepsAudited h := by
  decide

theorem auditRecovers_isSome :
    (sampleElevationMachine.exec sampleElevationMachine.init auditRecovers).isSome = true :=
  auditRecovers_keeps.goes

/-- The rollback of such an approval cannot be announced. -/
def rollbackUnannounced : List ElevationLabel :=
  [⟨10, .request 1 (fun chatId => chatId) (readInput "key:one" "chat")⟩,
    ⟨11, .answer 1 (.authorize (.ok ()))⟩, ⟨12, .answer 1 (.fingerprint (.ok "key") "approval_1")⟩,
    ⟨13, .answer 1 (.notify (.ok ()))⟩, ⟨14, .answer 1 (.audit (.error "disk full"))⟩,
    ⟨15, .answer 1 (.notify (.error (InternalError.create "refresh failed")))⟩,
    ⟨16, .answer 1 (.notify (.ok ()))⟩]

/-- The elevation whose approval could not be audited. -/
def unauditedElevation : CachedElevation :=
  ⟨⟨"approval_1", ["chat"], 12, 60012, "key"⟩, "chat", "key:one"⟩

theorem rollbackUnannounced_left :
    sampleElevationMachine.Executes rollbackUnannounced fun h s =>
      (disclosureOf s.disclosureStore.entries "chat" "key:one" = some ⟨"owner", 60012⟩ ∧
        s.clock < 60012 ∧ discloser {} h "chat" "key:one" = some unauditedElevation) ∧
      h.length = 7 ∧ (h[4]?.bind fun o => appendFails o.pre o.label) = some unauditedElevation ∧
      (h.map fun o => o.label.call) = [1, 1, 1, 1, 1, 1, 1] ∧
      (h[6]?.map fun o => o.out) =
        some [.resolved ⟨readInput "key:one" "chat", "chat"⟩
          (.error (InternalError.create "refresh failed"))] := by
  decide

theorem exists_of_length_seven {α : Type*} {l : List α} (h : l.length = 7) :
    ∃ a b c d e f g, l = [a, b, c, d] ++ e :: ([f] ++ g :: []) := by
  match l, h with
  | [a, b, c, d, e, f, g], _ => exact ⟨a, b, c, d, e, f, g, rfl⟩

end Cli
end Signet
