import Signet.Cli.ElevationIsolation

/-!
# Where an elevation comes from

Chat ids are normalised before an elevation is looked up or approved.  Where the same
normalisation is used throughout, whatever is returned to a request was approved for one
chat, by a request that named it, and is kept under a key that both requests share.

* `UsesNormalizer` — a request is made with the normalisation.
* `Asked` — every call in flight is for a request that has been made.
* `elevation_origin` — the approval behind an elevation that is returned.
-/

namespace Signet
namespace Cli

open Kit Machine Schemas

/-- A request is made with a normalisation of chat ids. -/
def UsesNormalizer (normalizeChatId : String → String) (_ : ElevationState)
    (label : ElevationLabel) : Prop :=
  match label.event with
  | .request _ normalize _ => normalize = normalizeChatId
  | _ => True

def ExpiryCaller.request : ExpiryCaller → Option ElevationRequest
  | .expire request => request
  | .auditFailed request _ => some request

/-- The request a call is for; the expiry of a timer is for none. -/
def ElevationStage.request : ElevationStage → Option ElevationRequest
  | .expiryNotify _ caller _ | .expiryRollback _ caller _ _ => caller.request
  | .expiredAudit _ request _ | .expiryFailedAudit _ request _ => request
  | .reuseAudit request _ | .authorize request | .deniedAudit request _ | .fingerprint request
  | .approvalNotify request _ _ | .approvalRollback request _ _ _
  | .approvalFailedAudit request _ _ | .approvedAudit request _ => some request

variable (normalizeChatId : String → String)

/-- A request as it is read from its input. -/
def Made (request : ElevationRequest) : Prop :=
  elevationRequest normalizeChatId request.input = some request

/-- Every call in flight is for a request that has been made. -/
def Asked (s : ElevationState) : Prop :=
  ∀ call stage, s.calls.get call = some stage → ∀ request ∈ stage.request,
    Made normalizeChatId request

variable {normalizeChatId} {deps : AdminReadElevationManagerDeps} {s t : ElevationState}
  {call : Nat} {stage : ElevationStage} {request : ElevationRequest}

theorem made_of_elevationRequest {input : ResolveAdminReadElevationInput}
    (h : elevationRequest normalizeChatId input = some request) : Made normalizeChatId request := by
  have hInput : request.input = input := by
    unfold elevationRequest at h
    split at h
    · obtain ⟨chatId, -, rfl⟩ := Option.map_eq_some_iff.mp h
      rfl
    · cases h
  unfold Made
  rw [hInput]
  exact h

/-! ## Calls -/

section

variable (h : Asked normalizeChatId s)

include h

theorem Asked.set (hCalls : t.calls = s.calls.set call stage)
    (hStage : ∀ request ∈ stage.request, Made normalizeChatId request) :
    Asked normalizeChatId t := by
  intro other stage' hGet
  rw [hCalls] at hGet
  rcases AssocMap.get_set_cases hGet with ⟨-, rfl⟩ | ⟨-, hGet⟩
  · exact hStage
  · exact h other stage' hGet

theorem Asked.delete (hCalls : t.calls = s.calls.delete call) : Asked normalizeChatId t := by
  intro other stage' hGet
  rw [hCalls] at hGet
  obtain ⟨-, hGet⟩ := AssocMap.of_get_delete hGet
  exact h other stage' hGet

/-- What a turn leaves: the call at another stage for a request that has been made, or the
call ended. -/
theorem Asked.askApprover (hMade : Made normalizeChatId request) :
    Asked normalizeChatId (askApprover deps s call request).1 := by
  unfold Cli.askApprover
  split
  · refine h.set rfl ?_
    rintro _ ⟨⟩
    exact hMade
  · exact h.delete rfl

theorem Asked.expirySynced (cached : CachedElevation) (caller : ExpiryCaller)
    (result : Except SignetError Unit)
    (hMade : ∀ request ∈ caller.request, Made normalizeChatId request) :
    Asked normalizeChatId (expirySynced deps s call cached caller result).1 := by
  unfold Cli.expirySynced
  split
  · exact h.set rfl hMade
  · split <;> exact h.delete rfl

theorem Asked.expiryDone (cached : CachedElevation) (request : Option ElevationRequest)
    (result : Except SignetError Unit) (hMade : ∀ r ∈ request, Made normalizeChatId r) :
    Asked normalizeChatId (expiryDone deps s call cached request result).1 := by
  unfold Cli.expiryDone
  split
  · exact h.askApprover (hMade _ rfl)
  · exact h.delete rfl
  · exact h.delete rfl

theorem Asked.resolveForRequest (now : Int) (input : ResolveAdminReadElevationInput) :
    Asked normalizeChatId (resolveForRequest deps now s call normalizeChatId input).1 := by
  unfold Cli.resolveForRequest
  split
  · exact h
  · next request hRequest =>
    have hMade := made_of_elevationRequest hRequest
    split
    · split
      · refine h.set rfl ?_
        rintro _ ⟨⟩
        exact hMade
      · refine h.set rfl ?_
        rintro _ ⟨⟩
        exact hMade
    · exact h.askApprover hMade

theorem Asked.resumeElevation {now : Int} {answer : ElevationAnswer} {turn : ElevationTurn}
    (hMade : ∀ request ∈ stage.request, Made normalizeChatId request)
    (hTurn : resumeElevation deps now s call stage answer = some turn) :
    Asked normalizeChatId turn.1 := by
  unfold Cli.resumeElevation at hTurn
  split at hTurn
  · split at hTurn <;> cases hTurn <;> exact h.delete rfl
  · split at hTurn <;> cases hTurn
    · exact h.expirySynced _ _ _ hMade
    · exact h.set rfl hMade
  · split at hTurn <;> cases hTurn <;> exact h.expirySynced _ _ _ hMade
  · split at hTurn <;> cases hTurn
    · exact h.set rfl hMade
    · exact h.expiryDone _ _ _ hMade
    · exact h.expiryDone _ _ _ hMade
  · split at hTurn <;> cases hTurn <;> exact h.expiryDone _ _ _ hMade
  · split at hTurn <;> cases hTurn <;> exact h.set rfl hMade
  · split at hTurn <;> cases hTurn <;> exact h.delete rfl
  · split at hTurn <;> cases hTurn
    · exact h.delete rfl
    · exact h.set rfl hMade
  · split at hTurn <;> cases hTurn <;> exact h.set rfl hMade
  · split at hTurn <;> cases hTurn <;> exact h.set rfl hMade
  · split at hTurn <;> cases hTurn <;> exact h.delete rfl
  · split at hTurn <;> cases hTurn
    · exact h.set rfl hMade
    · exact h.delete rfl
  · cases hTurn

theorem asked_step {label : ElevationLabel} {out : List ElevationObservation}
    (hUses : UsesNormalizer normalizeChatId s label)
    (hStep : elevationStep deps s label = some (t, out)) : Asked normalizeChatId t := by
  have hNow : Asked normalizeChatId { s with clock := label.now } := h
  unfold elevationStep elevationTurn at hStep
  unfold UsesNormalizer at hUses
  cases hEvent : label.event with
  | request call normalize input =>
    simp only [hEvent] at hStep hUses
    subst hUses
    split at hStep
    · cases hStep
    · have hTurn : Asked normalize
          (Cli.resolveForRequest deps label.now { s with clock := label.now } call normalize
            input).1 := hNow.resolveForRequest label.now input
      rw [Option.some.inj hStep] at hTurn
      exact hTurn
  | timer call cacheKey =>
    simp only [hEvent] at hStep
    split at hStep
    · cases hStep
    · obtain ⟨cached, -, hTurn⟩ := Option.map_eq_some_iff.mp hStep
      cases hTurn
      exact hNow.set rfl nofun
  | answer call answer =>
    simp only [hEvent] at hStep
    obtain ⟨stage, hStage, hRest⟩ := Option.bind_eq_some_iff.mp hStep
    split at hRest
    · exact hNow.resumeElevation (h call stage hStage) hRest
    · cases hRest

end

/-! ## Approvals -/

variable (normalizeChatId)

structure ApprovedOnce (s : ElevationState) (cached : CachedElevation) : Prop where
  approved : cached.approval ∈ s.approvals
  scope : cached.elevation.scopeChatIds = [cached.chatId]
  source : ∃ request, Made normalizeChatId request ∧ request.canonicalChatId = cached.chatId

/-- What is cached has been approved once, and so has what a call goes on to return; this is
under the key of its request. -/
structure Originated (s : ElevationState) : Prop where
  cached : ∀ key cached, s.cache.get key = some cached → ApprovedOnce normalizeChatId s cached
  calls : ∀ call stage, s.calls.get call = some stage → ∀ request cached,
    stage.returning = some (request, cached) →
      ApprovedOnce normalizeChatId s cached ∧ request.key = cached.key

variable {normalizeChatId} {cached : CachedElevation}

theorem ApprovedOnce.mono (h : ApprovedOnce normalizeChatId s cached)
    (hApprovals : ∀ approval ∈ s.approvals, approval ∈ t.approvals) :
    ApprovedOnce normalizeChatId t cached :=
  ⟨hApprovals _ h.approved, h.scope, h.source⟩

theorem Originated.move (h : Originated normalizeChatId s) {label : ElevationLabel}
    (hKeyed : Keyed s) (hAsked : Asked normalizeChatId s)
    (hMove : ElevationMove deps s label call t) : Originated normalizeChatId t := by
  have hCarried : CarriesAlong (fun s _ => ApprovedOnce normalizeChatId s) ElevationStage.returning
      (fun s request cached => ApprovedOnce normalizeChatId s cached ∧ request.key = cached.key)
      s := ⟨h.cached, h.calls⟩
  have hMint : ∀ request approvalId fingerprint, mints s label = some (request, approvalId) →
      t.approvals = s.approvals ++
        [(mintElevation deps label.now request approvalId fingerprint).approval] →
      ApprovedOnce normalizeChatId t
        (mintElevation deps label.now request approvalId fingerprint) ∧
        request.key = (mintElevation deps label.now request approvalId fingerprint).key := by
    intro request approvalId fingerprint hMints hApprovals
    have hMade : Made normalizeChatId request := by
      unfold mints at hMints
      split at hMints
      · split at hMints
        · next hFingerprint =>
          cases hMints
          exact hAsked _ _ hFingerprint _ rfl
        · cases hMints
      · cases hMints
    refine ⟨⟨?_, rfl, request, hMade, rfl⟩, rfl⟩
    rw [hApprovals]
    exact List.mem_append_right _ (List.mem_singleton.mpr rfl)
  have hAfter := hCarried.move deps hMove id returning_of_approving
    (fun hKept h => h.mono hKept) (fun hKept h => ⟨h.1.mono hKept, h.2⟩)
    (fun _ _ _ hFound _ => ⟨h.cached _ _ hFound, hKeyed.cache _ _ hFound⟩) hMint And.left
  exact ⟨hAfter.cache, hAfter.calls⟩

/-! ## Runs -/

variable {start : Int}
  {h : List (Occurrence ElevationState ElevationLabel ElevationObservation)}

theorem originated_run (hRun : (elevationMachine deps start).Runs h s)
    (hUses : AllMeet (UsesNormalizer normalizeChatId) h) :
    Asked normalizeChatId s ∧ Originated normalizeChatId s := by
  have hInit : Asked normalizeChatId (elevationMachine deps start).init ∧
      Originated normalizeChatId (elevationMachine deps start).init := by
    refine ⟨?_, ?_, ?_⟩
    · intro call stage hGet
      cases hGet
    · intro key cached hGet
      cases hGet
    · intro call stage hGet
      cases hGet
  apply hRun.guarded hUses
  · exact hInit
  · intro h s label t out hBefore _ hBoth hNow hStep
    obtain ⟨hAsked, hOriginated⟩ := hBoth
    refine ⟨asked_step hAsked hNow hStep, ?_⟩
    have hKeyed := keyed_run deps hBefore
    have hClock : Originated normalizeChatId { s with clock := label.now } :=
      ⟨fun key cached hGet => (hOriginated.cached key cached hGet).mono fun _ hMem => hMem,
        fun call stage hGet request cached hReturning =>
          let found := hOriginated.calls call stage hGet request cached hReturning
          ⟨found.1.mono fun _ hMem => hMem, found.2⟩⟩
    exact hClock.move (⟨hKeyed.cache, hKeyed.approving⟩ : Keyed { s with clock := label.now })
      hAsked (elevationStep_move deps hStep)

theorem request_of_returning (h : stage.returning = some (request, cached)) :
    request ∈ stage.request := by
  unfold ElevationStage.returning at h
  split at h <;> cases h <;> rfl

/-- **The approval behind an elevation that is returned**: it was given for one chat, which
a request named, and is kept under the key of the request that it is returned to. -/
theorem elevation_origin (hRun : (elevationMachine deps start).Runs h s)
    (hUses : AllMeet (UsesNormalizer normalizeChatId) h)
    {o : Occurrence ElevationState ElevationLabel ElevationObservation} (ho : o ∈ h)
    {elevation : AdminReadElevation} (hMem : .resolved request (.ok elevation) ∈ o.out) :
    Made normalizeChatId request ∧ ∃ cached, elevation = cached.elevation ∧
      ApprovedOnce normalizeChatId o.pre cached ∧ request.key = cached.key := by
  obtain ⟨h₁, h₂, hSplit⟩ := List.append_of_mem ho
  obtain ⟨hPre, s', hStep⟩ := hRun.of_append_cons hSplit
  have hBefore := hUses.before hSplit
  obtain ⟨cached, hReturns, rfl⟩ := resolved_ok deps hStep hMem
  obtain ⟨call, stage, hStage, hReturning⟩ := returning_of_returns hReturns
  obtain ⟨hAsked, hOriginated⟩ := originated_run hPre hBefore
  obtain ⟨hApproved, hKey⟩ := hOriginated.calls call stage hStage request cached hReturning
  exact ⟨hAsked call stage hStage request (request_of_returning hReturning), cached, rfl,
    hApproved, hKey⟩

end Cli
end Signet
