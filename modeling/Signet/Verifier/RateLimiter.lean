import Mathlib.Data.Int.Order.Basic
import Signet.Kit.AssocMap
import Signet.Kit.Machine
import Signet.Kit.SlidingWindow

/-!
# The rate limiter of the verifier

`packages/verifier/src/rate-limiter.ts`.  For every requester the limiter holds the times of the
requests it let through, oldest first.  A check drops the ones that have left the window, and lets
the request through when fewer than the limit are left.

What the list holds is less than the history: it has forgotten what no later window can reach.  So
the invariant compares the two only through the windows that are still to come.
-/

namespace Signet
namespace Verifier

open Kit
open Kit.SlidingWindow (since within)

structure RateLimiterConfig where
  maxRequests : Nat
  windowMs : Int

/-- The limiter: the times it let through, by requester. -/
structure RateLimiter where
  timestamps : AssocMap String (List Int)

/-- A limiter that has seen no request. -/
def createRateLimiter : RateLimiter := ⟨AssocMap.empty⟩

/-- Drop the entries outside the window. -/
def evict (windowStart : Int) (entries : List Int) : List Int :=
  match entries.findIdx? (fun t => decide (windowStart ≤ t)) with
  | some firstValid => if 0 < firstValid then entries.drop firstValid else entries
  | none => if 0 < entries.length then [] else entries

/-- Check one request: whether it is let through, and the limiter after it. -/
def RateLimiter.check (config : RateLimiterConfig) (limiter : RateLimiter) (now : Int)
    (requesterId : String) : Bool × RateLimiter :=
  let windowStart := now - config.windowMs
  match limiter.timestamps.get requesterId with
  | none => (true, ⟨limiter.timestamps.set requesterId [now]⟩)
  | some entries =>
    let kept := evict windowStart entries
    if kept.length = 0 then
      (true, ⟨(limiter.timestamps.delete requesterId).set requesterId [now]⟩)
    else if config.maxRequests ≤ kept.length then
      (false, ⟨limiter.timestamps.set requesterId kept⟩)
    else
      (true, ⟨limiter.timestamps.set requesterId (kept ++ [now])⟩)

/-- One call of `check`. -/
structure CheckCall where
  requesterId : String
  /-- What the clock shows in the call. -/
  now : Int
deriving DecidableEq

/-- The limiter as a machine: each step is a call, its observation the answer. -/
def limiterMachine (config : RateLimiterConfig) : Machine RateLimiter CheckCall Bool where
  init := createRateLimiter
  step limiter call :=
    let answer := limiter.check config call.now call.requesterId
    some (answer.2, [answer.1])

/-! ## One call -/

def RateLimiter.entries (limiter : RateLimiter) (requesterId : String) : List Int :=
  (limiter.timestamps.get requesterId).getD []

/-- A later call has a later window. -/
theorem windowStart_mono (config : RateLimiterConfig) {now now' : Int} (hLe : now ≤ now') :
    now - config.windowMs ≤ now' - config.windowMs := by
  omega

theorem evict_eq_since {entries : List Int} (hSorted : entries.Pairwise (· ≤ ·))
    (windowStart : Int) : evict windowStart entries = since windowStart entries := by
  unfold evict
  split
  · next firstValid hFirst =>
    rw [← SlidingWindow.drop_eq_since hSorted hFirst]
    split
    · rfl
    · next hZero =>
      have hFront : firstValid = 0 := by omega
      rw [hFront, List.drop_zero]
  · next hNone =>
    rw [SlidingWindow.since_eq_nil hNone]
    split
    · rfl
    · next hEmpty => exact List.length_eq_zero_iff.mp (by omega)

variable {limiter : RateLimiter} {config : RateLimiterConfig} {requesterId : String}

/-- **What a check does.**  The request is let through when fewer than the limit are left in the
window. -/
theorem check_spec (hMax : 1 ≤ config.maxRequests) (limiter : RateLimiter) (now : Int)
    (requesterId : String) (hSorted : (limiter.entries requesterId).Pairwise (· ≤ ·)) :
    let kept := since (now - config.windowMs) (limiter.entries requesterId)
    (limiter.check config now requesterId).1 = decide (kept.length < config.maxRequests) ∧
      (limiter.check config now requesterId).2.entries requesterId =
        if kept.length < config.maxRequests then kept ++ [now] else kept := by
  unfold RateLimiter.check RateLimiter.entries at *
  cases hGet : limiter.timestamps.get requesterId with
  | none =>
    -- a requester without an entry has nothing in its window, and the limit is not zero
    have hFew : 0 < config.maxRequests := by omega
    simp [hFew]
  | some entries =>
    simp only [hGet, Option.getD_some] at hSorted ⊢
    rw [evict_eq_since hSorted]
    by_cases hNil : (since (now - config.windowMs) entries).length = 0
    · have hFew : 0 < config.maxRequests := by omega
      have hKept : since (now - config.windowMs) entries = [] :=
        List.length_eq_zero_iff.mp hNil
      simp [hKept, hFew]
    · by_cases hFull : config.maxRequests ≤ (since (now - config.windowMs) entries).length
      · have hNotFew := Nat.not_lt.mpr hFull
        simp [hNil, hFull, hNotFew]
      · have hFew := Nat.lt_of_not_le hFull
        simp [hNil, hFull, hFew]

/-- What a check answers and leaves for its requester rests on the requester's entry alone. -/
theorem check_congr (config : RateLimiterConfig) {limiter' : RateLimiter} (now : Int)
    (hSame : limiter.timestamps.get requesterId = limiter'.timestamps.get requesterId) :
    (limiter.check config now requesterId).1 = (limiter'.check config now requesterId).1 ∧
      (limiter.check config now requesterId).2.timestamps.get requesterId =
        (limiter'.check config now requesterId).2.timestamps.get requesterId := by
  unfold RateLimiter.check
  rw [hSame]
  cases limiter'.timestamps.get requesterId with
  | none => simp
  | some entries =>
    dsimp only
    split
    · simp
    · split
      · simp
      · simp

theorem check_other (config : RateLimiterConfig) (limiter : RateLimiter) (now : Int)
    {other : String} (hOther : other ≠ requesterId) :
    (limiter.check config now requesterId).2.timestamps.get other =
      limiter.timestamps.get other := by
  unfold RateLimiter.check
  cases limiter.timestamps.get requesterId with
  | none => simp [hOther]
  | some entries =>
    dsimp only
    split
    · simp [hOther]
    · split
      · simp [hOther]
      · simp [hOther]

/-! ## Runs -/

/-- The history of a run of the limiter. -/
abbrev CheckHistory := List (Occurrence RateLimiter CheckCall Bool)

/-- The times at which calls of a requester were allowed, oldest first. -/
def allowedTimes (requesterId : String) (h : CheckHistory) : List Int :=
  (h.filter (fun o => o.label.requesterId = requesterId ∧ o.out = [true])).map (·.label.now)

/-- The clock does not go back between calls. -/
def MonotoneClock (h : CheckHistory) : Prop := h.Pairwise (fun o o' => o.label.now ≤ o'.label.now)

instance (h : CheckHistory) : Decidable (MonotoneClock h) :=
  inferInstanceAs (Decidable (h.Pairwise _))

theorem allowedTimes_snoc (requesterId : String) (h : CheckHistory)
    (o : Occurrence RateLimiter CheckCall Bool) :
    allowedTimes requesterId (h ++ [o]) =
      allowedTimes requesterId h ++
        (if o.label.requesterId = requesterId ∧ o.out = [true] then [o.label.now] else []) := by
  unfold allowedTimes
  rw [List.filter_append, List.map_append]
  congr 1
  by_cases hOwn : o.label.requesterId = requesterId ∧ o.out = [true]
  · simp [hOwn]
  · rw [if_neg hOwn, List.filter_cons_of_neg (by simpa using hOwn)]
    rfl

variable {h : CheckHistory} {o : Occurrence RateLimiter CheckCall Bool}

theorem mem_allowedTimes {t : Int} (ht : t ∈ allowedTimes requesterId h) :
    ∃ o ∈ h, o.label.now = t := by
  obtain ⟨o, ho, rfl⟩ := List.mem_map.mp ht
  exact ⟨o, (List.mem_filter.mp ho).1, rfl⟩

theorem MonotoneClock.snoc_iff :
    MonotoneClock (h ++ [o]) ↔ MonotoneClock h ∧ ∀ o' ∈ h, o'.label.now ≤ o.label.now := by
  unfold MonotoneClock
  rw [List.pairwise_append]
  simp

/-- What the limiter holds for a requester, seen through the windows that are still to come. -/
def Remembers (config : RateLimiterConfig) (h : CheckHistory) (limiter : RateLimiter)
    (requesterId : String) : Prop :=
  (limiter.entries requesterId).Pairwise (· ≤ ·) ∧
    (∀ t ∈ limiter.entries requesterId, ∃ o ∈ h, o.label.now = t) ∧
    (∀ now, (∀ o ∈ h, o.label.now ≤ now) →
      since (now - config.windowMs) (limiter.entries requesterId) =
        since (now - config.windowMs) (allowedTimes requesterId h)) ∧
    SlidingWindow.Admitted config.maxRequests (fun t => t - config.windowMs)
      (allowedTimes requesterId h)

theorem remembers_init (config : RateLimiterConfig) (requesterId : String) :
    Remembers config [] createRateLimiter requesterId := by
  have hEmpty : createRateLimiter.entries requesterId = [] := rfl
  unfold Remembers
  rw [hEmpty]
  constructor
  · exact List.Pairwise.nil
  constructor
  · intro t ht
    cases ht
  constructor
  · intro now _
    rfl
  · exact SlidingWindow.admitted_nil _ _

/-- **One call keeps the comparison.**  A call of the requester itself adds to both sides or to
neither, a call of another one to neither. -/
theorem Remembers.step {config : RateLimiterConfig} (hMax : 1 ≤ config.maxRequests)
    {h : CheckHistory} {limiter : RateLimiter} {requesterId : String}
    (hInv : Remembers config h limiter requesterId) (call : CheckCall)
    (hLater : ∀ o ∈ h, o.label.now ≤ call.now) :
    Remembers config
      (h ++ [⟨limiter, call, [(limiter.check config call.now call.requesterId).1]⟩])
      (limiter.check config call.now call.requesterId).2 requesterId := by
  obtain ⟨hSorted, hSeen, hWindows, hAdmitted⟩ := hInv
  by_cases hOwn : call.requesterId = requesterId
  · subst hOwn
    obtain ⟨hAnswer, hEntries⟩ := check_spec hMax limiter call.now call.requesterId hSorted
    have hKept := hWindows call.now hLater
    have hKeptSorted : (since (call.now - config.windowMs)
        (limiter.entries call.requesterId)).Pairwise (· ≤ ·) := hSorted.filter _
    have hKeptSeen : ∀ t ∈ since (call.now - config.windowMs)
        (limiter.entries call.requesterId), ∃ o ∈ h, o.label.now = t :=
      fun t ht => hSeen t (List.mem_filter.mp ht).1
    unfold Remembers
    rw [allowedTimes_snoc, hAnswer, hEntries]
    -- an event of an earlier call lies at or before this one
    have hBefore : ∀ t ∈ since (call.now - config.windowMs)
        (limiter.entries call.requesterId), t ≤ call.now := by
      intro t ht
      obtain ⟨o, ho, rfl⟩ := hKeptSeen t ht
      exact hLater o ho
    by_cases hFew : (since (call.now - config.windowMs)
        (limiter.entries call.requesterId)).length < config.maxRequests
    · simp only [hFew, if_true, decide_true, and_self]
      constructor
      · rw [List.pairwise_append]
        constructor
        · exact hKeptSorted
        constructor
        · exact List.pairwise_singleton _ _
        · intro t ht t' ht'
          rw [List.mem_singleton] at ht'
          rw [ht']
          exact hBefore t ht
      constructor
      · intro t ht
        rcases List.mem_append.mp ht with hOld | hNew
        · obtain ⟨o, ho, hTime⟩ := hKeptSeen t hOld
          exact ⟨o, List.mem_append_left _ ho, hTime⟩
        · rw [List.mem_singleton] at hNew
          exact ⟨_, List.mem_append_right _ (List.mem_singleton_self _), hNew.symm⟩
      constructor
      · intro now hNow
        have hEarlier : ∀ o ∈ h, o.label.now ≤ now :=
          fun o ho => hNow o (List.mem_append_left _ ho)
        have hHere : call.now ≤ now :=
          hNow _ (List.mem_append_right _ (List.mem_singleton_self _))
        rw [SlidingWindow.since_append, SlidingWindow.since_append,
          SlidingWindow.since_since (by omega), hWindows now hEarlier]
      · apply hAdmitted.snoc
        rw [← hKept]
        exact hFew
    · simp only [hFew, if_false, decide_false]
      constructor
      · exact hKeptSorted
      constructor
      · intro t ht
        obtain ⟨o, ho, hTime⟩ := hKeptSeen t ht
        exact ⟨o, List.mem_append_left _ ho, hTime⟩
      constructor
      · intro now hNow
        have hEarlier : ∀ o ∈ h, o.label.now ≤ now :=
          fun o ho => hNow o (List.mem_append_left _ ho)
        have hHere : call.now ≤ now :=
          hNow _ (List.mem_append_right _ (List.mem_singleton_self _))
        rw [SlidingWindow.since_since (by omega), hWindows now hEarlier]
        simp
      · simpa using hAdmitted
  · have hSame := check_other config limiter call.now (fun hEq => hOwn hEq.symm)
    unfold Remembers RateLimiter.entries
    rw [allowedTimes_snoc, hSame]
    simp only [hOwn, false_and, if_false, List.append_nil]
    constructor
    · exact hSorted
    constructor
    · intro t ht
      obtain ⟨o, ho, hTime⟩ := hSeen t ht
      exact ⟨o, List.mem_append_left _ ho, hTime⟩
    constructor
    · intro now hNow
      exact hWindows now fun o ho => hNow o (List.mem_append_left _ ho)
    · exact hAdmitted

theorem remembers_of_runs (hMax : 1 ≤ config.maxRequests)
    (hRun : (limiterMachine config).Runs h limiter) (hClock : MonotoneClock h)
    (requesterId : String) :
    Remembers config h limiter requesterId := by
  induction hRun with
  | start => exact remembers_init config requesterId
  | @step h limiter limiter' call out hRun' hTaken ih =>
    rw [MonotoneClock.snoc_iff] at hClock
    simp only [limiterMachine, Option.some.injEq, Prod.mk.injEq] at hTaken
    obtain ⟨rfl, rfl⟩ := hTaken
    exact (ih hClock.1).step hMax call hClock.2

/-! ## The whole history -/

/-- How many calls of a requester were allowed in a closed window. -/
def allowedWithin (requesterId : String) (lo hi : Int) (h : CheckHistory) : Nat :=
  (within lo hi (allowedTimes requesterId h)).length

/-- An answer is a refusal exactly when the window that ends at the call is full. -/
theorem check_refused_iff (hMax : 1 ≤ config.maxRequests) {earlier later : CheckHistory}
    (hRun : (limiterMachine config).Runs (earlier ++ o :: later) limiter)
    (hClock : MonotoneClock (earlier ++ o :: later)) :
    o.out = [false] ↔
      allowedWithin o.label.requesterId (o.label.now - config.windowMs) o.label.now earlier =
        config.maxRequests := by
  obtain ⟨hBefore, limiter', hTaken⟩ := hRun.of_append_cons rfl
  unfold MonotoneClock at hClock
  rw [List.pairwise_append] at hClock
  have hLater : ∀ o' ∈ earlier, o'.label.now ≤ o.label.now :=
    fun o' ho' => hClock.2.2 o' ho' o List.mem_cons_self
  obtain ⟨hSorted, _, hWindows, hAdmitted⟩ :=
    remembers_of_runs hMax hBefore hClock.1 o.label.requesterId
  obtain ⟨hAnswer, _⟩ := check_spec hMax o.pre o.label.now o.label.requesterId hSorted
  simp only [limiterMachine, Option.some.injEq, Prod.mk.injEq] at hTaken
  rw [← hTaken.2, hAnswer, hWindows o.label.now hLater]
  -- every allowed call lies before this one, so the window's end excludes nothing
  have hEnd : within (o.label.now - config.windowMs) o.label.now
      (allowedTimes o.label.requesterId earlier) =
      since (o.label.now - config.windowMs) (allowedTimes o.label.requesterId earlier) := by
    apply SlidingWindow.within_eq_since
    intro t ht
    obtain ⟨o', ho', rfl⟩ := mem_allowedTimes ht
    exact hLater o' ho'
  have hBound : (since (o.label.now - config.windowMs)
      (allowedTimes o.label.requesterId earlier)).length ≤ config.maxRequests := by
    rw [← hEnd]
    exact hAdmitted.length_within_le (fun _ _ => windowStart_mono config) (le_refl _)
  unfold allowedWithin
  rw [hEnd]
  simp only [List.cons.injEq, and_true, decide_eq_false_iff_not]
  omega

/-- The answers a requester gets are those of a run in which nobody else calls. -/
theorem alone (hRun : (limiterMachine config).Runs h limiter) (requesterId : String) :
    ∃ h' limiter', (limiterMachine config).Runs h' limiter' ∧
      h'.map (·.label) = (h.map (·.label)).filter (·.requesterId = requesterId) ∧
      h'.map (·.out) = (h.filter (·.label.requesterId = requesterId)).map (·.out) ∧
      limiter'.timestamps.get requesterId = limiter.timestamps.get requesterId := by
  induction hRun with
  | start => exact ⟨[], createRateLimiter, .start, rfl, rfl, rfl⟩
  | @step h limiter limiter₁ call out hRun' hTaken ih =>
    obtain ⟨h', limiter', hAlone, hLabels, hOuts, hSame⟩ := ih
    simp only [limiterMachine, Option.some.injEq, Prod.mk.injEq] at hTaken
    obtain ⟨rfl, rfl⟩ := hTaken
    by_cases hOwn : call.requesterId = requesterId
    · subst hOwn
      obtain ⟨hAnswer, hAfter⟩ := check_congr config call.now hSame
      have hStep : (limiterMachine config).step limiter' call =
          some ((limiter'.check config call.now call.requesterId).2,
            [(limiter'.check config call.now call.requesterId).1]) := rfl
      refine ⟨_, _, hAlone.step hStep, ?_, ?_, hAfter⟩
      · simp [hLabels]
      · simp [hOuts, hAnswer]
    · refine ⟨h', limiter', hAlone, ?_, ?_, ?_⟩
      · simp [hLabels, hOwn]
      · simp [hOuts, hOwn]
      · rw [hSame, check_other config limiter call.now fun hEq => hOwn hEq.symm]

/-- **The sliding window is exact.**  Over every sequence of calls with a clock that does not go
back, a call is refused exactly when the closed window that ends at it holds the limit; no closed
window of that length ever holds more; and a requester's answers are those of a run without the
other requesters. -/
theorem sliding_window_exact (config : RateLimiterConfig) (hMax : 1 ≤ config.maxRequests)
    {h : CheckHistory} {limiter : RateLimiter} (hRun : (limiterMachine config).Runs h limiter)
    (hClock : MonotoneClock h) :
    (∀ earlier o later, h = earlier ++ o :: later →
      (o.out = [false] ↔
        allowedWithin o.label.requesterId (o.label.now - config.windowMs) o.label.now earlier =
          config.maxRequests)) ∧
    (∀ requesterId lo, allowedWithin requesterId lo (lo + config.windowMs) h ≤
      config.maxRequests) ∧
    ∀ requesterId, ∃ h' limiter', (limiterMachine config).Runs h' limiter' ∧
      h'.map (·.label) = (h.map (·.label)).filter (·.requesterId = requesterId) ∧
      h'.map (·.out) = (h.filter (·.label.requesterId = requesterId)).map (·.out) := by
  constructor
  · rintro earlier o later rfl
    exact check_refused_iff hMax hRun hClock
  constructor
  · intro requesterId lo
    obtain ⟨_, _, _, hAdmitted⟩ := remembers_of_runs hMax hRun hClock requesterId
    have hWindow : lo + config.windowMs - config.windowMs ≤ lo := by omega
    exact hAdmitted.length_within_le (fun _ _ => windowStart_mono config) hWindow
  · intro requesterId
    obtain ⟨h', limiter', hAlone, hLabels, hOuts, _⟩ := alone hRun requesterId
    exact ⟨h', limiter', hAlone, hLabels, hOuts⟩

/-- Two a second: the third call of one requester is refused, the other one's is not, and the first
two have left the window at the end. -/
theorem sliding_window_exact_sample :
    ∃ h limiter, (limiterMachine ⟨2, 1000⟩).Runs h limiter ∧
      h.map (·.out) = [[true], [true], [false], [true], [true]] ∧
      ∀ requesterId lo, allowedWithin requesterId lo (lo + 1000) h ≤ 2 := by
  obtain ⟨h, limiter, hLabels, hRun, hOuts, hClock⟩ := Machine.Executes.exists_run
    (show (limiterMachine ⟨2, 1000⟩).Executes
      [⟨"a", 0⟩, ⟨"a", 400⟩, ⟨"a", 1000⟩, ⟨"b", 1000⟩, ⟨"a", 1500⟩]
      (fun h _ => h.map (·.out) = [[true], [true], [false], [true], [true]] ∧
        MonotoneClock h) by decide)
  exact ⟨h, limiter, hRun, hOuts, (sliding_window_exact ⟨2, 1000⟩ (by decide) hRun hClock).2.1⟩

end Verifier
end Signet
