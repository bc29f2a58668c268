import Signet.Cli.ListenerMoves
import Signet.Cli.SingleUseInvites

/-!
# Invites are dispatched one at a time

A message that is dispatched is in flight by its id and by its request: its sender and the
slug of its invite.  No other message with the id or the request is dispatched meanwhile,
none with an accepted id ever after, and none with an accepted request until the timer of
the request has fired.

* `FlightMove` — what a step does to the messages in flight.
* `Apart`, `Remembered` — the messages in flight differ, and accepted ones are remembered.
* `invites_deduplicated` — in every run.
-/

namespace Signet
namespace Cli

open Kit Machine Schemas Signet.Core

/-- Two messages of one sender with one slug. -/
def SameRequest (event event' : RawMessageEvent) : Prop :=
  ∃ key, resolveInviteRequestKey event = some key ∧ resolveInviteRequestKey event' = some key

/-! ## Moves -/

/-- Nothing but the messages in flight changes. -/
structure SameProcessed (s t : ListenerState) : Prop where
  messageIds : t.processedMessageIds = s.processedMessageIds
  inviteKeys : t.processedInviteKeys = s.processedInviteKeys
  timers : ∀ key dueAt, t.processedInviteKeyTimers.get key = some dueAt →
    s.processedInviteKeyTimers.get key = some dueAt

theorem SameProcessed.refl (s : ListenerState) : SameProcessed s s := ⟨rfl, rfl, fun _ _ => id⟩

variable (deps : ListenerDeps)

/-- What a step does to the messages in flight. -/
inductive FlightMove (s : ListenerState) (label : ListenerLabel) : ListenerTurn → Prop
  | stays (t : ListenerState) (out : List ListenerObservation) :
      (∀ task, flightOf t task = flightOf s task) →
      t.inflightMessageIds = s.inflightMessageIds → t.inflightInviteKeys = s.inflightInviteKeys →
      SameProcessed s t → (∀ acceptance, .accepted acceptance ∉ out) →
      FlightMove s label (t, out)
  | starts (task : Nat) (event : RawMessageEvent) (next : AfterCandidate) :
      flightOf s task = none → skipsCandidate s event = false →
      FlightMove s label (startCandidate s task event next, [])
  | accepts (task : Nat) (event : RawMessageEvent) (next : AfterCandidate) (host : DispatchHost)
      (verified : VerifiedInvite) :
      flightOf s task = some ⟨event, false⟩ →
      FlightMove s label (acceptCandidate deps label.now s task event next host verified)
  | ends (task : Nat) (event : RawMessageEvent) (accepted : Bool) (t : ListenerState)
      (out : List ListenerObservation) :
      flightOf s task = some ⟨event, accepted⟩ →
      (∀ other, flightOf t other = if other = task then none else flightOf s other) →
      t.inflightMessageIds = (leaveFlight s event).inflightMessageIds →
      t.inflightInviteKeys = (leaveFlight s event).inflightInviteKeys →
      SameProcessed s t → (∀ acceptance, .accepted acceptance ∉ out) →
      FlightMove s label (t, out)
  | expires (requestKey : String) (dueAt : Int) :
      s.processedInviteKeyTimers.get requestKey = some dueAt → dueAt ≤ label.now →
      FlightMove s label ({ s with
        processedInviteKeys := s.processedInviteKeys.erase requestKey
        processedInviteKeyTimers := s.processedInviteKeyTimers.delete requestKey }, [])

section

variable {s t : ListenerState} {task : Nat} {running : ListenerTask}

theorem flightOf_of_get (hTask : s.tasks.get task = some running) :
    flightOf s task = running.flight := by
  rw [flightOf, hTask]
  rfl

theorem flightOf_set (later : ListenerTask) (hTasks : t.tasks = s.tasks.set task later)
    (other : Nat) :
    flightOf t other = if other = task then later.flight else flightOf s other := by
  rw [flightOf, hTasks, AssocMap.get_set]
  split
  · rfl
  · rfl

theorem flightOf_delete (hTasks : t.tasks = s.tasks.delete task) (other : Nat) :
    flightOf t other = if other = task then none else flightOf s other := by
  rw [flightOf, hTasks, AssocMap.get_delete]
  split
  · rfl
  · rfl

/-- A task that has nothing in flight, before and after, changes nothing. -/
theorem flightOf_set_none {later : ListenerTask} (hTasks : t.tasks = s.tasks.set task later)
    (hBefore : flightOf s task = none) (hAfter : later.flight = none) (other : Nat) :
    flightOf t other = flightOf s other := by
  rw [flightOf_set later hTasks]
  split
  · next hEq => rw [hAfter, hEq, hBefore]
  · rfl

theorem flightOf_delete_none (hTasks : t.tasks = s.tasks.delete task)
    (hBefore : flightOf s task = none) (other : Nat) : flightOf t other = flightOf s other := by
  rw [flightOf_delete hTasks]
  split
  · next hEq => rw [hEq, hBefore]
  · rfl

theorem flightMove_of_step {label : ListenerLabel} {turn : ListenerTurn}
    (h : ListenerStep deps s label turn) : FlightMove deps s label turn := by
  have hFree : ∀ task, s.tasks.get task = none → flightOf s task = none := by
    intro task hTask
    rw [flightOf, hTask]
    rfl
  cases h with
  | ignored task event hEvent =>
    exact .stays s [] (fun _ => rfl) rfl rfl (.refl s) (fun _ hMem => nomatch hMem)
  | leftOut task event hEvent hSkip =>
    refine .stays s _ (fun _ => rfl) rfl rfl (.refl s) ?_
    intro acceptance hMem
    cases List.mem_singleton.mp hMem
  | arrived task event hEvent hTask hFresh =>
    exact .starts task event .event (hFree task hTask) hFresh
  | joined task dmId hEvent hTask =>
    exact .stays _ [] (flightOf_set_none rfl (hFree task hTask) rfl) rfl rfl
      ⟨rfl, rfl, fun _ _ => id⟩ (fun _ hMem => nomatch hMem)
  | retried task dmId timer hEvent hTimer hTask =>
    exact .stays _ [] (flightOf_set_none rfl (hFree task hTask) rfl) rfl rfl
      ⟨rfl, rfl, fun _ _ => id⟩ (fun _ hMem => nomatch hMem)
  | expired requestKey dueAt hEvent hTimer hDue => exact .expires requestKey dueAt hTimer hDue
  | stopped hEvent =>
    exact .stays _ [] (fun _ => rfl) rfl rfl ⟨rfl, rfl, fun _ _ hGet => nomatch hGet⟩
      (fun _ hMem => nomatch hMem)
  | onward task answer running later out hEvent hTask hFlight hGoesOn hAccepted hProcessed =>
    refine .stays _ out ?_ rfl rfl ⟨rfl, rfl, fun _ _ => id⟩ hAccepted
    intro other
    rw [flightOf_set later rfl other]
    split
    · next hEq => rw [hFlight, hEq, flightOf_of_get hTask]
    · rfl
  | begun task answer dmId retryCount event rest shouldRetry hEvent hTask hFresh =>
    exact .starts task event _ (flightOf_of_get hTask) hFresh
  | skipped task answer dmId retryCount event rest shouldRetry hEvent hTask hSkip =>
    refine .stays _ _ (flightOf_set_none rfl (flightOf_of_get hTask) rfl) rfl rfl
      ⟨rfl, rfl, fun _ _ => id⟩ ?_
    intro acceptance hMem
    cases List.mem_singleton.mp hMem
  | accepted task answer event next host verified progress hEvent hTask =>
    exact .accepts task event next host verified (flightOf_of_get hTask)
  | ended task answer event stage next accepted shouldRetry hEvent hTask hStage =>
    refine .ends task event stage.isAccepted _ _ (flightOf_of_get hTask) ?_ ?_ ?_ ?_ ?_
    · cases next with
      | event => exact flightOf_delete rfl
      | recovery dmId retryCount rest owed =>
        exact flightOf_set (.recovering dmId retryCount rest
          (owed || (!accepted && shouldRetry))) rfl
    · cases next <;> rfl
    · cases next <;> rfl
    · cases next <;> exact ⟨rfl, rfl, fun _ _ => id⟩
    · intro acceptance hMem
      cases List.mem_singleton.mp hMem
  | broken task event stage next hEvent hTask =>
    exact .ends task event stage.isAccepted _ [] (flightOf_of_get hTask) (flightOf_delete rfl)
      rfl rfl ⟨rfl, rfl, fun _ _ => id⟩ (fun _ hMem => nomatch hMem)
  | scanBroken task running hEvent hTask hFlight =>
    exact .stays _ [] (flightOf_delete_none rfl ((flightOf_of_get hTask).trans hFlight)) rfl rfl
      ⟨rfl, rfl, fun _ _ => id⟩ (fun _ hMem => nomatch hMem)
  | recovered task answer dmId retryCount shouldRetry hEvent hTask =>
    have hBefore : flightOf s task = none := flightOf_of_get hTask
    unfold finishRecovery
    dsimp only
    split
    · exact .stays _ [] (flightOf_delete_none rfl hBefore) rfl rfl ⟨rfl, rfl, fun _ _ => id⟩
        (fun _ hMem => nomatch hMem)
    · exact .stays _ [] (flightOf_delete_none rfl hBefore) rfl rfl ⟨rfl, rfl, fun _ _ => id⟩
        (fun _ hMem => nomatch hMem)

end

/-! ## Messages in flight -/

/-- The messages in flight are marked, differ from each other, and those that have not been
accepted differ from all that have. -/
structure Apart (s : ListenerState) : Prop where
  ids : ∀ task flight, flightOf s task = some flight →
    flight.event.messageId ∈ s.inflightMessageIds
  keys : ∀ task flight key, flightOf s task = some flight →
    resolveInviteRequestKey flight.event = some key → key ∈ s.inflightInviteKeys
  alone : ∀ task task' flight flight', flightOf s task = some flight →
    flightOf s task' = some flight' →
    flight.event.messageId = flight'.event.messageId ∨ SameRequest flight.event flight'.event →
    task = task'
  freshId : ∀ task flight, flightOf s task = some flight → flight.accepted = false →
    flight.event.messageId ∉ s.processedMessageIds
  freshKey : ∀ task flight key, flightOf s task = some flight → flight.accepted = false →
    resolveInviteRequestKey flight.event = some key → key ∉ s.processedInviteKeys

/-- A message that is not left out is new by its id and by its request. -/
structure Unseen (s : ListenerState) (event : RawMessageEvent) : Prop where
  processedId : event.messageId ∉ s.processedMessageIds
  processedKey : ∀ key, resolveInviteRequestKey event = some key → key ∉ s.processedInviteKeys
  flightId : event.messageId ∉ s.inflightMessageIds
  flightKey : ∀ key, resolveInviteRequestKey event = some key → key ∉ s.inflightInviteKeys

variable {event : RawMessageEvent}

theorem unseen_of_not_skips {s : ListenerState} (h : skipsCandidate s event = false) :
    Unseen s event := by
  simp only [skipsCandidate, Bool.or_eq_false_iff, decide_eq_false_iff_not,
    Option.any_eq_false] at h
  obtain ⟨⟨⟨hId, hKey⟩, hFlightId⟩, hFlightKey⟩ := h
  refine ⟨hId, ?_, hFlightId, ?_⟩
  · intro key hEq
    simpa using hKey key hEq
  · intro key hEq
    simpa using hFlightKey key hEq

variable {deps} {s t : ListenerState} {label : ListenerLabel} {out : List ListenerObservation}
  {task : Nat}

theorem flightOf_acceptCandidate (now : Int) (s : ListenerState) (task : Nat)
    (event : RawMessageEvent) (next : AfterCandidate) (host : DispatchHost)
    (verified : VerifiedInvite) (other : Nat) :
    flightOf (acceptCandidate deps now s task event next host verified).1 other =
      if other = task then some ⟨event, true⟩ else flightOf s other := by
  unfold acceptCandidate
  dsimp only
  split
  · exact flightOf_set (.candidate event .accepted next) rfl other
  · exact flightOf_set (.candidate event .accepted next) rfl other

theorem acceptCandidate_sets (now : Int) (s : ListenerState) (task : Nat)
    (event : RawMessageEvent) (next : AfterCandidate) (host : DispatchHost)
    (verified : VerifiedInvite) :
    let after := (acceptCandidate deps now s task event next host verified).1
    after.inflightMessageIds = s.inflightMessageIds ∧
      after.inflightInviteKeys = s.inflightInviteKeys ∧
      after.processedMessageIds = s.processedMessageIds.add event.messageId ∧
      (∀ key, key ∈ after.processedInviteKeys ↔
        resolveInviteRequestKey event = some key ∨ key ∈ s.processedInviteKeys) ∧
      ∀ key, after.processedInviteKeyTimers.get key =
        if resolveInviteRequestKey event = some key then
          some (now + deps.processedInviteKeyTtlMs)
        else s.processedInviteKeyTimers.get key := by
  unfold acceptCandidate
  dsimp only
  cases hKey : resolveInviteRequestKey event with
  | none => simp
  | some requestKey =>
    refine ⟨rfl, rfl, rfl, ?_, ?_⟩
    · intro key
      simp only [markInviteKeyProcessed, OrderedSet.mem_add, Option.some.injEq]
      exact or_congr_left eq_comm
    · intro key
      simp only [markInviteKeyProcessed, AssocMap.get_set, Option.some.injEq]
      split
      · next hEq => rw [if_pos hEq.symm]
      · next hNe => rw [if_neg fun hEq => hNe hEq.symm]

theorem Apart.starts (h : Apart s) (next : AfterCandidate) (hNew : Unseen s event) :
    Apart (startCandidate s task event next) := by
  have hFlight : ∀ other, flightOf (startCandidate s task event next) other =
      if other = task then some ⟨event, false⟩ else flightOf s other :=
    fun other => flightOf_set (.candidate event .identities next) rfl other
  have hKeys : ∀ key, key ∈ (startCandidate s task event next).inflightInviteKeys ↔
      resolveInviteRequestKey event = some key ∨ key ∈ s.inflightInviteKeys := by
    intro key
    simp only [startCandidate]
    cases hKey : resolveInviteRequestKey event with
    | none => simp
    | some requestKey =>
      simp only [OrderedSet.mem_add, Option.some.injEq]
      exact or_congr_left eq_comm
  -- no message in flight has the id or the request of the new one
  have hOther : ∀ other flight, flightOf s other = some flight →
      ¬ (flight.event.messageId = event.messageId ∨ SameRequest flight.event event) := by
    rintro other flight hOld (hEq | ⟨key, hKey, hKey'⟩)
    · exact hNew.flightId (hEq ▸ h.ids other flight hOld)
    · exact hNew.flightKey key hKey' (h.keys other flight key hOld hKey)
  refine ⟨?_, ?_, ?_, ?_, ?_⟩
  · intro other flight hGet
    rw [hFlight] at hGet
    refine OrderedSet.mem_add.mpr ?_
    split at hGet
    · cases hGet
      exact Or.inl rfl
    · exact Or.inr (h.ids other flight hGet)
  · intro other flight key hGet hKey
    rw [hFlight] at hGet
    rw [hKeys]
    split at hGet
    · cases hGet
      exact Or.inl hKey
    · exact Or.inr (h.keys other flight key hGet hKey)
  · intro other other' flight flight' hGet hGet' hSame
    rw [hFlight] at hGet hGet'
    split at hGet
    · next hEq =>
      split at hGet'
      · next hEq' => rw [hEq, hEq']
      · cases hGet
        refine absurd ?_ (hOther other' flight' hGet')
        rcases hSame with hId | ⟨key, hKey, hKey'⟩
        · exact Or.inl hId.symm
        · exact Or.inr ⟨key, hKey', hKey⟩
    · split at hGet'
      · cases hGet'
        exact absurd hSame (hOther other flight hGet)
      · exact h.alone other other' flight flight' hGet hGet' hSame
  · intro other flight hGet hAccepted
    rw [hFlight] at hGet
    split at hGet
    · cases hGet
      exact hNew.processedId
    · exact h.freshId other flight hGet hAccepted
  · intro other flight key hGet hAccepted hKey
    rw [hFlight] at hGet
    split at hGet
    · cases hGet
      exact hNew.processedKey key hKey
    · exact h.freshKey other flight key hGet hAccepted hKey

theorem Apart.ends (h : Apart s) {accepted : Bool}
    (hFlight : flightOf s task = some ⟨event, accepted⟩)
    (hFlights : ∀ other, flightOf t other = if other = task then none else flightOf s other)
    (hIds : t.inflightMessageIds = (leaveFlight s event).inflightMessageIds)
    (hKeys : t.inflightInviteKeys = (leaveFlight s event).inflightInviteKeys)
    (hSame : SameProcessed s t) : Apart t := by
  have hOld : ∀ other flight, flightOf t other = some flight →
      other ≠ task ∧ flightOf s other = some flight := by
    intro other flight hGet
    rw [hFlights] at hGet
    split at hGet
    · cases hGet
    · next hNe => exact ⟨hNe, hGet⟩
  refine ⟨?_, ?_, ?_, ?_, ?_⟩
  · intro other flight hGet
    obtain ⟨hNe, hBefore⟩ := hOld other flight hGet
    rw [hIds]
    refine OrderedSet.mem_erase.mpr ⟨h.ids other flight hBefore, ?_⟩
    intro hEq
    exact hNe (h.alone other task flight _ hBefore hFlight (Or.inl hEq))
  · intro other flight key hGet hKey
    obtain ⟨hNe, hBefore⟩ := hOld other flight hGet
    rw [hKeys]
    have hMem := h.keys other flight key hBefore hKey
    simp only [leaveFlight]
    split
    · exact hMem
    · next requestKey hRequest =>
      refine OrderedSet.mem_erase.mpr ⟨hMem, ?_⟩
      rintro rfl
      exact hNe (h.alone other task flight _ hBefore hFlight (Or.inr ⟨key, hKey, hRequest⟩))
  · intro other other' flight flight' hGet hGet' hShared
    exact h.alone other other' flight flight' (hOld other flight hGet).2
      (hOld other' flight' hGet').2 hShared
  · intro other flight hGet hAccepted
    rw [hSame.messageIds]
    exact h.freshId other flight (hOld other flight hGet).2 hAccepted
  · intro other flight key hGet hAccepted hKey
    rw [hSame.inviteKeys]
    exact h.freshKey other flight key (hOld other flight hGet).2 hAccepted hKey

theorem Apart.accepts (h : Apart s) {now : Int} (next : AfterCandidate) (host : DispatchHost)
    (verified : VerifiedInvite) (hFlight : flightOf s task = some ⟨event, false⟩) :
    Apart (acceptCandidate deps now s task event next host verified).1 := by
  obtain ⟨hIds, hKeys, hProcessed, hProcessedKeys, -⟩ :=
    @acceptCandidate_sets deps now s task event next host verified
  have hFlights := @flightOf_acceptCandidate deps now s task event next host verified
  -- a message in flight after the step has been there before it
  have hOld : ∀ other flight,
      flightOf (acceptCandidate deps now s task event next host verified).1 other = some flight →
      ∃ accepted, flightOf s other = some ⟨flight.event, accepted⟩ ∧
        (flight.accepted = false → other ≠ task ∧ accepted = false) := by
    intro other flight hGet
    rw [hFlights] at hGet
    split at hGet
    · next hEq =>
      cases hGet
      exact ⟨false, by rw [hEq, hFlight], fun hAccepted => nomatch hAccepted⟩
    · next hNe => exact ⟨flight.accepted, hGet, fun hAccepted => ⟨hNe, hAccepted⟩⟩
  refine ⟨?_, ?_, ?_, ?_, ?_⟩
  · intro other flight hGet
    obtain ⟨accepted, hBefore, -⟩ := hOld other flight hGet
    rw [hIds]
    exact h.ids other ⟨flight.event, accepted⟩ hBefore
  · intro other flight key hGet hKey
    obtain ⟨accepted, hBefore, -⟩ := hOld other flight hGet
    rw [hKeys]
    exact h.keys other _ key hBefore hKey
  · intro other other' flight flight' hGet hGet' hShared
    obtain ⟨accepted, hBefore, -⟩ := hOld other flight hGet
    obtain ⟨accepted', hBefore', -⟩ := hOld other' flight' hGet'
    exact h.alone other other' _ _ hBefore hBefore' hShared
  · intro other flight hGet hAccepted
    obtain ⟨accepted, hBefore, hElse⟩ := hOld other flight hGet
    obtain ⟨hNe, rfl⟩ := hElse hAccepted
    rw [hProcessed, OrderedSet.mem_add]
    rintro (hEq | hMem)
    · exact hNe (h.alone other task _ _ hBefore hFlight (Or.inl hEq))
    · exact h.freshId other _ hBefore rfl hMem
  · intro other flight key hGet hAccepted hKey
    obtain ⟨accepted, hBefore, hElse⟩ := hOld other flight hGet
    obtain ⟨hNe, rfl⟩ := hElse hAccepted
    rw [hProcessedKeys]
    rintro (hRequest | hMem)
    · exact hNe (h.alone other task _ _ hBefore hFlight (Or.inr ⟨key, hKey, hRequest⟩))
    · exact h.freshKey other _ key hBefore rfl hKey hMem

theorem Apart.step (h : Apart s) (hMove : FlightMove deps s label (t, out)) : Apart t := by
  cases hMove with
  | stays _ _ hFlights hIds hKeys hSame hOut =>
    refine ⟨?_, ?_, ?_, ?_, ?_⟩
    · intro task flight hGet
      rw [hIds]
      exact h.ids task flight (hFlights task ▸ hGet)
    · intro task flight key hGet hKey
      rw [hKeys]
      exact h.keys task flight key (hFlights task ▸ hGet) hKey
    · intro task task' flight flight' hGet hGet' hShared
      exact h.alone task task' flight flight' (hFlights task ▸ hGet) (hFlights task' ▸ hGet')
        hShared
    · intro task flight hGet hAccepted
      rw [hSame.messageIds]
      exact h.freshId task flight (hFlights task ▸ hGet) hAccepted
    · intro task flight key hGet hAccepted hKey
      rw [hSame.inviteKeys]
      exact h.freshKey task flight key (hFlights task ▸ hGet) hAccepted hKey
  | starts task event next hFree hFresh => exact h.starts next (unseen_of_not_skips hFresh)
  | accepts task event next host verified hFlight => exact h.accepts next host verified hFlight
  | ends task event accepted _ _ hFlight hFlights hIds hKeys hSame hOut =>
    exact h.ends hFlight hFlights hIds hKeys hSame
  | expires requestKey dueAt hTimer hDue =>
    refine ⟨h.ids, h.keys, h.alone, h.freshId, ?_⟩
    intro task flight key hGet hAccepted hKey hMem
    exact h.freshKey task flight key hGet hAccepted hKey (OrderedSet.mem_erase.mp hMem).1

theorem apart_init : Apart (listenerMachine deps).init := by
  refine ⟨?_, ?_, ?_, ?_, ?_⟩
  · intro task flight hGet
    cases hGet
  · intro task flight key hGet
    cases hGet
  · intro task task' flight flight' hGet
    cases hGet
  · intro task flight hGet
    cases hGet
  · intro task flight key hGet
    cases hGet

variable {h : List ListenerOccurrence}

theorem apart_run (hRun : (listenerMachine deps).Runs h s) : Apart s :=
  hRun.state_invariant apart_init fun _ _ _ _ hApart hStep =>
    hApart.step (flightMove_of_step deps (listenerStep_cases deps hStep))

/-! ## Acceptances -/

/-- The key is among the processed ones, and its timer, if any, is not due earlier. -/
def HeldUntil (s : ListenerState) (key : String) (instant : Int) : Prop :=
  key ∈ s.processedInviteKeys ∧
    ∀ dueAt, s.processedInviteKeyTimers.get key = some dueAt → instant ≤ dueAt

/-- The request of an acceptance is held, or the clock has come to the end of its time. -/
def KeyHeld (ttl : Int) (h : List ListenerOccurrence) (s : ListenerState) : Prop :=
  ∀ h₁ o h₂ acceptance key, h = h₁ ++ o :: h₂ → .accepted acceptance ∈ o.out →
    resolveInviteRequestKey acceptance.requestMessage = some key →
    HeldUntil s key (o.label.now + ttl) ∨ ∃ later ∈ h₂, o.label.now + ttl ≤ later.label.now

theorem flight_of_accepted (hMove : FlightMove deps s label (t, out))
    {acceptance : ManagedInviteJoinAcceptance} (hOut : .accepted acceptance ∈ out) :
    ∃ task next host verified, flightOf s task = some ⟨acceptance.requestMessage, false⟩ ∧
      (t, out) = acceptCandidate deps label.now s task acceptance.requestMessage next host
        verified := by
  generalize hTurn : (t, out) = turn at hMove
  cases hMove with
  | stays t' out' hFlights hIds hKeys hSame hNone =>
    cases hTurn
    exact absurd hOut (hNone acceptance)
  | starts task event next hFree hFresh =>
    cases hTurn
    cases hOut
  | accepts task event next host verified hFlight =>
    have hOnly : out = [.accepted ⟨joinResult verified event.senderInboxId, host.identityId,
        host.inboxId, event⟩] := congrArg Prod.snd hTurn
    rw [hOnly] at hOut
    cases List.mem_singleton.mp hOut
    exact ⟨task, next, host, verified, hFlight, rfl⟩
  | ends task event accepted t' out' hFlight hFlights hIds hKeys hSame hNone =>
    cases hTurn
    exact absurd hOut (hNone acceptance)
  | expires requestKey dueAt hTimer hDue =>
    cases hTurn
    cases hOut

theorem HeldUntil.step (hApart : Apart s) (hMove : FlightMove deps s label (t, out))
    {key : String} {instant : Int} (h : HeldUntil s key instant) :
    HeldUntil t key instant ∨ instant ≤ label.now := by
  generalize hTurn : (t, out) = turn at hMove
  cases hMove with
  | stays t' out' hFlights hIds hKeys hSame hOut =>
    cases hTurn
    refine Or.inl ⟨hSame.inviteKeys ▸ h.1, ?_⟩
    intro dueAt hGet
    exact h.2 dueAt (hSame.timers key dueAt hGet)
  | starts task event next hFree hFresh =>
    cases hTurn
    exact Or.inl h
  | accepts task event next host verified hFlight =>
    -- the request of the message is another one
    obtain ⟨-, -, -, hKeys, hTimers⟩ :=
      @acceptCandidate_sets deps label.now s task event next host verified
    have hAfter : t = (acceptCandidate deps label.now s task event next host verified).1 :=
      congrArg Prod.fst hTurn
    have hOther : resolveInviteRequestKey event ≠ some key := fun hEq =>
      hApart.freshKey task _ key hFlight rfl hEq h.1
    rw [hAfter]
    refine Or.inl ⟨(hKeys key).mpr (Or.inr h.1), ?_⟩
    intro dueAt hGet
    rw [hTimers, if_neg hOther] at hGet
    exact h.2 dueAt hGet
  | ends task event accepted t' out' hFlight hFlights hIds hKeys hSame hOut =>
    cases hTurn
    refine Or.inl ⟨hSame.inviteKeys ▸ h.1, ?_⟩
    intro dueAt hGet
    exact h.2 dueAt (hSame.timers key dueAt hGet)
  | expires requestKey dueAt hTimer hDue =>
    cases hTurn
    by_cases hKey : key = requestKey
    · subst hKey
      exact Or.inr (Int.le_trans (h.2 dueAt hTimer) hDue)
    · refine Or.inl ⟨OrderedSet.mem_erase.mpr ⟨h.1, hKey⟩, ?_⟩
      intro dueAt' hGet
      rw [AssocMap.get_delete, if_neg hKey] at hGet
      exact h.2 dueAt' hGet

/-- The last step of a history, or one before it. -/
theorem split_snoc {h₁ h₂ : List ListenerOccurrence} {o last : ListenerOccurrence}
    (hSplit : h ++ [last] = h₁ ++ o :: h₂) :
    (h₂ = [] ∧ o = last ∧ h₁ = h) ∨ ∃ rest, h₂ = rest ++ [last] ∧ h = h₁ ++ o :: rest := by
  rcases List.eq_nil_or_concat h₂ with rfl | ⟨rest, final, rfl⟩
  · obtain ⟨hBefore, hLast⟩ := List.append_inj' hSplit rfl
    cases hLast
    exact Or.inl ⟨rfl, rfl, hBefore.symm⟩
  · have hCat : h ++ [last] = (h₁ ++ o :: rest) ++ [final] := by
      rw [hSplit]
      simp
    obtain ⟨hBefore, hLast⟩ := List.append_inj' hCat rfl
    cases hLast
    exact Or.inr ⟨rest, by simp, hBefore⟩

theorem keyHeld_run (hRun : (listenerMachine deps).Runs h s) :
    KeyHeld deps.processedInviteKeyTtlMs h s := by
  induction hRun with
  | start =>
    intro h₁ o h₂ acceptance key hSplit
    simp at hSplit
  | @step h s t label out hRun hStep ih =>
    have hMove := flightMove_of_step deps (listenerStep_cases deps hStep)
    have hApart := apart_run hRun
    intro h₁ o h₂ acceptance key hSplit hOut hKey
    rcases split_snoc hSplit with ⟨rfl, rfl, rfl⟩ | ⟨rest, rfl, hSplit'⟩
    · -- the acceptance itself: its key is marked
      obtain ⟨task, next, host, verified, hFlight, hTurn⟩ := flight_of_accepted hMove hOut
      obtain ⟨-, -, -, hKeys, hTimers⟩ := @acceptCandidate_sets deps label.now s task
        acceptance.requestMessage next host verified
      have hAfter : t = (acceptCandidate deps label.now s task acceptance.requestMessage next
          host verified).1 := congrArg Prod.fst hTurn
      rw [← hAfter] at hKeys hTimers
      refine Or.inl ⟨(hKeys key).mpr (Or.inl hKey), ?_⟩
      intro dueAt hGet
      rw [hTimers, if_pos hKey] at hGet
      cases hGet
      exact Int.le_refl _
    · rcases ih h₁ o rest acceptance key hSplit' hOut hKey with hHeld | ⟨later, hMem, hDue⟩
      · rcases hHeld.step hApart hMove with hStill | hOver
        · exact Or.inl hStill
        · exact Or.inr ⟨_, List.mem_append_right _ (List.mem_singleton.mpr rfl), hOver⟩
      · exact Or.inr ⟨later, List.mem_append_left _ hMem, hDue⟩

/-- Accepted messages are remembered by their ids, and each has been accepted once. -/
structure Remembered (h : List ListenerOccurrence) (s : ListenerState) : Prop where
  ids : ∀ a ∈ acceptedIn h, a.requestMessage.messageId ∈ s.processedMessageIds
  once : ((acceptedIn h).map fun a => a.requestMessage.messageId).Nodup

theorem acceptedIn_snoc_of_none {o : ListenerOccurrence}
    (hNone : ∀ acceptance, .accepted acceptance ∉ o.out) :
    acceptedIn (h ++ [o]) = acceptedIn h := by
  simp only [acceptedIn, outputs_append, outputs_singleton,
    List.filterMap_append, List.append_right_eq_self, List.filterMap_eq_nil_iff]
  intro observation hMem
  split
  · next acceptance => exact absurd hMem (hNone acceptance)
  · rfl

theorem Remembered.keep (hOld : Remembered h s)
    (hIds : ∀ id ∈ s.processedMessageIds, id ∈ t.processedMessageIds)
    (hNone : ∀ acceptance, .accepted acceptance ∉ out) :
    Remembered (h ++ [⟨s, label, out⟩]) t := by
  constructor
  · rw [acceptedIn_snoc_of_none hNone]
    intro a ha
    exact hIds _ (hOld.ids a ha)
  · rw [acceptedIn_snoc_of_none hNone]
    exact hOld.once

theorem remembered_run (hRun : (listenerMachine deps).Runs h s) : Remembered h s := by
  induction hRun with
  | start => exact ⟨fun a ha => (nomatch ha), List.nodup_nil⟩
  | @step h s t label out hRun hStep ih =>
    have hMove := flightMove_of_step deps (listenerStep_cases deps hStep)
    have hApart := apart_run hRun
    generalize hTurn : (t, out) = turn at hMove
    cases hMove with
    | stays t' out' hFlights hIds hKeys hSame hOut =>
      cases hTurn
      exact ih.keep (fun id hMem => hSame.messageIds ▸ hMem) hOut
    | starts task event next hFree hFresh =>
      cases hTurn
      exact ih.keep (fun id hMem => hMem) (fun _ hMem => nomatch hMem)
    | accepts task event next host verified hFlight =>
      obtain ⟨-, -, hProcessed, -, -⟩ :=
        @acceptCandidate_sets deps label.now s task event next host verified
      have hAfter : t = (acceptCandidate deps label.now s task event next host verified).1 :=
        congrArg Prod.fst hTurn
      have hOut : out = (acceptCandidate deps label.now s task event next host verified).2 :=
        congrArg Prod.snd hTurn
      have hList : acceptedIn (h ++ [⟨s, label, out⟩]) =
          acceptedIn h ++ [⟨joinResult verified event.senderInboxId, host.identityId,
            host.inboxId, event⟩] := by
        simp only [acceptedIn, outputs_append, outputs_singleton,
          List.filterMap_append, hOut]
        rfl
      rw [← hAfter] at hProcessed
      constructor
      · rw [hList, hProcessed]
        intro a ha
        rcases List.mem_append.mp ha with hOld | hNew
        · exact OrderedSet.mem_add.mpr (Or.inr (ih.ids a hOld))
        · rw [List.mem_singleton.mp hNew]
          exact OrderedSet.mem_add.mpr (Or.inl rfl)
      · rw [hList, List.map_append, List.nodup_append]
        refine ⟨ih.once, List.nodup_singleton _, ?_⟩
        intro id hOld id' hNew
        obtain ⟨a, ha, rfl⟩ := List.mem_map.mp hOld
        rw [List.mem_singleton.mp hNew]
        intro hEq
        have hSeen := ih.ids a ha
        rw [hEq] at hSeen
        exact hApart.freshId task _ hFlight rfl hSeen
    | ends task event accepted t' out' hFlight hFlights hIds hKeys hSame hOut =>
      cases hTurn
      exact ih.keep (fun id hMem => hSame.messageIds ▸ hMem) hOut
    | expires requestKey dueAt hTimer hDue =>
      cases hTurn
      exact ih.keep (fun id hMem => hMem) (fun _ hMem => nomatch hMem)

/-! ## Deduplication -/

/-- No message id is accepted twice; no two dispatches of one sender and slug, or of one
message, are in flight at once; and between two acceptances of one sender and slug the
clock comes to the end of the time of the first. -/
structure Deduplicated (ttl : Int) (h : List ListenerOccurrence) (s : ListenerState) : Prop where
  once : ((acceptedIn h).map fun a => a.requestMessage.messageId).Nodup
  flights : ∀ t ∈ visited h s, ∀ task task' flight flight',
    flightOf t task = some flight → flightOf t task' = some flight' →
    flight.event.messageId = flight'.event.messageId ∨ SameRequest flight.event flight'.event →
      task = task'
  apart : ∀ h₁ o h₂ o' h₃ a b, h = h₁ ++ o :: (h₂ ++ o' :: h₃) →
    .accepted a ∈ o.out → .accepted b ∈ o'.out → SameRequest a.requestMessage b.requestMessage →
      ∃ between ∈ h₂, o.label.now + ttl ≤ between.label.now

/-- **Invite dedupe.**  Every run of the listener is deduplicated. -/
theorem invites_deduplicated (deps : ListenerDeps) (h : List ListenerOccurrence)
    (s : ListenerState) (hRun : (listenerMachine deps).Runs h s) :
    Deduplicated deps.processedInviteKeyTtlMs h s := by
  refine ⟨(remembered_run hRun).once, ?_, ?_⟩
  · intro t ht task task' flight flight' hGet hGet' hShared
    obtain ⟨h', hRun', -⟩ := hRun.of_mem_visited ht
    exact (apart_run hRun').alone task task' flight flight' hGet hGet' hShared
  · rintro h₁ o h₂ o' h₃ a b hSplit hOutA hOutB ⟨key, hKeyA, hKeyB⟩
    have hSplit' : h = (h₁ ++ o :: h₂) ++ o' :: h₃ := by
      rw [hSplit]
      simp
    obtain ⟨hBefore, t, hStep⟩ := hRun.of_append_cons hSplit'
    have hMove := flightMove_of_step deps (listenerStep_cases deps hStep)
    obtain ⟨task, next, host, verified, hFlight, -⟩ := flight_of_accepted hMove hOutB
    rcases keyHeld_run hBefore h₁ o h₂ a key rfl hOutA hKeyA with ⟨hMem, -⟩ | hOver
    · -- the request would not have been dispatched
      exact absurd hMem ((apart_run hBefore).freshKey task _ key hFlight rfl hKeyB)
    · exact hOver

/-- Two inboxes with one invite are two requests. -/
theorem two_joins_deduplicated :
    Deduplicated 5000 (sampleListener.outcome sampleListener.init twoJoins twoJoins_isSome).1
      (sampleListener.outcome sampleListener.init twoJoins twoJoins_isSome).2 :=
  invites_deduplicated ⟨sampleInviteHost, 5000⟩ _ _
    (runs_of_exec (exec_outcome twoJoins_isSome))

end Cli
end Signet
