import Signet.Core.SignetCore

/-!
# The streams of the core and the clients they belong to

Detaching an identity, stopping the core and a start that fails abort the streams that are
in the list at that time and forget the clients.  A hydration that is under way notices
nothing of it once it has passed its look at the lifecycle: it goes on and opens streams.
Two hydrations of one identity each open streams for it.

* `StreamsOwned` — at most one message stream for an identity, and a client for each stream.
* `OpensForItsClient` — a stream comes while the client is registered, and a message stream
  while there is no other.
* `CoreMove` — everything a step can do to streams, clients and lifecycle.
-/

namespace Signet
namespace Core

open Kit Machine Schemas

/-! ## Ownership -/

/-- At most one open message stream for an identity, and a registered client for every
open stream. -/
structure StreamsOwned (s : CoreState) : Prop where
  one : ∀ identityId, (s.opened.filter fun stream =>
    stream.identityId = identityId ∧ stream.kind = .messages).length ≤ 1
  owned : ∀ stream ∈ s.opened, (s.registry.get stream.identityId).isSome = true

structure Silent (s : CoreState) : Prop where
  streams : s.opened = []
  clients : s.registry.entries = []

/-- A step in which `stop` has returned `Ok`. -/
def StopsOk (o : Occurrence CoreState CoreEvent CoreObservation) : Prop :=
  o.label = .stop ∧ ∃ call, .returned call (.done (.ok ())) ∈ o.out

/-- The streams are owned in every state of a run, and all is silent after `stop` has
returned `Ok`. -/
structure OwnsStreams (h : List (Occurrence CoreState CoreEvent CoreObservation))
    (s : CoreState) : Prop where
  always : ∀ t ∈ visited h s, StreamsOwned t
  afterStop : ∀ earlier o later, h = earlier ++ o :: later → StopsOk o →
    ∀ t ∈ visited later s, Silent t

def HydrationStage.asked : HydrationStage → Option StreamKind
  | .streamAllMessages _ => some .messages
  | .streamGroups _ => some .groups
  | .streamDms _ => some .dms
  | _ => none

/-- The client of the identity is registered, and no other message stream of it is open
when one has come. -/
def AwaitsStream (s : CoreState) (identityId : String) (kind : StreamKind) : Prop :=
  (s.registry.get identityId).isSome = true ∧
    (kind = .messages → ∀ stream ∈ s.streams, stream.identityId = identityId →
      stream.kind ≠ .messages)

/-- A stream that comes for a hydration comes for a registered client, and a message stream
comes for one that has none. -/
def OpensForItsClient (s : CoreState) : CoreEvent → Prop
  | .resume call (.stream (.ok ())) =>
    match s.calls.get call with
    | some (.hydrating _ identity stage) =>
      ∀ kind ∈ stage.asked, AwaitsStream s identity.id kind
    | _ => True
  | _ => True

instance (s : CoreState) (identityId : String) (kind : StreamKind) :
    Decidable (AwaitsStream s identityId kind) :=
  inferInstanceAs (Decidable (_ ∧ (_ → ∀ stream ∈ s.streams, _)))

instance (s : CoreState) (event : CoreEvent) : Decidable (OpensForItsClient s event) := by
  unfold OpensForItsClient
  split
  · split <;> infer_instance
  · infer_instance

/-! ## What a step does -/

def PendingCall.OfStart : PendingCall → Prop
  | .listing _ | .hydrating (.start _ _) _ _ => True
  | _ => False

/-- What streams, clients and lifecycle are. -/
structure SameResources (s s' : CoreState) : Prop where
  lifecycle : s'.lifecycle = s.lifecycle
  registry : s'.registry = s.registry
  streams : s'.streams = s.streams
  opened : s'.opened = s.opened

/-- Every call that is part of a start has been one before. -/
def CallsKept (s s' : CoreState) : Prop :=
  ∀ call pending, s'.calls.get call = some pending → pending.OfStart →
    ∃ before, s.calls.get call = some before ∧ before.OfStart

/-- Every call that is part of a start has been one before, and is not this one. -/
def StartEnded (s s' : CoreState) (ended : Nat) : Prop :=
  ∀ call pending, s'.calls.get call = some pending → pending.OfStart →
    call ≠ ended ∧ ∃ before, s.calls.get call = some before ∧ before.OfStart

/-- Everything a step can do to streams, clients and lifecycle. -/
inductive CoreMove (s : CoreState) : CoreEvent → CoreState → Prop
  | stays {event : CoreEvent} {s' : CoreState} (hSame : SameResources s s')
      (hCalls : CallsKept s s') : CoreMove s event s'
  | registers {event : CoreEvent} {s' : CoreState} (managed : ManagedClient)
      (hSame : SameResources (s.register managed) s') (hCalls : CallsKept s s') :
      CoreMove s event s'
  | opens {s' : CoreState} {call : Nat} {caller : HydrationCaller} {identity : AgentIdentity}
      {stage : HydrationStage} (kind : StreamKind)
      (hPending : s.calls.get call = some (.hydrating caller identity stage))
      (hAsked : stage.asked = some kind)
      (hSame : SameResources (s.openStream identity.id kind) s') (hCalls : CallsKept s s') :
      CoreMove s (.resume call (.stream (.ok ()))) s'
  | detaches {event : CoreEvent} {s' : CoreState} (identityId : String)
      (hSame : SameResources (s.detach identityId) s') (hCalls : CallsKept s s') :
      CoreMove s event s'
  | goesLocal {event : CoreEvent} {s' : CoreState} (hBefore : s.lifecycle = .idle)
      (hSame : SameResources { s with lifecycle := .localOnly } s') (hCalls : CallsKept s s') :
      CoreMove s event s'
  | starts {event : CoreEvent} {s' : CoreState}
      (hBefore : s.lifecycle = .idle ∨ s.lifecycle = .localOnly)
      (hSame : SameResources { s with lifecycle := .starting } s')
      (hCalls : ∀ call pending, s'.calls.get call = some pending → pending.OfStart →
        call = s.begun ∨ ∃ before, s.calls.get call = some before ∧ before.OfStart) :
      CoreMove s event s'
  | runs {event : CoreEvent} {s' : CoreState} {call : Nat} {pending : PendingCall}
      (hPending : s.calls.get call = some pending) (hStart : pending.OfStart)
      (hSame : SameResources { s with lifecycle := .running } s')
      (hCalls : StartEnded s s' call) : CoreMove s event s'
  | fails {event : CoreEvent} {s' : CoreState} {call : Nat} {pending : PendingCall}
      (fallback : SignetState) (hPending : s.calls.get call = some pending)
      (hStart : pending.OfStart)
      (hSame : SameResources { s.resetStartupArtifacts with lifecycle := fallback } s')
      (hCalls : StartEnded s s' call) : CoreMove s event s'
  | stops {s' : CoreState}
      (hBefore : s.lifecycle = .localOnly ∨ s.lifecycle = .running ∨ s.lifecycle = .error)
      (hSame : SameResources { s.resetStartupArtifacts with lifecycle := .stopped } s')
      (hCalls : CallsKept s s') : CoreMove s .stop s'

variable {s s' : CoreState} {event : CoreEvent} {call : Nat} {pending : PendingCall}

/-! ## Every step is a move -/

theorem callsKept_await (hCall : pending.OfStart →
    ∃ before, s.calls.get call = some before ∧ before.OfStart) :
    CallsKept s (s.await call pending).1 := by
  intro other pending' hGet hStart
  unfold CoreState.await at hGet
  dsimp only at hGet
  rcases AssocMap.get_set_cases hGet with ⟨hSame, rfl⟩ | ⟨-, hGet⟩
  · rw [hSame]
    exact hCall hStart
  · exact ⟨pending', hGet, hStart⟩

theorem startEnded_returns (s : CoreState) (call : Nat) (result : CoreResult) :
    StartEnded s (s.returns call result).1 call := by
  intro other pending' hGet hStart
  unfold CoreState.returns at hGet
  dsimp only at hGet
  obtain ⟨hOther, hGet⟩ := AssocMap.of_get_delete hGet
  exact ⟨hOther, pending', hGet, hStart⟩

theorem callsKept_returns (s : CoreState) (call : Nat) (result : CoreResult) :
    CallsKept s (s.returns call result).1 := by
  intro other pending' hGet hStart
  exact (startEnded_returns s call result other pending' hGet hStart).2

/-- A call that is no start waits for something else. -/
theorem CoreMove.awaits (hCall : pending.OfStart →
    ∃ before, s.calls.get call = some before ∧ before.OfStart) :
    CoreMove s event (s.await call pending).1 :=
  .stays ⟨rfl, rfl, rfl, rfl⟩ (callsKept_await hCall)

theorem CoreMove.returns (result : CoreResult) : CoreMove s event (s.returns call result).1 :=
  .stays ⟨rfl, rfl, rfl, rfl⟩ (callsKept_returns s call result)

section

variable (s : CoreState)

theorem start_move : CoreMove s .start s.start.1 := by
  unfold CoreState.start
  split
  · exact .stays ⟨rfl, rfl, rfl, rfl⟩ (callsKept_returns s.begin _ _)
  · next hState =>
    refine .starts (by tauto) ⟨rfl, rfl, rfl, rfl⟩ ?_
    intro call pending hGet hStart
    dsimp only [CoreState.await, CoreState.begin] at hGet
    rw [AssocMap.get_set] at hGet
    split at hGet
    · next hSame => exact Or.inl hSame
    · exact Or.inr ⟨pending, hGet, hStart⟩

theorem stop_move : CoreMove s .stop s.stop.1 := by
  unfold CoreState.stop
  split
  · exact .stays ⟨rfl, rfl, rfl, rfl⟩ (callsKept_returns s.begin _ _)
  · next hState =>
    refine .stops (by tauto) ⟨rfl, rfl, rfl, rfl⟩ ?_
    exact callsKept_returns s s.begun (.done (.ok ()))

theorem startLocal_move : CoreMove s .startLocal s.startLocal.1 := by
  unfold CoreState.startLocal
  split
  · exact .stays ⟨rfl, rfl, rfl, rfl⟩ (callsKept_returns s.begin _ _)
  · next hState =>
    exact .goesLocal (not_not.mp hState) ⟨rfl, rfl, rfl, rfl⟩
      (callsKept_returns s s.begun (.done (.ok ())))

theorem registerManagedIdentity_move (label : String) :
    CoreMove s (.registerManagedIdentity label) (s.registerManagedIdentity label).1 := by
  unfold CoreState.registerManagedIdentity
  split
  · exact .stays ⟨rfl, rfl, rfl, rfl⟩ (callsKept_returns s.begin _ _)
  · exact .stays ⟨rfl, rfl, rfl, rfl⟩ (callsKept_await (s := s.begin) nofun)

theorem attachPersistedIdentity_move (identityId : String) :
    CoreMove s (.attachPersistedIdentity identityId) (s.attachPersistedIdentity identityId).1 := by
  unfold CoreState.attachPersistedIdentity
  split
  · exact .stays ⟨rfl, rfl, rfl, rfl⟩ (callsKept_returns s.begin _ _)
  · split
    · exact .stays ⟨rfl, rfl, rfl, rfl⟩ (callsKept_returns s.begin _ _)
    · exact .stays ⟨rfl, rfl, rfl, rfl⟩ (callsKept_await (s := s.begin) nofun)

theorem detachManagedIdentity_move (identityId : String) :
    CoreMove s (.detachManagedIdentity identityId) (s.detachManagedIdentity identityId).1 :=
  .detaches identityId ⟨rfl, rfl, rfl, rfl⟩ (callsKept_returns s s.begun (.done (.ok ())))

end

theorem CallsKept.of_calls {t : CoreState} (hCalls : s.calls = t.calls)
    (h : CallsKept t s') : CallsKept s s' := by
  unfold CallsKept at h ⊢
  rw [hCalls]
  exact h

theorem register_calls (s : CoreState) (managed : ManagedClient) :
    (s.register managed).calls = s.calls := by
  unfold CoreState.register
  split <;> rfl

theorem register_lifecycle (s : CoreState) (managed : ManagedClient) :
    (s.register managed).lifecycle = s.lifecycle := by
  unfold CoreState.register
  split <;> rfl

variable {identity : AgentIdentity} {turn : CoreTurn} {caller : HydrationCaller}
  {stage : HydrationStage} {answer : CoreAnswer}

theorem ofStart_hydrating {identity' : AgentIdentity} {stage' : HydrationStage}
    (hPending : s.calls.get call = some (.hydrating caller identity stage))
    (hStart : (PendingCall.hydrating caller identity' stage').OfStart) :
    ∃ before, s.calls.get call = some before ∧ before.OfStart := by
  refine ⟨_, hPending, ?_⟩
  cases caller with
  | start remaining fallback => trivial
  | register label => exact hStart
  | attach identityId => exact hStart

theorem hydrateClient_move (managed : ManagedClient)
    (hPending : s.calls.get call = some (.hydrating caller identity stage)) :
    CoreMove s event (s.hydrateClient call caller identity managed).1 := by
  have hRegistered : (s.register managed).calls.get call =
      some (.hydrating caller identity stage) := by rw [register_calls, hPending]
  unfold CoreState.hydrateClient
  dsimp only
  split <;>
  · refine .registers managed ⟨rfl, rfl, rfl, rfl⟩ ?_
    exact (callsKept_await (ofStart_hydrating hRegistered)).of_calls
      (register_calls s managed).symm

theorem hydrate_move (hPending : s.calls.get call = some (.hydrating caller identity stage))
    (hTurn : s.hydrate call caller identity stage answer = some turn) :
    CoreMove s (.resume call answer) turn.1 := by
  have hNext : ∀ stage', CoreMove s (.resume call answer)
      (s.await call (.hydrating caller identity stage')).1 :=
    fun stage' => .awaits (ofStart_hydrating hPending)
  have hOpens : ∀ kind stage', stage.asked = some kind →
      CoreMove s (.resume call (.stream (.ok ())))
        ((s.openStream identity.id kind).await call (.hydrating caller identity stage')).1 := by
    intro kind stage' hAsked
    refine .opens kind hPending hAsked ⟨rfl, rfl, rfl, rfl⟩ ?_
    exact callsKept_await (s := s.openStream identity.id kind)
      (ofStart_hydrating (s := s.openStream identity.id kind) hPending)
  unfold CoreState.hydrate at hTurn
  dsimp only at hTurn
  split at hTurn <;> first | cases hTurn | skip
  all_goals first
    | exact hNext _
    | exact hOpens _ _ rfl
    | exact hydrateClient_move _ hPending
    | skip
  · split at hTurn <;> cases hTurn
    · exact hNext _
    · exact hydrateClient_move _ hPending

theorem startNext_move (s : CoreState) (fallback : SignetState) (identities : List AgentIdentity)
    (hPending : s.calls.get call = some pending) (hStart : pending.OfStart) :
    CoreMove s event (s.startNext call fallback identities).1 := by
  cases identities with
  | cons identity remaining => exact .awaits fun _ => ⟨pending, hPending, hStart⟩
  | nil =>
    exact .runs hPending hStart ⟨rfl, rfl, rfl, rfl⟩
      (startEnded_returns s call (.done (.ok ())))

theorem failStart_move (s : CoreState) (fallback : SignetState) (error : SignetError)
    (hPending : s.calls.get call = some pending) (hStart : pending.OfStart) :
    CoreMove s event (s.failStart call fallback error).1 :=
  .fails fallback hPending hStart ⟨rfl, rfl, rfl, rfl⟩
    (startEnded_returns s call (.done (.error error)))

theorem detachThen_move (s : CoreState) (identityId : String)
    (hPending : ¬ pending.OfStart) :
    CoreMove s event ((s.detach identityId).await call pending).1 :=
  .detaches identityId ⟨rfl, rfl, rfl, rfl⟩
    (callsKept_await (s := s.detach identityId) fun h => absurd h hPending)

theorem afterHydration_move (result : Settled ManagedClient)
    (hPending : s.calls.get call = some (.hydrating caller identity stage)) :
    CoreMove s event (s.afterHydration call caller identity result).1 := by
  cases caller with
  | register label =>
    cases result with
    | ok managed => exact .awaits nofun
    | error error => exact detachThen_move s identity.id nofun
    | thrown cause => exact .returns _
  | attach identityId =>
    cases result with
    | ok managed => exact .returns _
    | error error => exact detachThen_move s identityId nofun
    | thrown cause => exact .returns _
  | start remaining fallback =>
    cases result with
    | ok managed => exact startNext_move s fallback remaining hPending trivial
    | error error => exact failStart_move s fallback error hPending trivial
    | thrown cause => exact failStart_move s fallback _ hPending trivial

theorem goOn_move {host : CoreHost} (hPending : s.calls.get call = some pending)
    (hTurn : s.goOn host call pending answer = some turn) :
    CoreMove s (.resume call answer) turn.1 := by
  unfold CoreState.goOn at hTurn
  split at hTurn
  all_goals first | cases hTurn | skip
  all_goals first
    | exact afterHydration_move _ hPending
    | exact hydrate_move hPending hTurn
    | exact failStart_move s _ _ hPending trivial
    | exact startNext_move s _ _ hPending trivial
    | exact .returns _
    | exact .awaits nofun
    | exact detachThen_move s _ nofun
    | skip
  · split at hTurn <;> cases hTurn <;> exact .returns _

theorem coreStep_move {host : CoreHost} (hStep : coreStep host s event = some turn) :
    CoreMove s event turn.1 := by
  cases event with
  | startLocal =>
    obtain rfl := Option.some.inj hStep
    exact startLocal_move s
  | start =>
    obtain rfl := Option.some.inj hStep
    exact start_move s
  | stop =>
    obtain rfl := Option.some.inj hStep
    exact stop_move s
  | registerManagedIdentity label =>
    obtain rfl := Option.some.inj hStep
    exact registerManagedIdentity_move s label
  | attachPersistedIdentity identityId =>
    obtain rfl := Option.some.inj hStep
    exact attachPersistedIdentity_move s identityId
  | detachManagedIdentity identityId =>
    obtain rfl := Option.some.inj hStep
    exact detachManagedIdentity_move s identityId
  | resume call answer =>
    unfold coreStep at hStep
    dsimp only at hStep
    split at hStep
    · cases hStep
    · next pending hPending => exact goOn_move hPending hStep

/-! ## What holds in every state -/

/-- What is in the list is what is open, a start is alone and in its own state, and a core
that has stopped keeps no client. -/
structure Coherent (s : CoreState) : Prop where
  opened : s.opened = s.streams
  starting : ∀ call pending, s.calls.get call = some pending → pending.OfStart →
    s.lifecycle = .starting
  alone : ∀ call call' pending pending', s.calls.get call = some pending →
    s.calls.get call' = some pending' → pending.OfStart → pending'.OfStart → call = call'
  stopped : s.lifecycle = .stopped → s.registry.entries = []

theorem detach_opened (hOpened : s.opened = s.streams) (identityId : String) :
    (s.detach identityId).opened = (s.detach identityId).streams := by
  show s.opened.filter _ = s.streams.filter _
  rw [hOpened]
  apply List.filter_congr
  intro stream hStream
  simp [hStream]

theorem resetStartupArtifacts_opened (hOpened : s.opened = s.streams) :
    s.resetStartupArtifacts.opened = [] := by
  show s.opened.filter _ = []
  rw [hOpened, List.filter_eq_nil_iff]
  intro stream hStream
  simp [hStream]

theorem Coherent.alone_of_kept (h : Coherent s) (hCalls : CallsKept s s') :
    ∀ call call' pending pending', s'.calls.get call = some pending →
      s'.calls.get call' = some pending' → pending.OfStart → pending'.OfStart →
        call = call' := by
  intro one two pending pending' hOne hTwo hStart hStart'
  obtain ⟨before, hBefore, hWas⟩ := hCalls one pending hOne hStart
  obtain ⟨before', hBefore', hWas'⟩ := hCalls two pending' hTwo hStart'
  exact h.alone one two before before' hBefore hBefore' hWas hWas'

theorem Coherent.no_start (h : Coherent s) (hPending : s.calls.get call = some pending)
    (hStart : pending.OfStart) (hEnded : StartEnded s s' call) {other : Nat}
    {pending' : PendingCall} (hGet : s'.calls.get other = some pending') :
    ¬ pending'.OfStart := by
  intro hStart'
  obtain ⟨hOther, before, hBefore, hWas⟩ := hEnded other pending' hGet hStart'
  exact hOther (h.alone other call before pending hBefore hPending hWas hStart)

/-- Coherence after a step that leaves the lifecycle alone. -/
theorem Coherent.of_kept (h : Coherent s) (hLife : s'.lifecycle = s.lifecycle)
    (hCalls : CallsKept s s') (hOpened : s'.opened = s'.streams)
    (hStopped : s.lifecycle = .stopped → s'.registry.entries = []) : Coherent s' where
  opened := hOpened
  starting := by
    intro call pending hGet hStart
    obtain ⟨before, hBefore, hWas⟩ := hCalls call pending hGet hStart
    rw [hLife]
    exact h.starting call before hBefore hWas
  alone := h.alone_of_kept hCalls
  stopped := by
    intro hState
    exact hStopped (hLife ▸ hState)

theorem Coherent.of_no_start (hNone : ∀ call pending, s'.calls.get call = some pending →
    ¬ pending.OfStart) (hOpened : s'.opened = s'.streams)
    (hStopped : s'.lifecycle = .stopped → s'.registry.entries = []) : Coherent s' where
  opened := hOpened
  starting := fun call pending hGet hStart => absurd hStart (hNone call pending hGet)
  alone := fun call _ pending _ hGet _ hStart => absurd hStart (hNone call pending hGet)
  stopped := hStopped

theorem register_registry_of_stopped (managed : ManagedClient)
    (hStopped : s.lifecycle = .stopped) : (s.register managed).registry = s.registry := by
  unfold CoreState.register
  rw [if_neg (by simp [hStopped])]

theorem register_streams (s : CoreState) (managed : ManagedClient) :
    (s.register managed).streams = s.streams ∧ (s.register managed).opened = s.opened := by
  unfold CoreState.register
  split <;> exact ⟨rfl, rfl⟩

theorem delete_entries {m : AssocMap String ManagedClient} {key : String}
    (h : m.entries = []) : (m.delete key).entries = [] := by
  simp [AssocMap.delete, h]

theorem coherent_move (h : Coherent s) (hMove : CoreMove s event s') : Coherent s' := by
  have hNoStart : s.lifecycle ≠ .starting → CallsKept s s' → ∀ call pending,
      s'.calls.get call = some pending → ¬ pending.OfStart := by
    intro hState hCalls call pending hGet hStart
    obtain ⟨before, hBefore, hWas⟩ := hCalls call pending hGet hStart
    exact hState (h.starting call before hBefore hWas)
  cases hMove with
  | stays hSame hCalls =>
    refine h.of_kept hSame.lifecycle hCalls ?_ ?_
    · rw [hSame.opened, hSame.streams, h.opened]
    · rw [hSame.registry]
      exact h.stopped
  | registers managed hSame hCalls =>
    obtain ⟨hStreams, hOpened⟩ := register_streams s managed
    refine h.of_kept ?_ hCalls ?_ ?_
    · rw [hSame.lifecycle, register_lifecycle]
    · rw [hSame.opened, hSame.streams, hStreams, hOpened, h.opened]
    · intro hStopped
      rw [hSame.registry, register_registry_of_stopped managed hStopped]
      exact h.stopped hStopped
  | opens kind hPending hAsked hSame hCalls =>
    refine h.of_kept hSame.lifecycle hCalls ?_ ?_
    · rw [hSame.opened, hSame.streams]
      show s.opened ++ _ = s.streams ++ _
      rw [h.opened]
    · rw [hSame.registry]
      exact h.stopped
  | detaches identityId hSame hCalls =>
    refine h.of_kept hSame.lifecycle hCalls ?_ ?_
    · rw [hSame.opened, hSame.streams, detach_opened h.opened]
    · intro hStopped
      rw [hSame.registry]
      exact delete_entries (h.stopped hStopped)
  | goesLocal hBefore hSame hCalls =>
    refine .of_no_start (hNoStart (by simp [hBefore]) hCalls) ?_ ?_
    · rw [hSame.opened, hSame.streams]
      exact h.opened
    · rw [hSame.lifecycle]
      nofun
  | starts hBefore hSame hCalls =>
    have hFresh : ∀ call pending, s'.calls.get call = some pending → pending.OfStart →
        call = s.begun := by
      intro call pending hGet hStart
      rcases hCalls call pending hGet hStart with hNew | ⟨before, hGet', hWas⟩
      · exact hNew
      · have hState := h.starting call before hGet' hWas
        rcases hBefore with hIdle | hLocal
        · rw [hIdle] at hState
          cases hState
        · rw [hLocal] at hState
          cases hState
    exact {
      opened := by
        rw [hSame.opened, hSame.streams]
        exact h.opened
      starting := fun _ _ _ _ => hSame.lifecycle
      alone := fun one two pending pending' hOne hTwo hStart hStart' =>
        (hFresh one pending hOne hStart).trans (hFresh two pending' hTwo hStart').symm
      stopped := by
        rw [hSame.lifecycle]
        nofun }
  | runs hPending hStart hSame hCalls =>
    refine .of_no_start (fun _ _ => h.no_start hPending hStart hCalls) ?_ ?_
    · rw [hSame.opened, hSame.streams]
      exact h.opened
    · rw [hSame.lifecycle]
      nofun
  | fails fallback hPending hStart hSame hCalls =>
    refine .of_no_start (fun _ _ => h.no_start hPending hStart hCalls) ?_ ?_
    · rw [hSame.opened, hSame.streams]
      exact resetStartupArtifacts_opened h.opened
    · intro _
      rw [hSame.registry]
      rfl
  | stops hBefore hSame hCalls =>
    have hState : s.lifecycle ≠ .starting := by
      rcases hBefore with hState | hState | hState <;> rw [hState] <;> decide
    refine .of_no_start (hNoStart hState hCalls) ?_ ?_
    · rw [hSame.opened, hSame.streams]
      exact resetStartupArtifacts_opened h.opened
    · intro _
      rw [hSame.registry]
      rfl

theorem stopped_move (h : Coherent s) (hMove : CoreMove s event s')
    (hStopped : s.lifecycle = .stopped) : s'.lifecycle = .stopped := by
  have hNone : ∀ {call pending}, s.calls.get call = some pending → ¬ pending.OfStart := by
    intro call pending hGet hStart
    have hState := h.starting call pending hGet hStart
    rw [hStopped] at hState
    cases hState
  cases hMove with
  | stays hSame hCalls => rw [hSame.lifecycle, hStopped]
  | registers managed hSame hCalls => rw [hSame.lifecycle, register_lifecycle, hStopped]
  | opens kind hPending hAsked hSame hCalls =>
    rw [hSame.lifecycle]
    exact hStopped
  | detaches identityId hSame hCalls =>
    rw [hSame.lifecycle]
    exact hStopped
  | goesLocal hBefore hSame hCalls =>
    rw [hStopped] at hBefore
    cases hBefore
  | starts hBefore hSame hCalls => simp [hStopped] at hBefore
  | runs hPending hStart hSame hCalls => exact absurd hStart (hNone hPending)
  | fails fallback hPending hStart hSame hCalls => exact absurd hStart (hNone hPending)
  | stops hBefore hSame hCalls => rw [hSame.lifecycle]

/-! ## Ownership from step to step -/

/-- Ownership rests on the open streams and the clients. -/
theorem StreamsOwned.congr (h : StreamsOwned s) (hOpened : s'.opened = s.opened)
    (hRegistry : s'.registry = s.registry) : StreamsOwned s' where
  one := by
    rw [hOpened]
    exact h.one
  owned := by
    rw [hOpened, hRegistry]
    exact h.owned

theorem StreamsOwned.of_nil (hOpened : s.opened = []) : StreamsOwned s where
  one := by simp [hOpened]
  owned := by simp [hOpened]

theorem StreamsOwned.register (h : StreamsOwned s) (managed : ManagedClient) :
    StreamsOwned (s.register managed) := by
  unfold CoreState.register
  split
  · refine ⟨h.one, ?_⟩
    intro stream hStream
    have hOwned := h.owned stream hStream
    show ((s.registry.set managed.identityId managed).get stream.identityId).isSome = true
    rw [AssocMap.get_set]
    split
    · rfl
    · exact hOwned
  · exact h

section

variable (h : StreamsOwned s) (hOpened : s.opened = s.streams) (identityId : String)

include h hOpened

theorem StreamsOwned.detach : StreamsOwned (s.detach identityId) := by
  have hRest : (s.detach identityId).opened =
      s.opened.filter fun stream => stream.identityId ≠ identityId := by
    rw [detach_opened hOpened, hOpened]
    rfl
  constructor
  · intro other
    rw [hRest]
    exact Nat.le_trans (List.Sublist.length_le (List.filter_sublist.filter _)) (h.one other)
  · intro stream hStream
    rw [hRest, List.mem_filter, decide_eq_true_iff] at hStream
    show ((s.registry.delete identityId).get stream.identityId).isSome = true
    rw [AssocMap.get_delete, if_neg hStream.2]
    exact h.owned stream hStream.1

/-- A stream comes well exactly when its client awaits it. -/
theorem streamsOwned_openStream (kind : StreamKind) :
    StreamsOwned (s.openStream identityId kind) ↔ AwaitsStream s identityId kind := by
  have hAfter : (s.openStream identityId kind).opened =
      s.opened ++ [⟨identityId, kind, s.handles⟩] := rfl
  constructor
  · intro hOwned
    refine ⟨?_, ?_⟩
    · exact hOwned.owned ⟨identityId, kind, s.handles⟩ (by rw [hAfter]; simp)
    · rintro rfl stream hStream rfl hKind
      have hOne := hOwned.one stream.identityId
      have hBefore : 0 < (s.opened.filter fun other =>
          other.identityId = stream.identityId ∧ other.kind = .messages).length := by
        apply List.length_pos_of_mem (a := stream)
        rw [List.mem_filter, hOpened]
        simp [hStream, hKind]
      rw [hAfter, List.filter_append, List.length_append] at hOne
      simp only [and_self, decide_true, List.filter_cons_of_pos, List.filter_nil,
        List.length_cons, List.length_nil] at hOne
      omega
  · rintro ⟨hClient, hFirst⟩
    constructor
    · intro other
      have hOne := h.one other
      rw [hAfter, List.filter_append, List.length_append]
      by_cases hNew : identityId = other ∧ kind = .messages
      · obtain ⟨rfl, rfl⟩ := hNew
        have hNone : (s.opened.filter fun stream =>
            stream.identityId = identityId ∧ stream.kind = .messages) = [] := by
          rw [List.filter_eq_nil_iff, hOpened]
          intro stream hStream hBoth
          rw [decide_eq_true_iff] at hBoth
          exact hFirst rfl stream hStream hBoth.1 hBoth.2
        rw [hNone]
        simp
      · rw [List.filter_cons_of_neg (by simpa using hNew)]
        simpa using hOne
    · intro stream hStream
      rw [hAfter, List.mem_append, List.mem_singleton] at hStream
      rcases hStream with hOld | rfl
      · exact h.owned stream hOld
      · exact hClient

end

theorem goOn_of_asked {host : CoreHost} {caller : HydrationCaller} {identity : AgentIdentity}
    {stage : HydrationStage} {kind : StreamKind} (hAsked : stage.asked = some kind) :
    ∃ stage', s.goOn host call (.hydrating caller identity stage) (.stream (.ok ())) =
      some ((s.openStream identity.id kind).await call (.hydrating caller identity stage')) := by
  cases stage <;> cases hAsked <;> exact ⟨_, rfl⟩

theorem streamsOwned_move (h : StreamsOwned s) (hCoherent : Coherent s)
    (hMove : CoreMove s event s') (hGuard : OpensForItsClient s event) : StreamsOwned s' := by
  cases hMove with
  | stays hSame hCalls => exact h.congr hSame.opened hSame.registry
  | registers managed hSame hCalls =>
    exact (h.register managed).congr hSame.opened hSame.registry
  | opens kind hPending hAsked hSame hCalls =>
    unfold OpensForItsClient at hGuard
    dsimp only at hGuard
    rw [hPending] at hGuard
    have hAwaits := hGuard kind hAsked
    exact ((streamsOwned_openStream h hCoherent.opened _ kind).mpr hAwaits).congr
      hSame.opened hSame.registry
  | detaches identityId hSame hCalls =>
    exact (h.detach hCoherent.opened identityId).congr hSame.opened hSame.registry
  | goesLocal hBefore hSame hCalls => exact h.congr hSame.opened hSame.registry
  | starts hBefore hSame hCalls => exact h.congr hSame.opened hSame.registry
  | runs hPending hStart hSame hCalls => exact h.congr hSame.opened hSame.registry
  | fails fallback hPending hStart hSame hCalls =>
    exact .of_nil (hSame.opened.trans (resetStartupArtifacts_opened hCoherent.opened))
  | stops hBefore hSame hCalls =>
    exact .of_nil (hSame.opened.trans (resetStartupArtifacts_opened hCoherent.opened))

theorem opensForItsClient_of_owned {host : CoreHost} (h : StreamsOwned s) (hCoherent : Coherent s)
    (hStep : coreStep host s event = some turn) (hAfter : StreamsOwned turn.1) :
    OpensForItsClient s event := by
  unfold OpensForItsClient
  split
  · next call =>
    split
    · next caller identity stage hPending =>
      intro kind hAsked
      obtain ⟨stage', hOpens⟩ := @goOn_of_asked s call host caller identity stage kind hAsked
      unfold coreStep at hStep
      dsimp only at hStep
      rw [hPending] at hStep
      obtain rfl := Option.some.inj (hOpens.symm.trans hStep)
      exact (streamsOwned_openStream h hCoherent.opened identity.id kind).mp
        (hAfter.congr rfl rfl)
    · trivial
  · trivial

/-! ## Every run -/

variable (host : CoreHost) {h : List (Occurrence CoreState CoreEvent CoreObservation)}

theorem coherent_init : Coherent (coreMachine host).init where
  opened := rfl
  starting := by
    intro call pending hGet
    change (AssocMap.empty : AssocMap Nat PendingCall).get call = some pending at hGet
    rw [AssocMap.get_empty] at hGet
    cases hGet
  alone := by
    intro call call' pending pending' hGet
    change (AssocMap.empty : AssocMap Nat PendingCall).get call = some pending at hGet
    rw [AssocMap.get_empty] at hGet
    cases hGet
  stopped := fun _ => rfl

theorem coherent_of_runs (hRun : (coreMachine host).Runs h s) : Coherent s :=
  hRun.state_invariant (coherent_init host)
    fun _ _ _ _ hCoherent hStep => coherent_move hCoherent (coreStep_move hStep)

theorem stop_ok {result : Nat} (hOk : .returned result (.done (.ok ())) ∈ s.stop.2) :
    s.stop.1.lifecycle = .stopped := by
  unfold CoreState.stop at hOk ⊢
  split
  · next hState =>
    rw [if_pos hState] at hOk
    simp [CoreState.returns] at hOk
  · rfl

/-- A core whose `stop` has returned `Ok` has stopped. -/
theorem stopped_of_stopsOk (hRun : (coreMachine host).Runs h s) :
    (∃ o ∈ h, StopsOk o) → s.lifecycle = .stopped := by
  induction hRun with
  | start => simp
  | @step earlier before after event out hRun' hTaken ih =>
    rintro ⟨o, ho, hStops⟩
    have hMove := coreStep_move hTaken
    rcases List.mem_append.mp ho with hEarlier | hLast
    · exact stopped_move (coherent_of_runs host hRun') hMove (ih ⟨o, hEarlier, hStops⟩)
    · obtain rfl := List.mem_singleton.mp hLast
      obtain ⟨hLabel, call, hOk⟩ := hStops
      dsimp only at hLabel hOk
      subst hLabel
      have hTurn : before.stop = (after, out) := Option.some.inj hTaken
      have hOut : .returned call (.done (.ok ())) ∈ before.stop.2 := by
        rw [hTurn]
        exact hOk
      have hStopped := stop_ok hOut
      rw [hTurn] at hStopped
      exact hStopped

theorem silent_of_stopped (hCoherent : Coherent s) (hOwned : StreamsOwned s)
    (hStopped : s.lifecycle = .stopped) : Silent s := by
  have hClients := hCoherent.stopped hStopped
  refine ⟨?_, hClients⟩
  rw [List.eq_nil_iff_forall_not_mem]
  intro stream hStream
  have hClient := hOwned.owned stream hStream
  simp [AssocMap.get, hClients] at hClient

/-- **The streams of the core are owned, and gone after it has stopped, exactly in the runs
in which every stream comes for a client that is registered and, where it is a message
stream, has none.** -/
theorem ownsStreams_iff (hRun : (coreMachine host).Runs h s) :
    OwnsStreams h s ↔ AllMeet OpensForItsClient h := by
  have hAlways : (∀ t ∈ visited h s, StreamsOwned t) ↔
      AllMeet OpensForItsClient h := by
    refine hRun.forall_visited_iff (.of_nil rfl) ?_
    intro earlier before event after out hBefore hOwned hStep
    have hCoherent := coherent_of_runs host hBefore
    constructor
    · exact opensForItsClient_of_owned hOwned hCoherent hStep
    · exact streamsOwned_move hOwned hCoherent (coreStep_move hStep)
  constructor
  · intro hOwns
    exact hAlways.mp hOwns.always
  · intro hMeet
    refine ⟨hAlways.mpr hMeet, ?_⟩
    rintro earlier o later rfl hStops t ht
    have hOwned : StreamsOwned t := by
      apply hAlways.mpr hMeet
      simp only [visited, List.map_append, List.map_cons, List.append_assoc,
        List.cons_append, List.mem_append, List.mem_cons]
      exact Or.inr (Or.inr (by simpa [visited] using ht))
    have hSplit : (coreMachine host).Runs ((earlier ++ [o]) ++ later) s := by
      simpa using hRun
    obtain ⟨between, hRun', -⟩ := hSplit.of_mem_visited_after ht
    have hStopped := stopped_of_stopsOk host hRun' ⟨o, by simp, hStops⟩
    exact silent_of_stopped (coherent_of_runs host hRun') hOwned hStopped

/-! ## Runs of one identity -/

def sampleHost : CoreHost := ⟨"dev", some⟩

def sampleIdentity : AgentIdentity := ⟨"identity_a", some "inbox_a"⟩

/-- The core starts without identities, and one is attached as far as its message stream. -/
def attachedUntilStream : List CoreEvent :=
  [.start, .resume 0 (.listed []), .attachPersistedIdentity "identity_a",
    .resume 1 (.found (some sampleIdentity)), .resume 1 (.dbEncryptionKey (.ok ())),
    .resume 1 (.xmtpIdentityKey (.ok "0xkey")), .resume 1 (.client (.ok "inbox_a")),
    .resume 1 (.answered (.ok ())), .resume 1 (.answered (.ok ()))]

/-- The three streams come, the attachment returns, and the core stops. -/
def attachedAndStopped : List CoreEvent :=
  attachedUntilStream ++ [.resume 1 (.stream (.ok ())), .resume 1 (.stream (.ok ())),
    .resume 1 (.stream (.ok ())), .resume 1 .resumed, .stop]

def stoppedBeforeStream : List CoreEvent :=
  attachedUntilStream ++ [.stop, .resume 1 (.stream (.ok ()))]

/-- An identity that is attached before the core stops has owned its streams. -/
theorem attached_and_stopped_owns :
    ∃ (h : List (Occurrence CoreState CoreEvent CoreObservation)) (s : CoreState),
      h.map Occurrence.label = attachedAndStopped ∧ OwnsStreams h s := by
  let M := coreMachine sampleHost
  have hSome : (M.exec M.init attachedAndStopped).isSome = true := by decide
  let run := M.outcome M.init attachedAndStopped hSome
  have hMeet : AllMeet OpensForItsClient run.1 := by decide +revert
  have hExec := exec_outcome hSome
  exact ⟨run.1, run.2, exec_labels hExec,
    (ownsStreams_iff sampleHost (runs_of_exec hExec)).mpr hMeet⟩

/-- A stream is open after the core has stopped: it came for a hydration that had been
under way. -/
theorem stream_opens_after_stop :
    ∃ (h : List (Occurrence CoreState CoreEvent CoreObservation)) (s : CoreState),
      (coreMachine sampleHost).Runs h s ∧ (∃ o ∈ h, StopsOk o) ∧
      s.opened = [⟨"identity_a", .messages, 0⟩] ∧ ¬ OwnsStreams h s := by
  let M := coreMachine sampleHost
  have hSome : (M.exec M.init stoppedBeforeStream).isSome = true := by decide
  let run := M.outcome M.init stoppedBeforeStream hSome
  have hOpen : run.2.opened = [⟨"identity_a", .messages, 0⟩] := by decide +revert
  have hForgotten : (run.2.registry.get "identity_a").isSome = false := by
    decide +revert
  have hReturned : ∃ o ∈ run.1, o.label = .stop ∧
      .returned 2 (.done (.ok ())) ∈ o.out := by decide +revert
  have hRun := runs_of_exec (exec_outcome hSome)
  obtain ⟨o, ho, hLabel, hOk⟩ := hReturned
  refine ⟨run.1, run.2, hRun, ⟨o, ho, hLabel, 2, hOk⟩, hOpen, ?_⟩
  intro hOwns
  have hOwned := (hOwns.always run.2 (mem_visited_self run.1 run.2)).owned
    ⟨"identity_a", .messages, 0⟩ (by rw [hOpen]; exact List.mem_singleton_self _)
  exact absurd hOwned (Bool.eq_false_iff.mp hForgotten)

end Core
end Signet
