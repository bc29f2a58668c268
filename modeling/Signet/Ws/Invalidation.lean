import Signet.Ws.Moves

/-!
# Invalidations and the queue of events

While an invalidation of a credential is in flight its events are queued.  For
every order of steps the events offered to a credential are those dispatched,
followed by those queued; nothing is dispatched while a lookup is in flight, and
the end of the last one dispatches the queue.

* `QueueExact` — the invariant: the queue continues what was dispatched, and the
  reference count is the number of lookups in flight.
* `SameBooks` — the steps that have nothing to do with the books.
-/

namespace Signet
namespace Ws

open Kit Schemas Sessions

variable {World : Type}

def Task.isInvalidationOf (credentialId : String) : Task → Bool
  | .invalidation credentialId' _ => credentialId' == credentialId
  | _ => false

namespace Server

/-! ## The books of a credential -/

/-- The events handed to `broadcast` for a credential, in order. -/
def offeredTo (s : Server World) (credentialId : String) : List Offered :=
  (s.offers.filter fun entry => entry.1 == credentialId).map Prod.snd

/-- Those of them whose broadcast loop has run. -/
def dispatchedTo (s : Server World) (credentialId : String) : List Offered :=
  (s.dispatched.filter fun entry => entry.1 == credentialId).map Prod.snd

/-- Those that wait for an invalidation. -/
def queued (s : Server World) (credentialId : String) : List Offered :=
  match s.pendingInvalidations.get credentialId with
  | some pending => pending.events
  | none => []

def lookupsInFlight (s : Server World) (credentialId : String) : List Nat :=
  s.tasks.refs (Task.isInvalidationOf credentialId)

variable {myGen task : Nat} {s t : Server World} {label : ServerLabel World} {credentialId : String}
  {deps : WsServerDeps World}

theorem mem_lookupsInFlight {ref : Nat} :
    ref ∈ s.lookupsInFlight credentialId ↔
      ∃ myGen, s.tasks.get ref = some (.invalidation credentialId myGen) := by
  unfold lookupsInFlight
  rw [Arena.mem_refs]
  constructor
  · rintro ⟨task, hTask, hIs⟩
    cases task with
    | invalidation credentialId' myGen =>
      have hEq : credentialId' = credentialId := by simpa [Task.isInvalidationOf] using hIs
      exact ⟨myGen, by rw [hTask, hEq]⟩
    | _ => cases hIs
  · rintro ⟨myGen, hTask⟩
    exact ⟨_, hTask, by simp [Task.isInvalidationOf]⟩

/-- The books of broadcasts and invalidations are the same. -/
structure SameBooks (s t : Server World) : Prop where
  offers : t.offers = s.offers
  dispatched : t.dispatched = s.dispatched
  pendingInvalidations : t.pendingInvalidations = s.pendingInvalidations
  invalidationGen : t.invalidationGen = s.invalidationGen
  invalidations : ∀ task credentialId myGen,
    t.tasks.get task = some (.invalidation credentialId myGen) ↔
      s.tasks.get task = some (.invalidation credentialId myGen)

theorem SameBooks.refl (s : Server World) : SameBooks s s :=
  ⟨rfl, rfl, rfl, rfl, fun _ _ _ => Iff.rfl⟩

theorem SameBooks.trans {u : Server World} (h : SameBooks s t) (h' : SameBooks t u) :
    SameBooks s u :=
  ⟨h'.offers.trans h.offers, h'.dispatched.trans h.dispatched,
    h'.pendingInvalidations.trans h.pendingInvalidations,
    h'.invalidationGen.trans h.invalidationGen,
    fun task credentialId myGen => (h'.invalidations task credentialId myGen).trans
      (h.invalidations task credentialId myGen)⟩

theorem Quiet.sameBooks (h : Quiet s t) : SameBooks s t :=
  ⟨h.offers, h.dispatched, h.pendingInvalidations, h.invalidationGen, h.invalidations⟩

theorem sameBooks_sendJson (s : Server World) (id : Nat) (frame : ServerFrame) :
    SameBooks s (s.sendJson id frame) :=
  ⟨rfl, rfl, rfl, rfl, fun _ _ _ => Iff.rfl⟩

theorem Sends.sameBooks {records : Nat → CredentialRecord → Prop} {l : List (Sending World)}
    (h : Sends records s l t) : SameBooks s t := by
  induction h with
  | quiet hWrites => exact hWrites.quiet.sameBooks
  | send hWrites _ _ ih =>
    refine hWrites.quiet.sameBooks.trans (SameBooks.trans ?_ ih)
    exact ⟨rfl, rfl, rfl, rfl, fun _ _ _ => Iff.rfl⟩

theorem sameBooks_sendReplay (id : Nat) (frames : List SequencedFrame) (s : Server World) :
    SameBooks s (s.sendReplay id frames) := by
  induction frames generalizing s with
  | nil => exact SameBooks.refl s
  | cons frame frames ih => exact (s.sameBooks_sendJson id (.sequenced frame)).trans (ih _)

theorem sameBooks_finishHandshake (deps : WsServerDeps World) (now : Int) (s : Server World)
    (handshake : Handshake) : SameBooks s (s.finishHandshake deps now handshake) := by
  unfold finishHandshake
  dsimp only
  generalize ServerFrame.authenticated _ _ _ _ = greeting
  have hGreeted := s.sameBooks_sendJson handshake.conn greeting
  generalize s.sendJson handshake.conn greeting = u at hGreeted
  refine hGreeted.trans (SameBooks.trans ?_ (quiet_startHeartbeat _ _).sameBooks)
  split
  · have hSends : Sends (fun _ _ => False) u
        (u.ifAttached ⟨handshake.conn, .signetRecoveryComplete now, .recovery⟩)
        (u.sendSequenced deps handshake.conn (.signetRecoveryComplete now) .recovery) :=
      sends_sendSequenced deps u handshake.conn _ _
    exact Sends.sameBooks hSends
  · exact sameBooks_sendReplay _ _ _

theorem sameBooks_beginHandshake (deps : WsServerDeps World) (s : Server World) (id : Nat)
    (authFrame : AuthFrame) (credential : CredentialRecord) :
    SameBooks s (s.beginHandshake deps id authFrame credential) := by
  have hCreated : ∀ t : Server World, SameBooks t
      (t.getOrCreateCredentialState deps credential.credentialId).1 := by
    intro t
    unfold getOrCreateCredentialState
    split
    · exact SameBooks.refl t
    · exact ⟨rfl, rfl, rfl, rfl, fun _ _ _ => Iff.rfl⟩
  have hSpawned : ∀ (t : Server World) (handshake : Handshake),
      SameBooks t (t.spawn (.authFingerprint handshake)) := by
    intro t handshake
    refine ⟨rfl, rfl, rfl, rfl, fun task credentialId myGen => ?_⟩
    exact t.tasks_spawn (by intro hEq; cases hEq) task
  have hActivated : SameBooks s (s.modifyData id (activate credential)) :=
    ⟨rfl, rfl, rfl, rfl, fun _ _ _ => Iff.rfl⟩
  unfold beginHandshake
  refine SameBooks.trans ?_ (hSpawned _ _)
  refine (hActivated.trans (hCreated _)).trans ?_
  exact ⟨rfl, rfl, rfl, rfl, fun _ _ _ => Iff.rfl⟩

/-! ## The invariant -/

/-- The queue continues what was dispatched, and the reference count is the
number of lookups in flight.  Tickets number the offers, generations the
invalidations. -/
structure QueueExact (s : Server World) : Prop where
  offered : ∀ credentialId,
    s.offeredTo credentialId = s.dispatchedTo credentialId ++ s.queued credentialId
  idle : ∀ credentialId, s.pendingInvalidations.get credentialId = none →
    s.lookupsInFlight credentialId = []
  counted : ∀ credentialId pending, s.pendingInvalidations.get credentialId = some pending →
    pending.refcount = (s.lookupsInFlight credentialId).length ∧ 0 < pending.refcount
  tickets : s.offers.map (fun entry => entry.2.ticket) = List.range s.offers.length
  generations : ∀ task credentialId myGen,
    s.tasks.get task = some (.invalidation credentialId myGen) → myGen ≤ s.invalidationGen
  distinct : ∀ task task' credentialId credentialId' myGen,
    s.tasks.get task = some (.invalidation credentialId myGen) →
      s.tasks.get task' = some (.invalidation credentialId' myGen) → task = task'
  latest : ∀ credentialId pending, s.pendingInvalidations.get credentialId = some pending →
    pending.generation ≤ s.invalidationGen

theorem queueExact_create : QueueExact (Server.create : Server World) := by
  constructor
  · intro credentialId
    rfl
  · intro credentialId _
    rfl
  · intro credentialId pending hPending
    cases hPending
  · rfl
  · intro task credentialId myGen hTask
    cases hTask
  · intro task task' credentialId credentialId' myGen hTask
    cases hTask
  · intro credentialId pending hPending
    cases hPending

theorem SameBooks.lookups (h : SameBooks s t) (credentialId : String) :
    (t.lookupsInFlight credentialId).Perm (s.lookupsInFlight credentialId) := by
  refine Arena.refs_perm fun ref => ?_
  show ref ∈ t.lookupsInFlight credentialId ↔ ref ∈ s.lookupsInFlight credentialId
  rw [mem_lookupsInFlight, mem_lookupsInFlight]
  simp only [h.invalidations]

theorem QueueExact.sameBooks (hExact : QueueExact s) (h : SameBooks s t) :
    QueueExact t where
  offered := by
    intro credentialId
    unfold offeredTo dispatchedTo queued
    rw [h.offers, h.dispatched, h.pendingInvalidations]
    exact hExact.offered credentialId
  idle := by
    intro credentialId hNone
    rw [h.pendingInvalidations] at hNone
    have hPerm := h.lookups credentialId
    rw [hExact.idle credentialId hNone] at hPerm
    exact hPerm.eq_nil
  counted := by
    intro credentialId pending hPending
    rw [h.pendingInvalidations] at hPending
    rw [(h.lookups credentialId).length_eq]
    exact hExact.counted credentialId pending hPending
  tickets := by
    rw [h.offers]
    exact hExact.tickets
  generations := by
    intro task credentialId myGen hTask
    rw [h.invalidationGen]
    exact hExact.generations task credentialId myGen ((h.invalidations _ _ _).mp hTask)
  distinct := by
    intro task task' credentialId credentialId' myGen hTask hTask'
    exact hExact.distinct task task' credentialId credentialId' myGen
      ((h.invalidations _ _ _).mp hTask) ((h.invalidations _ _ _).mp hTask')
  latest := by
    intro credentialId pending hPending
    rw [h.pendingInvalidations] at hPending
    rw [h.invalidationGen]
    exact hExact.latest credentialId pending hPending

/-! ## The steps of the books -/

theorem filter_snoc (l : List (String × Offered)) (credentialId credentialId' : String)
    (offered : Offered) :
    ((l ++ [(credentialId', offered)]).filter fun entry => entry.1 == credentialId).map Prod.snd =
      (l.filter fun entry => entry.1 == credentialId).map Prod.snd ++
        (if credentialId' = credentialId then [offered] else []) := by
  by_cases hEq : credentialId' = credentialId
  · simp [hEq]
  · simp [hEq]

theorem filter_queue (events : List Offered) (credentialId credentialId' : String) :
    ((events.map fun offered => (credentialId', offered)).filter fun entry =>
        entry.1 == credentialId).map Prod.snd =
      if credentialId' = credentialId then events else [] := by
  by_cases hEq : credentialId' = credentialId
  · simp [hEq, List.filter_map, Function.comp_def]
  · simp [hEq, List.filter_map, Function.comp_def]

theorem tickets_snoc {l : List (String × Offered)}
    (h : l.map (fun entry => entry.2.ticket) = List.range l.length) (credentialId : String)
    (event : SignetEvent) :
    (l ++ [(credentialId, (⟨l.length, event⟩ : Offered))]).map (fun entry => entry.2.ticket) =
      List.range (l ++ [(credentialId, (⟨l.length, event⟩ : Offered))]).length := by
  rw [List.map_append, h, List.length_append, List.length_singleton, List.range_succ]
  rfl

theorem QueueExact.queue (hExact : QueueExact s) {pending : PendingInvalidation}
    (hPending : s.pendingInvalidations.get credentialId = some pending) (event : SignetEvent) :
    QueueExact { s with
      offers := s.offers ++ [(credentialId, ⟨s.offers.length, event⟩)]
      pendingInvalidations := s.pendingInvalidations.set credentialId
        { pending with events := pending.events ++ [⟨s.offers.length, event⟩] } } where
  offered := by
    intro credentialId'
    have hBefore := hExact.offered credentialId'
    unfold offeredTo dispatchedTo queued at hBefore ⊢
    dsimp only
    rw [filter_snoc, hBefore, AssocMap.get_set]
    by_cases hEq : credentialId' = credentialId
    · subst hEq
      simp [hPending]
    · rw [if_neg (Ne.symm hEq), if_neg hEq, List.append_nil]
  idle := by
    intro credentialId' hNone
    dsimp only at hNone
    rw [AssocMap.get_set] at hNone
    split at hNone
    · cases hNone
    · exact hExact.idle credentialId' hNone
  counted := by
    intro credentialId' pending' hPending'
    dsimp only at hPending'
    rcases AssocMap.get_set_cases hPending' with ⟨hEq, rfl⟩ | ⟨-, hPending'⟩
    · rw [hEq]
      exact hExact.counted credentialId pending hPending
    · exact hExact.counted credentialId' pending' hPending'
  tickets := tickets_snoc hExact.tickets credentialId event
  generations := hExact.generations
  distinct := hExact.distinct
  latest := by
    intro credentialId' pending' hPending'
    dsimp only at hPending'
    rcases AssocMap.get_set_cases hPending' with ⟨-, rfl⟩ | ⟨-, hPending'⟩
    · exact hExact.latest credentialId pending hPending
    · exact hExact.latest credentialId' pending' hPending'

theorem QueueExact.dispatch (hExact : QueueExact s)
    (hDirect : s.pendingInvalidations.get credentialId = none) (event : SignetEvent) :
    QueueExact { s with
      offers := s.offers ++ [(credentialId, ⟨s.offers.length, event⟩)]
      dispatched := s.dispatched ++ [(credentialId, ⟨s.offers.length, event⟩)] } where
  offered := by
    intro credentialId'
    have hBefore := hExact.offered credentialId'
    unfold offeredTo dispatchedTo queued at hBefore ⊢
    dsimp only
    rw [filter_snoc, filter_snoc, hBefore]
    by_cases hEq : credentialId' = credentialId
    · subst hEq
      simp [hDirect]
    · simp [Ne.symm hEq]
  idle := hExact.idle
  counted := hExact.counted
  tickets := tickets_snoc hExact.tickets credentialId event
  generations := hExact.generations
  distinct := hExact.distinct
  latest := hExact.latest

/-- What an invalidation starts with: one more lookup, of the highest generation. -/
theorem lookups_invalidateCredential (s : Server World) (credentialId credentialId' : String) :
    ((s.invalidateCredential credentialId).lookupsInFlight credentialId').Perm
      (if credentialId' = credentialId then s.tasks.next :: s.lookupsInFlight credentialId'
        else s.lookupsInFlight credentialId') := by
  have hTasks : ∀ ref task, (s.invalidateCredential credentialId).tasks.get ref = some task ↔
      if ref = s.tasks.next then
        task = .invalidation credentialId (s.invalidationGen + 1)
      else s.tasks.get ref = some task := by
    intro ref task
    unfold invalidateCredential
    simp only [spawn, Arena.get_alloc]
    split
    · rw [Option.some.injEq, eq_comm]
    · rfl
  have hNew : s.tasks.next ∉ s.lookupsInFlight credentialId' := by
    rw [mem_lookupsInFlight]
    rintro ⟨myGen, hTask⟩
    rw [Arena.get_next] at hTask
    cases hTask
  by_cases hEq : credentialId' = credentialId
  · rw [if_pos hEq]
    refine Arena.refs_perm_cons hNew fun ref => ?_
    show ref ∈ (s.invalidateCredential credentialId).lookupsInFlight credentialId' ↔
      ref = s.tasks.next ∨ ref ∈ s.lookupsInFlight credentialId'
    rw [mem_lookupsInFlight, mem_lookupsInFlight]
    by_cases hRef : ref = s.tasks.next
    · simp [hTasks, hRef, hEq]
    · simp [hTasks, hRef]
  · rw [if_neg hEq]
    refine Arena.refs_perm fun ref => ?_
    show ref ∈ (s.invalidateCredential credentialId).lookupsInFlight credentialId' ↔
      ref ∈ s.lookupsInFlight credentialId'
    rw [mem_lookupsInFlight, mem_lookupsInFlight]
    by_cases hRef : ref = s.tasks.next
    · rw [hRef]
      simp [hTasks, hEq]
    · simp [hTasks, hRef]

theorem QueueExact.invalidate (hExact : QueueExact s) (credentialId : String) :
    QueueExact (s.invalidateCredential credentialId) where
  offered := by
    intro credentialId'
    have hBefore := hExact.offered credentialId'
    unfold offeredTo dispatchedTo queued at hBefore ⊢
    unfold invalidateCredential
    dsimp only [spawn]
    rw [hBefore, AssocMap.get_set]
    by_cases hEq : credentialId' = credentialId
    · subst hEq
      rw [if_pos rfl]
      cases s.pendingInvalidations.get credentialId' <;> rfl
    · rw [if_neg hEq]
  idle := by
    intro credentialId' hNone
    have hPerm := s.lookups_invalidateCredential credentialId credentialId'
    unfold invalidateCredential at hNone
    dsimp only [spawn] at hNone
    rw [AssocMap.get_set] at hNone
    split at hNone
    · cases hNone
    · next hEq =>
      rw [if_neg hEq, hExact.idle credentialId' hNone] at hPerm
      exact hPerm.eq_nil
  counted := by
    intro credentialId' pending hPending
    rw [(s.lookups_invalidateCredential credentialId credentialId').length_eq]
    unfold invalidateCredential at hPending
    dsimp only [spawn] at hPending
    rw [AssocMap.get_set] at hPending
    split at hPending
    · next hEq =>
      rw [if_pos hEq, List.length_cons, hEq]
      cases hExisting : s.pendingInvalidations.get credentialId with
      | none =>
        rw [hExisting] at hPending
        cases hPending
        rw [hExact.idle credentialId hExisting]
        exact ⟨rfl, Nat.one_pos⟩
      | some existing =>
        rw [hExisting] at hPending
        cases hPending
        obtain ⟨hCount, -⟩ := hExact.counted credentialId existing hExisting
        exact ⟨congrArg (· + 1) hCount, Nat.succ_pos _⟩
    · next hEq =>
      rw [if_neg hEq]
      exact hExact.counted credentialId' pending hPending
  tickets := hExact.tickets
  generations := by
    intro task credentialId' myGen hTask
    unfold invalidateCredential at hTask
    simp only [spawn, Arena.get_alloc] at hTask
    show myGen ≤ s.invalidationGen + 1
    split at hTask
    · cases hTask
      exact Nat.le_refl _
    · exact Nat.le_succ_of_le (hExact.generations task credentialId' myGen hTask)
  distinct := by
    intro task task' credentialId₁ credentialId₂ myGen hTask hTask'
    unfold invalidateCredential at hTask hTask'
    simp only [spawn, Arena.get_alloc] at hTask hTask'
    -- the new generation is above those in flight
    split at hTask
    · next hRef =>
      split at hTask'
      · next hRef' => rw [hRef, hRef']
      · cases hTask
        have hLe := hExact.generations task' credentialId₂ _ hTask'
        omega
    · split at hTask'
      · cases hTask'
        have hLe := hExact.generations task credentialId₁ _ hTask
        omega
      · exact hExact.distinct task task' credentialId₁ credentialId₂ myGen hTask hTask'
  latest := by
    intro credentialId' pending hPending
    show pending.generation ≤ s.invalidationGen + 1
    unfold invalidateCredential at hPending
    dsimp only [spawn] at hPending
    rw [AssocMap.get_set] at hPending
    split at hPending
    · split at hPending
      · cases hPending
        exact Nat.le_refl _
      · cases hPending
        exact Nat.le_refl _
    · exact Nat.le_succ_of_le (hExact.latest credentialId' pending hPending)

/-- The events of a queue are dispatched in their order, and nothing else of the
books changes. -/
theorem books_drain (deps : WsServerDeps World) (world : World) (events : List Offered)
    (hDirect : s.pendingInvalidations.get credentialId = none) :
    SameBooks { s with dispatched := s.dispatched ++ events.map fun offered =>
        (credentialId, offered) }
      (events.foldl
        (fun s offered => s.broadcastToCredential deps world credentialId offered) s) := by
  induction events generalizing s with
  | nil =>
    simp only [List.map_nil, List.append_nil]
    exact SameBooks.refl s
  | cons offered events ih =>
    have hSends : Sends (fun _ _ => False)
        { s with dispatched := s.dispatched ++ [(credentialId, offered)] }
        (s.broadcastSendings deps world credentialId offered)
        (s.broadcastToCredential deps world credentialId offered) :=
      sends_broadcastToCredential deps world offered hDirect
    have hFirst := Sends.sameBooks hSends
    have hRest := ih (s := s.broadcastToCredential deps world credentialId offered)
      (by rw [hFirst.pendingInvalidations]; exact hDirect)
    refine SameBooks.trans ?_ hRest
    refine ⟨hFirst.offers, ?_, hFirst.pendingInvalidations, hFirst.invalidationGen,
      hFirst.invalidations⟩
    dsimp only
    rw [hFirst.dispatched]
    simp

theorem lookups_take (hTask : s.tasks.get task = some (.invalidation credentialId myGen))
    (credentialId' : String) :
    (s.lookupsInFlight credentialId').Perm
      (if credentialId' = credentialId then task :: (s.take task).lookupsInFlight credentialId'
        else (s.take task).lookupsInFlight credentialId') := by
  have hGone : task ∉ (s.take task).lookupsInFlight credentialId' := by
    rw [mem_lookupsInFlight]
    rintro ⟨myGen', hTask'⟩
    simp [take] at hTask'
  by_cases hEq : credentialId' = credentialId
  · rw [if_pos hEq]
    refine Arena.refs_perm_cons hGone fun ref => ?_
    show ref ∈ s.lookupsInFlight credentialId' ↔
      ref = task ∨ ref ∈ (s.take task).lookupsInFlight credentialId'
    rw [mem_lookupsInFlight, mem_lookupsInFlight]
    by_cases hRef : ref = task
    · simp [hRef, hTask, hEq]
    · simp [take, hRef]
  · rw [if_neg hEq]
    refine Arena.refs_perm fun ref => ?_
    show ref ∈ s.lookupsInFlight credentialId' ↔ ref ∈ (s.take task).lookupsInFlight credentialId'
    rw [mem_lookupsInFlight, mem_lookupsInFlight]
    by_cases hRef : ref = task
    · simp [take, hRef, hTask, Ne.symm hEq]
    · simp [take, hRef]

/-- The books after the end of a lookup: the last one dispatches the queue. -/
def released (s : Server World) (task : Nat) (credentialId : String)
    (entry : PendingInvalidation) : Server World :=
  if entry.refcount - 1 ≤ 0 then
    { s.take task with
      pendingInvalidations := s.pendingInvalidations.delete credentialId
      dispatched := s.dispatched ++ entry.events.map fun offered => (credentialId, offered) }
  else
    { s.take task with
      pendingInvalidations := s.pendingInvalidations.set credentialId
        { entry with refcount := entry.refcount - 1 } }

theorem sameBooks_released (deps : WsServerDeps World) (world : World) {v : Server World}
    {entry : PendingInvalidation} (hBooks : SameBooks (s.take task) v)
    (hEntry : s.pendingInvalidations.get credentialId = some entry) :
    SameBooks (s.released task credentialId entry)
      (v.releaseInvalidation deps world credentialId) := by
  have hPending : v.pendingInvalidations.get credentialId = some entry := by
    rw [hBooks.pendingInvalidations]
    exact hEntry
  unfold releaseInvalidation released
  rw [hPending]
  dsimp only
  split
  · refine SameBooks.trans ?_ (books_drain deps world entry.events (by simp))
    refine ⟨hBooks.offers, ?_, ?_, hBooks.invalidationGen, hBooks.invalidations⟩
    · exact congrArg (· ++ _) hBooks.dispatched
    · exact congrArg (AssocMap.delete · credentialId) hBooks.pendingInvalidations
  · refine ⟨hBooks.offers, hBooks.dispatched, ?_, hBooks.invalidationGen, hBooks.invalidations⟩
    exact congrArg (AssocMap.set · credentialId _) hBooks.pendingInvalidations

theorem QueueExact.released (hExact : QueueExact s) {entry : PendingInvalidation}
    (hTask : s.tasks.get task = some (.invalidation credentialId myGen))
    (hEntry : s.pendingInvalidations.get credentialId = some entry) :
    QueueExact (s.released task credentialId entry) := by
  obtain ⟨hCount, hPos⟩ := hExact.counted credentialId entry hEntry
  have hSelf := s.lookups_take hTask credentialId
  rw [if_pos rfl] at hSelf
  have hOld : ∀ ref task', (s.take task).tasks.get ref = some task' →
      s.tasks.get ref = some task' := by
    intro ref task' hGet
    simp only [take, Arena.get_free] at hGet
    split at hGet
    · cases hGet
    · exact hGet
  have hOther : ∀ credentialId', credentialId' ≠ credentialId →
      (s.lookupsInFlight credentialId').Perm ((s.take task).lookupsInFlight credentialId') := by
    intro credentialId' hNe
    have hPerm := s.lookups_take hTask credentialId'
    rwa [if_neg hNe] at hPerm
  unfold Server.released
  split
  · next hLast =>
    refine ⟨?_, ?_, ?_, hExact.tickets, ?_, ?_, ?_⟩
    · intro credentialId'
      have hBefore := hExact.offered credentialId'
      unfold offeredTo dispatchedTo queued at hBefore ⊢
      dsimp only [take]
      rw [AssocMap.get_delete]
      by_cases hEq : credentialId' = credentialId
      · subst hEq
        rw [hBefore, hEntry, if_pos rfl, List.append_nil, List.filter_append, List.map_append,
          filter_queue, if_pos rfl]
      · rw [if_neg hEq, List.filter_append, List.map_append, filter_queue, if_neg (Ne.symm hEq),
          List.append_nil]
        exact hBefore
    · intro credentialId' hNone
      dsimp only at hNone
      rw [AssocMap.get_delete] at hNone
      show (s.take task).lookupsInFlight credentialId' = []
      by_cases hEq : credentialId' = credentialId
      · rw [hEq]
        apply List.eq_nil_of_length_eq_zero
        have hLength := hSelf.length_eq
        rw [List.length_cons] at hLength
        omega
      · rw [if_neg hEq] at hNone
        have hPerm := hOther credentialId' hEq
        rw [hExact.idle credentialId' hNone] at hPerm
        exact hPerm.symm.eq_nil
    · intro credentialId' pending hPending
      dsimp only at hPending
      obtain ⟨hEq, hPending⟩ := AssocMap.of_get_delete hPending
      show pending.refcount = ((s.take task).lookupsInFlight credentialId').length ∧ _
      rw [← (hOther credentialId' hEq).length_eq]
      exact hExact.counted credentialId' pending hPending
    · exact fun ref credentialId' myGen' hGet => hExact.generations ref _ _ (hOld ref _ hGet)
    · exact fun ref ref' c c' g hGet hGet' =>
        hExact.distinct ref ref' c c' g (hOld ref _ hGet) (hOld ref' _ hGet')
    · intro credentialId' pending hPending
      dsimp only at hPending
      obtain ⟨-, hPending⟩ := AssocMap.of_get_delete hPending
      exact hExact.latest credentialId' pending hPending
  · next hMore =>
    refine ⟨?_, ?_, ?_, hExact.tickets, ?_, ?_, ?_⟩
    · intro credentialId'
      have hBefore := hExact.offered credentialId'
      unfold offeredTo dispatchedTo queued at hBefore ⊢
      dsimp only [take]
      rw [AssocMap.get_set, hBefore]
      by_cases hEq : credentialId' = credentialId
      · rw [if_pos hEq, hEq, hEntry]
      · rw [if_neg hEq]
    · intro credentialId' hNone
      dsimp only at hNone
      rw [AssocMap.get_set] at hNone
      split at hNone
      · cases hNone
      · next hEq =>
        have hPerm := hOther credentialId' hEq
        rw [hExact.idle credentialId' hNone] at hPerm
        exact hPerm.symm.eq_nil
    · intro credentialId' pending hPending
      show pending.refcount = ((s.take task).lookupsInFlight credentialId').length ∧ _
      dsimp only at hPending
      rcases AssocMap.get_set_cases hPending with ⟨hEq, rfl⟩ | ⟨hEq, hPending⟩
      · have hLength := hSelf.length_eq
        rw [List.length_cons] at hLength
        rw [hEq]
        dsimp only
        omega
      · rw [← (hOther credentialId' hEq).length_eq]
        exact hExact.counted credentialId' pending hPending
    · exact fun ref credentialId' myGen' hGet => hExact.generations ref _ _ (hOld ref _ hGet)
    · exact fun ref ref' c c' g hGet hGet' =>
        hExact.distinct ref ref' c c' g (hOld ref _ hGet) (hOld ref' _ hGet')
    · intro credentialId' pending hPending
      dsimp only at hPending
      rcases AssocMap.get_set_cases hPending with ⟨-, rfl⟩ | ⟨-, hPending⟩
      · exact hExact.latest credentialId entry hEntry
      · exact hExact.latest credentialId' pending hPending

/-! ## Runs -/

inductive BookStep (s : Server World) (label : ServerLabel World) (t : Server World) : Prop
  | same (hBooks : SameBooks s t)
  | queue (credentialId : String) (event : SignetEvent) (pending : PendingInvalidation)
      (hEvent : label.event = .broadcast credentialId event)
      (hPending : s.pendingInvalidations.get credentialId = some pending)
      (hBooks : SameBooks { s with
        offers := s.offers ++ [(credentialId, ⟨s.offers.length, event⟩)]
        pendingInvalidations := s.pendingInvalidations.set credentialId
          { pending with events := pending.events ++ [⟨s.offers.length, event⟩] } } t)
  | dispatch (credentialId : String) (event : SignetEvent)
      (hEvent : label.event = .broadcast credentialId event)
      (hDirect : s.pendingInvalidations.get credentialId = none)
      (hBooks : SameBooks { s with
        offers := s.offers ++ [(credentialId, ⟨s.offers.length, event⟩)]
        dispatched := s.dispatched ++ [(credentialId, ⟨s.offers.length, event⟩)] } t)
  | invalidate (credentialId : String) (hEvent : label.event = .invalidate credentialId)
      (hState : t = s.invalidateCredential credentialId)
  | release (task : Nat) (credentialId : String) (myGen : Nat)
      (result : Option (Except SignetError CredentialRecord)) (entry : PendingInvalidation)
      (hEvent : label.event = .credentialLookedUp task result)
      (hTask : s.tasks.get task = some (.invalidation credentialId myGen))
      (hEntry : s.pendingInvalidations.get credentialId = some entry)
      (hBooks : SameBooks (s.released task credentialId entry) t)

theorem QueueExact.entry (hExact : QueueExact s)
    (hTask : s.tasks.get task = some (.invalidation credentialId myGen)) :
    ∃ entry, s.pendingInvalidations.get credentialId = some entry := by
  cases hEntry : s.pendingInvalidations.get credentialId with
  | some entry => exact ⟨entry, rfl⟩
  | none =>
    have hMem : task ∈ s.lookupsInFlight credentialId := mem_lookupsInFlight.mpr ⟨myGen, hTask⟩
    rw [hExact.idle credentialId hEntry] at hMem
    cases hMem

theorem bookStep_broadcast (deps : WsServerDeps World) {event : SignetEvent}
    (hEvent : label.event = .broadcast credentialId event)
    (hState : t = s.broadcast deps label.world credentialId event) : BookStep s label t := by
  cases hPending : s.pendingInvalidations.get credentialId with
  | some pending =>
    apply BookStep.queue credentialId event pending hEvent hPending
    rw [hState]
    unfold broadcast broadcastToCredential
    dsimp only
    rw [hPending]
    exact SameBooks.refl _
  | none =>
    apply BookStep.dispatch credentialId event hEvent hPending
    have hSends : Sends (fun _ _ => False) _ _ _ := sends_broadcastToCredential deps label.world
      (s := { s with offers := s.offers ++ [(credentialId, ⟨s.offers.length, event⟩)] })
      ⟨s.offers.length, event⟩ hPending
    rw [hState]
    exact Sends.sameBooks hSends

/-- **What a step does to the books.** -/
theorem book_step {out : List Returned} (hExact : QueueExact s)
    (hStep : serverStep deps s label = some (t, out)) : BookStep s label t := by
  -- the end of a call that is no invalidation
  have hTaken : ∀ task pending, s.tasks.get task = some pending →
      (∀ credentialId myGen, pending ≠ .invalidation credentialId myGen) →
      SameBooks s (s.take task) := by
    intro task pending hTask hOther
    exact ⟨rfl, rfl, rfl, rfl, fun ref credentialId myGen =>
      s.tasks_take hTask ref (hOther credentialId myGen)⟩
  cases step_cases hStep with
  | sends hSends _ => exact .same (Sends.sameBooks hSends)
  | broadcast credentialId event hEvent hState => exact bookStep_broadcast deps hEvent hState
  | invalidate credentialId hEvent hState => exact .invalidate credentialId hEvent hState
  | release task credentialId myGen result hEvent hTask hState =>
    obtain ⟨entry, hEntry⟩ := hExact.entry hTask
    have hRefreshed : Writes (fun _ _ => True) (s.take task)
        ((s.take task).refreshCredential deps credentialId myGen result) :=
      writes_refreshCredential deps _ credentialId myGen result fun _ _ _ _ => trivial
    rw [hState]
    exact .release task credentialId myGen result entry hEvent hTask hEntry
      (sameBooks_released deps label.world hRefreshed.quiet.sameBooks hEntry)
  | begin task id authFrame result credential hEvent hTask hConn hAuth hState =>
    rw [hState]
    exact .same ((hTaken task _ hTask (by simp)).trans
      (sameBooks_beginHandshake deps _ id authFrame credential))
  | finish task handshake hEvent hTask hState =>
    rw [hState]
    exact .same ((hTaken task _ hTask (by simp)).trans
      (sameBooks_finishHandshake deps label.now _ handshake))
  | accept task id request credential hEvent hTask hActive hState =>
    have hAccepted := (quiet_cacheRecord (s.take task) id credential).trans
      (quiet_acceptRequest label.now _ id request credential)
    rw [hState]
    exact .same ((hTaken task _ hTask (by simp)).trans hAccepted.sameBooks)
  | reject task id frame maybeId credential hEvent hTask hFrame hState =>
    have hRejected := (quiet_cacheRecord (s.take task) id credential).trans
      (quiet_rejectFrame deps _ id maybeId)
    rw [hState]
    exact .same ((hTaken task _ hTask (by simp)).trans hRejected.sameBooks)
  | resync task id requestId response result hEvent hTask hState =>
    rw [hState]
    exact .same ((hTaken task _ hTask (by simp)).trans
      (quiet_finishResync _ id requestId response result).sameBooks)
  | flush task remaining hEvent hTask hState =>
    have hCleaned : Quiet (s.take task) (remaining.foldl cleanupConnection (s.take task)) :=
      Quiet.foldl remaining (fun t id => t.quiet_cleanupConnection id) _
    have hForgotten : SameBooks (remaining.foldl cleanupConnection (s.take task)) t := by
      rw [hState]
      exact ⟨rfl, rfl, rfl, rfl, fun _ _ _ => Iff.rfl⟩
    exact .same ((hTaken task _ hTask (by simp)).trans (hCleaned.sameBooks.trans hForgotten))

theorem queueExact_step {out : List Returned} (hExact : QueueExact s)
    (hStep : serverStep deps s label = some (t, out)) : QueueExact t := by
  cases book_step hExact hStep with
  | same hBooks => exact hExact.sameBooks hBooks
  | queue credentialId event pending hEvent hPending hBooks =>
    exact (hExact.queue hPending event).sameBooks hBooks
  | dispatch credentialId event hEvent hDirect hBooks =>
    exact (hExact.dispatch hDirect event).sameBooks hBooks
  | invalidate credentialId hEvent hState =>
    rw [hState]
    exact hExact.invalidate credentialId
  | release task credentialId myGen result entry hEvent hTask hEntry hBooks =>
    exact (hExact.released hTask hEntry).sameBooks hBooks

theorem queueExact_of_runs {h : ServerHistory World} (hRun : (serverMachine deps).Runs h s) :
    QueueExact s := by
  refine Machine.Runs.state_invariant queueExact_create ?_ hRun
  intro s label t out hExact hStep
  exact queueExact_step hExact hStep

end Server
end Ws
end Signet
