import Signet.Ws.Handshake
import Signet.Ws.Invalidation

/-!
# The snapshot an invalidation leaves

While events of a credential are queued, only the invalidation of the highest
generation writes the cached records.  When the queue is drained, every open
connection of the credential caches what the lookup of that invalidation has
answered; if its lookup was rejected, the records are as they were when it was
started.

* `Receives` — a connection a broadcast is projected for, with its record.
* `Snapshotted` — what holds from the start of an invalidation until a later one
  starts or the queue is drained.
* `invalidation_queue` — the queue and the records it is projected with.
-/

namespace Signet
namespace Ws

open Kit Machine Schemas Sessions

variable {World : Type} {deps : WsServerDeps World}

namespace Server

/-! ## Receivers -/

/-- The events of the credential are projected for the connection, with this
record. -/
def Receives (s : Server World) (credentialId : String) (id : Nat) (record : CredentialRecord) :
    Prop :=
  id ∈ s.registry ∧ ∃ c, s.connections.get id = some c ∧
    c.data.credentialId = some credentialId ∧ c.data.phase = .active ∧
    c.data.credentialRecord = some record

variable {record : CredentialRecord} {out : List Returned} {id myGen task : Nat}
  {result : Option (Except SignetError CredentialRecord)} {entry : PendingInvalidation}
  {s s₁ t : Server World} {h : ServerHistory World} {label : ServerLabel World}
  {credentialId credentialId' : String} {sending : Sending World}

theorem Receives.recordOf (h : s.Receives credentialId id record) :
    s.recordOf id = some record := by
  obtain ⟨-, c, hGet, -, -, hRecord⟩ := h
  unfold Server.recordOf
  rw [hGet]
  exact hRecord

theorem Recedes.receives {records : Nat → CredentialRecord → Prop} (h : Recedes records s t)
    (hReceives : t.Receives credentialId id record) :
    (s.Receives credentialId id record ∨ records id record) ∧
      id ∈ s.getByCredentialId credentialId ∧ (t.isOpen id = true → s.isOpen id = true) := by
  obtain ⟨hMem, c', hGet', hId, hActive, hRecord⟩ := hReceives
  have hMemOld := h.registry id hMem
  rcases h.connections id c' hGet' with ⟨c, hGet, hRecedes⟩ | ⟨hInactive, -⟩
  · have hIdOld : c.data.credentialId = some credentialId := by
      rw [← hRecedes.credentialId]
      exact hId
    refine ⟨?_, ?_, ?_⟩
    · rcases hRecedes.record with hSame | ⟨record', hSome, hAllowed⟩
      · rw [hRecord] at hSame
        exact .inl ⟨hMemOld, c, hGet, hIdOld, hRecedes.active hActive, hSame.symm⟩
      · rw [hRecord] at hSome
        cases hSome
        exact .inr hAllowed
    · rw [mem_getByCredentialId]
      refine ⟨hMemOld, ?_⟩
      unfold credentialIdOf
      rw [hGet]
      exact hIdOld
    · unfold isOpen
      rw [hGet, hGet']
      exact hRecedes.isOpen
  · exact absurd hActive hInactive

theorem receives_of_mem_sendingTo {world : World} {offered : Offered}
    (hId : id ∈ s.getByCredentialId credentialId)
    (h : sending ∈ sendingTo deps world credentialId offered s id) :
    ∃ record, sending.origin = .broadcast credentialId offered record world ∧
      s.Receives credentialId sending.conn record := by
  unfold sendingTo at h
  split at h
  · cases h
  · next credential projected hProject =>
    unfold Server.ifAttached at h
    split at h
    · rw [List.mem_singleton] at h
      subst h
      obtain ⟨c, hGet, hPhase, hRecord, -, -⟩ := projectFor_eq_some hProject
      rw [mem_getByCredentialId] at hId
      refine ⟨credential, rfl, hId.1, c, hGet, ?_, hPhase, hRecord⟩
      have hIdOf := hId.2
      unfold credentialIdOf at hIdOf
      rwa [hGet] at hIdOf
    · cases h

theorem receives_of_mem_drainSendings {world : World} (events : List Offered)
    (hDirect : s.pendingInvalidations.get credentialId = none)
    (h : sending ∈ drainSendings deps world credentialId s events) :
    ∃ offered ∈ events, ∃ record,
      sending.origin = .broadcast credentialId offered record world ∧
        s.Receives credentialId sending.conn record := by
  induction events generalizing s with
  | nil => cases h
  | cons offered events ih =>
    unfold drainSendings at h
    rcases List.mem_append.mp h with hFirst | hRest
    · unfold broadcastSendings at hFirst
      obtain ⟨id, hId, hSending⟩ := List.mem_flatMap.mp hFirst
      obtain ⟨record, hOrigin, hReceives⟩ := receives_of_mem_sendingTo hId hSending
      exact ⟨offered, List.mem_cons_self .., record, hOrigin, hReceives⟩
    · have hSends : Sends (fun _ _ => False)
          { s with dispatched := s.dispatched ++ [(credentialId, offered)] }
          (s.broadcastSendings deps world credentialId offered)
          (s.broadcastToCredential deps world credentialId offered) :=
        sends_broadcastToCredential deps world offered hDirect
      have hKept := pendingInvalidations_broadcastToCredential deps world offered hDirect
      obtain ⟨offered', hMem, record, hOrigin, hReceives⟩ :=
        ih (by rw [hKept]; exact hDirect) hRest
      refine ⟨offered', List.mem_cons_of_mem _ hMem, record, hOrigin, ?_⟩
      exact ((Sends.recedes hSends).receives hReceives).1.resolve_right id

/-! ## The refresh -/

/-- A connection that has been closed for its credential takes no frames. -/
theorem not_isOpen_closeFor {code : WsCloseCode}
    (hReceives : (s.closeFor deps id code).Receives credentialId id record) :
    (s.closeFor deps id code).isOpen id = false := by
  by_contra hNot
  have hOpen : (s.closeFor deps id code).isOpen id = true := by simpa using hNot
  have hWrites : Writes (fun _ _ => False) s (s.closeFor deps id code) :=
    writes_closeFor deps s id code
  have hBefore := (hWrites.recedes.receives hReceives).2.2 hOpen
  unfold isOpen at hBefore
  rw [Option.any_eq_true] at hBefore
  obtain ⟨c, hGet, hState⟩ := hBefore
  have hOpenState : c.socket.state = .open := by simpa [Connection.isOpen] using hState
  -- the socket is marked as closing first
  let closing := s.modifyConnection id fun c =>
    { c with socket := { c.socket with state := .closing code } }
  have hMarked : closing.isOpen id = false := by
    unfold isOpen
    rw [connections_modifyConnection, if_pos rfl, hGet]
    rfl
  have hLater : Writes (fun _ _ => False) closing (s.closeFor deps id code) := by
    unfold closeFor close
    rw [hGet]
    simp only [hOpenState, ne_eq, not_true_eq_false, if_false]
    split
    · exact (Writes.single (.closed id)).tail (.stopHeartbeat id)
    · exact Writes.single (.stopHeartbeat id)
  have hAfter := (hLater.recedes.receives hReceives).2.2 hOpen
  rw [hMarked] at hAfter
  cases hAfter

/-- One turn of the refresh loop. -/
theorem receives_refreshConnection {result : Except SignetError CredentialRecord}
    (hReceives : (refreshConnection deps result s id).Receives credentialId id record)
    (hOpen : (refreshConnection deps result s id).isOpen id = true) : result = .ok record := by
  unfold refreshConnection at hReceives hOpen
  split at hReceives
  · next hNone =>
    obtain ⟨-, c, hGet, -⟩ := hReceives
    rw [hNone] at hGet
    cases hGet
  · next c hSome =>
    simp only [hSome] at hOpen
    split at hReceives
    · next hInactive =>
      obtain ⟨-, c', hGet, -, hActive, -⟩ := hReceives
      rw [hSome] at hGet
      cases hGet
      exact absurd hActive hInactive
    · next hActive =>
      rw [if_neg hActive] at hOpen
      cases result with
      | error error =>
        have hShut := not_isOpen_closeFor hReceives
        rw [hShut] at hOpen
        cases hOpen
      | ok fresh =>
        dsimp only at hReceives hOpen
        split at hReceives
        · next hStatus =>
          rw [if_pos hStatus] at hOpen
          have hShut := not_isOpen_closeFor hReceives
          rw [hShut] at hOpen
          cases hOpen
        · have hRecord := hReceives.recordOf
          unfold cacheRecord modifyData Server.recordOf at hRecord
          rw [connections_modifyConnection, if_pos rfl, hSome] at hRecord
          exact congrArg Except.ok (Option.some.inj hRecord)

theorem receives_refreshLoop {result : Except SignetError CredentialRecord} (ids : List Nat)
    (hId : id ∈ ids)
    (hReceives : (ids.foldl (refreshConnection deps result) s).Receives credentialId id record)
    (hOpen : (ids.foldl (refreshConnection deps result) s).isOpen id = true) :
    result = .ok record := by
  induction ids generalizing s with
  | nil => cases hId
  | cons first ids ih =>
    rw [List.foldl_cons] at hReceives hOpen
    by_cases hLater : id ∈ ids
    · exact ih hLater hReceives hOpen
    · have hFirst : id = first := (List.mem_cons.mp hId).resolve_right hLater
      -- the later turns write to other connections
      have hWrites : Writes (fun id' _ => id' ∈ ids) (refreshConnection deps result s first)
          (ids.foldl (refreshConnection deps result)
            (refreshConnection deps result s first)) :=
        Writes.foldl ids (fun t id' hId' =>
          writes_refreshConnection deps result t id' fun _ _ => hId') _
      obtain ⟨hBefore, -, hOpenBefore⟩ := hWrites.recedes.receives hReceives
      subst hFirst
      exact receives_refreshConnection (hBefore.resolve_right hLater) (hOpenBefore hOpen)

/-- The latest invalidation leaves its snapshot on every open connection. -/
theorem receives_refreshCredential (hEntry : s.pendingInvalidations.get credentialId = some entry)
    {result : Except SignetError CredentialRecord}
    (hReceives : (s.refreshCredential deps credentialId entry.generation
      (some result)).Receives credentialId id record)
    (hOpen : (s.refreshCredential deps credentialId entry.generation (some result)).isOpen id =
      true) : result = .ok record := by
  have hWrites : Writes (fun _ _ => True) s
      (s.refreshCredential deps credentialId entry.generation (some result)) :=
    writes_refreshCredential deps s credentialId _ _ fun _ _ _ _ => trivial
  have hMem := (hWrites.recedes.receives hReceives).2.1
  unfold refreshCredential at hReceives hOpen
  rw [hEntry] at hReceives hOpen
  simp only [ne_eq, not_true_eq_false, if_false] at hReceives hOpen
  exact receives_refreshLoop _ hMem hReceives hOpen

/-- An invalidation that is not the latest, or whose lookup was rejected, writes
nothing. -/
theorem refreshCredential_of_stale
    (h : result = none ∨ ∀ entry, s.pendingInvalidations.get credentialId = some entry →
      entry.generation ≠ myGen) :
    s.refreshCredential deps credentialId myGen result = s := by
  unfold refreshCredential
  split
  · next result entry hEntry =>
    rcases h with hNone | hStale
    · cases hNone
    · rw [if_pos (hStale entry hEntry)]
  · rfl

/-! ## Steps of the queue -/

/-- A broadcast, the start of an invalidation, or the end of one. -/
def IsQueueStep (s : Server World) (label : ServerLabel World) : Prop :=
  match label.event with
  | .broadcast _ _ => True
  | .invalidate _ => True
  | .credentialLookedUp task _ =>
    ∃ credentialId myGen, s.tasks.get task = some (.invalidation credentialId myGen)
  | _ => False

theorem step_broadcast (hStep : serverStep deps s label = some (t, out)) {event : SignetEvent}
    (hEvent : label.event = .broadcast credentialId event) :
    t = s.broadcast deps label.world credentialId event := by
  obtain ⟨now, world, event'⟩ := label
  dsimp only at hEvent
  subst hEvent
  cases hStep
  rfl

theorem step_invalidate (hStep : serverStep deps s label = some (t, out))
    (hEvent : label.event = .invalidate credentialId) :
    t = s.invalidateCredential credentialId := by
  obtain ⟨now, world, event'⟩ := label
  dsimp only at hEvent
  subst hEvent
  cases hStep
  rfl

theorem step_release (hStep : serverStep deps s label = some (t, out))
    (hEvent : label.event = .credentialLookedUp task result)
    (hTask : s.tasks.get task = some (.invalidation credentialId myGen)) :
    t = ((s.take task).refreshCredential deps credentialId myGen
      result).releaseInvalidation deps label.world credentialId := by
  obtain ⟨now, world, event'⟩ := label
  dsimp only at hEvent
  subst hEvent
  unfold serverStep quietStep at hStep
  simp only [hTask, resumeLookup, Option.map_some, Option.some.injEq, Prod.mk.injEq] at hStep
  exact hStep.1.symm

theorem recedes_broadcastToCredential (world : World) (offered : Offered)
    (hDirect : s.pendingInvalidations.get credentialId = none) :
    Recedes (fun _ _ => False) s (s.broadcastToCredential deps world credentialId offered) := by
  have hDispatched : Recedes (fun _ _ => False) s
      { s with dispatched := s.dispatched ++ [(credentialId, offered)] } :=
    .of_connections rfl rfl
  have hSends : Sends (fun _ _ => False)
      { s with dispatched := s.dispatched ++ [(credentialId, offered)] }
      (s.broadcastSendings deps world credentialId offered)
      (s.broadcastToCredential deps world credentialId offered) :=
    sends_broadcastToCredential deps world offered hDirect
  exact hDispatched.trans (Sends.recedes hSends)

theorem recedes_drain (world : World) (events : List Offered)
    (hDirect : s.pendingInvalidations.get credentialId = none) :
    Recedes (fun _ _ => False) s (events.foldl
      (fun s offered => s.broadcastToCredential deps world credentialId offered) s) := by
  induction events generalizing s with
  | nil => exact .refl s
  | cons offered events ih =>
    have hKept := pendingInvalidations_broadcastToCredential deps world offered hDirect
    exact (recedes_broadcastToCredential world offered hDirect).trans
      (ih (by rw [hKept]; exact hDirect))

section

variable (world : World) (s : Server World) (credentialId : String)

theorem recedes_broadcast (event : SignetEvent) :
    Recedes (fun _ _ => False) s (s.broadcast deps world credentialId event) := by
  have hOffered : Recedes (fun _ _ => False) s
      { s with offers := s.offers ++ [(credentialId, ⟨s.offers.length, event⟩)] } :=
    .of_connections rfl rfl
  refine hOffered.trans ?_
  cases hPending : s.pendingInvalidations.get credentialId with
  | none => exact recedes_broadcastToCredential world _ hPending
  | some pending =>
    unfold broadcast broadcastToCredential
    dsimp only
    rw [hPending]
    exact .of_connections rfl rfl

theorem recedes_releaseInvalidation :
    Recedes (fun _ _ => False) s (s.releaseInvalidation deps world credentialId) := by
  unfold releaseInvalidation
  split
  · exact .refl s
  · next entry hEntry =>
    split
    · have hDeleted : Recedes (fun _ _ => False) s
          { s with pendingInvalidations := s.pendingInvalidations.delete credentialId } :=
        .of_connections rfl rfl
      exact hDeleted.trans (recedes_drain world entry.events (by simp))
    · exact .of_connections rfl rfl

end

/-! ## From the start of an invalidation to its drain -/

/-- What an answered lookup leaves on a connection that cached a record before. -/
def Leaves (answer : Option (Except SignetError CredentialRecord))
    (before : Option CredentialRecord) (record : CredentialRecord) : Prop :=
  match answer with
  | some (.ok fresh) => record = fresh
  | some (.error _) => False
  | none => before = some record

/-- Every open connection of the credential caches what the answer has left. -/
def HoldsSnapshot (s₁ s : Server World) (credentialId : String)
    (answer : Option (Except SignetError CredentialRecord)) : Prop :=
  ∀ id record, s.Receives credentialId id record → s.isOpen id = true →
    Leaves answer (s₁.recordOf id) record

/-- An invalidation of the credential was started in `s₁`, and the steps `h` of
the queue followed.  Unless a later one was started, it has been answered and
left its snapshot, or its lookup is in flight and the records are as before. -/
structure Snapshotted (h : ServerHistory World) (s₁ s : Server World) (credentialId : String) :
    Prop where
  counter : s₁.invalidationGen + 1 ≤ s.invalidationGen
  later : ∀ pending, s.pendingInvalidations.get credentialId = some pending →
    s₁.invalidationGen + 1 ≤ pending.generation
  records : ∀ pending, s.pendingInvalidations.get credentialId = some pending →
    pending.generation = s₁.invalidationGen + 1 →
      (s.tasks.get s₁.tasks.next = some (.invalidation credentialId (s₁.invalidationGen + 1)) ∧
          HoldsSnapshot s₁ s credentialId none) ∨
        ((∀ task, s.tasks.get task ≠ some (.invalidation credentialId (s₁.invalidationGen + 1))) ∧
          ∃ o ∈ h, ∃ answer, o.label.event = .credentialLookedUp s₁.tasks.next answer ∧
            HoldsSnapshot s₁ s credentialId answer)

theorem snapshotted_start :
    Snapshotted [] s (s.invalidateCredential credentialId) credentialId where
  counter := Nat.le_refl _
  later := by
    intro pending hPending
    unfold invalidateCredential at hPending
    dsimp only [spawn] at hPending
    rw [AssocMap.get_set_self] at hPending
    split at hPending <;> cases hPending <;> exact Nat.le_refl _
  records := by
    intro pending _ _
    refine .inl ⟨?_, ?_⟩
    · unfold invalidateCredential
      simp [spawn]
    · intro id record hReceives _
      exact hReceives.recordOf

/-- A step that neither answers the lookup nor writes records of the credential,
nor starts an invalidation of it. -/
theorem Snapshotted.of_recedes (hSnap : Snapshotted h s₁ s credentialId)
    (o : Occurrence (Server World) (ServerLabel World) Returned)
    (hGen : s.invalidationGen ≤ t.invalidationGen)
    (hPending : ∀ pending, t.pendingInvalidations.get credentialId = some pending →
      ∃ pending', s.pendingInvalidations.get credentialId = some pending' ∧
        pending.generation = pending'.generation) (hTask : ∀ task, t.tasks.get task =
        some (.invalidation credentialId (s₁.invalidationGen + 1)) ↔
      s.tasks.get task = some (.invalidation credentialId (s₁.invalidationGen + 1)))
    (hRecedes : ∀ id record, t.Receives credentialId id record →
      s.Receives credentialId id record ∧ (t.isOpen id = true → s.isOpen id = true)) :
    Snapshotted (h ++ [o]) s₁ t credentialId where
  counter := Nat.le_trans hSnap.counter hGen
  later := by
    intro pending hGet
    obtain ⟨pending', hGet', hEq⟩ := hPending pending hGet
    rw [hEq]
    exact hSnap.later pending' hGet'
  records := by
    intro pending hGet hLatest
    obtain ⟨pending', hGet', hEq⟩ := hPending pending hGet
    have hKept : ∀ answer, HoldsSnapshot s₁ s credentialId answer →
        HoldsSnapshot s₁ t credentialId answer := by
      intro answer hHolds id record hReceives hOpen
      obtain ⟨hBefore, hOpenBefore⟩ := hRecedes id record hReceives
      exact hHolds id record hBefore (hOpenBefore hOpen)
    rcases hSnap.records pending' hGet' (hEq ▸ hLatest) with ⟨hFlight, hHolds⟩ |
      ⟨hDone, o', ho', answer, hEvent, hHolds⟩
    · exact .inl ⟨(hTask _).mpr hFlight, hKept none hHolds⟩
    · exact .inr ⟨fun task hGetTask => hDone task ((hTask task).mp hGetTask), o',
        List.mem_append_left _ ho', answer, hEvent, hKept answer hHolds⟩

section

variable (s : Server World) (task : Nat) (credentialId : String)

theorem tasks_released (entry : PendingInvalidation) :
    (s.released task credentialId entry).tasks = (s.take task).tasks := by
  unfold released
  split <;> rfl

theorem invalidationGen_released (entry : PendingInvalidation) :
    (s.released task credentialId entry).invalidationGen = s.invalidationGen := by
  unfold released
  split <;> rfl

end

/-- What is left of the entries after the end of an invalidation. -/
theorem pending_released {pending : PendingInvalidation}
    (hEntry : s.pendingInvalidations.get credentialId = some entry)
    (h : (s.released task credentialId entry).pendingInvalidations.get credentialId' =
      some pending) :
    ∃ pending', s.pendingInvalidations.get credentialId' = some pending' ∧
      pending.generation = pending'.generation := by
  unfold released at h
  split at h
  · dsimp only at h
    obtain ⟨-, h⟩ := AssocMap.of_get_delete h
    exact ⟨pending, h, rfl⟩
  · dsimp only at h
    rcases AssocMap.get_set_cases h with ⟨hEq, rfl⟩ | ⟨-, h⟩
    · exact ⟨entry, hEq ▸ hEntry, rfl⟩
    · exact ⟨pending, h, rfl⟩

theorem snapshotted_broadcast (hExact : QueueExact s)
    (hStep : serverStep deps s label = some (t, out)) {event : SignetEvent}
    (hEvent : label.event = .broadcast credentialId' event)
    (hSnap : Snapshotted h s₁ s credentialId) :
    Snapshotted (h ++ [⟨s, label, out⟩]) s₁ t credentialId := by
  have hRecedes : Recedes (fun _ _ => False) s t := by
    rw [step_broadcast hStep hEvent]
    exact recedes_broadcast label.world s credentialId' event
  have hReceives : ∀ id record, t.Receives credentialId id record →
      s.Receives credentialId id record ∧ (t.isOpen id = true → s.isOpen id = true) := by
    intro id record hReceives
    obtain ⟨hBefore, -, hOpen⟩ := hRecedes.receives hReceives
    exact ⟨hBefore.resolve_right not_false, hOpen⟩
  cases book_step hExact hStep with
  | same hBooks =>
    apply hSnap.of_recedes _ (by rw [hBooks.invalidationGen]) _
      (fun task => hBooks.invalidations task _ _) hReceives
    intro pending hPending
    rw [hBooks.pendingInvalidations] at hPending
    exact ⟨pending, hPending, rfl⟩
  | queue credentialId₀ event₀ pending₀ hEvent₀ hPending₀ hBooks =>
    apply hSnap.of_recedes _ (by rw [hBooks.invalidationGen]) _
      (fun task => hBooks.invalidations task _ _) hReceives
    intro pending hPending
    rw [hBooks.pendingInvalidations] at hPending
    dsimp only at hPending
    rcases AssocMap.get_set_cases hPending with ⟨hEq, rfl⟩ | ⟨-, hPending⟩
    · exact ⟨pending₀, hEq ▸ hPending₀, rfl⟩
    · exact ⟨pending, hPending, rfl⟩
  | dispatch credentialId₀ event₀ hEvent₀ hDirect hBooks =>
    apply hSnap.of_recedes _ (by rw [hBooks.invalidationGen]) _
      (fun task => hBooks.invalidations task _ _) hReceives
    intro pending hPending
    rw [hBooks.pendingInvalidations] at hPending
    exact ⟨pending, hPending, rfl⟩
  | invalidate credentialId₀ hEvent₀ hState =>
    rw [hEvent] at hEvent₀
    cases hEvent₀
  | release task credentialId₀ myGen result entry hEvent₀ hTask hEntry hBooks =>
    rw [hEvent] at hEvent₀
    cases hEvent₀

theorem snapshotted_invalidate (credentialId' : String)
    (o : Occurrence (Server World) (ServerLabel World) Returned)
    (hSnap : Snapshotted h s₁ s credentialId) :
    Snapshotted (h ++ [o]) s₁ (s.invalidateCredential credentialId') credentialId := by
  have hCounter := hSnap.counter
  by_cases hEq : credentialId = credentialId'
  · -- a later invalidation of the credential
    have hLater : ∀ pending, (s.invalidateCredential credentialId').pendingInvalidations.get
        credentialId = some pending → pending.generation = s.invalidationGen + 1 := by
      intro pending hPending
      unfold invalidateCredential at hPending
      dsimp only [spawn] at hPending
      rw [hEq, AssocMap.get_set_self] at hPending
      split at hPending <;> cases hPending <;> rfl
    refine ⟨Nat.le_succ_of_le hCounter, ?_, ?_⟩
    · intro pending hPending
      rw [hLater pending hPending]
      omega
    · intro pending hPending hLatest
      rw [hLater pending hPending] at hLatest
      omega
  · apply hSnap.of_recedes o (Nat.le_succ _)
    · intro pending hPending
      unfold invalidateCredential at hPending
      dsimp only [spawn] at hPending
      rw [AssocMap.get_set_of_ne _ _ hEq] at hPending
      exact ⟨pending, hPending, rfl⟩
    · intro task
      unfold invalidateCredential
      simp only [spawn, Arena.get_alloc]
      split
      · next hTask =>
        rw [hTask]
        simp [Ne.symm hEq]
      · rfl
    · intro id record hReceives
      exact ⟨hReceives, fun hOpen => hOpen⟩

theorem receives_refreshCredential_of_ne (hNe : credentialId ≠ credentialId')
    (hReceives : (s.refreshCredential deps credentialId' myGen result).Receives credentialId id
      record) :
    s.Receives credentialId id record ∧
      ((s.refreshCredential deps credentialId' myGen result).isOpen id = true →
        s.isOpen id = true) := by
  have hWrites : Writes (fun id' _ => id' ∈ s.getByCredentialId credentialId') s
      (s.refreshCredential deps credentialId' myGen result) :=
    writes_refreshCredential deps s credentialId' _ _ fun id' record _ hMem => hMem
  obtain ⟨hBefore, hMem, hOpen⟩ := hWrites.recedes.receives hReceives
  refine ⟨hBefore.resolve_right fun hMem' => hNe ?_, hOpen⟩
  have hId := (mem_getByCredentialId.mp hMem).2
  rw [(mem_getByCredentialId.mp hMem').2] at hId
  exact (Option.some.inj hId).symm

/-- The records after the refresh of an invalidation, while the one of the
snapshot has the highest generation: its lookup is in flight still, or it has
been answered, now or before. -/
theorem Snapshotted.refreshed (hSnap : Snapshotted h s₁ s credentialId) (hExact : QueueExact s)
    (hTask : s.tasks.get task = some (.invalidation credentialId myGen))
    (hEntry : s.pendingInvalidations.get credentialId = some entry)
    (hHighest : entry.generation = s₁.invalidationGen + 1)
    (result : Option (Except SignetError CredentialRecord)) :
    (s₁.tasks.next ≠ task ∧
        s.tasks.get s₁.tasks.next = some (.invalidation credentialId (s₁.invalidationGen + 1)) ∧
        HoldsSnapshot s₁ ((s.take task).refreshCredential deps credentialId myGen result)
          credentialId none) ∨
      ((∀ ref, ref ≠ task →
          s.tasks.get ref ≠ some (.invalidation credentialId (s₁.invalidationGen + 1))) ∧
        ∃ answer, (s₁.tasks.next = task ∧ answer = result ∨
            ∃ o ∈ h, o.label.event = .credentialLookedUp s₁.tasks.next answer) ∧
          HoldsSnapshot s₁ ((s.take task).refreshCredential deps credentialId myGen result)
            credentialId answer) := by
  have hTaken : (s.take task).pendingInvalidations.get credentialId = some entry := hEntry
  -- an invalidation of another generation writes nothing
  have hStale : myGen ≠ s₁.invalidationGen + 1 → ∀ answer,
      HoldsSnapshot s₁ s credentialId answer →
      HoldsSnapshot s₁ ((s.take task).refreshCredential deps credentialId myGen result)
        credentialId answer := by
    intro hNe answer hHolds
    have hUnwritten : (s.take task).refreshCredential deps credentialId myGen result =
        s.take task := by
      apply refreshCredential_of_stale
      refine .inr fun entry' hEntry' => ?_
      rw [hTaken] at hEntry'
      cases hEntry'
      rw [hHighest]
      exact Ne.symm hNe
    rw [hUnwritten]
    exact hHolds
  rcases hSnap.records entry hEntry hHighest with ⟨hFlight, hHolds⟩ |
    ⟨hDone, o, ho, answer, hEvent, hHolds⟩
  · by_cases hRef : s₁.tasks.next = task
    · have hGen : myGen = s₁.invalidationGen + 1 := by
        rw [hRef, hTask] at hFlight
        cases hFlight
        rfl
      refine .inr ⟨?_, result, .inl ⟨hRef, rfl⟩, ?_⟩
      · intro ref hNe hGet
        rw [← hGen] at hGet
        exact hNe (hExact.distinct _ _ _ _ _ hGet hTask)
      · intro id record hReceives hOpen
        cases result with
        | none =>
          rw [refreshCredential_of_stale (.inl rfl)] at hReceives hOpen
          exact hHolds id record hReceives hOpen
        | some answer =>
          rw [hGen, ← hHighest] at hReceives hOpen
          rw [receives_refreshCredential hTaken hReceives hOpen]
          rfl
    · have hNe : myGen ≠ s₁.invalidationGen + 1 := by
        rintro rfl
        exact hRef (hExact.distinct _ _ _ _ _ hFlight hTask)
      exact .inl ⟨hRef, hFlight, hStale hNe none hHolds⟩
  · have hNe : myGen ≠ s₁.invalidationGen + 1 := by
      rintro rfl
      exact hDone task hTask
    exact .inr ⟨fun ref _ => hDone ref, answer, .inr ⟨o, ho, hEvent⟩,
      hStale hNe answer hHolds⟩

theorem snapshotted_release (hExact : QueueExact s)
    (hStep : serverStep deps s label = some (t, out))
    (hEvent : label.event = .credentialLookedUp task result)
    (hTask : s.tasks.get task = some (.invalidation credentialId' myGen))
    (hSnap : Snapshotted h s₁ s credentialId) :
    Snapshotted (h ++ [⟨s, label, out⟩]) s₁ t credentialId := by
  obtain ⟨entry, hEntry⟩ := hExact.entry hTask
  -- from the refreshed records on, connections only recede
  have hDrained : Recedes (fun _ _ => False)
      ((s.take task).refreshCredential deps credentialId' myGen result) t := by
    rw [step_release hStep hEvent hTask]
    exact recedes_releaseInvalidation label.world _ credentialId'
  have hBooks : SameBooks (s.released task credentialId' entry) t := by
    have hRefreshed : Writes (fun _ _ => True) (s.take task)
        ((s.take task).refreshCredential deps credentialId' myGen result) :=
      writes_refreshCredential deps _ credentialId' myGen result fun _ _ _ _ => trivial
    rw [step_release hStep hEvent hTask]
    exact sameBooks_released deps label.world hRefreshed.quiet.sameBooks hEntry
  have hGen : t.invalidationGen = s.invalidationGen := by
    rw [hBooks.invalidationGen, invalidationGen_released]
  have hPending : ∀ pending, t.pendingInvalidations.get credentialId = some pending →
      ∃ pending', s.pendingInvalidations.get credentialId = some pending' ∧
        pending.generation = pending'.generation := by
    intro pending hGet
    rw [hBooks.pendingInvalidations] at hGet
    exact pending_released hEntry hGet
  have hTasks : ∀ ref credentialId₀ myGen₀,
      t.tasks.get ref = some (.invalidation credentialId₀ myGen₀) ↔
        ref ≠ task ∧ s.tasks.get ref = some (.invalidation credentialId₀ myGen₀) := by
    intro ref credentialId₀ myGen₀
    rw [hBooks.invalidations, tasks_released]
    by_cases hRef : ref = task
    · simp [take, hRef]
    · simp [take, hRef]
  have hKept : ∀ answer, HoldsSnapshot s₁
      ((s.take task).refreshCredential deps credentialId' myGen result) credentialId answer →
      HoldsSnapshot s₁ t credentialId answer := by
    intro answer hHolds id record hReceives hOpen
    obtain ⟨hBefore, -, hOpenBefore⟩ := hDrained.receives hReceives
    exact hHolds id record (hBefore.resolve_right not_false) (hOpenBefore hOpen)
  by_cases hEq : credentialId = credentialId'
  · subst hEq
    refine ⟨by rw [hGen]; exact hSnap.counter, ?_, ?_⟩
    · intro pending hGet
      obtain ⟨pending', hGet', hSame⟩ := hPending pending hGet
      rw [hSame]
      exact hSnap.later pending' hGet'
    · intro pending hGet hHighest
      obtain ⟨pending', hGet', hSame⟩ := hPending pending hGet
      rw [hEntry] at hGet'
      cases hGet'
      rw [hSame] at hHighest
      rcases hSnap.refreshed hExact hTask hEntry hHighest result with
        ⟨hNe, hFlight, hHolds⟩ | ⟨hDone, answer, hAnswer, hHolds⟩
      · exact .inl ⟨(hTasks _ _ _).mpr ⟨hNe, hFlight⟩, hKept none hHolds⟩
      · refine .inr ⟨?_, ?_⟩
        · intro ref hGetRef
          obtain ⟨hNe, hOld⟩ := (hTasks ref _ _).mp hGetRef
          exact hDone ref hNe hOld
        · rcases hAnswer with ⟨hRef, rfl⟩ | ⟨o, ho, hOld⟩
          · exact ⟨_, List.mem_append_right _ (List.mem_singleton.mpr rfl), answer,
              by rw [hRef]; exact hEvent, hKept answer hHolds⟩
          · exact ⟨o, List.mem_append_left _ ho, answer, hOld, hKept answer hHolds⟩
  · -- the lookup of another credential
    apply hSnap.of_recedes _ (by rw [hGen]) hPending
    · intro ref
      rw [hTasks]
      constructor
      · exact And.right
      · intro hGet
        refine ⟨?_, hGet⟩
        rintro rfl
        rw [hTask] at hGet
        cases hGet
        exact hEq rfl
    · intro id record hReceives
      obtain ⟨hBefore, -, hOpen⟩ := hDrained.receives hReceives
      obtain ⟨hOld, hOpenOld⟩ :=
        receives_refreshCredential_of_ne hEq (hBefore.resolve_right not_false)
      exact ⟨hOld, fun hNow => hOpenOld (hOpen hNow)⟩

theorem snapshotted_step (hExact : QueueExact s) (hQueue : s.IsQueueStep label)
    (hStep : serverStep deps s label = some (t, out)) (hSnap : Snapshotted h s₁ s credentialId) :
    Snapshotted (h ++ [⟨s, label, out⟩]) s₁ t credentialId := by
  unfold IsQueueStep at hQueue
  split at hQueue
  · next credentialId' event hEvent => exact snapshotted_broadcast hExact hStep hEvent hSnap
  · next credentialId' hEvent =>
    rw [step_invalidate hStep hEvent]
    exact snapshotted_invalidate credentialId' _ hSnap
  · next task result hEvent =>
    obtain ⟨credentialId', myGen, hTask⟩ := hQueue
    exact snapshotted_release hExact hStep hEvent hTask hSnap
  · cases hQueue

theorem snapshotted_of_runs {h₁ h₂ : ServerHistory World}
    {start : Occurrence (Server World) (ServerLabel World) Returned}
    (hRun : (serverMachine deps).Runs (h₁ ++ start :: h₂) s)
    (hStart : start.label.event = .invalidate credentialId)
    (hQueue : ∀ o ∈ h₂, o.pre.IsQueueStep o.label) : Snapshotted h₂ start.pre s credentialId := by
  induction h₂ using List.reverseRecOn generalizing s with
  | nil =>
    obtain ⟨-, hStep⟩ := hRun.of_snoc
    rw [step_invalidate hStep hStart]
    exact snapshotted_start
  | append_singleton h₂ o ih =>
    have hAssoc : h₁ ++ start :: (h₂ ++ [o]) = (h₁ ++ start :: h₂) ++ [o] := by simp
    rw [hAssoc] at hRun
    obtain ⟨hBefore, hStep⟩ := hRun.of_snoc
    have hSnap : Snapshotted h₂ start.pre o.pre credentialId :=
      ih hBefore fun o' ho' => hQueue o' (List.mem_append_left _ ho')
    have hLast := hQueue o (List.mem_append_right _ (List.mem_singleton.mpr rfl))
    exact snapshotted_step (queueExact_of_runs hBefore) hLast hStep hSnap

/-! ## The drain -/

theorem QueueExact.tickets_increase (hExact : QueueExact s) (credentialId : String) :
    (s.offeredTo credentialId).Pairwise fun earlier later => earlier.ticket < later.ticket := by
  have hAll : s.offers.Pairwise fun earlier later => earlier.2.ticket < later.2.ticket := by
    rw [← List.pairwise_map (f := fun entry : String × Offered => entry.2.ticket), hExact.tickets]
    exact List.pairwise_lt_range
  unfold offeredTo
  rw [List.pairwise_map]
  exact hAll.filter _

theorem QueueExact.queued_of_idle (hExact : QueueExact s)
    (hIdle : s.lookupsInFlight credentialId = []) :
    s.queued credentialId = [] := by
  unfold queued
  split
  · next pending hPending =>
    obtain ⟨hCount, hPos⟩ := hExact.counted credentialId pending hPending
    rw [hIdle] at hCount
    simp only [List.length_nil] at hCount
    omega
  · rfl

/-- The books after the end of a lookup of the credential: the queue is
dispatched exactly when no other one is in flight. -/
theorem dispatchedTo_released (s : Server World) (task : Nat)
    (hEntry : s.pendingInvalidations.get credentialId = some entry) (credentialId' : String) :
    (s.released task credentialId entry).dispatchedTo credentialId' =
      s.dispatchedTo credentialId' ++
        (if entry.refcount - 1 ≤ 0 ∧ credentialId = credentialId' then
          s.queued credentialId' else []) := by
  unfold dispatchedTo released
  by_cases hLast : entry.refcount - 1 ≤ 0
  · rw [if_pos hLast, List.filter_append, List.map_append, filter_queue]
    by_cases hEq : credentialId = credentialId'
    · subst hEq
      unfold queued
      rw [if_pos rfl, if_pos ⟨hLast, rfl⟩, hEntry]
    · rw [if_neg hEq, if_neg fun h => hEq h.2]
  · rw [if_neg hLast, if_neg fun h => hLast h.1, List.append_nil]
    rfl

/-- The entry is gone with the last lookup. -/
theorem pending_released_self (s : Server World) (task : Nat) (credentialId : String)
    (entry : PendingInvalidation) :
    (s.released task credentialId entry).pendingInvalidations.get credentialId =
      if entry.refcount - 1 ≤ 0 then none
      else some { entry with refcount := entry.refcount - 1 } := by
  unfold released
  split
  · simp
  · simp

theorem dispatchedTo_busy (hExact : QueueExact s) (hStep : serverStep deps s label = some (t, out))
    (hBusy : t.lookupsInFlight credentialId ≠ []) :
    t.dispatchedTo credentialId = s.dispatchedTo credentialId := by
  have hExact' := queueExact_step hExact hStep
  cases book_step hExact hStep with
  | same hBooks =>
    unfold dispatchedTo
    rw [hBooks.dispatched]
  | queue credentialId' event pending hEvent hPending hBooks =>
    unfold dispatchedTo
    rw [hBooks.dispatched]
  | dispatch credentialId' event hEvent hDirect hBooks =>
    have hNe : credentialId' ≠ credentialId := by
      rintro rfl
      apply hBusy
      apply hExact'.idle
      rw [hBooks.pendingInvalidations]
      exact hDirect
    unfold dispatchedTo
    rw [hBooks.dispatched, filter_snoc, if_neg hNe, List.append_nil]
  | invalidate credentialId' hEvent hState =>
    rw [hState]
    rfl
  | release task credentialId' myGen result entry hEvent hTask hEntry hBooks =>
    have hMore : ¬ (entry.refcount - 1 ≤ 0 ∧ credentialId' = credentialId) := by
      rintro ⟨hLast, rfl⟩
      apply hBusy
      apply hExact'.idle
      rw [hBooks.pendingInvalidations, pending_released_self, if_pos hLast]
    have hReleased := s.dispatchedTo_released task hEntry credentialId
    rw [if_neg hMore, List.append_nil] at hReleased
    rw [← hReleased]
    unfold dispatchedTo
    rw [hBooks.dispatched]

theorem dispatchedTo_last (hExact : QueueExact s) (hStep : serverStep deps s label = some (t, out))
    (hBusy : s.lookupsInFlight credentialId ≠ []) (hLast : t.lookupsInFlight credentialId = []) :
    t.dispatchedTo credentialId = s.dispatchedTo credentialId ++ s.queued credentialId ∧
      ∃ task myGen result, label.event = .credentialLookedUp task result ∧
        s.tasks.get task = some (.invalidation credentialId myGen) := by
  have hExact' := queueExact_step hExact hStep
  obtain ⟨ref, hRef⟩ := List.exists_mem_of_ne_nil _ hBusy
  obtain ⟨gen, hGet⟩ := mem_lookupsInFlight.mp hRef
  -- the lookup that was in flight has gone
  have hGone : t.tasks.get ref ≠ some (.invalidation credentialId gen) := by
    intro hKept
    have hMem : ref ∈ t.lookupsInFlight credentialId := mem_lookupsInFlight.mpr ⟨gen, hKept⟩
    rw [hLast] at hMem
    cases hMem
  cases book_step hExact hStep with
  | same hBooks => exact absurd ((hBooks.invalidations _ _ _).mpr hGet) hGone
  | queue credentialId' event pending hEvent hPending hBooks =>
    exact absurd ((hBooks.invalidations _ _ _).mpr hGet) hGone
  | dispatch credentialId' event hEvent hDirect hBooks =>
    exact absurd ((hBooks.invalidations _ _ _).mpr hGet) hGone
  | invalidate credentialId' hEvent hState =>
    apply absurd _ hGone
    have hNe : ref ≠ s.tasks.next := Nat.ne_of_lt (Arena.lt_next_of_get hGet)
    rw [hState]
    unfold invalidateCredential
    simp [spawn, hNe, hGet]
  | release task credentialId' myGen result entry hEvent hTask hEntry hBooks =>
    have hSelf : ref = task := by
      by_contra hNe
      apply hGone
      rw [hBooks.invalidations, tasks_released]
      simp [take, hNe, hGet]
    rw [hSelf, hTask] at hGet
    cases hGet
    have hOnly : entry.refcount - 1 ≤ 0 := by
      by_contra hMore
      have hPending : t.pendingInvalidations.get credentialId =
          some { entry with refcount := entry.refcount - 1 } := by
        rw [hBooks.pendingInvalidations, pending_released_self, if_neg hMore]
      obtain ⟨hCount, hPos⟩ := hExact'.counted credentialId _ hPending
      rw [hLast, List.length_nil] at hCount
      omega
    refine ⟨?_, task, gen, result, hEvent, hTask⟩
    have hReleased := s.dispatchedTo_released task hEntry credentialId
    rw [if_pos ⟨hOnly, rfl⟩] at hReleased
    rw [← hReleased]
    unfold dispatchedTo
    rw [hBooks.dispatched]

/-- The queue is drained with what the invalidation of the highest generation
has left. -/
theorem snapshot_drained (hExact : QueueExact s) (hSnap : Snapshotted h s₁ s credentialId)
    (hStep : serverStep deps s label = some (t, out))
    (hHighest : ∀ entry, s.pendingInvalidations.get credentialId = some entry →
      entry.generation = s₁.invalidationGen + 1)
    (hEvent : label.event = .credentialLookedUp task result)
    (hTask : s.tasks.get task = some (.invalidation credentialId myGen))
    (hLast : t.lookupsInFlight credentialId = []) :
    ∃ answer, (s₁.tasks.next = task ∧ answer = result ∨
        ∃ o ∈ h, o.label.event = .credentialLookedUp s₁.tasks.next answer) ∧
      ∀ sending ∈ s.liveSendings deps label, ∃ offered record,
        sending.origin = .broadcast credentialId offered record label.world ∧
          (((s.take task).refreshCredential deps credentialId myGen result).isOpen
              sending.conn = true →
            Leaves answer (s₁.recordOf sending.conn) record) := by
  obtain ⟨entry, hEntry⟩ := hExact.entry hTask
  rcases hSnap.refreshed hExact hTask hEntry (hHighest entry hEntry) result with
    ⟨hNe, hFlight, -⟩ | ⟨-, answer, hAnswer, hHolds⟩
  · -- the lookup of the highest generation would still be in flight
    have hKept : s₁.tasks.next ∈ t.lookupsInFlight credentialId := by
      have hRefreshed : Writes (fun _ _ => True) (s.take task)
          ((s.take task).refreshCredential deps credentialId myGen result) :=
        writes_refreshCredential deps _ credentialId myGen result fun _ _ _ _ => trivial
      have hBooks := sameBooks_released deps label.world hRefreshed.quiet.sameBooks hEntry
      rw [mem_lookupsInFlight, step_release hStep hEvent hTask]
      refine ⟨s₁.invalidationGen + 1, (hBooks.invalidations _ _ _).mpr ?_⟩
      rw [tasks_released]
      simp [take, hNe, hFlight]
    rw [hLast] at hKept
    cases hKept
  · refine ⟨answer, hAnswer, ?_⟩
    intro sending hSending
    unfold liveSendings at hSending
    rw [hEvent] at hSending
    simp only [hTask] at hSending
    unfold releaseSendings at hSending
    split at hSending
    · cases hSending
    · next entry' hEntry' =>
      split at hSending
      · have hDirect : (Server.pendingInvalidations { (s.take task).refreshCredential deps
            credentialId myGen result with
              pendingInvalidations := ((s.take task).refreshCredential deps credentialId myGen
                result).pendingInvalidations.delete credentialId }).get credentialId = none := by
          simp
        obtain ⟨offered, -, record, hOrigin, hReceives⟩ :=
          receives_of_mem_drainSendings entry'.events hDirect hSending
        exact ⟨offered, record, hOrigin, fun hOpen => hHolds _ record hReceives hOpen⟩
      · cases hSending

end Server

/-- A connection of the credential authenticates. -/
def attachedEvents : List ServerEvent :=
  [.start none, .open, .message 0 (.json (.auth ⟨"token", none⟩ none)),
   .tokenLookedUp 0 (some (.ok sampleRecord)), .fingerprinted 1]

theorem attachedEvents_enabled : ((serverMachine sampleServerDeps).exec .create
    (atZero attachedEvents)).isSome = true := by decide

/-- The server with one authenticated connection. -/
def attached : Server Unit :=
  ((serverMachine sampleServerDeps).outcome .create _ attachedEvents_enabled).2

def stepsToAttached : ServerHistory Unit :=
  ((serverMachine sampleServerDeps).outcome .create _ attachedEvents_enabled).1

/-- An invalidation of its credential has been started, -/
def invalidated : Server Unit := attached.invalidateCredential "cred"

/-- and an event has been broadcast since. -/
def queuedUp : Server Unit := invalidated.broadcast sampleServerDeps () "cred" sampleEvent

def stepsOfQueue : ServerHistory Unit :=
  [⟨attached, ⟨0, (), .invalidate "cred"⟩, []⟩,
   ⟨invalidated, ⟨0, (), .broadcast "cred" sampleEvent⟩, []⟩]

theorem runs_queuedUp :
    (serverMachine sampleServerDeps).Runs (stepsToAttached ++ stepsOfQueue) queuedUp := by
  have hExec : (serverMachine sampleServerDeps).exec .create (atZero attachedEvents) =
      some (stepsToAttached, attached) := exec_outcome attachedEvents_enabled
  have hQueue : (serverMachine sampleServerDeps).exec attached
      [⟨0, (), .invalidate "cred"⟩, ⟨0, (), .broadcast "cred" sampleEvent⟩] =
        some (stepsOfQueue, queuedUp) := rfl
  exact (runs_of_exec hExec).append_exec hQueue

theorem invalidation_awaits : queuedUp.tasks.get 2 = some (.invalidation "cred" 1) := by
  decide

/-- The server once the lookup has answered. -/
def drained (result : Option (Except SignetError CredentialRecord)) : Server Unit :=
  ((queuedUp.take 2).refreshCredential sampleServerDeps "cred" 1 result).releaseInvalidation
    sampleServerDeps () "cred"

theorem drained_step (result : Option (Except SignetError CredentialRecord)) :
    serverStep sampleServerDeps queuedUp ⟨0, (), .credentialLookedUp 2 result⟩ =
      some (drained result, []) := by
  unfold serverStep quietStep
  simp only [invalidation_awaits, Server.resumeLookup, Option.map_some]
  rfl

def narrowedRecord : CredentialRecord := { sampleRecord with effectiveScopes := ⟨[], []⟩ }

end Ws
end Signet
