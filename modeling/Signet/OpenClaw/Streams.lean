import Signet.Kit.Records
import Signet.OpenClaw.Bridge

/-!
# What a connection has still to deliver

Of a connection only this matters for what it will deliver: how far it has come, the events
that are being saved or wait in its chain, whether it is authenticated and active, and the
messages that have come and have not been read.  Reading them in the order of their arrival
gives what is left to deliver.

* `Stream`, `Stream.read`, `Stream.left` — that part of a connection, and what is left.
* `Coherent` — what holds in every state the bridge reaches without a failed save.
* `Acts` — what a turn does to one connection.
-/

namespace Signet
namespace OpenClaw

open Kit Schemas

/-! ## Streams -/

/-- An event with its sequence number. -/
abbrev Frame := Nat × SignetEvent

abbrev newFrames (mark : Nat) (frames : List Frame) : List Frame := records Prod.fst mark frames

/-- A sequenced frame, if it is one. -/
def Payload.event (payload : Payload) : Option Frame :=
  match payload.sequenced with
  | .ok frame => some frame
  | .error _ => none

/-- What a message brings once the connection is authenticated. -/
def Payload.due (payload : Payload) : Option Frame :=
  match payload.backpressure with
  | some _ => none
  | none => payload.event

/-- A connection, as far as it matters for what it delivers. -/
structure Stream where
  active : Bool
  authenticated : Bool
  /-- The sequence number of what was delivered last. -/
  mark : Nat
  /-- What is being saved or waits in the chain, as far as it is new. -/
  ahead : List Frame

namespace Stream

/-- The connection is over, or another one is the present one. -/
def ended (x : Stream) : Stream := { x with active := false }

/-- Frames are put behind the others. -/
def add (x : Stream) (frames : List Frame) : Stream :=
  { x with ahead := newFrames x.mark (x.ahead ++ frames) }

/-- Frames are put behind the others, once the connection is authenticated. -/
def chain (x : Stream) (frames : List Frame) : Stream := if x.authenticated then x.add frames else x

/-- A frame whose turn has come is taken up again before the others. -/
def unshift (x : Stream) (frames : List Frame) : Stream :=
  if x.authenticated then { x with ahead := newFrames x.mark (frames ++ x.ahead) } else x

def read (config : BridgeConfig) (x : Stream) : Option Payload → Stream
  | none => x
  | some payload =>
    if x.authenticated then x.chain payload.due.toList
    else if x.active then
      match payload.authenticated, payload.authError with
      | some (credentialId, _), _ =>
        if credentialId = config.credentialId then { x with authenticated := true } else x.ended
      | none, some _ => x.ended
      | none, none => x
    else x

/-- The connection once some messages have been read. -/
def after (config : BridgeConfig) (x : Stream) (unread : List (Option Payload)) : Stream :=
  unread.foldl (read config) x

/-- What is delivered if some messages are read, in their order. -/
def left (config : BridgeConfig) (x : Stream) (unread : List (Option Payload)) : List Frame :=
  (x.after config unread).ahead

/-- What is ahead is new. -/
def Normal (x : Stream) : Prop := newFrames x.mark x.ahead = x.ahead

variable {config : BridgeConfig} {x : Stream}

@[simp]
theorem add_nil (h : x.Normal) : x.add [] = x := by
  unfold add
  rw [List.append_nil, h]

@[simp]
theorem chain_nil (h : x.Normal) : x.chain [] = x := by
  unfold chain
  rw [add_nil h, ite_self]

theorem chain_of_authenticated (h : x.authenticated = true) (frames : List Frame) :
    x.chain frames = x.add frames := if_pos h

theorem unshift_nil (h : x.Normal) : x.unshift [] = x := by
  unfold unshift
  rw [List.nil_append, h, ite_self]

variable {frame : Frame}

/-- A frame that is not new. -/
theorem unshift_old (h : x.Normal) (hOld : frame.1 ≤ x.mark) :
    x.unshift [frame] = x := by
  have hAhead : records Prod.fst x.mark x.ahead = x.ahead := h
  unfold unshift
  rw [List.singleton_append, newFrames, records_cons_of_le hOld, hAhead, ite_self]

theorem unshift_new (hAuthenticated : x.authenticated = true) (hNew : x.mark < frame.1) :
    x.unshift [frame] = { x with ahead := frame :: newFrames frame.1 x.ahead } := by
  unfold unshift
  rw [if_pos hAuthenticated, List.singleton_append, newFrames, records_cons_of_lt hNew]

theorem unshift_of_authenticated (h : x.authenticated = true) (frames : List Frame) :
    x.unshift frames = { x with ahead := newFrames x.mark (frames ++ x.ahead) } := if_pos h

theorem unshift_unauthenticated (h : x.authenticated = false) (frames : List Frame) :
    x.unshift frames = x := if_neg (by simp [h])

theorem normal_add (frames : List Frame) : (x.add frames).Normal := records_records _

theorem normal_chain (h : x.Normal) (frames : List Frame) : (x.chain frames).Normal := by
  unfold chain
  split
  · exact normal_add frames
  · exact h

@[simp]
theorem mark_chain (frames : List Frame) : (x.chain frames).mark = x.mark := by
  unfold chain
  split <;> rfl

theorem ended_of_inactive (h : x.active = false) : x.ended = x := by
  cases x
  cases h
  rfl

theorem read_mark (payload : Option Payload) : (x.read config payload).mark = x.mark := by
  unfold read
  split
  · rfl
  · split
    · exact mark_chain _
    · split
      · split
        · split <;> rfl
        · rfl
        · rfl
      · rfl

theorem normal_read (h : x.Normal) (payload : Option Payload) : (x.read config payload).Normal := by
  unfold read
  split
  · exact h
  · split
    · exact normal_chain h _
    · split
      · split
        · split
          · exact h
          · exact h
        · exact h
        · exact h
      · exact h

theorem after_mark (unread : List (Option Payload)) : (x.after config unread).mark = x.mark := by
  unfold after
  induction unread generalizing x with
  | nil => rfl
  | cons payload unread ih => rw [List.foldl_cons, ih, read_mark]

theorem normal_after (h : x.Normal) (unread : List (Option Payload)) :
    (x.after config unread).Normal := by
  unfold after
  induction unread generalizing x with
  | nil => exact h
  | cons payload unread ih => exact ih (normal_read h payload)

theorem left_nil : x.left config [] = x.ahead := rfl

theorem left_cons (payload : Option Payload) (unread : List (Option Payload)) :
    x.left config (payload :: unread) = (x.read config payload).left config unread := rfl

theorem after_snoc (unread : List (Option Payload)) (payload : Option Payload) :
    x.after config (unread ++ [payload]) = (x.after config unread).read config payload := by
  unfold after
  rw [List.foldl_append]
  rfl

/-- An authenticated connection stays so. -/
theorem read_authenticated (h : x.authenticated = true) (payload : Option Payload) :
    (x.read config payload).authenticated = true := by
  unfold read
  split
  · exact h
  · rw [if_pos h, chain, if_pos h]
    exact h

/-- Without authentication no message adds anything. -/
theorem read_ahead (h : x.authenticated = false) (payload : Option Payload) :
    (x.read config payload).ahead = x.ahead := by
  unfold read
  split
  · rfl
  · rw [if_neg (by simp [h])]
    split
    · split
      · split <;> rfl
      · rfl
      · rfl
    · rfl

theorem left_ended (h : x.authenticated = true) (unread : List (Option Payload)) :
    x.ended.left config unread = x.left config unread := by
  induction unread generalizing x with
  | nil => rfl
  | cons payload unread ih =>
    have hRead : x.ended.read config payload = (x.read config payload).ended := by
      have hEnded : x.ended.authenticated = true := h
      cases payload with
      | none => rfl
      | some payload =>
        simp only [read]
        rw [if_pos h, if_pos hEnded, chain, chain, if_pos h, if_pos hEnded]
        rfl
    rw [left_cons, left_cons, hRead]
    exact ih (read_authenticated h payload)

/-- A connection that is over before it was authenticated delivers nothing. -/
theorem left_of_idle (hAuthenticated : x.authenticated = false) (hActive : x.active = false)
    (unread : List (Option Payload)) : x.left config unread = x.ahead := by
  induction unread with
  | nil => rfl
  | cons payload unread ih =>
    have hRead : x.read config payload = x := by
      unfold read
      split
      · rfl
      · rw [if_neg (by simp [hAuthenticated]), if_neg (by simp [hActive])]
    rw [left_cons, hRead]
    exact ih

/-- **A delivery.**  What is first is delivered, and the rest is left as it was. -/
theorem left_delivered {rest : List Frame} (hAuthenticated : x.authenticated = true)
    (hAhead : x.ahead = frame :: rest) (hNew : x.mark < frame.1) (unread : List (Option Payload)) :
    x.left config unread =
      frame :: ({ x with mark := frame.1, ahead := rest } : Stream).left config unread := by
  induction unread generalizing x rest with
  | nil => exact hAhead
  | cons payload unread ih =>
    rw [left_cons, left_cons]
    cases payload with
    | none => exact ih hAuthenticated hAhead hNew
    | some payload =>
      have hRead : x.read config (some payload) = x.add payload.due.toList := by
        simp only [read]
        rw [if_pos hAuthenticated, chain, if_pos hAuthenticated]
      have hReadLater : ({ x with mark := frame.1, ahead := rest } : Stream).read config
          (some payload) = ({ x with mark := frame.1, ahead := rest } : Stream).add
            payload.due.toList := by
        simp only [read, chain]
        rw [if_pos hAuthenticated, if_pos hAuthenticated]
      rw [hRead, hReadLater]
      refine ih hAuthenticated ?_ hNew
      show newFrames x.mark (x.ahead ++ payload.due.toList) = _
      rw [hAhead, List.cons_append]
      exact records_cons_of_lt hNew _

end Stream

/-! ## Connections as streams -/

def Save.event (save : Save) : Frame := (save.envelope.seq, save.envelope.event)

def Link.event : Link → Option Frame
  | .frame payload => payload.event
  | .closing _ _ => none

/-- What is being saved, and what waits. -/
def Connection.waiting (connection : Connection) : List Frame :=
  connection.saving.toList.map Save.event ++ connection.frameChain.filterMap Link.event

def Connection.stream (connection : Connection) (active : Bool) : Stream :=
  ⟨active, connection.authenticated, connection.lastDeliveredSeq,
    newFrames connection.lastDeliveredSeq connection.waiting⟩

/-- The messages that have not been read, in the order of their arrival. -/
def Connection.unread (connection : Connection) : List (Option Payload) :=
  connection.decoding.map Prod.snd

/-- A stream with the messages that have not been read. -/
abbrev Pipe := Stream × List (Option Payload)

/-- The connection under a number. -/
def streamAt (s : Bridge) (c : Nat) : Option Pipe :=
  (s.connections.get c).map fun connection =>
    (connection.stream (isActive s c connection), connection.unread)

/-- What is left to deliver of a connection. -/
def remaining (config : BridgeConfig) (pipe : Pipe) : List Frame := pipe.1.left config pipe.2

/-- What holds of each connection. -/
structure Sound (connection : Connection) : Prop where
  unauthenticated : connection.authenticated = false →
    connection.frameChain = [] ∧ connection.saving = none ∧ connection.operatorId = none
  identified : connection.authenticated = true →
    connection.credentialId.isSome = true ∧ connection.operatorId.isSome = true
  saving : ∀ save, connection.saving = some save → connection.lastDeliveredSeq < save.envelope.seq ∧
    save.checkpoint.lastSeq = save.envelope.seq

/-- The loop awaits the present connection, and no more is delivered than what a loop runs for. -/
structure Coherent (s : Bridge) : Prop where
  linked : ∀ c, s.ws = some c → ∃ loop connection, s.loop = some loop ∧ loop.stage = .connecting c ∧
    s.connections.get c = some connection ∧ connection.connectionId = s.activeConnectionId ∧
    connection.settled = false
  sound : ∀ c connection, s.connections.get c = some connection → Sound connection
  finished : s.deliveries.done = true → ∀ loop, s.loop = some loop → loop.stage = .returned

inductive LoopPhase where
  | loading
  | begun
  | finished
deriving DecidableEq

def LoopStage.phase : LoopStage → LoopPhase
  | .loading => .loading
  | .returned => .finished
  | _ => .begun

/-- What is seen of the deliveries. -/
inductive StreamMark where
  | pushed (frame : Frame)
  | created (connection : Nat)

def markOf : BridgeObservation → Option StreamMark
  | .pushed envelope => some (.pushed (envelope.seq, envelope.event))
  | .socketCreated c _ => some (.created c)
  | _ => none

def marksOf (out : List BridgeObservation) : List StreamMark := out.filterMap markOf

/-- A turn that changes one connection in a certain way, makes none, and delivers nothing. -/
structure Acts (s : Bridge) (c : Nat) (f : Pipe → Pipe) (turn : BridgeTurn) : Prop where
  coherent : Coherent turn.1
  self : streamAt turn.1 c = (streamAt s c).map f
  others : ∀ c', c' ≠ c → streamAt turn.1 c' = streamAt s c'
  silent : marksOf turn.2 = []
  done : turn.1.deliveries.done = s.deliveries.done
  ws : ∀ c', turn.1.ws = some c' → s.ws = some c'
  loop : turn.1.loop.map (·.stage.phase) = s.loop.map (·.stage.phase)

def onStream (f : Stream → Stream) (pipe : Pipe) : Pipe := (f pipe.1, pipe.2)

variable {config : BridgeConfig} {s t : Bridge} {c : Nat} {connection stored : Connection}
  {out : List BridgeObservation} {f g : Pipe → Pipe}

theorem marksOf_append (out later : List BridgeObservation) :
    marksOf (out ++ later) = marksOf out ++ marksOf later := by
  unfold marksOf
  rw [List.filterMap_append]

theorem marksOf_nil_of_forall (h : ∀ observation ∈ out, markOf observation = none) :
    marksOf out = [] := List.filterMap_eq_nil_iff.mpr h

theorem normal_stream (connection : Connection) (active : Bool) : (connection.stream active).Normal :=
  records_records _

theorem Coherent.of_active (h : Coherent s) (hConnection : s.connections.get c = some connection)
    (hActive : isActive s c connection = true) : s.ws = some c ∧ connection.settled = false ∧
      ∃ loop, s.loop = some loop ∧ loop.stage = .connecting c := by
  have hWs : s.ws = some c := by
    simp only [isActive, Bool.and_eq_true, beq_iff_eq] at hActive
    exact hActive.2
  obtain ⟨loop, connection', hLoop, hStage, hSame, -, hSettled⟩ := h.linked c hWs
  rw [hConnection] at hSame
  cases hSame
  exact ⟨hWs, hSettled, loop, hLoop, hStage⟩

/-! ### What turns do, in general -/

variable {turn : BridgeTurn} {change : Connection → Connection}

theorem Acts.of_eq (h : Acts s c f turn)
    (hEq : ∀ pipe, streamAt s c = some pipe → f pipe = g pipe) : Acts s c g turn := by
  refine ⟨h.coherent, ?_, h.others, h.silent, h.done, h.ws, h.loop⟩
  rw [h.self]
  exact Option.map_congr hEq

/-- One turn after another. -/
theorem Acts.andThen {turn : BridgeTurn} {next : Bridge → BridgeTurn} (hFirst : Acts s c f turn)
    (hNext : Acts turn.1 c g (next turn.1)) :
    Acts s c (fun pipe => g (f pipe)) (Kit.andThen turn next) := by
  refine ⟨hNext.coherent, ?_, ?_, ?_, hNext.done.trans hFirst.done, ?_, hNext.loop.trans hFirst.loop⟩
  · rw [andThen_fst, hNext.self, hFirst.self, Option.map_map]
    rfl
  · intro c' hNe
    exact (hNext.others c' hNe).trans (hFirst.others c' hNe)
  · rw [andThen_snd, marksOf_append, hFirst.silent, hNext.silent, List.append_nil]
  · intro c' hWs
    exact hFirst.ws c' (hNext.ws c' hWs)

/-- A turn after a change that is not seen. -/
theorem Acts.then_acts (hFirst : Acts s c f (t, [])) (hNext : Acts t c g turn) :
    Acts s c (fun pipe => g (f pipe)) turn :=
  @Acts.andThen s c f g (t, []) (fun _ => turn) hFirst hNext

theorem Acts.with_out (h : Acts s c f (t, [])) (hSilent : marksOf out = []) : Acts s c f (t, out) :=
  ⟨h.coherent, h.self, h.others, hSilent, h.done, h.ws, h.loop⟩

/-- Nothing that matters is changed. -/
theorem acts_of_same (h : Coherent s) (hConnections : t.connections = s.connections)
    (hWs : t.ws = s.ws) (hActive : t.activeConnectionId = s.activeConnectionId)
    (hDone : t.deliveries.done = s.deliveries.done)
    (hLoop : t.loop.map Loop.stage = s.loop.map Loop.stage) (hSilent : marksOf out = []) :
    Acts s c id (t, out) := by
  have hStage : ∀ loop, t.loop = some loop → ∃ before, s.loop = some before ∧
      before.stage = loop.stage := by
    intro loop hAfter
    rw [hAfter] at hLoop
    obtain ⟨before, hBefore, hEq⟩ := Option.map_eq_some_iff.mp hLoop.symm
    exact ⟨before, hBefore, hEq⟩
  have hAt : ∀ c', streamAt t c' = streamAt s c' := by
    intro c'
    unfold streamAt isActive
    rw [hConnections, hWs, hActive]
  refine ⟨⟨?_, ?_, ?_⟩, ?_, fun c' _ => hAt c', hSilent, hDone, ?_, ?_⟩
  · intro c' hPresent
    obtain ⟨before, connection, hBefore, hConnecting, hGet, hId, hSettled⟩ :=
      h.linked c' (hWs ▸ hPresent)
    rw [hBefore] at hLoop
    obtain ⟨loop, hAfter, hEq⟩ := Option.map_eq_some_iff.mp hLoop
    exact ⟨loop, connection, hAfter, hEq.trans hConnecting, hConnections ▸ hGet,
      hId.trans hActive.symm, hSettled⟩
  · intro c' connection hGet
    exact h.sound c' connection (hConnections ▸ hGet)
  · intro hOver loop hAfter
    obtain ⟨before, hBefore, hEq⟩ := hStage loop hAfter
    exact hEq ▸ h.finished (hDone ▸ hOver) before hBefore
  · rw [hAt, Option.map_id_apply]
  · intro c' hPresent
    exact hWs ▸ hPresent
  · have hMapped := congrArg (Option.map LoopStage.phase) hLoop
    simpa [Option.map_map, Function.comp_def] using hMapped

/-- After a turn, nothing that matters is changed. -/
theorem Acts.then_same {u : Bridge} (h : Acts s c f (t, [])) (hConnections : u.connections = t.connections)
    (hWs : u.ws = t.ws) (hActive : u.activeConnectionId = t.activeConnectionId)
    (hDone : u.deliveries.done = t.deliveries.done)
    (hLoop : u.loop.map Loop.stage = t.loop.map Loop.stage) (hSilent : marksOf out = []) :
    Acts s c f (u, out) :=
  @Acts.andThen s c f id (t, []) (fun _ => (u, out)) h
    (acts_of_same h.coherent hConnections hWs hActive hDone hLoop hSilent)

/-- A connection is changed, but not whether it is the present one. -/
theorem acts_modify (h : Coherent s) (hGet : s.connections.get c = some stored)
    (hSound : Sound (change stored)) (hId : (change stored).connectionId = stored.connectionId)
    (hSettled : s.ws = some c → (change stored).settled = stored.settled)
    (hSelf : ((change stored).stream (isActive s c stored), (change stored).unread) =
      f (stored.stream (isActive s c stored), stored.unread)) :
    Acts s c f (modifyConnection s c change, []) := by
  have hAfter : ∀ c', (modifyConnection s c change).connections.get c' =
      if c' = c then some (change stored) else s.connections.get c' := by
    intro c'
    show (s.connections.modify c change).get c' = _
    rw [Arena.get_modify]
    split
    · next hEq =>
      subst hEq
      rw [hGet]
      rfl
    · rfl
  refine ⟨⟨?_, ?_, h.finished⟩, ?_, ?_, rfl, rfl, fun c' hWs => hWs, rfl⟩
  · intro c' hWs
    obtain ⟨loop, connection, hLoop, hStage, hBefore, hActive, hOpen⟩ := h.linked c' hWs
    rw [hAfter]
    by_cases hEq : c' = c
    · subst hEq
      rw [hGet] at hBefore
      cases hBefore
      exact ⟨loop, _, hLoop, hStage, if_pos rfl, hId.trans hActive, (hSettled hWs).trans hOpen⟩
    · exact ⟨loop, connection, hLoop, hStage, (if_neg hEq).trans hBefore, hActive, hOpen⟩
  · intro c' connection hGet'
    rw [hAfter] at hGet'
    split at hGet'
    · cases hGet'
      exact hSound
    · exact h.sound c' connection hGet'
  · unfold streamAt
    rw [hAfter, if_pos rfl, hGet, Option.map_some, Option.map_some, Option.map_some, ← hSelf]
    have hSame : isActive (modifyConnection s c change) c (change stored) = isActive s c stored := by
      unfold isActive
      rw [hId]
      rfl
    rw [hSame]
  · intro c' hNe
    unfold streamAt
    rw [hAfter, if_neg hNe]
    rfl

theorem acts_leave (h : Coherent s) (hGet : s.connections.get c = some stored)
    (hPresent : s.ws = some c) (hSound : Sound (change stored))
    (hSelf : ((change stored).stream false, (change stored).unread) =
      f (stored.stream (isActive s c stored), stored.unread)) :
    Acts s c f ({ modifyConnection s c change with ws := none, activeConnectionId := 0 }, []) := by
  have hAfter : ∀ c', (modifyConnection s c change).connections.get c' =
      if c' = c then some (change stored) else s.connections.get c' := by
    intro c'
    show (s.connections.modify c change).get c' = _
    rw [Arena.get_modify]
    split
    · next hEq =>
      subst hEq
      rw [hGet]
      rfl
    · rfl
  have hInactive : ∀ c' connection, isActive ({ modifyConnection s c change with
      ws := none, activeConnectionId := 0 } : Bridge) c' connection = false := by
    intro c' connection
    simp [isActive]
  refine ⟨⟨?_, ?_, h.finished⟩, ?_, ?_, rfl, rfl, ?_, rfl⟩
  · intro c' hWs
    cases hWs
  · intro c' connection hGet'
    have hEntry : (modifyConnection s c change).connections.get c' = some connection := hGet'
    rw [hAfter] at hEntry
    split at hEntry
    · cases hEntry
      exact hSound
    · exact h.sound c' connection hEntry
  · unfold streamAt
    show ((modifyConnection s c change).connections.get c).map _ = _
    rw [hAfter, if_pos rfl, hGet, Option.map_some, Option.map_some, Option.map_some, ← hSelf,
      hInactive]
  · intro c' hNe
    unfold streamAt
    show ((modifyConnection s c change).connections.get c').map _ = _
    rw [hAfter, if_neg hNe]
    refine Option.map_congr fun connection _ => ?_
    have hOther : isActive s c' connection = false := by
      simp [isActive, hPresent, Ne.symm hNe]
    rw [hInactive, hOther]
  · intro c' hWs
    cases hWs

/-- The same, from a state that does not differ where it matters. -/
theorem Acts.from_same (h : Acts t c f turn) (hConnections : t.connections = s.connections)
    (hWs : t.ws = s.ws) (hActive : t.activeConnectionId = s.activeConnectionId)
    (hDeliveries : t.deliveries = s.deliveries) (hLoop : t.loop = s.loop) : Acts s c f turn := by
  have hAt : ∀ c', streamAt t c' = streamAt s c' := by
    intro c'
    unfold streamAt isActive
    rw [hConnections, hWs, hActive]
  refine ⟨h.coherent, ?_, ?_, h.silent, ?_, ?_, ?_⟩
  · rw [h.self, hAt]
  · intro c' hNe
    rw [h.others c' hNe, hAt]
  · rw [h.done, hDeliveries]
  · intro c' hPresent
    exact hWs ▸ h.ws c' hPresent
  · rw [h.loop, hLoop]

end OpenClaw
end Signet
