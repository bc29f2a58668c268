import Signet.OpenClaw.StartAnswers
import Signet.OpenClaw.StreamActs

/-!
# Delivery in order

Since a start the deliveries should have been given, one after another and none twice, the
frames that came after the authentication with a sequence number above the resume point.  A
message is read once it is decoded, whatever came before it, and what is at or below the last
delivered number is dropped.

* `Session`, `sessionOf` — what has come and what has been delivered since the last start.
* `InOrder` — what should hold after every run.
* `KeepsOrder` — the steps that leave it so.
* `Balanced`, `balanced_step` — what has come is what has been delivered and what is left.
* `inOrder_run` — in every run of such steps the deliveries are in order.
-/

namespace Signet
namespace OpenClaw

open Kit Schemas

/-! ## Sessions -/

/-- The frames that have come since the last start, and those delivered. -/
structure Session where
  resume : Nat
  /-- The frames that came after the authentication above the resume point, each once. -/
  due : List Frame
  pushed : List Frame
  last : Option Nat

def Session.fresh : Session := ⟨0, [], [], none⟩

/-- The frame a message brings that comes on the active connection, after what authenticates
it. -/
def arrivedFrame (config : BridgeConfig) (pipe : Pipe) (payload : Option Payload) : Option Frame :=
  if pipe.1.active && (pipe.1.after config pipe.2).authenticated then payload.bind Payload.due
  else none

/-- A frame has come. -/
def Session.arrive (session : Session) : Option Frame → Session
  | none => session
  | some frame =>
    if session.resume < frame.1 ∧ frame.1 ∉ session.due.map Prod.fst then
      { session with due := session.due ++ [frame] }
    else session

/-- What an event does to the session, apart from what is seen of it. -/
def Session.note (config : BridgeConfig) (session : Session) (o : BridgeOccurrence) : Session :=
  match o.label with
  | .crash => .fresh
  | .start => if o.pre.loop.isNone then .fresh else session
  | .loaded none _ => { session with resume := (resolveResumeSeq o.pre.persisted).getD 0 }
  | .message c data =>
    session.arrive ((streamAt o.pre c).bind fun pipe => arrivedFrame config pipe data.payload)
  | _ => session

def Session.mark (session : Session) : StreamMark → Session
  | .pushed frame => { session with pushed := session.pushed ++ [frame] }
  | .created c => { session with last := some c }

def Session.next (config : BridgeConfig) (session : Session) (o : BridgeOccurrence) : Session :=
  (marksOf o.out).foldl Session.mark (session.note config o)

/-- The session after a history. -/
def sessionOf (config : BridgeConfig) (h : List BridgeOccurrence) : Session :=
  h.foldl (Session.next config) .fresh

/-- Nothing of a connection is on its way. -/
def Connection.Still (connection : Connection) : Prop :=
  connection.decoding = [] ∧ connection.frameChain = [] ∧ connection.saving = none

/-- What has been delivered are the frames that came, in their order and each once, and all of
them when nothing is on its way. -/
structure InOrder (session : Session) (s : Bridge) : Prop where
  increasing : (session.pushed.map Prod.fst).Pairwise fun seq later => seq < later
  initial : session.pushed <+: session.due
  complete : (∀ c connection, s.connections.get c = some connection → connection.Still) →
    session.pushed = session.due

/-! ## The steps that keep the order -/

/-- A frame that is new is above all that have come. -/
def ArrivesInOrder (session : Session) (arrived : Option Frame) : Prop :=
  ∀ frame, arrived = some frame → session.resume < frame.1 →
    frame.1 ∉ session.due.map Prod.fst → ∀ earlier ∈ session.due, earlier.1 < frame.1

/-- No connection has anything left to deliver. -/
def NothingLeft (config : BridgeConfig) (s : Bridge) : Prop :=
  ∀ c pipe, streamAt s c = some pipe → remaining config pipe = []

/-- The connection has nothing left to deliver, or is authenticated. -/
def LosesNothing (config : BridgeConfig) (s : Bridge) (c : Nat) : Prop :=
  ∀ pipe, streamAt s c = some pipe → pipe.1.authenticated = false → remaining config pipe = []

/-- The next connection is made from where the last one has come to. -/
def ResumesFromLast (session : Session) (s : Bridge) : Prop :=
  ∀ loop, s.loop = some loop → loop.stage = .woken → s.stopped = false →
    ∀ c pipe, session.last = some c → streamAt s c = some pipe →
      pipe.1.mark = (resolveResumeSeq loop.resumeCheckpoint).getD 0

/-- A step that leaves the deliveries in order: a frame comes in its order, a message is read as
if in its turn, no save fails, a connection that is not authenticated loses nothing at its end,
and the loop ends, or makes another connection, only when nothing is left to deliver. -/
def KeepsOrder (config : BridgeConfig) (session : Session) (s : Bridge) : BridgeLabel → Prop
  | .message c data => ∀ pipe, streamAt s c = some pipe → pipe.1.active = true →
      ArrivesInOrder session (arrivedFrame config pipe data.payload) ∧
        ∀ payload, data = .text payload →
          pipe.1.left config (payload :: pipe.2) = pipe.1.left config (pipe.2 ++ [payload])
  | .decoded c task => ∀ connection pipe payload, s.connections.get c = some connection →
      streamAt s c = some pipe → decodingTask connection task = some payload →
        pipe.1.left config (payload :: (connection.dropTask task).unread) = remaining config pipe
  | .decodeFailed c task => ∀ connection pipe, s.connections.get c = some connection →
      streamAt s c = some pipe →
        pipe.1.left config (connection.dropTask task).unread = remaining config pipe
  | .saved _ failure => failure = none
  | .stop => ∀ c, s.ws = some c → LosesNothing config s c
  | .authTimeout c | .socketClose c _ _ => LosesNothing config s c
  | .continueLoop _ =>
    sleepsAfter config s = true ∨ (NothingLeft config s ∧ ResumesFromLast session s)
  | _ => True

/-! ## The balance -/

/-- What has come is what has been delivered and what is left of the last connection. -/
structure Balanced (config : BridgeConfig) (session : Session) (s : Bridge) : Prop where
  coherent : Coherent s
  idle : session.last = none → session.due = [] ∧ session.pushed = []
  known : ∀ c, session.last = some c → ∃ pipe, streamAt s c = some pipe ∧
    session.due = session.pushed ++ remaining config pipe ∧ session.resume ≤ pipe.1.mark ∧
    (pipe.1.mark = session.resume ∨ pipe.1.mark ∈ session.pushed.map Prod.fst) ∧
    ∀ frame ∈ session.pushed, frame.1 ≤ pipe.1.mark
  others : ∀ c pipe, streamAt s c = some pipe → session.last ≠ some c → remaining config pipe = []
  present : ∀ c, s.ws = some c → session.last = some c
  loading : ∀ loop, s.loop = some loop → loop.stage.phase = .loading → session.last = none
  begun : ∀ loop, s.loop = some loop → loop.stage.phase = .begun → session.last.isSome = true
  increasing : session.due.Pairwise fun frame later => frame.1 < later.1
  above : ∀ frame ∈ session.due, session.resume < frame.1
  ended : (∀ loop, s.loop = some loop → loop.stage.phase = .finished) → NothingLeft config s

variable {config : BridgeConfig} {session : Session} {s t : Bridge} {c : Nat}
  {connection : Connection} {label : BridgeLabel} {out : List BridgeObservation} {f : Pipe → Pipe}

theorem Balanced.inOrder (h : Balanced config session s) : InOrder session s := by
  have hInitial : session.pushed <+: session.due := by
    cases hLast : session.last with
    | none =>
      rw [(h.idle hLast).2]
      exact List.nil_prefix
    | some c =>
      obtain ⟨pipe, -, hDue, -⟩ := h.known c hLast
      rw [hDue]
      exact List.prefix_append _ _
  refine ⟨?_, hInitial, ?_⟩
  · exact List.pairwise_map.mpr (List.Pairwise.sublist hInitial.sublist h.increasing)
  · intro hStill
    cases hLast : session.last with
    | none => rw [(h.idle hLast).1, (h.idle hLast).2]
    | some c =>
      obtain ⟨pipe, hPipe, hDue, -⟩ := h.known c hLast
      obtain ⟨connection, hGet, rfl⟩ := Option.map_eq_some_iff.mp hPipe
      obtain ⟨hDecoding, hChain, hSaving⟩ := hStill c connection hGet
      have hNone : remaining config
          (connection.stream (isActive s c connection), connection.unread) = [] := by
        simp [remaining, Connection.unread, hDecoding, Stream.left_nil, Connection.stream,
          Connection.waiting, hChain, hSaving]
      rw [hDue, hNone, List.append_nil]

/-! ### A connection is changed -/

/-- **The balance is kept** where what comes is left to deliver. -/
theorem Balanced.of_changes (h : Balanced config session s) (hChanges : Changes s c f t)
    {arrived : List Frame} (hPresent : arrived ≠ [] → s.ws = some c)
    (hKeeps : ∀ pipe, streamAt s c = some pipe → (f pipe).1.mark = pipe.1.mark ∧
      remaining config (f pipe) = remaining config pipe ++ arrived)
    (hIncreasing : (session.due ++ arrived).Pairwise fun frame later => frame.1 < later.1)
    (hAbove : ∀ frame ∈ arrived, session.resume < frame.1) :
    Balanced config { session with due := session.due ++ arrived } t := by
  have hLast : arrived ≠ [] → session.last = some c := fun hSome => h.present c (hPresent hSome)
  have hAt : ∀ c' pipe, streamAt t c' = some pipe → ∃ before, streamAt s c' = some before ∧
      (c' = c ∧ pipe = f before ∨ c' ≠ c ∧ pipe = before) := by
    intro c' pipe hPipe
    by_cases hEq : c' = c
    · subst hEq
      rw [hChanges.self] at hPipe
      obtain ⟨before, hBefore, hMapped⟩ := Option.map_eq_some_iff.mp hPipe
      exact ⟨before, hBefore, Or.inl ⟨rfl, hMapped.symm⟩⟩
    · rw [hChanges.others c' hEq] at hPipe
      exact ⟨pipe, hPipe, Or.inr ⟨hEq, rfl⟩⟩
  have hPhase : ∀ loop, t.loop = some loop →
      ∃ before, s.loop = some before ∧ before.stage.phase = loop.stage.phase := by
    intro loop hLoop
    have hSame := hChanges.loop
    rw [hLoop] at hSame
    obtain ⟨before, hBefore, hEq⟩ := Option.map_eq_some_iff.mp hSame.symm
    exact ⟨before, hBefore, hEq⟩
  refine ⟨hChanges.coherent, ?_, ?_, ?_, ?_, ?_, ?_, hIncreasing, ?_, ?_⟩
  · intro hNone
    have hNothing : arrived = [] := by
      by_contra hSome
      have hBoth : session.last = some c := hLast hSome
      rw [show session.last = none from hNone] at hBoth
      cases hBoth
    rw [hNothing]
    exact ⟨by rw [List.append_nil]; exact (h.idle hNone).1, (h.idle hNone).2⟩
  · intro c' hLast'
    obtain ⟨pipe, hPipe, hDue, hResume, hMark, hPushed⟩ := h.known c' hLast'
    by_cases hEq : c' = c
    · subst hEq
      obtain ⟨hSame, hLeft⟩ := hKeeps pipe hPipe
      refine ⟨f pipe, ?_, ?_, ?_, ?_, ?_⟩
      · rw [hChanges.self, hPipe]
        rfl
      · show session.due ++ arrived = session.pushed ++ remaining config (f pipe)
        rw [hLeft, hDue, List.append_assoc]
      · rw [hSame]
        exact hResume
      · rw [hSame]
        exact hMark
      · rw [hSame]
        exact hPushed
    · have hNothing : arrived = [] := by
        by_contra hSome
        have hBoth : session.last = some c := hLast hSome
        rw [show session.last = some c' from hLast'] at hBoth
        exact hEq (Option.some.inj hBoth)
      refine ⟨pipe, ?_, ?_, hResume, hMark, hPushed⟩
      · rw [hChanges.others c' hEq, hPipe]
      · show session.due ++ arrived = session.pushed ++ remaining config pipe
        rw [hNothing, List.append_nil, hDue]
  · intro c' pipe hPipe hOther
    obtain ⟨before, hBefore, hCase⟩ := hAt c' pipe hPipe
    have hNone := h.others c' before hBefore hOther
    rcases hCase with ⟨rfl, rfl⟩ | ⟨-, rfl⟩
    · have hNothing : arrived = [] := by
        by_contra hSome
        exact hOther (hLast hSome)
      rw [(hKeeps before hBefore).2, hNone, hNothing]
      rfl
    · exact hNone
  · intro c' hWs
    exact h.present c' (hChanges.ws c' hWs)
  · intro loop hLoop hLoading
    obtain ⟨before, hBefore, hEq⟩ := hPhase loop hLoop
    exact h.loading before hBefore (hEq.trans hLoading)
  · intro loop hLoop hBegun
    obtain ⟨before, hBefore, hEq⟩ := hPhase loop hLoop
    exact h.begun before hBefore (hEq.trans hBegun)
  · intro frame hMem
    rcases List.mem_append.mp hMem with hMem | hMem
    · exact h.above frame hMem
    · exact hAbove frame hMem
  · intro hOver c' pipe hPipe
    have hBefore : ∀ loop, s.loop = some loop → loop.stage.phase = .finished := by
      intro loop hLoop
      have hSame := hChanges.loop
      rw [hLoop, Option.map_some] at hSame
      obtain ⟨later, hLater, hEq⟩ := Option.map_eq_some_iff.mp hSame
      exact hEq.symm.trans (hOver later hLater)
    have hNothing : arrived = [] := by
      by_contra hSome
      obtain ⟨loop, -, hLoop, hStage, -⟩ := h.coherent.linked c (hPresent hSome)
      have hPhase := hBefore loop hLoop
      rw [hStage] at hPhase
      cases hPhase
    obtain ⟨before, hAtBefore, hCase⟩ := hAt c' pipe hPipe
    have hNone := h.ended hBefore c' before hAtBefore
    rcases hCase with ⟨rfl, rfl⟩ | ⟨-, rfl⟩
    · rw [(hKeeps before hAtBefore).2, hNone, hNothing]
      rfl
    · exact hNone

theorem Balanced.of_same_left (h : Balanced config session s) (hChanges : Changes s c f t)
    (hKeeps : ∀ pipe, streamAt s c = some pipe → (f pipe).1.mark = pipe.1.mark ∧
      remaining config (f pipe) = remaining config pipe) : Balanced config session t := by
  have hSame := h.of_changes hChanges
    (show ([] : List Frame) ≠ [] → s.ws = some c from fun hSome => absurd rfl hSome)
    (fun pipe hPipe => by rw [List.append_nil]; exact hKeeps pipe hPipe)
    (by rw [List.append_nil]; exact h.increasing) (by simp)
  rwa [List.append_nil] at hSame

variable {turn : BridgeTurn} {loop : Loop} {payload : Option Payload} {pipe : Pipe}

theorem normal_of_streamAt (hPipe : streamAt s c = some pipe) : pipe.1.Normal := by
  obtain ⟨connection, -, rfl⟩ := Option.map_eq_some_iff.mp hPipe
  exact normal_stream _ _

theorem ws_of_active (hPipe : streamAt s c = some pipe) (hActive : pipe.1.active = true) :
    s.ws = some c := by
  obtain ⟨connection, -, rfl⟩ := Option.map_eq_some_iff.mp hPipe
  have hPresent : isActive s c connection = true := hActive
  simp only [isActive, Bool.and_eq_true, beq_iff_eq] at hPresent
  exact hPresent.2

/-! ### A frame comes -/

/-- A message that is no frame, or comes before the authentication, adds nothing to what is left. -/
theorem left_snoc_of_none (hNormal : pipe.1.Normal) (hActive : pipe.1.active = true)
    (hNone : arrivedFrame config pipe payload = none) :
    pipe.1.left config (pipe.2 ++ [payload]) = remaining config pipe := by
  unfold remaining Stream.left
  rw [Stream.after_snoc]
  have hAfter : (pipe.1.after config pipe.2).Normal := Stream.normal_after hNormal pipe.2
  unfold arrivedFrame at hNone
  rw [hActive, Bool.true_and] at hNone
  cases payload with
  | none => rfl
  | some payload =>
    cases hAuthenticated : (pipe.1.after config pipe.2).authenticated with
    | true =>
      rw [hAuthenticated, if_pos rfl] at hNone
      have hDue : payload.due = none := hNone
      simp only [Stream.read]
      rw [if_pos hAuthenticated, hDue, Option.toList_none, Stream.chain_nil hAfter]
    | false => exact Stream.read_ahead hAuthenticated (some payload)

/-- What a frame adds to what is left: itself, where it is above the rest. -/
theorem left_snoc_of_some {frame : Frame} (hNormal : pipe.1.Normal)
    (hSome : arrivedFrame config pipe payload = some frame) :
    pipe.1.left config (pipe.2 ++ [payload]) = remaining config pipe ++
      if pipe.1.mark < frame.1 ∧ ∀ kept ∈ remaining config pipe, kept.1 < frame.1 then [frame]
      else [] := by
  unfold arrivedFrame at hSome
  split at hSome
  · next hActive =>
    obtain ⟨message, rfl, hDue⟩ := Option.bind_eq_some_iff.mp hSome
    rw [Bool.and_eq_true] at hActive
    have hAfter : newFrames (pipe.1.after config pipe.2).mark (pipe.1.after config pipe.2).ahead =
        (pipe.1.after config pipe.2).ahead := Stream.normal_after hNormal pipe.2
    have hRead : (pipe.1.after config pipe.2).read config (some message) =
        (pipe.1.after config pipe.2).add [frame] := by
      simp only [Stream.read]
      rw [if_pos hActive.2, hDue, Option.toList_some, Stream.chain_of_authenticated hActive.2]
    unfold remaining Stream.left
    rw [Stream.after_snoc, hRead]
    show newFrames (pipe.1.after config pipe.2).mark (_ ++ [frame]) = _
    rw [newFrames, records_snoc, ← newFrames, hAfter, Stream.after_mark]
  · cases hSome

/-- **A frame comes.**  What is new in the session is what is new on the connection. -/
theorem Balanced.of_arrival (h : Balanced config session s) (hChanges : Changes s c f t)
    (hPipe : streamAt s c = some pipe) (hActive : pipe.1.active = true)
    (hOrder : ArrivesInOrder session (arrivedFrame config pipe payload))
    (hMark : (f pipe).1.mark = pipe.1.mark)
    (hLeft : remaining config (f pipe) = pipe.1.left config (pipe.2 ++ [payload])) :
    Balanced config (session.arrive (arrivedFrame config pipe payload)) t := by
  have hNormal := normal_of_streamAt hPipe
  have hWs := ws_of_active hPipe hActive
  have hOnly : ∀ pipe', streamAt s c = some pipe' → pipe' = pipe := by
    intro pipe' hPipe'
    rw [hPipe] at hPipe'
    exact (Option.some.inj hPipe').symm
  cases hArrived : arrivedFrame config pipe payload with
  | none =>
    refine h.of_same_left hChanges ?_
    intro pipe' hPipe'
    rw [hOnly pipe' hPipe']
    exact ⟨hMark, hLeft.trans (left_snoc_of_none hNormal hActive hArrived)⟩
  | some frame =>
    have hSnoc := left_snoc_of_some hNormal hArrived
    obtain ⟨pipe', hPipe', hDue, hResume, hReached, hPushed⟩ := h.known c (h.present c hWs)
    rw [hOnly pipe' hPipe'] at hDue hResume hReached hPushed
    by_cases hNew : session.resume < frame.1 ∧ frame.1 ∉ session.due.map Prod.fst
    · have hAbove := hOrder frame hArrived hNew.1 hNew.2
      -- The mark is the resume point, or that of a frame that has come.
      have hLt : pipe.1.mark < frame.1 := by
        rcases hReached with hEq | hMem
        · rw [hEq]
          exact hNew.1
        · obtain ⟨earlier, hEarlier, hEq⟩ := List.mem_map.mp hMem
          rw [← hEq]
          refine hAbove earlier ?_
          rw [hDue]
          exact List.mem_append_left _ hEarlier
      have hKept : ∀ kept ∈ remaining config pipe, kept.1 < frame.1 := by
        intro kept hMem
        refine hAbove kept ?_
        rw [hDue]
        exact List.mem_append_right _ hMem
      rw [if_pos ⟨hLt, hKept⟩] at hSnoc
      have hSession : session.arrive (some frame) =
          { session with due := session.due ++ [frame] } := if_pos hNew
      rw [hSession]
      refine h.of_changes hChanges (fun _ => hWs) ?_ ?_ ?_
      · intro pipe' hPipe'
        rw [hOnly pipe' hPipe']
        exact ⟨hMark, hLeft.trans hSnoc⟩
      · rw [List.pairwise_append]
        refine ⟨h.increasing, List.pairwise_singleton _ _, ?_⟩
        intro earlier hEarlier later hLater
        cases List.mem_singleton.mp hLater
        exact hAbove earlier hEarlier
      · intro later hLater
        cases List.mem_singleton.mp hLater
        exact hNew.1
    · have hSession : session.arrive (some frame) = session := if_neg hNew
      rw [hSession]
      have hOld : ¬(pipe.1.mark < frame.1 ∧ ∀ kept ∈ remaining config pipe, kept.1 < frame.1) := by
        rintro ⟨hLt, hKept⟩
        refine hNew ⟨Nat.lt_of_le_of_lt hResume hLt, ?_⟩
        intro hMem
        obtain ⟨earlier, hEarlier, hEq⟩ := List.mem_map.mp hMem
        rw [hDue] at hEarlier
        rcases List.mem_append.mp hEarlier with hEarlier | hEarlier
        · have hLe := hPushed earlier hEarlier
          omega
        · have hLt' := hKept earlier hEarlier
          omega
      rw [if_neg hOld, List.append_nil] at hSnoc
      refine h.of_same_left hChanges ?_
      intro pipe' hPipe'
      rw [hOnly pipe' hPipe']
      exact ⟨hMark, hLeft.trans hSnoc⟩

/-! ### A delivery -/

/-- **A delivery.**  It is of the last connection, and the next that is due. -/
theorem Balanced.of_delivery (h : Balanced config session s)
    (hGet : s.connections.get c = some connection) {save : Save}
    (hSaving : connection.saving = some save) :
    Balanced config { session with pushed := session.pushed ++ [save.event] } (deliver s c save).1 ∧
      marksOf (deliver s c save).2 = [.pushed save.event] := by
  have hChanges := deliver_changes h.coherent hGet hSaving
  obtain ⟨hAuthenticated, hNew, hAhead⟩ := ahead_of_saving (h.coherent.sound c connection hGet) hSaving
    (isActive s c connection)
  have hPipe := streamAt_eq hGet
  have hLeft : remaining config (connection.stream (isActive s c connection), connection.unread) =
      save.event :: remaining config ({ connection.stream (isActive s c connection) with
        mark := save.event.1
        ahead := (connection.stream (isActive s c connection)).ahead.tail }, connection.unread) := by
    rw [hAhead, List.tail_cons]
    exact Stream.left_delivered hAuthenticated hAhead hNew _
  have hLast : session.last = some c := by
    by_contra hOther
    have hNone := h.others c _ hPipe hOther
    rw [hLeft] at hNone
    cases hNone
  have hRunning : ∃ loop, s.loop = some loop ∧ loop.stage.phase ≠ .finished := by
    by_contra hOver
    have hNone := h.ended (fun loop hLoop => by
      by_contra hPhase
      exact hOver ⟨loop, hLoop, hPhase⟩) c _ hPipe
    rw [hLeft] at hNone
    cases hNone
  have hOpen : s.deliveries.done = false := by
    cases hDone : s.deliveries.done with
    | false => rfl
    | true =>
      obtain ⟨loop, hLoop, hPhase⟩ := hRunning
      rw [h.coherent.finished hDone loop hLoop] at hPhase
      exact absurd rfl hPhase
  obtain ⟨pipe, hPipe', hDue, hResume, -, hPushed⟩ := h.known c hLast
  rw [hPipe] at hPipe'
  cases hPipe'
  have hMark : (connection.stream (isActive s c connection)).mark < save.event.1 := hNew
  refine ⟨⟨hChanges.coherent, ?_, ?_, ?_, ?_, ?_, ?_, h.increasing, h.above, ?_⟩, ?_⟩
  · intro hNone
    rw [show session.last = none from hNone] at hLast
    cases hLast
  · intro c' hLast'
    have hEq : c' = c := by
      rw [show session.last = some c' from hLast'] at hLast
      exact Option.some.inj hLast
    subst hEq
    refine ⟨_, by rw [hChanges.self, hPipe]; rfl, ?_, ?_, ?_, ?_⟩
    · show session.due = (session.pushed ++ [save.event]) ++ _
      rw [hDue, hLeft, List.append_assoc]
      rfl
    · exact Nat.le_of_lt (Nat.lt_of_le_of_lt hResume hMark)
    · right
      simp
    · intro frame hMem
      rcases List.mem_append.mp hMem with hMem | hMem
      · exact Nat.le_of_lt (Nat.lt_of_le_of_lt (hPushed frame hMem) hMark)
      · cases List.mem_singleton.mp hMem
        exact le_rfl
  · intro c' pipe hPipe' hOther
    have hNe : c' ≠ c := fun hEq => hOther (hEq ▸ hLast)
    rw [hChanges.others c' hNe] at hPipe'
    exact h.others c' pipe hPipe' hOther
  · intro c' hWs
    exact h.present c' (hChanges.ws c' hWs)
  · intro loop hLoop hLoading
    have hSame := hChanges.loop
    rw [hLoop, Option.map_some] at hSame
    obtain ⟨before, hBefore, hEq⟩ := Option.map_eq_some_iff.mp hSame.symm
    exact h.loading before hBefore (hEq.trans hLoading)
  · intro loop hLoop hBegun
    exact hLast ▸ rfl
  · intro hOver
    obtain ⟨loop, hLoop, hPhase⟩ := hRunning
    have hSame := hChanges.loop
    rw [hLoop, Option.map_some] at hSame
    obtain ⟨later, hLater, hEq⟩ := Option.map_eq_some_iff.mp hSame
    exact absurd (hEq.symm.trans (hOver later hLater)) hPhase
  · have hMarks := marksOf_pushDelivery (modifyConnection s c fun connection =>
      { connection with
        saving := none
        currentCheckpoint := some save.checkpoint
        lastDeliveredSeq := save.checkpoint.lastSeq }) save.envelope
    have hStill : (modifyConnection s c fun connection =>
      { connection with
        saving := none
        currentCheckpoint := some save.checkpoint
        lastDeliveredSeq := save.checkpoint.lastSeq }).deliveries.done = false := hOpen
    rw [hStill] at hMarks
    exact hMarks

/-! ### The loop -/

/-- Without a present connection the streams depend on the connections alone. -/
theorem streamAt_of_idle (hConnections : t.connections = s.connections) (hBefore : s.ws = none)
    (hAfter : t.ws = none) (c : Nat) : streamAt t c = streamAt s c := by
  unfold streamAt
  rw [hConnections]
  refine Option.map_congr fun connection _ => ?_
  have hInactive : isActive t c connection = false := by simp [isActive, hAfter]
  have hInactive' : isActive s c connection = false := by simp [isActive, hBefore]
  rw [hInactive, hInactive']

section

variable (h : Balanced config session s)

include h

/-- While no connection is awaited, none is the present one. -/
theorem Balanced.idle_ws (hLoop : s.loop = some loop) (hStage : ∀ c, loop.stage ≠ .connecting c) :
    s.ws = none := by
  cases hWs : s.ws with
  | none => rfl
  | some c =>
    obtain ⟨loop', -, hLoop', hConnecting, -⟩ := h.coherent.linked c hWs
    rw [hLoop] at hLoop'
    cases hLoop'
    exact absurd hConnecting (hStage c)

theorem Balanced.of_over (hConnections : t.connections = s.connections) (hBefore : s.ws = none)
    (hAfter : t.ws = none) (hLoop : ∀ loop, t.loop = some loop → loop.stage = .returned)
    (hNothing : NothingLeft config s) : Balanced config session t := by
  have hAt := streamAt_of_idle hConnections hBefore hAfter
  refine ⟨⟨?_, ?_, fun _ => hLoop⟩, h.idle, ?_, ?_, ?_, ?_, ?_, h.increasing, h.above, ?_⟩
  · intro c hWs
    rw [hAfter] at hWs
    cases hWs
  · intro c connection hGet
    exact h.coherent.sound c connection (hConnections ▸ hGet)
  · intro c hLast
    rw [hAt]
    exact h.known c hLast
  · intro c pipe hPipe
    exact h.others c pipe (hAt c ▸ hPipe)
  · intro c hWs
    rw [hAfter] at hWs
    cases hWs
  · intro loop hSome hPhase
    rw [hLoop loop hSome] at hPhase
    cases hPhase
  · intro loop hSome hPhase
    rw [hLoop loop hSome] at hPhase
    cases hPhase
  · intro _ c pipe hPipe
    exact hNothing c pipe (hAt c ▸ hPipe)

/-- **A connection is made** from where the last one has come to. -/
theorem Balanced.of_connects {checkpoint : Option Checkpoint}
    (hConnects : Connects s checkpoint turn) (hBefore : s.ws = none)
    (hOpen : s.deliveries.done = false) (hNothing : NothingLeft config s)
    (hResume : session.last = none → session.resume = (resolveResumeSeq checkpoint).getD 0)
    (hMark : ∀ c pipe, session.last = some c → streamAt s c = some pipe →
      pipe.1.mark = (resolveResumeSeq checkpoint).getD 0) :
    Balanced config { session with last := some s.connections.next } turn.1 := by
  have hGet : ∀ c, turn.1.connections.get c =
      if c = s.connections.next then
        some (newConnection (s.activeConnectionId + 1) checkpoint)
      else s.connections.get c := by
    intro c
    rw [hConnects.connections, Arena.get_alloc]
  have hNew : streamAt turn.1 s.connections.next =
      some (⟨true, false, (resolveResumeSeq checkpoint).getD 0, []⟩, []) := by
    unfold streamAt
    rw [hGet, if_pos rfl, Option.map_some]
    have hActive : isActive turn.1 s.connections.next
        (newConnection (s.activeConnectionId + 1) checkpoint) = true := by
      simp [isActive, hConnects.ws, hConnects.active, newConnection]
    rw [hActive]
    rfl
  have hOld : ∀ c, c ≠ s.connections.next → streamAt turn.1 c = streamAt s c := by
    intro c hNe
    unfold streamAt
    rw [hGet, if_neg hNe]
    refine Option.map_congr fun connection _ => ?_
    have hInactive : isActive turn.1 c connection = false := by
      simp [isActive, hConnects.ws, Ne.symm hNe]
    have hInactive' : isActive s c connection = false := by simp [isActive, hBefore]
    rw [hInactive, hInactive']
  obtain ⟨later, hLater, hStage⟩ := hConnects.loop
  have hDue : session.due = session.pushed ∧ session.resume ≤ (resolveResumeSeq checkpoint).getD 0 ∧
      ((resolveResumeSeq checkpoint).getD 0 = session.resume ∨
        (resolveResumeSeq checkpoint).getD 0 ∈ session.pushed.map Prod.fst) ∧
      ∀ frame ∈ session.pushed, frame.1 ≤ (resolveResumeSeq checkpoint).getD 0 := by
    cases hLast : session.last with
    | none =>
      obtain ⟨hNoDue, hNoPushed⟩ := h.idle hLast
      rw [hNoDue, hNoPushed, hResume hLast]
      exact ⟨rfl, le_rfl, Or.inl rfl, fun frame hMem => by cases hMem⟩
    | some c =>
      obtain ⟨pipe, hPipe, hBalance, hLe, hReached, hPushed⟩ := h.known c hLast
      rw [hMark c pipe hLast hPipe] at hLe hReached hPushed
      rw [hNothing c pipe hPipe, List.append_nil] at hBalance
      exact ⟨hBalance, hLe, hReached, hPushed⟩
  refine ⟨⟨?_, ?_, ?_⟩, ?_, ?_, ?_, ?_, ?_, ?_, h.increasing, h.above, ?_⟩
  · intro c hWs
    rw [hConnects.ws] at hWs
    cases hWs
    exact ⟨later, _, hLater, hStage, (hGet _).trans (if_pos rfl), hConnects.active.symm, rfl⟩
  · intro c connection hSome
    rw [hGet] at hSome
    split at hSome
    · cases hSome
      refine ⟨fun _ => ⟨rfl, rfl, rfl⟩, ?_, ?_⟩
      · intro hAuthenticated
        cases hAuthenticated
      · intro save hSave
        cases hSave
    · exact h.coherent.sound c connection hSome
  · intro hDone
    rw [hConnects.deliveries, hOpen] at hDone
    cases hDone
  · intro hNone
    cases hNone
  · intro c hLast
    cases hLast
    refine ⟨_, hNew, ?_, hDue.2.1, hDue.2.2.1, hDue.2.2.2⟩
    show session.due = session.pushed ++ []
    rw [List.append_nil]
    exact hDue.1
  · intro c pipe hPipe hOther
    have hNe : c ≠ s.connections.next := fun hEq => hOther (hEq ▸ rfl)
    rw [hOld c hNe] at hPipe
    exact hNothing c pipe hPipe
  · intro c hWs
    rw [hConnects.ws] at hWs
    exact hWs
  · intro loop hLoop hPhase
    rw [hLater] at hLoop
    cases hLoop
    rw [hStage] at hPhase
    cases hPhase
  · intro loop hLoop hPhase
    rfl
  · intro hOver
    have hPhase := hOver later hLater
    rw [hStage] at hPhase
    cases hPhase

/-- **A start**: a session begins, with nothing left of those before. -/
theorem Balanced.of_begin (hNoLoop : s.loop = none) (hConnections : t.connections = s.connections)
    (hWs : t.ws = s.ws) (hDone : t.deliveries.done = false) (hLoop : t.loop = some loop)
    (hStage : loop.stage = .loading) : Balanced config .fresh t := by
  have hIdle : s.ws = none := by
    cases hPresent : s.ws with
    | none => rfl
    | some c =>
      obtain ⟨loop', -, hSome, -⟩ := h.coherent.linked c hPresent
      rw [hNoLoop] at hSome
      cases hSome
  have hNothing : NothingLeft config s := h.ended fun loop hSome => by
    rw [hNoLoop] at hSome
    cases hSome
  have hAfter : t.ws = none := hWs.trans hIdle
  have hAt := streamAt_of_idle hConnections hIdle hAfter
  refine ⟨⟨?_, ?_, ?_⟩, fun _ => ⟨rfl, rfl⟩, ?_, ?_, ?_, fun _ _ _ => rfl, ?_, List.Pairwise.nil, ?_,
    ?_⟩
  · intro c hPresent
    rw [hAfter] at hPresent
    cases hPresent
  · intro c connection hGet
    exact h.coherent.sound c connection (hConnections ▸ hGet)
  · intro hOver
    rw [hDone] at hOver
    cases hOver
  · intro c hLast
    cases hLast
  · intro c pipe hPipe _
    exact hNothing c pipe (hAt c ▸ hPipe)
  · intro c hPresent
    rw [hAfter] at hPresent
    cases hPresent
  · intro loop' hSome hPhase
    rw [hLoop] at hSome
    cases hSome
    rw [hStage] at hPhase
    cases hPhase
  · intro frame hMem
    cases hMem
  · intro hOver
    have hPhase := hOver loop hLoop
    rw [hStage] at hPhase
    cases hPhase

end

/-- A bridge without a loop and without connections. -/
theorem balanced_of_empty (hConnections : s.connections = .empty) (hWs : s.ws = none)
    (hLoop : s.loop = none) : Balanced config .fresh s := by
  have hNone : ∀ c, streamAt s c = none := by
    intro c
    unfold streamAt
    rw [hConnections, Arena.get_empty]
    rfl
  have hNoLoop : ∀ loop, s.loop ≠ some loop := by
    intro loop hSome
    rw [hLoop] at hSome
    cases hSome
  refine ⟨⟨?_, ?_, fun _ loop hSome => absurd hSome (hNoLoop loop)⟩, fun _ => ⟨rfl, rfl⟩, ?_, ?_, ?_,
    fun _ _ _ => rfl, fun loop hSome => absurd hSome (hNoLoop loop), List.Pairwise.nil, ?_, ?_⟩
  · intro c hPresent
    rw [hWs] at hPresent
    cases hPresent
  · intro c connection hGet
    rw [hConnections, Arena.get_empty] at hGet
    cases hGet
  · intro c hLast
    cases hLast
  · intro c pipe hPipe
    rw [hNone] at hPipe
    cases hPipe
  · intro c hPresent
    rw [hWs] at hPresent
    cases hPresent
  · intro frame hMem
    cases hMem
  · intro _ c pipe hPipe
    rw [hNone] at hPipe
    cases hPipe

/-! ### A step -/

theorem next_of_silent (hSilent : marksOf out = []) :
    session.next config ⟨s, label, out⟩ = session.note config ⟨s, label, out⟩ := by
  unfold Session.next
  rw [hSilent]
  rfl

theorem Balanced.of_acts_id (h : Balanced config session s) (hActs : Acts s c id (t, out)) :
    Balanced config session t := h.of_same_left hActs.changes fun _ _ => ⟨rfl, rfl⟩

theorem remaining_ended (h : Coherent s) (hPipe : streamAt s c = some pipe)
    (hLoses : pipe.1.authenticated = false → remaining config pipe = []) :
    remaining config (onStream Stream.ended pipe) = remaining config pipe := by
  cases hAuthenticated : pipe.1.authenticated with
  | true => exact Stream.left_ended hAuthenticated pipe.2
  | false =>
    obtain ⟨connection, hGet, rfl⟩ := Option.map_eq_some_iff.mp hPipe
    obtain ⟨hChain, hSaving, -⟩ := (h.sound c connection hGet).unauthenticated hAuthenticated
    have hAhead : (connection.stream (isActive s c connection)).ended.ahead = [] := by
      simp [Stream.ended, Connection.stream, Connection.waiting, hChain, hSaving]
    have hUnauthenticated :
        (connection.stream (isActive s c connection)).ended.authenticated = false := hAuthenticated
    rw [hLoses hAuthenticated]
    exact (Stream.left_of_idle hUnauthenticated rfl connection.unread).trans hAhead

section

variable (h : Balanced config session s)

include h

/-- A connection is over. -/
theorem Balanced.of_ended (hChanges : Changes s c (onStream Stream.ended) t)
    (hLoses : LosesNothing config s c) :
    Balanced config session t :=
  h.of_same_left hChanges fun pipe hPipe =>
    ⟨rfl, remaining_ended h.coherent hPipe (hLoses pipe hPipe)⟩

theorem Balanced.of_start (hStep : start s = (t, out)) :
    Balanced config (session.next config ⟨s, .start, out⟩) t := by
  unfold start at hStep
  dsimp only at hStep
  split at hStep
  · next loop hLoop =>
    cases hStep
    have hSame : Acts s 0 id ({ s with starts := s.starts + 1 }, [.started s.starts
        (.error (ValidationError.create "bridge.state" "OpenClaw bridge is already running"))]) :=
      acts_of_same h.coherent rfl rfl rfl rfl rfl rfl
    rw [next_of_silent rfl]
    have hNote : session.note config ⟨s, .start, [.started s.starts
        (.error (ValidationError.create "bridge.state" "OpenClaw bridge is already running"))]⟩ =
          session := if_neg (by rw [hLoop]; simp)
    rw [hNote]
    exact h.of_acts_id hSame
  · next hLoop =>
    cases hStep
    have hNoLoop : s.loop = none := hLoop
    rw [next_of_silent rfl]
    have hNote : session.note config ⟨s, .start, []⟩ = .fresh := if_pos (by rw [hNoLoop]; rfl)
    rw [hNote]
    exact h.of_begin hNoLoop rfl rfl rfl rfl rfl

theorem Balanced.of_stop (hStep : stop s = (t, out)) (hKeeps : KeepsOrder config session s .stop) :
    Balanced config (session.next config ⟨s, .stop, out⟩) t := by
  have hStop := stop_acts h.coherent
  rw [hStep] at hStop
  rcases hStop with ⟨-, hActs⟩ | ⟨c, hWs, hActs⟩
  · rw [next_of_silent hActs.silent]
    exact h.of_acts_id hActs
  · rw [next_of_silent hActs.silent]
    exact h.of_ended hActs.changes (hKeeps c hWs)

theorem Balanced.of_next (hStep : nextDelivery s = (t, out)) :
    Balanced config (session.next config ⟨s, .next, out⟩) t := by
  cases hStep
  have hDone : s.deliveries.next.1.done = s.deliveries.done := by
    unfold AsyncQueue.next
    split
    · rfl
    · split <;> rfl
  rw [next_of_silent (marksOf_answered _)]
  have hSame : Acts s 0 id ({ s with deliveries := s.deliveries.next.1 }, []) :=
    acts_of_same h.coherent rfl rfl rfl hDone rfl rfl
  exact h.of_acts_id hSame

/-- Without a connection there is no resume point yet. -/
theorem Balanced.with_resume (hLast : session.last = none) (resume : Nat) :
    Balanced config { session with resume := resume } s := by
  have hNoDue := (h.idle hLast).1
  refine ⟨h.coherent, h.idle, ?_, h.others, h.present, h.loading, h.begun, h.increasing, ?_, h.ended⟩
  · intro c hSome
    rw [show session.last = some c from hSome] at hLast
    cases hLast
  · intro frame hMem
    rw [show session.due = [] from hNoDue] at hMem
    cases hMem

theorem Balanced.of_ends (hEnds : Ends s turn) (hIdle : s.ws = none)
    (hNothing : NothingLeft config s) : Balanced config session turn.1 := by
  obtain ⟨later, hLater, hStage⟩ := hEnds.loop
  refine h.of_over hEnds.connections hIdle (hEnds.ws.trans hIdle) ?_ hNothing
  intro loop hLoop
  rw [hLater] at hLoop
  cases hLoop
  exact hStage

theorem Balanced.open_of_stage (hLoop : s.loop = some loop) (hStage : loop.stage ≠ .returned) :
    s.deliveries.done = false := by
  cases hDone : s.deliveries.done with
  | false => rfl
  | true => exact absurd (h.coherent.finished hDone loop hLoop) hStage

end

theorem next_of_created (hCreated : marksOf turn.2 = [.created c]) :
    session.next config ⟨s, label, turn.2⟩ =
      { session.note config ⟨s, label, turn.2⟩ with last := some c } := by
  unfold Session.next
  rw [hCreated]
  rfl

section

variable (h : Balanced config session s)

include h

/-- The checkpoint has been loaded: the first connection of the session is made. -/
theorem Balanced.of_loaded {failure : Option SignetError} {opens : Bool}
    (hStep : bridgeStep config s (.loaded failure opens) = some (t, out)) :
    Balanced config (session.next config ⟨s, .loaded failure opens, out⟩) t := by
  obtain ⟨loop, hLoop, hStep⟩ := Option.bind_eq_some_iff.mp hStep
  split at hStep
  · next hStage =>
    have hTurn := Option.some.inj hStep
    have hLast : session.last = none := h.loading loop hLoop (by rw [hStage]; rfl)
    have hIdle : s.ws = none := h.idle_ws hLoop (by rw [hStage]; simp)
    have hOpen : s.deliveries.done = false := h.open_of_stage hLoop (by rw [hStage]; simp)
    have hNothing : NothingLeft config s := fun c pipe hPipe =>
      h.others c pipe hPipe (by rw [hLast]; simp)
    cases failure with
    | some error =>
      have hEnds : Ends s (afterLoad config s loop (.error error) opens) := by
        unfold afterLoad
        refine Ends.after ?_ rfl rfl rfl
        refine Ends.after ?_ rfl rfl (marksOf_answerInitial _ loop error)
        exact returnLoop_ends _ _
      rw [hTurn] at hEnds
      rw [next_of_silent hEnds.silent]
      exact h.of_ends hEnds hIdle hNothing
    | none =>
      have hResumed := h.with_resume hLast ((resolveResumeSeq s.persisted).getD 0)
      rcases enterLoop_moves config s { loop with resumeCheckpoint := s.persisted } opens with
        hEnds | ⟨-, -, hConnects⟩
      · rw [show enterLoop config s _ opens = (t, out) from hTurn] at hEnds
        rw [next_of_silent hEnds.silent]
        exact hResumed.of_ends hEnds hIdle hNothing
      · rw [show enterLoop config s _ opens = (t, out) from hTurn] at hConnects
        rw [show out = (t, out).2 from rfl, next_of_created hConnects.created]
        refine hResumed.of_connects hConnects hIdle hOpen hNothing (fun _ => rfl) ?_
        intro c pipe hSome
        rw [show session.last = some c from hSome] at hLast
        cases hLast
  · cases hStep

/-- The delay before a reconnect begins. -/
theorem Balanced.of_sleep (hLoop : s.loop = some loop) (hIdle : s.ws = none)
    (hBegun : loop.stage.phase = .begun) (hConnections : t.connections = s.connections)
    (hWs : t.ws = none) (hDeliveries : t.deliveries = s.deliveries) {later : Loop}
    (hLater : t.loop = some later) (hStage : later.stage = .sleeping) :
    Balanced config session t := by
  have hAt := streamAt_of_idle hConnections hIdle hWs
  have hOpen : s.deliveries.done = false := h.open_of_stage hLoop (by
    intro hReturned
    rw [hReturned] at hBegun
    cases hBegun)
  have hChanges : Changes s 0 id t := by
    refine ⟨⟨?_, ?_, ?_⟩, ?_, fun c _ => hAt c, ?_, ?_, ?_⟩
    · intro c hPresent
      rw [hWs] at hPresent
      cases hPresent
    · intro c connection hGet
      exact h.coherent.sound c connection (hConnections ▸ hGet)
    · intro hDone
      rw [hDeliveries, hOpen] at hDone
      cases hDone
    · rw [hAt, Option.map_id_apply]
    · rw [hDeliveries]
    · intro c hPresent
      rw [hWs] at hPresent
      cases hPresent
    · rw [hLater, hLoop]
      show some later.stage.phase = some loop.stage.phase
      rw [hStage, hBegun]
      rfl
  exact h.of_same_left hChanges fun _ _ => ⟨rfl, rfl⟩

/-- The loop goes on after a connection. -/
theorem Balanced.of_continueLoop {opens : Bool}
    (hStep : continueLoop config s opens = some (t, out))
    (hKeeps : KeepsOrder config session s (.continueLoop opens)) :
    Balanced config (session.next config ⟨s, .continueLoop opens, out⟩) t := by
  obtain ⟨loop, hLoop, hStep⟩ := Option.bind_eq_some_iff.mp hStep
  split at hStep
  · next checkpoint hStage =>
    have hTurn := Option.some.inj hStep
    have hIdle : s.ws = none := h.idle_ws hLoop (by rw [hStage]; simp)
    have hSleeps : sleepsAfter config s =
        (!s.stopped && config.reconnect.enabled && !config.reconnect.exhausted loop.attempt) := by
      unfold sleepsAfter
      rw [hLoop]
      obtain ⟨call, stage, resumeCheckpoint, attempt, initialResolved⟩ := loop
      cases hStage
      rfl
    cases hCase : sleepsAfter config s with
    | true =>
      have hTurn' := hTurn.symm.trans (@afterRetryable_sleeps config s
        { loop with resumeCheckpoint := checkpoint } (hSleeps ▸ hCase))
      cases hTurn'
      rw [next_of_silent rfl]
      exact h.of_sleep hLoop hIdle (by rw [hStage]; rfl) rfl hIdle rfl rfl rfl
    | false =>
      obtain ⟨hNothing, -⟩ := hKeeps.resolve_left (by rw [hCase]; simp)
      have hEnds := @afterRetryable_ends config s { loop with resumeCheckpoint := checkpoint }
        (hSleeps ▸ hCase)
      rw [hTurn] at hEnds
      rw [next_of_silent hEnds.silent]
      exact h.of_ends hEnds hIdle hNothing
  · next checkpoint error hStage =>
    have hTurn := Option.some.inj hStep
    have hIdle : s.ws = none := h.idle_ws hLoop (by rw [hStage]; simp)
    have hAwake : sleepsAfter config s = false := by
      unfold sleepsAfter
      rw [hLoop]
      obtain ⟨call, stage, resumeCheckpoint, attempt, initialResolved⟩ := loop
      cases hStage
      rfl
    obtain ⟨hNothing, -⟩ := hKeeps.resolve_left (by rw [hAwake]; simp)
    have hEnds := afterFinal_ends s { loop with resumeCheckpoint := checkpoint } error
    rw [hTurn] at hEnds
    rw [next_of_silent hEnds.silent]
    exact h.of_ends hEnds hIdle hNothing
  · next hStage =>
    have hTurn := Option.some.inj hStep
    have hIdle : s.ws = none := h.idle_ws hLoop (by rw [hStage]; simp)
    have hOpen : s.deliveries.done = false := h.open_of_stage hLoop (by rw [hStage]; simp)
    have hAwake : sleepsAfter config s = false := by
      unfold sleepsAfter
      rw [hLoop]
      obtain ⟨call, stage, resumeCheckpoint, attempt, initialResolved⟩ := loop
      cases hStage
      rfl
    obtain ⟨hNothing, hResumes⟩ := hKeeps.resolve_left (by rw [hAwake]; simp)
    rcases enterLoop_moves config s loop opens with hEnds | ⟨hStopped, -, hConnects⟩
    · rw [hTurn] at hEnds
      rw [next_of_silent hEnds.silent]
      exact h.of_ends hEnds hIdle hNothing
    · rw [hTurn] at hConnects
      rw [show out = (t, out).2 from rfl, next_of_created hConnects.created]
      refine h.of_connects hConnects hIdle hOpen hNothing ?_ (hResumes loop hLoop hStage hStopped)
      intro hLast
      have hSome := h.begun loop hLoop (by rw [hStage]; rfl)
      rw [show session.last = none from hLast] at hSome
      cases hSome
  · cases hStep

theorem Balanced.of_timer (hStep : bridgeStep config s .timer = some (t, out)) :
    Balanced config (session.next config ⟨s, .timer, out⟩) t := by
  obtain ⟨loop, hLoop, hStep⟩ := Option.bind_eq_some_iff.mp hStep
  split at hStep
  · cases hStep
    rw [next_of_silent rfl]
    exact h.of_acts_id (wake_acts h.coherent 0)
  · cases hStep

theorem Balanced.of_loopCleared (hStep : bridgeStep config s .loopCleared = some (t, out)) :
    Balanced config (session.next config ⟨s, .loopCleared, out⟩) t := by
  obtain ⟨loop, hLoop, hStep⟩ := Option.bind_eq_some_iff.mp hStep
  split at hStep
  · next hStage =>
    cases hStep
    have hIdle : s.ws = none := h.idle_ws hLoop (by rw [hStage]; simp)
    rw [next_of_silent rfl]
    refine h.of_over rfl hIdle hIdle (fun later hLater => by cases hLater) (h.ended ?_)
    intro later hLater
    rw [hLoop] at hLater
    cases hLater
    rw [hStage]
    rfl
  · cases hStep

variable (hGet : s.connections.get c = some connection)

include hGet

/-- A text comes, and is read. -/
theorem Balanced.of_text
    (hStep : connectionStep config s c connection (.message c (.text payload)) = some (t, out))
    (hKeeps : KeepsOrder config session s (.message c (.text payload))) :
    Balanced config (session.next config ⟨s, .message c (.text payload), out⟩) t := by
  have hActs := text_acts h.coherent hGet hStep
  obtain ⟨pipe, hPipe⟩ : ∃ pipe, streamAt s c = some pipe := ⟨_, streamAt_eq hGet⟩
  have hNote : session.note config ⟨s, .message c (.text payload), out⟩ =
      session.arrive (arrivedFrame config pipe payload) := by
    show session.arrive ((streamAt s c).bind _) = _
    rw [hPipe]
    rfl
  rw [next_of_silent hActs.silent, hNote]
  cases hActive : pipe.1.active with
  | false =>
    have hNone : arrivedFrame config pipe payload = none := by
      unfold arrivedFrame
      rw [hActive]
      rfl
    rw [hNone]
    refine h.of_same_left hActs.changes ?_
    intro pipe' hPipe'
    rw [hPipe] at hPipe'
    cases hPipe'
    have hSame : onStream (fun x => if x.active then x.read config payload else x) pipe = pipe :=
      Prod.ext (if_neg (by rw [hActive]; simp)) rfl
    rw [hSame]
    exact ⟨rfl, rfl⟩
  | true =>
    obtain ⟨hOrder, hTurn⟩ := hKeeps pipe hPipe hActive
    have hRead : onStream (fun x => if x.active then x.read config payload else x) pipe =
        (pipe.1.read config payload, pipe.2) := Prod.ext (if_pos hActive) rfl
    refine h.of_arrival hActs.changes hPipe hActive hOrder ?_ ?_
    · rw [hRead]
      exact Stream.read_mark payload
    · rw [hRead]
      exact hTurn payload rfl

/-- A blob comes, and waits for its turn. -/
theorem Balanced.of_blob
    (hStep : connectionStep config s c connection (.message c (.blob payload)) = some (t, out))
    (hKeeps : KeepsOrder config session s (.message c (.blob payload))) :
    Balanced config (session.next config ⟨s, .message c (.blob payload), out⟩) t := by
  have hActs := blob_acts h.coherent hGet hStep
  obtain ⟨pipe, hPipe⟩ : ∃ pipe, streamAt s c = some pipe := ⟨_, streamAt_eq hGet⟩
  have hNote : session.note config ⟨s, .message c (.blob payload), out⟩ =
      session.arrive (arrivedFrame config pipe payload) := by
    show session.arrive ((streamAt s c).bind _) = _
    rw [hPipe]
    rfl
  rw [next_of_silent hActs.silent, hNote]
  cases hActive : pipe.1.active with
  | false =>
    have hNone : arrivedFrame config pipe payload = none := by
      unfold arrivedFrame
      rw [hActive]
      rfl
    rw [hNone]
    refine h.of_same_left hActs.changes ?_
    intro pipe' hPipe'
    rw [hPipe] at hPipe'
    cases hPipe'
    rw [if_neg (by rw [hActive]; simp)]
    exact ⟨rfl, rfl⟩
  | true =>
    obtain ⟨hOrder, -⟩ := hKeeps pipe hPipe hActive
    refine h.of_arrival hActs.changes hPipe hActive hOrder ?_ ?_
    · rw [if_pos hActive]
    · rw [if_pos hActive]
      rfl

theorem Balanced.of_decoded {task : Nat}
    (hStep : connectionStep config s c connection (.decoded c task) = some (t, out))
    (hKeeps : KeepsOrder config session s (.decoded c task)) :
    Balanced config (session.next config ⟨s, .decoded c task, out⟩) t := by
  obtain ⟨payload, hTask, hActs⟩ := decoded_acts h.coherent hGet hStep
  rw [next_of_silent hActs.silent]
  refine h.of_same_left hActs.changes ?_
  intro pipe hPipe
  exact ⟨Stream.read_mark payload, hKeeps connection pipe payload hGet hPipe hTask⟩

theorem Balanced.of_decodeFailed {task : Nat}
    (hStep : connectionStep config s c connection (.decodeFailed c task) = some (t, out))
    (hKeeps : KeepsOrder config session s (.decodeFailed c task)) :
    Balanced config (session.next config ⟨s, .decodeFailed c task, out⟩) t := by
  have hActs := decodeFailed_acts h.coherent hGet hStep
  rw [next_of_silent hActs.silent]
  exact h.of_same_left hActs.changes fun pipe hPipe => ⟨rfl, hKeeps connection pipe hGet hPipe⟩

end

theorem LosesNothing.of_authenticated (hGet : s.connections.get c = some connection)
    (hAuthenticated : connection.authenticated = true) : LosesNothing config s c := by
  intro pipe hPipe hUnauthenticated
  rw [streamAt_eq hGet] at hPipe
  cases hPipe
  rw [show connection.authenticated = false from hUnauthenticated] at hAuthenticated
  cases hAuthenticated

section

variable (h : Balanced config session s) (hGet : s.connections.get c = some connection)

include h hGet

theorem Balanced.of_advance
    (hStep : connectionStep config s c connection (.advance c) = some (t, out)) :
    Balanced config (session.next config ⟨s, .advance c, out⟩) t := by
  rcases advance_acts h.coherent hGet hStep with hActs | ⟨hAuthenticated, hActs⟩
  · rw [next_of_silent hActs.silent]
    exact h.of_acts_id hActs
  · rw [next_of_silent hActs.silent]
    exact h.of_ended hActs.changes (.of_authenticated hGet hAuthenticated)

theorem Balanced.of_saved {failure : Option SignetError}
    (hStep : connectionStep config s c connection (.saved c failure) = some (t, out))
    (hKeeps : KeepsOrder config session s (.saved c failure)) :
    Balanced config (session.next config ⟨s, .saved c failure, out⟩) t := by
  have hNone : failure = none := hKeeps
  subst hNone
  simp only [connectionStep] at hStep
  split at hStep
  · next save hSaving _ =>
    split at hStep
    · have hTurn := Option.some.inj hStep
      obtain ⟨hBalanced, hMarks⟩ := h.of_delivery hGet hSaving
      rw [hTurn] at hBalanced hMarks
      unfold Session.next
      dsimp only at hMarks ⊢
      rw [hMarks]
      exact hBalanced
    · cases hStep
  · next hFailure => cases hFailure
  · cases hStep

theorem Balanced.of_authTimeout
    (hStep : connectionStep config s c connection (.authTimeout c) = some (t, out))
    (hKeeps : KeepsOrder config session s (.authTimeout c)) :
    Balanced config (session.next config ⟨s, .authTimeout c, out⟩) t := by
  have hActs := authTimeout_acts h.coherent hGet hStep
  rw [next_of_silent hActs.silent]
  refine h.of_same_left hActs.changes ?_
  intro pipe hPipe
  cases hAuthenticated : pipe.1.authenticated with
  | true =>
    have hSame : onStream (fun x => if x.authenticated then x else x.ended) pipe = pipe :=
      Prod.ext (if_pos hAuthenticated) rfl
    rw [hSame]
    exact ⟨rfl, rfl⟩
  | false =>
    have hEnded : onStream (fun x => if x.authenticated then x else x.ended) pipe =
        onStream Stream.ended pipe := Prod.ext (if_neg (by rw [hAuthenticated]; simp)) rfl
    rw [hEnded]
    exact ⟨rfl, remaining_ended h.coherent hPipe (hKeeps pipe hPipe)⟩

theorem Balanced.of_socketClose {code : Nat} {reason : String}
    (hStep : connectionStep config s c connection (.socketClose c code reason) = some (t, out))
    (hKeeps : KeepsOrder config session s (.socketClose c code reason)) :
    Balanced config (session.next config ⟨s, .socketClose c code reason, out⟩) t := by
  rcases socketClose_acts h.coherent hGet hStep with hActs | ⟨-, hActs⟩
  · rw [next_of_silent hActs.silent]
    exact h.of_ended hActs.changes hKeeps
  · rw [next_of_silent hActs.silent]
    exact h.of_acts_id hActs

end

/-- **Every step that keeps the order keeps the balance.** -/
theorem balanced_step (h : Balanced config session s)
    (hStep : bridgeStep config s label = some (t, out)) (hKeeps : KeepsOrder config session s label) :
    Balanced config (session.next config ⟨s, label, out⟩) t := by
  cases label with
  | start => exact h.of_start (Option.some.inj hStep)
  | stop => exact h.of_stop (Option.some.inj hStep) hKeeps
  | next => exact h.of_next (Option.some.inj hStep)
  | crash =>
    cases hStep
    rw [next_of_silent rfl]
    exact balanced_of_empty rfl rfl rfl
  | loaded failure opens => exact h.of_loaded hStep
  | continueLoop opens => exact h.of_continueLoop hStep hKeeps
  | timer => exact h.of_timer hStep
  | loopCleared => exact h.of_loopCleared hStep
  | socketOpen c =>
    obtain ⟨connection, hGet, hStep⟩ := Option.bind_eq_some_iff.mp hStep
    have hActs := socketOpen_acts h.coherent hGet hStep
    rw [next_of_silent hActs.silent]
    exact h.of_acts_id hActs
  | message c data =>
    obtain ⟨connection, hGet, hStep⟩ := Option.bind_eq_some_iff.mp hStep
    cases data with
    | text payload => exact h.of_text hGet hStep hKeeps
    | blob payload => exact h.of_blob hGet hStep hKeeps
  | decoded c task =>
    obtain ⟨connection, hGet, hStep⟩ := Option.bind_eq_some_iff.mp hStep
    exact h.of_decoded hGet hStep hKeeps
  | decodeFailed c task =>
    obtain ⟨connection, hGet, hStep⟩ := Option.bind_eq_some_iff.mp hStep
    exact h.of_decodeFailed hGet hStep hKeeps
  | advance c =>
    obtain ⟨connection, hGet, hStep⟩ := Option.bind_eq_some_iff.mp hStep
    exact h.of_advance hGet hStep
  | written c =>
    obtain ⟨connection, hGet, hStep⟩ := Option.bind_eq_some_iff.mp hStep
    have hActs := written_acts h.coherent hGet hStep
    rw [next_of_silent hActs.silent]
    exact h.of_acts_id hActs
  | saved c failure =>
    obtain ⟨connection, hGet, hStep⟩ := Option.bind_eq_some_iff.mp hStep
    exact h.of_saved hGet hStep hKeeps
  | authTimeout c =>
    obtain ⟨connection, hGet, hStep⟩ := Option.bind_eq_some_iff.mp hStep
    exact h.of_authTimeout hGet hStep hKeeps
  | socketClose c code reason =>
    obtain ⟨connection, hGet, hStep⟩ := Option.bind_eq_some_iff.mp hStep
    exact h.of_socketClose hGet hStep hKeeps

/-! ## Runs -/

variable {h : List BridgeOccurrence}

/-- Every step of a run leaves the deliveries in order. -/
def AllKeepOrder (config : BridgeConfig) (h : List BridgeOccurrence) : Prop :=
  ∀ h₁ o h₂, h = h₁ ++ o :: h₂ → KeepsOrder config (sessionOf config h₁) o.pre o.label

theorem AllKeepOrder.of_prefix {h' : List BridgeOccurrence} (hAll : AllKeepOrder config h)
    (hPrefix : h' <+: h) : AllKeepOrder config h' := by
  obtain ⟨rest, rfl⟩ := hPrefix
  rintro h₁ o h₂ rfl
  exact hAll h₁ o (h₂ ++ rest) (by simp)

theorem balanced_run (hRun : (bridgeMachine config).Runs h s) (hAll : AllKeepOrder config h) :
    Balanced config (sessionOf config h) s := by
  induction hRun with
  | start => exact balanced_of_empty rfl rfl rfl
  | @step h s t label out hRun hStep ih =>
    have hBefore := ih (hAll.of_prefix ⟨[⟨s, label, out⟩], rfl⟩)
    have hLast : KeepsOrder config (sessionOf config h) s label := hAll h ⟨s, label, out⟩ [] rfl
    unfold sessionOf
    rw [List.foldl_append]
    exact balanced_step hBefore hStep hLast

/-- A step that ends no connection and no save for good, and reads a text where nothing has come. -/
def quietStep (session : Session) (o : BridgeOccurrence) : Bool :=
  match o.label with
  | .message c (.text _) =>
    session.due.isEmpty && ((streamAt o.pre c).all fun pipe => pipe.2.isEmpty)
  | .start | .loaded _ _ | .socketOpen _ | .advance _ | .written _ => true
  | .saved _ failure => failure.isNone
  | _ => false

def quietSteps (config : BridgeConfig) : Session → List BridgeOccurrence → Bool
  | _, [] => true
  | session, o :: h => quietStep session o && quietSteps config (session.next config o) h

theorem keepsOrder_of_quiet {o : BridgeOccurrence} (hQuiet : quietStep session o = true) :
    KeepsOrder config session o.pre o.label := by
  unfold quietStep at hQuiet
  split at hQuiet
  · next c payload hLabel =>
    rw [hLabel]
    simp only [Bool.and_eq_true, List.isEmpty_iff] at hQuiet
    intro pipe hPipe _
    refine ⟨?_, ?_⟩
    · intro frame _ _ _ earlier hMem
      rw [hQuiet.1] at hMem
      cases hMem
    · intro payload' _
      have hUnread := hQuiet.2
      rw [hPipe, Option.all_some, List.isEmpty_iff] at hUnread
      rw [hUnread]
      rfl
  · next hLabel =>
    rw [hLabel]
    trivial
  · next hLabel =>
    rw [hLabel]
    trivial
  · next hLabel =>
    rw [hLabel]
    trivial
  · next hLabel =>
    rw [hLabel]
    trivial
  · next hLabel =>
    rw [hLabel]
    trivial
  · next hLabel =>
    rw [hLabel]
    exact Option.isNone_iff_eq_none.mp hQuiet
  · cases hQuiet

theorem allKeepOrder_of_quiet (hQuiet : quietSteps config .fresh h = true) : AllKeepOrder config h := by
  have hFrom : ∀ h₁ session h, quietSteps config session h = true → ∀ o h₂, h = h₁ ++ o :: h₂ →
      KeepsOrder config (h₁.foldl (Session.next config) session) o.pre o.label := by
    intro h₁
    induction h₁ with
    | nil =>
      rintro session h hQuiet o h₂ rfl
      simp only [List.nil_append, quietSteps, Bool.and_eq_true] at hQuiet
      exact keepsOrder_of_quiet hQuiet.1
    | cons first h₁ ih =>
      rintro session h hQuiet o h₂ rfl
      simp only [List.cons_append, quietSteps, Bool.and_eq_true] at hQuiet
      exact ih _ _ hQuiet.2 o h₂ rfl
  intro h₁ o h₂ hSplit
  exact hFrom h₁ .fresh h hQuiet o h₂ hSplit

def eventFrame (seq : Nat) : Payload :=
  ⟨none, none, none, .ok (seq, .credentialIssued "cred_0011223344556677" "op_0011223344556677")⟩

/-- An event comes as text, and is saved and delivered. -/
def deliversText : List BridgeLabel :=
  [.start, .loaded none true, .socketOpen 0, .message 0 (.text (some authenticatedPayload)),
    .message 0 (.text (some (eventFrame 1))), .written 0, .saved 0 none]

theorem deliversText_quiet :
    sampleBridge.Executes deliversText fun h _ => quietSteps sampleConfig .fresh h = true := by
  decide

theorem deliversText_isSome :
    (sampleBridge.exec sampleBridge.init deliversText).isSome = true :=
  deliversText_quiet.goes

/-- An event comes as a blob, and the next one as text, which is read at once; the blob is decoded
when the text has been delivered. -/
def dropsBlob : List BridgeLabel :=
  [.start, .loaded none true, .socketOpen 0, .message 0 (.text (some authenticatedPayload)),
    .message 0 (.blob (some (eventFrame 1))), .message 0 (.text (some (eventFrame 2))), .written 0,
    .saved 0 none, .decoded 0 0]

theorem dropsBlob_pushed :
    sampleBridge.Executes dropsBlob fun h _ =>
      (sessionOf sampleConfig h).pushed.map Prod.fst = [2] ∧
        (sessionOf sampleConfig h).due.map Prod.fst = [1, 2] := by
  decide

end OpenClaw
end Signet
