import Signet.OpenClaw.Bridge

/-!
# The answer to a start

Every call of `start` should be answered once, before its loop is over and with success only
after an authenticated frame for the configured credential.  Two of the exits of the loop
answer nothing, and neither does a socket that cannot be made.

* `StartAnswered` — what should hold after every run.
* `LoopMove`, `bridgeStep_loop` — what a step does to the loop and its call.
* `AnswersFirst` — the steps that end no loop unanswered.
* `start_answered_iff` — in every run, exactly these.
-/

namespace Signet
namespace OpenClaw

open Kit Machine Schemas

/-! ## Answers -/

/-- The answer to a call of `start`. -/
def startedOf : BridgeObservation → Option (Nat × Except SignetError Unit)
  | .started call result => some (call, result)
  | _ => none

def answersOf (out : List BridgeObservation) : List (Nat × Except SignetError Unit) :=
  out.filterMap startedOf

def answersTo (h : List BridgeOccurrence) (call : Nat) : Nat :=
  (answersOf (outputs h)).countP fun answer => answer.1 == call

/-- A message that says that the configured credential is authenticated is handled. -/
def Authenticates (config : BridgeConfig) (o : BridgeOccurrence) : Prop :=
  ∃ c payload operatorId, payload.authenticated = some (config.credentialId, operatorId) ∧
    (o.label = .message c (.text (some payload)) ∨
      ∃ connection task, o.label = .decoded c task ∧ o.pre.connections.get c = some connection ∧
        decodingTask connection task = some (some payload))

/-- Of a loop that is over the call has been answered once, no call is answered twice,
success follows an authenticated frame, and what has ended can be started again. -/
structure StartAnswered (config : BridgeConfig) (h : List BridgeOccurrence) (s : Bridge) : Prop where
  ended : ∀ loop, s.loop = some loop → loop.stage = .returned → answersTo h loop.call = 1
  once : ∀ call, answersTo h call ≤ 1
  success : ∀ o ∈ h, ∀ call, .started call (.ok ()) ∈ o.out → Authenticates config o
  cleared : ∀ loop, s.loop = some loop → loop.stage = .returned →
    ∃ t, bridgeStep config s .loopCleared = some (t, []) ∧ t.loop = none
  again : s.loop = none → ∃ t, bridgeStep config s .start = some (t, []) ∧ t.loop.isSome = true

/-- The loop goes on to another connection where it would end without an answer: there is one
to be tried, and its socket can be made. -/
def triesOn (config : BridgeConfig) (loop : Loop) (label : BridgeLabel) : Bool :=
  match label, loop.stage with
  | .loaded none opens, .loading => opens
  | .continueLoop opens, .woken => opens
  | .continueLoop _, .settled (.retryable _) =>
    config.reconnect.enabled && !config.reconnect.exhausted loop.attempt
  | _, _ => true

/-- A loop that has not been stopped and whose call has not been answered goes on. -/
def AnswersFirst (config : BridgeConfig) (s : Bridge) (label : BridgeLabel) : Prop :=
  ∀ loop, s.loop = some loop → loop.initialResolved = false → s.stopped = false →
    triesOn config loop label = true

instance (config : BridgeConfig) (s : Bridge) (label : BridgeLabel) :
    Decidable (AnswersFirst config s label) :=
  inferInstanceAs (Decidable (∀ loop ∈ s.loop, loop.initialResolved = false → s.stopped = false →
    triesOn config loop label = true))

/-! ## What a step does to the loop -/

/-- A turn that ends no loop, begins none and answers no call of `start`. -/
structure Quiet (s : Bridge) (turn : BridgeTurn) : Prop where
  starts : turn.1.starts = s.starts
  silent : answersOf turn.2 = []
  loop : ∀ later, turn.1.loop = some later → ∃ loop, s.loop = some loop ∧
    later.call = loop.call ∧ later.initialResolved = loop.initialResolved ∧
    (later.stage = .returned → loop.stage = .returned)

/-- What a step does to the loop and to the count of calls, and what it answers. -/
inductive LoopMove (config : BridgeConfig) (o : BridgeOccurrence) (t : Bridge) : Prop
  | quiet (quiet : Quiet o.pre (t, o.out)) (first : AnswersFirst config o.pre o.label)
  | authenticated (loop later : Loop) (starts : t.starts = o.pre.starts)
      (before : o.pre.loop = some loop) (after : t.loop = some later)
      (answers : answersOf o.out = if loop.initialResolved then [] else [(loop.call, .ok ())])
      (call : later.call = loop.call) (resolved : later.initialResolved = true)
      (frame : Authenticates config o) (first : AnswersFirst config o.pre o.label)
  | ends (loop later : Loop) (error : SignetError) (starts : t.starts = o.pre.starts)
      (before : o.pre.loop = some loop) (after : t.loop = some later)
      (answers : answersOf o.out = if loop.initialResolved then [] else [(loop.call, .error error)])
      (call : later.call = loop.call) (resolved : later.initialResolved = true)
      (first : AnswersFirst config o.pre o.label)
  | endsSilently (loop later : Loop) (starts : t.starts = o.pre.starts)
      (before : o.pre.loop = some loop) (after : t.loop = some later)
      (silent : answersOf o.out = []) (call : later.call = loop.call)
      (resolved : later.initialResolved = loop.initialResolved) (returned : later.stage = .returned)
      (first : AnswersFirst config o.pre o.label ↔ loop.initialResolved = true)
  | begins (later : Loop) (starts : t.starts = o.pre.starts + 1) (before : o.pre.loop = none)
      (after : t.loop = some later) (silent : answersOf o.out = [])
      (call : later.call = o.pre.starts) (resolved : later.initialResolved = false)
      (stage : later.stage = .loading) (first : AnswersFirst config o.pre o.label)
  | refuses (error : SignetError) (starts : t.starts = o.pre.starts + 1) (same : t.loop = o.pre.loop)
      (loop : o.pre.loop.isSome = true) (answers : answersOf o.out = [(o.pre.starts, .error error)])
      (first : AnswersFirst config o.pre o.label)

variable {config : BridgeConfig} {s t : Bridge} {c : Nat} {connection : Connection}

@[simp]
theorem answersOf_append (out later : List BridgeObservation) :
    answersOf (out ++ later) = answersOf out ++ answersOf later := by
  simp [answersOf]

@[simp]
theorem answersOf_answered (answers : List (Answered Envelope)) :
    answersOf (answers.map fun answer => .answered answer.1 answer.2) = [] := by
  simp [answersOf, startedOf]

/-- Events that are not the loop's own end none. -/
theorem answersFirst_of_label {label : BridgeLabel} (hLoaded : ∀ failure opens, label ≠ .loaded failure opens)
    (hContinue : ∀ opens, label ≠ .continueLoop opens) : AnswersFirst config s label := by
  intro loop _ _ _
  cases label with
  | loaded failure opens => exact absurd rfl (hLoaded failure opens)
  | continueLoop opens => exact absurd rfl (hContinue opens)
  | _ => rfl

/-! ### Turns that leave the loop going -/

theorem quiet_of_same {out : List BridgeObservation} (hLoop : t.loop = s.loop)
    (hStarts : t.starts = s.starts) (hSilent : answersOf out = []) : Quiet s (t, out) := by
  refine ⟨hStarts, hSilent, ?_⟩
  intro later hLater
  exact ⟨later, hLoop ▸ hLater, rfl, rfl, id⟩

/-- The same from a state with the same loop. -/
theorem Quiet.of_same {turn : BridgeTurn} (hQuiet : Quiet t turn) (hLoop : t.loop = s.loop)
    (hStarts : t.starts = s.starts) : Quiet s turn := by
  refine ⟨hQuiet.starts.trans hStarts, hQuiet.silent, ?_⟩
  rw [← hLoop]
  exact hQuiet.loop

/-- Something silent is seen besides. -/
theorem Quiet.with_out {out : List BridgeObservation} (hQuiet : Quiet s (t, []))
    (hSilent : answersOf out = []) : Quiet s (t, out) := ⟨hQuiet.starts, hSilent, hQuiet.loop⟩

theorem Quiet.andThen {turn : BridgeTurn} {next : Bridge → BridgeTurn} (hFirst : Quiet s turn)
    (hNext : Quiet turn.1 (next turn.1)) : Quiet s (Kit.andThen turn next) := by
  refine ⟨hNext.starts.trans hFirst.starts, ?_, ?_⟩
  · rw [andThen_snd, answersOf_append, hFirst.silent, hNext.silent, List.append_nil]
  · intro later hLater
    obtain ⟨between, hBetween, hCall, hResolved, hStage⟩ := hNext.loop later hLater
    obtain ⟨loop, hLoop, hCall', hResolved', hStage'⟩ := hFirst.loop between hBetween
    exact ⟨loop, hLoop, hCall.trans hCall', hResolved.trans hResolved',
      fun hReturned => hStage' (hStage hReturned)⟩

theorem emitError_quiet (s : Bridge) (error : SignetError) : Quiet s (emitError s error) :=
  quiet_of_same rfl rfl rfl

theorem resolveConnection_quiet (s : Bridge) (c : Nat) (outcome : Outcome) :
    Quiet s (resolveConnection s c outcome, []) := by
  unfold resolveConnection
  split
  · next call awaited resumeCheckpoint attempt initialResolved hLoop =>
    split
    · refine ⟨rfl, rfl, ?_⟩
      rintro later hLater
      cases hLater
      refine ⟨_, hLoop, rfl, rfl, ?_⟩
      intro hStage
      cases hStage
    · exact quiet_of_same rfl rfl rfl
  · exact quiet_of_same rfl rfl rfl

theorem settle_quiet (s : Bridge) (c : Nat) (outcome : Outcome) :
    Quiet s (settle s c outcome, []) := by
  unfold settle
  split
  · exact quiet_of_same rfl rfl rfl
  · split
    · exact quiet_of_same rfl rfl rfl
    · dsimp only
      split <;> exact (resolveConnection_quiet _ c outcome).of_same rfl rfl

theorem wake_quiet (s : Bridge) : Quiet s (wake s, []) := by
  unfold wake
  split
  · next call resumeCheckpoint attempt initialResolved hLoop =>
    refine ⟨rfl, rfl, ?_⟩
    rintro later hLater
    cases hLater
    refine ⟨_, hLoop, rfl, rfl, ?_⟩
    intro hStage
    cases hStage
  · exact quiet_of_same rfl rfl rfl

section

variable (s : Bridge) (c : Nat) (connection : Connection)

theorem handleSequencedFrame_quiet (payload : Payload) :
    Quiet s (handleSequencedFrame s c connection payload) := by
  unfold handleSequencedFrame
  split
  · exact quiet_of_same rfl rfl rfl
  · split
    · split <;> exact quiet_of_same rfl rfl rfl
    · exact quiet_of_same rfl rfl rfl

theorem onClosed_quiet (code : Nat) (reason : String) :
    Quiet s (onClosed s c connection code reason) := by
  unfold onClosed
  split
  · exact quiet_of_same rfl rfl rfl
  · split
    · exact (settle_quiet _ c _).of_same rfl rfl
    · split
      · exact (settle_quiet _ c _).of_same rfl rfl
      · split
        · exact (emitError_quiet s _).andThen ((settle_quiet _ c _).of_same rfl rfl)
        · exact (settle_quiet _ c _).of_same rfl rfl

theorem runLink_quiet (link : Link) : Quiet s (runLink s c connection link) := by
  cases link with
  | frame payload => exact handleSequencedFrame_quiet s c connection payload
  | closing code reason => exact onClosed_quiet s c connection code reason

theorem appendLink_quiet (link : Link) : Quiet s (appendLink s c connection link) := by
  unfold appendLink
  split
  · exact runLink_quiet s c connection link
  · exact quiet_of_same rfl rfl rfl

theorem handleFrame_quiet (payload : Payload) : Quiet s (handleFrame s c connection payload) := by
  unfold handleFrame
  split
  · exact quiet_of_same rfl rfl rfl
  · exact appendLink_quiet s c connection _

theorem onAuthErrorFrame_quiet (code : Int) (message : String) :
    Quiet s (onAuthErrorFrame s c connection code message) := by
  unfold onAuthErrorFrame
  split
  · exact quiet_of_same rfl rfl rfl
  · dsimp only
    refine Quiet.andThen ?_ (settle_quiet _ c _)
    exact (emitError_quiet _ _).of_same rfl rfl

end

theorem pushDelivery_quiet (s : Bridge) (envelope : Envelope) :
    Quiet s (pushDelivery s envelope) := by
  refine quiet_of_same rfl rfl ?_
  rw [answersOf_append, answersOf_answered, List.append_nil]
  split <;> rfl

theorem failSave_quiet (s : Bridge) (c : Nat) (error : SignetError) :
    Quiet s (failSave s c error) := by
  refine Quiet.andThen ?_ (quiet_of_same rfl rfl ?_)
  · exact (emitError_quiet _ error).of_same rfl rfl
  · simp [answersOf, startedOf]

theorem onAuthTimeout_quiet (s : Bridge) (c : Nat) (connection : Connection) :
    Quiet s (onAuthTimeout s c connection) := by
  unfold onAuthTimeout
  split
  · exact quiet_of_same rfl rfl rfl
  · exact (settle_quiet s c _).with_out rfl

theorem onOpen_quiet (config : BridgeConfig) (s : Bridge) (c : Nat) (connection : Connection) :
    Quiet s (onOpen config s c connection) := by
  unfold onOpen
  split <;> exact quiet_of_same rfl rfl rfl

theorem stop_quiet (s : Bridge) : Quiet s (stop s) := by
  have hWake : Quiet s (wake { s with stopped := true }, []) := (wake_quiet _).of_same rfl rfl
  unfold stop
  dsimp only
  split
  · exact hWake
  · next c hWs =>
    split
    · split
      · have hSettle := settle_quiet (wake { s with stopped := true }) c (.final none bridgeStopped)
        have hBoth := @Quiet.andThen s (_, []) (fun s => (settle s c _, [])) hWake hSettle
        exact Quiet.with_out hBoth rfl
      · exact hWake.with_out rfl
    · exact hWake.with_out rfl

/-! ### The messages of the auth phase -/

theorem authenticate_loop {loop : Loop} (hLoop : s.loop = some loop) (c : Nat)
    (connection : Connection) (credentialId operatorId : String) :
    (authenticate s c connection credentialId operatorId).1.loop = some { loop with
        resumeCheckpoint := connection.currentCheckpoint, attempt := 0, initialResolved := true } ∧
      (authenticate s c connection credentialId operatorId).1.starts = s.starts ∧
      answersOf (authenticate s c connection credentialId operatorId).2 =
        if loop.initialResolved then [] else [(loop.call, .ok ())] := by
  simp only [authenticate, hLoop]
  refine ⟨trivial, rfl, ?_⟩
  split <;> rfl

/-- A message that is read leaves the loop going, or tells it of the authentication. -/
theorem handlePayload_loop (s : Bridge) (c : Nat) (connection : Connection)
    (payload : Option Payload) :
    Quiet s (handlePayload config s c connection payload) ∨
      ∃ loop later frame operatorId, payload = some frame ∧
        frame.authenticated = some (config.credentialId, operatorId) ∧ s.loop = some loop ∧
        (handlePayload config s c connection payload).1.loop = some later ∧
        (handlePayload config s c connection payload).1.starts = s.starts ∧
        answersOf (handlePayload config s c connection payload).2 =
          (if loop.initialResolved then [] else [(loop.call, .ok ())]) ∧
        later.call = loop.call ∧ later.initialResolved = true := by
  unfold handlePayload
  split
  · exact Or.inl (emitError_quiet s _)
  · next frame =>
    split
    · exact Or.inl (handleFrame_quiet s c connection frame)
    · split
      · next credentialId operatorId hAuthenticated =>
        unfold onAuthenticatedFrame
        split
        · exact Or.inl (quiet_of_same rfl rfl rfl)
        · split
          · left
            dsimp only
            refine Quiet.andThen ?_ ((settle_quiet _ c _).with_out rfl)
            exact (emitError_quiet _ _).of_same rfl rfl
          · next hCredential =>
            have hSame : credentialId = config.credentialId := not_not.mp hCredential
            subst hSame
            cases hLoop : s.loop with
            | none =>
              left
              simp only [authenticate, clearAuthTimeout, modifyConnection, hLoop]
              exact quiet_of_same hLoop.symm rfl rfl
            | some loop =>
              obtain ⟨hAfter, hStarts, hAnswers⟩ := @authenticate_loop (clearAuthTimeout s c)
                loop hLoop c connection config.credentialId operatorId
              exact Or.inr ⟨loop, _, frame, operatorId, rfl, hAuthenticated, rfl, hAfter,
                hStarts, hAnswers, rfl, rfl⟩
      · exact Or.inl (onAuthErrorFrame_quiet s c connection _ _)
      · exact Or.inl (handleFrame_quiet s c connection frame)

/-! ### The loop itself -/

structure EndsAnswered (s : Bridge) (loop : Loop) (turn : BridgeTurn) : Prop where
  starts : turn.1.starts = s.starts
  after : ∃ later, turn.1.loop = some later ∧ later.call = loop.call ∧ later.initialResolved = true
  answers : ∃ error, answersOf turn.2 =
    if loop.initialResolved then [] else [(loop.call, .error error)]

structure EndsSilently (s : Bridge) (loop : Loop) (turn : BridgeTurn) : Prop where
  starts : turn.1.starts = s.starts
  after : ∃ later, turn.1.loop = some later ∧ later.call = loop.call ∧
    later.initialResolved = loop.initialResolved ∧ later.stage = .returned
  silent : answersOf turn.2 = []

structure GoesOn (s : Bridge) (loop : Loop) (turn : BridgeTurn) : Prop where
  starts : turn.1.starts = s.starts
  after : ∃ later, turn.1.loop = some later ∧ later.call = loop.call ∧
    later.initialResolved = loop.initialResolved ∧ later.stage ≠ .returned
  silent : answersOf turn.2 = []

section

variable (s : Bridge) (loop : Loop)

theorem returnLoop_silent : EndsSilently s loop (returnLoop s loop) :=
  ⟨rfl, ⟨_, rfl, rfl, rfl, rfl⟩, answersOf_answered _⟩

theorem answered_returns (error : SignetError) :
    EndsAnswered s loop (Kit.andThen (answerInitial s loop error) fun s =>
      returnLoop s { loop with initialResolved := true }) := by
  refine ⟨rfl, ⟨_, rfl, rfl, rfl⟩, error, ?_⟩
  rw [andThen_snd, answersOf_append, (returnLoop_silent _ _).silent, List.append_nil]
  unfold answerInitial
  split <;> rfl

theorem breakLoop_answers : EndsAnswered s loop (breakLoop s loop) :=
  answered_returns s loop _

theorem afterFinal_answers (error : SignetError) :
    EndsAnswered s loop (afterFinal s loop error) := by
  by_cases hStopped : s.stopped = true
  · have hBreak := breakLoop_answers (answerInitial s loop error).1 { loop with initialResolved := true }
    obtain ⟨error', hAnswers⟩ := hBreak.answers
    have hTurn : afterFinal s loop error = Kit.andThen (answerInitial s loop error) fun s =>
        breakLoop s { loop with initialResolved := true } := by
      unfold afterFinal answerInitial
      simp [Kit.andThen, hStopped]
    rw [hTurn]
    refine ⟨rfl, hBreak.after, error, ?_⟩
    rw [andThen_snd, answersOf_append, hAnswers, if_pos rfl, List.append_nil]
    unfold answerInitial
    split <;> rfl
  · have hTurn : afterFinal s loop error = Kit.andThen (answerInitial s loop error) fun s =>
        returnLoop s { loop with initialResolved := true } := by
      unfold afterFinal answerInitial
      simp [Kit.andThen, hStopped]
    rw [hTurn]
    exact answered_returns s loop error

theorem connectAndPump_goes : GoesOn s loop (connectAndPump config s loop true) :=
  ⟨rfl, ⟨_, rfl, rfl, rfl, by simp⟩, rfl⟩

theorem connectAndPump_silent : EndsSilently s loop (connectAndPump config s loop false) :=
  ⟨rfl, ⟨_, rfl, rfl, rfl, rfl⟩, rfl⟩

end

/-! ### Every step -/

variable {label : BridgeLabel} {out : List BridgeObservation} {loop : Loop} {turn : BridgeTurn}
  {checkpoint : Option Checkpoint}

theorem EndsAnswered.of_resume
    (hEnds : EndsAnswered s { loop with resumeCheckpoint := checkpoint } turn) :
    EndsAnswered s loop turn := ⟨hEnds.starts, hEnds.after, hEnds.answers⟩

theorem EndsSilently.of_resume
    (hEnds : EndsSilently s { loop with resumeCheckpoint := checkpoint } turn) :
    EndsSilently s loop turn := ⟨hEnds.starts, hEnds.after, hEnds.silent⟩

theorem GoesOn.of_resume (hGoes : GoesOn s { loop with resumeCheckpoint := checkpoint } turn) :
    GoesOn s loop turn := ⟨hGoes.starts, hGoes.after, hGoes.silent⟩

theorem move_of_ends (hEnds : EndsAnswered s loop (t, out)) (hLoop : s.loop = some loop)
    (hFirst : AnswersFirst config s label) : LoopMove config ⟨s, label, out⟩ t := by
  obtain ⟨later, hAfter, hCall, hResolved⟩ := hEnds.after
  obtain ⟨error, hAnswers⟩ := hEnds.answers
  exact .ends loop later error hEnds.starts hLoop hAfter hAnswers hCall hResolved hFirst

theorem move_of_silent (hEnds : EndsSilently s loop (t, out)) (hLoop : s.loop = some loop)
    (hFirst : AnswersFirst config s label ↔ loop.initialResolved = true) :
    LoopMove config ⟨s, label, out⟩ t := by
  obtain ⟨later, hAfter, hCall, hResolved, hStage⟩ := hEnds.after
  exact .endsSilently loop later hEnds.starts hLoop hAfter hEnds.silent hCall hResolved hStage hFirst

theorem quiet_of_goes (hGoes : GoesOn s loop turn) (hLoop : s.loop = some loop) :
    Quiet s turn := by
  obtain ⟨later, hAfter, hCall, hResolved, hStage⟩ := hGoes.after
  refine ⟨hGoes.starts, hGoes.silent, ?_⟩
  intro later' hLater
  rw [hAfter] at hLater
  cases hLater
  exact ⟨loop, hLoop, hCall, hResolved, fun hReturned => absurd hReturned hStage⟩

theorem enterLoop_move {opens : Bool}
    (hTurn : enterLoop config s { loop with resumeCheckpoint := checkpoint } opens = (t, out))
    (hLoop : s.loop = some loop)
    (hFirst : AnswersFirst config s label ↔
      (loop.initialResolved = false → s.stopped = false → opens = true)) :
    LoopMove config ⟨s, label, out⟩ t := by
  unfold enterLoop at hTurn
  split at hTurn
  · next hStopped =>
    have hBreak := breakLoop_answers s { loop with resumeCheckpoint := checkpoint }
    rw [hTurn] at hBreak
    refine move_of_ends hBreak.of_resume hLoop (hFirst.mpr ?_)
    intro _ hRunning
    rw [hStopped] at hRunning
    cases hRunning
  · next hRunning =>
    cases opens with
    | true =>
      have hGoes := @connectAndPump_goes config s { loop with resumeCheckpoint := checkpoint }
      rw [hTurn] at hGoes
      exact .quiet (quiet_of_goes hGoes.of_resume hLoop) (hFirst.mpr fun _ _ => rfl)
    | false =>
      have hEnds := @connectAndPump_silent config s { loop with resumeCheckpoint := checkpoint }
      rw [hTurn] at hEnds
      refine move_of_silent hEnds.of_resume hLoop ?_
      rw [hFirst]
      cases loop.initialResolved <;> simp [hRunning]

theorem afterRetryable_move
    (hTurn : afterRetryable config s { loop with resumeCheckpoint := checkpoint } = (t, out))
    (hLoop : s.loop = some loop)
    (hFirst : AnswersFirst config s label ↔
      (loop.initialResolved = false → s.stopped = false →
        config.reconnect.enabled = true ∧ config.reconnect.exhausted loop.attempt = false)) :
    LoopMove config ⟨s, label, out⟩ t := by
  unfold afterRetryable at hTurn
  split at hTurn
  · next hStopped =>
    have hBreak := breakLoop_answers s { loop with resumeCheckpoint := checkpoint }
    rw [hTurn] at hBreak
    refine move_of_ends hBreak.of_resume hLoop (hFirst.mpr ?_)
    intro _ hRunning
    rw [hStopped] at hRunning
    cases hRunning
  · next hRunning =>
    have hSilent := (returnLoop_silent s { loop with resumeCheckpoint := checkpoint }).of_resume
    split at hTurn
    · next hDisabled =>
      cases hTurn
      refine move_of_silent ⟨rfl, hSilent.after, hSilent.silent⟩ hLoop ?_
      rw [hFirst]
      cases loop.initialResolved <;> simp [hRunning, hDisabled]
    · next hEnabled =>
      split at hTurn
      · next hExhausted =>
        cases hTurn
        refine move_of_silent ⟨rfl, hSilent.after, hSilent.silent⟩ hLoop ?_
        rw [hFirst]
        cases loop.initialResolved <;> simp_all
      · next hLeft =>
        cases hTurn
        refine .quiet (@quiet_of_goes s loop _ ⟨rfl, ⟨_, rfl, rfl, rfl, ?_⟩, rfl⟩ hLoop)
          (hFirst.mpr ?_)
        · intro hReturned
          cases hReturned
        · intro _ _
          exact ⟨by simpa using hEnabled, by simpa using hLeft⟩

theorem connectionStep_quiet (hText : ∀ c' payload, label ≠ .message c' (.text payload))
    (hDecoded : ∀ c' task, label ≠ .decoded c' task)
    (hStep : connectionStep config s c connection label = some (t, out)) : Quiet s (t, out) := by
  unfold connectionStep at hStep
  split at hStep
  · split at hStep
    · cases hStep
    · rw [← Option.some.inj hStep]
      exact (onOpen_quiet config _ c connection).of_same rfl rfl
  · next c' data =>
    split at hStep
    · rw [← Option.some.inj hStep]
      cases data with
      | text payload => exact absurd rfl (hText c' payload)
      | blob payload =>
        simp only [onMessage]
        split <;> exact quiet_of_same rfl rfl rfl
    · cases hStep
  · next c' task => exact absurd rfl (hDecoded c' task)
  · obtain ⟨payload, -, hStep⟩ := Option.bind_eq_some_iff.mp hStep
    rw [← Option.some.inj hStep]
    exact quiet_of_same rfl rfl rfl
  · split at hStep
    · rw [← Option.some.inj hStep]
      exact (runLink_quiet _ c connection _).of_same rfl rfl
    · cases hStep
  · split at hStep
    · split at hStep
      · cases hStep
      · rw [← Option.some.inj hStep]
        exact quiet_of_same rfl rfl rfl
    · cases hStep
  · split at hStep
    · split at hStep
      · rw [← Option.some.inj hStep]
        exact (pushDelivery_quiet _ _).of_same rfl rfl
      · cases hStep
    · rw [← Option.some.inj hStep]
      exact failSave_quiet s c _
    · cases hStep
  · split at hStep
    · rw [← Option.some.inj hStep]
      exact (onAuthTimeout_quiet _ c connection).of_same rfl rfl
    · cases hStep
  · split at hStep
    · cases hStep
    · rw [← Option.some.inj hStep]
      exact (appendLink_quiet _ c connection _).of_same rfl rfl
  · cases hStep

theorem read_move {s' : Bridge} {payload : Option Payload} (hLoop : s'.loop = s.loop)
    (hStarts : s'.starts = s.starts) (hTurn : handlePayload config s' c connection payload = (t, out))
    (hFirst : AnswersFirst config s label)
    (hFrame : ∀ frame operatorId, payload = some frame →
      frame.authenticated = some (config.credentialId, operatorId) →
      Authenticates config ⟨s, label, out⟩) :
    LoopMove config ⟨s, label, out⟩ t := by
  rcases @handlePayload_loop config s' c connection payload with hQuiet |
    ⟨loop, later, frame, operatorId, hPayload, hAuthenticated, hBefore, hAfter, hStarts', hAnswers,
      hCall, hResolved⟩
  · rw [hTurn] at hQuiet
    exact .quiet (hQuiet.of_same hLoop hStarts) hFirst
  · rw [hTurn] at hAfter hStarts' hAnswers
    exact .authenticated loop later (hStarts'.trans hStarts) (hLoop ▸ hBefore) hAfter hAnswers hCall
      hResolved (hFrame frame operatorId hPayload hAuthenticated) hFirst

theorem message_move {c' : Nat} {data : MessageData}
    (hStep : connectionStep config s c connection (.message c' data) = some (t, out)) :
    LoopMove config ⟨s, .message c' data, out⟩ t := by
  have hFirst : AnswersFirst config s (.message c' data) := answersFirst_of_label (by simp) (by simp)
  cases data with
  | blob payload => exact .quiet (connectionStep_quiet (by simp) (by simp) hStep) hFirst
  | text payload =>
    simp only [connectionStep] at hStep
    split at hStep
    · have hTurn := Option.some.inj hStep
      simp only [onMessage] at hTurn
      split at hTurn
      · refine read_move rfl rfl hTurn hFirst ?_
        rintro frame operatorId rfl hAuthenticated
        exact ⟨c', frame, operatorId, hAuthenticated, Or.inl rfl⟩
      · cases hTurn
        exact .quiet (quiet_of_same rfl rfl rfl) hFirst
    · cases hStep

theorem decoded_move {task : Nat} (hConnection : s.connections.get c = some connection)
    (hStep : connectionStep config s c connection (.decoded c task) = some (t, out)) :
    LoopMove config ⟨s, .decoded c task, out⟩ t := by
  obtain ⟨payload, hTask, hStep⟩ := Option.bind_eq_some_iff.mp hStep
  refine @read_move config s t c connection (.decoded c task) out
    (modifyConnection s c fun entry => entry.dropTask task) payload rfl rfl (Option.some.inj hStep)
    (answersFirst_of_label (by simp) (by simp)) ?_
  rintro frame operatorId rfl hAuthenticated
  exact ⟨c, frame, operatorId, hAuthenticated, Or.inr ⟨connection, task, rfl, hConnection, hTask⟩⟩

/-- **What a step does to the loop.** -/
theorem bridgeStep_loop (hStep : bridgeStep config s label = some (t, out)) :
    LoopMove config ⟨s, label, out⟩ t := by
  cases label with
  | start =>
    have hFirst : AnswersFirst config s .start := answersFirst_of_label (by simp) (by simp)
    simp only [bridgeStep, start] at hStep
    split at hStep
    · next loop hLoop =>
      cases hStep
      exact .refuses _ rfl rfl (by simp [hLoop]) rfl hFirst
    · next hNone =>
      cases hStep
      exact .begins _ rfl hNone rfl rfl rfl rfl rfl hFirst
  | stop =>
    have hQuiet := stop_quiet s
    rw [Option.some.inj hStep] at hQuiet
    exact .quiet hQuiet (answersFirst_of_label (by simp) (by simp))
  | next =>
    cases hStep
    exact .quiet (quiet_of_same rfl rfl (answersOf_answered _))
      (answersFirst_of_label (by simp) (by simp))
  | crash =>
    cases hStep
    refine .quiet ⟨rfl, rfl, ?_⟩ (answersFirst_of_label (by simp) (by simp))
    intro later hLater
    cases hLater
  | loaded failure opens =>
    obtain ⟨loop, hLoop, hStep⟩ := Option.bind_eq_some_iff.mp hStep
    split at hStep
    · next hStage =>
      have hTurn := Option.some.inj hStep
      cases failure with
      | some error =>
        have hFirst : AnswersFirst config s (.loaded (some error) opens) := by
          intro loop' _ _ _
          rfl
        have hEnds := answered_returns (emitError s error).1 loop error
        have hAll : EndsAnswered s loop (t, out) := by
          rw [← hTurn]
          exact ⟨rfl, hEnds.after, hEnds.answers⟩
        exact move_of_ends hAll hLoop hFirst
      | none =>
        refine enterLoop_move hTurn hLoop ?_
        unfold AnswersFirst
        simp [triesOn, hLoop, hStage]
    · cases hStep
  | continueLoop opens =>
    obtain ⟨loop, hLoop, hStep⟩ := Option.bind_eq_some_iff.mp hStep
    split at hStep
    · next checkpoint hStage =>
      refine afterRetryable_move (Option.some.inj hStep) hLoop ?_
      unfold AnswersFirst
      simp [triesOn, hLoop, hStage]
    · next checkpoint error hStage =>
      have hEnds := (afterFinal_answers s { loop with resumeCheckpoint := checkpoint } error).of_resume
      rw [Option.some.inj hStep] at hEnds
      refine move_of_ends hEnds hLoop ?_
      unfold AnswersFirst
      simp [triesOn, hLoop, hStage]
    · next hStage =>
      refine @enterLoop_move config s t _ out loop loop.resumeCheckpoint opens
        (Option.some.inj hStep) hLoop ?_
      unfold AnswersFirst
      simp [triesOn, hLoop, hStage]
    · cases hStep
  | timer =>
    obtain ⟨loop, hLoop, hStep⟩ := Option.bind_eq_some_iff.mp hStep
    split at hStep
    · cases hStep
      exact .quiet (wake_quiet s) (answersFirst_of_label (by simp) (by simp))
    · cases hStep
  | loopCleared =>
    obtain ⟨loop, hLoop, hStep⟩ := Option.bind_eq_some_iff.mp hStep
    split at hStep
    · cases hStep
      refine .quiet ⟨rfl, rfl, ?_⟩ (answersFirst_of_label (by simp) (by simp))
      intro later hLater
      cases hLater
    · cases hStep
  | message c data =>
    obtain ⟨connection, -, hStep⟩ := Option.bind_eq_some_iff.mp hStep
    exact message_move hStep
  | decoded c task =>
    obtain ⟨connection, hConnection, hStep⟩ := Option.bind_eq_some_iff.mp hStep
    exact decoded_move hConnection hStep
  | socketOpen c | decodeFailed c task | advance c | written c | saved c failure | authTimeout c
  | socketClose c code reason =>
    obtain ⟨connection, -, hStep⟩ := Option.bind_eq_some_iff.mp hStep
    exact .quiet (connectionStep_quiet (by simp) (by simp) hStep)
      (answersFirst_of_label (by simp) (by simp))

/-! ## Every run -/

variable {h : List BridgeOccurrence}

/-- The loop that is over has answered its call. -/
def ReturnedAnswered (s : Bridge) : Prop :=
  ∀ loop, s.loop = some loop → loop.stage = .returned → loop.initialResolved = true

/-- The answers that have been given, and the loop that owes one. -/
structure AnswersCounted (h : List BridgeOccurrence) (s : Bridge) : Prop where
  known : ∀ call, s.starts ≤ call → answersTo h call = 0
  once : ∀ call, answersTo h call ≤ 1
  loop : ∀ loop, s.loop = some loop → loop.call < s.starts ∧
    answersTo h loop.call = if loop.initialResolved then 1 else 0

theorem answersTo_snoc (h : List BridgeOccurrence) (o : BridgeOccurrence) (call : Nat) :
    answersTo (h ++ [o]) call =
      answersTo h call + (answersOf o.out).countP fun answer => answer.1 == call := by
  simp [answersTo]

theorem answersTo_silent {o : BridgeOccurrence} (hSilent : answersOf o.out = []) (call : Nat) :
    answersTo (h ++ [o]) call = answersTo h call := by
  rw [answersTo_snoc, hSilent]
  rfl

theorem answersTo_one {o : BridgeOccurrence} {answered : Nat} {result : Except SignetError Unit}
    (hAnswers : answersOf o.out = [(answered, result)]) (call : Nat) :
    answersTo (h ++ [o]) call = answersTo h call + if answered = call then 1 else 0 := by
  rw [answersTo_snoc, hAnswers, List.countP_singleton]
  simp

theorem counted_of_answer {later : Loop} {result : Except SignetError Unit}
    (hCounted : AnswersCounted h s) (hLoop : s.loop = some loop) (hAfter : t.loop = some later)
    (hStarts : t.starts = s.starts)
    (hAnswers : answersOf out = if loop.initialResolved then [] else [(loop.call, result)])
    (hCall : later.call = loop.call) (hResolved : later.initialResolved = true) :
    AnswersCounted (h ++ [⟨s, label, out⟩]) t := by
  obtain ⟨hKnown, hCount⟩ := hCounted.loop loop hLoop
  have hOthers : ∀ call, call ≠ loop.call →
      answersTo (h ++ [⟨s, label, out⟩]) call = answersTo h call := by
    intro call hNe
    cases hBefore : loop.initialResolved with
    | true => exact answersTo_silent (by rw [hAnswers, hBefore]; rfl) call
    | false =>
      rw [answersTo_one (by rw [hAnswers, hBefore]; rfl) call, if_neg (Ne.symm hNe), Nat.add_zero]
  have hOwn : answersTo (h ++ [⟨s, label, out⟩]) loop.call = 1 := by
    cases hBefore : loop.initialResolved with
    | true =>
      rw [answersTo_silent (by rw [hAnswers, hBefore]; rfl) loop.call, hCount, hBefore]
      rfl
    | false =>
      rw [answersTo_one (by rw [hAnswers, hBefore]; rfl) loop.call, hCount, hBefore, if_pos rfl]
      rfl
  constructor
  · intro call hFresh
    rw [hStarts] at hFresh
    rw [hOthers call (by omega)]
    exact hCounted.known call hFresh
  · intro call
    by_cases hEq : call = loop.call
    · rw [hEq, hOwn]
    · rw [hOthers call hEq]
      exact hCounted.once call
  · intro loop' hLoop'
    rw [hAfter] at hLoop'
    cases hLoop'
    rw [hCall, hOwn, hResolved, hStarts]
    exact ⟨hKnown, rfl⟩

/-- Nobody is answered, and the loop goes on or is over for the same call. -/
theorem counted_of_silent (hCounted : AnswersCounted h s) (hStarts : t.starts = s.starts)
    (hSilent : answersOf out = [])
    (hLoop : ∀ later, t.loop = some later → ∃ loop, s.loop = some loop ∧
      later.call = loop.call ∧ later.initialResolved = loop.initialResolved) :
    AnswersCounted (h ++ [⟨s, label, out⟩]) t := by
  have hSame : ∀ call, answersTo (h ++ [⟨s, label, out⟩]) call = answersTo h call :=
    answersTo_silent hSilent
  constructor
  · intro call hFresh
    rw [hSame]
    exact hCounted.known call (hStarts ▸ hFresh)
  · intro call
    rw [hSame]
    exact hCounted.once call
  · intro later hLater
    obtain ⟨loop, hBefore, hCall, hResolved⟩ := hLoop later hLater
    rw [hSame, hStarts, hCall, hResolved]
    exact hCounted.loop loop hBefore

/-- **The counts are kept.** -/
theorem counted_step (hCounted : AnswersCounted h s) (hMove : LoopMove config ⟨s, label, out⟩ t) :
    AnswersCounted (h ++ [⟨s, label, out⟩]) t := by
  cases hMove with
  | quiet hQuiet hFirst =>
    refine counted_of_silent hCounted hQuiet.starts hQuiet.silent ?_
    intro later hLater
    obtain ⟨loop, hLoop, hCall, hResolved, -⟩ := hQuiet.loop later hLater
    exact ⟨loop, hLoop, hCall, hResolved⟩
  | authenticated loop later hStarts hBefore hAfter hAnswers hCall hResolved hFrame hFirst =>
    exact counted_of_answer hCounted hBefore hAfter hStarts hAnswers hCall hResolved
  | ends loop later error hStarts hBefore hAfter hAnswers hCall hResolved hFirst =>
    exact counted_of_answer hCounted hBefore hAfter hStarts hAnswers hCall hResolved
  | endsSilently loop later hStarts hBefore hAfter hSilent hCall hResolved hReturned hFirst =>
    refine counted_of_silent hCounted hStarts hSilent ?_
    intro later' hLater
    rw [hAfter] at hLater
    cases hLater
    exact ⟨loop, hBefore, hCall, hResolved⟩
  | begins later hStarts hBefore hAfter hSilent hCall hResolved hStage hFirst =>
    have hNext : t.starts = s.starts + 1 := hStarts
    have hSame : ∀ call, answersTo (h ++ [⟨s, label, out⟩]) call = answersTo h call :=
      answersTo_silent hSilent
    constructor
    · intro call hFresh
      rw [hSame]
      exact hCounted.known call (by omega)
    · intro call
      rw [hSame]
      exact hCounted.once call
    · intro later' hLater
      rw [hAfter] at hLater
      cases hLater
      have hOwn : later.call = s.starts := hCall
      rw [hSame, hOwn, hResolved, hCounted.known s.starts (Nat.le_refl _)]
      exact ⟨by omega, rfl⟩
  | refuses error hStarts hSame hLoop hAnswers hFirst =>
    have hOne := @answersTo_one h ⟨s, label, out⟩ s.starts (.error error) hAnswers
    have hNone := hCounted.known s.starts (Nat.le_refl _)
    have hNext : t.starts = s.starts + 1 := hStarts
    constructor
    · intro call hFresh
      rw [hOne, if_neg (by omega), hCounted.known call (by omega)]
    · intro call
      rw [hOne]
      split
      · next hEq => rw [← hEq, hNone]
      · exact hCounted.once call
    · intro loop hAfter
      have hBefore : s.loop = some loop := hSame ▸ hAfter
      obtain ⟨hKnown, hCount⟩ := hCounted.loop loop hBefore
      rw [hOne, if_neg (by omega), Nat.add_zero, hCount]
      exact ⟨by omega, rfl⟩

theorem counted_run (hRun : (bridgeMachine config).Runs h s) : AnswersCounted h s := by
  induction hRun with
  | start =>
    refine ⟨fun _ _ => rfl, fun _ => Nat.zero_le _, ?_⟩
    intro loop hLoop
    cases hLoop
  | step hRun hStep ih => exact counted_step ih (bridgeStep_loop hStep)

/-- A step ends no loop unanswered exactly when it meets the guard. -/
theorem returnedAnswered_step (hBefore : ReturnedAnswered s)
    (hMove : LoopMove config ⟨s, label, out⟩ t) :
    ReturnedAnswered t ↔ AnswersFirst config s label := by
  cases hMove with
  | quiet hQuiet hFirst =>
    refine iff_of_true ?_ hFirst
    intro later hLater hReturned
    obtain ⟨loop, hLoop, -, hResolved, hStage⟩ := hQuiet.loop later hLater
    rw [hResolved]
    exact hBefore loop hLoop (hStage hReturned)
  | authenticated loop later hStarts hLoop hAfter hAnswers hCall hResolved hFrame hFirst =>
    refine iff_of_true ?_ hFirst
    intro later' hLater _
    rw [hAfter] at hLater
    cases hLater
    exact hResolved
  | ends loop later error hStarts hLoop hAfter hAnswers hCall hResolved hFirst =>
    refine iff_of_true ?_ hFirst
    intro later' hLater _
    rw [hAfter] at hLater
    cases hLater
    exact hResolved
  | endsSilently loop later hStarts hLoop hAfter hSilent hCall hResolved hReturned hFirst =>
    refine Iff.trans ?_ hFirst.symm
    constructor
    · intro hAnswered
      rw [← hResolved]
      exact hAnswered later hAfter hReturned
    · intro hAnswered later' hLater _
      rw [hAfter] at hLater
      cases hLater
      rw [hResolved, hAnswered]
  | begins later hStarts hLoop hAfter hSilent hCall hResolved hStage hFirst =>
    refine iff_of_true ?_ hFirst
    intro later' hLater hReturned
    rw [hAfter] at hLater
    cases hLater
    rw [hStage] at hReturned
    cases hReturned
  | refuses error hStarts hSame hLoop hAnswers hFirst =>
    refine iff_of_true ?_ hFirst
    have hLoops : t.loop = s.loop := hSame
    unfold ReturnedAnswered
    rw [hLoops]
    exact hBefore

/-- Success is answered in the step that handles the authenticated frame only. -/
theorem success_of_move (hMove : LoopMove config ⟨s, label, out⟩ t) {call : Nat}
    (hOut : .started call (.ok ()) ∈ out) : Authenticates config ⟨s, label, out⟩ := by
  have hMem : (call, Except.ok ()) ∈ answersOf out :=
    List.mem_filterMap.mpr ⟨_, hOut, rfl⟩
  cases hMove with
  | authenticated loop later hStarts hLoop hAfter hAnswers hCall hResolved hFrame hFirst => exact hFrame
  | quiet hQuiet hFirst =>
    rw [hQuiet.silent] at hMem
    cases hMem
  | ends loop later error hStarts hLoop hAfter hAnswers hCall hResolved hFirst =>
    have hAnswers' : answersOf out = _ := hAnswers
    rw [hAnswers'] at hMem
    split at hMem <;> simp at hMem
  | endsSilently loop later hStarts hLoop hAfter hSilent hCall hResolved hReturned hFirst =>
    have hSilent' : answersOf out = [] := hSilent
    rw [hSilent'] at hMem
    cases hMem
  | begins later hStarts hLoop hAfter hSilent hCall hResolved hStage hFirst =>
    have hSilent' : answersOf out = [] := hSilent
    rw [hSilent'] at hMem
    cases hMem
  | refuses error hStarts hSame hLoop hAnswers hFirst =>
    have hAnswers' : answersOf out = _ := hAnswers
    rw [hAnswers'] at hMem
    simp at hMem

theorem startAnswered_iff_returned (hRun : (bridgeMachine config).Runs h s) :
    StartAnswered config h s ↔ ReturnedAnswered s := by
  have hCounted := counted_run hRun
  constructor
  · intro hAnswered loop hLoop hReturned
    have hOne := hAnswered.ended loop hLoop hReturned
    rw [(hCounted.loop loop hLoop).2] at hOne
    by_contra hUnresolved
    rw [if_neg hUnresolved] at hOne
    cases hOne
  · intro hAnswered
    refine ⟨?_, hCounted.once, ?_, ?_, ?_⟩
    · intro loop hLoop hReturned
      rw [(hCounted.loop loop hLoop).2, if_pos (hAnswered loop hLoop hReturned)]
    · intro o ho call hOut
      obtain ⟨t, hStep⟩ := hRun.step_of_mem ho
      exact success_of_move (bridgeStep_loop hStep) hOut
    · intro loop hLoop hReturned
      exact ⟨{ s with loop := none }, by simp [bridgeStep, hLoop, hReturned], rfl⟩
    · intro hNone
      exact ⟨_, by simp only [bridgeStep, start, hNone]; rfl, rfl⟩

/-- **The answer to a start.**  In every run the loops that are over have answered their
calls exactly when no step ends one unanswered. -/
theorem start_answered_iff (hRun : (bridgeMachine config).Runs h s) :
    (∀ h' t, (bridgeMachine config).Runs h' t → h' <+: h → StartAnswered config h' t) ↔
      AllMeet (AnswersFirst config) h := by
  refine hRun.forall_moment_iff ?_ ?_
  · refine (startAnswered_iff_returned Runs.start).mpr ?_
    intro loop hLoop
    cases hLoop
  · intro h s label t out hRuns hBefore hTaken
    rw [startAnswered_iff_returned (hRuns.step hTaken)]
    exact returnedAnswered_step ((startAnswered_iff_returned hRuns).mp hBefore)
      (bridgeStep_loop hTaken)

/-! ## Runs on fixed inputs -/

def sampleConfig : BridgeConfig :=
  ⟨"cred_0011223344556677", "ws://localhost:8393/v1/agent", "token", ⟨false, 0⟩⟩

def sampleBridge : Machine Bridge BridgeLabel BridgeObservation := bridgeMachine sampleConfig

/-- The frame that authenticates the configured credential. -/
def authenticatedPayload : Payload :=
  ⟨some ("cred_0011223344556677", "op_0011223344556677"), none, none, .error []⟩

/-- A connection is authenticated before it is lost, and no other is to be made. -/
def answersThenEnds : List BridgeLabel :=
  [.start, .loaded none true, .socketOpen 0, .message 0 (.text (some authenticatedPayload)),
    .socketClose 0 1006 "", .continueLoop true]

theorem answersThenEnds_first :
    sampleBridge.Executes answersThenEnds fun h _ =>
      AllMeet (AnswersFirst sampleConfig) h := by
  decide

theorem answersThenEnds_isSome :
    (sampleBridge.exec sampleBridge.init answersThenEnds).isSome = true :=
  answersThenEnds_first.goes

/-- The start has succeeded when the bridge ends. -/
theorem answersThenEnds_answered :
    StartAnswered sampleConfig
      (sampleBridge.outcome sampleBridge.init answersThenEnds answersThenEnds_isSome).1
      (sampleBridge.outcome sampleBridge.init answersThenEnds answersThenEnds_isSome).2 :=
  (@start_answered_iff sampleConfig _ _ answersThenEnds_first.runs).mpr
    answersThenEnds_first.holds _ _ answersThenEnds_first.runs (List.prefix_refl _)

/-- The signet cannot be reached, and no other connection is to be made. -/
def endsUnanswered : List BridgeLabel :=
  [.start, .loaded none true, .socketClose 0 1006 "", .continueLoop true]

theorem endsUnanswered_returned :
    sampleBridge.Executes endsUnanswered fun h s =>
      s.loop = some ⟨0, .returned, none, 0, false⟩ ∧ answersTo h 0 = 0 := by
  decide

/-- The loop is over, and nobody learns of it. -/
theorem start_unanswered :
    ∃ h s, sampleBridge.Runs h s ∧ ¬ StartAnswered sampleConfig h s := by
  obtain ⟨h, s, -, hRun, hReturned, hNone⟩ := endsUnanswered_returned.exists_run
  refine ⟨h, s, hRun, ?_⟩
  intro hAnswered
  have hOne := hAnswered.ended _ hReturned rfl
  rw [hNone] at hOne
  cases hOne

end OpenClaw
end Signet
