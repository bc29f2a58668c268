import Signet.Cli.AdminFraming

/-!
# In whose name an admin request is carried out

A connection takes the identity of a token when its verification ends.  A request asks for an
elevation under the identity that is there when its line comes, and is carried out under the one
that is there later; another token may have been accepted in between.

* `Accepted` — a token whose verification has ended well.
* `ActsFor` — the identity under which a line awaits something.
* `requests_authenticated` — in every run it is that of an accepted token.
-/

namespace Signet
namespace Cli
namespace Admin

open Kit Machine

variable (deps : AdminServerDeps)

/-- A token with these claims has come on a line and has been verified. -/
def Accepted (h : List AdminOccurrence) (payload : AdminJwtPayload) : Prop :=
  ∃ o ∈ h, ∃ number token, o.label = .resumed number ∧
    o.pre.tasks.get number = some (.verifying token) ∧ deps.verifyJwt token = .ok payload

/-- A request asks for its elevation in the session of an accepted token, on a connection that is
authenticated, and is carried out in the name of an accepted token. -/
def ActsFor (h : List AdminOccurrence) (state : ConnectionState) : LineTask → Prop
  | .verifying _ => True
  | .elevating _ _ input => state.authenticated = true ∧ ∃ payload, Accepted deps h payload ∧
      input.adminFingerprint = payload.iss ∧ input.sessionKey = payload.iss ++ ":" ++ payload.jti
  | .dispatching _ _ context =>
    ∃ payload, Accepted deps h payload ∧ context.adminKeyFingerprint = payload.iss

/-- A connection that is authenticated has the identity of an accepted token. -/
def Identified (h : List AdminOccurrence) (state : ConnectionState) : Prop :=
  state.authenticated = true → ∃ payload, Accepted deps h payload ∧ state = .of payload

variable {deps} {h : List AdminOccurrence} {s t : AdminSocket} {state : ConnectionState}
  {task : LineTask} {number : Nat} {result : AdminReply ⊕ LineTask}

theorem Accepted.mono {h' : List AdminOccurrence} {payload : AdminJwtPayload}
    (hAccepted : Accepted deps h payload) (hMore : ∀ o ∈ h, o ∈ h') : Accepted deps h' payload := by
  obtain ⟨o, hMem, hAccepts⟩ := hAccepted
  exact ⟨o, hMore o hMem, hAccepts⟩

theorem ActsFor.mono {h' : List AdminOccurrence} {state' : ConnectionState}
    (hActs : ActsFor deps h state task) (hMore : ∀ o ∈ h, o ∈ h')
    (hStays : state.authenticated = true → state'.authenticated = true) :
    ActsFor deps h' state' task := by
  cases task with
  | verifying token => trivial
  | elevating request params input =>
    obtain ⟨hAuthenticated, payload, hAccepted, hSame⟩ := hActs
    exact ⟨hStays hAuthenticated, payload, hAccepted.mono hMore, hSame⟩
  | dispatching request params context =>
    obtain ⟨payload, hAccepted, hSame⟩ := hActs
    exact ⟨payload, hAccepted.mono hMore, hSame⟩

/-! ## A line -/

theorem task_of_putLine {other : Nat}
    (hTask : (putLine s number result).1.tasks.get other = some task) :
    s.tasks.get other = some task ∨ result = .inr task := by
  cases result with
  | inl reply => exact Or.inl (AssocMap.of_get_delete hTask).2
  | inr new =>
    simp only [putLine, AssocMap.get_set] at hTask
    split at hTask
    · cases hTask
      exact Or.inr rfl
    · exact Or.inl hTask

theorem takeLines_state (s : AdminSocket) (lines : List String) :
    (takeLines deps s lines).1.state = s.state := by
  induction lines generalizing s with
  | nil => rfl
  | cons line lines ih => exact (ih _).trans (takeLine_state s line)

/-- What awaits something after a chunk did so before, or is a line of the chunk. -/
theorem task_of_takeLines {lines : List String}
    (hTask : (takeLines deps s lines).1.tasks.get number = some task) :
    s.tasks.get number = some task ∨ ∃ line, handleLine deps s.state line = .inr task := by
  induction lines generalizing s with
  | nil => exact Or.inl hTask
  | cons line lines ih =>
    rcases ih hTask with hFirst | ⟨later, hLater⟩
    · exact (task_of_putLine hFirst).imp_right fun hLine => ⟨line, hLine⟩
    · rw [takeLine_state] at hLater
      exact Or.inr ⟨later, hLater⟩

theorem actsFor_handleLine (hIdentified : Identified deps h state) {line : String}
    (hLine : handleLine deps state line = .inr task) : ActsFor deps h state task := by
  unfold handleLine at hLine
  split at hLine
  · cases hLine
  · split at hLine
    · next hAuthenticated =>
      obtain ⟨payload, hAccepted, rfl⟩ := hIdentified hAuthenticated
      unfold handleRequest at hLine
      split at hLine
      · cases hLine
      · split at hLine
        · cases hLine
        · split at hLine
          · cases hLine
          · cases hLine
            exact ⟨rfl, payload, hAccepted, rfl, rfl⟩
    · unfold handleAuthFrame at hLine
      split at hLine
      · cases hLine
      · cases hLine
        trivial

/-! ## Every run -/

theorem adminStep_acts {label : AdminLabel} {out : List AdminObservation}
    (hTaken : ⟨s, label, out⟩ ∈ h) (hIdentified : Identified deps h s.state)
    (hActs : ∀ number task, s.tasks.get number = some task → ActsFor deps h s.state task)
    (hStep : adminStep deps s label = some (t, out)) :
    Identified deps h t.state ∧
      ∀ number task, t.tasks.get number = some task → ActsFor deps h t.state task := by
  cases label with
  | data bytes =>
    obtain ⟨rfl, -⟩ := Prod.mk.inj (Option.some.inj hStep)
    rw [takeLines_state]
    refine ⟨hIdentified, fun number task hTask => ?_⟩
    rcases task_of_takeLines hTask with hOld | ⟨line, hLine⟩
    · exact hActs number task hOld
    · exact actsFor_handleLine hIdentified hLine
  | resumed number =>
    obtain ⟨task, hTask, hTurn⟩ := Option.bind_eq_some_iff.mp hStep
    have hPut : (putLine { s with state := (resume deps s.state task).1 } number
        (resume deps s.state task).2).1 = t := congrArg Prod.fst (Option.some.inj hTurn)
    have hState : t.state = (resume deps s.state task).1 := by
      rw [← hPut]
      cases (resume deps s.state task).2 <;> rfl
    -- the end of a verification gives the connection the identity of its token
    have hNow : Identified deps h t.state ∧
        (s.state.authenticated = true → t.state.authenticated = true) := by
      rw [hState]
      cases task with
      | verifying token =>
        cases hVerify : deps.verifyJwt token with
        | error error =>
          rw [resume, verified_of_error hVerify]
          exact ⟨hIdentified, id⟩
        | ok payload =>
          rw [resume, verified_of_ok hVerify]
          exact ⟨fun _ => ⟨payload, ⟨_, hTaken, number, token, rfl, hTask, hVerify⟩, rfl⟩,
            fun _ => rfl⟩
      | elevating request params input | dispatching request params context =>
        exact ⟨hIdentified, id⟩
    refine ⟨hNow.1, fun other later hLater => ?_⟩
    rw [← hPut] at hLater
    rcases task_of_putLine hLater with hOld | hResult
    · exact (hActs other later hOld).mono (fun _ ho => ho) hNow.2
    · cases task with
      | verifying token | dispatching request params context => cases hResult
      | elevating request params input =>
        obtain ⟨payload, hAccepted, hHeld⟩ := hIdentified (hActs number _ hTask).1
        dsimp only [resume] at hResult
        split at hResult
        · cases hResult
        · cases hResult
          exact ⟨payload, hAccepted, by rw [hHeld]; rfl⟩

/-- **No request is carried out but in the name of an accepted token.**  In every run a connection
that is authenticated has the identity of a token that has been verified; a request that awaits its
elevation has asked for it in the session of such a token, and one that is carried out acts in the
name of one. -/
theorem requests_authenticated (hRun : (adminMachine deps).Runs h s) :
    Identified deps h s.state ∧
      ∀ number task, s.tasks.get number = some task → ActsFor deps h s.state task := by
  induction hRun with
  | start =>
    constructor
    · intro hAuthenticated
      cases hAuthenticated
    · intro number task hTask
      cases hTask
  | @step h s t label out _ hStep ih =>
    have hMore : ∀ o ∈ h, o ∈ h ++ [⟨s, label, out⟩] := fun o ho => List.mem_append_left _ ho
    refine adminStep_acts (List.mem_append_right _ (List.mem_singleton_self _)) ?_ ?_ hStep
    · intro hAuthenticated
      obtain ⟨payload, hAccepted, hSame⟩ := ih.1 hAuthenticated
      exact ⟨payload, hAccepted.mono hMore, hSame⟩
    · intro number task hTask
      exact (ih.2 number task hTask).mono hMore id

/-- A request that is about to be carried out. -/
theorem requests_authenticated_dispatching :
    ∃ h s request params context, sampleServer.Runs h s ∧
      s.tasks.get 1 = some (.dispatching request params context) ∧
      ActsFor sampleDeps h s.state (.dispatching request params context) := by
  have hGoes : sampleServer.Executes (oneByOne.take 4) fun _ s => s.tasks.get 1 =
      some (.dispatching ⟨.number 1, "a", .empty⟩ .empty ⟨"fingerprint", none⟩) := by
    decide
  obtain ⟨h, s, -, hRun, hTask⟩ := hGoes.exists_run
  exact ⟨h, s, _, _, _, hRun, hTask, (requests_authenticated hRun).2 1 _ hTask⟩

end Admin
end Cli
end Signet
