import Signet.Cli.AdminServer
import Mathlib.Data.List.Perm.Basic
import Mathlib.Data.List.Range

/-!
# Lines on the admin socket

The bytes of a connection say which lines there are and, line after line, each reply: what is
read of the bytes together, and what each line is replied to when the lines before it have been.
A chunk is decoded on its own, and a line is not kept waiting for the one before, so a run may
differ from both.

* `linesOf`, `answers` — the lines and the replies the bytes alone say.
* `Framed`, `SameHandling` — what should hold after every run, and of two runs.
* `KeepsFraming` — the steps that leave it so.
* `Following`, `following_takeLine`, `following_resumed` — the lines and their replies step by step.
* `framed_run` — every run of such steps follows its bytes.
-/

namespace Signet
namespace Cli
namespace Admin

open Kit Machine Schemas

variable (deps : AdminServerDeps)

/-! ## Line after line -/

/-- What a line awaits is awaited to its reply, and nothing else happens. -/
def finish (state : ConnectionState) : LineTask → ConnectionState × AdminReply
  | .verifying token => verified deps state token
  | .elevating request params input =>
    (state,
      match deps.resolveForRequest input with
      | .error error => refuse request error
      | .ok elevation => dispatched deps request params ⟨state.adminFingerprint.getD "", elevation⟩)
  | .dispatching request params context => (state, dispatched deps request params context)

/-- A line is handled and awaited. -/
def answerNext (state : ConnectionState) (line : String) : ConnectionState × AdminReply :=
  match handleLine deps state line with
  | .inl reply => (state, reply)
  | .inr task => finish deps state task

/-- The connection after some lines, each of which was awaited before the next. -/
def stateAfter (lines : List String) : ConnectionState :=
  lines.foldl (fun state line => (answerNext deps state line).1) .initial

/-- The replies to lines, each of which is awaited before the next. -/
def answers (lines : List String) : List AdminReply :=
  lines.zipIdx.map fun entry => (answerNext deps (stateAfter deps (lines.take entry.2)) entry.1).2

def bytesOf (h : List AdminOccurrence) : List UInt8 :=
  h.flatMap fun o =>
    match o.label with
    | .data bytes => bytes
    | .resumed _ => []

/-- The lines of some bytes that are read together. -/
def linesOf (bytes : List UInt8) : List String := requestLines (splitLines (textDecode bytes)).1

/-! ## Runs -/

def handledOf : AdminObservation → Option String
  | .handled line => some line
  | .replied _ _ => none

def repliedOf : AdminObservation → Option (Nat × AdminReply)
  | .handled _ => none
  | .replied line reply => some (line, reply)

def handledLines (h : List AdminOccurrence) : List String := (outputs h).filterMap handledOf

def repliedLines (h : List AdminOccurrence) : List (Nat × AdminReply) :=
  (outputs h).filterMap repliedOf

/-- The lines are those of all bytes together, each is replied to as if it had come after the
others were, and once or it awaits something. -/
structure Framed (h : List AdminOccurrence) (s : AdminSocket) : Prop where
  lines : handledLines h = linesOf (bytesOf h)
  replies : ∀ number reply, (number, reply) ∈ repliedLines h →
    (answers deps (linesOf (bytesOf h)))[number]? = some reply
  once : ((repliedLines h).map Prod.fst ++ s.tasks.keys).Perm
    (List.range (linesOf (bytesOf h)).length)

/-- The lines are the same in two runs, and the replies to each. -/
structure SameHandling (h : List AdminOccurrence) (s : AdminSocket) (h' : List AdminOccurrence)
    (s' : AdminSocket) : Prop where
  lines : handledLines h' = handledLines h
  replies : ∀ number reply reply', (number, reply) ∈ repliedLines h →
    (number, reply') ∈ repliedLines h' → reply' = reply
  complete : s.tasks.keys = [] → s'.tasks.keys = [] →
    ∀ entry, entry ∈ repliedLines h' ↔ entry ∈ repliedLines h

def Authenticates (line : String) : Prop :=
  ∃ value token payload, deps.parse line = some value ∧ adminAuthFrame value = some token ∧
    deps.verifyJwt token = .ok payload

/-- A step that leaves the lines and their replies those of the bytes: a chunk is decoded to what
it adds to the text of all bytes, and a line that is JSON comes only where the connection is
authenticated, or no line before it has a good token. -/
def KeepsFraming (h : List AdminOccurrence) (s : AdminSocket) : AdminLabel → Prop
  | .data bytes =>
    textDecode (bytesOf h ++ bytes) = textDecode (bytesOf h) ++ textDecode bytes ∧
      ∀ earlier line later,
        requestLines (splitLines (s.buffer ++ textDecode bytes)).1 = earlier ++ line :: later →
          (deps.parse line).isSome = true →
            s.state.authenticated = true ∨
              ∀ before ∈ handledLines h ++ earlier, ¬Authenticates deps before
  | .resumed _ => True

/-- Every step of a run leaves them so. -/
def AllKeepFraming (h : List AdminOccurrence) : Prop :=
  ∀ h₁ o h₂, h = h₁ ++ o :: h₂ → KeepsFraming deps h₁ o.pre o.label

/-! ## One line more -/

variable {deps} {h : List AdminOccurrence} {s t : AdminSocket} {lines : List String}
  {replied : List (Nat × AdminReply)} {line : String} {state : ConnectionState} {task : LineTask}

theorem stateAfter_snoc (lines : List String) (line : String) :
    stateAfter deps (lines ++ [line]) = (answerNext deps (stateAfter deps lines) line).1 := by
  unfold stateAfter
  rw [List.foldl_append]
  rfl

theorem answers_snoc (lines : List String) (line : String) :
    answers deps (lines ++ [line]) =
      answers deps lines ++ [(answerNext deps (stateAfter deps lines) line).2] := by
  unfold answers
  rw [List.zipIdx_append, List.map_append]
  congr 1
  · refine List.map_congr_left ?_
    intro entry hMem
    have hLt := (List.mem_zipIdx hMem).2.1
    rw [List.take_append_of_le_length (by omega)]
  · simp

theorem length_answers (lines : List String) : (answers deps lines).length = lines.length := by
  simp [answers]

variable {tasks : AssocMap Nat LineTask} {number : Nat} {h' : List AdminOccurrence} {token : String}

/-- The replies to the lines before stay. -/
theorem answers_snoc_of_some {reply : AdminReply} (h : (answers deps lines)[number]? = some reply) :
    (answers deps (lines ++ [line]))[number]? = some reply := by
  obtain ⟨hLt, -⟩ := List.getElem?_eq_some_iff.mp h
  rw [answers_snoc, List.getElem?_append_left hLt]
  exact h

theorem answers_snoc_last (lines : List String) (line : String) :
    (answers deps (lines ++ [line]))[lines.length]? =
      some (answerNext deps (stateAfter deps lines) line).2 := by
  rw [answers_snoc, ← @length_answers deps lines, List.getElem?_concat_length]

/-- What a request does to the connection: nothing. -/
theorem finish_state_of_request (hRequest : ∀ token, task ≠ .verifying token) :
    (finish deps state task).1 = state := by
  cases task with
  | verifying token => exact absurd rfl (hRequest token)
  | elevating request params input => rfl
  | dispatching request params context => rfl

/-- The reply to an auth frame does not depend on the connection. -/
theorem finish_verifying (state state' : ConnectionState) (token : String) :
    (finish deps state (.verifying token)).2 = (finish deps state' (.verifying token)).2 := by
  unfold finish verified
  dsimp only
  split <;> rfl

theorem verified_of_ok {payload : AdminJwtPayload} (h : deps.verifyJwt token = .ok payload) :
    verified deps state token = (.of payload, .authenticated) := by
  unfold verified
  rw [h]

theorem verified_of_error {error : SignetError} (h : deps.verifyJwt token = .error error) :
    verified deps state token =
      (state, .error none JsonRpcErrors.authFailed error.message none) := by
  unfold verified
  rw [h]

theorem handleLine_of_not_json (h : deps.parse line = none) (state : ConnectionState) :
    handleLine deps state line = .inl (.error none JsonRpcErrors.parseError "Parse error" none) := by
  unfold handleLine
  rw [h]

/-- An unauthenticated connection awaits no more than a token. -/
theorem handleLine_of_unauthenticated (hState : state.authenticated = false)
    (hTask : handleLine deps state line = .inr task) :
    ∃ value token, deps.parse line = some value ∧ adminAuthFrame value = some token ∧
      task = .verifying token := by
  unfold handleLine at hTask
  split at hTask
  · cases hTask
  · next value hParse =>
    rw [hState, if_neg (by simp)] at hTask
    unfold handleAuthFrame at hTask
    split at hTask
    · cases hTask
    · next token hFrame =>
      cases hTask
      exact ⟨value, token, hParse, hFrame, rfl⟩

/-- An authenticated connection awaits nothing of a token. -/
theorem handleLine_of_authenticated (hState : state.authenticated = true)
    (hTask : handleLine deps state line = .inr task) : ∀ token, task ≠ .verifying token := by
  rintro token rfl
  unfold handleLine at hTask
  split at hTask
  · cases hTask
  · rw [if_pos hState] at hTask
    unfold handleRequest at hTask
    split at hTask
    · cases hTask
    · split at hTask
      · cases hTask
      · split at hTask <;> cases hTask

/-- The connection is new as long as no line authenticates it. -/
theorem stateAfter_of_none (h : ∀ line ∈ lines, ¬Authenticates deps line) :
    stateAfter deps lines = .initial := by
  induction lines using List.reverseRecOn with
  | nil => rfl
  | append_singleton lines line ih =>
    have hBefore := ih fun line hMem => h line (List.mem_append_left _ hMem)
    rw [stateAfter_snoc, hBefore]
    unfold answerNext
    split
    · rfl
    · next task hTask =>
      obtain ⟨value, token, hParse, hFrame, rfl⟩ := handleLine_of_unauthenticated rfl hTask
      unfold finish verified
      dsimp only
      split
      · rfl
      · next payload hVerified =>
        exact absurd ⟨value, token, payload, hParse, hFrame, hVerified⟩ (h line (by simp))

/-- A connection is new or authenticated. -/
theorem stateAfter_cases (lines : List String) :
    stateAfter deps lines = .initial ∨ (stateAfter deps lines).authenticated = true := by
  induction lines using List.reverseRecOn with
  | nil => exact Or.inl rfl
  | append_singleton lines line ih =>
    rw [stateAfter_snoc]
    unfold answerNext
    split
    · exact ih
    · next task hTask =>
      cases task with
      | verifying token =>
        unfold finish verified
        dsimp only
        split
        · exact ih
        · exact Or.inr rfl
      | elevating request params input => exact ih
      | dispatching request params context => exact ih

/-! ## Following the lines -/

/-- The token of a line is good and has not been verified. -/
def Pending (deps : AdminServerDeps) (s : AdminSocket) (number : Nat) (payload : AdminJwtPayload) :
    Prop :=
  ∃ token, s.tasks.get number = some (.verifying token) ∧ deps.verifyJwt token = .ok payload

/-- The connection and its replies are those of some lines, one after another, but for a good
token that has not been verified. -/
structure Following (deps : AdminServerDeps) (lines : List String)
    (replied : List (Nat × AdminReply)) (s : AdminSocket) : Prop where
  count : s.lines = lines.length
  replies : ∀ number reply, (number, reply) ∈ replied →
    (answers deps lines)[number]? = some reply
  once : (replied.map Prod.fst ++ s.tasks.keys).Perm (List.range lines.length)
  current : s.state = stateAfter deps lines ∨ s.state = .initial
  tasks : ∀ number task, s.tasks.get number = some task →
    (answers deps lines)[number]? = some (finish deps s.state task).2
  requests : ∀ number task, s.tasks.get number = some task →
    (∃ token, task = .verifying token) ∨ s.state.authenticated = true
  pending : ∀ number payload, Pending deps s number payload →
    s.state = .initial ∧ stateAfter deps lines = .of payload
  single : ∀ number number' payload payload', Pending deps s number payload →
    Pending deps s number' payload' → number = number'

theorem following_opened : Following deps [] [] AdminSocket.opened := by
  refine ⟨rfl, ?_, List.Perm.refl _, Or.inl rfl, ?_, ?_, ?_, ?_⟩
  · intro number reply hMem
    cases hMem
  · intro number task hTask
    cases hTask
  · intro number task hTask
    cases hTask
  · rintro number payload ⟨token, hTask, -⟩
    cases hTask
  · rintro number number' payload payload' ⟨token, hTask, -⟩
    cases hTask

/-- A line that has come awaits something, or has been replied to. -/
theorem Following.lt_of_task (h : Following deps lines replied s)
    (hTask : s.tasks.get number = some task) : number < lines.length := by
  have hKey : number ∈ s.tasks.keys := AssocMap.mem_keys.mpr ⟨task, hTask⟩
  exact List.mem_range.mp (h.once.subset (List.mem_append_right _ hKey))

theorem Following.absent (h : Following deps lines replied s) : s.tasks.get s.lines = none := by
  cases hTask : s.tasks.get s.lines with
  | none => rfl
  | some task =>
    have hLt := h.lt_of_task hTask
    rw [h.count] at hLt
    exact absurd hLt (lt_irrefl _)

/-- The connection is where the lines have brought it, if the next line is JSON and in turn. -/
theorem Following.state_eq (h : Following deps lines replied s)
    (hTurn : s.state.authenticated = true ∨ ∀ before ∈ lines, ¬Authenticates deps before) :
    s.state = stateAfter deps lines := by
  rcases h.current with hSame | hInitial
  · exact hSame
  · rcases hTurn with hAuthenticated | hNone
    · rw [hInitial] at hAuthenticated
      cases hAuthenticated
    · rw [hInitial, stateAfter_of_none hNone]

theorem keys_delete_of_absent (h : tasks.get number = none) : tasks.delete number = tasks := by
  refine AssocMap.ext ?_
  show tasks.entries.filter _ = tasks.entries
  rw [List.filter_eq_self]
  intro entry hMem
  have hNe : entry.1 ≠ number := by
    rintro rfl
    have hSome := AssocMap.get_eq_some_iff.mpr hMem
    rw [h] at hSome
    cases hSome
  simpa using hNe

theorem keys_set_of_absent (task : LineTask) (h : tasks.get number = none) :
    (tasks.set number task).keys = tasks.keys ++ [number] := by
  unfold AssocMap.keys
  rw [AssocMap.entries_set_of_absent task h, List.map_append]
  rfl

/-- **A line that is replied to at once.** -/
theorem Following.of_reply (h : Following deps lines replied s) {reply : AdminReply}
    (hReply : (answerNext deps (stateAfter deps lines) line).2 = reply)
    (hState : (answerNext deps (stateAfter deps lines) line).1 = stateAfter deps lines) :
    Following deps (lines ++ [line]) (replied ++ [(s.lines, reply)]) { s with lines := s.lines + 1 } := by
  have hAfter : stateAfter deps (lines ++ [line]) = stateAfter deps lines := by
    rw [stateAfter_snoc, hState]
  refine ⟨?_, ?_, ?_, ?_, ?_, h.requests, ?_, h.single⟩
  · rw [List.length_append, ← h.count]
    rfl
  · intro number reply' hMem
    rcases List.mem_append.mp hMem with hMem | hMem
    · exact answers_snoc_of_some (h.replies number reply' hMem)
    · cases List.mem_singleton.mp hMem
      rw [h.count, answers_snoc_last, hReply]
  · rw [List.map_append, List.length_append, List.length_singleton, List.range_succ, ← h.count,
      List.append_assoc]
    refine List.Perm.trans ?_ ((h.count ▸ h.once).append_right [s.lines])
    rw [List.append_assoc]
    exact List.Perm.append_left _ List.perm_append_comm
  · rw [hAfter]
    exact h.current
  · intro number task hTask
    exact answers_snoc_of_some (h.tasks number task hTask)
  · intro number payload hPending
    rw [hAfter]
    exact h.pending number payload hPending

/-- **A line that awaits something.** -/
theorem Following.of_task (h : Following deps lines replied s) (hSame : s.state = stateAfter deps lines)
    (hTask : handleLine deps s.state line = .inr task) :
    Following deps (lines ++ [line]) replied
      { s with lines := s.lines + 1, tasks := s.tasks.set s.lines task } := by
  have hNext : answerNext deps (stateAfter deps lines) line = finish deps s.state task := by
    unfold answerNext
    rw [← hSame, hTask]
  have hNone : ∀ number payload, ¬Pending deps s number payload := by
    intro number payload hPending
    obtain ⟨hInitial, hAfter⟩ := h.pending number payload hPending
    rw [← hSame, hInitial] at hAfter
    cases hAfter
  have hAfter : stateAfter deps (lines ++ [line]) = (finish deps s.state task).1 := by
    rw [stateAfter_snoc, hNext]
  have hGet : ∀ number later, (s.tasks.set s.lines task).get number = some later →
      number = s.lines ∧ later = task ∨ s.tasks.get number = some later := by
    intro number later hLater
    rcases AssocMap.get_set_cases hLater with ⟨hEq, rfl⟩ | ⟨-, hLater⟩
    · exact Or.inl ⟨hEq, rfl⟩
    · exact Or.inr hLater
  have hInitial : ∀ token, task = .verifying token → s.state = .initial := by
    rintro token rfl
    rcases @stateAfter_cases deps lines with hCase | hCase
    · exact hSame.trans hCase
    · exact absurd rfl (handleLine_of_authenticated (hSame ▸ hCase) hTask token)
  have hPending : ∀ number payload,
      Pending deps { s with lines := s.lines + 1, tasks := s.tasks.set s.lines task } number payload →
        number = s.lines ∧ ∃ token, task = .verifying token ∧ deps.verifyJwt token = .ok payload := by
    rintro number payload ⟨token, hLater, hVerified⟩
    rcases hGet number _ hLater with ⟨rfl, hEq⟩ | hBefore
    · exact ⟨rfl, token, hEq.symm, hVerified⟩
    · exact absurd ⟨token, hBefore, hVerified⟩ (hNone number payload)
  refine ⟨?_, ?_, ?_, ?_, ?_, ?_, ?_, ?_⟩
  · rw [List.length_append, ← h.count]
    rfl
  · intro number reply hMem
    exact answers_snoc_of_some (h.replies number reply hMem)
  · show (_ ++ (s.tasks.set s.lines task).keys).Perm _
    rw [keys_set_of_absent task h.absent, ← List.append_assoc, List.length_append,
      List.length_singleton, List.range_succ, ← h.count]
    exact (h.count ▸ h.once).append_right [s.lines]
  · rw [hAfter]
    by_cases hToken : ∃ token, task = .verifying token
    · obtain ⟨token, rfl⟩ := hToken
      exact Or.inr (hInitial token rfl)
    · exact Or.inl (finish_state_of_request fun token hEq => hToken ⟨token, hEq⟩).symm
  · intro number later hLater
    rcases hGet number later hLater with ⟨rfl, rfl⟩ | hBefore
    · rw [h.count, answers_snoc_last, hNext]
    · exact answers_snoc_of_some (h.tasks number later hBefore)
  · intro number later hLater
    rcases hGet number later hLater with ⟨rfl, rfl⟩ | hBefore
    · rcases @stateAfter_cases deps lines with hCase | hCase
      · left
        obtain ⟨value, token, -, -, hEq⟩ := handleLine_of_unauthenticated
          (by rw [hSame, hCase]; rfl) hTask
        exact ⟨token, hEq⟩
      · exact Or.inr (hSame ▸ hCase)
    · exact h.requests number later hBefore
  · intro number payload hSome
    obtain ⟨-, token, rfl, hVerified⟩ := hPending number payload hSome
    refine ⟨hInitial token rfl, ?_⟩
    rw [hAfter]
    show (verified deps s.state token).1 = _
    rw [verified_of_ok hVerified]
  · intro number number' payload payload' hSome hSome'
    exact (hPending number payload hSome).1.trans (hPending number' payload' hSome').1.symm

/-- What a step adds to the lines that have been replied to. -/
def repliesOf (out : List AdminObservation) : List (Nat × AdminReply) := out.filterMap repliedOf

theorem repliesOf_append (out later : List AdminObservation) :
    repliesOf (out ++ later) = repliesOf out ++ repliesOf later := by
  unfold repliesOf
  rw [List.filterMap_append]

/-- **A line is taken.** -/
theorem Following.takeLine (h : Following deps lines replied s)
    (hTurn : (deps.parse line).isSome = true →
      s.state.authenticated = true ∨ ∀ before ∈ lines, ¬Authenticates deps before) :
    Following deps (lines ++ [line]) (replied ++ repliesOf (takeLine deps s line).2)
      (takeLine deps s line).1 := by
  -- A line that is no JSON is refused whatever the connection is.
  have hSame : deps.parse line = none ∨ s.state = stateAfter deps lines := by
    cases hParse : deps.parse line with
    | none => exact Or.inl rfl
    | some value => exact Or.inr (h.state_eq (hTurn (by rw [hParse]; rfl)))
  unfold Admin.takeLine
  cases hHandled : handleLine deps s.state line with
  | inl reply =>
    have hNext : answerNext deps (stateAfter deps lines) line = (stateAfter deps lines, reply) := by
      unfold answerNext
      rcases hSame with hParse | hSame
      · rw [handleLine_of_not_json hParse] at hHandled
        cases hHandled
        rw [handleLine_of_not_json hParse]
      · rw [← hSame, hHandled]
    have hTasks : s.tasks.delete s.lines = s.tasks := keys_delete_of_absent h.absent
    show Following deps _ (replied ++ [(s.lines, reply)])
      { s with lines := s.lines + 1, tasks := s.tasks.delete s.lines }
    rw [hTasks]
    exact h.of_reply (congrArg Prod.snd hNext) (congrArg Prod.fst hNext)
  | inr task =>
    have hState : s.state = stateAfter deps lines := by
      refine hSame.resolve_left ?_
      intro hParse
      rw [handleLine_of_not_json hParse] at hHandled
      cases hHandled
    show Following deps _ (replied ++ []) { s with
      lines := s.lines + 1, tasks := s.tasks.set s.lines task }
    rw [List.append_nil]
    exact h.of_task hState hHandled

section

variable (s : AdminSocket) (line : String)

theorem takeLine_state : (takeLine deps s line).1.state = s.state := by
  unfold takeLine
  cases handleLine deps s.state line <;> rfl

theorem takeLine_handled : (takeLine deps s line).2.filterMap handledOf = [line] := by
  unfold takeLine
  cases handleLine deps s.state line <;> rfl

theorem takeLine_buffer : (takeLine deps s line).1.buffer = s.buffer := by
  unfold takeLine
  cases handleLine deps s.state line <;> rfl

end

/-- Lines are taken one after another. -/
theorem Following.takeLines {later : List String} (h : Following deps lines replied s)
    (hTurn : ∀ earlier line rest, later = earlier ++ line :: rest → (deps.parse line).isSome = true →
      s.state.authenticated = true ∨ ∀ before ∈ lines ++ earlier, ¬Authenticates deps before) :
    Following deps (lines ++ later) (replied ++ repliesOf (takeLines deps s later).2)
        (takeLines deps s later).1 ∧
      (takeLines deps s later).2.filterMap handledOf = later ∧
      (takeLines deps s later).1.buffer = s.buffer := by
  induction later generalizing lines replied s with
  | nil =>
    rw [List.append_nil]
    exact ⟨by rwa [show repliesOf (Admin.takeLines deps s []).2 = [] from rfl, List.append_nil], rfl,
      rfl⟩
  | cons line later ih =>
    have hTaken := h.takeLine (by simpa using hTurn [] line later rfl)
    have hRest := ih hTaken (by
      rintro earlier other rest rfl hJson
      rw [takeLine_state]
      have hBefore := hTurn (line :: earlier) other rest rfl hJson
      rwa [List.append_assoc])
    unfold Admin.takeLines
    rw [andThen_fst, andThen_snd, repliesOf_append, List.filterMap_append, takeLine_handled,
      ← List.append_assoc]
    obtain ⟨hFollowing, hHandled, hBuffer⟩ := hRest
    refine ⟨?_, ?_, ?_⟩
    · rwa [List.append_assoc] at hFollowing
    · rw [hHandled]
      rfl
    · rw [hBuffer, takeLine_buffer]

/-! ## A line goes on -/

theorem keys_set_of_present (later : LineTask) (h : tasks.get number = some task) :
    (tasks.set number later).keys = tasks.keys := by
  have hKey : number ∈ tasks.entries.map Prod.fst := AssocMap.mem_keys.mpr ⟨task, h⟩
  show (setEntry number later tasks.entries).map Prod.fst = _
  rw [keys_setEntry, if_pos hKey]
  rfl

/-- A line that is replied to awaits nothing any more. -/
theorem keys_delete_perm (h : tasks.get number = some task) :
    ([number] ++ (tasks.delete number).keys).Perm tasks.keys := by
  have hErase : (tasks.delete number).keys = tasks.keys.erase number := by
    rw [tasks.nodup_keys.erase_eq_filter]
    show (tasks.entries.filter _).map Prod.fst = (tasks.entries.map Prod.fst).filter _
    rw [List.filter_map]
    congr 1
    refine List.filter_congr ?_
    intro entry _
    by_cases hEq : entry.1 = number <;> simp [hEq]
  rw [hErase]
  exact (List.perm_cons_erase (AssocMap.mem_keys.mpr ⟨task, h⟩)).symm

/-- **A line is replied to** with what it is replied to after the others. -/
theorem Following.of_replied (h : Following deps lines replied s)
    (hTask : s.tasks.get number = some task) :
    Following deps lines (replied ++ [(number, (finish deps s.state task).2)])
      { s with state := (finish deps s.state task).1, tasks := s.tasks.delete number } := by
  have hGet : ∀ number' later, (s.tasks.delete number).get number' = some later →
      number' ≠ number ∧ s.tasks.get number' = some later := by
    intro number' later hLater
    exact AssocMap.of_get_delete hLater
  have hOnce : ((replied ++ [(number, (finish deps s.state task).2)]).map Prod.fst ++
      (s.tasks.delete number).keys).Perm (List.range lines.length) := by
    rw [List.map_append, List.append_assoc]
    exact ((keys_delete_perm hTask).append_left _).trans h.once
  have hReplies : ∀ number' reply,
      (number', reply) ∈ replied ++ [(number, (finish deps s.state task).2)] →
        (answers deps lines)[number']? = some reply := by
    intro number' reply hMem
    rcases List.mem_append.mp hMem with hMem | hMem
    · exact h.replies number' reply hMem
    · cases List.mem_singleton.mp hMem
      exact h.tasks number task hTask
  by_cases hGood : ∃ payload, Pending deps s number payload
  · -- The connection is authenticated, and nothing else awaits a good token.
    obtain ⟨payload, hPending⟩ := hGood
    obtain ⟨hInitial, hAfter⟩ := h.pending number payload hPending
    obtain ⟨token, hToken, hVerified⟩ := id hPending
    rw [hTask] at hToken
    cases hToken
    have hState : (finish deps s.state (.verifying token)).1 = .of payload := by
      show (verified deps s.state token).1 = _
      rw [verified_of_ok hVerified]
    have hNoMore : ∀ number' payload', ¬Pending deps { s with
        state := (finish deps s.state (.verifying token)).1, tasks := s.tasks.delete number }
          number' payload' := by
      rintro number' payload' ⟨token', hLater, hVerified'⟩
      obtain ⟨hNe, hBefore⟩ := hGet number' _ hLater
      exact hNe (h.single number' number payload' payload ⟨token', hBefore, hVerified'⟩ hPending)
    refine ⟨h.count, hReplies, hOnce, ?_, ?_, ?_, ?_, ?_⟩
    · left
      rw [hState, hAfter]
    · intro number' later hLater
      obtain ⟨-, hBefore⟩ := hGet number' later hLater
      rcases h.requests number' later hBefore with ⟨token', rfl⟩ | hAuthenticated
      · rw [finish_verifying _ s.state token']
        exact h.tasks number' _ hBefore
      · rw [hInitial] at hAuthenticated
        cases hAuthenticated
    · intro number' later _
      right
      show (finish deps s.state (.verifying token)).1.authenticated = true
      rw [hState]
      rfl
    · intro number' payload' hSome
      exact absurd hSome (hNoMore number' payload')
    · intro number' number'' payload' payload'' hSome _
      exact absurd hSome (hNoMore number' payload')
  · have hState : (finish deps s.state task).1 = s.state := by
      cases task with
      | verifying token =>
        show (verified deps s.state token).1 = _
        cases hVerified : deps.verifyJwt token with
        | error error => rw [verified_of_error hVerified]
        | ok payload => exact absurd ⟨payload, token, hTask, hVerified⟩ hGood
      | elevating request params input => rfl
      | dispatching request params context => rfl
    rw [hState]
    have hPending : ∀ number' payload', Pending deps { s with tasks := s.tasks.delete number }
        number' payload' → Pending deps s number' payload' := by
      rintro number' payload' ⟨token, hLater, hVerified⟩
      exact ⟨token, (hGet number' _ hLater).2, hVerified⟩
    refine ⟨h.count, hReplies, hOnce, h.current, ?_, ?_, ?_, ?_⟩
    · intro number' later hLater
      exact h.tasks number' later (hGet number' later hLater).2
    · intro number' later hLater
      exact h.requests number' later (hGet number' later hLater).2
    · intro number' payload' hSome
      exact h.pending number' payload' (hPending number' payload' hSome)
    · intro number' number'' payload' payload'' hSome hSome'
      exact h.single number' number'' payload' payload'' (hPending number' payload' hSome)
        (hPending number'' payload'' hSome')

/-- A request awaits something else, and will be replied to with the same. -/
theorem Following.of_later (h : Following deps lines replied s) {later : LineTask}
    (hTask : s.tasks.get number = some task) (hRequest : ∀ token, task ≠ .verifying token)
    (hLater : ∀ token, later ≠ .verifying token)
    (hSame : (finish deps s.state later).2 = (finish deps s.state task).2) :
    Following deps lines replied { s with tasks := s.tasks.set number later } := by
  have hGet : ∀ number' other, (s.tasks.set number later).get number' = some other →
      number' = number ∧ other = later ∨ s.tasks.get number' = some other := by
    intro number' other hOther
    rcases AssocMap.get_set_cases hOther with ⟨hEq, rfl⟩ | ⟨-, hOther⟩
    · exact Or.inl ⟨hEq, rfl⟩
    · exact Or.inr hOther
  have hPending : ∀ number' payload', Pending deps { s with tasks := s.tasks.set number later }
      number' payload' → Pending deps s number' payload' := by
    rintro number' payload' ⟨token, hToken, hVerified⟩
    rcases hGet number' _ hToken with ⟨-, hEq⟩ | hBefore
    · exact absurd hEq.symm (hLater token)
    · exact ⟨token, hBefore, hVerified⟩
  have hAuthenticated : s.state.authenticated = true := by
    rcases h.requests number task hTask with ⟨token, hEq⟩ | hCase
    · exact absurd hEq (hRequest token)
    · exact hCase
  refine ⟨h.count, h.replies, ?_, h.current, ?_, ?_, ?_, ?_⟩
  · show (_ ++ (s.tasks.set number later).keys).Perm _
    rw [keys_set_of_present later hTask]
    exact h.once
  · intro number' other hOther
    rcases hGet number' other hOther with ⟨rfl, rfl⟩ | hBefore
    · rw [hSame]
      exact h.tasks number' task hTask
    · exact h.tasks number' other hBefore
  · intro number' other _
    exact Or.inr hAuthenticated
  · intro number' payload' hSome
    exact h.pending number' payload' (hPending number' payload' hSome)
  · intro number' number'' payload' payload'' hSome hSome'
    exact h.single number' number'' payload' payload'' (hPending number' payload' hSome)
      (hPending number'' payload'' hSome')

/-- **What a line awaits has ended.** -/
theorem following_resumed (h : Following deps lines replied s)
    (hTask : s.tasks.get number = some task) :
    Following deps lines
      (replied ++ repliesOf (putLine { s with state := (resume deps s.state task).1 } number
        (resume deps s.state task).2).2)
      (putLine { s with state := (resume deps s.state task).1 } number
        (resume deps s.state task).2).1 := by
  cases task with
  | verifying token => exact h.of_replied hTask
  | dispatching request params context => exact h.of_replied hTask
  | elevating request params input =>
    cases hResolved : deps.resolveForRequest input with
    | error error =>
      have hReply : (finish deps s.state (.elevating request params input)).2 =
          refuse request error := by
        simp only [finish, hResolved]
      have hNext := h.of_replied hTask
      rw [hReply] at hNext
      simp only [resume, hResolved]
      exact hNext
    | ok elevation =>
      have hNext : Following deps lines replied { s with
          tasks := s.tasks.set number (.dispatching request params
            ⟨s.state.adminFingerprint.getD "", elevation⟩) } :=
        h.of_later hTask (by simp) (by simp) (by simp [finish, hResolved])
      simp only [resume, hResolved]
      show Following deps lines (replied ++ []) _
      rw [List.append_nil]
      exact hNext

/-! ## Runs follow their bytes -/

theorem requestLines_append (lines later : List (List Char)) :
    requestLines (lines ++ later) = requestLines lines ++ requestLines later := by
  unfold requestLines
  rw [List.map_append, List.filter_append]

section

variable (h : List AdminOccurrence) (o : AdminOccurrence)

theorem bytesOf_snoc : bytesOf (h ++ [o]) = bytesOf h ++ bytesOf [o] := by
  unfold bytesOf
  rw [List.flatMap_append]

theorem handledLines_snoc :
    handledLines (h ++ [o]) = handledLines h ++ o.out.filterMap handledOf := by
  simp [handledLines]

theorem repliedLines_snoc : repliedLines (h ++ [o]) = repliedLines h ++ repliesOf o.out := by
  simp [repliedLines, repliesOf]

end

theorem AllKeepFraming.of_prefix (hAll : AllKeepFraming deps h) (hPrefix : h' <+: h) :
    AllKeepFraming deps h' := by
  obtain ⟨rest, rfl⟩ := hPrefix
  rintro h₁ o h₂ rfl
  exact hAll h₁ o (h₂ ++ rest) (by simp)

/-- The run has read its bytes as if they had come together, and follows their lines. -/
structure Reading (deps : AdminServerDeps) (h : List AdminOccurrence) (s : AdminSocket) : Prop where
  lines : handledLines h = linesOf (bytesOf h)
  buffer : s.buffer = (splitLines (textDecode (bytesOf h))).2
  following : Following deps (handledLines h) (repliedLines h) s

theorem reading_run (hRun : (adminMachine deps).Runs h s) (hAll : AllKeepFraming deps h) :
    Reading deps h s := by
  induction hRun with
  | start => exact ⟨rfl, rfl, following_opened⟩
  | @step h s t label out hRun hStep ih =>
    have hBefore := ih (hAll.of_prefix ⟨[⟨s, label, out⟩], rfl⟩)
    have hKeeps : KeepsFraming deps h s label := hAll h ⟨s, label, out⟩ [] rfl
    cases label with
    | resumed number =>
      obtain ⟨task, hTask, hTurn⟩ := Option.bind_eq_some_iff.mp hStep
      have hNext := following_resumed hBefore.following hTask
      have hPut := Option.some.inj hTurn
      rw [hPut] at hNext
      have hSilent : out.filterMap handledOf = [] ∧ t.buffer = s.buffer := by
        have hBoth : (t, out).2.filterMap handledOf = [] ∧ (t, out).1.buffer = s.buffer := by
          rw [← hPut]
          cases (resume deps s.state task).2 <;> exact ⟨rfl, rfl⟩
        exact hBoth
      have hBytes : bytesOf (h ++ [⟨s, .resumed number, out⟩]) = bytesOf h := by
        rw [bytesOf_snoc]
        exact List.append_nil _
      have hHandled : handledLines (h ++ [⟨s, .resumed number, out⟩]) = handledLines h := by
        rw [handledLines_snoc, hSilent.1, List.append_nil]
      refine ⟨?_, ?_, ?_⟩
      · rw [hHandled, hBytes]
        exact hBefore.lines
      · rw [hSilent.2, hBytes]
        exact hBefore.buffer
      · rw [hHandled, repliedLines_snoc]
        exact hNext
    | data bytes =>
      obtain ⟨hDecoded, hTurn⟩ := hKeeps
      have hTaken := Option.some.inj hStep
      have hBytes : bytesOf (h ++ [⟨s, .data bytes, out⟩]) = bytesOf h ++ bytes := by
        rw [bytesOf_snoc]
        exact congrArg _ (List.append_nil bytes)
      have hCut := splitLines_append (textDecode (bytesOf h)) (textDecode bytes)
      rw [← hDecoded, ← hBefore.buffer] at hCut
      obtain ⟨hNext, hHandled, hBuffer⟩ := @Following.takeLines deps _ _ _
        (requestLines (splitLines (s.buffer ++ textDecode bytes)).1)
        (show Following deps (handledLines h) (repliedLines h) { s with
          buffer := (splitLines (s.buffer ++ textDecode bytes)).2 } from
            ⟨hBefore.following.count, hBefore.following.replies, hBefore.following.once,
              hBefore.following.current, hBefore.following.tasks, hBefore.following.requests,
              hBefore.following.pending, hBefore.following.single⟩) hTurn
      rw [show takeLines deps _ _ = (t, out) from hTaken] at hNext hHandled hBuffer
      have hLines : handledLines (h ++ [⟨s, .data bytes, out⟩]) = handledLines h ++
          requestLines (splitLines (s.buffer ++ textDecode bytes)).1 := by
        rw [handledLines_snoc]
        exact congrArg _ hHandled
      refine ⟨?_, ?_, ?_⟩
      · rw [hLines, hBytes, hBefore.lines]
        unfold linesOf
        rw [hCut, requestLines_append]
      · rw [hBytes, hCut]
        exact hBuffer
      · rw [hLines, repliedLines_snoc]
        exact hNext

theorem Reading.framed (h' : Reading deps h s) : Framed deps h s := by
  refine ⟨h'.lines, ?_, ?_⟩
  · rw [← h'.lines]
    exact h'.following.replies
  · rw [← h'.lines]
    exact h'.following.once

/-- A line has been replied to, if nothing is awaited any more. -/
theorem Framed.mem_iff (hFramed : Framed deps h s) (hIdle : s.tasks.keys = [])
    (entry : Nat × AdminReply) : entry ∈ repliedLines h ↔
      (answers deps (linesOf (bytesOf h)))[entry.1]? = some entry.2 := by
  constructor
  · exact hFramed.replies entry.1 entry.2
  · intro hReply
    obtain ⟨hLt, -⟩ := List.getElem?_eq_some_iff.mp hReply
    rw [length_answers] at hLt
    have hOnce := hFramed.once
    rw [hIdle, List.append_nil] at hOnce
    obtain ⟨other, hMem, hEq⟩ := List.mem_map.mp (hOnce.symm.subset (List.mem_range.mpr hLt))
    have hOther := hFramed.replies other.1 other.2 hMem
    rw [hEq, hReply] at hOther
    rw [show entry = other from Prod.ext hEq.symm (Option.some.inj hOther)]
    exact hMem

theorem Framed.sameHandling {s' : AdminSocket} (hFramed : Framed deps h s)
    (hFramed' : Framed deps h' s') (hBytes : bytesOf h' = bytesOf h) :
    SameHandling h s h' s' := by
  refine ⟨?_, ?_, ?_⟩
  · rw [hFramed.lines, hFramed'.lines, hBytes]
  · intro number reply reply' hMem hMem'
    have hReply' := hFramed'.replies number reply' hMem'
    rw [hBytes, hFramed.replies number reply hMem] at hReply'
    exact (Option.some.inj hReply').symm
  · intro hIdle hIdle' entry
    rw [hFramed.mem_iff hIdle, hFramed'.mem_iff hIdle', hBytes]

/-- **Runs of such steps follow their bytes**, however these came in chunks. -/
theorem framed_run (hRun : (adminMachine deps).Runs h s) (hAll : AllKeepFraming deps h) :
    Framed deps h s ∧ ∀ h' s', (adminMachine deps).Runs h' s' → AllKeepFraming deps h' →
      bytesOf h' = bytesOf h → SameHandling h s h' s' := by
  have hFramed := (reading_run hRun hAll).framed
  exact ⟨hFramed, fun h' s' hRun' hAll' hBytes =>
    hFramed.sameHandling (reading_run hRun' hAll').framed hBytes⟩

/-! ## Runs on fixed inputs -/

/-- A step that reads no part of a character, and a line only where nothing is awaited. -/
def plainStep (h : List AdminOccurrence) (o : AdminOccurrence) : Bool :=
  match o.label with
  | .data bytes =>
    textDecode (bytesOf h ++ bytes) == textDecode (bytesOf h) ++ textDecode bytes &&
      (o.pre.state.authenticated || (handledLines h).isEmpty &&
        decide ((requestLines (splitLines (o.pre.buffer ++ textDecode bytes)).1).length ≤ 1))
  | .resumed _ => true

def plainSteps : List AdminOccurrence → List AdminOccurrence → Bool
  | _, [] => true
  | h, o :: rest => plainStep h o && plainSteps (h ++ [o]) rest

theorem keepsFraming_of_plain {o : AdminOccurrence} (hPlain : plainStep h o = true) :
    KeepsFraming deps h o.pre o.label := by
  unfold plainStep at hPlain
  split at hPlain
  · next bytes hLabel =>
    rw [hLabel]
    simp only [Bool.and_eq_true, Bool.or_eq_true, beq_iff_eq, List.isEmpty_iff,
      decide_eq_true_eq] at hPlain
    refine ⟨hPlain.1, ?_⟩
    intro earlier line later hLines _
    rcases hPlain.2 with hAuthenticated | ⟨hNone, hOne⟩
    · exact Or.inl hAuthenticated
    · right
      intro before hMem
      rw [hLines, List.length_append, List.length_cons] at hOne
      have hFirst : earlier = [] := List.length_eq_zero_iff.mp (by omega)
      rw [hNone, hFirst] at hMem
      cases hMem
  · next hLabel =>
    rw [hLabel]
    trivial

theorem allKeepFraming_of_plain (hPlain : plainSteps [] h = true) : AllKeepFraming deps h := by
  have hFrom : ∀ h₁ before h, plainSteps before h = true → ∀ o h₂, h = h₁ ++ o :: h₂ →
      KeepsFraming deps (before ++ h₁) o.pre o.label := by
    intro h₁
    induction h₁ with
    | nil =>
      rintro before h hPlain o h₂ rfl
      simp only [List.nil_append, plainSteps, Bool.and_eq_true] at hPlain
      rw [List.append_nil]
      exact keepsFraming_of_plain hPlain.1
    | cons first h₁ ih =>
      rintro before h hPlain o h₂ rfl
      simp only [List.cons_append, plainSteps, Bool.and_eq_true] at hPlain
      have hRest := ih _ _ hPlain.2 o h₂ rfl
      rwa [List.append_assoc] at hRest
  intro h₁ o h₂ hSplit
  exact hFrom h₁ [] h hPlain o h₂ hSplit

def authLine : String := "\x7b\"type\":\"admin_auth\",\"token\":\"jwt\"\x7d"

def requestLine : String := "\x7b\"jsonrpc\":\"2.0\",\"id\":1,\"method\":\"a\"\x7d"

/-- One good token, and one method that answers nothing. -/
def sampleDeps : AdminServerDeps where
  parse line :=
    if line = authLine then
      some (.object [("type", .string "admin_auth"), ("token", .string "jwt")])
    else if line = requestLine then
      some (.object [("jsonrpc", .string "2.0"), ("id", .number 1), ("method", .string "a")])
    else none
  verifyJwt token :=
    if token = "jwt" then .ok ⟨"fingerprint", "jti"⟩ else .error (AuthError.create "Invalid JWT")
  hasMethod method := method == "a"
  validate _ params := .ok params
  resolveForRequest _ := .ok none
  dispatchValidated _ _ _ := .ok .null

def sampleServer : Machine AdminSocket AdminLabel AdminObservation := adminMachine sampleDeps

/-- The request comes once the token has been verified. -/
def oneByOne : List AdminLabel :=
  [.data (Utf8.encode (authLine ++ "\n")), .resumed 0, .data (Utf8.encode (requestLine ++ "\n")),
    .resumed 1, .resumed 1]

/-- The request comes in the chunk of the token. -/
def inOneChunk : List AdminLabel :=
  [.data (Utf8.encode (authLine ++ "\n" ++ requestLine ++ "\n")), .resumed 0]

theorem oneByOne_served :
    sampleServer.Executes oneByOne fun h _ =>
      plainSteps [] h = true ∧
        bytesOf h = Utf8.encode (authLine ++ "\n" ++ requestLine ++ "\n") ∧
        (1, .success (.number 1) .null) ∈ repliedLines h := by
  decide

theorem oneByOne_isSome : (sampleServer.exec sampleServer.init oneByOne).isSome = true :=
  oneByOne_served.goes

/-- A character comes in two chunks. -/
def cutCharacter : List AdminLabel := [.data [0xC3], .data [0xA9, 0x0A]]

theorem cutCharacter_misread :
    sampleServer.Executes cutCharacter fun h _ => handledLines h ≠ linesOf (bytesOf h) := by
  decide

theorem inOneChunk_refused :
    sampleServer.Executes inOneChunk fun h _ =>
      bytesOf h = Utf8.encode (authLine ++ "\n" ++ requestLine ++ "\n") ∧
        (1, .error none JsonRpcErrors.authFailed "Expected admin_auth frame as first message" none)
          ∈ repliedLines h := by
  decide

theorem oneByOne_framed :
    Framed sampleDeps (sampleServer.outcome sampleServer.init oneByOne oneByOne_isSome).1
      (sampleServer.outcome sampleServer.init oneByOne oneByOne_isSome).2 :=
  (@framed_run sampleDeps _ _ oneByOne_served.runs
    (allKeepFraming_of_plain oneByOne_served.holds.1)).1

/-- The same bytes in one chunk: the request is refused as one that is not authenticated.  And a
character that comes in two chunks is read as two others. -/
theorem chunks_matter :
    (∃ h s h' s', sampleServer.Runs h s ∧ sampleServer.Runs h' s' ∧ bytesOf h' = bytesOf h ∧
      ¬SameHandling h s h' s') ∧
    ∃ h s, sampleServer.Runs h s ∧ handledLines h ≠ linesOf (bytesOf h) := by
  obtain ⟨h, s, -, hRun, -, hBytes, hServed⟩ := oneByOne_served.exists_run
  obtain ⟨h', s', -, hRun', hBytes', hRefused⟩ := inOneChunk_refused.exists_run
  obtain ⟨h'', s'', -, hRun'', hMisread⟩ := cutCharacter_misread.exists_run
  refine ⟨⟨h, s, h', s', hRun, hRun', hBytes'.trans hBytes.symm, ?_⟩, h'', s'', hRun'', hMisread⟩
  intro hSame
  cases hSame.replies 1 _ _ hServed hRefused

end Admin
end Cli
end Signet
