import Mathlib.Data.List.Basic

/-!
# Labelled machines and their runs

A machine has an initial state and a partial, executable step function: a label
is an event chosen by the environment (a call, a completed await, a clock
reading), and a step that is not enabled answers `none`.  A run keeps the whole
history: every taken step with the state before it, its label and what it made
observable.

The rules below turn facts about one step into facts about every run: an
invariant kept by every step whose label meets a guard holds after every run
whose steps all met it, and a transitive relation kept by single steps relates
every earlier state of a run to every later one.
-/

namespace Signet
namespace Kit

/-- A deterministic labelled transition system with observations. -/
structure Machine (σ α ω : Type*) where
  /-- The state before the first step. -/
  init : σ
  /-- One step; `none` when the label is not enabled. -/
  step : σ → α → Option (σ × List ω)

/-- One taken step of a run. -/
structure Occurrence (σ α ω : Type*) where
  /-- The state the step was taken in. -/
  pre : σ
  /-- The event. -/
  label : α
  /-- What the step made observable, in order. -/
  out : List ω

namespace Machine

variable {σ α ω : Type*} (M : Machine σ α ω)

/-- `M.Runs h s`: the machine has taken the steps `h`, oldest first, and is in
state `s`. -/
inductive Runs : List (Occurrence σ α ω) → σ → Prop
  | start : Runs [] M.init
  | step {h : List (Occurrence σ α ω)} {s s' : σ} {a : α} {out : List ω} :
      Runs h s → M.step s a = some (s', out) → Runs (h ++ [⟨s, a, out⟩]) s'

/-- Execute a list of labels. -/
def exec : σ → List α → Option (List (Occurrence σ α ω) × σ)
  | s, [] => some ([], s)
  | s, a :: as =>
    match M.step s a with
    | none => none
    | some (s', out) =>
      match exec s' as with
      | none => none
      | some (h, t) => some (⟨s, a, out⟩ :: h, t)

/-- The history and the last state of an execution that goes through. -/
def outcome (s : σ) (as : List α) (h : (M.exec s as).isSome = true) :
    List (Occurrence σ α ω) × σ :=
  (M.exec s as).get h

variable {M}

variable {h : List (Occurrence σ α ω)} {o : Occurrence σ α ω} {s t : σ}
  {guard assume : σ → α → Prop} {h' : List (Occurrence σ α ω)} {rel : σ → σ → Prop}

theorem exec_outcome {as : List α} (h : (M.exec s as).isSome = true) :
    M.exec s as = some ((M.outcome s as h).1, (M.outcome s as h).2) :=
  (Option.some_get h).symm

theorem Runs.append_exec {as : List α} (hRun : M.Runs h s) (hExec : M.exec s as = some (h', t)) :
    M.Runs (h ++ h') t := by
  induction as generalizing h h' s with
  | nil =>
    simp only [exec, Option.some.injEq, Prod.mk.injEq] at hExec
    obtain ⟨rfl, rfl⟩ := hExec
    simpa using hRun
  | cons a as ih =>
    unfold exec at hExec
    split at hExec
    · cases hExec
    · next s' out hStep =>
      split at hExec
      · cases hExec
      · next rest t' hRest =>
        simp only [Option.some.injEq, Prod.mk.injEq] at hExec
        obtain ⟨rfl, rfl⟩ := hExec
        simpa using ih (hRun.step hStep) hRest

/-- An execution from the initial state is a run. -/
theorem runs_of_exec {as : List α} (hExec : M.exec M.init as = some (h, t)) : M.Runs h t := by
  simpa using Runs.start.append_exec hExec

/-- One step of an execution. -/
theorem exec_cons {s' : σ} {a : α} {as : List α} {out : List ω}
    (hStep : M.step s a = some (s', out)) (hRest : M.exec s' as = some (h, t)) :
    M.exec s (a :: as) = some (⟨s, a, out⟩ :: h, t) := by
  simp only [exec, hStep, hRest]

/-- An execution in two parts. -/
theorem exec_append {u : σ} {as bs : List α} (hFirst : M.exec s as = some (h, t))
    (hRest : M.exec t bs = some (h', u)) :
    M.exec s (as ++ bs) = some (h ++ h', u) := by
  induction as generalizing h s with
  | nil =>
    cases hFirst
    exact hRest
  | cons a as ih =>
    unfold exec at hFirst
    split at hFirst
    · cases hFirst
    · next s' out hStep =>
      split at hFirst
      · cases hFirst
      · next rest t' hTail =>
        cases hFirst
        exact exec_cons hStep (ih hTail)

/-- The steps of an execution bear its labels. -/
theorem exec_labels {as : List α} (hExec : M.exec s as = some (h, t)) :
    h.map Occurrence.label = as := by
  induction as generalizing h s with
  | nil =>
    cases hExec
    rfl
  | cons a as ih =>
    unfold exec at hExec
    split at hExec
    · cases hExec
    · next s' out hStep =>
      split at hExec
      · cases hExec
      · next rest t' hRest =>
        cases hExec
        rw [List.map_cons, ih hRest]

/-- The labels can be executed from the initial state on, with a history and a last state that have
a property. -/
def Executes (M : Machine σ α ω) (as : List α) (P : List (Occurrence σ α ω) → σ → Prop) : Prop :=
  ∃ hGoes : (M.exec M.init as).isSome = true,
    P (M.outcome M.init as hGoes).1 (M.outcome M.init as hGoes).2

instance {as : List α} {P : List (Occurrence σ α ω) → σ → Prop} [∀ h s, Decidable (P h s)] :
    Decidable (M.Executes as P) :=
  inferInstanceAs (Decidable (∃ _ : (M.exec M.init as).isSome = true, _))

section Executes

variable {as : List α} {P : List (Occurrence σ α ω) → σ → Prop}

theorem Executes.goes (h : M.Executes as P) : (M.exec M.init as).isSome = true := h.fst

theorem Executes.holds (h : M.Executes as P) :
    P (M.outcome M.init as h.goes).1 (M.outcome M.init as h.goes).2 := h.snd

theorem Executes.runs (h : M.Executes as P) :
    M.Runs (M.outcome M.init as h.goes).1 (M.outcome M.init as h.goes).2 :=
  runs_of_exec (exec_outcome h.goes)

theorem Executes.exists_run (h : M.Executes as P) :
    ∃ h s, h.map Occurrence.label = as ∧ M.Runs h s ∧ P h s :=
  ⟨_, _, exec_labels (exec_outcome h.goes), h.runs, h.holds⟩

end Executes

/-- Everything made observable along a history, in order. -/
def outputs (h : List (Occurrence σ α ω)) : List ω := h.flatMap Occurrence.out

@[simp]
theorem outputs_nil : outputs ([] : List (Occurrence σ α ω)) = [] := rfl

@[simp]
theorem outputs_append (h h' : List (Occurrence σ α ω)) :
    outputs (h ++ h') = outputs h ++ outputs h' := by
  simp [outputs]

@[simp]
theorem outputs_singleton (o : Occurrence σ α ω) : outputs [o] = o.out := by
  simp [outputs]

/-- The states a run has visited, in order, the present one last. -/
def visited (h : List (Occurrence σ α ω)) (s : σ) : List σ := h.map Occurrence.pre ++ [s]

@[simp]
theorem visited_nil (s : σ) : visited ([] : List (Occurrence σ α ω)) s = [s] := rfl

@[simp]
theorem visited_snoc (h : List (Occurrence σ α ω)) (s s' : σ) (a : α) (out : List ω) :
    visited (h ++ [⟨s, a, out⟩]) s' = visited h s ++ [s'] := by
  simp [visited]

theorem mem_visited_self (h : List (Occurrence σ α ω)) (s : σ) : s ∈ visited h s := by
  simp [visited]

/-- All steps of a history met a condition on the state before and the label. -/
def AllMeet (guard : σ → α → Prop) (h : List (Occurrence σ α ω)) : Prop :=
  ∀ o ∈ h, guard o.pre o.label

instance (guard : σ → α → Prop) [∀ s a, Decidable (guard s a)] (h : List (Occurrence σ α ω)) :
    Decidable (AllMeet guard h) :=
  inferInstanceAs (Decidable (∀ o ∈ h, guard o.pre o.label))

@[simp]
theorem allMeet_nil (guard : σ → α → Prop) :
    AllMeet guard ([] : List (Occurrence σ α ω)) := by
  intro o ho
  cases ho

@[simp]
theorem allMeet_snoc (guard : σ → α → Prop) (h : List (Occurrence σ α ω))
    (o : Occurrence σ α ω) :
    AllMeet guard (h ++ [o]) ↔ AllMeet guard h ∧ guard o.pre o.label := by
  simp [AllMeet, or_imp, forall_and]

theorem allMeet_append (guard : σ → α → Prop) (h h' : List (Occurrence σ α ω)) :
    AllMeet guard (h ++ h') ↔ AllMeet guard h ∧ AllMeet guard h' := by
  simp [AllMeet, or_imp, forall_and]

theorem AllMeet.before {h₁ h₂ : List (Occurrence σ α ω)} (hMeet : AllMeet guard h)
    (hSplit : h = h₁ ++ o :: h₂) : AllMeet guard h₁ := by
  rw [hSplit, allMeet_append] at hMeet
  exact hMeet.1

/-- **The invariant rule.**  A property of history and state that holds at the
start and is kept by every step meeting the guard holds after every run whose
steps all met it. -/
theorem Runs.invariant {inv : List (Occurrence σ α ω) → σ → Prop} (hInit : inv [] M.init)
    (hStep : ∀ h s a s' out, M.Runs h s → AllMeet guard h → inv h s → guard s a →
      M.step s a = some (s', out) → inv (h ++ [⟨s, a, out⟩]) s') {h : List (Occurrence σ α ω)}
    {s : σ} (hRun : M.Runs h s) (hMeet : AllMeet guard h) : inv h s := by
  induction hRun with
  | start => exact hInit
  | step hRun' hTaken ih =>
    rw [allMeet_snoc] at hMeet
    exact hStep _ _ _ _ _ hRun' hMeet.1 (ih hMeet.1) hMeet.2 hTaken

/-- The invariant rule for a property of the state. -/
theorem Runs.guarded {inv : σ → Prop} (hRun : M.Runs h s) (hMeet : AllMeet guard h)
    (hInit : inv M.init)
    (hStep : ∀ h s a s' out, M.Runs h s → AllMeet guard h → inv s → guard s a →
      M.step s a = some (s', out) → inv s') : inv s :=
  hRun.invariant hInit hStep hMeet

theorem Runs.state_invariant {inv : σ → Prop} (hInit : inv M.init)
    (hStep : ∀ s a s' out, inv s → M.step s a = some (s', out) → inv s')
    {h : List (Occurrence σ α ω)} {s : σ} (hRun : M.Runs h s) : inv s := by
  induction hRun with
  | start => exact hInit
  | step _ hTaken ih => exact hStep _ _ _ _ ih hTaken

theorem Runs.of_append_cons (hRun : M.Runs h s) {h₁ h₂ : List (Occurrence σ α ω)}
    (hSplit : h = h₁ ++ o :: h₂) :
    M.Runs h₁ o.pre ∧ ∃ s', M.step o.pre o.label = some (s', o.out) := by
  induction hRun generalizing h₂ with
  | start => simp at hSplit
  | @step h₀ t t' a out hRun' hTaken ih =>
    rcases List.eq_nil_or_concat h₂ with rfl | ⟨rest, last, rfl⟩
    · have hLast : h₀ = h₁ ∧ (⟨t, a, out⟩ : Occurrence σ α ω) = o := by
        simpa using List.append_inj' hSplit rfl
      obtain ⟨rfl, rfl⟩ := hLast
      exact ⟨hRun', _, hTaken⟩
    · have hInit : h₀ = h₁ ++ o :: rest := by
        have hCat : h₀ ++ [⟨t, a, out⟩] = (h₁ ++ o :: rest) ++ [last] := by
          simpa using hSplit
        exact (List.append_inj' hCat rfl).1
      exact ih hInit

theorem Runs.of_snoc (hRun : M.Runs (h ++ [o]) s) :
    M.Runs h o.pre ∧ M.step o.pre o.label = some (s, o.out) := by
  generalize hSplit : h ++ [o] = h' at hRun
  cases hRun with
  | start => simp at hSplit
  | step hRun' hTaken =>
    obtain ⟨rfl, hLast⟩ := List.append_inj' hSplit rfl
    cases hLast
    exact ⟨hRun', hTaken⟩

theorem Runs.step_of_mem (hRun : M.Runs h s) (ho : o ∈ h) :
    ∃ s', M.step o.pre o.label = some (s', o.out) := by
  obtain ⟨h₁, h₂, hSplit⟩ := List.append_of_mem ho
  exact (hRun.of_append_cons hSplit).2

/-- Every visited state was reached by a run whose steps are among those of the
whole run. -/
theorem Runs.of_mem_visited (hRun : M.Runs h s) (ht : t ∈ visited h s) :
    ∃ h', M.Runs h' t ∧ ∀ o ∈ h', o ∈ h := by
  unfold visited at ht
  rw [List.mem_append, List.mem_singleton] at ht
  rcases ht with ht | rfl
  · obtain ⟨o, ho, rfl⟩ := List.mem_map.mp ht
    obtain ⟨h₁, h₂, hSplit⟩ := List.append_of_mem ho
    refine ⟨h₁, (hRun.of_append_cons hSplit).1, ?_⟩
    intro o' ho'
    rw [hSplit]
    exact List.mem_append_left _ ho'
  · exact ⟨h, hRun, fun _ ho => ho⟩

/-- A state visited after some first steps was reached by a run that extends them. -/
theorem Runs.of_mem_visited_after {h₁ h₂ : List (Occurrence σ α ω)} (hRun : M.Runs (h₁ ++ h₂) s)
    (ht : t ∈ visited h₂ s) :
    ∃ h', M.Runs (h₁ ++ h') t ∧ ∀ o ∈ h', o ∈ h₂ := by
  unfold visited at ht
  rw [List.mem_append, List.mem_singleton] at ht
  rcases ht with ht | rfl
  · obtain ⟨o, ho, rfl⟩ := List.mem_map.mp ht
    obtain ⟨a, b, rfl⟩ := List.append_of_mem ho
    have hSplit : h₁ ++ (a ++ o :: b) = (h₁ ++ a) ++ o :: b := by simp
    exact ⟨a, (hRun.of_append_cons hSplit).1, fun _ ha => List.mem_append_left _ ha⟩
  · exact ⟨h₂, hRun, fun _ ho => ho⟩

/-- **The everywhere rule.**  Where a single step keeps a property of the state exactly
when it meets the guard, every visited state has the property exactly when every step met
the guard. -/
theorem Runs.forall_visited_iff {P : σ → Prop} (hInit : P M.init)
    (hStep : ∀ h s a s' out, M.Runs h s → P s → M.step s a = some (s', out) → (P s' ↔ guard s a))
    {h : List (Occurrence σ α ω)} {s : σ} (hRun : M.Runs h s) :
    (∀ t ∈ visited h s, P t) ↔ AllMeet guard h := by
  induction hRun with
  | start => simpa using hInit
  | @step h₀ t t' a out hRun' hTaken ih =>
    simp only [visited_snoc, List.mem_append, List.mem_singleton, or_imp, forall_and,
      forall_eq, allMeet_snoc]
    rw [ih]
    constructor
    · rintro ⟨hEarlier, hLast⟩
      have hBefore := ih.mpr hEarlier t (mem_visited_self h₀ t)
      exact ⟨hEarlier, (hStep _ _ _ _ _ hRun' hBefore hTaken).mp hLast⟩
    · rintro ⟨hEarlier, hGuard⟩
      have hBefore := ih.mpr hEarlier t (mem_visited_self h₀ t)
      exact ⟨hEarlier, (hStep _ _ _ _ _ hRun' hBefore hTaken).mpr hGuard⟩

/-- **The moment rule.**  Where a single step keeps a property of history and state exactly
when it meets the guard, the property holds at every moment of a run exactly when every
step met the guard. -/
theorem Runs.forall_moment_iff {P : List (Occurrence σ α ω) → σ → Prop} (hInit : P [] M.init)
    (hStep : ∀ h s a s' out, M.Runs h s → P h s → M.step s a = some (s', out) →
      (P (h ++ [⟨s, a, out⟩]) s' ↔ guard s a)) (hRun : M.Runs h s) :
    (∀ h' t, M.Runs h' t → h' <+: h → P h' t) ↔ AllMeet guard h := by
  constructor
  · intro hMoments o ho
    obtain ⟨h₁, h₂, rfl⟩ := List.append_of_mem ho
    obtain ⟨hBefore, t, hTaken⟩ := hRun.of_append_cons rfl
    have hEarlier := hMoments h₁ o.pre hBefore ⟨o :: h₂, rfl⟩
    exact (hStep _ _ _ _ _ hBefore hEarlier hTaken).mp
      (hMoments (h₁ ++ [o]) t (hBefore.step hTaken) ⟨h₂, by simp⟩)
  · rintro hMeet h' t hRun' ⟨rest, rfl⟩
    -- by induction on the shorter run, whose steps met the guard too
    refine @Runs.invariant _ _ _ M guard P hInit ?_ h' t hRun' ((allMeet_append _ _ _).mp hMeet).1
    intro h s a s' out hRuns _ hHolds hMeets hTaken
    exact (hStep _ _ _ _ _ hRuns hHolds hTaken).mpr hMeets

/-- **The monotone rule.**  For a transitive relation, every earlier state of a
run is related to every later one exactly when every step met the guard, where
the guard describes the single steps that keep the relation. -/
theorem Runs.pairwise_visited_iff (hTrans : ∀ s t u, rel s t → rel t u → rel s u)
    (hStep : ∀ s a s' out, assume s a → M.step s a = some (s', out) → (rel s s' ↔ guard s a))
    (hRun : M.Runs h s) (hAssume : AllMeet assume h) :
    (visited h s).Pairwise rel ↔ AllMeet guard h := by
  induction hRun with
  | start => simp
  | @step h₀ t t' a out hRun' hTaken ih =>
    rw [allMeet_snoc] at hAssume
    have hOne := hStep t a t' out hAssume.2 hTaken
    rw [visited_snoc, List.pairwise_append, allMeet_snoc, ih hAssume.1, ← hOne]
    simp only [List.pairwise_singleton, true_and, List.mem_singleton]
    constructor
    · rintro ⟨hEarlier, hLater⟩
      exact ⟨hEarlier, hLater t (mem_visited_self h₀ t) t' rfl⟩
    · rintro ⟨hEarlier, hLast⟩
      refine ⟨hEarlier, ?_⟩
      rintro x hx _ rfl
      have hPair := (ih hAssume.1).mpr hEarlier
      unfold visited at hx hPair
      rw [List.mem_append, List.mem_singleton] at hx
      rcases hx with hx | rfl
      · rw [List.pairwise_append] at hPair
        exact hTrans _ _ _ (hPair.2.2 x hx t (by simp)) hLast
      · exact hLast

/-- The monotone rule for a relation that every step keeps. -/
theorem Runs.pairwise_visited (hTrans : ∀ s t u, rel s t → rel t u → rel s u)
    (hStep : ∀ s a s' out, assume s a → M.step s a = some (s', out) → rel s s') (hRun : M.Runs h s)
    (hAssume : AllMeet assume h) :
    (visited h s).Pairwise rel := by
  have hAlways : ∀ s a s' out, assume s a → M.step s a = some (s', out) →
      (rel s s' ↔ (fun (_ : σ) (_ : α) => True) s a) :=
    fun s a s' out hMeets hTaken => iff_of_true (hStep s a s' out hMeets hTaken) trivial
  exact (hRun.pairwise_visited_iff hTrans hAlways hAssume).mpr fun _ _ => trivial

end Machine

end Kit
end Signet
