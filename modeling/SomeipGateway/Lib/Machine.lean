import Mathlib.Data.List.Basic

/-! Deterministic machines that answer every input with a list of outputs.
One-step facts lift to whole runs here: invariants, per-step conditions, and
the erasure rule that compares a run with the run on fewer inputs. -/
namespace Lib.Machine

variable {σ ι ω : Type}

def run (step : σ → ι → σ × List ω) : σ → List ι → σ × List ω
  | state, [] => (state, [])
  | state, input :: rest =>
      let now := step state input
      let later := run step now.1 rest
      (later.1, now.2 ++ later.2)

@[simp] theorem run_nil (step : σ → ι → σ × List ω) (state : σ) :
    run step state [] = (state, []) := rfl

@[simp] theorem run_cons (step : σ → ι → σ × List ω) (state : σ)
    (input : ι) (rest : List ι) :
    run step state (input :: rest) =
      ((run step (step state input).1 rest).1,
        (step state input).2 ++ (run step (step state input).1 rest).2) := rfl

theorem run_append (step : σ → ι → σ × List ω) (state : σ) (first second : List ι) :
    run step state (first ++ second) =
      ((run step (run step state first).1 second).1,
        (run step state first).2 ++ (run step (run step state first).1 second).2) := by
  induction first generalizing state with
  | nil => rfl
  | cons input rest ih => simp only [List.cons_append, run_cons, ih, List.append_assoc]

/-- Every step of the run meets `ok`, judged in the state before the step. -/
def Along (step : σ → ι → σ × List ω) (ok : σ → ι → Prop) : σ → List ι → Prop
  | _, [] => True
  | state, input :: rest => ok state input ∧ Along step ok (step state input).1 rest

/-- Every state of the run, the first and the last included, meets `good`. -/
def Always (step : σ → ι → σ × List ω) (good : σ → Prop) : σ → List ι → Prop
  | state, [] => good state
  | state, input :: rest => good state ∧ Always step good (step state input).1 rest

theorem Always.head {step : σ → ι → σ × List ω} {good : σ → Prop} {state : σ}
    {inputs : List ι} (h : Always step good state inputs) : good state := by
  cases inputs with
  | nil => exact h
  | cons input rest => exact h.1

theorem along_of_forall {step : σ → ι → σ × List ω} {ok : σ → ι → Prop} {state : σ}
    {inputs : List ι} (h : ∀ state, ∀ input ∈ inputs, ok state input) :
    Along step ok state inputs := by
  induction inputs generalizing state with
  | nil => trivial
  | cons input rest ih =>
      exact ⟨h state input List.mem_cons_self,
        ih fun later next hnext => h later next (List.mem_cons_of_mem _ hnext)⟩

theorem along_congr {step : σ → ι → σ × List ω} {ok ok' : σ → ι → Prop}
    (h : ∀ state input, ok state input ↔ ok' state input) (state : σ) (inputs : List ι) :
    Along step ok state inputs ↔ Along step ok' state inputs := by
  induction inputs generalizing state with
  | nil => exact Iff.rfl
  | cons input rest ih => exact and_congr (h state input) (ih _)

theorem run_invariant_along (step : σ → ι → σ × List ω) {inv : σ → Prop} {ok : σ → ι → Prop}
    (hstep : ∀ state input, inv state → ok state input → inv (step state input).1)
    (state : σ) (inputs : List ι) (start : inv state) (steps : Along step ok state inputs) :
    inv (run step state inputs).1 := by
  induction inputs generalizing state with
  | nil => exact start
  | cons input rest ih => exact ih _ (hstep state input start steps.1) steps.2

theorem run_invariant (step : σ → ι → σ × List ω) {inv : σ → Prop}
    (hstep : ∀ state input, inv state → inv (step state input).1)
    (state : σ) (inputs : List ι) (start : inv state) : inv (run step state inputs).1 := by
  induction inputs generalizing state with
  | nil => exact start
  | cons input rest ih => exact ih _ (hstep state input start)

theorem always_of_invariant (step : σ → ι → σ × List ω) {inv : σ → Prop}
    (hstep : ∀ state input, inv state → inv (step state input).1)
    (state : σ) (inputs : List ι) (start : inv state) : Always step inv state inputs := by
  induction inputs generalizing state with
  | nil => exact start
  | cons input rest ih => exact ⟨start, ih _ (hstep state input start)⟩

theorem Always.along {step : σ → ι → σ × List ω} {good : σ → Prop} {ok : σ → ι → Prop}
    (hok : ∀ state input, good state → ok state input) {state : σ} {inputs : List ι}
    (h : Always step good state inputs) : Along step ok state inputs := by
  induction inputs generalizing state with
  | nil => trivial
  | cons input rest ih => exact ⟨hok state input h.1, ih h.2⟩

/-- If, as long as a state is good, the next one is good exactly when the step
between them meets `ok`, then a run stays good exactly when all its steps do. -/
theorem always_iff_along (step : σ → ι → σ × List ω) {inv good : σ → Prop} {ok : σ → ι → Prop}
    (hinv : ∀ state input, inv state → inv (step state input).1)
    (hstep : ∀ state input, inv state → good state →
      (good (step state input).1 ↔ ok state input))
    (state : σ) (inputs : List ι) (start : inv state) (good_start : good state) :
    Always step good state inputs ↔ Along step ok state inputs := by
  induction inputs generalizing state with
  | nil => exact ⟨fun _ => trivial, fun _ => good_start⟩
  | cons input rest ih =>
      have hnow := hstep state input start good_start
      constructor
      · rintro ⟨-, later⟩
        exact ⟨hnow.mp later.head, (ih _ (hinv state input start) later.head).mp later⟩
      · rintro ⟨now, later⟩
        exact ⟨good_start, (ih _ (hinv state input start) (hnow.mpr now)).mpr later⟩

/-- What no step repairs can be judged in the last state of a run. -/
theorem always_iff_last (step : σ → ι → σ × List ω) {inv good : σ → Prop}
    (hinv : ∀ state input, inv state → inv (step state input).1)
    (hstep : ∀ state input, inv state → good (step state input).1 → good state)
    (state : σ) (inputs : List ι) (start : inv state) :
    Always step good state inputs ↔ good (run step state inputs).1 := by
  induction inputs generalizing state with
  | nil => exact Iff.rfl
  | cons input rest ih =>
      have hrest := ih _ (hinv state input start)
      constructor
      · intro h
        exact hrest.mp h.2
      · intro hlast
        have hlater := hrest.mpr hlast
        exact ⟨hstep state input start hlater.head, hlater⟩

theorem last_iff_along (step : σ → ι → σ × List ω) {inv good : σ → Prop} {ok : σ → ι → Prop}
    (hinv : ∀ state input, inv state → inv (step state input).1)
    (hback : ∀ state input, inv state → good (step state input).1 → good state)
    (hstep : ∀ state input, inv state → good state →
      (good (step state input).1 ↔ ok state input))
    (state : σ) (inputs : List ι) (start : inv state) (good_start : good state) :
    good (run step state inputs).1 ↔ Along step ok state inputs := by
  rw [← always_iff_last step hinv hback state inputs start]
  exact always_iff_along step hinv hstep state inputs start good_start

/-- What every step preserves of the state and the log so far, a run preserves. -/
theorem run_history (step : σ → ι → σ × List ω) (inv : σ → List ω → Prop)
    (hstep : ∀ state log input, inv state log →
      inv (step state input).1 (log ++ (step state input).2))
    (state : σ) (log : List ω) (inputs : List ι) (start : inv state log) :
    inv (run step state inputs).1 (log ++ (run step state inputs).2) := by
  induction inputs generalizing state log with
  | nil =>
      rw [run_nil, List.append_nil]
      exact start
  | cons input rest ih =>
      rw [run_cons, ← List.append_assoc]
      exact ih _ _ (hstep state log input start)

theorem run_history_along (step : σ → ι → σ × List ω) (inv : σ → List ω → Prop)
    {ok : σ → ι → Prop}
    (hstep : ∀ state log input, inv state log → ok state input →
      inv (step state input).1 (log ++ (step state input).2))
    (state : σ) (log : List ω) (inputs : List ι) (start : inv state log)
    (steps : Along step ok state inputs) :
    inv (run step state inputs).1 (log ++ (run step state inputs).2) := by
  induction inputs generalizing state log with
  | nil =>
      rw [run_nil, List.append_nil]
      exact start
  | cons input rest ih =>
      rw [run_cons, ← List.append_assoc]
      exact ih _ _ (hstep state log input start steps.1) steps.2

/-- A property of single outputs holds along a run exactly when every step
meets the condition under which that step's own outputs have it. -/
theorem forall_output_iff_of_invariant (step : σ → ι → σ × List ω) (inv : σ → Prop)
    {good : ω → Prop} {ok : σ → ι → Prop}
    (hinv : ∀ state input, inv state → inv (step state input).1)
    (hstep : ∀ state input, inv state →
      ((∀ out ∈ (step state input).2, good out) ↔ ok state input))
    (state : σ) (inputs : List ι) (start : inv state) :
    (∀ out ∈ (run step state inputs).2, good out) ↔ Along step ok state inputs := by
  induction inputs generalizing state with
  | nil => simp [Along]
  | cons input rest ih =>
      rw [run_cons, List.forall_mem_append, hstep state input start,
        ih _ (hinv state input start), Along]

theorem forall_output_iff (step : σ → ι → σ × List ω) {good : ω → Prop} {ok : σ → ι → Prop}
    (hstep : ∀ state input, (∀ out ∈ (step state input).2, good out) ↔ ok state input)
    (state : σ) (inputs : List ι) :
    (∀ out ∈ (run step state inputs).2, good out) ↔ Along step ok state inputs := by
  apply forall_output_iff_of_invariant step fun _ => True
  · exact fun _ _ _ => trivial
  · exact fun state input _ => hstep state input
  · trivial

/-- An output of a run comes from one of its steps. -/
theorem mem_run {step : σ → ι → σ × List ω} {state : σ} {inputs : List ι} {out : ω} :
    out ∈ (run step state inputs).2 ↔
      ∃ before input after, inputs = before ++ input :: after ∧
        out ∈ (step (run step state before).1 input).2 := by
  induction inputs generalizing state with
  | nil => simp
  | cons first rest ih =>
      rw [run_cons, List.mem_append, ih]
      constructor
      · rintro (h | ⟨before, input, after, rfl, h⟩)
        · exact ⟨[], first, rest, rfl, h⟩
        · exact ⟨first :: before, input, after, rfl, h⟩
      · rintro ⟨before, input, after, hinputs, h⟩
        cases before with
        | nil =>
            cases hinputs
            exact .inl h
        | cons b before =>
            cases hinputs
            exact .inr ⟨before, input, after, rfl, h⟩

/-- Outputs that do not depend on the state are those of the inputs, one by one. -/
theorem run_outputs {step : σ → ι → σ × List ω} {output : ι → List ω}
    (h : ∀ state input, (step state input).2 = output input) (state : σ) (inputs : List ι) :
    (run step state inputs).2 = inputs.flatMap output := by
  induction inputs generalizing state with
  | nil => rfl
  | cons input rest ih => rw [run_cons, ih, h, List.flatMap_cons]

/-- The same machine, reporting something else about its steps. -/
def observe {ω' : Type} (step : σ → ι → σ × List ω) (view : σ → ι → List ω') :
    σ → ι → σ × List ω' :=
  fun state input => ((step state input).1, view state input)

theorem run_observe {ω' : Type} (step : σ → ι → σ × List ω) (view : σ → ι → List ω') (state : σ)
    (inputs : List ι) : (run (observe step view) state inputs).1 = (run step state inputs).1 := by
  induction inputs generalizing state with
  | nil => rfl
  | cons input rest ih => exact ih _

theorem along_observe {ω' : Type} (step : σ → ι → σ × List ω) (view : σ → ι → List ω')
    (ok : σ → ι → Prop) (state : σ) (inputs : List ι) :
    Along (observe step view) ok state inputs ↔ Along step ok state inputs := by
  induction inputs generalizing state with
  | nil => exact Iff.rfl
  | cons input rest ih => exact and_congr_right fun _ => ih _

/-- The same machine, taking notes of its inputs beside its state. -/
def noting {ν : Type} (step : σ → ι → σ × List ω) (note : ν → σ → ι → ν) :
    σ × ν → ι → (σ × ν) × List ω :=
  fun noted input =>
    (((step noted.1 input).1, note noted.2 noted.1 input), (step noted.1 input).2)

theorem run_noting {ν : Type} (step : σ → ι → σ × List ω) (note : ν → σ → ι → ν)
    (noted : σ × ν) (inputs : List ι) :
    (run (noting step note) noted inputs).2 = (run step noted.1 inputs).2 := by
  induction inputs generalizing noted with
  | nil => rfl
  | cons input rest ih => rw [run_cons, run_cons, ih, noting]

/-- If, along the run, what one sees of each step's outputs is the step's view,
then what one sees of the run's outputs is what the observed machine reports. -/
theorem run_see_along {ω' : Type} (step : σ → ι → σ × List ω) (view : σ → ι → List ω')
    (see : ω → Option ω') {inv : σ → Prop} {ok : σ → ι → Prop}
    (hinv : ∀ state input, inv state → ok state input → inv (step state input).1)
    (hsee : ∀ state input, inv state → ok state input →
      (step state input).2.filterMap see = view state input)
    (state : σ) (inputs : List ι) (start : inv state) (steps : Along step ok state inputs) :
    (run step state inputs).2.filterMap see = (run (observe step view) state inputs).2 := by
  induction inputs generalizing state with
  | nil => rfl
  | cons input rest ih =>
      have hrest := ih _ (hinv state input start steps.1) steps.2
      rw [run_cons, run_cons, List.filterMap_append, hsee state input start steps.1, hrest]
      rfl

/-- Where a step emits at most one output, a log can be cut at any output: some
step emitted it, and the steps before emitted what stands before it. -/
theorem run_split {step : σ → ι → σ × List ω}
    (hone : ∀ state input, (step state input).2 = [] ∨ ∃ out, (step state input).2 = [out])
    {state : σ} {inputs : List ι} {before after : List ω} {out : ω}
    (h : (run step state inputs).2 = before ++ out :: after) :
    ∃ first input, (run step state first).2 = before ∧
      (step (run step state first).1 input).2 = [out] := by
  induction inputs generalizing state before with
  | nil =>
      rw [run_nil] at h
      have hlength := congrArg List.length h
      simp at hlength
  | cons input rest ih =>
      rw [run_cons] at h
      rcases hone state input with hnone | ⟨now, hnow⟩
      · rw [hnone, List.nil_append] at h
        obtain ⟨first, last, hfirst, hlast⟩ := ih h
        refine ⟨input :: first, last, ?_, hlast⟩
        rw [run_cons, hnone, List.nil_append]
        exact hfirst
      · rw [hnow, List.singleton_append] at h
        cases before with
        | nil =>
            cases h
            exact ⟨[], input, rfl, hnow⟩
        | cons b before =>
            obtain ⟨hhead, htail⟩ := List.cons.inj h
            obtain ⟨first, last, hfirst, hlast⟩ := ih htail
            refine ⟨input :: first, last, ?_, hlast⟩
            rw [run_cons, hnow, hfirst, hhead]
            rfl

/-- A part of a machine that makes moves of its own at every step of the whole
makes a run of its own along every run of the whole. -/
theorem run_project {σ' ι' ω' : Type} (step : σ → ι → σ × List ω)
    (part : σ' → ι' → σ' × List ω') (view : σ → σ') (see : ω → Option ω')
    (hstep : ∀ state input, ∃ moves,
      view (step state input).1 = (run part (view state) moves).1 ∧
        (step state input).2.filterMap see = (run part (view state) moves).2)
    (state : σ) (inputs : List ι) :
    ∃ moves, view (run step state inputs).1 = (run part (view state) moves).1 ∧
      (run step state inputs).2.filterMap see = (run part (view state) moves).2 := by
  induction inputs generalizing state with
  | nil => exact ⟨[], rfl, rfl⟩
  | cons input rest ih =>
      obtain ⟨now, hview, hsee⟩ := hstep state input
      obtain ⟨later, hview', hsee'⟩ := ih (step state input).1
      refine ⟨now ++ later, ?_, ?_⟩
      · rw [run_cons, run_append, hview', hview]
      · rw [run_cons, run_append, List.filterMap_append, hsee, hsee', hview]

/-- State and log are good at the beginning and after every step. -/
def AlwaysLogged (step : σ → ι → σ × List ω) (good : σ → List ω → Prop) :
    σ → List ω → List ι → Prop
  | state, log, [] => good state log
  | state, log, input :: rest =>
      good state log ∧
        AlwaysLogged step good (step state input).1 (log ++ (step state input).2) rest

theorem AlwaysLogged.head {step : σ → ι → σ × List ω} {good : σ → List ω → Prop} {state : σ}
    {log : List ω} {inputs : List ι} (h : AlwaysLogged step good state log inputs) :
    good state log := by
  cases inputs with
  | nil => exact h
  | cons input rest => exact h.1

/-- `always_iff_along` for a property of state and log, and for runs whose steps
are all `allowed`. -/
theorem alwaysLogged_iff_along (step : σ → ι → σ × List ω) {inv : σ → Prop}
    {good : σ → List ω → Prop} {allowed ok : σ → ι → Prop}
    (hinv : ∀ state input, inv state → allowed state input → inv (step state input).1)
    (hstep : ∀ state log input, inv state → allowed state input → good state log →
      (good (step state input).1 (log ++ (step state input).2) ↔ ok state input))
    (state : σ) (log : List ω) (inputs : List ι) (start : inv state)
    (good_start : good state log) (steps : Along step allowed state inputs) :
    AlwaysLogged step good state log inputs ↔ Along step ok state inputs := by
  induction inputs generalizing state log with
  | nil => exact ⟨fun _ => trivial, fun _ => good_start⟩
  | cons input rest ih =>
      obtain ⟨hallowed, hrest⟩ := steps
      have hnow := hstep state log input start hallowed good_start
      have hlater := hinv state input start hallowed
      constructor
      · rintro ⟨-, later⟩
        exact ⟨hnow.mp later.head, (ih _ _ hlater later.head hrest).mp later⟩
      · rintro ⟨now, later⟩
        exact ⟨good_start, (ih _ _ hlater (hnow.mpr now) hrest).mpr later⟩

/-- Drop the inputs that are `silent` in the state in which they arrive. -/
def erase (step : σ → ι → σ × List ω) (silent : σ → ι → Bool) : σ → List ι → List ι
  | _, [] => []
  | state, input :: rest =>
      if silent state input then erase step silent (step state input).1 rest
      else input :: erase step silent (step state input).1 rest

/-- Unwinding: if a silent input emits nothing and keeps the two states
related, and any other input acts alike in related states, then erasing the
silent inputs changes no output. -/
theorem run_erase (step : σ → ι → σ × List ω) (silent : σ → ι → Bool)
    (ok : σ → ι → Prop) (related : σ → σ → Prop)
    (skips : ∀ full less input, related full less → ok full input →
      silent full input = true →
        (step full input).2 = [] ∧ related (step full input).1 less)
    (agrees : ∀ full less input, related full less → silent full input = false →
      (step full input).2 = (step less input).2 ∧
        related (step full input).1 (step less input).1)
    (full less : σ) (inputs : List ι) (start : related full less)
    (steps : Along step ok full inputs) :
    (run step full inputs).2 = (run step less (erase step silent full inputs)).2 ∧
      related (run step full inputs).1
        (run step less (erase step silent full inputs)).1 := by
  induction inputs generalizing full less with
  | nil => exact ⟨rfl, start⟩
  | cons input rest ih =>
      obtain ⟨now, later⟩ := steps
      cases hsilent : silent full input with
      | true =>
          obtain ⟨quiet, kept⟩ := skips full less input start now hsilent
          simpa [erase, hsilent, quiet] using ih _ _ kept later
      | false =>
          obtain ⟨same, kept⟩ := agrees full less input start hsilent
          simpa [erase, hsilent, same] using ih _ _ kept later

/-! ### Partial machines

A step without a value is one that never returns, or whose behaviour the
language leaves undefined; a run is defined only if all its steps are. -/

def runPartial (step : σ → ι → Option (σ × List ω)) : σ → List ι → Option (σ × List ω)
  | state, [] => some (state, [])
  | state, input :: rest =>
      match step state input with
      | none => none
      | some now =>
          match runPartial step now.1 rest with
          | none => none
          | some later => some (later.1, now.2 ++ later.2)

/-- What is true of the outputs of every defined step is true of a run's outputs. -/
theorem forall_output_runPartial {step : σ → ι → Option (σ × List ω)} {good : ω → Prop}
    (hstep : ∀ state input now, step state input = some now → ∀ out ∈ now.2, good out)
    {state : σ} {inputs : List ι} {last : σ × List ω}
    (h : runPartial step state inputs = some last) : ∀ out ∈ last.2, good out := by
  induction inputs generalizing state last with
  | nil =>
      cases h
      exact List.forall_mem_nil _
  | cons input rest ih =>
      rw [runPartial] at h
      cases hnow : step state input with
      | none =>
          rw [hnow] at h
          cases h
      | some now =>
          cases hlater : runPartial step now.1 rest with
          | none =>
              simp only [hnow, hlater] at h
              cases h
          | some later =>
              simp only [hnow, hlater, Option.some.injEq] at h
              subst h
              exact List.forall_mem_append.mpr ⟨hstep state input now hnow, ih hlater⟩

/-- What every defined step preserves of the state and the log so far, a defined
run preserves. -/
theorem runPartial_log (step : σ → ι → Option (σ × List ω)) (inv : σ → List ω → Prop)
    {inputs : List ι}
    (hstep : ∀ state log, ∀ input ∈ inputs, ∀ now, inv state log →
      step state input = some now → inv now.1 (log ++ now.2))
    {state : σ} {log : List ω} {last : σ × List ω} (start : inv state log)
    (h : runPartial step state inputs = some last) : inv last.1 (log ++ last.2) := by
  induction inputs generalizing state log last with
  | nil =>
      cases h
      rw [List.append_nil]
      exact start
  | cons input rest ih =>
      rw [runPartial] at h
      cases hnow : step state input with
      | none =>
          rw [hnow] at h
          cases h
      | some now =>
          cases hlater : runPartial step now.1 rest with
          | none =>
              simp only [hnow, hlater] at h
              cases h
          | some later =>
              simp only [hnow, hlater, Option.some.injEq] at h
              subst h
              rw [← List.append_assoc]
              apply ih _ (hstep state log input List.mem_cons_self now start hnow) hlater
              exact fun state log next hnext => hstep state log next (List.mem_cons_of_mem _ hnext)

/-- Every step of the run meets `ok`, judged in the state before the step. -/
def AlongPartial (step : σ → ι → Option (σ × List ω)) (ok : σ → ι → Prop) : σ → List ι → Prop
  | _, [] => True
  | state, input :: rest =>
      ok state input ∧
        match step state input with
        | none => True
        | some now => AlongPartial step ok now.1 rest

theorem alongPartial_of_forall {step : σ → ι → Option (σ × List ω)} {ok : σ → ι → Prop}
    {state : σ} {inputs : List ι} (h : ∀ state, ∀ input ∈ inputs, ok state input) :
    AlongPartial step ok state inputs := by
  induction inputs generalizing state with
  | nil => trivial
  | cons input rest ih =>
      refine ⟨h state input List.mem_cons_self, ?_⟩
      cases step state input with
      | none => trivial
      | some now => exact ih fun later next hnext => h later next (List.mem_cons_of_mem _ hnext)

/-- If every step that meets `ok` is defined and extends the log in keeping with
the invariant, then so does the whole run. -/
theorem runPartial_history (step : σ → ι → Option (σ × List ω)) (ok : σ → ι → Prop)
    (inv : σ → List ω → Prop)
    (hstep : ∀ state log input, inv state log → ok state input →
      ∃ now, step state input = some now ∧ inv now.1 (log ++ now.2))
    (state : σ) (log : List ω) (inputs : List ι) (start : inv state log)
    (steps : AlongPartial step ok state inputs) :
    ∃ last, runPartial step state inputs = some last ∧ inv last.1 (log ++ last.2) := by
  induction inputs generalizing state log with
  | nil => exact ⟨(state, []), rfl, by simpa using start⟩
  | cons input rest ih =>
      obtain ⟨now, hnow, hinv⟩ := hstep state log input start steps.1
      have hrest := steps.2
      rw [hnow] at hrest
      obtain ⟨later, hlater, hlast⟩ := ih now.1 (log ++ now.2) hinv hrest
      refine ⟨(later.1, now.2 ++ later.2), ?_, ?_⟩
      · simp only [runPartial, hnow, hlater]
      · rw [← List.append_assoc]
        exact hlast

/-- State and log are good at the beginning and after every step that is defined. -/
def AlwaysPartial (step : σ → ι → Option (σ × List ω)) (good : σ → List ω → Prop) :
    σ → List ω → List ι → Prop
  | state, log, [] => good state log
  | state, log, input :: rest =>
      good state log ∧
        match step state input with
        | none => True
        | some now => AlwaysPartial step good now.1 (log ++ now.2) rest

theorem AlwaysPartial.head {step : σ → ι → Option (σ × List ω)} {good : σ → List ω → Prop}
    {state : σ} {log : List ω} {inputs : List ι}
    (h : AlwaysPartial step good state log inputs) : good state log := by
  cases inputs with
  | nil => exact h
  | cons input rest => exact h.1

theorem alwaysPartial_of_invariant (step : σ → ι → Option (σ × List ω)) (ok : σ → ι → Prop)
    (inv : σ → List ω → Prop)
    (hstep : ∀ state log input, inv state log → ok state input →
      ∃ now, step state input = some now ∧ inv now.1 (log ++ now.2))
    (state : σ) (log : List ω) (inputs : List ι) (start : inv state log)
    (steps : AlongPartial step ok state inputs) : AlwaysPartial step inv state log inputs := by
  induction inputs generalizing state log with
  | nil => exact start
  | cons input rest ih =>
      obtain ⟨now, hnow, hinv⟩ := hstep state log input start steps.1
      have hrest := steps.2
      rw [hnow] at hrest
      refine ⟨start, ?_⟩
      rw [hnow]
      exact ih now.1 (log ++ now.2) hinv hrest

/-- The partial form of `always_iff_along`, for runs whose steps are all
`allowed`. A step that is not defined must not count against `ok`. -/
theorem alwaysPartial_iff_along (step : σ → ι → Option (σ × List ω))
    {inv good : σ → List ω → Prop} {allowed ok : σ → ι → Prop}
    (hundefined : ∀ state log input, inv state log → allowed state input →
      step state input = none → ok state input)
    (hinv : ∀ state log input now, inv state log → allowed state input →
      step state input = some now → inv now.1 (log ++ now.2))
    (hstep : ∀ state log input now, inv state log → allowed state input → good state log →
      step state input = some now → (good now.1 (log ++ now.2) ↔ ok state input))
    (state : σ) (log : List ω) (inputs : List ι) (start : inv state log)
    (good_start : good state log) (steps : AlongPartial step allowed state inputs) :
    AlwaysPartial step good state log inputs ↔ AlongPartial step ok state inputs := by
  induction inputs generalizing state log with
  | nil => exact ⟨fun _ => trivial, fun _ => good_start⟩
  | cons input rest ih =>
      obtain ⟨hallowed, hrest⟩ := steps
      unfold AlwaysPartial AlongPartial
      cases hnow : step state input with
      | none => exact ⟨fun _ => ⟨hundefined state log input start hallowed hnow, trivial⟩,
          fun _ => ⟨good_start, trivial⟩⟩
      | some now =>
          rw [hnow] at hrest
          have hgood := hstep state log input now start hallowed good_start hnow
          have hlater := hinv state log input now start hallowed hnow
          constructor
          · rintro ⟨-, later⟩
            exact ⟨hgood.mp later.head, (ih now.1 _ hlater later.head hrest).mp later⟩
          · rintro ⟨hok, later⟩
            exact ⟨good_start, (ih now.1 _ hlater (hgood.mpr hok) hrest).mpr later⟩

end Lib.Machine
