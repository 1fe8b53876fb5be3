import Mathlib.Logic.Function.Basic
import SomeipGateway.Lib.Machine

/-! Threads that share a state behind locks. Which locks a thread holds is told by
where it stands in its code; if locks are taken in the order of a rank, and a
thread that waits for others to come to rest holds none, there is no deadlock. -/
namespace Lib.Threads

variable {τ π ℓ σ ε ω : Type}

/-- What a thread does at a point of its code; `ε` is what it is answered from
outside, and `await` waits for other threads to come to rest. -/
inductive Instr (τ π ℓ σ ε ω : Type) where
  | lock (lock : ℓ) (next : π)
  | unlock (lock : ℓ) (next : π)
  | work (run : σ → ε → (σ × List ω) × π)
  | await (others : σ → List τ) (next : π)

structure Code (τ π ℓ σ ε ω : Type) where
  instr : τ → π → Instr τ π ℓ σ ε ω
  rests : π → Bool

structure State (τ π ℓ σ : Type) where
  data : σ
  pc : τ → π
  owner : ℓ → Option τ := fun _ => none

/-- What a thread that has not to wait does to the shared state, what it puts out and
where it stands afterwards. -/
def Code.turn (code : Code τ π ℓ σ ε ω) (thread : τ) (p : π) (data : σ) (answer : ε) :
    (σ × List ω) × π :=
  match code.instr thread p with
  | .lock _ next => ((data, []), next)
  | .unlock _ next => ((data, []), next)
  | .work run => run data answer
  | .await _ next => ((data, []), next)

section

variable (code : Code τ π ℓ σ ε ω)

/-- One thread gets its turn. If it has to wait, nothing happens. -/
def step [DecidableEq τ] [DecidableEq ℓ] (s : State τ π ℓ σ) (turn : τ × ε) :
    State τ π ℓ σ × List ω :=
  match code.instr turn.1 (s.pc turn.1) with
  | .lock lock next =>
      if (s.owner lock).isNone then
        ({ s with
            pc := Function.update s.pc turn.1 next
            owner := Function.update s.owner lock (some turn.1) }, [])
      else (s, [])
  | .unlock lock next =>
      ({ s with
          pc := Function.update s.pc turn.1 next
          owner := Function.update s.owner lock none }, [])
  | .work run =>
      let worked := run s.data turn.2
      ({ s with data := worked.1.1, pc := Function.update s.pc turn.1 worked.2 }, worked.1.2)
  | .await others next =>
      if (others s.data).all fun other => code.rests (s.pc other) then
        ({ s with pc := Function.update s.pc turn.1 next }, [])
      else (s, [])

/-- The thread would not have to wait. -/
def CanMove (s : State τ π ℓ σ) (thread : τ) : Prop :=
  match code.instr thread (s.pc thread) with
  | .lock lock _ => s.owner lock = none
  | .await others _ => ∀ other ∈ others s.data, code.rests (s.pc other) = true
  | _ => True

/-- Rules for the code: which locks are held where, innermost first. -/
structure Disciplined (holds : π → List ℓ) (rank : ℓ → Nat) (level : τ → Nat) : Prop where
  resting : ∀ p, code.rests p = true → holds p = []
  lock : ∀ thread p lock next, code.instr thread p = .lock lock next →
    code.rests p = false ∧ holds next = lock :: holds p ∧ ∀ held ∈ holds p, rank held < rank lock
  unlock : ∀ thread p lock next, code.instr thread p = .unlock lock next →
    holds p = lock :: holds next ∧ lock ∉ holds next
  work : ∀ thread p run, code.instr thread p = .work run →
    ∀ data answer, holds (run data answer).2 = holds p
  await : ∀ thread p others next, code.instr thread p = .await others next →
    holds p = [] ∧ holds next = [] ∧ ∀ data, ∀ other ∈ others data, level other < level thread

/-- A lock is owned by the thread that stands where it is held. -/
def Sound (holds : π → List ℓ) (s : State τ π ℓ σ) : Prop :=
  ∀ lock thread, s.owner lock = some thread ↔ lock ∈ holds (s.pc thread)

variable {code} {holds : π → List ℓ} {rank : ℓ → Nat} {level : τ → Nat}

theorem Sound.exclusive {s : State τ π ℓ σ} (h : Sound holds s) {lock : ℓ} {thread other : τ}
    (hthread : lock ∈ holds (s.pc thread)) (hother : lock ∈ holds (s.pc other)) :
    thread = other :=
  Option.some.inj (((h lock thread).mpr hthread).symm.trans ((h lock other).mpr hother))

theorem Sound.moved [DecidableEq τ] {s : State τ π ℓ σ} (h : Sound holds s) {thread : τ}
    {next : π} (data : σ) (hnext : holds next = holds (s.pc thread)) :
    Sound holds { s with data, pc := Function.update s.pc thread next } := by
  intro lock other
  dsimp only
  by_cases hother : other = thread
  · subst hother
    rw [Function.update_self, hnext]
    exact h lock other
  · rw [Function.update_of_ne hother]
    exact h lock other

theorem step_sound [DecidableEq τ] [DecidableEq ℓ] (hcode : Disciplined code holds rank level)
    {s : State τ π ℓ σ} (h : Sound holds s) (turn : τ × ε) : Sound holds (step code s turn).1 := by
  obtain ⟨thread, answer⟩ := turn
  unfold step
  dsimp only
  cases hinstr : code.instr thread (s.pc thread) with
  | lock lock next =>
      obtain ⟨-, hnext, -⟩ := hcode.lock thread _ lock next hinstr
      dsimp only
      split_ifs with hfree
      · have hnone : s.owner lock = none := Option.isNone_iff_eq_none.mp hfree
        intro other holder
        dsimp only
        by_cases hlock : other = lock
        · subst hlock
          rw [Function.update_self, Option.some.injEq]
          by_cases hholder : holder = thread
          · subst hholder
            simp [hnext]
          · have hnot : other ∉ holds (s.pc holder) := by
              intro hheld
              rw [← h other holder, hnone] at hheld
              cases hheld
            rw [Function.update_of_ne hholder]
            exact iff_of_false (Ne.symm hholder) hnot
        · rw [Function.update_of_ne hlock]
          by_cases hholder : holder = thread
          · subst hholder
            rw [Function.update_self, hnext, List.mem_cons, or_iff_right hlock]
            exact h other holder
          · rw [Function.update_of_ne hholder]
            exact h other holder
      · exact h
  | unlock lock next =>
      obtain ⟨hnow, hgone⟩ := hcode.unlock thread _ lock next hinstr
      have howner : s.owner lock = some thread := (h lock thread).mpr (by simp [hnow])
      intro other holder
      dsimp only
      by_cases hlock : other = lock
      · subst hlock
        rw [Function.update_self]
        by_cases hholder : holder = thread
        · subst hholder
          rw [Function.update_self]
          exact iff_of_false nofun hgone
        · rw [Function.update_of_ne hholder, ← h other holder, howner, Option.some.injEq]
          exact iff_of_false nofun (Ne.symm hholder)
      · rw [Function.update_of_ne hlock]
        by_cases hholder : holder = thread
        · subst hholder
          rw [Function.update_self, h other holder, hnow, List.mem_cons, or_iff_right hlock]
        · rw [Function.update_of_ne hholder]
          exact h other holder
  | work run => exact h.moved _ (hcode.work thread _ run hinstr s.data answer)
  | await others next =>
      obtain ⟨hnow, hnext, -⟩ := hcode.await thread _ others next hinstr
      dsimp only
      split_ifs
      · exact h.moved s.data (hnext.trans hnow.symm)
      · exact h

theorem run_sound [DecidableEq τ] [DecidableEq ℓ] (hcode : Disciplined code holds rank level)
    {s : State τ π ℓ σ} (h : Sound holds s) (turns : List (τ × ε)) :
    Sound holds (Machine.run (step code) s turns).1 := by
  refine Machine.run_invariant (step code) ?_ s turns h
  exact fun now turn hnow => step_sound hcode hnow turn

/-- A thread that can move makes its turn. -/
theorem step_of_canMove [DecidableEq τ] [DecidableEq ℓ] {s : State τ π ℓ σ} {thread : τ}
    (h : CanMove code s thread) (answer : ε) :
    ∃ owner, step code s (thread, answer) =
      (⟨(code.turn thread (s.pc thread) s.data answer).1.1,
        Function.update s.pc thread (code.turn thread (s.pc thread) s.data answer).2, owner⟩,
        (code.turn thread (s.pc thread) s.data answer).1.2) := by
  unfold CanMove at h
  unfold step Code.turn
  cases hinstr : code.instr thread (s.pc thread) with
  | lock lock next =>
      rw [hinstr] at h
      exact ⟨_, if_pos (Option.isNone_iff_eq_none.mpr h)⟩
  | unlock lock next => exact ⟨_, rfl⟩
  | work run => exact ⟨_, rfl⟩
  | await others next =>
      rw [hinstr] at h
      exact ⟨_, if_pos (List.all_eq_true.mpr h)⟩

theorem step_of_not_canMove [DecidableEq τ] [DecidableEq ℓ] {s : State τ π ℓ σ} {thread : τ}
    (h : ¬ CanMove code s thread) (answer : ε) : step code s (thread, answer) = (s, []) := by
  unfold CanMove at h
  unfold step
  cases hinstr : code.instr thread (s.pc thread) with
  | lock lock next =>
      rw [hinstr] at h
      exact if_neg fun hfree => h (Option.isNone_iff_eq_none.mp hfree)
  | unlock lock next =>
      rw [hinstr] at h
      exact absurd trivial h
  | work run =>
      rw [hinstr] at h
      exact absurd trivial h
  | await others next =>
      rw [hinstr] at h
      exact if_neg fun hall => h (List.all_eq_true.mp hall)

theorem run_pc_of_notMem [DecidableEq τ] [DecidableEq ℓ] (s : State τ π ℓ σ) {thread : τ}
    {turns : List (τ × ε)} (h : thread ∉ turns.map Prod.fst) :
    (Machine.run (step code) s turns).1.pc thread = s.pc thread := by
  induction turns generalizing s with
  | nil => rfl
  | cons turn rest ih =>
      rw [List.map_cons, List.mem_cons, not_or] at h
      rw [Machine.run_cons, ih _ h.2]
      by_cases hmoves : CanMove code s turn.1
      · obtain ⟨owner, hstep⟩ := step_of_canMove hmoves turn.2
        rw [hstep]
        exact Function.update_of_ne h.1 _ _
      · rw [step_of_not_canMove hmoves]

/-- A part of the shared state on which every turn makes moves of its own makes a run
of its own, however the threads take turns. -/
theorem run_project [DecidableEq τ] [DecidableEq ℓ] {σ' ι' ω' : Type}
    (part : σ' → ι' → σ' × List ω') (view : σ → σ') (see : ω → Option ω')
    (hturn : ∀ thread p data answer, ∃ moves,
      view (code.turn thread p data answer).1.1 = (Machine.run part (view data) moves).1 ∧
        (code.turn thread p data answer).1.2.filterMap see =
          (Machine.run part (view data) moves).2)
    (s : State τ π ℓ σ) (turns : List (τ × ε)) :
    ∃ moves,
      view (Machine.run (step code) s turns).1.data = (Machine.run part (view s.data) moves).1 ∧
        (Machine.run (step code) s turns).2.filterMap see =
          (Machine.run part (view s.data) moves).2 := by
  refine Machine.run_project (step code) part (fun s => view s.data) see ?_ s turns
  rintro s ⟨thread, answer⟩
  by_cases hmoves : CanMove code s thread
  · obtain ⟨owner, hstep⟩ := step_of_canMove hmoves answer
    rw [hstep]
    exact hturn thread (s.pc thread) s.data answer
  · rw [step_of_not_canMove hmoves]
    exact ⟨[], rfl, rfl⟩

/-! ### Progress -/

/-- Behind every thread that waits for a lock there is one that can move: the owner
of the lock, or one behind it, since the owner can only wait for a lock of a higher
rank. -/
theorem Sound.lock_progress (hcode : Disciplined code holds rank level) {bound : Nat}
    (hbound : ∀ lock, rank lock ≤ bound) {s : State τ π ℓ σ} (h : Sound holds s) {thread : τ}
    {lock : ℓ} {next : π} (hinstr : code.instr thread (s.pc thread) = .lock lock next) :
    ∃ mover, code.rests (s.pc mover) = false ∧ CanMove code s mover := by
  induction hroom : bound - rank lock using Nat.strongRecOn
    generalizing thread lock next with
  | _ room ih =>
      cases howner : s.owner lock with
      | none =>
          refine ⟨thread, (hcode.lock thread _ lock next hinstr).1, ?_⟩
          simp only [CanMove, hinstr, howner]
      | some holder =>
          have hheld := (h lock holder).mp howner
          have hbusy : code.rests (s.pc holder) = false := by
            rw [← Bool.not_eq_true]
            intro hrests
            rw [hcode.resting _ hrests] at hheld
            cases hheld
          cases hholder : code.instr holder (s.pc holder) with
          | lock higher after =>
              have hrank := (hcode.lock holder _ higher after hholder).2.2 lock hheld
              have htop := hbound higher
              exact ih (bound - rank higher) (by omega) hholder rfl
          | unlock other after => exact ⟨holder, hbusy, by simp only [CanMove, hholder]⟩
          | work run => exact ⟨holder, hbusy, by simp only [CanMove, hholder]⟩
          | await others after =>
              rw [(hcode.await holder _ others after hholder).1] at hheld
              cases hheld

/-- As long as some thread has not come to rest, one of those can move. -/
theorem Sound.progress (hcode : Disciplined code holds rank level) {bound : Nat}
    (hbound : ∀ lock, rank lock ≤ bound) {s : State τ π ℓ σ} (h : Sound holds s) {thread : τ}
    (hbusy : code.rests (s.pc thread) = false) :
    ∃ mover, code.rests (s.pc mover) = false ∧ CanMove code s mover := by
  induction hlevel : level thread using Nat.strongRecOn generalizing thread with
  | _ n ih =>
      cases hinstr : code.instr thread (s.pc thread) with
      | lock lock next => exact h.lock_progress hcode hbound hinstr
      | unlock lock next => exact ⟨thread, hbusy, by simp only [CanMove, hinstr]⟩
      | work run => exact ⟨thread, hbusy, by simp only [CanMove, hinstr]⟩
      | await others next =>
          by_cases hall : ∀ other ∈ others s.data, code.rests (s.pc other) = true
          · exact ⟨thread, hbusy, by simpa only [CanMove, hinstr] using hall⟩
          · obtain ⟨other, hother, hworks⟩ :
                ∃ other ∈ others s.data, code.rests (s.pc other) = false := by simpa using hall
            have hbelow := (hcode.await thread _ others next hinstr).2.2 s.data other hother
            exact ih (level other) (hlevel ▸ hbelow) hworks rfl

/-- If, with one and the same answer, every thread that can move makes something
smaller, then all threads can come to rest on this answer. -/
theorem Sound.settles [DecidableEq τ] [DecidableEq ℓ] (hcode : Disciplined code holds rank level)
    {bound : Nat} (hbound : ∀ lock, rank lock ≤ bound) {α : Type} {smaller : α → α → Prop}
    (hwf : WellFounded smaller) (measure : State τ π ℓ σ → α) {inv : State τ π ℓ σ → Prop}
    (answer : ε)
    (hstep : ∀ s mover, inv s → code.rests (s.pc mover) = false → CanMove code s mover →
      inv (step code s (mover, answer)).1 ∧
        smaller (measure (step code s (mover, answer)).1) (measure s))
    {s : State τ π ℓ σ} (h : Sound holds s) (hinv : inv s) :
    ∃ movers : List τ, ∀ thread, code.rests ((Machine.run (step code) s
      (movers.map fun mover => (mover, answer))).1.pc thread) = true := by
  induction hsize : measure s using hwf.induction generalizing s with
  | _ size ih =>
      by_cases hall : ∀ thread, code.rests (s.pc thread) = true
      · exact ⟨[], hall⟩
      · obtain ⟨thread, hbusy⟩ : ∃ thread, code.rests (s.pc thread) = false := by simpa using hall
        obtain ⟨mover, hmover, hfree⟩ := h.progress hcode hbound hbusy
        obtain ⟨hinv', hless⟩ := hstep s mover hinv hmover hfree
        obtain ⟨movers, hrest⟩ := ih _ (hsize ▸ hless) (step_sound hcode h _) hinv' rfl
        exact ⟨mover :: movers, hrest⟩

end

end Lib.Threads
