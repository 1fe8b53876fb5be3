import Mathlib.Data.List.TakeWhile
import Mathlib.Data.Nat.Notation

/-! Unbounded `while` loops as fuelled iteration. A loop body either continues
with a new loop state or leaves the loop with a value; fuel only counts
iterations, so a loop that leaves does so for every larger amount of fuel. -/
namespace Lib.Loop

variable {σ α : Type}

def run (body : σ → σ ⊕ α) : Nat → σ → Option α
  | 0, _ => none
  | fuel + 1, state =>
      match body state with
      | .inl next => run body fuel next
      | .inr value => some value

def Returns (body : σ → σ ⊕ α) (state : σ) (value : α) : Prop :=
  ∃ fuel, run body fuel state = some value

theorem Returns.done {body : σ → σ ⊕ α} {state : σ} {value : α}
    (h : body state = .inr value) : Returns body state value :=
  ⟨1, by simp [run, h]⟩

theorem Returns.next {body : σ → σ ⊕ α} {state next : σ} {value : α}
    (h : body state = .inl next) (rest : Returns body next value) :
    Returns body state value := by
  obtain ⟨fuel, hfuel⟩ := rest
  exact ⟨fuel + 1, by simp [run, h, hfuel]⟩

theorem run_add (body : σ → σ ⊕ α) {fuel : Nat} {state : σ} {value : α}
    (h : run body fuel state = some value) (extra : Nat) :
    run body (fuel + extra) state = some value := by
  induction fuel generalizing state with
  | zero => simp [run] at h
  | succ fuel ih =>
      rw [Nat.succ_add]
      unfold run at h ⊢
      cases hbody : body state with
      | inl next =>
          simp only [hbody] at h ⊢
          exact ih h
      | inr result =>
          simp only [hbody] at h ⊢
          exact h

theorem Returns.unique {body : σ → σ ⊕ α} {state : σ} {left right : α}
    (hleft : Returns body state left) (hright : Returns body state right) :
    left = right := by
  obtain ⟨n, hn⟩ := hleft
  obtain ⟨m, hm⟩ := hright
  have hleft := run_add body hn m
  have hright := run_add body hm n
  rw [Nat.add_comm m n] at hright
  exact Option.some.inj (hleft.symm.trans hright)

/-- What every round keeps holds when the loop is left: with a post-condition
that no value meets, the loop is never left. -/
theorem run_post (body : σ → σ ⊕ α) (inv : σ → Prop) (post : α → Prop)
    (hnext : ∀ state next, inv state → body state = .inl next → inv next)
    (hdone : ∀ state value, inv state → body state = .inr value → post value)
    {fuel : Nat} {state : σ} {value : α} (start : inv state)
    (h : run body fuel state = some value) : post value := by
  induction fuel generalizing state with
  | zero => simp [run] at h
  | succ fuel ih =>
      unfold run at h
      cases hbody : body state with
      | inl next =>
          simp only [hbody] at h
          exact ih (hnext state next start hbody) h
      | inr result =>
          simp only [hbody, Option.some.injEq] at h
          exact h ▸ hdone state result start hbody

/-- A measure that every continuing round lowers bounds the fuel the loop needs. -/
theorem run_isSome (body : σ → σ ⊕ α) (measure : σ → Nat)
    (lowers : ∀ state next, body state = .inl next → measure next < measure state)
    (fuel : Nat) (state : σ) (enough : measure state < fuel) :
    (run body fuel state).isSome := by
  induction fuel generalizing state with
  | zero => omega
  | succ fuel ih =>
      unfold run
      cases hbody : body state with
      | inl next =>
          have hlower := lowers state next hbody
          exact ih next (by omega)
      | inr value => rfl

theorem run_eq_of_returns (body : σ → σ ⊕ α) (measure : σ → Nat)
    (lowers : ∀ state next, body state = .inl next → measure next < measure state)
    {fuel : Nat} {state : σ} {value : α} (enough : measure state < fuel)
    (h : Returns body state value) : run body fuel state = some value := by
  obtain ⟨found, hfound⟩ := Option.isSome_iff_exists.mp
    (run_isSome body measure lowers fuel state enough)
  rw [hfound, Returns.unique ⟨fuel, hfound⟩ h]

/-- A loop whose rounds another loop takes in smaller ones: where the states of the
two belong together, the finer loop returns what the coarser one returns. -/
theorem Returns.refine {τ : Type} {body : σ → σ ⊕ α} {finer : τ → τ ⊕ α} (rel : σ → τ → Prop)
    (hnext : ∀ state next point, rel state point → body state = .inl next →
      ∃ later, rel next later ∧ ∀ value, Returns finer later value → Returns finer point value)
    (hdone : ∀ state value point, rel state point → body state = .inr value →
      Returns finer point value)
    {state : σ} {point : τ} {value : α} (start : rel state point)
    (h : Returns body state value) : Returns finer point value := by
  obtain ⟨fuel, hfuel⟩ := h
  induction fuel generalizing state point with
  | zero => simp [run] at hfuel
  | succ fuel ih =>
      unfold run at hfuel
      cases hbody : body state with
      | inl next =>
          simp only [hbody] at hfuel
          obtain ⟨later, hlater, hback⟩ := hnext state next point start hbody
          exact hback value (ih hlater hfuel)
      | inr result =>
          simp only [hbody, Option.some.injEq] at hfuel
          exact hfuel ▸ hdone state result point start hbody

/-- A cursor that moves on while the element under it is of one kind: the loop
returns what it returns from behind the run of such elements. -/
theorem Returns.scan {ε : Type} {body : σ → σ ⊕ α} {elements : List ε} {kind : ε → Bool}
    {state : Nat → σ} (moves : ∀ k e, elements[k]? = some e → kind e = true →
      body (state k) = .inl (state (k + 1)))
    (k : Nat) {value : α}
    (h : Returns body (state (k + ((elements.drop k).takeWhile kind).length)) value) :
    Returns body (state k) value := by
  -- on what is left of the run
  induction hrun : (elements.drop k).takeWhile kind generalizing k with
  | nil =>
      rw [hrun] at h
      exact h
  | cons e run ih =>
      obtain ⟨rest, hdrop⟩ : ∃ rest, elements.drop k = e :: rest := by
        have hcut := List.takeWhile_append_dropWhile (p := kind) (l := elements.drop k)
        rw [hrun] at hcut
        exact ⟨_, hcut.symm⟩
      have hrest : elements.drop (k + 1) = rest := by
        rw [← List.tail_drop, hdrop, List.tail_cons]
      have hkind : kind e = true := by
        have hmem : e ∈ (elements.drop k).takeWhile kind := by
          rw [hrun]
          exact List.mem_cons_self
        exact List.mem_takeWhile_imp hmem
      have htail : (elements.drop (k + 1)).takeWhile kind = run := by
        rw [hdrop, List.takeWhile_cons_of_pos hkind] at hrun
        rw [hrest]
        exact (List.cons.inj hrun).2
      have helement : elements[k]? = some e := by
        rw [← List.head?_drop, hdrop, List.head?_cons]
      apply Returns.next (moves k e helement hkind)
      apply ih (k + 1) _ htail
      rw [htail, Nat.add_assoc, Nat.add_comm 1]
      rw [hrun] at h
      exact h

/-- Behind such a run stands what `dropWhile` leaves. -/
theorem drop_scan {ε : Type} (kind : ε → Bool) (elements : List ε) (k : Nat) :
    elements.drop (k + ((elements.drop k).takeWhile kind).length) =
      (elements.drop k).dropWhile kind := by
  have hcut := congrArg (List.drop ((elements.drop k).takeWhile kind).length)
    (List.takeWhile_append_dropWhile (p := kind) (l := elements.drop k))
  rw [List.drop_left] at hcut
  rw [← List.drop_drop]
  exact hcut.symm

theorem scan_stops {ε : Type} (kind : ε → Bool) (elements : List ε) (k : Nat) {e : ε}
    (h : elements[k + ((elements.drop k).takeWhile kind).length]? = some e) : kind e = false := by
  rw [← List.head?_drop, drop_scan] at h
  have hhead := List.head?_dropWhile_not kind (elements.drop k)
  rw [h] at hhead
  simpa using hhead

end Lib.Loop
