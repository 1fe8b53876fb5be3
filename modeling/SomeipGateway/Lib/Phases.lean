import Mathlib.Data.List.Basic

/-! Procedures that go through several phases, each of which may leave the
procedure with an error. A successful run is one in which every phase succeeded;
a failed one stopped in exactly one of them. -/
namespace Lib.Phases

variable {ε α β : Type}

theorem bind_eq_ok {first : Except ε α} {next : α → Except ε β} {result : β} :
    first >>= next = .ok result ↔ ∃ value, first = .ok value ∧ next value = .ok result := by
  cases first with
  | error failure =>
      constructor
      · intro h
        cases h
      · rintro ⟨value, hvalue, -⟩
        cases hvalue
  | ok value =>
      constructor
      · intro h
        exact ⟨value, rfl, h⟩
      · rintro ⟨value', hvalue, h⟩
        cases hvalue
        exact h

theorem bind_eq_error {first : Except ε α} {next : α → Except ε β} {failure : ε} :
    first >>= next = .error failure ↔
      first = .error failure ∨ ∃ value, first = .ok value ∧ next value = .error failure := by
  cases first with
  | error failure' =>
      constructor
      · intro h
        cases h
        exact .inl rfl
      · rintro (h | ⟨value, hvalue, -⟩)
        · cases h
          rfl
        · cases hvalue
  | ok value =>
      constructor
      · intro h
        exact .inr ⟨value, rfl, h⟩
      · rintro (h | ⟨value', hvalue, h⟩)
        · cases h
        · cases hvalue
          exact h

/-- The state a phase leaves behind, whether it went through or gave up. -/
def left {σ : Type} : Except (ε × σ) σ → σ
  | .error (_, state) => state
  | .ok state => state

/-- A phase that keeps what it did so far when it gives up. -/
def attempt {σ : Type} (failure : ε) (succeeds : Bool) (state : σ) : Except (ε × σ) σ :=
  if succeeds then .ok state else .error (failure, state)

@[simp] theorem left_attempt {σ : Type} (failure : ε) (succeeds : Bool) (state : σ) :
    left (attempt failure succeeds state) = state := by
  cases succeeds with
  | false => rfl
  | true => rfl

/-- What the first phase establishes and the second keeps, their sequence
establishes, wherever it stops. -/
theorem left_bind {σ : Type} {inv : σ → Prop} {first : Except (ε × σ) σ}
    {next : σ → Except (ε × σ) σ} (hfirst : inv (left first))
    (hnext : ∀ state, first = .ok state → inv state → inv (left (next state))) :
    inv (left (first >>= next)) := by
  cases first with
  | error failure => exact hfirst
  | ok state => exact hnext state rfl hfirst

end Lib.Phases
