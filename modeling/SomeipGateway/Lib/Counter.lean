import Mathlib.Data.List.Nodup
import Mathlib.Data.List.Range
import Mathlib.Data.Nat.ModEq
import SomeipGateway.Lib.Machine

/-! Identifiers drawn one after the other from a counter that wraps, tallies, and costs
that add up along a run. -/
namespace Lib.Counter

def draws (size start count : Nat) : List Nat :=
  (List.range count).map fun k => (start + k) % size

theorem length_draws (size start count : Nat) :
    (draws size start count).length = count := by
  simp [draws]

theorem draws_mod (size start count : Nat) :
    draws size (start % size) count = draws size start count := by
  unfold draws
  congr 1
  funext k
  rw [Nat.mod_add_mod]

theorem draws_add (size start count more : Nat) :
    draws size start (count + more) =
      draws size start count ++ draws size (start + count) more := by
  unfold draws
  rw [List.range_add, List.map_append, List.map_map]
  congr 2
  funext k
  rw [Function.comp_apply, Nat.add_assoc]

/-- A counter repeats itself only after it has gone through all its values. -/
theorem draws_nodup {size count : Nat} (start : Nat) (h : count ≤ size) :
    (draws size start count).Nodup := by
  apply List.Nodup.map_on _ List.nodup_range
  intro i hi j hj hsame
  have hi := List.mem_range.mp hi
  have hj := List.mem_range.mp hj
  have hmod : i ≡ j [MOD size] := Nat.ModEq.add_left_cancel' start hsame
  exact Nat.ModEq.eq_of_lt_of_lt hmod (Nat.lt_of_lt_of_le hi h) (Nat.lt_of_lt_of_le hj h)

theorem take_drop_draws (size start count skip len : Nat) :
    ((draws size start count).drop skip).take len =
      draws size (start + skip) (min len (count - skip)) := by
  apply List.ext_getElem
  · rw [List.length_take, List.length_drop, length_draws, length_draws]
  · intro k hleft hright
    simp [draws, Nat.add_assoc]

theorem window_nodup {size len : Nat} (start count skip : Nat) (h : len ≤ size) :
    (((draws size start count).drop skip).take len).Nodup := by
  rw [take_drop_draws]
  exact draws_nodup _ (Nat.le_trans (Nat.min_le_left _ _) h)

/-- Starting at 1, zero comes up first when all the other values are used. -/
theorem zero_notMem_draws_one {size : Nat} (hsize : 0 < size) (count : Nat) :
    (0 ∉ draws size 1 count) ↔ count < size := by
  constructor
  · intro h
    by_contra hlarge
    apply h
    apply List.mem_map.mpr
    refine ⟨size - 1, List.mem_range.mpr (by omega), ?_⟩
    rw [show 1 + (size - 1) = size by omega, Nat.mod_self]
  · intro h hzero
    obtain ⟨k, hk, hzero⟩ := List.mem_map.mp hzero
    have hk := List.mem_range.mp hk
    rw [Nat.mod_eq_of_lt (by omega)] at hzero
    omega

/-! ### Machines that draw -/

section

variable {σ ι ω : Type}

/-- Every output carries the next value of the counter, and nothing else moves it. -/
structure Draws (step : σ → ι → σ × List ω) (size : Nat) (counter : σ → Nat) (id : ω → Nat) :
    Prop where
  ids : ∀ state input, (step state input).2.map id =
    draws size (counter state) (step state input).2.length
  next : ∀ state input, counter (step state input).1 % size =
    (counter state + (step state input).2.length) % size

variable {step : σ → ι → σ × List ω} {size : Nat} {counter : σ → Nat} {id : ω → Nat}

theorem Draws.run_next (h : Draws step size counter id) (state : σ) (inputs : List ι) :
    counter (Machine.run step state inputs).1 % size =
      (counter state + (Machine.run step state inputs).2.length) % size := by
  induction inputs generalizing state with
  | nil => rfl
  | cons input rest ih =>
      rw [Machine.run_cons, List.length_append]
      dsimp only
      rw [ih, ← Nat.mod_add_mod, h.next, Nat.mod_add_mod, Nat.add_assoc]

theorem Draws.run_ids (h : Draws step size counter id) (state : σ) (inputs : List ι) :
    (Machine.run step state inputs).2.map id =
      draws size (counter state) (Machine.run step state inputs).2.length := by
  induction inputs generalizing state with
  | nil => rfl
  | cons input rest ih =>
      rw [Machine.run_cons, List.map_append, List.length_append, draws_add, h.ids, ih]
      congr 1
      rw [← draws_mod, h.next, draws_mod]

end

/-! ### Tallies -/

/-- Two 64-bit counters that have counted items and added up their sizes. -/
structure Tally (count total : UInt64) (sizes : List Nat) : Prop where
  count_eq : count = UInt64.ofNat sizes.length
  total_eq : total = UInt64.ofNat sizes.sum

theorem Tally.nil : Tally 0 0 [] := ⟨rfl, rfl⟩

theorem Tally.append {count total : UInt64} {sizes : List Nat} (h : Tally count total sizes)
    (more : List Nat) :
    Tally (count + UInt64.ofNat more.length) (total + UInt64.ofNat more.sum) (sizes ++ more) where
  count_eq := by rw [h.count_eq, List.length_append, UInt64.ofNat_add]
  total_eq := by rw [h.total_eq, List.sum_append, UInt64.ofNat_add]

/-- Counters that agree so far still agree exactly if they move by what is new. -/
theorem Tally.advance_iff {count total moved added : UInt64} {sizes : List Nat}
    (h : Tally count total sizes) (more : List Nat) :
    Tally (count + moved) (total + added) (sizes ++ more) ↔
      moved = UInt64.ofNat more.length ∧ added = UInt64.ofNat more.sum := by
  have happend := h.append more
  constructor
  · intro hmoved
    have hcount := hmoved.count_eq.trans happend.count_eq.symm
    have htotal := hmoved.total_eq.trans happend.total_eq.symm
    exact ⟨(UInt64.add_right_inj _).mp hcount, (UInt64.add_right_inj _).mp htotal⟩
  · rintro ⟨rfl, rfl⟩
    exact happend

/-- Counters that stand still count nothing new, unless they wrap all the way. -/
theorem Tally.append_iff_nil {count total : UInt64} {sizes : List Nat}
    (h : Tally count total sizes) {more : List Nat} (hmore : more.length < 2 ^ 64) :
    Tally count total (sizes ++ more) ↔ more = [] := by
  constructor
  · intro hmoved
    have hcount := (h.append more).count_eq
    rw [← hmoved.count_eq] at hcount
    have hzero : UInt64.ofNat more.length = 0 := UInt64.add_eq_left.mp hcount
    have hlength := congrArg UInt64.toNat hzero
    rw [UInt64.toNat_ofNat_of_lt' hmore] at hlength
    exact List.length_eq_zero_iff.mp hlength
  · rintro rfl
    rw [List.append_nil]
    exact h

/-- Amortised cost: if every step pays for its outputs and for what it stores out
of what was stored before and what its input brings, then so does a run. -/
theorem run_amortised {σ ι ω : Type} (step : σ → ι → σ × List ω) (stored : σ → Nat)
    (cost : ω → Nat) (brings : ι → Nat)
    (hstep : ∀ state input,
      ((step state input).2.map cost).sum + stored (step state input).1 ≤
        stored state + brings input)
    (state : σ) (inputs : List ι) :
    ((Machine.run step state inputs).2.map cost).sum + stored (Machine.run step state inputs).1 ≤
      stored state + (inputs.map brings).sum := by
  induction inputs generalizing state with
  | nil => exact Nat.le_of_eq (Nat.zero_add _)
  | cons input rest ih =>
      have hnow := hstep state input
      have hlater := ih (step state input).1
      rw [Machine.run_cons, List.map_append, List.sum_append, List.map_cons, List.sum_cons]
      dsimp only
      omega

end Lib.Counter
