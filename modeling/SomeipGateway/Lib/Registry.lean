import Mathlib.Data.List.Nodup
import Mathlib.Logic.Function.Basic

/-! Registries that a loop fills entry by entry: tables that collect all entries
of a key, tables in which the first entry of a key wins, and lists that take one
item of each key. -/
namespace Lib.Registry

variable {κ α β : Type} [DecidableEq κ]

/-! ### All entries of a key -/

def collect (table : κ → Option (List β)) (entry : κ × List β) : κ → Option (List β) :=
  Function.update table entry.1 (some ((table entry.1).getD [] ++ entry.2))

theorem isSome_collect (table : κ → Option (List β)) (entry : κ × List β) (key : κ) :
    (collect table entry key).isSome = true ↔ (table key).isSome = true ∨ entry.1 = key := by
  unfold collect
  rw [Function.update_apply]
  split_ifs with hkey
  · simp [hkey]
  · simp [Ne.symm hkey]

theorem mem_collect (table : κ → Option (List β)) (entry : κ × List β) (key : κ) (item : β) :
    item ∈ (collect table entry key).getD [] ↔
      item ∈ (table key).getD [] ∨ entry.1 = key ∧ item ∈ entry.2 := by
  unfold collect
  rw [Function.update_apply]
  split_ifs with hkey
  · simp [hkey]
  · simp [Ne.symm hkey]

theorem isSome_foldl_collect (entries : List (κ × List β)) (table : κ → Option (List β))
    (key : κ) :
    (entries.foldl collect table key).isSome = true ↔
      (table key).isSome = true ∨ ∃ entry ∈ entries, entry.1 = key := by
  induction entries generalizing table with
  | nil => simp
  | cons entry rest ih =>
      rw [List.foldl_cons, ih, isSome_collect, or_assoc]
      simp only [List.mem_cons, exists_eq_or_imp]

theorem mem_foldl_collect (entries : List (κ × List β)) (table : κ → Option (List β)) (key : κ)
    (item : β) :
    item ∈ (entries.foldl collect table key).getD [] ↔
      item ∈ (table key).getD [] ∨ ∃ entry ∈ entries, entry.1 = key ∧ item ∈ entry.2 := by
  induction entries generalizing table with
  | nil => simp
  | cons entry rest ih =>
      rw [List.foldl_cons, ih, mem_collect, or_assoc]
      simp only [List.mem_cons, exists_eq_or_imp]

/-! ### The first entry of a key -/

def reserve (table : κ → Option α) (entry : κ × α) : κ → Option α :=
  match table entry.1 with
  | some _ => table
  | none => Function.update table entry.1 (some entry.2)

theorem reserve_apply (table : κ → Option α) (entry : κ × α) (key : κ) :
    reserve table entry key = (table key).or (if entry.1 = key then some entry.2 else none) := by
  unfold reserve
  cases htable : table entry.1 with
  | some found =>
      dsimp only
      split_ifs with hkey
      · rw [← hkey, htable]
        rfl
      · rw [Option.or_none]
  | none =>
      dsimp only
      rw [Function.update_apply]
      split_ifs with hkey hkey' hkey'
      · rw [hkey, htable]
        rfl
      · exact absurd hkey.symm hkey'
      · exact absurd hkey'.symm hkey
      · rw [Option.or_none]

theorem foldl_reserve (entries : List (κ × α)) (table : κ → Option α) (key : κ) :
    entries.foldl reserve table key =
      (table key).or ((entries.find? fun entry => entry.1 = key).map Prod.snd) := by
  induction entries generalizing table with
  | nil => rw [List.foldl_nil, List.find?_nil, Option.map_none, Option.or_none]
  | cons entry rest ih =>
      rw [List.foldl_cons, ih, reserve_apply, Option.or_assoc, List.find?_cons]
      by_cases hkey : entry.1 = key
      · simp [hkey]
      · simp [hkey]

/-- A reservation changes nothing for a key that has this entry already. -/
theorem or_eq_of_agree {kept new : Option α} (h : ∀ a, kept = some a → new = some a) :
    kept.or new = new := by
  cases kept with
  | none => rfl
  | some a => rw [h a rfl, Option.some_or]

/-! ### One item of each key -/

/-- The items taken so far and their keys. -/
def takeOnce (key : α → κ) (state : List α × List κ) (item : α) : List α × List κ :=
  if key item ∈ state.2 then state else (state.1 ++ [item], key item :: state.2)

/-- The keys are those of the items, each of them once. -/
def Tracked (key : α → κ) (state : List α × List κ) : Prop :=
  (state.1.map key).Nodup ∧ ∀ k, k ∈ state.2 ↔ k ∈ state.1.map key

theorem takeOnce_tracked {key : α → κ} {state : List α × List κ} (h : Tracked key state)
    (item : α) : Tracked key (takeOnce key state item) := by
  unfold takeOnce
  split_ifs with hseen
  · exact h
  · have hnew : key item ∉ state.1.map key := fun hmem => hseen ((h.2 _).mpr hmem)
    constructor
    · rw [List.map_append, List.nodup_append]
      refine ⟨h.1, List.nodup_singleton _, ?_⟩
      intro k hk k' hk' hsame
      apply hnew
      rw [← List.mem_singleton.mp hk', ← hsame]
      exact hk
    · intro k
      rw [List.mem_cons, List.map_append, List.mem_append, h.2]
      simp [or_comm]

theorem mem_map_takeOnce {key : α → κ} {state : List α × List κ} (h : Tracked key state)
    (item : α) (k : κ) :
    k ∈ (takeOnce key state item).1.map key ↔ k ∈ state.1.map key ∨ key item = k := by
  unfold takeOnce
  split_ifs with hseen
  · constructor
    · exact .inl
    · rintro (hmem | rfl)
      · exact hmem
      · exact (h.2 _).mp hseen
  · simp [eq_comm]

/-- After the loop every key that came up has been taken, and taken once. -/
theorem foldl_takeOnce (key : α → κ) (items : List α) (state : List α × List κ)
    (h : Tracked key state) :
    ((items.foldl (takeOnce key) state).1.map key).Nodup ∧
      ∀ k, k ∈ (items.foldl (takeOnce key) state).1.map key ↔
        k ∈ state.1.map key ∨ ∃ item ∈ items, key item = k := by
  induction items generalizing state with
  | nil => simpa using h.1
  | cons item rest ih =>
      obtain ⟨hnodup, hmem⟩ := ih (takeOnce key state item) (takeOnce_tracked h item)
      refine ⟨hnodup, fun k => ?_⟩
      rw [List.foldl_cons, hmem, mem_map_takeOnce h, or_assoc]
      simp only [List.mem_cons, exists_eq_or_imp]

/-- Nothing is taken that did not come up. -/
theorem mem_foldl_takeOnce (key : α → κ) (items : List α) (state : List α × List κ) {item : α}
    (h : item ∈ (items.foldl (takeOnce key) state).1) : item ∈ state.1 ∨ item ∈ items := by
  induction items generalizing state with
  | nil => exact .inl h
  | cons first rest ih =>
      rcases ih (takeOnce key state first) h with hbefore | hrest
      · unfold takeOnce at hbefore
        split_ifs at hbefore
        · exact .inl hbefore
        · rcases List.mem_append.mp hbefore with hkept | hnew
          · exact .inl hkept
          · exact .inr (List.mem_singleton.mp hnew ▸ List.mem_cons_self)
      · exact .inr (List.mem_cons_of_mem _ hrest)

end Lib.Registry
