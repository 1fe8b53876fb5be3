import Mathlib.Data.List.Nodup
import Mathlib.Data.List.Perm.Basic
import Mathlib.Data.List.TakeWhile

/-! Multimaps as the lists of their entries in the order of iteration. Entries
are found by walking: insertion goes behind the entries with the same key, and
erasure visits the range of one key. -/
namespace Lib.Multimap

/-! ### Walks that stop for good -/

section

variable {α : Type} {p : α → Bool} {entries : List α}

/-- Where `p` never holds again once it has failed, a walk finds all of `p`. -/
theorem takeWhile_eq_filter (h : entries.Pairwise fun first second => p second → p first) :
    entries.takeWhile p = entries.filter p := by
  induction entries with
  | nil => rfl
  | cons entry rest ih =>
      obtain ⟨hentry, hrest⟩ := List.pairwise_cons.mp h
      cases hp : p entry with
      | true => rw [List.takeWhile_cons_of_pos hp, List.filter_cons_of_pos hp, ih hrest]
      | false =>
          have hp' : ¬p entry = true := by simp [hp]
          rw [List.takeWhile_cons_of_neg hp', List.filter_cons_of_neg hp', eq_comm,
            List.filter_eq_nil_iff]
          intro later hlater hholds
          exact hp' (hentry later hlater hholds)

theorem dropWhile_eq_filter (h : entries.Pairwise fun first second => p second → p first) :
    entries.dropWhile p = entries.filter fun entry => !p entry := by
  induction entries with
  | nil => rfl
  | cons entry rest ih =>
      obtain ⟨hentry, hrest⟩ := List.pairwise_cons.mp h
      cases hp : p entry with
      | true =>
          rw [List.dropWhile_cons_of_pos hp, List.filter_cons_of_neg (by simp [hp]), ih hrest]
      | false =>
          rw [List.dropWhile_cons_of_neg (by simp [hp]), eq_comm, List.filter_eq_self]
          intro later hlater
          rcases List.mem_cons.mp hlater with rfl | hlater
          · simp [hp]
          · cases hholds : p later with
            | false => rfl
            | true => simp [hentry later hlater hholds] at hp

end

/-! ### Comparators -/

/-- A comparator as ordered containers want it, for which keys that are not
before each other are equal. -/
structure StrictOrder {κ : Type} (lt : κ → κ → Bool) : Prop where
  irrefl : ∀ key, lt key key = false
  trans : ∀ first second third, lt first second → lt second third → lt first third
  connected : ∀ first second, lt first second = false → lt second first = false → first = second

namespace StrictOrder

variable {κ : Type} {lt : κ → κ → Bool}

theorem asymm (order : StrictOrder lt) {first second : κ} (h : lt first second = true) :
    lt second first = false := by
  cases hback : lt second first with
  | false => rfl
  | true => exact (order.trans _ _ _ h hback).symm.trans (order.irrefl first)

theorem lt_of_lt_of_not_lt (order : StrictOrder lt) {first second third : κ}
    (h : lt first second = true) (h' : lt third second = false) : lt first third = true := by
  cases hsecond : lt second third with
  | true => exact order.trans _ _ _ h hsecond
  | false =>
      rw [order.connected third second h' hsecond]
      exact h

/-- Comparing ranks is a strict order, if no two keys have the same. -/
theorem of_rank (rank : κ → Nat) (hlt : ∀ first second, lt first second ↔ rank first < rank second)
    (hinj : ∀ first second, rank first = rank second → first = second) : StrictOrder lt where
  irrefl key := by
    rw [Bool.eq_false_iff, Ne, hlt]
    exact Nat.lt_irrefl _
  trans first second third h h' := by
    rw [hlt] at h h' ⊢
    exact Nat.lt_trans h h'
  connected first second h h' := by
    rw [Bool.eq_false_iff, Ne, hlt] at h h'
    apply hinj
    omega

end StrictOrder

/-! ### Insertion and erasure -/

section

variable {κ α : Type} (lt : κ → κ → Bool)

def emplace (entries : List (κ × α)) (key : κ) (value : α) : List (κ × α) :=
  entries.takeWhile (fun entry => !lt key entry.1) ++
    (key, value) :: entries.dropWhile (fun entry => !lt key entry.1)

/-- Walks over the range of a key and erases what `gone` says. -/
def eraseRange [DecidableEq κ] (gone : α → Bool) (entries : List (κ × α)) (key : κ) :
    List (κ × α) :=
  let fromKey := entries.dropWhile fun entry => lt entry.1 key
  entries.takeWhile (fun entry => lt entry.1 key) ++
    (fromKey.takeWhile (fun entry => entry.1 == key)).filter (fun entry => !gone entry.2) ++
    fromKey.dropWhile (fun entry => entry.1 == key)

def Ordered (entries : List (κ × α)) : Prop :=
  entries.Pairwise fun first second => lt second.1 first.1 = false

theorem emplace_perm (entries : List (κ × α)) (key : κ) (value : α) :
    (emplace lt entries key value).Perm ((key, value) :: entries) := by
  unfold emplace
  refine List.perm_middle.trans ?_
  rw [List.takeWhile_append_dropWhile]

theorem eraseRange_sublist [DecidableEq κ] (gone : α → Bool) (entries : List (κ × α)) (key : κ) :
    (eraseRange lt gone entries key).Sublist entries := by
  unfold eraseRange
  dsimp only
  have hrange := ((entries.dropWhile fun entry => lt entry.1 key).takeWhile
    fun entry => entry.1 == key).filter_sublist (p := fun entry => !gone entry.2)
  have hwhole := (hrange.append_left (entries.takeWhile fun entry => lt entry.1 key)).append_right
    ((entries.dropWhile fun entry => lt entry.1 key).dropWhile fun entry => entry.1 == key)
  rw [List.append_assoc (entries.takeWhile _) (List.takeWhile _ _),
    List.takeWhile_append_dropWhile, List.takeWhile_append_dropWhile] at hwhole
  exact hwhole

end

section

variable {κ α : Type} {lt : κ → κ → Bool} (order : StrictOrder lt)

include order

theorem emplace_ordered {entries : List (κ × α)} (h : Ordered lt entries) (key : κ) (value : α) :
    Ordered lt (emplace lt entries key value) := by
  have hwalk : entries.Pairwise fun first second =>
      (!lt key second.1) = true → (!lt key first.1) = true := by
    refine h.imp fun {first second} hle hsecond => ?_
    rw [Bool.not_eq_true'] at hsecond ⊢
    cases hfirst : lt key first.1 with
    | false => rfl
    | true => exact (order.lt_of_lt_of_not_lt hfirst hle).symm.trans hsecond
  have hsplit := h
  rw [← List.takeWhile_append_dropWhile (p := fun entry => !lt key entry.1) (l := entries)]
    at hsplit
  obtain ⟨hbefore, hbehind, hacross⟩ := List.pairwise_append.mp hsplit
  refine List.pairwise_append.mpr ⟨hbefore, ?_, fun first hfirst second hsecond => ?_⟩
  · refine List.pairwise_cons.mpr ⟨fun entry hentry => ?_, hbehind⟩
    rw [dropWhile_eq_filter hwalk, List.mem_filter] at hentry
    apply order.asymm
    simpa using hentry.2
  · rcases List.mem_cons.mp hsecond with rfl | hsecond
    · rw [takeWhile_eq_filter hwalk, List.mem_filter] at hfirst
      simpa using hfirst.2
    · exact hacross first hfirst second hsecond

/-- Erasure in the range of a key takes the entries out that have the key and are
gone, wherever they stand, and leaves the others in their order. -/
theorem eraseRange_eq_filter [DecidableEq κ] (gone : α → Bool) {entries : List (κ × α)}
    (h : Ordered lt entries) (key : κ) :
    eraseRange lt gone entries key =
      entries.filter fun entry => !(entry.1 == key && gone entry.2) := by
  have hbelow : entries.Pairwise fun first second =>
      lt second.1 key = true → lt first.1 key = true := by
    refine h.imp fun {first second} hle hsecond => ?_
    cases hfirst : lt first.1 key with
    | true => rfl
    | false => exact hle.symm.trans (order.lt_of_lt_of_not_lt hsecond hfirst)
  -- behind the lower bound, whatever stands before an entry with the key has it too
  have hrange : (entries.dropWhile fun entry => lt entry.1 key).Pairwise fun first second =>
      (second.1 == key) = true → (first.1 == key) = true := by
    rw [dropWhile_eq_filter hbelow, List.pairwise_filter]
    refine h.imp fun {first second} hle hfirst _ hsecond => ?_
    rw [beq_iff_eq] at hsecond ⊢
    rw [hsecond] at hle
    exact order.connected _ _ (by simpa using hfirst) hle
  have hother (entry : κ × α) (hkey : ¬entry.1 = key) :
      (!(entry.1 == key && gone entry.2)) = true := by simp [hkey]
  have hbefore : ∀ entry ∈ entries.takeWhile fun entry => lt entry.1 key,
      (!(entry.1 == key && gone entry.2)) = true := by
    intro entry hentry
    apply hother
    rintro rfl
    have hlt := List.mem_takeWhile_imp hentry
    rw [order.irrefl] at hlt
    contradiction
  have hbehind : ∀ entry ∈ (entries.dropWhile fun entry => lt entry.1 key).dropWhile
      fun entry => entry.1 == key, (!(entry.1 == key && gone entry.2)) = true := by
    intro entry hentry
    apply hother
    rw [dropWhile_eq_filter hrange] at hentry
    simpa using (List.mem_filter.mp hentry).2
  have hwithin : ((entries.dropWhile fun entry => lt entry.1 key).takeWhile
        fun entry => entry.1 == key).filter (fun entry => !(entry.1 == key && gone entry.2)) =
      ((entries.dropWhile fun entry => lt entry.1 key).takeWhile
        fun entry => entry.1 == key).filter fun entry => !gone entry.2 := by
    apply List.filter_congr
    intro entry hentry
    rw [List.mem_takeWhile_imp hentry, Bool.true_and]
  conv_rhs =>
    rw [← List.takeWhile_append_dropWhile (p := fun entry => lt entry.1 key) (l := entries),
      ← List.takeWhile_append_dropWhile (p := fun entry => entry.1 == key)
        (l := entries.dropWhile fun entry => lt entry.1 key)]
  rw [List.filter_append, List.filter_append, List.filter_eq_self.mpr hbefore, hwithin,
    List.filter_eq_self.mpr hbehind, ← List.append_assoc]
  rfl

theorem mem_eraseRange [DecidableEq κ] (gone : α → Bool) {entries : List (κ × α)}
    (h : Ordered lt entries) (key : κ) (entry : κ × α) :
    entry ∈ eraseRange lt gone entries key ↔
      entry ∈ entries ∧ ¬(entry.1 = key ∧ gone entry.2 = true) := by
  rw [eraseRange_eq_filter order gone h key, List.mem_filter]
  simp [imp_iff_not_or]

end

end Lib.Multimap
