import Mathlib.Data.List.Basic

/-! The ledger of a bounded queue. Items enter at the back; at the front they
either leave or are evicted, the latter only when the queue is full. Whatever
the order of these events, what entered is what was removed followed by what is
still there. -/
namespace Lib.Fifo

variable {α : Type}

inductive Event (α : Type) where
  | enter (item : α)
  | evict (item : α)
  | leave (item : α)

/-- The ledger: one event takes one queue to the next. -/
inductive Step (capacity : Nat) : List α → Event α → List α → Prop where
  | enter (queue : List α) (item : α) (room : queue.length < capacity) :
      Step capacity queue (.enter item) (queue ++ [item])
  | evict (item : α) (rest : List α) (full : (item :: rest).length = capacity) :
      Step capacity (item :: rest) (.evict item) rest
  | leave (item : α) (rest : List α) : Step capacity (item :: rest) (.leave item) rest

inductive Steps (capacity : Nat) : List α → List (Event α) → List α → Prop where
  | nil (queue : List α) : Steps capacity queue [] queue
  | cons {first next last : List α} {event : Event α} {events : List (Event α)}
      (step : Step capacity first event next) (rest : Steps capacity next events last) :
      Steps capacity first (event :: events) last

theorem Steps.append {capacity : Nat} {first middle last : List α} {left right : List (Event α)}
    (hleft : Steps capacity first left middle) (hright : Steps capacity middle right last) :
    Steps capacity first (left ++ right) last := by
  induction hleft with
  | nil queue => exact hright
  | cons step rest ih => exact .cons step (ih hright)

theorem Steps.length_le {capacity : Nat} {first last : List α} {events : List (Event α)}
    (h : Steps capacity first events last) (fits : first.length ≤ capacity) :
    last.length ≤ capacity := by
  induction h with
  | nil queue => exact fits
  | cons step rest ih =>
      apply ih
      cases step with
      | enter queue item room =>
          rw [List.length_append, List.length_singleton]
          omega
      | evict item rest full =>
          rw [List.length_cons] at fits
          omega
      | leave item rest =>
          rw [List.length_cons] at fits
          omega

end Lib.Fifo
