import Mathlib.Data.List.Basic
import Mathlib.Logic.Nontrivial.Defs

/-! Writers that append a value to a buffer and may look at what is already
there, readers that take a value at a position of the data, and what it means
that a reader inverts a writer. Fields compose in sequence and by repetition. -/
namespace Lib.Codec

variable {β α γ : Type}

abbrev Writer (β α : Type) := List β → α → List β
abbrev Reader (β α : Type) := List β → Nat → Option (α × Nat)

/-- Reading at the position where a value was written returns the value and
consumes exactly what was written, whatever follows. -/
def Inverts (read : Reader β α) (write : Writer β α) : Prop :=
  ∀ (buffer : List β) (value : α), buffer <+: write buffer value ∧
    ∀ rest : List β, read (write buffer value ++ rest) buffer.length =
      some (value, (write buffer value).length)

/-! ### Composition -/

def writeSeq (first : Writer β α) (second : Writer β γ) : Writer β (α × γ) :=
  fun buffer value => second (first buffer value.1) value.2

def readSeq (first : Reader β α) (second : Reader β γ) : Reader β (α × γ) :=
  fun data pos =>
    (first data pos).bind fun left =>
      (second data left.2).bind fun right => some ((left.1, right.1), right.2)

/-- A chain of reads is a composed read, one field at a time. -/
theorem bind_eq_readSeq_bind {δ : Type} {first : Reader β α} {second : Reader β γ} {data : List β}
    {pos : Nat} {each : α × Nat → Option δ} {next : (α × γ) × Nat → Option δ}
    (h : ∀ left pos, each (left, pos) =
      (second data pos).bind fun right => next ((left, right.1), right.2)) :
    (first data pos).bind each = (readSeq first second data pos).bind next := by
  simp only [readSeq, Option.bind_assoc, Option.bind_some]
  exact Option.bind_congr fun left _ => h left.1 left.2

def writeMany (write : Writer β α) : Writer β (List α) :=
  fun buffer values => values.foldl write buffer

theorem writeMany_append (write : Writer β α) (buffer : List β) (first second : List α) :
    writeMany write buffer (first ++ second) =
      writeMany write (writeMany write buffer first) second := List.foldl_append

def readMany (read : Reader β α) (data : List β) : Nat → Nat → Option (List α × Nat)
  | 0, pos => some ([], pos)
  | count + 1, pos =>
      (read data pos).bind fun head =>
        (readMany read data count head.2).bind fun tail => some (head.1 :: tail.1, tail.2)

theorem length_of_readMany {read : Reader β α} {data : List β} {count pos last : Nat}
    {values : List α} (h : readMany read data count pos = some (values, last)) :
    values.length = count := by
  induction count generalizing pos values last with
  | zero =>
      cases h
      rfl
  | succ count ih =>
      obtain ⟨head, -, h⟩ := Option.bind_eq_some_iff.mp h
      obtain ⟨tail, htail, h⟩ := Option.bind_eq_some_iff.mp h
      cases h
      rw [List.length_cons, ih htail]

namespace Inverts

variable {read : Reader β α} {write : Writer β α} {buffer data : List β} {value : α}

theorem prefix_of (h : Inverts read write) (hwritten : write buffer value <+: data) :
    buffer <+: data :=
  (h buffer value).1.trans hwritten

theorem read_eq (h : Inverts read write) (hwritten : write buffer value <+: data) :
    read data buffer.length = some (value, (write buffer value).length) := by
  obtain ⟨rest, rfl⟩ := hwritten
  exact (h buffer value).2 rest

protected theorem seq {read' : Reader β γ} {write' : Writer β γ} (first : Inverts read write)
    (second : Inverts read' write') :
    Inverts (readSeq read read') (writeSeq write write') := by
  rintro buffer ⟨left, right⟩
  refine ⟨(first buffer left).1.trans (second _ right).1, fun rest => ?_⟩
  have hright : write' (write buffer left) right <+: write' (write buffer left) right ++ rest :=
    List.prefix_append _ _
  simp only [readSeq, writeSeq, first.read_eq (second.prefix_of hright), second.read_eq hright,
    Option.bind_some]

/-- Two values cannot both be written as nothing, so no value is: a reader could
not tell it from another value written behind it. -/
theorem length_lt [Nontrivial α] (h : Inverts read write) (buffer : List β) (value : α) :
    buffer.length < (write buffer value).length := by
  obtain ⟨other, hother⟩ := exists_ne value
  obtain ⟨written, hwritten⟩ := (h buffer value).1
  cases written with
  | nil =>
      rw [List.append_nil] at hwritten
      have hnothing : write buffer value <+: write buffer other := hwritten ▸ (h buffer other).1
      have hread := h.read_eq (List.prefix_refl (write buffer other))
      rw [h.read_eq hnothing] at hread
      cases hread
      exact absurd rfl hother
  | cons b written =>
      rw [← hwritten]
      simp

theorem prefix_many (h : Inverts read write) (values : List α) (buffer : List β) :
    buffer <+: writeMany write buffer values := by
  induction values generalizing buffer with
  | nil => exact List.prefix_refl buffer
  | cons value values ih => exact (h buffer value).1.trans (ih _)

theorem readMany_eq (h : Inverts read write) {values : List α}
    (hwritten : writeMany write buffer values <+: data) :
    readMany read data values.length buffer.length =
      some (values, (writeMany write buffer values).length) := by
  induction values generalizing buffer with
  | nil => rfl
  | cons value values ih =>
      have hvalue : write buffer value <+: data :=
        (h.prefix_many values (write buffer value)).trans hwritten
      simp only [List.length_cons, readMany, h.read_eq hvalue, Option.bind_some, ih hwritten]
      rfl

theorem length_many [Nontrivial α] (h : Inverts read write) (values : List α)
    (buffer : List β) : buffer.length + values.length ≤ (writeMany write buffer values).length := by
  induction values generalizing buffer with
  | nil => simp [writeMany]
  | cons value values ih =>
      have hvalue := h.length_lt buffer value
      have hvalues := ih (write buffer value)
      simp only [writeMany, List.length_cons, List.foldl_cons] at hvalues ⊢
      omega

theorem length_le_remaining [Nontrivial α] (h : Inverts read write) {values : List α}
    (hwritten : writeMany write buffer values <+: data) :
    values.length ≤ data.length - buffer.length := by
  have hvalues := h.length_many values buffer
  have hdata := hwritten.length_le
  omega

end Inverts

/-! ### Data that ends too early -/

/-- A value is read whole or not at all: data that ends inside what was written
for it is refused. -/
def Whole (read : Reader β α) (write : Writer β α) : Prop :=
  ∀ (buffer : List β) (value : α) (data : List β), buffer <+: data →
    data <+: write buffer value → data ≠ write buffer value → read data buffer.length = none

/-- A reader that never looks past the position it ends at. -/
def Stable (read : Reader β α) : Prop :=
  ∀ (data rest : List β) (pos last : Nat) (value : α), read data pos = some (value, last) →
    last ≤ data.length ∧ read (data ++ rest) pos = some (value, last)

theorem Inverts.whole_of_stable {read : Reader β α} {write : Writer β α} (h : Inverts read write)
    (hstable : Stable read) : Whole read write := by
  intro buffer value data _ hdata hne
  cases hread : read data buffer.length with
  | none => rfl
  | some result =>
      obtain ⟨rest, hrest⟩ := hdata
      obtain ⟨hlast, hlonger⟩ := hstable data rest _ _ _ hread
      rw [hrest, h.read_eq (List.prefix_refl _)] at hlonger
      have hend : (write buffer value).length = result.2 :=
        congrArg Prod.snd (Option.some.inj hlonger)
      have hshort : data <+: write buffer value := ⟨rest, hrest⟩
      exact absurd (hshort.eq_of_length_le (hend ▸ hlast)) hne

/-- Data that does not reach the end of a part of the whole ends inside it. -/
theorem cut_of_not_prefix {part whole data : List β} (hpart : part <+: whole)
    (hdata : data <+: whole) (h : ¬part <+: data) : data <+: part ∧ data ≠ part := by
  constructor
  · rcases List.prefix_or_prefix_of_prefix hdata hpart with hshort | hreached
    · exact hshort
    · exact absurd hreached h
  · rintro rfl
    exact h (List.prefix_refl _)

/-- What was written is read back, and nothing less is. -/
structure Exact (read : Reader β α) (write : Writer β α) : Prop where
  inverts : Inverts read write
  whole : Whole read write

namespace Exact

variable {read : Reader β α} {write : Writer β α}

protected theorem seq {read' : Reader β γ} {write' : Writer β γ} (first : Exact read write)
    (second : Exact read' write') : Exact (readSeq read read') (writeSeq write write') := by
  refine ⟨first.inverts.seq second.inverts, ?_⟩
  rintro buffer ⟨left, right⟩ data hbuffer hdata hne
  have hleft : write buffer left <+: writeSeq write write' buffer (left, right) :=
    (second.inverts (write buffer left) right).1
  unfold readSeq
  by_cases hreached : write buffer left <+: data
  · rw [first.inverts.read_eq hreached, Option.bind_some,
      second.whole _ right data hreached hdata hne]
    rfl
  · obtain ⟨hshort, hcut⟩ := cut_of_not_prefix hleft hdata hreached
    rw [first.whole buffer left data hbuffer hshort hcut]
    rfl

/-- As many values as were written are not found in less. -/
theorem readMany_eq_none (h : Exact read write) {values : List α} {buffer data : List β}
    (hbuffer : buffer <+: data) (hdata : data <+: writeMany write buffer values)
    (hne : data ≠ writeMany write buffer values) :
    readMany read data values.length buffer.length = none := by
  induction values generalizing buffer with
  | nil => exact absurd (hdata.eq_of_length_le hbuffer.length_le) hne
  | cons value values ih =>
      have hvalue : write buffer value <+: writeMany write buffer (value :: values) :=
        h.inverts.prefix_many values (write buffer value)
      rw [List.length_cons, readMany]
      by_cases hreached : write buffer value <+: data
      · rw [h.inverts.read_eq hreached, Option.bind_some, ih hreached hdata hne]
        rfl
      · obtain ⟨hshort, hcut⟩ := cut_of_not_prefix hvalue hdata hreached
        rw [h.whole buffer value data hbuffer hshort hcut]
        rfl

end Exact

/-! ### Nothing but what is written -/

/-- What is read is what would have been written there. -/
def Canonical (read : Reader β α) (write : Writer β α) : Prop :=
  ∀ (data : List β) (pos last : Nat) (value : α), pos ≤ data.length →
    read data pos = some (value, last) →
      last ≤ data.length ∧ write (data.take pos) value = data.take last

namespace Canonical

variable {read : Reader β α} {write : Writer β α}

protected theorem seq {read' : Reader β γ} {write' : Writer β γ} (first : Canonical read write)
    (second : Canonical read' write') :
    Canonical (readSeq read read') (writeSeq write write') := by
  intro data pos last value hpos h
  obtain ⟨⟨left, middle⟩, hleft, h⟩ := Option.bind_eq_some_iff.mp h
  obtain ⟨⟨right, last⟩, hright, h⟩ := Option.bind_eq_some_iff.mp h
  cases h
  obtain ⟨hmiddle, hfirst⟩ := first data pos middle left hpos hleft
  obtain ⟨hlast, hsecond⟩ := second data middle last right hmiddle hright
  refine ⟨hlast, ?_⟩
  rw [writeSeq, hfirst, hsecond]

theorem readMany (h : Canonical read write) {data : List β} {count pos last : Nat}
    {values : List α} (hpos : pos ≤ data.length)
    (hread : Codec.readMany read data count pos = some (values, last)) :
    last ≤ data.length ∧ writeMany write (data.take pos) values = data.take last := by
  induction count generalizing pos values with
  | zero =>
      cases hread
      exact ⟨hpos, rfl⟩
  | succ count ih =>
      obtain ⟨⟨head, middle⟩, hhead, hread⟩ := Option.bind_eq_some_iff.mp hread
      obtain ⟨⟨tail, last⟩, htail, hread⟩ := Option.bind_eq_some_iff.mp hread
      cases hread
      obtain ⟨hmiddle, hwritten⟩ := h data pos middle head hpos hhead
      obtain ⟨hlast, hrest⟩ := ih hmiddle htail
      refine ⟨hlast, ?_⟩
      rw [← hrest, ← hwritten]
      rfl

/-- What is found spelled out where it is read needs no other check. -/
theorem of_found {spell : α → List β}
    (h : ∀ data pos last value, read data pos = some (value, last) →
      last = pos + (spell value).length ∧ spell value <+: data.drop pos) :
    Canonical read fun buffer value => buffer ++ spell value := by
  intro data pos last value hpos hread
  obtain ⟨rfl, tail, hdrop⟩ := h data pos last value hread
  have hlength := congrArg List.length hdrop
  rw [List.length_drop, List.length_append] at hlength
  refine ⟨by omega, ?_⟩
  rw [List.take_add, ← hdrop, List.take_left]

end Canonical

/-! ### One spelling for each value -/

/-- The reader finds a value exactly where its spelling stands. -/
def Spelled (read : Reader β α) (spell : α → List β) : Prop :=
  ∀ data pos last value, read data pos = some (value, last) ↔
    last = pos + (spell value).length ∧ spell value <+: data.drop pos

namespace Spelled

variable {read : Reader β α} {spell : α → List β}

theorem read_append (h : Spelled read spell) (buffer rest : List β) (value : α) :
    read (buffer ++ (spell value ++ rest)) buffer.length =
      some (value, buffer.length + (spell value).length) := by
  rw [h, List.drop_left]
  exact ⟨rfl, List.prefix_append _ _⟩

theorem inverts (h : Spelled read spell) :
    Inverts read fun buffer value => buffer ++ spell value := by
  intro buffer value
  refine ⟨List.prefix_append _ _, fun rest => ?_⟩
  rw [List.append_assoc, h.read_append, List.length_append]

theorem stable (h : Spelled read spell) (hne : ∀ value, spell value ≠ []) : Stable read := by
  intro data rest pos last value hread
  obtain ⟨rfl, hfound⟩ := (h data pos last value).mp hread
  have hspelled := List.length_pos_iff.mpr (hne value)
  have hlength := hfound.length_le
  rw [List.length_drop] at hlength
  refine ⟨by omega, (h _ pos _ value).mpr ⟨rfl, ?_⟩⟩
  rw [List.drop_append_of_le_length (by omega)]
  exact hfound.trans (List.prefix_append _ _)

theorem canonical (h : Spelled read spell) :
    Canonical read fun buffer value => buffer ++ spell value :=
  .of_found fun data pos last value hread => (h data pos last value).mp hread

end Spelled

end Lib.Codec
