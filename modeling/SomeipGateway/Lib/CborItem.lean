import Mathlib.Algebra.Group.Nat.Defs
import Mathlib.Data.List.Basic
import Mathlib.Data.List.Induction

/-! Data items of CBOR (RFC 8949) as a reference reader sees them: unsigned
integers, byte strings, text strings and maps, all of definite length. Arguments
need not be in their shortest form, and texts are not checked to be UTF-8; neither
matters for whether an item is well formed. -/
namespace Lib.Cbor

inductive Item where
  | unsigned (value : Nat)
  | bytes (data : List UInt8)
  | text (data : List UInt8)
  | map (pairs : List (Item × Item))

/-- The number some bytes stand for, the most significant one first. -/
def bigEndian (data : List UInt8) : Nat :=
  data.foldl (fun value b => 256 * value + b.toNat) 0

/-- How many bytes of argument follow an initial byte that does not hold it. -/
def argumentWidth : Nat → Option Nat
  | 24 => some 1
  | 25 => some 2
  | 26 => some 4
  | 27 => some 8
  | _ => none

/-- The head of an item: its major type, its argument, and what follows. -/
def readHead : List UInt8 → Option (Nat × Nat × List UInt8)
  | [] => none
  | ib :: rest =>
      if ib.toNat % 32 < 24 then some (ib.toNat / 32, ib.toNat % 32, rest)
      else
        match argumentWidth (ib.toNat % 32) with
        | none => none
        | some width =>
            if width ≤ rest.length then
              some (ib.toNat / 32, bigEndian (rest.take width), rest.drop width)
            else none

def readPairs (read : List UInt8 → Option (Item × List UInt8)) :
    Nat → List UInt8 → Option (List (Item × Item) × List UInt8)
  | 0, data => some ([], data)
  | count + 1, data => do
      let (key, data) ← read data
      let (value, data) ← read data
      let (pairs, data) ← readPairs read count data
      return ((key, value) :: pairs, data)

/-- The item that the data starts with, nested less than `depth` deep. -/
def readItem : Nat → List UInt8 → Option (Item × List UInt8)
  | 0, _ => none
  | depth + 1, data => do
      let (major, argument, rest) ← readHead data
      match major with
      | 0 => some (.unsigned argument, rest)
      | 2 =>
          if argument ≤ rest.length then some (.bytes (rest.take argument), rest.drop argument)
          else none
      | 3 =>
          if argument ≤ rest.length then some (.text (rest.take argument), rest.drop argument)
          else none
      | 5 => do
          let (pairs, rest) ← readPairs (readItem depth) argument rest
          return (.map pairs, rest)
      | _ => none

/-- The item that the data is, with nothing behind it. Every level of nesting
takes an initial byte, so the length bounds the depth. -/
def decode (data : List UInt8) : Option Item :=
  match readItem data.length data with
  | some (item, []) => some item
  | _ => none

/-! ### Heads -/

theorem readHead_immediate (ib : UInt8) (h : ib.toNat % 32 < 24) (rest : List UInt8) :
    readHead (ib :: rest) = some (ib.toNat / 32, ib.toNat % 32, rest) := by
  rw [readHead, if_pos h]

theorem readHead_wide (ib : UInt8) (argument : List UInt8)
    (h : argumentWidth (ib.toNat % 32) = some argument.length) (rest : List UInt8) :
    readHead (ib :: (argument ++ rest)) = some (ib.toNat / 32, bigEndian argument, rest) := by
  have hinfo : ¬ ib.toNat % 32 < 24 := by
    intro hsmall
    unfold argumentWidth at h
    split at h
    all_goals first | omega | cases h
  have hfits : argument.length ≤ (argument ++ rest).length := by simp
  rw [readHead, if_neg hinfo, h]
  simp only [if_pos hfits, List.take_left, List.drop_left]

/-! ### The heads of one argument -/

theorem bigEndian_concat (data : List UInt8) (b : UInt8) :
    bigEndian (data ++ [b]) = 256 * bigEndian data + b.toNat := by
  rw [bigEndian, List.foldl_append]
  rfl

theorem bigEndian_lt (data : List UInt8) : bigEndian data < 256 ^ data.length := by
  induction data using List.reverseRecOn with
  | nil => exact Nat.one_pos
  | append_singleton data b ih =>
      have hb := b.toNat_lt
      rw [bigEndian_concat, List.length_append, List.length_singleton, Nat.pow_succ]
      omega

/-- Of one width, different bytes stand for different numbers. -/
theorem bigEndian_injective {left right : List UInt8} (hwidth : left.length = right.length)
    (h : bigEndian left = bigEndian right) : left = right := by
  induction left using List.reverseRecOn generalizing right with
  | nil => exact (List.eq_nil_of_length_eq_zero hwidth.symm).symm
  | append_singleton left b ih =>
      cases right using List.reverseRecOn with
      | nil => simp at hwidth
      | append_singleton right c =>
          have hb := b.toNat_lt
          have hc := c.toNat_lt
          rw [bigEndian_concat, bigEndian_concat] at h
          simp only [List.length_append, List.length_singleton] at hwidth
          have hlast : b = c := UInt8.toNat_inj.mp (by omega)
          have hinit : left = right := ih (by omega) (by omega)
          rw [hinit, hlast]

/-- A head is its initial byte and the bytes of the argument, if any. -/
theorem readHead_cases {data rest : List UInt8} {major argument : Nat}
    (h : readHead data = some (major, argument, rest)) :
    ∃ ib : UInt8, major = ib.toNat / 32 ∧
      (ib.toNat % 32 < 24 ∧ argument = ib.toNat % 32 ∧ data = ib :: rest ∨
        ∃ bytes, argumentWidth (ib.toNat % 32) = some bytes.length ∧
          argument = bigEndian bytes ∧ data = ib :: (bytes ++ rest)) := by
  cases data with
  | nil => cases h
  | cons ib tail =>
      refine ⟨ib, ?_⟩
      rw [readHead] at h
      split at h
      · cases h
        exact ⟨rfl, .inl ⟨‹_›, rfl, rfl⟩⟩
      · split at h
        · cases h
        · split at h
          · rename_i width hwidth hfits
            cases h
            refine ⟨rfl, .inr ⟨tail.take width, ?_, rfl, ?_⟩⟩
            · rw [hwidth, List.length_take_of_le hfits]
            · rw [List.take_append_drop]
          · cases h

theorem argumentWidth_cases {info width : Nat} (h : argumentWidth info = some width) :
    info = 24 ∧ width = 1 ∨ info = 25 ∧ width = 2 ∨ info = 26 ∧ width = 4 ∨
      info = 27 ∧ width = 8 := by
  unfold argumentWidth at h
  split at h
  all_goals first | cases h; simp | cases h

/-- Two heads of the same item that are equally long are the same. -/
theorem readHead_injective {left right rest : List UInt8} {major argument : Nat}
    (hleft : readHead left = some (major, argument, rest))
    (hright : readHead right = some (major, argument, rest))
    (hlength : left.length = right.length) : left = right := by
  obtain ⟨ib, hmajor, hleft⟩ := readHead_cases hleft
  obtain ⟨ib', hmajor', hright⟩ := readHead_cases hright
  have hinitial (hinfo : ib.toNat % 32 = ib'.toNat % 32) : ib = ib' :=
    UInt8.toNat_inj.mp (by omega)
  rcases hleft with ⟨-, harg, rfl⟩ | ⟨bytes, hwidth, harg, rfl⟩ <;>
    rcases hright with ⟨-, harg', rfl⟩ | ⟨bytes', hwidth', harg', rfl⟩
  · rw [hinitial (harg.symm.trans harg')]
  · have hcases := argumentWidth_cases hwidth'
    simp only [List.length_cons, List.length_append] at hlength
    omega
  · have hcases := argumentWidth_cases hwidth
    simp only [List.length_cons, List.length_append] at hlength
    omega
  · have hcases := argumentWidth_cases hwidth
    have hcases' := argumentWidth_cases hwidth'
    simp only [List.length_cons, List.length_append] at hlength
    rw [hinitial (by omega), bigEndian_injective (by omega) (harg.symm.trans harg')]

/-! ### Items, by their heads -/

section

variable {data rest : List UInt8} (depth : Nat)

theorem readItem_unsigned {value : Nat} (h : readHead data = some (0, value, rest)) :
    readItem (depth + 1) data = some (.unsigned value, rest) := by
  simp [readItem, h]

theorem readItem_bytes {length : Nat} (h : readHead data = some (2, length, rest))
    (hfits : length ≤ rest.length) :
    readItem (depth + 1) data = some (.bytes (rest.take length), rest.drop length) := by
  simp [readItem, h, hfits]

theorem readItem_text {content : List UInt8}
    (h : readHead data = some (3, content.length, content ++ rest)) :
    readItem (depth + 1) data = some (.text content, rest) := by
  simp [readItem, h]

theorem readItem_map {count : Nat} (h : readHead data = some (5, count, rest)) :
    readItem (depth + 1) data =
      (readPairs (readItem depth) count rest).map fun now => (.map now.1, now.2) := by
  simp only [readItem, h, Option.bind_eq_bind, Option.bind_some]
  cases readPairs (readItem depth) count rest with
  | none => rfl
  | some now => rfl

theorem readHead_of_unsigned {value : Nat}
    (h : readItem depth data = some (.unsigned value, rest)) :
    readHead data = some (0, value, rest) := by
  cases depth with
  | zero => cases h
  | succ depth =>
      obtain ⟨⟨major, argument, behind⟩, hhead, h⟩ := Option.bind_eq_some_iff.mp h
      rw [hhead]
      dsimp only at h
      split at h
      · cases h
        rfl
      · split at h <;> cases h
      · split at h <;> cases h
      · obtain ⟨pairs, -, h⟩ := Option.bind_eq_some_iff.mp h
        cases h
      · cases h

theorem readHead_of_decode {value : Nat} (h : decode data = some (.unsigned value)) :
    readHead data = some (0, value, []) := by
  unfold decode at h
  split at h
  · rename_i hitem
    cases h
    exact readHead_of_unsigned _ hitem
  · cases h

end

theorem readPairs_cons {read : List UInt8 → Option (Item × List UInt8)} {key value : Item}
    {data afterKey rest : List UInt8} (hkey : read data = some (key, afterKey))
    (hvalue : read afterKey = some (value, rest)) (count : Nat) :
    readPairs read (count + 1) data =
      (readPairs read count rest).map fun now => ((key, value) :: now.1, now.2) := by
  simp only [readPairs, hkey, hvalue, Option.bind_eq_bind, Option.bind_some]
  cases readPairs read count rest with
  | none => rfl
  | some now => rfl

end Lib.Cbor
