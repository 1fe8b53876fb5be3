import Mathlib.Data.List.Basic
import Mathlib.Tactic.Ring

/-! Byte strings as texts: ASCII literals, numerals in a base, fixed-width
numerals, and leftmost substring search. -/
namespace Lib

abbrev Text := List UInt8

namespace Text

def ascii (literal : String) : Text :=
  literal.toList.map Char.toUInt8

def digit (value : Nat) : UInt8 :=
  value.digitChar.toUInt8

def numeral (base value : Nat) : Text :=
  (Nat.toDigits base value).map Char.toUInt8

/-- A numeral filled up with leading zeros to at least `width` digits. -/
def padded (width base value : Nat) : Text :=
  (numeral base value).leftpad width '0'.toUInt8

def isDigit (c : UInt8) : Bool :=
  '0'.toUInt8 ≤ c && c ≤ '9'.toUInt8

def decimalValue (digits : Text) : Nat :=
  digits.foldl (fun value c => 10 * value + (c.toNat - '0'.toNat)) 0

def find (pattern : Text) : Text → Option Nat
  | [] => if pattern.isEmpty then some 0 else none
  | c :: rest =>
      if pattern.isPrefixOf (c :: rest) then some 0
      else (find pattern rest).map (· + 1)

/-- `first` is always followed, inside the text, by something other than `second`. -/
def avoids (first second : UInt8) : Text → Bool
  | [] => true
  | [c] => c != first
  | c :: d :: rest => (c != first || d != second) && avoids first second (d :: rest)

/-- Exactly `width` digits, dropping everything above `base ^ width`. -/
def fixedDigits (base : Nat) : Nat → Nat → Text
  | 0, _ => []
  | width + 1, value => fixedDigits base width (value / base) ++ [digit (value % base)]

theorem fixedDigits_zero (base width : Nat) :
    fixedDigits base width 0 = List.replicate width '0'.toUInt8 := by
  induction width with
  | zero => rfl
  | succ width ih =>
      rw [fixedDigits, Nat.zero_div, ih, Nat.zero_mod, List.replicate_succ']
      rfl

theorem numeral_of_lt {base value : Nat} (h : value < base) :
    numeral base value = [digit value] := by
  rw [numeral, Nat.toDigits_of_lt_base h]
  rfl

theorem numeral_of_le {base value : Nat} (hbase : 1 < base) (h : base ≤ value) :
    numeral base value = numeral base (value / base) ++ [digit (value % base)] := by
  rw [numeral, Nat.toDigits_of_base_le hbase h, List.map_append]
  rfl

/-- Padding is only visible below the width: the padded numeral of a number
that fits consists of its `width` lowest digits. -/
theorem padded_eq_fixedDigits {base : Nat} (hbase : 1 < base) (width value : Nat)
    (h : value < base ^ (width + 1)) :
    padded (width + 1) base value = fixedDigits base (width + 1) value := by
  induction width generalizing value with
  | zero =>
      have hlt : value < base := by simpa using h
      simp [padded, numeral_of_lt hlt, fixedDigits, List.leftpad, Nat.mod_eq_of_lt hlt]
  | succ width ih =>
      by_cases hlt : value < base
      · rw [padded, numeral_of_lt hlt, fixedDigits, Nat.div_eq_of_lt hlt,
          fixedDigits_zero, Nat.mod_eq_of_lt hlt]
        simp [List.leftpad]
      · have hle : base ≤ value := Nat.le_of_not_lt hlt
        have hquot : value / base < base ^ (width + 1) := by
          rw [Nat.div_lt_iff_lt_mul (by omega)]
          exact h
        rw [padded, numeral_of_le hbase hle, fixedDigits, ← ih _ hquot, padded]
        simp [List.leftpad]

@[simp] theorem length_fixedDigits (base width value : Nat) :
    (fixedDigits base width value).length = width := by
  induction width generalizing value with
  | zero => rfl
  | succ width ih => simp [fixedDigits, ih]

theorem length_numeral_le {base : Nat} (hbase : 1 < base) (width value : Nat)
    (h : value < base ^ (width + 1)) : (numeral base value).length ≤ width + 1 := by
  have hlength := congrArg List.length (padded_eq_fixedDigits hbase width value h)
  rw [length_fixedDigits, padded, List.length_leftpad] at hlength
  omega

theorem padded_hex4 (value : UInt16) :
    padded 4 16 value.toNat =
      [digit (value.toNat / 4096), digit (value.toNat / 256 % 16),
        digit (value.toNat / 16 % 16), digit (value.toNat % 16)] := by
  have hvalue : value.toNat < 16 ^ 4 := value.toNat_lt
  rw [padded_eq_fixedDigits (by decide) 3 _ hvalue]
  have htop : value.toNat / 4096 % 16 = value.toNat / 4096 := by omega
  simp [fixedDigits, Nat.div_div_eq_div_mul, htop]

theorem digit_injective : ∀ m < 16, ∀ n < 16, digit m = digit n → m = n := by decide

theorem padded_hex4_injective {left right : UInt16}
    (h : padded 4 16 left.toNat = padded 4 16 right.toNat) : left = right := by
  have hleft : left.toNat < 65536 := left.toNat_lt
  have hright : right.toNat < 65536 := right.toNat_lt
  rw [padded_hex4, padded_hex4] at h
  simp only [List.cons.injEq, and_true] at h
  have h0 := digit_injective _ (by omega) _ (by omega) h.1
  have h1 := digit_injective _ (by omega) _ (by omega) h.2.1
  have h2 := digit_injective _ (by omega) _ (by omega) h.2.2.1
  have h3 := digit_injective _ (by omega) _ (by omega) h.2.2.2
  apply UInt16.toNat_inj.mp
  omega

private theorem toUInt8_isDigit {c : Char} (h : c.isDigit = true) :
    isDigit c.toUInt8 = true ∧ c.toUInt8.toNat = c.toNat := by
  have hrange : 48 ≤ c.toNat ∧ c.toNat ≤ 57 := by
    simpa [Char.isDigit, UInt32.le_iff_toNat_le] using h
  have hnat : c.toUInt8.toNat = c.toNat := by
    simp only [Char.toUInt8, UInt32.toNat_toUInt8]
    exact Nat.mod_eq_of_lt (by have := hrange.2; simp only [Char.toNat] at this; omega)
  refine ⟨?_, hnat⟩
  simp only [isDigit, Bool.and_eq_true, decide_eq_true_eq, UInt8.le_iff_toNat_le, hnat]
  exact hrange

theorem isDigit_of_mem_numeral {value : Nat} {c : UInt8}
    (h : c ∈ numeral 10 value) : isDigit c = true := by
  obtain ⟨char, hmem, rfl⟩ := List.mem_map.mp h
  exact (toUInt8_isDigit
    (Nat.isDigit_of_mem_toDigits (by decide) (by decide) hmem)).1

theorem numeral_ne_nil (base value : Nat) : numeral base value ≠ [] := by
  simp [numeral, Nat.toDigits_ne_nil]

theorem length_numeral_pos (base value : Nat) : 0 < (numeral base value).length :=
  List.length_pos_iff.mpr (numeral_ne_nil base value)

@[simp] theorem decimalValue_numeral (value : Nat) :
    decimalValue (numeral 10 value) = value := by
  have hdigits : ∀ (chars : List Char) (start : Nat),
      (∀ c ∈ chars, c.isDigit = true) →
      (chars.map Char.toUInt8).foldl
          (fun value c => 10 * value + (c.toNat - '0'.toNat)) start =
        Nat.ofDigitChars 10 chars start := by
    intro chars
    induction chars with
    | nil => simp
    | cons c rest ih =>
        intro start hall
        have hc := (toUInt8_isDigit (hall c (by simp))).2
        simp only [List.map_cons, List.foldl_cons, Nat.ofDigitChars_cons, hc]
        exact ih _ fun d hd => hall d (by simp [hd])
  rw [decimalValue, numeral, hdigits _ _ fun c hc =>
    Nat.isDigit_of_mem_toDigits (by decide) (by decide) hc]
  exact Nat.ofDigitChars_ten_toDigits

theorem takeWhile_numeral_append (value : Nat) {c : UInt8} (rest : Text)
    (hc : isDigit c = false) :
    (numeral 10 value ++ c :: rest).takeWhile isDigit = numeral 10 value := by
  rw [List.takeWhile_append_of_pos fun d hd => isDigit_of_mem_numeral hd, List.takeWhile_cons,
    if_neg (by simp [hc]), List.append_nil]

/-- Numerals do not run into what follows them, as long as that is no digit. -/
theorem numeral_append_injective {left right : Nat} {c d : UInt8} {leftRest rightRest : Text}
    (hc : isDigit c = false) (hd : isDigit d = false)
    (h : numeral 10 left ++ c :: leftRest = numeral 10 right ++ d :: rightRest) :
    left = right ∧ c :: leftRest = d :: rightRest := by
  have hdigits := congrArg (List.takeWhile isDigit) h
  rw [takeWhile_numeral_append left leftRest hc, takeWhile_numeral_append right rightRest hd]
    at hdigits
  have hvalue := congrArg decimalValue hdigits
  rw [decimalValue_numeral, decimalValue_numeral] at hvalue
  rw [hdigits] at h
  exact ⟨hvalue, List.append_cancel_left h⟩

/-- Cutting digits off a numeral, but not all, makes the number smaller. -/
theorem decimalValue_cut_lt {digits : Text} (value : Nat) (h : digits <+: numeral 10 value)
    (hcut : digits ≠ numeral 10 value) (hsome : digits ≠ []) : decimalValue digits < value := by
  induction value using Nat.strongRecOn with
  | ind value ih =>
      by_cases hsmall : value < 10
      · -- a single digit has no other initial part than itself
        rw [numeral_of_lt hsmall] at h hcut
        rcases List.prefix_cons_iff.mp h with hnil | ⟨rest, hcons, hrest⟩
        · exact absurd hnil hsome
        · rw [List.prefix_nil.mp hrest] at hcons
          exact absurd hcons hcut
      · have hlarge : 10 ≤ value := Nat.le_of_not_lt hsmall
        rw [numeral_of_le (by decide) hlarge] at h hcut
        have hshort := (List.prefix_concat_iff.mp h).resolve_left hcut
        by_cases hwhole : digits = numeral 10 (value / 10)
        · rw [hwhole, decimalValue_numeral]
          omega
        · have hlt := ih (value / 10) (by omega) hshort hwhole
          omega

/-- A stretch of text at no position of which the pattern starts is skipped. -/
theorem find_append (pattern text rest : Text)
    (skip : ∀ before after, text = before ++ after → after ≠ [] →
      pattern.isPrefixOf (after ++ rest) = false) :
    find pattern (text ++ rest) = (find pattern rest).map (· + text.length) := by
  induction text with
  | nil => simp
  | cons c tail ih =>
      have hhere := skip [] (c :: tail) rfl (by simp)
      have htail := ih fun before after h hne =>
        skip (c :: before) after (by rw [h]; rfl) hne
      rw [List.cons_append] at hhere ⊢
      rw [find, if_neg (by simp [hhere]), htail, Option.map_map]
      simp only [Function.comp_def, List.length_cons, Nat.add_assoc]

theorem find_append_of_head (head : UInt8) (pattern text rest : Text)
    (h : head ∉ text) :
    find (head :: pattern) (text ++ rest) =
      (find (head :: pattern) rest).map (· + text.length) := by
  apply find_append
  intro before after htext hne
  obtain ⟨c, tail, rfl⟩ := List.exists_cons_of_ne_nil hne
  have hc : head ≠ c := by
    rintro rfl
    exact h (by simp [htext])
  simp [List.isPrefixOf, hc]

theorem find_append_of_avoids (first second : UInt8) (pattern text rest : Text)
    (h : avoids first second text = true) :
    find (first :: second :: pattern) (text ++ rest) =
      (find (first :: second :: pattern) rest).map (· + text.length) := by
  induction text with
  | nil => simp
  | cons c tail ih =>
      have hskip : (first :: second :: pattern).isPrefixOf (c :: tail ++ rest) = false ∧
          avoids first second tail = true := by
        cases tail with
        | nil =>
            have hc : c ≠ first := by simpa [avoids] using h
            exact ⟨by simp [List.isPrefixOf, hc.symm], rfl⟩
        | cons d tail =>
            simp only [avoids, Bool.and_eq_true, Bool.or_eq_true, bne_iff_ne] at h
            refine ⟨?_, h.2⟩
            rcases h.1 with hc | hd
            · simp [List.isPrefixOf, hc.symm]
            · simp [List.isPrefixOf, hd.symm]
      rw [List.cons_append] at hskip ⊢
      rw [find, if_neg (by simp [hskip.1]), ih hskip.2, Option.map_map]
      simp only [Function.comp_def, List.length_cons, Nat.add_assoc]

theorem find_eq_none_of_short {pattern text : Text} (h : text.length < pattern.length) :
    find pattern text = none := by
  induction text with
  | nil =>
      have hne : pattern ≠ [] := List.ne_nil_of_length_pos h
      rw [find, if_neg (by simpa using hne)]
  | cons c rest ih =>
      have hhere : ¬ pattern.isPrefixOf (c :: rest) = true := by
        intro hstarts
        have hle := (List.isPrefixOf_iff_prefix.mp hstarts).length_le
        omega
      rw [find, if_neg hhere, ih (Nat.lt_of_succ_lt h)]
      rfl

/-- The first occurrence in a text is the first one in an initial part of it, if
the part reaches that far, and else there is none in the part. -/
theorem find_of_find_append {pattern text rest : Text} {k : Nat}
    (h : find pattern (text ++ rest) = some k) :
    find pattern text = if k + pattern.length ≤ text.length then some k else none := by
  induction text generalizing k with
  | nil =>
      cases pattern with
      | nil =>
          have hk : k = 0 := by
            cases rest with
            | nil => simpa [find, eq_comm] using h
            | cons c rest => simpa [find, eq_comm] using h
          simp [find, hk]
      | cons c pattern => simp [find]
  | cons c tail ih =>
      rw [List.cons_append, find] at h
      split_ifs at h with hhere
      · cases h
        have hstarts := List.isPrefixOf_iff_prefix.mp hhere
        rw [← List.cons_append] at hstarts
        split_ifs with hfits
        · have hinside : pattern <+: c :: tail := by
            rw [Nat.zero_add] at hfits
            exact List.prefix_of_prefix_length_le hstarts (List.prefix_append _ _) hfits
          rw [find, if_pos (List.isPrefixOf_iff_prefix.mpr hinside)]
        · apply find_eq_none_of_short
          omega
      · obtain ⟨j, hj, rfl⟩ := Option.map_eq_some_iff.mp h
        have hnot : ¬ pattern.isPrefixOf (c :: tail) = true := by
          intro hinside
          apply hhere
          rw [List.isPrefixOf_iff_prefix] at hinside ⊢
          rw [← List.cons_append]
          exact hinside.trans (List.prefix_append _ _)
        rw [find, if_neg hnot, ih hj, List.length_cons]
        by_cases hfits : j + pattern.length ≤ tail.length
        · rw [if_pos hfits, if_pos (by omega)]
          rfl
        · rw [if_neg hfits, if_neg (by omega)]
          rfl

theorem find_self_append (pattern rest : Text) : find pattern (pattern ++ rest) = some 0 := by
  cases pattern with
  | nil => cases rest <;> simp [find]
  | cons c tail =>
      rw [List.cons_append, find, if_pos]
      rw [← List.cons_append]
      exact List.isPrefixOf_iff_prefix.mpr ⟨rest, rfl⟩

end Text

end Lib
