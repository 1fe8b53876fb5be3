import Mathlib.Data.List.TakeWhile
import SomeipGateway.Lib.Text

/-! Numbers in front of other text, as `std::stoul` of the C++ library reads them
with a 64-bit `unsigned long`. -/
namespace Lib.Text

/-- What a digit or a letter stands for in the bases up to 36. -/
def alnumValue (c : UInt8) : Nat :=
  if isDigit c then c.toNat - 0x30
  else if 0x61 ≤ c && c ≤ 0x7a then c.toNat - 0x57
  else if 0x41 ≤ c && c ≤ 0x5a then c.toNat - 0x37
  else 36

def isDigitOf (base : Nat) (c : UInt8) : Bool := alnumValue c < base

def number (base : Nat) (digits : Text) : Nat :=
  digits.foldl (fun value c => base * value + alnumValue c) 0

def isBlank (c : UInt8) : Bool := c == 0x20 || (0x09 ≤ c && c ≤ 0x0d)

def isSign (c : UInt8) : Bool := c == '+'.toUInt8 || c == '-'.toUInt8

def behindSign : Text → Text
  | [] => []
  | c :: rest => if isSign c then rest else c :: rest

def isHexMark (zero x : UInt8) : Bool :=
  zero == '0'.toUInt8 && (x == 'x'.toUInt8 || x == 'X'.toUInt8)

/-- `0x` is skipped where a hexadecimal digit follows; else its zero is the number. -/
def behindHexMark : Text → Text
  | zero :: x :: c :: rest =>
      if isHexMark zero x && isDigitOf 16 c then c :: rest else zero :: x :: c :: rest
  | text => text

/-- The digits that are converted. -/
def subject (base : Nat) (text : Text) : Text :=
  let unsigned := behindSign (text.dropWhile isBlank)
  (if base = 16 then behindHexMark unsigned else unsigned).takeWhile (isDigitOf base)

inductive ConversionError where
  | invalidArgument
  | outOfRange
deriving DecidableEq

/-- `std::stoul`: a minus sign negates the unsigned value, and whatever stands
behind the digits is ignored. -/
def stoul (text : Text) (base : Nat) : Except ConversionError UInt64 :=
  let digits := subject base text
  if digits.isEmpty then .error .invalidArgument
  else if 2 ^ 64 ≤ number base digits then .error .outOfRange
  else
    let value := UInt64.ofNat (number base digits)
    .ok (if (text.dropWhile isBlank).head? = some '-'.toUInt8 then -value else value)

/-- It throws without a digit, and for numbers of more than 64 bits only. -/
theorem stoul_throws_iff (text : Text) (base : Nat) :
    (∃ error, stoul text base = .error error) ↔
      subject base text = [] ∨ 2 ^ 64 ≤ number base (subject base text) := by
  simp only [stoul, List.isEmpty_iff]
  by_cases hdigits : subject base text = []
  · rw [if_pos hdigits]
    exact ⟨fun _ => .inl hdigits, fun _ => ⟨_, rfl⟩⟩
  · rw [if_neg hdigits]
    by_cases hlarge : 2 ^ 64 ≤ number base (subject base text)
    · rw [if_pos hlarge]
      exact ⟨fun _ => .inr hlarge, fun _ => ⟨_, rfl⟩⟩
    · rw [if_neg hlarge]
      constructor
      · rintro ⟨error, herror⟩
        contradiction
      · rintro (hnone | hmore)
        · exact absurd hnone hdigits
        · exact absurd hmore hlarge

theorem alnumValue_digit : ∀ {value : Nat}, value < 16 → alnumValue (digit value) = value := by
  decide

theorem isDigitOf_digit {value : Nat} (h : value < 16) : isDigitOf 16 (digit value) = true := by
  rw [isDigitOf, alnumValue_digit h]
  exact decide_eq_true h

theorem le_of_isDigitOf {base : Nat} (hbase : base ≤ 36) {c : UInt8}
    (h : isDigitOf base c = true) : 0x30 ≤ c.toNat := by
  by_contra hlow
  have hzero : '0'.toUInt8.toNat = 0x30 := rfl
  have hvalue : alnumValue c = 36 := by
    simp only [alnumValue, isDigit, UInt8.le_iff_toNat_le, Bool.and_eq_true, decide_eq_true_eq,
      hzero]
    rw [if_neg (by omega), if_neg (by simp; omega), if_neg (by simp; omega)]
  have hlt : alnumValue c < base := of_decide_eq_true h
  omega

/-- Digits are neither blanks nor signs. -/
theorem not_blank_of_isDigitOf {base : Nat} (hbase : base ≤ 36) {c : UInt8}
    (h : isDigitOf base c = true) : isBlank c = false ∧ isSign c = false := by
  have hc := le_of_isDigitOf hbase h
  have hplus : '+'.toUInt8.toNat = 0x2b := rfl
  have hminus : '-'.toUInt8.toNat = 0x2d := rfl
  simp [isBlank, isSign, UInt8.le_iff_toNat_le, ← UInt8.toNat_inj, hplus, hminus]
  omega

theorem behindSign_dropWhile_digit {base : Nat} (hbase : base ≤ 36) {c : UInt8} (rest : Text)
    (h : isDigitOf base c = true) : behindSign ((c :: rest).dropWhile isBlank) = c :: rest := by
  have hc := not_blank_of_isDigitOf hbase h
  simp [behindSign, hc.1, hc.2]

/-- A decimal numeral is read as a whole. -/
theorem subject_decimal {digits : Text} (h : ∀ c ∈ digits, isDigitOf 10 c = true) :
    subject 10 digits = digits := by
  cases digits with
  | nil => rfl
  | cons c rest =>
      have hc := h c List.mem_cons_self
      simp only [subject, behindSign_dropWhile_digit (by decide) rest hc]
      exact List.takeWhile_eq_self_iff.mpr h

/-- So is a hexadecimal one behind its mark. -/
theorem subject_hex {zero x : UInt8} {digits : Text} (hmark : isHexMark zero x = true)
    (hne : digits ≠ []) (h : ∀ c ∈ digits, isDigitOf 16 c = true) :
    subject 16 (zero :: x :: digits) = digits := by
  have hzero : zero = '0'.toUInt8 := by
    simp only [isHexMark, Bool.and_eq_true, beq_iff_eq] at hmark
    exact hmark.1
  have hdigit : isDigitOf 16 zero = true := by
    rw [hzero]
    decide
  obtain ⟨c, rest, rfl⟩ := List.exists_cons_of_ne_nil hne
  have hc := h c List.mem_cons_self
  simp only [subject, behindSign_dropWhile_digit (by decide) _ hdigit, behindHexMark, hmark, hc,
    Bool.and_self, ↓reduceIte]
  exact List.takeWhile_eq_self_iff.mpr h

/-- Unsigned numbers of up to 64 bits are returned as they are. -/
theorem stoul_of_subject {text : Text} {base : Nat} {c : UInt8} (hbase : base ≤ 36)
    (hfirst : text.head? = some c) (hc : isDigitOf base c = true)
    (hne : subject base text ≠ []) (hsmall : number base (subject base text) < 2 ^ 64) :
    stoul text base = .ok (UInt64.ofNat (number base (subject base text))) := by
  have hspec := not_blank_of_isDigitOf hbase hc
  have hminus : (text.dropWhile isBlank).head? ≠ some '-'.toUInt8 := by
    cases text with
    | nil => simp
    | cons d rest =>
        cases Option.some.inj hfirst
        rw [List.dropWhile_cons, if_neg (by simp [hspec.1]), List.head?_cons]
        intro heq
        rw [Option.some.inj heq] at hspec
        exact absurd hspec.2 (by decide)
  simp only [stoul, List.isEmpty_iff]
  rw [if_neg hne, if_neg (Nat.not_le.mpr hsmall), if_neg hminus]

end Lib.Text
