import SomeipGateway.Common.GatewayBase
import SomeipGateway.Lib.Number

/-! `config.cpp`: the texts of a configuration and the values they stand for. -/
namespace SomeipGateway

open Lib

inductive LogLevel where
  | debug
  | info
  | warn
  | error
deriving DecidableEq

def toLower (c : UInt8) : UInt8 :=
  if 'A'.toUInt8 ≤ c && c ≤ 'Z'.toUInt8 then c + 0x20 else c

def parseLogLevel (level : Text) : LogLevel :=
  let lower := level.map toLower
  if lower = Text.ascii "debug" then .debug
  else if lower = Text.ascii "info" then .info
  else if lower = Text.ascii "warn" ∨ lower = Text.ascii "warning" then .warn
  else if lower = Text.ascii "error" then .error
  else .info

def LogLevel.toText : LogLevel → Text
  | .debug => Text.ascii "debug"
  | .info => Text.ascii "info"
  | .warn => Text.ascii "warn"
  | .error => Text.ascii "error"

/-- Any protocol's name may stand for the external side. -/
def parseDirection (direction : Text) : GatewayDirection :=
  let lower := direction.map toLower
  if lower = Text.ascii "someip_to_external" ∨ (Text.ascii "someip_to_").isPrefixOf lower then
    .someipToExternal
  else if lower = Text.ascii "external_to_someip" ∨
      (10 < lower.length ∧ (Text.ascii "_to_someip").isSuffixOf lower) then
    .externalToSomeip
  else .bidirectional

def GatewayDirection.toText : GatewayDirection → Text
  | .someipToExternal => Text.ascii "someip_to_external"
  | .externalToSomeip => Text.ascii "external_to_someip"
  | .bidirectional => Text.ascii "bidirectional"

def parseTranslationMode (mode : Text) : TranslationMode :=
  let lower := mode.map toLower
  if lower = Text.ascii "typed" ∨ lower = Text.ascii "schema" then .typedMode else .opaqueMode

def TranslationMode.toText (mode : TranslationMode) : Text :=
  if mode = .typedMode then Text.ascii "typed" else Text.ascii "opaque"

/-- `value.size() > 2`, and `0x` or `0X` in front. -/
def isHexForm : Text → Bool
  | zero :: x :: _ :: _ => Text.isHexMark zero x
  | _ => false

/-- `parse_hex_or_decimal`: the cast keeps the low sixteen bits. -/
def parseHexOrDecimal (value : Text) : Except Text.ConversionError UInt16 :=
  if isHexForm value then (Text.stoul value 16).map UInt64.toUInt16
  else (Text.stoul value 10).map UInt64.toUInt16

/-! ### The names of the enumerations -/

/-- Printed names are read back, however they are capitalised. -/
theorem names_read_back (name : Text) :
    (∀ level : LogLevel, name.map toLower = level.toText → parseLogLevel name = level) ∧
      (∀ direction : GatewayDirection, name.map toLower = direction.toText →
        parseDirection name = direction) ∧
      (∀ mode ∈ [TranslationMode.opaqueMode, .typedMode],
        name.map toLower = mode.toText → parseTranslationMode name = mode) := by
  refine ⟨fun level h => ?_, fun direction h => ?_, fun mode hmode h => ?_⟩
  · simp only [parseLogLevel, h]
    cases level with
    | debug => decide
    | info => decide
    | warn => decide
    | error => decide
  · simp only [parseDirection, h]
    cases direction with
    | someipToExternal => decide
    | externalToSomeip => decide
    | bidirectional => decide
  · simp only [parseTranslationMode, h]
    rcases List.mem_pair.mp hmode with rfl | rfl
    · decide
    · decide

/-! ### Identifiers -/

/-- The numbers a configuration may hold for an id. -/
inductive Denotes : Text → Nat → Prop where
  | hex {zero x : UInt8} {digits : Text} (hmark : Text.isHexMark zero x = true)
      (hne : digits ≠ []) (h : ∀ c ∈ digits, Text.isDigitOf 16 c = true) :
      Denotes (zero :: x :: digits) (Text.number 16 digits)
  | decimal {digits : Text} (hne : digits ≠ [])
      (h : ∀ c ∈ digits, Text.isDigitOf 10 c = true) :
      Denotes digits (Text.number 10 digits)

def DenotesId (value : Text) : Prop := ∃ number ≤ 65535, Denotes value number

/-- The whole text is the number, and every other text is refused. -/
def ReadsExactly (value : Text) : Prop :=
  (∀ number ≤ 65535, Denotes value number →
    parseHexOrDecimal value = .ok (UInt16.ofNat number)) ∧
  (¬ DenotesId value → ∃ error, parseHexOrDecimal value = .error error)

def baseOf (value : Text) : Nat := if isHexForm value then 16 else 10

/-- Behind blanks and a sign no number begins, or one of more than 64 bits does. -/
def BeginsNoNumber (value : Text) : Prop :=
  Text.subject (baseOf value) value = [] ∨
    2 ^ 64 ≤ Text.number (baseOf value) (Text.subject (baseOf value) value)

theorem parseHexOrDecimal_eq (value : Text) :
    parseHexOrDecimal value = (Text.stoul value (baseOf value)).map UInt64.toUInt16 := by
  rw [parseHexOrDecimal, baseOf]
  split
  · rfl
  · rfl

theorem parseHexOrDecimal_throws_iff (value : Text) :
    (∃ error, parseHexOrDecimal value = .error error) ↔ BeginsNoNumber value := by
  rw [BeginsNoNumber, ← Text.stoul_throws_iff, parseHexOrDecimal_eq]
  cases Text.stoul value (baseOf value) with
  | error error => simp [Except.map]
  | ok number => simp [Except.map]

/-- A decimal numeral holds no `x`. -/
theorem isHexForm_decimal {digits : Text} (h : ∀ c ∈ digits, Text.isDigitOf 10 c = true) :
    isHexForm digits = false := by
  by_contra hform
  match digits with
  | [] => exact hform rfl
  | [_] => exact hform rfl
  | [_, _] => exact hform rfl
  | zero :: x :: c :: rest =>
      have hx := h x (by simp)
      simp only [isHexForm, Text.isHexMark, Bool.not_eq_false, Bool.and_eq_true, Bool.or_eq_true,
        beq_iff_eq] at hform
      rcases hform.2 with rfl | rfl
      · exact absurd hx (by decide)
      · exact absurd hx (by decide)

/-- What a numeral denotes is what the conversion gets. -/
theorem subject_of_denotes {value : Text} {number : Nat} (h : Denotes value number) :
    Text.subject (baseOf value) value ≠ [] ∧
      Text.number (baseOf value) (Text.subject (baseOf value) value) = number ∧
      ∃ c, value.head? = some c ∧ Text.isDigitOf (baseOf value) c = true := by
  cases h with
  | @hex zero x digits hmark hne h =>
      have hform : isHexForm (zero :: x :: digits) = true := by
        obtain ⟨c, rest, rfl⟩ := List.exists_cons_of_ne_nil hne
        exact hmark
      have hzero : zero = '0'.toUInt8 := by
        simp only [Text.isHexMark, Bool.and_eq_true, beq_iff_eq] at hmark
        exact hmark.1
      rw [baseOf, if_pos hform, Text.subject_hex hmark hne h]
      refine ⟨hne, rfl, zero, rfl, ?_⟩
      rw [hzero]
      decide
  | decimal hne h =>
      rw [baseOf, if_neg (by simp [isHexForm_decimal h]), Text.subject_decimal h]
      obtain ⟨c, rest, rfl⟩ := List.exists_cons_of_ne_nil hne
      exact ⟨hne, rfl, c, rfl, h c List.mem_cons_self⟩

theorem parseHexOrDecimal_of_denotes {value : Text} {number : Nat} (h : Denotes value number)
    (hid : number ≤ 65535) : parseHexOrDecimal value = .ok (UInt16.ofNat number) := by
  obtain ⟨hne, hnumber, c, hfirst, hc⟩ := subject_of_denotes h
  have hbase : baseOf value ≤ 36 := by
    rw [baseOf]
    split
    · decide
    · decide
  have hsmall : number < 2 ^ 64 := by omega
  rw [parseHexOrDecimal_eq, Text.stoul_of_subject hbase hfirst hc hne (by rwa [hnumber]), hnumber]
  simp only [Except.map, Except.ok.injEq]
  apply UInt16.toNat_inj.mp
  simp only [UInt64.toNat_toUInt16, UInt64.toNat_ofNat', UInt16.toNat_ofNat']
  omega

/-- Ids are read exactly from the numerals of sixteen bits and from the texts in
front of which `stoul` finds no number; every other text gets an id it does not
denote. -/
theorem config_id_exact_iff (value : Text) :
    ReadsExactly value ↔ DenotesId value ∨ BeginsNoNumber value := by
  rw [← parseHexOrDecimal_throws_iff]
  constructor
  · intro hexact
    exact Classical.or_iff_not_imp_left.mpr hexact.2
  · intro h
    exact ⟨fun number hid hdenotes => parseHexOrDecimal_of_denotes hdenotes hid,
      fun hnone => h.resolve_left hnone⟩

/-- A service id of 70000 is taken for 4464. -/
theorem config_id_70000 : ¬ ReadsExactly (Text.ascii "70000") := by
  intro hexact
  have hparse : parseHexOrDecimal (Text.ascii "70000") = .ok 4464 := by rfl
  have hlarge : ¬ DenotesId (Text.ascii "70000") := by
    rintro ⟨number, hid, hdenotes⟩
    have hnumber : 70000 = number := (subject_of_denotes hdenotes).2.1
    omega
  obtain ⟨error, herror⟩ := hexact.2 hlarge
  rw [hparse] at herror
  contradiction

end SomeipGateway
