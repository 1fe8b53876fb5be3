import SomeipGateway.Lib.Text

/-! JSON texts as byte strings: the grammar as a relation between a text and the
value it denotes, and a scanner that counts brackets outside strings. The scanner
ends a derived text where it began, which shows that a text with a bracket too
many denotes nothing. -/
namespace Lib.Json

def quote : UInt8 := 0x22
def backslash : UInt8 := 0x5c
def comma : UInt8 := 0x2c
def colon : UInt8 := 0x3a
def openBracket : UInt8 := 0x5b
def closeBracket : UInt8 := 0x5d
def openBrace : UInt8 := 0x7b
def closeBrace : UInt8 := 0x7d

inductive Value where
  | null
  | bool (value : Bool)
  | number (literal : Text)
  | string (value : Text)
  | array (elements : List Value)
  | object (members : List (Text × Value))

/-- The first member of an object under a name. -/
def Value.member (name : Text) : Value → Option Value
  | .object members => members.lookup name
  | _ => none

/-- What is found by following a path of names. -/
def Value.path (names : List Text) (value : Value) : Option Value :=
  names.foldlM (fun value name => value.member name) value

/-! ### Tokens -/

def Space (text : Text) : Prop := ∀ c ∈ text, c ∈ ([0x20, 0x09, 0x0a, 0x0d] : Text)

theorem Space.nil : Space [] := List.forall_mem_nil _

def IsDigits (text : Text) : Prop := text ≠ [] ∧ ∀ c ∈ text, Text.isDigit c = true

/-- Digits without a leading zero. -/
def IsInteger (text : Text) : Prop :=
  IsDigits text ∧ (text.head? = some 0x30 → text = [0x30])

def IsFraction (text : Text) : Prop :=
  text = [] ∨ ∃ digits, IsDigits digits ∧ text = 0x2e :: digits

def IsExponent (text : Text) : Prop :=
  text = [] ∨ ∃ mark ∈ ([0x65, 0x45] : Text), ∃ sign ∈ ([[], [0x2b], [0x2d]] : List Text),
    ∃ digits, IsDigits digits ∧ text = mark :: sign ++ digits

def IsNumber (text : Text) : Prop :=
  ∃ sign ∈ ([[], [0x2d]] : List Text), ∃ integer fraction exponent,
    IsInteger integer ∧ IsFraction fraction ∧ IsExponent exponent ∧
      text = sign ++ integer ++ fraction ++ exponent

def isHexDigit (c : UInt8) : Bool :=
  Text.isDigit c || (0x61 ≤ c && c ≤ 0x66) || (0x41 ≤ c && c ≤ 0x46)

def hexDigitValue (c : UInt8) : Nat :=
  if Text.isDigit c then c.toNat - 0x30 else if 0x61 ≤ c then c.toNat - 0x57 else c.toNat - 0x37

def hexValue (digits : Text) : Nat :=
  digits.foldl (fun value c => 16 * value + hexDigitValue c) 0

/-- Four hexadecimal digits, the number of a UTF-16 code unit. -/
def IsCodeUnit (digits : Text) : Prop := digits.length = 4 ∧ ∀ c ∈ digits, isHexDigit c = true

/-- The escapes of two characters: the letter and what it stands for. -/
def escapes : List (UInt8 × UInt8) :=
  [(quote, quote), (backslash, backslash), (0x2f, 0x2f), (0x62, 0x08), (0x66, 0x0c),
    (0x6e, 0x0a), (0x72, 0x0d), (0x74, 0x09)]

/-- What stands between the quotes of a string. Bytes above the ASCII range are
taken as they are, a character outside the basic plane is a pair of code units. -/
inductive Chars : Text → Text → Prop where
  | nil : Chars [] []
  | plain {c : UInt8} {value text : Text} (hcontrol : 0x20 ≤ c) (hquote : c ≠ quote)
      (hbackslash : c ≠ backslash) (rest : Chars value text) : Chars (c :: value) (c :: text)
  | escape {letter c : UInt8} {value text : Text} (h : (letter, c) ∈ escapes)
      (rest : Chars value text) : Chars (c :: value) (backslash :: letter :: text)
  | unit {digits value text : Text} (scalar : Char) (hdigits : IsCodeUnit digits)
      (hscalar : scalar.toNat = hexValue digits) (rest : Chars value text) :
      Chars (String.utf8EncodeChar scalar ++ value) (backslash :: 0x75 :: (digits ++ text))
  | pair {high low value text : Text} (scalar : Char) (hhigh : IsCodeUnit high)
      (hlow : IsCodeUnit low) (hhighRange : 0xd800 ≤ hexValue high ∧ hexValue high < 0xdc00)
      (hlowRange : 0xdc00 ≤ hexValue low ∧ hexValue low < 0xe000)
      (hscalar : scalar.toNat =
        0x10000 + (hexValue high - 0xd800) * 0x400 + (hexValue low - 0xdc00))
      (rest : Chars value text) :
      Chars (String.utf8EncodeChar scalar ++ value)
        (backslash :: 0x75 :: (high ++ backslash :: 0x75 :: (low ++ text)))

/-! ### The grammar -/

/-- What a stretch of text can be: a value, or what stands inside the brackets of
a non-empty array or object. -/
inductive Part where
  | value (value : Value)
  | elements (elements : List Value)
  | members (members : List (Text × Value))

inductive Derives : Part → Text → Prop where
  | null : Derives (.value .null) (Text.ascii "null")
  | bool (value : Bool) :
      Derives (.value (.bool value)) (if value then Text.ascii "true" else Text.ascii "false")
  | number {literal : Text} (h : IsNumber literal) : Derives (.value (.number literal)) literal
  | string {value text : Text} (h : Chars value text) :
      Derives (.value (.string value)) (quote :: (text ++ [quote]))
  | emptyArray {space : Text} (h : Space space) :
      Derives (.value (.array [])) (openBracket :: (space ++ [closeBracket]))
  | array {elements : List Value} {text : Text} (h : Derives (.elements elements) text) :
      Derives (.value (.array elements)) (openBracket :: (text ++ [closeBracket]))
  | emptyObject {space : Text} (h : Space space) :
      Derives (.value (.object [])) (openBrace :: (space ++ [closeBrace]))
  | object {members : List (Text × Value)} {text : Text} (h : Derives (.members members) text) :
      Derives (.value (.object members)) (openBrace :: (text ++ [closeBrace]))
  | lastElement {value : Value} {before text after : Text} (hbefore : Space before)
      (h : Derives (.value value) text) (hafter : Space after) :
      Derives (.elements [value]) (before ++ text ++ after)
  | element {value : Value} {elements : List Value} {text rest : Text}
      (h : Derives (.elements [value]) text) (hrest : Derives (.elements elements) rest) :
      Derives (.elements (value :: elements)) (text ++ comma :: rest)
  | lastMember {name : Text} {value : Value} {nameText text : Text}
      (hname : Derives (.elements [.string name]) nameText)
      (h : Derives (.elements [value]) text) :
      Derives (.members [(name, value)]) (nameText ++ colon :: text)
  | member {name : Text} {value : Value} {members : List (Text × Value)} {text rest : Text}
      (h : Derives (.members [(name, value)]) text) (hrest : Derives (.members members) rest) :
      Derives (.members ((name, value) :: members)) (text ++ comma :: rest)

/-- The whole text is one value, with nothing but white space around it. -/
def Document (value : Value) (text : Text) : Prop := Derives (.elements [value]) text

theorem Derives.bare {value : Value} {text : Text} (h : Derives (.value value) text) :
    Derives (.elements [value]) text := by
  have hspaced := Derives.lastElement Space.nil h Space.nil
  rwa [List.nil_append, List.append_nil] at hspaced

/-! ### Counting brackets -/

/-- Where a scanner stands: outside strings, inside one, or behind a backslash. -/
inductive Mode where
  | outside
  | inside
  | escaped
deriving DecidableEq

def scanByte : Mode → UInt8 → Mode × Int
  | .outside, c =>
      if c = quote then (.inside, 0)
      else if c = openBracket ∨ c = openBrace then (.outside, 1)
      else if c = closeBracket ∨ c = closeBrace then (.outside, -1)
      else (.outside, 0)
  | .inside, c =>
      if c = quote then (.outside, 0)
      else if c = backslash then (.escaped, 0)
      else (.inside, 0)
  | .escaped, _ => (.inside, 0)

/-- The mode at the end of a text, and how many brackets more it opens than it closes. -/
def scan : Mode → Text → Mode × Int
  | mode, [] => (mode, 0)
  | mode, c :: rest =>
      let now := scanByte mode c
      let later := scan now.1 rest
      (later.1, now.2 + later.2)

theorem scan_append (mode : Mode) (left right : Text) :
    scan mode (left ++ right) =
      ((scan (scan mode left).1 right).1,
        (scan mode left).2 + (scan (scan mode left).1 right).2) := by
  induction left generalizing mode with
  | nil => simp [scan]
  | cons c rest ih => simp only [List.cons_append, scan, ih, Int.add_assoc]

/-- The text opens what it closes, and ends outside strings. -/
def Level (text : Text) : Prop := scan .outside text = (.outside, 0)

theorem Level.append {left right : Text} (hleft : Level left) (hright : Level right) :
    Level (left ++ right) := by
  unfold Level at hleft hright ⊢
  rw [scan_append, hleft, hright]
  rfl

/-- Neither a quote nor a bracket. -/
def isPlain (c : UInt8) : Bool :=
  c ∉ ([quote, openBracket, closeBracket, openBrace, closeBrace] : Text)

theorem level_of_plain {text : Text} (h : text.all isPlain = true) : Level text := by
  induction text with
  | nil => rfl
  | cons c rest ih =>
      rw [List.all_cons, Bool.and_eq_true] at h
      obtain ⟨hc, hplain⟩ := h
      have hrest := ih hplain
      have hstep : scanByte .outside c = (.outside, 0) := by
        simp only [isPlain, List.mem_cons, List.not_mem_nil, or_false, not_or,
          decide_eq_true_eq] at hc
        simp [scanByte, hc]
      unfold Level at hrest ⊢
      rw [scan, hstep, hrest]
      rfl

theorem Level.cons {c : UInt8} {text : Text} (hc : isPlain c = true) (h : Level text) :
    Level (c :: text) := by
  have hone : Level [c] := level_of_plain (by simpa using hc)
  exact hone.append h

/-- A text between brackets. -/
theorem Level.enclose {text : Text} {first last : UInt8} (h : Level text)
    (hfirst : scanByte .outside first = (.outside, 1))
    (hlast : scanByte .outside last = (.outside, -1)) : Level (first :: (text ++ [last])) := by
  unfold Level at h ⊢
  rw [scan, hfirst, scan_append, h]
  simp [scan, hlast]

theorem scan_quoted {text : Text} (h : scan .inside text = (.inside, 0)) :
    Level (quote :: (text ++ [quote])) := by
  unfold Level
  have hfirst : scanByte .outside quote = (.inside, 0) := by decide
  have hlast : scanByte .inside quote = (.outside, 0) := by decide
  rw [scan, hfirst, scan_append, h]
  simp [scan, hlast]

/-! ### Writing tokens -/

/-- What stands for itself in a string. -/
def isVerbatim (c : UInt8) : Bool := 0x20 ≤ c && c != quote && c != backslash

theorem chars_self {text : Text} (h : text.all isVerbatim = true) : Chars text text := by
  induction text with
  | nil => exact .nil
  | cons c rest ih =>
      simp only [List.all_cons, isVerbatim, Bool.and_eq_true, decide_eq_true_eq, bne_iff_ne] at h
      obtain ⟨⟨⟨hcontrol, hquote⟩, hbackslash⟩, hrest⟩ := h
      exact .plain hcontrol hquote hbackslash (ih hrest)

/-- A member whose name needs no escapes. -/
theorem derives_member {name text : Text} {value : Value}
    (hname : name.all isVerbatim = true) (h : Derives (.value value) text) :
    Derives (.members [(name, value)]) (quote :: (name ++ [quote]) ++ colon :: text) :=
  .lastMember (Derives.string (chars_self hname)).bare h.bare

theorem isInteger_numeral (value : Nat) : IsInteger (Text.numeral 10 value) := by
  refine ⟨⟨Text.numeral_ne_nil 10 value, fun c hc => Text.isDigit_of_mem_numeral hc⟩, ?_⟩
  induction value using Nat.strongRecOn with
  | ind value ih =>
      by_cases hsmall : value < 10
      · rw [Text.numeral_of_lt hsmall]
        intro hzero
        exact congrArg (fun c => [c]) (Option.some.inj hzero)
      · have hlarge : 10 ≤ value := Nat.le_of_not_lt hsmall
        have hhead := ih (value / 10) (by omega)
        rw [Text.numeral_of_le (by decide) hlarge]
        intro hzero
        rw [List.head?_append_of_ne_nil _ (Text.numeral_ne_nil 10 _)] at hzero
        -- a quotient written as zero is zero, and the value was no digit
        have hquotient := congrArg Text.decimalValue (hhead hzero)
        rw [Text.decimalValue_numeral] at hquotient
        have hnone : value / 10 = 0 := hquotient
        omega

theorem isNumber_of_isInteger {text : Text} (h : IsInteger text) : IsNumber text :=
  ⟨[], by simp, text, [], [], h, .inl rfl, .inl rfl, by simp⟩

/-! ### Derived texts are level -/

theorem Space.level {text : Text} (h : Space text) : Level text := by
  apply level_of_plain
  rw [List.all_eq_true]
  intro c hc
  have hspace := h c hc
  simp only [List.mem_cons, List.not_mem_nil, or_false] at hspace
  rcases hspace with rfl | rfl | rfl | rfl <;> decide

theorem isPlain_of_isDigit {c : UInt8} (h : Text.isDigit c = true) : isPlain c = true := by
  by_contra hspecial
  simp only [isPlain, decide_eq_true_eq, not_not, List.mem_cons, List.not_mem_nil,
    or_false] at hspecial
  rcases hspecial with rfl | rfl | rfl | rfl | rfl <;> exact absurd h (by decide)

theorem IsDigits.level {text : Text} (h : IsDigits text) : Level text := by
  apply level_of_plain
  rw [List.all_eq_true]
  intro c hc
  exact isPlain_of_isDigit (h.2 c hc)

theorem IsNumber.level {text : Text} (h : IsNumber text) : Level text := by
  obtain ⟨sign, hsign, integer, fraction, exponent, hinteger, hfraction, hexponent, rfl⟩ := h
  have hsign : Level sign := by
    simp only [List.mem_cons, List.not_mem_nil, or_false] at hsign
    rcases hsign with rfl | rfl <;> exact level_of_plain (by decide)
  have hfraction : Level fraction := by
    rcases hfraction with rfl | ⟨digits, hdigits, rfl⟩
    · rfl
    · exact hdigits.level.cons (by decide)
  have hexponent : Level exponent := by
    rcases hexponent with rfl | ⟨mark, hmark, sign, hsign, digits, hdigits, rfl⟩
    · rfl
    · have hplain : isPlain mark = true ∧ Level sign := by
        simp only [List.mem_cons, List.not_mem_nil, or_false] at hmark hsign
        constructor
        · rcases hmark with rfl | rfl <;> decide
        · rcases hsign with rfl | rfl | rfl <;> exact level_of_plain (by decide)
      exact (hplain.2.append hdigits.level).cons hplain.1
  exact ((hsign.append hinteger.1.level).append hfraction).append hexponent

theorem scanByte_inside {c : UInt8} (hquote : c ≠ quote) (hbackslash : c ≠ backslash) :
    scanByte .inside c = (.inside, 0) := by
  simp [scanByte, hquote, hbackslash]

theorem scan_inside_cons {c : UInt8} {text : Text} (hquote : c ≠ quote)
    (hbackslash : c ≠ backslash) : scan .inside (c :: text) = scan .inside text := by
  rw [scan, scanByte_inside hquote hbackslash]
  simp

/-- The byte behind a backslash is skipped, whichever it is. -/
theorem scan_inside_escape (letter : UInt8) (text : Text) :
    scan .inside (backslash :: letter :: text) = scan .inside text := by
  have hbackslash : scanByte .inside backslash = (.escaped, 0) := by decide
  rw [scan, hbackslash, scan, scanByte]
  simp

theorem ne_of_isHexDigit {c : UInt8} (h : isHexDigit c = true) : c ≠ quote ∧ c ≠ backslash := by
  constructor
  · rintro rfl
    exact absurd h (by decide)
  · rintro rfl
    exact absurd h (by decide)

theorem scan_inside_hex {digits : Text} (h : ∀ c ∈ digits, isHexDigit c = true) (text : Text) :
    scan .inside (digits ++ text) = scan .inside text := by
  induction digits with
  | nil => rfl
  | cons c rest ih =>
      obtain ⟨hquote, hbackslash⟩ := ne_of_isHexDigit (h c List.mem_cons_self)
      rw [List.cons_append, scan_inside_cons hquote hbackslash]
      exact ih fun d hd => h d (List.mem_cons_of_mem _ hd)

theorem Chars.scan_inside {value text : Text} (h : Chars value text) :
    scan .inside text = (.inside, 0) := by
  induction h with
  | nil => rfl
  | plain hcontrol hquote hbackslash rest ih =>
      rw [scan_inside_cons hquote hbackslash]
      exact ih
  | escape hletter rest ih =>
      rw [scan_inside_escape]
      exact ih
  | unit scalar hdigits hscalar rest ih =>
      rw [scan_inside_escape, scan_inside_hex hdigits.2]
      exact ih
  | pair scalar hhigh hlow hhighRange hlowRange hscalar rest ih =>
      rw [scan_inside_escape, scan_inside_hex hhigh.2, scan_inside_escape,
        scan_inside_hex hlow.2]
      exact ih

theorem Derives.level {part : Part} {text : Text} (h : Derives part text) : Level text := by
  induction h with
  | null => exact level_of_plain (by decide)
  | bool value =>
      cases value with
      | true => exact level_of_plain (by decide)
      | false => exact level_of_plain (by decide)
  | number hnumber => exact hnumber.level
  | string hchars => exact scan_quoted hchars.scan_inside
  | emptyArray hspace => exact hspace.level.enclose (by decide) (by decide)
  | array helements ih => exact ih.enclose (by decide) (by decide)
  | emptyObject hspace => exact hspace.level.enclose (by decide) (by decide)
  | object hmembers ih => exact ih.enclose (by decide) (by decide)
  | lastElement hbefore hvalue hafter ih => exact (hbefore.level.append ih).append hafter.level
  | element hvalue hrest ih ihrest => exact ih.append (ihrest.cons (by decide))
  | lastMember hname hvalue ihname ih => exact ihname.append (ih.cons (by decide))
  | member hmember hrest ih ihrest => exact ih.append (ihrest.cons (by decide))

theorem Document.level {value : Value} {text : Text} (h : Document value text) : Level text :=
  Derives.level h

end Lib.Json
