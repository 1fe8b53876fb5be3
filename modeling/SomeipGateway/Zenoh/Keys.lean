import SomeipGateway.Common.Translator
import SomeipGateway.Lib.Loop
import SomeipGateway.Lib.Number
import SomeipGateway.Lib.Path

/-! Zenoh key expressions: the three builders and the parser that inverts them. -/
namespace SomeipGateway.Zenoh

open Lib

/-- The value `parse_hex_u16` assigns to one character, if it is a digit. -/
def hexDigitValue (c : UInt8) : Option UInt32 :=
  if '0'.toUInt8 ≤ c ∧ c ≤ '9'.toUInt8 then some (c - '0'.toUInt8).toUInt32
  else if 'a'.toUInt8 ≤ c ∧ c ≤ 'f'.toUInt8 then some ((c - 'a'.toUInt8).toUInt32 + 10)
  else if 'A'.toUInt8 ≤ c ∧ c ≤ 'F'.toUInt8 then some ((c - 'A'.toUInt8).toUInt32 + 10)
  else none

/-- The digit loop of `parse_hex_u16` with its 32-bit accumulator. -/
def accumulateHex : Text → UInt32 → Option UInt32
  | [], v => some v
  | c :: rest, v =>
      match hexDigitValue c with
      | none => none
      | some d =>
          let v := (v <<< 4) ||| d
          if v > 0xFFFF then none else accumulateHex rest v

def dropHexMarker (token : Text) : Text :=
  if token.length ≥ 2 ∧ token.getD 0 0 = '0'.toUInt8 ∧
      (token.getD 1 0 = 'x'.toUInt8 ∨ token.getD 1 0 = 'X'.toUInt8) then
    token.drop 2
  else token

/-- `parse_hex_u16`; `none` is the answer `false`, which leaves `out` alone. -/
def parseHexU16 (token : Text) : Option UInt16 :=
  if token.isEmpty then none
  else
    let token := dropHexMarker token
    if token.isEmpty then none
    else (accumulateHex token 0).map UInt32.toUInt16

def isSlash (c : UInt8) : Bool := c == '/'.toUInt8

/-- One round of the outer `while` of `split_path`, on the unread rest of the
path: skip slashes, then cut the run of characters up to the next slash. -/
def splitPathBody : Text × List Text → (Text × List Text) ⊕ List Text
  | (rest, parts) =>
      if rest.isEmpty then .inr parts
      else
        let start := rest.dropWhile isSlash
        let segment := start.takeWhile (! isSlash ·)
        .inl (start.dropWhile (! isSlash ·),
          if segment.isEmpty then parts else parts ++ [segment])

/-- `split_path`; every round consumes a character, so the fuel suffices. -/
def splitPath (path : Text) : List Text :=
  (Loop.run splitPathBody (path.length + 1) (path, [])).getD []

def stripPrefixKey (key keyPrefix : Text) : Text :=
  if keyPrefix.isEmpty then key
  else if key.length < keyPrefix.length then []
  else if key.take keyPrefix.length ≠ keyPrefix then []
  else if key.length = keyPrefix.length then []
  else if key.getD keyPrefix.length 0 ≠ '/'.toUInt8 then []
  else key.drop (keyPrefix.length + 1)

structure ParsedZenohSomeipKey where
  serviceId : UInt16 := 0
  instanceId : UInt16 := 0
  methodOrEventId : UInt16 := 0
  isRpcPath : Bool := false
  isLiveliness : Bool := false
  valid : Bool := false
deriving DecidableEq

/-- The chain `parse_hex_u16(..., service_id) && parse_hex_u16(..., instance_id)`
with its out-parameters: a failing second test leaves the first one assigned. -/
def parseServiceInstance (r : ParsedZenohSomeipKey) (service inst : Text) :
    ParsedZenohSomeipKey × Bool :=
  match parseHexU16 service with
  | none => (r, false)
  | some s =>
      match parseHexU16 inst with
      | none => ({ r with serviceId := s }, false)
      | some i => ({ r with serviceId := s, instanceId := i }, true)

def parseServiceInstanceMethod (r : ParsedZenohSomeipKey) (service inst method : Text) :
    ParsedZenohSomeipKey × Bool :=
  match parseServiceInstance r service inst with
  | (r, false) => (r, false)
  | (r, true) =>
      match parseHexU16 method with
      | none => (r, false)
      | some m => ({ r with methodOrEventId := m }, true)

/-- The shapes of `parse_someip_key`, tried in the source's order on the
segments of the key. -/
def parseParts (parts : List Text) : ParsedZenohSomeipKey :=
  let part := fun k => parts.getD k []
  if parts.length ≥ 3 ∧ part 0 = Text.ascii "liveliness" then
    match parseServiceInstance {} (part 1) (part 2) with
    | (r, true) => { r with isLiveliness := true, valid := true }
    | (r, false) => r
  -- .../0xsrv/0xinst/rpc/0xmethod
  else if parts.length ≥ 4 ∧ part 2 = Text.ascii "rpc" then
    match parseServiceInstanceMethod {} (part 0) (part 1) (part 3) with
    | (r, true) => { r with isRpcPath := true, valid := true }
    | (r, false) => r
  -- .../0xsrv/0xinst/0xmethod/event
  else if parts.length ≥ 4 ∧ part 3 = Text.ascii "event" then
    match parseServiceInstanceMethod {} (part 0) (part 1) (part 2) with
    | (r, true) => { r with isRpcPath := false, valid := true }
    | (r, false) => r
  else {}

def parseSomeipKey (key keyPrefix : Text) : ParsedZenohSomeipKey :=
  let rest := stripPrefixKey key keyPrefix
  if rest.isEmpty && !keyPrefix.isEmpty then {}
  else parseParts (splitPath rest)

/-- `build_key_expr`; its last argument is unused in the source. -/
def buildKeyExpr (keyPrefix : Text) (serviceId instanceId methodOrEventId : UInt16) : Text :=
  keyPrefix ++ Text.ascii "/" ++ formatServiceId serviceId ++ Text.ascii "/" ++
    formatServiceId instanceId ++ Text.ascii "/" ++ formatServiceId methodOrEventId ++
    Text.ascii "/event"

def buildInstancePattern (keyPrefix : Text) (serviceId instanceId : UInt16) : Text :=
  keyPrefix ++ Text.ascii "/" ++ formatServiceId serviceId ++ Text.ascii "/" ++
    formatServiceId instanceId ++ Text.ascii "/**"

def buildRpcKey (keyPrefix : Text) (serviceId instanceId methodId : UInt16) : Text :=
  keyPrefix ++ Text.ascii "/" ++ formatServiceId serviceId ++ Text.ascii "/" ++
    formatServiceId instanceId ++ Text.ascii "/rpc/" ++ formatServiceId methodId

def buildLivelinessKey (keyPrefix : Text) (serviceId instanceId : UInt16) : Text :=
  keyPrefix ++ Text.ascii "/liveliness/" ++ formatServiceId serviceId ++ Text.ascii "/" ++
    formatServiceId instanceId

/-! ### Splitting what was joined -/

def IsSegment (segment : Text) : Prop :=
  segment ≠ [] ∧ ∀ c ∈ segment, isSlash c = false

def joinSegments (segments : List Text) : Text :=
  segments.flatMap fun segment => '/'.toUInt8 :: segment

private theorem splitPathBody_lowers (state next : Text × List Text)
    (h : splitPathBody state = .inl next) : next.1.length < state.1.length := by
  obtain ⟨rest, parts⟩ := state
  simp only [splitPathBody] at h
  split at h
  · contradiction
  · rename_i hne
    obtain ⟨c, tail, rfl⟩ := List.exists_cons_of_ne_nil (by simpa using hne : rest ≠ [])
    cases h
    have hdrop := (List.dropWhile_sublist isSlash (l := tail)).length_le
    have hrun := (List.dropWhile_sublist (! isSlash ·)
      (l := (c :: tail).dropWhile isSlash)).length_le
    by_cases hc : isSlash c
    · simp only [List.dropWhile_cons, hc, ↓reduceIte, List.length_cons] at hrun ⊢
      omega
    · have htail := (List.dropWhile_sublist (! isSlash ·) (l := tail)).length_le
      simp only [List.dropWhile_cons, hc, Bool.false_eq_true, ↓reduceIte, Bool.not_false,
        List.length_cons]
      omega

/-- A round appends the first piece of what is left, if there is one. -/
theorem splitPathBody_round {rest : Text} (hne : rest ≠ []) (parts : List Text) :
    ∃ tail cut, splitPathBody (rest, parts) = .inl (tail, parts ++ cut) ∧
      Path.pieces rest = cut ++ Path.pieces tail := by
  refine ⟨_, _, ?_, (Path.pieces_dropWhile rest).symm.trans (Path.pieces_cut _)⟩
  rw [splitPathBody, if_neg (by simpa using hne)]
  apply congrArg Sum.inl
  apply congrArg (Prod.mk _)
  show (if (List.takeWhile (· != Path.slash) (rest.dropWhile (· == Path.slash))).isEmpty then _
    else _) = _
  split
  · rw [List.append_nil]
  · rfl

theorem splitPathBody_returns (rest : Text) (parts : List Text) :
    Loop.Returns splitPathBody (rest, parts) (parts ++ Path.pieces rest) := by
  -- on the length of what is left, which every round lowers
  induction hlength : rest.length using Nat.strong_induction_on generalizing rest parts with
  | _ length ih =>
      by_cases hempty : rest = []
      · rw [hempty]
        exact .done (by simp [splitPathBody, Path.pieces, Path.elements])
      · obtain ⟨tail, cut, hbody, hpieces⟩ := splitPathBody_round hempty parts
        have hshorter := splitPathBody_lowers _ _ hbody
        have hrest := ih tail.length (hlength ▸ hshorter) tail (parts ++ cut) rfl
        rw [List.append_assoc, ← hpieces] at hrest
        exact .next hbody hrest

theorem splitPath_eq_pieces (path : Text) : splitPath path = Path.pieces path := by
  have hrun := Loop.run_eq_of_returns splitPathBody (fun state => state.1.length)
    splitPathBody_lowers (Nat.lt_succ_self path.length) (splitPathBody_returns path [])
  rw [splitPath, hrun]
  rfl

theorem IsSegment.slash_notMem {segment : Text} (h : IsSegment segment) :
    Path.slash ∉ segment := by
  intro hslash
  exact absurd (h.2 _ hslash) (by decide)

theorem joinSegments_stops (segments : List Text) :
    joinSegments segments = [] ∨ (joinSegments segments).head? = some Path.slash := by
  cases segments with
  | nil => exact .inl rfl
  | cons segment rest => exact .inr rfl

theorem splitPath_cons_joinSegments (segment : Text) (segments : List Text)
    (h : ∀ s ∈ segment :: segments, IsSegment s) :
    splitPath (segment ++ joinSegments segments) = segment :: segments := by
  rw [splitPath_eq_pieces]
  induction segments generalizing segment with
  | nil =>
      have hsegment := h segment (by simp)
      rw [Path.pieces_run_append hsegment.1 hsegment.slash_notMem (joinSegments_stops [])]
      rfl
  | cons next rest ih =>
      have hsegment := h segment (by simp)
      rw [Path.pieces_run_append hsegment.1 hsegment.slash_notMem (joinSegments_stops _)]
      have hrest := ih next fun s hs => h s (List.mem_cons_of_mem _ hs)
      rw [show joinSegments (next :: rest) = Path.slash :: (next ++ joinSegments rest) from rfl,
        Path.pieces_slash, hrest]

theorem splitPath_joinSegments (segment : Text) (segments : List Text)
    (h : ∀ s ∈ segment :: segments, IsSegment s) :
    splitPath (joinSegments (segment :: segments)) = segment :: segments := by
  have hsplit := splitPath_cons_joinSegments segment segments h
  rw [splitPath_eq_pieces] at hsplit ⊢
  exact (Path.pieces_slash _).trans hsplit

/-- Under any prefix the segments of a built key come back, in order. -/
theorem splitPath_stripPrefixKey (keyPrefix segment : Text) (segments : List Text)
    (h : ∀ s ∈ segment :: segments, IsSegment s) :
    splitPath (stripPrefixKey (keyPrefix ++ joinSegments (segment :: segments)) keyPrefix) =
      segment :: segments := by
  by_cases hempty : keyPrefix = []
  · subst hempty
    simpa [stripPrefixKey] using splitPath_joinSegments segment segments h
  · have hstrip : stripPrefixKey (keyPrefix ++ joinSegments (segment :: segments)) keyPrefix =
        segment ++ joinSegments segments := by
      simp [stripPrefixKey, joinSegments, hempty]
    rw [hstrip]
    exact splitPath_cons_joinSegments segment segments h

theorem parseSomeipKey_joinSegments (keyPrefix segment : Text) (segments : List Text)
    (h : ∀ s ∈ segment :: segments, IsSegment s) :
    parseSomeipKey (keyPrefix ++ joinSegments (segment :: segments)) keyPrefix =
      parseParts (segment :: segments) := by
  have hsplit := splitPath_stripPrefixKey keyPrefix segment segments h
  have hne : (stripPrefixKey (keyPrefix ++ joinSegments (segment :: segments)) keyPrefix).isEmpty
      = false := by
    cases hrest : stripPrefixKey (keyPrefix ++ joinSegments (segment :: segments)) keyPrefix with
    | nil =>
        rw [hrest] at hsplit
        simp [splitPath, Loop.run, splitPathBody] at hsplit
    | cons c tail => rfl
  simp only [parseSomeipKey, hne, hsplit, Bool.false_and, Bool.false_eq_true, ↓reduceIte]

/-! ### The digit loop -/

/-- The three comparisons of the source single out the hexadecimal digits and
give each its value. -/
theorem hexDigitValue_eq (c : UInt8) :
    hexDigitValue c =
      if Text.isDigitOf 16 c then some (UInt32.ofNat (Text.alnumValue c)) else none := by
  have hbytes : ∀ n < 256, hexDigitValue (UInt8.ofNat n) =
      if Text.isDigitOf 16 (UInt8.ofNat n) then
        some (UInt32.ofNat (Text.alnumValue (UInt8.ofNat n))) else none := by
    decide +kernel
  have hc := hbytes c.toNat c.toNat_lt
  rwa [UInt8.ofNat_toNat] at hc

/-- What the digits spell behind others that stand for `value`. -/
def readOn (value : Nat) (digits : Text) : Nat :=
  digits.foldl (fun value c => 16 * value + Text.alnumValue c) value

theorem readOn_cons (value : Nat) (c : UInt8) (digits : Text) :
    readOn value (c :: digits) = readOn (16 * value + Text.alnumValue c) digits := rfl

/-- More digits never make a number smaller. -/
theorem le_readOn (value : Nat) (digits : Text) : value ≤ readOn value digits := by
  induction digits generalizing value with
  | nil => exact Nat.le_refl value
  | cons c digits ih =>
      have hrest := ih (16 * value + Text.alnumValue c)
      rw [readOn_cons]
      omega

/-- Up to 16 bits the accumulator is shifted without a loss, and the digit fills
the bits that the shift has cleared. -/
theorem toNat_shift_in {v d : UInt32} (hv : v.toNat ≤ 0xFFFF) (hd : d.toNat < 16) :
    ((v <<< 4) ||| d).toNat = 16 * v.toNat + d.toNat := by
  have hshift : (v.toNat <<< 4) % 2 ^ 32 = v.toNat <<< 4 := by
    apply Nat.mod_eq_of_lt
    rw [Nat.shiftLeft_eq]
    omega
  rw [UInt32.toNat_or, UInt32.toNat_shiftLeft, show (4 : UInt32).toNat % 32 = 4 from rfl, hshift,
    ← Nat.shiftLeft_add_eq_or_of_lt (show d.toNat < 2 ^ 4 from hd), Nat.shiftLeft_eq]
  omega

theorem hexDigit_shift_in {v : UInt32} {c : UInt8} (hv : v.toNat ≤ 0xFFFF)
    (hc : Text.isDigitOf 16 c = true) :
    ((v <<< 4) ||| UInt32.ofNat (Text.alnumValue c)).toNat =
      16 * v.toNat + Text.alnumValue c := by
  have hdigit : Text.alnumValue c < 16 := of_decide_eq_true hc
  have hvalue : (UInt32.ofNat (Text.alnumValue c)).toNat = Text.alnumValue c := by
    rw [UInt32.toNat_ofNat']
    omega
  rw [toNat_shift_in hv (by omega), hvalue]

/-- The loop comes to its end exactly on digits whose number has 16 bits. Where it
is left early the number so far is too large, and what follows cannot lower it. -/
theorem accumulateHex_eq_some_iff (digits : Text) {v : UInt32} (hv : v.toNat ≤ 0xFFFF)
    (result : UInt32) :
    accumulateHex digits v = some result ↔
      (∀ c ∈ digits, Text.isDigitOf 16 c = true) ∧ readOn v.toNat digits ≤ 0xFFFF ∧
        result.toNat = readOn v.toNat digits := by
  induction digits generalizing v with
  | nil =>
      simp only [accumulateHex, Option.some.injEq, readOn, List.foldl_nil, List.not_mem_nil,
        false_implies, implies_true, true_and]
      rw [← UInt32.toNat_inj]
      omega
  | cons c digits ih =>
      rw [accumulateHex, hexDigitValue_eq, readOn_cons, List.forall_mem_cons]
      by_cases hc : Text.isDigitOf 16 c = true
      · have hshift := hexDigit_shift_in hv hc
        rw [if_pos hc]
        simp only [gt_iff_lt, UInt32.lt_iff_toNat_lt, hshift,
          show (0xFFFF : UInt32).toNat = 0xFFFF from rfl, hc, true_and]
        by_cases hlarge : 0xFFFF < 16 * v.toNat + Text.alnumValue c
        · have hrest := le_readOn (16 * v.toNat + Text.alnumValue c) digits
          rw [if_pos hlarge]
          constructor
          · intro h
            cases h
          · rintro ⟨-, hsmall, -⟩
            omega
        · rw [if_neg hlarge, ih (by omega), hshift]
      · rw [if_neg hc]
        constructor
        · intro h
          cases h
        · rintro ⟨⟨hdigit, -⟩, -⟩
          exact absurd hdigit hc

/-! ### Reading back a printed id -/

@[simp] theorem parseHexU16_formatServiceId (id : UInt16) :
    parseHexU16 (formatServiceId id) = some id := by
  have hid : id.toNat < 65536 := id.toNat_lt
  have hmarker : dropHexMarker (formatServiceId id) = Text.padded 4 16 id.toNat := by
    rw [dropHexMarker, if_pos ⟨by simp, rfl, .inl rfl⟩]
    rfl
  have hvalue : readOn 0 (Text.padded 4 16 id.toNat) = id.toNat := by
    rw [Text.padded_hex4]
    simp (disch := omega) only [readOn, List.foldl_cons, List.foldl_nil, Text.alnumValue_digit]
    omega
  have hdigits : ∀ c ∈ Text.padded 4 16 id.toNat, Text.isDigitOf 16 c = true := by
    rw [Text.padded_hex4]
    simp (disch := omega) only [List.forall_mem_cons, Text.isDigitOf_digit, List.not_mem_nil,
      false_implies, implies_true, true_and]
  have hloop : accumulateHex (Text.padded 4 16 id.toNat) 0 = some id.toUInt32 := by
    apply (accumulateHex_eq_some_iff _ (Nat.zero_le _) _).mpr
    refine ⟨hdigits, ?_, ?_⟩
    · rw [UInt32.toNat_zero, hvalue]
      omega
    · rw [UInt32.toNat_zero, hvalue, UInt16.toNat_toUInt32]
  have hne : (formatServiceId id).isEmpty = false := by simp [formatServiceId_eq]
  have hrest : (Text.padded 4 16 id.toNat).isEmpty = false := by simp [Text.padded_hex4]
  simp only [parseHexU16, hne, hmarker, hrest, hloop, Bool.false_eq_true, ↓reduceIte,
    Option.map_some, UInt16.toUInt16_toUInt32]

private theorem isSlash_digit : ∀ d < 16, isSlash (Text.digit d) = false := by decide

theorem isSegment_formatServiceId (id : UInt16) : IsSegment (formatServiceId id) := by
  refine ⟨by simp [formatServiceId_eq], ?_⟩
  exact forall_mem_formatServiceId (by decide) isSlash_digit id

theorem isSegment_of_any_eq_false {word : Text} (hne : word ≠ [])
    (hslash : word.any isSlash = false) : IsSegment word :=
  ⟨hne, fun c hc => Bool.eq_false_iff.mpr fun h => List.any_eq_false.mp hslash c hc h⟩

theorem isSegment_liveliness : IsSegment (Text.ascii "liveliness") :=
  isSegment_of_any_eq_false (by decide) rfl

theorem isSegment_rpc : IsSegment (Text.ascii "rpc") :=
  isSegment_of_any_eq_false (by decide) rfl

theorem isSegment_event : IsSegment (Text.ascii "event") :=
  isSegment_of_any_eq_false (by decide) rfl

/-- A printed id is none of the words the parser looks for. -/
theorem formatServiceId_ne (id : UInt16) (word : Text) (h : word.head? ≠ some '0'.toUInt8) :
    formatServiceId id ≠ word := by
  rintro rfl
  exact h (by simp [formatServiceId_eq])

/-! ### Keys as data -/

inductive SomeipKey where
  | event (serviceId instanceId eventId : UInt16)
  | rpc (serviceId instanceId methodId : UInt16)
  | liveliness (serviceId instanceId : UInt16)

namespace SomeipKey

def build (keyPrefix : Text) : SomeipKey → Text
  | event s i m => buildKeyExpr keyPrefix s i m
  | rpc s i m => buildRpcKey keyPrefix s i m
  | liveliness s i => buildLivelinessKey keyPrefix s i

def parsed : SomeipKey → ParsedZenohSomeipKey
  | event s i m => { serviceId := s, instanceId := i, methodOrEventId := m, valid := true }
  | rpc s i m =>
      { serviceId := s, instanceId := i, methodOrEventId := m, isRpcPath := true, valid := true }
  | liveliness s i => { serviceId := s, instanceId := i, isLiveliness := true, valid := true }

def segments : SomeipKey → Text × List Text
  | event s i m => (formatServiceId s, [formatServiceId i, formatServiceId m, Text.ascii "event"])
  | rpc s i m => (formatServiceId s, [formatServiceId i, Text.ascii "rpc", formatServiceId m])
  | liveliness s i => (Text.ascii "liveliness", [formatServiceId s, formatServiceId i])

theorem build_eq (keyPrefix : Text) (key : SomeipKey) :
    key.build keyPrefix = keyPrefix ++ joinSegments (key.segments.1 :: key.segments.2) := by
  cases key with
  | event s i m => simp [build, buildKeyExpr, joinSegments, segments, Text.ascii]
  | rpc s i m => simp [build, buildRpcKey, joinSegments, segments, Text.ascii]
  | liveliness s i => simp [build, buildLivelinessKey, joinSegments, segments, Text.ascii]

theorem isSegment_segments (key : SomeipKey) :
    ∀ segment ∈ key.segments.1 :: key.segments.2, IsSegment segment := by
  cases key with
  | event s i m =>
      simp [segments, isSegment_formatServiceId, isSegment_event]
  | rpc s i m =>
      simp [segments, isSegment_formatServiceId, isSegment_rpc]
  | liveliness s i =>
      simp [segments, isSegment_formatServiceId, isSegment_liveliness]

theorem parseParts_segments (key : SomeipKey) :
    parseParts (key.segments.1 :: key.segments.2) = key.parsed := by
  have hlive (id : UInt16) : formatServiceId id ≠ Text.ascii "liveliness" :=
    formatServiceId_ne id _ (by decide)
  have hrpc (id : UInt16) : formatServiceId id ≠ Text.ascii "rpc" :=
    formatServiceId_ne id _ (by decide)
  cases key with
  | event s i m =>
      simp [segments, parsed, parseParts, parseServiceInstanceMethod, parseServiceInstance,
        hlive, hrpc]
  | rpc s i m =>
      simp [segments, parsed, parseParts, parseServiceInstanceMethod, parseServiceInstance, hlive]
  | liveliness s i =>
      simp [segments, parsed, parseParts, parseServiceInstance]

theorem parseSomeipKey_build (keyPrefix : Text) (key : SomeipKey) :
    parseSomeipKey (key.build keyPrefix) keyPrefix = key.parsed := by
  rw [build_eq, parseSomeipKey_joinSegments _ _ _ key.isSegment_segments, parseParts_segments]

theorem parsed_injective : Function.Injective parsed := by
  intro left right h
  cases left <;> cases right <;> simp_all [parsed]

theorem build_injective (keyPrefix : Text) : Function.Injective (build keyPrefix) := by
  intro left right h
  apply parsed_injective
  rw [← parseSomeipKey_build keyPrefix left, h, parseSomeipKey_build]

end SomeipKey

/-- The parser inverts the three builders under every prefix, so under one
prefix no two keys of different kind or ids coincide. -/
theorem parseSomeipKey_inverts_builders (keyPrefix : Text) :
    (∀ s i m : UInt16, parseSomeipKey (buildKeyExpr keyPrefix s i m) keyPrefix =
      { serviceId := s, instanceId := i, methodOrEventId := m,
        isRpcPath := false, isLiveliness := false, valid := true }) ∧
    (∀ s i m : UInt16, parseSomeipKey (buildRpcKey keyPrefix s i m) keyPrefix =
      { serviceId := s, instanceId := i, methodOrEventId := m,
        isRpcPath := true, isLiveliness := false, valid := true }) ∧
    (∀ s i : UInt16, parseSomeipKey (buildLivelinessKey keyPrefix s i) keyPrefix =
      { serviceId := s, instanceId := i, methodOrEventId := 0,
        isRpcPath := false, isLiveliness := true, valid := true }) ∧
    Function.Injective (SomeipKey.build keyPrefix) :=
  ⟨fun s i m => SomeipKey.parseSomeipKey_build keyPrefix (.event s i m),
    fun s i m => SomeipKey.parseSomeipKey_build keyPrefix (.rpc s i m),
    fun s i => SomeipKey.parseSomeipKey_build keyPrefix (.liveliness s i),
    SomeipKey.build_injective keyPrefix⟩

end SomeipGateway.Zenoh
