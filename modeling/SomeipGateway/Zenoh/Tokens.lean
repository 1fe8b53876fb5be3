import SomeipGateway.Zenoh.Keys

/-! The two tokenizers under `parse_someip_key`: the reader of one hexadecimal
id, and the loops that cut a path at its slashes. -/
namespace SomeipGateway.Zenoh

open Lib

/-! ### Reading an id -/

/-- The digit loop of `parse_hex_u16` with a record of every value it assigns to
the accumulator, the one it is left with included. -/
def hexLoop : Text → UInt32 → List UInt32 × Option UInt32
  | [], v => ([], some v)
  | c :: rest, v =>
      match hexDigitValue c with
      | none => ([], none)
      | some d =>
          let v := (v <<< 4) ||| d
          if v > 0xFFFF then ([v], none)
          else (v :: (hexLoop rest v).1, (hexLoop rest v).2)

/-- `parse_hex_u16` with its reference parameter: the answer, and what `out`
holds after the call. -/
def parseHexU16Out (token : Text) (out : UInt16) : Bool × UInt16 :=
  if token.isEmpty then (false, out)
  else
    let token := dropHexMarker token
    if token.isEmpty then (false, out)
    else
      match (hexLoop token 0).2 with
      | none => (false, out)
      | some v => (true, v.toUInt16)

/-- A token without the `0x` or `0X` in front of it. -/
def unmarked : Text → Text
  | zero :: x :: digits => if Text.isHexMark zero x then digits else zero :: x :: digits
  | token => token

/-- Hexadecimal digits, at least one, that spell a number of 16 bits. -/
def SpellsU16 (digits : Text) : Prop :=
  digits ≠ [] ∧ (∀ c ∈ digits, Text.isDigitOf 16 c = true) ∧ Text.number 16 digits ≤ 0xFFFF

theorem dropHexMarker_eq (token : Text) : dropHexMarker token = unmarked token := by
  match token with
  | [] => rfl
  | [_] => rfl
  | zero :: x :: digits =>
      simp [dropHexMarker, unmarked, Text.isHexMark]

theorem hexLoop_result (digits : Text) (v : UInt32) :
    (hexLoop digits v).2 = accumulateHex digits v := by
  induction digits generalizing v with
  | nil => rfl
  | cons c digits ih =>
      rw [hexLoop, accumulateHex]
      cases hexDigitValue c with
      | none => rfl
      | some d =>
          simp only
          split
          · rfl
          · exact ih _

theorem parseHexU16Out_eq (token : Text) (out : UInt16) :
    parseHexU16Out token out =
      match parseHexU16 token with
      | none => (false, out)
      | some value => (true, value) := by
  simp only [parseHexU16Out, parseHexU16]
  by_cases htoken : token.isEmpty = true
  · rw [if_pos htoken, if_pos htoken]
  · rw [if_neg htoken, if_neg htoken]
    by_cases hdigits : (dropHexMarker token).isEmpty = true
    · rw [if_pos hdigits, if_pos hdigits]
    · rw [if_neg hdigits, if_neg hdigits, hexLoop_result]
      cases accumulateHex (dropHexMarker token) 0 <;> rfl

/-- Whatever the loop assigns is the number that the digits up to there spell. -/
theorem hexLoop_assigned (digits : Text) {v : UInt32} (hv : v.toNat ≤ 0xFFFF) (k : Nat)
    {assigned : UInt32} (h : (hexLoop digits v).1[k]? = some assigned) :
    assigned.toNat = readOn v.toNat (digits.take (k + 1)) := by
  induction digits generalizing v k with
  | nil => cases h
  | cons c digits ih =>
      rw [hexLoop, hexDigitValue_eq] at h
      by_cases hc : Text.isDigitOf 16 c = true
      · have hshift := hexDigit_shift_in hv hc
        rw [if_pos hc] at h
        rw [List.take_succ_cons, readOn_cons, ← hshift]
        simp only at h
        split at h
        · cases k with
          | zero =>
              cases h
              rfl
          | succ k => cases h
        · rename_i hsmall
          cases k with
          | zero =>
              cases h
              rfl
          | succ k => exact ih (by simpa [UInt32.lt_iff_toNat_lt] using hsmall) k h
      · rw [if_neg hc] at h
        cases h

theorem parseHexU16_eq_some_iff (token : Text) (value : UInt16) :
    parseHexU16 token = some value ↔
      SpellsU16 (unmarked token) ∧ value.toNat = Text.number 16 (unmarked token) := by
  by_cases hdigits : unmarked token = []
  · have hnone : parseHexU16 token = none := by
      simp [parseHexU16, dropHexMarker_eq, hdigits]
    rw [hnone]
    constructor
    · intro h
      cases h
    · rintro ⟨⟨hne, -⟩, -⟩
      exact absurd hdigits hne
  · have htoken : token ≠ [] := by
      rintro rfl
      exact hdigits rfl
    have hread : parseHexU16 token = (accumulateHex (unmarked token) 0).map UInt32.toUInt16 := by
      simp [parseHexU16, dropHexMarker_eq, hdigits, htoken]
    have hloop := accumulateHex_eq_some_iff (unmarked token) (v := 0) (Nat.zero_le _)
    rw [hread, Option.map_eq_some_iff]
    constructor
    · rintro ⟨v, hv, rfl⟩
      obtain ⟨hall, hsmall, hvalue⟩ := (hloop v).mp hv
      refine ⟨⟨hdigits, hall, hsmall⟩, ?_⟩
      rw [UInt32.toNat_toUInt16, hvalue]
      exact Nat.mod_eq_of_lt (Nat.lt_succ_of_le hsmall)
    · rintro ⟨⟨-, hall, hsmall⟩, hvalue⟩
      refine ⟨value.toUInt32, (hloop _).mpr ⟨hall, hsmall, ?_⟩, ?_⟩
      · rw [UInt16.toNat_toUInt32, hvalue]
        rfl
      · simp

/-- The reader of an id against the number its token spells: it accepts the
hexadecimal numbers of 16 bits, it assigns `out` only where it accepts, and
none of the shifts on the way loses a bit. -/
theorem parseHexU16Out_exact (token : Text) (out : UInt16) :
    ((parseHexU16Out token out).1 = true ↔ SpellsU16 (unmarked token)) ∧
    ((parseHexU16Out token out).1 = true →
      (parseHexU16Out token out).2.toNat = Text.number 16 (unmarked token)) ∧
    ((parseHexU16Out token out).1 = false → (parseHexU16Out token out).2 = out) ∧
    ∀ k v, (hexLoop (unmarked token) 0).1[k]? = some v →
      v.toNat = Text.number 16 ((unmarked token).take (k + 1)) := by
  have hassigned (k : Nat) (v : UInt32) (hv : (hexLoop (unmarked token) 0).1[k]? = some v) :
      v.toNat = Text.number 16 ((unmarked token).take (k + 1)) :=
    hexLoop_assigned (unmarked token) (Nat.zero_le _) k hv
  have hspec := parseHexU16_eq_some_iff token
  rw [parseHexU16Out_eq]
  cases hparse : parseHexU16 token with
  | none =>
      have hspells : ¬ SpellsU16 (unmarked token) := by
        intro h
        have hvalue : (UInt16.ofNat (Text.number 16 (unmarked token))).toNat =
            Text.number 16 (unmarked token) := by
          rw [UInt16.toNat_ofNat']
          exact Nat.mod_eq_of_lt (Nat.lt_succ_of_le h.2.2)
        rw [(hspec _).mpr ⟨h, hvalue⟩] at hparse
        cases hparse
      simp only [hspells, Bool.false_eq_true, false_implies, true_implies, true_and]
      exact hassigned
  | some value =>
      obtain ⟨hspells, hvalue⟩ := (hspec value).mp hparse
      simp only [hspells, hvalue, true_implies, Bool.true_eq_false, false_implies, true_and]
      exact hassigned

example : parseHexU16Out (Text.ascii "0X000a1F") 7 = (true, 0xa1f) ∧
    parseHexU16Out (Text.ascii "0x10000") 7 = (false, 7) := by decide

/-! ### Cutting a path -/

/-- The three loop tests of `split_path`, with the cursors that are alive there. -/
inductive SplitPoint where
  | outer (i : Nat)
  | slashes (i : Nat)
  | segment (i j : Nat)

/-- `split_path` from one loop test to the next. -/
def splitPathStep (path : Text) :
    SplitPoint × List Text → (SplitPoint × List Text) ⊕ List Text
  | (.outer i, parts) =>
      if i < path.length then .inl (.slashes i, parts) else .inr parts
  | (.slashes i, parts) =>
      if i < path.length ∧ isSlash (path.getD i 0) then .inl (.slashes (i + 1), parts)
      else .inl (.segment i i, parts)
  | (.segment i j, parts) =>
      if j < path.length ∧ !isSlash (path.getD j 0) then .inl (.segment i (j + 1), parts)
      else .inl (.outer j, if j > i then parts ++ [(path.drop i).take (j - i)] else parts)

section

variable (path : Text)

/-- Where a cursor ends that starts at `k` and runs over one kind of character. -/
def runEnd (kind : UInt8 → Bool) (k : Nat) : Nat := k + ((path.drop k).takeWhile kind).length

/-- At the end of a run the test of its loop fails: there is no character, or one
of the other kind. -/
theorem runEnd_stops (kind : UInt8 → Bool) (k : Nat) :
    ¬ (runEnd path kind k < path.length ∧ kind (path.getD (runEnd path kind k) 0) = true) := by
  rintro ⟨hbound, hkind⟩
  have helement := List.getElem?_eq_getElem hbound
  have hstops := Loop.scan_stops kind path k helement
  rw [List.getD_eq_getElem?_getD, helement, Option.getD_some, hstops] at hkind
  cases hkind

theorem splitPathStep_slashes (i : Nat) (parts : List Text) {value : List Text}
    (h : Loop.Returns (splitPathStep path)
      (.segment (runEnd path isSlash i) (runEnd path isSlash i), parts) value) :
    Loop.Returns (splitPathStep path) (.slashes i, parts) value := by
  have hmoves (k : Nat) (c : UInt8) (hc : path[k]? = some c) (hslash : isSlash c = true) :
      splitPathStep path (.slashes k, parts) = .inl (.slashes (k + 1), parts) := by
    obtain ⟨hk, rfl⟩ := List.getElem?_eq_some_iff.mp hc
    simp [splitPathStep, hk, hslash]
  have hleaves : splitPathStep path (.slashes (runEnd path isSlash i), parts) =
      .inl (.segment (runEnd path isSlash i) (runEnd path isSlash i), parts) := by
    rw [splitPathStep, if_neg (runEnd_stops path isSlash i)]
  exact Loop.Returns.scan hmoves i (.next hleaves h)

theorem splitPathStep_segment (i : Nat) (parts : List Text) {value : List Text}
    (h : Loop.Returns (splitPathStep path) (.outer (runEnd path (! isSlash ·) i),
      if ((path.drop i).takeWhile (! isSlash ·)).isEmpty then parts
      else parts ++ [(path.drop i).takeWhile (! isSlash ·)]) value) :
    Loop.Returns (splitPathStep path) (.segment i i, parts) value := by
  have hmoves (k : Nat) (c : UInt8) (hc : path[k]? = some c) (hrun : (! isSlash c) = true) :
      splitPathStep path (.segment i k, parts) = .inl (.segment i (k + 1), parts) := by
    obtain ⟨hk, rfl⟩ := List.getElem?_eq_some_iff.mp hc
    simp [splitPathStep, hk, hrun]
  have hleaves : splitPathStep path (.segment i (runEnd path (! isSlash ·) i), parts) =
      .inl (.outer (runEnd path (! isSlash ·) i),
        if ((path.drop i).takeWhile (! isSlash ·)).isEmpty then parts
        else parts ++ [(path.drop i).takeWhile (! isSlash ·)]) := by
    have hsegment : (path.drop i).take (runEnd path (! isSlash ·) i - i) =
        (path.drop i).takeWhile (! isSlash ·) := by
      rw [runEnd, Nat.add_sub_cancel_left]
      exact (List.prefix_iff_eq_take.mp (List.takeWhile_prefix _)).symm
    rw [splitPathStep, if_neg (runEnd_stops path (! isSlash ·) i), hsegment]
    by_cases hempty : (path.drop i).takeWhile (! isSlash ·) = []
    · rw [if_neg (by simp [runEnd, hempty]), if_pos (by simp [hempty])]
    · have hpos := List.length_pos_iff.mpr hempty
      rw [if_pos (by rw [runEnd]; omega), if_neg (by simpa using hempty)]
  exact Loop.Returns.scan hmoves i (.next hleaves h)

/-- The cursor and the unread rest of the path that the outer loop is modelled on. -/
def AtRest (state : Text × List Text) (point : SplitPoint × List Text) : Prop :=
  ∃ i, path.drop i = state.1 ∧ point = (.outer i, state.2)

theorem splitPathStep_round (state next : Text × List Text) (point : SplitPoint × List Text)
    (h : AtRest path state point) (hbody : splitPathBody state = .inl next) :
    ∃ later, AtRest path next later ∧ ∀ value,
      Loop.Returns (splitPathStep path) later value →
        Loop.Returns (splitPathStep path) point value := by
  obtain ⟨rest, parts⟩ := state
  obtain ⟨i, rfl, rfl⟩ := h
  simp only [splitPathBody] at hbody
  split at hbody
  · cases hbody
  · rename_i hrest
    cases hbody
    have hi : i < path.length := by
      by_contra hend
      exact hrest (by simp [List.drop_of_length_le (Nat.not_lt.mp hend)])
    have hstart : path.drop (runEnd path isSlash i) = (path.drop i).dropWhile isSlash :=
      Loop.drop_scan isSlash path i
    refine ⟨_, ⟨runEnd path (! isSlash ·) (runEnd path isSlash i), ?_, rfl⟩, ?_⟩
    · rw [← hstart]
      exact Loop.drop_scan (! isSlash ·) path _
    · intro value h
      rw [← hstart] at h
      have hbegins : splitPathStep path (.outer i, parts) = .inl (.slashes i, parts) := by
        simp [splitPathStep, hi]
      have hsegment := splitPathStep_segment path _ parts h
      exact .next hbegins (splitPathStep_slashes path i parts hsegment)

/-- The three loops end, with the pieces of the path. -/
theorem splitPathStep_returns :
    Loop.Returns (splitPathStep path) (.outer 0, []) (splitPath path) := by
  rw [splitPath_eq_pieces]
  have hcoarse := splitPathBody_returns path []
  apply Loop.Returns.refine (AtRest path) (splitPathStep_round path) _ ⟨0, rfl, rfl⟩ hcoarse
  intro state value point h hbody
  obtain ⟨rest, parts⟩ := state
  obtain ⟨i, rfl, rfl⟩ := h
  simp only [splitPathBody] at hbody
  split at hbody
  · rename_i hrest
    cases hbody
    have hi : ¬ i < path.length := by simpa using hrest
    exact .done (by simp [splitPathStep, hi])
  · cases hbody

/-- `split_path` ends on every path, with its maximal runs of characters other
than the slash in order, which are its elements that are not empty. -/
theorem splitPath_maximal_runs :
    Loop.Returns (splitPathStep path) (.outer 0, []) (splitPath path) ∧
      splitPath path = (Path.elements path).filter (fun element => !element.isEmpty) ∧
      ∀ runs, Path.Runs path runs ↔ runs = splitPath path := by
  rw [splitPath_eq_pieces]
  refine ⟨?_, rfl, Path.runs_iff_eq_pieces path⟩
  rw [← splitPath_eq_pieces]
  exact splitPathStep_returns path

end

example : splitPath (Text.ascii "//rpc/0x1///a/") =
    [Text.ascii "rpc", Text.ascii "0x1", Text.ascii "a"] := by decide

end SomeipGateway.Zenoh
