import SomeipGateway.Zenoh.Cbor

/-! What the readers of the CBOR decoder take, as a grammar of its own: it is
neither all of CBOR nor only what the encoders write. -/
namespace SomeipGateway.Zenoh

open Lib

inductive UintBytes : Nat → Bytes → Prop where
  | immediate {ib : UInt8} (h : ib < 24) : UintBytes ib.toNat [ib]
  | oneByte (b : UInt8) : UintBytes b.toNat [0x18, b]
  | twoBytes (b0 b1 : UInt8) : UintBytes ((b0.toNat <<< 8) ||| b1.toNat) [0x19, b0, b1]
  | fourBytes (b0 b1 b2 b3 : UInt8) :
      UintBytes ((b0.toNat <<< 24) ||| (b1.toNat <<< 16) ||| (b2.toNat <<< 8) ||| b3.toNat)
        [0x1A, b0, b1, b2, b3]

/-- A string in the immediate form, the only one the readers get to: the upper
three bits of the initial byte are the major type, the others the length. -/
inductive StringBytes (major : UInt8) : Bytes → Bytes → Prop where
  | immediate {ib : UInt8} {data : Bytes} (hmajor : ib &&& 0xE0 = major)
      (hlength : (ib &&& 0x1F).toNat = data.length) : StringBytes major data (ib :: data)

inductive PairBytes : CborPair → Bytes → Prop where
  | svc {key value : Bytes} {v : Nat} (hkey : StringBytes 0x60 (Text.ascii "svc") key)
      (hvalue : UintBytes v value) (hv : v ≤ 0xFFFF) :
      PairBytes (.svc (UInt16.ofNat v)) (key ++ value)
  | method {key value : Bytes} {v : Nat} (hkey : StringBytes 0x60 (Text.ascii "method") key)
      (hvalue : UintBytes v value) (hv : v ≤ 0xFFFF) :
      PairBytes (.method (UInt16.ofNat v)) (key ++ value)
  | type {key value : Bytes} {v : Nat} (hkey : StringBytes 0x60 (Text.ascii "type") key)
      (hvalue : UintBytes v value) (hv : v ≤ 0xFF) :
      PairBytes (.type (UInt8.ofNat v)) (key ++ value)
  | payload {key value data : Bytes} (hkey : StringBytes 0x60 (Text.ascii "payload") key)
      (hvalue : StringBytes 0x40 data value) : PairBytes (.payload data) (key ++ value)

inductive PairsBytes : List CborPair → Bytes → Prop where
  | nil : PairsBytes [] []
  | cons {pair : CborPair} {pairs : List CborPair} {bytes more : Bytes}
      (hpair : PairBytes pair bytes) (hpairs : PairsBytes pairs more) :
      PairsBytes (pair :: pairs) (bytes ++ more)

/-- A reader and its grammar: it succeeds exactly where the unread rest starts
with bytes of the grammar, and stops right behind them. -/
structure Reads {α : Type} (read : Bytes → Cursor → Option α × Cursor)
    (grammar : α → Bytes → Prop) : Prop where
  sound : ∀ {wire c value c'}, read wire c = (some value, c') →
    ∃ bytes, grammar value bytes ∧ wire.drop c.pos = bytes ++ wire.drop c'.pos
  complete : ∀ {wire c value bytes rest}, grammar value bytes →
    wire.drop c.pos = bytes ++ rest →
    ∃ c', read wire c = (some value, c') ∧ wire.drop c'.pos = rest

theorem getD_of_drop {wire rest : Bytes} {k : Nat} {b : UInt8}
    (h : wire.drop k = b :: rest) :
    k < wire.length ∧ wire.getD k 0 = b ∧ wire.drop (k + 1) = rest := by
  have hlt : k < wire.length := by
    have hlen := congrArg List.length h
    simp only [List.length_drop, List.length_cons] at hlen
    omega
  rw [List.drop_eq_getElem_cons hlt] at h
  obtain ⟨hb, hrest⟩ := List.cons.inj h
  refine ⟨hlt, ?_, hrest⟩
  rw [List.getD_eq_getElem?_getD, List.getElem?_eq_getElem hlt, hb, Option.getD_some]

theorem drop_eq_getD_cons {wire : Bytes} {k : Nat} (h : k < wire.length) :
    wire.drop k = wire.getD k 0 :: wire.drop (k + 1) := by
  rw [List.drop_eq_getElem_cons h, List.getD_eq_getElem?_getD, List.getElem?_eq_getElem h,
    Option.getD_some]

theorem drop_behind {wire bytes rest : Bytes} {k : Nat} (h : wire.drop k = bytes ++ rest) :
    wire.drop (k + bytes.length) = rest := by
  rw [← List.drop_drop, h, List.drop_left]

theorem readUint_sound {wire : Bytes} {c c' : Cursor} {v : Nat}
    (h : readUint wire c = (some v, c')) :
    ∃ bytes, UintBytes v bytes ∧ wire.drop c.pos = bytes ++ wire.drop c'.pos := by
  unfold readUint Cursor.next Cursor.subscript Cursor.advance at h
  dsimp only at h
  split_ifs at h with hend himm hone htwo hfour
  · cases h
  · rw [Nat.not_le] at hend
    cases h
    exact ⟨_, .immediate himm, drop_eq_getD_cons hend⟩
  · rw [Nat.not_le] at hend
    cases h
    refine ⟨_, .oneByte _, ?_⟩
    rw [drop_eq_getD_cons hend, drop_eq_getD_cons hone.2, hone.1]
    rfl
  · rw [Nat.not_le] at hend
    cases h
    refine ⟨_, .twoBytes _ _, ?_⟩
    rw [drop_eq_getD_cons hend, drop_eq_getD_cons (k := c.pos + 1) (by omega),
      drop_eq_getD_cons (k := c.pos + 1 + 1) (by omega), htwo.1]
    rfl
  · rw [Nat.not_le] at hend
    cases h
    refine ⟨_, .fourBytes _ _ _ _, ?_⟩
    rw [drop_eq_getD_cons hend, drop_eq_getD_cons (k := c.pos + 1) (by omega),
      drop_eq_getD_cons (k := c.pos + 1 + 1) (by omega),
      drop_eq_getD_cons (k := c.pos + 1 + 1 + 1) (by omega),
      drop_eq_getD_cons (k := c.pos + 1 + 1 + 1 + 1) (by omega), hfour.1]
    rfl
  · cases h

theorem readUint_complete {wire bytes rest : Bytes} {c : Cursor} {v : Nat}
    (hv : UintBytes v bytes) (h : wire.drop c.pos = bytes ++ rest) :
    ∃ c', readUint wire c = (some v, c') ∧ wire.drop c'.pos = rest := by
  cases hv with
  | immediate himm =>
      obtain ⟨hlt, hib, hrest⟩ := getD_of_drop h
      refine ⟨⟨c.pos + 1, c.subscripts ++ [c.pos]⟩, ?_, hrest⟩
      simp only [readUint, Cursor.next, hib, if_neg (Nat.not_le.mpr hlt), if_pos himm]
  | oneByte b =>
      obtain ⟨hlt, hib, hrest⟩ := getD_of_drop h
      obtain ⟨hlt1, hb, hrest⟩ := getD_of_drop hrest
      refine ⟨⟨c.pos + 2, c.subscripts ++ [c.pos] ++ [c.pos + 1]⟩, ?_, hrest⟩
      simp only [readUint, Cursor.next, hib, hb, if_neg (Nat.not_le.mpr hlt), hlt1]
      simp
  | twoBytes b0 b1 =>
      obtain ⟨hlt, hib, hrest⟩ := getD_of_drop h
      obtain ⟨hlt1, hb0, hrest⟩ := getD_of_drop hrest
      obtain ⟨hlt2, hb1, hrest⟩ := getD_of_drop hrest
      have hfit : c.pos + 1 + 2 ≤ wire.length := by omega
      refine ⟨⟨c.pos + 3, c.subscripts ++ [c.pos] ++ [c.pos + 1] ++ [c.pos + 2]⟩, ?_, hrest⟩
      simp only [readUint, Cursor.next, Cursor.subscript, Cursor.advance, hib, hb0, hb1,
        if_neg (Nat.not_le.mpr hlt), hfit]
      simp
  | fourBytes b0 b1 b2 b3 =>
      obtain ⟨hlt, hib, hrest⟩ := getD_of_drop h
      obtain ⟨hlt1, hb0, hrest⟩ := getD_of_drop hrest
      obtain ⟨hlt2, hb1, hrest⟩ := getD_of_drop hrest
      obtain ⟨hlt3, hb2, hrest⟩ := getD_of_drop hrest
      obtain ⟨hlt4, hb3, hrest⟩ := getD_of_drop hrest
      have hfit : c.pos + 1 + 4 ≤ wire.length := by omega
      refine ⟨⟨c.pos + 5, c.subscripts ++ [c.pos] ++ [c.pos + 1] ++ [c.pos + 2] ++
        [c.pos + 3] ++ [c.pos + 4]⟩, ?_, hrest⟩
      simp only [readUint, Cursor.next, Cursor.subscript, Cursor.advance, hib, hb0, hb1, hb2,
        hb3, if_neg (Nat.not_le.mpr hlt), hfit]
      simp

theorem readUint_reads : Reads readUint UintBytes := ⟨readUint_sound, readUint_complete⟩

/-- The mask of the immediate form matches the initial bytes of the extended
forms too, so these are never reached. -/
theorem readLength_eq {major long8 long16 : UInt8} (hlong8 : long8 &&& 0xE0 = major)
    (hlong16 : long16 &&& 0xE0 = major) (wire : Bytes) (ib : UInt8) (c : Cursor) :
    readLength major long8 long16 wire ib c =
      (if ib &&& 0xE0 = major then some (ib &&& 0x1F).toNat else none, c) := by
  unfold readLength
  by_cases hmajor : ib &&& 0xE0 = major
  · rw [if_pos hmajor, if_pos hmajor]
  · have h8 : ib ≠ long8 := by
      rintro rfl
      exact hmajor hlong8
    have h16 : ib ≠ long16 := by
      rintro rfl
      exact hmajor hlong16
    rw [if_neg hmajor, if_neg hmajor, if_neg fun h => h8 h.1, if_neg fun h => h16 h.1]

/-- The unread rest starts with a string of the major type, or it does not: then
it is empty, of another type, or too short for the length it announces. -/
theorem string_or_not (major : UInt8) (wire : Bytes) (c : Cursor) :
    (∃ data bytes rest, StringBytes major data bytes ∧ wire.drop c.pos = bytes ++ rest) ∨
      c.pos ≥ wire.length ∨
      (c.pos < wire.length ∧ (wire.getD c.pos 0 &&& 0xE0 ≠ major ∨
        c.pos + 1 + (wire.getD c.pos 0 &&& 0x1F).toNat > wire.length)) := by
  by_cases hend : c.pos ≥ wire.length
  · exact .inr (.inl hend)
  rw [Nat.not_le] at hend
  by_cases hbad : wire.getD c.pos 0 &&& 0xE0 ≠ major ∨
      c.pos + 1 + (wire.getD c.pos 0 &&& 0x1F).toNat > wire.length
  · exact .inr (.inr ⟨hend, hbad⟩)
  · left
    push Not at hbad
    obtain ⟨hmajor, hfit⟩ := hbad
    generalize hib : wire.getD c.pos 0 = ib at hmajor hfit
    refine ⟨(wire.drop (c.pos + 1)).take (ib &&& 0x1F).toNat, _,
      (wire.drop (c.pos + 1)).drop (ib &&& 0x1F).toNat, .immediate hmajor ?_, ?_⟩
    · rw [List.length_take, List.length_drop]
      omega
    · rw [drop_eq_getD_cons hend, hib, List.cons_append, List.take_append_drop]

/-- What the readers test at the start of a string, and the data they cut out. -/
theorem StringBytes.read_at {major : UInt8} {wire data bytes rest : Bytes} {k : Nat}
    (h : StringBytes major data bytes) (hdrop : wire.drop k = bytes ++ rest) :
    k < wire.length ∧ wire.getD k 0 &&& 0xE0 = major ∧
      (wire.getD k 0 &&& 0x1F).toNat = data.length ∧ ¬ k + 1 + data.length > wire.length ∧
      (wire.drop (k + 1)).take data.length = data := by
  cases h with
  | immediate hmajor hlength =>
      obtain ⟨hlt, hib, hrest⟩ := getD_of_drop hdrop
      have hfit := congrArg List.length hrest
      rw [List.length_drop, List.append_eq, List.length_append] at hfit
      rw [hib, hrest]
      exact ⟨hlt, hmajor, hlength, by omega, List.take_left⟩

theorem drop_behind_string {major : UInt8} {wire data bytes rest : Bytes} {k : Nat}
    (h : StringBytes major data bytes) (hdrop : wire.drop k = bytes ++ rest) :
    wire.drop (k + 1 + data.length) = rest := by
  cases h with
  | immediate hmajor hlength =>
      have hbehind := drop_behind hdrop
      rw [List.length_cons, Nat.add_comm data.length, ← Nat.add_assoc] at hbehind
      exact hbehind

/-- What a reader may have done before it fails: nothing, or the initial byte read. -/
def Peeked (wire : Bytes) (c c' : Cursor) : Prop :=
  c' = c ∨ c.pos < wire.length ∧ c' = (c.next wire).2

theorem readTextKey_string {wire data bytes rest : Bytes} {c : Cursor}
    (h : StringBytes 0x60 data bytes) (hdrop : wire.drop c.pos = bytes ++ rest) :
    readTextKey wire c =
      (some data, ⟨c.pos + 1 + data.length, c.subscripts ++ [c.pos] ++ [c.pos + 1]⟩) := by
  obtain ⟨hlt, hmajor, hlength, hroom, hdata⟩ := h.read_at hdrop
  simp only [readTextKey, readLength, Cursor.next, Cursor.subscript, Cursor.advance, hmajor,
    hlength, if_neg (Nat.not_le.mpr hlt), ne_eq, not_true, false_and, ↓reduceIte, if_neg hroom,
    hdata]

theorem readTextKey_none {wire : Bytes} {c : Cursor}
    (h : ∀ data bytes rest, StringBytes 0x60 data bytes → wire.drop c.pos ≠ bytes ++ rest) :
    ∃ c', readTextKey wire c = (none, c') ∧ Peeked wire c c' := by
  rcases string_or_not 0x60 wire c with ⟨data, bytes, rest, hstring, hdrop⟩ | hend | ⟨hlt, hbad⟩
  · exact absurd hdrop (h data bytes rest hstring)
  · exact ⟨c, by simp only [readTextKey, if_pos hend], .inl rfl⟩
  · refine ⟨(c.next wire).2, ?_, .inr ⟨hlt, rfl⟩⟩
    simp only [readTextKey, Cursor.next, if_neg (Nat.not_le.mpr hlt),
      readLength_eq (show (0x78 : UInt8) &&& 0xE0 = 0x60 by decide)
        (show (0x79 : UInt8) &&& 0xE0 = 0x60 by decide)]
    generalize wire.getD c.pos 0 = ib at hbad ⊢
    by_cases hmajor : ib &&& 0xE0 = 0x60
    · have hshort := hbad.resolve_left (not_not.mpr hmajor)
      simp only [hmajor, ne_eq, not_true, false_and, ↓reduceIte, if_pos hshort]
    · have h8 : ib ≠ 0x78 := by
        rintro rfl
        exact hmajor (by decide)
      have h16 : ib ≠ 0x79 := by
        rintro rfl
        exact hmajor (by decide)
      rw [if_pos ⟨hmajor, h8, h16⟩]

theorem readByteString_string {wire data bytes rest : Bytes} {c : Cursor}
    (h : StringBytes 0x40 data bytes) (hdrop : wire.drop c.pos = bytes ++ rest) :
    readByteString wire c =
      (some data, ⟨c.pos + 1 + data.length, c.subscripts ++ [c.pos]⟩) := by
  obtain ⟨hlt, hmajor, hlength, hroom, hdata⟩ := h.read_at hdrop
  simp only [readByteString, readLength, Cursor.next, Cursor.advance, hmajor, hlength,
    if_neg (Nat.not_le.mpr hlt), ↓reduceIte, if_neg hroom, hdata]

theorem readByteString_none {wire : Bytes} {c : Cursor}
    (h : ∀ data bytes rest, StringBytes 0x40 data bytes → wire.drop c.pos ≠ bytes ++ rest) :
    ∃ c', readByteString wire c = (none, c') ∧ Peeked wire c c' := by
  rcases string_or_not 0x40 wire c with ⟨data, bytes, rest, hstring, hdrop⟩ | hend | ⟨hlt, hbad⟩
  · exact absurd hdrop (h data bytes rest hstring)
  · exact ⟨c, by simp only [readByteString, if_pos hend], .inl rfl⟩
  · refine ⟨(c.next wire).2, ?_, .inr ⟨hlt, rfl⟩⟩
    simp only [readByteString, Cursor.next, if_neg (Nat.not_le.mpr hlt),
      readLength_eq (show (0x58 : UInt8) &&& 0xE0 = 0x40 by decide)
        (show (0x59 : UInt8) &&& 0xE0 = 0x40 by decide)]
    generalize wire.getD c.pos 0 = ib at hbad ⊢
    by_cases hmajor : ib &&& 0xE0 = 0x40
    · have hshort := hbad.resolve_left (not_not.mpr hmajor)
      simp only [hmajor, ↓reduceIte, if_pos hshort]
    · simp only [hmajor, ↓reduceIte]

/-- A reader that is right about where a string is reads the grammar of strings. -/
theorem reads_string {major : UInt8} {read : Bytes → Cursor → Option Bytes × Cursor}
    (hstring : ∀ {wire data bytes rest : Bytes} {c : Cursor}, StringBytes major data bytes →
      wire.drop c.pos = bytes ++ rest →
      ∃ subscripts, read wire c = (some data, ⟨c.pos + 1 + data.length, subscripts⟩))
    (hnone : ∀ (wire : Bytes) (c : Cursor),
      (∀ data bytes rest, StringBytes major data bytes → wire.drop c.pos ≠ bytes ++ rest) →
      ∃ c', read wire c = (none, c')) : Reads read (StringBytes major) where
  sound {wire c value c'} h := by
    by_contra hbad
    push Not at hbad
    obtain ⟨c', hread⟩ := hnone wire c <| by
      intro data bytes rest hdata hdrop
      obtain ⟨subscripts, hread⟩ := hstring hdata hdrop
      cases hread.symm.trans h
      refine hbad bytes hdata ?_
      rw [drop_behind_string hdata hdrop]
      exact hdrop
    cases hread.symm.trans h
  complete hdata hdrop := by
    obtain ⟨subscripts, hread⟩ := hstring hdata hdrop
    exact ⟨_, hread, drop_behind_string hdata hdrop⟩

theorem readTextKey_reads : Reads readTextKey (StringBytes 0x60) := by
  apply reads_string
  · exact fun hdata hdrop => ⟨_, readTextKey_string hdata hdrop⟩
  · intro wire c h
    obtain ⟨c', hread, -⟩ := readTextKey_none h
    exact ⟨c', hread⟩

theorem readByteString_reads : Reads readByteString (StringBytes 0x40) := by
  apply reads_string
  · exact fun hdata hdrop => ⟨_, readByteString_string hdata hdrop⟩
  · intro wire c h
    obtain ⟨c', hread, -⟩ := readByteString_none h
    exact ⟨c', hread⟩

theorem readUintUpTo_reads (limit : Nat) :
    Reads (readUintUpTo limit) fun v bytes => UintBytes v bytes ∧ v ≤ limit where
  sound {wire c v c'} h := by
    unfold readUintUpTo at h
    cases hread : readUint wire c with
    | mk value after =>
        rw [hread] at h
        cases value with
        | none => cases h
        | some value =>
            dsimp only at h
            split_ifs at h with hlimit
            · cases h
            · cases h
              obtain ⟨bytes, hbytes, hdrop⟩ := readUint_reads.sound hread
              exact ⟨bytes, ⟨hbytes, Nat.le_of_not_lt hlimit⟩, hdrop⟩
  complete {wire c v bytes rest} hv hdrop := by
    obtain ⟨c', hread, hrest⟩ := readUint_reads.complete hv.1 hdrop
    refine ⟨c', ?_, hrest⟩
    simp only [readUintUpTo, hread, if_neg (Nat.not_lt.mpr hv.2)]

section Pair

variable {α : Type} {read : Bytes → Cursor → Option α × Cursor} {grammar : α → Bytes → Prop}

/-- A branch of the pair reader, which reads the value by `read`. -/
theorem Reads.pair_sound (h : Reads read grammar) {wire : Bytes} {c c₁ c' : Cursor} {name : Text}
    {pair : CborPair} {make : α → CborPair} (hkey : readTextKey wire c = (some name, c₁))
    (hvalue : ((read wire c₁).1.map make, (read wire c₁).2) = (some pair, c')) :
    ∃ value keyBytes valueBytes, make value = pair ∧ StringBytes 0x60 name keyBytes ∧
      grammar value valueBytes ∧ wire.drop c.pos = keyBytes ++ valueBytes ++ wire.drop c'.pos := by
  obtain ⟨hmap, hlast⟩ := Prod.mk.inj hvalue
  obtain ⟨value, hread, hmake⟩ := Option.map_eq_some_iff.mp hmap
  obtain ⟨keyBytes, hkeyBytes, hdrop⟩ := readTextKey_reads.sound hkey
  obtain ⟨valueBytes, hvalueBytes, hdrop'⟩ := h.sound (Prod.ext hread hlast)
  refine ⟨value, keyBytes, valueBytes, hmake, hkeyBytes, hvalueBytes, ?_⟩
  rw [hdrop, hdrop', List.append_assoc]

theorem Reads.pair_complete (h : Reads read grammar) {wire keyBytes valueBytes rest : Bytes}
    {c : Cursor} {name : Text} {value : α} (hkey : StringBytes 0x60 name keyBytes)
    (hvalue : grammar value valueBytes)
    (hdrop : wire.drop c.pos = keyBytes ++ valueBytes ++ rest) :
    ∃ c₁ c₂, readTextKey wire c = (some name, c₁) ∧ read wire c₁ = (some value, c₂) ∧
      wire.drop c₂.pos = rest := by
  rw [List.append_assoc] at hdrop
  obtain ⟨c₁, hreadKey, hdrop⟩ := readTextKey_reads.complete hkey hdrop
  obtain ⟨c₂, hreadValue, hrest⟩ := h.complete hvalue hdrop
  exact ⟨c₁, c₂, hreadKey, hreadValue, hrest⟩

end Pair

theorem readPair_reads : Reads readPair PairBytes where
  sound {wire c pair c'} h := by
    unfold readPair at h
    rcases hkey : readTextKey wire c with ⟨_ | name, c₁⟩
    · rw [hkey] at h
      cases h
    · simp only [hkey] at h
      split_ifs at h with hsvc hmethod htype hpayload
      · obtain ⟨v, _, _, rfl, hname, hvalue, hdrop⟩ := (readUintUpTo_reads _).pair_sound hkey h
        exact ⟨_, .svc (hsvc ▸ hname) hvalue.1 hvalue.2, hdrop⟩
      · obtain ⟨v, _, _, rfl, hname, hvalue, hdrop⟩ := (readUintUpTo_reads _).pair_sound hkey h
        exact ⟨_, .method (hmethod ▸ hname) hvalue.1 hvalue.2, hdrop⟩
      · obtain ⟨v, _, _, rfl, hname, hvalue, hdrop⟩ := (readUintUpTo_reads _).pair_sound hkey h
        exact ⟨_, .type (htype ▸ hname) hvalue.1 hvalue.2, hdrop⟩
      · obtain ⟨data, _, _, rfl, hname, hvalue, hdrop⟩ := readByteString_reads.pair_sound hkey h
        exact ⟨_, .payload (hpayload ▸ hname) hvalue, hdrop⟩
      · cases h
  complete {wire c pair bytes rest} hpair hdrop := by
    have hsvc : Text.ascii "method" ≠ Text.ascii "svc" ∧ Text.ascii "type" ≠ Text.ascii "svc" ∧
      Text.ascii "payload" ≠ Text.ascii "svc" := by decide
    have hmethod : Text.ascii "type" ≠ Text.ascii "method" ∧
      Text.ascii "payload" ≠ Text.ascii "method" := by decide
    have htype : Text.ascii "payload" ≠ Text.ascii "type" := by decide
    cases hpair with
    | svc hkey hvalue hv =>
        obtain ⟨c₁, c₂, hname, hread, hrest⟩ :=
          (readUintUpTo_reads 0xFFFF).pair_complete hkey ⟨hvalue, hv⟩ hdrop
        refine ⟨c₂, ?_, hrest⟩
        simp only [readPair, hname, hread, ↓reduceIte, Option.map_some]
    | method hkey hvalue hv =>
        obtain ⟨c₁, c₂, hname, hread, hrest⟩ :=
          (readUintUpTo_reads 0xFFFF).pair_complete hkey ⟨hvalue, hv⟩ hdrop
        refine ⟨c₂, ?_, hrest⟩
        simp only [readPair, hname, hread, hsvc, ↓reduceIte, Option.map_some]
    | type hkey hvalue hv =>
        obtain ⟨c₁, c₂, hname, hread, hrest⟩ :=
          (readUintUpTo_reads 0xFF).pair_complete hkey ⟨hvalue, hv⟩ hdrop
        refine ⟨c₂, ?_, hrest⟩
        simp only [readPair, hname, hread, hsvc, hmethod, ↓reduceIte, Option.map_some]
    | payload hkey hvalue =>
        obtain ⟨c₁, c₂, hname, hread, hrest⟩ :=
          readByteString_reads.pair_complete hkey hvalue hdrop
        refine ⟨c₂, ?_, hrest⟩
        simp only [readPair, hname, hread, hsvc, hmethod, htype, ↓reduceIte, Option.map_some]

/-- The pair loop reads as many pairs as it counts. -/
theorem readPairs_reads (count : Nat) :
    Reads (fun wire => readPairs wire count)
      fun pairs bytes => pairs.length = count ∧ PairsBytes pairs bytes where
  sound {wire c pairs c'} h := by
    induction count generalizing c pairs with
    | zero =>
        cases h
        exact ⟨[], ⟨rfl, .nil⟩, rfl⟩
    | succ count ih =>
        simp only [readPairs] at h
        rcases hpair : readPair wire c with ⟨_ | pair, c₁⟩
        · rw [hpair] at h
          cases h
        · rw [hpair] at h
          obtain ⟨hmap, hlast⟩ := Prod.mk.inj h
          obtain ⟨later, hlater, rfl⟩ := Option.map_eq_some_iff.mp hmap
          obtain ⟨bytes, hbytes, hdrop⟩ := readPair_reads.sound hpair
          obtain ⟨more, ⟨hlength, hmore⟩, hdrop'⟩ := ih (Prod.ext hlater hlast)
          refine ⟨bytes ++ more, ⟨congrArg (· + 1) hlength, .cons hbytes hmore⟩, ?_⟩
          rw [hdrop, hdrop', List.append_assoc]
  complete {wire c pairs bytes rest} hpairs hdrop := by
    obtain ⟨hlength, hpairs⟩ := hpairs
    induction hpairs generalizing c count with
    | nil =>
        subst hlength
        exact ⟨c, rfl, hdrop⟩
    | cons hpair _ ih =>
        subst hlength
        rw [List.append_assoc] at hdrop
        obtain ⟨c₁, hread, hdrop⟩ := readPair_reads.complete hpair hdrop
        obtain ⟨c₂, hreadMore, hrest⟩ := ih _ hdrop rfl
        refine ⟨c₂, ?_, hrest⟩
        simp only [List.length_cons, readPairs, hread, hreadMore, Option.map_some]

theorem scanCborEnvelope_map (rest : Bytes) :
    scanCborEnvelope (0xA4 :: rest) = readPairs (0xA4 :: rest) 4 ⟨1, [0]⟩ := rfl

theorem scanCborEnvelope_other {ib : UInt8} (h : ib ≠ 0xA4) (rest : Bytes) :
    scanCborEnvelope (ib :: rest) = (none, ⟨0, [0]⟩) := by
  unfold scanCborEnvelope
  rw [if_neg (by simp)]
  exact if_pos h

/-- Four pairs are scanned exactly where they are behind the map byte. -/
theorem scanCborEnvelope_sound {wire : Bytes} {pairs : List CborPair} {c : Cursor}
    (h : scanCborEnvelope wire = (some pairs, c)) :
    ∃ bytes, pairs.length = 4 ∧ PairsBytes pairs bytes ∧
      wire = 0xA4 :: (bytes ++ wire.drop c.pos) := by
  cases wire with
  | nil => cases h
  | cons ib rest =>
      by_cases hmap : ib = 0xA4
      · subst hmap
        rw [scanCborEnvelope_map] at h
        obtain ⟨bytes, ⟨hlength, hpairs⟩, hdrop⟩ := (readPairs_reads 4).sound h
        exact ⟨bytes, hlength, hpairs, congrArg (0xA4 :: ·) hdrop⟩
      · rw [scanCborEnvelope_other hmap] at h
        cases h

theorem scanCborEnvelope_complete {pairs : List CborPair} {bytes : Bytes}
    (hlength : pairs.length = 4) (hpairs : PairsBytes pairs bytes) (rest : Bytes) :
    ∃ c, scanCborEnvelope (0xA4 :: (bytes ++ rest)) = (some pairs, c) ∧
      (0xA4 :: (bytes ++ rest)).drop c.pos = rest := by
  rw [scanCborEnvelope_map]
  exact (readPairs_reads 4).complete (c := ⟨1, [0]⟩) ⟨hlength, hpairs⟩ rfl

end SomeipGateway.Zenoh
