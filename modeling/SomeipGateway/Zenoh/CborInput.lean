import Mathlib.Data.List.Nodup
import Mathlib.Data.List.Perm.Subperm
import SomeipGateway.Zenoh.CborReaders

/-! The CBOR decoder on arbitrary input: which input makes it leave the buffer, and
what it accepts that is no complete envelope. -/
namespace SomeipGateway.Zenoh

open Lib

/-! ### Where the cursor and the subscripts are -/

structure Cursor.Within (c : Cursor) (wire : Bytes) : Prop where
  pos : c.pos ≤ wire.length
  subscripts : ∀ k ∈ c.subscripts, k < wire.length

theorem Cursor.Within.subscript {c : Cursor} {wire : Bytes} (h : c.Within wire) {k : Nat}
    (hk : k < wire.length) : (c.subscript wire k).2.Within wire := by
  refine ⟨h.pos, ?_⟩
  intro j hj
  rcases List.mem_append.mp hj with hj | hj
  · exact h.subscripts j hj
  · rw [List.mem_singleton.mp hj]
    exact hk

theorem Cursor.Within.advance {c : Cursor} {wire : Bytes} (h : c.Within wire) {count : Nat}
    (hcount : c.pos + count ≤ wire.length) : (c.advance count).Within wire :=
  ⟨hcount, h.subscripts⟩

theorem Cursor.Within.next {c : Cursor} {wire : Bytes} (h : c.Within wire)
    (hlt : c.pos < wire.length) : (c.next wire).2.Within wire :=
  (h.subscript hlt).advance hlt

theorem Peeked.within {wire : Bytes} {c c' : Cursor} (h : Peeked wire c c')
    (hwithin : c.Within wire) : c'.Within wire := by
  rcases h with rfl | ⟨hlt, rfl⟩
  · exact hwithin
  · exact hwithin.next hlt

theorem readUint_within {wire : Bytes} {c : Cursor} (h : c.Within wire) :
    (readUint wire c).2.Within wire := by
  unfold readUint
  dsimp only
  split_ifs with hend himm hone htwo hfour
  · exact h
  · exact h.next (Nat.lt_of_not_le hend)
  · exact (h.next (Nat.lt_of_not_le hend)).next hone.2
  · have hnext := h.next (Nat.lt_of_not_le hend)
    have hfit : (c.next wire).2.pos + 2 ≤ wire.length := htwo.2
    have hbound (k : Nat) (hk : k < 2) : (c.next wire).2.pos + k < wire.length := by omega
    have hread := (hnext.subscript (hbound 0 (by decide))).subscript (hbound 1 (by decide))
    exact hread.advance hfit
  · have hnext := h.next (Nat.lt_of_not_le hend)
    have hfit : (c.next wire).2.pos + 4 ≤ wire.length := hfour.2
    have hbound (k : Nat) (hk : k < 4) : (c.next wire).2.pos + k < wire.length := by omega
    have hread := (hnext.subscript (hbound 0 (by decide))).subscript (hbound 1 (by decide))
    have hread := (hread.subscript (hbound 2 (by decide))).subscript (hbound 3 (by decide))
    exact hread.advance hfit
  · exact h.next (Nat.lt_of_not_le hend)

/-- The bytes of a string and what lies behind them make up the unread rest. -/
theorem length_eq_of_string {major : UInt8} {wire data bytes rest : Bytes} {c : Cursor}
    (h : StringBytes major data bytes) (hdrop : wire.drop c.pos = bytes ++ rest) :
    wire.length = c.pos + 1 + data.length + rest.length := by
  cases h with
  | immediate hmajor hlength =>
      have hlength := congrArg List.length hdrop
      rw [List.length_drop, List.length_append, List.length_cons] at hlength
      omega

theorem readByteString_within {wire : Bytes} {c : Cursor} (h : c.Within wire) :
    (readByteString wire c).2.Within wire := by
  by_cases hstring :
      ∃ data bytes rest, StringBytes 0x40 data bytes ∧ wire.drop c.pos = bytes ++ rest
  · obtain ⟨data, bytes, rest, hdata, hdrop⟩ := hstring
    have hlength := length_eq_of_string hdata hdrop
    have hnext := h.next (show c.pos < wire.length by omega)
    rw [readByteString_string hdata hdrop]
    exact hnext.advance (show c.pos + 1 + data.length ≤ wire.length by omega)
  · push Not at hstring
    obtain ⟨c', hread, hpeeked⟩ := readByteString_none hstring
    rw [hread]
    exact hpeeked.within h

/-- An initial byte is its major type and its additional information. -/
theorem initial_byte_eq (ib : UInt8) : (ib &&& 0xE0) ||| (ib &&& 0x1F) = ib := by
  apply UInt8.toNat.inj
  rw [UInt8.toNat_or, UInt8.toNat_and, UInt8.toNat_and, ← Nat.and_or_distrib_left]
  show ib.toNat &&& 2 ^ 8 - 1 = ib.toNat
  rw [Nat.and_two_pow_sub_one_eq_mod]
  exact Nat.mod_eq_of_lt ib.toNat_lt

/-- The only text of length zero in the immediate form. -/
theorem empty_text_iff {wire : Bytes} {k : Nat} :
    (∃ bytes, StringBytes 0x60 [] bytes ∧ wire.drop k = bytes ++ []) ↔ wire.drop k = [0x60] := by
  constructor
  · rintro ⟨bytes, hbytes, hdrop⟩
    cases hbytes with
    | @immediate ib data hmajor hlength =>
        have hinfo : ib &&& 0x1F = 0 := UInt8.toNat.inj hlength
        have hib := initial_byte_eq ib
        rw [hmajor, hinfo] at hib
        rw [hdrop, ← hib]
        rfl
  · intro hdrop
    exact ⟨[0x60], .immediate (by decide) (by decide), hdrop⟩

/-- The text reader takes the address of the first byte of the text, also where
there is none: it leaves the buffer exactly at an empty text that ends it. -/
theorem readTextKey_within_iff {wire : Bytes} {c : Cursor} (h : c.Within wire) :
    (readTextKey wire c).2.Within wire ↔ wire.drop c.pos ≠ [0x60] := by
  rw [ne_eq, ← empty_text_iff]
  by_cases hstring :
      ∃ data bytes rest, StringBytes 0x60 data bytes ∧ wire.drop c.pos = bytes ++ rest
  · obtain ⟨data, bytes, rest, hdata, hdrop⟩ := hstring
    have hlength := length_eq_of_string hdata hdrop
    rw [readTextKey_string hdata hdrop]
    constructor
    · rintro hwithin ⟨bytes', hempty, hdrop'⟩
      have hend := length_eq_of_string hempty hdrop'
      have hread := hwithin.subscripts (c.pos + 1) (by simp)
      rw [List.length_nil] at hend
      omega
    · intro hne
      have hinside : c.pos + 1 < wire.length := by
        by_contra hend
        have hdata' : data = [] := List.eq_nil_of_length_eq_zero (by omega)
        have hrest : rest = [] := List.eq_nil_of_length_eq_zero (by omega)
        subst hdata' hrest
        exact hne ⟨bytes, hdata, hdrop⟩
      have hnext := (h.next (show c.pos < wire.length by omega)).subscript hinside
      exact hnext.advance (show c.pos + 1 + data.length ≤ wire.length by omega)
  · push Not at hstring
    obtain ⟨c', hread, hpeeked⟩ := readTextKey_none hstring
    rw [hread]
    refine iff_of_true (hpeeked.within h) ?_
    rintro ⟨bytes, hbytes, hdrop⟩
    exact hstring [] bytes [] hbytes hdrop

theorem readUintUpTo_within (limit : Nat) {wire : Bytes} {c : Cursor} (h : c.Within wire) :
    (readUintUpTo limit wire c).2.Within wire := by
  have hread := readUint_within h
  unfold readUintUpTo
  generalize readUint wire c = result at hread ⊢
  obtain ⟨_ | v, c'⟩ := result
  · exact hread
  · dsimp only
    split_ifs
    · exact hread
    · exact hread

/-- The empty key is none of the four, so the pair is given up with it. -/
theorem readPair_empty_key {wire : Bytes} {c : Cursor} (h : wire.drop c.pos = [0x60]) :
    readPair wire c = (none, (readTextKey wire c).2) := by
  have hempty : StringBytes 0x60 [] [0x60] := .immediate (by decide) (by decide)
  have hread := readTextKey_string hempty (h.trans (List.append_nil _).symm)
  simp only [readPair, hread, show ([] : Text) ≠ Text.ascii "svc" by decide,
    show ([] : Text) ≠ Text.ascii "method" by decide,
    show ([] : Text) ≠ Text.ascii "type" by decide,
    show ([] : Text) ≠ Text.ascii "payload" by decide, ↓reduceIte]

theorem readPair_within_iff {wire : Bytes} {c : Cursor} (h : c.Within wire) :
    (readPair wire c).2.Within wire ↔ wire.drop c.pos ≠ [0x60] := by
  have hkey := readTextKey_within_iff h
  by_cases hempty : wire.drop c.pos = [0x60]
  · rw [readPair_empty_key hempty]
    exact hkey
  · refine iff_of_true ?_ hempty
    have hkey := hkey.mpr hempty
    unfold readPair
    generalize readTextKey wire c = result at hkey ⊢
    obtain ⟨_ | name, c₁⟩ := result
    · exact hkey
    · dsimp only
      split_ifs
      · exact readUintUpTo_within _ hkey
      · exact readUintUpTo_within _ hkey
      · exact readUintUpTo_within _ hkey
      · exact readByteString_within hkey
      · exact hkey

/-- Pairs, fewer than the loop counts, and then an empty text as the last byte. -/
inductive EndsInEmptyKey : Nat → Bytes → Prop where
  | here {count : Nat} : EndsInEmptyKey (count + 1) [0x60]
  | later {count : Nat} {pair : CborPair} {bytes rest : Bytes} (hpair : PairBytes pair bytes)
      (hrest : EndsInEmptyKey count rest) : EndsInEmptyKey (count + 1) (bytes ++ rest)

theorem readPairs_within_iff (count : Nat) {wire : Bytes} {c : Cursor} (h : c.Within wire) :
    (readPairs wire count c).2.Within wire ↔ ¬ EndsInEmptyKey count (wire.drop c.pos) := by
  induction count generalizing c with
  | zero =>
      refine iff_of_true h ?_
      generalize wire.drop c.pos = rest
      intro hends
      cases hends
  | succ count ih =>
      have hfirst := readPair_within_iff h
      rcases hpair : readPair wire c with ⟨_ | pair, c₁⟩
      · -- no pair here: what remains is whether the key was the empty one
        rw [hpair] at hfirst
        simp only [readPairs, hpair]
        rw [hfirst]
        apply not_congr
        constructor
        · intro hempty
          rw [hempty]
          exact .here
        · intro hends
          generalize hdrop : wire.drop c.pos = unread at hends
          cases hends with
          | here => rfl
          | later hbytes _ =>
              obtain ⟨c₂, hread, -⟩ := readPair_reads.complete hbytes hdrop
              cases hpair.symm.trans hread
      · obtain ⟨bytes, hbytes, hdrop⟩ := readPair_reads.sound hpair
        have hne : wire.drop c.pos ≠ [0x60] := by
          intro hempty
          cases hpair.symm.trans (readPair_empty_key hempty)
        rw [hpair] at hfirst
        have hlater := ih (hfirst.mpr hne)
        simp only [readPairs, hpair]
        rw [hlater]
        apply not_congr
        constructor
        · intro hends
          rw [hdrop]
          exact .later hbytes hends
        · intro hends
          generalize hunread : wire.drop c.pos = unread at hends
          cases hends with
          | here => exact absurd hunread hne
          | later hbytes' hrest =>
              obtain ⟨c₂, hread, hbehind⟩ := readPair_reads.complete hbytes' hunread
              cases hpair.symm.trans hread
              rw [hbehind]
              exact hrest

/-- For every input: all subscripts and the cursor stay within it, exactly if it
is not the map byte, fewer than four pairs, and an empty text as its last byte.
The cursor only moves forward, so its last position bounds the others. -/
theorem cbor_decoder_in_bounds_iff (wire : Bytes) :
    ((scanCborEnvelope wire).2.pos ≤ wire.length ∧
        ∀ k ∈ (scanCborEnvelope wire).2.subscripts, k < wire.length) ↔
      ¬ ∃ rest, wire = 0xA4 :: rest ∧ EndsInEmptyKey 4 rest := by
  cases wire with
  | nil => exact iff_of_true ⟨Nat.le_refl 0, List.forall_mem_nil _⟩ (by simp)
  | cons ib rest =>
      have hfirst : ∀ k ∈ [0], k < (ib :: rest).length := by simp
      by_cases hmap : ib = 0xA4
      · subst hmap
        have hstart : Cursor.Within ⟨1, [0]⟩ (0xA4 :: rest) := ⟨by simp, hfirst⟩
        have hpairs := readPairs_within_iff 4 hstart
        rw [← scanCborEnvelope_map] at hpairs
        simp only [List.cons.injEq, true_and, exists_eq_left']
        constructor
        · intro hinside
          exact hpairs.mp ⟨hinside.1, hinside.2⟩
        · intro hends
          have hwithin := hpairs.mpr hends
          exact ⟨hwithin.pos, hwithin.subscripts⟩
      · rw [scanCborEnvelope_other hmap]
        refine iff_of_true ⟨Nat.zero_le _, hfirst⟩ ?_
        rintro ⟨later, hsame, -⟩
        exact hmap (List.cons.inj hsame).1

/-- Two bytes are enough: after the map byte, a key of length zero is the last
byte, and the address of the byte behind it is taken. -/
theorem cbor_empty_key_out_of_bounds :
    ¬ ∀ wire : Bytes, (scanCborEnvelope wire).2.pos ≤ wire.length ∧
      ∀ k ∈ (scanCborEnvelope wire).2.subscripts, k < wire.length := by
  intro h
  exact absurd ((h [0xA4, 0x60]).2 2 (by decide)) (by decide)

/-! ### What is accepted -/

def CborPair.key : CborPair → Text
  | .svc _ => Text.ascii "svc"
  | .method _ => Text.ascii "method"
  | .type _ => Text.ascii "type"
  | .payload _ => Text.ascii "payload"

def envelopeKeys : List Text :=
  [Text.ascii "svc", Text.ascii "method", Text.ascii "type", Text.ascii "payload"]

/-- If the input is accepted, every key is among the decoded pairs exactly once,
and nothing is left unread. -/
def AcceptedComplete (wire : Bytes) : Prop :=
  ∀ outMsg, (decodeCborEnvelope wire outMsg).1 = true →
    ∃ pairs, (scanCborEnvelope wire).1 = some pairs ∧
      (∀ key ∈ envelopeKeys, (pairs.map CborPair.key).count key = 1) ∧
      wire.drop (scanCborEnvelope wire).2.pos = []

theorem decodeCborEnvelope_accepts_iff (wire : Bytes) (outMsg : Message) :
    (decodeCborEnvelope wire outMsg).1 = true ↔
      ∃ pairs, (scanCborEnvelope wire).1 = some pairs := by
  unfold decodeCborEnvelope
  cases (scanCborEnvelope wire).1 with
  | none => simp
  | some pairs => simp

/-- Four keys are the four keys exactly if none of them is repeated. -/
theorem keys_once_iff {pairs : List CborPair} (hlength : pairs.length = 4) :
    (∀ key ∈ envelopeKeys, (pairs.map CborPair.key).count key = 1) ↔
      (pairs.map CborPair.key).Nodup := by
  have hknown : pairs.map CborPair.key ⊆ envelopeKeys := by
    intro key hkey
    obtain ⟨pair, -, rfl⟩ := List.mem_map.mp hkey
    cases pair <;> simp [CborPair.key, envelopeKeys]
  constructor
  · intro honce
    rw [List.nodup_iff_count_eq_one]
    intro key hkey
    exact honce key (hknown hkey)
  · intro hnodup
    have hperm : (pairs.map CborPair.key).Perm envelopeKeys := by
      apply (List.subperm_of_subset hnodup hknown).perm_of_length_le
      rw [List.length_map, hlength]
      exact Nat.le_refl 4
    intro key hkey
    exact List.count_eq_one_of_mem hnodup (hperm.mem_iff.mpr hkey)

/-- For every input: what is accepted is complete, exactly if the input is not
the map byte and four pairs with a key repeated or with bytes behind them. -/
theorem cbor_accepted_complete_iff (wire : Bytes) :
    AcceptedComplete wire ↔
      ¬ ∃ pairs bytes rest, wire = 0xA4 :: (bytes ++ rest) ∧ pairs.length = 4 ∧
        PairsBytes pairs bytes ∧ (¬ (pairs.map CborPair.key).Nodup ∨ rest ≠ []) := by
  constructor
  · rintro hcomplete ⟨pairs, bytes, rest, rfl, hlength, hpairs, hbad⟩
    obtain ⟨c, hscan, hrest⟩ := scanCborEnvelope_complete hlength hpairs rest
    obtain ⟨pairs', hpairs', honce, hread⟩ := hcomplete {} <| by
      rw [decodeCborEnvelope_accepts_iff, hscan]
      exact ⟨pairs, rfl⟩
    rw [hscan] at hpairs' hread
    cases hpairs'
    rcases hbad with hrepeated | hleft
    · exact hrepeated ((keys_once_iff hlength).mp honce)
    · exact hleft (hrest.symm.trans hread)
  · intro hgood outMsg haccepted
    obtain ⟨pairs, hpairs⟩ := (decodeCborEnvelope_accepts_iff wire outMsg).mp haccepted
    obtain ⟨bytes, hlength, hbytes, hwire⟩ := scanCborEnvelope_sound (Prod.ext hpairs rfl)
    refine ⟨pairs, hpairs, ?_, ?_⟩
    · rw [keys_once_iff hlength]
      by_contra hrepeated
      exact hgood ⟨pairs, bytes, _, hwire, hlength, hbytes, .inl hrepeated⟩
    · by_contra hleft
      exact hgood ⟨pairs, bytes, _, hwire, hlength, hbytes, .inr hleft⟩

/-- Four times the service id: accepted, as a message without a payload. -/
theorem cbor_repeated_key_accepted : ¬ ∀ wire : Bytes, AcceptedComplete wire := by
  intro h
  let pair : Bytes := [0x63, 0x73, 0x76, 0x63, 0x01]
  obtain ⟨pairs, hpairs, honce, -⟩ := h (0xA4 :: (pair ++ pair ++ pair ++ pair)) {} (by decide)
  have hfour : pairs = [.svc 1, .svc 1, .svc 1, .svc 1] := by
    cases hpairs.symm.trans (show _ = some [.svc 1, .svc 1, .svc 1, .svc 1] by decide)
    rfl
  subst hfour
  exact absurd (honce (Text.ascii "svc") (by decide)) (by decide)

end SomeipGateway.Zenoh
