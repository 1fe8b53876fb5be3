import SomeipGateway.Lib.Codec
import SomeipGateway.Someip.Message

/-! The serializer of the SOME/IP stack, as far as the gateways call it. A
serializer appends to its buffer and may look at what is already there; a
deserializer reads a buffer at a position. -/
namespace SomeipGateway

open Lib

/-- `Serializer` and `Deserializer`: the buffer after writing a value behind a
given buffer, and the value read at a position with the position behind it. -/
structure WireFormat where
  serializeUint8 : Codec.Writer UInt8 UInt8
  serializeUint16 : Codec.Writer UInt8 UInt16
  serializeUint32 : Codec.Writer UInt8 UInt32
  serializeString : Codec.Writer UInt8 Text
  serializeArray : Codec.Writer UInt8 Bytes
  deserializeUint8 : Codec.Reader UInt8 UInt8
  deserializeUint16 : Codec.Reader UInt8 UInt16
  deserializeUint32 : Codec.Reader UInt8 UInt32
  deserializeString : Codec.Reader UInt8 Text

structure WireFormat.Lawful (wire : WireFormat) : Prop where
  uint8 : Codec.Inverts wire.deserializeUint8 wire.serializeUint8
  uint16 : Codec.Inverts wire.deserializeUint16 wire.serializeUint16
  uint32 : Codec.Inverts wire.deserializeUint32 wire.serializeUint32
  string : Codec.Inverts wire.deserializeString wire.serializeString

/-- A read that does not find all the bytes that were written reports an error. -/
structure WireFormat.Whole (wire : WireFormat) : Prop where
  uint8 : Codec.Whole wire.deserializeUint8 wire.serializeUint8
  uint16 : Codec.Whole wire.deserializeUint16 wire.serializeUint16
  uint32 : Codec.Whole wire.deserializeUint32 wire.serializeUint32
  string : Codec.Whole wire.deserializeString wire.serializeString

/-- A read accepts only the bytes that writing its value would have put there. -/
structure WireFormat.Canonical (wire : WireFormat) : Prop where
  uint8 : Codec.Canonical wire.deserializeUint8 wire.serializeUint8
  uint16 : Codec.Canonical wire.deserializeUint16 wire.serializeUint16
  uint32 : Codec.Canonical wire.deserializeUint32 wire.serializeUint32
  string : Codec.Canonical wire.deserializeString wire.serializeString

instance uint8Nontrivial : Nontrivial UInt8 := ⟨0, 1, by decide⟩

/-! ### A concrete format

Big-endian numbers, strings behind a 32-bit length. It shows that all the laws can
be met by a format that agrees with SOME/IP on every string of practical size;
lengths from 2 ^ 32 - 1 on, and no others, are spelled out in unary behind an escape. -/

namespace BigEndian

def uint16Bytes (value : UInt16) : Bytes :=
  [UInt8.ofNat (value.toNat / 256), UInt8.ofNat value.toNat]

def uint32Bytes (value : UInt32) : Bytes :=
  [UInt8.ofNat (value.toNat / 16777216), UInt8.ofNat (value.toNat / 65536),
    UInt8.ofNat (value.toNat / 256), UInt8.ofNat value.toNat]

def lengthBytes (length : Nat) : Bytes :=
  if length < 0xFFFFFFFF then uint32Bytes (UInt32.ofNat length)
  else uint32Bytes 0xFFFFFFFF ++ List.replicate length 1 ++ [0]

def readUint8 (buffer : Bytes) (pos : Nat) : Option (UInt8 × Nat) :=
  match buffer.drop pos with
  | b0 :: _ => some (b0, pos + 1)
  | _ => none

def readUint16 (buffer : Bytes) (pos : Nat) : Option (UInt16 × Nat) :=
  match buffer.drop pos with
  | b0 :: b1 :: _ => some (UInt16.ofNat (256 * b0.toNat + b1.toNat), pos + 2)
  | _ => none

def readUint32 (buffer : Bytes) (pos : Nat) : Option (UInt32 × Nat) :=
  match buffer.drop pos with
  | b0 :: b1 :: b2 :: b3 :: _ =>
      some (UInt32.ofNat (16777216 * b0.toNat + 65536 * b1.toNat + 256 * b2.toNat + b3.toNat),
        pos + 4)
  | _ => none

/-- As many as there are ones up to a zero, and not fewer than the escape is for. -/
def readUnary (buffer : Bytes) (pos : Nat) : Option (Nat × Nat) :=
  let tail := buffer.drop pos
  let count := (tail.takeWhile (· == 1)).length
  if 0xFFFFFFFF ≤ count ∧ (tail.drop count).head? = some 0 then some (count, pos + count + 1)
  else none

def readLength (buffer : Bytes) (pos : Nat) : Option (Nat × Nat) :=
  match readUint32 buffer pos with
  | none => none
  | some (length, pos) =>
      if length = 0xFFFFFFFF then readUnary buffer pos else some (length.toNat, pos)

def readString (buffer : Bytes) (pos : Nat) : Option (Text × Nat) :=
  match readLength buffer pos with
  | none => none
  | some (length, pos) =>
      if pos + length ≤ buffer.length then
        some ((buffer.drop pos).take length, pos + length)
      else none

theorem readUint8_spelled : Codec.Spelled readUint8 fun value => [value] := by
  intro buffer pos last value
  unfold readUint8
  constructor
  · intro h
    split at h
    · rename_i b tail hdrop
      cases h
      exact ⟨rfl, tail, hdrop.symm⟩
    · cases h
  · rintro ⟨rfl, tail, hdrop⟩
    rw [← hdrop]
    rfl

theorem readUint16_spelled : Codec.Spelled readUint16 uint16Bytes := by
  intro buffer pos last value
  unfold readUint16
  constructor
  · intro h
    split at h
    · rename_i b0 b1 tail hdrop
      cases h
      have hb0 := b0.toNat_lt
      have hb1 := b1.toNat_lt
      refine ⟨rfl, tail, ?_⟩
      rw [hdrop, uint16Bytes, UInt16.toNat_ofNat']
      simp only [List.cons_append, List.nil_append, List.cons.injEq, and_true,
        ← UInt8.toNat_inj, UInt8.toNat_ofNat']
      omega
    · cases h
  · rintro ⟨rfl, tail, hdrop⟩
    have hvalue := value.toNat_lt
    simp only [← hdrop, uint16Bytes, List.cons_append, UInt8.toNat_ofNat']
    congr 2
    apply UInt16.toNat_inj.mp
    rw [UInt16.toNat_ofNat']
    omega

theorem readUint32_spelled : Codec.Spelled readUint32 uint32Bytes := by
  intro buffer pos last value
  unfold readUint32
  constructor
  · intro h
    split at h
    · rename_i b0 b1 b2 b3 tail hdrop
      cases h
      have hb0 := b0.toNat_lt
      have hb1 := b1.toNat_lt
      have hb2 := b2.toNat_lt
      have hb3 := b3.toNat_lt
      refine ⟨rfl, tail, ?_⟩
      rw [hdrop, uint32Bytes, UInt32.toNat_ofNat']
      simp only [List.cons_append, List.nil_append, List.cons.injEq, and_true,
        ← UInt8.toNat_inj, UInt8.toNat_ofNat']
      omega
    · cases h
  · rintro ⟨rfl, tail, hdrop⟩
    have hvalue := value.toNat_lt
    simp only [← hdrop, uint32Bytes, List.cons_append, UInt8.toNat_ofNat']
    congr 2
    apply UInt32.toNat_inj.mp
    rw [UInt32.toNat_ofNat']
    omega

theorem unary_prefix_iff (tail : Bytes) (count : Nat) :
    List.replicate count 1 ++ [0] <+: tail ↔
      (tail.takeWhile (· == 1)).length = count ∧ (tail.drop count).head? = some 0 := by
  induction count generalizing tail with
  | zero =>
      cases tail with
      | nil => simp
      | cons b rest =>
          simp only [List.replicate_zero, List.nil_append, List.cons_prefix_cons,
            List.nil_prefix, and_true, List.drop_zero, List.head?_cons, Option.some.injEq]
          constructor
          · rintro rfl
            exact ⟨rfl, rfl⟩
          · rintro ⟨-, rfl⟩
            rfl
  | succ count ih =>
      cases tail with
      | nil => simp
      | cons b rest =>
          rw [List.replicate_succ, List.cons_append, List.cons_prefix_cons, ih,
            List.takeWhile_cons, List.drop_succ_cons]
          by_cases hone : b = 1
          · simp [hone]
          · simp [hone, Ne.symm hone]

theorem readUnary_eq_some_iff {buffer : Bytes} {pos count last : Nat} :
    readUnary buffer pos = some (count, last) ↔
      0xFFFFFFFF ≤ count ∧ last = pos + count + 1 ∧
        List.replicate count 1 ++ [0] <+: buffer.drop pos := by
  unfold readUnary
  dsimp only
  rw [unary_prefix_iff]
  constructor
  · intro h
    split_ifs at h with hunary
    cases h
    exact ⟨hunary.1, rfl, rfl, hunary.2⟩
  · rintro ⟨hlong, rfl, rfl, hzero⟩
    exact if_pos ⟨hlong, hzero⟩

theorem readLength_spelled : Codec.Spelled readLength lengthBytes := by
  intro buffer pos last length
  constructor
  · intro h
    unfold readLength at h
    split at h
    · cases h
    · rename_i announced next hread
      obtain ⟨rfl, tail, hdrop⟩ := (readUint32_spelled _ _ _ _).mp hread
      split_ifs at h with hescape
      · obtain ⟨hlong, rfl, rest, hrest⟩ := readUnary_eq_some_iff.mp h
        subst hescape
        rw [← List.drop_drop, ← hdrop, List.drop_left] at hrest
        rw [lengthBytes, if_neg (Nat.not_lt.mpr hlong), ← hdrop, ← hrest]
        refine ⟨?_, rest, by simp only [List.append_assoc]⟩
        simp only [List.length_append, List.length_replicate, List.length_singleton]
        omega
      · cases h
        have hlt : announced.toNat < 0xFFFFFFFF := by
          have hbound := announced.toNat_lt
          have hne : announced.toNat ≠ 0xFFFFFFFF := fun heq =>
            hescape (UInt32.toNat_inj.mp heq)
          omega
        rw [lengthBytes, if_pos hlt, UInt32.ofNat_toNat]
        exact ⟨rfl, tail, hdrop⟩
  · rintro ⟨rfl, hfound⟩
    unfold lengthBytes at hfound ⊢
    by_cases hshort : length < 0xFFFFFFFF
    · rw [if_pos hshort] at hfound ⊢
      have hnat : (UInt32.ofNat length).toNat = length := by
        rw [UInt32.toNat_ofNat']
        omega
      have hne : UInt32.ofNat length ≠ 0xFFFFFFFF := by
        intro heq
        rw [heq] at hnat
        exact absurd hnat (by rw [show (0xFFFFFFFF : UInt32).toNat = 0xFFFFFFFF from rfl]; omega)
      rw [readLength, (readUint32_spelled _ _ _ _).mpr ⟨rfl, hfound⟩]
      simp only [if_neg hne, hnat]
    · rw [if_neg hshort] at hfound ⊢
      obtain ⟨rest, hdrop⟩ := hfound
      rw [List.append_assoc, List.append_assoc] at hdrop
      have hread := (readUint32_spelled buffer pos _ 0xFFFFFFFF).mpr ⟨rfl, _, hdrop⟩
      rw [readLength, hread]
      simp only [↓reduceIte]
      apply readUnary_eq_some_iff.mpr
      refine ⟨Nat.not_lt.mp hshort, ?_, rest, ?_⟩
      · simp only [List.length_append, List.length_replicate, List.length_singleton]
        omega
      · rw [← List.drop_drop, ← hdrop, List.drop_left, List.append_assoc]

theorem length_lengthBytes_pos (length : Nat) : 0 < (lengthBytes length).length := by
  unfold lengthBytes
  split_ifs
  · exact Nat.succ_pos _
  · simp

def stringBytes (value : Text) : Bytes := lengthBytes value.length ++ value

theorem readString_spelled : Codec.Spelled readString stringBytes := by
  intro buffer pos last value
  constructor
  · intro h
    unfold readString at h
    split at h
    · cases h
    · rename_i length next hread
      obtain ⟨rfl, tail, hdrop⟩ := (readLength_spelled _ _ _ _).mp hread
      split_ifs at h with hfits
      cases h
      have htail : buffer.drop (pos + (lengthBytes length).length) = tail := by
        rw [← List.drop_drop, ← hdrop, List.drop_left]
      have hlength : (tail.take length).length = length := by
        rw [List.length_take, ← htail, List.length_drop]
        omega
      rw [htail, stringBytes, hlength, List.length_append, hlength, Nat.add_assoc]
      refine ⟨rfl, tail.drop length, ?_⟩
      rw [← hdrop, List.append_assoc, List.take_append_drop]
  · rintro ⟨rfl, rest, hdrop⟩
    rw [stringBytes, List.append_assoc] at hdrop
    have hread := (readLength_spelled buffer pos _ _).mpr ⟨rfl, _, hdrop⟩
    have htail : buffer.drop (pos + (lengthBytes value.length).length) = value ++ rest := by
      rw [← List.drop_drop, ← hdrop, List.drop_left]
    have hfits : pos + (lengthBytes value.length).length + value.length ≤ buffer.length := by
      have hpos := length_lengthBytes_pos value.length
      have hlength := congrArg List.length hdrop
      rw [List.length_append, List.length_append, List.length_drop] at hlength
      omega
    rw [readString, hread]
    simp only [if_pos hfits]
    rw [htail, List.take_left, stringBytes, List.length_append, Nat.add_assoc]

theorem stringBytes_ne_nil (value : Text) : stringBytes value ≠ [] :=
  List.append_ne_nil_of_left_ne_nil
    (List.ne_nil_of_length_pos (length_lengthBytes_pos value.length)) value

end BigEndian

open BigEndian in
def WireFormat.bigEndian : WireFormat where
  serializeUint8 buffer value := buffer ++ [value]
  serializeUint16 buffer value := buffer ++ uint16Bytes value
  serializeUint32 buffer value := buffer ++ uint32Bytes value
  serializeString buffer value := buffer ++ stringBytes value
  serializeArray buffer value := buffer ++ (uint32Bytes (UInt32.ofNat value.length) ++ value)
  deserializeUint8 := readUint8
  deserializeUint16 := readUint16
  deserializeUint32 := readUint32
  deserializeString := readString

open BigEndian in
theorem WireFormat.bigEndian_lawful : WireFormat.bigEndian.Lawful where
  uint8 := readUint8_spelled.inverts
  uint16 := readUint16_spelled.inverts
  uint32 := readUint32_spelled.inverts
  string := readString_spelled.inverts

open BigEndian in
theorem WireFormat.bigEndian_canonical : WireFormat.bigEndian.Canonical where
  uint8 := readUint8_spelled.canonical
  uint16 := readUint16_spelled.canonical
  uint32 := readUint32_spelled.canonical
  string := readString_spelled.canonical

open BigEndian in
theorem WireFormat.bigEndian_whole : WireFormat.bigEndian.Whole where
  uint8 := bigEndian_lawful.uint8.whole_of_stable
    (readUint8_spelled.stable fun _ => List.cons_ne_nil _ _)
  uint16 := bigEndian_lawful.uint16.whole_of_stable
    (readUint16_spelled.stable fun _ => List.cons_ne_nil _ _)
  uint32 := bigEndian_lawful.uint32.whole_of_stable
    (readUint32_spelled.stable fun _ => List.cons_ne_nil _ _)
  string := bigEndian_lawful.string.whole_of_stable (readString_spelled.stable stringBytes_ne_nil)

end SomeipGateway
