import SomeipGateway.Lib.CborItem
import SomeipGateway.Zenoh.CborEnvelope

/-! The envelope as a consumer with a CBOR library reads it. The item encoders
choose the head by size class; the string encoders stop at the two-byte length,
which a longer payload does not fit. -/
namespace SomeipGateway.Zenoh

open Lib

/-- The map an envelope is documented to be. -/
def envelopeItem (msg : Message) : Cbor.Item :=
  .map [(.text (Text.ascii "svc"), .unsigned msg.serviceId.toNat),
    (.text (Text.ascii "method"), .unsigned msg.methodId.toNat),
    (.text (Text.ascii "type"), .unsigned msg.messageType.byte.toNat),
    (.text (Text.ascii "payload"), .bytes msg.payload)]

/-! ### Heads -/

def twoBytes (v : Nat) : Bytes := [UInt8.ofNat ((v >>> 8) &&& 0xFF), UInt8.ofNat (v &&& 0xFF)]

theorem bigEndian_twoBytes (v : Nat) : Cbor.bigEndian (twoBytes v) = v % 65536 := by
  simp only [twoBytes, Cbor.bigEndian, List.foldl_cons, List.foldl_nil, byte_and]
  omega

/-- What the gateway's reader takes as a number is the head of that number. -/
theorem readHead_uintBytes {v : Nat} {bytes : Bytes} (h : UintBytes v bytes) (rest : Bytes) :
    Cbor.readHead (bytes ++ rest) = some (0, v, rest) := by
  have hwide (ib : UInt8) (argument : Bytes) {value : Nat} (hinitial : ib.toNat / 32 = 0)
      (hwidth : Cbor.argumentWidth (ib.toNat % 32) = some argument.length)
      (hvalue : Cbor.bigEndian argument = value) :
      Cbor.readHead (ib :: (argument ++ rest)) = some (0, value, rest) := by
    rw [Cbor.readHead_wide ib argument hwidth rest, hinitial, hvalue]
  cases h with
  | @immediate ib himm =>
      have hib : ib.toNat < 24 := UInt8.lt_iff_toNat_lt.mp himm
      have hread := Cbor.readHead_immediate ib (by omega) rest
      rw [Nat.div_eq_of_lt (by omega), Nat.mod_eq_of_lt (by omega)] at hread
      exact hread
  | oneByte b =>
      apply hwide 0x18 [b] rfl rfl
      simp [Cbor.bigEndian]
  | twoBytes b0 b1 =>
      apply hwide 0x19 [b0, b1] rfl rfl
      rw [or_shift _ _ 8 b1.toNat_lt]
      simp only [Cbor.bigEndian, List.foldl_cons, List.foldl_nil]
      omega
  | fourBytes b0 b1 b2 b3 =>
      have h1 := b1.toNat_lt
      have h2 := b2.toNat_lt
      have h3 := b3.toNat_lt
      apply hwide 0x1A [b0, b1, b2, b3] rfl rfl
      rw [Nat.or_assoc, Nat.or_assoc, or_shift _ _ 8 h3, or_shift _ _ 16 (by omega),
        or_shift _ _ 24 (by omega)]
      simp only [Cbor.bigEndian, List.foldl_cons, List.foldl_nil]
      omega

theorem readHead_appendCborUint {v : Nat} (hv : v < 2 ^ 32) (rest : Bytes) :
    Cbor.readHead (appendCborUint [] v ++ rest) = some (0, v, rest) :=
  readHead_uintBytes (uintBytes_appendCborUint hv) rest

/-- The initial bytes of a string encoder belong to one major type. -/
structure StringHeads (major : Nat) (short long8 long16 : UInt8) : Prop where
  short : short.toNat = 32 * major
  fits : major < 8
  long8 : long8.toNat = 32 * major + 24
  long16 : long16.toNat = 32 * major + 25

theorem byteStringHeads : StringHeads 2 0x40 0x58 0x59 := ⟨rfl, by decide, rfl, rfl⟩

theorem textStringHeads : StringHeads 3 0x60 0x78 0x79 := ⟨rfl, by decide, rfl, rfl⟩

/-- The head a string is written with announces its length without what does not
fit two bytes. -/
theorem readHead_appendCborString {major : Nat} {short long8 long16 : UInt8}
    (h : StringHeads major short long8 long16) (data rest : Bytes) :
    Cbor.readHead (appendCborString short long8 long16 [] data ++ rest) =
      some (major, data.length % 65536, data ++ rest) := by
  have hmajor (info : Nat) (hinfo : info < 32) :
      (32 * major + info) / 32 = major ∧ (32 * major + info) % 32 = info := by omega
  have hfits := h.fits
  unfold appendCborString
  dsimp only
  split_ifs with h24 h256
  · have hnat : (UInt8.ofNat (short.toNat + data.length)).toNat = 32 * major + data.length := by
      rw [UInt8.toNat_ofNat', h.short]
      omega
    obtain ⟨hdiv, hmod⟩ := hmajor data.length (by omega)
    have hread := Cbor.readHead_immediate (UInt8.ofNat (short.toNat + data.length))
      (by rw [hnat, hmod]; exact h24) (data ++ rest)
    rw [hnat, hdiv, hmod] at hread
    rw [Nat.mod_eq_of_lt (by omega)]
    exact hread
  · obtain ⟨hdiv, hmod⟩ := hmajor 24 (by omega)
    have hvalue : Cbor.bigEndian [UInt8.ofNat data.length] = data.length % 65536 := by
      simp only [Cbor.bigEndian, List.foldl_cons, List.foldl_nil, UInt8.toNat_ofNat']
      omega
    have hread := Cbor.readHead_wide long8 [UInt8.ofNat data.length]
      (by rw [h.long8, hmod]; rfl) (data ++ rest)
    rw [h.long8, hdiv, hvalue] at hread
    exact hread
  · obtain ⟨hdiv, hmod⟩ := hmajor 25 (by omega)
    have hread := Cbor.readHead_wide long16 (twoBytes data.length)
      (by rw [h.long16, hmod]; rfl) (data ++ rest)
    rw [h.long16, hdiv, bigEndian_twoBytes] at hread
    exact hread

/-! ### Items -/

theorem readItem_appendCborUint {v : Nat} (hv : v < 2 ^ 32) (depth : Nat) (rest : Bytes) :
    Cbor.readItem (depth + 1) (appendCborUint [] v ++ rest) = some (.unsigned v, rest) :=
  Cbor.readItem_unsigned depth (readHead_appendCborUint hv rest)

theorem readItem_appendCborTextString {key : Text} (hkey : key.length < 65536) (depth : Nat)
    (rest : Bytes) :
    Cbor.readItem (depth + 1) (appendCborTextString [] key ++ rest) = some (.text key, rest) := by
  apply Cbor.readItem_text
  have hhead := readHead_appendCborString textStringHeads key rest
  rw [Nat.mod_eq_of_lt hkey] at hhead
  exact hhead

/-- A reader takes as many bytes as the head announces, and the others are left
over. -/
theorem readItem_appendCborByteString (depth : Nat) (data : Bytes) :
    Cbor.readItem (depth + 1) (appendCborByteString [] data) =
      some (.bytes (data.take (data.length % 65536)), data.drop (data.length % 65536)) := by
  have hhead := readHead_appendCborString byteStringHeads data []
  rw [List.append_nil, List.append_nil] at hhead
  exact Cbor.readItem_bytes depth hhead (Nat.mod_le _ _)

theorem readItem_buildCborEnvelope (msg : Message) (depth : Nat) :
    Cbor.readItem (depth + 2) (buildCborEnvelope msg) =
      some (envelopeItem { msg with payload := msg.payload.take (msg.payload.length % 65536) },
        msg.payload.drop (msg.payload.length % 65536)) := by
  have huint16 (v : UInt16) : v.toNat < 2 ^ 32 := Nat.lt_trans v.toNat_lt (by decide)
  have huint8 (v : UInt8) : v.toNat < 2 ^ 32 := Nat.lt_trans v.toNat_lt (by decide)
  rw [buildCborEnvelope_eq,
    Cbor.readItem_map (depth + 1) (Cbor.readHead_immediate 0xA4 (by decide) _),
    show (0xA4 : UInt8).toNat % 32 = 4 from rfl]
  rw [Cbor.readPairs_cons (readItem_appendCborTextString (by decide) depth _)
      (readItem_appendCborUint (huint16 _) depth _),
    Cbor.readPairs_cons (readItem_appendCborTextString (by decide) depth _)
      (readItem_appendCborUint (huint16 _) depth _),
    Cbor.readPairs_cons (readItem_appendCborTextString (by decide) depth _)
      (readItem_appendCborUint (huint8 _) depth _),
    Cbor.readPairs_cons (readItem_appendCborTextString (by decide) depth _)
      (readItem_appendCborByteString depth msg.payload)]
  rfl

theorem decode_buildCborEnvelope (msg : Message) :
    Cbor.decode (buildCborEnvelope msg) =
      if msg.payload.length < 65536 then some (envelopeItem msg) else none := by
  have hkey : (appendCborTextString [] (Text.ascii "svc")).length = 4 := by decide
  have hlength : 2 ≤ (buildCborEnvelope msg).length := by
    rw [buildCborEnvelope_eq, List.length_cons, List.length_append, hkey]
    omega
  obtain ⟨depth, hdepth⟩ := Nat.exists_eq_add_of_le' hlength
  rw [Cbor.decode, hdepth, readItem_buildCborEnvelope]
  split_ifs with hfits
  · rw [Nat.mod_eq_of_lt hfits, List.take_length, List.drop_length]
  · have hleft : msg.payload.drop (msg.payload.length % 65536) ≠ [] := by
      rw [ne_eq, List.drop_eq_nil_iff]
      have hsmall := Nat.mod_lt msg.payload.length (show 65536 > 0 by decide)
      omega
    obtain ⟨b, rest, hrest⟩ := List.exists_cons_of_ne_nil hleft
    rw [hrest]

/-- The envelope of a message is one complete item, and the documented map,
exactly if the payload is shorter than 64 KiB. -/
theorem cbor_envelope_well_formed_iff (msg : Message) :
    Cbor.decode (buildCborEnvelope msg) = some (envelopeItem msg) ↔ msg.payload.length < 65536 := by
  rw [decode_buildCborEnvelope]
  constructor
  · intro h
    by_contra hlarge
    rw [if_neg hlarge] at h
    cases h
  · intro hfits
    rw [if_pos hfits]

/-- For 65536 bytes the head announces none, and the payload is left over. -/
theorem cbor_envelope_of_64KiB :
    ¬ ∀ msg : Message, Cbor.decode (buildCborEnvelope msg) = some (envelopeItem msg) := by
  intro h
  have hwhole := h { messageType := .notification, payload := List.replicate 65536 0 }
  rw [decode_buildCborEnvelope, List.length_replicate] at hwhole
  cases hwhole

/-! ### Numbers in their shortest form -/

/-- A head that holds the number in as many bytes as it takes is not shorter than
what the encoder chooses. -/
theorem length_appendCborUint_le {v : Nat} {data rest : Bytes}
    (h : Cbor.readHead data = some (0, v, rest)) :
    (appendCborUint [] v).length + rest.length ≤ data.length := by
  have hlength : (appendCborUint [] v).length =
      if v < 24 then 1 else if v < 256 then 2 else if v < 65536 then 3 else 5 := by
    unfold appendCborUint
    split_ifs <;> rfl
  obtain ⟨ib, -, hhead⟩ := Cbor.readHead_cases h
  rcases hhead with ⟨hinfo, rfl, rfl⟩ | ⟨bytes, hwidth, rfl, rfl⟩
  · rw [hlength, if_pos hinfo, List.length_cons]
    omega
  · have hvalue := Cbor.bigEndian_lt bytes
    rw [hlength, List.length_cons, List.length_append]
    rcases Cbor.argumentWidth_cases hwidth with ⟨-, h1⟩ | ⟨-, h2⟩ | ⟨-, h4⟩ | ⟨-, h8⟩
    · rw [h1] at hvalue ⊢
      split_ifs <;> omega
    · rw [h2] at hvalue ⊢
      split_ifs <;> omega
    · rw [h4]
      split_ifs <;> omega
    · rw [h8]
      split_ifs <;> omega

theorem appendCborUint_shortest {v : Nat} (hv : v < 2 ^ 32) {data : Bytes}
    (h : Cbor.decode data = some (.unsigned v)) :
    data = appendCborUint [] v ∨ (appendCborUint [] v).length < data.length := by
  have hhead := Cbor.readHead_of_decode h
  have hwritten := readHead_appendCborUint hv []
  rw [List.append_nil] at hwritten
  have hle := length_appendCborUint_le hhead
  rw [List.length_nil, Nat.add_zero] at hle
  rcases Nat.lt_or_eq_of_le hle with hlt | heq
  · exact .inr hlt
  · exact .inl (Cbor.readHead_injective hhead hwritten heq.symm)

theorem decode_appendCborUint {v : Nat} (hv : v < 2 ^ 32) :
    Cbor.decode (appendCborUint [] v) = some (.unsigned v) := by
  have hpos : 0 < (appendCborUint [] v).length := by
    unfold appendCborUint
    split_ifs <;> exact Nat.succ_pos _
  obtain ⟨depth, hdepth⟩ := Nat.exists_eq_add_of_le' hpos
  have hitem := readItem_appendCborUint hv depth []
  rw [List.append_nil] at hitem
  rw [Cbor.decode, hdepth, hitem]

theorem readUint_pos_le {wire : Bytes} {c c' : Cursor} {v : Nat}
    (h : readUint wire c = (some v, c')) : c'.pos ≤ wire.length := by
  unfold readUint Cursor.next Cursor.subscript Cursor.advance at h
  dsimp only at h
  split_ifs at h <;> cases h <;> dsimp only <;> omega

/-- The gateway's reader takes a number wherever the encoder has written it, and
stops right behind it. -/
theorem readUint_appendCborUint {v : Nat} (hv : v < 2 ^ 32) (out t : Bytes) {c : Cursor}
    (hpos : c.pos = out.length) :
    ∃ c', readUint (appendCborUint out v ++ t) c = (some v, c') ∧
      c'.pos = (appendCborUint out v).length := by
  have hstart : (appendCborUint out v ++ t).drop c.pos = appendCborUint [] v ++ t := by
    rw [appendCborUint_eq out, hpos, List.append_assoc, List.drop_left]
  obtain ⟨c', hread, hrest⟩ := readUint_reads.complete (uintBytes_appendCborUint hv) hstart
  refine ⟨c', hread, ?_⟩
  have hbound := readUint_pos_le hread
  have hlength := congrArg List.length hrest
  rw [List.length_drop, List.length_append] at hlength
  rw [List.length_append] at hbound
  omega

/-- What the encoder writes for a number of 32 bits is read back with nothing
else touched, and no other item that spells the number is as short. -/
theorem cbor_uint_read_back {v : Nat} (hv : v < 2 ^ 32) :
    (∀ (out t : Bytes) (c : Cursor), c.pos = out.length →
      ∃ c', readUint (appendCborUint out v ++ t) c = (some v, c') ∧
        c'.pos = (appendCborUint out v).length ∧
        (appendCborUint out v ++ t).drop c'.pos = t) ∧
    Cbor.decode (appendCborUint [] v) = some (.unsigned v) ∧
    ∀ data, Cbor.decode data = some (.unsigned v) →
      data = appendCborUint [] v ∨ (appendCborUint [] v).length < data.length := by
  refine ⟨?_, decode_appendCborUint hv, ?_⟩
  · intro out t c hpos
    obtain ⟨c', hread, hend⟩ := readUint_appendCborUint hv out t hpos
    refine ⟨c', hread, hend, ?_⟩
    rw [hend, List.drop_left]
  · intro data hdata
    exact appendCborUint_shortest hv hdata

/-- The smallest number of the widest form, with a byte behind it that could
begin another. -/
theorem cbor_uint_65536_read_back :
    ∃ c', readUint (appendCborUint [] 65536 ++ [0x18]) ⟨0, []⟩ = (some 65536, c') ∧
      c'.pos = 5 := by
  obtain ⟨c', hread, hend, -⟩ :=
    (cbor_uint_read_back (v := 65536) (by decide)).1 [] [0x18] ⟨0, []⟩ rfl
  exact ⟨c', hread, hend⟩

end SomeipGateway.Zenoh
