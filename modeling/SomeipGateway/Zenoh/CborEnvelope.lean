import SomeipGateway.Zenoh.CborReaders

/-! The envelope under the gateway's own decoder. The encoders write what the
readers take, except for the length of longer byte strings. -/
namespace SomeipGateway.Zenoh

open Lib

/-! ### Encoded items -/

theorem or_shift (high low width : Nat) (h : low < 2 ^ width) :
    (high <<< width) ||| low = high * 2 ^ width + low := by
  rw [← Nat.shiftLeft_add_eq_or_of_lt h, Nat.shiftLeft_eq]

private theorem byte_and_shift (v width : Nat) :
    (UInt8.ofNat ((v >>> width) &&& 0xFF)).toNat = v / 2 ^ width % 256 := by
  rw [byte_and, Nat.shiftRight_eq_div_pow]

theorem uintBytes_appendCborUint {v : Nat} (hv : v < 2 ^ 32) :
    UintBytes v (appendCborUint [] v) := by
  unfold appendCborUint
  split_ifs with h24 h256 h65536
  · have hnat : (UInt8.ofNat v).toNat = v := by
      rw [UInt8.toNat_ofNat']
      omega
    have hsmall : UInt8.ofNat v < 24 := by
      rw [UInt8.lt_iff_toNat_lt, hnat]
      exact h24
    have hbytes := UintBytes.immediate hsmall
    rw [hnat] at hbytes
    exact hbytes
  · have hnat : (UInt8.ofNat v).toNat = v := by
      rw [UInt8.toNat_ofNat']
      omega
    have hbytes := UintBytes.oneByte (UInt8.ofNat v)
    rw [hnat] at hbytes
    exact hbytes
  · have hbytes :=
      UintBytes.twoBytes (UInt8.ofNat ((v >>> 8) &&& 0xFF)) (UInt8.ofNat (v &&& 0xFF))
    rw [or_shift _ _ 8 (UInt8.toNat_lt _), byte_and_shift, byte_and,
      show v / 2 ^ 8 % 256 * 2 ^ 8 + v % 256 = v by omega] at hbytes
    exact hbytes
  · have hbytes :=
      UintBytes.fourBytes (UInt8.ofNat ((v >>> 24) &&& 0xFF)) (UInt8.ofNat ((v >>> 16) &&& 0xFF))
        (UInt8.ofNat ((v >>> 8) &&& 0xFF)) (UInt8.ofNat (v &&& 0xFF))
    rw [byte_and_shift, byte_and_shift, byte_and_shift, byte_and, Nat.or_assoc, Nat.or_assoc,
      or_shift _ _ 8 (by omega), or_shift _ _ 16 (by omega), or_shift _ _ 24 (by omega),
      show v / 2 ^ 24 % 256 * 2 ^ 24 + (v / 2 ^ 16 % 256 * 2 ^ 16 +
        (v / 2 ^ 8 % 256 * 2 ^ 8 + v % 256)) = v by omega] at hbytes
    exact hbytes

/-- The initial bytes of short strings: the major type, and the length. -/
def ShortHeads (short : UInt8) : Prop :=
  ∀ n < 24, UInt8.ofNat (short.toNat + n) &&& 0xE0 = short ∧
    (UInt8.ofNat (short.toNat + n) &&& 0x1F).toNat = n

theorem shortHeads_text : ShortHeads 0x60 := by
  unfold ShortHeads
  decide

theorem shortHeads_byte : ShortHeads 0x40 := by
  unfold ShortHeads
  decide

theorem ShortHeads.string {short : UInt8} (h : ShortHeads short) {data : Bytes}
    (hdata : data.length < 24) :
    StringBytes short data (UInt8.ofNat (short.toNat + data.length) :: data) := by
  obtain ⟨hmajor, hlength⟩ := h data.length hdata
  exact .immediate hmajor hlength

theorem stringBytes_appendCborTextString {key : Text} (hkey : key.length < 24) :
    StringBytes 0x60 key (appendCborTextString [] key) := by
  have hshort : appendCborTextString [] key =
      UInt8.ofNat ((0x60 : UInt8).toNat + key.length) :: key := by
    simp [appendCborTextString, appendCborString, hkey]
  rw [hshort]
  exact shortHeads_text.string hkey

/-- What the decoder takes for the byte string that the encoder wrote. The two
extended initial bytes 0x58 and 0x59 are read as lengths 24 and 25, which makes
the length bytes part of the data. -/
def misreadByteString (data : Bytes) : Bytes :=
  let n := data.length
  if n < 24 then data
  else if n < 256 then UInt8.ofNat n :: data.take 23
  else UInt8.ofNat ((n >>> 8) &&& 0xFF) :: UInt8.ofNat (n &&& 0xFF) :: data.take 23

theorem appendCborByteString_misread (data : Bytes) :
    ∃ bytes rest, appendCborByteString [] data = bytes ++ rest ∧
      StringBytes 0x40 (misreadByteString data) bytes := by
  simp only [appendCborByteString, appendCborString, List.nil_append, misreadByteString]
  split_ifs with h24 h256
  · exact ⟨_, [], (List.append_nil _).symm, shortHeads_byte.string h24⟩
  · refine ⟨0x58 :: UInt8.ofNat data.length :: data.take 23, data.drop 23, ?_, ?_⟩
    · simp
    · refine .immediate (by decide) ?_
      have hlength : ((0x58 : UInt8) &&& 0x1F).toNat = 24 := by decide
      rw [hlength, List.length_cons, List.length_take]
      omega
  · refine ⟨0x59 :: UInt8.ofNat ((data.length >>> 8) &&& 0xFF) ::
      UInt8.ofNat (data.length &&& 0xFF) :: data.take 23, data.drop 23, ?_, ?_⟩
    · simp
    · refine .immediate (by decide) ?_
      have hlength : ((0x59 : UInt8) &&& 0x1F).toNat = 25 := by decide
      rw [hlength, List.length_cons, List.length_cons, List.length_take]
      omega

/-- The misreading is invisible below 24 bytes, and for the one payload whose
bytes all equal its own length byte. -/
theorem misreadByteString_eq_self (data : Bytes) :
    misreadByteString data = data ↔
      data.length < 24 ∨ data = List.replicate 24 0x18 := by
  constructor
  · intro h
    by_cases h24 : data.length < 24
    · exact .inl h24
    · right
      have hlength := congrArg List.length h
      unfold misreadByteString at h hlength
      by_cases h256 : data.length < 256
      · simp only [if_neg h24, if_pos h256, List.length_cons, List.length_take] at hlength h
        have hn : data.length = 24 := by omega
        rw [hn] at h
        apply List.ext_getElem
        · simp [hn]
        · intro k hk _
          rw [List.getElem_replicate]
          -- each byte repeats the one before it, and the first is the length
          induction k with
          | zero => exact List.getElem_of_eq h.symm hk
          | succ k ih =>
              have hprev := ih (by omega) (by simp; omega)
              have hshift : data[k + 1] = data[k] := by
                rw [List.getElem_of_eq h.symm hk, List.getElem_cons_succ, List.getElem_take]
              rw [hshift, hprev]
      · simp only [if_neg h24, if_neg h256, List.length_cons, List.length_take] at hlength
        omega
  · rintro (h | rfl)
    · simp only [misreadByteString, if_pos h]
    · rfl

/-! ### The whole envelope -/

theorem pairsBytes_buildCborEnvelope (msg : Message) :
    ∃ bytes rest, buildCborEnvelope msg = 0xA4 :: (bytes ++ rest) ∧
      PairsBytes [.svc msg.serviceId, .method msg.methodId, .type msg.messageType.byte,
        .payload (misreadByteString msg.payload)] bytes := by
  have hwide (v : UInt16) : UintBytes v.toNat (appendCborUint [] v.toNat) :=
    uintBytes_appendCborUint (Nat.lt_trans v.toNat_lt (by decide))
  have hbyte (v : UInt8) : UintBytes v.toNat (appendCborUint [] v.toNat) :=
    uintBytes_appendCborUint (Nat.lt_trans v.toNat_lt (by decide))
  have hsvc := PairBytes.svc (stringBytes_appendCborTextString (by decide))
    (hwide msg.serviceId) (Nat.le_of_lt_succ msg.serviceId.toNat_lt)
  have hmethod := PairBytes.method (stringBytes_appendCborTextString (by decide))
    (hwide msg.methodId) (Nat.le_of_lt_succ msg.methodId.toNat_lt)
  have htype := PairBytes.type (stringBytes_appendCborTextString (by decide))
    (hbyte msg.messageType.byte) (Nat.le_of_lt_succ msg.messageType.byte.toNat_lt)
  obtain ⟨bytes, rest, hbytes, hmisread⟩ := appendCborByteString_misread msg.payload
  have hpayload := PairBytes.payload (stringBytes_appendCborTextString (by decide)) hmisread
  rw [UInt16.ofNat_toNat] at hsvc hmethod
  rw [UInt8.ofNat_toNat] at htype
  refine ⟨_, rest, ?_, .cons hsvc (.cons hmethod (.cons htype (.cons hpayload .nil)))⟩
  rw [buildCborEnvelope_eq, hbytes]
  simp only [List.append_assoc, List.append_nil]

/-- Every envelope the gateway writes is accepted; the ids and the message type
come back, the payload comes back misread. -/
theorem decodeCborEnvelope_buildCborEnvelope (msg outMsg : Message) :
    decodeCborEnvelope (buildCborEnvelope msg) outMsg =
      (true, { outMsg with
        serviceId := msg.serviceId
        methodId := msg.methodId
        messageType := msg.messageType
        payload := misreadByteString msg.payload }) := by
  obtain ⟨bytes, rest, hwire, hpairs⟩ := pairsBytes_buildCborEnvelope msg
  obtain ⟨c, hscan, -⟩ := scanCborEnvelope_complete rfl hpairs rest
  rw [hwire, decodeCborEnvelope, hscan]
  rfl

end SomeipGateway.Zenoh
