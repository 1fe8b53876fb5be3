import SomeipGateway.Iceoryx2.Translator

/-! What `parse_sample` accepts. Version, mode and the reserved byte are read and
not looked at; apart from the reserved byte, the sample is what `serialize_envelope`
writes for the envelope it is taken for. -/
namespace SomeipGateway.Iceoryx2

open Lib

/-- The fields in wire order, with a reserved byte other than the one that is
written. -/
def Iceoryx2Envelope.headerWith (reserved : UInt8) (env : Iceoryx2Envelope) : Header :=
  (env.version, env.mode.byte, env.serviceId, env.instanceId, env.methodOrEventId,
    env.messageType.byte, reserved, env.clientId, env.sessionId, env.correlationId,
    UInt32.ofNat env.payload.length)

section

variable (wire : WireFormat)

/-- `serialize_envelope`, but for the reserved byte. -/
def serializeEnvelopeWith (reserved : UInt8) (buffer : Bytes) (env : Iceoryx2Envelope) : Bytes :=
  Codec.writeMany wire.serializeUint8
    (serializeHeader wire (wire.serializeUint32 buffer Iceoryx2Envelope.kMagic)
      (env.headerWith reserved)) env.payload

theorem serializeEnvelopeWith_zero (buffer : Bytes) (env : Iceoryx2Envelope) :
    serializeEnvelopeWith wire 0 buffer env = serializeEnvelope wire buffer env := rfl

variable {wire}

theorem canonical_header (hwire : wire.Canonical) :
    Codec.Canonical (deserializeHeader wire) (serializeHeader wire) :=
  hwire.uint8.seq <| hwire.uint8.seq <| hwire.uint16.seq <| hwire.uint16.seq <|
  hwire.uint16.seq <| hwire.uint8.seq <| hwire.uint8.seq <| hwire.uint16.seq <|
  hwire.uint16.seq <| hwire.string.seq hwire.uint32

def Header.reserved : Header → UInt8
  | (_, _, _, _, _, _, reserved, _, _, _, _) => reserved

/-- The reserved byte is all that an envelope does not keep of its header. -/
theorem headerWith_ofHeader (header : Header) {payload : Bytes}
    (h : payload.length = header.payloadLen.toNat) :
    (Iceoryx2Envelope.ofHeader header payload).headerWith header.reserved = header := by
  obtain ⟨version, mode, serviceId, instanceId, methodOrEventId, messageType, reserved, clientId,
    sessionId, correlationId, payloadLen⟩ := header
  have hlength : UInt32.ofNat payload.length = payloadLen := by
    rw [h]
    exact UInt32.ofNat_toNat
  simp only [Iceoryx2Envelope.ofHeader, Iceoryx2Envelope.headerWith, Header.reserved, hlength]

theorem deserializeEnvelope_canonical (hwire : wire.Canonical) {data : Bytes} {pos last : Nat}
    {env : Iceoryx2Envelope} (hpos : pos ≤ data.length)
    (h : deserializeEnvelope wire data pos = some (env, last)) :
    last ≤ data.length ∧ env.payload.length ≤ maxPayloadLength ∧
      ∃ reserved, serializeEnvelopeWith wire reserved (data.take pos) env = data.take last := by
  rw [deserializeEnvelope_eq] at h
  obtain ⟨⟨magic, behindMagic⟩, hmagic, h⟩ := Option.bind_eq_some_iff.mp h
  obtain ⟨_, hguard, h⟩ := Option.bind_eq_some_iff.mp h
  obtain ⟨⟨header, behindHeader⟩, hheader, h⟩ := Option.bind_eq_some_iff.mp h
  obtain ⟨_, hsmall, h⟩ := Option.bind_eq_some_iff.mp h
  obtain ⟨-, -, h⟩ := Option.bind_eq_some_iff.mp h
  obtain ⟨⟨payload, last⟩, hpayload, h⟩ := Option.bind_eq_some_iff.mp h
  cases h
  have hkMagic : magic = Iceoryx2Envelope.kMagic := (Option.guard_eq_some' _).mp hguard
  have hlimit : header.payloadLen.toNat ≤ maxPayloadLength := (Option.guard_eq_some' _).mp hsmall
  have hlength := Codec.length_of_readMany hpayload
  obtain ⟨hbehindMagic, hmagicWritten⟩ := hwire.uint32 data pos _ _ hpos hmagic
  obtain ⟨hbehindHeader, hheaderWritten⟩ :=
    canonical_header hwire data behindMagic _ _ hbehindMagic hheader
  obtain ⟨hlast, hpayloadWritten⟩ := hwire.uint8.readMany hbehindHeader hpayload
  refine ⟨hlast, ?_, header.reserved, ?_⟩
  · show payload.length ≤ maxPayloadLength
    omega
  · rw [serializeEnvelopeWith, headerWith_ofHeader header hlength, ← hkMagic, hmagicWritten,
      hheaderWritten]
    exact hpayloadWritten

/-- A sample that is accepted begins with what `serialize_envelope` writes for its
envelope; only the reserved byte may be another. -/
theorem accepted_sample_is_serialized (hwire : wire.Canonical) {data : Bytes}
    {env : Iceoryx2Envelope} (h : parseSample wire data = some env) :
    ∃ last reserved, deserializeEnvelope wire data 0 = some (env, last) ∧
      last ≤ data.length ∧ env.payload.length ≤ maxPayloadLength ∧
      serializeEnvelopeWith wire reserved [] env = data.take last ∧
      (reserved = 0 → serializeEnvelope wire [] env = data.take last) := by
  obtain ⟨⟨env, last⟩, hread, rfl⟩ := Option.map_eq_some_iff.mp h
  obtain ⟨hlast, hlimit, reserved, hwritten⟩ :=
    deserializeEnvelope_canonical hwire (Nat.zero_le _) hread
  refine ⟨last, reserved, hread, hlast, hlimit, hwritten, ?_⟩
  rintro rfl
  rw [← serializeEnvelopeWith_zero]
  exact hwritten

end

/-! ### A sample of a later version -/

def laterEnvelope : Iceoryx2Envelope where
  version := 2
  mode := ⟨7⟩
  serviceId := 0x1234
  instanceId := 1
  methodOrEventId := 0x8001
  messageType := .notification
  correlationId := Text.ascii "0000-0001"
  payload := [1]

/-- What a later version may have put where the reserved byte is. -/
def laterSample (wire : WireFormat) : Bytes := serializeEnvelopeWith wire 1 [] laterEnvelope

/-- In a format that keeps all the laws it is accepted with a version and a mode that
nobody writes, and its reserved byte gets lost. -/
theorem later_sample_accepted :
    let data := laterSample .bigEndian
    WireFormat.bigEndian.Lawful ∧ WireFormat.bigEndian.Canonical ∧
      parseSample .bigEndian data = some laterEnvelope ∧
      laterEnvelope.version ≠ 1 ∧
      laterEnvelope.mode ≠ .opaqueMode ∧ laterEnvelope.mode ≠ .typedMode ∧
      deserializeEnvelope .bigEndian data 0 = some (laterEnvelope, data.length) ∧
      serializeEnvelope .bigEndian [] laterEnvelope ≠ data.take data.length :=
  ⟨WireFormat.bigEndian_lawful, WireFormat.bigEndian_canonical, by decide⟩

theorem later_sample_is_serialized :
    ∃ last reserved,
      deserializeEnvelope .bigEndian (laterSample .bigEndian) 0 = some (laterEnvelope, last) ∧
      last ≤ (laterSample .bigEndian).length ∧ laterEnvelope.payload.length ≤ maxPayloadLength ∧
      serializeEnvelopeWith .bigEndian reserved [] laterEnvelope =
        (laterSample .bigEndian).take last ∧
      (reserved = 0 →
        serializeEnvelope .bigEndian [] laterEnvelope = (laterSample .bigEndian).take last) :=
  accepted_sample_is_serialized WireFormat.bigEndian_canonical (by decide)

end SomeipGateway.Iceoryx2
