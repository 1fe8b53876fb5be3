import SomeipGateway.Common.Translator
import SomeipGateway.Someip.Serialization

/-! `Iceoryx2MessageTranslator`: the binary envelope of an iceoryx2 sample. -/
namespace SomeipGateway.Iceoryx2

open Lib

structure Iceoryx2Envelope where
  version : UInt8 := 1
  mode : TranslationMode := .opaqueMode
  serviceId : UInt16 := 0
  instanceId : UInt16 := 0
  methodOrEventId : UInt16 := 0
  messageType : MessageType := .request
  clientId : UInt16 := 0
  sessionId : UInt16 := 0
  correlationId : Text := []
  payload : Bytes := []
deriving DecidableEq

def Iceoryx2Envelope.kMagic : UInt32 := 0x53495031

/-- The longest payload `deserialize_envelope` reads, 16 MiB. -/
def maxPayloadLength : Nat := 16 * 1024 * 1024

/-- `build_iceoryx2_service_name`; the tag is a `char`, one byte. -/
def buildIceoryx2ServiceName (namePrefix : Text)
    (serviceId instanceId methodOrEventId : UInt16) (kindTag : UInt8) : Text :=
  namePrefix ++ Text.ascii "/" ++ formatServiceId serviceId ++ Text.ascii "/" ++
    formatServiceId instanceId ++ Text.ascii "/" ++ formatServiceId methodOrEventId ++
    Text.ascii "/" ++ [kindTag]

/-! ### Names identify their source -/

theorem buildIceoryx2ServiceName_eq (namePrefix : Text)
    (serviceId instanceId methodOrEventId : UInt16) (kindTag : UInt8) :
    buildIceoryx2ServiceName namePrefix serviceId instanceId methodOrEventId kindTag =
      namePrefix ++ idPath [serviceId, instanceId, methodOrEventId] ++ ['/'.toUInt8, kindTag] := by
  simp [buildIceoryx2ServiceName, idPath, Text.ascii]

theorem buildIceoryx2ServiceName_injective {namePrefix namePrefix' : Text}
    {serviceId serviceId' instanceId instanceId' methodOrEventId methodOrEventId' : UInt16}
    {kindTag kindTag' : UInt8}
    (h : buildIceoryx2ServiceName namePrefix serviceId instanceId methodOrEventId kindTag =
      buildIceoryx2ServiceName namePrefix' serviceId' instanceId' methodOrEventId' kindTag') :
    namePrefix = namePrefix' ∧ serviceId = serviceId' ∧ instanceId = instanceId' ∧
      methodOrEventId = methodOrEventId' ∧ kindTag = kindTag' := by
  rw [buildIceoryx2ServiceName_eq, buildIceoryx2ServiceName_eq] at h
  -- the tag and its slash are the last two bytes of either name
  obtain ⟨hpath, htag⟩ := List.append_inj' h rfl
  obtain ⟨hroot, hids⟩ := append_idPath_injective hpath rfl
  simp only [List.cons.injEq, and_true, true_and] at hids htag
  exact ⟨hroot, hids.1, hids.2.1, hids.2.2, htag⟩

/-- No two sources share a name or a topic, whatever their prefixes look like:
the ids and the tag are read off the end, where every field has a fixed width. -/
theorem external_names_identify_source :
    (∀ (p p' : Text) (s s' i i' m m' : UInt16) (k k' : UInt8),
      buildIceoryx2ServiceName p s i m k = buildIceoryx2ServiceName p' s' i' m' k' ↔
        p = p' ∧ s = s' ∧ i = i' ∧ m = m' ∧ k = k') ∧
    (∀ (p p' : Text) (s s' i i' m m' : UInt16),
      buildTopic p s i m = buildTopic p' s' i' m' ↔ p = p' ∧ s = s' ∧ i = i' ∧ m = m') := by
  constructor
  · intro p p' s s' i i' m m' k k'
    constructor
    · exact buildIceoryx2ServiceName_injective
    · rintro ⟨rfl, rfl, rfl, rfl, rfl⟩
      rfl
  · intro p p' s s' i i' m m'
    constructor
    · exact buildTopic_injective
    · rintro ⟨rfl, rfl, rfl, rfl⟩
      rfl

section

variable (wire : WireFormat)

/-- `serialize_envelope`, behind what the serializer already holds. -/
def serializeEnvelope (buffer : Bytes) (env : Iceoryx2Envelope) : Bytes :=
  let buffer := wire.serializeUint32 buffer Iceoryx2Envelope.kMagic
  let buffer := wire.serializeUint8 buffer env.version
  let buffer := wire.serializeUint8 buffer env.mode.byte
  let buffer := wire.serializeUint16 buffer env.serviceId
  let buffer := wire.serializeUint16 buffer env.instanceId
  let buffer := wire.serializeUint16 buffer env.methodOrEventId
  let buffer := wire.serializeUint8 buffer env.messageType.byte
  let buffer := wire.serializeUint8 buffer 0
  let buffer := wire.serializeUint16 buffer env.clientId
  let buffer := wire.serializeUint16 buffer env.sessionId
  let buffer := wire.serializeString buffer env.correlationId
  let buffer := wire.serializeUint32 buffer (UInt32.ofNat env.payload.length)
  Codec.writeMany wire.serializeUint8 buffer env.payload

/-- `deserialize_envelope` at a position of the data: the envelope and the
position behind it. `get_remaining` is what lies behind the position. -/
def deserializeEnvelope (data : Bytes) (pos : Nat) : Option (Iceoryx2Envelope × Nat) := do
  let (magic, pos) ← wire.deserializeUint32 data pos
  guard (magic = Iceoryx2Envelope.kMagic)
  let (version, pos) ← wire.deserializeUint8 data pos
  let (mode, pos) ← wire.deserializeUint8 data pos
  let (serviceId, pos) ← wire.deserializeUint16 data pos
  let (instanceId, pos) ← wire.deserializeUint16 data pos
  let (methodOrEventId, pos) ← wire.deserializeUint16 data pos
  let (messageType, pos) ← wire.deserializeUint8 data pos
  let (_, pos) ← wire.deserializeUint8 data pos
  let (clientId, pos) ← wire.deserializeUint16 data pos
  let (sessionId, pos) ← wire.deserializeUint16 data pos
  let (correlationId, pos) ← wire.deserializeString data pos
  let (payloadLen, pos) ← wire.deserializeUint32 data pos
  guard (payloadLen.toNat ≤ maxPayloadLength)
  guard (payloadLen.toNat ≤ data.length - pos)
  let (payload, pos) ← Codec.readMany wire.deserializeUint8 data payloadLen.toNat pos
  return ({ version, mode := ⟨mode⟩, serviceId, instanceId, methodOrEventId,
            messageType := ⟨messageType⟩, clientId, sessionId, correlationId, payload }, pos)

def messageEnvelope (msg : Message) (instanceId : UInt16) (mode : TranslationMode) :
    Iceoryx2Envelope where
  version := 1
  mode := mode
  serviceId := msg.serviceId
  instanceId := instanceId
  methodOrEventId := msg.methodId
  messageType := msg.messageType
  clientId := msg.clientId
  sessionId := msg.sessionId
  correlationId := correlationText msg
  payload := if mode = .typedMode then payloadToJson msg else msg.payload

def someipToSample (msg : Message) (instanceId : UInt16) (mode : TranslationMode) : Bytes :=
  serializeEnvelope wire [] (messageEnvelope msg instanceId mode)

def parseSample (data : Bytes) : Option Iceoryx2Envelope :=
  (deserializeEnvelope wire data 0).map Prod.fst

end

/-- `envelope_to_someip`; the return code is the one of a new message. -/
def envelopeToSomeip (env : Iceoryx2Envelope) : Message where
  serviceId := env.serviceId
  methodId := env.methodOrEventId
  clientId := env.clientId
  sessionId := env.sessionId
  messageType := env.messageType
  payload := if env.mode = .typedMode then jsonToPayload env.payload else env.payload

def envelopeToExternal (env : Iceoryx2Envelope) (topic : Text) : ExternalMessage where
  topicOrKey := topic
  payload := env.payload
  sourceServiceId := env.serviceId
  sourceMethodId := env.methodOrEventId
  sourceInstanceId := env.instanceId
  isRequest := env.messageType == .request || env.messageType == .requestNoReturn
  isNotification := env.messageType == .notification
  correlationId := env.correlationId

/-! ### Reading back what was written -/

/-- What lies between the magic and the payload, in wire order. -/
abbrev Header :=
  UInt8 × UInt8 × UInt16 × UInt16 × UInt16 × UInt8 × UInt8 × UInt16 × UInt16 × Text × UInt32

def Iceoryx2Envelope.header (env : Iceoryx2Envelope) : Header :=
  (env.version, env.mode.byte, env.serviceId, env.instanceId, env.methodOrEventId,
    env.messageType.byte, 0, env.clientId, env.sessionId, env.correlationId,
    UInt32.ofNat env.payload.length)

def Iceoryx2Envelope.ofHeader : Header → Bytes → Iceoryx2Envelope
  | (version, mode, serviceId, instanceId, methodOrEventId, messageType, _, clientId, sessionId,
      correlationId, _), payload =>
      { version, mode := ⟨mode⟩, serviceId, instanceId, methodOrEventId,
        messageType := ⟨messageType⟩, clientId, sessionId, correlationId, payload }

def Header.payloadLen : Header → UInt32
  | (_, _, _, _, _, _, _, _, _, _, payloadLen) => payloadLen

section

variable (wire : WireFormat)

open Codec in
def serializeHeader : Codec.Writer UInt8 Header :=
  writeSeq wire.serializeUint8 <| writeSeq wire.serializeUint8 <|
  writeSeq wire.serializeUint16 <| writeSeq wire.serializeUint16 <|
  writeSeq wire.serializeUint16 <| writeSeq wire.serializeUint8 <|
  writeSeq wire.serializeUint8 <| writeSeq wire.serializeUint16 <|
  writeSeq wire.serializeUint16 <| writeSeq wire.serializeString wire.serializeUint32

open Codec in
def deserializeHeader : Codec.Reader UInt8 Header :=
  readSeq wire.deserializeUint8 <| readSeq wire.deserializeUint8 <|
  readSeq wire.deserializeUint16 <| readSeq wire.deserializeUint16 <|
  readSeq wire.deserializeUint16 <| readSeq wire.deserializeUint8 <|
  readSeq wire.deserializeUint8 <| readSeq wire.deserializeUint16 <|
  readSeq wire.deserializeUint16 <| readSeq wire.deserializeString wire.deserializeUint32

variable {wire}

theorem lawful_header (hwire : wire.Lawful) :
    Codec.Inverts (deserializeHeader wire) (serializeHeader wire) :=
  hwire.uint8.seq <| hwire.uint8.seq <| hwire.uint16.seq <| hwire.uint16.seq <|
  hwire.uint16.seq <| hwire.uint8.seq <| hwire.uint8.seq <| hwire.uint16.seq <|
  hwire.uint16.seq <| hwire.string.seq hwire.uint32

theorem serializeEnvelope_eq (buffer : Bytes) (env : Iceoryx2Envelope) :
    serializeEnvelope wire buffer env =
      Codec.writeMany wire.serializeUint8
        (serializeHeader wire (wire.serializeUint32 buffer Iceoryx2Envelope.kMagic) env.header)
        env.payload := rfl

theorem deserializeEnvelope_eq (data : Bytes) (pos : Nat) :
    deserializeEnvelope wire data pos = (do
      let (magic, pos) ← wire.deserializeUint32 data pos
      guard (magic = Iceoryx2Envelope.kMagic)
      let (header, pos) ← deserializeHeader wire data pos
      guard (header.payloadLen.toNat ≤ maxPayloadLength)
      guard (header.payloadLen.toNat ≤ data.length - pos)
      let (payload, pos) ←
        Codec.readMany wire.deserializeUint8 data header.payloadLen.toNat pos
      return (.ofHeader header payload, pos)) := by
  refine Option.bind_congr fun magic _ => Option.bind_congr fun _ _ => ?_
  iterate 10 refine Codec.bind_eq_readSeq_bind fun _ _ => ?_
  rfl

/-- An envelope that was written is read back, and nothing behind it is touched. -/
theorem deserializeEnvelope_serializeEnvelope (hwire : wire.Lawful) (env : Iceoryx2Envelope)
    (hpayload : env.payload.length ≤ maxPayloadLength) (buffer rest : Bytes) :
    deserializeEnvelope wire (serializeEnvelope wire buffer env ++ rest) buffer.length =
      some (env, (serializeEnvelope wire buffer env).length) := by
  have hwritten : serializeEnvelope wire buffer env <+:
      serializeEnvelope wire buffer env ++ rest := List.prefix_append _ _
  generalize serializeEnvelope wire buffer env ++ rest = data at hwritten
  rw [serializeEnvelope_eq] at hwritten ⊢
  -- every buffer on the way is an initial part of the data
  have hheader := (hwire.uint8.prefix_many env.payload _).trans hwritten
  have hmagic := (lawful_header hwire).prefix_of hheader
  have hlength : (Header.payloadLen env.header).toNat = env.payload.length := by
    show (UInt32.ofNat env.payload.length).toNat = env.payload.length
    rw [UInt32.toNat_ofNat']
    unfold maxPayloadLength at hpayload
    omega
  have hremaining := hwire.uint8.length_le_remaining hwritten
  simp only [deserializeEnvelope_eq, hwire.uint32.read_eq hmagic,
    (lawful_header hwire).read_eq hheader, hlength, guard, hpayload, hremaining,
    hwire.uint8.readMany_eq hwritten, Option.bind_eq_bind, Option.bind_some, ↓reduceIte,
    Option.pure_def]
  rfl

/-- A written envelope followed by anything else: the reader returns it and
stands where the rest begins. -/
theorem envelope_read_back (hwire : wire.Lawful) (env : Iceoryx2Envelope)
    (hpayload : env.payload.length ≤ 16 * 1024 * 1024) (rest : Bytes) :
    ∃ pos, deserializeEnvelope wire (serializeEnvelope wire [] env ++ rest) 0 = some (env, pos) ∧
      (serializeEnvelope wire [] env ++ rest).drop pos = rest := by
  refine ⟨(serializeEnvelope wire [] env).length, ?_, ?_⟩
  · exact deserializeEnvelope_serializeEnvelope hwire env hpayload [] rest
  · exact List.drop_left

theorem envelope_read_back_typed :
    let env : Iceoryx2Envelope :=
      { version := 7, mode := .typedMode, serviceId := 0x1234, instanceId := 1
        methodOrEventId := 0x8001, messageType := .notification, clientId := 2, sessionId := 3
        correlationId := Text.ascii "0002-0003", payload := [0, 255, 0x53] }
    ∃ pos, deserializeEnvelope .bigEndian (serializeEnvelope .bigEndian [] env ++ [0x53, 0x49]) 0 =
        some (env, pos) ∧
      (serializeEnvelope .bigEndian [] env ++ [0x53, 0x49]).drop pos = [0x53, 0x49] :=
  envelope_read_back WireFormat.bigEndian_lawful _ (by decide) [0x53, 0x49]

/-- Whatever an envelope carries, a reader that accepts it takes exactly as many
payload bytes as the length field announces. -/
theorem deserializeEnvelope_payload (hwire : wire.Lawful) {env env' : Iceoryx2Envelope}
    {data : Bytes} {pos : Nat} (hwritten : serializeEnvelope wire [] env <+: data)
    (h : deserializeEnvelope wire data 0 = some (env', pos)) :
    env'.mode = env.mode ∧ env'.payload.length = (UInt32.ofNat env.payload.length).toNat ∧
      env'.payload.length ≤ maxPayloadLength := by
  rw [serializeEnvelope_eq] at hwritten
  have hheader := (hwire.uint8.prefix_many env.payload _).trans hwritten
  have hmagic := (lawful_header hwire).prefix_of hheader
  rw [deserializeEnvelope_eq] at h
  obtain ⟨magic, hread, h⟩ := Option.bind_eq_some_iff.mp h
  cases (hwire.uint32.read_eq hmagic).symm.trans hread
  obtain ⟨-, -, h⟩ := Option.bind_eq_some_iff.mp h
  obtain ⟨header, hread, h⟩ := Option.bind_eq_some_iff.mp h
  cases ((lawful_header hwire).read_eq hheader).symm.trans hread
  obtain ⟨_, hsmall, h⟩ := Option.bind_eq_some_iff.mp h
  obtain ⟨-, -, h⟩ := Option.bind_eq_some_iff.mp h
  obtain ⟨⟨payload, last⟩, hpayload, h⟩ := Option.bind_eq_some_iff.mp h
  cases h
  have hlength : payload.length = (UInt32.ofNat env.payload.length).toNat :=
    Codec.length_of_readMany hpayload
  have hannounced : (UInt32.ofNat env.payload.length).toNat ≤ maxPayloadLength :=
    (Option.guard_eq_some' _).mp hsmall
  refine ⟨rfl, hlength, ?_⟩
  show payload.length ≤ maxPayloadLength
  rw [hlength]
  exact hannounced

theorem parseSample_someipToSample (hwire : wire.Lawful) (msg : Message) (instanceId : UInt16)
    (hpayload : msg.payload.length ≤ maxPayloadLength) :
    parseSample wire (someipToSample wire msg instanceId .opaqueMode) =
      some (messageEnvelope msg instanceId .opaqueMode) := by
  have hread := deserializeEnvelope_serializeEnvelope hwire
    (messageEnvelope msg instanceId .opaqueMode) hpayload [] []
  rw [List.append_nil, List.length_nil] at hread
  rw [parseSample, someipToSample, hread]
  rfl

/-- There and back as an opaque sample. The envelope has no field for the return
code, so the message built from it has the one of a new message. -/
theorem opaque_sample_round_trip (hwire : wire.Lawful) (msg : Message) (instanceId : UInt16)
    (hpayload : msg.payload.length ≤ 16 * 1024 * 1024) :
    ∃ env, parseSample wire (someipToSample wire msg instanceId .opaqueMode) = some env ∧
      envelopeToSomeip env = { msg with returnCode := .eOk } :=
  ⟨_, parseSample_someipToSample hwire msg instanceId hpayload, rfl⟩

end

/-- An error response, as it comes from a service that does not know the method. -/
def unknownMethodError : Message where
  serviceId := 0x1234
  methodId := 0x0042
  clientId := 0x0001
  sessionId := 0x0007
  messageType := .error
  returnCode := ⟨0x03⟩
  payload := [1]

theorem opaque_sample_round_trip_error :
    ∃ env, parseSample .bigEndian (someipToSample .bigEndian unknownMethodError 1 .opaqueMode) =
        some env ∧
      envelopeToSomeip env = { unknownMethodError with returnCode := .eOk } :=
  opaque_sample_round_trip WireFormat.bigEndian_lawful unknownMethodError 1 (by decide)

/-- It comes back as an error without a cause. -/
theorem error_return_code_lost :
    ¬ ∀ (wire : WireFormat) (_ : wire.Lawful) (msg : Message) (instanceId : UInt16),
      msg.payload.length ≤ 16 * 1024 * 1024 →
      ∃ env, parseSample wire (someipToSample wire msg instanceId .opaqueMode) = some env ∧
        (envelopeToSomeip env).serviceId = msg.serviceId ∧
        (envelopeToSomeip env).methodId = msg.methodId ∧
        (envelopeToSomeip env).clientId = msg.clientId ∧
        (envelopeToSomeip env).sessionId = msg.sessionId ∧
        (envelopeToSomeip env).messageType = msg.messageType ∧
        (envelopeToSomeip env).returnCode = msg.returnCode ∧
        (envelopeToSomeip env).payload = msg.payload := by
  intro h
  obtain ⟨env, -, -, -, -, -, -, hcode, -⟩ :=
    h .bigEndian WireFormat.bigEndian_lawful unknownMethodError 1 (by decide)
  have hok : (envelopeToSomeip env).returnCode = .eOk := rfl
  rw [hok] at hcode
  exact absurd hcode (by decide)

end SomeipGateway.Iceoryx2
