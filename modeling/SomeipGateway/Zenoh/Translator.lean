import SomeipGateway.Zenoh.CborEnvelope
import SomeipGateway.Zenoh.Json
import SomeipGateway.Zenoh.Keys

/-! `ZenohTranslator`: payload encodings and the two message translations. -/
namespace SomeipGateway.Zenoh

open Lib

inductive ZenohPayloadEncoding where
  | raw
  | json
  | cbor
deriving DecidableEq

def encodePayload (encoding : ZenohPayloadEncoding) (msg : Message) : Bytes :=
  match encoding with
  | .raw => msg.payload
  | .json => payloadToJson msg
  | .cbor => buildCborEnvelope msg

/-- `decode_payload`: its answer and `out_msg` afterwards, or the exception that
leaves it. -/
def decodePayload (encoding : ZenohPayloadEncoding) (wire : Bytes) (outMsg : Message) :
    Except OutOfRange (Bool × Message) :=
  match encoding with
  | .raw => .ok (true, { outMsg with payload := wire })
  | .json => decodeJsonEnvelope wire outMsg
  | .cbor => .ok (decodeCborEnvelope wire outMsg)

def rpcish (cls : MessageClass) (type : MessageType) : Bool :=
  cls.isRequest type || cls.isResponse type || type == .requestNoReturn || type == .error ||
    type == .tpRequest || type == .tpRequestNoReturn

def someipToZenoh (cls : MessageClass) (encoding : ZenohPayloadEncoding) (msg : Message)
    (externalPrefix : Text) (mapping : ServiceMapping) : ExternalMessage where
  topicOrKey :=
    if rpcish cls msg.messageType then
      buildRpcKey externalPrefix mapping.someipServiceId mapping.someipInstanceId msg.methodId
    else
      buildKeyExpr externalPrefix mapping.someipServiceId mapping.someipInstanceId msg.methodId
  payload := encodePayload encoding msg
  sourceServiceId := msg.serviceId
  sourceMethodId := msg.methodId
  sourceInstanceId := mapping.someipInstanceId
  isRequest := cls.isRequest msg.messageType
  isNotification := msg.messageType == .notification || msg.messageType == .tpNotification
  correlationId := correlationText msg

def zenohToSomeip (encoding : ZenohPayloadEncoding) (ext : ExternalMessage) (serviceId : UInt16)
    (type : MessageType) : Except OutOfRange Message :=
  let msg : Message :=
    { serviceId, methodId := ext.sourceMethodId, clientId := 0x0000, sessionId := 0x0001,
      messageType := type, returnCode := .eOk }
  if encoding = .raw then .ok { msg with payload := ext.payload }
  else
    match decodePayload encoding ext.payload {} with
    | .error e => .error e
    | .ok (true, envelope) =>
        let msg := { msg with payload := envelope.payload }
        .ok (if encoding = .cbor then { msg with messageType := envelope.messageType } else msg)
    | .ok (false, _) => .ok { msg with payload := ext.payload }

/-! ### What decoding writes -/

theorem decodeCborEnvelope_cases (wire : Bytes) (outMsg : Message) :
    decodeCborEnvelope wire outMsg = (false, outMsg) ∨
      ∃ serviceId methodId messageType payload, decodeCborEnvelope wire outMsg =
        (true, { outMsg with serviceId, methodId, messageType, payload }) := by
  unfold decodeCborEnvelope
  cases (scanCborEnvelope wire).1 with
  | none => exact .inl rfl
  | some pairs => exact .inr ⟨_, _, _, _, rfl⟩

theorem decodeJsonEnvelope_cases (wire : Bytes) (outMsg : Message) :
    decodeJsonEnvelope wire outMsg = .error ⟨⟩ ∨
      decodeJsonEnvelope wire outMsg = .ok (false, outMsg) ∨
      ∃ payload, decodeJsonEnvelope wire outMsg = .ok (true, { outMsg with payload }) := by
  unfold decodeJsonEnvelope
  cases Text.find payloadMarker wire with
  | none => exact .inr (.inl rfl)
  | some pos =>
      dsimp only
      cases decodeJsonArray (wire.drop (pos + 11)) with
      | error e => exact .inl rfl
      | ok bytes =>
          cases bytes with
          | none => exact .inr (.inl rfl)
          | some bytes => exact .inr (.inr ⟨bytes, rfl⟩)

/-- A refused payload leaves `out_msg` as it was. An accepted one leaves its
client, session and return code, and what the encoding does not carry. -/
theorem decode_payload_all_or_nothing (encoding : ZenohPayloadEncoding) (wire : Bytes)
    (outMsg decoded : Message) (answer : Bool)
    (h : decodePayload encoding wire outMsg = .ok (answer, decoded)) :
    (answer = false → decoded = outMsg) ∧
      (answer = true →
        decoded.clientId = outMsg.clientId ∧ decoded.sessionId = outMsg.sessionId ∧
        decoded.returnCode = outMsg.returnCode ∧
        (encoding = .raw ∨ encoding = .json →
          decoded.serviceId = outMsg.serviceId ∧ decoded.methodId = outMsg.methodId ∧
          decoded.messageType = outMsg.messageType)) := by
  cases encoding with
  | raw =>
      cases h
      exact ⟨Bool.noConfusion, fun _ => ⟨rfl, rfl, rfl, fun _ => ⟨rfl, rfl, rfl⟩⟩⟩
  | json =>
      rw [decodePayload] at h
      rcases decodeJsonEnvelope_cases wire outMsg with herror | hrefused | ⟨payload, haccepted⟩
      · cases herror.symm.trans h
      · cases hrefused.symm.trans h
        exact ⟨fun _ => rfl, Bool.noConfusion⟩
      · cases haccepted.symm.trans h
        exact ⟨Bool.noConfusion, fun _ => ⟨rfl, rfl, rfl, fun _ => ⟨rfl, rfl, rfl⟩⟩⟩
  | cbor =>
      rw [decodePayload, Except.ok.injEq] at h
      rcases decodeCborEnvelope_cases wire outMsg with hrefused | ⟨_, _, _, _, haccepted⟩
      · cases hrefused.symm.trans h
        exact ⟨fun _ => rfl, Bool.noConfusion⟩
      · cases haccepted.symm.trans h
        refine ⟨Bool.noConfusion, fun _ => ⟨rfl, rfl, rfl, ?_⟩⟩
        rintro (hraw | hjson)
        · cases hraw
        · cases hjson

def heldMessage : Message where
  serviceId := 0x1234
  clientId := 5
  sessionId := 9
  returnCode := ⟨0x03⟩
  payload := [1, 2]

/-- The second element does not fit a byte; the first one was already read. -/
theorem oversized_element_refused :
    ∃ decoded, decodePayload .json (Text.ascii "\"payload\":[7,256]") heldMessage =
      .ok (false, decoded) ∧ decoded = heldMessage := by
  have hdecode : decodePayload .json (Text.ascii "\"payload\":[7,256]") heldMessage =
      .ok (false, heldMessage) := by decide
  exact ⟨_, hdecode, (decode_payload_all_or_nothing _ _ _ _ _ hdecode).1 rfl⟩

/-- The CBOR envelope gives a message back exactly when its payload is shorter
than 24 bytes, or happens to consist of 24 bytes equal to its length byte. -/
theorem cbor_round_trip_iff (msg outMsg : Message) :
    (∃ decoded, decodePayload .cbor (encodePayload .cbor msg) outMsg = .ok (true, decoded) ∧
      decoded.serviceId = msg.serviceId ∧ decoded.methodId = msg.methodId ∧
      decoded.messageType = msg.messageType ∧ decoded.payload = msg.payload) ↔
      msg.payload.length < 24 ∨ msg.payload = List.replicate 24 0x18 := by
  simp only [encodePayload, decodePayload, decodeCborEnvelope_buildCborEnvelope]
  rw [← misreadByteString_eq_self]
  constructor
  · rintro ⟨decoded, h, -, -, -, hpayload⟩
    cases h
    exact hpayload
  · intro h
    exact ⟨_, rfl, rfl, rfl, rfl, h⟩

/-- Twenty-four zero bytes come back as a 24 followed by 23 zero bytes. -/
theorem cbor_round_trip_fails :
    ¬ ∀ msg outMsg : Message, msg.payload.length ≤ 65535 →
      ∃ decoded, decodePayload .cbor (encodePayload .cbor msg) outMsg = .ok (true, decoded) ∧
        decoded.serviceId = msg.serviceId ∧ decoded.methodId = msg.methodId ∧
        decoded.messageType = msg.messageType ∧ decoded.payload = msg.payload := by
  intro h
  obtain ⟨decoded, hdecode, -, -, -, hpayload⟩ :=
    h { messageType := .notification, payload := List.replicate 24 0 } {} (by decide)
  have hwire : decodePayload .cbor
      (encodePayload .cbor { messageType := .notification, payload := List.replicate 24 0 }) {} =
      .ok (true, { messageType := .notification, payload := 24 :: List.replicate 23 0 }) := by
    decide
  rw [hwire] at hdecode
  cases hdecode
  exact absurd hpayload (by decide)

end SomeipGateway.Zenoh
