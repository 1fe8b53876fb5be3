import SomeipGateway.Iceoryx2.Translator
import SomeipGateway.Mqtt.Gateway

/-! Typed translation goes one way only: `payload_to_json` describes a message as
a JSON text, and `json_to_payload` hands that text on as if it were a payload. -/
namespace SomeipGateway

open Lib

theorem jsonToPayload_payloadToJson_ne (msg : Message) :
    jsonToPayload (payloadToJson msg) ≠ msg.payload := by
  intro h
  have hlength := (length_payloadToJson msg).1
  rw [← congrArg List.length h] at hlength
  exact Nat.lt_irrefl _ hlength

/-- A typed sample is either refused or carries its text for a payload. The
length field wraps at 2 ^ 32, but a text that long would need a payload longer
than any sample is accepted with. -/
theorem envelopeToSomeip_parseSample_ne {wire : WireFormat} (hwire : wire.Lawful) (msg : Message)
    (instanceId : UInt16) {env : Iceoryx2.Iceoryx2Envelope}
    (hparse : Iceoryx2.parseSample wire (Iceoryx2.someipToSample wire msg instanceId .typedMode) =
      some env) : (Iceoryx2.envelopeToSomeip env).payload ≠ msg.payload := by
  obtain ⟨⟨env', pos⟩, hread, henv⟩ := Option.map_eq_some_iff.mp hparse
  cases henv
  obtain ⟨hmode, hlength, hsmall⟩ :=
    Iceoryx2.deserializeEnvelope_payload hwire (List.prefix_refl _) hread
  have hmode : env'.mode = .typedMode := hmode
  have hlength : env'.payload.length = (UInt32.ofNat (payloadToJson msg).length).toNat := hlength
  obtain ⟨hlonger, hbounded⟩ := length_payloadToJson msg
  intro h
  simp only [Iceoryx2.envelopeToSomeip, hmode, ↓reduceIte, jsonToPayload] at h
  rw [h] at hlength hsmall
  rw [UInt32.toNat_ofNat'] at hlength
  unfold Iceoryx2.maxPayloadLength at hsmall
  omega

/-- No message comes back, on either path. -/
theorem typed_payload_never_restored {wire : WireFormat} (hwire : wire.Lawful)
    (serialize : Message → Bytes) (deserialize : Bytes → Option Message) (msg : Message)
    (instanceId : UInt16) :
    Mqtt.decodePayload deserialize (Mqtt.encodePayload serialize msg .json) .json ≠ msg.payload ∧
      ¬ ∃ env, Iceoryx2.parseSample wire
          (Iceoryx2.someipToSample wire msg instanceId .typedMode) = some env ∧
        (Iceoryx2.envelopeToSomeip env).payload = msg.payload := by
  constructor
  · exact jsonToPayload_payloadToJson_ne msg
  · rintro ⟨env, hparse, hpayload⟩
    exact envelopeToSomeip_parseSample_ne hwire msg instanceId hparse hpayload

theorem empty_payload_never_restored :
    Mqtt.decodePayload (fun _ => none) (Mqtt.encodePayload Message.payload {} .json) .json ≠ [] ∧
      ¬ ∃ env, Iceoryx2.parseSample .bigEndian
          (Iceoryx2.someipToSample .bigEndian {} 0x0001 .typedMode) = some env ∧
        (Iceoryx2.envelopeToSomeip env).payload = [] :=
  typed_payload_never_restored WireFormat.bigEndian_lawful Message.payload (fun _ => none) {} 0x0001

/-- The text of a three-byte notification, which both decoders return as it is. -/
theorem typed_payload_lost :
    let msg : Message :=
      { serviceId := 0x1234, methodId := 0x8001, messageType := .notification
        payload := [1, 2, 255] }
    ¬ (Mqtt.decodePayload (fun _ => none)
          (Mqtt.encodePayload Message.payload msg .json) .json = msg.payload ∧
        ∃ env, Iceoryx2.parseSample .bigEndian
            (Iceoryx2.someipToSample .bigEndian msg 0x0001 .typedMode) = some env ∧
          (Iceoryx2.envelopeToSomeip env).payload = msg.payload) := by
  intro msg h
  -- the text begins with a brace, the payload with 1
  have hhead := congrArg List.head? h.1
  revert hhead
  decide

end SomeipGateway
