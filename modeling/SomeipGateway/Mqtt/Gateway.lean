import SomeipGateway.Common.Outbound
import SomeipGateway.Common.Translator
import SomeipGateway.Lib.Loop
import SomeipGateway.Lib.Machine

/-! `MqttGateway`: outbound publishing with an offline buffer. Every call of
`publish_mqtt` and every change of the buffer is an event of the run. -/
namespace SomeipGateway.Mqtt

open Lib

inductive MqttPayloadEncoding where
  | raw
  | json
  | someipFramed
deriving DecidableEq

/-- The fields of `MqttConfig` that the modelled functions read. The two maps
are read with `find` only. -/
structure MqttConfig (κ : Type) where
  topicPrefix : Text := Text.ascii "vehicle"
  vin : Text := Text.ascii "UNKNOWN"
  defaultSomeipInstanceId : UInt16 := 0x0001
  defaultPublishQos : Int := 1
  qosByEventId : UInt16 → Option Int := fun _ => none
  qosByMethodId : UInt16 → Option Int := fun _ => none
  outboundEncoding : MqttPayloadEncoding := .json
  offlineBufferCapacity : Nat := 256
  useMqttV5RequestResponse : Bool := true
  useE2e : Bool := false
  e2eConfig : Option κ := none

/-- The configuration and the library calls it is linked against; `serialize` is
`Message::serialize`. -/
structure Setup (σ κ : Type) where
  config : MqttConfig κ
  cls : MessageClass
  e2e : E2EProtection σ κ
  serialize : Message → Bytes

/-! ### `MqttTranslator` -/

def buildMqttTopic (topicPrefix vin : Text) (serviceId instanceId methodId : UInt16)
    (isRequest : Bool) : Text :=
  topicPrefix ++ Text.ascii "/" ++ vin ++ Text.ascii "/someip/" ++ formatServiceId serviceId ++
    Text.ascii "/" ++ formatServiceId instanceId ++ Text.ascii "/" ++
    (if isRequest then
      Text.ascii "method/" ++ formatServiceId methodId ++ Text.ascii "/request"
    else Text.ascii "event/" ++ formatServiceId methodId)

def encodePayload (serialize : Message → Bytes) (msg : Message) :
    MqttPayloadEncoding → Bytes
  | .raw => msg.payload
  | .json => payloadToJson msg
  | .someipFramed => serialize msg

/-- `deserialize` is what `Message::deserialize(_, false)` reads, if it succeeds. -/
def decodePayload (deserialize : Bytes → Option Message) (mqttPayload : Bytes) :
    MqttPayloadEncoding → Bytes
  | .raw => mqttPayload
  | .json => jsonToPayload mqttPayload
  | .someipFramed =>
      match deserialize mqttPayload with
      | some m => m.payload
      | none => []

def buildCorrelationData (clientId sessionId : UInt16) : Bytes :=
  [((clientId >>> 8) &&& 0xFF).toUInt8, (clientId &&& 0xFF).toUInt8,
    ((sessionId >>> 8) &&& 0xFF).toUInt8, (sessionId &&& 0xFF).toUInt8]

/-! ### `OfflineMqttRingBuffer` -/

structure BufferedMqttPublish where
  topic : Text
  payload : Bytes
  qos : Int := 0
  retain : Bool := false
deriving DecidableEq

structure OfflineMqttRingBuffer where
  capacity : Nat
  queue : List BufferedMqttPublish := []
deriving DecidableEq

namespace OfflineMqttRingBuffer

/-- `push`: the buffer afterwards and the item dropped from the front. Taking
the front of an empty queue is undefined. -/
def push (buffer : OfflineMqttRingBuffer) (item : BufferedMqttPublish) :
    Option (OfflineMqttRingBuffer × Option BufferedMqttPublish) :=
  if buffer.queue.length ≥ buffer.capacity then
    match buffer.queue with
    | [] => none
    | front :: rest => some ({ buffer with queue := rest ++ [item] }, some front)
  else some ({ buffer with queue := buffer.queue ++ [item] }, none)

def pop (buffer : OfflineMqttRingBuffer) :
    Option (BufferedMqttPublish × OfflineMqttRingBuffer) :=
  match buffer.queue with
  | [] => none
  | front :: rest => some (front, { buffer with queue := rest })

def size (buffer : OfflineMqttRingBuffer) : Nat := buffer.queue.length

def clear (buffer : OfflineMqttRingBuffer) : OfflineMqttRingBuffer :=
  { buffer with queue := [] }

end OfflineMqttRingBuffer

/-- What the owner of a buffer can call on it. -/
inductive BufferCall where
  | push (item : BufferedMqttPublish)
  | pop
  | clear
deriving DecidableEq

/-- One call on the buffer, with the item it hands out. -/
def OfflineMqttRingBuffer.step (buffer : OfflineMqttRingBuffer) :
    BufferCall → Option (OfflineMqttRingBuffer × List BufferedMqttPublish)
  | .push item =>
      match buffer.push item with
      | none => none
      | some (buffer, _) => some (buffer, [])
  | .pop =>
      match buffer.pop with
      | none => some (buffer, [])
      | some (item, buffer) => some (buffer, [item])
  | .clear => some (buffer.clear, [])

/-! ### The gateway -/

structure MqttGateway (σ : Type) where
  base : GatewayBase := {}
  offlineBuffer : OfflineMqttRingBuffer
  mqttConnected : Bool := false
  e2e : σ
  udpTransport : Bool := false

structure PublishCall where
  topic : Text
  payload : Bytes
  qos : Int
  retain : Bool
  responseTopic : Text := []
  correlationData : Bytes := []
deriving DecidableEq

/-- Who calls `publish_mqtt`: `on_someip_message` through a mapping, or a round
of the flush loop with the item it has taken out of the buffer. -/
inductive Origin where
  | message (via : ServiceMapping)
  | flush (item : BufferedMqttPublish)
deriving DecidableEq

inductive Event where
  | publishMqtt (call : PublishCall) (connected : Bool) (origin : Origin)
  | evicted (item : BufferedMqttPublish) (found : Nat)
  | buffered (item : BufferedMqttPublish)
deriving DecidableEq

def PublishCall.item (call : PublishCall) : BufferedMqttPublish where
  topic := call.topic
  payload := call.payload
  qos := call.qos
  retain := call.retain

/-- The events of a call that ends in the buffer, `found` items being there before. -/
def bufferingEvents (call : PublishCall) (origin : Origin) (dropped : Option BufferedMqttPublish)
    (found : Nat) : List Event :=
  .publishMqtt call false origin ::
    ((dropped.toList.map fun item => .evicted item found) ++ [.buffered call.item])

section

variable {σ κ : Type} (setup : Setup σ κ)

def publishMqtt (gw : MqttGateway σ) (call : PublishCall) (origin : Origin) :
    Option (Result × MqttGateway σ × List Event) :=
  if !gw.mqttConnected then
    match gw.offlineBuffer.push call.item with
    | none => none
    | some (buffer, dropped) =>
        some (.notConnected, { gw with offlineBuffer := buffer },
          bufferingEvents call origin dropped gw.offlineBuffer.size)
  else some (.success, gw, [.publishMqtt call true origin])

def routeSomeipToMqttTopic (msg : Message) (mapping : ServiceMapping) : Text :=
  buildMqttTopic setup.config.topicPrefix setup.config.vin mapping.someipServiceId
    mapping.someipInstanceId msg.methodId (setup.cls.isRequest msg.messageType)

def qosForOutboundEvent (eventId : UInt16) : Int :=
  (setup.config.qosByEventId eventId).getD setup.config.defaultPublishQos

def qosForOutboundRpc (methodId : UInt16) : Int :=
  (setup.config.qosByMethodId methodId).getD 1

def outboundCall (msg : Message) (mapping : ServiceMapping) : PublishCall :=
  let isRequest := setup.cls.isRequest msg.messageType
  let topic := routeSomeipToMqttTopic setup msg mapping
  let respond := isRequest && setup.config.useMqttV5RequestResponse
  { topic
    payload := encodePayload setup.serialize msg setup.config.outboundEncoding
    qos := if isRequest then qosForOutboundRpc setup msg.methodId
      else qosForOutboundEvent setup msg.methodId
    retain := false
    responseTopic := if respond then topic ++ Text.ascii "/response" else []
    correlationData := if respond then buildCorrelationData msg.clientId msg.sessionId else [] }

def onSomeipMessage (gw : MqttGateway σ) (msg : Message) :
    Option (Result × MqttGateway σ × List Event) :=
  let config := setup.config
  match admitOutbound setup.e2e config.useE2e config.e2eConfig config.defaultSomeipInstanceId
      gw.base gw.e2e msg with
  | (.error result, base, e2e) => some (result, { gw with base, e2e }, [])
  | (.ok mapping, base, e2e) =>
      let call := outboundCall setup msg mapping
      match publishMqtt { gw with base, e2e } call (.message mapping) with
      | none => none
      | some (result, gw, events) =>
          let gw :=
            if result = .success then
              { gw with base := gw.base.recordSomeipToExternal call.payload.length }
            else gw
          some (result, gw, events)

/-- One round of `flush_offline_buffer`; the value is absent when a publish
inside the loop is undefined. -/
def flushBody : MqttGateway σ × List Event →
    (MqttGateway σ × List Event) ⊕ Option (MqttGateway σ × List Event)
  | (gw, events) =>
      match gw.offlineBuffer.pop with
      | none => .inr (some (gw, events))
      | some (item, buffer) =>
          match publishMqtt { gw with offlineBuffer := buffer }
              { topic := item.topic, payload := item.payload, qos := item.qos
                retain := item.retain } (.flush item) with
          | none => .inr none
          | some (_, gw, more) => .inl (gw, events ++ more)

def flushOfflineBuffer (fuel : Nat) (gw : MqttGateway σ) :
    Option (Result × MqttGateway σ × List Event) :=
  match Loop.run flushBody fuel (gw, []) with
  | some (some (gw, events)) => some (.success, gw, events)
  | _ => none

def start (gw : MqttGateway σ) (udpStart : Result) : Result × MqttGateway σ :=
  if gw.udpTransport ∧ udpStart ≠ .success then (udpStart, gw)
  else (.success, { gw with mqttConnected := false, base := gw.base.setRunning true })

def stop (gw : MqttGateway σ) : Result × MqttGateway σ :=
  (.success, { gw with base := gw.base.setRunning false })

def fresh (e2e : σ) (udpTransport : Bool) : MqttGateway σ where
  offlineBuffer := { capacity := setup.config.offlineBufferCapacity }
  e2e := e2e
  udpTransport := udpTransport

def notificationCallback (gw : MqttGateway σ) (n : EventNotification) :
    Option (Result × MqttGateway σ × List Event) :=
  onSomeipMessage setup gw (notificationMessage n)

inductive Call where
  | start (udpStart : Result)
  | stop
  | addServiceMapping (mapping : ServiceMapping)
  | onSomeipMessage (msg : Message)
  | setMqttConnected (connected : Bool)
  | flushOfflineBuffer

/-- One call on the gateway. A flush gets one round more than it has items,
which is all it needs unless it puts items back. -/
def step (gw : MqttGateway σ) : Call → Option (MqttGateway σ × List Event)
  | .start udpStart => some ((start gw udpStart).2, [])
  | .stop => some ((stop gw).2, [])
  | .addServiceMapping mapping => some ({ gw with base := gw.base.addServiceMapping mapping }, [])
  | .onSomeipMessage msg => (onSomeipMessage setup gw msg).map Prod.snd
  | .setMqttConnected connected => some ({ gw with mqttConnected := connected }, [])
  | .flushOfflineBuffer =>
      (flushOfflineBuffer (gw.offlineBuffer.size + 1) gw).map Prod.snd

end

/-- The default configuration with a given offline capacity, raw payloads and no
protection; frames are not used. -/
def plainSetup (capacity : Nat) : Setup Unit Unit where
  config := { outboundEncoding := .raw, offlineBufferCapacity := capacity }
  cls := .exact
  e2e :=
    { validate := fun state _ _ => (.success, state)
      protect := fun state msg _ => (msg, state) }
  serialize := Message.payload

end SomeipGateway.Mqtt
