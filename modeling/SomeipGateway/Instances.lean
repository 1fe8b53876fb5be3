import SomeipGateway.Dbus.Gateway
import SomeipGateway.Dds.Gateway
import SomeipGateway.Mqtt.Gateway
import SomeipGateway.Ros2.Gateway

/-! Which instance a notification is addressed to. An event-group callback
rebuilds a message without the instance id, and the four gateways that look the
mapping up by a default instance then publish through whatever they find. -/
namespace SomeipGateway

open Lib

/-! ### MQTT -/

namespace Mqtt

variable {σ κ : Type}

/-- `publish_mqtt` is defined: offline, it never takes the front of an empty queue. -/
def MqttGateway.canPublish (gw : MqttGateway σ) : Bool :=
  gw.mqttConnected || decide (0 < gw.offlineBuffer.capacity) || !gw.offlineBuffer.queue.isEmpty

def publishedVia (result : Option (Result × MqttGateway σ × List Event)) : List ServiceMapping :=
  match result with
  | none => []
  | some (_, _, events) => events.filterMap fun
      | .publishMqtt _ _ (.message via) => some via
      | _ => none

theorem publishedVia_publishMqtt (gw : MqttGateway σ) (call : PublishCall)
    (mapping : ServiceMapping) :
    publishedVia (publishMqtt gw call (.message mapping)) =
      if gw.canPublish then [mapping] else [] := by
  cases hconnected : gw.mqttConnected with
  | true => simp [publishMqtt, MqttGateway.canPublish, hconnected, publishedVia]
  | false =>
      simp only [publishMqtt, hconnected, Bool.not_false, ↓reduceIte]
      unfold OfflineMqttRingBuffer.push MqttGateway.canPublish
      cases hqueue : gw.offlineBuffer.queue with
      | nil =>
          by_cases hcapacity : gw.offlineBuffer.capacity = 0
          · simp [hcapacity, hconnected, publishedVia]
          · have hpos : 0 < gw.offlineBuffer.capacity := by omega
            simp [hcapacity, hpos, publishedVia, bufferingEvents]
      | cons front rest =>
          by_cases hfull : (front :: rest).length ≥ gw.offlineBuffer.capacity
          · simp only [if_pos hfull]
            simp [publishedVia, bufferingEvents]
          · simp only [if_neg hfull]
            simp [publishedVia, bufferingEvents]

theorem publishedVia_onSomeipMessage (setup : Setup σ κ) (gw : MqttGateway σ) (msg : Message) :
    publishedVia (onSomeipMessage setup gw msg) =
      admittedVia (admitOutbound setup.e2e setup.config.useE2e setup.config.e2eConfig
        setup.config.defaultSomeipInstanceId gw.base gw.e2e msg).1 fun _ => gw.canPublish := by
  simp only [onSomeipMessage]
  rcases admitOutbound setup.e2e setup.config.useE2e setup.config.e2eConfig
    setup.config.defaultSomeipInstanceId gw.base gw.e2e msg with ⟨result | mapping, base, e2e⟩
  · rfl
  · have hpublish := publishedVia_publishMqtt { gw with base, e2e }
      (outboundCall setup msg mapping) mapping
    rw [show MqttGateway.canPublish { gw with base, e2e } = gw.canPublish from rfl] at hpublish
    dsimp only [admittedVia]
    rw [← hpublish]
    cases publishMqtt { gw with base, e2e } (outboundCall setup msg mapping) (.message mapping) with
    | none => rfl
    | some published => rfl

end Mqtt

/-! ### D-Bus -/

namespace Dbus

def publishedVia (outputs : List Output) : List ServiceMapping :=
  outputs.filterMap fun
    | .emitSignal _ _ _ _ _ via => some via
    | _ => none

/-- The messages `on_someip_message` looks at: notifications and requests. -/
def handles (cls : MessageClass) (msg : Message) : Bool :=
  msg.messageType == .notification || msg.messageType == .tpNotification ||
    cls.isRequest msg.messageType

theorem publishedVia_onSomeipMessage (cls : MessageClass) (config : DbusConfig)
    (emits : Bool) (gw : DbusGateway) {msg : Message} (h : handles cls msg = true) :
    publishedVia (onSomeipMessage cls config emits gw msg).2.2 =
      admittedVia (outboundRoute gw.base config.defaultSomeipInstanceId msg)
        fun _ => gw.canEmit && emits := by
  unfold onSomeipMessage
  cases outboundRoute gw.base config.defaultSomeipInstanceId msg with
  | error result => rfl
  | ok mapping =>
      have hignored : (!(msg.messageType == .notification ||
          msg.messageType == .tpNotification) && !cls.isRequest msg.messageType) = false := by
        rw [← Bool.not_or]
        exact congrArg not h
      simp only [hignored, Bool.false_eq_true, ↓reduceIte]
      cases gw.canEmit <;> cases emits <;> simp [publishedVia, admittedVia]

theorem publishedVia_notificationCallback (cls : MessageClass) (config : DbusConfig)
    (emits : Bool) (gw : DbusGateway) (n : EventNotification) :
    publishedVia (notificationCallback cls config emits gw n).2.2 =
      admittedVia (outboundRoute gw.base config.defaultSomeipInstanceId (notificationMessage n))
        fun _ => gw.canEmit && emits :=
  publishedVia_onSomeipMessage cls config emits gw rfl

end Dbus

/-! ### DDS -/

namespace Dds

variable {σ κ : Type}

def DdsGateway.canWrite (outcome : WriteOutcome) (gw : DdsGateway σ) (msg : Message)
    (mapping : ServiceMapping) : Bool :=
  decide (0 < gw.participant) &&
    ((gw.writers.any fun w => w.topic == resolveDdsTopic msg mapping) ||
      decide (0 < outcome.createWriter)) &&
    ((outboundMessage msg mapping).payload.isEmpty || outcome.alloc) && outcome.write

/-- What one sees of a message's write is seen of the mapping it is written for. -/
theorem map_onSomeipMessage {β : Type} {see : Write → β} (expected : ServiceMapping → β)
    (setup : Setup σ κ) (outcome : WriteOutcome) (gw : DdsGateway σ) (msg : Message)
    (h : ∀ base e2e mapping,
      (writeSomeip setup outcome { gw with base, e2e } (outboundMessage msg mapping)
        (resolveDdsTopic msg mapping) mapping mapping.someipInstanceId).2.2.map see =
          if gw.canWrite outcome msg mapping then [expected mapping] else []) :
    (onSomeipMessage setup outcome gw msg).2.2.map see =
      (admittedVia (admitOutbound setup.e2e setup.config.useE2e setup.config.e2eConfig
        setup.config.defaultSomeipInstanceId gw.base gw.e2e msg).1
        fun mapping => gw.canWrite outcome msg mapping).map expected := by
  unfold onSomeipMessage
  dsimp only
  generalize admitOutbound setup.e2e setup.config.useE2e setup.config.e2eConfig
    setup.config.defaultSomeipInstanceId gw.base gw.e2e msg = admitted
  obtain ⟨result | mapping, base, e2e⟩ := admitted
  · rfl
  · dsimp only [admittedVia]
    rw [apply_ite (List.map expected), apply_ite (fun answer : Result × DdsGateway σ × List Write =>
      answer.2.2.map see), ite_self]
    exact h base e2e mapping

theorem publishedVia_onSomeipMessage (setup : Setup σ κ) (outcome : WriteOutcome)
    (gw : DdsGateway σ) (msg : Message) :
    (onSomeipMessage setup outcome gw msg).2.2.map Write.via =
      admittedVia (admitOutbound setup.e2e setup.config.useE2e setup.config.e2eConfig
        setup.config.defaultSomeipInstanceId gw.base gw.e2e msg).1
        fun mapping => gw.canWrite outcome msg mapping := by
  rw [map_onSomeipMessage id setup outcome gw msg]
  · exact List.map_id _
  · intro base e2e mapping
    rw [writeSomeip_writes, apply_ite (List.map Write.via)]
    rfl

end Dds

/-! ### ROS 2 -/

namespace Ros2

variable {σ κ : Type}

def Output.via : Output → ServiceMapping
  | .publish _ _ _ via => via
  | .publishCallback _ _ via => via

theorem publishedVia_publishToRos2Side (creates : Bool) (gw : Ros2Gateway σ) (topic : Text)
    (qos : Ros2QosProfile) (data : Bytes) (via : ServiceMapping) :
    (publishToRos2Side creates gw topic qos data via).elim []
        (fun published => published.2.map Output.via) =
      if gw.canPublish creates topic then [via] else [] := by
  unfold publishToRos2Side Ros2Gateway.canPublish
  by_cases hnode : gw.node = true
  · rw [if_pos hnode, if_pos hnode, ← List.isSome_find?]
    cases gw.pubs.find? fun pub => pub.1 == topic with
    | some pub => rfl
    | none => cases creates <;> rfl
  · rw [if_neg hnode, if_neg hnode]
    cases gw.publishCallback <;> rfl

theorem publishedVia_onSomeipMessage (setup : Setup σ κ) (creates : Bool) (gw : Ros2Gateway σ)
    (msg : Message) :
    (onSomeipMessage setup creates gw msg).2.2.map Output.via =
      admittedVia (admitOutbound setup.e2e setup.config.useE2e setup.config.e2eConfig
        setup.config.defaultSomeipInstanceId gw.base gw.e2e msg).1
        fun mapping => gw.canPublish creates (routeSomeipToRos2Topic setup msg mapping) := by
  simp only [onSomeipMessage]
  rcases admitOutbound setup.e2e setup.config.useE2e setup.config.e2eConfig
    setup.config.defaultSomeipInstanceId gw.base gw.e2e msg with ⟨result | mapping, base, e2e⟩
  · rfl
  · dsimp only [admittedVia]
    have hpublish := publishedVia_publishToRos2Side creates { gw with base, e2e }
      (routeSomeipToRos2Topic setup msg mapping)
      (qosForSomeipTransport setup.config.defaultSomeipTransport) msg.payload mapping
    rw [show Ros2Gateway.canPublish creates { gw with base, e2e } = gw.canPublish creates from rfl]
      at hpublish
    rw [← hpublish]
    cases publishToRos2Side creates { gw with base, e2e } (routeSomeipToRos2Topic setup msg mapping)
      (qosForSomeipTransport setup.config.defaultSomeipTransport) msg.payload mapping with
    | none => rfl
    | some published => rfl

end Ros2

/-! ### The four gateways together -/

/-- On each of the four gateways, while running, everything published for a
notification goes through a mapping of its own service and instance exactly when
it is of the instance the gateway takes its service for, or nothing gets out: the
first mapping of that instance is not for the way out, or a check, the library or
the channel is in the way. -/
theorem notification_addressed_iff {σ κ : Type} (n : EventNotification) :
    (∀ (setup : Mqtt.Setup σ κ) (gw : Mqtt.MqttGateway σ), gw.base.running = true →
      ((∀ via ∈ Mqtt.publishedVia (Mqtt.notificationCallback setup gw n),
          Addressed gw.base.serviceMappings n via) ↔
        GuessesInstance gw.base.serviceMappings setup.config.defaultSomeipInstanceId n fun _ =>
          (validateInbound setup.e2e setup.config.useE2e setup.config.e2eConfig gw.e2e
            (notificationMessage n)).1 = .success ∧ gw.canPublish = true)) ∧
    (∀ (cls : MessageClass) (config : Dbus.DbusConfig) (emits : Bool) (gw : Dbus.DbusGateway),
      gw.base.running = true →
      ((∀ via ∈ Dbus.publishedVia (Dbus.notificationCallback cls config emits gw n).2.2,
          Addressed gw.base.serviceMappings n via) ↔
        GuessesInstance gw.base.serviceMappings config.defaultSomeipInstanceId n fun _ =>
          (gw.canEmit && emits) = true)) ∧
    (∀ (setup : Dds.Setup σ κ) (outcome : Dds.WriteOutcome) (gw : Dds.DdsGateway σ),
      gw.base.running = true →
      ((∀ via ∈ (Dds.notificationCallback setup outcome gw n).2.2.map Dds.Write.via,
          Addressed gw.base.serviceMappings n via) ↔
        GuessesInstance gw.base.serviceMappings setup.config.defaultSomeipInstanceId n fun m =>
          (validateInbound setup.e2e setup.config.useE2e setup.config.e2eConfig gw.e2e
            (notificationMessage n)).1 = .success ∧
          gw.canWrite outcome (notificationMessage n) m = true)) ∧
    (∀ (setup : Ros2.Setup σ κ) (creates : Bool) (gw : Ros2.Ros2Gateway σ),
      gw.base.running = true →
      ((∀ via ∈ (Ros2.notificationCallback setup creates gw n).2.2.map Ros2.Output.via,
          Addressed gw.base.serviceMappings n via) ↔
        GuessesInstance gw.base.serviceMappings setup.config.defaultSomeipInstanceId n fun m =>
          (validateInbound setup.e2e setup.config.useE2e setup.config.e2eConfig gw.e2e
            (notificationMessage n)).1 = .success ∧
          gw.canPublish creates
            (Ros2.routeSomeipToRos2Topic setup (notificationMessage n) m) = true)) := by
  refine ⟨?_, ?_, ?_, ?_⟩
  · intro setup gw hrun
    rw [Mqtt.notificationCallback, Mqtt.publishedVia_onSomeipMessage]
    exact addressed_iff hrun _ n (admitOutbound_ok _ _ _ _ _ _ _) _
  · intro cls config emits gw hrun
    rw [Dbus.publishedVia_notificationCallback,
      addressed_iff hrun _ n (fun m => by rw [and_true]) (fun _ => gw.canEmit && emits)]
    simp only [true_and]
  · intro setup outcome gw hrun
    rw [Dds.notificationCallback, Dds.publishedVia_onSomeipMessage]
    exact addressed_iff hrun _ n (admitOutbound_ok _ _ _ _ _ _ _) _
  · intro setup creates gw hrun
    rw [Ros2.notificationCallback, Ros2.publishedVia_onSomeipMessage]
    exact addressed_iff hrun _ n (admitOutbound_ok _ _ _ _ _ _ _) _

/-- A seat heating, by an identifier that is a topic in all the worlds, and with a
service id whose D-Bus names are valid. -/
def seatMapping : ServiceMapping :=
  { someipServiceId := 0xB100, someipInstanceId := 0x0001
    externalIdentifier := Text.ascii "/vehicle/seat/heating" }

def seatBase : GatewayBase := { running := true, serviceMappings := [seatMapping] }

def seatEvent (instanceId : UInt16) : EventNotification :=
  { serviceId := 0xB100, instanceId, eventId := 0x8001, eventData := [] }

/-- Instance 1 is mapped and notifies: all four publish it as instance 1. -/
theorem notification_of_mapped_instance_addressed :
    (∀ via ∈ Mqtt.publishedVia (Mqtt.notificationCallback (Mqtt.plainSetup 4)
        { base := seatBase, offlineBuffer := { capacity := 4 }, mqttConnected := true, e2e := () }
          (seatEvent 1)), Addressed seatBase.serviceMappings (seatEvent 1) via) ∧
    (∀ via ∈ Dbus.publishedVia (Dbus.notificationCallback .exact {} true
        { base := seatBase, bus := true } (seatEvent 1)).2.2,
      Addressed seatBase.serviceMappings (seatEvent 1) via) ∧
    (∀ via ∈ (Dds.notificationCallback Dds.plainSetup {}
        { base := seatBase, participant := 1, readerThread := true, readerStop := false, e2e := () }
          (seatEvent 1)).2.2.map Dds.Write.via,
      Addressed seatBase.serviceMappings (seatEvent 1) via) ∧
    (∀ via ∈ (Ros2.notificationCallback Ros2.plainSetup true
        { base := seatBase, e2e := (), node := true } (seatEvent 1)).2.2.map Ros2.Output.via,
      Addressed seatBase.serviceMappings (seatEvent 1) via) := by
  obtain ⟨hmqtt, hdbus, hdds, hros2⟩ :=
    notification_addressed_iff (σ := Unit) (κ := Unit) (seatEvent 1)
  have hguess (used : ServiceMapping → Prop) :
      GuessesInstance seatBase.serviceMappings 0x0001 (seatEvent 1) used := fun _ => rfl
  exact ⟨(hmqtt _ _ rfl).mpr (hguess _), (hdbus _ _ _ _ rfl).mpr (hguess _),
    (hdds _ _ _ rfl).mpr (hguess _), (hros2 _ _ _ rfl).mpr (hguess _)⟩

/-- Only instance 1 is mapped, and instance 2 notifies: all four publish it as
instance 1. -/
theorem notification_of_unmapped_instance_published :
    ¬ (∀ via ∈ Mqtt.publishedVia (Mqtt.notificationCallback (Mqtt.plainSetup 4)
        { base := seatBase, offlineBuffer := { capacity := 4 }, mqttConnected := true, e2e := () }
          (seatEvent 2)), Addressed seatBase.serviceMappings (seatEvent 2) via) ∧
    ¬ (∀ via ∈ Dbus.publishedVia (Dbus.notificationCallback .exact {} true
        { base := seatBase, bus := true } (seatEvent 2)).2.2,
      Addressed seatBase.serviceMappings (seatEvent 2) via) ∧
    ¬ (∀ via ∈ (Dds.notificationCallback Dds.plainSetup {}
        { base := seatBase, participant := 1, readerThread := true, readerStop := false, e2e := () }
          (seatEvent 2)).2.2.map Dds.Write.via,
      Addressed seatBase.serviceMappings (seatEvent 2) via) ∧
    ¬ (∀ via ∈ (Ros2.notificationCallback Ros2.plainSetup true
        { base := seatBase, e2e := (), node := true } (seatEvent 2)).2.2.map Ros2.Output.via,
      Addressed seatBase.serviceMappings (seatEvent 2) via) := by
  have hwrong : ¬ Addressed seatBase.serviceMappings (seatEvent 2) seatMapping :=
    fun h => absurd h.inst (by decide)
  refine ⟨fun h => hwrong (h seatMapping ?_), fun h => hwrong (h seatMapping ?_),
    fun h => hwrong (h seatMapping ?_), fun h => hwrong (h seatMapping ?_)⟩
  all_goals decide

end SomeipGateway
