import SomeipGateway.Mqtt.Statistics

/-! The three kinds of topic under a service instance, as documented, against the
one Boolean from which `build_mqtt_topic` chooses among two of them. -/
namespace SomeipGateway.Mqtt

open Lib

section

variable {σ κ : Type} (setup : Setup σ κ)

/-- What every topic of a service instance starts with. -/
def instanceTopic (mapping : ServiceMapping) : Text :=
  setup.config.topicPrefix ++ Text.ascii "/" ++ setup.config.vin ++ Text.ascii "/someip/" ++
    formatServiceId mapping.someipServiceId ++ Text.ascii "/" ++
    formatServiceId mapping.someipInstanceId ++ Text.ascii "/"

def documentedEventTopic (mapping : ServiceMapping) (id : UInt16) : Text :=
  instanceTopic setup mapping ++ (Text.ascii "event/" ++ formatServiceId id)

def documentedRequestTopic (mapping : ServiceMapping) (id : UInt16) : Text :=
  instanceTopic setup mapping ++
    (Text.ascii "method/" ++ formatServiceId id ++ Text.ascii "/request")

def documentedResponseTopic (mapping : ServiceMapping) (id : UInt16) : Text :=
  instanceTopic setup mapping ++
    (Text.ascii "method/" ++ formatServiceId id ++ Text.ascii "/response")

def IsAnswer (type : MessageType) : Prop := type = .response ∨ type = .error

/-- A topic for the message, as the documentation has it. In particular an answer
shares it with no event of the same id. -/
structure TopicAsDocumented (mapping : ServiceMapping) (msg : Message) (topic : Text) : Prop where
  event : topic = documentedEventTopic setup mapping msg.methodId ↔
    msg.messageType = .notification
  request : topic = documentedRequestTopic setup mapping msg.methodId ↔
    setup.cls.isRequest msg.messageType = true
  response : IsAnswer msg.messageType → topic = documentedResponseTopic setup mapping msg.methodId
  apart : IsAnswer msg.messageType → ∀ event : Message, event.messageType = .notification →
    event.methodId = msg.methodId → routeSomeipToMqttTopic setup event mapping ≠ topic

/-! ### The kinds differ, whatever the prefix and the VIN -/

/-- Topics of one instance whose last levels have different lengths. -/
theorem topic_ne_of_length {mapping : ServiceMapping} {levels levels' : Text}
    (h : levels.length ≠ levels'.length) :
    instanceTopic setup mapping ++ levels ≠ instanceTopic setup mapping ++ levels' := by
  intro hsame
  exact h (congrArg List.length (List.append_cancel_left hsame))

theorem documentedEventTopic_ne_request (mapping : ServiceMapping) (id : UInt16) :
    documentedEventTopic setup mapping id ≠ documentedRequestTopic setup mapping id := by
  apply topic_ne_of_length
  simp only [List.length_append, length_formatServiceId]
  decide

theorem documentedRequestTopic_ne_response (mapping : ServiceMapping) (id : UInt16) :
    documentedRequestTopic setup mapping id ≠ documentedResponseTopic setup mapping id := by
  apply topic_ne_of_length
  simp only [List.length_append, length_formatServiceId]
  decide

theorem routeSomeipToMqttTopic_eq (msg : Message) (mapping : ServiceMapping) :
    routeSomeipToMqttTopic setup msg mapping =
      if setup.cls.isRequest msg.messageType then documentedRequestTopic setup mapping msg.methodId
      else documentedEventTopic setup mapping msg.methodId := by
  unfold routeSomeipToMqttTopic buildMqttTopic documentedRequestTopic documentedEventTopic
    instanceTopic
  split_ifs
  · rfl
  · rfl

/-! ### What the gateway publishes on -/

/-- The topic of a message is the documented one exactly for notifications, and
for what counts as a request and is no answer. -/
theorem topicAsDocumented_iff (mapping : ServiceMapping) (msg : Message) :
    TopicAsDocumented setup mapping msg (routeSomeipToMqttTopic setup msg mapping) ↔
      msg.messageType = .notification ∨
        setup.cls.isRequest msg.messageType = true ∧ ¬ IsAnswer msg.messageType := by
  rw [routeSomeipToMqttTopic_eq]
  cases hrequest : setup.cls.isRequest msg.messageType with
  | true =>
      have hevent : msg.messageType ≠ .notification := by
        intro htype
        rw [htype, setup.cls.notification_not_isRequest] at hrequest
        contradiction
      rw [if_pos rfl]
      constructor
      · intro hdocumented
        refine .inr ⟨rfl, fun hanswer => ?_⟩
        exact documentedRequestTopic_ne_response setup mapping msg.methodId
          (hdocumented.response hanswer)
      · rintro (htype | ⟨-, hanswer⟩)
        · exact absurd htype hevent
        · refine ⟨?_, ?_, fun h => absurd h hanswer, fun h => absurd h hanswer⟩
          · exact iff_of_false (documentedEventTopic_ne_request setup mapping _).symm hevent
          · exact iff_of_true rfl hrequest
  | false =>
      rw [if_neg (by decide)]
      constructor
      · intro hdocumented
        exact .inl (hdocumented.event.mp rfl)
      · rintro (htype | ⟨hrequest', -⟩)
        · have hanswer : ¬ IsAnswer msg.messageType := by
            rw [htype]
            exact fun h => h.elim (by decide) (by decide)
          refine ⟨iff_of_true rfl htype, ?_, fun h => absurd h hanswer, fun h => absurd h hanswer⟩
          refine iff_of_false (documentedEventTopic_ne_request setup mapping _) ?_
          rw [hrequest]
          decide
        · cases hrequest'

theorem onSomeipMessage_call {gw after : MqttGateway σ} {msg : Message} {result : Result}
    {events : List Event} {call : PublishCall} {connected : Bool} {mapping : ServiceMapping}
    (hhandled : onSomeipMessage setup gw msg = some (result, after, events))
    (hmem : .publishMqtt call connected (.message mapping) ∈ events) :
    call = outboundCall setup msg mapping := by
  obtain ⟨-, base, e2e, -, ⟨-, -, rfl⟩ | ⟨found, published, -, hpublish, -⟩⟩ :=
    onSomeipMessage_cases setup hhandled
  · cases hmem
  · rcases publishMqtt_message_events hpublish _ hmem with
      ⟨_, hsame⟩ | ⟨item, found, hsame⟩ | hsame
    · cases hsame
      rfl
    · cases hsame
    · cases hsame

/-- For every message that is forwarded, through whatever mapping: it goes to its
documented topic exactly if it is a notification, or counts as a request and is
neither a response nor an error. -/
theorem forwarded_topic_documented_iff {gw after : MqttGateway σ} {msg : Message} {result : Result}
    {events : List Event} {call : PublishCall} {connected : Bool} {mapping : ServiceMapping}
    (hhandled : onSomeipMessage setup gw msg = some (result, after, events))
    (hforwarded : .publishMqtt call connected (.message mapping) ∈ events) :
    TopicAsDocumented setup mapping msg call.topic ↔
      msg.messageType = .notification ∨
        setup.cls.isRequest msg.messageType = true ∧
          ¬ (msg.messageType = .response ∨ msg.messageType = .error) := by
  rw [onSomeipMessage_call setup hhandled hforwarded]
  exact topicAsDocumented_iff setup mapping msg

end

def speedGateway : MqttGateway Unit where
  base := { running := true, serviceMappings := [speedMapping] }
  offlineBuffer := { capacity := 4 }
  mqttConnected := true
  e2e := ()

theorem event_topic_documented :
    ∃ result after events, ∃ call : PublishCall,
      onSomeipMessage (plainSetup 4) speedGateway (speedEvent [1]) =
        some (result, after, events) ∧
      .publishMqtt call true (.message speedMapping) ∈ events ∧
      TopicAsDocumented (plainSetup 4) speedMapping (speedEvent [1]) call.topic := by
  have hhandled : onSomeipMessage (plainSetup 4) speedGateway (speedEvent [1]) =
      some (.success, _, [.publishMqtt (outboundCall (plainSetup 4) (speedEvent [1]) speedMapping)
        true (.message speedMapping)]) := rfl
  refine ⟨_, _, _, _, hhandled, List.mem_singleton.mpr rfl, ?_⟩
  exact (forwarded_topic_documented_iff (plainSetup 4) hhandled
    (List.mem_singleton.mpr rfl)).mpr (.inl rfl)

/-- The response to method 0x8001 goes to the topic of event 0x8001. -/
theorem response_on_event_topic :
    ¬ ∀ (gw after : MqttGateway Unit) (msg : Message) (result : Result) (events : List Event)
      (call : PublishCall) (connected : Bool) (mapping : ServiceMapping),
      gw.base.running = true →
      onSomeipMessage (plainSetup 4) gw msg = some (result, after, events) →
      .publishMqtt call connected (.message mapping) ∈ events →
      TopicAsDocumented (plainSetup 4) mapping msg call.topic := by
  intro h
  let response : Message := { speedEvent [1] with messageType := .response }
  have hdocumented := h speedGateway _ response _ _
    (outboundCall (plainSetup 4) response speedMapping) true speedMapping rfl rfl (by decide)
  exact hdocumented.apart (.inl rfl) (speedEvent [1]) rfl rfl (by decide)

end SomeipGateway.Mqtt
