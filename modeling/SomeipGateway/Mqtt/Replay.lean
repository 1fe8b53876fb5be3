import SomeipGateway.Mqtt.Flush

/-! A message that waits out an outage in the buffer, against the same message
published live. The buffer keeps four of the six arguments of `publish_mqtt`, and
the flush supplies the other two. -/
namespace SomeipGateway.Mqtt

open Lib

section

variable {σ κ : Type} (setup : Setup σ κ)

/-- The calls a live publish of the message executes, from the same state. -/
def LiveCall (gw : MqttGateway σ) (msg : Message) (live : PublishCall) : Prop :=
  ∃ result after events,
    onSomeipMessage setup { gw with mqttConnected := true } msg = some (result, after, events) ∧
      live ∈ publishedCalls events

/-- The calls with which the item is flushed in some run from here on. -/
def ReplayedCall (gw : MqttGateway σ) (item : BufferedMqttPublish) (replayed : PublishCall) :
    Prop :=
  ∃ calls last events, Machine.runPartial (step setup) gw calls = some (last, events) ∧
    .publishMqtt replayed true (.flush item) ∈ events

/-! ### What is stored -/

/-- A message that was buffered: what it would have been published with live, and
the item of it in the queue. -/
theorem onSomeipMessage_buffered {gw after : MqttGateway σ} {msg : Message} {result : Result}
    {events : List Event} {item : BufferedMqttPublish} (hoffline : gw.mqttConnected = false)
    (hhandled : onSomeipMessage setup gw msg = some (result, after, events))
    (hstored : .buffered item ∈ events) :
    ∃ mapping, item = (outboundCall setup msg mapping).item ∧
      item ∈ after.offlineBuffer.queue ∧
      ∀ live, LiveCall setup gw msg live ↔ live = outboundCall setup msg mapping := by
  obtain ⟨admitted, base, e2e, houtbound, ⟨-, -, rfl⟩ | ⟨mapping, published, rfl, hpublish, rfl⟩⟩ :=
    onSomeipMessage_cases setup hhandled
  · cases hstored
  · have hlive : onSomeipMessage setup { gw with mqttConnected := true } msg =
        some (.success,
          { gw with
            base := base.recordSomeipToExternal (outboundCall setup msg mapping).payload.length
            e2e, mqttConnected := true },
          [.publishMqtt (outboundCall setup msg mapping) true (.message mapping)]) := by
      simp only [onSomeipMessage, houtbound, publishMqtt, Bool.not_true, Bool.false_eq_true,
        ↓reduceIte]
    simp only [publishMqtt, hoffline, Bool.not_false, ↓reduceIte] at hpublish
    cases hpush : gw.offlineBuffer.push (outboundCall setup msg mapping).item with
    | none =>
        rw [hpush] at hpublish
        cases hpublish
    | some pushed =>
        rw [hpush] at hpublish
        cases hpublish
        have hitem : item = (outboundCall setup msg mapping).item := by
          unfold bufferingEvents at hstored
          simpa using hstored
        refine ⟨mapping, hitem, ?_, fun live => ⟨?_, ?_⟩⟩
        · rw [if_neg (by decide), hitem]
          exact mem_queue_of_push hpush
        · rintro ⟨_, _, _, hlive', hmem⟩
          cases hlive.symm.trans hlive'
          exact List.mem_singleton.mp hmem
        · rintro rfl
          exact ⟨_, _, _, hlive, List.mem_singleton.mpr rfl⟩

/-! ### What is replayed -/

/-- Only flushes publish in the name of an item, and only with what it holds. -/
def FlushesItem : Event → Prop
  | .publishMqtt call _ (.flush item) => call = flushCall item
  | _ => True

theorem onSomeipMessage_flushesItem {gw after : MqttGateway σ} {msg : Message} {result : Result}
    {events : List Event}
    (h : onSomeipMessage setup gw msg = some (result, after, events)) :
    ∀ event ∈ events, FlushesItem event := by
  obtain ⟨-, base, e2e, -, ⟨-, -, rfl⟩ | ⟨mapping, published, -, hpublish, -⟩⟩ :=
    onSomeipMessage_cases setup h
  · exact List.forall_mem_nil _
  · intro event hmem
    rcases publishMqtt_message_events hpublish event hmem with
      ⟨connected, rfl⟩ | ⟨item, found, rfl⟩ | rfl
    · trivial
    · trivial
    · trivial

theorem step_flushesItem (gw : MqttGateway σ) (call : Call) (now : MqttGateway σ × List Event)
    (h : step setup gw call = some now) : ∀ event ∈ now.2, FlushesItem event := by
  cases call with
  | onSomeipMessage msg =>
      obtain ⟨⟨result, after⟩, hhandled, rfl⟩ := Option.map_eq_some_iff.mp h
      exact onSomeipMessage_flushesItem setup hhandled
  | flushOfflineBuffer =>
      cases hconnected : gw.mqttConnected with
      | true =>
          rw [step, flushOfflineBuffer_connected gw hconnected] at h
          cases h
          simp [flushEvents, FlushesItem]
      | false =>
          by_cases hqueue : gw.offlineBuffer.queue = []
          · have hround : flushOfflineBuffer (gw.offlineBuffer.size + 1) gw =
                some (.success, gw, []) := by
              simp [flushOfflineBuffer, Loop.run, flushBody, OfflineMqttRingBuffer.pop, hqueue]
            rw [step, hround] at h
            cases h
            exact List.forall_mem_nil _
          · rw [step, flushOfflineBuffer_stuck gw ⟨hconnected, hqueue⟩] at h
            cases h
  | start udpStart =>
      cases h
      exact List.forall_mem_nil _
  | stop =>
      cases h
      exact List.forall_mem_nil _
  | addServiceMapping mapping =>
      cases h
      exact List.forall_mem_nil _
  | setMqttConnected connected =>
      cases h
      exact List.forall_mem_nil _

/-- An item in the queue can be flushed, and is flushed with what it holds. -/
theorem replayedCall_iff {gw : MqttGateway σ} {item : BufferedMqttPublish}
    (hmem : item ∈ gw.offlineBuffer.queue) (replayed : PublishCall) :
    ReplayedCall setup gw item replayed ↔ replayed = flushCall item := by
  constructor
  · rintro ⟨calls, last, events, hrun, hflushed⟩
    exact Machine.forall_output_runPartial (step_flushesItem setup) hrun _ hflushed
  · rintro rfl
    have hflush := flushOfflineBuffer_connected { gw with mqttConnected := true } rfl
    refine ⟨[.setMqttConnected true, .flushOfflineBuffer],
      { gw with mqttConnected := true, offlineBuffer := gw.offlineBuffer.clear },
      flushEvents gw.offlineBuffer.queue, ?_, List.mem_map.mpr ⟨item, hmem, rfl⟩⟩
    simp only [Machine.runPartial, step, hflush, Option.map_some, List.nil_append, List.append_nil]

/-! ### Both paths -/

theorem flushCall_item_iff (msg : Message) (mapping : ServiceMapping) :
    flushCall (outboundCall setup msg mapping).item = outboundCall setup msg mapping ↔
      ¬ (setup.cls.isRequest msg.messageType = true ∧
        setup.config.useMqttV5RequestResponse = true) := by
  constructor
  · rintro hsame ⟨hrequest, hv5⟩
    have htopic := congrArg (List.length ∘ PublishCall.responseTopic) hsame
    simp only [Function.comp_apply, flushCall, outboundCall, hrequest, hv5, Bool.and_self,
      ↓reduceIte, List.length_append, List.length_nil] at htopic
    exact absurd htopic (Nat.ne_of_lt (Nat.add_pos_right _ (by decide)))
  · intro hplain
    have hrespond : (setup.cls.isRequest msg.messageType &&
        setup.config.useMqttV5RequestResponse) = false := by
      rw [Bool.eq_false_iff, ne_eq, Bool.and_eq_true]
      exact hplain
    simp only [flushCall, PublishCall.item, outboundCall, hrespond, Bool.false_eq_true, ↓reduceIte]

/-- For every message that is buffered while disconnected: however it is flushed
later, the call is the one a live publish makes, exactly if the message is not a
request under MQTT v5 request/response. -/
theorem replay_agrees_iff {gw after : MqttGateway σ} {msg : Message} {result : Result}
    {events : List Event} {item : BufferedMqttPublish} (hoffline : gw.mqttConnected = false)
    (hhandled : onSomeipMessage setup gw msg = some (result, after, events))
    (hstored : .buffered item ∈ events) :
    (∀ live replayed, LiveCall setup gw msg live → ReplayedCall setup after item replayed →
        replayed = live) ↔
      ¬ (setup.cls.isRequest msg.messageType = true ∧
        setup.config.useMqttV5RequestResponse = true) := by
  obtain ⟨mapping, hitem, hmem, hlive⟩ := onSomeipMessage_buffered setup hoffline hhandled hstored
  simp only [hlive, replayedCall_iff setup hmem, forall_eq, forall_eq_apply_imp_iff]
  rw [hitem]
  exact flushCall_item_iff setup msg mapping

end

def speedQuery : Message where
  serviceId := 1
  methodId := 0x0002
  clientId := 0x0010
  sessionId := 0x0001
  messageType := .request

def offlineGateway : MqttGateway Unit where
  base := { running := true, serviceMappings := [speedMapping] }
  offlineBuffer := { capacity := 4 }
  e2e := ()

theorem replay_agrees_event :
    ∃ result after events item,
      onSomeipMessage (plainSetup 4) offlineGateway (speedEvent [1]) =
        some (result, after, events) ∧
      ∀ live replayed, LiveCall (plainSetup 4) offlineGateway (speedEvent [1]) live →
        ReplayedCall (plainSetup 4) after item replayed → replayed = live := by
  refine ⟨_, _, _, (outboundCall (plainSetup 4) (speedEvent [1]) speedMapping).item, rfl, ?_⟩
  exact (replay_agrees_iff (plainSetup 4) rfl rfl (by decide)).mpr (by decide)

/-- A request waits out the outage and goes out without the topic on which its
sender expects the response. -/
theorem replayed_request_without_response_topic :
    ¬ ∀ (calls : List Call) (gw : MqttGateway Unit) (log : List Event),
      Machine.runPartial (step (plainSetup 4)) (fresh (plainSetup 4) () false) calls =
        some (gw, log) →
      ∀ (msg : Message) (result : Result) (after : MqttGateway Unit) (events : List Event)
        (item : BufferedMqttPublish), gw.mqttConnected = false →
      onSomeipMessage (plainSetup 4) gw msg = some (result, after, events) →
      .buffered item ∈ events →
      ∀ live replayed, LiveCall (plainSetup 4) gw msg live →
        ReplayedCall (plainSetup 4) after item replayed → replayed = live := by
  intro h
  have hreplay := h [.addServiceMapping speedMapping, .start .success] offlineGateway [] rfl
    speedQuery _ _ _ (outboundCall (plainSetup 4) speedQuery speedMapping).item rfl rfl (by decide)
    (outboundCall (plainSetup 4) speedQuery speedMapping)
    (flushCall (outboundCall (plainSetup 4) speedQuery speedMapping).item)
    ⟨_, _, _, rfl, by decide⟩
    ((replayedCall_iff (plainSetup 4) (by decide) _).mpr rfl)
  exact absurd hreplay (by decide)

end SomeipGateway.Mqtt
