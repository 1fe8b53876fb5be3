import SomeipGateway.Lib.Path
import SomeipGateway.Mqtt.Replay

/-! All topics that the MQTT side ever uses share one namespace: those of
`build_mqtt_topic`, the response topic of a request, and those of the static
builders. Together with the correlation data they address a reply. -/
namespace SomeipGateway.Mqtt

open Lib

def buildTopicWithVin (topicPrefix vin : Text) (serviceId instanceId methodOrEventId : UInt16) :
    Text :=
  topicPrefix ++ Text.ascii "/" ++ vin ++ Text.ascii "/someip/" ++ formatServiceId serviceId ++
    Text.ascii "/" ++ formatServiceId instanceId ++ Text.ascii "/" ++
    formatServiceId methodOrEventId

def buildRpcRequestTopic (topicPrefix vin : Text) (serviceId instanceId methodId : UInt16) :
    Text :=
  buildTopicWithVin topicPrefix vin serviceId instanceId methodId ++ Text.ascii "/rpc/req"

def buildRpcResponseTopic (topicPrefix vin : Text) (serviceId instanceId methodId : UInt16) :
    Text :=
  buildTopicWithVin topicPrefix vin serviceId instanceId methodId ++ Text.ascii "/rpc/rsp"

inductive TopicKind where
  | event
  | request
  | response
  | withVin
  | rpcRequest
  | rpcResponse
deriving DecidableEq

/-- The topic of a kind, by the builder of this kind; a response topic is that of
the request with one more level. -/
def topicOf (topicPrefix vin : Text) (serviceId instanceId methodId : UInt16) : TopicKind → Text
  | .event => buildMqttTopic topicPrefix vin serviceId instanceId methodId false
  | .request => buildMqttTopic topicPrefix vin serviceId instanceId methodId true
  | .response =>
      buildMqttTopic topicPrefix vin serviceId instanceId methodId true ++ Text.ascii "/response"
  | .withVin => buildTopicWithVin topicPrefix vin serviceId instanceId methodId
  | .rpcRequest => buildRpcRequestTopic topicPrefix vin serviceId instanceId methodId
  | .rpcResponse => buildRpcResponseTopic topicPrefix vin serviceId instanceId methodId

/-! ### Levels -/

/-- What stands behind the two ids of the instance. -/
def lastLevels (methodId : UInt16) : TopicKind → List Text
  | .event => [Text.ascii "event", formatServiceId methodId]
  | .request => [Text.ascii "method", formatServiceId methodId, Text.ascii "request"]
  | .response =>
      [Text.ascii "method", formatServiceId methodId, Text.ascii "request", Text.ascii "response"]
  | .withVin => [formatServiceId methodId]
  | .rpcRequest => [formatServiceId methodId, Text.ascii "rpc", Text.ascii "req"]
  | .rpcResponse => [formatServiceId methodId, Text.ascii "rpc", Text.ascii "rsp"]

def levelsPath (levels : List Text) : Text := levels.flatMap fun level => Path.slash :: level

theorem slash_notMem_formatServiceId (id : UInt16) : Path.slash ∉ formatServiceId id := by
  have hother : ∀ c ∈ formatServiceId id, c ≠ Path.slash := by
    apply forall_mem_formatServiceId
    · decide
    · decide
  exact fun hmem => hother _ hmem rfl

theorem topicOf_eq (topicPrefix vin : Text) (serviceId instanceId methodId : UInt16)
    (kind : TopicKind) :
    topicOf topicPrefix vin serviceId instanceId methodId kind =
      topicPrefix ++ Text.ascii "/" ++ vin ++
        levelsPath (Text.ascii "someip" :: formatServiceId serviceId ::
          formatServiceId instanceId :: lastLevels methodId kind) := by
  cases kind <;>
    simp [topicOf, buildMqttTopic, buildTopicWithVin, buildRpcRequestTopic, buildRpcResponseTopic,
      levelsPath, lastLevels, Text.ascii, Path.slash]

/-- Levels without a slash are told apart from what stands before them. -/
theorem elements_levelsPath (stem : Text) (levels : List Text)
    (h : ∀ level ∈ levels, Path.slash ∉ level) :
    Path.elements (stem ++ levelsPath levels) = Path.elements stem ++ levels := by
  induction levels generalizing stem with
  | nil => simp [levelsPath]
  | cons level rest ih =>
      have hpath : stem ++ levelsPath (level :: rest) =
          (stem ++ Path.slash :: level) ++ levelsPath rest := by
        simp [levelsPath]
      rw [hpath, ih _ fun other hother => h other (List.mem_cons_of_mem _ hother),
        Path.elements_append, Path.elements_of_notMem (h level List.mem_cons_self),
        List.append_assoc]
      rfl

theorem slash_notMem_lastLevels (methodId : UInt16) (kind : TopicKind) :
    ∀ level ∈ lastLevels methodId kind, Path.slash ∉ level := by
  have hid := slash_notMem_formatServiceId methodId
  cases kind <;> simp only [lastLevels, List.forall_mem_cons, hid, not_false_eq_true, true_and] <;>
    decide

/-- The levels of a topic, from the last one on. -/
def levelsFromEnd (topic : Text) : List Text := (Path.elements topic).reverse

theorem levelsFromEnd_topicOf (topicPrefix vin : Text) (serviceId instanceId methodId : UInt16)
    (kind : TopicKind) :
    levelsFromEnd (topicOf topicPrefix vin serviceId instanceId methodId kind) =
      (lastLevels methodId kind).reverse ++ formatServiceId instanceId ::
        formatServiceId serviceId :: Text.ascii "someip" ::
          levelsFromEnd (topicPrefix ++ Text.ascii "/" ++ vin) := by
  have hlevels : ∀ level ∈ Text.ascii "someip" :: formatServiceId serviceId ::
      formatServiceId instanceId :: lastLevels methodId kind, Path.slash ∉ level := by
    simp only [List.forall_mem_cons]
    exact ⟨by decide, slash_notMem_formatServiceId serviceId,
      slash_notMem_formatServiceId instanceId, slash_notMem_lastLevels methodId kind⟩
  rw [levelsFromEnd, topicOf_eq, elements_levelsPath _ _ hlevels, List.reverse_append]
  simp [levelsFromEnd]

/-! ### Reading a topic -/

/-- The kind that the last two levels tell; an id takes six characters. -/
def readKind : List Text → Option TopicKind
  | last :: before :: _ =>
      if last = Text.ascii "request" then some .request
      else if last = Text.ascii "response" then some .response
      else if last = Text.ascii "req" then some .rpcRequest
      else if last = Text.ascii "rsp" then some .rpcResponse
      else if before = Text.ascii "event" then some .event
      else some .withVin
  | _ => none

theorem formatServiceId_ne {text : Text} (h : text.length ≠ 6) (id : UInt16) :
    formatServiceId id ≠ text := by
  rintro rfl
  exact h (length_formatServiceId id)

theorem readKind_topicOf (topicPrefix vin : Text) (serviceId instanceId methodId : UInt16)
    (kind : TopicKind) :
    readKind (levelsFromEnd (topicOf topicPrefix vin serviceId instanceId methodId kind)) =
      some kind := by
  have hrequest (id : UInt16) : formatServiceId id ≠ Text.ascii "request" :=
    formatServiceId_ne (by decide) id
  have hresponse (id : UInt16) : formatServiceId id ≠ Text.ascii "response" :=
    formatServiceId_ne (by decide) id
  have hreq (id : UInt16) : formatServiceId id ≠ Text.ascii "req" :=
    formatServiceId_ne (by decide) id
  have hrsp (id : UInt16) : formatServiceId id ≠ Text.ascii "rsp" :=
    formatServiceId_ne (by decide) id
  have hevent (id : UInt16) : formatServiceId id ≠ Text.ascii "event" :=
    formatServiceId_ne (by decide) id
  rw [levelsFromEnd_topicOf]
  cases kind with
  | event => simp [lastLevels, readKind, hrequest, hresponse, hreq, hrsp]
  | withVin => simp [lastLevels, readKind, hrequest, hresponse, hreq, hrsp, hevent]
  | request => rfl
  | response => rfl
  | rpcRequest => rfl
  | rpcResponse => rfl

theorem lastLevels_injective {methodId methodId' : UInt16} {kind : TopicKind}
    (h : lastLevels methodId kind = lastLevels methodId' kind) : methodId = methodId' := by
  apply formatServiceId_injective
  cases kind <;> simp only [lastLevels, List.cons.injEq, true_and, and_true] at h <;> exact h

theorem levelsFromEnd_injective {topic topic' : Text}
    (h : levelsFromEnd topic = levelsFromEnd topic') : topic = topic' := by
  rw [← Path.intercalate_elements topic, ← Path.intercalate_elements topic',
    List.reverse_injective h]

/-- Whatever the prefixes and VINs, a topic tells its kind, its ids, and the prefix
joined with the VIN. -/
theorem topicOf_injective {topicPrefix topicPrefix' vin vin' : Text}
    {serviceId serviceId' instanceId instanceId' methodId methodId' : UInt16}
    {kind kind' : TopicKind}
    (h : topicOf topicPrefix vin serviceId instanceId methodId kind =
      topicOf topicPrefix' vin' serviceId' instanceId' methodId' kind') :
    kind = kind' ∧ serviceId = serviceId' ∧ instanceId = instanceId' ∧ methodId = methodId' ∧
      topicPrefix ++ Text.ascii "/" ++ vin = topicPrefix' ++ Text.ascii "/" ++ vin' := by
  have hkind := readKind_topicOf topicPrefix vin serviceId instanceId methodId kind
  rw [h, readKind_topicOf] at hkind
  obtain rfl := Option.some.inj hkind
  have hlevels := congrArg levelsFromEnd h
  rw [levelsFromEnd_topicOf, levelsFromEnd_topicOf] at hlevels
  have hcount : (lastLevels methodId kind').reverse.length =
      (lastLevels methodId' kind').reverse.length := by cases kind' <;> rfl
  obtain ⟨hlast, hrest⟩ := List.append_inj hlevels hcount
  simp only [List.cons.injEq, true_and] at hrest
  obtain ⟨hinstance, hservice, hroot⟩ := hrest
  exact ⟨rfl, formatServiceId_injective hservice, formatServiceId_injective hinstance,
    lastLevels_injective (List.reverse_injective hlast), levelsFromEnd_injective hroot⟩

/-! ### Addressing a reply -/

theorem toNat_highByte (id : UInt16) :
    (((id >>> 8) &&& 0xFF).toUInt8).toNat = id.toNat / 256 := by
  have hlt : id.toNat / 256 < 256 := by
    have := id.toNat_lt
    omega
  have hmask : id.toNat / 256 &&& 255 = id.toNat / 256 := by
    rw [Nat.and_two_pow_sub_one_eq_mod _ 8]
    exact Nat.mod_eq_of_lt hlt
  simp [Nat.shiftRight_eq_div_pow, Nat.mod_eq_of_lt hlt, hmask]

theorem toNat_lowByte (id : UInt16) : ((id &&& 0xFF).toUInt8).toNat = id.toNat % 256 := by
  have hmask : id.toNat % 256 &&& 255 = id.toNat % 256 := by
    rw [Nat.and_two_pow_sub_one_eq_mod _ 8]
    exact Nat.mod_mod _ _
  simp [hmask]

theorem bytes_injective {id id' : UInt16}
    (hhigh : ((id >>> 8) &&& 0xFF).toUInt8 = ((id' >>> 8) &&& 0xFF).toUInt8)
    (hlow : (id &&& 0xFF).toUInt8 = (id' &&& 0xFF).toUInt8) : id = id' := by
  apply UInt16.toNat_inj.mp
  have hhigh := congrArg UInt8.toNat hhigh
  have hlow := congrArg UInt8.toNat hlow
  rw [toNat_highByte, toNat_highByte] at hhigh
  rw [toNat_lowByte, toNat_lowByte] at hlow
  omega

theorem buildCorrelationData_injective {clientId clientId' sessionId sessionId' : UInt16}
    (h : buildCorrelationData clientId sessionId = buildCorrelationData clientId' sessionId') :
    clientId = clientId' ∧ sessionId = sessionId' := by
  simp only [buildCorrelationData, List.cons.injEq, and_true] at h
  obtain ⟨hclientHigh, hclientLow, hsessionHigh, hsessionLow⟩ := h
  exact ⟨bytes_injective hclientHigh hclientLow, bytes_injective hsessionHigh hsessionLow⟩

section

variable {σ κ : Type} (setup : Setup σ κ)

/-- The publish is that of a message of the run through a mapping of the run. -/
def Sends (calls : List Call) (msg : Message) (mapping : ServiceMapping) : Prop :=
  .onSomeipMessage msg ∈ calls ∧ .addServiceMapping mapping ∈ calls

/-- Whatever waits in the buffer or has been published came with a message of the
run, through a mapping of the run. -/
structure Traceable (calls : List Call) (gw : MqttGateway σ) (log : List Event) : Prop where
  registered : ∀ mapping ∈ gw.base.serviceMappings, .addServiceMapping mapping ∈ calls
  waiting : ∀ item ∈ gw.offlineBuffer.queue, ∃ msg mapping, Sends calls msg mapping ∧
    item = (outboundCall setup msg mapping).item
  published : ∀ call connected origin, .publishMqtt call connected origin ∈ log →
    ∃ msg mapping, Sends calls msg mapping ∧
      (call = outboundCall setup msg mapping ∨
        call = flushCall (outboundCall setup msg mapping).item)

theorem queue_of_push {buffer after : OfflineMqttRingBuffer} {item : BufferedMqttPublish}
    {dropped : Option BufferedMqttPublish} (h : buffer.push item = some (after, dropped)) :
    ∀ other ∈ after.queue, other ∈ buffer.queue ∨ other = item := by
  unfold OfflineMqttRingBuffer.push at h
  split_ifs at h
  · split at h
    · cases h
    · rename_i front rest hqueue
      cases h
      intro other hmem
      rcases List.mem_append.mp hmem with hmem | hmem
      · exact .inl (hqueue ▸ List.mem_cons_of_mem _ hmem)
      · exact .inr (List.mem_singleton.mp hmem)
  · cases h
    intro other hmem
    rcases List.mem_append.mp hmem with hmem | hmem
    · exact .inl hmem
    · exact .inr (List.mem_singleton.mp hmem)

theorem Traceable.quiet {calls : List Call} {gw gw' : MqttGateway σ} {log : List Event}
    (h : Traceable setup calls gw log)
    (hmappings : gw'.base.serviceMappings = gw.base.serviceMappings)
    (hbuffer : gw'.offlineBuffer = gw.offlineBuffer) :
    Traceable setup calls gw' (log ++ []) := by
  rw [List.append_nil]
  exact ⟨hmappings ▸ h.registered, hbuffer ▸ h.waiting, h.published⟩

theorem onSomeipMessage_traceable {calls : List Call} {gw after : MqttGateway σ}
    {log events : List Event} {msg : Message} {result : Result}
    (htrace : Traceable setup calls gw log) (hcall : .onSomeipMessage msg ∈ calls)
    (h : onSomeipMessage setup gw msg = some (result, after, events)) :
    Traceable setup calls after (log ++ events) := by
  have hbase := admitOutbound_base setup.e2e setup.config.useE2e setup.config.e2eConfig
    setup.config.defaultSomeipInstanceId gw.base gw.e2e msg
  obtain ⟨admitted, base, e2e, hadmitted,
    ⟨-, rfl, rfl⟩ | ⟨mapping, published, rfl, hpublish, rfl⟩⟩ := onSomeipMessage_cases setup h
  · rw [hadmitted] at hbase
    exact htrace.quiet setup hbase.2 rfl
  · have hroute := (admitOutbound_ok setup.e2e setup.config.useE2e setup.config.e2eConfig
      setup.config.defaultSomeipInstanceId gw.base gw.e2e msg mapping).mp (by rw [hadmitted])
    have hmapping := outboundMapping_some (outboundRoute_ok.mp hroute.1).2.1
    have hsends : Sends calls msg mapping := ⟨hcall, htrace.registered mapping hmapping.1⟩
    rw [hadmitted] at hbase
    have hevents := publishMqtt_message_events hpublish
    have hlog : ∀ call connected origin, .publishMqtt call connected origin ∈ log ++ events →
        ∃ msg mapping, Sends calls msg mapping ∧
          (call = outboundCall setup msg mapping ∨
            call = flushCall (outboundCall setup msg mapping).item) := by
      intro call connected origin hmem
      rcases List.mem_append.mp hmem with hmem | hmem
      · exact htrace.published call connected origin hmem
      · rcases hevents _ hmem with ⟨connected, hsame⟩ | ⟨item, found, hsame⟩ | hsame
        · cases hsame
          exact ⟨msg, mapping, hsends, .inl rfl⟩
        · cases hsame
        · cases hsame
    rcases publishMqtt_message_cases hpublish with
      ⟨rfl, rfl, -⟩ | ⟨rfl, -, hbase', buffer, dropped, hpush, hbuffer⟩
    · exact ⟨hbase.2 ▸ htrace.registered, htrace.waiting, hlog⟩
    · rw [if_neg (by decide)]
      refine ⟨?_, ?_, hlog⟩
      · rw [hbase']
        exact hbase.2 ▸ htrace.registered
      · rw [hbuffer]
        intro item hmem
        rcases queue_of_push hpush item hmem with hmem | rfl
        · exact htrace.waiting item hmem
        · exact ⟨msg, mapping, hsends, rfl⟩

theorem step_traceable {calls : List Call} {gw : MqttGateway σ} {log : List Event} {call : Call}
    {now : MqttGateway σ × List Event} (htrace : Traceable setup calls gw log)
    (hcall : call ∈ calls) (h : step setup gw call = some now) :
    Traceable setup calls now.1 (log ++ now.2) := by
  cases call with
  | start udpStart =>
      cases h
      unfold start
      split_ifs
      · exact htrace.quiet setup rfl rfl
      · exact htrace.quiet setup rfl rfl
  | stop =>
      cases h
      exact htrace.quiet setup rfl rfl
  | setMqttConnected connected =>
      cases h
      exact htrace.quiet setup rfl rfl
  | addServiceMapping mapping =>
      cases h
      rw [List.append_nil]
      refine ⟨?_, htrace.waiting, htrace.published⟩
      intro other hmem
      rcases List.mem_append.mp hmem with hmem | hmem
      · exact htrace.registered other hmem
      · exact List.mem_singleton.mp hmem ▸ hcall
  | onSomeipMessage msg =>
      obtain ⟨⟨result, gw', events⟩, hmessage, rfl⟩ := Option.map_eq_some_iff.mp h
      exact onSomeipMessage_traceable setup htrace hcall hmessage
  | flushOfflineBuffer =>
      cases hconnected : gw.mqttConnected with
      | true =>
          rw [step_flush_connected setup rfl fun _ => hconnected] at h
          cases h
          refine ⟨htrace.registered, List.forall_mem_nil _, ?_⟩
          intro call connected origin hmem
          rcases List.mem_append.mp hmem with hmem | hmem
          · exact htrace.published call connected origin hmem
          · obtain ⟨item, hitem, hsame⟩ := List.mem_map.mp hmem
            obtain ⟨msg, mapping, hsends, rfl⟩ := htrace.waiting item hitem
            cases hsame
            exact ⟨msg, mapping, hsends, .inr rfl⟩
      | false =>
          -- without a connection only an empty buffer lets the loop end
          by_cases hqueue : gw.offlineBuffer.queue = []
          · have hround : flushOfflineBuffer (gw.offlineBuffer.size + 1) gw =
                some (.success, gw, []) := by
              simp [flushOfflineBuffer, Loop.run, flushBody, OfflineMqttRingBuffer.pop, hqueue]
            rw [step, hround] at h
            cases h
            exact htrace.quiet setup rfl rfl
          · rw [step, flushOfflineBuffer_stuck gw ⟨hconnected, hqueue⟩] at h
            cases h

theorem run_traceable {calls : List Call} {e2e : σ} {udpTransport : Bool}
    {last : MqttGateway σ × List Event}
    (h : Machine.runPartial (step setup) (fresh setup e2e udpTransport) calls = some last) :
    Traceable setup calls last.1 last.2 := by
  have hstart : Traceable setup calls (fresh setup e2e udpTransport) [] :=
    ⟨List.forall_mem_nil _, List.forall_mem_nil _, fun _ _ _ => nofun⟩
  refine Machine.runPartial_log (step setup) (Traceable setup calls) ?_ hstart h
  exact fun gw log call hcall now htrace hnow => step_traceable setup htrace hcall hnow

/-- What a gateway's topics begin with. -/
def vehicleName : Text := setup.config.topicPrefix ++ Text.ascii "/" ++ setup.config.vin

/-- VINs without a slash are told apart from the prefixes. -/
theorem vehicleName_eq_iff {σ' κ' : Type} (setup' : Setup σ' κ')
    (hvin : Path.slash ∉ setup.config.vin) (hvin' : Path.slash ∉ setup'.config.vin) :
    vehicleName setup = vehicleName setup' ↔
      setup.config.topicPrefix = setup'.config.topicPrefix ∧
        setup.config.vin = setup'.config.vin := by
  have hslash : Text.ascii "/" = [Path.slash] := rfl
  unfold vehicleName
  constructor
  · intro h
    rw [hslash, List.append_assoc, List.append_assoc, List.singleton_append,
      List.singleton_append] at h
    have helements := congrArg Path.elements h
    rw [Path.elements_append, Path.elements_append, Path.elements_of_notMem hvin,
      Path.elements_of_notMem hvin'] at helements
    obtain ⟨hroot, hlast⟩ := List.append_inj' helements rfl
    refine ⟨?_, (List.cons.inj hlast).1⟩
    rw [← Path.intercalate_elements setup.config.topicPrefix, hroot, Path.intercalate_elements]
  · rintro ⟨hbase, hvin⟩
    rw [hbase, hvin]

/-- Where the answer to a request is to be sent, and how it is told apart there. -/
def PublishCall.replyAddress (call : PublishCall) : Text × Bytes :=
  (call.responseTopic, call.correlationData)

theorem outboundCall_topic (msg : Message) (mapping : ServiceMapping) :
    (outboundCall setup msg mapping).topic =
      topicOf setup.config.topicPrefix setup.config.vin mapping.someipServiceId
        mapping.someipInstanceId msg.methodId
        (if setup.cls.isRequest msg.messageType then .request else .event) := by
  simp only [outboundCall, routeSomeipToMqttTopic]
  cases setup.cls.isRequest msg.messageType <;> rfl

/-- Only a request that is published at once names a reply topic: the replay of a
buffered one does not. -/
theorem outboundCall_reply {msg : Message} {mapping : ServiceMapping} {call : PublishCall}
    (hreply : call.responseTopic ≠ [])
    (h : call = outboundCall setup msg mapping ∨
      call = flushCall (outboundCall setup msg mapping).item) :
    call = outboundCall setup msg mapping ∧
      call.responseTopic = topicOf setup.config.topicPrefix setup.config.vin
        mapping.someipServiceId mapping.someipInstanceId msg.methodId .response ∧
      call.correlationData = buildCorrelationData msg.clientId msg.sessionId := by
  rcases h with rfl | rfl
  · cases hrequest : setup.cls.isRequest msg.messageType with
    | false => simp [outboundCall, hrequest] at hreply
    | true =>
        cases hv5 : setup.config.useMqttV5RequestResponse with
        | false => simp [outboundCall, hv5] at hreply
        | true =>
            refine ⟨rfl, ?_, ?_⟩
            · simp [outboundCall, hrequest, hv5, routeSomeipToMqttTopic, topicOf]
            · simp [outboundCall, hrequest, hv5]
  · exact absurd rfl hreply

end

/-- In any two runs, of one gateway or of two, with VINs that contain no slash:
nothing is ever published on the topic where an answer is awaited, and two answers
are awaited at one address exactly if the two requests agree in the prefix and the
VIN, the service instance, the method, the client and the session. The static
builders name none of these topics. -/
theorem reply_addresses_apart {σ κ σ' κ' : Type} (setup : Setup σ κ) (setup' : Setup σ' κ')
    (hvin : Path.slash ∉ setup.config.vin) (hvin' : Path.slash ∉ setup'.config.vin)
    {e2e : σ} {e2e' : σ'} {udpTransport udpTransport' : Bool} {calls calls' : List Call}
    {last : MqttGateway σ × List Event} {last' : MqttGateway σ' × List Event}
    (hrun : Machine.runPartial (step setup) (fresh setup e2e udpTransport) calls = some last)
    (hrun' : Machine.runPartial (step setup') (fresh setup' e2e' udpTransport') calls' =
      some last')
    {call call' : PublishCall} {connected connected' : Bool} {origin origin' : Origin}
    (hcall : .publishMqtt call connected origin ∈ last.2)
    (hcall' : .publishMqtt call' connected' origin' ∈ last'.2) (hreply : call.responseTopic ≠ []) :
    call'.topic ≠ call.responseTopic ∧
      (∀ topicPrefix vin serviceId instanceId methodId,
        ∀ kind ∈ [.withVin, .rpcRequest, .rpcResponse],
        topicOf topicPrefix vin serviceId instanceId methodId kind ∉
          [call.topic, call.responseTopic]) ∧
      (call'.responseTopic ≠ [] →
        ∃ msg mapping msg' mapping', Sends calls msg mapping ∧ Sends calls' msg' mapping' ∧
          call = outboundCall setup msg mapping ∧ call' = outboundCall setup' msg' mapping' ∧
          (call.replyAddress = call'.replyAddress ↔
            setup.config.topicPrefix = setup'.config.topicPrefix ∧
            setup.config.vin = setup'.config.vin ∧
            mapping.someipServiceId = mapping'.someipServiceId ∧
            mapping.someipInstanceId = mapping'.someipInstanceId ∧
            msg.methodId = msg'.methodId ∧ msg.clientId = msg'.clientId ∧
            msg.sessionId = msg'.sessionId)) := by
  obtain ⟨msg, mapping, hsends, hpublish⟩ :=
    (run_traceable setup hrun).published call connected origin hcall
  obtain ⟨msg', mapping', hsends', hpublish'⟩ :=
    (run_traceable setup' hrun').published call' connected' origin' hcall'
  obtain ⟨hsame, htopic, hdata⟩ := outboundCall_reply setup hreply hpublish
  refine ⟨?_, ?_, ?_⟩
  · intro hclash
    have hplain : call'.topic = (outboundCall setup' msg' mapping').topic := by
      rcases hpublish' with rfl | rfl
      · rfl
      · rfl
    rw [hplain, outboundCall_topic, htopic] at hclash
    have hkind := (topicOf_injective hclash).1
    split_ifs at hkind
  · intro topicPrefix vin serviceId instanceId methodId kind hkind hmem
    have hother : kind ≠ .request ∧ kind ≠ .event ∧ kind ≠ .response := by
      simp only [List.mem_cons, List.not_mem_nil, or_false] at hkind
      rcases hkind with rfl | rfl | rfl <;> decide
    rcases List.mem_pair.mp hmem with hclash | hclash
    · rw [hsame, outboundCall_topic] at hclash
      have hkind := (topicOf_injective hclash).1
      split_ifs at hkind
      · exact hother.1 hkind
      · exact hother.2.1 hkind
    · rw [htopic] at hclash
      exact hother.2.2 (topicOf_injective hclash).1
  · intro hreply'
    obtain ⟨hsame', htopic', hdata'⟩ := outboundCall_reply setup' hreply' hpublish'
    refine ⟨msg, mapping, msg', mapping', hsends, hsends', hsame, hsame', ?_⟩
    rw [PublishCall.replyAddress, PublishCall.replyAddress, Prod.mk.injEq, htopic, htopic', hdata,
      hdata']
    constructor
    · rintro ⟨htopics, hdatas⟩
      obtain ⟨-, hservice, hinstance, hmethod, hvehicle⟩ := topicOf_injective htopics
      obtain ⟨hclient, hsession⟩ := buildCorrelationData_injective hdatas
      obtain ⟨hroot, hvins⟩ := (vehicleName_eq_iff setup setup' hvin hvin').mp hvehicle
      exact ⟨hroot, hvins, hservice, hinstance, hmethod, hclient, hsession⟩
    · rintro ⟨hroot, hvins, hservice, hinstance, hmethod, hclient, hsession⟩
      rw [hroot, hvins, hservice, hinstance, hmethod, hclient, hsession]
      exact ⟨rfl, rfl⟩

/-- Two sessions of one client ask for the same thing and are answered apart. -/
theorem sessions_answered_apart :
    (outboundCall (plainSetup 4) speedQuery speedMapping).replyAddress ≠
      (outboundCall (plainSetup 4) { speedQuery with sessionId := 2 }
        speedMapping).replyAddress := by
  have hrun (sessionId : UInt16) : ∃ last, Machine.runPartial (step (plainSetup 4))
      (fresh (plainSetup 4) () false) [.addServiceMapping speedMapping, .start .success,
        .setMqttConnected true, .onSomeipMessage { speedQuery with sessionId }] = some last ∧
      .publishMqtt (outboundCall (plainSetup 4) { speedQuery with sessionId } speedMapping) true
        (.message speedMapping) ∈ last.2 :=
    ⟨_, rfl, List.mem_singleton.mpr rfl⟩
  obtain ⟨last, hlast, hcall⟩ := hrun 1
  obtain ⟨last', hlast', hcall'⟩ := hrun 2
  obtain ⟨-, -, happart⟩ := reply_addresses_apart (plainSetup 4) (plainSetup 4) (by decide)
    (by decide) hlast hlast' hcall hcall' (by decide)
  obtain ⟨msg, mapping, msg', mapping', ⟨hmsg, -⟩, ⟨hmsg', -⟩, -, -, hiff⟩ := happart (by decide)
  have hfirst : msg = { speedQuery with sessionId := 1 } := by simpa using hmsg
  have hsecond : msg' = { speedQuery with sessionId := 2 } := by simpa using hmsg'
  intro hsame
  have hsession := (hiff.mp hsame).2.2.2.2.2.2
  rw [hfirst, hsecond] at hsession
  exact absurd hsession (by decide)

end SomeipGateway.Mqtt
