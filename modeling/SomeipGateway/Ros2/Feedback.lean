import SomeipGateway.Lib.Machine
import SomeipGateway.Ros2.Gateway

/-! What becomes of the gateway's own telemetry. rclcpp hands a publication to
every subscription on its topic, those of the publishing node included. If an
executor runs the callbacks of the gateway's node, its subscriptions turn what
they receive into requests. -/
namespace SomeipGateway.Ros2

open Lib

variable {σ κ : Type}

section

variable (setup : Setup σ κ)

/-! ### Delivery -/

/-- The callbacks of these subscriptions, one after the other. -/
def injectEach (gw : Ros2Gateway σ) (session : UInt16) (data : Bytes) :
    List Text → Ros2Gateway σ × UInt16 × List Issued
  | [] => (gw, session, [])
  | topic :: rest =>
      let now := injectRos2Message setup gw session topic data
      let later := injectEach now.2.1 now.2.2.1 data rest
      (later.1, later.2.1, now.2.2.2 ++ later.2.2)

/-- What a publication of the gateway's node sets off in the gateway. `spins` is
whether an executor runs the node's callbacks; the gateway itself has none.
`resolve` is how rclcpp expands a name within the node: names are one topic if
they expand alike. A callback passes the name its subscription was created with. -/
def deliver (spins : Bool) (resolve : Text → Text) (gw : Ros2Gateway σ) (session : UInt16)
    (topic : Text) (data : Bytes) : Ros2Gateway σ × UInt16 × List Issued :=
  if spins then
    injectEach setup gw session data (gw.subs.filter fun sub => resolve sub == resolve topic)
  else (gw, session, [])

/-- The request leaves the gateway. -/
def Issued.isSent (request : Issued) : Bool := request.target != .nowhere

theorem target_ne_nowhere (gw : Ros2Gateway σ) :
    (gw.target != .nowhere) = true ↔ gw.rpcClient.isSome = true ∨ gw.outboundSink = true := by
  unfold Ros2Gateway.target
  cases gw.rpcClient.isSome <;> cases gw.outboundSink <;> simp

/-- What decides whether and where a request is sent stays as it is. -/
structure SameRoutes (before after : Ros2Gateway σ) : Prop where
  running : after.base.running = before.base.running
  mappings : after.base.serviceMappings = before.base.serviceMappings
  target : after.target = before.target

theorem SameRoutes.inboundRoute {before after : Ros2Gateway σ} (h : SameRoutes before after)
    (topic : Text) : Ros2.inboundRoute after.base topic = Ros2.inboundRoute before.base topic := by
  unfold Ros2.inboundRoute
  rw [h.running, h.mappings]

theorem injectRos2Message_sameRoutes (gw : Ros2Gateway σ) (session : UInt16) (topic : Text)
    (payload : Bytes) :
    SameRoutes gw (injectRos2Message setup gw session topic payload).2.1 := by
  unfold injectRos2Message
  cases inboundRoute gw.base topic with
  | error result => exact ⟨rfl, rfl, rfl⟩
  | ok mapping => exact ⟨rfl, rfl, rfl⟩

theorem injectRos2Message_sends_iff (gw : Ros2Gateway σ) (session : UInt16) (topic : Text)
    (payload : Bytes) :
    (∃ req ∈ (injectRos2Message setup gw session topic payload).2.2.2, req.isSent = true) ↔
      (∃ m, inboundRoute gw.base topic = .ok m) ∧ (gw.target != .nowhere) = true := by
  unfold injectRos2Message
  cases inboundRoute gw.base topic with
  | error result => simp
  | ok mapping => simp [Issued.isSent]

/-- Some callback sends a request exactly when one of the topics leads to an
inbound mapping and there is somewhere to send it. -/
theorem injectEach_sends_iff (gw : Ros2Gateway σ) (session : UInt16) (data : Bytes)
    (topics : List Text) :
    (∃ req ∈ (injectEach setup gw session data topics).2.2, req.isSent = true) ↔
      (∃ topic ∈ topics, ∃ m, inboundRoute gw.base topic = .ok m) ∧
        (gw.target != .nowhere) = true := by
  induction topics generalizing gw session with
  | nil => simp [injectEach]
  | cons topic rest ih =>
      have hsame := injectRos2Message_sameRoutes setup gw session topic data
      have hnow := injectRos2Message_sends_iff setup gw session topic data
      have hlater := ih (injectRos2Message setup gw session topic data).2.1
        (injectRos2Message setup gw session topic data).2.2.1
      simp only [hsame.inboundRoute, hsame.target] at hlater
      simp only [injectEach, List.mem_append, or_and_right, exists_or, hnow, hlater,
        List.exists_mem_cons_iff]

theorem deliver_sends_iff (spins : Bool) (resolve : Text → Text) (gw : Ros2Gateway σ)
    (session : UInt16) (topic : Text) (data : Bytes) :
    (∃ req ∈ (deliver setup spins resolve gw session topic data).2.2, req.isSent = true) ↔
      spins = true ∧
        (∃ sub ∈ gw.subs.filter fun sub => resolve sub == resolve topic,
          ∃ m, inboundRoute gw.base sub = .ok m) ∧
        (gw.target != .nowhere) = true := by
  unfold deliver
  cases spins with
  | false => simp
  | true =>
      rw [if_pos rfl, injectEach_sends_iff]
      exact (and_iff_right rfl).symm

/-! ### Subscriptions of a running gateway -/

/-- The topics `start()` subscribes to for a mapping list. -/
def subscribedTopics (mappings : List ServiceMapping) : List Text :=
  (mappings.filter fun m => shouldForwardToSomeip m && !m.externalIdentifier.isEmpty).map
    ServiceMapping.externalIdentifier

theorem mem_subscribedTopics {mappings : List ServiceMapping} {topic : Text} :
    topic ∈ subscribedTopics mappings ↔
      ∃ m ∈ mappings, m.direction ≠ .someipToExternal ∧ m.externalIdentifier ≠ [] ∧
        m.externalIdentifier = topic := by
  simp only [subscribedTopics, List.mem_map, List.mem_filter, Bool.and_eq_true,
    shouldForwardToSomeip_iff_ne, List.isEmpty_eq_false_iff, and_assoc, Bool.not_eq_eq_eq_not,
    Bool.not_true, ne_eq]

/-- The node subscribes to what the mapping list says, and only a running gateway
has a node. -/
structure Synced (gw : Ros2Gateway σ) : Prop where
  subs : gw.subs = if gw.node then subscribedTopics gw.base.serviceMappings else []
  node : gw.base.running = false → gw.node = false

theorem synced_of_frame {before after : Ros2Gateway σ} (h : Synced before)
    (hsubs : after.subs = before.subs) (hnode : after.node = before.node)
    (hrunning : after.base.running = before.base.running)
    (hmappings : after.base.serviceMappings = before.base.serviceMappings) : Synced after := by
  refine ⟨?_, ?_⟩
  · rw [hsubs, hnode, hmappings]
    exact h.subs
  · rw [hrunning, hnode]
    exact h.node

/-- What is published, if it is: a new publisher is all that changes, and what goes
through the node goes to the topic. -/
theorem publishToRos2Side_some {creates : Bool} {gw after : Ros2Gateway σ} {topic : Text}
    {qos : Ros2QosProfile} {data : Bytes} {via : ServiceMapping} {outputs : List Output}
    (h : publishToRos2Side creates gw topic qos data via = some (after, outputs)) :
    after = { gw with pubs := after.pubs } ∧
      ∀ topic' qos' data' via', .publish topic' qos' data' via' ∈ outputs →
        gw.node = true ∧ topic' = topic ∧ via' = via := by
  have hone {qos' : Ros2QosProfile} (hnode : gw.node = true) : ∀ topic' qos'' data' via',
      .publish topic' qos'' data' via' ∈ [Output.publish topic qos' data via] →
        gw.node = true ∧ topic' = topic ∧ via' = via := by
    intro topic' qos'' data' via' hmem
    cases List.mem_singleton.mp hmem
    exact ⟨hnode, rfl, rfl⟩
  unfold publishToRos2Side at h
  by_cases hnode : gw.node = true
  · rw [if_pos hnode] at h
    split at h
    · cases h
      exact ⟨rfl, hone hnode⟩
    · split_ifs at h
      cases h
      exact ⟨rfl, hone hnode⟩
  · rw [if_neg hnode] at h
    split_ifs at h
    · cases h
      exact ⟨rfl, fun _ _ _ _ hmem => by cases List.mem_singleton.mp hmem⟩
    · cases h
      exact ⟨rfl, fun _ _ _ _ hmem => absurd hmem List.not_mem_nil⟩

/-- A message is turned away, or `create_publisher` throws, or it is published. -/
theorem onSomeipMessage_cases (creates : Bool) (gw : Ros2Gateway σ) (msg : Message) :
    let done := onSomeipMessage setup creates gw msg
    (∃ base e2e, done.2 = ({ gw with base, e2e }, []) ∧
        base.running = gw.base.running ∧ base.serviceMappings = gw.base.serviceMappings) ∨
      ∃ mapping base e2e after, base.running = gw.base.running ∧
        base.serviceMappings = gw.base.serviceMappings ∧
        outboundRoute gw.base setup.config.defaultSomeipInstanceId msg = .ok mapping ∧
        publishToRos2Side creates { gw with base, e2e } (routeSomeipToRos2Topic setup msg mapping)
          (qosForSomeipTransport setup.config.defaultSomeipTransport) msg.payload mapping =
            some (after, done.2.2) ∧
        done.2.1 =
          { after with base := after.base.recordSomeipToExternal msg.payload.length } := by
  have hbase := admitOutbound_base setup.e2e setup.config.useE2e setup.config.e2eConfig
    setup.config.defaultSomeipInstanceId gw.base gw.e2e msg
  have hok := admitOutbound_ok setup.e2e setup.config.useE2e setup.config.e2eConfig
    setup.config.defaultSomeipInstanceId gw.base gw.e2e msg
  simp only [onSomeipMessage]
  rcases hadmitted : admitOutbound setup.e2e setup.config.useE2e setup.config.e2eConfig
    setup.config.defaultSomeipInstanceId gw.base gw.e2e msg with ⟨result | mapping, base, e2e⟩
  · rw [hadmitted] at hbase
    exact .inl ⟨base, e2e, rfl, hbase⟩
  · rw [hadmitted] at hbase hok
    dsimp only
    cases hpublish : publishToRos2Side creates { gw with base, e2e }
        (routeSomeipToRos2Topic setup msg mapping)
        (qosForSomeipTransport setup.config.defaultSomeipTransport) msg.payload mapping with
    | none => exact .inl ⟨base, e2e, rfl, hbase⟩
    | some published =>
        refine .inr ⟨mapping, base, e2e, published.1, hbase.1, hbase.2, ?_, hpublish, rfl⟩
        exact ((hok mapping).mp rfl).1

theorem onSomeipMessage_frame (creates : Bool) (gw : Ros2Gateway σ) (msg : Message) :
    let after := (onSomeipMessage setup creates gw msg).2.1
    after.subs = gw.subs ∧ after.node = gw.node ∧ SameRoutes gw after := by
  intro after
  obtain ⟨base, e2e, hdone, hrunning, hmappings⟩ |
    ⟨mapping, base, e2e, published, hrunning, hmappings, -, hpublish, hdone⟩ :=
      onSomeipMessage_cases setup creates gw msg
  · rw [show after = _ from congrArg Prod.fst hdone]
    exact ⟨rfl, rfl, hrunning, hmappings, rfl⟩
  · rw [show after = _ from hdone, (publishToRos2Side_some hpublish).1]
    exact ⟨rfl, rfl, hrunning, hmappings, rfl⟩

/-- A publication through the node goes to the mapping's own topic. -/
theorem topic_of_publish {creates : Bool} {gw : Ros2Gateway σ} {msg : Message} {topic : Text}
    {qos : Ros2QosProfile} {data : Bytes} {via : ServiceMapping}
    (h : .publish topic qos data via ∈ (onSomeipMessage setup creates gw msg).2.2) :
    gw.node = true ∧ gw.base.running = true ∧ topic = routeSomeipToRos2Topic setup msg via := by
  obtain ⟨base, e2e, hdone, -⟩ | ⟨mapping, base, e2e, published, -, -, hroute, hpublish, -⟩ :=
    onSomeipMessage_cases setup creates gw msg
  · rw [hdone] at h
    cases h
  · obtain ⟨hnode, rfl, rfl⟩ := (publishToRos2Side_some hpublish).2 _ _ _ _ h
    exact ⟨hnode, (outboundRoute_ok.mp hroute).1, rfl⟩

theorem start_synced (outcome : StartOutcome) {gw : Ros2Gateway σ} (h : Synced gw) :
    Synced (start setup outcome gw).2 := by
  simp only [start]
  split
  · exact synced_of_frame h rfl rfl rfl rfl
  · refine ⟨rfl, fun hstopped => ?_⟩
    cases hstopped

def MappingsFixed (gw : Ros2Gateway σ) : Call × UInt16 → Prop
  | (.addServiceMapping _, _) => gw.base.running = false
  | _ => True

/-- One gateway of a process: every call comes with the session counter it finds. -/
def gatewayStep (gw : Ros2Gateway σ) (input : Call × UInt16) : Ros2Gateway σ × List Effect :=
  ((call setup gw input.2 input.1).1, (call setup gw input.2 input.1).2.2)

theorem gatewayStep_synced (gw : Ros2Gateway σ) (input : Call × UInt16) (h : Synced gw)
    (hfixed : MappingsFixed gw input) : Synced (gatewayStep setup gw input).1 := by
  obtain ⟨c, session⟩ := input
  cases c with
  | start outcome => exact start_synced setup outcome h
  | stop => exact ⟨rfl, fun _ => rfl⟩
  | addServiceMapping mapping =>
      have hnode := h.node hfixed
      refine ⟨?_, h.node⟩
      have hsubs := h.subs
      simp only [gatewayStep, call, ownCall, hnode] at hsubs ⊢
      exact hsubs
  | subscribeSomeipEventgroup =>
      simp only [gatewayStep, call, ownCall, subscribeSomeipEventgroup]
      split
      · exact synced_of_frame h rfl rfl rfl rfl
      · exact h
  | someipMessage msg creates =>
      obtain ⟨hsubs, hnode, hroutes⟩ := onSomeipMessage_frame setup creates gw msg
      exact synced_of_frame h hsubs hnode hroutes.running hroutes.mappings
  | injectRos2Message topic payload =>
      simp only [gatewayStep, call, injectRos2Message]
      cases inboundRoute gw.base topic with
      | error result => exact h
      | ok mapping => exact synced_of_frame h rfl rfl rfl rfl
  | _ => exact synced_of_frame h rfl rfl rfl rfl

/-- Some run in which the mapping list is fixed while the gateway is running leads
a newly constructed gateway to this state. -/
def Reachable (gw : Ros2Gateway σ) : Prop :=
  ∃ (e2e : σ) (inputs : List (Call × UInt16)),
    Machine.Along (gatewayStep setup) MappingsFixed { e2e } inputs ∧
      gw = (Machine.run (gatewayStep setup) { e2e } inputs).1

theorem Reachable.synced {gw : Ros2Gateway σ} (h : Reachable setup gw) : Synced gw := by
  obtain ⟨e2e, inputs, hfixed, rfl⟩ := h
  apply Machine.run_invariant_along (gatewayStep setup) (gatewayStep_synced setup) _ inputs _ hfixed
  exact ⟨rfl, fun _ => rfl⟩

/-! ### Telemetry that comes back -/

/-- A message published by the node through a mapping with a topic of its own
comes back as a request exactly when an executor runs the node's callbacks, some
mapping that permits requests names the same topic, that topic leads to a mapping
that permits them, and an RPC client or a sink is there to take them. -/
theorem telemetry_feedback_iff (spins : Bool) (resolve : Text → Text) (creates : Bool)
    {gw : Ros2Gateway σ} (hgw : Reachable setup gw) (msg : Message) (session : UInt16)
    {topic : Text} {qos : Ros2QosProfile} {data : Bytes} {via : ServiceMapping}
    (hpublished : .publish topic qos data via ∈ (onSomeipMessage setup creates gw msg).2.2)
    (hvia : via.externalIdentifier ≠ []) :
    (∃ req ∈ (deliver setup spins resolve (onSomeipMessage setup creates gw msg).2.1 session topic
        data).2.2, req.isSent = true) ↔
      spins = true ∧ (∃ m ∈ gw.base.serviceMappings, m.direction ≠ .someipToExternal ∧
        m.externalIdentifier ≠ [] ∧
        resolve m.externalIdentifier = resolve via.externalIdentifier ∧
        ∃ m', findMappingByRosTopic gw.base.serviceMappings m.externalIdentifier = some m' ∧
          m'.direction ≠ .someipToExternal) ∧
      (gw.rpcClient.isSome = true ∨ gw.outboundSink = true) := by
  obtain ⟨hnode, hrunning, htopic⟩ := topic_of_publish setup hpublished
  have htopic : topic = via.externalIdentifier := by
    rw [htopic, routeSomeipToRos2Topic, if_pos]
    rw [Bool.not_eq_true', List.isEmpty_eq_false_iff]
    exact hvia
  obtain ⟨hsubs, -, hroutes⟩ := onSomeipMessage_frame setup creates gw msg
  have hsynced := (hgw.synced setup).subs
  rw [hnode, if_pos rfl] at hsynced
  rw [deliver_sends_iff, hroutes.target, target_ne_nowhere, hsubs, hsynced, htopic]
  apply and_congr_right'
  apply and_congr_left'
  simp only [List.mem_filter, beq_iff_eq, mem_subscribedTopics, inboundRoute, routeVia_ok,
    hroutes.running, hroutes.mappings, hrunning, true_and, shouldForwardToSomeip_iff_ne]
  constructor
  · rintro ⟨t, ⟨⟨m, hm, hdirection, hid, rfl⟩, hresolve⟩, hfound⟩
    exact ⟨m, hm, hdirection, hid, hresolve, hfound⟩
  · rintro ⟨m, hm, hdirection, hid, hresolve, hfound⟩
    exact ⟨m.externalIdentifier, ⟨⟨m, hm, hdirection, hid, rfl⟩, hresolve⟩, hfound⟩

end

/-! ### The steering angle -/

def steeringTopic : Text := Text.ascii "/vehicle/adas/steering_deg"

def steering (direction : GatewayDirection) : ServiceMapping :=
  { someipServiceId := 0x6002, someipInstanceId := 0x0001, someipMethodIds := [0x0001]
    externalIdentifier := steeringTopic, direction }

def steeringInputs (mappings : List ServiceMapping) : List (Call × UInt16) :=
  mappings.map (fun m => (.addServiceMapping m, 1)) ++ [(.start {}, 1)]

def steeringGateway (mappings : List ServiceMapping) : Ros2Gateway Unit :=
  (Machine.run (gatewayStep plainSetup) { e2e := () } (steeringInputs mappings)).1

def steeringAngle : Message :=
  { serviceId := 0x6002, methodId := 0x8002, messageType := .notification, payload := [1, 2] }

/-- Telemetry on a topic of its own stays telemetry, also next to a command topic. -/
theorem one_way_steering_not_fed_back :
    let command := { steering .externalToSomeip with
      externalIdentifier := Text.ascii "/vehicle/adas/steering_command" }
    let gw := steeringGateway [steering .someipToExternal, command]
    ¬ ∃ req ∈ (deliver plainSetup true id (onSomeipMessage plainSetup true gw steeringAngle).2.1 1
        steeringTopic [1, 2]).2.2, req.isSent = true := by
  intro command gw
  have hgw : Reachable plainSetup gw :=
    ⟨(), steeringInputs [steering .someipToExternal, command], ⟨rfl, rfl, trivial, trivial⟩, rfl⟩
  have hpublished : .publish steeringTopic (qosForSomeipTransport .udpUnicast) [1, 2]
      (steering .someipToExternal) ∈ (onSomeipMessage plainSetup true gw steeringAngle).2.2 := by
    decide
  rw [telemetry_feedback_iff plainSetup true id true hgw steeringAngle 1 hpublished (by decide)]
  rintro ⟨-, ⟨m, hm, hdirection, -, htopic, -⟩, -⟩
  have hmappings : gw.base.serviceMappings = [steering .someipToExternal, command] := rfl
  rw [hmappings] at hm
  rcases List.mem_cons.mp hm with rfl | hm
  · exact hdirection rfl
  · rw [List.mem_singleton.mp hm] at htopic
    exact absurd htopic (by decide)

/-- A steering angle forwarded through a mapping for both directions comes straight
back as a steering request. -/
theorem two_way_steering_fed_back :
    let gw := steeringGateway [steering .bidirectional]
    .publish steeringTopic (qosForSomeipTransport .udpUnicast) [1, 2] (steering .bidirectional) ∈
        (onSomeipMessage plainSetup true gw steeringAngle).2.2 ∧
      ∃ req ∈ (deliver plainSetup true id (onSomeipMessage plainSetup true gw steeringAngle).2.1 1
          steeringTopic [1, 2]).2.2,
        req.isSent = true ∧ req.sent.serviceId = 0x6002 ∧ req.sent.messageType = .request := by
  decide

end SomeipGateway.Ros2
