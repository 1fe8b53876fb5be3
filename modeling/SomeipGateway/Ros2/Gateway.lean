import Mathlib.Data.List.DropRight
import Mathlib.Logic.Function.Basic
import SomeipGateway.Common.Outbound
import SomeipGateway.Common.Translator

/-! `Ros2Gateway`, built with rclcpp: publishing through the node or the
installed callback on the way out, requests to the vehicle on the way in, and
the components that `start()` and `stop()` take along. -/
namespace SomeipGateway.Ros2

open Lib

/-! ### `Ros2Translator` -/

def toUpper (c : UInt8) : UInt8 :=
  if 'a'.toUInt8 ≤ c ∧ c ≤ 'f'.toUInt8 then c - 32 else c

/-- `hex4`: `0x` and four upper-case hexadecimal digits. -/
def hex4 (v : UInt16) : Text :=
  Text.ascii "0x" ++ (Text.padded 4 16 v.toNat).map toUpper

/-- `normalize_namespace`: a leading slash, and no trailing one beyond it. -/
def normalizeNamespace (ns : Text) : Text :=
  if ns.isEmpty then []
  else
    let ns := if ns.head? ≠ some '/'.toUInt8 then '/'.toUInt8 :: ns else ns
    let stripped := ns.rdropWhile (· == '/'.toUInt8)
    if stripped.isEmpty then ['/'.toUInt8] else stripped

inductive SomeipTransportKind where
  | udpUnicast
  | udpMulticast
  | tcp
deriving DecidableEq

structure Ros2QosProfile where
  reliable : Bool := true
  historyDepth : Nat := 10
  durabilityTransientLocal : Bool := false
deriving DecidableEq

/-- The fields of `Ros2Config` that the modelled functions read. -/
structure Ros2Config (κ : Type) where
  rosNamespace : Text := Text.ascii "/vehicle"
  rpcClientId : UInt16 := 0x5100
  topicPrefix : Text := Text.ascii "someip"
  defaultSomeipInstanceId : UInt16 := 0x0001
  enableUdpTransport : Bool := false
  enableRpcClient : Bool := true
  enableSdClient : Bool := false
  enableSdServer : Bool := false
  enableEventSubscriber : Bool := true
  defaultSomeipTransport : SomeipTransportKind := .udpUnicast
  useE2e : Bool := false
  e2eConfig : Option κ := none

structure Setup (σ κ : Type) where
  config : Ros2Config κ
  e2e : E2EProtection σ κ

def qosForSomeipTransport : SomeipTransportKind → Ros2QosProfile
  | .udpUnicast => { reliable := false, historyDepth := 5 }
  | .udpMulticast => { reliable := false, historyDepth := 5 }
  | .tcp => { reliable := true, historyDepth := 10 }

/-! ### The gateway -/

/-- A component of the SOME/IP stack that the gateway owns or was given. -/
structure Component where
  initialised : Bool := false
deriving DecidableEq

def Component.initialise (_ : Component) : Component := { initialised := true }

def Component.shutdown (_ : Component) : Component := { initialised := false }

structure Ros2Gateway (σ : Type) where
  base : GatewayBase := {}
  e2e : σ
  /-- `node_` exists, that is, `rclcpp::ok()` held at the last start. -/
  node : Bool := false
  pubs : List (Text × Ros2QosProfile) := []
  publishCallback : Bool := false
  /-- The topics of `subs_`, each captured by the callback of its subscription. -/
  subs : List Text := []
  outboundSink : Bool := false
  udpTransport : Option Component := none
  rpcClient : Option Component := none
  rpcServers : UInt16 → Option Component := fun _ => none
  sdClient : Option Component := none
  sdServer : Option Component := none
  eventPublishers : UInt16 × UInt16 → Option Component := fun _ => none
  eventSubscriber : Option Component := none

/-- A publication, through the node with a publisher's profile or through the
callback, and the mapping it is for. -/
inductive Output where
  | publish (topic : Text) (qos : Ros2QosProfile) (data : Bytes) (via : ServiceMapping)
  | publishCallback (topic : Text) (data : Bytes) (via : ServiceMapping)
deriving DecidableEq

section

variable {σ κ : Type} (setup : Setup σ κ)

def buildRos2Topic (serviceId instanceId eventId : UInt16) : Text :=
  let ns := normalizeNamespace setup.config.rosNamespace
  (if ns.isEmpty then [] else ns ++ Text.ascii "/") ++ setup.config.topicPrefix ++
    Text.ascii "/" ++ hex4 serviceId ++ Text.ascii "/" ++ hex4 instanceId ++
    Text.ascii "/event/" ++ hex4 eventId

def routeSomeipToRos2Topic (msg : Message) (mapping : ServiceMapping) : Text :=
  if !mapping.externalIdentifier.isEmpty then mapping.externalIdentifier
  else buildRos2Topic setup mapping.someipServiceId mapping.someipInstanceId msg.methodId

/-- `publish_to_ros2_side`: a topic keeps the publisher, and so the profile, of
its first publication. `creates` is whether `create_publisher` returns: it throws
on a name that is no topic name, and then there is no value here. -/
def publishToRos2Side (creates : Bool) (gw : Ros2Gateway σ) (topic : Text) (qos : Ros2QosProfile)
    (data : Bytes) (via : ServiceMapping) : Option (Ros2Gateway σ × List Output) :=
  if gw.node then
    match gw.pubs.find? fun pub => pub.1 == topic with
    | some pub => some (gw, [.publish topic pub.2 data via])
    | none =>
        if creates then
          some ({ gw with pubs := gw.pubs ++ [(topic, qos)] }, [.publish topic qos data via])
        else none
  else if gw.publishCallback then some (gw, [.publishCallback topic data via])
  else some (gw, [])

def Ros2Gateway.canPublish (creates : Bool) (gw : Ros2Gateway σ) (topic : Text) : Bool :=
  if gw.node then (gw.pubs.any fun pub => pub.1 == topic) || creates else gw.publishCallback

/-- `on_someip_message`; no result means that the exception has left it, before
anything was recorded. -/
def onSomeipMessage (creates : Bool) (gw : Ros2Gateway σ) (msg : Message) :
    Option Result × Ros2Gateway σ × List Output :=
  let config := setup.config
  match admitOutbound setup.e2e config.useE2e config.e2eConfig config.defaultSomeipInstanceId
      gw.base gw.e2e msg with
  | (.error result, base, e2e) => (some result, { gw with base, e2e }, [])
  | (.ok mapping, base, e2e) =>
      let topic := routeSomeipToRos2Topic setup msg mapping
      let qos := qosForSomeipTransport config.defaultSomeipTransport
      match publishToRos2Side creates { gw with base, e2e } topic qos msg.payload mapping with
      | none => (none, { gw with base, e2e }, [])
      | some (gw, outputs) =>
          (some .success, { gw with base := gw.base.recordSomeipToExternal msg.payload.length },
            outputs)

def notificationCallback (creates : Bool) (gw : Ros2Gateway σ) (n : EventNotification) :
    Option Result × Ros2Gateway σ × List Output :=
  onSomeipMessage setup creates gw (notificationMessage n)

/-! ### From ROS 2 to the vehicle -/

/-- `find_mapping_by_ros_topic`: the first mapping whose identifier is the topic,
or is not empty and followed by a slash in it. -/
def findMappingByRosTopic (mappings : List ServiceMapping) (topic : Text) :
    Option ServiceMapping :=
  mappings.find? fun m =>
    m.externalIdentifier == topic ||
      (!m.externalIdentifier.isEmpty && m.externalIdentifier.isPrefixOf topic &&
        (topic.length == m.externalIdentifier.length ||
          topic[m.externalIdentifier.length]? == some '/'.toUInt8))

def commandMethodForMapping (mapping : ServiceMapping) : UInt16 :=
  mapping.someipMethodIds.headD 0x0001

/-- Where `inject_ros2_message` sends a request; without an RPC client and without
a sink it goes nowhere. -/
inductive Target where
  | rpcClient
  | sink
  | nowhere
deriving DecidableEq

/-- A request as it was built, and as it was sent after protection. -/
structure Issued where
  built : Message
  sent : Message
  target : Target
  via : ServiceMapping
deriving DecidableEq

def protectOutbound (state : σ) (msg : Message) : Message × σ :=
  match setup.config.useE2e, setup.config.e2eConfig with
  | true, some e2eConfig => setup.e2e.protect state msg e2eConfig
  | _, _ => (msg, state)

/-- The mapping an injected message is forwarded through, or the result of an
early return. -/
def inboundRoute (base : GatewayBase) (topic : Text) : Except Result ServiceMapping :=
  routeVia base.running (findMappingByRosTopic base.serviceMappings topic) shouldForwardToSomeip

def Ros2Gateway.target (gw : Ros2Gateway σ) : Target :=
  if gw.rpcClient.isSome then .rpcClient else if gw.outboundSink then .sink else .nowhere

/-- `inject_ros2_message`. The session counter is a static variable of the
function, so the caller hands it in. -/
def injectRos2Message (gw : Ros2Gateway σ) (session : UInt16) (topic : Text) (payload : Bytes) :
    Result × Ros2Gateway σ × UInt16 × List Issued :=
  match inboundRoute gw.base topic with
  | .error result => (result, gw, session, [])
  | .ok mapping =>
      let req : Message :=
        { serviceId := mapping.someipServiceId, methodId := commandMethodForMapping mapping
          clientId := setup.config.rpcClientId, sessionId := session, messageType := .request
          payload }
      let (sent, e2e) := protectOutbound setup gw.e2e req
      (.success, { gw with e2e, base := gw.base.recordExternalToSomeip payload.length },
        session + 1, [{ built := req, sent, target := gw.target, via := mapping }])

/-! ### Start and stop -/

/-- What `udp_transport_->start()` and `rclcpp::ok()` return. The results of the
components' `initialize()` calls are not looked at. -/
structure StartOutcome where
  udpStart : Result := .success
  rclcppOk : Bool := true

def ownIf (enabled : Bool) (component : Option Component) : Option Component :=
  if enabled && component.isNone then some {} else component

def implStart (rclcppOk : Bool) (gw : Ros2Gateway σ) : Ros2Gateway σ :=
  { gw with
    node := rclcppOk
    pubs := []
    subs :=
      if rclcppOk then
        (gw.base.serviceMappings.filter fun m =>
          shouldForwardToSomeip m && !m.externalIdentifier.isEmpty).map
            ServiceMapping.externalIdentifier
      else [] }

def implStop (gw : Ros2Gateway σ) : Ros2Gateway σ :=
  { gw with node := false, pubs := [], subs := [] }

def startComponents (gw : Ros2Gateway σ) : Ros2Gateway σ :=
  let config := setup.config
  { gw with
    udpTransport := gw.udpTransport.map Component.initialise
    rpcClient := (ownIf config.enableRpcClient gw.rpcClient).map Component.initialise
    rpcServers := fun serviceId => (gw.rpcServers serviceId).map Component.initialise
    sdClient := (ownIf config.enableSdClient gw.sdClient).map Component.initialise
    sdServer := (ownIf config.enableSdServer gw.sdServer).map Component.initialise
    eventPublishers := fun key => (gw.eventPublishers key).map Component.initialise
    -- an event subscriber is initialised only when it is created
    eventSubscriber :=
      if config.enableEventSubscriber && gw.eventSubscriber.isNone then
        some { initialised := true }
      else gw.eventSubscriber }

def start (outcome : StartOutcome) (gw : Ros2Gateway σ) : Result × Ros2Gateway σ :=
  let gw := { gw with udpTransport := ownIf setup.config.enableUdpTransport gw.udpTransport }
  if gw.udpTransport.isSome ∧ outcome.udpStart ≠ .success then (outcome.udpStart, gw)
  else
    let gw := implStart outcome.rclcppOk (startComponents setup gw)
    (.success, { gw with base := gw.base.setRunning true })

def stop (gw : Ros2Gateway σ) : Result × Ros2Gateway σ :=
  let gw := implStop gw
  (.success, { gw with
    eventSubscriber := gw.eventSubscriber.map Component.shutdown
    rpcClient := gw.rpcClient.map Component.shutdown
    rpcServers := fun serviceId => (gw.rpcServers serviceId).map Component.shutdown
    sdClient := gw.sdClient.map Component.shutdown
    sdServer := gw.sdServer.map Component.shutdown
    eventPublishers := fun key => (gw.eventPublishers key).map Component.shutdown
    udpTransport := gw.udpTransport.map Component.shutdown
    base := gw.base.setRunning false })

/-- `subscribe_someip_eventgroup`, as far as the gateway's own state goes. -/
def subscribeSomeipEventgroup (gw : Ros2Gateway σ) : Ros2Gateway σ :=
  if gw.eventSubscriber.isNone then
    { gw with eventSubscriber := some { initialised := true } }
  else gw

/-! ### The gateways of a process -/

inductive Call where
  | start (outcome : StartOutcome)
  | stop
  | addServiceMapping (mapping : ServiceMapping)
  | setSomeipOutboundSink (installed : Bool)
  | setRos2PublishCallback (installed : Bool)
  | enableSomeipUdpBridge
  | attachRpcClient (client : Option Component)
  | attachRpcServer (serviceId : UInt16) (server : Option Component)
  | attachSdClient (client : Option Component)
  | attachSdServer (server : Option Component)
  | registerEventPublisher (serviceId instanceId : UInt16) (publisher : Option Component)
  | subscribeSomeipEventgroup
  | someipMessage (msg : Message) (creates : Bool)
  | injectRos2Message (topic : Text) (payload : Bytes)

inductive Effect where
  | published (out : Output)
  | issued (request : Issued)

/-- A call that touches nothing but the gateway it is made on. -/
def ownCall (gw : Ros2Gateway σ) : Call → Ros2Gateway σ × List Effect
  | .start outcome => ((start setup outcome gw).2, [])
  | .stop => ((stop gw).2, [])
  | .addServiceMapping mapping => ({ gw with base := gw.base.addServiceMapping mapping }, [])
  | .setSomeipOutboundSink installed => ({ gw with outboundSink := installed }, [])
  | .setRos2PublishCallback installed => ({ gw with publishCallback := installed }, [])
  | .enableSomeipUdpBridge => ({ gw with udpTransport := some {} }, [])
  | .attachRpcClient client => ({ gw with rpcClient := client }, [])
  | .attachRpcServer serviceId server =>
      ({ gw with rpcServers := Function.update gw.rpcServers serviceId server }, [])
  | .attachSdClient client => ({ gw with sdClient := client }, [])
  | .attachSdServer server => ({ gw with sdServer := server }, [])
  | .registerEventPublisher serviceId instanceId publisher =>
      ({ gw with
          eventPublishers := Function.update gw.eventPublishers (serviceId, instanceId) publisher },
        [])
  | .subscribeSomeipEventgroup => (subscribeSomeipEventgroup gw, [])
  | .someipMessage msg creates =>
      let (_, gw, outputs) := onSomeipMessage setup creates gw msg
      (gw, outputs.map .published)
  | .injectRos2Message _ _ => (gw, [])

def call (gw : Ros2Gateway σ) (session : UInt16) :
    Call → Ros2Gateway σ × UInt16 × List Effect
  | .injectRos2Message topic payload =>
      let (_, gw, session, requests) := injectRos2Message setup gw session topic payload
      (gw, session, requests.map .issued)
  | other =>
      let (gw, effects) := ownCall setup gw other
      (gw, session, effects)

end

def plainSetup : Setup Unit Unit where
  config := {}
  e2e :=
    { validate := fun state _ _ => (.success, state)
      protect := fun state msg _ => (msg, state) }

/-- The gateways of one process, named by `ν`, and the session counter they share. -/
structure Process (ν σ : Type) where
  session : UInt16 := 1
  gateways : ν → Ros2Gateway σ

def processStep {ν σ κ : Type} [DecidableEq ν] (setups : ν → Setup σ κ) (process : Process ν σ)
    (input : ν × Call) : Process ν σ × List Effect :=
  let (gw, session, effects) :=
    call (setups input.1) (process.gateways input.1) process.session input.2
  ({ session, gateways := Function.update process.gateways input.1 gw }, effects)

end SomeipGateway.Ros2
