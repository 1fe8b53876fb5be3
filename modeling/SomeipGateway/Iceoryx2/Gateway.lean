import Mathlib.Logic.Function.Basic
import SomeipGateway.Common.Outbound
import SomeipGateway.Iceoryx2.Translator
import SomeipGateway.Lib.Machine

/-! `Iceoryx2Gateway`: start-up with every way it can fail, and the handlers of
both directions. Samples leave through `publish_toward_iceoryx2` and come in
through `inject_iceoryx2_sample`. -/
namespace SomeipGateway.Iceoryx2

open Lib

/-- The fields of `Iceoryx2Config` that the gateway reads; the others are handed
to the SOME/IP stack or kept for diagnostics. -/
structure Iceoryx2Config where
  serviceNamePrefix : Text := Text.ascii "someip"
  someipClientId : UInt16 := 0x4200
  enableSdProxy : Bool := true
  enableSomeipUdpListener : Bool := false
  someipListenEndpoint : Endpoint := { address := Text.ascii "0.0.0.0", port := 30500 }
  useInprocessShmSimulation : Bool := false

structure Setup where
  config : Iceoryx2Config
  cls : MessageClass
  wire : WireFormat

/-! ### Components -/

structure EventConfig where
  eventId : UInt16
  eventgroupId : UInt16
deriving DecidableEq

structure EventPublisher where
  serviceId : UInt16
  instanceId : UInt16
  initialised : Bool := false
  events : List EventConfig := []
deriving DecidableEq

/-- One `subscribe_eventgroup`; the callback captures the mapping. -/
structure Subscription where
  mapping : ServiceMapping
  eventgroupId : UInt16
deriving DecidableEq

structure EventSubscriber where
  clientId : UInt16
  initialised : Bool := false
  subscriptions : List Subscription := []
deriving DecidableEq

structure RpcClient where
  clientId : UInt16
  initialised : Bool := false
deriving DecidableEq

/-- One `register_method`; the handler captures the mapping. -/
structure RpcMethod where
  methodId : UInt16
  mapping : ServiceMapping
deriving DecidableEq

structure RpcServer where
  initialised : Bool := false
  methods : List RpcMethod := []
deriving DecidableEq

structure SdClient where
  initialised : Bool := false
  finds : List UInt16 := []
deriving DecidableEq

structure SdServer where
  initialised : Bool := false
  /-- Service, instance and endpoint text of every `offer_service`. -/
  offers : List (UInt16 × UInt16 × Text) := []
deriving DecidableEq

structure UdpTransport where
  localEndpoint : Endpoint
  started : Bool := false
deriving DecidableEq

structure InprocessBus where
  queue : List (Text × Bytes) := []
deriving DecidableEq

def InprocessBus.kMaxDepth : Nat := 1024

/-- `push`: the front goes until there is room. -/
def InprocessBus.push (bus : InprocessBus) (name : Text) (sample : Bytes) : InprocessBus where
  queue := bus.queue.drop (bus.queue.length + 1 - kMaxDepth) ++ [(name, sample)]

abbrev ServiceKey := UInt16 × UInt16

def makeKey (serviceId instanceId : UInt16) : ServiceKey := (serviceId, instanceId)

/-- `event_publishers_`, read with `find` and `[]`. -/
abbrev Publishers := ServiceKey → Option EventPublisher

abbrev RpcServers := UInt16 → Option RpcServer

/-- `g_eventgroup_subscribed`: a set shared by all gateways of the process. -/
abbrev EventgroupSet := List (UInt16 × UInt16 × UInt16)

structure Iceoryx2Gateway where
  base : GatewayBase := {}
  outboundHook : Bool := false
  externalMessageCallback : Bool := false
  eventPublishers : Publishers := fun _ => none
  eventSubscriber : Option EventSubscriber := none
  rpcClient : Option RpcClient := none
  rpcServers : RpcServers := fun _ => none
  sdClient : Option SdClient := none
  sdServer : Option SdServer := none
  udpTransport : Option UdpTransport := none
  udpListener : Bool := false
  sdOffersSent : UInt64 := 0
  sdFindsHandled : UInt64 := 0
  inprocessBus : Option InprocessBus := none

/-- What the gateway does to its surroundings. `published` is one call of
`publish_toward_iceoryx2`: the mapping it goes through, and whether the outbound
hook is handed the sample. -/
inductive Output where
  | published (name : Text) (sample : Bytes) (via : ServiceMapping) (hooked : Bool)
  | publishEvent (publisher : ServiceKey) (eventId : UInt16) (data : Bytes)
  | callMethodSync (serviceId methodId : UInt16) (params : Bytes)
  | externalMessage (serviceId methodId : UInt16) (payload : Bytes)
deriving DecidableEq

/-! ### Toward iceoryx2 -/

/-- The first mapping of a service, looked up again under its own instance. -/
def findMappingOfService (mappings : List ServiceMapping) (serviceId : UInt16) :
    Option ServiceMapping :=
  match mappings.find? fun sm => sm.someipServiceId == serviceId with
  | none => none
  | some sm => findMappingForService mappings serviceId sm.someipInstanceId

def mappingForMessage (mappings : List ServiceMapping) (serviceId : UInt16) :
    Option ServiceMapping :=
  match findMappingForService mappings serviceId 0x0001 with
  | some m => some m
  | none =>
      match findMappingForService mappings serviceId 0x0000 with
      | some m => some m
      | none => findMappingOfService mappings serviceId

section Handlers

variable (setup : Setup)

/-- `publish_toward_iceoryx2`; every caller hands in a mapping, and the result is
always `SUCCESS`. -/
def publishTowardIceoryx2 (gw : Iceoryx2Gateway) (name : Text) (sample : Bytes)
    (mapping : ServiceMapping) : Iceoryx2Gateway × List Output :=
  ({ gw with
      base :=
        if shouldForwardToExternal mapping then gw.base.recordSomeipToExternal sample.length
        else gw.base
      inprocessBus :=
        if setup.config.useInprocessShmSimulation then
          gw.inprocessBus.map fun bus => bus.push name sample
        else gw.inprocessBus },
    [.published name sample mapping gw.outboundHook])

def bridgeSomeipToExternal (gw : Iceoryx2Gateway) (msg : Message) (mapping : ServiceMapping)
    (kind : Char) : Iceoryx2Gateway × List Output :=
  publishTowardIceoryx2 setup gw
    (buildIceoryx2ServiceName setup.config.serviceNamePrefix mapping.someipServiceId
      mapping.someipInstanceId msg.methodId kind.toUInt8)
    (someipToSample setup.wire msg mapping.someipInstanceId mapping.mode) mapping

def bridgePubSubSomeipToExternal (gw : Iceoryx2Gateway) (msg : Message)
    (mapping : ServiceMapping) : Iceoryx2Gateway × List Output :=
  bridgeSomeipToExternal setup gw msg mapping
    (if msg.messageType = .notification then 'N' else 'P')

def bridgeRpcSomeipToExternal (gw : Iceoryx2Gateway) (msg : Message)
    (mapping : ServiceMapping) : Iceoryx2Gateway × List Output :=
  bridgeSomeipToExternal setup gw msg mapping 'R'

def onSomeipMessage (gw : Iceoryx2Gateway) (msg : Message) :
    Result × Iceoryx2Gateway × List Output :=
  if !gw.base.running then (.invalidState, gw, [])
  else
    match mappingForMessage gw.base.serviceMappings msg.serviceId with
    | none => (.invalidServiceId, gw, [])
    | some m =>
        if !shouldForwardToExternal m then (.success, gw, [])
        else if msg.messageType = .notification then
          (.success, bridgePubSubSomeipToExternal setup gw msg m)
        else if setup.cls.isRequest msg.messageType || msg.messageType == .requestNoReturn then
          (.success, bridgeRpcSomeipToExternal setup gw msg m)
        else (.success, bridgeSomeipToExternal setup gw msg m 'R')

def rpcServerHandler (gw : Iceoryx2Gateway) (method : RpcMethod)
    (clientId sessionId : UInt16) (params : Bytes) : Iceoryx2Gateway × List Output :=
  let req : Message :=
    { serviceId := method.mapping.someipServiceId, methodId := method.methodId, clientId,
      sessionId, messageType := .request, payload := params }
  bridgeSomeipToExternal setup gw req method.mapping 'R'

def notificationCallback (gw : Iceoryx2Gateway) (subscription : Subscription)
    (n : EventNotification) : Iceoryx2Gateway × List Output :=
  bridgePubSubSomeipToExternal setup gw (notificationMessage n) subscription.mapping

/-! ### Toward SOME/IP -/

def mappingForEnvelope (mappings : List ServiceMapping) (env : Iceoryx2Envelope) :
    Option ServiceMapping :=
  match findMappingForService mappings env.serviceId env.instanceId with
  | some m => some m
  | none => findMappingOfService mappings env.serviceId

def publishIncomingEvent (gw : Iceoryx2Gateway) (env : Iceoryx2Envelope) :
    Iceoryx2Gateway × List Output :=
  let sm := envelopeToSomeip env
  let key := makeKey env.serviceId env.instanceId
  match gw.eventPublishers key with
  | none => (gw, [])
  | some _ =>
      ({ gw with base := gw.base.recordExternalToSomeip sm.payload.length },
        [.publishEvent key env.methodOrEventId sm.payload])

/-- The request branch: `answer` is what `call_method_sync` returns. -/
def callIncomingRequest (gw : Iceoryx2Gateway) (env : Iceoryx2Envelope)
    (mapping : ServiceMapping) (answer : RpcSyncResult) : Iceoryx2Gateway × List Output :=
  let resp : Message :=
    { serviceId := env.serviceId, methodId := env.methodOrEventId, clientId := env.clientId,
      sessionId := env.sessionId
      messageType := if answer.success then .response else .error
      payload := answer.returnValues }
  let (gw, published) := publishTowardIceoryx2 setup gw
    (buildIceoryx2ServiceName setup.config.serviceNamePrefix env.serviceId env.instanceId
      env.methodOrEventId 'R'.toUInt8)
    (someipToSample setup.wire resp env.instanceId env.mode) mapping
  ({ gw with base := gw.base.recordExternalToSomeip answer.returnValues.length },
    .callMethodSync env.serviceId env.methodOrEventId env.payload :: published)

def bridgeExternalToSomeip (gw : Iceoryx2Gateway) (env : Iceoryx2Envelope)
    (answer : RpcSyncResult) : Iceoryx2Gateway × List Output :=
  match mappingForEnvelope gw.base.serviceMappings env with
  | none => (gw, [])
  | some mapping =>
      if !shouldForwardToSomeip mapping then (gw, [])
      else if env.messageType = .notification then publishIncomingEvent gw env
      else if (env.messageType = .request ∨ env.messageType = .requestNoReturn) ∧
          gw.rpcClient.isSome then
        callIncomingRequest setup gw env mapping answer
      else (gw, [])

def handleIncomingEnvelope (gw : Iceoryx2Gateway) (env : Iceoryx2Envelope) (name : Text)
    (answer : RpcSyncResult) : Iceoryx2Gateway × List Output :=
  let (gw, bridged) := bridgeExternalToSomeip setup gw env answer
  let ext := envelopeToExternal env name
  (gw, bridged ++
    if gw.externalMessageCallback then
      [.externalMessage ext.sourceServiceId ext.sourceMethodId ext.payload]
    else [])

def injectIceoryx2Sample (gw : Iceoryx2Gateway) (name : Text) (sample : Bytes)
    (answer : RpcSyncResult) : Iceoryx2Gateway × List Output :=
  match parseSample setup.wire sample with
  | none => ({ gw with base := gw.base.recordTranslationError }, [])
  | some env => handleIncomingEnvelope setup gw env name answer

/-! ### Start and stop -/

/-- How the components' `initialize()`, `start()` and `offer_service` calls of one
`start()` turn out; the numbered ones are counted along the mapping list. -/
structure StartOutcome where
  subscriber : Bool := true
  rpcClient : Bool := true
  publisher : Nat → Bool := fun _ => true
  rpcServer : Nat → Bool := fun _ => true
  sdClient : Bool := true
  sdServer : Bool := true
  offer : Nat → Bool := fun _ => true
  udpStart : Result := .success

def registerEvents (m : ServiceMapping) (publisher : EventPublisher) : EventPublisher :=
  { publisher with
    events := publisher.events ++ m.someipMethodIds.map fun eid =>
      { eventId := eid, eventgroupId := m.someipEventGroupIds.headD 0 } }

/-- One turn of the publisher loop; on an error `start()` gives up with the
publishers there are. -/
def addEventPublisher (outcome : StartOutcome) (publishers : Publishers)
    (turn : ServiceMapping × Nat) : Except Publishers Publishers :=
  let (m, position) := turn
  let key := makeKey m.someipServiceId m.someipInstanceId
  if !shouldForwardToSomeip m then .ok publishers
  else
    match publishers key with
    | some publisher => .ok (Function.update publishers key (some (registerEvents m publisher)))
    | none =>
        if !outcome.publisher position then .error publishers
        else
          let publisher : EventPublisher :=
            { serviceId := m.someipServiceId, instanceId := m.someipInstanceId
              initialised := true }
          .ok (Function.update publishers key (some (registerEvents m publisher)))

def setupRpcServerForMapping (outcome : StartOutcome) (servers : RpcServers)
    (turn : ServiceMapping × Nat) : RpcServers :=
  let (mapping, position) := turn
  let sid := mapping.someipServiceId
  let register (server : RpcServer) : RpcServers :=
    Function.update servers sid (some { server with
      methods := server.methods ++ mapping.someipMethodIds.map fun mid => ⟨mid, mapping⟩ })
  match servers sid with
  | some server => register server
  | none => if !outcome.rpcServer position then servers else register { initialised := true }

/-- One event group: `insert(tup).second` tells whether it is subscribed here. -/
def subscribeEventgroup (mapping : ServiceMapping)
    (state : List Subscription × EventgroupSet) (eg : UInt16) :
    List Subscription × EventgroupSet :=
  let tup := (mapping.someipServiceId, mapping.someipInstanceId, eg)
  if tup ∈ state.2 then state else (state.1 ++ [⟨mapping, eg⟩], tup :: state.2)

/-- `setup_event_subscriptions_for_mapping`, where the subscriber exists. -/
def setupEventSubscriptionsForMapping (state : List Subscription × EventgroupSet)
    (mapping : ServiceMapping) : List Subscription × EventgroupSet :=
  if !shouldForwardToExternal mapping then state
  else mapping.someipEventGroupIds.foldl (subscribeEventgroup mapping) state

def stop (gw : Iceoryx2Gateway) : Result × Iceoryx2Gateway :=
  (.success,
    { gw with
      base := gw.base.setRunning false
      udpTransport := none
      udpListener := false
      eventPublishers := fun _ => none
      eventSubscriber := none
      rpcServers := fun _ => none
      rpcClient := none
      sdClient := none
      sdServer := none
      inprocessBus := none })

/-- A phase of `start()`: the gateway after it, or the result to return once the
gateway as it is then has been stopped. -/
abbrev Phase (α : Type) := Except (Result × Iceoryx2Gateway) α

def startRpcClient (outcome : StartOutcome) (gw : Iceoryx2Gateway) : Phase Iceoryx2Gateway :=
  let gw := { gw with
    rpcClient :=
      some { clientId := setup.config.someipClientId, initialised := outcome.rpcClient } }
  if !outcome.rpcClient then .error (.notInitialized, gw) else .ok gw

def startPublishers (outcome : StartOutcome) (gw : Iceoryx2Gateway) : Phase Iceoryx2Gateway :=
  match gw.base.serviceMappings.zipIdx.foldlM (addEventPublisher outcome) gw.eventPublishers with
  | .error publishers => .error (.notInitialized, { gw with eventPublishers := publishers })
  | .ok publishers => .ok { gw with eventPublishers := publishers }

/-- The second loop over the mappings. The two set-up functions touch different
components, so that one can run before the other. -/
def setupMappings (outcome : StartOutcome) (gw : Iceoryx2Gateway) :
    Iceoryx2Gateway × EventgroupSet :=
  let mappings := gw.base.serviceMappings
  let (subscriptions, subscribed) := mappings.foldl setupEventSubscriptionsForMapping ([], [])
  ({ gw with
      rpcServers := mappings.zipIdx.foldl (setupRpcServerForMapping outcome) gw.rpcServers
      eventSubscriber := gw.eventSubscriber.map fun subscriber =>
        { subscriber with subscriptions := subscriber.subscriptions ++ subscriptions } },
    subscribed)

/-- The SD branch of `start()`; once both ends are initialised there is one
`setup_sd_proxy_for_mapping` for every mapping. -/
def startSd (outcome : StartOutcome) (gw : Iceoryx2Gateway) : Phase Iceoryx2Gateway :=
  let mappings := gw.base.serviceMappings
  let endpoint := setup.config.someipListenEndpoint
  let ep := endpoint.address ++ Text.ascii ":" ++ Text.numeral 10 endpoint.port.toNat
  let offered := mappings.zipIdx.filter fun turn => outcome.offer turn.2
  if !setup.config.enableSdProxy then .ok gw
  else if !outcome.sdClient then
    .error (.networkError, { gw with sdClient := some {}, sdServer := some {} })
  else if !outcome.sdServer then
    .error (.networkError,
      { gw with sdClient := some { initialised := true }, sdServer := some {} })
  else
    .ok { gw with
      sdClient := some
        { initialised := true, finds := mappings.map ServiceMapping.someipServiceId }
      sdServer := some
        { initialised := true
          offers := mappings.map fun m => (m.someipServiceId, m.someipInstanceId, ep) }
      sdOffersSent := gw.sdOffersSent + UInt64.ofNat offered.length }

def startUdp (outcome : StartOutcome) (gw : Iceoryx2Gateway) : Phase Iceoryx2Gateway :=
  let transport : UdpTransport := { localEndpoint := setup.config.someipListenEndpoint }
  if !setup.config.enableSomeipUdpListener then .ok gw
  else if outcome.udpStart ≠ .success then
    .error (.networkError, { gw with udpTransport := some transport, udpListener := true })
  else
    .ok { gw with udpTransport := some { transport with started := true }, udpListener := true }

def startComponents (outcome : StartOutcome) (gw : Iceoryx2Gateway) :
    Phase (Iceoryx2Gateway × EventgroupSet) := do
  let gw ← startRpcClient setup outcome gw
  let gw ← startPublishers outcome gw
  let (gw, subscribed) := setupMappings outcome gw
  let gw ← startSd setup outcome gw
  let gw ← startUdp setup outcome gw
  return (gw, subscribed)

/-- `start()`, with `g_eventgroup_subscribed` before and after. -/
def start (outcome : StartOutcome) (gw : Iceoryx2Gateway) (subscribed : EventgroupSet) :
    Result × Iceoryx2Gateway × EventgroupSet :=
  if gw.base.running then (.success, gw, subscribed)
  else
    let gw := { gw with
      inprocessBus :=
        if setup.config.useInprocessShmSimulation then some {} else gw.inprocessBus
      eventSubscriber :=
        some { clientId := setup.config.someipClientId, initialised := outcome.subscriber } }
    if !outcome.subscriber then
      (.notInitialized, { gw with eventSubscriber := none, inprocessBus := none }, [])
    else
      match startComponents setup outcome gw with
      | .error (result, gw) => (result, (stop gw).2, [])
      | .ok (gw, subscribed) => (.success, { gw with base := gw.base.setRunning true }, subscribed)

/-! ### The gateway as a machine -/

/-- The set the gateways of a process share is read by `start()` only, so for one
gateway it is an argument of that call. -/
inductive Input where
  | start (outcome : StartOutcome) (subscribed : EventgroupSet)
  | stop
  | addServiceMapping (mapping : ServiceMapping)
  | setIceoryx2OutboundHook (installed : Bool)
  | setExternalMessageCallback (installed : Bool)
  | someipMessage (msg : Message)
  | datagram (message : Option Message)
  | rpcServerCall (serviceId : UInt16) (method : RpcMethod) (clientId sessionId : UInt16)
      (params : Bytes)
  | notification (subscription : Subscription) (n : EventNotification)
  | serviceFound
  | sample (name : Text) (sample : Bytes) (answer : RpcSyncResult)

/-- One event. A call, a notification or a datagram reaches the gateway only
through a callback that is registered when it arrives. -/
def step (gw : Iceoryx2Gateway) : Input → Iceoryx2Gateway × List Output
  | .start outcome subscribed => ((start setup outcome gw subscribed).2.1, [])
  | .stop => ((stop gw).2, [])
  | .addServiceMapping mapping => ({ gw with base := gw.base.addServiceMapping mapping }, [])
  | .setIceoryx2OutboundHook installed => ({ gw with outboundHook := installed }, [])
  | .setExternalMessageCallback installed => ({ gw with externalMessageCallback := installed }, [])
  | .someipMessage msg => (onSomeipMessage setup gw msg).2
  | .datagram none => (gw, [])
  | .datagram (some msg) =>
      if gw.udpTransport.any UdpTransport.started then (onSomeipMessage setup gw msg).2
      else (gw, [])
  | .rpcServerCall serviceId method clientId sessionId params =>
      if (gw.rpcServers serviceId).any fun server => method ∈ server.methods then
        rpcServerHandler setup gw method clientId sessionId params
      else (gw, [])
  | .notification subscription n =>
      if gw.eventSubscriber.any fun subscriber => subscription ∈ subscriber.subscriptions then
        notificationCallback setup gw subscription n
      else (gw, [])
  | .serviceFound =>
      if gw.sdClient.isSome then ({ gw with sdFindsHandled := gw.sdFindsHandled + 1 }, [])
      else (gw, [])
  | .sample name sample answer => injectIceoryx2Sample setup gw name sample answer

end Handlers

end SomeipGateway.Iceoryx2
