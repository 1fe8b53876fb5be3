import SomeipGateway.Lib.Machine
import SomeipGateway.Someip.Serialization
import SomeipGateway.Zenoh.Translator

/-! `ZenohGateway`: the state behind its mutex, every callback it registers, and
one step function over everything that can happen to it. A put, a datagram and
an RPC call carry the mapping through which the source issues them. -/
namespace SomeipGateway.Zenoh

open Lib

/-- The fields of `ZenohConfig` that the gateway itself reads; the session
fields only reach the Zenoh library. -/
structure ZenohConfig (κ : Type) where
  keyPrefix : Text := Text.ascii "someip"
  payloadEncoding : ZenohPayloadEncoding := .raw
  someipBindAddress : Text := Text.ascii "0.0.0.0"
  someipBindPort : UInt16 := 30500
  someipRemoteAddress : Text := Text.ascii "127.0.0.1"
  someipRemotePort : UInt16 := 30501
  rpcClientId : UInt16 := 0x0042
  enableUdpTransport : Bool := true
  enableServiceDiscovery : Bool := true
  enableLivelinessSdBridge : Bool := true
  livelinessSubscriptionKey : Text := []
  enableE2eValidation : Bool := false
  e2eConfig : κ

structure Setup (σ κ : Type) where
  config : ZenohConfig κ
  cls : MessageClass
  wire : WireFormat
  e2e : E2EProtection σ κ

/-- An owned component of the SOME/IP stack; `initialised` is what its
`initialize()` or `start()` reported. -/
structure Component where
  initialised : Bool
deriving DecidableEq

structure EventPublisher where
  serviceId : UInt16
  instanceId : UInt16
  initialised : Bool
  events : List (UInt16 × UInt16)
deriving DecidableEq

structure Subscription where
  serviceId : UInt16
  instanceId : UInt16
  eventgroupId : UInt16
deriving DecidableEq

structure EventSubscriber where
  initialised : Bool
  subscriptions : List Subscription
deriving DecidableEq

structure RpcServer where
  initialised : Bool
  methods : List UInt16
deriving DecidableEq

structure SdServer where
  initialised : Bool
  /-- Service, instance and endpoint text of every `offer_service`. -/
  offers : List (UInt16 × UInt16 × Text)
deriving DecidableEq

/-- A declared queryable: its key, what its closure captured, and the mapping
whose turn of the loop declared it. -/
structure Queryable where
  key : Text
  serviceId : UInt16
  methodId : UInt16
  via : ServiceMapping
deriving DecidableEq

structure ZenohGateway (σ : Type) where
  base : GatewayBase := {}
  encoding : ZenohPayloadEncoding
  lastSender : Endpoint := {}
  udp : Option Component := none
  sdClient : Option Component := none
  sdServer : Option SdServer := none
  eventPublishers : List EventPublisher := []
  eventSubscriber : Option EventSubscriber := none
  rpcServer : Option RpcServer := none
  rpcServerServiceId : UInt16 := 0
  rpcClient : Option Component := none
  e2e : σ
  session : Bool := false
  zenohPublishers : List Text := []
  zenohSubscribers : List Text := []
  zenohQueryables : List Queryable := []
  livelinessTokens : List Text := []
  livelinessSubscribers : List Text := []

inductive Output where
  | put (key : Text) (payload : Bytes) (declared : Bool) (via : ServiceMapping)
  | sendMessage (msg : Message) (dest : Endpoint) (via : ServiceMapping)
  | callMethodSync (serviceId methodId : UInt16) (params : Bytes) (via : ServiceMapping)
  | reply (key : Text) (payload : Bytes)
  | rpcReturn (out : Bytes)
  | findService (serviceId : UInt16)
  | threw
deriving DecidableEq

/-- `find_mapping(service_id)`. Its pointer leads into a copy of the list that is gone
when the caller reads it; here the mapping itself is handed on. -/
def findMapping (mappings : List ServiceMapping) (serviceId : UInt16) : Option ServiceMapping :=
  mappings.find? fun m => m.someipServiceId == serviceId

/-- `find_mapping(service_id, instance_id)`, with its fallback. -/
def findMappingInstance (mappings : List ServiceMapping) (serviceId instanceId : UInt16) :
    Option ServiceMapping :=
  match findMappingForService mappings serviceId instanceId with
  | some m => some m
  | none => findMapping mappings serviceId

section Handlers

variable {σ κ : Type} (setup : Setup σ κ)

def publishToZenoh (gw : ZenohGateway σ) (msg : Message) (mapping : ServiceMapping) :
    List Output :=
  if gw.session then
    let ext := someipToZenoh setup.cls gw.encoding msg setup.config.keyPrefix mapping
    -- a key without a declared publisher gets an ad-hoc one
    [.put ext.topicOrKey ext.payload (ext.topicOrKey ∈ gw.zenohPublishers) mapping]
  else []

def typedPayload (msg : Message) : Bytes :=
  let buffer := setup.wire.serializeUint16 [] msg.serviceId
  let buffer := setup.wire.serializeUint16 buffer msg.methodId
  let buffer := setup.wire.serializeUint8 buffer msg.messageType.byte
  let buffer := setup.wire.serializeUint8 buffer msg.returnCode.byte
  setup.wire.serializeArray buffer msg.payload

def onSomeipMessage (gw : ZenohGateway σ) (msg : Message) :
    Result × ZenohGateway σ × List Output :=
  match findMapping gw.base.serviceMappings msg.serviceId with
  | none => (.invalidServiceId, { gw with base := gw.base.recordTranslationError }, [])
  | some mapping =>
      if !shouldForwardToExternal mapping then (.success, gw, [])
      else
        let toPublish :=
          if mapping.mode = .typedMode then { msg with payload := typedPayload setup msg } else msg
        (.success,
          { gw with base := gw.base.recordSomeipToExternal toPublish.payload.length },
          publishToZenoh setup gw toPublish mapping)

/-- `on_message_received`: the sender is cached before the message is validated. -/
def onMessageReceived (gw : ZenohGateway σ) (message : Option Message) (sender : Endpoint) :
    ZenohGateway σ × List Output :=
  match message with
  | none => (gw, [])
  | some msg =>
      let gw := { gw with lastSender := sender }
      if setup.config.enableE2eValidation then
        let (verdict, e2e) := setup.e2e.validate gw.e2e msg setup.config.e2eConfig
        let gw := { gw with e2e }
        if verdict ≠ .success then (gw, [])
        else (onSomeipMessage setup gw msg).2
      else (onSomeipMessage setup gw msg).2

/-- Where `send_someip_udp` sends when `sender` is the cached endpoint. -/
def destination (config : ZenohConfig κ) (sender : Endpoint) : Endpoint :=
  if sender.port ≠ 0 then sender
  else { address := config.someipRemoteAddress, port := config.someipRemotePort, protocol := .udp }

def sendSomeipUdp (gw : ZenohGateway σ) (msg : Message) (mapping : ServiceMapping) :
    ZenohGateway σ × List Output :=
  if gw.udp.isNone then (gw, [])
  else
    let (out, e2e) :=
      if setup.config.enableE2eValidation then
        setup.e2e.protect gw.e2e msg setup.config.e2eConfig
      else (msg, gw.e2e)
    ({ gw with e2e },
      [.sendMessage out (destination setup.config gw.lastSender) mapping])

def onZenohSample (gw : ZenohGateway σ) (key : Text) (payload : Bytes) :
    ZenohGateway σ × List Output :=
  let keyPrefix := setup.config.keyPrefix
  if key.length ≤ keyPrefix.length ∨ key.take keyPrefix.length ≠ keyPrefix then (gw, [])
  else
    let parsed := parseSomeipKey key keyPrefix
    if !parsed.valid || parsed.isLiveliness || parsed.isRpcPath then (gw, [])
    else
      let ext : ExternalMessage :=
        { topicOrKey := key, payload, sourceServiceId := parsed.serviceId
          sourceMethodId := parsed.methodOrEventId, sourceInstanceId := parsed.instanceId
          isNotification := true }
      match findMappingInstance gw.base.serviceMappings parsed.serviceId parsed.instanceId with
      | none => (gw, [])
      | some mapping =>
          if !shouldForwardToSomeip mapping then (gw, [])
          else
            match zenohToSomeip gw.encoding ext parsed.serviceId .notification with
            | .error _ => (gw, [.threw])
            | .ok msg =>
                let gw := { gw with base := gw.base.recordExternalToSomeip ext.payload.length }
                sendSomeipUdp setup gw msg mapping

def onLivelinessSample (gw : ZenohGateway σ) (key : Text) (putOrDelete : Bool) : List Output :=
  if !setup.config.enableLivelinessSdBridge || gw.sdClient.isNone then []
  else if !putOrDelete then []
  else
    let parsed := parseSomeipKey key setup.config.keyPrefix
    [.findService (if parsed.valid && parsed.isLiveliness then parsed.serviceId else 0)]

/-- `handle_rpc_query` in the closure of `queryable`; `answer` is what
`call_method_sync` returns if it is called. -/
def handleRpcQuery (gw : ZenohGateway σ) (queryable : Queryable) (key : Text)
    (payload : Option Bytes) (answer : RpcSyncResult) : List Output :=
  let wire := payload.getD []
  match decodePayload gw.encoding wire {} with
  | .error _ => [.threw]
  | .ok (decoded, envelope) =>
      let rpcParams := if decoded then envelope.payload else wire
      if gw.rpcClient.isNone then [.reply key []]
      else
        let resp : Message :=
          { serviceId := queryable.serviceId, methodId := queryable.methodId
            clientId := setup.config.rpcClientId, sessionId := 0x0001, messageType := .response
            payload := if answer.success then answer.returnValues else [] }
        [.callMethodSync queryable.serviceId queryable.methodId rpcParams queryable.via,
          .reply key (encodePayload gw.encoding resp)]

def rpcServerHandler (gw : ZenohGateway σ) (methodId clientId sessionId : UInt16)
    (params : Bytes) : List Output :=
  let req : Message :=
    { serviceId := gw.rpcServerServiceId, methodId, clientId, sessionId
      messageType := .request, payload := params }
  let published :=
    match findMapping gw.base.serviceMappings gw.rpcServerServiceId with
    | none => []
    | some m => if shouldForwardToExternal m then publishToZenoh setup gw req m else []
  published ++ [.rpcReturn params]

def notificationCallback (gw : ZenohGateway σ) (n : EventNotification) : List Output :=
  let msg : Message :=
    { serviceId := n.serviceId, methodId := n.eventId, clientId := setup.config.rpcClientId
      sessionId := 0x0001, messageType := .notification, payload := n.eventData }
  match findMappingInstance gw.base.serviceMappings n.serviceId n.instanceId with
  | none => []
  | some m => publishToZenoh setup gw msg m

/-! ### Starting and stopping -/

inductive ComponentKind where
  | sdClient
  | sdServer
  | rpcClient
  | eventSubscriber
  | eventPublisher (serviceId instanceId : UInt16)
  | rpcServer

structure StartOutcome where
  udpStart : Result := .success
  configLoads : Bool := true
  sessionOpens : Bool := true
  /-- What the `initialize()` calls report; `start()` looks at none of them. -/
  initializes : ComponentKind → Bool := fun _ => true

/-- The first mapping of a pair creates the publisher, with its own event groups. -/
def addEventPublisher (outcome : StartOutcome) (publishers : List EventPublisher)
    (map : ServiceMapping) : List EventPublisher :=
  if publishers.any fun p =>
      p.serviceId == map.someipServiceId && p.instanceId == map.someipInstanceId then publishers
  else
    publishers ++ [{
      serviceId := map.someipServiceId
      instanceId := map.someipInstanceId
      initialised := outcome.initializes
        (.eventPublisher map.someipServiceId map.someipInstanceId)
      events := map.someipEventGroupIds.map fun eg => (eg, 0x8000 ||| (eg &&& 0x0FFF)) }]

/-- The first mapping with methods names the only RPC server's service. -/
def addRpcServer (outcome : StartOutcome) (server : Option RpcServer × UInt16)
    (map : ServiceMapping) : Option RpcServer × UInt16 :=
  if server.1.isNone ∧ map.someipMethodIds ≠ [] then
    (some { initialised := outcome.initializes .rpcServer, methods := [] }, map.someipServiceId)
  else server

def registerMethods (mappings : List ServiceMapping) (serviceId : UInt16) (server : RpcServer) :
    RpcServer :=
  { server with
    methods := server.methods ++
      (mappings.filter fun map => map.someipServiceId == serviceId).flatMap
        ServiceMapping.someipMethodIds }

/-- Event groups are subscribed for the mappings that forward to SOME/IP. -/
def eventgroupSubscriptions (mappings : List ServiceMapping) : List Subscription :=
  (mappings.filter shouldForwardToSomeip).flatMap fun map =>
    map.someipEventGroupIds.map fun eg => ⟨map.someipServiceId, map.someipInstanceId, eg⟩

/-- Queryables are declared for the mappings that forward to Zenoh. -/
def methodQueryables (keyPrefix : Text) (mappings : List ServiceMapping) : List Queryable :=
  (mappings.filter shouldForwardToExternal).flatMap fun map =>
    map.someipMethodIds.map fun mid =>
      { key := buildRpcKey keyPrefix map.someipServiceId map.someipInstanceId mid
        serviceId := map.someipServiceId, methodId := mid, via := map }

def instancePatterns (keyPrefix : Text) (mappings : List ServiceMapping) : List Text :=
  (mappings.filter shouldForwardToSomeip).map fun map =>
    buildInstancePattern keyPrefix map.someipServiceId map.someipInstanceId

def startTransports (outcome : StartOutcome) (gw : ZenohGateway σ) : ZenohGateway σ :=
  let config := setup.config
  { gw with
    encoding := config.payloadEncoding
    sdClient :=
      if config.enableServiceDiscovery then some ⟨outcome.initializes .sdClient⟩
      else gw.sdClient
    sdServer :=
      if config.enableServiceDiscovery then some ⟨outcome.initializes .sdServer, []⟩
      else gw.sdServer
    udp :=
      if config.enableUdpTransport then some ⟨outcome.udpStart = .success⟩ else gw.udp }

def startSomeip (outcome : StartOutcome) (gw : ZenohGateway σ) : ZenohGateway σ :=
  let mappings := gw.base.serviceMappings
  let server := mappings.foldl (addRpcServer outcome)
    (gw.rpcServer, gw.rpcServerServiceId)
  { gw with
    rpcClient := some ⟨outcome.initializes .rpcClient⟩
    eventPublishers := mappings.foldl (addEventPublisher outcome) gw.eventPublishers
    rpcServer := server.1.map (registerMethods mappings server.2)
    rpcServerServiceId := server.2
    eventSubscriber :=
      some ⟨outcome.initializes .eventSubscriber, eventgroupSubscriptions mappings⟩ }

def declareSession (gw : ZenohGateway σ) : ZenohGateway σ :=
  let config := setup.config
  let mappings := gw.base.serviceMappings
  let queryables := methodQueryables config.keyPrefix mappings
  let endpoint := config.someipBindAddress ++ Text.ascii ":" ++
    Text.numeral 10 config.someipBindPort.toNat
  { gw with
    session := true
    zenohPublishers := gw.zenohPublishers ++ queryables.map Queryable.key
    zenohQueryables := gw.zenohQueryables ++ queryables
    zenohSubscribers := gw.zenohSubscribers ++ instancePatterns config.keyPrefix mappings
    livelinessTokens := gw.livelinessTokens ++ mappings.map fun map =>
      buildLivelinessKey config.keyPrefix map.someipServiceId map.someipInstanceId
    sdServer := gw.sdServer.map fun server => { server with
      offers := server.offers ++ mappings.map fun map =>
        (map.someipServiceId, map.someipInstanceId, endpoint) }
    livelinessSubscribers :=
      if config.enableLivelinessSdBridge then
        gw.livelinessSubscribers ++
          [if config.livelinessSubscriptionKey.isEmpty then
            config.keyPrefix ++ Text.ascii "/liveliness/**"
          else config.livelinessSubscriptionKey]
      else gw.livelinessSubscribers
    base := gw.base.setRunning true }

/-- `start()`; `none` is an exception of the Zenoh configuration calls. -/
def start (outcome : StartOutcome) (gw : ZenohGateway σ) : Option Result × ZenohGateway σ :=
  if gw.base.running then (some .success, gw)
  else
    let gw := startTransports setup outcome gw
    if setup.config.enableUdpTransport ∧ outcome.udpStart ≠ .success then
      (some .networkError, gw)
    else
      let gw := startSomeip outcome gw
      if !outcome.configLoads then (none, gw)
      else if !outcome.sessionOpens then (some .notInitialized, gw)
      else (some .success, declareSession setup gw)

def stop (gw : ZenohGateway σ) : Result × ZenohGateway σ :=
  if !gw.base.running then (.success, gw)
  else
    (.success,
      { gw with
        livelinessSubscribers := []
        livelinessTokens := []
        zenohQueryables := []
        zenohSubscribers := []
        zenohPublishers := []
        session := false
        eventSubscriber := none
        rpcClient := none
        rpcServer := none
        eventPublishers := []
        udp := none
        sdClient := none
        sdServer := none
        base := gw.base.setRunning false })

/-- The constructor, with the mappings added before anything else happens. -/
def fresh (mappings : List ServiceMapping) (e2e : σ) : ZenohGateway σ where
  base := { serviceMappings := mappings }
  encoding := setup.config.payloadEncoding
  e2e := e2e

/-! ### The gateway as a machine -/

inductive Input where
  | start (outcome : StartOutcome)
  | stop
  | addServiceMapping (mapping : ServiceMapping)
  | datagram (message : Option Message) (sender : Endpoint)
  | someipMessage (msg : Message)
  | rpcServerCall (methodId clientId sessionId : UInt16) (params : Bytes)
  | notification (n : EventNotification)
  | sample (key : Text) (payload : Bytes)
  | livelinessSample (key : Text) (putOrDelete : Bool)
  | query (queryable : Queryable) (key : Text) (payload : Option Bytes) (answer : RpcSyncResult)

def ZenohGateway.serves (gw : ZenohGateway σ) (methodId : UInt16) : Bool :=
  gw.rpcServer.any fun server => server.methods.contains methodId

def ZenohGateway.subscribed (gw : ZenohGateway σ) (n : EventNotification) : Bool :=
  gw.eventSubscriber.any fun subscriber => subscriber.subscriptions.any fun s =>
    s.serviceId == n.serviceId && s.instanceId == n.instanceId

/-- One event. A call, a notification or a query reaches the gateway only
through a callback that is registered when it arrives. -/
def step (gw : ZenohGateway σ) : Input → ZenohGateway σ × List Output
  | .start outcome => ((start setup outcome gw).2, [])
  | .stop => ((stop gw).2, [])
  | .addServiceMapping mapping => ({ gw with base := gw.base.addServiceMapping mapping }, [])
  | .datagram message sender => onMessageReceived setup gw message sender
  | .someipMessage msg => (onSomeipMessage setup gw msg).2
  | .rpcServerCall methodId clientId sessionId params =>
      (gw, if gw.serves methodId then
        rpcServerHandler setup gw methodId clientId sessionId params else [])
  | .notification n => (gw, if gw.subscribed n then notificationCallback setup gw n else [])
  | .sample key payload => onZenohSample setup gw key payload
  | .livelinessSample key putOrDelete => (gw, onLivelinessSample setup gw key putOrDelete)
  | .query queryable key payload answer =>
      (gw, if queryable ∈ gw.zenohQueryables then
        handleRpcQuery setup gw queryable key payload answer else [])

/-! ### What a sample can do -/

/-- The mapping and the message a sample is turned into, if it gets that far;
nothing but the encoding and the mapping table decides it. -/
def routeSample (encoding : ZenohPayloadEncoding) (mappings : List ServiceMapping) (key : Text)
    (payload : Bytes) : Option (ServiceMapping × Except OutOfRange Message) :=
  let keyPrefix := setup.config.keyPrefix
  let parsed := parseSomeipKey key keyPrefix
  if key.length ≤ keyPrefix.length ∨ key.take keyPrefix.length ≠ keyPrefix then none
  else if !parsed.valid || parsed.isLiveliness || parsed.isRpcPath then none
  else
    match findMappingInstance mappings parsed.serviceId parsed.instanceId with
    | none => none
    | some mapping =>
        if !shouldForwardToSomeip mapping then none
        else
          let ext : ExternalMessage :=
            { topicOrKey := key, payload, sourceServiceId := parsed.serviceId
              sourceMethodId := parsed.methodOrEventId, sourceInstanceId := parsed.instanceId
              isNotification := true }
          some (mapping, zenohToSomeip encoding ext parsed.serviceId .notification)

theorem onZenohSample_eq (gw : ZenohGateway σ) (key : Text) (payload : Bytes) :
    onZenohSample setup gw key payload =
      match routeSample setup gw.encoding gw.base.serviceMappings key payload with
      | none => (gw, [])
      | some (_, .error _) => (gw, [.threw])
      | some (mapping, .ok msg) =>
          sendSomeipUdp setup { gw with base := gw.base.recordExternalToSomeip payload.length }
            msg mapping := by
  simp only [onZenohSample, routeSample]
  split_ifs
  · rfl
  · rfl
  · cases findMappingInstance gw.base.serviceMappings
        (parseSomeipKey key setup.config.keyPrefix).serviceId
        (parseSomeipKey key setup.config.keyPrefix).instanceId with
    | none => rfl
    | some mapping =>
        dsimp only
        split_ifs
        · rfl
        · split <;> simp_all

theorem shouldForwardToSomeip_of_routeSample {encoding : ZenohPayloadEncoding}
    {mappings : List ServiceMapping} {key : Text} {payload : Bytes} {mapping : ServiceMapping}
    {msg : Except OutOfRange Message}
    (h : routeSample setup encoding mappings key payload = some (mapping, msg)) :
    shouldForwardToSomeip mapping = true := by
  simp only [routeSample] at h
  split_ifs at h
  split at h
  · contradiction
  · split_ifs at h with hforward
    cases h
    simpa using hforward

/-! ### What the handlers leave alone -/

/-- A handler changes counters, the cached sender and the protection state, and
nothing else. -/
structure Handled (before after : ZenohGateway σ) : Prop where
  frame : after =
    { before with base := after.base, lastSender := after.lastSender, e2e := after.e2e }
  running : after.base.running = before.base.running
  mappings : after.base.serviceMappings = before.base.serviceMappings

theorem Handled.refl (gw : ZenohGateway σ) : Handled gw gw := ⟨rfl, rfl, rfl⟩

theorem onSomeipMessage_handled (gw : ZenohGateway σ) (msg : Message) :
    Handled gw (onSomeipMessage setup gw msg).2.1 := by
  simp only [onSomeipMessage]
  split
  · exact ⟨rfl, rfl, rfl⟩
  · split
    · exact .refl gw
    · exact ⟨rfl, rfl, rfl⟩

theorem onMessageReceived_handled (gw : ZenohGateway σ) (message : Option Message)
    (sender : Endpoint) : Handled gw (onMessageReceived setup gw message sender).1 := by
  cases message with
  | none => exact .refl gw
  | some msg =>
      -- the state the message is handled in differs from `gw` in the framed fields only
      have hmessage (e2e : σ) := onSomeipMessage_handled setup
        { gw with lastSender := sender, e2e } msg
      simp only [onMessageReceived]
      split_ifs
      · exact ⟨rfl, rfl, rfl⟩
      · obtain ⟨hframe, hrunning, hmappings⟩ :=
          hmessage (setup.e2e.validate gw.e2e msg setup.config.e2eConfig).2
        exact ⟨hframe, hrunning, hmappings⟩
      · obtain ⟨hframe, hrunning, hmappings⟩ := hmessage gw.e2e
        exact ⟨hframe, hrunning, hmappings⟩

theorem onZenohSample_handled (gw : ZenohGateway σ) (key : Text) (payload : Bytes) :
    Handled gw (onZenohSample setup gw key payload).1 := by
  rw [onZenohSample_eq]
  rcases routeSample setup gw.encoding gw.base.serviceMappings key payload with
    _ | ⟨mapping, _ | msg⟩
  · exact .refl gw
  · exact .refl gw
  · simp only [sendSomeipUdp]
    split
    · exact ⟨rfl, rfl, rfl⟩
    · exact ⟨rfl, rfl, rfl⟩

def Input.configures : Input → Bool
  | .start _ => true
  | .stop => true
  | .addServiceMapping _ => true
  | _ => false

theorem step_handled (gw : ZenohGateway σ) {input : Input} (h : input.configures = false) :
    Handled gw (step setup gw input).1 := by
  cases input with
  | start outcome => cases h
  | stop => cases h
  | addServiceMapping mapping => cases h
  | datagram message sender => exact onMessageReceived_handled setup gw message sender
  | someipMessage msg => exact onSomeipMessage_handled setup gw msg
  | rpcServerCall methodId clientId sessionId params => exact .refl gw
  | notification n => exact .refl gw
  | sample key payload => exact onZenohSample_handled setup gw key payload
  | livelinessSample key putOrDelete => exact .refl gw
  | query queryable key payload answer => exact .refl gw

end Handlers

def plainSetup : Setup Unit Unit where
  config := { e2eConfig := () }
  cls := .exact
  wire := .bigEndian
  e2e :=
    { validate := fun state _ _ => (.success, state)
      protect := fun state msg _ => (msg, state) }

end SomeipGateway.Zenoh
