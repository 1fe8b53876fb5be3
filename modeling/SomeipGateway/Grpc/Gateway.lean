import Mathlib.Logic.Function.Basic
import SomeipGateway.Lib.Machine
import SomeipGateway.Lib.Phases
import SomeipGateway.Common.Outbound

/-! `GrpcGateway`: what `start()` and `stop()` do to its components, and the
`StreamSomeIpEvents` calls it serves. Each call runs in a thread of its own, so
its handler is cut at the points where other threads can come in between; one
input is one such piece of one handler, or a call from outside. -/
namespace SomeipGateway.Grpc

open Lib

/-! ### Envelopes -/

/-- The protobuf `SomeIpEnvelope`. -/
structure SomeIpEnvelope where
  serviceId : UInt32 := 0
  methodOrEventId : UInt32 := 0
  clientId : UInt32 := 0
  sessionId : UInt32 := 0
  messageType : UInt32 := 0
  returnCode : UInt32 := 0
  payload : Bytes := []
  instanceId : UInt32 := 0
  serializedSomeipFrame : Bytes := []
deriving DecidableEq

structure EventFrame where
  envelope : SomeIpEnvelope
deriving DecidableEq

def messageToEnvelope (msg : Message) : SomeIpEnvelope where
  serviceId := msg.serviceId.toUInt32
  methodOrEventId := msg.methodId.toUInt32
  clientId := msg.clientId.toUInt32
  sessionId := msg.sessionId.toUInt32
  messageType := msg.messageType.byte.toUInt32
  returnCode := msg.returnCode.byte.toUInt32
  payload := msg.payload
  instanceId := 0

def messageFrame (msg : Message) : EventFrame := ⟨messageToEnvelope msg⟩

/-- The fields of `GrpcConfig` that the modelled functions read. -/
structure GrpcConfig where
  enableSdClient : Bool := false
  enableSdServer : Bool := false
  enableE2eBridge : Bool := false

/-- Sizes are computed by protobuf and by the SOME/IP stack; they only reach the
statistics. -/
structure Setup where
  config : GrpcConfig := {}
  byteSizeLong : SomeIpEnvelope → Nat
  totalSize : Message → Nat

/-! ### Event streams -/

/-- `EventStreamKey`: the three ids of the subscription request, as 32-bit values. -/
structure EventStreamKey where
  serviceId : UInt32
  instanceId : UInt32
  eventGroupId : UInt32
deriving DecidableEq

def EventStreamKey.lt (key other : EventStreamKey) : Bool :=
  if key.serviceId ≠ other.serviceId then key.serviceId < other.serviceId
  else if key.instanceId ≠ other.instanceId then key.instanceId < other.instanceId
  else key.eventGroupId < other.eventGroupId

structure Eventgroup where
  serviceId : UInt16
  instanceId : UInt16
  eventgroupId : UInt16
deriving DecidableEq

/-- What the `EventSubscriber` is told: the casts keep the low 16 bits. -/
def EventStreamKey.eventgroup (key : EventStreamKey) : Eventgroup :=
  ⟨key.serviceId.toUInt16, key.instanceId.toUInt16, key.eventGroupId.toUInt16⟩

structure EventStreamSink where
  closed : Bool := false
  pending : List EventFrame := []
deriving DecidableEq

/-- The `grpc::Status` a stream call ends with. -/
inductive Status where
  | ok
  | failedPrecondition
deriving DecidableEq

inductive LoopExit where
  | cancelled
  | closed
  | writeFailed
deriving DecidableEq

/-- How far a `StreamSomeIpEvents` call has come. -/
inductive Phase where
  | unopened
  | registered
  | looping
  | writing (frame : EventFrame)
  | leaving
  | unsubscribed
  | refused
  | unregistered (status : Status)
  | returned
deriving DecidableEq

structure EventStream where
  key : EventStreamKey := ⟨0, 0, 0⟩
  sink : EventStreamSink := {}
  phase : Phase := .unopened
deriving DecidableEq

inductive Event where
  | accepted (frame : EventFrame)
  | popped (frame : EventFrame)
  | written (frame : EventFrame)
  | left (exit : LoopExit)
  | returned (status : Status)
deriving DecidableEq

/-- One piece of a handler, with the answers of the libraries it calls; `deliver`
is a `deliver_event_frame` call of any other thread. -/
inductive Action where
  | opens (key : EventStreamKey)
  | deliver (frame : EventFrame)
  | subscribe (accepted : Bool)
  | iterate (cancelled : Bool)
  | write (succeeds : Bool)
  | unsubscribe
  | unregister
  | close

namespace EventStream

def enter (stream : EventStream) (phase : Phase) : EventStream := { stream with phase := phase }

def deliverEventFrame (stream : EventStream) (frame : EventFrame) : EventStream × List Event :=
  if stream.sink.closed then (stream, [])
  else
    ({ stream with sink := { stream.sink with pending := stream.sink.pending ++ [frame] } },
      [.accepted frame])

/-- From the loop's condition to the end of its locked block. -/
def iterate (stream : EventStream) (cancelled : Bool) : EventStream × List Event :=
  if cancelled then (stream.enter .leaving, [.left .cancelled])
  else
    match stream.sink.pending with
    | [] =>
        if stream.sink.closed then (stream.enter .leaving, [.left .closed])
        -- the wait timed out
        else (stream, [])
    | frame :: rest =>
        ({ stream with sink := { stream.sink with pending := rest }, phase := .writing frame },
          [.popped frame])

/-- What one action does to a stream. An action that the handler is not about to
take leaves it alone. -/
def step (stream : EventStream) (action : Action) : EventStream × List Event :=
  match stream.phase, action with
  | .unopened, .opens key => ({ stream with key := key, phase := .registered }, [])
  | .unopened, _ => (stream, [])
  | _, .deliver frame => stream.deliverEventFrame frame
  | .registered, .subscribe true => (stream.enter .looping, [])
  | .registered, .subscribe false => (stream.enter .refused, [])
  | .looping, .iterate cancelled => stream.iterate cancelled
  | .writing frame, .write true => (stream.enter .looping, [.written frame])
  | .writing _, .write false => (stream.enter .leaving, [.left .writeFailed])
  | .leaving, .unsubscribe => (stream.enter .unsubscribed, [])
  | .unsubscribed, .unregister => (stream.enter (.unregistered .ok), [])
  | .refused, .unregister => (stream.enter (.unregistered .failedPrecondition), [])
  | .unregistered status, .close =>
      ({ stream with sink := { stream.sink with closed := true }, phase := .returned },
        [.returned status])
  | _, _ => (stream, [])

end EventStream

/-! ### The gateway -/

/-- The calls are numbered in the order in which they come in. -/
abbrev StreamId := Nat

structure Component where
  initialised : Bool := false
deriving DecidableEq

/-- `initialize()`; a failed one leaves the component as it was. -/
def Component.afterInitialize (component : Component) (succeeds : Bool) : Component :=
  ⟨component.initialised || succeeds⟩

/-- The callbacks of `someip::events::EventSubscriber`, at most one for an event
group; each holds the sink of the stream that subscribed it. -/
structure EventSubscriber where
  initialised : Bool := false
  callbacks : Eventgroup → Option StreamId := fun _ => none

namespace EventSubscriber

def afterInitialize (subscriber : EventSubscriber) (succeeds : Bool) : EventSubscriber :=
  { subscriber with initialised := subscriber.initialised || succeeds }

def subscribeEventgroup (subscriber : EventSubscriber) (group : Eventgroup) (id : StreamId) :
    EventSubscriber :=
  { subscriber with callbacks := Function.update subscriber.callbacks group (some id) }

def unsubscribeEventgroup (subscriber : EventSubscriber) (group : Eventgroup) : EventSubscriber :=
  { subscriber with callbacks := Function.update subscriber.callbacks group none }

end EventSubscriber

structure GrpcGateway where
  base : GatewayBase := {}
  rpcClient : Component := {}
  eventSubscriber : EventSubscriber := {}
  sdClient : Option Component := none
  sdServer : Option Component := none
  e2eProtection : Bool := false
  grpcService : Bool := false
  grpcServer : Bool := false
  /-- A multimap in the order of its iteration, the sinks held weakly. -/
  streamSubscribers : List (EventStreamKey × StreamId) := []
  streams : StreamId → EventStream := fun _ => {}
  opened : Nat := 0

structure StartOutcome where
  rpcClient : Bool := true
  eventSubscriber : Bool := true
  sdClient : Bool := true
  sdServer : Bool := true
  /-- `BuildAndStart` returned a server. -/
  serverBuilt : Bool := true
  selectedPort : Int := 50051

section

variable (setup : Setup)

/-! Each part of `start()` ends it early with a result, or goes on with what it
brought up; either way nothing is taken down again. -/

def startRpcClient (outcome : StartOutcome) (gw : GrpcGateway) :
    Except (Result × GrpcGateway) GrpcGateway :=
  Phases.attempt .notInitialized outcome.rpcClient
    { gw with rpcClient := gw.rpcClient.afterInitialize outcome.rpcClient }

def startEventSubscriber (outcome : StartOutcome) (gw : GrpcGateway) :
    Except (Result × GrpcGateway) GrpcGateway :=
  Phases.attempt .notInitialized outcome.eventSubscriber
    { gw with eventSubscriber := gw.eventSubscriber.afterInitialize outcome.eventSubscriber }

def startSdClient (outcome : StartOutcome) (gw : GrpcGateway) :
    Except (Result × GrpcGateway) GrpcGateway :=
  if !setup.config.enableSdClient then .ok gw
  else
    Phases.attempt .notInitialized outcome.sdClient
      { gw with sdClient := some ⟨outcome.sdClient⟩ }

def startSdServer (outcome : StartOutcome) (gw : GrpcGateway) :
    Except (Result × GrpcGateway) GrpcGateway :=
  if !setup.config.enableSdServer then .ok gw
  else
    Phases.attempt .notInitialized outcome.sdServer
      { gw with sdServer := some ⟨outcome.sdServer⟩ }

def startServer (outcome : StartOutcome) (gw : GrpcGateway) :
    Except (Result × GrpcGateway) GrpcGateway :=
  Phases.attempt .internalError (outcome.serverBuilt && outcome.selectedPort != 0)
    { gw with
      e2eProtection := gw.e2eProtection || setup.config.enableE2eBridge
      grpcService := true
      grpcServer := outcome.serverBuilt }

def startComponents (outcome : StartOutcome) (gw : GrpcGateway) :
    Except (Result × GrpcGateway) GrpcGateway := do
  let gw ← startRpcClient outcome gw
  let gw ← startEventSubscriber outcome gw
  let gw ← startSdClient setup outcome gw
  let gw ← startSdServer setup outcome gw
  startServer setup outcome gw

def start (outcome : StartOutcome) (gw : GrpcGateway) : Result × GrpcGateway :=
  if gw.base.running then (.success, gw)
  else
    match startComponents setup outcome gw with
    | .error failed => failed
    | .ok gw => (.success, { gw with base := gw.base.setRunning true })

def stop (gw : GrpcGateway) : Result × GrpcGateway :=
  if !gw.base.running then (.success, gw)
  else
    (.success,
      { gw with
        grpcServer := false
        grpcService := false
        sdClient := none
        sdServer := none
        eventSubscriber := {}
        rpcClient := {}
        e2eProtection := false
        streamSubscribers := []
        base := gw.base.setRunning false })

/-! ### The registry of streams -/

/-- `emplace` puts an entry behind those with the same key. -/
def registerEventStream (subscribers : List (EventStreamKey × StreamId)) (key : EventStreamKey)
    (id : StreamId) : List (EventStreamKey × StreamId) :=
  subscribers.takeWhile (fun entry => !key.lt entry.1) ++
    (key, id) :: subscribers.dropWhile (fun entry => !key.lt entry.1)

/-- From the lower bound of the key on, as long as entries have that key: the
expired ones and the one of the given sink go. -/
def unregisterEventStream (expired : StreamId → Bool)
    (subscribers : List (EventStreamKey × StreamId)) (key : EventStreamKey) (id : StreamId) :
    List (EventStreamKey × StreamId) :=
  let fromKey := subscribers.dropWhile fun entry => entry.1.lt key
  subscribers.takeWhile (fun entry => entry.1.lt key) ++
    (fromKey.takeWhile (fun entry => entry.1 == key)).filter
      (fun entry => !(expired entry.2 || entry.2 == id)) ++
    fromKey.dropWhile (fun entry => entry.1 == key)

/-- A sink is owned by its handler and by the callback that captured it. -/
def GrpcGateway.expired (gw : GrpcGateway) (id : StreamId) : Bool :=
  (gw.streams id).phase == .returned &&
    gw.eventSubscriber.callbacks (gw.streams id).key.eventgroup != some id

/-! ### What the handlers share -/

/-- What an action does to the subscriber and the registry. -/
def shareAction (gw : GrpcGateway) (id : StreamId) (action : Action) : GrpcGateway :=
  let key := (gw.streams id).key
  match (gw.streams id).phase, action with
  | .unopened, .opens key =>
      { gw with streamSubscribers := registerEventStream gw.streamSubscribers key id }
  | .registered, .subscribe true =>
      { gw with eventSubscriber := gw.eventSubscriber.subscribeEventgroup key.eventgroup id }
  | .leaving, .unsubscribe =>
      { gw with eventSubscriber := gw.eventSubscriber.unsubscribeEventgroup key.eventgroup }
  | .unsubscribed, .unregister =>
      { gw with
        streamSubscribers := unregisterEventStream gw.expired gw.streamSubscribers key id }
  | .refused, .unregister =>
      { gw with
        streamSubscribers := unregisterEventStream gw.expired gw.streamSubscribers key id }
  | _, _ => gw

abbrev Output := StreamId × Event

def act (gw : GrpcGateway) (id : StreamId) (action : Action) : GrpcGateway × List Output :=
  let now := (gw.streams id).step action
  ({ shareAction gw id action with streams := Function.update gw.streams id now.1 },
    now.2.map fun event => (id, event))

/-- A new call; it is registered as the first thing its handler does. -/
def openStream (gw : GrpcGateway) (key : EventStreamKey) : GrpcGateway × List Output :=
  act { gw with opened := gw.opened + 1 } gw.opened (.opens key)

/-- The callback of a stream, as the subscriber calls it. -/
def onEvent (gw : GrpcGateway) (id : StreamId) (n : EventNotification) :
    GrpcGateway × List Output :=
  let frame := messageFrame (notificationMessage n)
  let delivered := act gw id (.deliver frame)
  ({ delivered.1 with
      base := delivered.1.base.recordSomeipToExternal (setup.byteSizeLong frame.envelope) },
    delivered.2)

def broadcastNotification (gw : GrpcGateway) (serviceId instanceId : UInt32) (frame : EventFrame) :
    GrpcGateway × List Output :=
  let entries := gw.streamSubscribers.filter fun entry =>
    entry.1.serviceId == serviceId && entry.1.instanceId == instanceId && !gw.expired entry.2
  Machine.run (fun gw id => act gw id (.deliver frame)) gw (entries.map Prod.snd)

def onSomeipMessage (gw : GrpcGateway) (msg : Message) : Result × GrpcGateway × List Output :=
  if msg.messageType = .notification then
    let inst :=
      match findMappingForService gw.base.serviceMappings msg.serviceId 0 with
      | some mapping => mapping.someipInstanceId
      | none => 0
    let frame := messageFrame msg
    let sent := broadcastNotification gw msg.serviceId.toUInt32 inst.toUInt32 frame
    (.success,
      { sent.1 with
        base := sent.1.base.recordSomeipToExternal (setup.byteSizeLong frame.envelope) },
      sent.2)
  else
    (.success, { gw with base := gw.base.recordExternalToSomeip (setup.totalSize msg) }, [])

/-! ### The gateway as a machine -/

inductive Input where
  | start (outcome : StartOutcome)
  | stop
  | addServiceMapping (mapping : ServiceMapping)
  | someipMessage (msg : Message)
  | openStream (key : EventStreamKey)
  | action (id : StreamId) (action : Action)
  | notification (group : Eventgroup) (n : EventNotification)

def GrpcGateway.allReturned (gw : GrpcGateway) : Bool :=
  (List.range gw.opened).all fun id => (gw.streams id).phase == .returned

/-- One step. A running server takes calls; `stop()` gets past `Shutdown` when
the handlers have returned; a notification reaches the callback of its group. -/
def step (gw : GrpcGateway) : Input → GrpcGateway × List Output
  | .start outcome => ((start setup outcome gw).2, [])
  | .stop => (if gw.allReturned then (stop gw).2 else gw, [])
  | .addServiceMapping mapping => ({ gw with base := gw.base.addServiceMapping mapping }, [])
  | .someipMessage msg => (onSomeipMessage setup gw msg).2
  | .openStream key => if gw.grpcServer then openStream gw key else (gw, [])
  | .action id action => if id < gw.opened then act gw id action else (gw, [])
  | .notification group n =>
      match gw.eventSubscriber.callbacks group with
      | none => (gw, [])
      | some id => onEvent setup gw id n

end

/-! ### What `start()` leaves alone -/

structure Grows (before after : GrpcGateway) : Prop where
  base : after.base = before.base
  streams : after.streams = before.streams
  opened : after.opened = before.opened
  callbacks : after.eventSubscriber.callbacks = before.eventSubscriber.callbacks
  rpcClient : before.rpcClient.initialised = true → after.rpcClient.initialised = true

theorem Grows.refl (gw : GrpcGateway) : Grows gw gw := ⟨rfl, rfl, rfl, rfl, id⟩

theorem Grows.trans {first second third : GrpcGateway} (h : Grows first second)
    (h' : Grows second third) : Grows first third :=
  ⟨h'.base.trans h.base, h'.streams.trans h.streams, h'.opened.trans h.opened,
    h'.callbacks.trans h.callbacks, fun hclient => h'.rpcClient (h.rpcClient hclient)⟩

theorem startRpcClient_grows (outcome : StartOutcome) (gw : GrpcGateway) :
    Grows gw (Phases.left (startRpcClient outcome gw)) := by
  unfold startRpcClient
  rw [Phases.left_attempt]
  refine ⟨rfl, rfl, rfl, rfl, fun hclient => ?_⟩
  simp [Component.afterInitialize, hclient]

theorem startEventSubscriber_grows (outcome : StartOutcome) (gw : GrpcGateway) :
    Grows gw (Phases.left (startEventSubscriber outcome gw)) := by
  unfold startEventSubscriber
  rw [Phases.left_attempt]
  exact ⟨rfl, rfl, rfl, rfl, id⟩

section

variable (setup : Setup)

theorem startSdClient_grows (outcome : StartOutcome) (gw : GrpcGateway) :
    Grows gw (Phases.left (startSdClient setup outcome gw)) := by
  unfold startSdClient
  split_ifs
  · exact .refl gw
  · rw [Phases.left_attempt]
    exact ⟨rfl, rfl, rfl, rfl, id⟩

theorem startSdServer_grows (outcome : StartOutcome) (gw : GrpcGateway) :
    Grows gw (Phases.left (startSdServer setup outcome gw)) := by
  unfold startSdServer
  split_ifs
  · exact .refl gw
  · rw [Phases.left_attempt]
    exact ⟨rfl, rfl, rfl, rfl, id⟩

theorem startServer_grows (outcome : StartOutcome) (gw : GrpcGateway) :
    Grows gw (Phases.left (startServer setup outcome gw)) := by
  unfold startServer
  rw [Phases.left_attempt]
  exact ⟨rfl, rfl, rfl, rfl, id⟩

/-- What comes after the RPC client only adds to it. -/
theorem startComponents_grows (outcome : StartOutcome) (gw : GrpcGateway) :
    Grows (Phases.left (startRpcClient outcome gw))
      (Phases.left (startComponents setup outcome gw)) := by
  unfold startComponents
  refine Phases.left_bind (.refl _) fun afterRpc hrpc h => ?_
  refine Phases.left_bind (h.trans (startEventSubscriber_grows outcome _)) fun next _ h => ?_
  refine Phases.left_bind (h.trans (startSdClient_grows setup outcome _)) fun next _ h => ?_
  refine Phases.left_bind (h.trans (startSdServer_grows setup outcome _)) fun next _ h => ?_
  exact h.trans (startServer_grows setup outcome _)

theorem start_failed {outcome : StartOutcome} {gw : GrpcGateway}
    (hrunning : gw.base.running = false) (h : (start setup outcome gw).1 ≠ .success) :
    (start setup outcome gw).2 = Phases.left (startComponents setup outcome gw) := by
  simp only [start, hrunning, Bool.false_eq_true, ↓reduceIte] at h ⊢
  cases hcomponents : startComponents setup outcome gw with
  | error failed => rfl
  | ok started =>
      rw [hcomponents] at h
      exact absurd rfl h

/-- The stream calls do not notice. -/
theorem start_calls (outcome : StartOutcome) (gw : GrpcGateway) :
    (start setup outcome gw).2.streams = gw.streams ∧
      (start setup outcome gw).2.opened = gw.opened ∧
      (start setup outcome gw).2.eventSubscriber.callbacks = gw.eventSubscriber.callbacks := by
  have hgrows := (startRpcClient_grows outcome gw).trans (startComponents_grows setup outcome gw)
  unfold start
  split_ifs
  · exact ⟨rfl, rfl, rfl⟩
  · cases hcomponents : startComponents setup outcome gw with
    | error failed =>
        rw [hcomponents] at hgrows
        exact ⟨hgrows.streams, hgrows.opened, hgrows.callbacks⟩
    | ok started =>
        rw [hcomponents] at hgrows
        exact ⟨hgrows.streams, hgrows.opened, hgrows.callbacks⟩

end

def plainSetup : Setup where
  byteSizeLong envelope := envelope.payload.length
  totalSize msg := 16 + msg.payload.length

end SomeipGateway.Grpc
