import SomeipGateway.Lib.Loop
import SomeipGateway.Lib.Machine
import SomeipGateway.Lib.Phases
import SomeipGateway.Lib.Text
import SomeipGateway.Lib.Number
import SomeipGateway.Lib.Counter
import SomeipGateway.Lib.Fifo
import SomeipGateway.Lib.Codec
import SomeipGateway.Lib.Registry
import SomeipGateway.Lib.Multimap
import SomeipGateway.Lib.JsonText
import SomeipGateway.Lib.CborItem
import SomeipGateway.Lib.Path
import SomeipGateway.Lib.KeyExpr
import SomeipGateway.Someip.Message
import SomeipGateway.Someip.Serialization
import SomeipGateway.Common.GatewayBase
import SomeipGateway.Common.Config
import SomeipGateway.Common.Translator
import SomeipGateway.Common.JsonEnvelope
import SomeipGateway.Common.Outbound
import SomeipGateway.Zenoh.Keys
import SomeipGateway.Zenoh.Tokens
import SomeipGateway.Zenoh.Cbor
import SomeipGateway.Zenoh.CborReaders
import SomeipGateway.Zenoh.CborEnvelope
import SomeipGateway.Zenoh.CborInput
import SomeipGateway.Zenoh.CborItems
import SomeipGateway.Zenoh.Json
import SomeipGateway.Zenoh.JsonCuts
import SomeipGateway.Zenoh.Translator
import SomeipGateway.Zenoh.Gateway
import SomeipGateway.Zenoh.Samples
import SomeipGateway.Zenoh.Queries
import SomeipGateway.Zenoh.Rejection
import SomeipGateway.Zenoh.Confinement
import SomeipGateway.Zenoh.Relay
import SomeipGateway.Zenoh.Echo
import SomeipGateway.Zenoh.Patterns
import SomeipGateway.Zenoh.StartUp
import SomeipGateway.Zenoh.Shutdown
import SomeipGateway.Zenoh.SessionConfig
import SomeipGateway.Zenoh.Payloads
import SomeipGateway.Mqtt.Gateway
import SomeipGateway.Mqtt.Conservation
import SomeipGateway.Mqtt.Statistics
import SomeipGateway.Mqtt.Flush
import SomeipGateway.Mqtt.Replay
import SomeipGateway.Mqtt.Topics
import SomeipGateway.Dds.Gateway
import SomeipGateway.Dds.Lifecycle
import SomeipGateway.Dds.Topics
import SomeipGateway.Dds.Traffic
import SomeipGateway.Dbus.Gateway
import SomeipGateway.Dbus.Bookkeeping
import SomeipGateway.Dbus.Names
import SomeipGateway.Dbus.ObjectPaths
import SomeipGateway.Ros2.Gateway
import SomeipGateway.Ros2.Feedback
import SomeipGateway.Ros2.Restart
import SomeipGateway.Ros2.Routing
import SomeipGateway.Ros2.TopicNames
import SomeipGateway.Instances
import SomeipGateway.MappingOrder
import SomeipGateway.Iceoryx2.Translator
import SomeipGateway.Iceoryx2.Acceptance
import SomeipGateway.Iceoryx2.Gateway
import SomeipGateway.Iceoryx2.Lifecycle
import SomeipGateway.Iceoryx2.Relay
import SomeipGateway.Iceoryx2.StartUp
import SomeipGateway.Iceoryx2.Inbound
import SomeipGateway.Iceoryx2.Confinement
import SomeipGateway.Iceoryx2.Statistics
import SomeipGateway.Iceoryx2.Truncation
import SomeipGateway.Grpc.Gateway
import SomeipGateway.Grpc.Delivery
import SomeipGateway.Grpc.Subscriptions
import SomeipGateway.Grpc.Broadcast
import SomeipGateway.Grpc.Registry
import SomeipGateway.Grpc.Unary
import SomeipGateway.FailedStart
import SomeipGateway.TypedMode
import SomeipGateway.Sessions
import SomeipGateway.Dbus.Introspection
import SomeipGateway.Dds.Order
import SomeipGateway.Grpc.Network
import SomeipGateway.Grpc.Shutdown
import SomeipGateway.Iceoryx2.Bus
import SomeipGateway.Iceoryx2.Network
import SomeipGateway.Mqtt.Namespace
import SomeipGateway.Zenoh.Calls
import SomeipGateway.Zenoh.Discovery
