import SomeipGateway.Instances

/-! What a message is forwarded through depends on the order of the mappings: the
first mapping of a service and instance is looked up, and only then asked for
its direction. -/
namespace SomeipGateway

open Lib

/-- Some mapping lets messages of the service out. -/
def Permitted (mappings : List ServiceMapping) (defaultInstance serviceId : UInt16) : Prop :=
  ∃ m ∈ mappings, m.someipServiceId = serviceId ∧
    m.someipInstanceId = chosenInstance mappings defaultInstance serviceId ∧
    (m.direction = .someipToExternal ∨ m.direction = .bidirectional)

section

variable {base : GatewayBase} {defaultInstance : UInt16} {msg : Message}
  {admitted : Except Result ServiceMapping} {reaches : ServiceMapping → Bool}

end

end SomeipGateway
