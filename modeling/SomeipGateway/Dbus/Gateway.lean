import Mathlib.Data.List.DropRight
import SomeipGateway.Common.Outbound
import SomeipGateway.Common.Translator

/-! `DbusGateway`, built with sd-bus: signals for outbound messages, requests for
inbound method calls. What sd-bus returns is an argument of each call. -/
namespace SomeipGateway.Dbus

open Lib

/-! ### `DbusTranslator` -/

def toHex4 (v : UInt16) : Text := Text.padded 4 16 v.toNat

def normalizePathPrefix (p : Text) : Text :=
  let p := p.rdropWhile (· == '/'.toUInt8)
  if p.isEmpty then Text.ascii "/com/opensomeip"
  else if p.head? ≠ some '/'.toUInt8 then '/'.toUInt8 :: p
  else p

def normalizeBusPrefix (p : Text) : Text :=
  let p := p.rdropWhile (· == '.'.toUInt8)
  if p.isEmpty then Text.ascii "com.opensomeip" else p

structure DbusConfig where
  busNamePrefix : Text := Text.ascii "com.opensomeip"
  objectPathPrefix : Text := Text.ascii "/com/opensomeip"
  rpcClientId : UInt16 := 0x4200
  defaultSomeipInstanceId : UInt16 := 0x0001

def buildBusName (config : DbusConfig) (serviceId instanceId : UInt16) : Text :=
  normalizeBusPrefix config.busNamePrefix ++ Text.ascii ".svc." ++ toHex4 serviceId ++
    Text.ascii ".inst." ++ toHex4 instanceId

def buildObjectPath (config : DbusConfig) (serviceId instanceId : UInt16) : Text :=
  normalizePathPrefix config.objectPathPrefix ++ Text.ascii "/svc_" ++ toHex4 serviceId ++
    Text.ascii "/inst_" ++ toHex4 instanceId

def buildInterfaceName (serviceId : UInt16) : Text :=
  Text.ascii "com.opensomeip.Service." ++ toHex4 serviceId

/-! ### The gateway -/

structure Slot where
  busName : Text
  path : Text
  interface : Text
  serviceId : UInt16
  instanceId : UInt16
deriving DecidableEq

structure DbusGateway where
  base : GatewayBase := {}
  enabled : Bool := true
  bus : Bool := false
  slots : List Slot := []
  udpTransport : Bool := false
  outboundSink : Bool := false
  externalMessageCallback : Bool := false
  nextSession : UInt16 := 1
deriving DecidableEq

/-- A signal that `sd_bus_emit_signal` has sent. Of its arguments for "qay" sd-bus
gets the method id and the number of bytes; where it takes the bytes themselves
the gateway passes a pointer, so which bytes go out is left open. -/
inductive Output where
  | emitSignal (path interface member : Text) (methodId : UInt16) (count : Nat)
      (via : ServiceMapping)
  | sink (msg : Message)
  | externalMessage (serviceId methodId : UInt16) (payload : Bytes)
deriving DecidableEq

/-- How the library calls made by `start()` turn out; objects are counted along
the mapping list. -/
structure StartOutcome where
  udpStart : Result := .success
  busOpens : Bool := true
  addVtable : Nat → Bool := fun _ => true

section

variable (cls : MessageClass) (config : DbusConfig)

def slotOf (map : ServiceMapping) : Slot where
  busName := buildBusName config map.someipServiceId map.someipInstanceId
  path := buildObjectPath config map.someipServiceId map.someipInstanceId
  interface := buildInterfaceName map.someipServiceId
  serviceId := map.someipServiceId
  instanceId := map.someipInstanceId

def implStart (outcome : StartOutcome) (gw : DbusGateway) : Result × DbusGateway :=
  if !gw.enabled then (.success, gw)
  else if !outcome.busOpens then (.notInitialized, gw)
  else
    (.success, { gw with
      bus := true
      slots := gw.slots ++ (gw.base.serviceMappings.zipIdx.filter fun map =>
        outcome.addVtable map.2).map fun map => slotOf config map.1 })

def start (outcome : StartOutcome) (gw : DbusGateway) : Result × DbusGateway :=
  if gw.udpTransport ∧ outcome.udpStart ≠ .success then (outcome.udpStart, gw)
  else
    match implStart config outcome gw with
    | (.success, gw) => (.success, { gw with base := gw.base.setRunning true })
    | (result, gw) => (result, gw)

def stop (gw : DbusGateway) : Result × DbusGateway :=
  (.success, { gw with slots := [], bus := false, base := gw.base.setRunning false })

def DbusGateway.canEmit (gw : DbusGateway) : Bool := gw.enabled && gw.bus

/-- `on_someip_message`; `emits` is whether `sd_bus_emit_signal` succeeds. -/
def onSomeipMessage (emits : Bool) (gw : DbusGateway) (msg : Message) :
    Result × DbusGateway × List Output :=
  match outboundRoute gw.base config.defaultSomeipInstanceId msg with
  | .error result => (result, gw, [])
  | .ok mapping =>
      let isNotification := msg.messageType == .notification || msg.messageType == .tpNotification
      if !isNotification && !cls.isRequest msg.messageType then (.success, gw, [])
      else
        let member := Text.ascii (if isNotification then "SomeipNotification" else "SomeipRequest")
        let signal : Output := .emitSignal
          (buildObjectPath config mapping.someipServiceId mapping.someipInstanceId)
          (buildInterfaceName mapping.someipServiceId) member msg.methodId msg.payload.length
          mapping
        if gw.canEmit && !emits then
          (.notInitialized, { gw with base := gw.base.recordTranslationError }, [])
        else
          (.success, { gw with base := gw.base.recordSomeipToExternal msg.payload.length },
            if gw.canEmit then [signal] else [])

def notificationCallback (emits : Bool) (gw : DbusGateway) (n : EventNotification) :
    Result × DbusGateway × List Output :=
  onSomeipMessage cls config emits gw (notificationMessage n)

def emitExternalRpc (gw : DbusGateway) (serviceId instanceId methodId : UInt16)
    (payload : Bytes) : Result × DbusGateway × List Output :=
  if !gw.base.running then (.notInitialized, gw, [])
  else
    let mapping :=
      match findMappingForService gw.base.serviceMappings serviceId instanceId with
      | some m => some m
      | none =>
          findMappingForService gw.base.serviceMappings serviceId config.defaultSomeipInstanceId
    match mapping with
    | none => (.serviceNotFound, gw, [])
    | some m =>
        if !shouldForwardToSomeip m then (.success, gw, [])
        else
          let out : Message :=
            { serviceId, methodId, clientId := config.rpcClientId, sessionId := gw.nextSession
              messageType := .request, payload }
          (.success,
            { gw with
              nextSession := gw.nextSession + 1
              base := gw.base.recordExternalToSomeip payload.length },
            (if gw.outboundSink then [.sink out] else []) ++
              (if gw.externalMessageCallback then
                [.externalMessage serviceId methodId payload] else []))

/-! ### The gateway as a machine -/

inductive Call where
  | start (outcome : StartOutcome)
  | stop
  | addServiceMapping (mapping : ServiceMapping)
  | setSomeipOutboundSink (installed : Bool)
  | setExternalMessageCallback (installed : Bool)
  | enableSomeipUdpBridge
  | testSetDbusEnabled (enabled : Bool)
  | someipMessage (msg : Message) (emits : Bool)
  | emitExternalRpc (serviceId instanceId methodId : UInt16) (payload : Bytes)

def step (gw : DbusGateway) : Call → DbusGateway × List Output
  | .start outcome => ((start config outcome gw).2, [])
  | .stop => ((stop gw).2, [])
  | .addServiceMapping mapping => ({ gw with base := gw.base.addServiceMapping mapping }, [])
  | .setSomeipOutboundSink installed => ({ gw with outboundSink := installed }, [])
  | .setExternalMessageCallback installed => ({ gw with externalMessageCallback := installed }, [])
  | .enableSomeipUdpBridge => ({ gw with udpTransport := true }, [])
  | .testSetDbusEnabled enabled => ({ gw with enabled := enabled }, [])
  | .someipMessage msg emits => (onSomeipMessage cls config emits gw msg).2
  | .emitExternalRpc serviceId instanceId methodId payload =>
      (emitExternalRpc config gw serviceId instanceId methodId payload).2

end

end SomeipGateway.Dbus
