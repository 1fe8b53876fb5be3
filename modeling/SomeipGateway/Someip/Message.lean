import SomeipGateway.Lib.Text

/-! The SOME/IP stack as the gateways see it. The stack itself lives in a
separate library: its messages are plain records with getters and setters, and
what the gateways call but do not define is a parameter here. -/
namespace SomeipGateway

open Lib

abbrev Bytes := List UInt8

/-- `someip::Result`, with the codes the gateways name; the components may
report others. -/
inductive Result where
  | success
  | notInitialized
  | invalidState
  | networkError
  | notConnected
  | invalidServiceId
  | serviceNotFound
  | internalError
  | other (code : UInt8)
deriving DecidableEq

/-- `someip::MessageType` is an enumeration over a byte, and the decoders cast
arbitrary bytes to it, so every byte is a value. -/
structure MessageType where
  byte : UInt8
deriving DecidableEq

namespace MessageType

def request : MessageType := ⟨0x00⟩
def requestNoReturn : MessageType := ⟨0x01⟩
def notification : MessageType := ⟨0x02⟩
def tpRequest : MessageType := ⟨0x20⟩
def tpRequestNoReturn : MessageType := ⟨0x21⟩
def tpNotification : MessageType := ⟨0x22⟩
def response : MessageType := ⟨0x80⟩
def error : MessageType := ⟨0x81⟩

end MessageType

structure ReturnCode where
  byte : UInt8
deriving DecidableEq

def ReturnCode.eOk : ReturnCode := ⟨0x00⟩

structure Message where
  serviceId : UInt16 := 0
  methodId : UInt16 := 0
  clientId : UInt16 := 0
  sessionId : UInt16 := 0
  messageType : MessageType := .request
  returnCode : ReturnCode := .eOk
  payload : Bytes := []
deriving DecidableEq

/-- `Message::is_request` and `Message::is_response`. The gateways' own tests
fix their answers on requests and notifications; other types stay open. -/
structure MessageClass where
  isRequest : MessageType → Bool
  isResponse : MessageType → Bool
  request_isRequest : isRequest .request = true
  notification_not_isRequest : isRequest .notification = false
  notification_not_isResponse : isResponse .notification = false

def MessageClass.exact : MessageClass where
  isRequest type := type == .request
  isResponse type := type == .response
  request_isRequest := by decide
  notification_not_isRequest := by decide
  notification_not_isResponse := by decide

inductive TransportProtocol where
  | udp
  | tcp
deriving DecidableEq

/-- `someip::transport::Endpoint`; a default-constructed one has port 0. -/
structure Endpoint where
  address : Text := []
  port : UInt16 := 0
  protocol : TransportProtocol := .udp
deriving DecidableEq

/-- `someip::e2e::E2EProtection`: both operations read and update the state of
the protection object, `κ` is its configuration. -/
structure E2EProtection (σ κ : Type) where
  validate : σ → Message → κ → Result × σ
  protect : σ → Message → κ → Message × σ

structure EventNotification where
  serviceId : UInt16
  instanceId : UInt16
  eventId : UInt16
  clientId : UInt16 := 0
  sessionId : UInt16 := 0
  eventData : Bytes := []
deriving DecidableEq

/-- `someip::rpc::RpcSyncResult`; `success` is `result == RpcResult::SUCCESS`. -/
structure RpcSyncResult where
  success : Bool
  returnValues : Bytes
deriving DecidableEq

end SomeipGateway
