import SomeipGateway.Grpc.Gateway

/-! `UnarySomeIp`: an envelope from a client becomes a SOME/IP request, which is
forwarded to a cloud target or called on the vehicle side. The fields of an
envelope have 32 bits, those of a message 16 or 8. -/
namespace SomeipGateway.Grpc

open Lib

/-! ### Status codes -/

/-- `grpc::StatusCode`. -/
inductive StatusCode where
  | ok
  | cancelled
  | unknown
  | invalidArgument
  | deadlineExceeded
  | notFound
  | alreadyExists
  | permissionDenied
  | resourceExhausted
  | failedPrecondition
  | aborted
  | outOfRange
  | unimplemented
  | internal
  | unavailable
  | dataLoss
  | unauthenticated
deriving DecidableEq

structure RpcStatus where
  code : StatusCode
  message : Text := []
deriving DecidableEq

/-! The return codes of the stack, as SOME/IP numbers them. -/

def eNotOk : ReturnCode := ⟨0x01⟩
def eUnknownService : ReturnCode := ⟨0x02⟩
def eUnknownMethod : ReturnCode := ⟨0x03⟩
def eNotReady : ReturnCode := ⟨0x04⟩
def eNotReachable : ReturnCode := ⟨0x05⟩
def eTimeout : ReturnCode := ⟨0x06⟩
def eWrongProtocolVersion : ReturnCode := ⟨0x07⟩
def eWrongInterfaceVersion : ReturnCode := ⟨0x08⟩
def eMalformedMessage : ReturnCode := ⟨0x09⟩
def eWrongMessageType : ReturnCode := ⟨0x0A⟩
def eE2eRepeated : ReturnCode := ⟨0x0B⟩
def eE2eWrongSequence : ReturnCode := ⟨0x0C⟩
def eE2e : ReturnCode := ⟨0x0D⟩
def eE2eNotAvailable : ReturnCode := ⟨0x0E⟩
def eE2eNoNewData : ReturnCode := ⟨0x0F⟩

def kReturnToGrpc : List (ReturnCode × StatusCode) :=
  [(.eOk, .ok), (eNotOk, .internal), (eUnknownService, .notFound),
    (eUnknownMethod, .unimplemented), (eNotReady, .failedPrecondition),
    (eNotReachable, .unavailable), (eTimeout, .deadlineExceeded),
    (eWrongProtocolVersion, .failedPrecondition), (eWrongInterfaceVersion, .failedPrecondition),
    (eMalformedMessage, .invalidArgument), (eWrongMessageType, .invalidArgument),
    (eE2eRepeated, .aborted), (eE2eWrongSequence, .aborted), (eE2e, .dataLoss),
    (eE2eNotAvailable, .unavailable), (eE2eNoNewData, .failedPrecondition)]

def returnCodeToGrpcStatusCode (code : ReturnCode) : StatusCode :=
  match kReturnToGrpc.lookup code with
  | some status => status
  | none => .unknown

/-- `someip::rpc::RpcResult`; what is not named falls under `default`. -/
inductive RpcResult where
  | success
  | timeout
  | networkError
  | invalidParameters
  | methodNotFound
  | serviceNotAvailable
  | internalError
  | other (code : UInt8)
deriving DecidableEq

def rpcResultToReturnCode : RpcResult → ReturnCode
  | .success => .eOk
  | .timeout => eTimeout
  | .networkError => eNotReachable
  | .invalidParameters => eMalformedMessage
  | .methodNotFound => eUnknownMethod
  | .serviceNotAvailable => eUnknownService
  | .internalError => eNotOk
  | .other _ => eNotOk

/-! ### The service -/

structure UnaryRpcRequest where
  envelope : Option SomeIpEnvelope := none
  cloudTargetName : Text := []
deriving DecidableEq

/-- What `UnarySomeIp` uses of the stack and of the configuration. -/
structure UnarySetup (σ κ : Type) extends Setup where
  hasValidHeader : Message → Bool
  /-- `Message::deserialize` of a whole frame. -/
  deserialize : Bytes → Option Message
  cls : MessageClass
  e2e : E2EProtection σ κ
  e2eConfig : κ
  cloudTargets : List Text := []
  /-- `someip::to_string` of a return code. -/
  returnCodeText : ReturnCode → Text

/-- The gateway with the fields that only `UnarySomeIp` needs; a vehicle server
is what `is_method_registered` says of it. -/
structure UnaryGateway (σ : Type) extends GrpcGateway where
  e2eState : σ
  channels : List Text := []
  vehicleRpcServers : UInt16 → Option (UInt16 → Bool) := fun _ => none

/-- The answers of the cloud target and of the vehicle. -/
structure UnaryAnswers where
  forwarded : RpcStatus × Option SomeIpEnvelope
  sync : RpcResult × Bytes

inductive UnaryCall where
  | forward (target : Text) (request : UnaryRpcRequest)
  | callMethodSync (serviceId methodId : UInt16) (params : Bytes)
deriving DecidableEq

structure UnaryReply (σ : Type) where
  status : RpcStatus
  response : Option SomeIpEnvelope := none
  gateway : UnaryGateway σ
  calls : List UnaryCall := []

section

variable {σ κ : Type} (setup : UnarySetup σ κ)

/-- The casts of `envelope_to_message` keep the low 16 or 8 bits. -/
def narrowed (env : SomeIpEnvelope) : Message where
  serviceId := env.serviceId.toUInt16
  methodId := env.methodOrEventId.toUInt16
  clientId := env.clientId.toUInt16
  sessionId := env.sessionId.toUInt16
  messageType := ⟨env.messageType.toUInt8⟩
  returnCode := ⟨env.returnCode.toUInt8⟩
  payload := env.payload

def envelopeToMessage (env : SomeIpEnvelope) : Option Message :=
  if !env.serializedSomeipFrame.isEmpty then setup.deserialize env.serializedSomeipFrame
  else
    let out := narrowed env
    if setup.hasValidHeader out then some out else none

def returnCodeToGrpcStatus (code : ReturnCode) (message : Text) : RpcStatus where
  code := returnCodeToGrpcStatusCode code
  message := if message.isEmpty then setup.returnCodeText code else message

def UnaryGateway.protects (gw : UnaryGateway σ) : Bool :=
  setup.config.enableE2eBridge && gw.e2eProtection

def UnaryGateway.validate (gw : UnaryGateway σ) (msg : Message) : Result × UnaryGateway σ :=
  if gw.protects setup then
    let checked := setup.e2e.validate gw.e2eState msg setup.e2eConfig
    (checked.1, { gw with e2eState := checked.2 })
  else (.success, gw)

def UnaryGateway.protect (gw : UnaryGateway σ) (msg : Message) : Message × UnaryGateway σ :=
  if gw.protects setup then
    let sealed := setup.e2e.protect gw.e2eState msg setup.e2eConfig
    (sealed.1, { gw with e2eState := sealed.2 })
  else (msg, gw)

/-- A channel is made once for a target of the configuration. -/
def channelForTarget (gw : UnaryGateway σ) (targetName : Text) : Option (UnaryGateway σ) :=
  if gw.channels.contains targetName then some gw
  else if setup.cloudTargets.contains targetName then
    some { gw with channels := targetName :: gw.channels }
  else none

def forwardUnary (answers : UnaryAnswers) (gw : UnaryGateway σ) (request : UnaryRpcRequest) :
    UnaryReply σ :=
  match channelForTarget setup gw request.cloudTargetName with
  | none => { status := ⟨.notFound, Text.ascii "unknown cloud_target_name"⟩, gateway := gw }
  | some gw =>
      { status := answers.forwarded.1
        response := answers.forwarded.2
        gateway := gw
        calls := [.forward request.cloudTargetName { request with cloudTargetName := [] }] }

/-- The message that answers a request, before it is protected. -/
def unaryResponse (reqMsg : Message) (sync : RpcResult × Bytes) : Message :=
  if sync.1 = .success then
    { serviceId := reqMsg.serviceId, methodId := reqMsg.methodId, clientId := reqMsg.clientId,
      sessionId := reqMsg.sessionId, messageType := .response, returnCode := .eOk,
      payload := sync.2 }
  else
    { serviceId := reqMsg.serviceId, methodId := reqMsg.methodId, clientId := reqMsg.clientId,
      sessionId := reqMsg.sessionId, messageType := .error,
      returnCode := rpcResultToReturnCode sync.1 }

def callVehicle (answers : UnaryAnswers) (gw : UnaryGateway σ) (reqMsg : Message) :
    UnaryReply σ :=
  if ((gw.vehicleRpcServers reqMsg.serviceId).map fun registered =>
      registered reqMsg.methodId) = some false then
    { status := returnCodeToGrpcStatus setup eUnknownMethod [], gateway := gw }
  else if !setup.cls.isRequest reqMsg.messageType then
    { status := ⟨.invalidArgument, Text.ascii "envelope must be a SOME/IP request"⟩
      gateway := gw }
  else
    let out := gw.protect setup (unaryResponse reqMsg answers.sync)
    let response := messageToEnvelope out.1
    { status := ⟨.ok, []⟩
      response := some response
      gateway := { out.2 with
        base := out.2.base.recordSomeipToExternal (setup.byteSizeLong response) }
      calls := [.callMethodSync reqMsg.serviceId reqMsg.methodId reqMsg.payload] }

def unarySomeIp (answers : UnaryAnswers) (gw : UnaryGateway σ) (request : UnaryRpcRequest) :
    UnaryReply σ :=
  match request.envelope with
  | none => { status := ⟨.invalidArgument, Text.ascii "missing envelope"⟩, gateway := gw }
  | some envelope =>
      match envelopeToMessage setup envelope with
      | none =>
          { status := ⟨.invalidArgument, Text.ascii "invalid SOME/IP envelope"⟩, gateway := gw }
      | some reqMsg =>
          let checked := gw.validate setup reqMsg
          if checked.1 ≠ .success then
            { status := returnCodeToGrpcStatus setup eE2e (Text.ascii "E2E validation failed")
              gateway := checked.2 }
          else if !request.cloudTargetName.isEmpty then forwardUnary setup answers checked.2 request
          else callVehicle setup answers checked.2 reqMsg

/-! ### What reaches the vehicle -/

theorem forwardUnary_calls {answers : UnaryAnswers} {gw : UnaryGateway σ}
    {request : UnaryRpcRequest} {serviceId methodId : UInt16} {params : Bytes} :
    .callMethodSync serviceId methodId params ∉ (forwardUnary setup answers gw request).calls := by
  unfold forwardUnary
  split
  · simp
  · simp

theorem callVehicle_calls {answers : UnaryAnswers} {gw : UnaryGateway σ} {reqMsg : Message}
    {serviceId methodId : UInt16} {params : Bytes}
    (h : .callMethodSync serviceId methodId params ∈ (callVehicle setup answers gw reqMsg).calls) :
    serviceId = reqMsg.serviceId ∧ methodId = reqMsg.methodId ∧ params = reqMsg.payload := by
  unfold callVehicle at h
  split_ifs at h
  · simp at h
  · simp at h
  · simpa using h

/-- A call on the vehicle is that of the message which the envelope became. -/
theorem unarySomeIp_calls {answers : UnaryAnswers} {gw : UnaryGateway σ}
    {request : UnaryRpcRequest} {serviceId methodId : UInt16} {params : Bytes}
    (h : .callMethodSync serviceId methodId params ∈
      (unarySomeIp setup answers gw request).calls) :
    ∃ envelope reqMsg, request.envelope = some envelope ∧
      envelopeToMessage setup envelope = some reqMsg ∧ serviceId = reqMsg.serviceId ∧
      methodId = reqMsg.methodId ∧ params = reqMsg.payload := by
  unfold unarySomeIp at h
  split at h
  · simp at h
  · rename_i envelope henvelope
    split at h
    · simp at h
    · rename_i reqMsg hmsg
      dsimp only at h
      split_ifs at h
      · simp at h
      · cases forwardUnary_calls setup h
      · exact ⟨envelope, reqMsg, henvelope, hmsg, callVehicle_calls setup h⟩

/-! ### Envelopes and messages -/

/-- The fields that a message carries are those of the envelope. -/
structure GivesBack (back env : SomeIpEnvelope) : Prop where
  serviceId : back.serviceId = env.serviceId
  methodOrEventId : back.methodOrEventId = env.methodOrEventId
  clientId : back.clientId = env.clientId
  sessionId : back.sessionId = env.sessionId
  messageType : back.messageType = env.messageType
  returnCode : back.returnCode = env.returnCode
  payload : back.payload = env.payload

/-- Ids of at most 16 bits, a message type and a return code of at most 8. -/
structure SomeIpEnvelope.Fits (env : SomeIpEnvelope) : Prop where
  serviceId : env.serviceId.toNat < 2 ^ 16
  methodOrEventId : env.methodOrEventId.toNat < 2 ^ 16
  clientId : env.clientId.toNat < 2 ^ 16
  sessionId : env.sessionId.toNat < 2 ^ 16
  messageType : env.messageType.toNat < 2 ^ 8
  returnCode : env.returnCode.toNat < 2 ^ 8

theorem widened16_iff (value : UInt32) :
    value.toUInt16.toUInt32 = value ↔ value.toNat < 2 ^ 16 := by
  rw [← UInt32.toNat_inj, UInt16.toNat_toUInt32, UInt32.toNat_toUInt16]
  exact Nat.mod_eq_iff_lt (by decide)

theorem widened8_iff (value : UInt32) : value.toUInt8.toUInt32 = value ↔ value.toNat < 2 ^ 8 := by
  rw [← UInt32.toNat_inj, UInt8.toNat_toUInt32, UInt32.toNat_toUInt8]
  exact Nat.mod_eq_iff_lt (by decide)

theorem narrowed_givesBack_iff (env : SomeIpEnvelope) :
    GivesBack (messageToEnvelope (narrowed env)) env ↔ env.Fits := by
  constructor
  · intro h
    exact ⟨(widened16_iff _).mp h.serviceId, (widened16_iff _).mp h.methodOrEventId,
      (widened16_iff _).mp h.clientId, (widened16_iff _).mp h.sessionId,
      (widened8_iff _).mp h.messageType, (widened8_iff _).mp h.returnCode⟩
  · intro h
    exact ⟨(widened16_iff _).mpr h.serviceId, (widened16_iff _).mpr h.methodOrEventId,
      (widened16_iff _).mpr h.clientId, (widened16_iff _).mpr h.sessionId,
      (widened8_iff _).mpr h.messageType, (widened8_iff _).mpr h.returnCode, rfl⟩

/-- What an accepted envelope says is what the message says, and no call on the
vehicle is for another service or method than the envelope names. -/
structure NotTruncated (env : SomeIpEnvelope) : Prop where
  back : ∀ msg, envelopeToMessage setup env = some msg → GivesBack (messageToEnvelope msg) env
  executed : ∀ answers gw request serviceId methodId params, request.envelope = some env →
    .callMethodSync serviceId methodId params ∈ (unarySomeIp setup answers gw request).calls →
      serviceId.toUInt32 = env.serviceId ∧ methodId.toUInt32 = env.methodOrEventId

theorem envelopeToMessage_narrowed {env : SomeIpEnvelope} (hframe : env.serializedSomeipFrame = [])
    {msg : Message} (h : envelopeToMessage setup env = some msg) : msg = narrowed env := by
  unfold envelopeToMessage at h
  rw [hframe, if_neg (by simp)] at h
  dsimp only at h
  split_ifs at h
  exact (Option.some.inj h).symm

/-- An accepted envelope without a frame of its own comes through whole exactly if
its fields fit into those of a message. -/
theorem envelope_not_truncated_iff (env : SomeIpEnvelope)
    (hframe : env.serializedSomeipFrame = [])
    (haccepted : (envelopeToMessage setup env).isSome = true) :
    NotTruncated setup env ↔ env.Fits := by
  constructor
  · intro h
    obtain ⟨msg, hmsg⟩ := Option.isSome_iff_exists.mp haccepted
    have hback := h.back msg hmsg
    rw [envelopeToMessage_narrowed setup hframe hmsg] at hback
    exact (narrowed_givesBack_iff env).mp hback
  · intro hfits
    have hback (msg : Message) (hmsg : envelopeToMessage setup env = some msg) :
        GivesBack (messageToEnvelope msg) env := by
      rw [envelopeToMessage_narrowed setup hframe hmsg]
      exact (narrowed_givesBack_iff env).mpr hfits
    refine ⟨hback, fun answers gw request serviceId methodId params hrequest hcall => ?_⟩
    obtain ⟨envelope, msg, henvelope, hmsg, rfl, rfl, -⟩ := unarySomeIp_calls setup hcall
    rw [Option.some.inj (henvelope.symm.trans hrequest)] at hmsg
    exact ⟨(hback msg hmsg).serviceId, (hback msg hmsg).methodOrEventId⟩

end

/-! ### One envelope that fits, one that does not -/

/-- Headers with a type and a return code that SOME/IP knows are valid. -/
def unarySetup : UnarySetup Unit Unit where
  toSetup := plainSetup
  hasValidHeader msg :=
    msg.messageType ∈ [MessageType.request, .requestNoReturn, .notification, .response, .error] &&
      msg.returnCode.byte ≤ 0x0F
  deserialize _ := none
  cls := .exact
  e2e := { validate := fun _ _ _ => (.success, ()), protect := fun _ msg _ => (msg, ()) }
  e2eConfig := ()
  returnCodeText _ := []

def openDoor (serviceId : UInt32) : SomeIpEnvelope where
  serviceId := serviceId
  methodOrEventId := 0x0001
  payload := [1]

theorem openDoor_not_truncated :
    (openDoor 0x1234).Fits ∧ NotTruncated unarySetup (openDoor 0x1234) := by
  have hfits : (openDoor 0x1234).Fits := by constructor <;> decide
  exact ⟨hfits,
    (envelope_not_truncated_iff unarySetup (openDoor 0x1234) rfl (by decide)).mpr hfits⟩

/-- Service 0x11234 is called as service 0x1234. -/
theorem openDoor_executed_elsewhere :
    (openDoor 0x11234).serializedSomeipFrame = [] ∧
      (envelopeToMessage unarySetup (openDoor 0x11234)).isSome = true ∧
      (unarySomeIp unarySetup { forwarded := (⟨.ok, []⟩, none), sync := (.success, [0]) }
        { e2eState := () } { envelope := some (openDoor 0x11234) }).calls =
          [.callMethodSync 0x1234 0x0001 [1]] ∧
      ¬NotTruncated unarySetup (openDoor 0x11234) := by
  refine ⟨rfl, by decide, by decide, fun h => ?_⟩
  have hback := (h.back (narrowed (openDoor 0x11234)) (by decide)).serviceId
  revert hback
  decide

end SomeipGateway.Grpc
