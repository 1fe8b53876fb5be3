import SomeipGateway.Common.Outbound
import SomeipGateway.Common.Translator
import SomeipGateway.Lib.Machine

/-! `DdsGateway` and `DdsGatewayImpl`. What the DDS library returns (handles,
return codes, allocations) is an argument of each call. -/
namespace SomeipGateway.Dds

open Lib

/-! ### `DdsTranslator` -/

inductive DdsReliabilityKind where
  | bestEffort
  | reliable
deriving DecidableEq

inductive DdsDurabilityKind where
  | volatile
  | transientLocal
  | persistent
deriving DecidableEq

inductive DdsHistoryKind where
  | keepLast
  | keepAll
deriving DecidableEq

/-- `DdsQosProfile`; the deadline is never set by the translator. -/
structure DdsQosProfile where
  reliability : DdsReliabilityKind := .bestEffort
  durability : DdsDurabilityKind := .volatile
  historyKind : DdsHistoryKind := .keepLast
  historyDepth : Int := 1
deriving DecidableEq

def topicWithKind (kind : Text) (serviceId instanceId methodId : UInt16) : Text :=
  Text.ascii "opensomeip/svc/" ++ formatServiceId serviceId ++ Text.ascii "/inst/" ++
    formatServiceId instanceId ++ Text.ascii "/" ++ kind ++ Text.ascii "/" ++
    formatServiceId methodId

def buildDdsTopic (serviceId instanceId methodId : UInt16) : Text :=
  topicWithKind (Text.ascii "m") serviceId instanceId methodId

/-- `build_dds_topic` with a message: the kind follows the message type. -/
def buildDdsTopicFor (serviceId instanceId methodId : UInt16) (msg : Message) : Text :=
  topicWithKind
    (if msg.messageType = .notification then Text.ascii "event" else Text.ascii "method")
    serviceId instanceId methodId

def qosForSomeipMessage (msg : Message) (transportIsTcp : Bool) : DdsQosProfile :=
  if msg.messageType = .notification then
    { reliability := if transportIsTcp then .reliable else .bestEffort, historyDepth := 1 }
  else if msg.messageType = .request ∨ msg.messageType = .response ∨
      msg.messageType = .error then
    { reliability := .reliable, historyDepth := 16 }
  else { reliability := .bestEffort, historyDepth := 8 }

def qosForServiceMapping (mapping : ServiceMapping) (writerSide : Bool) : DdsQosProfile :=
  if writerSide && shouldForwardToExternal mapping then
    if !mapping.someipEventGroupIds.isEmpty && mapping.someipMethodIds.isEmpty then
      { reliability := .bestEffort, historyDepth := 1 }
    else { reliability := .reliable, durability := .transientLocal, historyDepth := 8 }
  else if !writerSide && shouldForwardToSomeip mapping then
    { reliability := .reliable, historyDepth := 16 }
  else { reliability := .reliable, historyDepth := if writerSide then 8 else 16 }

def encodeOutbound (msg : Message) (mode : TranslationMode) : Bytes :=
  if mode = .typedMode then payloadToJson msg else msg.payload

/-! ### The gateway -/

structure DdsConfig (κ : Type) where
  defaultSomeipInstanceId : UInt16 := 0x0001
  assumeTcpSemanticsForRpc : Bool := true
  useE2e : Bool := false
  e2eConfig : Option κ := none

structure Setup (σ κ : Type) where
  config : DdsConfig κ
  cls : MessageClass
  e2e : E2EProtection σ κ

/-- An entry of `readers_`, with the mapping it was created for. -/
structure Reader where
  topic : Text
  handle : Int
  qos : DdsQosProfile
  via : ServiceMapping
deriving DecidableEq

structure Writer where
  topic : Text
  handle : Int
  qos : DdsQosProfile
deriving DecidableEq

structure DdsGateway (σ : Type) where
  base : GatewayBase := {}
  participant : Int := 0
  readers : List Reader := []
  writers : List Writer := []
  readerThread : Bool := false
  readerStop : Bool := true
  udpTransport : Bool := false
  e2e : σ

/-- How the library calls made by `start()` turn out; readers are counted along
the mapping list. -/
structure StartOutcome where
  udpStart : Result := .success
  participant : Int := 1
  createReader : Nat → Int := fun _ => 1

def readerMethodId (mapping : ServiceMapping) : UInt16 :=
  match mapping.someipMethodIds, mapping.someipEventGroupIds with
  | mid :: _, _ => mid
  | [], eg :: _ => eg
  | [], [] => 0

def readerTopic (mapping : ServiceMapping) : Text :=
  if mapping.externalIdentifier.isEmpty then
    buildDdsTopic mapping.someipServiceId mapping.someipInstanceId (readerMethodId mapping)
  else mapping.externalIdentifier

def putReader (readers : List Reader) (reader : Reader) : List Reader :=
  readers.filter (fun r => r.topic != reader.topic) ++ [reader]

/-- The reader loop of `DdsGatewayImpl::start`, from the mapping at `index` on. -/
def createReaders (outcome : StartOutcome) :
    Nat → List ServiceMapping → List Reader → List Reader
  | _, [], readers => readers
  | index, mapping :: rest, readers =>
      let handle := outcome.createReader index
      let readers :=
        if !shouldForwardToSomeip mapping then readers
        else if handle ≤ 0 then readers
        else putReader readers
          { topic := readerTopic mapping, handle, qos := qosForServiceMapping mapping false
            via := mapping }
      createReaders outcome (index + 1) rest readers

section

variable {σ κ : Type} (setup : Setup σ κ)

def implStart (outcome : StartOutcome) (gw : DdsGateway σ) : Result × DdsGateway σ :=
  if gw.participant ≠ 0 then (.success, gw)
  else
    let gw := { gw with participant := outcome.participant }
    if gw.participant ≤ 0 then (.notInitialized, gw)
    else
      (.success, { gw with
        readers := createReaders outcome 0 gw.base.serviceMappings gw.readers
        readerStop := false
        readerThread := true })

def stopInternal (gw : DdsGateway σ) : DdsGateway σ :=
  { gw with
    readerStop := true
    readerThread := false
    writers := []
    readers := []
    participant := if gw.participant > 0 then 0 else gw.participant }

def start (outcome : StartOutcome) (gw : DdsGateway σ) : Result × DdsGateway σ :=
  if gw.udpTransport ∧ outcome.udpStart ≠ .success then (outcome.udpStart, gw)
  else
    match implStart outcome gw with
    | (.success, gw) => (.success, { gw with base := gw.base.setRunning true })
    | (result, gw) => (result, gw)

def stop (gw : DdsGateway σ) : Result × DdsGateway σ :=
  let gw := stopInternal gw
  (.success, { gw with base := gw.base.setRunning false })

def fresh (mappings : List ServiceMapping) (e2e : σ) (udpTransport : Bool) : DdsGateway σ where
  base := { serviceMappings := mappings }
  e2e := e2e
  udpTransport := udpTransport

structure BridgeSample where
  serviceId : UInt16
  instanceId : UInt16
  methodOrEventId : UInt16
  messageType : UInt8
  payload : Bytes
deriving DecidableEq

/-- A sample that `dds_write` has accepted. -/
structure Write where
  writer : Writer
  sample : BridgeSample
  via : ServiceMapping
deriving DecidableEq

structure WriteOutcome where
  createWriter : Int := 1
  alloc : Bool := true
  write : Bool := true

def ensureWriter (outcome : WriteOutcome) (writers : List Writer) (topic : Text)
    (qos : DdsQosProfile) : Option Writer × List Writer :=
  match writers.find? fun w => w.topic == topic with
  | some writer => (some writer, writers)
  | none =>
      if outcome.createWriter > 0 then
        let writer := { topic, handle := outcome.createWriter, qos }
        (some writer, writers ++ [writer])
      else (none, writers)

def writeSomeip (outcome : WriteOutcome) (gw : DdsGateway σ) (msg : Message) (topic : Text)
    (mapping : ServiceMapping) (instanceId : UInt16) : Result × DdsGateway σ × List Write :=
  if gw.participant ≤ 0 then (.notInitialized, gw, [])
  else
    let tcpSem := setup.config.assumeTcpSemanticsForRpc && setup.cls.isRequest msg.messageType
    match ensureWriter outcome gw.writers topic (qosForSomeipMessage msg tcpSem) with
    | (none, writers) => (.internalError, { gw with writers }, [])
    | (some writer, writers) =>
        let gw := { gw with writers }
        if !msg.payload.isEmpty ∧ !outcome.alloc then (.internalError, gw, [])
        else
          let sample : BridgeSample :=
            { serviceId := msg.serviceId, instanceId, methodOrEventId := msg.methodId
              messageType := msg.messageType.byte, payload := msg.payload }
          if outcome.write then (.success, gw, [{ writer, sample, via := mapping }])
          else (.internalError, gw, [])

theorem ensureWriter_fst (outcome : WriteOutcome) (writers : List Writer) (topic : Text)
    (qos : DdsQosProfile) :
    (ensureWriter outcome writers topic qos).1 =
      if (writers.any fun w => w.topic == topic) || decide (0 < outcome.createWriter) then
        some ((writers.find? fun w => w.topic == topic).getD
          { topic, handle := outcome.createWriter, qos })
      else none := by
  unfold ensureWriter
  rw [← List.isSome_find?]
  cases writers.find? fun w => w.topic == topic with
  | some writer => rfl
  | none =>
      by_cases hcreated : outcome.createWriter > 0
      · simp [hcreated]
      · simp [hcreated]

/-- What is written, if anything is. -/
theorem writeSomeip_writes (outcome : WriteOutcome) (gw : DdsGateway σ) (msg : Message)
    (topic : Text) (mapping : ServiceMapping) (instanceId : UInt16) :
    (writeSomeip setup outcome gw msg topic mapping instanceId).2.2 =
      if decide (0 < gw.participant) &&
          ((gw.writers.any fun w => w.topic == topic) || decide (0 < outcome.createWriter)) &&
          (msg.payload.isEmpty || outcome.alloc) && outcome.write then
        [{ writer := (gw.writers.find? fun w => w.topic == topic).getD
            { topic, handle := outcome.createWriter
              qos := qosForSomeipMessage msg
                (setup.config.assumeTcpSemanticsForRpc && setup.cls.isRequest msg.messageType) }
           sample :=
            { serviceId := msg.serviceId, instanceId, methodOrEventId := msg.methodId
              messageType := msg.messageType.byte, payload := msg.payload }
           via := mapping }]
      else [] := by
  have hwriter := ensureWriter_fst outcome gw.writers topic
    (qosForSomeipMessage msg
      (setup.config.assumeTcpSemanticsForRpc && setup.cls.isRequest msg.messageType))
  unfold writeSomeip
  dsimp only
  generalize ensureWriter outcome gw.writers topic _ = ensured at hwriter ⊢
  obtain ⟨ensured, writers⟩ := ensured
  dsimp only at hwriter
  subst hwriter
  by_cases hparticipant : gw.participant ≤ 0
  · simp [hparticipant, Int.not_lt.mpr hparticipant]
  · have hpos : 0 < gw.participant := Int.not_le.mp hparticipant
    rw [if_neg hparticipant, decide_eq_true hpos, Bool.true_and]
    generalize ((gw.writers.any fun w => w.topic == topic) ||
      decide (0 < outcome.createWriter)) = available
    cases available with
    | false => rfl
    | true =>
        cases msg.payload.isEmpty <;> cases outcome.alloc <;> cases outcome.write <;> rfl

def resolveDdsTopic (msg : Message) (mapping : ServiceMapping) : Text :=
  if !mapping.externalIdentifier.isEmpty then mapping.externalIdentifier
  else buildDdsTopicFor mapping.someipServiceId mapping.someipInstanceId msg.methodId msg

def outboundMessage (msg : Message) (mapping : ServiceMapping) : Message :=
  if mapping.mode = .typedMode then { msg with payload := encodeOutbound msg .typedMode } else msg

def onSomeipMessage (outcome : WriteOutcome) (gw : DdsGateway σ) (msg : Message) :
    Result × DdsGateway σ × List Write :=
  let config := setup.config
  match admitOutbound setup.e2e config.useE2e config.e2eConfig config.defaultSomeipInstanceId
      gw.base gw.e2e msg with
  | (.error result, base, e2e) => (result, { gw with base, e2e }, [])
  | (.ok mapping, base, e2e) =>
      let toSend := outboundMessage msg mapping
      let (result, gw, writes) := writeSomeip setup outcome { gw with base, e2e } toSend
        (resolveDdsTopic msg mapping) mapping mapping.someipInstanceId
      if result = .success then
        (result, { gw with base := gw.base.recordSomeipToExternal toSend.payload.length }, writes)
      else (result, gw, writes)

def notificationCallback (outcome : WriteOutcome) (gw : DdsGateway σ) (n : EventNotification) :
    Result × DdsGateway σ × List Write :=
  onSomeipMessage setup outcome gw (notificationMessage n)

/-! ### The inbound path -/

/-- The payload sequence of a sample: its bytes, or a length without a buffer. -/
inductive SequencePayload where
  | buffer (bytes : Bytes)
  | null (length : Nat)
deriving DecidableEq

/-- The vector `reader_loop` copies a payload into is zeroed first. -/
def SequencePayload.bytes : SequencePayload → Bytes
  | .buffer bytes => bytes
  | .null length => List.replicate length 0

/-- `vehicle_SomeipBridgeSample`, as some writer of the topic filled it in. -/
structure ReceivedSample where
  serviceId : UInt16
  instanceId : UInt16
  methodOrEventId : UInt16
  messageType : UInt8
  payload : SequencePayload
deriving DecidableEq

/-- One entry of what `dds_take` hands out. -/
structure TakenSample where
  validData : Bool := true
  sample : Option ReceivedSample
deriving DecidableEq

/-- `bridge_sample_to_someip` always succeeds and drops the instance id. -/
def bridgeSampleToSomeip (serviceId _instanceId methodOrEventId : UInt16)
    (messageTypeByte : UInt8) (payload : Bytes) : Message where
  serviceId := serviceId
  methodId := methodOrEventId
  clientId := 0x0000
  sessionId := 0x0001
  messageType := ⟨messageTypeByte⟩
  payload := payload

/-- What the gateway does on either side. `delivered` is a message that the
outbound sink gets from `reader_loop`, with the reader and the sample it was
taken from; `injected` one that it gets from `inject_dds_sample`. -/
inductive Output where
  | written (msg : Message) (write : Write)
  | delivered (msg : Message) (reader : Reader) (sample : ReceivedSample)
  | injected (msg : Message)
deriving DecidableEq

/-- `deliver_inbound_from_dds`; `sink` says whether a sink is installed. -/
def deliverInboundFromDds (sink : Bool) (gw : DdsGateway σ) (byteCount : Nat) (out : Output) :
    DdsGateway σ × List Output :=
  ({ gw with base := gw.base.recordExternalToSomeip byteCount }, if sink then [out] else [])

def takeSample (sink : Bool) (reader : Reader) (gw : DdsGateway σ) (taken : TakenSample) :
    DdsGateway σ × List Output :=
  match taken.validData, taken.sample with
  | true, some s =>
      let pl := s.payload.bytes
      let reconstructed := bridgeSampleToSomeip s.serviceId s.instanceId s.methodOrEventId
        s.messageType pl
      deliverInboundFromDds sink gw pl.length (.delivered reconstructed reader s)
  | _, _ => (gw, [])

/-- One reader of the snapshot. `dds_take` fills two entries at most. -/
def drainReader (sink : Bool) (takes : Text → List TakenSample) (gw : DdsGateway σ)
    (reader : Reader) : DdsGateway σ × List Output :=
  Machine.run (takeSample sink reader) gw ((takes reader.topic).take 2)

/-- One turn of `reader_loop`; the snapshot of the map has an order of its own,
here it is the one in which the readers were put in. -/
def readerPass (sink : Bool) (takes : Text → List TakenSample) (gw : DdsGateway σ) :
    DdsGateway σ × List Output :=
  if !gw.readerThread || gw.readerStop then (gw, [])
  else Machine.run (drainReader sink takes) gw gw.readers

def injectDdsSample (sink : Bool) (gw : DdsGateway σ) (payload : Bytes)
    (serviceId instanceId methodId : UInt16) (messageTypeByte : UInt8) :
    DdsGateway σ × List Output :=
  deliverInboundFromDds sink gw payload.length
    (.injected (bridgeSampleToSomeip serviceId instanceId methodId messageTypeByte payload))

/-! ### The gateway as a machine -/

inductive Call where
  | start (outcome : StartOutcome)
  | stop
  | addServiceMapping (mapping : ServiceMapping)
  | onSomeipMessage (outcome : WriteOutcome) (msg : Message)
  | readerPass (sink : Bool) (takes : Text → List TakenSample)
  | injectDdsSample (sink : Bool) (payload : Bytes) (serviceId instanceId methodId : UInt16)
      (messageTypeByte : UInt8)

def step (gw : DdsGateway σ) : Call → DdsGateway σ × List Output
  | .start outcome => ((start outcome gw).2, [])
  | .stop => ((stop gw).2, [])
  | .addServiceMapping mapping => ({ gw with base := gw.base.addServiceMapping mapping }, [])
  | .onSomeipMessage outcome msg =>
      let (_, gw, writes) := onSomeipMessage setup outcome gw msg
      (gw, writes.map (.written msg))
  | .readerPass sink takes => readerPass sink takes gw
  | .injectDdsSample sink payload serviceId instanceId methodId messageTypeByte =>
      injectDdsSample sink gw payload serviceId instanceId methodId messageTypeByte

end

def plainSetup : Setup Unit Unit where
  config := {}
  cls := .exact
  e2e :=
    { validate := fun state _ _ => (.success, state)
      protect := fun state msg _ => (msg, state) }

end SomeipGateway.Dds
