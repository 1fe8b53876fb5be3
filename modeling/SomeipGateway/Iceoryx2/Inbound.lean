import Mathlib.Data.List.Induction
import SomeipGateway.Iceoryx2.StartUp

/-! What an injected sample makes a started gateway do. The mapping is looked up
with a fallback to another instance, the publisher is not; and the two kinds of
request share the branch that answers. -/
namespace SomeipGateway.Iceoryx2

open Lib

/-! ### Started gateways -/

section

variable (setup : Setup)

/-- `start()` succeeded on these mappings and nothing has stopped the gateway
since. Anything else may have been called before and after it. -/
def StartedWith (mappings : List ServiceMapping) (gw : Iceoryx2Gateway) : Prop :=
  ∃ history outcome subscribed later,
    let before := (Machine.run (step setup) {} history).1
    before.base.running = false ∧ before.base.serviceMappings = mappings ∧
      (start setup outcome before subscribed).1 = .success ∧ .stop ∉ later ∧
      gw = (Machine.run (step setup) (start setup outcome before subscribed).2.1 later).1

/-- What a started gateway keeps until it is stopped. -/
structure Serving (publishers : Publishers) (gw : Iceoryx2Gateway) : Prop where
  running : gw.base.running = true
  rpcClient : gw.rpcClient.isSome = true
  publishers : gw.eventPublishers = publishers

theorem Handled.serving {publishers : Publishers} {before after : Iceoryx2Gateway}
    (h : Handled before after) (hserving : Serving publishers before) :
    Serving publishers after := by
  have hrunning := h.running.trans hserving.running
  rw [h.frame]
  exact ⟨hrunning, hserving.rpcClient, hserving.publishers⟩

theorem step_serving {publishers : Publishers} (gw : Iceoryx2Gateway) (input : Input)
    (h : Serving publishers gw) (hstop : input ≠ .stop) :
    Serving publishers (step setup gw input).1 := by
  cases input with
  | start outcome subscribed =>
      have hsame : (step setup gw (.start outcome subscribed)).1 = gw := by
        simp only [step, start, h.running, ↓reduceIte]
      rw [hsame]
      exact h
  | stop => exact absurd rfl hstop
  | addServiceMapping mapping => exact ⟨h.running, h.rpcClient, h.publishers⟩
  | setIceoryx2OutboundHook installed => exact ⟨h.running, h.rpcClient, h.publishers⟩
  | setExternalMessageCallback installed => exact ⟨h.running, h.rpcClient, h.publishers⟩
  | serviceFound =>
      simp only [step]
      split_ifs
      · exact ⟨h.running, h.rpcClient, h.publishers⟩
      · exact h
  | someipMessage msg => exact (step_handled setup gw rfl).serving h
  | datagram message => exact (step_handled setup gw rfl).serving h
  | rpcServerCall serviceId method clientId sessionId params =>
      exact (step_handled setup gw rfl).serving h
  | notification subscription n => exact (step_handled setup gw rfl).serving h
  | sample name sample answer => exact (step_handled setup gw rfl).serving h

theorem reached_allOrNothing (inputs : List Input) :
    AllOrNothing setup (Machine.run (step setup) {} inputs).1 :=
  Machine.run_invariant (step setup) (step_allOrNothing setup) {} inputs (.inr new_gateway_down)

/-- A started gateway serves, and has a publisher for the instances of the
inbound mappings it was started with, and for no others. -/
theorem StartedWith.serving {mappings : List ServiceMapping} {gw : Iceoryx2Gateway}
    (h : StartedWith setup mappings gw) :
    gw.base.running = true ∧ gw.rpcClient.isSome = true ∧
      ∀ key, (gw.eventPublishers key).isSome = true ↔
        ∃ m ∈ mappings, shouldForwardToSomeip m = true ∧
          makeKey m.someipServiceId m.someipInstanceId = key := by
  obtain ⟨history, outcome, subscribed, later, hstopped, rfl, hsuccess, hstop, rfl⟩ := h
  have hbefore := reached_allOrNothing setup history
  generalize (Machine.run (step setup) {} history).1 = before at *
  have hdown : Down before := by
    rcases hbefore with hup | hdown
    · rw [hup.running] at hstopped
      contradiction
    · exact hdown
  have hup := (start_success_iff setup outcome before subscribed hbefore).mp hsuccess
  obtain ⟨hrunning, -⟩ | ⟨-, hfailed, -⟩ | ⟨-, -, hstarted⟩ :=
    start_parts setup outcome before subscribed
  · rw [hrunning] at hstopped
    contradiction
  · exact absurd hsuccess hfailed
  have hserving : Serving (start setup outcome before subscribed).2.1.eventPublishers
      (start setup outcome before subscribed).2.1 := by
    obtain ⟨client, hclient, -⟩ := (Option.any_eq_true _ _).mp hup.rpcClient
    exact ⟨hup.running, by rw [hclient]; rfl, rfl⟩
  have hsteps : Machine.Along (step setup) (fun _ input => input ≠ .stop)
      (start setup outcome before subscribed).2.1 later := by
    apply Machine.along_of_forall
    rintro _ input hinput rfl
    exact hstop hinput
  have hlater := Machine.run_invariant_along (step setup) (step_serving setup) _ later hserving
    hsteps
  refine ⟨hlater.running, hlater.rpcClient, fun key => ?_⟩
  rw [hlater.publishers]
  exact hstarted.publisher_iff hdown key

/-! ### Events -/

/-- The mapping a sample's envelope is handled under, if it permits that. -/
def InboundMapping (gw : Iceoryx2Gateway) (env : Iceoryx2Envelope) (m : ServiceMapping) : Prop :=
  mappingForEnvelope gw.base.serviceMappings env = some m ∧ shouldForwardToSomeip m = true

def publishedEvents (outputs : List Output) : List (UInt16 × Bytes) :=
  outputs.filterMap fun
    | .publishEvent _ eventId data => some (eventId, data)
    | _ => none

/-- The sample's event is published once, as it was translated, and counted. -/
def EventDelivered (gw : Iceoryx2Gateway) (name : Text) (sample : Bytes) (answer : RpcSyncResult)
    (env : Iceoryx2Envelope) : Prop :=
  publishedEvents (injectIceoryx2Sample setup gw name sample answer).2 =
      [(env.methodOrEventId, (envelopeToSomeip env).payload)] ∧
    (injectIceoryx2Sample setup gw name sample answer).1.base.stats.messagesExternalToSomeip =
      gw.base.stats.messagesExternalToSomeip + 1

theorem injectIceoryx2Sample_parsed (gw : Iceoryx2Gateway) {sample : Bytes}
    {env : Iceoryx2Envelope} (hparse : parseSample setup.wire sample = some env) (name : Text)
    (answer : RpcSyncResult) :
    ∃ told, injectIceoryx2Sample setup gw name sample answer =
        ((bridgeExternalToSomeip setup gw env answer).1,
          (bridgeExternalToSomeip setup gw env answer).2 ++ told) ∧
      (told = [] ∨ ∃ serviceId methodId payload,
        told = [.externalMessage serviceId methodId payload]) := by
  simp only [injectIceoryx2Sample, hparse, handleIncomingEnvelope]
  refine ⟨_, rfl, ?_⟩
  split_ifs
  · exact .inr ⟨_, _, _, rfl⟩
  · exact .inl rfl

theorem eventDelivered_iff {gw : Iceoryx2Gateway} {sample : Bytes} {env : Iceoryx2Envelope}
    (hparse : parseSample setup.wire sample = some env) (htype : env.messageType = .notification)
    {m : ServiceMapping} (hm : InboundMapping gw env m) (name : Text) (answer : RpcSyncResult) :
    EventDelivered setup gw name sample answer env ↔
      (gw.eventPublishers (makeKey env.serviceId env.instanceId)).isSome = true := by
  obtain ⟨told, hinject, htold⟩ := injectIceoryx2Sample_parsed setup gw hparse name answer
  have hquiet : publishedEvents told = [] := by
    rcases htold with rfl | ⟨_, _, _, rfl⟩
    · rfl
    · rfl
  have hbridge : bridgeExternalToSomeip setup gw env answer = publishIncomingEvent gw env := by
    simp only [bridgeExternalToSomeip, hm.1, hm.2, htype, Bool.not_true, Bool.false_eq_true,
      ↓reduceIte]
  unfold EventDelivered
  rw [hinject, hbridge, publishedEvents, List.filterMap_append, ← publishedEvents,
    ← publishedEvents, hquiet, List.append_nil, publishIncomingEvent]
  cases gw.eventPublishers (makeKey env.serviceId env.instanceId) with
  | none => simp [publishedEvents]
  | some publisher => simp [publishedEvents, GatewayBase.recordExternalToSomeip,
      GatewayStats.recordExternalToSomeip]

/-- For every started gateway and every sample with a notification that its
lookup maps inbound: the event is delivered exactly if the gateway was started
with an inbound mapping of the very instance the envelope names. -/
theorem inbound_event_delivered_iff {mappings : List ServiceMapping} {gw : Iceoryx2Gateway}
    (hstarted : StartedWith setup mappings gw) (name : Text) (sample : Bytes)
    (answer : RpcSyncResult) (env : Iceoryx2Envelope)
    (hparse : parseSample setup.wire sample = some env) (htype : env.messageType = .notification)
    (m : ServiceMapping) (hm : InboundMapping gw env m) :
    EventDelivered setup gw name sample answer env ↔
      ∃ own ∈ mappings, shouldForwardToSomeip own = true ∧
        own.someipServiceId = env.serviceId ∧ own.someipInstanceId = env.instanceId := by
  obtain ⟨-, -, hpublishers⟩ := hstarted.serving
  rw [eventDelivered_iff setup hparse htype hm, hpublishers]
  simp only [makeKey, Prod.mk.injEq]

end

def doorMapping : ServiceMapping where
  someipServiceId := 0x3000
  someipInstanceId := 0x0001
  someipMethodIds := [0x8001]

def doorSetup : Setup where
  config := {}
  cls := .exact
  wire := .bigEndian

def doorGateway : Iceoryx2Gateway :=
  (Machine.run (step doorSetup) {} [.addServiceMapping doorMapping, .start {} []]).1

theorem doorGateway_started : StartedWith doorSetup [doorMapping] doorGateway :=
  ⟨[.addServiceMapping doorMapping], {}, [], [], rfl, rfl, rfl, List.not_mem_nil, rfl⟩

def doorEvent (instanceId : UInt16) : Iceoryx2Envelope where
  serviceId := 0x3000
  instanceId := instanceId
  methodOrEventId := 0x8001
  messageType := .notification
  payload := [1]

theorem parseSample_doorEvent (instanceId : UInt16) :
    parseSample .bigEndian (serializeEnvelope .bigEndian [] (doorEvent instanceId)) =
      some (doorEvent instanceId) := by
  have hread := deserializeEnvelope_serializeEnvelope WireFormat.bigEndian_lawful
    (doorEvent instanceId) (Nat.le_of_ble_eq_true rfl) [] []
  rw [List.append_nil, List.length_nil] at hread
  rw [parseSample, hread]
  rfl

theorem door_event_delivered :
    EventDelivered doorSetup doorGateway (Text.ascii "door")
      (serializeEnvelope .bigEndian [] (doorEvent 1)) ⟨true, []⟩ (doorEvent 1) :=
  (inbound_event_delivered_iff doorSetup doorGateway_started _ _ _ (doorEvent 1)
    (parseSample_doorEvent 1) rfl doorMapping ⟨by decide, by decide⟩).mpr
    ⟨doorMapping, List.mem_singleton.mpr rfl, by decide, rfl, rfl⟩

/-- The lookup falls back from instance 2 to the mapping of instance 1, and then
there is no publisher to be found for instance 2. -/
theorem door_event_of_other_instance_dropped :
    ¬ ∀ (mappings : List ServiceMapping) (gw : Iceoryx2Gateway),
      StartedWith doorSetup mappings gw →
      ∀ (name : Text) (sample : Bytes) (answer : RpcSyncResult) (env : Iceoryx2Envelope),
      parseSample doorSetup.wire sample = some env → env.messageType = .notification →
      ∀ m, InboundMapping gw env m → EventDelivered doorSetup gw name sample answer env := by
  intro h
  have hm : InboundMapping doorGateway (doorEvent 2) doorMapping := ⟨by decide, by decide⟩
  have hdelivered := h [doorMapping] doorGateway doorGateway_started (Text.ascii "door") _
    ⟨true, []⟩ (doorEvent 2) (parseSample_doorEvent 2) rfl doorMapping hm
  rw [eventDelivered_iff doorSetup (parseSample_doorEvent 2) rfl hm] at hdelivered
  exact absurd hdelivered (by decide)

/-! ### Requests -/

/-- The samples that are published toward iceoryx2. -/
def publishedSamples (outputs : List Output) : List Bytes :=
  outputs.filterMap fun
    | .published _ sample _ _ => some sample
    | _ => none

/-- A response to the envelope: its ids, and the type that tells whether the call
succeeded. -/
structure RespondsTo (env : Iceoryx2Envelope) (answer : RpcSyncResult) (resp : Message) :
    Prop where
  serviceId : resp.serviceId = env.serviceId
  methodId : resp.methodId = env.methodOrEventId
  clientId : resp.clientId = env.clientId
  sessionId : resp.sessionId = env.sessionId
  messageType : resp.messageType = .response ↔ answer.success = true

section

variable (setup : Setup)

/-- The sample holds a message of this type for an inbound mapping. -/
def CarriesInbound (gw : Iceoryx2Gateway) (sample : Bytes) (type : MessageType) : Prop :=
  ∃ env m, parseSample setup.wire sample = some env ∧ env.messageType = type ∧
    InboundMapping gw env m

/-- Requests are answered, and nothing else is. -/
structure AnswersRequests (gw : Iceoryx2Gateway) (name : Text) (sample : Bytes)
    (answer : RpcSyncResult) : Prop where
  answered : publishedSamples (injectIceoryx2Sample setup gw name sample answer).2 ≠ [] ↔
    CarriesInbound setup gw sample .request
  response : ∀ response ∈ publishedSamples (injectIceoryx2Sample setup gw name sample answer).2,
    ∀ env, parseSample setup.wire sample = some env → ∃ resp, RespondsTo env answer resp ∧
      response = someipToSample setup.wire resp env.instanceId env.mode
  forgotten : ∀ env, parseSample setup.wire sample = some env →
    env.messageType = .requestNoReturn →
    publishedSamples (injectIceoryx2Sample setup gw name sample answer).2 = []

/-- What is published for an envelope: one response if it is of either kind of
request and the mapping permits it, and else nothing. -/
theorem publishedSamples_bridged {gw : Iceoryx2Gateway} (hclient : gw.rpcClient.isSome = true)
    (env : Iceoryx2Envelope) (answer : RpcSyncResult) :
    (∃ m resp, InboundMapping gw env m ∧
        (env.messageType = .request ∨ env.messageType = .requestNoReturn) ∧
        RespondsTo env answer resp ∧
        publishedSamples (bridgeExternalToSomeip setup gw env answer).2 =
          [someipToSample setup.wire resp env.instanceId env.mode]) ∨
      (¬ ∃ m, InboundMapping gw env m ∧
        (env.messageType = .request ∨ env.messageType = .requestNoReturn)) ∧
        publishedSamples (bridgeExternalToSomeip setup gw env answer).2 = [] := by
  unfold bridgeExternalToSomeip InboundMapping
  cases hm : mappingForEnvelope gw.base.serviceMappings env with
  | none => exact .inr ⟨by simp, rfl⟩
  | some m =>
      dsimp only
      cases hforward : shouldForwardToSomeip m with
      | false => exact .inr ⟨by simp [hforward], rfl⟩
      | true =>
          simp only [Bool.not_true, Bool.false_eq_true, ↓reduceIte]
          split_ifs with hevent hrequest
          · refine .inr ⟨?_, ?_⟩
            · rw [hevent]
              rintro ⟨_, -, htype | htype⟩
              · exact absurd htype (by decide)
              · exact absurd htype (by decide)
            · simp only [publishIncomingEvent]
              split
              · rfl
              · rfl
          · refine .inl ⟨m, _, ⟨rfl, hforward⟩, hrequest.1, ⟨rfl, rfl, rfl, rfl, ?_⟩, rfl⟩
            cases answer.success with
            | true => exact iff_of_true rfl rfl
            | false =>
                show MessageType.error = .response ↔ false = true
                decide
          · refine .inr ⟨?_, rfl⟩
            rintro ⟨_, -, htype⟩
            exact hrequest ⟨htype, hclient⟩

theorem publishedSamples_parsed (gw : Iceoryx2Gateway) {sample : Bytes} {env : Iceoryx2Envelope}
    (hparse : parseSample setup.wire sample = some env) (name : Text) (answer : RpcSyncResult) :
    publishedSamples (injectIceoryx2Sample setup gw name sample answer).2 =
      publishedSamples (bridgeExternalToSomeip setup gw env answer).2 := by
  obtain ⟨told, hinject, htold⟩ := injectIceoryx2Sample_parsed setup gw hparse name answer
  rw [hinject, publishedSamples, List.filterMap_append]
  rcases htold with rfl | ⟨_, _, _, rfl⟩
  · exact List.append_nil _
  · exact List.append_nil _

theorem carriesInbound_iff {gw : Iceoryx2Gateway} {sample : Bytes} {env : Iceoryx2Envelope}
    (hparse : parseSample setup.wire sample = some env) (type : MessageType) :
    CarriesInbound setup gw sample type ↔
      env.messageType = type ∧ ∃ m, InboundMapping gw env m := by
  unfold CarriesInbound
  simp only [hparse, Option.some.injEq, exists_and_left, exists_eq_left']

/-- Where nothing is published and nothing asks for an answer. -/
theorem answersRequests_of_silent {gw : Iceoryx2Gateway} {name : Text} {sample : Bytes}
    {answer : RpcSyncResult}
    (hsilent : publishedSamples (injectIceoryx2Sample setup gw name sample answer).2 = [])
    (hnone : ¬ CarriesInbound setup gw sample .request) :
    AnswersRequests setup gw name sample answer where
  answered := iff_of_false (not_not.mpr hsilent) hnone
  response response hmem := by
    rw [hsilent] at hmem
    cases hmem
  forgotten _ _ _ := hsilent

/-- Where a request for an inbound mapping gets its response. -/
theorem answersRequests_of_request {gw : Iceoryx2Gateway} {name : Text} {sample : Bytes}
    {answer : RpcSyncResult} {env : Iceoryx2Envelope} {m : ServiceMapping} {resp : Message}
    (hparse : parseSample setup.wire sample = some env) (hrequest : env.messageType = .request)
    (hm : InboundMapping gw env m) (hresp : RespondsTo env answer resp)
    (hanswer : publishedSamples (injectIceoryx2Sample setup gw name sample answer).2 =
      [someipToSample setup.wire resp env.instanceId env.mode]) :
    AnswersRequests setup gw name sample answer where
  answered := by
    rw [hanswer, carriesInbound_iff setup hparse]
    exact iff_of_true (List.cons_ne_nil _ _) ⟨hrequest, m, hm⟩
  response response hmem env' henv := by
    cases hparse.symm.trans henv
    rw [hanswer] at hmem
    exact ⟨resp, hresp, List.mem_singleton.mp hmem⟩
  forgotten env' henv hforget := by
    cases hparse.symm.trans henv
    rw [hrequest] at hforget
    exact absurd hforget (by decide)

/-- For every started gateway and every sample: requests and nothing else are
answered exactly if the sample is not a fire-and-forget request that the gateway
would have to deliver. -/
theorem requests_answered_iff {mappings : List ServiceMapping} {gw : Iceoryx2Gateway}
    (hstarted : StartedWith setup mappings gw) (name : Text) (sample : Bytes)
    (answer : RpcSyncResult) :
    AnswersRequests setup gw name sample answer ↔
      ¬ CarriesInbound setup gw sample .requestNoReturn := by
  obtain ⟨-, hclient, -⟩ := hstarted.serving
  cases hparse : parseSample setup.wire sample with
  | none =>
      have hnothing (type : MessageType) : ¬ CarriesInbound setup gw sample type := by
        rintro ⟨env, m, henv, -⟩
        cases hparse.symm.trans henv
      refine iff_of_true (answersRequests_of_silent setup ?_ (hnothing _)) (hnothing _)
      simp only [injectIceoryx2Sample, hparse]
      rfl
  | some env =>
      have hsamples := publishedSamples_parsed setup gw hparse name answer
      rw [carriesInbound_iff setup hparse]
      obtain ⟨m, resp, hm, htype, hresp, hpublished⟩ | ⟨hother, hpublished⟩ :=
        publishedSamples_bridged setup hclient env answer
      · rw [hpublished] at hsamples
        constructor
        · rintro hanswers ⟨hforget, -⟩
          have hnone := hanswers.forgotten env hparse hforget
          rw [hsamples] at hnone
          cases hnone
        · intro hkept
          have hrequest : env.messageType = .request := by
            rcases htype with hrequest | hforget
            · exact hrequest
            · exact absurd ⟨hforget, m, hm⟩ hkept
          exact answersRequests_of_request setup hparse hrequest hm hresp hsamples
      · refine iff_of_true (answersRequests_of_silent setup (hsamples.trans hpublished) ?_) ?_
        · rw [carriesInbound_iff setup hparse]
          rintro ⟨htype, m, hm⟩
          exact hother ⟨m, hm, .inl htype⟩
        · rintro ⟨htype, m, hm⟩
          exact hother ⟨m, hm, .inr htype⟩

end

def doorRequest (type : MessageType) : Message where
  serviceId := 0x3000
  methodId := 0x0002
  clientId := 0x0001
  sessionId := 0x0005
  messageType := type
  payload := [1]

theorem parseSample_doorRequest (type : MessageType) :
    parseSample .bigEndian (someipToSample .bigEndian (doorRequest type) 1 .opaqueMode) =
      some (messageEnvelope (doorRequest type) 1 .opaqueMode) :=
  parseSample_someipToSample WireFormat.bigEndian_lawful (doorRequest type) 1
    (Nat.le_of_ble_eq_true rfl)

theorem door_request_answered :
    AnswersRequests doorSetup doorGateway (Text.ascii "door")
      (someipToSample .bigEndian (doorRequest .request) 1 .opaqueMode) ⟨false, [7]⟩ := by
  refine (requests_answered_iff doorSetup doorGateway_started _ _ _).mpr ?_
  rw [carriesInbound_iff doorSetup (parseSample_doorRequest .request)]
  exact fun h => absurd h.1 (by decide)

/-- A fire-and-forget request through the same mapping is answered like any other. -/
theorem door_fire_and_forget_answered :
    ¬ ∀ (mappings : List ServiceMapping) (gw : Iceoryx2Gateway),
      StartedWith doorSetup mappings gw →
      ∀ (name : Text) (sample : Bytes) (answer : RpcSyncResult),
      AnswersRequests doorSetup gw name sample answer := by
  intro h
  have hparse := parseSample_doorRequest .requestNoReturn
  have hnone := (h [doorMapping] doorGateway doorGateway_started (Text.ascii "door") _
    ⟨true, []⟩).forgotten _ hparse rfl
  rw [publishedSamples_parsed doorSetup doorGateway hparse] at hnone
  cases hnone

end SomeipGateway.Iceoryx2
