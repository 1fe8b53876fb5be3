import SomeipGateway.Iceoryx2.Gateway
import SomeipGateway.Lib.Phases

/-! The life of the iceoryx2 gateway: between two calls it either runs with
everything it needs, or it is down and owns nothing. -/
namespace SomeipGateway.Iceoryx2

open Lib

/-! ### What the handlers leave alone -/

/-- A handler changes counters and the samples on the bus, and nothing else. -/
structure Handled (before after : Iceoryx2Gateway) : Prop where
  frame : after = { before with base := after.base, inprocessBus := after.inprocessBus }
  running : after.base.running = before.base.running
  mappings : after.base.serviceMappings = before.base.serviceMappings
  bus : before.inprocessBus = none → after.inprocessBus = none

theorem Handled.refl (gw : Iceoryx2Gateway) : Handled gw gw := ⟨rfl, rfl, rfl, id⟩

theorem Handled.recorded {gw : Iceoryx2Gateway} {base : GatewayBase}
    (hrunning : base.running = gw.base.running)
    (hmappings : base.serviceMappings = gw.base.serviceMappings) :
    Handled gw { gw with base := base } := ⟨rfl, hrunning, hmappings, id⟩

theorem Handled.trans {first second third : Iceoryx2Gateway} (h : Handled first second)
    (h' : Handled second third) : Handled first third := by
  refine ⟨?_, h'.running.trans h.running, h'.mappings.trans h.mappings,
    fun hbus => h'.bus (h.bus hbus)⟩
  rw [h'.frame, h.frame]

section

variable (setup : Setup)

theorem publishTowardIceoryx2_handled (gw : Iceoryx2Gateway) (name : Text) (sample : Bytes)
    (mapping : ServiceMapping) :
    Handled gw (publishTowardIceoryx2 setup gw name sample mapping).1 := by
  refine ⟨rfl, ?_, ?_, ?_⟩
  · unfold publishTowardIceoryx2
    cases shouldForwardToExternal mapping with
    | false => rfl
    | true => rfl
  · unfold publishTowardIceoryx2
    cases shouldForwardToExternal mapping with
    | false => rfl
    | true => rfl
  · intro hbus
    simp only [publishTowardIceoryx2, hbus, Option.map_none, ite_self]

theorem onSomeipMessage_handled (gw : Iceoryx2Gateway) (msg : Message) :
    Handled gw (onSomeipMessage setup gw msg).2.1 := by
  unfold onSomeipMessage
  cases mappingForMessage gw.base.serviceMappings msg.serviceId with
  | none =>
      dsimp only
      split_ifs
      · exact .refl gw
      · exact .refl gw
  | some m =>
      dsimp only
      split_ifs
      · exact .refl gw
      · exact .refl gw
      · exact publishTowardIceoryx2_handled setup gw _ _ _
      · exact publishTowardIceoryx2_handled setup gw _ _ _
      · exact publishTowardIceoryx2_handled setup gw _ _ _

theorem bridgeExternalToSomeip_handled (gw : Iceoryx2Gateway) (env : Iceoryx2Envelope)
    (answer : RpcSyncResult) : Handled gw (bridgeExternalToSomeip setup gw env answer).1 := by
  simp only [bridgeExternalToSomeip]
  split
  · exact .refl gw
  · rename_i mapping _
    split_ifs
    · exact .refl gw
    · simp only [publishIncomingEvent]
      split
      · exact .refl gw
      · exact .recorded rfl rfl
    · apply Handled.trans (publishTowardIceoryx2_handled setup gw _ _ mapping)
      exact .recorded rfl rfl
    · exact .refl gw

theorem injectIceoryx2Sample_handled (gw : Iceoryx2Gateway) (name : Text) (sample : Bytes)
    (answer : RpcSyncResult) :
    Handled gw (injectIceoryx2Sample setup gw name sample answer).1 := by
  simp only [injectIceoryx2Sample]
  split
  · exact .recorded rfl rfl
  · exact bridgeExternalToSomeip_handled setup gw _ answer

/-- The inputs that go through one of the handlers. -/
def Input.isHandled : Input → Bool
  | .someipMessage _ => true
  | .datagram _ => true
  | .rpcServerCall _ _ _ _ _ => true
  | .notification _ _ => true
  | .sample _ _ _ => true
  | _ => false

theorem step_handled (gw : Iceoryx2Gateway) {input : Input} (h : input.isHandled = true) :
    Handled gw (step setup gw input).1 := by
  cases input with
  | someipMessage msg => exact onSomeipMessage_handled setup gw msg
  | datagram message =>
      cases message with
      | none => exact .refl gw
      | some msg =>
          simp only [step]
          split_ifs
          · exact onSomeipMessage_handled setup gw msg
          · exact .refl gw
  | rpcServerCall serviceId method clientId sessionId params =>
      simp only [step]
      split_ifs
      · exact publishTowardIceoryx2_handled setup gw _ _ _
      · exact .refl gw
  | notification subscription n =>
      simp only [step]
      split_ifs
      · exact publishTowardIceoryx2_handled setup gw _ _ _
      · exact .refl gw
  | sample name sample answer => exact injectIceoryx2Sample_handled setup gw name sample answer
  | _ => cases h

/-! ### Up and down -/

structure Up (gw : Iceoryx2Gateway) : Prop where
  running : gw.base.running = true
  subscriber : gw.eventSubscriber.any EventSubscriber.initialised = true
  rpcClient : gw.rpcClient.any RpcClient.initialised = true
  sdClient : setup.config.enableSdProxy = true → gw.sdClient.any SdClient.initialised = true
  sdServer : setup.config.enableSdProxy = true → gw.sdServer.any SdServer.initialised = true
  udp : setup.config.enableSomeipUdpListener = true →
    gw.udpTransport.any UdpTransport.started = true ∧ gw.udpListener = true

end

structure Down (gw : Iceoryx2Gateway) : Prop where
  running : gw.base.running = false
  subscriber : gw.eventSubscriber = none
  publishers : ∀ key, gw.eventPublishers key = none
  rpcClient : gw.rpcClient = none
  rpcServers : ∀ serviceId, gw.rpcServers serviceId = none
  sdClient : gw.sdClient = none
  sdServer : gw.sdServer = none
  udpTransport : gw.udpTransport = none
  udpListener : gw.udpListener = false
  bus : gw.inprocessBus = none

theorem stop_down (gw : Iceoryx2Gateway) : Down (stop gw).2 :=
  ⟨rfl, rfl, fun _ => rfl, rfl, fun _ => rfl, rfl, rfl, rfl, rfl, rfl⟩

theorem Handled.down {before after : Iceoryx2Gateway} (h : Handled before after)
    (hdown : Down before) : Down after := by
  have hrunning := h.running.trans hdown.running
  have hbus := h.bus hdown.bus
  rw [h.frame]
  exact ⟨hrunning, hdown.subscriber, hdown.publishers, hdown.rpcClient, hdown.rpcServers,
    hdown.sdClient, hdown.sdServer, hdown.udpTransport, hdown.udpListener, hbus⟩

section

variable (setup : Setup)

theorem Handled.up {before after : Iceoryx2Gateway} (h : Handled before after)
    (hup : Up setup before) : Up setup after := by
  have hrunning := h.running.trans hup.running
  rw [h.frame]
  exact ⟨hrunning, hup.subscriber, hup.rpcClient, hup.sdClient, hup.sdServer, hup.udp⟩

def AllOrNothing (gw : Iceoryx2Gateway) : Prop := Up setup gw ∨ Down gw

theorem Handled.allOrNothing {before after : Iceoryx2Gateway} (h : Handled before after)
    (hbefore : AllOrNothing setup before) : AllOrNothing setup after :=
  hbefore.imp (h.up setup) h.down

/-- Hooks, callbacks, counters and the mapping list do not matter for it. -/
theorem AllOrNothing.of_parts {before after : Iceoryx2Gateway} (h : AllOrNothing setup before)
    (hparts : after = { before with
      base := after.base
      outboundHook := after.outboundHook
      externalMessageCallback := after.externalMessageCallback
      sdFindsHandled := after.sdFindsHandled })
    (hrunning : after.base.running = before.base.running) : AllOrNothing setup after := by
  rw [hparts]
  rcases h with hup | hdown
  · exact .inl { hup with running := hrunning.trans hup.running }
  · exact .inr { hdown with running := hrunning.trans hdown.running }

/-! ### Start, phase by phase -/

theorem startRpcClient_ok {outcome : StartOutcome} {gw gw' : Iceoryx2Gateway}
    (h : startRpcClient setup outcome gw = .ok gw') :
    gw' = { gw with
      rpcClient := some { clientId := setup.config.someipClientId, initialised := true } } := by
  unfold startRpcClient at h
  cases hclient : outcome.rpcClient with
  | false =>
      rw [hclient] at h
      contradiction
  | true =>
      rw [hclient] at h
      cases h
      rfl

theorem startPublishers_ok {outcome : StartOutcome} {gw gw' : Iceoryx2Gateway}
    (h : startPublishers outcome gw = .ok gw') :
    ∃ publishers, gw.base.serviceMappings.zipIdx.foldlM (addEventPublisher outcome)
        gw.eventPublishers = .ok publishers ∧
      gw' = { gw with eventPublishers := publishers } := by
  unfold startPublishers at h
  split at h
  · contradiction
  · cases h
    exact ⟨_, ‹_›, rfl⟩

theorem startSd_ok {outcome : StartOutcome} {gw gw' : Iceoryx2Gateway}
    (h : startSd setup outcome gw = .ok gw') :
    gw' = { gw with
      sdClient := gw'.sdClient, sdServer := gw'.sdServer, sdOffersSent := gw'.sdOffersSent } ∧
    (setup.config.enableSdProxy = true →
      gw'.sdClient.any SdClient.initialised = true ∧
        gw'.sdServer.any SdServer.initialised = true) := by
  simp only [startSd] at h
  split_ifs at h with hdisabled
  · cases h
    refine ⟨rfl, fun henabled => ?_⟩
    rw [henabled] at hdisabled
    contradiction
  · cases h
    exact ⟨rfl, fun _ => ⟨rfl, rfl⟩⟩

theorem startUdp_ok {outcome : StartOutcome} {gw gw' : Iceoryx2Gateway}
    (h : startUdp setup outcome gw = .ok gw') :
    gw' = { gw with udpTransport := gw'.udpTransport, udpListener := gw'.udpListener } ∧
    (setup.config.enableSomeipUdpListener = true →
      gw'.udpTransport.any UdpTransport.started = true ∧ gw'.udpListener = true) := by
  simp only [startUdp] at h
  split_ifs at h with hdisabled
  · cases h
    refine ⟨rfl, fun henabled => ?_⟩
    rw [henabled] at hdisabled
    contradiction
  · cases h
    exact ⟨rfl, fun _ => ⟨rfl, rfl⟩⟩

/-- The five phases of a start that succeeds, in their order. -/
theorem startComponents_phases {outcome : StartOutcome} {gw gw' : Iceoryx2Gateway}
    {subscribed : EventgroupSet} (h : startComponents setup outcome gw = .ok (gw', subscribed)) :
    ∃ afterRpc afterPublishers afterSd,
      startRpcClient setup outcome gw = .ok afterRpc ∧
      startPublishers outcome afterRpc = .ok afterPublishers ∧
      startSd setup outcome (setupMappings outcome afterPublishers).1 = .ok afterSd ∧
      startUdp setup outcome afterSd = .ok gw' := by
  unfold startComponents at h
  obtain ⟨afterRpc, hrpc, h⟩ := Phases.bind_eq_ok.mp h
  obtain ⟨afterPublishers, hpublishers, h⟩ := Phases.bind_eq_ok.mp h
  obtain ⟨afterSd, hsd, h⟩ := Phases.bind_eq_ok.mp h
  obtain ⟨afterUdp, hudp, h⟩ := Phases.bind_eq_ok.mp h
  cases h
  exact ⟨afterRpc, afterPublishers, afterSd, hrpc, hpublishers, hsd, hudp⟩

/-- What the loops over the mappings leave behind once the phases are through. -/
theorem startComponents_parts {outcome : StartOutcome} {gw gw' : Iceoryx2Gateway}
    {subscribed : EventgroupSet} (h : startComponents setup outcome gw = .ok (gw', subscribed)) :
    gw'.base = gw.base ∧
      gw.base.serviceMappings.zipIdx.foldlM (addEventPublisher outcome) gw.eventPublishers =
        .ok gw'.eventPublishers ∧
      gw'.rpcServers =
        gw.base.serviceMappings.zipIdx.foldl (setupRpcServerForMapping outcome) gw.rpcServers ∧
      gw'.eventSubscriber = gw.eventSubscriber.map fun subscriber =>
        { subscriber with subscriptions := subscriber.subscriptions ++
          (gw.base.serviceMappings.foldl setupEventSubscriptionsForMapping ([], [])).1 } := by
  obtain ⟨afterRpc, afterPublishers, afterSd, hrpc, hpublishers, hsd, hudp⟩ :=
    startComponents_phases setup h
  have hrpc := startRpcClient_ok setup hrpc
  obtain ⟨publishers, hloop, hpublishers⟩ := startPublishers_ok hpublishers
  obtain ⟨hsdFrame, -⟩ := startSd_ok setup hsd
  obtain ⟨hudpFrame, -⟩ := startUdp_ok setup hudp
  rw [hrpc] at hloop
  refine ⟨?_, ?_, ?_, ?_⟩
  · rw [hudpFrame, hsdFrame, hpublishers, hrpc]
    rfl
  · rw [hudpFrame, hsdFrame, hpublishers]
    exact hloop
  · rw [hudpFrame, hsdFrame, hpublishers, hrpc]
    rfl
  · rw [hudpFrame, hsdFrame, hpublishers, hrpc]
    rfl

/-- Everything a running gateway needs is there once the phases are through; the
running flag itself is set afterwards. -/
theorem startComponents_up {outcome : StartOutcome} {gw gw' : Iceoryx2Gateway}
    {subscribed : EventgroupSet}
    (hsubscriber : gw.eventSubscriber.any EventSubscriber.initialised = true)
    (h : startComponents setup outcome gw = .ok (gw', subscribed)) :
    Up setup { gw' with base := gw'.base.setRunning true } := by
  obtain ⟨afterRpc, afterPublishers, afterSd, hrpc, hpublishers, hsd, hudp⟩ :=
    startComponents_phases setup h
  have hrpc := startRpcClient_ok setup hrpc
  obtain ⟨publishers, -, hpublishers⟩ := startPublishers_ok hpublishers
  obtain ⟨hsdFrame, hsdReady⟩ := startSd_ok setup hsd
  obtain ⟨hudpFrame, hudpReady⟩ := startUdp_ok setup hudp
  have hclient : gw'.rpcClient = afterSd.rpcClient := by rw [hudpFrame]
  have hlistens : gw'.eventSubscriber = afterSd.eventSubscriber := by rw [hudpFrame]
  have hsdClient : gw'.sdClient = afterSd.sdClient := by rw [hudpFrame]
  have hsdServer : gw'.sdServer = afterSd.sdServer := by rw [hudpFrame]
  refine ⟨rfl, ?_, ?_, ?_, ?_, hudpReady⟩
  · rw [hlistens, hsdFrame, hpublishers, hrpc]
    simp only [setupMappings, Option.any_map]
    exact hsubscriber
  · rw [hclient, hsdFrame, hpublishers, hrpc]
    rfl
  · intro henabled
    rw [hsdClient]
    exact (hsdReady henabled).1
  · intro henabled
    rw [hsdServer]
    exact (hsdReady henabled).2

/-- None of the phases gives up with `SUCCESS`, and none touches the mappings. -/
theorem startComponents_error {outcome : StartOutcome} {gw gw' : Iceoryx2Gateway}
    {result : Result} (h : startComponents setup outcome gw = .error (result, gw')) :
    result ≠ .success ∧ gw'.base = gw.base := by
  unfold startComponents at h
  rcases Phases.bind_eq_error.mp h with h | ⟨afterRpc, hrpc, h⟩
  · simp only [startRpcClient] at h
    split_ifs at h
    cases h
    exact ⟨by decide, rfl⟩
  have hbase : afterRpc.base = gw.base := by rw [startRpcClient_ok setup hrpc]
  rcases Phases.bind_eq_error.mp h with h | ⟨afterPublishers, hpublishers, h⟩
  · simp only [startPublishers] at h
    split at h
    · cases h
      exact ⟨by decide, hbase⟩
    · contradiction
  obtain ⟨publishers, -, hpublishers⟩ := startPublishers_ok hpublishers
  have hbase : afterPublishers.base = gw.base := by
    rw [hpublishers]
    exact hbase
  rcases Phases.bind_eq_error.mp h with h | ⟨afterSd, hsd, h⟩
  · simp only [startSd] at h
    split_ifs at h
    · cases h
      exact ⟨by decide, hbase⟩
    · cases h
      exact ⟨by decide, hbase⟩
  have hbase : afterSd.base = gw.base := by
    rw [(startSd_ok setup hsd).1]
    exact hbase
  rcases Phases.bind_eq_error.mp h with h | ⟨afterUdp, -, h⟩
  · simp only [startUdp] at h
    split_ifs at h
    cases h
    exact ⟨by decide, hbase⟩
  · contradiction

/-- What a `start()` that goes through builds from the mapping list. -/
structure Started (outcome : StartOutcome) (before after : Iceoryx2Gateway) : Prop where
  base : after.base = before.base.setRunning true
  publishers : before.base.serviceMappings.zipIdx.foldlM (addEventPublisher outcome)
    before.eventPublishers = .ok after.eventPublishers
  rpcServers : after.rpcServers =
    before.base.serviceMappings.zipIdx.foldl (setupRpcServerForMapping outcome) before.rpcServers
  subscriptions : after.eventSubscriber.map EventSubscriber.subscriptions =
    some (before.base.serviceMappings.foldl setupEventSubscriptionsForMapping ([], [])).1

/-- What a `start()` that gives up leaves alone. -/
structure GaveUp (before after : Iceoryx2Gateway) : Prop where
  running : after.base.running = false
  mappings : after.base.serviceMappings = before.base.serviceMappings
  subscriber : after.eventSubscriber = none

/-- Everything `start()` can do, from any state. -/
theorem start_parts (outcome : StartOutcome) (gw : Iceoryx2Gateway) (subscribed : EventgroupSet) :
    (gw.base.running = true ∧ start setup outcome gw subscribed = (.success, gw, subscribed)) ∨
      (gw.base.running = false ∧ (start setup outcome gw subscribed).1 ≠ .success ∧
        GaveUp gw (start setup outcome gw subscribed).2.1) ∨
      (gw.base.running = false ∧ (start setup outcome gw subscribed).1 = .success ∧
        Started outcome gw (start setup outcome gw subscribed).2.1) := by
  cases hrunning : gw.base.running with
  | true => exact .inl ⟨rfl, by simp only [start, hrunning, ↓reduceIte]⟩
  | false =>
      right
      simp only [start, hrunning, Bool.false_eq_true, ↓reduceIte]
      cases hsubscriber : outcome.subscriber with
      | false => exact .inl ⟨trivial, by simp, hrunning, rfl, rfl⟩
      | true =>
          simp only [Bool.not_true, Bool.false_eq_true, ↓reduceIte]
          split
          · rename_i hcomponents
            obtain ⟨hresult, hbase⟩ := startComponents_error setup hcomponents
            have hmappings := congrArg GatewayBase.serviceMappings hbase
            exact .inl ⟨trivial, hresult, rfl, hmappings, rfl⟩
          · rename_i hcomponents
            obtain ⟨hbase, hpublishers, hservers, hsubscriptions⟩ :=
              startComponents_parts setup hcomponents
            refine .inr ⟨trivial, rfl, ?_, hpublishers, hservers, ?_⟩
            · exact congrArg (GatewayBase.setRunning · true) hbase
            · dsimp only
              rw [hsubscriptions]
              rfl

/-- `start()` brings the gateway up and says so, or leaves it down and says so. -/
theorem start_cases (outcome : StartOutcome) (gw : Iceoryx2Gateway) (subscribed : EventgroupSet)
    (hbefore : AllOrNothing setup gw) :
    ((start setup outcome gw subscribed).1 = .success ∧
        Up setup (start setup outcome gw subscribed).2.1) ∨
      ((start setup outcome gw subscribed).1 ≠ .success ∧
        Down (start setup outcome gw subscribed).2.1) := by
  rcases hbefore with hup | hdown
  · left
    simp only [start, hup.running, ↓reduceIte]
    exact ⟨trivial, hup⟩
  simp only [start, hdown.running, Bool.false_eq_true, ↓reduceIte]
  cases hsubscriber : outcome.subscriber with
  | false =>
      -- the exit that cleans up by hand; nothing else has been created yet
      right
      simp only [Bool.not_false, ↓reduceIte]
      exact ⟨by decide, hdown.running, rfl, hdown.publishers, hdown.rpcClient, hdown.rpcServers,
        hdown.sdClient, hdown.sdServer, hdown.udpTransport, hdown.udpListener, rfl⟩
  | true =>
      simp only [Bool.not_true, Bool.false_eq_true, ↓reduceIte]
      split
      · right
        exact ⟨(startComponents_error setup ‹_›).1, stop_down _⟩
      · left
        exact ⟨rfl, startComponents_up setup rfl ‹_›⟩

theorem start_success_iff (outcome : StartOutcome) (gw : Iceoryx2Gateway)
    (subscribed : EventgroupSet) (hbefore : AllOrNothing setup gw) :
    (start setup outcome gw subscribed).1 = .success ↔
      Up setup (start setup outcome gw subscribed).2.1 := by
  rcases start_cases setup outcome gw subscribed hbefore with ⟨hresult, hup⟩ | ⟨hresult, hdown⟩
  · exact ⟨fun _ => hup, fun _ => hresult⟩
  · constructor
    · intro h
      exact absurd h hresult
    · intro hup
      have hrunning := hup.running
      rw [hdown.running] at hrunning
      contradiction

theorem step_allOrNothing (gw : Iceoryx2Gateway) (input : Input) (h : AllOrNothing setup gw) :
    AllOrNothing setup (step setup gw input).1 := by
  cases input with
  | start outcome subscribed =>
      rcases start_cases setup outcome gw subscribed h with ⟨-, hup⟩ | ⟨-, hdown⟩
      · exact .inl hup
      · exact .inr hdown
  | stop => exact .inr (stop_down gw)
  | addServiceMapping mapping => exact h.of_parts setup rfl rfl
  | setIceoryx2OutboundHook installed => exact h.of_parts setup rfl rfl
  | setExternalMessageCallback installed => exact h.of_parts setup rfl rfl
  | serviceFound =>
      simp only [step]
      split_ifs
      · exact h.of_parts setup rfl rfl
      · exact h
  | someipMessage msg => exact (step_handled setup gw rfl).allOrNothing setup h
  | datagram message => exact (step_handled setup gw rfl).allOrNothing setup h
  | rpcServerCall serviceId method clientId sessionId params =>
      exact (step_handled setup gw rfl).allOrNothing setup h
  | notification subscription n => exact (step_handled setup gw rfl).allOrNothing setup h
  | sample name sample answer => exact (step_handled setup gw rfl).allOrNothing setup h

theorem new_gateway_down : Down {} :=
  ⟨rfl, rfl, fun _ => rfl, rfl, fun _ => rfl, rfl, rfl, rfl, rfl, rfl⟩

/-- The answer of a `start()` tells which of the two it left behind. -/
def AnswersTruthfully (gw : Iceoryx2Gateway) : Input → Prop
  | .start outcome subscribed =>
      (start setup outcome gw subscribed).1 = .success ↔
        Up setup (start setup outcome gw subscribed).2.1
  | _ => True

/-- Along every run of a new gateway, whichever of its calls fail: each state is
up or down, and `start()` answers `SUCCESS` exactly when it leaves it up. -/
theorem lifecycle_all_or_nothing (inputs : List Input) :
    Machine.Always (step setup) (AllOrNothing setup) {} inputs ∧
      Machine.Along (step setup) (AnswersTruthfully setup) {} inputs := by
  have halways := Machine.always_of_invariant (step setup) (step_allOrNothing setup) {} inputs
    (.inr new_gateway_down)
  refine ⟨halways, halways.along ?_⟩
  intro gw input hgood
  cases input with
  | start outcome subscribed => exact start_success_iff setup outcome gw subscribed hgood
  | _ => trivial

end

end SomeipGateway.Iceoryx2
