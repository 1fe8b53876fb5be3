import SomeipGateway.Iceoryx2.Lifecycle

/-! Two gateways back to back: the event one of them hands to its outbound hook
is published unchanged by the other. The sender guesses an instance, the
receiver looks the guessed instance up again, and the publisher table was built
by a loop of its own; all three agree on the mapping that was chosen. -/
namespace SomeipGateway.Iceoryx2

open Lib

/-! ### Lookup -/

theorem findMappingForService_self {mappings : List ServiceMapping}
    {serviceId instanceId : UInt16} {m : ServiceMapping}
    (h : findMappingForService mappings serviceId instanceId = some m) :
    findMappingForService mappings serviceId m.someipInstanceId = some m := by
  obtain ⟨-, -, hinstance⟩ := findMappingForService_some h
  rw [hinstance]
  exact h

theorem findMappingForService_of_mappingForMessage {mappings : List ServiceMapping}
    {serviceId : UInt16} {m : ServiceMapping}
    (h : mappingForMessage mappings serviceId = some m) :
    findMappingForService mappings serviceId m.someipInstanceId = some m := by
  unfold mappingForMessage at h
  split at h
  · cases h
    exact findMappingForService_self ‹_›
  · split at h
    · cases h
      exact findMappingForService_self ‹_›
    · unfold findMappingOfService at h
      split at h
      · contradiction
      · exact findMappingForService_self h

/-! ### The publisher table -/

def Covers (publishers : Publishers) (mappings : List ServiceMapping) : Prop :=
  ∀ m ∈ mappings, shouldForwardToSomeip m = true →
    (publishers (makeKey m.someipServiceId m.someipInstanceId)).isSome = true

theorem addEventPublisher_some {outcome : StartOutcome} {publishers publishers' : Publishers}
    {turn : ServiceMapping × Nat}
    (h : addEventPublisher outcome publishers turn = .ok publishers') :
    (∀ key, (publishers key).isSome = true → (publishers' key).isSome = true) ∧
      Covers publishers' [turn.1] := by
  obtain ⟨m, position⟩ := turn
  have hupdate (publisher : EventPublisher) :
      (∀ key, (publishers key).isSome = true → (Function.update publishers
        (makeKey m.someipServiceId m.someipInstanceId) (some publisher) key).isSome = true) ∧
      Covers (Function.update publishers
        (makeKey m.someipServiceId m.someipInstanceId) (some publisher)) [m] := by
    constructor
    · intro key hkey
      rw [Function.update_apply]
      split_ifs
      · rfl
      · exact hkey
    · intro m' hm' _
      rw [List.mem_singleton.mp hm', Function.update_self]
      rfl
  simp only [addEventPublisher] at h
  cases hforward : shouldForwardToSomeip m with
  | false =>
      simp only [hforward, Bool.not_false, ↓reduceIte, Except.ok.injEq] at h
      subst h
      refine ⟨fun key hkey => hkey, fun m' hm' hforward' => ?_⟩
      rw [List.mem_singleton.mp hm', hforward] at hforward'
      contradiction
  | true =>
      simp only [hforward, Bool.not_true, Bool.false_eq_true, ↓reduceIte] at h
      split at h
      · cases h
        exact hupdate _
      · split_ifs at h
        cases h
        exact hupdate _

theorem foldlM_addEventPublisher {outcome : StartOutcome} {turns : List (ServiceMapping × Nat)}
    {publishers publishers' : Publishers}
    (h : turns.foldlM (addEventPublisher outcome) publishers = .ok publishers') :
    (∀ key, (publishers key).isSome = true → (publishers' key).isSome = true) ∧
      Covers publishers' (turns.map Prod.fst) := by
  induction turns generalizing publishers with
  | nil =>
      cases h
      exact ⟨fun key hkey => hkey, fun m hm => absurd hm List.not_mem_nil⟩
  | cons turn turns ih =>
      rw [List.foldlM_cons] at h
      obtain ⟨middle, hturn, hturns⟩ := Phases.bind_eq_ok.mp h
      obtain ⟨hkeeps, hcovers⟩ := addEventPublisher_some hturn
      obtain ⟨hkeeps', hcovers'⟩ := ih hturns
      refine ⟨fun key hkey => hkeeps' key (hkeeps key hkey), ?_⟩
      intro m hm hforward
      rw [List.map_cons] at hm
      rcases List.mem_cons.mp hm with rfl | hm
      · exact hkeeps' _ (hcovers _ List.mem_cons_self hforward)
      · exact hcovers' m hm hforward

/-! ### Every running gateway has its publishers -/

def Ready (gw : Iceoryx2Gateway) : Prop :=
  gw.base.running = true → Covers gw.eventPublishers gw.base.serviceMappings

theorem Handled.ready {before after : Iceoryx2Gateway} (h : Handled before after)
    (hready : Ready before) : Ready after := by
  intro hrun
  rw [h.mappings, h.frame]
  exact hready (h.running ▸ hrun)

theorem ready_of_stopped {gw : Iceoryx2Gateway} (h : gw.base.running = false) : Ready gw := by
  intro hrun
  rw [h] at hrun
  contradiction

section

variable (setup : Setup)

theorem start_ready (outcome : StartOutcome) (subscribed : EventgroupSet) {gw : Iceoryx2Gateway}
    (hready : Ready gw) : Ready (start setup outcome gw subscribed).2.1 := by
  obtain ⟨-, heq⟩ | ⟨-, -, hgaveUp⟩ | ⟨-, -, hstarted⟩ := start_parts setup outcome gw subscribed
  · rw [heq]
    exact hready
  · exact ready_of_stopped hgaveUp.running
  · intro _
    have hcovers := (foldlM_addEventPublisher hstarted.publishers).2
    rw [List.zipIdx_map_fst] at hcovers
    rw [hstarted.base, GatewayBase.setRunning_serviceMappings]
    exact hcovers

def MappingsFixed (gw : Iceoryx2Gateway) : Input → Prop
  | .addServiceMapping _ => gw.base.running = false
  | _ => True

theorem step_ready (gw : Iceoryx2Gateway) (input : Input) (hready : Ready gw)
    (hfixed : MappingsFixed gw input) : Ready (step setup gw input).1 := by
  cases input with
  | start outcome subscribed => exact start_ready setup outcome subscribed hready
  | stop => exact ready_of_stopped rfl
  | addServiceMapping mapping => exact ready_of_stopped hfixed
  | setIceoryx2OutboundHook installed => exact hready
  | setExternalMessageCallback installed => exact hready
  | serviceFound =>
      simp only [step]
      split_ifs
      · exact hready
      · exact hready
  | someipMessage msg => exact (step_handled setup gw rfl).ready hready
  | datagram message => exact (step_handled setup gw rfl).ready hready
  | rpcServerCall serviceId method clientId sessionId params =>
      exact (step_handled setup gw rfl).ready hready
  | notification subscription n => exact (step_handled setup gw rfl).ready hready
  | sample name sample answer => exact (step_handled setup gw rfl).ready hready

/-- Some run in which the mapping list is fixed while the gateway is running
leads a newly constructed gateway to this state. -/
def Reachable (gw : Iceoryx2Gateway) : Prop :=
  ∃ inputs, Machine.Along (step setup) MappingsFixed {} inputs ∧
    gw = (Machine.run (step setup) {} inputs).1

theorem Reachable.ready {gw : Iceoryx2Gateway} (h : Reachable setup gw) : Ready gw := by
  obtain ⟨inputs, hfixed, rfl⟩ := h
  apply Machine.run_invariant_along (step setup) (step_ready setup) _ inputs _ hfixed
  exact ready_of_stopped rfl

/-! ### Across two gateways -/

theorem onSomeipMessage_notification {gw : Iceoryx2Gateway} (hrun : gw.base.running = true)
    {msg : Message} (htype : msg.messageType = .notification) {m : ServiceMapping}
    (hm : mappingForMessage gw.base.serviceMappings msg.serviceId = some m)
    (hforward : shouldForwardToExternal m = true) :
    onSomeipMessage setup gw msg = (.success, bridgeSomeipToExternal setup gw msg m 'N') := by
  simp only [onSomeipMessage, hrun, hm, hforward, htype, bridgePubSubSomeipToExternal,
    Bool.not_true, Bool.false_eq_true, ↓reduceIte]

/-- A notification envelope for an inbound mapping of a ready gateway is
published on the publisher of its instance. -/
theorem bridgeExternalToSomeip_notification {gw : Iceoryx2Gateway} (hready : Ready gw)
    (hrun : gw.base.running = true) (env : Iceoryx2Envelope)
    (htype : env.messageType = .notification) {m : ServiceMapping}
    (hm : findMappingForService gw.base.serviceMappings env.serviceId env.instanceId = some m)
    (hforward : shouldForwardToSomeip m = true) (answer : RpcSyncResult) :
    bridgeExternalToSomeip setup gw env answer =
      ({ gw with base := gw.base.recordExternalToSomeip (envelopeToSomeip env).payload.length },
        [.publishEvent (makeKey env.serviceId env.instanceId) env.methodOrEventId
          (envelopeToSomeip env).payload]) := by
  obtain ⟨hmem, hservice, hinstance⟩ := findMappingForService_some hm
  have hpublisher := hready hrun m hmem hforward
  rw [hservice, hinstance] at hpublisher
  obtain ⟨publisher, hpublisher⟩ := Option.isSome_iff_exists.mp hpublisher
  have hmapping : mappingForEnvelope gw.base.serviceMappings env = some m := by
    simp only [mappingForEnvelope, hm]
  simp only [bridgeExternalToSomeip, hmapping, hforward, htype, publishIncomingEvent, hpublisher,
    Bool.not_true, Bool.false_eq_true, ↓reduceIte]

end

/-- What `a` hands to its outbound hook for a notification makes `b` publish the
same event on the publisher of the mapping `a` chose, and both count it once. -/
theorem event_relayed_unchanged (setupA setupB : Setup) (hwire : setupA.wire.Lawful)
    (hsame : setupB.wire = setupA.wire) (a b : Iceoryx2Gateway)
    (harun : a.base.running = true) (hhook : a.outboundHook = true)
    (hb : Reachable setupB b) (hbrun : b.base.running = true)
    (hmappings : b.base.serviceMappings = a.base.serviceMappings)
    (msg : Message) (htype : msg.messageType = .notification)
    (hpayload : msg.payload.length ≤ 16 * 1024 * 1024) (m : ServiceMapping)
    (hm : mappingForMessage a.base.serviceMappings msg.serviceId = some m)
    (hdirection : m.direction = .bidirectional) (hmode : m.mode = .opaqueMode)
    (answer : RpcSyncResult) :
    ∃ name sample, ∃ a' b' : Iceoryx2Gateway,
      onSomeipMessage setupA a msg = (.success, a', [.published name sample m true]) ∧
      injectIceoryx2Sample setupB b name sample answer =
        (b', .publishEvent (makeKey msg.serviceId m.someipInstanceId) msg.methodId msg.payload ::
          if b.externalMessageCallback then
            [.externalMessage msg.serviceId msg.methodId msg.payload]
          else []) ∧
      a'.base.stats.messagesSomeipToExternal = a.base.stats.messagesSomeipToExternal + 1 ∧
      a'.base.stats.translationErrors = a.base.stats.translationErrors ∧
      b'.base.stats.messagesExternalToSomeip = b.base.stats.messagesExternalToSomeip + 1 ∧
      b'.base.stats.translationErrors = b.base.stats.translationErrors := by
  have hout := shouldForwardToExternal_iff.mpr (.inr hdirection)
  have hin := shouldForwardToSomeip_iff.mpr (.inr hdirection)
  have hexact := findMappingForService_of_mappingForMessage hm
  rw [← hmappings] at hexact
  have hsent := onSomeipMessage_notification setupA harun htype hm hout
  have hparse := parseSample_someipToSample hwire msg m.someipInstanceId hpayload
  have hreceived := bridgeExternalToSomeip_notification setupB hb.ready hbrun
    (messageEnvelope msg m.someipInstanceId .opaqueMode) htype hexact hin answer
  refine ⟨buildIceoryx2ServiceName setupA.config.serviceNamePrefix m.someipServiceId
      m.someipInstanceId msg.methodId 'N'.toUInt8,
    someipToSample setupA.wire msg m.someipInstanceId .opaqueMode,
    (bridgeSomeipToExternal setupA a msg m 'N').1,
    { b with base := b.base.recordExternalToSomeip msg.payload.length }, ?_, ?_, ?_, ?_, rfl, rfl⟩
  · rw [hsent, bridgeSomeipToExternal, publishTowardIceoryx2, hhook, hmode]
  · rw [injectIceoryx2Sample, hsame, hparse]
    simp only [handleIncomingEnvelope, hreceived]
    rfl
  · simp only [bridgeSomeipToExternal, publishTowardIceoryx2, hout, ↓reduceIte]
    rfl
  · simp only [bridgeSomeipToExternal, publishTowardIceoryx2, hout, ↓reduceIte]
    rfl

/-- The event goes through this mapping, although it is neither the service's
first nor the only one of its instance. -/
def lidarMapping : ServiceMapping :=
  { someipServiceId := 0x5000, someipInstanceId := 0x0000, someipMethodIds := [0x8001] }

def lidarMappings : List ServiceMapping :=
  [{ someipServiceId := 0x5000, someipInstanceId := 0x0002, direction := .someipToExternal },
    lidarMapping,
    { someipServiceId := 0x5000, someipInstanceId := 0x0000, direction := .externalToSomeip }]

def lidarSetup : Setup where
  config := {}
  cls := .exact
  wire := .bigEndian

def lidarInputs : List Input :=
  lidarMappings.map .addServiceMapping ++ [.setIceoryx2OutboundHook true, .start {} []]

def lidarGateway : Iceoryx2Gateway := (Machine.run (step lidarSetup) {} lidarInputs).1

theorem lidarGateway_reachable : Reachable lidarSetup lidarGateway :=
  ⟨lidarInputs, ⟨rfl, rfl, rfl, trivial, trivial, trivial⟩, rfl⟩

theorem event_relayed_unchanged_lidar :
    let event : Message :=
      { serviceId := 0x5000, methodId := 0x8001, messageType := .notification
        payload := [1, 2, 3] }
    ∃ name sample, ∃ a' b' : Iceoryx2Gateway,
      onSomeipMessage lidarSetup lidarGateway event =
        (.success, a', [.published name sample lidarMapping true]) ∧
      injectIceoryx2Sample lidarSetup lidarGateway name sample ⟨true, []⟩ =
        (b', [.publishEvent (makeKey 0x5000 0x0000) 0x8001 [1, 2, 3]]) ∧
      a'.base.stats.messagesSomeipToExternal = 1 ∧
      b'.base.stats.messagesExternalToSomeip = 1 := by
  intro event
  obtain ⟨name, sample, a', b', hsent, hreceived, hcountA, -, hcountB, -⟩ :=
    event_relayed_unchanged lidarSetup lidarSetup WireFormat.bigEndian_lawful rfl
      lidarGateway lidarGateway rfl rfl lidarGateway_reachable rfl rfl event rfl (by decide)
      lidarMapping (by decide) rfl rfl ⟨true, []⟩
  exact ⟨name, sample, a', b', hsent, hreceived, hcountA, hcountB⟩

end SomeipGateway.Iceoryx2
