import SomeipGateway.Iceoryx2.StartUp

/-! Direction confinement toward iceoryx2. A message is tested when it arrives
and a subscription when it is made; the methods of the RPC servers are registered
for every mapping and publish without a test. -/
namespace SomeipGateway.Iceoryx2

open Lib

/-- The inputs that originate on the SOME/IP side. -/
def Input.fromSomeip : Input → Bool
  | .someipMessage _ => true
  | .datagram _ => true
  | .rpcServerCall _ _ _ _ _ => true
  | .notification _ _ => true
  | _ => false

/-- Nothing is published toward iceoryx2 through a mapping that only goes the
other way. -/
def Output.Confined : Output → Prop
  | .published _ _ via _ => via.direction ≠ .externalToSomeip
  | _ => True

/-- A call does not reach a method that was registered for such a mapping. -/
def CallsOutbound (gw : Iceoryx2Gateway) : Input → Prop
  | .rpcServerCall serviceId method _ _ _ =>
      ((gw.rpcServers serviceId).any fun server => method ∈ server.methods) = true →
        method.mapping.direction ≠ .externalToSomeip
  | _ => True

/-! ### Subscriptions -/

/-- Every subscription was made for a mapping toward iceoryx2. -/
def SubscribesOutbound (gw : Iceoryx2Gateway) : Prop :=
  ∀ subscriber, gw.eventSubscriber = some subscriber →
    ∀ subscription ∈ subscriber.subscriptions,
      shouldForwardToExternal subscription.mapping = true

theorem wanted_outbound {mappings : List ServiceMapping} {subscription : Subscription}
    (h : subscription ∈ wanted mappings) : shouldForwardToExternal subscription.mapping = true := by
  obtain ⟨m, hm, hsubscription⟩ := List.mem_flatMap.mp h
  obtain ⟨eg, -, rfl⟩ := List.mem_map.mp hsubscription
  exact (List.mem_filter.mp hm).2

section

variable (setup : Setup)

theorem Started.subscribesOutbound {outcome : StartOutcome} {before after : Iceoryx2Gateway}
    (h : Started outcome before after) : SubscribesOutbound after := by
  intro subscriber hsubscriber subscription hmem
  have hsubscriptions := subscriptionsOf_started h
  unfold subscriptionsOf at hsubscriptions
  rw [hsubscriber, Option.map_some, Option.getD_some] at hsubscriptions
  rw [hsubscriptions] at hmem
  rcases Registry.mem_foldl_takeOnce _ _ _ hmem with hnone | hwanted
  · cases hnone
  · exact wanted_outbound hwanted

theorem start_subscribesOutbound (outcome : StartOutcome) (subscribed : EventgroupSet)
    {gw : Iceoryx2Gateway} (h : SubscribesOutbound gw) :
    SubscribesOutbound (start setup outcome gw subscribed).2.1 := by
  obtain ⟨-, heq⟩ | ⟨-, -, hgaveUp⟩ | ⟨-, -, hstarted⟩ := start_parts setup outcome gw subscribed
  · rw [heq]
    exact h
  · intro subscriber hsubscriber
    rw [hgaveUp.subscriber] at hsubscriber
    cases hsubscriber
  · exact hstarted.subscribesOutbound

theorem Handled.subscribesOutbound {before after : Iceoryx2Gateway} (h : Handled before after)
    (hbefore : SubscribesOutbound before) : SubscribesOutbound after := by
  unfold SubscribesOutbound
  rw [h.frame]
  exact hbefore

theorem step_subscribesOutbound (gw : Iceoryx2Gateway) (input : Input)
    (h : SubscribesOutbound gw) : SubscribesOutbound (step setup gw input).1 := by
  cases input with
  | start outcome subscribed => exact start_subscribesOutbound setup outcome subscribed h
  | stop => exact fun _ hsubscriber => nomatch hsubscriber
  | serviceFound =>
      simp only [step]
      split_ifs
      · exact h
      · exact h
  | addServiceMapping mapping => exact h
  | setIceoryx2OutboundHook installed => exact h
  | setExternalMessageCallback installed => exact h
  | someipMessage msg => exact (step_handled setup gw rfl).subscribesOutbound h
  | datagram message => exact (step_handled setup gw rfl).subscribesOutbound h
  | rpcServerCall serviceId method clientId sessionId params =>
      exact (step_handled setup gw rfl).subscribesOutbound h
  | notification subscription n => exact (step_handled setup gw rfl).subscribesOutbound h
  | sample name sample answer => exact (step_handled setup gw rfl).subscribesOutbound h

/-! ### The handlers -/

theorem bridgeSomeipToExternal_confined_iff (gw : Iceoryx2Gateway) (msg : Message)
    (mapping : ServiceMapping) (kind : Char) :
    (∀ out ∈ (bridgeSomeipToExternal setup gw msg mapping kind).2, out.Confined) ↔
      mapping.direction ≠ .externalToSomeip :=
  List.forall_mem_singleton

theorem onSomeipMessage_confined (gw : Iceoryx2Gateway) (msg : Message) :
    ∀ out ∈ (onSomeipMessage setup gw msg).2.2, out.Confined := by
  unfold onSomeipMessage
  cases mappingForMessage gw.base.serviceMappings msg.serviceId with
  | none =>
      dsimp only
      split_ifs <;> simp
  | some m =>
      dsimp only
      split_ifs with hstopped hforward
      · simp
      · simp
      all_goals
        rw [Bool.not_eq_true', Bool.not_eq_false] at hforward
        exact (bridgeSomeipToExternal_confined_iff setup gw msg m _).mpr
          (shouldForwardToExternal_iff_ne.mp hforward)

/-- What the gateway does for an input from the SOME/IP side. -/
def someipView (gw : Iceoryx2Gateway) (input : Input) : List Output :=
  if input.fromSomeip then (step setup gw input).2 else []

theorem someipView_confined_iff (gw : Iceoryx2Gateway) (input : Input)
    (h : SubscribesOutbound gw) :
    (∀ out ∈ someipView setup gw input, out.Confined) ↔ CallsOutbound gw input := by
  unfold someipView
  cases input with
  | someipMessage msg =>
      exact iff_of_true (onSomeipMessage_confined setup gw msg) trivial
  | datagram message =>
      refine iff_of_true ?_ trivial
      cases message with
      | none => exact List.forall_mem_nil _
      | some msg =>
          simp only [Input.fromSomeip, ↓reduceIte, step]
          split_ifs
          · exact onSomeipMessage_confined setup gw msg
          · exact List.forall_mem_nil _
  | rpcServerCall serviceId method clientId sessionId params =>
      simp only [Input.fromSomeip, ↓reduceIte, step, CallsOutbound]
      split_ifs with hregistered
      · rw [rpcServerHandler, bridgeSomeipToExternal_confined_iff]
        exact ⟨fun hdirection _ => hdirection, fun hdirection => hdirection hregistered⟩
      · exact iff_of_true (List.forall_mem_nil _) fun hbad => absurd hbad hregistered
  | notification subscription n =>
      refine iff_of_true ?_ trivial
      simp only [Input.fromSomeip, ↓reduceIte, step]
      split_ifs with hsubscribed
      · obtain ⟨subscriber, hsubscriber, hmem⟩ := (Option.any_eq_true _ _).mp hsubscribed
        have hforward := h subscriber hsubscriber subscription (of_decide_eq_true hmem)
        exact (bridgeSomeipToExternal_confined_iff setup gw _ _ _).mpr
          (shouldForwardToExternal_iff_ne.mp hforward)
      · exact List.forall_mem_nil _
  | _ => exact iff_of_true (List.forall_mem_nil _) trivial

/-- Along every run of a new gateway, whatever its mappings: nothing from the
SOME/IP side is published through a mapping that only goes the other way,
exactly if no call reaches a method registered for such a mapping. -/
theorem published_confined_iff (inputs : List Input) :
    (∀ out ∈ (Machine.run (Machine.observe (step setup) (someipView setup)) {} inputs).2,
        out.Confined) ↔
      Machine.Along (step setup) CallsOutbound {} inputs := by
  have hobserved := Machine.forall_output_iff_of_invariant
    (Machine.observe (step setup) (someipView setup)) SubscribesOutbound
    (step_subscribesOutbound setup) (someipView_confined_iff setup) {} inputs
    fun _ hsubscriber => nomatch hsubscriber
  rw [hobserved, Machine.along_observe]

end

def actuatorMapping : ServiceMapping where
  someipServiceId := 0x2000
  someipInstanceId := 0x0001
  someipMethodIds := [0x0007]
  direction := .externalToSomeip

def actuatorRequest : Message where
  serviceId := 0x2000
  methodId := 0x0007
  clientId := 0x0001
  sessionId := 0x0001
  payload := [1]

/-- The actuator only takes commands from iceoryx2, yet a SOME/IP call of its
method is published there. -/
theorem actuator_call_published :
    ¬ ∀ inputs : List Input,
      ∀ out ∈ (Machine.run (Machine.observe (step radarSetup) (someipView radarSetup)) {}
        inputs).2, out.Confined := by
  intro h
  have hpublished := h [.addServiceMapping actuatorMapping, .start {} [],
      .rpcServerCall 0x2000 ⟨0x0007, actuatorMapping⟩ 0x0001 0x0001 [1]]
    (.published (buildIceoryx2ServiceName (Text.ascii "someip") 0x2000 0x0001 0x0007
        'R'.toUInt8)
      (someipToSample .bigEndian actuatorRequest 0x0001 .opaqueMode) actuatorMapping false)
    (by decide)
  exact hpublished rfl

end SomeipGateway.Iceoryx2
