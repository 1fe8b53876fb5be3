import SomeipGateway.Zenoh.Gateway

/-! Direction confinement: which inputs make the gateway act through a mapping
against the mapping's direction. Event-group callbacks publish without asking,
and queryables are declared for the mappings that point the other way. -/
namespace SomeipGateway.Zenoh

open Lib

/-- A put goes through a mapping toward Zenoh, a datagram or an RPC call through
a mapping toward SOME/IP. -/
def Output.Confined : Output → Prop
  | .put _ _ _ via => via.direction = .someipToExternal ∨ via.direction = .bidirectional
  | .sendMessage _ _ via => via.direction = .externalToSomeip ∨ via.direction = .bidirectional
  | .callMethodSync _ _ _ via =>
      via.direction = .externalToSomeip ∨ via.direction = .bidirectional
  | .reply _ _ => True
  | .rpcReturn _ => True
  | .findService _ => True
  | .threw => True

section

variable {σ κ : Type} (setup : Setup σ κ)

/-- The condition on one input: a notification that reaches its callback finds
no mapping toward SOME/IP only, and a query that gets as far as the RPC client
was answered by a queryable of no mapping toward Zenoh only. -/
def Permitted (gw : ZenohGateway σ) : Input → Prop
  | .notification n =>
      gw.subscribed n = true → gw.session = true →
        ∀ m, findMappingInstance gw.base.serviceMappings n.serviceId n.instanceId = some m →
          m.direction ≠ .externalToSomeip
  | .query queryable _ payload _ =>
      queryable ∈ gw.zenohQueryables → gw.rpcClient.isSome = true →
        (decodePayload gw.encoding (payload.getD []) {}).isOk = true →
          queryable.via.direction ≠ .someipToExternal
  | _ => True

theorem publishToZenoh_confined (gw : ZenohGateway σ) (msg : Message) (mapping : ServiceMapping) :
    (∀ out ∈ publishToZenoh setup gw msg mapping, out.Confined) ↔
      (gw.session = true → mapping.direction ≠ .externalToSomeip) := by
  cases hsession : gw.session with
  | false => simp [publishToZenoh, hsession]
  | true =>
      simp [publishToZenoh, hsession, Output.Confined, ← shouldForwardToExternal_iff,
        shouldForwardToExternal_iff_ne]

theorem onSomeipMessage_confined (gw : ZenohGateway σ) (msg : Message) :
    ∀ out ∈ (onSomeipMessage setup gw msg).2.2, out.Confined := by
  simp only [onSomeipMessage]
  split
  · simp
  · rename_i mapping _
    by_cases hforward : shouldForwardToExternal mapping = true
    · simp only [hforward, Bool.not_true, Bool.false_eq_true, ↓reduceIte]
      rw [publishToZenoh_confined]
      exact fun _ => shouldForwardToExternal_iff_ne.mp hforward
    · simp [hforward]

theorem onMessageReceived_confined (gw : ZenohGateway σ) (message : Option Message)
    (sender : Endpoint) : ∀ out ∈ (onMessageReceived setup gw message sender).2, out.Confined := by
  cases message with
  | none => simp [onMessageReceived]
  | some msg =>
      simp only [onMessageReceived]
      split_ifs
      · simp
      · exact onSomeipMessage_confined setup _ msg
      · exact onSomeipMessage_confined setup _ msg

theorem rpcServerHandler_confined (gw : ZenohGateway σ) (methodId clientId sessionId : UInt16)
    (params : Bytes) :
    ∀ out ∈ rpcServerHandler setup gw methodId clientId sessionId params, out.Confined := by
  simp only [rpcServerHandler, List.forall_mem_append]
  refine ⟨?_, by simp [Output.Confined]⟩
  split
  · simp
  · split_ifs with hforward
    · rw [publishToZenoh_confined]
      exact fun _ => shouldForwardToExternal_iff_ne.mp hforward
    · simp

theorem onZenohSample_confined (gw : ZenohGateway σ) (key : Text) (payload : Bytes) :
    ∀ out ∈ (onZenohSample setup gw key payload).2, out.Confined := by
  rw [onZenohSample_eq]
  cases hroute : routeSample setup gw.encoding gw.base.serviceMappings key payload with
  | none => simp
  | some routed =>
      obtain ⟨mapping, _ | msg⟩ := routed
      · simp [Output.Confined]
      · have hforward := shouldForwardToSomeip_of_routeSample setup hroute
        have hvia := shouldForwardToSomeip_iff.mp hforward
        cases hudp : gw.udp with
        | none => simp [sendSomeipUdp]
        | some udp => simpa [sendSomeipUdp, Output.Confined] using hvia

theorem notificationCallback_confined (gw : ZenohGateway σ) (n : EventNotification) :
    (∀ out ∈ notificationCallback setup gw n, out.Confined) ↔
      (gw.session = true →
        ∀ m, findMappingInstance gw.base.serviceMappings n.serviceId n.instanceId = some m →
          m.direction ≠ .externalToSomeip) := by
  unfold notificationCallback
  cases hfind : findMappingInstance gw.base.serviceMappings n.serviceId n.instanceId with
  | none => simp
  | some m =>
      dsimp only
      rw [publishToZenoh_confined]
      simp

theorem handleRpcQuery_confined (gw : ZenohGateway σ) (queryable : Queryable) (key : Text)
    (payload : Option Bytes) (answer : RpcSyncResult) :
    (∀ out ∈ handleRpcQuery setup gw queryable key payload answer, out.Confined) ↔
      (gw.rpcClient.isSome = true → (decodePayload gw.encoding (payload.getD []) {}).isOk = true →
        queryable.via.direction ≠ .someipToExternal) := by
  simp only [handleRpcQuery]
  cases hdecode : decodePayload gw.encoding (payload.getD []) {} with
  | error e => simp [Output.Confined, Except.isOk, Except.toBool]
  | ok decoded =>
      cases hclient : gw.rpcClient with
      | none => simp [Output.Confined]
      | some client =>
          simp [Output.Confined, Except.isOk, Except.toBool, ← shouldForwardToSomeip_iff,
            shouldForwardToSomeip_iff_ne]

theorem step_confined_iff (gw : ZenohGateway σ) (input : Input) :
    (∀ out ∈ (step setup gw input).2, out.Confined) ↔ Permitted gw input := by
  cases input with
  | start outcome => simp [step, Permitted]
  | stop => simp [step, Permitted]
  | addServiceMapping mapping => simp [step, Permitted]
  | datagram message sender =>
      simpa [step, Permitted] using onMessageReceived_confined setup gw message sender
  | someipMessage msg => simpa [step, Permitted] using onSomeipMessage_confined setup gw msg
  | rpcServerCall methodId clientId sessionId params =>
      have hconfined := rpcServerHandler_confined setup gw methodId clientId sessionId params
      simp only [step, Permitted, iff_true]
      split_ifs
      · exact hconfined
      · simp
  | notification n =>
      simp only [step, Permitted, ← notificationCallback_confined setup gw n]
      split_ifs with hsubscribed <;> simp [hsubscribed]
  | sample key payload => simpa [step, Permitted] using onZenohSample_confined setup gw key payload
  | livelinessSample key putOrDelete =>
      simp only [step, Permitted, onLivelinessSample, iff_true]
      split_ifs <;> simp [Output.Confined]
  | query queryable key payload answer =>
      simp only [step, Permitted,
        ← handleRpcQuery_confined setup gw queryable key payload answer]
      split_ifs with hdeclared <;> simp [hdeclared]

/-- A run respects the directions exactly when all its inputs are permitted in
the states in which they arrive. -/
theorem run_confined_iff (gw : ZenohGateway σ) (inputs : List Input) :
    (∀ out ∈ (Machine.run (step setup) gw inputs).2, out.Confined) ↔
      Machine.Along (step setup) Permitted gw inputs :=
  Machine.forall_output_iff (step setup) (step_confined_iff setup) gw inputs

end

/-! ### Both leaks on a started gateway -/

def actuatorMapping : ServiceMapping where
  someipServiceId := 0x2000
  someipInstanceId := 0x0001
  someipEventGroupIds := [0x0001]
  direction := .externalToSomeip

def sensorMapping : ServiceMapping where
  someipServiceId := 0x3000
  someipInstanceId := 0x0001
  someipMethodIds := [0x0007]
  direction := .someipToExternal

/-- The actuator's event reaches Zenoh, and a Zenoh query calls the sensor. -/
theorem started_gateway_leaks :
    let started := start plainSetup {} (fresh plainSetup [actuatorMapping, sensorMapping] ())
    let key := buildRpcKey (Text.ascii "someip") 0x3000 0x0001 0x0007
    let event : Input := .notification
      { serviceId := 0x2000, instanceId := 0x0001, eventId := 0x8001, eventData := [1] }
    let query : Input := .query
      { key, serviceId := 0x3000, methodId := 0x0007, via := sensorMapping } key (some [2])
      { success := true, returnValues := [] }
    started.1 = some .success ∧
      ¬ (∀ out ∈ (Machine.run (step plainSetup) started.2 [event]).2, out.Confined) ∧
      ¬ (∀ out ∈ (Machine.run (step plainSetup) started.2 [query]).2, out.Confined) := by
  refine ⟨rfl, ?_, ?_⟩
  · intro h
    have hput := h (.put (buildKeyExpr (Text.ascii "someip") 0x2000 0x0001 0x8001) [1] false
      actuatorMapping) (by decide)
    exact absurd hput (by simp [Output.Confined, actuatorMapping])
  · intro h
    have hcall := h (.callMethodSync 0x3000 0x0007 [2] sensorMapping) (by decide)
    exact absurd hcall (by simp [Output.Confined, sensorMapping])

end SomeipGateway.Zenoh
