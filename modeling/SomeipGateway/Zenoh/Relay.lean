import SomeipGateway.Zenoh.Gateway

/-! Two gateways back to back: what one publishes for a notification, the other
turns into the same notification. -/
namespace SomeipGateway.Zenoh

open Lib

section

variable {σ κ : Type} (setup : Setup σ κ)

structure Consistent (gw : ZenohGateway σ) : Prop where
  encoding : gw.encoding = setup.config.payloadEncoding
  session : gw.base.running = true → gw.session = true
  udp : gw.base.running = true → setup.config.enableUdpTransport = true → gw.udp.isSome = true

def Reachable (gw : ZenohGateway σ) : Prop :=
  ∃ mappings e2e inputs, gw = (Machine.run (step setup) (fresh setup mappings e2e) inputs).1

theorem Handled.consistent {before after : ZenohGateway σ} (h : Handled before after)
    (hbefore : Consistent setup before) : Consistent setup after := by
  have hrunning := h.running
  rw [h.frame]
  refine ⟨hbefore.encoding, ?_, ?_⟩
  · intro hrun
    exact hbefore.session (hrunning ▸ hrun)
  · intro hrun
    exact hbefore.udp (hrunning ▸ hrun)

theorem start_consistent (outcome : StartOutcome) {gw : ZenohGateway σ}
    (h : Consistent setup gw) : Consistent setup (start setup outcome gw).2 := by
  simp only [start]
  split_ifs with hrun
  · exact h
  -- a start that gives up leaves the gateway not running
  · exact ⟨rfl, fun hafter => absurd hafter hrun, fun hafter => absurd hafter hrun⟩
  · exact ⟨rfl, fun hafter => absurd hafter hrun, fun hafter => absurd hafter hrun⟩
  · exact ⟨rfl, fun hafter => absurd hafter hrun, fun hafter => absurd hafter hrun⟩
  · refine ⟨rfl, fun _ => rfl, fun _ henabled => ?_⟩
    simp [declareSession, startSomeip, startTransports, henabled]

theorem stop_consistent {gw : ZenohGateway σ} (h : Consistent setup gw) :
    Consistent setup (stop gw).2 := by
  simp only [stop]
  split_ifs
  · exact h
  · exact ⟨h.encoding, fun hafter => absurd hafter (by simp), fun hafter => absurd hafter (by simp)⟩

theorem step_consistent (gw : ZenohGateway σ) (input : Input) (h : Consistent setup gw) :
    Consistent setup (step setup gw input).1 := by
  cases input with
  | start outcome => exact start_consistent setup outcome h
  | stop => exact stop_consistent setup h
  | addServiceMapping mapping => exact ⟨h.encoding, h.session, h.udp⟩
  | _ => exact (step_handled setup gw rfl).consistent setup h

theorem Reachable.consistent {gw : ZenohGateway σ} (h : Reachable setup gw) :
    Consistent setup gw := by
  obtain ⟨mappings, e2e, inputs, rfl⟩ := h
  apply Machine.run_invariant (step setup) (step_consistent setup)
  exact ⟨rfl, fun hrun => absurd hrun (by simp [fresh]), fun hrun => absurd hrun (by simp [fresh])⟩

end

/-! ### Lookup, key and payload -/

theorem findMappingInstance_of_findMapping {mappings : List ServiceMapping} {serviceId : UInt16}
    {mapping : ServiceMapping} (h : findMapping mappings serviceId = some mapping) :
    findMappingInstance mappings serviceId mapping.someipInstanceId = some mapping := by
  have hexact : findMappingForService mappings serviceId mapping.someipInstanceId =
      some mapping := by
    obtain ⟨hservice, before, after, hsplit, hbefore⟩ := List.find?_eq_some_iff_append.mp h
    apply List.find?_eq_some_iff_append.mpr
    refine ⟨by simp [hservice], before, after, hsplit, fun m hm => ?_⟩
    have hm := hbefore m hm
    simp only [Bool.not_eq_true', beq_eq_false_iff_ne] at hm
    simp [hm]
  simp [findMappingInstance, hexact]

theorem rpcish_notification (cls : MessageClass) : rpcish cls .notification = false := by
  simp only [rpcish, cls.notification_not_isRequest, cls.notification_not_isResponse]
  decide

/-- The key of a published notification passes the receiver's two prefix tests. -/
theorem buildKeyExpr_startsWith (keyPrefix : Text) (s i m : UInt16) :
    keyPrefix.length < (buildKeyExpr keyPrefix s i m).length ∧
      (buildKeyExpr keyPrefix s i m).take keyPrefix.length = keyPrefix := by
  have hsplit : buildKeyExpr keyPrefix s i m = keyPrefix ++ joinSegments
      [formatServiceId s, formatServiceId i, formatServiceId m, Text.ascii "event"] :=
    SomeipKey.build_eq keyPrefix (.event s i m)
  rw [hsplit]
  constructor
  · simp [joinSegments]
  · exact List.take_left

/-- Outside CBOR, a payload survives encoding and decoding, and the message
keeps the type the receiver asked for. -/
theorem zenohToSomeip_encodePayload {encoding : ZenohPayloadEncoding} (hencoding : encoding ≠ .cbor)
    (msg : Message) (ext : ExternalMessage) (hpayload : ext.payload = encodePayload encoding msg)
    (serviceId : UInt16) (type : MessageType) :
    zenohToSomeip encoding ext serviceId type =
      .ok { serviceId, methodId := ext.sourceMethodId, clientId := 0x0000, sessionId := 0x0001
            messageType := type, payload := msg.payload } := by
  cases encoding with
  | raw => simp [zenohToSomeip, hpayload, encodePayload]
  | json =>
      simp [zenohToSomeip, hpayload, encodePayload, decodePayload, decodeJsonEnvelope_payloadToJson]
  | cbor => contradiction

/-! ### Back to back -/

section

variable {σ κ : Type}

/-- A gateway with a session publishes a notification of an outbound, opaque
mapping under the mapping's event key, payload encoded. -/
theorem onSomeipMessage_notification (setup : Setup σ κ) (gw : ZenohGateway σ)
    (hsession : gw.session = true) {msg : Message} (htype : msg.messageType = .notification)
    {mapping : ServiceMapping}
    (hfind : findMapping gw.base.serviceMappings msg.serviceId = some mapping)
    (hforward : shouldForwardToExternal mapping = true) (hmode : mapping.mode = .opaqueMode) :
    ∃ declared, (onSomeipMessage setup gw msg).2.2 =
      [.put (buildKeyExpr setup.config.keyPrefix mapping.someipServiceId mapping.someipInstanceId
        msg.methodId) (encodePayload gw.encoding msg) declared mapping] := by
  have htyped : mapping.mode ≠ .typedMode := by
    rw [hmode]
    decide
  have hevent : rpcish setup.cls msg.messageType = false := by
    rw [htype, rpcish_notification]
  refine ⟨buildKeyExpr setup.config.keyPrefix mapping.someipServiceId mapping.someipInstanceId
    msg.methodId ∈ gw.zenohPublishers, ?_⟩
  simp [onSomeipMessage, hfind, hforward, htyped, publishToZenoh, hsession, someipToZenoh, hevent]

/-- Under an event key of the first mapping of a service, a sample is routed to
that mapping, if its direction permits. -/
theorem routeSample_event (setup : Setup σ κ) (encoding : ZenohPayloadEncoding)
    {mappings : List ServiceMapping} {serviceId : UInt16} {mapping : ServiceMapping}
    (hfind : findMapping mappings serviceId = some mapping) (eventId : UInt16) (payload : Bytes) :
    let key := buildKeyExpr setup.config.keyPrefix serviceId mapping.someipInstanceId eventId
    routeSample setup encoding mappings key payload =
      if shouldForwardToSomeip mapping then
        some (mapping, zenohToSomeip encoding
          { topicOrKey := key, payload, sourceServiceId := serviceId, sourceMethodId := eventId
            sourceInstanceId := mapping.someipInstanceId, isNotification := true }
          serviceId .notification)
      else none := by
  intro key
  obtain ⟨hlong, hstart⟩ := buildKeyExpr_startsWith setup.config.keyPrefix serviceId
    mapping.someipInstanceId eventId
  have hparsed := SomeipKey.parseSomeipKey_build setup.config.keyPrefix
    (.event serviceId mapping.someipInstanceId eventId)
  simp only [SomeipKey.build, SomeipKey.parsed] at hparsed
  have hlong : ¬ key.length ≤ setup.config.keyPrefix.length := Nat.not_le.mpr hlong
  simp only [routeSample, key, hparsed, hstart, findMappingInstance_of_findMapping hfind]
  cases shouldForwardToSomeip mapping with
  | false => simp
  | true => simpa using hlong

/-- A gateway with a transport sends the notification it finds under an event
key of an inbound mapping. -/
theorem onZenohSample_notification (setup : Setup σ κ) (gw : ZenohGateway σ)
    (hudp : gw.udp.isSome = true) (he2e : setup.config.enableE2eValidation = false)
    (hencoding : gw.encoding ≠ .cbor) {msg : Message} {mapping : ServiceMapping}
    (hfind : findMapping gw.base.serviceMappings msg.serviceId = some mapping)
    (hforward : shouldForwardToSomeip mapping = true) :
    ∃ dest, (onZenohSample setup gw
        (buildKeyExpr setup.config.keyPrefix msg.serviceId mapping.someipInstanceId msg.methodId)
        (encodePayload gw.encoding msg)).2 =
      [.sendMessage
        { serviceId := msg.serviceId, methodId := msg.methodId, clientId := 0x0000
          sessionId := 0x0001, messageType := .notification, payload := msg.payload }
        dest mapping] := by
  obtain ⟨udp, hudp⟩ := Option.isSome_iff_exists.mp hudp
  rw [onZenohSample_eq, routeSample_event setup gw.encoding hfind, if_pos hforward,
    zenohToSomeip_encodePayload hencoding msg _ rfl]
  refine ⟨destination setup.config gw.lastSender, ?_⟩
  simp [sendSomeipUdp, hudp, he2e]

/-- Whatever two running gateways with one prefix, mapping list and encoding
went through before, a notification handed to one is sent by the other. -/
theorem notification_relayed {σ' κ' : Type} (setupA : Setup σ κ) (setupB : Setup σ' κ')
    (hkey : setupA.config.keyPrefix = setupB.config.keyPrefix)
    (hsame : setupA.config.payloadEncoding = setupB.config.payloadEncoding)
    (hencoding : setupA.config.payloadEncoding = .raw ∨ setupA.config.payloadEncoding = .json)
    (he2e : setupB.config.enableE2eValidation = false)
    (hudp : setupB.config.enableUdpTransport = true)
    (a : ZenohGateway σ) (b : ZenohGateway σ') (ha : Reachable setupA a) (hb : Reachable setupB b)
    (harun : a.base.running = true) (hbrun : b.base.running = true)
    (hmappings : a.base.serviceMappings = b.base.serviceMappings)
    (msg : Message) (htype : msg.messageType = .notification) (mapping : ServiceMapping)
    (hfirst : findMapping a.base.serviceMappings msg.serviceId = some mapping)
    (hdirection : mapping.direction = .bidirectional) (hmode : mapping.mode = .opaqueMode) :
    ∃ key payload declared,
      (onSomeipMessage setupA a msg).2.2 = [.put key payload declared mapping] ∧
      ∃ sent dest,
        (onZenohSample setupB b key payload).2 = [.sendMessage sent dest mapping] ∧
        sent.messageType = .notification ∧ sent.serviceId = msg.serviceId ∧
        sent.methodId = msg.methodId ∧ sent.payload = msg.payload := by
  have hca := ha.consistent
  have hcb := hb.consistent
  have hservice : mapping.someipServiceId = msg.serviceId := by
    simpa using List.find?_some hfirst
  have hcbor : b.encoding ≠ .cbor := by
    rw [hcb.encoding, ← hsame]
    rcases hencoding with h | h <;> simp [h]
  obtain ⟨declared, hput⟩ := onSomeipMessage_notification setupA a (hca.session harun) htype hfirst
    (shouldForwardToExternal_iff.mpr (.inr hdirection)) hmode
  obtain ⟨dest, hsend⟩ := onZenohSample_notification setupB b (hcb.udp hbrun hudp) he2e hcbor
    (hmappings ▸ hfirst) (shouldForwardToSomeip_iff.mpr (.inr hdirection))
  rw [hservice, hkey, hca.encoding, hsame, ← hcb.encoding] at hput
  exact ⟨_, _, _, hput, _, _, hsend, rfl, rfl, rfl, rfl⟩

theorem notification_relayed_window :
    let config : ZenohConfig Unit := { plainSetup.config with payloadEncoding := .json }
    let setup : Setup Unit Unit := { plainSetup with config }
    let window : ServiceMapping := { someipServiceId := 0x4000, someipInstanceId := 0x0002 }
    let gateway := (Machine.run (step setup) (fresh setup [window] ()) [.start {}]).1
    let msg : Message :=
      { serviceId := 0x4000, methodId := 0x8003, messageType := .notification
        payload := [0, 10, 255] }
    gateway.base.running = true ∧
    ∃ key payload declared,
      (onSomeipMessage setup gateway msg).2.2 = [.put key payload declared window] ∧
      ∃ sent dest,
        (onZenohSample setup gateway key payload).2 = [.sendMessage sent dest window] ∧
        sent.messageType = .notification ∧ sent.serviceId = msg.serviceId ∧
        sent.methodId = msg.methodId ∧ sent.payload = msg.payload :=
  ⟨rfl, notification_relayed _ _ rfl rfl (.inr rfl) rfl rfl _ _ ⟨_, _, _, rfl⟩ ⟨_, _, _, rfl⟩
    rfl rfl rfl _ rfl _ rfl rfl rfl⟩

end

end SomeipGateway.Zenoh
