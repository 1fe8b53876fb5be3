import SomeipGateway.Zenoh.Relay

/-! What becomes of the gateway's own publications. A Zenoh subscriber also
receives the puts of its own session, so the gateway may find its own
notification under one of the patterns it subscribed to. -/
namespace SomeipGateway.Zenoh

open Lib

/-! ### Key expressions of Zenoh -/

def WildcardFree (text : Text) : Prop := ∀ c ∈ text, c ≠ '*'.toUInt8 ∧ c ≠ '$'.toUInt8

/-- Which keys a key expression of the Zenoh library matches. Behind a stem
without wildcards, a final `**` stands for any sequence of chunks, the empty one
included. -/
structure KeyMatching where
  covers : Text → Text → Bool
  final_wildcard : ∀ stem key, WildcardFree stem →
    (covers (stem ++ Text.ascii "/**") key = true ↔
      key = stem ∨ stem ++ Text.ascii "/" <+: key)

def instanceStem (keyPrefix : Text) (serviceId instanceId : UInt16) : Text :=
  keyPrefix ++ Text.ascii "/" ++ formatServiceId serviceId ++ Text.ascii "/" ++
    formatServiceId instanceId

theorem wildcardFree_of_all {text : Text}
    (h : text.all (fun c => c != '*'.toUInt8 && c != '$'.toUInt8) = true) : WildcardFree text := by
  intro c hc
  simpa using List.all_eq_true.mp h c hc

theorem WildcardFree.append {left right : Text} (hleft : WildcardFree left)
    (hright : WildcardFree right) : WildcardFree (left ++ right) := by
  intro c hc
  rcases List.mem_append.mp hc with hc | hc
  · exact hleft c hc
  · exact hright c hc

theorem wildcardFree_slash : WildcardFree (Text.ascii "/") := by
  intro c hc
  rw [List.mem_singleton.mp hc]
  decide

theorem wildcardFree_formatServiceId (id : UInt16) : WildcardFree (formatServiceId id) :=
  forall_mem_formatServiceId (by decide) (by decide) id

theorem wildcardFree_instanceStem {keyPrefix : Text} (hplain : WildcardFree keyPrefix)
    (serviceId instanceId : UInt16) :
    WildcardFree (instanceStem keyPrefix serviceId instanceId) := by
  unfold instanceStem
  apply WildcardFree.append
  · apply WildcardFree.append
    · exact (hplain.append wildcardFree_slash).append (wildcardFree_formatServiceId serviceId)
    · exact wildcardFree_slash
  · exact wildcardFree_formatServiceId instanceId

theorem buildKeyExpr_eq_stem (keyPrefix : Text) (serviceId instanceId eventId : UInt16) :
    buildKeyExpr keyPrefix serviceId instanceId eventId =
      instanceStem keyPrefix serviceId instanceId ++ Text.ascii "/" ++
        (formatServiceId eventId ++ Text.ascii "/event") := by
  simp only [buildKeyExpr, instanceStem, List.append_assoc]

/-- The pattern of an instance covers all event keys of the instance. -/
theorem covers_buildKeyExpr (matching : KeyMatching) {keyPrefix : Text}
    (hplain : WildcardFree keyPrefix) (serviceId instanceId eventId : UInt16) :
    matching.covers (buildInstancePattern keyPrefix serviceId instanceId)
      (buildKeyExpr keyPrefix serviceId instanceId eventId) = true := by
  have hpattern : buildInstancePattern keyPrefix serviceId instanceId =
      instanceStem keyPrefix serviceId instanceId ++ Text.ascii "/**" := rfl
  rw [hpattern, buildKeyExpr_eq_stem]
  apply (matching.final_wildcard _ _ (wildcardFree_instanceStem hplain _ _)).mpr
  exact .inr (List.prefix_append _ _)

/-! ### Subscriptions of a running gateway -/

section

variable {σ κ : Type} (setup : Setup σ κ)

/-- The gateway subscribes to what the mapping list says, and a session is open
only while it runs. -/
structure Subscribed (gw : ZenohGateway σ) : Prop where
  session : gw.session = true → gw.base.running = true
  running : gw.base.running = true →
    gw.zenohSubscribers = instancePatterns setup.config.keyPrefix gw.base.serviceMappings
  stopped : gw.base.running = false → gw.zenohSubscribers = []

theorem Handled.subscribed {before after : ZenohGateway σ} (h : Handled before after)
    (hbefore : Subscribed setup before) : Subscribed setup after := by
  have hrunning := h.running
  have hmappings := h.mappings
  rw [h.frame]
  refine ⟨?_, ?_, ?_⟩
  · intro hsession
    exact hrunning.trans (hbefore.session hsession)
  · intro hrun
    rw [hmappings]
    exact hbefore.running (hrunning ▸ hrun)
  · intro hstopped
    exact hbefore.stopped (hrunning ▸ hstopped)

theorem start_subscribed (outcome : StartOutcome) {gw : ZenohGateway σ}
    (h : Subscribed setup gw) : Subscribed setup (start setup outcome gw).2 := by
  simp only [start]
  split_ifs with hrun
  · exact h
  -- a start that gives up subscribes to nothing
  · exact ⟨h.session, h.running, h.stopped⟩
  · exact ⟨h.session, h.running, h.stopped⟩
  · exact ⟨h.session, h.running, h.stopped⟩
  · refine ⟨fun _ => rfl, fun _ => ?_, fun hstopped => by cases hstopped⟩
    have hnone := h.stopped (Bool.not_eq_true _ ▸ hrun)
    simp only [declareSession, startSomeip, startTransports, hnone, List.nil_append]
    rfl

theorem stop_subscribed {gw : ZenohGateway σ} (h : Subscribed setup gw) :
    Subscribed setup (stop gw).2 := by
  simp only [stop]
  split_ifs
  · exact h
  · exact ⟨fun hsession => absurd hsession Bool.false_ne_true,
      fun hrun => absurd hrun Bool.false_ne_true, fun _ => rfl⟩

def MappingsFixed (gw : ZenohGateway σ) : Input → Prop
  | .addServiceMapping _ => gw.base.running = false
  | _ => True

theorem step_subscribed (gw : ZenohGateway σ) (input : Input) (h : Subscribed setup gw)
    (hfixed : MappingsFixed gw input) : Subscribed setup (step setup gw input).1 := by
  cases input with
  | start outcome => exact start_subscribed setup outcome h
  | stop => exact stop_subscribed setup h
  | addServiceMapping mapping =>
      refine ⟨h.session, ?_, h.stopped⟩
      intro hrun
      exact absurd (hfixed.symm.trans hrun) Bool.false_ne_true
  | _ => exact (step_handled setup gw rfl).subscribed setup h

/-- Some run in which the mapping list is fixed while the gateway is running leads
a newly constructed gateway to this state. -/
def Settled (gw : ZenohGateway σ) : Prop :=
  ∃ mappings e2e inputs,
    Machine.Along (step setup) MappingsFixed (fresh setup mappings e2e) inputs ∧
      gw = (Machine.run (step setup) (fresh setup mappings e2e) inputs).1

theorem Settled.subscribed {gw : ZenohGateway σ} (h : Settled setup gw) : Subscribed setup gw := by
  obtain ⟨mappings, e2e, inputs, hfixed, rfl⟩ := h
  apply Machine.run_invariant_along (step setup) (step_subscribed setup) _ inputs _ hfixed
  exact ⟨fun hsession => absurd hsession Bool.false_ne_true,
    fun hrun => absurd hrun Bool.false_ne_true, fun _ => rfl⟩

/-! ### Notifications that come back -/

/-- The gateway receives its own put and sends it to the vehicle. -/
def Echoes (matching : KeyMatching) (gw : ZenohGateway σ) (key : Text) (payload : Bytes) : Prop :=
  (∃ pattern ∈ gw.zenohSubscribers, matching.covers pattern key = true) ∧
    ∃ sent dest via, .sendMessage sent dest via ∈ (onZenohSample setup gw key payload).2

theorem zenohToSomeip_ok (encoding : ZenohPayloadEncoding) (msg : Message) (ext : ExternalMessage)
    (hpayload : ext.payload = encodePayload encoding msg) (serviceId : UInt16)
    (type : MessageType) : ∃ sent, zenohToSomeip encoding ext serviceId type = .ok sent := by
  cases encoding with
  | raw => exact ⟨_, rfl⟩
  | json =>
      simp [zenohToSomeip, hpayload, encodePayload, decodePayload, decodeJsonEnvelope_payloadToJson]
  | cbor =>
      simp [zenohToSomeip, hpayload, encodePayload, decodePayload,
        decodeCborEnvelope_buildCborEnvelope]

/-- What the gateway itself makes of an event key of the first mapping of a
service, with a payload it has encoded. -/
theorem sends_iff (gw : ZenohGateway σ) {serviceId : UInt16} {mapping : ServiceMapping}
    (hfind : findMapping gw.base.serviceMappings serviceId = some mapping) (eventId : UInt16)
    (msg : Message) :
    (∃ sent dest via, .sendMessage sent dest via ∈ (onZenohSample setup gw
        (buildKeyExpr setup.config.keyPrefix serviceId mapping.someipInstanceId eventId)
        (encodePayload gw.encoding msg)).2) ↔
      shouldForwardToSomeip mapping = true ∧ gw.udp.isSome = true := by
  rw [onZenohSample_eq, routeSample_event setup gw.encoding hfind]
  cases shouldForwardToSomeip mapping with
  | false => simp
  | true =>
      obtain ⟨sent, hsent⟩ := zenohToSomeip_ok gw.encoding msg
        { topicOrKey :=
            buildKeyExpr setup.config.keyPrefix serviceId mapping.someipInstanceId eventId
          payload := encodePayload gw.encoding msg, sourceServiceId := serviceId
          sourceMethodId := eventId, sourceInstanceId := mapping.someipInstanceId
          isNotification := true } rfl serviceId .notification
      simp only [↓reduceIte, hsent, sendSomeipUdp]
      cases hudp : gw.udp with
      | none => simp
      | some udp => simp

theorem mem_publishToZenoh {gw : ZenohGateway σ} {msg : Message} {mapping : ServiceMapping}
    {key : Text} {payload : Bytes} {declared : Bool} {via : ServiceMapping}
    (h : .put key payload declared via ∈ publishToZenoh setup gw msg mapping) :
    gw.session = true ∧
      key = (if rpcish setup.cls msg.messageType then
          buildRpcKey setup.config.keyPrefix mapping.someipServiceId mapping.someipInstanceId
            msg.methodId
        else
          buildKeyExpr setup.config.keyPrefix mapping.someipServiceId mapping.someipInstanceId
            msg.methodId) ∧
      payload = encodePayload gw.encoding msg ∧ mapping = via := by
  unfold publishToZenoh at h
  split_ifs at h with hsession
  · cases List.mem_singleton.mp h
    exact ⟨hsession, rfl, rfl, rfl⟩
  · cases h

/-- The put of a notification: its mapping, its key, and an encoded payload. -/
theorem put_of_notification {gw : ZenohGateway σ} {msg : Message}
    (htype : msg.messageType = .notification) {key : Text} {payload : Bytes} {declared : Bool}
    {via : ServiceMapping}
    (h : .put key payload declared via ∈ (onSomeipMessage setup gw msg).2.2) :
    gw.session = true ∧ findMapping gw.base.serviceMappings msg.serviceId = some via ∧
      shouldForwardToExternal via = true ∧
      key = buildKeyExpr setup.config.keyPrefix msg.serviceId via.someipInstanceId msg.methodId ∧
      ∃ msg', payload = encodePayload gw.encoding msg' := by
  simp only [onSomeipMessage] at h
  cases hfind : findMapping gw.base.serviceMappings msg.serviceId with
  | none =>
      rw [hfind] at h
      cases h
  | some mapping =>
      simp only [hfind] at h
      cases hforward : shouldForwardToExternal mapping with
      | false =>
          rw [hforward] at h
          cases h
      | true =>
          simp only [hforward, Bool.not_true, Bool.false_eq_true, ↓reduceIte] at h
          obtain ⟨hsession, hkey, hpayload, rfl⟩ := mem_publishToZenoh setup h
          refine ⟨hsession, rfl, hforward, ?_, _, hpayload⟩
          have hservice : mapping.someipServiceId = msg.serviceId := by
            simpa using List.find?_some hfind
          -- typed mode replaces the payload and nothing else
          have hpublished (body : Bytes) :
              (if mapping.mode = .typedMode then { msg with payload := body }
                else msg).messageType = .notification ∧
              (if mapping.mode = .typedMode then { msg with payload := body }
                else msg).methodId = msg.methodId := by
            split_ifs
            · exact ⟨htype, rfl⟩
            · exact ⟨htype, rfl⟩
          obtain ⟨htype, hmethod⟩ := hpublished (typedPayload setup msg)
          rw [hkey, htype, hmethod, rpcish_notification, hservice]
          rfl

/-- A published notification is echoed exactly when its mapping is for both
directions and there is a transport to echo it with. -/
theorem notification_echoed_iff (matching : KeyMatching)
    (hplain : WildcardFree setup.config.keyPrefix) {gw : ZenohGateway σ} (hgw : Settled setup gw)
    (msg : Message) (htype : msg.messageType = .notification) {key : Text} {payload : Bytes}
    {declared : Bool} {via : ServiceMapping}
    (hput : .put key payload declared via ∈ (onSomeipMessage setup gw msg).2.2) :
    Echoes setup matching (onSomeipMessage setup gw msg).2.1 key payload ↔
      via.direction = .bidirectional ∧ gw.udp.isSome = true := by
  obtain ⟨hsession, hfind, hout, rfl, msg', rfl⟩ := put_of_notification setup htype hput
  have hhandled := onSomeipMessage_handled setup gw msg
  have hencoding : (onSomeipMessage setup gw msg).2.1.encoding = gw.encoding := by
    rw [hhandled.frame]
  have hudp : (onSomeipMessage setup gw msg).2.1.udp = gw.udp := by rw [hhandled.frame]
  have hsubscribers : (onSomeipMessage setup gw msg).2.1.zenohSubscribers =
      gw.zenohSubscribers := by rw [hhandled.frame]
  have hsends := sends_iff setup (onSomeipMessage setup gw msg).2.1
    (hhandled.mappings.symm ▸ hfind) msg.methodId msg'
  rw [hencoding, hudp] at hsends
  unfold Echoes
  rw [hsends, shouldForwardToSomeip_iff_ne]
  constructor
  · rintro ⟨-, hin, htransport⟩
    have hboth := shouldForwardToExternal_iff.mp hout
    exact ⟨hboth.resolve_left hin, htransport⟩
  · rintro ⟨hboth, htransport⟩
    have hin : via.direction ≠ .someipToExternal := by
      rw [hboth]
      decide
    refine ⟨?_, hin, htransport⟩
    have hsubscribed := hgw.subscribed setup
    rw [hsubscribers, hsubscribed.running (hsubscribed.session hsession)]
    refine ⟨buildInstancePattern setup.config.keyPrefix msg.serviceId via.someipInstanceId, ?_, ?_⟩
    · have hservice : via.someipServiceId = msg.serviceId := by simpa using List.find?_some hfind
      apply List.mem_map.mpr
      refine ⟨via, List.mem_filter.mpr ⟨List.mem_of_find?_eq_some hfind, ?_⟩, by rw [hservice]⟩
      exact shouldForwardToSomeip_iff_ne.mpr hin
    · exact covers_buildKeyExpr matching hplain msg.serviceId via.someipInstanceId msg.methodId

end

/-! ### A power window -/

/-- The final wildcard as a rule on texts; any other expression matches itself. -/
def KeyMatching.textual : KeyMatching where
  covers pattern key :=
    if (Text.ascii "/**").isSuffixOf pattern then
      let stem := pattern.take (pattern.length - 3)
      key == stem || (stem ++ Text.ascii "/").isPrefixOf key
    else pattern == key
  final_wildcard stem key _ := by
    have hstem :
        (stem ++ Text.ascii "/**").take ((stem ++ Text.ascii "/**").length - 3) = stem := by
      rw [List.length_append, show (Text.ascii "/**").length = 3 from rfl, Nat.add_sub_cancel]
      exact List.take_left
    have hsuffix : (Text.ascii "/**").isSuffixOf (stem ++ Text.ascii "/**") = true :=
      List.isSuffixOf_iff_suffix.mpr (List.suffix_append _ _)
    simp only [hsuffix, hstem, ↓reduceIte, Bool.or_eq_true, beq_iff_eq, List.isPrefixOf_iff_prefix]

def windowMapping (direction : GatewayDirection) : ServiceMapping :=
  { someipServiceId := 0x4000, someipInstanceId := 0x0002, direction }

def roofMapping : ServiceMapping :=
  { someipServiceId := 0x4100, someipInstanceId := 0x0001, direction := .someipToExternal }

/-- The window is not the first one in the list. -/
def windowGateway (direction : GatewayDirection) : ZenohGateway Unit :=
  (Machine.run (step plainSetup) (fresh plainSetup [roofMapping, windowMapping direction] ())
    [.start {}]).1

def windowOpened : Message :=
  { serviceId := 0x4000, methodId := 0x8003, messageType := .notification, payload := [1] }

def windowKey : Text := Text.ascii "someip/0x4000/0x0002/0x8003/event"

theorem one_way_window_not_echoed :
    let gw := windowGateway .someipToExternal
    .put windowKey [1] false (windowMapping .someipToExternal) ∈
        (onSomeipMessage plainSetup gw windowOpened).2.2 ∧
      ¬ Echoes plainSetup .textual (onSomeipMessage plainSetup gw windowOpened).2.1
        windowKey [1] := by
  intro gw
  have hput : .put windowKey [1] false (windowMapping .someipToExternal) ∈
      (onSomeipMessage plainSetup gw windowOpened).2.2 := by decide
  have hplain : WildcardFree plainSetup.config.keyPrefix := wildcardFree_of_all rfl
  have hgw : Settled plainSetup gw :=
    ⟨[roofMapping, windowMapping .someipToExternal], (), [.start {}], ⟨trivial, trivial⟩, rfl⟩
  refine ⟨hput, ?_⟩
  rw [notification_echoed_iff plainSetup .textual hplain hgw windowOpened rfl hput]
  rintro ⟨hdirection, -⟩
  cases hdirection

/-- The notification of a window mapped for both directions goes back to the
vehicle as a datagram. -/
theorem two_way_window_echoed :
    let gw := windowGateway .bidirectional
    .put windowKey [1] false (windowMapping .bidirectional) ∈
        (onSomeipMessage plainSetup gw windowOpened).2.2 ∧
      Echoes plainSetup .textual (onSomeipMessage plainSetup gw windowOpened).2.1
        windowKey [1] := by
  refine ⟨by decide,
    ⟨buildInstancePattern (Text.ascii "someip") 0x4000 0x0002, by decide, by decide⟩,
    { windowOpened with clientId := 0x0000, sessionId := 0x0001 },
    { address := Text.ascii "127.0.0.1", port := 30501 }, windowMapping .bidirectional, by decide⟩

end SomeipGateway.Zenoh
