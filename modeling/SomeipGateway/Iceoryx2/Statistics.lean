import SomeipGateway.Iceoryx2.Confinement
import SomeipGateway.Lib.Counter

/-! The counters of the iceoryx2 gateway against what crosses it. The publishing
helper records only where the mapping goes that way, and an inbound request is
recorded with the size of its answer. -/
namespace SomeipGateway.Iceoryx2

open Lib

/-- Sizes of the samples handed to the outbound hook. -/
def hookedSizes (log : List Output) : List Nat :=
  log.filterMap fun
    | .published _ sample _ true => some sample.length
    | _ => none

/-- Payload sizes of the envelopes that were delivered to SOME/IP. -/
def deliveredSizes (log : List Output) : List Nat :=
  log.filterMap fun
    | .publishEvent _ _ data => some data.length
    | .callMethodSync _ _ params => some params.length
    | _ => none

@[simp] theorem hookedSizes_append (left right : List Output) :
    hookedSizes (left ++ right) = hookedSizes left ++ hookedSizes right := List.filterMap_append

@[simp] theorem deliveredSizes_append (left right : List Output) :
    deliveredSizes (left ++ right) = deliveredSizes left ++ deliveredSizes right :=
  List.filterMap_append

def CountsHooked (stats : GatewayStats) (log : List Output) : Prop :=
  Counter.Tally stats.messagesSomeipToExternal stats.bytesSomeipToExternal (hookedSizes log)

def CountsDelivered (stats : GatewayStats) (log : List Output) : Prop :=
  Counter.Tally stats.messagesExternalToSomeip stats.bytesExternalToSomeip (deliveredSizes log)

/-- All four counters agree with what was bridged, modulo `2 ^ 64`. -/
def CountsBridged (gw : Iceoryx2Gateway) (log : List Output) : Prop :=
  CountsHooked gw.base.stats log ∧ CountsDelivered gw.base.stats log

/-- An inbound request that is delivered: the mapping goes both ways, and the
answer is as long as the request. -/
def AnswersInKind (gw : Iceoryx2Gateway) (env : Iceoryx2Envelope) (answer : RpcSyncResult) :
    Prop :=
  ∀ mapping, mappingForEnvelope gw.base.serviceMappings env = some mapping →
    shouldForwardToSomeip mapping = true →
    (env.messageType = .request ∨ env.messageType = .requestNoReturn) →
    gw.rpcClient.isSome = true →
      mapping.direction ≠ .externalToSomeip ∧
        answer.returnValues.length ≡ env.payload.length [MOD 2 ^ 64]

/-- No call reaches a method of a mapping that only goes toward SOME/IP, and
every delivered request is answered in kind. -/
def RecordsBridged (setup : Setup) (gw : Iceoryx2Gateway) : Input → Prop
  | .sample _ sample answer =>
      ∀ env, parseSample setup.wire sample = some env → AnswersInKind gw env answer
  | input => CallsOutbound gw input

/-! ### Single outputs -/

theorem CountsHooked.unseen {stats stats' : GatewayStats} {log more : List Output}
    (h : CountsHooked stats log) (hmore : hookedSizes more = [])
    (hmessages : stats'.messagesSomeipToExternal = stats.messagesSomeipToExternal)
    (hbytes : stats'.bytesSomeipToExternal = stats.bytesSomeipToExternal) :
    CountsHooked stats' (log ++ more) := by
  unfold CountsHooked at h ⊢
  rw [hookedSizes_append, hmore, List.append_nil, hmessages, hbytes]
  exact h

theorem CountsDelivered.unseen {stats stats' : GatewayStats} {log more : List Output}
    (h : CountsDelivered stats log) (hmore : deliveredSizes more = [])
    (hmessages : stats'.messagesExternalToSomeip = stats.messagesExternalToSomeip)
    (hbytes : stats'.bytesExternalToSomeip = stats.bytesExternalToSomeip) :
    CountsDelivered stats' (log ++ more) := by
  unfold CountsDelivered at h ⊢
  rw [deliveredSizes_append, hmore, List.append_nil, hmessages, hbytes]
  exact h

/-- Recording one delivery of `size` bytes is right exactly if it had that size. -/
theorem CountsDelivered.record_iff {stats stats' : GatewayStats} {log more : List Output}
    {delivered recorded : Nat} (h : CountsDelivered stats log)
    (hmore : deliveredSizes more = [delivered])
    (hmessages : stats'.messagesExternalToSomeip = stats.messagesExternalToSomeip + 1)
    (hbytes : stats'.bytesExternalToSomeip =
      stats.bytesExternalToSomeip + UInt64.ofNat recorded) :
    CountsDelivered stats' (log ++ more) ↔ recorded ≡ delivered [MOD 2 ^ 64] := by
  unfold CountsDelivered
  rw [deliveredSizes_append, hmore, hmessages, hbytes, h.advance_iff]
  constructor
  · rintro ⟨-, hsize⟩
    have hsize := congrArg UInt64.toNat hsize
    simpa [Nat.ModEq] using hsize
  · intro hsize
    refine ⟨rfl, ?_⟩
    apply UInt64.toNat.inj
    simpa [Nat.ModEq] using hsize

section

variable (setup : Setup)

/-- A sample through a mapping: the hook is handed it in any case, the counters
move only if the mapping goes that way. -/
theorem CountsHooked.publish_iff {gw : Iceoryx2Gateway} {log : List Output}
    (hhook : gw.outboundHook = true) (h : CountsHooked gw.base.stats log) (name : Text)
    (sample : Bytes) (mapping : ServiceMapping) :
    CountsHooked (publishTowardIceoryx2 setup gw name sample mapping).1.base.stats
        (log ++ (publishTowardIceoryx2 setup gw name sample mapping).2) ↔
      mapping.direction ≠ .externalToSomeip := by
  rw [← shouldForwardToExternal_iff_ne]
  have hsizes : hookedSizes (publishTowardIceoryx2 setup gw name sample mapping).2 =
      [sample.length] := by
    simp [publishTowardIceoryx2, hookedSizes, hhook]
  unfold CountsHooked at h ⊢
  rw [hookedSizes_append, hsizes]
  simp only [publishTowardIceoryx2]
  cases shouldForwardToExternal mapping with
  | true => exact iff_of_true (h.append [sample.length]) rfl
  | false =>
      refine iff_of_false (fun hmoved => ?_) Bool.false_ne_true
      have hnone := (h.append_iff_nil (by simp)).mp hmoved
      cases hnone

theorem CountsDelivered.publish {gw : Iceoryx2Gateway} {log : List Output}
    (h : CountsDelivered gw.base.stats log) (name : Text) (sample : Bytes)
    (mapping : ServiceMapping) :
    CountsDelivered (publishTowardIceoryx2 setup gw name sample mapping).1.base.stats
      (log ++ (publishTowardIceoryx2 setup gw name sample mapping).2) := by
  apply h.unseen
  · rfl
  · simp only [publishTowardIceoryx2]
    split_ifs <;> rfl
  · simp only [publishTowardIceoryx2]
    split_ifs <;> rfl

theorem CountsBridged.publish_iff {gw : Iceoryx2Gateway} {log : List Output}
    (hhook : gw.outboundHook = true) (h : CountsBridged gw log) (name : Text)
    (sample : Bytes) (mapping : ServiceMapping) :
    CountsBridged (publishTowardIceoryx2 setup gw name sample mapping).1
        (log ++ (publishTowardIceoryx2 setup gw name sample mapping).2) ↔
      mapping.direction ≠ .externalToSomeip := by
  have hdelivered := h.2.publish setup name sample mapping
  rw [← CountsHooked.publish_iff setup hhook h.1 name sample mapping]
  exact ⟨fun hafter => hafter.1, fun hhooked => ⟨hhooked, hdelivered⟩⟩

/-! ### One step -/

theorem CountsBridged.unseen {gw gw' : Iceoryx2Gateway} {log more : List Output}
    (h : CountsBridged gw log) (hhooked : hookedSizes more = [])
    (hdelivered : deliveredSizes more = [])
    (hstats : gw'.base.stats = gw.base.stats) : CountsBridged gw' (log ++ more) := by
  refine ⟨h.1.unseen hhooked ?_ ?_, h.2.unseen hdelivered ?_ ?_⟩
  all_goals rw [hstats]

theorem CountsBridged.quiet {gw gw' : Iceoryx2Gateway} {log : List Output}
    (h : CountsBridged gw log) (hstats : gw'.base.stats = gw.base.stats) :
    CountsBridged gw' (log ++ []) :=
  h.unseen rfl rfl hstats

theorem callIncomingRequest_counts_iff {gw : Iceoryx2Gateway} {log : List Output}
    (hhook : gw.outboundHook = true) (h : CountsBridged gw log) (env : Iceoryx2Envelope)
    (mapping : ServiceMapping) (answer : RpcSyncResult) :
    CountsBridged (callIncomingRequest setup gw env mapping answer).1
        (log ++ (callIncomingRequest setup gw env mapping answer).2) ↔
      mapping.direction ≠ .externalToSomeip ∧
        answer.returnValues.length ≡ env.payload.length [MOD 2 ^ 64] := by
  simp only [callIncomingRequest]
  generalize buildIceoryx2ServiceName setup.config.serviceNamePrefix env.serviceId env.instanceId
    env.methodOrEventId 'R'.toUInt8 = name
  generalize someipToSample setup.wire _ env.instanceId env.mode = sample
  -- the call comes first in the log, and is nothing the hook sees
  have hcalled : CountsHooked gw.base.stats
      (log ++ [.callMethodSync env.serviceId env.methodOrEventId env.payload]) :=
    h.1.unseen rfl rfl rfl
  have hpublished := CountsHooked.publish_iff setup hhook hcalled name sample mapping
  rw [List.append_assoc] at hpublished
  apply and_congr hpublished
  apply h.2.record_iff
  · rfl
  · simp only [publishTowardIceoryx2]
    split_ifs <;> rfl
  · simp only [publishTowardIceoryx2]
    split_ifs <;> rfl

theorem publishIncomingEvent_counts {gw : Iceoryx2Gateway} {log : List Output}
    (h : CountsBridged gw log) (env : Iceoryx2Envelope) :
    CountsBridged (publishIncomingEvent gw env).1 (log ++ (publishIncomingEvent gw env).2) := by
  simp only [publishIncomingEvent]
  cases gw.eventPublishers (makeKey env.serviceId env.instanceId) with
  | none => exact h.quiet rfl
  | some publisher =>
      refine ⟨h.1.unseen rfl rfl rfl, ?_⟩
      exact (h.2.record_iff rfl rfl rfl).mpr (Nat.ModEq.refl _)

theorem bridgeExternalToSomeip_counts_iff {gw : Iceoryx2Gateway} {log : List Output}
    (hhook : gw.outboundHook = true) (h : CountsBridged gw log) (env : Iceoryx2Envelope)
    (answer : RpcSyncResult) :
    CountsBridged (bridgeExternalToSomeip setup gw env answer).1
        (log ++ (bridgeExternalToSomeip setup gw env answer).2) ↔
      AnswersInKind gw env answer := by
  unfold bridgeExternalToSomeip AnswersInKind
  cases mappingForEnvelope gw.base.serviceMappings env with
  | none => exact iff_of_true (h.quiet rfl) (by simp)
  | some mapping =>
      simp only [Option.some.injEq, forall_eq']
      split_ifs with hforward hnotification hrequest
      · refine iff_of_true (h.quiet rfl) fun hback => ?_
        rw [hback] at hforward
        contradiction
      · refine iff_of_true (publishIncomingEvent_counts h env) fun _ hbad => ?_
        rw [hnotification] at hbad
        exact absurd hbad (by decide)
      · rw [Bool.not_eq_true', Bool.not_eq_false] at hforward
        rw [callIncomingRequest_counts_iff setup hhook h]
        exact ⟨fun hkind _ _ _ => hkind, fun hkind => hkind hforward hrequest.1 hrequest.2⟩
      · exact iff_of_true (h.quiet rfl) fun _ htype hclient => absurd ⟨htype, hclient⟩ hrequest

theorem injectIceoryx2Sample_counts_iff {gw : Iceoryx2Gateway} {log : List Output}
    (hhook : gw.outboundHook = true) (h : CountsBridged gw log) (name : Text) (sample : Bytes)
    (answer : RpcSyncResult) :
    CountsBridged (injectIceoryx2Sample setup gw name sample answer).1
        (log ++ (injectIceoryx2Sample setup gw name sample answer).2) ↔
      ∀ env, parseSample setup.wire sample = some env → AnswersInKind gw env answer := by
  unfold injectIceoryx2Sample
  cases parseSample setup.wire sample with
  | none =>
      refine iff_of_true ⟨h.1.unseen rfl rfl rfl, h.2.unseen rfl rfl rfl⟩ ?_
      intro env henv
      cases henv
  | some env =>
      simp only [Option.some.injEq, forall_eq', handleIncomingEnvelope]
      rw [← bridgeExternalToSomeip_counts_iff setup hhook h env answer, ← List.append_assoc]
      generalize bridgeExternalToSomeip setup gw env answer = bridged
      cases bridged.1.externalMessageCallback with
      | false =>
          rw [if_neg Bool.false_ne_true, List.append_nil]
      | true =>
          rw [if_pos rfl]
          simp [CountsBridged, CountsHooked, CountsDelivered, hookedSizes, deliveredSizes]

theorem onSomeipMessage_counts {gw : Iceoryx2Gateway} {log : List Output}
    (hhook : gw.outboundHook = true) (h : CountsBridged gw log) (msg : Message) :
    CountsBridged (onSomeipMessage setup gw msg).2.1
      (log ++ (onSomeipMessage setup gw msg).2.2) := by
  unfold onSomeipMessage
  cases mappingForMessage gw.base.serviceMappings msg.serviceId with
  | none =>
      dsimp only
      split_ifs
      · exact h.quiet rfl
      · exact h.quiet rfl
  | some m =>
      dsimp only
      split_ifs with hstopped hforward
      · exact h.quiet rfl
      · exact h.quiet rfl
      all_goals
        rw [Bool.not_eq_true', Bool.not_eq_false] at hforward
        exact (CountsBridged.publish_iff setup hhook h _ _ m).mpr
          (shouldForwardToExternal_iff_ne.mp hforward)

/-- What a start reads or writes of neither: the counters and the hook. -/
def watched (gw : Iceoryx2Gateway) : GatewayStats × Bool := (gw.base.stats, gw.outboundHook)

theorem startComponents_ok_watched {outcome : StartOutcome} {gw gw' : Iceoryx2Gateway}
    {subscribed : EventgroupSet} (h : startComponents setup outcome gw = .ok (gw', subscribed)) :
    watched gw' = watched gw := by
  obtain ⟨afterRpc, afterPublishers, afterSd, hrpc, hpublishers, hsd, hudp⟩ :=
    startComponents_phases setup h
  have hrpc := startRpcClient_ok setup hrpc
  obtain ⟨publishers, -, hpublishers⟩ := startPublishers_ok hpublishers
  rw [(startUdp_ok setup hudp).1, (startSd_ok setup hsd).1, hpublishers, hrpc]
  rfl

theorem startComponents_error_watched {outcome : StartOutcome} {gw gw' : Iceoryx2Gateway}
    {result : Result} (h : startComponents setup outcome gw = .error (result, gw')) :
    watched gw' = watched gw := by
  unfold startComponents at h
  rcases Phases.bind_eq_error.mp h with h | ⟨afterRpc, hrpc, h⟩
  · simp only [startRpcClient] at h
    split_ifs at h
    cases h
    rfl
  have hkept : watched afterRpc = watched gw := by
    rw [startRpcClient_ok setup hrpc]
    rfl
  rcases Phases.bind_eq_error.mp h with h | ⟨afterPublishers, hpublishers, h⟩
  · simp only [startPublishers] at h
    split at h
    · cases h
      exact hkept
    · contradiction
  obtain ⟨publishers, -, hpublishers⟩ := startPublishers_ok hpublishers
  have hkept : watched (setupMappings outcome afterPublishers).1 = watched gw := by
    rw [hpublishers]
    exact hkept
  rcases Phases.bind_eq_error.mp h with h | ⟨afterSd, hsd, h⟩
  · simp only [startSd] at h
    split_ifs at h
    · cases h
      exact hkept
    · cases h
      exact hkept
  have hkept : watched afterSd = watched gw := by
    rw [(startSd_ok setup hsd).1]
    exact hkept
  rcases Phases.bind_eq_error.mp h with h | ⟨afterUdp, -, h⟩
  · simp only [startUdp] at h
    split_ifs at h
    cases h
    exact hkept
  · contradiction

theorem start_watched (outcome : StartOutcome) (gw : Iceoryx2Gateway)
    (subscribed : EventgroupSet) :
    watched (start setup outcome gw subscribed).2.1 = watched gw := by
  unfold start
  cases hrunning : gw.base.running with
  | true => rfl
  | false =>
      cases hsubscriber : outcome.subscriber with
      | false => rfl
      | true =>
          simp only [Bool.false_eq_true, ↓reduceIte, Bool.not_true]
          split
          · rename_i hcomponents
            have hkept := startComponents_error_watched setup hcomponents
            exact hkept
          · rename_i hcomponents
            have hkept := startComponents_ok_watched setup hcomponents
            exact hkept

theorem Handled.outboundHook {before after : Iceoryx2Gateway} (h : Handled before after) :
    after.outboundHook = before.outboundHook := by
  rw [h.frame]

/-- Nobody takes the hook away. -/
def KeepsHook (_ : Iceoryx2Gateway) (input : Input) : Prop :=
  input ≠ .setIceoryx2OutboundHook false

/-- The hook is installed, and every subscription is toward iceoryx2. -/
structure Watching (gw : Iceoryx2Gateway) : Prop where
  hook : gw.outboundHook = true
  subscriptions : SubscribesOutbound gw

theorem step_watching (gw : Iceoryx2Gateway) (input : Input) (h : Watching gw)
    (hinput : KeepsHook gw input) : Watching (step setup gw input).1 := by
  refine ⟨?_, step_subscribesOutbound setup gw input h.subscriptions⟩
  cases input with
  | start outcome subscribed =>
      have hkept := congrArg Prod.snd (start_watched setup outcome gw subscribed)
      exact hkept.trans h.hook
  | setIceoryx2OutboundHook installed =>
      cases installed with
      | false => exact absurd rfl hinput
      | true => rfl
  | serviceFound =>
      simp only [step]
      split_ifs
      · exact h.hook
      · exact h.hook
  | stop => exact h.hook
  | addServiceMapping mapping => exact h.hook
  | setExternalMessageCallback installed => exact h.hook
  | someipMessage msg => exact (step_handled setup gw rfl).outboundHook.trans h.hook
  | datagram message => exact (step_handled setup gw rfl).outboundHook.trans h.hook
  | rpcServerCall serviceId method clientId sessionId params =>
      exact (step_handled setup gw rfl).outboundHook.trans h.hook
  | notification subscription n => exact (step_handled setup gw rfl).outboundHook.trans h.hook
  | sample name sample answer => exact (step_handled setup gw rfl).outboundHook.trans h.hook

/-- Counters that were right stay right exactly if the step records what it
bridges. -/
theorem step_counts_iff (gw : Iceoryx2Gateway) (log : List Output) (input : Input)
    (hwatching : Watching gw) (h : CountsBridged gw log) :
    CountsBridged (step setup gw input).1 (log ++ (step setup gw input).2) ↔
      RecordsBridged setup gw input := by
  cases input with
  | start outcome subscribed =>
      refine iff_of_true (h.quiet ?_) trivial
      exact congrArg Prod.fst (start_watched setup outcome gw subscribed)
  | someipMessage msg =>
      exact iff_of_true (onSomeipMessage_counts setup hwatching.hook h msg) trivial
  | datagram message =>
      refine iff_of_true ?_ trivial
      cases message with
      | none => exact h.quiet rfl
      | some msg =>
          simp only [step]
          split_ifs
          · exact onSomeipMessage_counts setup hwatching.hook h msg
          · exact h.quiet rfl
  | rpcServerCall serviceId method clientId sessionId params =>
      simp only [step, RecordsBridged, CallsOutbound]
      split_ifs with hregistered
      · simp only [rpcServerHandler, bridgeSomeipToExternal]
        rw [CountsBridged.publish_iff setup hwatching.hook h]
        exact ⟨fun hdirection _ => hdirection, fun hdirection => hdirection hregistered⟩
      · exact iff_of_true (h.quiet rfl) fun hbad => absurd hbad hregistered
  | notification subscription n =>
      refine iff_of_true ?_ trivial
      simp only [step]
      split_ifs with hsubscribed
      · obtain ⟨subscriber, hsubscriber, hmem⟩ := (Option.any_eq_true _ _).mp hsubscribed
        have hforward := hwatching.subscriptions subscriber hsubscriber subscription
          (of_decide_eq_true hmem)
        exact (CountsBridged.publish_iff setup hwatching.hook h _ _ _).mpr
          (shouldForwardToExternal_iff_ne.mp hforward)
      · exact h.quiet rfl
  | serviceFound =>
      refine iff_of_true ?_ trivial
      simp only [step]
      split_ifs
      · exact h.quiet rfl
      · exact h.quiet rfl
  | sample name sample answer =>
      exact injectIceoryx2Sample_counts_iff setup hwatching.hook h name sample answer
  | stop => exact iff_of_true (h.quiet rfl) trivial
  | addServiceMapping mapping => exact iff_of_true (h.quiet rfl) trivial
  | setIceoryx2OutboundHook installed => exact iff_of_true (h.quiet rfl) trivial
  | setExternalMessageCallback installed => exact iff_of_true (h.quiet rfl) trivial

/-- Along every run of a gateway whose hook stays installed: the counters agree
with what was bridged after every input, exactly if no call reaches a method of a
mapping toward SOME/IP only, and every delivered request comes through a mapping
of both directions and is answered with as many bytes as it carries. -/
theorem bridged_counted_iff (inputs : List Input)
    (hhook : Input.setIceoryx2OutboundHook false ∉ inputs) :
    Machine.AlwaysLogged (step setup) CountsBridged { outboundHook := true } [] inputs ↔
      Machine.Along (step setup) (RecordsBridged setup) { outboundHook := true } inputs := by
  have hwatching : Watching { outboundHook := true } :=
    ⟨rfl, fun subscriber hsubscriber => absurd hsubscriber (by simp)⟩
  apply Machine.alwaysLogged_iff_along (step setup) (step_watching setup)
  · intro gw log input hwatching _ h
    exact step_counts_iff setup gw log input hwatching h
  · exact hwatching
  · exact ⟨Counter.Tally.nil, Counter.Tally.nil⟩
  · apply Machine.along_of_forall
    intro gw input hinput hremoved
    exact hhook (hremoved ▸ hinput)

end

def radarRequest (payload : Bytes) : Message where
  serviceId := 0x5000
  methodId := 0x0001
  clientId := 0x0001
  sessionId := 0x0001
  payload := payload

def radarSample (payload : Bytes) : Bytes :=
  someipToSample .bigEndian (radarRequest payload) 0x0001 .opaqueMode

theorem bridged_counted_radar :
    let inputs : List Input :=
      [.addServiceMapping radarMapping, .start {} [], .someipMessage (radarRequest [1, 2, 3]),
        .sample [] (radarSample [1, 2]) ⟨true, [3, 4]⟩]
    Machine.AlwaysLogged (step radarSetup) CountsBridged { outboundHook := true } [] inputs := by
  intro inputs
  apply (bridged_counted_iff radarSetup inputs (by simp [inputs])).mpr
  refine ⟨trivial, trivial, trivial, ?_, trivial⟩
  intro env henv
  have hparsed := parseSample_someipToSample WireFormat.bigEndian_lawful (radarRequest [1, 2])
    0x0001 (by decide)
  cases hparsed.symm.trans henv
  intro mapping hmapping _ _ _
  have hradar : some radarMapping = some mapping := hmapping
  cases hradar
  exact ⟨by decide, rfl⟩

/-- A request of two bytes that is answered with none is recorded as no bytes. -/
theorem request_recorded_by_answer :
    ¬ ∀ inputs : List Input, Input.setIceoryx2OutboundHook false ∉ inputs →
      Machine.AlwaysLogged (step radarSetup) CountsBridged { outboundHook := true } [] inputs := by
  intro h
  have hrun := h [.addServiceMapping radarMapping, .start {} [],
    .sample [] (radarSample [1, 2]) ⟨true, []⟩] (by simp)
  exact absurd hrun.2.2.2.2.total_eq (by decide)

end SomeipGateway.Iceoryx2
