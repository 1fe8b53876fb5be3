import Mathlib.Data.List.DropRight
import SomeipGateway.Iceoryx2.Lifecycle

/-! The in-process bus: a bounded queue that a start creates and a stop drops,
and that every publication is pushed on in between. -/
namespace SomeipGateway.Iceoryx2

open Lib

def publishedPairs (outputs : List Output) : List (Text × Bytes) :=
  outputs.filterMap fun
    | .published name sample _ _ => some (name, sample)
    | _ => none

def InprocessBus.pushAll (bus : InprocessBus) (samples : List (Text × Bytes)) : InprocessBus :=
  samples.foldl (fun bus sample => bus.push sample.1 sample.2) bus

/-- The bus on which these samples were pushed, from when it was created. -/
def InprocessBus.holding (samples : List (Text × Bytes)) : InprocessBus where
  queue := samples.rtake kMaxDepth

/-- What is left of the last `depth + 1` once there is room for one more. -/
theorem rtake_makeRoom {α : Type} (items : List α) (item : α) (depth : Nat) :
    (items.rtake (depth + 1)).drop ((items.rtake (depth + 1)).length + 1 - (depth + 1)) ++ [item] =
      (items ++ [item]).rtake (depth + 1) := by
  rw [List.rtake_concat_succ]
  congr 1
  rw [List.rtake, List.rtake, List.drop_drop, List.length_drop]
  congr 1
  omega

theorem InprocessBus.holding_push (samples : List (Text × Bytes)) (name : Text) (sample : Bytes) :
    (holding samples).push name sample = holding (samples ++ [(name, sample)]) := by
  obtain ⟨depth, hdepth⟩ : ∃ depth, kMaxDepth = depth + 1 := ⟨1023, rfl⟩
  unfold push holding
  rw [hdepth, rtake_makeRoom]

theorem InprocessBus.holding_pushAll (samples more : List (Text × Bytes)) :
    (holding samples).pushAll more = holding (samples ++ more) := by
  induction more generalizing samples with
  | nil => rw [List.append_nil]; rfl
  | cons sample rest ih =>
      rw [pushAll, List.foldl_cons, holding_push, ← pushAll, ih, List.append_assoc]
      rfl

section

variable (setup : Setup)

/-! ### One event -/

/-- The bus of a gateway after a handler: what it published went on it. -/
def Pushed (before after : Iceoryx2Gateway) (outputs : List Output) : Prop :=
  after.inprocessBus =
    if setup.config.useInprocessShmSimulation then
      before.inprocessBus.map fun bus => bus.pushAll (publishedPairs outputs)
    else before.inprocessBus

variable {setup}

theorem Pushed.nothing {before after : Iceoryx2Gateway} {outputs : List Output}
    (hbus : after.inprocessBus = before.inprocessBus) (hnone : publishedPairs outputs = []) :
    Pushed setup before after outputs := by
  unfold Pushed
  rw [hnone, hbus]
  split_ifs
  · cases before.inprocessBus <;> rfl
  · rfl

theorem publishTowardIceoryx2_pushed (gw : Iceoryx2Gateway) (name : Text) (sample : Bytes)
    (mapping : ServiceMapping) :
    Pushed setup gw (publishTowardIceoryx2 setup gw name sample mapping).1
      (publishTowardIceoryx2 setup gw name sample mapping).2 := by
  rfl

theorem onSomeipMessage_pushed (gw : Iceoryx2Gateway) (msg : Message) :
    Pushed setup gw (onSomeipMessage setup gw msg).2.1 (onSomeipMessage setup gw msg).2.2 := by
  unfold onSomeipMessage
  split
  · exact .nothing rfl rfl
  · split
    · exact .nothing rfl rfl
    · split_ifs
      · exact .nothing rfl rfl
      · exact publishTowardIceoryx2_pushed gw _ _ _
      · exact publishTowardIceoryx2_pushed gw _ _ _
      · exact publishTowardIceoryx2_pushed gw _ _ _

variable (setup) in
theorem bridgeExternalToSomeip_pushed (gw : Iceoryx2Gateway) (env : Iceoryx2Envelope)
    (answer : RpcSyncResult) :
    Pushed setup gw (bridgeExternalToSomeip setup gw env answer).1
      (bridgeExternalToSomeip setup gw env answer).2 := by
  unfold bridgeExternalToSomeip
  split
  · exact .nothing rfl rfl
  · rename_i mapping _
    split_ifs
    · exact .nothing rfl rfl
    · unfold publishIncomingEvent
      dsimp only
      split
      · exact .nothing rfl rfl
      · exact .nothing rfl rfl
    · exact publishTowardIceoryx2_pushed gw _ _ mapping
    · exact .nothing rfl rfl

theorem injectIceoryx2Sample_pushed (gw : Iceoryx2Gateway) (name : Text) (sample : Bytes)
    (answer : RpcSyncResult) :
    Pushed setup gw (injectIceoryx2Sample setup gw name sample answer).1
      (injectIceoryx2Sample setup gw name sample answer).2 := by
  unfold injectIceoryx2Sample
  split
  · exact .nothing rfl rfl
  · rename_i env _
    have hbridged := bridgeExternalToSomeip_pushed setup gw env answer
    have hpairs : publishedPairs (handleIncomingEnvelope setup gw env name answer).2 =
        publishedPairs (bridgeExternalToSomeip setup gw env answer).2 := by
      simp only [handleIncomingEnvelope, publishedPairs, List.filterMap_append]
      split_ifs
      · exact List.append_nil _
      · exact List.append_nil _
    unfold Pushed at hbridged ⊢
    rw [hpairs]
    exact hbridged

variable (setup) in
theorem step_pushed (gw : Iceoryx2Gateway) {input : Input} (h : input.isHandled = true) :
    Pushed setup gw (step setup gw input).1 (step setup gw input).2 := by
  cases input with
  | someipMessage msg => exact onSomeipMessage_pushed gw msg
  | datagram message =>
      cases message with
      | none => exact .nothing rfl rfl
      | some msg =>
          simp only [step]
          split_ifs
          · exact onSomeipMessage_pushed gw msg
          · exact .nothing rfl rfl
  | rpcServerCall serviceId method clientId sessionId params =>
      simp only [step]
      split_ifs
      · exact publishTowardIceoryx2_pushed gw _ _ _
      · exact .nothing rfl rfl
  | notification subscription n =>
      simp only [step]
      split_ifs
      · exact publishTowardIceoryx2_pushed gw _ _ _
      · exact .nothing rfl rfl
  | sample name sample answer => exact injectIceoryx2Sample_pushed gw name sample answer
  | _ => cases h

/-! ### Start and stop -/

theorem startComponents_bus {outcome : StartOutcome} {gw gw' : Iceoryx2Gateway}
    {subscribed : EventgroupSet} (h : startComponents setup outcome gw = .ok (gw', subscribed)) :
    gw'.inprocessBus = gw.inprocessBus := by
  obtain ⟨afterRpc, afterPublishers, afterSd, hrpc, hpublishers, hsd, hudp⟩ :=
    startComponents_phases setup h
  have hrpc := startRpcClient_ok setup hrpc
  obtain ⟨publishers, -, hpublishers⟩ := startPublishers_ok hpublishers
  rw [(startUdp_ok setup hudp).1, (startSd_ok setup hsd).1, hpublishers, hrpc]
  rfl

/-- The bus that goes with samples published since the gateway began to run. -/
def busOf (setup : Setup) (gw : Iceoryx2Gateway) (samples : List (Text × Bytes)) :
    Option InprocessBus :=
  if setup.config.useInprocessShmSimulation && gw.base.running then some (.holding samples)
  else none

theorem busOf_stopped {gw : Iceoryx2Gateway} (h : gw.base.running = false)
    (samples : List (Text × Bytes)) : busOf setup gw samples = none := by
  simp [busOf, h]

/-- A start from rest that brings the gateway up comes with an empty bus. -/
theorem start_bus (outcome : StartOutcome) {gw : Iceoryx2Gateway} (subscribed : EventgroupSet)
    (hstopped : gw.base.running = false) (hbus : gw.inprocessBus = none) :
    (start setup outcome gw subscribed).2.1.inprocessBus =
      busOf setup (start setup outcome gw subscribed).2.1 [] := by
  unfold start
  rw [if_neg (by simp [hstopped])]
  dsimp only
  cases outcome.subscriber with
  | false => exact (busOf_stopped hstopped []).symm
  | true =>
      simp only [Bool.not_true, Bool.false_eq_true, ↓reduceIte]
      split
      · exact (busOf_stopped rfl []).symm
      · rename_i gw' subscribed' hcomponents
        have hkept := startComponents_bus hcomponents
        dsimp only at hkept ⊢
        rw [hkept, hbus, busOf]
        cases setup.config.useInprocessShmSimulation with
        | true => rfl
        | false => rfl

/-! ### Whole runs -/

variable (setup)

/-- The samples published since the gateway last began to run. -/
def publishedSince (gw : Iceoryx2Gateway) (samples : List (Text × Bytes)) :
    List Input → List (Text × Bytes)
  | [] => samples
  | input :: rest =>
      let now := step setup gw input
      publishedSince now.1
        (if gw.base.running && now.1.base.running then samples ++ publishedPairs now.2 else []) rest

variable {setup}

variable (setup) in
/-- The bus holds what was published since, before and after the step. -/
def BusFollows (gw : Iceoryx2Gateway) (samples : List (Text × Bytes)) (input : Input) : Prop :=
  (step setup gw input).1.inprocessBus = busOf setup (step setup gw input).1
    (if gw.base.running && (step setup gw input).1.base.running then
      samples ++ publishedPairs (step setup gw input).2 else [])

theorem BusFollows.of_handled {gw : Iceoryx2Gateway} {samples : List (Text × Bytes)}
    {input : Input} (hbus : gw.inprocessBus = busOf setup gw samples)
    (h : input.isHandled = true) : BusFollows setup gw samples input := by
  have hpushed := step_pushed setup gw h
  unfold Pushed at hpushed
  rw [BusFollows, hpushed, hbus, busOf, busOf, (step_handled setup gw h).running]
  cases setup.config.useInprocessShmSimulation with
  | false => rfl
  | true =>
      cases gw.base.running with
      | false => rfl
      | true => exact congrArg some (InprocessBus.holding_pushAll _ _)

theorem BusFollows.of_quiet {gw : Iceoryx2Gateway} {samples : List (Text × Bytes)}
    {input : Input} (hbus : gw.inprocessBus = busOf setup gw samples)
    (hkept : (step setup gw input).1.inprocessBus = gw.inprocessBus)
    (hrunning : (step setup gw input).1.base.running = gw.base.running)
    (hquiet : (step setup gw input).2 = []) : BusFollows setup gw samples input := by
  rw [BusFollows, hkept, hbus, busOf, busOf, hrunning, hquiet]
  cases gw.base.running with
  | false => simp
  | true => simp [publishedPairs]

theorem step_bus (gw : Iceoryx2Gateway) (samples : List (Text × Bytes)) (input : Input)
    (hbus : gw.inprocessBus = busOf setup gw samples) : BusFollows setup gw samples input := by
  cases input with
  | start outcome subscribed =>
      cases hrunning : gw.base.running with
      | true =>
          have hsame : (step setup gw (.start outcome subscribed)).1 = gw := by
            simp only [step, start, hrunning, ↓reduceIte]
          exact .of_quiet hbus (by rw [hsame]) (by rw [hsame]) rfl
      | false =>
          rw [BusFollows, hrunning, Bool.false_and]
          rw [busOf_stopped hrunning] at hbus
          exact start_bus outcome subscribed hrunning hbus
  | stop => exact (busOf_stopped rfl _).symm
  | addServiceMapping mapping => exact .of_quiet hbus rfl rfl rfl
  | setIceoryx2OutboundHook installed => exact .of_quiet hbus rfl rfl rfl
  | setExternalMessageCallback installed => exact .of_quiet hbus rfl rfl rfl
  | serviceFound =>
      apply BusFollows.of_quiet hbus
      all_goals
        simp only [step]
        split_ifs
        · rfl
        · rfl
  | someipMessage msg => exact .of_handled hbus rfl
  | datagram message => exact .of_handled hbus rfl
  | rpcServerCall serviceId method clientId sessionId params => exact .of_handled hbus rfl
  | notification subscription n => exact .of_handled hbus rfl
  | sample name sample answer => exact .of_handled hbus rfl

theorem run_bus (gw : Iceoryx2Gateway) (samples : List (Text × Bytes)) (inputs : List Input)
    (hbus : gw.inprocessBus = busOf setup gw samples) :
    (Machine.run (step setup) gw inputs).1.inprocessBus =
      busOf setup (Machine.run (step setup) gw inputs).1
        (publishedSince setup gw samples inputs) := by
  induction inputs generalizing gw samples with
  | nil => exact hbus
  | cons input rest ih => exact ih _ _ (step_bus gw samples input hbus)

/-- Whatever is called on a new gateway: there is a bus exactly while it runs with
the simulation switched on, and the bus holds the latest 1024 samples published
since the gateway began to run, in their order. -/
theorem bus_holds_latest_samples (setup : Setup) (inputs : List Input) :
    (Machine.run (step setup) {} inputs).1.inprocessBus =
      if setup.config.useInprocessShmSimulation &&
          (Machine.run (step setup) {} inputs).1.base.running then
        some ⟨(publishedSince setup {} [] inputs).rtake 1024⟩
      else none :=
  run_bus {} [] inputs (busOf_stopped rfl []).symm

end

end SomeipGateway.Iceoryx2
