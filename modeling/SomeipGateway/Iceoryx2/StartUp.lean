import SomeipGateway.Iceoryx2.Lifecycle
import SomeipGateway.Lib.Registry

/-! What a start of the iceoryx2 gateway registers: methods and events by
collecting tables, event groups at most once each. The set that suppresses
duplicates belongs to the process, so the runs here are those of a process with
any number of gateways. -/
namespace SomeipGateway.Iceoryx2

open Lib

/-! ### The loops over the mappings -/

/-- The method ids on the server of each service. -/
def methodTable (servers : RpcServers) (serviceId : UInt16) : Option (List UInt16) :=
  (servers serviceId).map fun server => server.methods.map RpcMethod.methodId

/-- The event ids on the publisher of each service instance. -/
def eventTable (publishers : Publishers) (key : ServiceKey) : Option (List UInt16) :=
  (publishers key).map fun publisher => publisher.events.map EventConfig.eventId

def methodEntry (m : ServiceMapping) : UInt16 × List UInt16 :=
  (m.someipServiceId, m.someipMethodIds)

def eventEntry (m : ServiceMapping) : ServiceKey × List UInt16 :=
  (makeKey m.someipServiceId m.someipInstanceId, m.someipMethodIds)

/-- Service, instance and event group, as in `g_eventgroup_subscribed`. -/
def Subscription.key (subscription : Subscription) : UInt16 × UInt16 × UInt16 :=
  (subscription.mapping.someipServiceId, subscription.mapping.someipInstanceId,
    subscription.eventgroupId)

/-- The subscriptions the mappings ask for, repetitions included. -/
def wanted (mappings : List ServiceMapping) : List Subscription :=
  (mappings.filter shouldForwardToExternal).flatMap fun m => m.someipEventGroupIds.map (⟨m, ·⟩)

theorem methodTable_setupRpcServerForMapping (outcome : StartOutcome) (servers : RpcServers)
    (m : ServiceMapping) (position : Nat) (hserver : outcome.rpcServer position = true) :
    methodTable (setupRpcServerForMapping outcome servers (m, position)) =
      Registry.collect (methodTable servers) (methodEntry m) := by
  funext serviceId
  unfold setupRpcServerForMapping Registry.collect methodTable methodEntry
  dsimp only
  rw [hserver, Function.update_apply]
  cases servers m.someipServiceId with
  | none =>
      simp only [Bool.not_true, Bool.false_eq_true, ↓reduceIte, Function.update_apply]
      split_ifs <;> simp [Function.comp_def]
  | some server =>
      simp only [Function.update_apply]
      split_ifs <;> simp [Function.comp_def]

theorem methodTable_foldl (outcome : StartOutcome) (hserver : ∀ k, outcome.rpcServer k = true)
    (turns : List (ServiceMapping × Nat)) (servers : RpcServers) :
    methodTable (turns.foldl (setupRpcServerForMapping outcome) servers) =
      ((turns.map Prod.fst).map methodEntry).foldl Registry.collect (methodTable servers) := by
  induction turns generalizing servers with
  | nil => rfl
  | cons turn rest ih =>
      rw [List.foldl_cons, ih, List.map_cons, List.map_cons, List.foldl_cons,
        methodTable_setupRpcServerForMapping outcome servers turn.1 turn.2 (hserver turn.2)]

theorem eventTable_update (publishers : Publishers) (m : ServiceMapping)
    (publisher : EventPublisher)
    (hevents : (eventTable publishers (eventEntry m).1).getD [] =
      publisher.events.map EventConfig.eventId) :
    eventTable (Function.update publishers (makeKey m.someipServiceId m.someipInstanceId)
        (some (registerEvents m publisher))) =
      Registry.collect (eventTable publishers) (eventEntry m) := by
  funext key
  unfold Registry.collect
  rw [hevents]
  unfold eventTable eventEntry registerEvents
  rw [Function.update_apply, Function.update_apply]
  split_ifs
  · simp [Function.comp_def]
  · rfl

theorem eventTable_addEventPublisher {outcome : StartOutcome} {publishers publishers' : Publishers}
    {turn : ServiceMapping × Nat}
    (h : addEventPublisher outcome publishers turn = .ok publishers') :
    eventTable publishers' =
      if shouldForwardToSomeip turn.1 then
        Registry.collect (eventTable publishers) (eventEntry turn.1)
      else eventTable publishers := by
  obtain ⟨m, position⟩ := turn
  unfold addEventPublisher at h
  dsimp only at h ⊢
  cases hforward : shouldForwardToSomeip m with
  | false =>
      rw [hforward] at h
      cases h
      rfl
  | true =>
      rw [hforward] at h
      rw [if_pos rfl]
      simp only [Bool.not_true, Bool.false_eq_true, ↓reduceIte] at h
      cases hkey : publishers (makeKey m.someipServiceId m.someipInstanceId) with
      | some publisher =>
          rw [hkey] at h
          cases h
          exact eventTable_update publishers m publisher (by simp [eventTable, eventEntry, hkey])
      | none =>
          rw [hkey] at h
          dsimp only at h
          split_ifs at h
          cases h
          exact eventTable_update publishers m _ (by simp [eventTable, eventEntry, hkey])

theorem eventTable_foldlM {outcome : StartOutcome} {turns : List (ServiceMapping × Nat)}
    {publishers publishers' : Publishers}
    (h : turns.foldlM (addEventPublisher outcome) publishers = .ok publishers') :
    eventTable publishers' =
      (((turns.map Prod.fst).filter shouldForwardToSomeip).map eventEntry).foldl Registry.collect
        (eventTable publishers) := by
  induction turns generalizing publishers with
  | nil =>
      cases h
      rfl
  | cons turn rest ih =>
      rw [List.foldlM_cons] at h
      obtain ⟨middle, hturn, hrest⟩ := Phases.bind_eq_ok.mp h
      rw [ih hrest, eventTable_addEventPublisher hturn, List.map_cons, List.filter_cons]
      split_ifs
      · rfl
      · rfl

theorem subscribeEventgroup_eq (m : ServiceMapping) (state : List Subscription × EventgroupSet)
    (eg : UInt16) :
    subscribeEventgroup m state eg = Registry.takeOnce Subscription.key state ⟨m, eg⟩ := by
  unfold subscribeEventgroup Registry.takeOnce Subscription.key
  by_cases hseen : (m.someipServiceId, m.someipInstanceId, eg) ∈ state.2
  · simp only [if_pos hseen]
  · simp only [if_neg hseen]

theorem foldl_setupEventSubscriptions (mappings : List ServiceMapping)
    (state : List Subscription × EventgroupSet) :
    mappings.foldl setupEventSubscriptionsForMapping state =
      (wanted mappings).foldl (Registry.takeOnce Subscription.key) state := by
  induction mappings generalizing state with
  | nil => rfl
  | cons m rest ih =>
      rw [List.foldl_cons, ih]
      unfold setupEventSubscriptionsForMapping wanted
      rw [List.filter_cons]
      cases hforward : shouldForwardToExternal m with
      | false => rfl
      | true =>
          simp only [Bool.not_true, Bool.false_eq_true, ↓reduceIte, List.flatMap_cons,
            List.foldl_append, List.foldl_map, ← subscribeEventgroup_eq]

theorem mem_wanted_key {mappings : List ServiceMapping} {key : UInt16 × UInt16 × UInt16} :
    (∃ subscription ∈ wanted mappings, subscription.key = key) ↔
      ∃ m ∈ mappings, shouldForwardToExternal m = true ∧ m.someipServiceId = key.1 ∧
        m.someipInstanceId = key.2.1 ∧ key.2.2 ∈ m.someipEventGroupIds := by
  unfold wanted
  simp only [List.mem_flatMap, List.mem_filter, List.mem_map]
  constructor
  · rintro ⟨subscription, ⟨m, ⟨hm, hforward⟩, eg, heg, rfl⟩, rfl⟩
    exact ⟨m, hm, hforward, rfl, rfl, heg⟩
  · rintro ⟨m, hm, hforward, hservice, hinstance, heg⟩
    refine ⟨⟨m, key.2.2⟩, ⟨m, ⟨hm, hforward⟩, key.2.2, heg, rfl⟩, ?_⟩
    unfold Subscription.key
    rw [hservice, hinstance]

/-! ### What a successful start leaves behind -/

def subscriptionsOf (gw : Iceoryx2Gateway) : List Subscription :=
  (gw.eventSubscriber.map EventSubscriber.subscriptions).getD []

/-- Every mapping is covered, and nothing else is there: the server of a service
has the methods of all its mappings, the publisher of an instance has the events
of its inbound mappings, and each event group of the outbound mappings is
subscribed once. -/
structure Covered (mappings : List ServiceMapping) (gw : Iceoryx2Gateway) : Prop where
  servers : ∀ serviceId, (gw.rpcServers serviceId).isSome = true ↔
    ∃ m ∈ mappings, m.someipServiceId = serviceId
  methods : ∀ serviceId methodId,
    methodId ∈ (methodTable gw.rpcServers serviceId).getD [] ↔
      ∃ m ∈ mappings, m.someipServiceId = serviceId ∧ methodId ∈ m.someipMethodIds
  publishers : ∀ key, (gw.eventPublishers key).isSome = true ↔
    ∃ m ∈ mappings, shouldForwardToSomeip m = true ∧
      makeKey m.someipServiceId m.someipInstanceId = key
  events : ∀ key eventId, eventId ∈ (eventTable gw.eventPublishers key).getD [] ↔
    ∃ m ∈ mappings, shouldForwardToSomeip m = true ∧
      makeKey m.someipServiceId m.someipInstanceId = key ∧ eventId ∈ m.someipMethodIds
  once : ((subscriptionsOf gw).map Subscription.key).Nodup
  subscribed : ∀ key, key ∈ (subscriptionsOf gw).map Subscription.key ↔
    ∃ m ∈ mappings, shouldForwardToExternal m = true ∧ m.someipServiceId = key.1 ∧
      m.someipInstanceId = key.2.1 ∧ key.2.2 ∈ m.someipEventGroupIds

theorem methodTable_started {outcome : StartOutcome} {before after : Iceoryx2Gateway}
    (hserver : ∀ k, outcome.rpcServer k = true) (hdown : Down before)
    (h : Started outcome before after) :
    methodTable after.rpcServers =
      (before.base.serviceMappings.map methodEntry).foldl Registry.collect fun _ => none := by
  have hempty : methodTable before.rpcServers = fun _ => none := by
    funext serviceId
    unfold methodTable
    rw [hdown.rpcServers, Option.map_none]
  rw [h.rpcServers, methodTable_foldl outcome hserver, hempty, List.zipIdx_map_fst]

theorem eventTable_started {outcome : StartOutcome} {before after : Iceoryx2Gateway}
    (hdown : Down before) (h : Started outcome before after) :
    eventTable after.eventPublishers =
      ((before.base.serviceMappings.filter shouldForwardToSomeip).map eventEntry).foldl
        Registry.collect fun _ => none := by
  have hempty : eventTable before.eventPublishers = fun _ => none := by
    funext key
    unfold eventTable
    rw [hdown.publishers, Option.map_none]
  rw [eventTable_foldlM h.publishers, hempty, List.zipIdx_map_fst]

/-- There is a publisher for the instances of the inbound mappings, and for no
others. -/
theorem Started.publisher_iff {outcome : StartOutcome} {before after : Iceoryx2Gateway}
    (h : Started outcome before after) (hdown : Down before) (key : ServiceKey) :
    (after.eventPublishers key).isSome = true ↔
      ∃ m ∈ before.base.serviceMappings, shouldForwardToSomeip m = true ∧
        makeKey m.someipServiceId m.someipInstanceId = key := by
  have hsome : (after.eventPublishers key).isSome =
      (eventTable after.eventPublishers key).isSome := by simp [eventTable]
  rw [hsome, eventTable_started hdown h, Registry.isSome_foldl_collect]
  simp only [Option.isSome_none, Bool.false_eq_true, false_or, List.mem_map, List.mem_filter,
    exists_exists_and_eq_and, eventEntry]
  simp only [and_assoc]

theorem subscriptionsOf_started {outcome : StartOutcome} {before after : Iceoryx2Gateway}
    (h : Started outcome before after) :
    subscriptionsOf after = ((wanted before.base.serviceMappings).foldl
      (Registry.takeOnce Subscription.key) ([], [])).1 := by
  unfold subscriptionsOf
  rw [h.subscriptions, foldl_setupEventSubscriptions]
  rfl

theorem Started.covered {outcome : StartOutcome} {before after : Iceoryx2Gateway}
    (hserver : ∀ k, outcome.rpcServer k = true) (hdown : Down before)
    (h : Started outcome before after) : Covered before.base.serviceMappings after := by
  have hmethods := methodTable_started hserver hdown h
  have hevents := eventTable_started hdown h
  have hsubscriptions := subscriptionsOf_started h
  obtain ⟨honce, hmem⟩ := Registry.foldl_takeOnce Subscription.key
    (wanted before.base.serviceMappings) ([], []) ⟨List.nodup_nil, by simp⟩
  constructor
  · intro serviceId
    have hsome : (after.rpcServers serviceId).isSome =
        (methodTable after.rpcServers serviceId).isSome := by simp [methodTable]
    rw [hsome, hmethods, Registry.isSome_foldl_collect]
    simp only [Option.isSome_none, Bool.false_eq_true, false_or, List.mem_map,
      exists_exists_and_eq_and, methodEntry]
  · intro serviceId methodId
    rw [hmethods, Registry.mem_foldl_collect]
    simp only [Option.getD_none, List.not_mem_nil, false_or, List.mem_map,
      exists_exists_and_eq_and, methodEntry]
  · exact h.publisher_iff hdown
  · intro key eventId
    rw [hevents, Registry.mem_foldl_collect]
    simp only [Option.getD_none, List.not_mem_nil, false_or, List.mem_map, List.mem_filter,
      exists_exists_and_eq_and, eventEntry]
    simp only [and_assoc]
  · rw [hsubscriptions]
    exact honce
  · intro key
    rw [hsubscriptions, hmem, mem_wanted_key]
    simp

/-! ### A process with several gateways -/

section

variable {ν : Type} [DecidableEq ν] (setups : ν → Setup)

structure Process (ν : Type) where
  gateways : ν → Iceoryx2Gateway
  subscribed : EventgroupSet := []

/-- Complete calls of `start()` and `stop()`. Every `initialize()` succeeds; the
SD offers and the UDP transport may not. -/
inductive ProcessCall (ν : Type) where
  | start (gateway : ν) (offer : Nat → Bool) (udpStart : Result)
  | stop (gateway : ν)

def processStep (process : Process ν) : ProcessCall ν → Process ν × List Unit
  | .start gateway offer udpStart =>
      let (_, gw, subscribed) := start (setups gateway) { offer, udpStart }
        (process.gateways gateway) process.subscribed
      ({ gateways := Function.update process.gateways gateway gw, subscribed }, [])
  | .stop gateway =>
      ({ gateways := Function.update process.gateways gateway
          (stop (process.gateways gateway)).2 }, [])

/-- A process whose gateways are new, each with its mapping list. -/
def newProcess (mappings : ν → List ServiceMapping) : Process ν where
  gateways gateway := { base := { serviceMappings := mappings gateway } }

/-- Between two calls a gateway is down or up, and covered if it is up. -/
structure Settled (setup : Setup) (mappings : List ServiceMapping) (gw : Iceoryx2Gateway) :
    Prop where
  lifecycle : AllOrNothing setup gw
  kept : gw.base.serviceMappings = mappings
  covered : gw.base.running = true → Covered mappings gw

theorem Settled.start {setup : Setup} {mappings : List ServiceMapping} {gw : Iceoryx2Gateway}
    (h : Settled setup mappings gw) (offer : Nat → Bool) (udpStart : Result)
    (subscribed : EventgroupSet) :
    Settled setup mappings (start setup { offer, udpStart } gw subscribed).2.1 ∧
      ((start setup { offer, udpStart } gw subscribed).1 = .success →
        Covered mappings (start setup { offer, udpStart } gw subscribed).2.1) := by
  have hlifecycle : AllOrNothing setup
      (Iceoryx2.start setup { offer, udpStart } gw subscribed).2.1 := by
    rcases start_cases setup { offer, udpStart } gw subscribed h.lifecycle with
      ⟨-, hup⟩ | ⟨-, hdown⟩
    · exact .inl hup
    · exact .inr hdown
  obtain ⟨hrunning, heq⟩ | ⟨-, hresult, hgaveUp⟩ | ⟨hrunning, -, hstarted⟩ :=
    start_parts setup { offer, udpStart } gw subscribed
  · rw [heq]
    exact ⟨h, fun _ => h.covered hrunning⟩
  · refine ⟨⟨hlifecycle, hgaveUp.mappings.trans h.kept, ?_⟩, fun hsuccess => ?_⟩
    · intro hrun
      rw [hgaveUp.running] at hrun
      cases hrun
    · exact absurd hsuccess hresult
  · have hdown : Down gw := by
      rcases h.lifecycle with hup | hdown
      · have hrun := hup.running
        rw [hrunning] at hrun
        cases hrun
      · exact hdown
    have hcovered := hstarted.covered (fun _ => rfl) hdown
    rw [h.kept] at hcovered
    refine ⟨⟨hlifecycle, ?_, fun _ => hcovered⟩, fun _ => hcovered⟩
    rw [hstarted.base]
    exact h.kept

theorem Settled.stop {setup : Setup} {mappings : List ServiceMapping} {gw : Iceoryx2Gateway}
    (h : Settled setup mappings gw) : Settled setup mappings (stop gw).2 :=
  ⟨.inr (stop_down gw), h.kept, fun hrun => nomatch hrun⟩

theorem processStep_settled (mappings : ν → List ServiceMapping) (process : Process ν)
    (call : ProcessCall ν)
    (h : ∀ gateway, Settled (setups gateway) (mappings gateway) (process.gateways gateway)) :
    ∀ gateway, Settled (setups gateway) (mappings gateway)
      ((processStep setups process call).1.gateways gateway) := by
  intro gateway
  cases call with
  | start started offer udpStart =>
      simp only [processStep, Function.update_apply]
      split_ifs with hsame
      · subst hsame
        exact ((h gateway).start offer udpStart process.subscribed).1
      · exact h gateway
  | stop stopped =>
      simp only [processStep, Function.update_apply]
      split_ifs with hsame
      · subst hsame
        exact (h gateway).stop
      · exact h gateway

/-- The `subscribe_eventgroup` calls of one `start()`, read off the subscriber: what
it has afterwards beyond what it had. -/
def issuedBy (before after : Iceoryx2Gateway) : List Subscription :=
  (subscriptionsOf after).drop (subscriptionsOf before).length

/-- A gateway that is not running has no subscriber yet. -/
theorem Settled.subscriptions_stopped {setup : Setup} {mappings : List ServiceMapping}
    {gw : Iceoryx2Gateway} (h : Settled setup mappings gw) (hstopped : gw.base.running = false) :
    subscriptionsOf gw = [] := by
  rcases h.lifecycle with hup | hdown
  · have hrun := hup.running
    rw [hstopped] at hrun
    cases hrun
  · unfold subscriptionsOf
    rw [hdown.subscriber]
    rfl

/-- For any sequence of complete `start()` and `stop()` calls of any number of
gateways: whenever `start()` then answers `SUCCESS`, the gateway is covered; the
subscriptions were issued by this start, unless it found the gateway running, in
which case it issued none and changed nothing. -/
theorem start_covers_mappings (mappings : ν → List ServiceMapping) (calls : List (ProcessCall ν))
    (gateway : ν) (offer : Nat → Bool) (udpStart : Result) :
    let process := (Machine.run (processStep setups) (newProcess mappings) calls).1
    let before := process.gateways gateway
    let answer := start (setups gateway) { offer, udpStart } before process.subscribed
    answer.1 = .success →
      Covered (mappings gateway) answer.2.1 ∧
        (before.base.running = false → issuedBy before answer.2.1 = subscriptionsOf answer.2.1) ∧
        (before.base.running = true →
          issuedBy before answer.2.1 = [] ∧ answer.2.1 = before) := by
  intro process before answer hsuccess
  have hnew : ∀ gateway, Settled (setups gateway) (mappings gateway)
      ((newProcess mappings).gateways gateway) := by
    intro gateway
    refine ⟨.inr ?_, rfl, fun hrun => nomatch hrun⟩
    exact ⟨rfl, rfl, fun _ => rfl, rfl, fun _ => rfl, rfl, rfl, rfl, rfl, rfl⟩
  have hsettled := Machine.run_invariant (processStep setups)
    (processStep_settled setups mappings) (newProcess mappings) calls hnew
  refine ⟨((hsettled gateway).start offer udpStart process.subscribed).2 hsuccess, ?_, ?_⟩
  · intro hstopped
    unfold issuedBy
    rw [(hsettled gateway).subscriptions_stopped hstopped]
    rfl
  · intro hrunning
    have hsame : answer.2.1 = before := by
      obtain ⟨-, heq⟩ | ⟨hstopped, -⟩ | ⟨hstopped, -⟩ :=
        start_parts (setups gateway) { offer, udpStart } before process.subscribed
      · exact congrArg (fun answer => answer.2.1) heq
      · rw [hrunning] at hstopped
        cases hstopped
      · rw [hrunning] at hstopped
        cases hstopped
    refine ⟨?_, hsame⟩
    unfold issuedBy
    rw [hsame, List.drop_length]

end

/-! ### One gateway -/

def radarSetup : Setup where
  config := { enableSdProxy := false }
  cls := .exact
  wire := .bigEndian

def radarMapping : ServiceMapping where
  someipServiceId := 0x5000
  someipInstanceId := 0x0001
  someipMethodIds := [0x0001]
  someipEventGroupIds := [0x0001]

theorem start_covers_radar :
    Covered [radarMapping] (start radarSetup {}
      { base := { serviceMappings := [radarMapping] } } []).2.1 :=
  (start_covers_mappings (fun _ : Unit => radarSetup) (fun _ => [radarMapping]) [] ()
    (fun _ => true) .success rfl).1

/-- A second `start()` answers `SUCCESS` and subscribes nothing. -/
theorem second_start_issues_nothing :
    ¬ ∀ (calls : List (ProcessCall Unit)),
      let process := (Machine.run (processStep fun _ => radarSetup)
        (newProcess fun _ => [radarMapping]) calls).1
      let answer := start radarSetup {} (process.gateways ()) process.subscribed
      answer.1 = .success →
        (0x5000, 0x0001, 0x0001) ∈
          (issuedBy (process.gateways ()) answer.2.1).map Subscription.key := by
  intro h
  have hsecond := h [.start () (fun _ => true) .success] rfl
  exact absurd hsecond (by decide)

end SomeipGateway.Iceoryx2
