import SomeipGateway.Grpc.Gateway
import SomeipGateway.Zenoh.Gateway

/-! What is left of the Zenoh and gRPC gateways when `start()` gave up and
`stop()` was called after it. Both look at the running flag, which is set last,
so `stop()` undoes nothing; the question is what had come up by then. -/
namespace SomeipGateway

open Lib

namespace Zenoh

variable {σ κ : Type}

/-- Every component is released, as by the constructor and by `stop()`. -/
structure Released (gw : ZenohGateway σ) : Prop where
  running : gw.base.running = false
  udp : gw.udp = none
  sdClient : gw.sdClient = none
  sdServer : gw.sdServer = none
  eventPublishers : gw.eventPublishers = []
  eventSubscriber : gw.eventSubscriber = none
  rpcServer : gw.rpcServer = none
  rpcClient : gw.rpcClient = none
  session : gw.session = false

/-- No component is left initialised; an object that never came up may be there. -/
structure Idle (gw : ZenohGateway σ) : Prop where
  running : gw.base.running = false
  udp : ∀ component ∈ gw.udp, component.initialised = false
  sdClient : ∀ component ∈ gw.sdClient, component.initialised = false
  sdServer : ∀ server ∈ gw.sdServer, server.initialised = false
  eventPublishers : ∀ publisher ∈ gw.eventPublishers, publisher.initialised = false
  eventSubscriber : ∀ subscriber ∈ gw.eventSubscriber, subscriber.initialised = false
  rpcServer : ∀ server ∈ gw.rpcServer, server.initialised = false
  rpcClient : ∀ component ∈ gw.rpcClient, component.initialised = false
  session : gw.session = false

theorem fresh_released (setup : Setup σ κ) (mappings : List ServiceMapping) (e2e : σ) :
    Released (fresh setup mappings e2e) := ⟨rfl, rfl, rfl, rfl, rfl, rfl, rfl, rfl, rfl⟩

theorem stop_released (gw : ZenohGateway σ) (hrunning : gw.base.running = true) :
    Released (stop gw).2 := by
  simp only [stop, hrunning, Bool.not_true, Bool.false_eq_true, ↓reduceIte]
  exact ⟨rfl, rfl, rfl, rfl, rfl, rfl, rfl, rfl, rfl⟩

/-! ### The loops of `start()` -/

section

variable (outcome : StartOutcome)

/-- A publisher is up exactly if its `initialize()` said so. -/
def AsReported (publishers : List EventPublisher) : Prop :=
  ∀ publisher ∈ publishers, publisher.initialised =
    outcome.initializes (.eventPublisher publisher.serviceId publisher.instanceId)

theorem addEventPublisher_asReported {publishers : List EventPublisher} (map : ServiceMapping)
    (h : AsReported outcome publishers) :
    AsReported outcome (addEventPublisher outcome publishers map) := by
  unfold addEventPublisher
  split_ifs
  · exact h
  · intro publisher hmem
    rcases List.mem_append.mp hmem with hold | hnew
    · exact h publisher hold
    · rw [List.mem_singleton.mp hnew]

theorem addEventPublisher_idle_iff {publishers : List EventPublisher} (map : ServiceMapping)
    (h : AsReported outcome publishers) :
    (∀ publisher ∈ addEventPublisher outcome publishers map, publisher.initialised = false) ↔
      (∀ publisher ∈ publishers, publisher.initialised = false) ∧
        outcome.initializes (.eventPublisher map.someipServiceId map.someipInstanceId) = false := by
  unfold addEventPublisher
  split_ifs with hany
  · -- the mapping shares a publisher, which reports for it
    obtain ⟨publisher, hmem, hpair⟩ := List.any_eq_true.mp hany
    simp only [Bool.and_eq_true, beq_iff_eq] at hpair
    refine ⟨fun hidle => ⟨hidle, ?_⟩, And.left⟩
    rw [← hpair.1, ← hpair.2, ← h publisher hmem]
    exact hidle publisher hmem
  · rw [List.forall_mem_append, List.forall_mem_singleton]

theorem publishers_idle_iff (mappings : List ServiceMapping) (publishers : List EventPublisher)
    (h : AsReported outcome publishers) :
    (∀ publisher ∈ mappings.foldl (addEventPublisher outcome) publishers,
        publisher.initialised = false) ↔
      (∀ publisher ∈ publishers, publisher.initialised = false) ∧
        ∀ map ∈ mappings, outcome.initializes
          (.eventPublisher map.someipServiceId map.someipInstanceId) = false := by
  induction mappings generalizing publishers with
  | nil => simp
  | cons map rest ih =>
      rw [List.foldl_cons, ih _ (addEventPublisher_asReported outcome map h),
        addEventPublisher_idle_iff outcome map h, List.forall_mem_cons, and_assoc]

/-- The first mapping with methods brings the RPC server, and no later one another. -/
theorem rpcServer_idle_iff (mappings : List ServiceMapping) (serviceId : UInt16) :
    (∀ server ∈ (mappings.foldl (addRpcServer outcome) (none, serviceId)).1,
        server.initialised = false) ↔
      ((∃ map ∈ mappings, map.someipMethodIds ≠ []) → outcome.initializes .rpcServer = false) := by
  have hkept (server : RpcServer) (id : UInt16) (mappings : List ServiceMapping) :
      mappings.foldl (addRpcServer outcome) (some server, id) = (some server, id) := by
    induction mappings with
    | nil => rfl
    | cons map rest ih => exact ih
  induction mappings with
  | nil => simp
  | cons map rest ih =>
      rw [List.foldl_cons]
      by_cases hmethods : map.someipMethodIds = []
      · simpa [addRpcServer, hmethods] using ih
      · simp [addRpcServer, hmethods, hkept]

end

/-! ### Where `start()` gives up -/

section

variable (setup : Setup σ κ) (outcome : StartOutcome)

def UdpFails : Prop := setup.config.enableUdpTransport = true ∧ outcome.udpStart ≠ .success

/-- Nothing that `start()` tried before it gave up had come up. -/
structure NothingUp (mappings : List ServiceMapping) : Prop where
  sd : setup.config.enableServiceDiscovery = true →
    outcome.initializes .sdClient = false ∧ outcome.initializes .sdServer = false
  rest : ¬UdpFails setup outcome →
    setup.config.enableUdpTransport = false ∧
    outcome.initializes .rpcClient = false ∧
    outcome.initializes .eventSubscriber = false ∧
    (∀ map ∈ mappings,
      outcome.initializes (.eventPublisher map.someipServiceId map.someipInstanceId) = false) ∧
    ((∃ map ∈ mappings, map.someipMethodIds ≠ []) → outcome.initializes .rpcServer = false)

theorem start_gave_up {gw : ZenohGateway σ} {result : Result} (hrunning : gw.base.running = false)
    (hresult : (start setup outcome gw).1 = some result) (herror : result ≠ .success) :
    UdpFails setup outcome ∧ (start setup outcome gw).2 = startTransports setup outcome gw ∨
      ¬UdpFails setup outcome ∧
        (start setup outcome gw).2 = startSomeip outcome (startTransports setup outcome gw) := by
  simp only [start, hrunning, Bool.false_eq_true, ↓reduceIte] at hresult ⊢
  by_cases hudp : setup.config.enableUdpTransport = true ∧ outcome.udpStart ≠ .success
  · left
    rw [if_pos hudp]
    exact ⟨hudp, rfl⟩
  · right
    rw [if_neg hudp] at hresult ⊢
    refine ⟨hudp, ?_⟩
    split_ifs at hresult ⊢
    · rfl
    · cases hresult
      exact absurd rfl herror

theorem sd_idle_iff {gw : ZenohGateway σ} (h : Released gw) :
    (∀ component ∈ (startTransports setup outcome gw).sdClient, component.initialised = false) ∧
        (∀ server ∈ (startTransports setup outcome gw).sdServer, server.initialised = false) ↔
      (setup.config.enableServiceDiscovery = true →
        outcome.initializes .sdClient = false ∧ outcome.initializes .sdServer = false) := by
  cases hsd : setup.config.enableServiceDiscovery with
  | false => simp [startTransports, hsd, h.sdClient, h.sdServer]
  | true => simp [startTransports, hsd]

theorem udp_idle_iff {gw : ZenohGateway σ} (h : Released gw) :
    (∀ component ∈ (startTransports setup outcome gw).udp, component.initialised = false) ↔
      (setup.config.enableUdpTransport = true → outcome.udpStart ≠ .success) := by
  cases hudp : setup.config.enableUdpTransport with
  | false => simp [startTransports, hudp, h.udp]
  | true => simp [startTransports, hudp]

theorem startTransports_idle_iff {gw : ZenohGateway σ} (h : Released gw)
    (hudp : UdpFails setup outcome) :
    Idle (startTransports setup outcome gw) ↔ NothingUp setup outcome gw.base.serviceMappings := by
  constructor
  · intro hidle
    exact ⟨(sd_idle_iff setup outcome h).mp ⟨hidle.sdClient, hidle.sdServer⟩,
      fun hnot => absurd hudp hnot⟩
  · intro hnothing
    obtain ⟨hsdClient, hsdServer⟩ := (sd_idle_iff setup outcome h).mpr hnothing.sd
    refine ⟨h.running, ?_, hsdClient, hsdServer, ?_, ?_, ?_, ?_, h.session⟩
    · exact (udp_idle_iff setup outcome h).mpr fun _ => hudp.2
    · simp [startTransports, h.eventPublishers]
    · simp [startTransports, h.eventSubscriber]
    · simp [startTransports, h.rpcServer]
    · simp [startTransports, h.rpcClient]

theorem someipPublishers_idle_iff {gw : ZenohGateway σ} (h : Released gw) :
    (∀ publisher ∈ (startSomeip outcome (startTransports setup outcome gw)).eventPublishers,
        publisher.initialised = false) ↔
      ∀ map ∈ gw.base.serviceMappings,
        outcome.initializes (.eventPublisher map.someipServiceId map.someipInstanceId) = false := by
  simp only [startSomeip, startTransports, h.eventPublishers]
  rw [publishers_idle_iff outcome _ [] nofun]
  exact ⟨And.right, fun hpairs => ⟨nofun, hpairs⟩⟩

theorem registerMethods_initialised (mappings : List ServiceMapping) (serviceId : UInt16)
    (server : RpcServer) :
    (registerMethods mappings serviceId server).initialised = server.initialised := rfl

theorem someipRpcServer_idle_iff {gw : ZenohGateway σ} (h : Released gw) :
    (∀ server ∈ (startSomeip outcome (startTransports setup outcome gw)).rpcServer,
        server.initialised = false) ↔
      ((∃ map ∈ gw.base.serviceMappings, map.someipMethodIds ≠ []) →
        outcome.initializes .rpcServer = false) := by
  simp only [startSomeip, startTransports, h.rpcServer, Option.mem_map]
  rw [← rpcServer_idle_iff outcome _ gw.rpcServerServiceId]
  constructor
  · intro hidle server hmem
    rw [← registerMethods_initialised gw.base.serviceMappings]
    exact hidle _ ⟨server, hmem, rfl⟩
  · rintro hidle _ ⟨server, hmem, rfl⟩
    exact hidle server hmem

theorem startSomeip_idle_iff {gw : ZenohGateway σ} (h : Released gw)
    (hudp : ¬UdpFails setup outcome) :
    Idle (startSomeip outcome (startTransports setup outcome gw)) ↔
      NothingUp setup outcome gw.base.serviceMappings := by
  have hsd := sd_idle_iff setup outcome h
  constructor
  · intro hidle
    refine ⟨hsd.mp ⟨hidle.sdClient, hidle.sdServer⟩, fun _ => ⟨?_, ?_, ?_, ?_, ?_⟩⟩
    · -- an enabled transport that did not fail has been started
      cases henabled : setup.config.enableUdpTransport with
      | false => rfl
      | true =>
          have hstopped := (udp_idle_iff setup outcome h).mp hidle.udp henabled
          exact absurd ⟨henabled, hstopped⟩ hudp
    · exact hidle.rpcClient _ rfl
    · exact hidle.eventSubscriber _ rfl
    · exact (someipPublishers_idle_iff setup outcome h).mp hidle.eventPublishers
    · exact (someipRpcServer_idle_iff setup outcome h).mp hidle.rpcServer
  · intro hnothing
    obtain ⟨hsdClient, hsdServer⟩ := hsd.mpr hnothing.sd
    obtain ⟨hdisabled, hclient, hsubscriber, hpairs, hmethods⟩ := hnothing.rest hudp
    refine ⟨h.running, ?_, hsdClient, hsdServer, ?_, ?_, ?_, ?_, h.session⟩
    · apply (udp_idle_iff setup outcome h).mpr
      intro henabled
      cases hdisabled.symm.trans henabled
    · exact (someipPublishers_idle_iff setup outcome h).mpr hpairs
    · intro subscriber hmem
      cases hmem
      exact hsubscriber
    · exact (someipRpcServer_idle_iff setup outcome h).mpr hmethods
    · intro component hmem
      cases hmem
      exact hclient

theorem stop_of_not_running (gw : ZenohGateway σ) (h : gw.base.running = false) :
    (stop gw).2 = gw := by
  simp only [stop, h, Bool.not_false, ↓reduceIte]

theorem failed_start_idle_iff {gw : ZenohGateway σ} {result : Result} (h : Released gw)
    (hresult : (start setup outcome gw).1 = some result) (herror : result ≠ .success) :
    Idle (stop (start setup outcome gw).2).2 ↔
      NothingUp setup outcome gw.base.serviceMappings := by
  rcases start_gave_up setup outcome h.running hresult herror with ⟨hudp, hleft⟩ | ⟨hudp, hleft⟩
  · rw [hleft, stop_of_not_running (startTransports setup outcome gw) h.running]
    exact startTransports_idle_iff setup outcome h hudp
  · have hrunning : (startSomeip outcome (startTransports setup outcome gw)).base.running = false :=
      h.running
    rw [hleft, stop_of_not_running _ hrunning]
    exact startSomeip_idle_iff setup outcome h hudp

end

end Zenoh

namespace Grpc

/-- As the constructor and `stop()` leave the gateway. -/
structure Released (gw : GrpcGateway) : Prop where
  running : gw.base.running = false
  rpcClient : gw.rpcClient.initialised = false
  eventSubscriber : gw.eventSubscriber.initialised = false
  sdClient : gw.sdClient = none
  sdServer : gw.sdServer = none
  e2eProtection : gw.e2eProtection = false
  grpcService : gw.grpcService = false
  grpcServer : gw.grpcServer = false

structure Idle (gw : GrpcGateway) : Prop where
  running : gw.base.running = false
  rpcClient : gw.rpcClient.initialised = false
  eventSubscriber : gw.eventSubscriber.initialised = false
  sdClient : ∀ component ∈ gw.sdClient, component.initialised = false
  sdServer : ∀ component ∈ gw.sdServer, component.initialised = false
  e2eProtection : gw.e2eProtection = false
  grpcService : gw.grpcService = false
  grpcServer : gw.grpcServer = false

theorem new_gateway_released : Released {} := ⟨rfl, rfl, rfl, rfl, rfl, rfl, rfl, rfl⟩

theorem stop_released (gw : GrpcGateway) (hrunning : gw.base.running = true) :
    Released (stop gw).2 := by
  simp only [stop, hrunning, Bool.not_true, Bool.false_eq_true, ↓reduceIte]
  exact ⟨rfl, rfl, rfl, rfl, rfl, rfl, rfl, rfl⟩

theorem stop_of_not_running (gw : GrpcGateway) (h : gw.base.running = false) :
    (stop gw).2 = gw := by
  simp only [stop, h, Bool.not_false, ↓reduceIte]

/-- The RPC client comes first: only if it is what failed is there nothing left. -/
theorem failed_start_idle_iff (setup : Setup) (outcome : StartOutcome) {gw : GrpcGateway}
    (h : Released gw) (herror : (start setup outcome gw).1 ≠ .success) :
    Idle (stop (start setup outcome gw).2).2 ↔ outcome.rpcClient = false := by
  have hfirst := startRpcClient_grows outcome gw
  have hlater := startComponents_grows setup outcome gw
  have hrunning : (Phases.left (startComponents setup outcome gw)).base.running = false := by
    rw [hlater.base, hfirst.base]
    exact h.running
  rw [start_failed setup h.running herror, stop_of_not_running _ hrunning]
  constructor
  · intro hidle
    cases hclient : outcome.rpcClient with
    | false => rfl
    | true =>
        have hup : (Phases.left (startRpcClient outcome gw)).rpcClient.initialised = true := by
          simp [startRpcClient, hclient, Component.afterInitialize]
        cases hidle.rpcClient.symm.trans (hlater.rpcClient hup)
  · intro hclient
    have hleft : Phases.left (startComponents setup outcome gw) =
        { gw with rpcClient := gw.rpcClient.afterInitialize false } := by
      simp only [startComponents, startRpcClient, hclient]
      rfl
    rw [hleft]
    refine ⟨h.running, ?_, h.eventSubscriber, ?_, ?_, h.e2eProtection, h.grpcService, h.grpcServer⟩
    · simp [Component.afterInitialize, h.rpcClient]
    · simp [h.sdClient]
    · simp [h.sdServer]

end Grpc

/-- A failed `start()` followed by `stop()` leaves no component initialised in
exactly these cases: for Zenoh, nothing came up before the call that failed; for
gRPC, the call that failed is the first. -/
theorem failed_start_undone_iff {σ κ : Type} (zenohSetup : Zenoh.Setup σ κ)
    (zenohOutcome : Zenoh.StartOutcome) (zenoh : Zenoh.ZenohGateway σ) (result : Result)
    (grpcSetup : Grpc.Setup) (grpcOutcome : Grpc.StartOutcome) (grpc : Grpc.GrpcGateway) :
    (Zenoh.Released zenoh → (Zenoh.start zenohSetup zenohOutcome zenoh).1 = some result →
      result ≠ .success →
      (Zenoh.Idle (Zenoh.stop (Zenoh.start zenohSetup zenohOutcome zenoh).2).2 ↔
        Zenoh.NothingUp zenohSetup zenohOutcome zenoh.base.serviceMappings)) ∧
    (Grpc.Released grpc → (Grpc.start grpcSetup grpcOutcome grpc).1 ≠ .success →
      (Grpc.Idle (Grpc.stop (Grpc.start grpcSetup grpcOutcome grpc).2).2 ↔
        grpcOutcome.rpcClient = false)) := by
  constructor
  · intro hreleased hresult herror
    exact Zenoh.failed_start_idle_iff zenohSetup zenohOutcome hreleased hresult herror
  · intro hreleased herror
    exact Grpc.failed_start_idle_iff grpcSetup grpcOutcome hreleased herror

def quietZenoh : Zenoh.Setup Unit Unit :=
  { Zenoh.plainSetup with config := { e2eConfig := (), enableServiceDiscovery := false } }

theorem first_failure_undone :
    Zenoh.Idle (Zenoh.stop (Zenoh.start quietZenoh { udpStart := .networkError }
      (Zenoh.fresh quietZenoh [] ())).2).2 ∧
    Grpc.Idle (Grpc.stop (Grpc.start Grpc.plainSetup { rpcClient := false } {}).2).2 := by
  obtain ⟨hzenoh, hgrpc⟩ := failed_start_undone_iff quietZenoh { udpStart := .networkError }
    (Zenoh.fresh quietZenoh [] ()) .networkError Grpc.plainSetup { rpcClient := false } {}
  constructor
  · apply (hzenoh (Zenoh.fresh_released quietZenoh [] ()) rfl (by decide)).mpr
    refine ⟨nofun, fun h => ?_⟩
    exact absurd ⟨rfl, by decide⟩ h
  · exact (hgrpc Grpc.new_gateway_released (by decide)).mpr rfl

def discoveringGrpc : Grpc.Setup := { Grpc.plainSetup with config := { enableSdClient := true } }

/-- A session that does not open leaves the started UDP transport, and an SD
client that does not initialise leaves the RPC client. -/
theorem late_failure_not_undone :
    ((Zenoh.start Zenoh.plainSetup { sessionOpens := false }
        (Zenoh.fresh Zenoh.plainSetup [] ())).1 = some .notInitialized ∧
      ¬Zenoh.Idle (Zenoh.stop (Zenoh.start Zenoh.plainSetup { sessionOpens := false }
        (Zenoh.fresh Zenoh.plainSetup [] ())).2).2) ∧
    (Grpc.start discoveringGrpc { sdClient := false } {}).1 = .notInitialized ∧
      ¬Grpc.Idle (Grpc.stop (Grpc.start discoveringGrpc { sdClient := false } {}).2).2 := by
  refine ⟨⟨rfl, fun h => ?_⟩, rfl, fun h => ?_⟩
  · have hudp := h.udp ⟨true⟩ rfl
    contradiction
  · have hclient : true = false := h.rpcClient
    contradiction

end SomeipGateway
