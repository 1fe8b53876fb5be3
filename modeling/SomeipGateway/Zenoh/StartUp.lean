import SomeipGateway.Lib.Registry
import SomeipGateway.Zenoh.Echo

/-! What a started gateway has registered. One loop of `start()` makes the
publishers, the first mapping of a pair deciding what is registered there, and
the only RPC server, for the service of the first mapping with methods. -/
namespace SomeipGateway.Zenoh

open Lib

/-! ### Coverage -/

def pairOf (map : ServiceMapping) : UInt16 × UInt16 :=
  (map.someipServiceId, map.someipInstanceId)

/-- The events registered on the publisher that `event_publishers_` has for a pair. -/
def eventsOf (publishers : List EventPublisher) (pair : UInt16 × UInt16) :
    Option (List (UInt16 × UInt16)) :=
  (publishers.find? fun p => (p.serviceId, p.instanceId) = pair).map EventPublisher.events

/-- The mapping's methods have handlers and its event groups have events. -/
structure Registers {σ : Type} (gw : ZenohGateway σ) (map : ServiceMapping) : Prop where
  methods : ∀ mid ∈ map.someipMethodIds, ∃ server,
    gw.rpcServer = some server ∧ gw.rpcServerServiceId = map.someipServiceId ∧
      mid ∈ server.methods
  events : ∀ eg ∈ map.someipEventGroupIds, ∃ events,
    eventsOf gw.eventPublishers (pairOf map) = some events ∧ ∃ event, (eg, event) ∈ events

def Covered {σ : Type} (gw : ZenohGateway σ) : Prop :=
  ∀ map ∈ gw.base.serviceMappings, Registers gw map

/-- All mappings with methods are of one service. -/
def OneRpcService (mappings : List ServiceMapping) : Prop :=
  ∀ map ∈ mappings, ∀ other ∈ mappings,
    map.someipMethodIds ≠ [] → other.someipMethodIds ≠ [] →
      map.someipServiceId = other.someipServiceId

/-- No mapping has an event group that the first mapping of its pair lacks. -/
def FirstHasGroups (mappings : List ServiceMapping) : Prop :=
  ∀ map ∈ mappings, ∀ first,
    findMappingForService mappings map.someipServiceId map.someipInstanceId = some first →
      ∀ eg ∈ map.someipEventGroupIds, eg ∈ first.someipEventGroupIds

/-! ### Publishers -/

def groupEvents (map : ServiceMapping) : List (UInt16 × UInt16) :=
  map.someipEventGroupIds.map fun eg => (eg, 0x8000 ||| (eg &&& 0x0FFF))

def firstOfPair (mappings : List ServiceMapping) (pair : UInt16 × UInt16) :
    Option ServiceMapping :=
  findMappingForService mappings pair.1 pair.2

theorem eventsOf_addEventPublisher (outcome : StartOutcome) (publishers : List EventPublisher)
    (map : ServiceMapping) :
    eventsOf (addEventPublisher outcome publishers map) =
      Registry.reserve (eventsOf publishers) (pairOf map, groupEvents map) := by
  funext pair
  rw [Registry.reserve_apply]
  unfold addEventPublisher
  split_ifs with hknown hsame hsame
  · -- the pair has a publisher, which is found first
    obtain ⟨publisher, hmem, hpair⟩ := List.any_eq_true.mp hknown
    cases hfind : eventsOf publishers pair with
    | some events => rfl
    | none =>
        rw [eventsOf, Option.map_eq_none_iff, List.find?_eq_none] at hfind
        have hother := hfind publisher hmem
        simp_all [pairOf]
  · rw [Option.or_none]
  · simp only [eventsOf, List.find?_append, Option.map_or]
    congr 1
    simpa [pairOf, groupEvents] using hsame
  · simp only [eventsOf, List.find?_append, Option.map_or]
    congr 1
    simpa [pairOf] using hsame

theorem eventsOf_foldl (outcome : StartOutcome) (mappings : List ServiceMapping)
    (publishers : List EventPublisher) (pair : UInt16 × UInt16) :
    eventsOf (mappings.foldl (addEventPublisher outcome) publishers) pair =
      (eventsOf publishers pair).or ((firstOfPair mappings pair).map groupEvents) := by
  have hloop : eventsOf (mappings.foldl (addEventPublisher outcome) publishers) =
      (mappings.map fun map => (pairOf map, groupEvents map)).foldl Registry.reserve
        (eventsOf publishers) := by
    rw [List.foldl_map]
    induction mappings generalizing publishers with
    | nil => rfl
    | cons map rest ih =>
        rw [List.foldl_cons, List.foldl_cons, ih, eventsOf_addEventPublisher]
  rw [hloop, Registry.foldl_reserve, List.find?_map, Option.map_map]
  congr 2
  unfold firstOfPair findMappingForService
  congr 1
  funext map
  simp [pairOf, Prod.ext_iff, beq_eq_decide]

/-! ### The RPC server -/

/-- The service of the RPC server, if there is one. -/
def servedService (server : Option RpcServer × UInt16) : Option UInt16 :=
  server.1.map fun _ => server.2

def firstWithMethods (mappings : List ServiceMapping) : Option ServiceMapping :=
  mappings.find? fun map => map.someipMethodIds ≠ []

theorem servedService_addRpcServer (outcome : StartOutcome) (server : Option RpcServer × UInt16)
    (map : ServiceMapping) :
    servedService (addRpcServer outcome server map) =
      (servedService server).or
        (if map.someipMethodIds ≠ [] then some map.someipServiceId else none) := by
  obtain ⟨server, service⟩ := server
  cases server with
  | some server => simp [addRpcServer, servedService]
  | none =>
      by_cases hmethods : map.someipMethodIds = []
      · simp [addRpcServer, servedService, hmethods]
      · simp [addRpcServer, servedService, hmethods]

theorem servedService_foldl (outcome : StartOutcome) (mappings : List ServiceMapping)
    (server : Option RpcServer × UInt16) :
    servedService (mappings.foldl (addRpcServer outcome) server) =
      (servedService server).or
        ((firstWithMethods mappings).map ServiceMapping.someipServiceId) := by
  induction mappings generalizing server with
  | nil => simp [firstWithMethods]
  | cons map rest ih =>
      rw [List.foldl_cons, ih, servedService_addRpcServer, Option.or_assoc]
      by_cases hmethods : map.someipMethodIds = []
      · simp [firstWithMethods, hmethods]
      · simp [firstWithMethods, hmethods]

/-! ### Registrations of a gateway -/

section

variable {σ κ : Type} (setup : Setup σ κ)

/-- What is registered agrees with the mapping list. After a start that gave up,
some of it may be left over. -/
structure Agrees (gw : ZenohGateway σ) : Prop where
  publishers : ∀ pair events, eventsOf gw.eventPublishers pair = some events →
    (firstOfPair gw.base.serviceMappings pair).map groupEvents = some events
  server : ∀ service, servedService (gw.rpcServer, gw.rpcServerServiceId) = some service →
    (firstWithMethods gw.base.serviceMappings).map ServiceMapping.someipServiceId = some service

/-- All that `start()` registers for the mapping list is registered. -/
structure Complete (gw : ZenohGateway σ) : Prop where
  publishers : ∀ pair, eventsOf gw.eventPublishers pair =
    (firstOfPair gw.base.serviceMappings pair).map groupEvents
  server : servedService (gw.rpcServer, gw.rpcServerServiceId) =
    (firstWithMethods gw.base.serviceMappings).map ServiceMapping.someipServiceId
  methods : ∀ server, gw.rpcServer = some server → ∀ map ∈ gw.base.serviceMappings,
    map.someipServiceId = gw.rpcServerServiceId →
      ∀ mid ∈ map.someipMethodIds, mid ∈ server.methods

theorem Complete.agrees {gw : ZenohGateway σ} (h : Complete gw) : Agrees gw := by
  constructor
  · intro pair events hevents
    rw [← h.publishers, hevents]
  · intro service hservice
    rw [← h.server, hservice]

theorem startSomeip_complete (outcome : StartOutcome) {gw : ZenohGateway σ} (h : Agrees gw) :
    Complete (startSomeip outcome gw) := by
  have hservice := servedService_foldl outcome gw.base.serviceMappings
    (gw.rpcServer, gw.rpcServerServiceId)
  rw [Registry.or_eq_of_agree h.server] at hservice
  constructor
  · intro pair
    have hloop := eventsOf_foldl outcome gw.base.serviceMappings gw.eventPublishers pair
    rw [Registry.or_eq_of_agree (h.publishers pair)] at hloop
    exact hloop
  · have hregistered : servedService ((startSomeip outcome gw).rpcServer,
        (startSomeip outcome gw).rpcServerServiceId) =
      servedService (gw.base.serviceMappings.foldl (addRpcServer outcome)
        (gw.rpcServer, gw.rpcServerServiceId)) := by
      simp only [startSomeip, servedService, Option.map_map]
      rfl
    exact hregistered.trans hservice
  · intro server hserver map hmap hsame mid hmid
    simp only [startSomeip, Option.map_eq_some_iff] at hserver
    obtain ⟨bare, -, rfl⟩ := hserver
    apply List.mem_append_right
    apply List.mem_flatMap.mpr
    exact ⟨map, List.mem_filter.mpr ⟨hmap, beq_iff_eq.mpr hsame⟩, hmid⟩

/-- In a gateway where all is registered, each mapping's share is registered
exactly if the first-come rules lose nothing of it. -/
theorem Complete.covered_iff {gw : ZenohGateway σ} (h : Complete gw) :
    Covered gw ↔
      OneRpcService gw.base.serviceMappings ∧ FirstHasGroups gw.base.serviceMappings := by
  constructor
  · intro hcovered
    constructor
    · intro map hmap other hother hmethods hmethods'
      obtain ⟨mid, hmid⟩ := List.exists_mem_of_ne_nil _ hmethods
      obtain ⟨mid', hmid'⟩ := List.exists_mem_of_ne_nil _ hmethods'
      obtain ⟨-, -, hservice, -⟩ := (hcovered map hmap).methods mid hmid
      obtain ⟨-, -, hservice', -⟩ := (hcovered other hother).methods mid' hmid'
      exact hservice.symm.trans hservice'
    · intro map hmap first hfirst eg heg
      obtain ⟨events, hevents, event, hevent⟩ := (hcovered map hmap).events eg heg
      rw [h.publishers, show firstOfPair _ (pairOf map) = some first from hfirst] at hevents
      cases hevents
      obtain ⟨eg', heg', heq⟩ := List.mem_map.mp hevent
      cases heq
      exact heg'
  · rintro ⟨hone, hgroups⟩ map hmap
    constructor
    · intro mid hmid
      have hmethods : map.someipMethodIds ≠ [] := List.ne_nil_of_mem hmid
      have hserver := h.server
      cases hfirst : firstWithMethods gw.base.serviceMappings with
      | none =>
          have hnone := List.find?_eq_none.mp hfirst map hmap
          simp [hmethods] at hnone
      | some first =>
          have hfirst' : first.someipMethodIds ≠ [] := by simpa using List.find?_some hfirst
          have hsame := hone first (List.mem_of_find?_eq_some hfirst) map hmap hfirst' hmethods
          rw [hfirst, Option.map_some, servedService, Option.map_eq_some_iff] at hserver
          obtain ⟨server, hserver, hservice⟩ := hserver
          have hserves : gw.rpcServerServiceId = map.someipServiceId := hservice.trans hsame
          exact ⟨server, hserver, hserves,
            h.methods server hserver map hmap hserves.symm mid hmid⟩
    · intro eg heg
      cases hfirst : firstOfPair gw.base.serviceMappings (pairOf map) with
      | none =>
          have hnone := List.find?_eq_none.mp hfirst map hmap
          simp [pairOf] at hnone
      | some first =>
          refine ⟨groupEvents first, ?_, 0x8000 ||| (eg &&& 0x0FFF), ?_⟩
          · rw [h.publishers, hfirst, Option.map_some]
          · exact List.mem_map.mpr ⟨eg, hgroups map hmap first hfirst eg heg, rfl⟩

/-! ### Runs -/

theorem agrees_of_empty {gw : ZenohGateway σ} (hpublishers : gw.eventPublishers = [])
    (hserver : gw.rpcServer = none) : Agrees gw := by
  constructor
  · intro pair events hevents
    rw [hpublishers] at hevents
    cases hevents
  · intro service hservice
    rw [hserver] at hservice
    cases hservice

structure Registered (gw : ZenohGateway σ) : Prop where
  agrees : Agrees gw
  complete : gw.base.running = true → Complete gw

theorem Handled.registered {before after : ZenohGateway σ} (h : Handled before after)
    (hbefore : Registered before) : Registered after := by
  have hrunning := h.running
  have hmappings := h.mappings
  rw [h.frame]
  constructor
  · constructor
    · rw [hmappings]
      exact hbefore.agrees.publishers
    · rw [hmappings]
      exact hbefore.agrees.server
  · intro hrun
    have hcomplete := hbefore.complete (hrunning ▸ hrun)
    constructor
    · rw [hmappings]
      exact hcomplete.publishers
    · rw [hmappings]
      exact hcomplete.server
    · rw [hmappings]
      exact hcomplete.methods

/-- A new mapping comes last, so that what was first stays first. -/
theorem Agrees.addServiceMapping {gw : ZenohGateway σ} (h : Agrees gw) (map : ServiceMapping) :
    Agrees { gw with base := gw.base.addServiceMapping map } := by
  constructor
  · intro pair events hevents
    obtain ⟨first, hfirst, hsame⟩ := Option.map_eq_some_iff.mp (h.publishers pair events hevents)
    have hstill : firstOfPair (gw.base.serviceMappings ++ [map]) pair = some first := by
      unfold firstOfPair findMappingForService at hfirst ⊢
      rw [List.find?_append, hfirst, Option.some_or]
    exact Option.map_eq_some_iff.mpr ⟨first, hstill, hsame⟩
  · intro service hservice
    obtain ⟨first, hfirst, hsame⟩ := Option.map_eq_some_iff.mp (h.server service hservice)
    have hstill : firstWithMethods (gw.base.serviceMappings ++ [map]) = some first := by
      unfold firstWithMethods at hfirst ⊢
      rw [List.find?_append, hfirst, Option.some_or]
    exact Option.map_eq_some_iff.mpr ⟨first, hstill, hsame⟩

theorem start_registered (outcome : StartOutcome) {gw : ZenohGateway σ} (h : Registered gw) :
    Registered (start setup outcome gw).2 ∧
      ((start setup outcome gw).1 = some .success →
        Complete (start setup outcome gw).2 ∧
          (start setup outcome gw).2.base.serviceMappings = gw.base.serviceMappings) := by
  have hcomplete : Complete (startSomeip outcome (startTransports setup outcome gw)) :=
    startSomeip_complete outcome ⟨h.agrees.publishers, h.agrees.server⟩
  simp only [start]
  split_ifs with hrun
  · exact ⟨h, fun _ => ⟨h.complete hrun, rfl⟩⟩
  · refine ⟨⟨⟨h.agrees.publishers, h.agrees.server⟩, fun hrun' => absurd hrun' hrun⟩, ?_⟩
    intro hresult
    cases hresult
  · refine ⟨⟨hcomplete.agrees, fun hrun' => absurd hrun' hrun⟩, ?_⟩
    intro hresult
    cases hresult
  · refine ⟨⟨hcomplete.agrees, fun hrun' => absurd hrun' hrun⟩, ?_⟩
    intro hresult
    cases hresult
  · -- declaring the session leaves the registrations as they are
    have hdeclared : Complete (declareSession setup
        (startSomeip outcome (startTransports setup outcome gw))) :=
      ⟨hcomplete.publishers, hcomplete.server, hcomplete.methods⟩
    exact ⟨⟨hdeclared.agrees, fun _ => hdeclared⟩, fun _ => ⟨hdeclared, rfl⟩⟩

theorem stop_registered {gw : ZenohGateway σ} (h : Registered gw) : Registered (stop gw).2 := by
  simp only [stop]
  split_ifs
  · exact h
  · exact ⟨agrees_of_empty rfl rfl, fun hrun => absurd hrun Bool.false_ne_true⟩

theorem step_registered (gw : ZenohGateway σ) (input : Input) (h : Registered gw)
    (hfixed : MappingsFixed gw input) : Registered (step setup gw input).1 := by
  cases input with
  | start outcome => exact (start_registered setup outcome h).1
  | stop => exact stop_registered h
  | addServiceMapping mapping =>
      refine ⟨h.agrees.addServiceMapping mapping, ?_⟩
      intro hrun
      exact absurd (hfixed.symm.trans hrun) Bool.false_ne_true
  | _ => exact (step_handled setup gw rfl).registered h

theorem Settled.registered {gw : ZenohGateway σ} (h : Settled setup gw) : Registered gw := by
  obtain ⟨mappings, e2e, inputs, hfixed, rfl⟩ := h
  apply Machine.run_invariant_along (step setup) (step_registered setup) _ inputs _ hfixed
  exact ⟨agrees_of_empty rfl rfl, fun hrun => absurd hrun Bool.false_ne_true⟩

/-- A successful `start()` covers the mapping list exactly when one service has
all the methods and the first mapping of each pair has all its event groups. -/
theorem start_covers_iff {gw : ZenohGateway σ} (hgw : Settled setup gw) (outcome : StartOutcome)
    (hsuccess : (start setup outcome gw).1 = some .success) :
    Covered (start setup outcome gw).2 ↔
      OneRpcService gw.base.serviceMappings ∧ FirstHasGroups gw.base.serviceMappings := by
  have hstart := start_registered setup outcome (hgw.registered setup)
  obtain ⟨hcomplete, hmappings⟩ := hstart.2 hsuccess
  rw [hcomplete.covered_iff, hmappings]

end

/-! ### Two services -/

def seatMapping : ServiceMapping where
  someipServiceId := 0x6000
  someipInstanceId := 0x0001
  someipMethodIds := [0x0001]
  someipEventGroupIds := [0x0001]

def mirrorMapping : ServiceMapping where
  someipServiceId := 0x6001
  someipInstanceId := 0x0001
  someipMethodIds := [0x0002]

theorem start_covers_seat :
    Covered (start plainSetup {} (fresh plainSetup [seatMapping] ())).2 := by
  apply (start_covers_iff plainSetup ⟨[seatMapping], (), [], trivial, rfl⟩ {} rfl).mpr
  constructor
  · intro map hmap other hother _ _
    rw [List.mem_singleton.mp hmap, List.mem_singleton.mp hother]
  · intro map hmap first hfirst eg heg
    rw [List.mem_singleton.mp (List.mem_of_find?_eq_some hfirst)]
    rwa [List.mem_singleton.mp hmap] at heg

/-- The server is the seat's; the mirror's method has no handler anywhere. -/
theorem mirror_method_not_registered :
    (start plainSetup {} (fresh plainSetup [seatMapping, mirrorMapping] ())).1 = some .success ∧
      ¬ Covered (start plainSetup {} (fresh plainSetup [seatMapping, mirrorMapping] ())).2 := by
  refine ⟨rfl, fun hcovered => ?_⟩
  have hmirror : mirrorMapping ∈ [seatMapping, mirrorMapping] :=
    List.mem_cons_of_mem _ List.mem_cons_self
  obtain ⟨-, -, hservice, -⟩ := (hcovered mirrorMapping hmirror).methods 0x0002
    List.mem_cons_self
  exact absurd hservice (by decide)

end SomeipGateway.Zenoh
