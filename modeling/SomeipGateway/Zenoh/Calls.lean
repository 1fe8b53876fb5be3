import SomeipGateway.Zenoh.Events
import SomeipGateway.Zenoh.Queries

/-! Calls from the Zenoh side: a query under an RPC key reaches the gateways that offer
the method, they call their vehicles, and the replies carry what the vehicles returned. -/
namespace SomeipGateway.Zenoh

open Lib

variable {ι σ κ : Type}

/-- A key without wildcards matches itself only. -/
def KeyMatching.Literal (matching : KeyMatching) : Prop :=
  ∀ key other, WildcardFree key → (matching.covers key other = true ↔ key = other)

theorem chunkwise_literal : KeyMatching.chunkwise.Literal := by
  intro key other hkey
  apply KeyExpr.covers_literal
  intro hstar
  exact (hkey _ hstar).1 rfl

/-- What the queryables at one gateway do about a query. -/
def answerQuery (setup : Setup σ κ) (matching : KeyMatching) (gw : ZenohGateway σ) (key : Text)
    (payload : Option Bytes) (answer : Queryable → RpcSyncResult) : List Output :=
  (gw.zenohQueryables.filter fun queryable => matching.covers key queryable.key).flatMap
    fun queryable => (step setup gw (.query queryable key payload (answer queryable))).2

/-- A query goes to all gateways of the network. -/
def Network.ask (net : Network ι σ κ) (gateways : ι → ZenohGateway σ) (key : Text)
    (payload : Option Bytes) (answer : ι → Queryable → RpcSyncResult) : List (ι × Output) :=
  net.sites.flatMap fun site =>
    (answerQuery (net.setup site) net.matching (gateways site) key payload (answer site)).map
      fun output => (site, output)

/-! ### What a gateway offers -/

section

variable (setup : Setup σ κ)

/-- The queryables of a gateway are those of the mappings it had when it was started, and
only a gateway that runs has any. -/
structure Offering (gw : ZenohGateway σ) : Prop where
  encoding : gw.encoding = setup.config.payloadEncoding
  client : gw.base.running = true → gw.rpcClient.isSome = true
  stopped : gw.base.running = false → gw.zenohQueryables = []
  offered : ∃ earlier, earlier <+: gw.base.serviceMappings ∧
    gw.zenohQueryables = methodQueryables setup.config.keyPrefix earlier

def sessionQueryables : Resource setup Queryable where
  held := ZenohGateway.zenohQueryables
  calledFor := methodQueryables setup.config.keyPrefix
  nothing := rfl
  framed := fun _ _ _ _ => rfl
  givenUp := fun _ _ => ⟨rfl, rfl⟩
  declared := fun _ => rfl
  dropped := fun gw hrun => by simp [stop, hrun]

theorem Handled.keepsClient {before after : ZenohGateway σ} (h : Handled before after)
    (hbefore : before.base.running = true → before.rpcClient.isSome = true) :
    after.base.running = true → after.rpcClient.isSome = true := by
  rw [h.running, h.frame]
  exact hbefore

theorem step_client {gw : ZenohGateway σ} (input : Input)
    (h : gw.base.running = true → gw.rpcClient.isSome = true) :
    (step setup gw input).1.base.running = true →
      (step setup gw input).1.rpcClient.isSome = true := by
  cases input with
  | start outcome =>
      simp only [step, start]
      split_ifs with hrun
      · exact h
      · exact fun hafter => absurd hafter hrun
      · exact fun hafter => absurd hafter hrun
      · exact fun hafter => absurd hafter hrun
      · exact fun _ => rfl
  | stop =>
      simp only [step, stop]
      split_ifs
      · exact h
      · exact fun hafter => absurd hafter (by simp)
  | addServiceMapping mapping => exact h
  | _ => exact (step_handled setup gw rfl).keepsClient h

theorem step_offering {gw : ZenohGateway σ} (input : Input) (h : Offering setup gw) :
    Offering setup (step setup gw input).1 := by
  obtain ⟨hstopped, hoffered⟩ :=
    (sessionQueryables setup).step_holds input ⟨h.stopped, h.offered⟩
  exact ⟨step_encoding setup input h.encoding, step_client setup input h.client, hstopped,
    hoffered⟩

/-- A gateway that runs offers all it has mappings for. -/
def OffersAll (gw : ZenohGateway σ) : Prop :=
  gw.base.running = true →
    gw.zenohQueryables = methodQueryables setup.config.keyPrefix gw.base.serviceMappings

theorem Handled.offersAll {before after : ZenohGateway σ} (h : Handled before after)
    (hall : OffersAll setup before) : OffersAll setup after := by
  intro hrun
  have hsame : after.zenohQueryables = before.zenohQueryables := by
    rw [h.frame]
  rw [hsame, h.mappings]
  exact hall (h.running ▸ hrun)

theorem step_offersAll {gw : ZenohGateway σ} (input : Input) (h : Offering setup gw)
    (hall : OffersAll setup gw) (hfixed : MappingsFixed gw input) :
    OffersAll setup (step setup gw input).1 := by
  cases input with
  | start outcome =>
      simp only [step, start]
      split_ifs with hrun
      · exact hall
      · exact fun hafter => absurd hafter hrun
      · exact fun hafter => absurd hafter hrun
      · exact fun hafter => absurd hafter hrun
      · intro _
        have hnone := h.stopped (Bool.not_eq_true _ ▸ hrun)
        simp only [declareSession, startSomeip, startTransports, hnone, List.nil_append]
        rfl
  | stop =>
      simp only [step, stop]
      split_ifs
      · exact hall
      · exact fun hafter => absurd hafter (by simp)
  | addServiceMapping mapping =>
      intro hrun
      exact absurd (hfixed.symm.trans hrun) Bool.false_ne_true
  | _ => exact (step_handled setup gw rfl).offersAll setup hall

end

/-! ### A query under an RPC key -/

/-- The mappings through which a method is offered, each as often as it lists it. -/
def offeredThrough (mappings : List ServiceMapping) (serviceId instanceId methodId : UInt16) :
    List ServiceMapping :=
  mappings.flatMap fun map =>
    if shouldForwardToExternal map ∧ map.someipServiceId = serviceId ∧
        map.someipInstanceId = instanceId then
      List.replicate (map.someipMethodIds.count methodId) map
    else []

theorem mem_offeredThrough {mappings : List ServiceMapping} {via : ServiceMapping}
    {s i m : UInt16} (h : via ∈ offeredThrough mappings s i m) : via.someipServiceId = s := by
  obtain ⟨map, -, hvia⟩ := List.mem_flatMap.mp h
  split_ifs at hvia with hpair
  · rw [List.eq_of_mem_replicate hvia]
    exact hpair.2.1
  · cases hvia

/-- The queryable that a mapping declares for a method. -/
def queryableFor (keyPrefix : Text) (map : ServiceMapping) (methodId : UInt16) : Queryable where
  key := buildRpcKey keyPrefix map.someipServiceId map.someipInstanceId methodId
  serviceId := map.someipServiceId
  methodId := methodId
  via := map

theorem buildRpcKey_inj {keyPrefix : Text} {s i m s' i' m' : UInt16}
    (h : buildRpcKey keyPrefix s i m = buildRpcKey keyPrefix s' i' m') :
    s = s' ∧ i = i' ∧ m = m' := by
  have hkeys : SomeipKey.build keyPrefix (.rpc s i m) = SomeipKey.build keyPrefix (.rpc s' i' m') :=
    h
  cases SomeipKey.build_injective keyPrefix hkeys
  exact ⟨rfl, rfl, rfl⟩

theorem wildcardFree_buildRpcKey {keyPrefix : Text} (hplain : WildcardFree keyPrefix)
    (s i m : UInt16) : WildcardFree (buildRpcKey keyPrefix s i m) := by
  rw [buildRpcKey_eq_stem]
  apply ((wildcardFree_instanceStem hplain s i).append wildcardFree_slash).append
  exact (wildcardFree_of_all rfl).append (wildcardFree_formatServiceId m)

/-- Those of a mapping's queryables that have a given key. -/
theorem filter_queryableFor (keyPrefix : Text) (map : ServiceMapping) (s i m : UInt16) :
    (map.someipMethodIds.map (queryableFor keyPrefix map)).filter
        (fun queryable => buildRpcKey keyPrefix s i m = queryable.key) =
      if map.someipServiceId = s ∧ map.someipInstanceId = i then
        List.replicate (map.someipMethodIds.count m) (queryableFor keyPrefix map m)
      else [] := by
  rw [List.filter_map]
  split_ifs with hpair
  · obtain ⟨rfl, rfl⟩ := hpair
    have hsame : map.someipMethodIds.filter ((fun queryable => decide (buildRpcKey keyPrefix
        map.someipServiceId map.someipInstanceId m = queryable.key)) ∘
          queryableFor keyPrefix map) = map.someipMethodIds.filter (· == m) := by
      apply List.filter_congr
      intro mid _
      rw [Function.comp_apply, Bool.eq_iff_iff, decide_eq_true_iff, beq_iff_eq]
      constructor
      · intro hkey
        exact (buildRpcKey_inj hkey).2.2.symm
      · rintro rfl
        rfl
    rw [hsame, List.filter_beq, List.map_replicate]
  · have hnone : map.someipMethodIds.filter ((fun queryable => decide (buildRpcKey keyPrefix
        s i m = queryable.key)) ∘ queryableFor keyPrefix map) = [] := by
      apply List.filter_eq_nil_iff.mpr
      intro mid _ hkey
      obtain ⟨hservice, hinstance, -⟩ := buildRpcKey_inj (of_decide_eq_true hkey)
      exact hpair ⟨hservice.symm, hinstance.symm⟩
    rw [hnone]
    rfl

/-- The queryables that a query under an RPC key reaches. -/
theorem filter_methodQueryables {matching : KeyMatching} (hliteral : matching.Literal)
    {keyPrefix : Text} (hplain : WildcardFree keyPrefix) (mappings : List ServiceMapping)
    (s i m : UInt16) :
    (methodQueryables keyPrefix mappings).filter
        (fun queryable => matching.covers (buildRpcKey keyPrefix s i m) queryable.key) =
      (offeredThrough mappings s i m).map fun map => queryableFor keyPrefix map m := by
  have hcovers (key : Text) : matching.covers (buildRpcKey keyPrefix s i m) key =
      decide (buildRpcKey keyPrefix s i m = key) := by
    rw [Bool.eq_iff_iff, decide_eq_true_iff]
    exact hliteral _ key (wildcardFree_buildRpcKey hplain s i m)
  have hdeclared : methodQueryables keyPrefix mappings =
      (mappings.filter shouldForwardToExternal).flatMap fun map =>
        map.someipMethodIds.map (queryableFor keyPrefix map) := rfl
  simp only [hcovers]
  rw [hdeclared, List.filter_flatMap, offeredThrough, List.map_flatMap]
  simp only [filter_queryableFor]
  clear hdeclared
  induction mappings with
  | nil => rfl
  | cons map rest ih =>
      rw [List.flatMap_cons, ← ih]
      by_cases hforward : shouldForwardToExternal map = true
      · rw [List.filter_cons, if_pos hforward, List.flatMap_cons]
        apply congrArg (· ++ _)
        by_cases hpair : map.someipServiceId = s ∧ map.someipInstanceId = i
        · rw [if_pos hpair, if_pos ⟨hforward, hpair⟩, List.map_replicate]
        · rw [if_neg hpair, if_neg fun hall => hpair hall.2]
          rfl
      · rw [List.filter_cons, if_neg hforward, if_neg fun hall => hforward hall.1]
        rfl

/-- Outside CBOR, what was encoded is decoded. -/
theorem decodePayload_encodePayload {encoding : ZenohPayloadEncoding} (hcbor : encoding ≠ .cbor)
    (msg : Message) :
    decodePayload encoding (encodePayload encoding msg) {} =
      .ok (true, { payload := msg.payload }) := by
  cases encoding with
  | raw => rfl
  | json => exact decodeJsonEnvelope_payloadToJson msg {}
  | cbor => exact absurd rfl hcbor

section

variable {setup : Setup σ κ} {gw : ZenohGateway σ}

theorem handleRpcQuery_encoded (h : Offering setup gw) (hrunning : gw.base.running = true)
    (hcbor : setup.config.payloadEncoding ≠ .cbor) (queryable : Queryable) (key : Text)
    (request : Message) (answer : RpcSyncResult) :
    handleRpcQuery setup gw queryable key
        (some (encodePayload setup.config.payloadEncoding request)) answer =
      [.callMethodSync queryable.serviceId queryable.methodId request.payload queryable.via,
        .reply key (encodePayload setup.config.payloadEncoding
          (response setup queryable (if answer.success then answer.returnValues else [])))] := by
  obtain ⟨client, hclient⟩ := Option.isSome_iff_exists.mp (h.client hrunning)
  simp [handleRpcQuery, h.encoding, decodePayload_encodePayload hcbor, hclient, response]

/-- What a gateway does about a call: for each time it offers the method, it calls the
vehicle with the parameters as they were, and replies with what came back. -/
theorem answerQuery_eq {matching : KeyMatching} (hliteral : matching.Literal)
    (hplain : WildcardFree setup.config.keyPrefix) (h : Offering setup gw)
    (hcbor : setup.config.payloadEncoding ≠ .cbor) {offered : List ServiceMapping}
    (hoffered : gw.zenohQueryables = methodQueryables setup.config.keyPrefix offered)
    (s i m : UInt16) (request : Message) (answer : Queryable → RpcSyncResult) :
    let key := buildRpcKey setup.config.keyPrefix s i m
    answerQuery setup matching gw key
        (some (encodePayload setup.config.payloadEncoding request)) answer =
      (offeredThrough offered s i m).flatMap fun via =>
        let queryable := queryableFor setup.config.keyPrefix via m
        [.callMethodSync s m request.payload via,
          .reply key (encodePayload setup.config.payloadEncoding (response setup queryable
            (if (answer queryable).success then (answer queryable).returnValues else [])))] := by
  intro key
  have hreached := filter_methodQueryables hliteral hplain offered s i m
  rw [answerQuery, hoffered, hreached, List.flatMap_map]
  apply List.flatMap_congr
  intro via hvia
  have hmem : queryableFor setup.config.keyPrefix via m ∈ gw.zenohQueryables := by
    have hfound : queryableFor setup.config.keyPrefix via m ∈ (offeredThrough offered s i m).map
        fun map => queryableFor setup.config.keyPrefix map m := List.mem_map_of_mem hvia
    rw [← hreached] at hfound
    rw [hoffered]
    exact (List.mem_filter.mp hfound).1
  have hrunning : gw.base.running = true := by
    by_contra hstopped
    rw [h.stopped (Bool.not_eq_true _ ▸ hstopped)] at hmem
    cases hmem
  rw [step, if_pos hmem, handleRpcQuery_encoded h hrunning hcbor, ← mem_offeredThrough hvia]
  rfl

end

/-! ### Calls in a network -/

section

variable [DecidableEq ι] {net : Network ι σ κ} {keyPrefix : Text}

theorem run_offering (net : Network ι σ κ) (mappings : ι → List ServiceMapping) (e2e : ι → σ)
    (inputs : List (NetworkInput ι)) (site : ι) :
    Offering (net.setup site)
      ((Machine.run net.step (net.initial mappings e2e) inputs).1.gateways site) := by
  have hany : Machine.Along net.step (MeetsOutside site fun _ _ => True)
      (net.initial mappings e2e) inputs := by
    apply Machine.along_of_forall
    intro state input _
    cases input with
    | act origin input => exact fun _ => trivial
    | _ => trivial
  apply run_lifts net (fun _ _ _ => trivial) _ _ inputs _ hany
  · exact fun gw input h _ => step_offering (net.setup site) input h
  · exact ⟨rfl, fun hrun => absurd hrun (by simp [Network.initial, fresh]),
      fun _ => rfl, [], List.nil_prefix, rfl⟩

/-- From when a gateway rests on, it offers all it has mappings for whenever it runs, if
it is given none while it does. -/
theorem run_offersAll {state : NetworkState ι σ} {site : ι}
    (hoffering : Offering (net.setup site) (state.gateways site))
    (hrests : (state.gateways site).base.running = false) (later : List (NetworkInput ι))
    (hfixed : Machine.Along net.step (MeetsOutside site MappingsFixed) state later) :
    OffersAll (net.setup site) ((Machine.run net.step state later).1.gateways site) := by
  have hsample (gw : ZenohGateway σ) (input : Input) (h : input.isSample = true) :
      MappingsFixed gw input := by
    cases input with
    | sample key payload => trivial
    | livelinessSample key putOrDelete => trivial
    | _ => cases h
  have hstep (gw : ZenohGateway σ) (input : Input)
      (h : Offering (net.setup site) gw ∧ OffersAll (net.setup site) gw)
      (hinput : MappingsFixed gw input) :
      Offering (net.setup site) (step (net.setup site) gw input).1 ∧
        OffersAll (net.setup site) (step (net.setup site) gw input).1 :=
    ⟨step_offering (net.setup site) input h.1,
      step_offersAll (net.setup site) input h.1 h.2 hinput⟩
  have hbefore : OffersAll (net.setup site) (state.gateways site) := fun hrun => by
    rw [hrests] at hrun
    cases hrun
  exact (run_lifts net hsample hstep state later ⟨hoffering, hbefore⟩ hfixed).2

/-- Whatever the gateways of a network went through: a query under the key of a method is
answered, gateway by gateway, once for each mapping that offers the method, by a call of
the vehicle with the parameters as they were sent and a reply from which the querier reads
what the vehicle returned. A gateway that does not run answers nothing; one that runs
offers what its mappings list, if it was given none while running since it last rested. -/
theorem calls_reach_offering_gateways (hnet : net.Agrees keyPrefix)
    (hliteral : net.matching.Literal) {encoding : ZenohPayloadEncoding}
    (hencoding : ∀ site, (net.setup site).config.payloadEncoding = encoding)
    (mappings : ι → List ServiceMapping) (e2e : ι → σ) (inputs : List (NetworkInput ι))
    (s i m : UInt16) (request : Message) (answer : ι → Queryable → RpcSyncResult) :
    let after := (Machine.run net.step (net.initial mappings e2e) inputs).1
    let key := buildRpcKey keyPrefix s i m
    ∃ offered : ι → List ServiceMapping,
      (∀ site, offered site <+: (after.gateways site).base.serviceMappings) ∧
      (∀ site, (after.gateways site).base.running = false → offered site = []) ∧
      (∀ site earlier later, inputs = earlier ++ later →
        let rested := (Machine.run net.step (net.initial mappings e2e) earlier).1
        (rested.gateways site).base.running = false →
        Machine.Along net.step (MeetsOutside site MappingsFixed) rested later →
        (after.gateways site).base.running = true →
          offered site = (after.gateways site).base.serviceMappings) ∧
      ∃ reply : ι → ServiceMapping → Bytes,
        net.ask after.gateways key (some (encodePayload encoding request)) answer =
          (net.sites.flatMap fun site => (offeredThrough (offered site) s i m).flatMap fun via =>
            [(site, .callMethodSync s m request.payload via),
              (site, .reply key (reply site via))]) ∧
        ∀ site via, decodePayload encoding (reply site via) {} = .ok (true,
          { payload :=
              if (answer site (queryableFor keyPrefix via m)).success then
                (answer site (queryableFor keyPrefix via m)).returnValues
              else [] }) := by
  intro after key
  have hsite (site : ι) : ∃ offered, offered <+: (after.gateways site).base.serviceMappings ∧
      ((after.gateways site).base.running = false → offered = []) ∧
      (OffersAll (net.setup site) (after.gateways site) →
        (after.gateways site).base.running = true →
          offered = (after.gateways site).base.serviceMappings) ∧
      (after.gateways site).zenohQueryables =
        methodQueryables (net.setup site).config.keyPrefix offered := by
    have hoffering := run_offering net mappings e2e inputs site
    cases hrunning : (after.gateways site).base.running with
    | false =>
        exact ⟨[], List.nil_prefix, fun _ => rfl, fun _ hrun => absurd hrun (by simp),
          hoffering.stopped hrunning⟩
    | true =>
        by_cases hall : (after.gateways site).zenohQueryables =
            methodQueryables (net.setup site).config.keyPrefix
              (after.gateways site).base.serviceMappings
        · exact ⟨_, List.prefix_refl _, fun hrun => absurd hrun (by simp), fun _ _ => rfl, hall⟩
        · obtain ⟨earlier, hearlier, hqueryables⟩ := hoffering.offered
          exact ⟨earlier, hearlier, fun hrun => absurd hrun (by simp),
            fun hoffers _ => absurd (hoffers hrunning) hall, hqueryables⟩
  choose offered hearlier hstopped hoffers hqueryables using hsite
  refine ⟨offered, hearlier, hstopped, fun site earlier later hinputs hrests hfixed => ?_,
    fun site via => encodePayload encoding (response (net.setup site)
      (queryableFor keyPrefix via m)
      (if (answer site (queryableFor keyPrefix via m)).success then
        (answer site (queryableFor keyPrefix via m)).returnValues else [])), ?_, ?_⟩
  · apply hoffers site
    have hall := run_offersAll (run_offering net mappings e2e earlier site) hrests later hfixed
    have hafter : after = (Machine.run net.step (Machine.run net.step
        (net.initial mappings e2e) earlier).1 later).1 := by
      rw [← congrArg Prod.fst (Machine.run_append net.step _ earlier later), ← hinputs]
    rw [hafter]
    exact hall
  · apply List.flatMap_congr
    intro site _
    have hplain : WildcardFree (net.setup site).config.keyPrefix := by
      rw [hnet.keyPrefix site]
      exact hnet.plain
    have hanswer := answerQuery_eq hliteral hplain (run_offering net mappings e2e inputs site)
      (hnet.notCbor site) (hqueryables site) s i m request (answer site)
    rw [hnet.keyPrefix site, hencoding site] at hanswer
    rw [hanswer, List.map_flatMap]
    rfl
  · intro site via
    have hcbor : encoding ≠ .cbor := by
      rw [← hencoding site]
      exact hnet.notCbor site
    exact decodePayload_encodePayload hcbor _

end

def lifterMapping : ServiceMapping where
  someipServiceId := 0x4000
  someipInstanceId := 0x0002
  someipMethodIds := [0x0007]

def lifterRequest : Message where
  messageType := .request
  payload := [3, 1]

/-- Both gateways offer the method, the second one is not started: the first one calls. -/
theorem lifter_call_answered :
    let inputs : List (NetworkInput Bool) := [.act false (.start {})]
    let after := (Machine.run plainNetwork.step
      (plainNetwork.initial (fun _ => [lifterMapping]) fun _ => ()) inputs).1
    let key := buildRpcKey (Text.ascii "someip") 0x4000 0x0002 0x0007
    ∃ offered : Bool → List ServiceMapping, offered false = [lifterMapping] ∧
      offered true = [] ∧ ∃ reply : Bool → ServiceMapping → Bytes,
        plainNetwork.ask after.gateways key (some (encodePayload .raw lifterRequest))
            (fun _ _ => { success := true, returnValues := [9] }) =
          ([false, true].flatMap fun site =>
            (offeredThrough (offered site) 0x4000 0x0002 0x0007).flatMap fun via =>
              [(site, .callMethodSync 0x4000 0x0007 [3, 1] via),
                (site, .reply key (reply site via))]) ∧
        decodePayload .raw (reply false lifterMapping) {} = .ok (true, { payload := [9] }) := by
  intro inputs after key
  obtain ⟨offered, -, hstopped, hall, reply, hask, hreply⟩ :=
    calls_reach_offering_gateways plainNetwork_agrees chunkwise_literal (fun _ => rfl)
      (fun _ => [lifterMapping]) (fun _ => ()) inputs 0x4000 0x0002 0x0007 lifterRequest
      fun _ _ => { success := true, returnValues := [9] }
  refine ⟨offered, ?_, hstopped true rfl, reply, hask, hreply false lifterMapping⟩
  exact hall false [] inputs rfl rfl ⟨fun _ => trivial, trivial⟩ rfl

end SomeipGateway.Zenoh
