import Mathlib.Data.List.Flatten
import Mathlib.Data.List.Perm.Subperm
import SomeipGateway.Zenoh.Network

/-! The accounts of a network: what was published, what is on the way, and what the
vehicles got. -/
namespace SomeipGateway.Zenoh

open Lib

variable {ι σ κ : Type}

/-! ### What the vehicles should get -/

section

variable (setup : Setup σ κ)

/-- What a vehicle should get for a message that was published through a mapping; what
belongs to a call is not for vehicles. -/
def Input.relayed (input : Input) (via : ServiceMapping) : Option Message :=
  match input.message setup with
  | none => none
  | some msg =>
      if rpcish setup.cls msg.messageType then none
      else some
        { serviceId := via.someipServiceId, methodId := msg.methodId, clientId := 0x0000
          sessionId := 0x0001, messageType := .notification, payload := input.body setup msg via }

end

/-- The mapping makes a gateway subscribe to what is published through `via`. -/
def subscribesTo (via mapping : ServiceMapping) : Bool :=
  shouldForwardToSomeip mapping &&
    (mapping.someipServiceId == via.someipServiceId &&
      mapping.someipInstanceId == via.someipInstanceId)

/-- How often a gateway with these mappings sends what was published through `via`: once
for each subscription, if the first mapping of the instance lets it through. -/
def multiplicity (mappings : List ServiceMapping) (via : ServiceMapping) : Nat :=
  if (findMappingForService mappings via.someipServiceId via.someipInstanceId).any
      shouldForwardToSomeip then
    mappings.countP (subscribesTo via)
  else 0

def Output.datagram : Output → Option Message
  | .sendMessage msg _ _ => some msg
  | _ => none

/-- The datagrams that a gateway has sent. -/
def datagramsAt [DecidableEq ι] (site : ι) (log : List (Entry ι)) : List Message :=
  log.flatMap fun entry =>
    if entry.site = site then entry.outputs.filterMap Output.datagram else []

/-- The datagrams that the puts of a log are worth at a gateway with these mappings. -/
def Network.expected (net : Network ι σ κ) (mappings : List ServiceMapping)
    (log : List (Entry ι)) : List Message :=
  log.flatMap fun entry => entry.outputs.flatMap fun
    | .put _ _ _ via =>
        match entry.input.relayed (net.setup entry.site) via with
        | none => []
        | some msg => List.replicate (multiplicity mappings via) msg
    | _ => []

/-! ### What is on the way -/

section

variable [DecidableEq ι] (net : Network ι σ κ)

/-- What the flights to a gateway with these mappings are going to become there. -/
def Network.due (site : ι) (mappings : List ServiceMapping) (flights : List (Flight ι)) :
    List Message :=
  (flights.filter fun flight => flight.site = site).filterMap fun flight =>
    routed (net.setup site) mappings flight.input

theorem due_append (site : ι) (mappings : List ServiceMapping) (first second : List (Flight ι)) :
    net.due site mappings (first ++ second) =
      net.due site mappings first ++ net.due site mappings second := by
  simp only [Network.due, List.filter_append, List.filterMap_append]

theorem due_cons (site : ι) (mappings : List ServiceMapping) (flight : Flight ι)
    (rest : List (Flight ι)) :
    net.due site mappings (flight :: rest) =
      (if flight.site = site then (routed (net.setup site) mappings flight.input).toList
        else []) ++ net.due site mappings rest := by
  unfold Network.due
  by_cases hsite : flight.site = site
  · rw [if_pos hsite, List.filter_cons, if_pos (decide_eq_true hsite), List.filterMap_cons]
    cases routed (net.setup site) mappings flight.input with
    | none => rfl
    | some msg => rfl
  · rw [if_neg hsite, List.filter_cons, if_neg (mt of_decide_eq_true hsite)]
    rfl

/-- Each gateway is named once, so it gets what is for it once. -/
theorem filter_site_flatMap {sites : List ι} (hnodup : sites.Nodup) (site : ι)
    {flights : ι → List (Flight ι)}
    (hsites : ∀ other, ∀ flight ∈ flights other, flight.site = other) :
    (sites.flatMap flights).filter (fun flight => flight.site = site) =
      if site ∈ sites then flights site else [] := by
  induction sites with
  | nil => rfl
  | cons other rest ih =>
      obtain ⟨hnew, hrest⟩ := List.nodup_cons.mp hnodup
      rw [List.flatMap_cons, List.filter_append, ih hrest]
      by_cases hother : other = site
      · subst hother
        have hall : (flights other).filter (fun flight => flight.site = other) = flights other :=
          List.filter_eq_self.mpr fun flight hflight => decide_eq_true (hsites other flight hflight)
        rw [hall, if_neg hnew, if_pos List.mem_cons_self, List.append_nil]
      · have hnone : (flights other).filter (fun flight => flight.site = site) = [] := by
          apply List.filter_eq_nil_iff.mpr
          intro flight hflight hsite
          exact hother ((hsites other flight hflight).symm.trans (of_decide_eq_true hsite))
        have hmem : site ∈ other :: rest ↔ site ∈ rest := by
          simp [Ne.symm hother]
        rw [hnone, List.nil_append]
        exact if_congr hmem.symm rfl rfl

theorem due_carry (gateways : ι → ZenohGateway σ) (key : Text) (payload : Bytes) (site : ι)
    (mappings : List ServiceMapping) :
    net.due site mappings (net.carry gateways key payload) =
      match routed (net.setup site) mappings (.sample key payload) with
      | none => []
      | some msg => List.replicate
          ((gateways site).zenohSubscribers.countP fun pattern => net.matching.covers pattern key)
          msg := by
  rw [Network.due, Network.carry, filter_site_flatMap net.nodup site, if_pos (net.complete site),
    List.filterMap_map, List.countP_eq_length_filter]
  · generalize (gateways site).zenohSubscribers.filter _ = patterns
    cases hrouted : routed (net.setup site) mappings (.sample key payload) with
    | none =>
        apply List.filterMap_eq_nil_iff.mpr
        exact fun _ _ => hrouted
    | some msg =>
        induction patterns with
        | nil => rfl
        | cons pattern rest ih =>
            rw [List.filterMap_cons, Function.comp_apply, hrouted, ih]
            rfl
  · intro other flight hflight
    obtain ⟨pattern, -, rfl⟩ := List.mem_map.mp hflight
    rfl

theorem due_announce (gateways : ι → ZenohGateway σ) (origin : ι) (token : Text) (site : ι)
    (mappings : List ServiceMapping) :
    net.due site mappings (net.announce gateways origin token) = [] := by
  rw [Network.due, List.filterMap_eq_nil_iff]
  intro flight hflight
  obtain ⟨other, -, hother⟩ := List.mem_flatMap.mp (List.mem_filter.mp hflight).1
  obtain ⟨pattern, -, rfl⟩ := List.mem_map.mp hother
  rfl

/-- As many subscriptions cover an event key as there are mappings for it. -/
theorem countP_instancePatterns (matching : KeyMatching) {keyPrefix : Text}
    (hplain : WildcardFree keyPrefix) (mappings : List ServiceMapping) (via : ServiceMapping)
    (eventId : UInt16) :
    ((instancePatterns keyPrefix mappings).countP fun pattern =>
        matching.covers pattern (buildKeyExpr keyPrefix via.someipServiceId via.someipInstanceId
          eventId)) =
      mappings.countP (subscribesTo via) := by
  rw [instancePatterns, List.countP_map, List.countP_filter]
  apply List.countP_congr
  intro map _
  simp only [Function.comp_apply, subscribesTo, Bool.and_eq_true, beq_iff_eq,
    buildKeyExpr_eq_stem, covers_stem_iff matching hplain]
  constructor
  · rintro ⟨⟨hservice, hinstance⟩, hforward⟩
    exact ⟨hforward, hservice.symm, hinstance.symm⟩
  · rintro ⟨hforward, hservice, hinstance⟩
    exact ⟨⟨hservice.symm, hinstance.symm⟩, hforward⟩

/-- One key prefix, one encoding that tells payloads, and no protection: what the
gateways of a network agree on. -/
structure Network.Agrees (keyPrefix : Text) : Prop where
  plain : WildcardFree keyPrefix
  keyPrefix : ∀ site, (net.setup site).config.keyPrefix = keyPrefix
  encoding : ∀ site other,
    (net.setup site).config.payloadEncoding = (net.setup other).config.payloadEncoding
  notCbor : ∀ site, (net.setup site).config.payloadEncoding ≠ .cbor
  unprotected : ∀ site, (net.setup site).config.enableE2eValidation = false

variable {net} {keyPrefix : Text}

/-- What a put is worth at a gateway that has subscribed for some of its mappings. -/
theorem due_published (h : net.Agrees keyPrefix) {gateways : ι → ZenohGateway σ}
    {origin site : ι} {gw : ZenohGateway σ} (hgw : Declared (net.setup origin) gw)
    {input : Input} {key : Text} {payload : Bytes} {declared : Bool} {via : ServiceMapping}
    (hput : .put key payload declared via ∈ (step (net.setup origin) gw input).2)
    {mappings earlier : List ServiceMapping} (hearlier : earlier <+: mappings)
    (hsubscribers : (gateways site).zenohSubscribers = instancePatterns keyPrefix earlier) :
    net.due site mappings (net.carry gateways key payload) =
      match input.relayed (net.setup origin) via with
      | none => []
      | some msg => List.replicate
          (if (findMappingForService mappings via.someipServiceId via.someipInstanceId).any
              shouldForwardToSomeip then earlier.countP (subscribesTo via) else 0) msg := by
  have hkeyPrefix : (net.setup origin).config.keyPrefix = (net.setup site).config.keyPrefix :=
    (h.keyPrefix origin).trans (h.keyPrefix site).symm
  rw [due_carry, hsubscribers]
  rcases step_published (net.setup origin) hput with ⟨msg, hmsg, hpublished⟩ | ⟨hnone, m, hkey⟩
  · have hrouted := routed_published (net.setup site) hkeyPrefix
      (hgw.encoding.trans (h.encoding origin site)) (h.notCbor site) hpublished mappings
    have hkey := hpublished.key_eq
    rw [hrouted, Input.relayed, hmsg]
    dsimp only
    by_cases hrpc : rpcish (net.setup origin).cls msg.messageType = true
    · rw [if_pos hrpc, if_pos hrpc]
    · rw [if_neg hrpc, h.keyPrefix origin] at hkey
      rw [if_neg hrpc, if_neg hrpc, hkey,
        countP_instancePatterns net.matching h.plain earlier via msg.methodId]
      cases hfind : findMappingForService mappings via.someipServiceId via.someipInstanceId with
      | some first =>
          have hinstance : findMappingInstance mappings via.someipServiceId
              via.someipInstanceId = some first := by
            rw [findMappingInstance, hfind]
          rw [hinstance, Option.any_some]
          dsimp only
          split_ifs
          · rfl
          · rfl
      | none =>
          -- the receiver may fall back to another instance, but has not subscribed to this one
          have hunsubscribed : earlier.countP (subscribesTo via) = 0 := by
            apply List.countP_eq_zero.mpr
            intro map hmap hsubscribes
            have hpair := (Bool.and_eq_true_iff.mp hsubscribes).2
            exact absurd hpair (List.find?_eq_none.mp hfind map (hearlier.subset hmap))
          rw [hunsubscribed]
          split
          · rfl
          · rfl
  · have hnowhere : routed (net.setup site) mappings (.sample key payload) = none := by
      rw [routed, hkey, hkeyPrefix, routeSample_buildRpcKey]
    rw [hnowhere, Input.relayed, hnone]

theorem due_flatMap (site : ι) (mappings : List ServiceMapping) {α : Type} (list : List α)
    (flights : α → List (Flight ι)) :
    net.due site mappings (list.flatMap flights) =
      list.flatMap fun a => net.due site mappings (flights a) := by
  induction list with
  | nil => rfl
  | cons a rest ih => rw [List.flatMap_cons, due_append, ih, List.flatMap_cons]

omit [DecidableEq ι] in
theorem expected_append (mappings : List ServiceMapping) (first second : List (Entry ι)) :
    net.expected mappings (first ++ second) =
      net.expected mappings first ++ net.expected mappings second := List.flatMap_append

theorem datagramsAt_append (site : ι) (first second : List (Entry ι)) :
    datagramsAt site (first ++ second) = datagramsAt site first ++ datagramsAt site second :=
  List.flatMap_append

/-- What the puts of an event are worth at a gateway is not more than they should be; it
is what they should be if the gateway has subscribed for all of its mappings. -/
theorem due_puts (h : net.Agrees keyPrefix) {gateways : ι → ZenohGateway σ} {origin site : ι}
    {gw : ZenohGateway σ} (hgw : Declared (net.setup origin) gw) (input : Input)
    {mappings earlier : List ServiceMapping} (hearlier : earlier <+: mappings)
    (hsubscribers : (gateways site).zenohSubscribers = instancePatterns keyPrefix earlier) :
    let outputs := (step (net.setup origin) gw input).2
    List.Sublist (net.due site mappings (net.puts gateways outputs))
        (net.expected mappings [⟨origin, input, outputs⟩]) ∧
      (earlier = mappings → net.due site mappings (net.puts gateways outputs) =
        net.expected mappings [⟨origin, input, outputs⟩]) := by
  intro outputs
  rw [Network.puts, due_flatMap, Network.expected, List.flatMap_singleton]
  constructor
  · apply List.Sublist.flatMap_right
    intro out hout
    cases out with
    | put key payload declared via =>
        dsimp only
        rw [due_published h hgw hout hearlier hsubscribers]
        split
        · exact List.Sublist.refl _
        · apply (List.replicate_sublist_replicate _).mpr
          unfold multiplicity
          split_ifs
          · exact hearlier.sublist.countP_le
          · exact Nat.le_refl 0
    | _ => exact List.Sublist.refl _
  · intro hall
    apply List.flatMap_congr
    intro out hout
    cases out with
    | put key payload declared via =>
        dsimp only
        rw [due_published h hgw hout hearlier hsubscribers, hall]
        rfl
    | _ => rfl

/-! ### Mappings that are added later -/

theorem step_mappings (setup : Setup σ κ) (gw : ZenohGateway σ) (input : Input) :
    gw.base.serviceMappings <+: (step setup gw input).1.base.serviceMappings := by
  have hsame {now : ZenohGateway σ} (h : now.base.serviceMappings = gw.base.serviceMappings) :
      gw.base.serviceMappings <+: now.base.serviceMappings := by
    rw [h]
  cases input with
  | start outcome =>
      apply hsame
      simp only [step, start]
      split_ifs <;> rfl
  | stop =>
      apply hsame
      simp only [step, stop]
      split_ifs <;> rfl
  | addServiceMapping mapping => exact List.prefix_append _ _
  | _ => exact hsame (step_handled setup gw rfl).mappings

theorem multiplicity_le {mappings later : List ServiceMapping} (h : mappings <+: later)
    (via : ServiceMapping) : multiplicity mappings via ≤ multiplicity later via := by
  obtain ⟨more, rfl⟩ := h
  unfold multiplicity findMappingForService
  rw [List.find?_append]
  cases hfind : mappings.find? fun m => m.someipServiceId == via.someipServiceId &&
      m.someipInstanceId == via.someipInstanceId with
  | none => exact Nat.zero_le _
  | some first =>
      rw [Option.some_or, List.countP_append]
      split_ifs
      · exact Nat.le_add_right _ _
      · exact Nat.le_refl 0

omit [DecidableEq ι] in
theorem expected_sublist {mappings later : List ServiceMapping} (h : mappings <+: later)
    (log : List (Entry ι)) :
    List.Sublist (net.expected mappings log) (net.expected later log) := by
  apply List.Sublist.flatMap_right
  intro entry _
  apply List.Sublist.flatMap_right
  intro out _
  cases out with
  | put key payload declared via =>
      dsimp only
      split
      · exact List.Sublist.refl _
      · exact (List.replicate_sublist_replicate _).mpr (multiplicity_le h via)
  | _ => exact List.Sublist.refl _

/-- A flight means the same to its receiver whatever mappings are added. -/
def Flight.Stable (net : Network ι σ κ) (gateways : ι → ZenohGateway σ) (flight : Flight ι) :
    Prop :=
  ∀ more, routed (net.setup flight.site)
      ((gateways flight.site).base.serviceMappings ++ more) flight.input =
    routed (net.setup flight.site) (gateways flight.site).base.serviceMappings flight.input

omit [DecidableEq ι] in
theorem Flight.Stable.later {flight : Flight ι} {gateways later : ι → ZenohGateway σ}
    (h : flight.Stable net gateways)
    (hlater : (gateways flight.site).base.serviceMappings <+:
      (later flight.site).base.serviceMappings) :
    flight.Stable net later ∧
      routed (net.setup flight.site) (later flight.site).base.serviceMappings flight.input =
        routed (net.setup flight.site) (gateways flight.site).base.serviceMappings
          flight.input := by
  obtain ⟨added, hadded⟩ := hlater
  constructor
  · intro more
    rw [← hadded, List.append_assoc, h, h]
  · rw [← hadded, h]

theorem findMappingInstance_append {mappings : List ServiceMapping} {map : ServiceMapping}
    (hmem : map ∈ mappings) (more : List ServiceMapping) :
    findMappingInstance (mappings ++ more) map.someipServiceId map.someipInstanceId =
      findMappingInstance mappings map.someipServiceId map.someipInstanceId := by
  have hfound : ∃ first, findMappingForService mappings map.someipServiceId
      map.someipInstanceId = some first := by
    apply Option.isSome_iff_exists.mp
    exact List.find?_isSome.mpr ⟨map, hmem, by simp⟩
  obtain ⟨first, hfirst⟩ := hfound
  have hlater : findMappingForService (mappings ++ more) map.someipServiceId
      map.someipInstanceId = some first := by
    unfold findMappingForService at hfirst ⊢
    rw [List.find?_append, hfirst, Option.some_or]
  rw [findMappingInstance, findMappingInstance, hfirst, hlater]

omit [DecidableEq ι] in
/-- The subscription that a put goes to is there for a mapping of its instance, and that
mapping keeps the receiver from falling back to others. -/
theorem stable_of_carry (h : net.Agrees keyPrefix) {gateways : ι → ZenohGateway σ}
    (hdeclared : ∀ site, Declared (net.setup site) (gateways site)) {origin : ι}
    {gw : ZenohGateway σ} (hgw : Declared (net.setup origin) gw)
    {input : Input} {key : Text} {payload : Bytes} {declared : Bool} {via : ServiceMapping}
    (hput : .put key payload declared via ∈ (step (net.setup origin) gw input).2)
    {flight : Flight ι} (hflight : flight ∈ net.carry gateways key payload) :
    flight.Stable net gateways := by
  obtain ⟨site, -, hsite⟩ := List.mem_flatMap.mp hflight
  obtain ⟨pattern, hpattern, rfl⟩ := List.mem_map.mp hsite
  obtain ⟨hpattern, hcovers⟩ := List.mem_filter.mp hpattern
  have hkeyPrefix : (net.setup origin).config.keyPrefix = (net.setup site).config.keyPrefix :=
    (h.keyPrefix origin).trans (h.keyPrefix site).symm
  intro more
  dsimp only
  rcases step_published (net.setup origin) hput with ⟨msg, -, hpublished⟩ | ⟨-, m, hkey⟩
  · have hrouted := routed_published (net.setup site) hkeyPrefix
      (hgw.encoding.trans (h.encoding origin site)) (h.notCbor site) hpublished
    rw [hrouted, hrouted]
    by_cases hrpc : rpcish (net.setup origin).cls msg.messageType = true
    · rw [if_pos hrpc, if_pos hrpc]
    · have hkey := hpublished.key_eq
      rw [if_neg hrpc, hkeyPrefix, buildKeyExpr_eq_stem] at hkey
      obtain ⟨earlier, hearlier, hsubscribers⟩ := (hdeclared site).declared
      rw [hsubscribers] at hpattern
      obtain ⟨map, hmap, rfl⟩ := List.mem_map.mp hpattern
      rw [hkey] at hcovers
      have hplain : WildcardFree (net.setup site).config.keyPrefix := by
        rw [h.keyPrefix site]
        exact h.plain
      obtain ⟨hservice, hinstance⟩ := (covers_stem_iff net.matching hplain ..).mp hcovers
      rw [hservice, hinstance,
        findMappingInstance_append (hearlier.subset (List.mem_filter.mp hmap).1)]
  · rw [hkey, hkeyPrefix, routed, routed, routeSample_buildRpcKey, routeSample_buildRpcKey]

/-! ### The ledger of a network -/

/-- `stable` keeps what is on the way apart from mappings that are added later. -/
structure Ledger (net : Network ι σ κ) (state : NetworkState ι σ) : Prop where
  declared : ∀ site, Declared (net.setup site) (state.gateways site)
  stable : ∀ flight ∈ state.inFlight, flight.Stable net state.gateways

/-- What is for a gateway. -/
def NetworkState.dueAt (net : Network ι σ κ) (state : NetworkState ι σ) (site : ι) :
    List Message :=
  net.due site (state.gateways site).base.serviceMappings state.inFlight

theorem due_later {gateways later : ι → ZenohGateway σ} {flights : List (Flight ι)}
    (h : ∀ flight ∈ flights, flight.Stable net gateways) (site : ι)
    (hlater : (gateways site).base.serviceMappings <+: (later site).base.serviceMappings) :
    net.due site (later site).base.serviceMappings flights =
      net.due site (gateways site).base.serviceMappings flights := by
  apply List.filterMap_congr
  intro flight hflight
  obtain ⟨hmem, hsite⟩ := List.mem_filter.mp hflight
  obtain rfl : flight.site = site := of_decide_eq_true hsite
  exact ((h flight hmem).later hlater).2

variable {state : NetworkState ι σ}

variable (net) in
theorem move_mappings (state : NetworkState ι σ) (origin : ι) (input : Input) (site : ι) :
    (state.gateways site).base.serviceMappings <+:
      ((net.move state origin input).1.gateways site).base.serviceMappings := by
  rw [move_gateways]
  split_ifs with hsite
  · rw [hsite]
    exact step_mappings (net.setup origin) (state.gateways origin) input
  · exact List.prefix_refl _

theorem move_declared (h : Ledger net state) (origin : ι) (input : Input) (site : ι) :
    Declared (net.setup site) ((net.move state origin input).1.gateways site) := by
  rw [move_gateways]
  split_ifs with hsite
  · rw [hsite]
    exact step_declared (net.setup origin) input (h.declared origin)
  · exact h.declared site

theorem move_ledger (hnet : net.Agrees keyPrefix) (h : Ledger net state) (origin : ι)
    (input : Input) : Ledger net (net.move state origin input).1 where
  declared := move_declared h origin input
  stable := by
    intro flight hflight
    rw [Network.move, List.append_assoc, List.mem_append, List.mem_append] at hflight
    rcases hflight with hold | hput | htoken
    · exact ((h.stable flight hold).later (move_mappings net state origin input flight.site)).1
    · obtain ⟨out, hout, hcarried⟩ := List.mem_flatMap.mp hput
      cases out with
      | put key payload declared via =>
          exact stable_of_carry hnet (move_declared h origin input) (h.declared origin) hout
            hcarried
      | _ => cases hcarried
    · obtain ⟨token, -, hannounced⟩ := List.mem_flatMap.mp htoken
      obtain ⟨site, -, hsite⟩ := List.mem_flatMap.mp hannounced
      obtain ⟨pattern, -, rfl⟩ := List.mem_map.mp hsite
      exact fun _ => rfl

omit [DecidableEq ι] in
theorem Ledger.fewer (h : Ledger net state) {flights : List (Flight ι)}
    (hflights : flights ⊆ state.inFlight) :
    Ledger net { state with inFlight := flights } :=
  ⟨h.declared, fun flight hflight => h.stable flight (hflights hflight)⟩

variable (state) in
theorem step_ledger (hnet : net.Agrees keyPrefix) (h : Ledger net state)
    (input : NetworkInput ι) : Ledger net (net.step state input).1 := by
  have herased (position : Nat) :
      Ledger net { state with inFlight := state.inFlight.eraseIdx position } :=
    h.fewer (List.eraseIdx_sublist _ _).subset
  have hstep := step_moves net state input
  generalize net.step state input = next at hstep ⊢
  cases hstep with
  | idle => exact h
  | event outer => exact move_ledger hnet h _ _
  | arrival found listens => exact move_ledger hnet (herased _) _ _
  | unheard found deaf => exact herased _
  | loss found => exact herased _

theorem move_dueAt (h : Ledger net state) (origin : ι) (input : Input) (site : ι) :
    (net.move state origin input).1.dueAt net site =
      state.dueAt net site ++
        net.due site ((net.move state origin input).1.gateways site).base.serviceMappings
          (net.puts (net.move state origin input).1.gateways
            (step (net.setup origin) (state.gateways origin) input).2) := by
  have hflights : (net.move state origin input).1.inFlight =
      state.inFlight ++ net.puts (net.move state origin input).1.gateways
          (step (net.setup origin) (state.gateways origin) input).2 ++
        (changedTokens (state.gateways origin).livelinessTokens
          (step (net.setup origin) (state.gateways origin) input).1.livelinessTokens).flatMap
            (net.announce (net.move state origin input).1.gateways origin) := rfl
  rw [NetworkState.dueAt, hflights, due_append, due_append, due_flatMap,
    due_later h.stable site (move_mappings net state origin input site)]
  have htokens (tokens : List Text) : (tokens.flatMap fun token => net.due site
      ((net.move state origin input).1.gateways site).base.serviceMappings
        (net.announce (net.move state origin input).1.gateways origin token)) = [] :=
    List.flatMap_eq_nil_iff.mpr fun token _ => due_announce net _ origin token site _
  rw [htokens, List.append_nil]
  rfl

theorem datagramsAt_entry (site : ι) (entry : Entry ι) :
    datagramsAt site [entry] =
      if entry.site = site then entry.outputs.filterMap Output.datagram else [] :=
  List.flatMap_singleton ..

omit [DecidableEq ι] in
/-- A sample is turned into the message it stands for, if there is a transport. -/
theorem sample_datagram (hnet : net.Agrees keyPrefix) {site : ι} {gw : ZenohGateway σ}
    (hgw : Declared (net.setup site) gw) {input : Input} (hsample : input.isSample = true) :
    (step (net.setup site) gw input).2.filterMap Output.datagram =
      if gw.udp.isSome then (routed (net.setup site) gw.base.serviceMappings input).toList
      else [] := by
  cases input with
  | sample key payload =>
      rw [step, onZenohSample_eq, routed, ← hgw.encoding]
      rcases routeSample (net.setup site) gw.encoding gw.base.serviceMappings key payload with
        _ | ⟨mapping, _ | msg⟩
      · simp
      · simp [Output.datagram]
      · cases hudp : gw.udp with
        | none => simp [sendSomeipUdp]
        | some udp => simp [sendSomeipUdp, hnet.unprotected site, Output.datagram]
  | livelinessSample key putOrDelete =>
      rw [step, onLivelinessSample]
      split_ifs <;> rfl
  | _ => cases hsample

omit [DecidableEq ι] in
theorem sample_puts (net : Network ι σ κ) (setup : Setup σ κ) (gateways : ι → ZenohGateway σ)
    (gw : ZenohGateway σ) {input : Input} (hsample : input.isSample = true) :
    net.puts gateways (step setup gw input).2 = [] := by
  rw [Network.puts, List.flatMap_eq_nil_iff]
  intro out hout
  cases out with
  | put key payload declared via =>
      rcases step_published setup hout with ⟨msg, hmsg, -⟩ | ⟨-, m, hkey⟩
      · cases input with
        | sample sampleKey samplePayload => cases hmsg
        | livelinessSample token putOrDelete => cases hmsg
        | _ => cases hsample
      · cases input with
        | sample sampleKey samplePayload =>
            exact absurd hout (onZenohSample_no_put setup gw sampleKey samplePayload)
        | livelinessSample token putOrDelete =>
            simp only [step, onLivelinessSample] at hout
            split_ifs at hout <;> simp at hout
        | _ => cases hsample
  | _ => rfl

theorem outer_datagrams (setup : Setup σ κ) (gw : ZenohGateway σ) {input : Input}
    (houter : input.isSample = false) (origin site : ι) :
    datagramsAt site [⟨origin, input, (step setup gw input).2⟩] = [] := by
  rw [datagramsAt_entry]
  split_ifs
  · apply List.filterMap_eq_nil_iff.mpr
    intro out hout
    cases out with
    | sendMessage msg dest via => exact absurd hout (step_no_datagram setup gw houter)
    | _ => rfl
  · rfl

omit [DecidableEq ι] in
/-- Samples put nothing, so they are worth nothing. -/
theorem sample_expected (setup : Setup σ κ) (gw : ZenohGateway σ) {input : Input}
    (hsample : input.isSample = true) (origin : ι) (mappings : List ServiceMapping) :
    net.expected mappings [⟨origin, input, (step setup gw input).2⟩] = [] := by
  rw [Network.expected, List.flatMap_singleton, List.flatMap_eq_nil_iff]
  intro out _
  cases out with
  | put key payload declared via =>
      have hmessage : input.relayed (net.setup origin) via = none := by
        cases input with
        | sample sampleKey samplePayload => rfl
        | livelinessSample token putOrDelete => rfl
        | _ => cases hsample
      dsimp only
      rw [hmessage]
  | _ => rfl

variable (net) in
/-- What is due splits into what the flight at a position stands for and the rest. -/
theorem dueAt_eraseIdx {position : Nat} {flight : Flight ι}
    (hflight : state.inFlight[position]? = some flight) (site : ι) :
    List.Perm
      ((if flight.site = site then
          (routed (net.setup site) (state.gateways site).base.serviceMappings flight.input).toList
        else []) ++
        { state with inFlight := state.inFlight.eraseIdx position }.dueAt net site)
      (state.dueAt net site) := by
  obtain ⟨hbound, rfl⟩ := List.getElem?_eq_some_iff.mp hflight
  have hperm := ((List.getElem_cons_eraseIdx_perm hbound).filter
    fun flight => flight.site = site).filterMap fun flight =>
      routed (net.setup site) (state.gateways site).base.serviceMappings flight.input
  rw [NetworkState.dueAt, ← due_cons]
  exact hperm

/-- What a gateway has sent and what is due there, against what the puts so far are
worth there. -/
def Solvent (net : Network ι σ κ) (site : ι) (state : NetworkState ι σ)
    (log : List (Entry ι)) : Prop :=
  List.Subperm (datagramsAt site log ++ state.dueAt net site)
    (net.expected (state.gateways site).base.serviceMappings log)

variable {log : List (Entry ι)} {site : ι}

variable (log site) in
/-- What an event adds to the accounts of a gateway. -/
theorem move_accounts (hnet : net.Agrees keyPrefix) (h : Ledger net state) (origin : ι)
    {input : Input} (houter : input.isSample = false) :
    ∃ added, datagramsAt site (log ++ (net.move state origin input).2) ++
          (net.move state origin input).1.dueAt net site =
        datagramsAt site log ++ state.dueAt net site ++ added ∧
      List.Sublist added (net.expected
        ((net.move state origin input).1.gateways site).base.serviceMappings
          (net.move state origin input).2) ∧
      (((net.move state origin input).1.gateways site).zenohSubscribers =
          instancePatterns keyPrefix
            ((net.move state origin input).1.gateways site).base.serviceMappings →
        added = net.expected
          ((net.move state origin input).1.gateways site).base.serviceMappings
            (net.move state origin input).2) := by
  obtain ⟨earlier, hearlier, hsubscribers⟩ := (move_declared h origin input site).declared
  rw [hnet.keyPrefix site] at hsubscribers
  have hdatagrams : datagramsAt site (net.move state origin input).2 = [] :=
    outer_datagrams (net.setup origin) (state.gateways origin) houter origin site
  obtain ⟨hsub, -⟩ := due_puts hnet (h.declared origin) input hearlier hsubscribers
  refine ⟨_, ?_, hsub, fun hall => ?_⟩
  · rw [datagramsAt_append, hdatagrams, List.append_nil, move_dueAt h, ← List.append_assoc]
  · exact (due_puts hnet (h.declared origin) input (List.prefix_refl _) hall).2 rfl

theorem act_solvent (hnet : net.Agrees keyPrefix) (h : Ledger net state)
    (hsolvent : Solvent net site state log) (origin : ι) {input : Input}
    (houter : input.isSample = false) :
    Solvent net site (net.move state origin input).1
      (log ++ (net.move state origin input).2) := by
  obtain ⟨added, haccounts, hadded, -⟩ :=
    move_accounts log site hnet h origin houter
  rw [Solvent, haccounts, expected_append]
  have hbefore := hsolvent.trans
    (expected_sublist (move_mappings net state origin input site) log).subperm
  exact hbefore.append hadded.subperm

omit [DecidableEq ι] in
theorem configures_of_isSample {input : Input} (h : input.isSample = true) :
    input.configures = false := by
  cases input with
  | sample key payload => rfl
  | livelinessSample key putOrDelete => rfl
  | _ => cases h

/-- What arrives at a gateway is no longer due there, but sent, if there is a
transport. -/
theorem arrival_accounts (hnet : net.Agrees keyPrefix) (h : Ledger net state) {target : ι}
    {input : Input} (hsample : input.isSample = true) (site : ι) :
    datagramsAt site (net.move state target input).2 =
        (if target = site ∧ (state.gateways target).udp.isSome then
          (routed (net.setup target) (state.gateways target).base.serviceMappings input).toList
        else []) ∧
      (net.move state target input).1.dueAt net site = state.dueAt net site ∧
      net.expected ((net.move state target input).1.gateways site).base.serviceMappings
        (net.move state target input).2 = [] ∧
      ((net.move state target input).1.gateways site).base.serviceMappings =
        (state.gateways site).base.serviceMappings := by
  refine ⟨?_, ?_, ?_, ?_⟩
  · have hlog : (net.move state target input).2 =
        [⟨target, input, (step (net.setup target) (state.gateways target) input).2⟩] := rfl
    rw [hlog, datagramsAt_entry, sample_datagram hnet (h.declared target) hsample]
    by_cases htarget : target = site
    · rw [if_pos htarget]
      simp only [htarget, true_and]
    · rw [if_neg htarget, if_neg fun hall => htarget hall.1]
  · rw [move_dueAt h, sample_puts net (net.setup target) _ _ hsample]
    exact List.append_nil _
  · exact sample_expected (net.setup target) (state.gateways target) hsample target _
  · rw [move_gateways]
    split_ifs with hsite
    · rw [hsite]
      exact (step_handled (net.setup target) (state.gateways target)
        (configures_of_isSample hsample)).mappings
    · rfl

theorem Solvent.lose (h : Solvent net site state log) (position : Nat) :
    Solvent net site { state with inFlight := state.inFlight.eraseIdx position } log := by
  have hfewer := ((List.eraseIdx_sublist state.inFlight position).filter
    fun flight => flight.site = site).filterMap fun flight =>
      routed (net.setup site) (state.gateways site).base.serviceMappings flight.input
  exact ((hfewer.append_left (datagramsAt site log)).subperm).trans h

theorem deliver_solvent (hnet : net.Agrees keyPrefix) (h : Ledger net state)
    (hsolvent : Solvent net site state log) {position : Nat} {flight : Flight ι}
    (hflight : state.inFlight[position]? = some flight)
    (hsample : flight.input.isSample = true) :
    let left : NetworkState ι σ := { state with inFlight := state.inFlight.eraseIdx position }
    Solvent net site (net.move left flight.site flight.input).1
      (log ++ (net.move left flight.site flight.input).2) := by
  intro left
  have hleft : Ledger net left := h.fewer (List.eraseIdx_sublist _ _).subset
  obtain ⟨hdatagrams, hdue, hexpected, hmappings⟩ :=
    arrival_accounts hnet hleft hsample site
  have hworth : List.Sublist (datagramsAt site (net.move left flight.site flight.input).2)
      (if flight.site = site then
        (routed (net.setup site) (state.gateways site).base.serviceMappings flight.input).toList
      else []) := by
    rw [hdatagrams]
    split_ifs with hall hsite hsite
    · obtain ⟨rfl, -⟩ := hall
      exact List.Sublist.refl _
    · exact absurd hall.1 hsite
    · exact List.nil_sublist _
    · exact List.nil_sublist _
  unfold Solvent
  rw [datagramsAt_append, hdue, expected_append, hexpected, List.append_nil, hmappings,
    List.append_assoc]
  have hnow := ((hworth.append_right (left.dueAt net site)).append_left
    (datagramsAt site log)).subperm
  have hbefore := ((dueAt_eraseIdx net hflight site).append_left
    (datagramsAt site log)).subperm
  exact (hnow.trans hbefore).trans hsolvent

theorem step_solvent (hnet : net.Agrees keyPrefix) (h : Ledger net state)
    (hsolvent : Solvent net site state log) (input : NetworkInput ι) :
    Solvent net site (net.step state input).1 (log ++ (net.step state input).2) := by
  have hstep := step_moves net state input
  generalize net.step state input = next at hstep ⊢
  cases hstep with
  | idle =>
      rw [List.append_nil]
      exact hsolvent
  | event outer => exact act_solvent hnet h hsolvent _ outer
  | arrival found listens =>
      exact deliver_solvent hnet h hsolvent found (isSample_of_listens listens)
  | unheard found deaf =>
      rw [List.append_nil]
      exact hsolvent.lose _
  | loss found =>
      rw [List.append_nil]
      exact hsolvent.lose _

omit [DecidableEq ι] in
theorem initial_ledger (net : Network ι σ κ) (mappings : ι → List ServiceMapping)
    (e2e : ι → σ) : Ledger net (net.initial mappings e2e) where
  declared := fun _ => ⟨rfl, fun _ => rfl, [], List.nil_prefix, rfl⟩
  stable := fun _ hflight => absurd hflight List.not_mem_nil

end

end SomeipGateway.Zenoh
