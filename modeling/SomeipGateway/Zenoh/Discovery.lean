import SomeipGateway.Zenoh.Events

/-! Liveliness tokens as service discovery. A gateway looks up the services of the other
gateways as they come and go, and no others. -/
namespace SomeipGateway.Zenoh

open Lib

variable {ι σ κ : Type}

/-- Every token under a prefix. -/
def allTokens (keyPrefix : Text) : Text := keyPrefix ++ Text.ascii "/liveliness/**"

def tokensOf (keyPrefix : Text) (mappings : List ServiceMapping) : List Text :=
  mappings.map fun map => buildLivelinessKey keyPrefix map.someipServiceId map.someipInstanceId

/-- The service that a gateway looks up when it hears of a token. -/
def lookup (keyPrefix : Text) : Input → Option UInt16
  | .livelinessSample token true =>
      let parsed := parseSomeipKey token keyPrefix
      some (if parsed.valid && parsed.isLiveliness then parsed.serviceId else 0)
  | _ => none

def Output.lookup : Output → Option UInt16
  | .findService serviceId => some serviceId
  | _ => none

/-- The services that a gateway has looked up. -/
def lookupsAt [DecidableEq ι] (site : ι) (log : List (Entry ι)) : List UInt16 :=
  log.flatMap fun entry =>
    if entry.site = site then entry.outputs.filterMap Output.lookup else []

/-- The lookups that the tokens on the way to a gateway are going to cause there. -/
def lookupsDue [DecidableEq ι] (keyPrefix : Text) (site : ι) (flights : List (Flight ι)) :
    List UInt16 :=
  (flights.filter fun flight => flight.site = site).filterMap fun flight =>
    lookup keyPrefix flight.input

/-- One key prefix, and every gateway listens to all tokens under it. -/
structure Network.Announces (net : Network ι σ κ) (keyPrefix : Text) : Prop where
  plain : WildcardFree keyPrefix
  keyPrefix : ∀ site, (net.setup site).config.keyPrefix = keyPrefix
  allTokens : ∀ site, (net.setup site).config.livelinessSubscriptionKey = []

theorem lookup_token (keyPrefix : Text) (s i : UInt16) :
    lookup keyPrefix (.livelinessSample (buildLivelinessKey keyPrefix s i) true) = some s := by
  have hparsed : parseSomeipKey (buildLivelinessKey keyPrefix s i) keyPrefix =
      (SomeipKey.liveliness s i).parsed :=
    SomeipKey.parseSomeipKey_build keyPrefix (.liveliness s i)
  rw [lookup, hparsed]
  rfl

theorem lookup_of_not_sample {keyPrefix : Text} {input : Input} (h : input.isSample = false) :
    lookup keyPrefix input = none := by
  cases input with
  | sample key payload => cases h
  | livelinessSample key putOrDelete => cases h
  | _ => rfl

/-! ### What a gateway announces and looks up -/

section

variable (setup : Setup σ κ)

def sessionTokens : Resource setup Text where
  held := ZenohGateway.livelinessTokens
  calledFor := tokensOf setup.config.keyPrefix
  nothing := rfl
  framed := fun _ _ _ _ => rfl
  givenUp := fun _ _ => ⟨rfl, rfl⟩
  declared := fun _ => rfl
  dropped := fun gw hrun => by simp [stop, hrun]

/-- What a start from rest that succeeds announces. -/
theorem start_tokens {outcome : StartOutcome} {gw : ZenohGateway σ}
    (h : (sessionTokens setup).Holds gw) (hstopped : gw.base.running = false) :
    (start setup outcome gw).1 = some .success →
      (start setup outcome gw).2.livelinessTokens =
        tokensOf setup.config.keyPrefix gw.base.serviceMappings := by
  have htokens : gw.livelinessTokens = [] := h.stopped hstopped
  simp only [start]
  split_ifs with hrun
  · exact absurd hrun (by simp [hstopped])
  · intro hresult
    cases hresult
  · intro hresult
    cases hresult
  · intro hresult
    cases hresult
  · intro _
    simp only [declareSession, startSomeip, startTransports, htokens, List.nil_append]
    rfl

/-- A gateway listens to tokens while it runs, if the bridge is on. -/
structure Listening (gw : ZenohGateway σ) : Prop where
  stopped : gw.base.running = false → gw.livelinessSubscribers = []
  running : gw.base.running = true → setup.config.livelinessSubscriptionKey = [] →
    gw.livelinessSubscribers =
      if setup.config.enableLivelinessSdBridge then [allTokens setup.config.keyPrefix] else []

theorem Handled.listening {before after : ZenohGateway σ} (h : Handled before after)
    (hbefore : Listening setup before) : Listening setup after := by
  have hrunning := h.running
  rw [h.frame]
  exact ⟨fun hstopped => hbefore.stopped (hrunning ▸ hstopped),
    fun hrun => hbefore.running (hrunning ▸ hrun)⟩

theorem step_listening {gw : ZenohGateway σ} (input : Input) (h : Listening setup gw) :
    Listening setup (step setup gw input).1 := by
  cases input with
  | start outcome =>
      simp only [step, start]
      split_ifs with hrun
      · exact h
      -- a start that gives up subscribes to nothing
      · exact ⟨h.stopped, fun hafter => absurd hafter hrun⟩
      · exact ⟨h.stopped, fun hafter => absurd hafter hrun⟩
      · exact ⟨h.stopped, fun hafter => absurd hafter hrun⟩
      · have hnone := h.stopped (Bool.not_eq_true _ ▸ hrun)
        refine ⟨fun hstopped => absurd hstopped (by simp [declareSession]), fun _ hdefault => ?_⟩
        simp only [declareSession, startSomeip, startTransports, hnone, hdefault,
          List.nil_append, List.isEmpty_nil, if_true]
        rfl
  | stop =>
      simp only [step, stop]
      split_ifs
      · exact h
      · exact ⟨fun _ => rfl, fun hrun => absurd hrun (by simp)⟩
  | addServiceMapping mapping => exact ⟨h.stopped, h.running⟩
  | _ => exact (step_handled setup gw rfl).listening setup h

/-- What a gateway makes of tokens. -/
structure Advertising (gw : ZenohGateway σ) : Prop where
  tokens : (sessionTokens setup).Holds gw
  listening : Listening setup gw

theorem step_advertising {gw : ZenohGateway σ} (input : Input) (h : Advertising setup gw) :
    Advertising setup (step setup gw input).1 :=
  ⟨(sessionTokens setup).step_holds input h.tokens, step_listening setup input h.listening⟩

/-- Every subscription to tokens is to all of them. -/
theorem Listening.subscribers {gw : ZenohGateway σ} (h : Listening setup gw)
    (hdefault : setup.config.livelinessSubscriptionKey = []) {pattern : Text}
    (hpattern : pattern ∈ gw.livelinessSubscribers) :
    pattern = allTokens setup.config.keyPrefix := by
  cases hrunning : gw.base.running with
  | false =>
      rw [h.stopped hrunning] at hpattern
      cases hpattern
  | true =>
      rw [h.running hrunning hdefault] at hpattern
      split_ifs at hpattern
      · exact List.mem_singleton.mp hpattern
      · cases hpattern

end

/-! ### What an event looks up -/

section

variable (setup : Setup σ κ)

/-- A token is looked up over the SD client, if the bridge is on. -/
def ZenohGateway.looksUp (gw : ZenohGateway σ) : Bool :=
  setup.config.enableLivelinessSdBridge && gw.sdClient.isSome

theorem step_no_lookup (gw : ZenohGateway σ) {input : Input}
    (h : ∀ token putOrDelete, input ≠ .livelinessSample token putOrDelete) :
    (step setup gw input).2.filterMap Output.lookup = [] := by
  apply List.filterMap_eq_nil_iff.mpr
  intro out hout
  have hallows := step_allows setup hout
  cases out with
  | findService serviceId =>
      cases input with
      | livelinessSample token putOrDelete => exact absurd rfl (h token putOrDelete)
      | _ => cases hallows
  | _ => rfl

theorem step_lookups (gw : ZenohGateway σ) (input : Input) :
    (step setup gw input).2.filterMap Output.lookup =
      if gw.looksUp setup then (lookup setup.config.keyPrefix input).toList else [] := by
  cases input with
  | livelinessSample token putOrDelete =>
      rw [step, onLivelinessSample, ZenohGateway.looksUp]
      cases setup.config.enableLivelinessSdBridge with
      | false => rfl
      | true =>
          cases gw.sdClient with
          | none => rfl
          | some client =>
              cases putOrDelete with
              | false => rfl
              | true => rfl
  | _ =>
      rw [step_no_lookup setup gw (by simp)]
      exact (ite_self _).symm

end

/-! ### What is on its way -/

section

variable [DecidableEq ι] {net : Network ι σ κ} {keyPrefix : Text}

theorem lookupsAt_append (site : ι) (first second : List (Entry ι)) :
    lookupsAt site (first ++ second) = lookupsAt site first ++ lookupsAt site second :=
  List.flatMap_append

theorem lookupsDue_append (keyPrefix : Text) (site : ι) (first second : List (Flight ι)) :
    lookupsDue keyPrefix site (first ++ second) =
      lookupsDue keyPrefix site first ++ lookupsDue keyPrefix site second := by
  simp only [lookupsDue, List.filter_append, List.filterMap_append]

theorem mem_lookupsDue {site : ι} {flights : List (Flight ι)} {serviceId : UInt16} :
    serviceId ∈ lookupsDue keyPrefix site flights ↔
      ∃ flight ∈ flights, flight.site = site ∧ lookup keyPrefix flight.input = some serviceId := by
  simp only [lookupsDue, List.mem_filterMap, List.mem_filter, decide_eq_true_eq, and_assoc]

theorem lookupsDue_eraseIdx (keyPrefix : Text) {flights : List (Flight ι)} {position : Nat}
    {flight : Flight ι} (hflight : flights[position]? = some flight) (site : ι) :
    List.Perm
      ((if flight.site = site then (lookup keyPrefix flight.input).toList else []) ++
        lookupsDue keyPrefix site (flights.eraseIdx position))
      (lookupsDue keyPrefix site flights) := by
  obtain ⟨hbound, rfl⟩ := List.getElem?_eq_some_iff.mp hflight
  have hperm := ((List.getElem_cons_eraseIdx_perm hbound).filter
    fun flight => flight.site = site).filterMap fun flight => lookup keyPrefix flight.input
  have hone : lookupsDue keyPrefix site [flights[position]] =
      if flights[position].site = site then (lookup keyPrefix flights[position].input).toList
      else [] := by
    unfold lookupsDue
    split_ifs with hsite
    · rw [List.filter_singleton, hsite]
      cases hlookup : lookup keyPrefix flights[position].input with
      | none => simp [hlookup]
      | some serviceId => simp [hlookup]
    · simp [hsite]
  rw [← hone, ← lookupsDue_append]
  exact hperm

omit [DecidableEq ι] in
theorem mem_puts {gateways : ι → ZenohGateway σ} {outputs : List Output} {flight : Flight ι}
    (h : flight ∈ net.puts gateways outputs) :
    ∃ key payload, flight.input = .sample key payload := by
  obtain ⟨out, -, hcarried⟩ := List.mem_flatMap.mp h
  cases out with
  | put key payload declared via =>
      obtain ⟨other, -, hother⟩ := List.mem_flatMap.mp hcarried
      obtain ⟨pattern, -, rfl⟩ := List.mem_map.mp hother
      exact ⟨key, payload, rfl⟩
  | _ => cases hcarried

theorem mem_announce {gateways : ι → ZenohGateway σ} {origin : ι} {token : Text}
    {flight : Flight ι} :
    flight ∈ net.announce gateways origin token ↔
      flight.site ≠ origin ∧ flight.pattern ∈ (gateways flight.site).livelinessSubscribers ∧
        net.matching.covers flight.pattern token = true ∧
        flight.input = .livelinessSample token true := by
  unfold Network.announce
  constructor
  · intro h
    obtain ⟨site, hsite, hflight⟩ := List.mem_flatMap.mp h
    obtain ⟨pattern, hpattern, rfl⟩ := List.mem_map.mp hflight
    obtain ⟨hmem, hcovers⟩ := List.mem_filter.mp hpattern
    exact ⟨of_decide_eq_true (List.mem_filter.mp hsite).2, hmem, hcovers, rfl⟩
  · obtain ⟨site, pattern, input⟩ := flight
    rintro ⟨hsite, hmem, hcovers, rfl⟩
    apply List.mem_flatMap.mpr
    refine ⟨site, List.mem_filter.mpr ⟨net.complete site, decide_eq_true hsite⟩, ?_⟩
    exact List.mem_map_of_mem (List.mem_filter.mpr ⟨hmem, hcovers⟩)

omit [DecidableEq ι] in
/-- The tokens that appear or disappear with an event. -/
def newsOf (net : Network ι σ κ) (state : NetworkState ι σ) (origin : ι) (input : Input) :
    List Text :=
  changedTokens (state.gateways origin).livelinessTokens
    (step (net.setup origin) (state.gateways origin) input).1.livelinessTokens

/-- What an event adds to the lookups of a gateway, and to those on their way to it. -/
theorem move_lookups (hnet : net.Announces keyPrefix) (state : NetworkState ι σ) (origin : ι)
    (input : Input) (site : ι) :
    lookupsAt site (net.move state origin input).2 =
        (if origin = site ∧ (state.gateways origin).looksUp (net.setup origin) then
          (lookup keyPrefix input).toList else []) ∧
      lookupsDue keyPrefix site (net.move state origin input).1.inFlight =
        lookupsDue keyPrefix site state.inFlight ++ lookupsDue keyPrefix site
          ((newsOf net state origin input).flatMap
            (net.announce (net.move state origin input).1.gateways origin)) := by
  constructor
  · have hentry : lookupsAt site (net.move state origin input).2 =
        if origin = site then
          (step (net.setup origin) (state.gateways origin) input).2.filterMap Output.lookup
        else [] := List.flatMap_singleton ..
    rw [hentry, step_lookups, hnet.keyPrefix origin]
    by_cases hsite : origin = site
    · rw [if_pos hsite]
      simp only [hsite, true_and]
    · rw [if_neg hsite, if_neg fun hall => hsite hall.1]
  · have hputs (gateways : ι → ZenohGateway σ) (outputs : List Output) :
        lookupsDue keyPrefix site (net.puts gateways outputs) = [] := by
      apply List.eq_nil_iff_forall_not_mem.mpr
      intro serviceId hmem
      obtain ⟨flight, hflight, -, hlookup⟩ := mem_lookupsDue.mp hmem
      obtain ⟨key, payload, hinput⟩ := mem_puts hflight
      rw [hinput] at hlookup
      cases hlookup
    have hinFlight : (net.move state origin input).1.inFlight = state.inFlight ++
        net.puts (net.move state origin input).1.gateways
          (step (net.setup origin) (state.gateways origin) input).2 ++
        (newsOf net state origin input).flatMap
          (net.announce (net.move state origin input).1.gateways origin) := rfl
    rw [hinFlight, lookupsDue_append, lookupsDue_append, hputs, List.append_nil]

theorem mem_changedTokens {before after : List Text} {token : Text}
    (h : token ∈ changedTokens before after) : token ∈ before ∨ token ∈ after := by
  have h := List.mem_dedup.mp h
  split_ifs at h
  · exact .inr (List.mem_of_mem_drop h)
  · exact .inl h

/-- A token is for a service that its gateway has a mapping for. -/
theorem mem_news (hnet : net.Announces keyPrefix) {state : NetworkState ι σ} {origin : ι}
    (h : Advertising (net.setup origin) (state.gateways origin)) {input : Input} {token : Text}
    (htoken : token ∈ newsOf net state origin input) :
    ∃ map ∈ ((net.move state origin input).1.gateways origin).base.serviceMappings,
      lookup keyPrefix (.livelinessSample token true) = some map.someipServiceId := by
  have hof {gw : ZenohGateway σ} (hgw : Advertising (net.setup origin) gw)
      (hmem : token ∈ gw.livelinessTokens) : ∃ map ∈ gw.base.serviceMappings,
        lookup keyPrefix (.livelinessSample token true) = some map.someipServiceId := by
    obtain ⟨earlier, hearlier, htokens⟩ := hgw.tokens.declared
    have hmem : token ∈ (sessionTokens (net.setup origin)).held gw := hmem
    rw [htokens] at hmem
    have hmem : token ∈ tokensOf keyPrefix earlier := hnet.keyPrefix origin ▸ hmem
    obtain ⟨map, hmap, rfl⟩ := List.mem_map.mp hmem
    exact ⟨map, hearlier.subset hmap, lookup_token ..⟩
  rcases mem_changedTokens htoken with hbefore | hafter
  · obtain ⟨map, hmap, hlookup⟩ := hof h hbefore
    exact ⟨map, (move_mappings net state origin input origin).subset hmap, hlookup⟩
  · rw [move_gateways, if_pos rfl]
    exact hof (step_advertising (net.setup origin) input h) hafter

end

/-! ### Nothing else is looked up -/

section

variable [DecidableEq ι] {net : Network ι σ κ} {keyPrefix : Text} {state : NetworkState ι σ}
  {log : List (Entry ι)} {site : ι}

/-- What is on the way was announced, and is for a subscription to all tokens. -/
structure Heralded (net : Network ι σ κ) (keyPrefix : Text) (state : NetworkState ι σ) :
    Prop where
  advertising : ∀ site, Advertising (net.setup site) (state.gateways site)
  patterns : ∀ flight ∈ state.inFlight, ∀ token putOrDelete,
    flight.input = .livelinessSample token putOrDelete → flight.pattern = allTokens keyPrefix

omit [DecidableEq ι] in
theorem Heralded.fewer (h : Heralded net keyPrefix state) {flights : List (Flight ι)}
    (hflights : flights ⊆ state.inFlight) :
    Heralded net keyPrefix { state with inFlight := flights } :=
  ⟨h.advertising, fun flight hflight => h.patterns flight (hflights hflight)⟩

theorem move_heralded (hnet : net.Announces keyPrefix) (h : Heralded net keyPrefix state)
    (origin : ι) (input : Input) : Heralded net keyPrefix (net.move state origin input).1 := by
  have hadvertising (site : ι) :
      Advertising (net.setup site) ((net.move state origin input).1.gateways site) := by
    rw [move_gateways]
    split_ifs with hsite
    · rw [hsite]
      exact step_advertising (net.setup origin) input (h.advertising origin)
    · exact h.advertising site
  refine ⟨hadvertising, fun flight hflight token putOrDelete htoken => ?_⟩
  rw [Network.move, List.append_assoc, List.mem_append, List.mem_append] at hflight
  rcases hflight with hold | hput | hnew
  · exact h.patterns flight hold token putOrDelete htoken
  · obtain ⟨key, payload, hsample⟩ := mem_puts hput
    rw [hsample] at htoken
    cases htoken
  · obtain ⟨announced, -, hannounced⟩ := List.mem_flatMap.mp hnew
    obtain ⟨-, hpattern, -⟩ := mem_announce.mp hannounced
    have hall := (hadvertising flight.site).listening.subscribers _
      (hnet.allTokens flight.site) hpattern
    rw [hnet.keyPrefix] at hall
    exact hall

theorem step_heralded (hnet : net.Announces keyPrefix) (h : Heralded net keyPrefix state)
    (input : NetworkInput ι) : Heralded net keyPrefix (net.step state input).1 := by
  have herased (position : Nat) : Heralded net keyPrefix
      { state with inFlight := state.inFlight.eraseIdx position } :=
    h.fewer (List.eraseIdx_sublist _ _).subset
  have hstep := step_moves net state input
  generalize net.step state input = next at hstep ⊢
  cases hstep with
  | idle => exact h
  | event outer => exact move_heralded hnet h _ _
  | arrival found listens => exact move_heralded hnet (herased _) _ _
  | unheard found deaf => exact herased _
  | loss found => exact herased _

/-- Another gateway has a mapping for the service. -/
def FromOthers (state : NetworkState ι σ) (site : ι) (serviceId : UInt16) : Prop :=
  ∃ other, other ≠ site ∧
    ∃ map ∈ (state.gateways other).base.serviceMappings, map.someipServiceId = serviceId

/-- What a gateway looks up belongs to others. -/
def Truthful (keyPrefix : Text) (site : ι) (state : NetworkState ι σ) (log : List (Entry ι)) :
    Prop :=
  ∀ serviceId ∈ lookupsAt site log ++ lookupsDue keyPrefix site state.inFlight,
    FromOthers state site serviceId

theorem move_truthful (hnet : net.Announces keyPrefix) (h : Heralded net keyPrefix state)
    (htruthful : Truthful keyPrefix site state log) (origin : ι) {input : Input}
    (hinput : ∀ serviceId, origin = site → lookup keyPrefix input = some serviceId →
      FromOthers state site serviceId) :
    Truthful keyPrefix site (net.move state origin input).1
      (log ++ (net.move state origin input).2) := by
  have hlater {serviceId : UInt16} (hfrom : FromOthers state site serviceId) :
      FromOthers (net.move state origin input).1 site serviceId := by
    obtain ⟨other, hother, map, hmap, hservice⟩ := hfrom
    exact ⟨other, hother, map, (move_mappings net state origin input other).subset hmap, hservice⟩
  obtain ⟨hnow, hdue⟩ := move_lookups hnet state origin input site
  intro serviceId hmem
  rw [lookupsAt_append, hnow, hdue, List.mem_append, List.mem_append, List.mem_append] at hmem
  rcases hmem with (hlooked | hlooks) | hold | hnew
  · exact hlater (htruthful serviceId (List.mem_append_left _ hlooked))
  · split_ifs at hlooks with hall
    · exact hlater (hinput serviceId hall.1 (Option.mem_toList.mp hlooks))
    · cases hlooks
  · exact hlater (htruthful serviceId (List.mem_append_right _ hold))
  -- a token of a gateway that is no other does not fly here
  · obtain ⟨flight, hflight, rfl, hlookup⟩ := mem_lookupsDue.mp hnew
    obtain ⟨token, htoken, hannounced⟩ := List.mem_flatMap.mp hflight
    obtain ⟨hother, -, -, hsample⟩ := mem_announce.mp hannounced
    obtain ⟨map, hmap, hservice⟩ := mem_news hnet (h.advertising origin) htoken
    rw [hsample, hservice] at hlookup
    exact ⟨origin, hother.symm, map, hmap, Option.some.inj hlookup⟩

theorem step_truthful (hnet : net.Announces keyPrefix) (h : Heralded net keyPrefix state)
    (htruthful : Truthful keyPrefix site state log) (input : NetworkInput ι) :
    Truthful keyPrefix site (net.step state input).1 (log ++ (net.step state input).2) := by
  have herased (position : Nat) : Truthful keyPrefix site
      { state with inFlight := state.inFlight.eraseIdx position } log := by
    have hfewer := ((List.eraseIdx_sublist state.inFlight position).filter
      fun flight => flight.site = site).filterMap fun flight => lookup keyPrefix flight.input
    exact fun serviceId hmem => htruthful serviceId ((hfewer.append_left _).subset hmem)
  have hstep := step_moves net state input
  generalize net.step state input = next at hstep ⊢
  cases hstep with
  | idle =>
      rw [List.append_nil]
      exact htruthful
  | event outer =>
      apply move_truthful hnet h htruthful
      intro serviceId _ hlookup
      rw [lookup_of_not_sample outer] at hlookup
      cases hlookup
  | arrival found listens =>
      apply move_truthful hnet (h.fewer (List.eraseIdx_sublist _ _).subset) (herased _)
      intro serviceId hsite hlookup
      apply htruthful serviceId (List.mem_append_right _ _)
      exact mem_lookupsDue.mpr ⟨_, List.mem_of_getElem? found, hsite, hlookup⟩
  | unheard found deaf =>
      rw [List.append_nil]
      exact herased _
  | loss found =>
      rw [List.append_nil]
      exact herased _

/-! ### Nothing is missed -/

/-- The gateway runs, with the bridge on and an SD client to look services up with. -/
structure Hears (setup : Setup σ κ) (gw : ZenohGateway σ) : Prop where
  running : gw.base.running = true
  bridges : setup.config.enableLivelinessSdBridge = true
  sdClient : gw.sdClient.isSome = true

omit [DecidableEq ι] in
theorem Hears.looksUp {setup : Setup σ κ} {gw : ZenohGateway σ} (h : Hears setup gw) :
    gw.looksUp setup = true := by
  rw [ZenohGateway.looksUp, h.bridges, h.sdClient]
  rfl

omit [DecidableEq ι] in
theorem Handled.hears {setup : Setup σ κ} {before after : ZenohGateway σ}
    (h : Handled before after) (hbefore : Hears setup before) : Hears setup after := by
  refine ⟨h.running.trans hbefore.running, hbefore.bridges, ?_⟩
  rw [h.frame]
  exact hbefore.sdClient

omit [DecidableEq ι] in
theorem Hears.subscribed (hnet : net.Announces keyPrefix) {gw : ZenohGateway σ}
    (h : Hears (net.setup site) gw) (hgw : Advertising (net.setup site) gw) :
    allTokens keyPrefix ∈ gw.livelinessSubscribers := by
  rw [hgw.listening.running h.running (hnet.allTokens site), h.bridges, hnet.keyPrefix site]
  exact List.mem_singleton_self _

theorem covers_allTokens (matching : KeyMatching) (hplain : WildcardFree keyPrefix)
    (s i : UInt16) :
    matching.covers (allTokens keyPrefix) (buildLivelinessKey keyPrefix s i) = true := by
  have hstem : allTokens keyPrefix =
      (keyPrefix ++ Text.ascii "/liveliness") ++ Text.ascii "/**" := by
    rw [allTokens, List.append_assoc]
    rfl
  have htoken : buildLivelinessKey keyPrefix s i =
      (keyPrefix ++ Text.ascii "/liveliness") ++ Text.ascii "/" ++
        (formatServiceId s ++ Text.ascii "/" ++ formatServiceId i) := by
    have hslash : Text.ascii "/liveliness/" = Text.ascii "/liveliness" ++ Text.ascii "/" := rfl
    simp only [buildLivelinessKey, hslash, List.append_assoc]
  rw [hstem, htoken]
  apply (matching.final_wildcard _ _ (hplain.append (wildcardFree_of_all rfl))).mpr
  exact .inr (List.prefix_append _ _)

/-- Each token goes to every other gateway that listens. -/
theorem tokens_fly (hnet : net.Announces keyPrefix) {gateways : ι → ZenohGateway σ}
    {origin : ι} (hother : site ≠ origin)
    (hlistens : allTokens keyPrefix ∈ (gateways site).livelinessSubscribers)
    {tokens : List Text} {serviceId instanceId : UInt16}
    (htoken : buildLivelinessKey keyPrefix serviceId instanceId ∈ tokens) :
    serviceId ∈ lookupsDue keyPrefix site (tokens.flatMap (net.announce gateways origin)) := by
  have hflies : ⟨site, allTokens keyPrefix,
      .livelinessSample (buildLivelinessKey keyPrefix serviceId instanceId) true⟩ ∈
        net.announce gateways origin (buildLivelinessKey keyPrefix serviceId instanceId) :=
    mem_announce.mpr ⟨hother, hlistens, covers_allTokens net.matching hnet.plain _ _, rfl⟩
  exact mem_lookupsDue.mpr
    ⟨_, List.mem_flatMap.mpr ⟨_, htoken, hflies⟩, rfl, lookup_token ..⟩

/-- The services have been looked up, or are going to be. -/
def Accounted (keyPrefix : Text) (site : ι) (services : List UInt16)
    (state : NetworkState ι σ) (log : List (Entry ι)) : Prop :=
  services ⊆ lookupsAt site log ++ lookupsDue keyPrefix site state.inFlight

variable {services : List UInt16}

theorem move_accounted (hnet : net.Announces keyPrefix) (origin : ι) {input : Input}
    (hhears : origin = site → (state.gateways origin).looksUp (net.setup origin) = true)
    (h : services ⊆ lookupsAt site log ++
      ((if origin = site then (lookup keyPrefix input).toList else []) ++
        lookupsDue keyPrefix site state.inFlight)) :
    Accounted keyPrefix site services (net.move state origin input).1
      (log ++ (net.move state origin input).2) := by
  obtain ⟨hnow, hdue⟩ := move_lookups hnet state origin input site
  have hlooks : lookupsAt site (net.move state origin input).2 =
      if origin = site then (lookup keyPrefix input).toList else [] := by
    rw [hnow]
    by_cases hsite : origin = site
    · rw [if_pos ⟨hsite, hhears hsite⟩, if_pos hsite]
    · rw [if_neg hsite, if_neg fun hall => hsite hall.1]
  rw [Accounted, lookupsAt_append, hlooks, hdue, ← List.append_assoc, List.append_assoc _ _
    (lookupsDue keyPrefix site state.inFlight)]
  exact List.Subset.trans h (List.subset_append_left _ _)

/-- A flight to another gateway, or one that is no token, changes nothing here. -/
theorem Accounted.drop (h : Accounted keyPrefix site services state log) {position : Nat}
    {flight : Flight ι} (hflight : state.inFlight[position]? = some flight)
    (hother : flight.site = site → lookup keyPrefix flight.input = none) :
    Accounted keyPrefix site services
      { state with inFlight := state.inFlight.eraseIdx position } log := by
  have hperm := lookupsDue_eraseIdx keyPrefix hflight site
  have hnone : (if flight.site = site then (lookup keyPrefix flight.input).toList else []) =
      [] := by
    split_ifs with hsite
    · rw [hother hsite]
      rfl
    · rfl
  rw [hnone, List.nil_append] at hperm
  exact List.Subset.trans h (hperm.symm.append_left _).subset

theorem step_accounted (hnet : net.Announces keyPrefix) (hheralded : Heralded net keyPrefix state)
    (hhears : Hears (net.setup site) (state.gateways site))
    (h : Accounted keyPrefix site services state log) {input : NetworkInput ι}
    (hinput : KeepsUp site state input) :
    Accounted keyPrefix site services (net.step state input).1
      (log ++ (net.step state input).2) := by
  have hlooksUp (origin : ι) (hsite : origin = site) :
      (state.gateways origin).looksUp (net.setup origin) = true := by
    rw [hsite]
    exact hhears.looksUp
  have hstep := step_moves net state input
  generalize net.step state input = next at hstep ⊢
  cases hstep with
  | idle =>
      rw [List.append_nil]
      exact h
  | event outer =>
      apply move_accounted hnet _ (hlooksUp _)
      rw [lookup_of_not_sample outer, Option.toList_none, ite_self, List.nil_append]
      exact h
  | @arrival position flight found listens =>
      refine move_accounted hnet flight.site ?_ ?_
      · exact hlooksUp flight.site
      · have hperm := (lookupsDue_eraseIdx keyPrefix found site).symm
        exact List.Subset.trans h (hperm.append_left (lookupsAt site log)).subset
  | @unheard position flight found deaf =>
      rw [List.append_nil]
      apply h.drop found
      intro hsite
      cases hinput : flight.input with
      | livelinessSample token putOrDelete =>
          have hpattern := hheralded.patterns flight (List.mem_of_getElem? found) token
            putOrDelete hinput
          have hmem := hhears.subscribed hnet (hheralded.advertising site)
          rw [hinput, hpattern, hsite] at deaf
          exact absurd (List.contains_iff_mem.mpr hmem) (Bool.eq_false_iff.mp deaf)
      | _ => rfl
  | loss found =>
      rw [List.append_nil]
      exact h.drop found fun hsite => absurd hsite (hinput _ found)

theorem step_hears (h : Hears (net.setup site) (state.gateways site)) {input : NetworkInput ι}
    (hinput : KeepsUp site state input) :
    Hears (net.setup site) ((net.step state input).1.gateways site) := by
  have hstep := step_moves net state input
  generalize net.step state input = next at hstep ⊢
  cases hstep with
  | event outer => exact (move_handled net state _ hinput).hears h
  | arrival found listens =>
      apply (move_handled net _ _ fun _ => ?_).hears h
      exact configures_of_isSample (isSample_of_listens listens)
  | _ => exact h

/-! ### Coming and going -/

/-- A gateway comes when it is started with success, and goes when it is stopped. -/
inductive ComesOrGoes (setup : Setup σ κ) (gw : ZenohGateway σ) : Input → List UInt16 → Prop
  | comes {outcome : StartOutcome} (rests : gw.base.running = false)
      (succeeds : (start setup outcome gw).1 = some .success) :
      ComesOrGoes setup gw (.start outcome)
        (gw.base.serviceMappings.map ServiceMapping.someipServiceId)
  | goes {offered : List ServiceMapping} (runs : gw.base.running = true)
      (offers : gw.livelinessTokens = tokensOf setup.config.keyPrefix offered) :
      ComesOrGoes setup gw .stop (offered.map ServiceMapping.someipServiceId)

omit [DecidableEq ι] in
theorem comesOrGoes_news (hnet : net.Announces keyPrefix) {origin : ι} {input : Input}
    (hadvertising : Advertising (net.setup origin) (state.gateways origin))
    (h : ComesOrGoes (net.setup origin) (state.gateways origin) input services) :
    input.isSample = false ∧ ∃ offered,
      newsOf net state origin input = (tokensOf keyPrefix offered).dedup ∧
        services = offered.map ServiceMapping.someipServiceId := by
  cases h with
  | comes rests succeeds =>
      refine ⟨rfl, _, ?_, rfl⟩
      have htokens := start_tokens (net.setup origin) hadvertising.tokens rests succeeds
      have hnone : (state.gateways origin).livelinessTokens = [] :=
        hadvertising.tokens.stopped rests
      rw [newsOf, hnone, step, htokens, hnet.keyPrefix origin, changedTokens,
        if_pos List.nil_prefix]
      rfl
  | @goes offered runs offers =>
      refine ⟨rfl, _, ?_, rfl⟩
      have hnone : (stop (state.gateways origin)).2.livelinessTokens = [] := by
        simp [stop, runs]
      rw [newsOf, step, hnone, offers, hnet.keyPrefix origin, changedTokens]
      split_ifs with hempty
      · rw [List.prefix_nil.mp hempty]
        rfl
      · rfl

/-- Whatever the gateways of a network went through: a gateway looks up services that
other gateways have mappings for, and nothing else. And when another gateway comes or
goes, each of the services that it offers has been looked up by a gateway that hears of
it, or is going to be, as long as this one is let run and nothing on its way to it is lost. -/
theorem comings_and_goings_looked_up (hnet : net.Announces keyPrefix)
    (mappings : ι → List ServiceMapping) (e2e : ι → σ) (inputs : List (NetworkInput ι))
    (site : ι) :
    let before := Machine.run net.step (net.initial mappings e2e) inputs
    (∀ serviceId ∈ lookupsAt site before.2, FromOthers before.1 site serviceId) ∧
      ∀ origin input services, site ≠ origin →
        ComesOrGoes (net.setup origin) (before.1.gateways origin) input services →
        Hears (net.setup site) (before.1.gateways site) →
        let during := (net.step before.1 (.act origin input)).1
        ∀ later, Machine.Along net.step (KeepsUp site) during later →
          let after := Machine.run net.step during later
          services ⊆ lookupsAt site after.2 ++ lookupsDue keyPrefix site after.1.inFlight := by
  intro before
  have hbefore := Machine.run_history net.step
    (fun state log => Heralded net keyPrefix state ∧ Truthful keyPrefix site state log)
    (fun state log input h => ⟨step_heralded hnet h.1 input, step_truthful hnet h.1 h.2 input⟩)
    (net.initial mappings e2e) [] inputs
    ⟨⟨fun _ => ⟨⟨fun _ => rfl, [], List.nil_prefix, rfl⟩, fun _ => rfl,
        fun hrun => by cases hrun⟩, fun _ hflight => absurd hflight List.not_mem_nil⟩,
      fun _ hmem => absurd hmem List.not_mem_nil⟩
  rw [List.nil_append] at hbefore
  refine ⟨fun serviceId hmem => hbefore.2 serviceId (List.mem_append_left _ hmem), ?_⟩
  intro origin input services hother hmoves hhears during later hlater
  obtain ⟨houter, offered, hnews, rfl⟩ :=
    comesOrGoes_news hnet (hbefore.1.advertising origin) hmoves
  have hduring : during = (net.move before.1 origin input).1 := by
    have hstep : net.step before.1 (.act origin input) = net.move before.1 origin input := by
      rw [Network.step, houter, if_neg Bool.false_ne_true]
    exact congrArg Prod.fst hstep
  have hheralded : Heralded net keyPrefix during := step_heralded hnet hbefore.1 _
  have hsame : during.gateways site = before.1.gateways site := by
    rw [hduring, move_gateways, if_neg hother]
  rw [← hsame] at hhears
  have haccounted : Accounted keyPrefix site (offered.map ServiceMapping.someipServiceId)
      during [] := by
    have hlistens := hhears.subscribed hnet (hheralded.advertising site)
    rw [hduring] at hlistens
    rw [Accounted, hduring, (move_lookups hnet before.1 origin input site).2, hnews]
    intro serviceId hservice
    obtain ⟨map, hmap, rfl⟩ := List.mem_map.mp hservice
    have htoken : buildLivelinessKey keyPrefix map.someipServiceId map.someipInstanceId ∈
        (tokensOf keyPrefix offered).dedup :=
      List.mem_dedup.mpr (List.mem_map.mpr ⟨map, hmap, rfl⟩)
    exact List.mem_append_right _ (List.mem_append_right _ (tokens_fly hnet hother hlistens htoken))
  have hafter := Machine.run_history_along net.step
    (fun state log => Heralded net keyPrefix state ∧
      Hears (net.setup site) (state.gateways site) ∧
        Accounted keyPrefix site (offered.map ServiceMapping.someipServiceId) state log)
    (fun state log input h hinput => ⟨step_heralded hnet h.1 input, step_hears h.2.1 hinput,
      step_accounted hnet h.1 h.2.1 h.2.2 hinput⟩)
    during [] later ⟨hheralded, hhears, haccounted⟩ hlater
  rw [List.nil_append] at hafter
  exact hafter.2.2

end

/-- The first gateway has started, the second comes, and the first looks its window up. -/
theorem window_looked_up :
    let before := (Machine.run plainNetwork.step
      (plainNetwork.initial (fun _ => [windowMapping .bidirectional]) fun _ => ())
      [.act false (.start {})]).1
    let during := (plainNetwork.step before (.act true (.start {}))).1
    let after := Machine.run plainNetwork.step during [.deliver 0]
    [0x4000] ⊆ lookupsAt false after.2 ++
        lookupsDue (Text.ascii "someip") false after.1.inFlight ∧
      lookupsAt false after.2 = [0x4000] := by
  intro before during after
  have hnet : plainNetwork.Announces (Text.ascii "someip") :=
    ⟨wildcardFree_of_all rfl, fun _ => rfl, fun _ => rfl⟩
  have hlooked := comings_and_goings_looked_up hnet
    (fun _ => [windowMapping .bidirectional]) (fun _ => ()) [.act false (.start {})] false
  refine ⟨?_, ?_⟩
  · exact hlooked.2 true (.start {}) [0x4000] (by decide) (.comes rfl rfl) ⟨rfl, rfl, rfl⟩
      [.deliver 0] ⟨trivial, trivial⟩
  · decide +kernel

end SomeipGateway.Zenoh
