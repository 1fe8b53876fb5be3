import SomeipGateway.Zenoh.Ledger

/-! Events in a network: the vehicles get what was published, and a gateway that is let
run misses nothing. -/
namespace SomeipGateway.Zenoh

open Lib

variable {ι σ κ : Type}

/-! ### A gateway that misses nothing -/

section

variable [DecidableEq ι] {net : Network ι σ κ} {keyPrefix : Text} {state : NetworkState ι σ}
  {log : List (Entry ι)} {site : ι}

/-- The gateway has subscribed for all of its mappings, has a transport, and what is on
its way to it is for a subscription that it has. -/
structure Attends (keyPrefix : Text) (site : ι) (state : NetworkState ι σ) : Prop where
  subscribed : (state.gateways site).zenohSubscribers =
    instancePatterns keyPrefix (state.gateways site).base.serviceMappings
  udp : (state.gateways site).udp.isSome = true
  listens : ∀ flight ∈ state.inFlight, flight.site = site → ∀ key payload,
    flight.input = .sample key payload →
      flight.pattern ∈ (state.gateways site).zenohSubscribers

/-- The gateway is neither started nor stopped nor given a mapping, and nothing that is
for it gets lost. -/
def KeepsUp (site : ι) (state : NetworkState ι σ) : NetworkInput ι → Prop
  | .act origin input => origin = site → input.configures = false
  | .deliver _ => True
  | .lose position => ∀ flight, state.inFlight[position]? = some flight → flight.site ≠ site

variable (net) in
theorem move_handled (state : NetworkState ι σ) (origin : ι) {input : Input}
    (h : origin = site → input.configures = false) :
    Handled (state.gateways site) ((net.move state origin input).1.gateways site) := by
  rw [move_gateways]
  split_ifs with hsite
  · rw [hsite]
    exact step_handled (net.setup origin) (state.gateways origin) (h hsite.symm)
  · exact .refl _

theorem Handled.subscribers {before after : ZenohGateway σ} (h : Handled before after) :
    after.zenohSubscribers = before.zenohSubscribers ∧ after.udp = before.udp := by
  rw [h.frame]
  exact ⟨rfl, rfl⟩

variable (net) in
theorem move_attends (h : Attends keyPrefix site state) (origin : ι) {input : Input}
    (hinput : origin = site → input.configures = false) :
    Attends keyPrefix site (net.move state origin input).1 := by
  have hhandled := move_handled net state origin hinput
  obtain ⟨hsubscribers, hudp⟩ := hhandled.subscribers
  refine ⟨?_, ?_, ?_⟩
  · rw [hsubscribers, hhandled.mappings]
    exact h.subscribed
  · rw [hudp]
    exact h.udp
  · intro flight hflight hsite key payload hinput
    rw [Network.move, List.append_assoc, List.mem_append, List.mem_append] at hflight
    rcases hflight with hold | hput | htoken
    · rw [hsubscribers]
      exact h.listens flight hold hsite key payload hinput
    · obtain ⟨out, -, hcarried⟩ := List.mem_flatMap.mp hput
      cases out with
      | put putKey putPayload declared via =>
          obtain ⟨other, -, hother⟩ := List.mem_flatMap.mp hcarried
          obtain ⟨pattern, hpattern, rfl⟩ := List.mem_map.mp hother
          obtain rfl : other = site := hsite
          exact (List.mem_filter.mp hpattern).1
      | _ => cases hcarried
    · obtain ⟨token, -, hannounced⟩ := List.mem_flatMap.mp htoken
      obtain ⟨other, -, hother⟩ := List.mem_flatMap.mp hannounced
      obtain ⟨pattern, -, rfl⟩ := List.mem_map.mp hother
      cases hinput

omit [DecidableEq ι] in
theorem Attends.fewer (h : Attends keyPrefix site state) {flights : List (Flight ι)}
    (hflights : flights ⊆ state.inFlight) :
    Attends keyPrefix site { state with inFlight := flights } :=
  ⟨h.subscribed, h.udp, fun flight hflight => h.listens flight (hflights hflight)⟩

theorem step_attends (h : Attends keyPrefix site state) {input : NetworkInput ι}
    (hinput : KeepsUp site state input) : Attends keyPrefix site (net.step state input).1 := by
  have herased (position : Nat) : Attends keyPrefix site
      { state with inFlight := state.inFlight.eraseIdx position } :=
    h.fewer (List.eraseIdx_sublist _ _).subset
  have hstep := step_moves net state input
  generalize net.step state input = next at hstep ⊢
  cases hstep with
  | idle => exact h
  | event outer => exact move_attends net h _ hinput
  | arrival found listens =>
      apply move_attends net (herased _)
      intro _
      exact configures_of_isSample (isSample_of_listens listens)
  | unheard found deaf => exact herased _
  | loss found => exact herased _

/-- Nothing is missing and nothing is there that should not be. -/
def Settles (net : Network ι σ κ) (site : ι) (state : NetworkState ι σ)
    (log : List (Entry ι)) : Prop :=
  List.Perm (datagramsAt site log ++ state.dueAt net site)
    (net.expected (state.gateways site).base.serviceMappings log)

theorem act_settles (hnet : net.Agrees keyPrefix) (h : Ledger net state)
    (hattends : Attends keyPrefix site state) (hsettles : Settles net site state log)
    {origin : ι} {input : Input} (houter : input.isSample = false)
    (hinput : origin = site → input.configures = false) :
    Settles net site (net.move state origin input).1
      (log ++ (net.move state origin input).2) := by
  obtain ⟨added, haccounts, -, hadded⟩ := move_accounts log site hnet h origin houter
  have hmappings := (move_handled net state origin hinput).mappings
  rw [Settles, haccounts, expected_append,
    hadded (move_attends net hattends origin hinput).subscribed, hmappings]
  exact hsettles.append_right _

/-- A flight to another gateway, or one that is no sample, changes nothing here. -/
theorem dueAt_other {position : Nat} {flight : Flight ι}
    (hflight : state.inFlight[position]? = some flight)
    (hother : flight.site = site → ∀ key payload, flight.input ≠ .sample key payload) :
    List.Perm ({ state with inFlight := state.inFlight.eraseIdx position }.dueAt net site)
      (state.dueAt net site) := by
  have hperm := dueAt_eraseIdx net hflight site
  split_ifs at hperm with hsite
  · have hnone : routed (net.setup site) (state.gateways site).base.serviceMappings
        flight.input = none := by
      cases hinput : flight.input with
      | sample key payload => exact absurd hinput (hother hsite key payload)
      | _ => rfl
    rw [hnone] at hperm
    exact hperm
  · exact hperm

theorem deliver_settles (hnet : net.Agrees keyPrefix) (h : Ledger net state)
    (hattends : Attends keyPrefix site state) (hsettles : Settles net site state log)
    {position : Nat} {flight : Flight ι}
    (hflight : state.inFlight[position]? = some flight)
    (hsample : flight.input.isSample = true) :
    let left : NetworkState ι σ := { state with inFlight := state.inFlight.eraseIdx position }
    Settles net site (net.move left flight.site flight.input).1
      (log ++ (net.move left flight.site flight.input).2) := by
  intro left
  have hleft : Ledger net left := h.fewer (List.eraseIdx_sublist _ _).subset
  obtain ⟨hdatagrams, hdue, hexpected, hmappings⟩ :=
    arrival_accounts hnet hleft hsample site
  have hworth : datagramsAt site (net.move left flight.site flight.input).2 =
      if flight.site = site then
        (routed (net.setup site) (state.gateways site).base.serviceMappings flight.input).toList
      else [] := by
    rw [hdatagrams]
    by_cases hsite : flight.site = site
    · have hudp : (left.gateways flight.site).udp.isSome = true := by
        rw [hsite]
        exact hattends.udp
      rw [if_pos ⟨hsite, hudp⟩, if_pos hsite, hsite]
    · rw [if_neg fun hall => hsite hall.1, if_neg hsite]
  unfold Settles
  rw [datagramsAt_append, hdue, expected_append, hexpected, List.append_nil, hmappings,
    List.append_assoc, hworth]
  exact ((dueAt_eraseIdx net hflight site).append_left _).trans hsettles

theorem Settles.drop (hsettles : Settles net site state log) {position : Nat}
    {flight : Flight ι} (hflight : state.inFlight[position]? = some flight)
    (hother : flight.site = site → ∀ key payload, flight.input ≠ .sample key payload) :
    Settles net site { state with inFlight := state.inFlight.eraseIdx position } log :=
  ((dueAt_other hflight hother).append_left _).trans hsettles

theorem step_settles (hnet : net.Agrees keyPrefix) (h : Ledger net state)
    (hattends : Attends keyPrefix site state) (hsettles : Settles net site state log)
    {input : NetworkInput ι} (hinput : KeepsUp site state input) :
    Settles net site (net.step state input).1 (log ++ (net.step state input).2) := by
  have hstep := step_moves net state input
  generalize net.step state input = next at hstep ⊢
  cases hstep with
  | idle =>
      rw [List.append_nil]
      exact hsettles
  | event outer => exact act_settles hnet h hattends hsettles outer hinput
  | arrival found listens =>
      exact deliver_settles hnet h hattends hsettles found (isSample_of_listens listens)
  | @unheard position flight found deaf =>
      rw [List.append_nil]
      apply hsettles.drop found
      intro hsite key payload hsample
      have hmem := hattends.listens flight (List.mem_of_getElem? found) hsite key payload hsample
      rw [hsample, hsite] at deaf
      exact absurd (List.contains_iff_mem.mpr hmem) (Bool.eq_false_iff.mp deaf)
  | loss found =>
      rw [List.append_nil]
      exact hsettles.drop found fun hsite => absurd hsite (hinput _ found)

/-- However the events at the gateways and the arrivals, losses and delays of the network
interleave: the vehicles get nothing but what was published, as it was published, and not
more often than their gateway has subscribed to it; what belongs to calls they never get.
And from when a gateway has subscribed for all of its mappings, if it is let run and
nothing on its way to it is lost, nothing is missing. -/
theorem network_relays_events (hnet : net.Agrees keyPrefix) (mappings : ι → List ServiceMapping)
    (e2e : ι → σ) (inputs : List (NetworkInput ι)) (site : ι) :
    let before := Machine.run net.step (net.initial mappings e2e) inputs
    List.Subperm (datagramsAt site before.2)
        (net.expected (before.1.gateways site).base.serviceMappings before.2) ∧
      ∀ later, (before.1.gateways site).zenohSubscribers =
          instancePatterns keyPrefix (before.1.gateways site).base.serviceMappings →
        (before.1.gateways site).udp.isSome = true →
        (∀ flight ∈ before.1.inFlight, flight.site ≠ site) →
        Machine.Along net.step (KeepsUp site) before.1 later →
        let after := Machine.run net.step before.1 later
        List.Perm (datagramsAt site after.2 ++ after.1.dueAt net site)
          (net.expected (after.1.gateways site).base.serviceMappings after.2) := by
  intro before
  have hsolvent := Machine.run_history net.step
    (fun state log => Ledger net state ∧ Solvent net site state log)
    (fun state log input h => ⟨step_ledger state hnet h.1 input, step_solvent hnet h.1 h.2 input⟩)
    (net.initial mappings e2e) [] inputs
    ⟨initial_ledger net mappings e2e, List.Subperm.refl _⟩
  rw [List.nil_append] at hsolvent
  refine ⟨?_, fun later hsubscribed hudp hnone hlater => ?_⟩
  · exact ((List.sublist_append_left _ _).subperm).trans hsolvent.2
  · have hattends : Attends keyPrefix site before.1 :=
      ⟨hsubscribed, hudp, fun flight hflight hsite => absurd hsite (hnone flight hflight)⟩
    have hnothing : before.1.dueAt net site = [] := by
      have hempty : before.1.inFlight.filter (fun flight => flight.site = site) = [] :=
        List.filter_eq_nil_iff.mpr fun flight hflight hsite =>
          hnone flight hflight (of_decide_eq_true hsite)
      rw [NetworkState.dueAt, Network.due, hempty]
      rfl
    have hsettles : Settles net site before.1 [] := by
      unfold Settles
      rw [hnothing]
      exact List.Perm.refl _
    have hafter := Machine.run_history_along net.step
      (fun state log => Ledger net state ∧ Attends keyPrefix site state ∧
        Settles net site state log)
      (fun state log input h hinput => ⟨step_ledger state hnet h.1 input,
        step_attends h.2.1 hinput, step_settles hnet h.1 h.2.1 h.2.2 hinput⟩)
      before.1 [] later ⟨hsolvent.1, hattends, hsettles⟩ hlater
    rw [List.nil_append] at hafter
    exact hafter.2.2

end

/-- Two gateways that agree on everything. -/
def plainNetwork : Network Bool Unit Unit where
  matching := .chunkwise
  setup := fun _ => plainSetup
  sites := [false, true]
  nodup := by decide
  complete := by decide

theorem plainNetwork_agrees : plainNetwork.Agrees (Text.ascii "someip") where
  plain := wildcardFree_of_all rfl
  keyPrefix := fun _ => rfl
  encoding := fun _ _ => rfl
  notCbor := fun _ hcbor => by cases hcbor
  unprotected := fun _ => rfl

/-- Both have started, and the first has heard of the second. -/
def windowsStarted : NetworkState Bool Unit :=
  (Machine.run plainNetwork.step
    (plainNetwork.initial (fun _ => [windowMapping .bidirectional]) fun _ => ())
    [.act false (.start {}), .act true (.start {})]).1

theorem windowsStarted_inFlight : windowsStarted.inFlight =
    [⟨false, Text.ascii "someip/liveliness/**",
      .livelinessSample (Text.ascii "someip/liveliness/0x4000/0x0002") true⟩] := rfl

theorem windowsStarted_subscribers : (windowsStarted.gateways true).zenohSubscribers =
    instancePatterns (Text.ascii "someip")
      (windowsStarted.gateways true).base.serviceMappings := by decide +kernel

/-- Both gateways have subscribed to the window, so the event flies to both; the second
one gets it and sends it. -/
theorem window_event_relayed :
    let after := Machine.run plainNetwork.step windowsStarted
      [.act false (.someipMessage windowOpened), .deliver 2]
    List.Perm (datagramsAt true after.2 ++ after.1.dueAt plainNetwork true)
        (plainNetwork.expected (after.1.gateways true).base.serviceMappings after.2) ∧
      datagramsAt true after.2 = [{ windowOpened with sessionId := 0x0001 }] := by
  intro after
  have hothers : ∀ flight ∈ windowsStarted.inFlight, flight.site ≠ true := by
    intro flight hflight
    rw [windowsStarted_inFlight] at hflight
    rw [List.mem_singleton.mp hflight]
    decide
  have hrelays := network_relays_events plainNetwork_agrees
    (fun _ => [windowMapping .bidirectional]) (fun _ => ())
    [.act false (.start {}), .act true (.start {})] true
  have hkept : Machine.Along plainNetwork.step (KeepsUp true) windowsStarted
      [.act false (.someipMessage windowOpened), .deliver 2] := ⟨fun _ => rfl, trivial, trivial⟩
  refine ⟨hrelays.2 _ windowsStarted_subscribers rfl hothers hkept, ?_⟩
  decide +kernel

end SomeipGateway.Zenoh
