import Mathlib.Algebra.Order.BigOperators.Group.List
import Mathlib.Data.List.Perm.Basic
import SomeipGateway.Iceoryx2.Inbound
import SomeipGateway.Lib.Counter

/-! Gateways that are fed with each other's samples. A sample that comes in can
make a gateway publish another one, and every gateway may listen to every other
and to itself; the samples in between arrive late and in any order. The vehicle
is not part of the network: what a gateway does there may come back as a call to
an `RpcServer` or as an event, and counts as from outside then. -/
namespace SomeipGateway.Iceoryx2

open Lib

variable {ι : Type}

structure Network (ι : Type) where
  config : ι → Iceoryx2Config
  cls : MessageClass
  wire : WireFormat
  /-- The gateways whose `inject_iceoryx2_sample` the outbound hook leads to. -/
  listeners : ι → List ι

def Network.setup (net : Network ι) (site : ι) : Setup where
  config := net.config site
  cls := net.cls
  wire := net.wire

structure Flight (ι : Type) where
  listener : ι
  name : Text
  sample : Bytes

structure NetworkState (ι : Type) where
  gateways : ι → Iceoryx2Gateway
  inFlight : List (Flight ι) := []

/-- `act` is an event at one gateway that comes from outside the network. -/
inductive NetworkInput (ι : Type) where
  | act (site : ι) (input : Input)
  | deliver (position : Nat) (answer : RpcSyncResult)

def hooked (outputs : List Output) : List (Text × Bytes) :=
  outputs.filterMap fun
    | .published name sample _ true => some (name, sample)
    | _ => none

section

variable (net : Network ι)

def Network.flights (site : ι) (outputs : List Output) : List (Flight ι) :=
  (hooked outputs).flatMap fun published =>
    (net.listeners site).map fun listener => ⟨listener, published.1, published.2⟩

variable [DecidableEq ι]

def Network.move (state : NetworkState ι) (site : ι) (input : Input) : NetworkState ι :=
  let now := Iceoryx2.step (net.setup site) (state.gateways site) input
  { gateways := Function.update state.gateways site now.1
    inFlight := state.inFlight ++ net.flights site now.2 }

/-- The outputs are the samples that have arrived. -/
def Network.step (state : NetworkState ι) :
    NetworkInput ι → NetworkState ι × List (Flight ι)
  | .act site input => (net.move state site input, [])
  | .deliver position answer =>
      match state.inFlight[position]? with
      | none => (state, [])
      | some flight =>
          let left := { state with inFlight := state.inFlight.eraseIdx position }
          (net.move left flight.listener (.sample flight.name flight.sample answer), [flight])

end

/-! ### What one event publishes -/

@[simp] theorem hooked_append (first second : List Output) :
    hooked (first ++ second) = hooked first ++ hooked second := List.filterMap_append

section

variable (setup : Setup)

theorem hooked_publish (gw : Iceoryx2Gateway) (name : Text) (sample : Bytes)
    (mapping : ServiceMapping) :
    hooked (publishTowardIceoryx2 setup gw name sample mapping).2 =
      if gw.outboundHook then [(name, sample)] else [] := by
  unfold publishTowardIceoryx2 hooked
  cases gw.outboundHook with
  | true => rfl
  | false => rfl

theorem hooked_publish_length (gw : Iceoryx2Gateway) (name : Text) (sample : Bytes)
    (mapping : ServiceMapping) :
    (hooked (publishTowardIceoryx2 setup gw name sample mapping).2).length ≤ 1 := by
  rw [hooked_publish]
  split_ifs
  · exact Nat.le_refl 1
  · exact Nat.zero_le 1

theorem hooked_onSomeipMessage_length (gw : Iceoryx2Gateway) (msg : Message) :
    (hooked (onSomeipMessage setup gw msg).2.2).length ≤ 1 := by
  unfold onSomeipMessage
  split
  · exact Nat.zero_le 1
  · split
    · exact Nat.zero_le 1
    · split_ifs
      · exact Nat.zero_le 1
      · exact hooked_publish_length setup gw _ _ _
      · exact hooked_publish_length setup gw _ _ _
      · exact hooked_publish_length setup gw _ _ _

/-- A request, with or without a return: the only samples that are answered. -/
def AsksFor (type : MessageType) : Prop := type = .request ∨ type = .requestNoReturn

instance (type : MessageType) : Decidable (AsksFor type) :=
  inferInstanceAs (Decidable (_ ∨ _))

/-- What a sample makes a gateway publish: nothing, or an answer to a request. -/
theorem hooked_inject (gw : Iceoryx2Gateway) (name : Text) (sample : Bytes)
    (answer : RpcSyncResult) :
    hooked (injectIceoryx2Sample setup gw name sample answer).2 = [] ∨
      ∃ env resp replyName, parseSample setup.wire sample = some env ∧
        AsksFor env.messageType ∧ ¬ AsksFor resp.messageType ∧
        hooked (injectIceoryx2Sample setup gw name sample answer).2 =
          [(replyName, someipToSample setup.wire resp env.instanceId env.mode)] := by
  cases hparse : parseSample setup.wire sample with
  | none =>
      rw [injectIceoryx2Sample, hparse]
      exact .inl rfl
  | some env =>
      obtain ⟨told, hinject, htold⟩ := injectIceoryx2Sample_parsed setup gw hparse name answer
      have hquiet : hooked told = [] := by
        rcases htold with rfl | ⟨_, _, _, rfl⟩
        · rfl
        · rfl
      rw [hinject, hooked_append, hquiet, List.append_nil]
      unfold bridgeExternalToSomeip
      split
      · exact .inl rfl
      · split_ifs with hforward hevent hrequest
        · exact .inl rfl
        · left
          unfold publishIncomingEvent
          dsimp only
          split
          · rfl
          · rfl
        · have hcalled (call : Output) (rest : List Output) (hcall : hooked [call] = []) :
              hooked (call :: rest) = hooked rest := by
            rw [← List.singleton_append, hooked_append, hcall, List.nil_append]
          simp only [callIncomingRequest]
          rw [hcalled _ _ rfl, hooked_publish]
          cases gw.outboundHook with
          | false => exact .inl rfl
          | true =>
              refine .inr ⟨env, _, _, rfl, hrequest.1, ?_, rfl⟩
              dsimp only
              split_ifs
              · decide
              · decide
        · exact .inl rfl

theorem hooked_step_length (gw : Iceoryx2Gateway) (input : Input) :
    (hooked (Iceoryx2.step setup gw input).2).length ≤ 1 := by
  cases input with
  | someipMessage msg => exact hooked_onSomeipMessage_length setup gw msg
  | datagram message =>
      cases message with
      | none => exact Nat.zero_le 1
      | some msg =>
          simp only [Iceoryx2.step]
          split_ifs
          · exact hooked_onSomeipMessage_length setup gw msg
          · exact Nat.zero_le 1
  | rpcServerCall serviceId method clientId sessionId params =>
      simp only [Iceoryx2.step]
      split_ifs
      · exact hooked_publish_length setup gw _ _ _
      · exact Nat.zero_le 1
  | notification subscription n =>
      simp only [Iceoryx2.step]
      split_ifs
      · exact hooked_publish_length setup gw _ _ _
      · exact Nat.zero_le 1
  | serviceFound =>
      simp only [Iceoryx2.step]
      split_ifs
      · exact Nat.zero_le 1
      · exact Nat.zero_le 1
  | sample name sample answer =>
      rcases hooked_inject setup gw name sample answer with hnone | ⟨_, _, _, _, _, _, hone⟩
      · simp [Iceoryx2.step, hnone]
      · simp [Iceoryx2.step, hone]
  | _ => exact Nat.zero_le 1

end

/-- A written envelope that is accepted is read with the header it was written
with, however long its payload. -/
theorem deserializeEnvelope_header {wire : WireFormat} (hwire : wire.Lawful)
    {env env' : Iceoryx2Envelope} {data : Bytes} {pos : Nat}
    (hwritten : serializeEnvelope wire [] env <+: data)
    (h : deserializeEnvelope wire data 0 = some (env', pos)) :
    ∃ payload, env' = .ofHeader env.header payload := by
  rw [serializeEnvelope_eq] at hwritten
  have hheader := (hwire.uint8.prefix_many env.payload _).trans hwritten
  have hmagic := (lawful_header hwire).prefix_of hheader
  rw [deserializeEnvelope_eq] at h
  obtain ⟨magic, hread, h⟩ := Option.bind_eq_some_iff.mp h
  cases (hwire.uint32.read_eq hmagic).symm.trans hread
  obtain ⟨-, -, h⟩ := Option.bind_eq_some_iff.mp h
  obtain ⟨header, hread, h⟩ := Option.bind_eq_some_iff.mp h
  cases ((lawful_header hwire).read_eq hheader).symm.trans hread
  obtain ⟨-, -, h⟩ := Option.bind_eq_some_iff.mp h
  obtain ⟨-, -, h⟩ := Option.bind_eq_some_iff.mp h
  obtain ⟨⟨payload, last⟩, -, h⟩ := Option.bind_eq_some_iff.mp h
  cases h
  exact ⟨payload, rfl⟩

theorem parseSample_messageType {wire : WireFormat} (hwire : wire.Lawful) {msg : Message}
    {instanceId : UInt16} {mode : TranslationMode} {env : Iceoryx2Envelope}
    (h : parseSample wire (someipToSample wire msg instanceId mode) = some env) :
    env.messageType = msg.messageType := by
  obtain ⟨⟨read, pos⟩, hread, rfl⟩ := Option.map_eq_some_iff.mp h
  obtain ⟨payload, hpayload⟩ := deserializeEnvelope_header hwire (List.prefix_refl _) hread
  dsimp only
  rw [hpayload]
  rfl

/-! ### What is still to come -/

variable {net : Network ι}

/-- Deliveries that a sample can still lead to: its own, and those of its answer. -/
def Network.weight (net : Network ι) (fanOut : Nat) (sample : Bytes) : Nat :=
  match parseSample net.wire sample with
  | none => 1
  | some env => if AsksFor env.messageType then fanOut + 1 else 1

def Network.stored (net : Network ι) (fanOut : Nat) (flights : List (Flight ι)) : Nat :=
  (flights.map fun flight => net.weight fanOut flight.sample).sum

theorem weight_pos (net : Network ι) (fanOut : Nat) (sample : Bytes) :
    1 ≤ net.weight fanOut sample := by
  unfold Network.weight
  split
  · exact Nat.le_refl 1
  · split_ifs
    · exact Nat.le_add_left 1 fanOut
    · exact Nat.le_refl 1

theorem weight_le (net : Network ι) (fanOut : Nat) (sample : Bytes) :
    net.weight fanOut sample ≤ fanOut + 1 := by
  unfold Network.weight
  split
  · exact Nat.le_add_left 1 fanOut
  · split_ifs
    · exact Nat.le_refl _
    · exact Nat.le_add_left 1 fanOut

theorem weight_answer (hwire : net.wire.Lawful) (fanOut : Nat) {resp : Message}
    (h : ¬ AsksFor resp.messageType) (instanceId : UInt16) (mode : TranslationMode) :
    net.weight fanOut (someipToSample net.wire resp instanceId mode) = 1 := by
  unfold Network.weight
  split
  · rfl
  · rename_i env hparse
    rw [if_neg]
    rw [parseSample_messageType hwire hparse]
    exact h

/-- What an event adds, if it publishes at most one sample of at most this weight. -/
theorem flights_weight_le {fanOut bound : Nat} {site : ι} {outputs : List Output}
    (hfan : (net.listeners site).length ≤ fanOut) (hone : (hooked outputs).length ≤ 1)
    (hweight : ∀ published ∈ hooked outputs, net.weight fanOut published.2 ≤ bound) :
    net.stored fanOut (net.flights site outputs) ≤ fanOut * bound := by
  unfold Network.stored Network.flights
  cases hhooked : hooked outputs with
  | nil => simp
  | cons published rest =>
      rw [hhooked] at hone hweight
      cases rest with
      | cons second rest => simp at hone
      | nil =>
          have hthis := hweight published List.mem_cons_self
          rw [List.flatMap_singleton, List.map_map]
          calc _ ≤ _ • bound := List.sum_le_card_nsmul _ bound (by simpa using fun _ _ => hthis)
            _ = (net.listeners site).length * bound := by simp
            _ ≤ fanOut * bound := Nat.mul_le_mul_right bound hfan

theorem stored_append (fanOut : Nat) (first second : List (Flight ι)) :
    net.stored fanOut (first ++ second) = net.stored fanOut first + net.stored fanOut second := by
  simp [Network.stored]

variable (net) in
theorem length_le_stored (fanOut : Nat) (flights : List (Flight ι)) :
    flights.length ≤ net.stored fanOut flights := by
  induction flights with
  | nil => exact Nat.zero_le _
  | cons flight rest ih =>
      have hweight := weight_pos net fanOut flight.sample
      simp only [Network.stored, List.map_cons, List.sum_cons, List.length_cons] at ih ⊢
      omega

variable (net) in
/-- Taking a sample out of the air takes its weight away. -/
theorem stored_eraseIdx (fanOut : Nat) {flights : List (Flight ι)} {position : Nat}
    {flight : Flight ι} (h : flights[position]? = some flight) :
    net.stored fanOut (flights.eraseIdx position) + net.weight fanOut flight.sample =
      net.stored fanOut flights := by
  obtain ⟨hbound, rfl⟩ := List.getElem?_eq_some_iff.mp h
  have hperm := (List.getElem_cons_eraseIdx_perm hbound).map fun flight =>
    net.weight fanOut flight.sample
  have hsum := hperm.sum_eq
  rw [List.map_cons, List.sum_cons] at hsum
  unfold Network.stored
  omega

/-- The answer to a sample, at every gateway that hears it, is paid for by the
sample, and its own delivery too. -/
theorem answer_stored (hwire : net.wire.Lawful) {fanOut : Nat} {site : ι}
    (hfan : (net.listeners site).length ≤ fanOut) (gw : Iceoryx2Gateway) (name : Text)
    (sample : Bytes) (answer : RpcSyncResult) :
    net.stored fanOut
        (net.flights site (injectIceoryx2Sample (net.setup site) gw name sample answer).2) + 1 ≤
      net.weight fanOut sample := by
  rcases hooked_inject (net.setup site) gw name sample answer with
    hnone | ⟨env, resp, replyName, hparse, hasks, hresp, hone⟩
  · have hpos := weight_pos net fanOut sample
    simpa [Network.flights, hnone, Network.stored] using hpos
  · have hweight : net.weight fanOut sample = fanOut + 1 := by
      unfold Network.weight
      have hparse : parseSample net.wire sample = some env := hparse
      rw [hparse]
      exact if_pos hasks
    have hflights : net.stored fanOut (net.flights site
        (injectIceoryx2Sample (net.setup site) gw name sample answer).2) ≤ fanOut * 1 := by
      apply flights_weight_le hfan
      · rw [hone]
        exact Nat.le_refl 1
      · intro published hpublished
        rw [hone, List.mem_singleton] at hpublished
        rw [hpublished]
        exact Nat.le_of_eq (weight_answer hwire fanOut hresp env.instanceId env.mode)
    omega

def NetworkInput.brings (fanOut : Nat) : NetworkInput ι → Nat
  | .act _ _ => fanOut * (fanOut + 1)
  | .deliver _ _ => 0

def NetworkInput.isAct : NetworkInput ι → Bool
  | .act _ _ => true
  | .deliver _ _ => false

theorem sum_brings (fanOut : Nat) (inputs : List (NetworkInput ι)) :
    (inputs.map (NetworkInput.brings fanOut)).sum =
      inputs.countP NetworkInput.isAct * (fanOut * (fanOut + 1)) := by
  induction inputs with
  | nil => simp
  | cons input rest ih =>
      rw [List.map_cons, List.sum_cons, ih]
      cases input with
      | act site input =>
          rw [List.countP_cons_of_pos rfl, Nat.add_mul, Nat.one_mul, Nat.add_comm]
          rfl
      | deliver position answer =>
          rw [List.countP_cons_of_neg Bool.false_ne_true]
          exact Nat.zero_add _

variable [DecidableEq ι]

/-- Every delivery is paid for: by the sample itself, or by the request it answers. -/
theorem step_stored (hwire : net.wire.Lawful) {fanOut : Nat}
    (hfan : ∀ site, (net.listeners site).length ≤ fanOut) (state : NetworkState ι)
    (input : NetworkInput ι) :
    ((net.step state input).2.map fun _ => 1).sum +
        net.stored fanOut (net.step state input).1.inFlight ≤
      net.stored fanOut state.inFlight + input.brings fanOut := by
  cases input with
  | act site input =>
      have hadded := flights_weight_le (hfan site)
        (hooked_step_length (net.setup site) (state.gateways site) input)
        fun published _ => weight_le net fanOut published.2
      simp only [Network.step, Network.move, stored_append, List.map_nil, List.sum_nil,
        NetworkInput.brings]
      omega
  | deliver position answer =>
      unfold Network.step
      dsimp only
      split
      · simp
      · rename_i flight hflight
        have hleft := stored_eraseIdx net fanOut hflight
        have hadded := answer_stored hwire (hfan flight.listener)
          (state.gateways flight.listener) flight.name flight.sample answer
        simp only [Network.move, Iceoryx2.step, stored_append, List.map_cons, List.map_nil,
          List.sum_singleton, NetworkInput.brings]
        omega

/-- However the gateways listen to each other, and in whatever order the samples
arrive: all the samples that are ever delivered or still in the air are bounded by
what came from outside, so no sample keeps others coming for ever. -/
theorem samples_never_storm (net : Network ι) (hwire : net.wire.Lawful) (fanOut : Nat)
    (hfan : ∀ site, (net.listeners site).length ≤ fanOut) (gateways : ι → Iceoryx2Gateway)
    (inputs : List (NetworkInput ι)) :
    (Machine.run net.step ⟨gateways, []⟩ inputs).2.length +
        (Machine.run net.step ⟨gateways, []⟩ inputs).1.inFlight.length ≤
      inputs.countP NetworkInput.isAct * (fanOut * (fanOut + 1)) := by
  have hrun := Counter.run_amortised net.step (fun state => net.stored fanOut state.inFlight)
    (fun _ => 1) (NetworkInput.brings fanOut) (step_stored hwire hfan) ⟨gateways, []⟩ inputs
  have hlength := length_le_stored net fanOut
    (Machine.run net.step ⟨gateways, []⟩ inputs).1.inFlight
  have hempty : net.stored fanOut [] = 0 := rfl
  rw [sum_brings] at hrun
  simp only [List.map_const', List.sum_replicate_nat, Nat.mul_one, hempty, Nat.zero_add] at hrun
  omega

/-! ### Two gateways that hear each other and themselves -/

def doorNetwork : Network Bool where
  config _ := doorSetup.config
  cls := doorSetup.cls
  wire := doorSetup.wire
  listeners _ := [true, false]

/-- One request from outside, and as many deliveries as there can be. -/
def doorCall : List (NetworkInput Bool) :=
  .act true (.someipMessage (doorRequest .request)) ::
    List.replicate 6 (.deliver 0 ⟨true, [7]⟩)

def hookedDoor : Iceoryx2Gateway := { doorGateway with outboundHook := true }

/-- The request reaches both, and both answers reach both: the bound is met. -/
theorem door_network_falls_silent :
    doorNetwork.wire.Lawful ∧
      (Machine.run doorNetwork.step ⟨fun _ => hookedDoor, []⟩ doorCall).2.length +
          (Machine.run doorNetwork.step ⟨fun _ => hookedDoor, []⟩ doorCall).1.inFlight.length ≤
        doorCall.countP NetworkInput.isAct * (2 * (2 + 1)) ∧
      (Machine.run doorNetwork.step ⟨fun _ => hookedDoor, []⟩ doorCall).2.length = 6 :=
  ⟨WireFormat.bigEndian_lawful,
    samples_never_storm doorNetwork WireFormat.bigEndian_lawful 2 (fun _ => Nat.le_refl 2)
      (fun _ => hookedDoor) doorCall,
    by decide +kernel⟩

end SomeipGateway.Iceoryx2
