import Mathlib.Data.List.Dedup
import SomeipGateway.Zenoh.Patterns

/-! Gateways in one Zenoh network. A put goes to every subscription that covers its
key, whichever gateway has made it; a token that appears or disappears goes to the
liveliness subscriptions. What is on the way arrives late, in any order, or not at all,
and not at a subscription that has gone in between. -/
namespace SomeipGateway.Zenoh

open Lib

variable {ι σ κ : Type}

structure Network (ι σ κ : Type) where
  matching : KeyMatching
  setup : ι → Setup σ κ
  sites : List ι
  nodup : sites.Nodup
  complete : ∀ site, site ∈ sites

/-- A sample on its way to the callback of a subscription. -/
structure Flight (ι : Type) where
  site : ι
  pattern : Text
  input : Input

structure NetworkState (ι σ : Type) where
  gateways : ι → ZenohGateway σ
  inFlight : List (Flight ι) := []

/-- One event at one gateway, and what the gateway did. -/
structure Entry (ι : Type) where
  site : ι
  input : Input
  outputs : List Output

inductive NetworkInput (ι : Type) where
  | act (site : ι) (input : Input)
  | deliver (position : Nat)
  | lose (position : Nat)

/-- Samples come over the network only. -/
def Input.isSample : Input → Bool
  | .sample _ _ => true
  | .livelinessSample _ _ => true
  | _ => false

/-- Whether the subscription that a sample is for is still there. -/
def ZenohGateway.listens (gw : ZenohGateway σ) (pattern : Text) : Input → Bool
  | .sample _ _ => gw.zenohSubscribers.contains pattern
  | .livelinessSample _ _ => gw.livelinessSubscribers.contains pattern
  | _ => false

theorem isSample_of_listens {gw : ZenohGateway σ} {pattern : Text} {input : Input}
    (h : gw.listens pattern input = true) : input.isSample = true := by
  cases input with
  | sample key payload => rfl
  | livelinessSample key putOrDelete => rfl
  | _ => cases h

section

variable (net : Network ι σ κ)

def Network.carry (gateways : ι → ZenohGateway σ) (key : Text) (payload : Bytes) :
    List (Flight ι) :=
  net.sites.flatMap fun site =>
    ((gateways site).zenohSubscribers.filter fun pattern => net.matching.covers pattern key).map
      fun pattern => ⟨site, pattern, .sample key payload⟩

/-- Where the puts of an event go. -/
def Network.puts (gateways : ι → ZenohGateway σ) (outputs : List Output) : List (Flight ι) :=
  outputs.flatMap fun
    | .put key payload _ _ => net.carry gateways key payload
    | _ => []

/-- Tokens that the event has added, or all if it has dropped them. Equal tokens of a
gateway appear and disappear as one. -/
def changedTokens (before after : List Text) : List Text :=
  (if before <+: after then after.drop before.length else before).dedup

variable [DecidableEq ι]

/-- A gateway hears of the tokens of others only: its own are declared before it
subscribes, and dropped after it has unsubscribed. -/
def Network.announce (gateways : ι → ZenohGateway σ) (origin : ι) (token : Text) :
    List (Flight ι) :=
  (net.sites.filter fun site => site ≠ origin).flatMap fun site =>
    ((gateways site).livelinessSubscribers.filter fun pattern =>
      net.matching.covers pattern token).map
        fun pattern => ⟨site, pattern, .livelinessSample token true⟩

def Network.move (state : NetworkState ι σ) (site : ι) (input : Input) :
    NetworkState ι σ × List (Entry ι) :=
  let gw := state.gateways site
  let now := step (net.setup site) gw input
  let gateways := Function.update state.gateways site now.1
  ({ gateways
     inFlight := state.inFlight ++ net.puts gateways now.2 ++
      (changedTokens gw.livelinessTokens now.1.livelinessTokens).flatMap
        (net.announce gateways site) },
    [⟨site, input, now.2⟩])

def Network.step (state : NetworkState ι σ) :
    NetworkInput ι → NetworkState ι σ × List (Entry ι)
  | .act site input => if input.isSample then (state, []) else net.move state site input
  | .deliver position =>
      match state.inFlight[position]? with
      | none => (state, [])
      | some flight =>
          let left := { state with inFlight := state.inFlight.eraseIdx position }
          if (state.gateways flight.site).listens flight.pattern flight.input then
            net.move left flight.site flight.input
          else (left, [])
  | .lose position => ({ state with inFlight := state.inFlight.eraseIdx position }, [])

/-- What a step of a network can be: nothing, an event at a gateway, the arrival of a
flight, or its end without an arrival. -/
inductive Network.Moves (state : NetworkState ι σ) :
    NetworkInput ι → NetworkState ι σ × List (Entry ι) → Prop
  | idle {input : NetworkInput ι} : Moves state input (state, [])
  | event {origin : ι} {input : Input} (outer : input.isSample = false) :
      Moves state (.act origin input) (net.move state origin input)
  | arrival {position : Nat} {flight : Flight ι} (found : state.inFlight[position]? = some flight)
      (listens : (state.gateways flight.site).listens flight.pattern flight.input = true) :
      Moves state (.deliver position) (net.move
        { state with inFlight := state.inFlight.eraseIdx position } flight.site flight.input)
  | unheard {position : Nat} {flight : Flight ι} (found : state.inFlight[position]? = some flight)
      (deaf : (state.gateways flight.site).listens flight.pattern flight.input = false) :
      Moves state (.deliver position)
        ({ state with inFlight := state.inFlight.eraseIdx position }, [])
  | loss {position : Nat} {flight : Flight ι} (found : state.inFlight[position]? = some flight) :
      Moves state (.lose position)
        ({ state with inFlight := state.inFlight.eraseIdx position }, [])

theorem step_moves (state : NetworkState ι σ) (input : NetworkInput ι) :
    net.Moves state input (net.step state input) := by
  cases input with
  | act origin input =>
      rw [Network.step]
      split_ifs with hsample
      · exact .idle
      · exact .event (Bool.not_eq_true _ ▸ hsample)
  | deliver position =>
      rw [Network.step]
      split
      · exact .idle
      · rename_i flight hflight
        dsimp only
        split_ifs with hlistens
        · exact .arrival hflight hlistens
        · exact .unheard hflight (Bool.not_eq_true _ ▸ hlistens)
  | lose position =>
      rw [Network.step]
      cases hflight : state.inFlight[position]? with
      | none =>
          rw [List.eraseIdx_of_length_le (List.getElem?_eq_none_iff.mp hflight)]
          exact .idle
      | some flight => exact .loss hflight

/-- Newly constructed gateways, before anything happens. -/
def Network.initial (mappings : ι → List ServiceMapping) (e2e : ι → σ) : NetworkState ι σ where
  gateways := fun site => fresh (net.setup site) (mappings site) (e2e site)

theorem move_gateways (state : NetworkState ι σ) (origin : ι) (input : Input) (site : ι) :
    (net.move state origin input).1.gateways site =
      if site = origin then (step (net.setup origin) (state.gateways origin) input).1
      else state.gateways site := by
  rw [Network.move]
  exact Function.update_apply ..

/-- The condition on an event at one gateway, for the events that come from outside. -/
def MeetsOutside (site : ι) (ok : ZenohGateway σ → Input → Prop) (state : NetworkState ι σ) :
    NetworkInput ι → Prop
  | .act origin input => origin = site → ok (state.gateways site) input
  | _ => True

section

variable {site : ι} {inv : ZenohGateway σ → Prop} {ok : ZenohGateway σ → Input → Prop}

/-- What the events at a gateway preserve, the network preserves there. -/
theorem step_lifts (hsample : ∀ gw input, input.isSample = true → ok gw input)
    (hstep : ∀ gw input, inv gw → ok gw input → inv (step (net.setup site) gw input).1)
    (state : NetworkState ι σ) (input : NetworkInput ι) (h : inv (state.gateways site))
    (hinput : MeetsOutside site ok state input) :
    inv ((net.step state input).1.gateways site) := by
  have hmove (state : NetworkState ι σ) (h : inv (state.gateways site)) (origin : ι)
      (input : Input) (hok : origin = site → ok (state.gateways site) input) :
      inv ((net.move state origin input).1.gateways site) := by
    rw [move_gateways]
    split_ifs with hsite
    · subst hsite
      exact hstep _ input h (hok rfl)
    · exact h
  have hstep := step_moves net state input
  generalize net.step state input = next at hstep ⊢
  cases hstep with
  | event outer => exact hmove state h _ _ hinput
  | arrival found listens =>
      exact hmove _ h _ _ fun _ => hsample _ _ (isSample_of_listens listens)
  | _ => exact h

theorem run_lifts (hsample : ∀ gw input, input.isSample = true → ok gw input)
    (hstep : ∀ gw input, inv gw → ok gw input → inv (step (net.setup site) gw input).1)
    (state : NetworkState ι σ) (inputs : List (NetworkInput ι)) (h : inv (state.gateways site))
    (hinputs : Machine.Along net.step (MeetsOutside site ok) state inputs) :
    inv ((Machine.run net.step state inputs).1.gateways site) :=
  Machine.run_invariant_along net.step
    (fun state input h hinput => step_lifts net hsample hstep state input h hinput) state inputs h
    hinputs

end

end

/-! ### One event at one gateway -/

section

variable (setup : Setup σ κ)

/-- The SOME/IP message that an event hands to the gateway for publication. -/
def Input.message : Input → Option Message
  | .datagram message _ => message
  | .someipMessage msg => some msg
  | .notification n => some
      { serviceId := n.serviceId, methodId := n.eventId, clientId := setup.config.rpcClientId
        sessionId := 0x0001, messageType := .notification, payload := n.eventData }
  | _ => none

/-- Only `on_someip_message` knows the typed mode. -/
def Input.body (input : Input) (msg : Message) (via : ServiceMapping) : Bytes :=
  match input with
  | .notification _ => msg.payload
  | _ => if via.mode = .typedMode then typedPayload setup msg else msg.payload

end

section

variable (setup : Setup σ κ)

/-- What an event can make a gateway do. -/
def Input.allows : Input → Output → Bool
  | .datagram _ _, .put _ _ _ _ => true
  | .someipMessage _, .put _ _ _ _ => true
  | .notification _, .put _ _ _ _ => true
  | .rpcServerCall _ _ _ _, .put _ _ _ _ => true
  | .rpcServerCall _ _ _ _, .rpcReturn _ => true
  | .sample _ _, .sendMessage _ _ _ => true
  | .sample _ _, .threw => true
  | .livelinessSample _ _, .findService _ => true
  | .query _ _ _ _, .callMethodSync _ _ _ _ => true
  | .query _ _ _ _, .reply _ _ => true
  | .query _ _ _ _, .threw => true
  | _, _ => false

theorem publishToZenoh_puts {gw : ZenohGateway σ} {msg : Message} {mapping : ServiceMapping}
    {out : Output} (h : out ∈ publishToZenoh setup gw msg mapping) :
    ∃ key payload declared via, out = .put key payload declared via := by
  unfold publishToZenoh at h
  split_ifs at h
  · exact ⟨_, _, _, _, List.mem_singleton.mp h⟩
  · cases h

theorem onSomeipMessage_puts {gw : ZenohGateway σ} {msg : Message} {out : Output}
    (h : out ∈ (onSomeipMessage setup gw msg).2.2) :
    ∃ key payload declared via, out = .put key payload declared via := by
  unfold onSomeipMessage at h
  split at h
  · cases h
  · split_ifs at h
    · cases h
    · exact publishToZenoh_puts setup h
    · exact publishToZenoh_puts setup h

theorem handleRpcQuery_allows {gw : ZenohGateway σ} {queryable : Queryable} {key : Text}
    {payload : Option Bytes} {answer : RpcSyncResult} {out : Output}
    (h : out ∈ handleRpcQuery setup gw queryable key payload answer) :
    (Input.query queryable key payload answer).allows out = true := by
  unfold handleRpcQuery at h
  dsimp only at h
  split at h
  · rw [List.mem_singleton.mp h]
    rfl
  · split_ifs at h
    · rw [List.mem_singleton.mp h]
      rfl
    all_goals
      rcases List.mem_cons.mp h with hcall | hreply
      · rw [hcall]
        rfl
      · rw [List.mem_singleton.mp hreply]
        rfl

theorem step_allows {gw : ZenohGateway σ} {input : Input} {out : Output}
    (h : out ∈ (step setup gw input).2) : input.allows out = true := by
  cases input with
  | start outcome => cases h
  | stop => cases h
  | addServiceMapping mapping => cases h
  | datagram message sender =>
      cases message with
      | none => cases h
      | some msg =>
          simp only [step, onMessageReceived] at h
          split_ifs at h
          · cases h
          · obtain ⟨_, _, _, _, rfl⟩ := onSomeipMessage_puts setup h
            rfl
          · obtain ⟨_, _, _, _, rfl⟩ := onSomeipMessage_puts setup h
            rfl
  | someipMessage msg =>
      obtain ⟨_, _, _, _, rfl⟩ := onSomeipMessage_puts setup h
      rfl
  | rpcServerCall methodId clientId sessionId params =>
      simp only [step, rpcServerHandler] at h
      split_ifs at h
      · rcases List.mem_append.mp h with hput | hreturn
        · split at hput
          · cases hput
          · split_ifs at hput
            · obtain ⟨_, _, _, _, rfl⟩ := publishToZenoh_puts setup hput
              rfl
            · cases hput
        · rw [List.mem_singleton.mp hreturn]
          rfl
      · cases h
  | notification n =>
      simp only [step, notificationCallback] at h
      split_ifs at h
      · split at h
        · cases h
        · obtain ⟨_, _, _, _, rfl⟩ := publishToZenoh_puts setup h
          rfl
      · cases h
  | sample key payload =>
      rw [step, onZenohSample_eq] at h
      split at h
      · cases h
      · rw [List.mem_singleton.mp h]
        rfl
      · simp only [sendSomeipUdp] at h
        split at h
        · cases h
        · rw [List.mem_singleton.mp h]
          rfl
  | livelinessSample token putOrDelete =>
      simp only [step, onLivelinessSample] at h
      split_ifs at h
      · cases h
      · cases h
      all_goals
        rw [List.mem_singleton.mp h]
        rfl
  | query queryable key payload answer =>
      rw [step] at h
      split_ifs at h
      · exact handleRpcQuery_allows setup h
      · cases h

/-- Datagrams are sent for samples only. -/
theorem step_no_datagram (gw : ZenohGateway σ) {input : Input} (h : input.isSample = false)
    {sent : Message} {dest : Endpoint} {via : ServiceMapping} :
    .sendMessage sent dest via ∉ (step setup gw input).2 := by
  intro hsend
  have hallows := step_allows setup hsend
  cases input with
  | sample key payload => cases h
  | _ => cases hallows

/-- The put of a message that some event has handed to the gateway. -/
structure Published (gw : ZenohGateway σ) (msg : Message) (body : Bytes) (key : Text)
    (payload : Bytes) (via : ServiceMapping) : Prop where
  key_eq : key = if rpcish setup.cls msg.messageType then
      buildRpcKey setup.config.keyPrefix via.someipServiceId via.someipInstanceId msg.methodId
    else buildKeyExpr setup.config.keyPrefix via.someipServiceId via.someipInstanceId msg.methodId
  payload_eq : payload = encodePayload gw.encoding { msg with payload := body }

theorem onSomeipMessage_published {gw : ZenohGateway σ} {msg : Message} {key : Text}
    {payload : Bytes} {declared : Bool} {via : ServiceMapping}
    (h : .put key payload declared via ∈ (onSomeipMessage setup gw msg).2.2) :
    Published setup gw msg
      (if via.mode = .typedMode then typedPayload setup msg else msg.payload) key payload via := by
  unfold onSomeipMessage at h
  split at h
  · cases h
  · dsimp only at h
    split_ifs at h with hforward htyped
    · cases h
    · obtain ⟨-, hkey, hpayload, rfl⟩ := mem_publishToZenoh setup h
      rw [if_pos htyped]
      exact ⟨hkey, hpayload⟩
    · obtain ⟨-, hkey, hpayload, rfl⟩ := mem_publishToZenoh setup h
      rw [if_neg htyped]
      exact ⟨hkey, hpayload⟩

theorem rpcish_request (cls : MessageClass) : rpcish cls .request = true := by
  simp [rpcish, cls.request_isRequest]

/-- What a sample does: nothing, a datagram or an exception. -/
theorem onZenohSample_no_put (gw : ZenohGateway σ) (key : Text) (payload : Bytes)
    {key' : Text} {payload' : Bytes} {declared : Bool} {via : ServiceMapping} :
    .put key' payload' declared via ∉ (onZenohSample setup gw key payload).2 := by
  intro hput
  have hallows : (Input.sample key payload).allows (.put key' payload' declared via) = true :=
    step_allows setup hput
  cases hallows

/-- Where a put comes from: from the message of the event, or from the RPC server, which
puts under RPC keys. -/
theorem step_published {gw : ZenohGateway σ} {input : Input} {key : Text} {payload : Bytes}
    {declared : Bool} {via : ServiceMapping}
    (h : .put key payload declared via ∈ (step setup gw input).2) :
    (∃ msg, input.message setup = some msg ∧
        Published setup gw msg (input.body setup msg via) key payload via) ∨
      (input.message setup = none ∧ ∃ methodId, key = buildRpcKey setup.config.keyPrefix
        via.someipServiceId via.someipInstanceId methodId) := by
  cases input with
  | start outcome => cases h
  | stop => cases h
  | addServiceMapping mapping => cases h
  | datagram message sender =>
      cases message with
      | none => cases h
      | some msg =>
          simp only [step, onMessageReceived] at h
          refine .inl ⟨msg, rfl, ?_⟩
          -- sender and protection state are not read on the way to the put
          split_ifs at h
          · cases h
          · obtain ⟨hkey, hpayload⟩ := onSomeipMessage_published setup h
            exact ⟨hkey, hpayload⟩
          · obtain ⟨hkey, hpayload⟩ := onSomeipMessage_published setup h
            exact ⟨hkey, hpayload⟩
  | someipMessage msg => exact .inl ⟨msg, rfl, onSomeipMessage_published setup h⟩
  | rpcServerCall methodId clientId sessionId params =>
      refine .inr ⟨rfl, methodId, ?_⟩
      simp only [step, rpcServerHandler] at h
      split_ifs at h
      · rcases List.mem_append.mp h with hput | hreturn
        · split at hput
          · cases hput
          · split_ifs at hput
            · obtain ⟨-, hkey, -, rfl⟩ := mem_publishToZenoh setup hput
              rw [hkey, if_pos (rpcish_request setup.cls)]
            · cases hput
        · simp at hreturn
      · cases h
  | notification n =>
      refine .inl ⟨_, rfl, ?_⟩
      simp only [step, notificationCallback] at h
      split_ifs at h
      · split at h
        · cases h
        · obtain ⟨-, hkey, hpayload, rfl⟩ := mem_publishToZenoh setup h
          exact ⟨hkey, hpayload⟩
      · cases h
  | sample sampleKey samplePayload =>
      exact absurd h (onZenohSample_no_put setup gw sampleKey samplePayload)
  | livelinessSample token putOrDelete =>
      simp only [step, onLivelinessSample] at h
      split_ifs at h <;> simp at h
  | query queryable queryKey queryPayload answer =>
      rw [step] at h
      split_ifs at h
      · cases handleRpcQuery_allows setup h
      · cases h

end

/-! ### What a receiver makes of a put -/

section

variable (setup : Setup σ κ)

/-- The message that a sample becomes at a gateway with these mappings. -/
def routed (mappings : List ServiceMapping) : Input → Option Message
  | .sample key payload =>
      match routeSample setup setup.config.payloadEncoding mappings key payload with
      | some (_, .ok msg) => some msg
      | _ => none
  | _ => none

theorem routeSample_buildKeyExpr (encoding : ZenohPayloadEncoding)
    (mappings : List ServiceMapping) (serviceId instanceId eventId : UInt16) (payload : Bytes) :
    let key := buildKeyExpr setup.config.keyPrefix serviceId instanceId eventId
    routeSample setup encoding mappings key payload =
      match findMappingInstance mappings serviceId instanceId with
      | none => none
      | some mapping =>
          if shouldForwardToSomeip mapping then
            some (mapping, zenohToSomeip encoding
              { topicOrKey := key, payload, sourceServiceId := serviceId
                sourceMethodId := eventId, sourceInstanceId := instanceId
                isNotification := true } serviceId .notification)
          else none := by
  intro key
  obtain ⟨hlong, hstart⟩ := buildKeyExpr_startsWith setup.config.keyPrefix serviceId
    instanceId eventId
  have hparsed := SomeipKey.parseSomeipKey_build setup.config.keyPrefix
    (.event serviceId instanceId eventId)
  simp only [SomeipKey.build, SomeipKey.parsed] at hparsed
  have hpasses : ¬ (key.length ≤ setup.config.keyPrefix.length ∨
      key.take setup.config.keyPrefix.length ≠ setup.config.keyPrefix) :=
    not_or.mpr ⟨Nat.not_le.mpr hlong, not_not.mpr hstart⟩
  rw [routeSample]
  simp only [if_neg hpasses]
  simp only [key, hparsed]
  cases findMappingInstance mappings serviceId instanceId with
  | none => rfl
  | some mapping =>
      dsimp only
      cases shouldForwardToSomeip mapping with
      | false => rfl
      | true => rfl

theorem routeSample_buildRpcKey (encoding : ZenohPayloadEncoding)
    (mappings : List ServiceMapping) (serviceId instanceId methodId : UInt16) (payload : Bytes) :
    routeSample setup encoding mappings
      (buildRpcKey setup.config.keyPrefix serviceId instanceId methodId) payload = none := by
  have hparsed := SomeipKey.parseSomeipKey_build setup.config.keyPrefix
    (.rpc serviceId instanceId methodId)
  simp only [SomeipKey.build, SomeipKey.parsed] at hparsed
  simp [routeSample, hparsed]

/-- What belongs to a call goes nowhere; an event becomes the message that should arrive,
if the mapping that the receiver finds lets it through. -/
theorem routed_published {source : Setup σ κ}
    (hkeyPrefix : source.config.keyPrefix = setup.config.keyPrefix) {gw : ZenohGateway σ}
    (hencoding : gw.encoding = setup.config.payloadEncoding)
    (hcbor : setup.config.payloadEncoding ≠ .cbor) {msg : Message} {body : Bytes} {key : Text}
    {payload : Bytes} {via : ServiceMapping}
    (h : Published source gw msg body key payload via) (mappings : List ServiceMapping) :
    routed setup mappings (.sample key payload) =
      if rpcish source.cls msg.messageType then none
      else
        match findMappingInstance mappings via.someipServiceId via.someipInstanceId with
        | none => none
        | some first =>
            if shouldForwardToSomeip first then
              some { serviceId := via.someipServiceId, methodId := msg.methodId
                     clientId := 0x0000, sessionId := 0x0001, messageType := .notification
                     payload := body }
            else none := by
  obtain ⟨rfl, rfl⟩ := h
  rw [hkeyPrefix, hencoding, routed]
  split_ifs with hrpc
  · rw [routeSample_buildRpcKey]
  · rw [routeSample_buildKeyExpr]
    cases findMappingInstance mappings via.someipServiceId via.someipInstanceId with
    | none => rfl
    | some first =>
        dsimp only
        split_ifs
        · rw [zenohToSomeip_encodePayload hcbor { msg with payload := body } _ rfl]
        · rfl

end

/-! ### Subscriptions -/

section

variable (setup : Setup σ κ)

/-- A kind of resources of a session: those that a gateway holds, and those that its
mappings call for when it is started. -/
structure Resource (α : Type) where
  held : ZenohGateway σ → List α
  calledFor : List ServiceMapping → List α
  nothing : calledFor [] = []
  framed : ∀ gw base lastSender e2e, held { gw with base, lastSender, e2e } = held gw
  givenUp : ∀ outcome gw, held (startTransports setup outcome gw) = held gw ∧
    held (startSomeip outcome (startTransports setup outcome gw)) = held gw
  declared : ∀ gw, held (declareSession setup gw) = held gw ++ calledFor gw.base.serviceMappings
  dropped : ∀ gw, gw.base.running = true → held (stop gw).2 = []

/-- The resources of a gateway are those of the mappings it had when it was started, and
only a gateway that runs holds any. -/
structure Resource.Holds {setup : Setup σ κ} {α : Type} (resource : Resource setup α)
    (gw : ZenohGateway σ) : Prop where
  stopped : gw.base.running = false → resource.held gw = []
  declared : ∃ earlier, earlier <+: gw.base.serviceMappings ∧
    resource.held gw = resource.calledFor earlier

section

variable {setup} {α : Type} (resource : Resource setup α)

theorem Resource.Holds.congr {before after : ZenohGateway σ} (h : resource.Holds before)
    (hbase : after.base.running = before.base.running ∧
      after.base.serviceMappings = before.base.serviceMappings)
    (hheld : resource.held after = resource.held before) : resource.Holds after := by
  obtain ⟨earlier, hearlier, hcalled⟩ := h.declared
  refine ⟨fun hstopped => ?_, earlier, ?_, hheld.trans hcalled⟩
  · rw [hheld]
    exact h.stopped (hbase.1 ▸ hstopped)
  · rw [hbase.2]
    exact hearlier

theorem Handled.holds {before after : ZenohGateway σ} (h : Handled before after)
    (hbefore : resource.Holds before) : resource.Holds after := by
  apply hbefore.congr resource ⟨h.running, h.mappings⟩
  rw [h.frame]
  exact resource.framed _ _ _ _

theorem Resource.start_holds (outcome : StartOutcome) {gw : ZenohGateway σ}
    (h : resource.Holds gw) : resource.Holds (start setup outcome gw).2 := by
  obtain ⟨htransports, hsomeip⟩ := resource.givenUp outcome gw
  simp only [start]
  split_ifs with hrun
  · exact h
  -- a start that gives up declares nothing
  · exact h.congr resource ⟨rfl, rfl⟩ htransports
  · exact h.congr resource ⟨rfl, rfl⟩ hsomeip
  · exact h.congr resource ⟨rfl, rfl⟩ hsomeip
  · have hnone := h.stopped (Bool.not_eq_true _ ▸ hrun)
    refine ⟨fun hstopped => absurd hstopped (by simp [declareSession]), gw.base.serviceMappings,
      List.prefix_refl _, ?_⟩
    rw [resource.declared, hsomeip, hnone, List.nil_append]
    rfl

theorem Resource.stop_holds {gw : ZenohGateway σ} (h : resource.Holds gw) :
    resource.Holds (stop gw).2 := by
  by_cases hrun : gw.base.running = true
  · have hnone := resource.dropped gw hrun
    exact ⟨fun _ => hnone, [], List.nil_prefix, hnone.trans resource.nothing.symm⟩
  · have hsame : (stop gw).2 = gw := by simp [stop, hrun]
    rw [hsame]
    exact h

theorem Resource.step_holds {gw : ZenohGateway σ} (input : Input) (h : resource.Holds gw) :
    resource.Holds (step setup gw input).1 := by
  cases input with
  | start outcome => exact resource.start_holds outcome h
  | stop => exact resource.stop_holds h
  | addServiceMapping mapping =>
      obtain ⟨earlier, hearlier, hcalled⟩ := h.declared
      have hheld := resource.framed gw (gw.base.addServiceMapping mapping) gw.lastSender gw.e2e
      exact ⟨fun hstopped => hheld.trans (h.stopped hstopped), earlier,
        hearlier.trans (List.prefix_append _ _), hheld.trans hcalled⟩
  | _ => exact (step_handled setup gw rfl).holds resource h

end

theorem Handled.keepsEncoding {before after : ZenohGateway σ} (h : Handled before after)
    {encoding : ZenohPayloadEncoding} (hbefore : before.encoding = encoding) :
    after.encoding = encoding := by
  rw [h.frame]
  exact hbefore

theorem step_encoding {gw : ZenohGateway σ} (input : Input)
    (h : gw.encoding = setup.config.payloadEncoding) :
    (step setup gw input).1.encoding = setup.config.payloadEncoding := by
  cases input with
  | start outcome =>
      simp only [step, start]
      split_ifs
      · exact h
      all_goals rfl
  | stop =>
      simp only [step, stop]
      split_ifs
      · exact h
      · exact h
  | addServiceMapping mapping => exact h
  | _ => exact (step_handled setup gw rfl).keepsEncoding h

def sessionSubscribers : Resource setup Text where
  held := ZenohGateway.zenohSubscribers
  calledFor := instancePatterns setup.config.keyPrefix
  nothing := rfl
  framed := fun _ _ _ _ => rfl
  givenUp := fun _ _ => ⟨rfl, rfl⟩
  declared := fun _ => rfl
  dropped := fun gw hrun => by simp [stop, hrun]

/-- The subscriptions of a gateway are those of the mappings it had when it was
started. -/
structure Declared (gw : ZenohGateway σ) : Prop where
  encoding : gw.encoding = setup.config.payloadEncoding
  stopped : gw.base.running = false → gw.zenohSubscribers = []
  declared : ∃ earlier, earlier <+: gw.base.serviceMappings ∧
    gw.zenohSubscribers = instancePatterns setup.config.keyPrefix earlier

theorem step_declared {gw : ZenohGateway σ} (input : Input) (h : Declared setup gw) :
    Declared setup (step setup gw input).1 := by
  obtain ⟨hstopped, hdeclared⟩ :=
    (sessionSubscribers setup).step_holds input ⟨h.stopped, h.declared⟩
  exact ⟨step_encoding setup input h.encoding, hstopped, hdeclared⟩

end

end SomeipGateway.Zenoh
