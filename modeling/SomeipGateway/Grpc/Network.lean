import SomeipGateway.Grpc.Unary

/-! Gateways that are each other's cloud targets. A forwarded call blocks the
handler that forwards it until the target has answered, and the target is again
a gateway with cloud targets of its own, so calls could go in circles. -/
namespace SomeipGateway.Grpc

open Lib

variable {ι σ κ : Type}

/-- The gateways of a network, and which of them listens behind a cloud target.
A target without one is some other server. -/
structure Network (ι σ κ : Type) where
  setups : ι → UnarySetup σ κ
  peer : ι → Text → Option ι

abbrev UnaryAnswer := RpcStatus × Option SomeIpEnvelope

/-- Where a client's call is, with the handlers that wait for it, the latest first. -/
inductive CallState (ι : Type) where
  | handling (site : ι) (request : UnaryRpcRequest) (blocked : List ι)
  | returning (answer : UnaryAnswer) (blocked : List ι)
  | answered

/-- One `UnarySomeIp` handler: its gateway as it found it, and the answers it got. -/
structure Execution (ι σ : Type) where
  site : ι
  gateway : UnaryGateway σ
  request : UnaryRpcRequest
  answers : UnaryAnswers

inductive CallEvent (ι σ : Type) where
  | executed (execution : Execution ι σ)
  | answered (answer : UnaryAnswer)

structure NetworkState (ι σ : Type) where
  gateways : ι → UnaryGateway σ
  calls : List (CallState ι) := []

/-- `turn` lets the thread that has a call go on; `other` is whatever else happens
to a gateway. -/
inductive NetworkInput (ι σ : Type) where
  | submit (site : ι) (request : UnaryRpcRequest)
  | turn (call : Nat) (answers : UnaryAnswers)
  | other (site : ι) (gateway : UnaryGateway σ)

section

variable (net : Network ι σ κ)

def Execution.reply (execution : Execution ι σ) : UnaryReply σ :=
  unarySomeIp (net.setups execution.site) execution.answers execution.gateway execution.request

def Execution.answer (execution : Execution ι σ) : UnaryAnswer :=
  ((execution.reply net).status, (execution.reply net).response)

/-- The gateway a handler waits for, with the request it has sent there. -/
def Execution.awaits (execution : Execution ι σ) : Option (ι × UnaryRpcRequest) :=
  match (execution.reply net).calls with
  | [.forward target request] => (net.peer execution.site target).map fun peer => (peer, request)
  | _ => none

def CallState.turn (gateways : ι → UnaryGateway σ) (answers : UnaryAnswers) :
    CallState ι → CallState ι × List (CallEvent ι σ)
  | .handling site request blocked =>
      let execution : Execution ι σ := ⟨site, gateways site, request, answers⟩
      match execution.awaits net with
      | some (peer, forwarded) =>
          (.handling peer forwarded (site :: blocked), [.executed execution])
      | none => (.returning (execution.answer net) blocked, [.executed execution])
  -- `return stub.UnarySomeIp(...)`: the handler hands on what the target answered
  | .returning answer (_ :: blocked) => (.returning answer blocked, [])
  | .returning answer [] => (.answered, [.answered answer])
  | .answered => (.answered, [])

variable [DecidableEq ι]

/-- What a handler leaves of its gateway; only a call that is being handled has one. -/
def CallState.leaves (gateways : ι → UnaryGateway σ) (answers : UnaryAnswers) :
    CallState ι → ι → UnaryGateway σ
  | .handling site request _ =>
      let execution : Execution ι σ := ⟨site, gateways site, request, answers⟩
      Function.update gateways site (execution.reply net).gateway
  | _ => gateways

def Network.step (state : NetworkState ι σ) :
    NetworkInput ι σ → NetworkState ι σ × List (Nat × CallEvent ι σ)
  | .submit site request =>
      ({ state with calls := state.calls ++ [.handling site request []] }, [])
  | .turn call answers =>
      match state.calls[call]? with
      | none => (state, [])
      | some now =>
          let next := now.turn net state.gateways answers
          ({ gateways := now.leaves net state.gateways answers
             calls := state.calls.set call next.1 },
            next.2.map fun event => (call, event))
  | .other site gateway =>
      ({ state with gateways := Function.update state.gateways site gateway }, [])

end

/-! ### One handler -/

def UnaryCall.onVehicle : UnaryCall → Bool
  | .forward _ _ => false
  | .callMethodSync _ _ _ => true

def Execution.vehicleCalls (net : Network ι σ κ) (execution : Execution ι σ) : List UnaryCall :=
  (execution.reply net).calls.filter UnaryCall.onVehicle

theorem forwardUnary_calls_cases (setup : UnarySetup σ κ) (answers : UnaryAnswers)
    (gw : UnaryGateway σ) (request : UnaryRpcRequest) :
    (forwardUnary setup answers gw request).calls = [] ∨
      (forwardUnary setup answers gw request).calls =
        [.forward request.cloudTargetName { request with cloudTargetName := [] }] := by
  unfold forwardUnary
  split
  · exact .inl rfl
  · exact .inr rfl

theorem callVehicle_calls_cases (setup : UnarySetup σ κ) (answers : UnaryAnswers)
    (gw : UnaryGateway σ) (reqMsg : Message) :
    (callVehicle setup answers gw reqMsg).calls = [] ∨
      (callVehicle setup answers gw reqMsg).calls =
        [.callMethodSync reqMsg.serviceId reqMsg.methodId reqMsg.payload] := by
  unfold callVehicle
  split_ifs
  · exact .inl rfl
  · exact .inl rfl
  · exact .inr rfl

/-- A handler calls nobody, or the vehicle, or, if the request names a cloud
target, that target without the name. -/
theorem unarySomeIp_calls_cases (setup : UnarySetup σ κ) (answers : UnaryAnswers)
    (gw : UnaryGateway σ) (request : UnaryRpcRequest) :
    (unarySomeIp setup answers gw request).calls = [] ∨
      (∃ serviceId methodId params, (unarySomeIp setup answers gw request).calls =
        [.callMethodSync serviceId methodId params]) ∨
      (request.cloudTargetName ≠ [] ∧ (unarySomeIp setup answers gw request).calls =
        [.forward request.cloudTargetName { request with cloudTargetName := [] }]) := by
  unfold unarySomeIp
  split
  · exact .inl rfl
  · split
    · exact .inl rfl
    · rename_i reqMsg hmsg
      dsimp only
      split_ifs with hvalid htarget
      · exact .inl rfl
      · rcases forwardUnary_calls_cases setup answers (gw.validate setup reqMsg).2 request
          with hcalls | hcalls
        · exact .inl hcalls
        · have hname : request.cloudTargetName ≠ [] := by simpa using htarget
          exact .inr (.inr ⟨hname, hcalls⟩)
      · rcases callVehicle_calls_cases setup answers (gw.validate setup reqMsg).2 reqMsg
          with hcalls | hcalls
        · exact .inl hcalls
        · exact .inr (.inl ⟨_, _, _, hcalls⟩)

theorem Execution.calls_cases (net : Network ι σ κ) (execution : Execution ι σ) :
    (execution.reply net).calls = [] ∨
      (∃ serviceId methodId params,
        (execution.reply net).calls = [.callMethodSync serviceId methodId params]) ∨
      (execution.request.cloudTargetName ≠ [] ∧ (execution.reply net).calls =
        [.forward execution.request.cloudTargetName
          { execution.request with cloudTargetName := [] }]) :=
  unarySomeIp_calls_cases (net.setups execution.site) execution.answers execution.gateway
    execution.request

variable {net : Network ι σ κ}

theorem Execution.awaits_some {execution : Execution ι σ} {peer : ι} {request : UnaryRpcRequest}
    (h : execution.awaits net = some (peer, request)) :
    net.peer execution.site execution.request.cloudTargetName = some peer ∧
      request = { execution.request with cloudTargetName := [] } ∧
      execution.vehicleCalls net = [] := by
  unfold Execution.awaits at h
  unfold Execution.vehicleCalls
  rcases execution.calls_cases net with hcalls | ⟨_, _, _, hcalls⟩ | ⟨-, hcalls⟩
  · rw [hcalls] at h
    cases h
  · rw [hcalls] at h
    cases h
  · rw [hcalls] at h ⊢
    obtain ⟨found, hfound, hpair⟩ := Option.map_eq_some_iff.mp h
    obtain ⟨rfl, rfl⟩ := Prod.mk.inj hpair
    exact ⟨hfound, rfl, rfl⟩

/-- A request without a target name ends at the gateway that handles it. -/
theorem Execution.awaits_none {execution : Execution ι σ}
    (h : execution.request.cloudTargetName = []) : execution.awaits net = none := by
  unfold Execution.awaits
  rcases execution.calls_cases net with hcalls | ⟨_, _, _, hcalls⟩ | ⟨hname, -⟩
  · rw [hcalls]
  · rw [hcalls]
  · exact absurd h hname

theorem Execution.vehicleCalls_length (net : Network ι σ κ) (execution : Execution ι σ) :
    (execution.vehicleCalls net).length ≤ 1 := by
  have hcalls : (execution.reply net).calls.length ≤ 1 := by
    rcases execution.calls_cases net with hcalls | ⟨_, _, _, hcalls⟩ | ⟨-, hcalls⟩
    · simp [hcalls]
    · simp [hcalls]
    · simp [hcalls]
  exact (List.length_filter_le _ _).trans hcalls

/-! ### One call -/

def executions (events : List (CallEvent ι σ)) : List (Execution ι σ) :=
  events.filterMap fun
    | .executed execution => some execution
    | .answered _ => none

def answers (events : List (CallEvent ι σ)) : List UnaryAnswer :=
  events.filterMap fun
    | .executed _ => none
    | .answered answer => some answer

section

variable (net : Network ι σ κ) (site : ι) (request : UnaryRpcRequest)

/-- The handlers of a call: the one at the gateway it was sent to, and at most
one more, at the cloud target it names. -/
inductive Route : List (Execution ι σ) → Execution ι σ → Prop where
  | here (first : Execution ι σ) (atSite : first.site = site)
      (asSent : first.request = request) (ends : first.awaits net = none) : Route [first] first
  | there (first second : Execution ι σ) (atSite : first.site = site)
      (asSent : first.request = request)
      (forwarded : first.awaits net = some (second.site, second.request)) :
      Route [first, second] second

/-- How far a call can be after so many turns, and what has been seen of it. -/
inductive Progress : Nat → CallState ι → List (CallEvent ι σ) → Prop where
  | submitted : Progress 0 (.handling site request []) []
  | forwarded (first : Execution ι σ) (peer : ι) (sent : UnaryRpcRequest)
      (atSite : first.site = site) (asSent : first.request = request)
      (awaits : first.awaits net = some (peer, sent)) :
      Progress 1 (.handling peer sent [site]) [.executed first]
  | returning (turns : Nat) (all : List (Execution ι σ)) (last : Execution ι σ)
      (route : Route net site request all last) (blocked : List ι)
      (left : turns + blocked.length + 1 = 2 * all.length) :
      Progress turns (.returning (last.answer net) blocked) (all.map .executed)
  | answered (turns : Nat) (all : List (Execution ι σ)) (last : Execution ι σ)
      (route : Route net site request all last) :
      Progress turns .answered (all.map .executed ++ [.answered (last.answer net)])

end

variable {site : ι} {request : UnaryRpcRequest}

theorem Progress.turn {turns : Nat} {call : CallState ι} {events : List (CallEvent ι σ)}
    (h : Progress net site request turns call events) (gateways : ι → UnaryGateway σ)
    (answers : UnaryAnswers) :
    Progress net site request (turns + 1) (call.turn net gateways answers).1
      (events ++ (call.turn net gateways answers).2) := by
  cases h with
  | submitted =>
      unfold CallState.turn
      dsimp only
      split
      · rename_i peer sent hawaits
        exact .forwarded ⟨site, gateways site, request, answers⟩ peer sent rfl rfl hawaits
      · rename_i hawaits
        exact .returning 1 [⟨site, gateways site, request, answers⟩] _
          (.here _ rfl rfl hawaits) [] rfl
  | forwarded first peer sent atSite asSent awaits =>
      have hsent := (Execution.awaits_some awaits).2.1
      have hends : Execution.awaits net ⟨peer, gateways peer, sent, answers⟩ = none := by
        apply Execution.awaits_none
        rw [hsent]
      unfold CallState.turn
      dsimp only
      rw [hends]
      exact .returning 2 [first, ⟨peer, gateways peer, sent, answers⟩] _
        (.there first _ atSite asSent awaits) [site] rfl
  | returning _ all last route blocked left =>
      cases blocked with
      | nil => exact .answered (turns + 1) all last route
      | cons waiting blocked =>
          rw [CallState.turn, List.append_nil]
          apply Progress.returning (turns + 1) all last route blocked
          rw [List.length_cons] at left
          omega
  | answered _ all last route =>
      rw [CallState.turn, List.append_nil]
      exact .answered (turns + 1) all last route

@[simp] theorem executions_executed (all : List (Execution ι σ)) :
    executions (all.map .executed) = all := by
  induction all with
  | nil => rfl
  | cons execution rest ih => exact congrArg (execution :: ·) ih

@[simp] theorem answers_executed (all : List (Execution ι σ)) :
    answers (all.map .executed) = [] := by
  induction all with
  | nil => rfl
  | cons execution rest ih => exact ih

theorem executions_append (first second : List (CallEvent ι σ)) :
    executions (first ++ second) = executions first ++ executions second :=
  List.filterMap_append

theorem answers_append (first second : List (CallEvent ι σ)) :
    answers (first ++ second) = answers first ++ answers second :=
  List.filterMap_append

/-- A call sent to `site` runs at most one handler there and one at the gateway
behind its target, calls the vehicle at most once in all, and is answered at most
once, with what its last handler answers; four turns are enough for that. -/
structure OneHop (net : Network ι σ κ) (site : ι) (request : UnaryRpcRequest) (turns : Nat)
    (events : List (CallEvent ι σ)) : Prop where
  handlers : (executions events).length ≤ 2
  first : ∀ execution, (executions events)[0]? = some execution →
    execution.site = site ∧ execution.request = request
  second : ∀ execution, (executions events)[1]? = some execution →
    net.peer site request.cloudTargetName = some execution.site ∧
      execution.request = { request with cloudTargetName := [] }
  vehicle : ((executions events).flatMap (Execution.vehicleCalls net)).length ≤ 1
  answer : answers events = [] ∨ ∃ last, (executions events).getLast? = some last ∧
    answers events = [last.answer net]
  returns : 4 ≤ turns → answers events ≠ []

theorem Route.length_le {all : List (Execution ι σ)} {last : Execution ι σ}
    (h : Route net site request all last) : all.length ≤ 2 := by
  cases h with
  | here => simp
  | there => simp

/-- What the handlers of a route show of the call, whatever else is known of it. -/
theorem Route.oneHop {all : List (Execution ι σ)} {last : Execution ι σ}
    (h : Route net site request all last) {turns : Nat} {events : List (CallEvent ι σ)}
    (hexecutions : executions events = all)
    (hanswer : answers events = [] ∨ answers events = [last.answer net])
    (hreturns : 4 ≤ turns → answers events ≠ []) : OneHop net site request turns events := by
  have hlast : all.getLast? = some last := by cases h <;> rfl
  refine ⟨?_, ?_, ?_, ?_, ?_, hreturns⟩
  · rw [hexecutions]
    exact h.length_le
  · intro execution hfirst
    rw [hexecutions] at hfirst
    cases h with
    | here first atSite asSent ends =>
        cases hfirst
        exact ⟨atSite, asSent⟩
    | there first second atSite asSent forwarded =>
        cases hfirst
        exact ⟨atSite, asSent⟩
  · intro execution hsecond
    rw [hexecutions] at hsecond
    cases h with
    | here first atSite asSent ends => cases hsecond
    | there first second atSite asSent forwarded =>
        cases hsecond
        obtain ⟨hpeer, hsent, -⟩ := Execution.awaits_some forwarded
        rw [atSite, asSent] at hpeer
        rw [asSent] at hsent
        exact ⟨hpeer, hsent⟩
  · rw [hexecutions]
    cases h with
    | here first atSite asSent ends => simpa using last.vehicleCalls_length net
    | there first second atSite asSent forwarded =>
        obtain ⟨-, -, hnone⟩ := Execution.awaits_some forwarded
        simpa [hnone] using last.vehicleCalls_length net
  · rcases hanswer with hanswer | hanswer
    · exact .inl hanswer
    · exact .inr ⟨last, by rw [hexecutions, hlast], hanswer⟩

theorem Progress.oneHop {turns : Nat} {call : CallState ι} {events : List (CallEvent ι σ)}
    (h : Progress net site request turns call events) : OneHop net site request turns events := by
  cases h with
  | submitted =>
      refine ⟨by simp [executions], ?_, ?_, by simp [executions], .inl rfl, by omega⟩
      · intro execution hfirst
        cases hfirst
      · intro execution hsecond
        cases hsecond
  | forwarded first peer sent atSite asSent awaits =>
      refine ⟨by simp [executions], ?_, ?_, ?_, .inl rfl, by omega⟩
      · intro execution hfirst
        cases hfirst
        exact ⟨atSite, asSent⟩
      · intro execution hsecond
        cases hsecond
      · simpa [executions] using first.vehicleCalls_length net
  | returning _ all last route blocked left =>
      apply route.oneHop (executions_executed all) (.inl (answers_executed all))
      intro hturns
      have := route.length_le
      omega
  | answered _ all last route =>
      have hanswers : answers (all.map .executed ++ [.answered (last.answer net)]) =
          [last.answer net] := by
        rw [answers_append, answers_executed]
        rfl
      apply route.oneHop ?_ (.inr hanswers)
      · intro _
        rw [hanswers]
        exact List.cons_ne_nil _ _
      · rw [executions_append, executions_executed]
        exact List.append_nil all

/-! ### The network -/

/-- What a run shows of one call. -/
def callEvents (call : Nat) (log : List (Nat × CallEvent ι σ)) : List (CallEvent ι σ) :=
  log.filterMap fun entry => if entry.1 = call then some entry.2 else none

def NetworkInput.isTurn (call : Nat) : NetworkInput ι σ → Bool
  | .turn turned _ => turned == call
  | _ => false

def turnsOf (call : Nat) (inputs : List (NetworkInput ι σ)) : Nat :=
  inputs.countP (NetworkInput.isTurn call)

theorem turnsOf_turn (call turned : Nat) (answers : UnaryAnswers) :
    turnsOf call [(.turn turned answers : NetworkInput ι σ)] = if turned = call then 1 else 0 := by
  simp [turnsOf, NetworkInput.isTurn, List.countP_cons]

theorem turnsOf_cons (call : Nat) (input : NetworkInput ι σ) (rest : List (NetworkInput ι σ)) :
    turnsOf call (input :: rest) = turnsOf call [input] + turnsOf call rest := by
  simp only [turnsOf, List.countP_cons, List.countP_nil]
  omega

theorem callEvents_own (call : Nat) (events : List (CallEvent ι σ)) :
    callEvents call (events.map fun event => (call, event)) = events := by
  simp [callEvents]

theorem callEvents_other {call other : Nat} (h : other ≠ call) (events : List (CallEvent ι σ)) :
    callEvents call (events.map fun event => (other, event)) = [] := by
  simp [callEvents, h]

theorem callEvents_append (call : Nat) (first second : List (Nat × CallEvent ι σ)) :
    callEvents call (first ++ second) = callEvents call first ++ callEvents call second :=
  List.filterMap_append

variable [DecidableEq ι]

/-- No step but its own turns touches a call. -/
theorem step_progress {call : Nat} {turns : Nat} {events : List (CallEvent ι σ)}
    (state : NetworkState ι σ) (input : NetworkInput ι σ) {now : CallState ι}
    (hat : state.calls[call]? = some now)
    (h : Progress net site request turns now events) :
    ∃ next, (net.step state input).1.calls[call]? = some next ∧
      Progress net site request (turns + turnsOf call [input]) next
        (events ++ callEvents call (net.step state input).2) := by
  have hbound : call < state.calls.length := (List.getElem?_eq_some_iff.mp hat).1
  cases input with
  | submit other sent =>
      refine ⟨now, ?_, by simpa [Network.step, callEvents, turnsOf, NetworkInput.isTurn] using h⟩
      rw [Network.step, List.getElem?_append_left hbound, hat]
  | other other gateway =>
      refine ⟨now, ?_, by simpa [Network.step, callEvents, turnsOf, NetworkInput.isTurn] using h⟩
      rw [Network.step, hat]
  | turn turned answers =>
      by_cases hturned : turned = call
      · subst hturned
        refine ⟨(now.turn net state.gateways answers).1, ?_, ?_⟩
        · simp only [Network.step, hat]
          exact List.getElem?_set_self hbound
        · rw [turnsOf_turn, if_pos rfl]
          simp only [Network.step, hat, callEvents_own]
          exact h.turn state.gateways answers
      · rw [turnsOf_turn, if_neg hturned]
        cases hother : state.calls[turned]? with
        | none =>
            refine ⟨now, ?_, ?_⟩
            · simp [Network.step, hother, hat]
            · simpa [Network.step, hother, callEvents] using h
        | some found =>
            refine ⟨now, ?_, ?_⟩
            · simp only [Network.step, hother]
              rw [List.getElem?_set_ne hturned, hat]
            · simp only [Network.step, hother, callEvents_other hturned, List.append_nil,
                Nat.add_zero]
              exact h

theorem run_progress {call turns : Nat} {events : List (CallEvent ι σ)}
    (state : NetworkState ι σ) (inputs : List (NetworkInput ι σ)) {now : CallState ι}
    (hat : state.calls[call]? = some now)
    (h : Progress net site request turns now events) :
    ∃ next, Progress net site request (turns + turnsOf call inputs) next
      (events ++ callEvents call (Machine.run net.step state inputs).2) := by
  induction inputs generalizing state turns events now with
  | nil => exact ⟨now, by simpa [turnsOf, callEvents] using h⟩
  | cons input rest ih =>
      obtain ⟨next, hnext, hprogress⟩ := step_progress state input hat h
      obtain ⟨last, hlast⟩ := ih _ hnext hprogress
      refine ⟨last, ?_⟩
      rw [Machine.run_cons, callEvents_append, ← List.append_assoc, turnsOf_cons, ← Nat.add_assoc]
      exact hlast

/-- However the gateways forward to each other, and whatever happens between the
turns of a call, it makes at most one hop and comes back. -/
theorem forwarding_makes_one_hop (net : Network ι σ κ) (state : NetworkState ι σ) (site : ι)
    (request : UnaryRpcRequest) (inputs : List (NetworkInput ι σ)) :
    OneHop net site request (turnsOf state.calls.length inputs)
      (callEvents state.calls.length
        (Machine.run net.step (net.step state (.submit site request)).1 inputs).2) := by
  have hat : (net.step state (.submit site request)).1.calls[state.calls.length]? =
      some (.handling site request []) := by
    simp [Network.step]
  have hstart : Progress net site request 0 (.handling site request []) [] := .submitted
  obtain ⟨last, hlast⟩ :=
    run_progress (net.step state (.submit site request)).1 inputs hat hstart
  rw [Nat.zero_add, List.nil_append] at hlast
  exact hlast.oneHop

end SomeipGateway.Grpc
