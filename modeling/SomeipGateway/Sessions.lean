import SomeipGateway.Dbus.Gateway
import SomeipGateway.Lib.Counter
import SomeipGateway.Lib.Machine
import SomeipGateway.Ros2.Gateway

/-! Session ids. Both gateways that build requests draw the session id from a
16-bit counter that starts at 1 and wraps to 0, the id that stands for no
session handling. -/
namespace SomeipGateway

open Lib

def sessionNumber (msg : Message) : Nat := msg.sessionId.toNat

/-- The number of values of a session counter. -/
def sessionCount : Nat := 65536

theorem toNat_session_succ (session : UInt16) :
    (session + 1).toNat = (session.toNat + 1) % sessionCount := by
  rw [UInt16.toNat_add]
  rfl

theorem sessionNumber_eq_zero {msg : Message} : sessionNumber msg = 0 ↔ msg.sessionId = 0 := by
  unfold sessionNumber
  rw [← UInt16.toNat_inj]
  rfl

/-- No two of 65535 consecutive requests share a session id. -/
def DistinctInWindows (requests : List Message) : Prop :=
  ∀ skip, (((requests.map sessionNumber).drop skip).take 65535).Nodup

/-! ### D-Bus -/

namespace Dbus

section

variable (cls : MessageClass) (config : DbusConfig)

/-- The mapping that lets a call build a request. -/
def requestVia (gw : DbusGateway) (serviceId instanceId : UInt16) : Option ServiceMapping :=
  if !gw.base.running then none
  else
    ((findMappingForService gw.base.serviceMappings serviceId instanceId).or
      (findMappingForService gw.base.serviceMappings serviceId
        config.defaultSomeipInstanceId)).filter shouldForwardToSomeip

/-- The request a call builds, and so draws a session id for. -/
def builtBy (gw : DbusGateway) : Call → List Message
  | .emitExternalRpc serviceId instanceId methodId payload =>
      match requestVia config gw serviceId instanceId with
      | none => []
      | some _ =>
          [{ serviceId, methodId, clientId := config.rpcClientId, sessionId := gw.nextSession
             messageType := .request, payload }]
  | _ => []

theorem emitExternalRpc_eq (gw : DbusGateway) (serviceId instanceId methodId : UInt16)
    (payload : Bytes) :
    (emitExternalRpc config gw serviceId instanceId methodId payload).2 =
      match requestVia config gw serviceId instanceId with
      | none => (gw, [])
      | some _ =>
          ({ gw with
              nextSession := gw.nextSession + 1
              base := gw.base.recordExternalToSomeip payload.length },
            (if gw.outboundSink then
              [.sink
                { serviceId, methodId, clientId := config.rpcClientId, sessionId := gw.nextSession
                  messageType := .request, payload }] else []) ++
              (if gw.externalMessageCallback then
                [.externalMessage serviceId methodId payload] else [])) := by
  unfold emitExternalRpc requestVia
  cases hrun : gw.base.running with
  | false => rfl
  | true =>
      simp only [Bool.not_true, Bool.false_eq_true, ↓reduceIte]
      cases findMappingForService gw.base.serviceMappings serviceId instanceId with
      | some m =>
          cases hforward : shouldForwardToSomeip m with
          | false => simp [hforward, Option.filter]
          | true => simp [hforward, Option.filter]
      | none =>
          cases findMappingForService gw.base.serviceMappings serviceId
              config.defaultSomeipInstanceId with
          | none => rfl
          | some m =>
              cases hforward : shouldForwardToSomeip m with
              | false => simp [hforward, Option.filter]
              | true => simp [hforward, Option.filter]

/-- An outbound message touches neither the session counter nor the sink. -/
theorem onSomeipMessage_frame (emits : Bool) (gw : DbusGateway) (msg : Message) :
    (onSomeipMessage cls config emits gw msg).2.1.nextSession = gw.nextSession ∧
      ∀ out, .sink out ∉ (onSomeipMessage cls config emits gw msg).2.2 := by
  unfold onSomeipMessage
  cases outboundRoute gw.base config.defaultSomeipInstanceId msg with
  | error result => exact ⟨rfl, fun out => List.not_mem_nil⟩
  | ok mapping =>
      dsimp only
      split
      · exact ⟨rfl, fun out => List.not_mem_nil⟩
      · split
        · exact ⟨rfl, fun out => List.not_mem_nil⟩
        · refine ⟨rfl, fun out h => ?_⟩
          dsimp only at h
          split at h
          · cases List.mem_singleton.mp h
          · exact List.not_mem_nil h

theorem start_nextSession (outcome : StartOutcome) (gw : DbusGateway) :
    (start config outcome gw).2.nextSession = gw.nextSession := by
  unfold start implStart
  split_ifs
  · rfl
  · rfl
  · rfl
  · rfl

theorem step_nextSession (gw : DbusGateway) (call : Call) :
    (step cls config gw call).1.nextSession.toNat % sessionCount =
      (gw.nextSession.toNat + (builtBy config gw call).length) % sessionCount := by
  cases call with
  | emitExternalRpc serviceId instanceId methodId payload =>
      simp only [step, emitExternalRpc_eq, builtBy]
      cases requestVia config gw serviceId instanceId with
      | none => rfl
      | some m =>
          dsimp only
          rw [toNat_session_succ, Nat.mod_mod]
          rfl
  | start outcome => exact congrArg (·.toNat % sessionCount) (start_nextSession config outcome gw)
  | someipMessage msg emits =>
      exact congrArg (·.toNat % sessionCount) (onSomeipMessage_frame cls config emits gw msg).1
  | _ => rfl

/-- Requests and the session counter move in step. -/
theorem step_draws :
    Counter.Draws (Machine.observe (step cls config) (builtBy config)) sessionCount
      (fun gw => gw.nextSession.toNat) sessionNumber := by
  constructor
  · intro gw call
    unfold Machine.observe
    cases call with
    | emitExternalRpc serviceId instanceId methodId payload =>
        simp only [builtBy]
        cases requestVia config gw serviceId instanceId with
        | none => rfl
        | some m =>
            have hrange : gw.nextSession.toNat % sessionCount = gw.nextSession.toNat :=
              Nat.mod_eq_of_lt gw.nextSession.toNat_lt
            simp [Counter.draws, sessionNumber, hrange]
    | _ => rfl
  · intro gw call
    exact step_nextSession cls config gw call

theorem sink_mem_step (gw : DbusGateway) (call : Call) (out : Message) :
    .sink out ∈ (step cls config gw call).2 ↔
      gw.outboundSink = true ∧ out ∈ builtBy config gw call := by
  cases call with
  | emitExternalRpc serviceId instanceId methodId payload =>
      simp only [step, emitExternalRpc_eq, builtBy]
      cases requestVia config gw serviceId instanceId with
      | none => simp
      | some m =>
          cases gw.outboundSink <;> cases gw.externalMessageCallback <;> simp
  | someipMessage msg emits =>
      have hframe := (onSomeipMessage_frame cls config emits gw msg).2 out
      simp only [step, builtBy, List.not_mem_nil, and_false, iff_false]
      exact hframe
  | _ => simp [step, builtBy]

/-- The requests built in a run of a new gateway, in their order. -/
def builtRequests (calls : List Call) : List Message :=
  (Machine.run (Machine.observe (step cls config) (builtBy config)) {} calls).2

/-- The gateway after these calls on a new one. -/
def after (calls : List Call) : DbusGateway := (Machine.run (step cls config) {} calls).1

theorem builtRequests_distinct (calls : List Call) :
    DistinctInWindows (builtRequests cls config calls) := by
  intro skip
  unfold builtRequests
  rw [(step_draws cls config).run_ids]
  exact Counter.window_nodup _ _ skip (by decide)

theorem after_nextSession (calls : List Call) :
    (after cls config calls).nextSession.toNat =
      (1 + (builtRequests cls config calls).length) % sessionCount := by
  have hnext := (step_draws cls config).run_next {} calls
  rw [Machine.run_observe] at hnext
  rw [← Nat.mod_eq_of_lt (after cls config calls).nextSession.toNat_lt]
  exact hnext

/-- The call hands a request to the sink, in the state in which it is made. -/
def HandsOver (gw : DbusGateway) : Call → Prop
  | .emitExternalRpc serviceId instanceId _ _ =>
      gw.outboundSink = true ∧ (requestVia config gw serviceId instanceId).isSome = true
  | _ => False

theorem builtBy_sessionId {gw : DbusGateway} {call : Call} {out : Message}
    (h : out ∈ builtBy config gw call) : out.sessionId = gw.nextSession := by
  cases call with
  | emitExternalRpc serviceId instanceId methodId payload =>
      simp only [builtBy] at h
      split at h
      · cases h
      · rw [List.mem_singleton.mp h]
  | _ => cases h

theorem handsOver_iff (gw : DbusGateway) (call : Call) :
    HandsOver config gw call ↔ ∃ out, .sink out ∈ (step cls config gw call).2 := by
  simp only [sink_mem_step, exists_and_left]
  cases call with
  | emitExternalRpc serviceId instanceId methodId payload =>
      simp only [HandsOver, builtBy]
      cases requestVia config gw serviceId instanceId with
      | none => simp
      | some m => simp
  | _ => simp [HandsOver, builtBy]

/-- The sink never receives session id 0 exactly when no request it is handed is
the 65536th, 131072nd and so on that the gateway has built. -/
theorem sink_sessionId_ne_zero_iff (calls : List Call) :
    (∀ out, .sink out ∈ (Machine.run (step cls config) {} calls).2 → out.sessionId ≠ 0) ↔
      ∀ before call rest, calls = before ++ call :: rest →
        HandsOver config (after cls config before) call →
        ¬ 65536 ∣ (builtRequests cls config before).length + 1 := by
  have hzero (before : List Call) : (after cls config before).nextSession = 0 ↔
      65536 ∣ (builtRequests cls config before).length + 1 := by
    rw [← UInt16.toNat_inj, after_nextSession, Nat.add_comm, Nat.dvd_iff_mod_eq_zero]
    rfl
  constructor
  · intro h before call rest hcalls hhands hdvd
    obtain ⟨out, hout⟩ := (handsOver_iff cls config _ call).mp hhands
    apply h out (Machine.mem_run.mpr ⟨before, call, rest, hcalls, hout⟩)
    rw [builtBy_sessionId config ((sink_mem_step cls config _ call out).mp hout).2]
    exact (hzero before).mpr hdvd
  · intro h out hout
    obtain ⟨before, call, rest, hcalls, hstep⟩ := Machine.mem_run.mp hout
    have hhands := (handsOver_iff cls config _ call).mpr ⟨out, hstep⟩
    rw [builtBy_sessionId config ((sink_mem_step cls config _ call out).mp hstep).2]
    intro hsession
    exact h before call rest hcalls hhands ((hzero before).mp hsession)

/-- Calling the same method over and over: each call builds a request and leaves
the gateway ready for the next one. -/
theorem run_replicate_emitExternalRpc (serviceId instanceId methodId : UInt16) (payload : Bytes)
    (count : Nat) (gw : DbusGateway)
    (hvia : (requestVia config gw serviceId instanceId).isSome = true)
    (hsink : gw.outboundSink = true) :
    let calls := List.replicate count (Call.emitExternalRpc serviceId instanceId methodId payload)
    (Machine.run (Machine.observe (step cls config) (builtBy config)) gw calls).2.length = count ∧
      HandsOver config (Machine.run (step cls config) gw calls).1
        (.emitExternalRpc serviceId instanceId methodId payload) := by
  induction count generalizing gw with
  | zero => exact ⟨rfl, hsink, hvia⟩
  | succ count ih =>
      obtain ⟨m, hm⟩ := Option.isSome_iff_exists.mp hvia
      let next : DbusGateway :=
        { gw with
          nextSession := gw.nextSession + 1
          base := gw.base.recordExternalToSomeip payload.length }
      have hstep : (step cls config gw
          (.emitExternalRpc serviceId instanceId methodId payload)).1 = next := by
        simp only [step, emitExternalRpc_eq, hm]
        rfl
      obtain ⟨hlength, hhands⟩ := ih next hvia hsink
      simp only [List.replicate_succ, Machine.run_cons, List.length_append]
      constructor
      · rw [show (Machine.observe (step cls config) (builtBy config) gw
          (.emitExternalRpc serviceId instanceId methodId payload)).1 = next from hstep, hlength]
        simp only [Machine.observe, builtBy, hm, List.length_singleton]
        omega
      · rw [hstep]
        exact hhands

end

/-- A door service is called 65536 times through an installed sink. -/
def doorCalls : List Call :=
  [.setSomeipOutboundSink true,
    .addServiceMapping { someipServiceId := 0x4500, someipInstanceId := 0x0001 }, .start {}]

theorem door_session_zero (count : Nat) (hcount : 65536 ∣ count + 1) :
    ¬ ∀ out, .sink out ∈ (Machine.run (step .exact {}) {}
        (doorCalls ++ List.replicate (count + 1) (.emitExternalRpc 0x4500 0x0001 0x0001 []))).2 →
      out.sessionId ≠ 0 := by
  intro h
  obtain ⟨hlength, hhands⟩ := run_replicate_emitExternalRpc .exact {} 0x4500 0x0001 0x0001 [] count
    (after .exact {} doorCalls) rfl rfl
  rw [List.replicate_succ', ← List.append_assoc] at h
  apply (sink_sessionId_ne_zero_iff .exact {} _).mp h _ _ _ rfl
  · rw [after, Machine.run_append]
    exact hhands
  · rw [builtRequests, Machine.run_append, List.length_append, Machine.run_observe]
    rw [show (Machine.run (step .exact {}) {} doorCalls).1 = after .exact {} doorCalls from rfl,
      hlength]
    rw [show (Machine.run (Machine.observe (step .exact {}) (builtBy {})) {} doorCalls).2.length = 0
      from rfl, Nat.zero_add]
    exact hcount

theorem door_session_wraps :
    ¬ ∀ out, .sink out ∈ (Machine.run (step .exact {}) {}
        (doorCalls ++ List.replicate 65536 (.emitExternalRpc 0x4500 0x0001 0x0001 []))).2 →
      out.sessionId ≠ 0 :=
  door_session_zero 65535 ⟨1, rfl⟩

end Dbus

/-! ### ROS 2 -/

namespace Ros2

section

variable {ν σ κ : Type} [DecidableEq ν]

def builtIn (effects : List Effect) : List Message :=
  effects.filterMap fun
    | .published _ => none
    | .issued request => some request.built

/-- The requests built by a call in this state of the process. -/
def builtBy (setups : ν → Setup σ κ) (process : Process ν σ) (input : ν × Call) : List Message :=
  builtIn (processStep setups process input).2

theorem ownCall_builtIn (setup : Setup σ κ) (gw : Ros2Gateway σ) (c : Call) :
    builtIn (ownCall setup gw c).2 = [] := by
  cases c with
  | someipMessage msg creates =>
      simp only [ownCall, builtIn, List.filterMap_map]
      exact List.filterMap_eq_nil_iff.mpr fun _ _ => rfl
  | _ => rfl

theorem call_draws (setup : Setup σ κ) (gw : Ros2Gateway σ) (session : UInt16) (c : Call) :
    (builtIn (call setup gw session c).2.2).map sessionNumber =
        Counter.draws sessionCount session.toNat (builtIn (call setup gw session c).2.2).length ∧
      (call setup gw session c).2.1.toNat % sessionCount =
        (session.toNat + (builtIn (call setup gw session c).2.2).length) % sessionCount := by
  have hown (c : Call) (heq : (call setup gw session c).2 = (session, (ownCall setup gw c).2)) :
      (builtIn (call setup gw session c).2.2).map sessionNumber =
        Counter.draws sessionCount session.toNat (builtIn (call setup gw session c).2.2).length ∧
      (call setup gw session c).2.1.toNat % sessionCount =
        (session.toNat + (builtIn (call setup gw session c).2.2).length) % sessionCount := by
    rw [heq, ownCall_builtIn]
    exact ⟨rfl, rfl⟩
  cases c with
  | injectRos2Message topic payload =>
      simp only [call, injectRos2Message]
      cases inboundRoute gw.base topic with
      | error result => exact ⟨rfl, rfl⟩
      | ok mapping =>
          have hrange : session.toNat % sessionCount = session.toNat :=
            Nat.mod_eq_of_lt session.toNat_lt
          constructor
          · simp [builtIn, Counter.draws, sessionNumber, hrange]
          · simp only [builtIn, List.map_cons, List.map_nil]
            rw [toNat_session_succ, Nat.mod_mod]
            rfl
  | _ => exact hown _ rfl

theorem processStep_draws (setups : ν → Setup σ κ) :
    Counter.Draws (Machine.observe (processStep setups) (builtBy setups)) sessionCount
      (fun process => process.session.toNat) sessionNumber := by
  constructor
  · intro process input
    exact (call_draws (setups input.1) (process.gateways input.1) process.session input.2).1
  · intro process input
    exact (call_draws (setups input.1) (process.gateways input.1) process.session input.2).2

/-- The requests built in a run of a process, in their order. -/
def builtRequests (setups : ν → Setup σ κ) (gateways : ν → Ros2Gateway σ)
    (inputs : List (ν × Call)) : List Message :=
  (Machine.run (Machine.observe (processStep setups) (builtBy setups)) { gateways } inputs).2

theorem builtRequests_ids (setups : ν → Setup σ κ) (gateways : ν → Ros2Gateway σ)
    (inputs : List (ν × Call)) :
    (builtRequests setups gateways inputs).map sessionNumber =
      Counter.draws sessionCount 1 (builtRequests setups gateways inputs).length :=
  (processStep_draws setups).run_ids { gateways } inputs

theorem builtRequests_distinct (setups : ν → Setup σ κ) (gateways : ν → Ros2Gateway σ)
    (inputs : List (ν × Call)) : DistinctInWindows (builtRequests setups gateways inputs) := by
  intro skip
  rw [builtRequests_ids]
  exact Counter.window_nodup _ _ skip (by decide)

theorem builtRequests_ne_zero_iff (setups : ν → Setup σ κ) (gateways : ν → Ros2Gateway σ)
    (inputs : List (ν × Call)) :
    (∀ req ∈ builtRequests setups gateways inputs, req.sessionId ≠ 0) ↔
      (builtRequests setups gateways inputs).length < 65536 := by
  rw [show (65536 : Nat) = sessionCount from rfl,
    ← Counter.zero_notMem_draws_one (by decide), ← builtRequests_ids, List.mem_map]
  simp only [sessionNumber_eq_zero, not_exists, not_and, ne_eq]

end

end Ros2

/-! ### Both gateways -/

/-- Session ids do not repeat within 65535 requests. They avoid 0 as long as, on
D-Bus, no request handed to the sink is one of every 65536 built, and, on ROS 2,
all gateways of the process together build fewer than 65536 requests. -/
theorem session_ids_usable_iff {ν σ κ : Type} [DecidableEq ν] (cls : MessageClass)
    (config : Dbus.DbusConfig) (calls : List Dbus.Call) (setups : ν → Ros2.Setup σ κ)
    (gateways : ν → Ros2.Ros2Gateway σ) (inputs : List (ν × Ros2.Call)) :
    (DistinctInWindows (Dbus.builtRequests cls config calls) ∧
      ((∀ out, .sink out ∈ (Machine.run (Dbus.step cls config) {} calls).2 → out.sessionId ≠ 0) ↔
        ∀ before call rest, calls = before ++ call :: rest →
          Dbus.HandsOver config (Dbus.after cls config before) call →
          ¬ 65536 ∣ (Dbus.builtRequests cls config before).length + 1)) ∧
    (DistinctInWindows (Ros2.builtRequests setups gateways inputs) ∧
      ((∀ req ∈ Ros2.builtRequests setups gateways inputs, req.sessionId ≠ 0) ↔
        (Ros2.builtRequests setups gateways inputs).length < 65536)) := by
  constructor
  · exact ⟨Dbus.builtRequests_distinct cls config calls,
      Dbus.sink_sessionId_ne_zero_iff cls config calls⟩
  · exact ⟨Ros2.builtRequests_distinct setups gateways inputs,
      Ros2.builtRequests_ne_zero_iff setups gateways inputs⟩

end SomeipGateway
