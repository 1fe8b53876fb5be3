import SomeipGateway.Lib.Counter
import SomeipGateway.Sessions

/-! The inbound path of the D-Bus gateway over whole runs: the requests that
`emit_external_rpc` owes the sink, and the counters that count them. -/
namespace SomeipGateway.Dbus

open Lib

def Output.sunk : Output → Option Message
  | .sink msg => some msg
  | _ => none

/-- What the outbound sink receives. -/
def sinkLog (outputs : List Output) : List Message := outputs.filterMap Output.sunk

theorem sinkLog_eq_nil {outputs : List Output} (h : ∀ msg, .sink msg ∉ outputs) :
    sinkLog outputs = [] := by
  apply List.filterMap_eq_nil_iff.mpr
  intro out hout
  cases out with
  | sink msg => exact absurd hout (h msg)
  | emitSignal path interface member methodId count via => rfl
  | externalMessage serviceId methodId payload => rfl

section

variable (cls : MessageClass) (config : DbusConfig)

/-- The sink stays installed. -/
def KeepsSink (_ : DbusGateway) (call : Call) : Prop := call ≠ .setSomeipOutboundSink false

theorem onSomeipMessage_inbound (emits : Bool) (gw : DbusGateway) (msg : Message) :
    let after := (onSomeipMessage cls config emits gw msg).2.1
    after.base.stats.messagesExternalToSomeip = gw.base.stats.messagesExternalToSomeip ∧
      after.base.stats.bytesExternalToSomeip = gw.base.stats.bytesExternalToSomeip ∧
      after.outboundSink = gw.outboundSink := by
  unfold onSomeipMessage
  cases outboundRoute gw.base config.defaultSomeipInstanceId msg with
  | error result => exact ⟨rfl, rfl, rfl⟩
  | ok mapping =>
      dsimp only
      split_ifs <;> exact ⟨rfl, rfl, rfl⟩

theorem start_inbound (outcome : StartOutcome) (gw : DbusGateway) :
    let after := (start config outcome gw).2
    after.base.stats = gw.base.stats ∧ after.outboundSink = gw.outboundSink := by
  unfold start implStart
  split_ifs <;> exact ⟨rfl, rfl⟩

theorem step_outboundSink (gw : DbusGateway) (call : Call) (hsink : gw.outboundSink = true)
    (hkept : KeepsSink gw call) : (step cls config gw call).1.outboundSink = true := by
  cases call with
  | start outcome => exact (start_inbound config outcome gw).2.trans hsink
  | setSomeipOutboundSink installed =>
      cases installed with
      | true => rfl
      | false => exact absurd rfl hkept
  | someipMessage msg emits =>
      exact (onSomeipMessage_inbound cls config emits gw msg).2.2.trans hsink
  | emitExternalRpc serviceId instanceId methodId payload =>
      simp only [step, emitExternalRpc_eq]
      cases requestVia config gw serviceId instanceId with
      | none => exact hsink
      | some m => exact hsink
  | _ => exact hsink

/-- With a sink installed, a call hands it the request that the call builds. -/
theorem step_sinkLog (gw : DbusGateway) (call : Call) (hsink : gw.outboundSink = true) :
    sinkLog (step cls config gw call).2 = builtBy config gw call := by
  cases call with
  | someipMessage msg emits =>
      exact sinkLog_eq_nil (onSomeipMessage_frame cls config emits gw msg).2
  | emitExternalRpc serviceId instanceId methodId payload =>
      simp only [step, emitExternalRpc_eq, builtBy]
      cases requestVia config gw serviceId instanceId with
      | none => rfl
      | some m =>
          rw [if_pos hsink]
          cases gw.externalMessageCallback <;> rfl
  | _ => rfl

/-- The two inbound counters move by what the call builds. -/
theorem step_counters (gw : DbusGateway) (call : Call) :
    (step cls config gw call).1.base.stats.messagesExternalToSomeip =
        gw.base.stats.messagesExternalToSomeip +
          UInt64.ofNat ((builtBy config gw call).map fun msg => msg.payload.length).length ∧
      (step cls config gw call).1.base.stats.bytesExternalToSomeip =
        gw.base.stats.bytesExternalToSomeip +
          UInt64.ofNat ((builtBy config gw call).map fun msg => msg.payload.length).sum := by
  have hquiet {after : DbusGateway}
      (hmessages : after.base.stats.messagesExternalToSomeip =
        gw.base.stats.messagesExternalToSomeip)
      (hbytes : after.base.stats.bytesExternalToSomeip = gw.base.stats.bytesExternalToSomeip) :
      after.base.stats.messagesExternalToSomeip =
          gw.base.stats.messagesExternalToSomeip + UInt64.ofNat 0 ∧
        after.base.stats.bytesExternalToSomeip =
          gw.base.stats.bytesExternalToSomeip + UInt64.ofNat 0 :=
    ⟨hmessages.trans (UInt64.add_zero _).symm, hbytes.trans (UInt64.add_zero _).symm⟩
  cases call with
  | start outcome =>
      have hstats := (start_inbound config outcome gw).1
      exact hquiet (congrArg _ hstats) (congrArg _ hstats)
  | someipMessage msg emits =>
      obtain ⟨hmessages, hbytes, -⟩ := onSomeipMessage_inbound cls config emits gw msg
      exact hquiet hmessages hbytes
  | emitExternalRpc serviceId instanceId methodId payload =>
      simp only [step, emitExternalRpc_eq, builtBy]
      cases requestVia config gw serviceId instanceId with
      | none => exact hquiet rfl rfl
      | some m => exact ⟨rfl, rfl⟩
  | _ => exact hquiet rfl rfl

/-- A call that builds no request leaves all four pieces of bookkeeping alone. -/
theorem step_unchanged (gw : DbusGateway) (call : Call) (hnone : builtBy config gw call = []) :
    sinkLog (step cls config gw call).2 = [] ∧
      (step cls config gw call).1.nextSession = gw.nextSession ∧
      (step cls config gw call).1.base.stats.messagesExternalToSomeip =
        gw.base.stats.messagesExternalToSomeip ∧
      (step cls config gw call).1.base.stats.bytesExternalToSomeip =
        gw.base.stats.bytesExternalToSomeip := by
  obtain ⟨hmessages, hbytes⟩ := step_counters cls config gw call
  have hsession := step_nextSession cls config gw call
  rw [hnone] at hmessages hbytes hsession
  refine ⟨?_, ?_, hmessages.trans (UInt64.add_zero _), hbytes.trans (UInt64.add_zero _)⟩
  · apply sinkLog_eq_nil
    intro sent hsent
    have hbuilt := ((sink_mem_step cls config gw call sent).mp hsent).2
    rw [hnone] at hbuilt
    exact absurd hbuilt List.not_mem_nil
  · rw [← UInt16.toNat_inj]
    have hnow := (step cls config gw call).1.nextSession.toNat_lt
    have hbefore := gw.nextSession.toNat_lt
    unfold sessionCount at hsession
    rw [List.length_nil] at hsession
    omega

/-- A new gateway with an outbound sink. -/
def withSink (enabled udpTransport externalMessageCallback : Bool) : DbusGateway where
  enabled := enabled
  udpTransport := udpTransport
  externalMessageCallback := externalMessageCallback
  outboundSink := true

/-- For every run of a new gateway whose sink stays installed: the sink gets the
requests of the calls of `emit_external_rpc` that are made while running and find
an inbound mapping, in their order and nothing else; the counters count them; and
in every state any other call changes none of this. -/
theorem inbound_bookkeeping (enabled udpTransport externalMessageCallback : Bool)
    (calls : List Call) (hkept : .setSomeipOutboundSink false ∉ calls) :
    let first := withSink enabled udpTransport externalMessageCallback
    let last := Machine.run (step cls config) first calls
    sinkLog last.2 =
        (Machine.run (Machine.observe (step cls config) (builtBy config)) first calls).2 ∧
      Counter.Tally last.1.base.stats.messagesExternalToSomeip
        last.1.base.stats.bytesExternalToSomeip
        ((sinkLog last.2).map fun msg => msg.payload.length) ∧
      ∀ gw call, builtBy config gw call = [] →
        sinkLog (step cls config gw call).2 = [] ∧
          (step cls config gw call).1.nextSession = gw.nextSession ∧
          (step cls config gw call).1.base.stats.messagesExternalToSomeip =
            gw.base.stats.messagesExternalToSomeip ∧
          (step cls config gw call).1.base.stats.bytesExternalToSomeip =
            gw.base.stats.bytesExternalToSomeip := by
  intro first last
  have hsteps : Machine.Along (step cls config) KeepsSink first calls :=
    Machine.along_of_forall fun _ call hcall hbad => hkept (hbad ▸ hcall)
  have hlog : sinkLog last.2 =
      (Machine.run (Machine.observe (step cls config) (builtBy config)) first calls).2 :=
    Machine.run_see_along (step cls config) (builtBy config) Output.sunk
      (step_outboundSink cls config)
      (fun gw call hsink _ => step_sinkLog cls config gw call hsink) first calls rfl hsteps
  have htally := Machine.run_history (Machine.observe (step cls config) (builtBy config))
    (fun gw log => Counter.Tally gw.base.stats.messagesExternalToSomeip
      gw.base.stats.bytesExternalToSomeip (log.map fun msg => msg.payload.length))
    (fun gw log call h => by
      obtain ⟨hmessages, hbytes⟩ := step_counters cls config gw call
      unfold Machine.observe
      rw [hmessages, hbytes, List.map_append]
      exact h.append _)
    first [] calls Counter.Tally.nil
  rw [Machine.run_observe, List.nil_append, ← hlog] at htally
  exact ⟨hlog, htally, step_unchanged cls config⟩

end

/-- A door is called once before and once after the start: one request. -/
theorem inbound_bookkeeping_door :
    let calls : List Call :=
      [.addServiceMapping { someipServiceId := 0x4500, someipInstanceId := 0x0001 },
        .emitExternalRpc 0x4500 0x0001 0x0001 [7], .start {},
        .emitExternalRpc 0x4500 0x0009 0x0001 [1, 2]]
    let last := Machine.run (step .exact {}) (withSink true false false) calls
    sinkLog last.2 =
        [{ serviceId := 0x4500, methodId := 0x0001, clientId := 0x4200, sessionId := 1
           messageType := .request, payload := [1, 2] }] ∧
      last.1.base.stats.messagesExternalToSomeip = 1 ∧
      last.1.base.stats.bytesExternalToSomeip = 2 := by
  intro calls last
  obtain ⟨hlog, htally, -⟩ := inbound_bookkeeping .exact {} true false false calls (by simp [calls])
  exact ⟨hlog, htally.count_eq, htally.total_eq⟩

end SomeipGateway.Dbus
