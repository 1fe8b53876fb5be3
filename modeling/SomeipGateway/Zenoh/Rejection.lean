import SomeipGateway.Zenoh.Gateway

/-! What a datagram that fails E2E validation can change. The cached sender is
written before the verdict, so a rejected datagram is without influence as long
as it does not move the destination of later samples. -/
namespace SomeipGateway.Zenoh

open Lib

section

variable {σ κ : Type} (setup : Setup σ κ)

/-- The input is a datagram that E2E validation rejects in this state. -/
def rejected (gw : ZenohGateway σ) : Input → Bool
  | .datagram (some msg) _ =>
      (setup.e2e.validate gw.e2e msg setup.config.e2eConfig).1 != .success
  | _ => false

/-- A rejected datagram selects the destination that is selected already. -/
def KeepsDestination (gw : ZenohGateway σ) : Input → Prop
  | .datagram message sender =>
      rejected setup gw (.datagram message sender) = true →
        destination setup.config sender = destination setup.config gw.lastSender
  | _ => True

/-- `E2EProtection::validate` leaves its state alone when it rejects. -/
def RejectsSilently : Prop :=
  ∀ state msg, (setup.e2e.validate state msg setup.config.e2eConfig).1 ≠ .success →
    (setup.e2e.validate state msg setup.config.e2eConfig).2 = state

def ZenohGateway.withSender (gw : ZenohGateway σ) (sender : Endpoint) : ZenohGateway σ :=
  { gw with lastSender := sender }

/-- Two gateways that differ in nothing but the cached sender, and send alike. -/
def SendAlike (full less : ZenohGateway σ) : Prop :=
  less = full.withSender less.lastSender ∧
    destination setup.config full.lastSender = destination setup.config less.lastSender

@[simp] theorem withSender_base (gw : ZenohGateway σ) (sender : Endpoint) :
    (gw.withSender sender).base = gw.base := rfl

@[simp] theorem withSender_udp (gw : ZenohGateway σ) (sender : Endpoint) :
    (gw.withSender sender).udp = gw.udp := rfl

theorem publishToZenoh_withSender (gw : ZenohGateway σ) (sender : Endpoint) (msg : Message)
    (mapping : ServiceMapping) :
    publishToZenoh setup (gw.withSender sender) msg mapping = publishToZenoh setup gw msg mapping :=
  rfl

theorem onSomeipMessage_withSender (gw : ZenohGateway σ) (sender : Endpoint) (msg : Message) :
    (onSomeipMessage setup (gw.withSender sender) msg).2 =
      ((onSomeipMessage setup gw msg).2.1.withSender sender,
        (onSomeipMessage setup gw msg).2.2) := by
  simp only [onSomeipMessage, withSender_base, publishToZenoh_withSender]
  split
  · rfl
  · split_ifs <;> rfl

theorem onSomeipMessage_lastSender (gw : ZenohGateway σ) (msg : Message) :
    (onSomeipMessage setup gw msg).2.1.lastSender = gw.lastSender := by
  simp only [onSomeipMessage]
  split
  · rfl
  · split_ifs <;> rfl

theorem start_withSender (outcome : StartOutcome) (gw : ZenohGateway σ) (sender : Endpoint) :
    (start setup outcome (gw.withSender sender)).2 =
      (start setup outcome gw).2.withSender sender := by
  simp only [start, withSender_base]
  split_ifs <;> rfl

theorem start_lastSender (outcome : StartOutcome) (gw : ZenohGateway σ) :
    (start setup outcome gw).2.lastSender = gw.lastSender := by
  simp only [start]
  split_ifs <;> rfl

theorem stop_withSender (gw : ZenohGateway σ) (sender : Endpoint) :
    (stop (gw.withSender sender)).2 = (stop gw).2.withSender sender := by
  cases hrun : gw.base.running with
  | false => simp [stop, hrun]
  | true =>
      simp only [stop, withSender_base, hrun]
      rfl

theorem stop_lastSender (gw : ZenohGateway σ) : (stop gw).2.lastSender = gw.lastSender := by
  simp only [stop]
  split_ifs <;> rfl

theorem sendSomeipUdp_withSender (gw : ZenohGateway σ) (sender : Endpoint) (msg : Message)
    (mapping : ServiceMapping)
    (h : destination setup.config gw.lastSender = destination setup.config sender) :
    sendSomeipUdp setup (gw.withSender sender) msg mapping =
      ((sendSomeipUdp setup gw msg mapping).1.withSender sender,
        (sendSomeipUdp setup gw msg mapping).2) := by
  cases hudp : gw.udp with
  | none => simp [sendSomeipUdp, hudp]
  | some udp =>
      simp only [sendSomeipUdp, withSender_udp, hudp, h]
      rfl

theorem sendSomeipUdp_lastSender (gw : ZenohGateway σ) (msg : Message)
    (mapping : ServiceMapping) :
    (sendSomeipUdp setup gw msg mapping).1.lastSender = gw.lastSender := by
  simp only [sendSomeipUdp]
  split_ifs <;> rfl

theorem onZenohSample_withSender (gw : ZenohGateway σ) (sender : Endpoint) (key : Text)
    (payload : Bytes)
    (h : destination setup.config gw.lastSender = destination setup.config sender) :
    onZenohSample setup (gw.withSender sender) key payload =
      ((onZenohSample setup gw key payload).1.withSender sender,
        (onZenohSample setup gw key payload).2) := by
  rw [onZenohSample_eq, onZenohSample_eq]
  rw [show (gw.withSender sender).encoding = gw.encoding from rfl, withSender_base]
  rcases routeSample setup gw.encoding gw.base.serviceMappings key payload with
    _ | ⟨mapping, _ | msg⟩
  · rfl
  · rfl
  · exact sendSomeipUdp_withSender setup
      { gw with base := gw.base.recordExternalToSomeip payload.length } sender msg mapping h

theorem onZenohSample_lastSender (gw : ZenohGateway σ) (key : Text) (payload : Bytes) :
    (onZenohSample setup gw key payload).1.lastSender = gw.lastSender := by
  rw [onZenohSample_eq]
  rcases routeSample setup gw.encoding gw.base.serviceMappings key payload with
    _ | ⟨mapping, _ | msg⟩
  · rfl
  · rfl
  · exact sendSomeipUdp_lastSender setup _ msg mapping

/-- An accepted datagram overwrites the cached sender, so it levels the states. -/
theorem onMessageReceived_withSender (gw : ZenohGateway σ) (old : Endpoint) (msg : Message)
    (sender : Endpoint) :
    onMessageReceived setup (gw.withSender old) (some msg) sender =
      onMessageReceived setup gw (some msg) sender := rfl

theorem SendAlike.of_withSender {full : ZenohGateway σ} {sender : Endpoint}
    (h : destination setup.config full.lastSender = destination setup.config sender) :
    SendAlike setup full (full.withSender sender) :=
  ⟨rfl, h⟩

/-- Any input that is not a rejected datagram acts alike on gateways that send alike. -/
theorem step_agrees (full less : ZenohGateway σ) (input : Input)
    (h : SendAlike setup full less) (_hsilent : rejected setup full input = false) :
    (step setup full input).2 = (step setup less input).2 ∧
      SendAlike setup (step setup full input).1 (step setup less input).1 := by
  obtain ⟨hless, hdest⟩ := h
  generalize less.lastSender = sender at hless hdest
  subst hless
  cases input with
  | start outcome =>
      simp only [step, start_withSender]
      exact ⟨trivial, .of_withSender setup (by rw [start_lastSender, hdest])⟩
  | stop =>
      simp only [step, stop_withSender]
      exact ⟨trivial, .of_withSender setup (by rw [stop_lastSender, hdest])⟩
  | addServiceMapping mapping => exact ⟨rfl, .of_withSender setup hdest⟩
  | datagram message from' =>
      cases message with
      | none => exact ⟨rfl, .of_withSender setup hdest⟩
      | some msg =>
          simp only [step, onMessageReceived_withSender]
          exact ⟨trivial, rfl, rfl⟩
  | someipMessage msg =>
      simp only [step, onSomeipMessage_withSender]
      exact ⟨trivial, .of_withSender setup (by rw [onSomeipMessage_lastSender, hdest])⟩
  | rpcServerCall methodId clientId sessionId params => exact ⟨rfl, .of_withSender setup hdest⟩
  | notification n => exact ⟨rfl, .of_withSender setup hdest⟩
  | sample key payload =>
      simp only [step, onZenohSample_withSender setup full sender key payload hdest]
      exact ⟨trivial, .of_withSender setup (by rw [onZenohSample_lastSender, hdest])⟩
  | livelinessSample key putOrDelete => exact ⟨rfl, .of_withSender setup hdest⟩
  | query queryable key payload answer => exact ⟨rfl, .of_withSender setup hdest⟩

/-- A rejected datagram emits nothing and moves nothing but the cached sender. -/
theorem step_rejected (he2e : setup.config.enableE2eValidation = true)
    (hvalidate : RejectsSilently setup) (gw : ZenohGateway σ) (message : Option Message)
    (sender : Endpoint) (h : rejected setup gw (.datagram message sender) = true) :
    step setup gw (.datagram message sender) = (gw.withSender sender, []) := by
  cases message with
  | none => simp [rejected] at h
  | some msg =>
      have hverdict : (setup.e2e.validate gw.e2e msg setup.config.e2eConfig).1 ≠ .success := by
        simpa [rejected] using h
      have hstate := hvalidate gw.e2e msg hverdict
      simp only [step, onMessageReceived, he2e, ↓reduceIte, hverdict, ne_eq, not_false_eq_true,
        hstate]
      rfl

theorem step_skips (he2e : setup.config.enableE2eValidation = true)
    (hvalidate : RejectsSilently setup) (full less : ZenohGateway σ) (input : Input)
    (h : SendAlike setup full less) (hkeeps : KeepsDestination setup full input)
    (hsilent : rejected setup full input = true) :
    (step setup full input).2 = [] ∧ SendAlike setup (step setup full input).1 less := by
  cases input with
  | datagram message sender =>
      rw [step_rejected setup he2e hvalidate full message sender hsilent]
      obtain ⟨hless, hdest⟩ := h
      refine ⟨rfl, ?_, ?_⟩
      · rw [hless]
        rfl
      · rw [← hdest]
        exact hkeeps hsilent
  | _ => simp [rejected] at hsilent

/-- In a run in which every rejected datagram comes from an endpoint that selects
the destination in force, deleting the rejected datagrams changes neither the
sequence of outputs nor the statistics. -/
theorem rejected_datagrams_have_no_influence (he2e : setup.config.enableE2eValidation = true)
    (hvalidate : RejectsSilently setup) (gw : ZenohGateway σ) (inputs : List Input)
    (hkeeps : Machine.Along (step setup) (KeepsDestination setup) gw inputs) :
    let kept := Machine.erase (step setup) (rejected setup) gw inputs
    (Machine.run (step setup) gw inputs).2 = (Machine.run (step setup) gw kept).2 ∧
      (Machine.run (step setup) gw inputs).1.base.stats =
        (Machine.run (step setup) gw kept).1.base.stats := by
  have halike : SendAlike setup gw gw := ⟨rfl, rfl⟩
  obtain ⟨houtputs, hstate, -⟩ := Machine.run_erase (step setup) (rejected setup)
    (KeepsDestination setup) (SendAlike setup) (step_skips setup he2e hvalidate)
    (step_agrees setup) gw gw inputs halike hkeeps
  refine ⟨houtputs, ?_⟩
  rw [hstate]
  rfl

end

/-! ### A rejected datagram from elsewhere -/

def lampMapping : ServiceMapping where
  someipServiceId := 0x1234
  someipInstanceId := 0x0001
  someipEventGroupIds := [0x0001]
  externalIdentifier := Text.ascii "lamp"

def guardedSetup : Setup Unit Unit where
  config := { enableE2eValidation := true, e2eConfig := () }
  cls := .exact
  wire := .bigEndian
  e2e :=
    { validate := fun state msg _ => (if msg.payload.isEmpty then .other 1 else .success, state)
      protect := fun state msg _ => (msg, state) }

def guardedGateway : ZenohGateway Unit :=
  (start guardedSetup {} (fresh guardedSetup [lampMapping] ())).2

def unprotectedThenSample (sender : Endpoint) : List Input :=
  [.datagram (some { serviceId := 0x1234 }) sender,
    .sample (buildKeyExpr (Text.ascii "someip") 0x1234 0x0001 0x8001) [1]]

theorem guardedSetup_rejectsSilently : RejectsSilently guardedSetup := by
  intro state msg _
  rfl

theorem rejected_from_peer_has_no_influence :
    let peer : Endpoint := { address := Text.ascii "127.0.0.1", port := 30501 }
    let inputs := unprotectedThenSample peer
    let kept := Machine.erase (step guardedSetup) (rejected guardedSetup) guardedGateway inputs
    kept.length = 1 ∧
      (Machine.run (step guardedSetup) guardedGateway inputs).2 =
        (Machine.run (step guardedSetup) guardedGateway kept).2 ∧
      (Machine.run (step guardedSetup) guardedGateway inputs).1.base.stats =
        (Machine.run (step guardedSetup) guardedGateway kept).1.base.stats :=
  ⟨by decide, rejected_datagrams_have_no_influence guardedSetup rfl guardedSetup_rejectsSilently
    guardedGateway _ ⟨fun _ => rfl, trivial, trivial⟩⟩

theorem rejected_datagram_redirects :
    let stranger : Endpoint := { address := Text.ascii "10.0.0.66", port := 4444 }
    let inputs := unprotectedThenSample stranger
    guardedSetup.config.enableE2eValidation = true ∧ RejectsSilently guardedSetup ∧
      ¬ ((Machine.run (step guardedSetup) guardedGateway inputs).2 =
          (Machine.run (step guardedSetup) guardedGateway
            (Machine.erase (step guardedSetup) (rejected guardedSetup) guardedGateway inputs)).2 ∧
        (Machine.run (step guardedSetup) guardedGateway inputs).1.base.stats =
          (Machine.run (step guardedSetup) guardedGateway
            (Machine.erase (step guardedSetup) (rejected guardedSetup) guardedGateway
              inputs)).1.base.stats) := by
  refine ⟨rfl, guardedSetup_rejectsSilently, ?_⟩
  rintro ⟨houtputs, -⟩
  exact absurd houtputs (by decide)

end SomeipGateway.Zenoh
