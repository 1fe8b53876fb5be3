import SomeipGateway.Zenoh.Gateway

/-! What a Zenoh sample becomes: the ids come from its key, the message type from
the envelope where there is one, and a payload that is no envelope is forwarded as
it came. -/
namespace SomeipGateway.Zenoh

open Lib

/-! ### The message behind a key -/

/-- A CBOR envelope brings its own message type. -/
def envelopeType (encoding : ZenohPayloadEncoding) (payload : Bytes) (type : MessageType) :
    MessageType :=
  match encoding, decodePayload encoding payload {} with
  | .cbor, .ok (true, envelope) => envelope.messageType
  | _, _ => type

theorem zenohToSomeip_header {encoding : ZenohPayloadEncoding} {ext : ExternalMessage}
    {serviceId : UInt16} {type : MessageType} {msg : Message}
    (h : zenohToSomeip encoding ext serviceId type = .ok msg) :
    msg.serviceId = serviceId ∧ msg.methodId = ext.sourceMethodId ∧
      msg.messageType = envelopeType encoding ext.payload type := by
  cases encoding with
  | raw =>
      cases h
      exact ⟨rfl, rfl, rfl⟩
  | json =>
      simp only [zenohToSomeip, reduceCtorEq, ↓reduceIte] at h
      split at h
      · contradiction
      · cases h
        exact ⟨rfl, rfl, rfl⟩
      · cases h
        exact ⟨rfl, rfl, rfl⟩
  | cbor =>
      simp only [zenohToSomeip, envelopeType, reduceCtorEq, ↓reduceIte] at h ⊢
      split at h
      · contradiction
      · rename_i hdecode
        cases h
        simp [hdecode]
      · rename_i hdecode
        cases h
        simp [hdecode]

section

variable {σ κ : Type} (setup : Setup σ κ)

theorem routeSample_header {encoding : ZenohPayloadEncoding} {mappings : List ServiceMapping}
    {key : Text} {payload : Bytes} {mapping : ServiceMapping} {msg : Message}
    (h : routeSample setup encoding mappings key payload = some (mapping, .ok msg)) :
    let parsed := parseSomeipKey key setup.config.keyPrefix
    (parsed.valid = true ∧ parsed.isLiveliness = false ∧ parsed.isRpcPath = false) ∧
      msg.serviceId = parsed.serviceId ∧ msg.methodId = parsed.methodOrEventId ∧
      msg.messageType = envelopeType encoding payload .notification := by
  simp only [routeSample] at h
  split_ifs at h with hprefixed hevent
  split at h
  · contradiction
  · split_ifs at h with hforward
    obtain ⟨-, hmsg⟩ := Prod.mk.inj (Option.some.inj h)
    have hheader := zenohToSomeip_header hmsg
    simp only [Bool.or_eq_true, Bool.not_eq_true', not_or, Bool.not_eq_true,
      Bool.not_eq_false] at hevent
    exact ⟨⟨hevent.1.1, hevent.1.2, hevent.2⟩, hheader⟩

/-- Protection works on the payload: it leaves the header of a message alone. -/
def KeepsHeader (e2e : E2EProtection σ κ) : Prop :=
  ∀ state msg config,
    (e2e.protect state msg config).1.serviceId = msg.serviceId ∧
      (e2e.protect state msg config).1.methodId = msg.methodId ∧
      (e2e.protect state msg config).1.messageType = msg.messageType

theorem sendSomeipUdp_header (hprotect : KeepsHeader setup.e2e) (gw : ZenohGateway σ)
    (msg : Message) (mapping via : ServiceMapping) {sent : Message} {dest : Endpoint}
    (h : .sendMessage sent dest via ∈ (sendSomeipUdp setup gw msg mapping).2) :
    sent.serviceId = msg.serviceId ∧ sent.methodId = msg.methodId ∧
      sent.messageType = msg.messageType := by
  simp only [sendSomeipUdp] at h
  split_ifs at h
  · contradiction
  · simp only [List.mem_singleton, Output.sendMessage.injEq] at h
    rw [h.1]
    exact hprotect gw.e2e msg setup.config.e2eConfig
  · simp only [List.mem_singleton, Output.sendMessage.injEq] at h
    rw [h.1]
    exact ⟨rfl, rfl, rfl⟩

/-- Whatever a sample holds, what is sent for it has the ids of its key, an event
key; it is a notification, or what the CBOR envelope says. -/
theorem sample_sends_key_ids (hprotect : KeepsHeader setup.e2e) (gw : ZenohGateway σ)
    (key : Text) (payload : Bytes) {sent : Message} {dest : Endpoint} {via : ServiceMapping}
    (h : .sendMessage sent dest via ∈ (onZenohSample setup gw key payload).2) :
    let parsed := parseSomeipKey key setup.config.keyPrefix
    (parsed.valid = true ∧ parsed.isLiveliness = false ∧ parsed.isRpcPath = false) ∧
      sent.serviceId = parsed.serviceId ∧ sent.methodId = parsed.methodOrEventId ∧
      sent.messageType = envelopeType gw.encoding payload .notification := by
  rw [onZenohSample_eq] at h
  cases hroute : routeSample setup gw.encoding gw.base.serviceMappings key payload with
  | none => simp [hroute] at h
  | some routed =>
      obtain ⟨mapping, _ | msg⟩ := routed
      · simp [hroute] at h
      · rw [hroute] at h
        obtain ⟨hevent, hservice, hmethod, htype⟩ := routeSample_header setup hroute
        have hsent := sendSomeipUdp_header setup hprotect _ msg mapping via h
        rw [hsent.1, hsent.2.1, hsent.2.2]
        exact ⟨hevent, hservice, hmethod, htype⟩

end

def doorMapping : ServiceMapping where
  someipServiceId := 0x1234
  someipInstanceId := 0x0001
  someipEventGroupIds := [0x0001]

def encodedSetup (encoding : ZenohPayloadEncoding) : Setup Unit Unit :=
  { plainSetup with config := { payloadEncoding := encoding, e2eConfig := () } }

def doorGateway (encoding : ZenohPayloadEncoding) : ZenohGateway Unit :=
  (start (encodedSetup encoding) {} (fresh (encodedSetup encoding) [doorMapping] ())).2

def doorKey : Text := buildKeyExpr (Text.ascii "someip") 0x1234 0x0001 0x8001

def doorRequest : Message where
  serviceId := 0x1234
  methodId := 0x8001
  sessionId := 0x0001
  messageType := .request
  payload := [1]

def doorPeer : Endpoint where
  address := Text.ascii "127.0.0.1"
  port := 30501

theorem encodedSetup_keepsHeader (encoding : ZenohPayloadEncoding) :
    KeepsHeader (encodedSetup encoding).e2e := by
  intro state msg config
  exact ⟨rfl, rfl, rfl⟩

theorem door_request_sent :
    .sendMessage doorRequest doorPeer doorMapping ∈
      (onZenohSample (encodedSetup .cbor) (doorGateway .cbor) doorKey
        (buildCborEnvelope doorRequest)).2 := by
  decide

/-- A request comes out of an event key. -/
theorem event_key_sends_request :
    ∃ sent dest via, .sendMessage sent dest via ∈
        (onZenohSample (encodedSetup .cbor) (doorGateway .cbor) doorKey
          (buildCborEnvelope doorRequest)).2 ∧
      sent.messageType ≠ .notification ∧ sent.messageType ≠ .tpNotification :=
  ⟨doorRequest, doorPeer, doorMapping, door_request_sent, by decide, by decide⟩

theorem door_request_header :
    let parsed := parseSomeipKey doorKey (Text.ascii "someip")
    (parsed.valid = true ∧ parsed.isLiveliness = false ∧ parsed.isRpcPath = false) ∧
      doorRequest.serviceId = parsed.serviceId ∧ doorRequest.methodId = parsed.methodOrEventId ∧
      doorRequest.messageType =
        envelopeType .cbor (buildCborEnvelope doorRequest) .notification :=
  sample_sends_key_ids (encodedSetup .cbor) (encodedSetup_keepsHeader .cbor) (doorGateway .cbor)
    doorKey (buildCborEnvelope doorRequest) door_request_sent

/-! ### Payloads that are no envelope -/

section

variable {σ κ : Type} (setup : Setup σ κ)

/-- A sample that is translated, with a payload that `decode_payload` rejects. -/
def RejectsPayload (gw : ZenohGateway σ) : Input → Prop
  | .sample key payload =>
      (routeSample setup gw.encoding gw.base.serviceMappings key payload).isSome = true ∧
        ∃ envelope, decodePayload gw.encoding payload {} = .ok (false, envelope)
  | _ => False

def AcceptsPayload (gw : ZenohGateway σ) : Input → Prop
  | .sample _ payload => ∃ envelope, decodePayload gw.encoding payload {} = .ok (true, envelope)
  | _ => False

/-- A rejected payload is counted, once, and an accepted one is not. -/
def CountsRejection (gw : ZenohGateway σ) (input : Input) : Prop :=
  let before := gw.base.stats.translationErrors
  let after := (step setup gw input).1.base.stats.translationErrors
  (RejectsPayload setup gw input → after = before + 1) ∧
    (AcceptsPayload gw input → after = before)

/-- Samples are not counted at all: the translator keeps the verdict to itself. -/
theorem onZenohSample_translationErrors (gw : ZenohGateway σ) (key : Text) (payload : Bytes) :
    (onZenohSample setup gw key payload).1.base.stats.translationErrors =
      gw.base.stats.translationErrors := by
  rw [onZenohSample_eq]
  rcases routeSample setup gw.encoding gw.base.serviceMappings key payload with
    _ | ⟨mapping, _ | msg⟩
  · rfl
  · rfl
  · simp only [sendSomeipUdp]
    split
    · rfl
    · rfl

theorem countsRejection_iff (gw : ZenohGateway σ) (input : Input) :
    CountsRejection setup gw input ↔ ¬ RejectsPayload setup gw input := by
  have hnext (n : UInt64) : n ≠ n + 1 := by
    intro heq
    have hnat := congrArg UInt64.toNat heq
    have hone : (1 : UInt64).toNat = 1 := rfl
    rw [UInt64.toNat_add, hone] at hnat
    omega
  cases input with
  | sample key payload =>
      have hsame : (step setup gw (.sample key payload)).1.base.stats.translationErrors =
          gw.base.stats.translationErrors := onZenohSample_translationErrors setup gw key payload
      simp only [CountsRejection, hsame]
      constructor
      · intro h hrejects
        exact hnext _ (h.1 hrejects)
      · intro h
        exact ⟨fun hrejects => absurd hrejects h, fun _ => trivial⟩
  | _ => simp [CountsRejection, RejectsPayload, AcceptsPayload]

/-- The errors of the inbound path are counted in exactly the runs that have none. -/
theorem inbound_errors_counted_iff (gw : ZenohGateway σ) (inputs : List Input) :
    Machine.Along (step setup) (CountsRejection setup) gw inputs ↔
      Machine.Along (step setup) (fun gw input => ¬ RejectsPayload setup gw input) gw inputs :=
  Machine.along_congr (countsRejection_iff setup) gw inputs

end

/-- A text that is no JSON envelope is forwarded, and no error is counted. -/
theorem door_text_not_counted :
    ¬ Machine.Along (step (encodedSetup .json)) (CountsRejection (encodedSetup .json))
      (doorGateway .json) [.sample doorKey (Text.ascii "open")] := by
  rintro ⟨hcounts, -⟩
  have hrejects : RejectsPayload (encodedSetup .json) (doorGateway .json)
      (.sample doorKey (Text.ascii "open")) := ⟨by decide, {}, by rfl⟩
  have hcounted := hcounts.1 hrejects
  exact absurd hcounted (by decide)

end SomeipGateway.Zenoh
