import SomeipGateway.Common.JsonEnvelope
import SomeipGateway.Zenoh.Samples

/-! What a querier can tell from a reply: `handle_rpc_query` answers a failed call
with the response to a call that returned nothing. -/
namespace SomeipGateway.Zenoh

open Lib

theorem length_appendCborByteString (data : Bytes) :
    data.length < (appendCborByteString [] data).length := by
  simp only [appendCborByteString, appendCborString, List.length_append]
  split_ifs
  · simp only [List.nil_append, List.length_cons, List.length_nil]
    omega
  · simp only [List.nil_append, List.length_cons, List.length_nil]
    omega
  · simp only [List.nil_append, List.length_cons, List.length_nil]
    omega

/-- In every encoding a message without payload looks different from one that has
bytes to carry. -/
theorem encodePayload_eq_empty_iff (encoding : ZenohPayloadEncoding) (msg : Message) :
    encodePayload encoding { msg with payload := [] } = encodePayload encoding msg ↔
      msg.payload = [] := by
  constructor
  · intro h
    cases encoding with
    | raw => exact h.symm
    | json => exact (congrArg Message.payload (payloadToJson_injective h)).symm
    | cbor =>
        simp only [encodePayload, buildCborEnvelope_eq, List.cons.injEq, List.append_cancel_left_eq,
          true_and] at h
        have hlength := length_appendCborByteString msg.payload
        have hempty : (appendCborByteString [] []).length = 1 := rfl
        rw [← h, hempty] at hlength
        exact List.length_eq_zero_iff.mp (by omega)
  · intro h
    rw [← h]

section

variable {σ κ : Type} (setup : Setup σ κ)

def response (queryable : Queryable) (payload : Bytes) : Message where
  serviceId := queryable.serviceId
  methodId := queryable.methodId
  clientId := setup.config.rpcClientId
  sessionId := 0x0001
  messageType := .response
  payload := payload

theorem reply_mem_handleRpcQuery {gw : ZenohGateway σ} (hclient : gw.rpcClient.isSome = true)
    {payload : Option Bytes} {verdict : Bool × Message}
    (hdecode : decodePayload gw.encoding (payload.getD []) {} = .ok verdict)
    (queryable : Queryable) (key : Text) (answer : RpcSyncResult) (bytes : Bytes) :
    .reply key bytes ∈ handleRpcQuery setup gw queryable key payload answer ↔
      bytes = encodePayload gw.encoding
        (response setup queryable (if answer.success then answer.returnValues else [])) := by
  have hsome : gw.rpcClient.isNone = false := by
    rw [← Option.not_isSome, hclient]
    rfl
  simp [handleRpcQuery, hsome, hdecode, response]

/-- The replies to a failed and to an answered call are told apart. -/
def RepliesDiffer (gw : ZenohGateway σ) (queryable : Queryable) (key : Text)
    (payload : Option Bytes) (failed answered : RpcSyncResult) : Prop :=
  ∀ left right,
    .reply key left ∈ handleRpcQuery setup gw queryable key payload failed →
    .reply key right ∈ handleRpcQuery setup gw queryable key payload answered → left ≠ right

/-- Only the bytes of an answer tell it from a failure. -/
theorem failed_call_reported_iff {gw : ZenohGateway σ} (hclient : gw.rpcClient.isSome = true)
    (queryable : Queryable) (key : Text) (payload : Option Bytes)
    {failed answered : RpcSyncResult} (hfailed : failed.success = false)
    (hanswered : answered.success = true) :
    RepliesDiffer setup gw queryable key payload failed answered ↔
      answered.returnValues ≠ [] ∨
        ∃ error, decodePayload gw.encoding (payload.getD []) {} = .error error := by
  cases hdecode : decodePayload gw.encoding (payload.getD []) {} with
  | error error =>
      -- nothing is called and nothing is replied
      have hdiffer : RepliesDiffer setup gw queryable key payload failed answered := by
        intro left right hleft
        simp [handleRpcQuery, hdecode] at hleft
      exact ⟨fun _ => .inr ⟨error, rfl⟩, fun _ => hdiffer⟩
  | ok verdict =>
      have hsame := encodePayload_eq_empty_iff gw.encoding
        (response setup queryable answered.returnValues)
      simp only [RepliesDiffer, reply_mem_handleRpcQuery setup hclient hdecode, hfailed, hanswered,
        Bool.false_eq_true, ↓reduceIte, reduceCtorEq, exists_false, or_false]
      constructor
      · intro hdiffer
        exact mt hsame.mpr (hdiffer _ _ rfl rfl)
      · intro hvalues left right hleft hright
        rw [hleft, hright]
        exact mt hsame.mp hvalues

end

/-! ### A lock that does not answer -/

def lockQueryable : Queryable where
  key := buildRpcKey (Text.ascii "someip") 0x1234 0x0001 0x0007
  serviceId := 0x1234
  methodId := 0x0007
  via := doorMapping

theorem lock_failure_reported :
    RepliesDiffer (encodedSetup .json) (doorGateway .json) lockQueryable lockQueryable.key none
      { success := false, returnValues := [] } { success := true, returnValues := [1] } :=
  (failed_call_reported_iff (encodedSetup .json) (by decide) lockQueryable lockQueryable.key none
    rfl rfl).mpr (.inl (by decide))

/-- A call that timed out reads like a call that returned nothing. -/
theorem lock_failure_reads_as_success :
    ¬ RepliesDiffer (encodedSetup .json) (doorGateway .json) lockQueryable lockQueryable.key none
      { success := false, returnValues := [] } { success := true, returnValues := [] } := by
  intro hdiffer
  let resp := response (encodedSetup .json) lockQueryable []
  exact hdiffer (encodePayload .json resp) (encodePayload .json resp) (by decide) (by decide) rfl

end SomeipGateway.Zenoh
