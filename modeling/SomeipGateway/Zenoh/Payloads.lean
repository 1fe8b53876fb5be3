import SomeipGateway.Zenoh.Gateway

/-! JSON payloads that come from outside. The reader gives back what its own
encoder wrote; on other texts it ends too, but a number that does not fit an
`int` leaves it by an exception, and nothing above catches that. -/
namespace SomeipGateway.Zenoh

open Lib

/-- A text the array loop does not survive: separators and numbers up to 255, and
then a number beyond `INT_MAX`. -/
inductive Overflows : Text → Prop where
  | here {digits rest : Text} (hrun : DigitRun digits rest)
      (hlarge : 2147483647 < Text.decimalValue digits) : Overflows (digits ++ rest)
  | separator {c : UInt8} {rest : Text} (hc : (isSpace c || c == ','.toUInt8) = true)
      (h : Overflows rest) : Overflows (c :: rest)
  | byte {digits rest : Text} (hrun : DigitRun digits rest)
      (hsmall : Text.decimalValue digits ≤ 255) (h : Overflows rest) :
      Overflows (digits ++ rest)

/-- The array behind the first marker of a payload is such a text. -/
def PayloadOverflows (wire : Bytes) : Prop :=
  ∃ pos, Text.find payloadMarker wire = some pos ∧ Overflows (wire.drop (pos + 11))

/-! ### The loop -/

theorem decodeJsonBody_ends (text : Text) (bytes : Bytes) :
    ∃ result, Loop.Returns decodeJsonBody (text, bytes) result := by
  obtain ⟨result, hresult⟩ := Option.isSome_iff_exists.mp
    (Loop.run_isSome decodeJsonBody (fun state => state.1.length) decodeJsonBody_lowers
      (text.length + 1) (text, bytes) (Nat.lt_succ_self _))
  exact ⟨result, text.length + 1, hresult⟩

theorem Overflows.returns {text : Text} (h : Overflows text) (bytes : Bytes) :
    Loop.Returns decodeJsonBody (text, bytes) (.error ⟨⟩) := by
  induction h generalizing bytes with
  | here hrun hlarge => exact .done ((decodeJsonBody_run hrun bytes).1 hlarge)
  | @separator c rest hc later ih =>
      have hclose : c ≠ ']'.toUInt8 := by
        rintro rfl
        exact absurd hc (by decide)
      refine .next ?_ (ih bytes)
      simp only [decodeJsonBody, if_neg hclose, if_pos hc]
  | byte hrun hsmall rest ih => exact .next ((decodeJsonBody_run hrun bytes).2 hsmall) (ih _)

theorem digitRun_takeWhile {c : UInt8} (rest : Text) (hc : Text.isDigit c = true) :
    DigitRun ((c :: rest).takeWhile Text.isDigit) ((c :: rest).dropWhile Text.isDigit) where
  nonempty := by simp [hc]
  digits := List.all_eq_true.mp List.all_takeWhile
  complete d hd := by
    have hstop := List.head?_dropWhile_not Text.isDigit (c :: rest)
    rw [Option.mem_def.mp hd] at hstop
    simpa using hstop

/-- What a round can do, for the case that the loop ends in an exception. -/
theorem overflows_of_returns {text : Text} {bytes : Bytes} {e : OutOfRange}
    (h : Loop.Returns decodeJsonBody (text, bytes) (.error e)) : Overflows text := by
  obtain ⟨fuel, hfuel⟩ := h
  induction fuel generalizing text bytes with
  | zero => cases hfuel
  | succ fuel ih =>
      cases text with
      | nil => cases hfuel
      | cons c rest =>
          have htext := List.takeWhile_append_dropWhile (p := Text.isDigit) (l := c :: rest)
          simp only [Loop.run, decodeJsonBody] at hfuel
          by_cases hclose : c = ']'.toUInt8
          · rw [if_pos hclose] at hfuel
            cases hfuel
          rw [if_neg hclose] at hfuel
          by_cases hskip : (isSpace c || c == ','.toUInt8) = true
          · rw [if_pos hskip] at hfuel
            exact .separator hskip (ih hfuel)
          rw [if_neg hskip] at hfuel
          by_cases hdigit : Text.isDigit c = true
          · simp only [hdigit, Bool.not_true, Bool.false_eq_true, ↓reduceIte, stoi] at hfuel
            have hrun := digitRun_takeWhile rest hdigit
            rw [← htext]
            generalize (c :: rest).takeWhile Text.isDigit = digits at *
            generalize (c :: rest).dropWhile Text.isDigit = later at *
            by_cases hlarge : 2147483647 < Text.decimalValue digits
            · exact .here hrun hlarge
            · rw [if_pos (Nat.le_of_not_lt hlarge)] at hfuel
              by_cases hsmall : Text.decimalValue digits ≤ 255
              · simp only [Nat.not_lt.mpr hsmall, ↓reduceIte] at hfuel
                exact .byte hrun hsmall (ih hfuel)
              · simp [Nat.lt_of_not_le hsmall] at hfuel
          · simp [hdigit] at hfuel

/-- The loop is left by an exception exactly on those texts. -/
theorem decodeJsonArray_error_iff (text : Text) :
    decodeJsonArray text = .error ⟨⟩ ↔ Overflows text := by
  constructor
  · intro herror
    obtain ⟨result, hresult⟩ := decodeJsonBody_ends text []
    have hsame := decodeJsonArray_eq hresult
    rw [herror] at hsame
    exact overflows_of_returns (hsame ▸ hresult)
  · intro hoverflow
    exact decodeJsonArray_eq (hoverflow.returns [])

theorem decodeJsonEnvelope_of_survived {wire : Bytes} (h : ¬ PayloadOverflows wire)
    (outMsg : Message) :
    ∃ answer outMsg', decodeJsonEnvelope wire outMsg = .ok (answer, outMsg') := by
  unfold decodeJsonEnvelope
  cases hfind : Text.find payloadMarker wire with
  | none => exact ⟨false, outMsg, rfl⟩
  | some pos =>
      dsimp only
      cases harray : decodeJsonArray (wire.drop (pos + 11)) with
      | error e => exact absurd ⟨pos, hfind, (decodeJsonArray_error_iff _).mp harray⟩ h
      | ok bytes =>
          cases bytes with
          | none => exact ⟨false, outMsg, rfl⟩
          | some bytes => exact ⟨true, { outMsg with payload := bytes }, rfl⟩

theorem decodeJsonEnvelope_of_overflow {wire : Bytes} (h : PayloadOverflows wire)
    (outMsg : Message) : decodeJsonEnvelope wire outMsg = .error ⟨⟩ := by
  obtain ⟨pos, hfind, hoverflow⟩ := h
  simp only [decodeJsonEnvelope, hfind, (decodeJsonArray_error_iff _).mpr hoverflow]

/-! ### The callbacks -/

section

variable {σ κ : Type} (setup : Setup σ κ)

theorem decodePayload_of_survived {wire : Bytes} (h : ¬ PayloadOverflows wire)
    (encoding : ZenohPayloadEncoding) (outMsg : Message) :
    ∃ answer outMsg', decodePayload encoding wire outMsg = .ok (answer, outMsg') := by
  cases encoding with
  | raw => exact ⟨true, { outMsg with payload := wire }, rfl⟩
  | json => exact decodeJsonEnvelope_of_survived h outMsg
  | cbor => exact ⟨_, _, rfl⟩

theorem overflows_of_zenohToSomeip_error {ext : ExternalMessage} {wire : Bytes} {serviceId : UInt16}
    {encoding : ZenohPayloadEncoding} {type : MessageType} {e : OutOfRange}
    (herror : zenohToSomeip encoding ext serviceId type = .error e)
    (hpayload : ext.payload = wire) : PayloadOverflows wire := by
  by_contra h
  obtain ⟨answer, envelope, hdecode⟩ := decodePayload_of_survived h encoding {}
  unfold zenohToSomeip at herror
  rw [hpayload, hdecode] at herror
  by_cases hraw : encoding = .raw
  · rw [if_pos hraw] at herror
    cases herror
  · rw [if_neg hraw] at herror
    cases answer with
    | true => cases herror
    | false => cases herror

theorem sendSomeipUdp_threw (gw : ZenohGateway σ) (msg : Message) (mapping : ServiceMapping) :
    .threw ∉ (sendSomeipUdp setup gw msg mapping).2 := by
  unfold sendSomeipUdp
  split_ifs <;> simp

theorem onZenohSample_of_survived {wire : Bytes} (h : ¬ PayloadOverflows wire)
    (gw : ZenohGateway σ) (key : Text) : .threw ∉ (onZenohSample setup gw key wire).2 := by
  unfold onZenohSample
  dsimp only
  split_ifs
  · exact List.not_mem_nil
  · exact List.not_mem_nil
  · split
    · exact List.not_mem_nil
    · split_ifs
      · exact List.not_mem_nil
      · split
        · exact absurd (overflows_of_zenohToSomeip_error ‹_› rfl) h
        · exact sendSomeipUdp_threw setup _ _ _

theorem handleRpcQuery_of_survived {wire : Bytes} (h : ¬ PayloadOverflows wire)
    (gw : ZenohGateway σ) (queryable : Queryable) (key : Text) (answer : RpcSyncResult) :
    .threw ∉ handleRpcQuery setup gw queryable key (some wire) answer := by
  obtain ⟨decoded, envelope, hdecode⟩ := decodePayload_of_survived h gw.encoding {}
  unfold handleRpcQuery
  simp only [Option.getD_some, hdecode]
  split_ifs <;> simp

/-- The reader ends with an answer, and nothing the payload causes leaves the two
callbacks as an exception. -/
structure Survived (gw : ZenohGateway σ) (wire : Bytes) : Prop where
  ends : ∀ pos, Text.find payloadMarker wire = some pos →
    ∃ result, Loop.Returns decodeJsonBody (wire.drop (pos + 11), []) (.ok result)
  answers : ∀ outMsg, ∃ answer outMsg', decodeJsonEnvelope wire outMsg = .ok (answer, outMsg')
  sample : ∀ key, .threw ∉ (onZenohSample setup gw key wire).2
  query : ∀ queryable key answer,
    .threw ∉ handleRpcQuery setup gw queryable key (some wire) answer

/-- For every gateway and every payload: it is survived exactly if the array
behind its first marker does not run into a number beyond `INT_MAX`. -/
theorem payload_survived_iff (gw : ZenohGateway σ) (wire : Bytes) :
    Survived setup gw wire ↔ ¬ PayloadOverflows wire := by
  constructor
  · intro hsurvived hoverflow
    obtain ⟨answer, outMsg, hanswer⟩ := hsurvived.answers {}
    rw [decodeJsonEnvelope_of_overflow hoverflow] at hanswer
    cases hanswer
  · intro h
    refine ⟨?_, decodeJsonEnvelope_of_survived h, onZenohSample_of_survived setup h gw,
      handleRpcQuery_of_survived setup h gw⟩
    intro pos hfind
    obtain ⟨result, hresult⟩ := decodeJsonBody_ends (wire.drop (pos + 11)) []
    cases result with
    | error e => exact absurd ⟨pos, hfind, overflows_of_returns hresult⟩ h
    | ok bytes => exact ⟨bytes, hresult⟩

end

/-- Eleven nines where a byte is expected; in a query they end the gateway's
thread of the Zenoh session. -/
theorem nines_not_survived :
    ¬ ∀ wire, Survived plainSetup { encoding := .json, e2e := () } wire := by
  intro h
  have hquery := (h (Text.ascii "\x7b\"payload\":[99999999999]\x7d")).query
    { key := [], serviceId := 0x1234, methodId := 0x0001, via := {} } [] ⟨true, []⟩
  exact absurd hquery (by decide)

/-! ### The encoder's own texts -/

/-- Whatever the message, its payload comes back out of the JSON made of it. -/
theorem json_payload_recovered (msg outMsg : Message) :
    ∃ decoded, decodePayload .json (payloadToJson msg) outMsg = .ok (true, decoded) ∧
      decoded.payload = msg.payload :=
  ⟨_, decodeJsonEnvelope_payloadToJson msg outMsg, rfl⟩

end SomeipGateway.Zenoh
