import SomeipGateway.Common.Translator
import SomeipGateway.Lib.Loop

/-! Reading the payload array back out of the JSON envelope. -/
namespace SomeipGateway.Zenoh

open Lib

/-- `std::out_of_range`, the only exception the translators can raise. -/
structure OutOfRange where
deriving DecidableEq

/-- `std::isspace` in the C locale. -/
def isSpace (c : UInt8) : Bool :=
  c == ' '.toUInt8 || (0x09 ≤ c && c ≤ 0x0D)

def stoi (digits : Text) : Except OutOfRange Nat :=
  if Text.decimalValue digits ≤ 2147483647 then .ok (Text.decimalValue digits)
  else .error ⟨⟩

/-- How the array loop ends: with the bytes, with `return false`, or thrown out. -/
abbrev JsonArrayEnd := Except OutOfRange (Option Bytes)

/-- One round of the array loop, on the unread rest of the text. -/
def decodeJsonBody : Text × Bytes → (Text × Bytes) ⊕ JsonArrayEnd
  | ([], bytes) => .inr (.ok (some bytes))
  | (c :: rest, bytes) =>
      if c = ']'.toUInt8 then .inr (.ok (some bytes))
      else if isSpace c || c == ','.toUInt8 then .inl (rest, bytes)
      else if !Text.isDigit c then .inr (.ok none)
      else
        match stoi ((c :: rest).takeWhile Text.isDigit) with
        | .error e => .inr (.error e)
        | .ok v =>
            if v > 255 then .inr (.ok none)
            else .inl ((c :: rest).dropWhile Text.isDigit, bytes ++ [UInt8.ofNat v])

def payloadMarker : Text := Text.ascii "\"payload\":["

/-- The array loop; every round consumes a character, so the fuel suffices. -/
def decodeJsonArray (text : Text) : JsonArrayEnd :=
  (Loop.run decodeJsonBody (text.length + 1) (text, [])).getD (.ok none)

def decodeJsonEnvelope (wire : Bytes) (outMsg : Message) : Except OutOfRange (Bool × Message) :=
  match Text.find payloadMarker wire with
  | none => .ok (false, outMsg)
  | some pos =>
      match decodeJsonArray (wire.drop (pos + 11)) with
      | .error e => .error e
      | .ok none => .ok (false, outMsg)
      | .ok (some bytes) => .ok (true, { outMsg with payload := bytes })

/-! ### Finding the array -/

private theorem quote_not_mem_numeral (value : Nat) :
    '"'.toUInt8 ∉ Text.numeral 10 value := by
  intro h
  exact absurd (Text.isDigit_of_mem_numeral h) (by decide)

/-- A numeric member in front of the array does not look like it. -/
theorem find_jsonMember {name : String} (hname : Text.avoids '"'.toUInt8 'p'.toUInt8
    (Text.ascii name) = true) (value : Nat) (rest : Text) :
    Text.find payloadMarker (jsonMember name value ++ rest) =
      (Text.find payloadMarker rest).map (· + (jsonMember name value).length) := by
  have hcomma : '"'.toUInt8 ∉ Text.ascii "," := by decide
  have hmarker : Text.ascii "\"payload\":[" =
      '"'.toUInt8 :: 'p'.toUInt8 :: Text.ascii "ayload\":[" := rfl
  rw [jsonMember, List.append_assoc, List.append_assoc, payloadMarker, hmarker,
    Text.find_append_of_avoids _ _ _ _ _ hname,
    Text.find_append_of_head _ _ _ _ (quote_not_mem_numeral value),
    Text.find_append_of_head _ _ _ _ hcomma, Option.map_map, Option.map_map]
  congr 1
  funext k
  simp only [Function.comp_def, List.length_append]
  omega

def jsonHeader (msg : Message) : Text :=
  Text.ascii "\x7b" ++
    (jsonMember "\"service_id\":" msg.serviceId.toNat ++
    (jsonMember "\"method_id\":" msg.methodId.toNat ++
    (jsonMember "\"client_id\":" msg.clientId.toNat ++
    (jsonMember "\"session_id\":" msg.sessionId.toNat ++
    (jsonMember "\"message_type\":" msg.messageType.byte.toNat ++
    jsonMember "\"return_code\":" msg.returnCode.byte.toNat)))))

theorem payloadToJson_eq (msg : Message) :
    payloadToJson msg =
      jsonHeader msg ++ (payloadMarker ++ (jsonBytes msg.payload ++ Text.ascii "]\x7d")) := by
  simp only [payloadToJson, jsonHeader, payloadMarker, List.append_assoc]

theorem find_payloadToJson (msg : Message) :
    Text.find payloadMarker (payloadToJson msg) = some (jsonHeader msg).length := by
  have hopen : '"'.toUInt8 ∉ Text.ascii "\x7b" := by decide
  rw [payloadToJson_eq, jsonHeader]
  simp only [List.append_assoc]
  rw [show payloadMarker = '"'.toUInt8 :: Text.ascii "payload\":[" from rfl,
    Text.find_append_of_head _ _ _ _ hopen,
    show '"'.toUInt8 :: Text.ascii "payload\":[" = payloadMarker from rfl,
    find_jsonMember (by decide), find_jsonMember (by decide), find_jsonMember (by decide),
    find_jsonMember (by decide), find_jsonMember (by decide), find_jsonMember (by decide),
    Text.find_self_append]
  simp only [Option.map_some, List.length_append]
  congr 1
  omega

/-! ### Reading the array -/

theorem decodeJsonBody_lowers (state next : Text × Bytes)
    (h : decodeJsonBody state = .inl next) : next.1.length < state.1.length := by
  obtain ⟨text, bytes⟩ := state
  cases text with
  | nil => simp [decodeJsonBody] at h
  | cons c rest =>
      simp only [decodeJsonBody] at h
      split_ifs at h with hclose hskip hdigit
      · cases h
        simp
      · split at h
        · contradiction
        · split_ifs at h
          cases h
          have hc : Text.isDigit c = true := by simpa using hdigit
          have hle := (List.dropWhile_sublist Text.isDigit (l := rest)).length_le
          simp only [List.dropWhile_cons, hc, ↓reduceIte, List.length_cons]
          omega

theorem decodeJsonArray_eq {text : Text} {result : JsonArrayEnd}
    (h : Loop.Returns decodeJsonBody (text, []) result) : decodeJsonArray text = result := by
  have hrun := Loop.run_eq_of_returns decodeJsonBody (fun state => state.1.length)
    decodeJsonBody_lowers (Nat.lt_succ_self text.length) h
  simp [decodeJsonArray, hrun]

private theorem not_special_of_isDigit (c : UInt8) (h : Text.isDigit c = true) :
    c ≠ ']'.toUInt8 ∧ (isSpace c || c == ','.toUInt8) = false := by
  have hrange : 48 ≤ c.toNat ∧ c.toNat ≤ 57 := by
    simp only [Text.isDigit, UInt8.le_iff_toNat_le, Bool.and_eq_true, decide_eq_true_eq] at h
    exact h
  have hne (d : UInt8) (hd : d.toNat < 48 ∨ 57 < d.toNat) : c ≠ d := by
    rintro rfl
    omega
  have hcontrol : ¬ c ≤ 0x0D := by
    rw [UInt8.le_iff_toNat_le, show (0x0D : UInt8).toNat = 13 from rfl]
    omega
  exact ⟨hne _ (by decide), by simp [isSpace, hne ' '.toUInt8 (by decide),
    hne ','.toUInt8 (by decide), hcontrol]⟩

/-- A run of digits is complete where the text ends or goes on with something else. -/
structure DigitRun (digits rest : Text) : Prop where
  nonempty : digits ≠ []
  digits : ∀ c ∈ digits, Text.isDigit c = true
  complete : ∀ c ∈ rest.head?, Text.isDigit c = false

/-- A round on a run of digits is decided by the number they make. -/
theorem decodeJsonBody_run {digits rest : Text} (h : DigitRun digits rest) (bytes : Bytes) :
    (2147483647 < Text.decimalValue digits →
      decodeJsonBody (digits ++ rest, bytes) = .inr (.error ⟨⟩)) ∧
    (Text.decimalValue digits ≤ 255 →
      decodeJsonBody (digits ++ rest, bytes) =
        .inl (rest, bytes ++ [UInt8.ofNat (Text.decimalValue digits)])) := by
  have htake : (digits ++ rest).takeWhile Text.isDigit = digits := by
    rw [List.takeWhile_append_of_pos h.digits]
    cases rest with
    | nil => simp
    | cons c rest => simp [h.complete c rfl]
  have hdrop : (digits ++ rest).dropWhile Text.isDigit = rest := by
    rw [List.dropWhile_append_of_pos h.digits]
    cases rest with
    | nil => rfl
    | cons c rest => simp [h.complete c rfl]
  obtain ⟨c, tail, hcons⟩ := List.exists_cons_of_ne_nil h.nonempty
  have hc : Text.isDigit c = true := h.digits c (by simp [hcons])
  obtain ⟨hclose, hskip⟩ := not_special_of_isDigit c hc
  rw [hcons, List.cons_append] at htake hdrop ⊢
  rw [← hcons] at htake ⊢
  simp only [decodeJsonBody, if_neg hclose, hskip, hc, htake, hdrop, stoi]
  constructor
  · intro hlarge
    simp [Nat.not_le.mpr hlarge]
  · intro hsmall
    simp [show Text.decimalValue digits ≤ 2147483647 by omega, Nat.not_lt.mpr hsmall]

/-- A printed byte followed by something that is no digit is one round. -/
theorem decodeJsonBody_numeral (b : UInt8) (stop : UInt8) (rest : Text) (bytes : Bytes)
    (hstop : Text.isDigit stop = false) :
    decodeJsonBody (Text.numeral 10 b.toNat ++ stop :: rest, bytes) =
      .inl (stop :: rest, bytes ++ [b]) := by
  have hrun : DigitRun (Text.numeral 10 b.toNat) (stop :: rest) := by
    refine ⟨Text.numeral_ne_nil 10 b.toNat, fun c hc => Text.isDigit_of_mem_numeral hc, ?_⟩
    intro c hc
    cases hc
    exact hstop
  have hb : b.toNat < 256 := b.toNat_lt
  have hround := (decodeJsonBody_run hrun bytes).2
  rw [Text.decimalValue_numeral, UInt8.ofNat_toNat] at hround
  exact hround (by omega)

theorem decodeJsonBody_returns (payload bytes : Bytes) (tail : Text) :
    Loop.Returns decodeJsonBody (jsonBytes payload ++ ']'.toUInt8 :: tail, bytes)
      (.ok (some (bytes ++ payload))) := by
  induction payload generalizing bytes with
  | nil => exact .done (by simp [jsonBytes, decodeJsonBody])
  | cons b rest ih =>
      have hrest := ih (bytes ++ [b])
      rw [List.append_assoc, List.singleton_append] at hrest
      cases rest with
      | nil =>
          rw [jsonBytes_singleton]
          exact .next (decodeJsonBody_numeral b _ tail bytes (by decide)) hrest
      | cons next rest =>
          rw [jsonBytes_cons_cons, List.append_assoc, List.cons_append]
          have hskip : decodeJsonBody
              (','.toUInt8 :: (jsonBytes (next :: rest) ++ ']'.toUInt8 :: tail), bytes ++ [b]) =
              .inl (jsonBytes (next :: rest) ++ ']'.toUInt8 :: tail, bytes ++ [b]) := rfl
          exact .next (decodeJsonBody_numeral b _ _ bytes (by decide)) (.next hskip hrest)

theorem decodeJsonEnvelope_payloadToJson (msg outMsg : Message) :
    decodeJsonEnvelope (payloadToJson msg) outMsg =
      .ok (true, { outMsg with payload := msg.payload }) := by
  have harray : decodeJsonArray (jsonBytes msg.payload ++ Text.ascii "]\x7d") =
      .ok (some msg.payload) :=
    decodeJsonArray_eq (decodeJsonBody_returns msg.payload [] _)
  have hdrop : (payloadToJson msg).drop ((jsonHeader msg).length + 11) =
      jsonBytes msg.payload ++ Text.ascii "]\x7d" := by
    rw [payloadToJson_eq, ← List.drop_drop, List.drop_left,
      show 11 = payloadMarker.length from rfl, List.drop_left]
  simp only [decodeJsonEnvelope, find_payloadToJson, hdrop, harray]

end SomeipGateway.Zenoh
