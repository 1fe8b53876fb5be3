import SomeipGateway.Common.Translator
import SomeipGateway.Lib.JsonText

/-! The JSON envelope of `payload_to_json` loses nothing and is always one JSON
object. -/
namespace SomeipGateway

open Lib

/-! ### Reading the fields back -/

attribute [ext] Message

/-- The comma behind a member's number keeps it apart from what follows. -/
theorem jsonMember_append_injective {name : String} {left right : Nat}
    {leftRest rightRest : Text}
    (h : jsonMember name left ++ leftRest = jsonMember name right ++ rightRest) :
    left = right ∧ leftRest = rightRest := by
  simp only [jsonMember, List.append_assoc] at h
  have hnumbers := List.append_cancel_left h
  have hsplit := Text.numeral_append_injective (by decide) (by decide) hnumbers
  exact ⟨hsplit.1, List.tail_eq_of_cons_eq hsplit.2⟩

/-- What stands behind the first number of a byte list: a comma and the next
numbers, or what closes the list. -/
def jsonBytesRest (rest : Bytes) (closing : Text) : Text :=
  match rest with
  | [] => closing
  | c :: rest => Json.comma :: (jsonBytes (c :: rest) ++ closing)

theorem jsonBytes_cons_append (b : UInt8) (rest : Bytes) (closing : Text) :
    jsonBytes (b :: rest) ++ closing = Text.numeral 10 b.toNat ++ jsonBytesRest rest closing := by
  cases rest with
  | nil => rw [jsonBytes_singleton, jsonBytesRest]
  | cons c rest =>
      rw [jsonBytes_cons_cons, List.append_assoc]
      rfl

/-- No digit stands there, so the number before it has ended. -/
theorem exists_jsonBytesRest_cons (rest : Bytes) (after : Text) :
    ∃ c tail, Text.isDigit c = false ∧
      jsonBytesRest rest (Json.closeBracket :: after) = c :: tail := by
  cases rest with
  | nil => exact ⟨_, _, by decide, rfl⟩
  | cons d rest => exact ⟨_, _, by decide, rfl⟩

theorem jsonBytes_cons_injective {b c : UInt8} {left right : Bytes} {leftAfter rightAfter : Text}
    (h : jsonBytes (b :: left) ++ Json.closeBracket :: leftAfter =
      jsonBytes (c :: right) ++ Json.closeBracket :: rightAfter) :
    b = c ∧ jsonBytesRest left (Json.closeBracket :: leftAfter) =
      jsonBytesRest right (Json.closeBracket :: rightAfter) := by
  obtain ⟨x, xs, hx, hleft⟩ := exists_jsonBytesRest_cons left leftAfter
  obtain ⟨y, ys, hy, hright⟩ := exists_jsonBytesRest_cons right rightAfter
  rw [jsonBytes_cons_append, jsonBytes_cons_append, hleft, hright] at h
  have hsplit := Text.numeral_append_injective hx hy h
  rw [hleft, hright]
  exact ⟨UInt8.toNat_inj.mp hsplit.1, hsplit.2⟩

theorem jsonBytesRest_injective {left right : Bytes} {leftAfter rightAfter : Text}
    (h : jsonBytesRest left (Json.closeBracket :: leftAfter) =
      jsonBytesRest right (Json.closeBracket :: rightAfter)) :
    left = right := by
  have hseparator : Json.closeBracket ≠ Json.comma := by decide
  induction left generalizing right with
  | nil =>
      cases right with
      | nil => rfl
      | cons c right => exact absurd (List.head_eq_of_cons_eq h) hseparator
  | cons b left ih =>
      cases right with
      | nil => exact absurd (List.head_eq_of_cons_eq h).symm hseparator
      | cons c right =>
          have hsplit := jsonBytes_cons_injective (List.tail_eq_of_cons_eq h)
          rw [hsplit.1, ih hsplit.2]

/-- A list of numbers ends where the bracket stands: neither the number of bytes
nor one of them is lost. -/
theorem jsonBytes_bracket_injective {left right : Bytes} {leftAfter rightAfter : Text}
    (h : jsonBytes left ++ Json.closeBracket :: leftAfter =
      jsonBytes right ++ Json.closeBracket :: rightAfter) :
    left = right := by
  -- an empty list shows the bracket where another shows a digit
  have hbracket (b : UInt8) (rest : Bytes) (after before : Text) :
      jsonBytes (b :: rest) ++ after ≠ Json.closeBracket :: before := by
    intro heq
    rw [jsonBytes_cons_append] at heq
    have hhead := congrArg List.head? heq
    rw [List.head?_append_of_ne_nil _ (Text.numeral_ne_nil 10 _)] at hhead
    have hdigit := Text.isDigit_of_mem_numeral (List.mem_of_head? hhead)
    contradiction
  cases left with
  | nil =>
      cases right with
      | nil => rfl
      | cons c right => exact absurd h.symm (hbracket c right _ leftAfter)
  | cons b left =>
      cases right with
      | nil => exact absurd h (hbracket b left _ rightAfter)
      | cons c right =>
          have hsplit := jsonBytes_cons_injective h
          rw [hsplit.1, jsonBytesRest_injective hsplit.2]

theorem payloadToJson_injective : Function.Injective payloadToJson := by
  intro left right h
  simp only [payloadToJson, List.append_assoc] at h
  have hservice := jsonMember_append_injective (List.append_cancel_left h)
  have hmethod := jsonMember_append_injective hservice.2
  have hclient := jsonMember_append_injective hmethod.2
  have hsession := jsonMember_append_injective hclient.2
  have htype := jsonMember_append_injective hsession.2
  have hcode := jsonMember_append_injective htype.2
  apply Message.ext
  · exact UInt16.toNat_inj.mp hservice.1
  · exact UInt16.toNat_inj.mp hmethod.1
  · exact UInt16.toNat_inj.mp hclient.1
  · exact UInt16.toNat_inj.mp hsession.1
  · exact congrArg MessageType.mk (UInt8.toNat_inj.mp htype.1)
  · exact congrArg ReturnCode.mk (UInt8.toNat_inj.mp hcode.1)
  · exact jsonBytes_bracket_injective (List.append_cancel_left hcode.2)

/-! ### The grammar -/

def jsonNumber (value : Nat) : Json.Value := .number (Text.numeral 10 value)

/-- The seven members, as a reader of the document gets them. -/
def jsonMembers (msg : Message) : List (Text × Json.Value) :=
  [(Text.ascii "service_id", jsonNumber msg.serviceId.toNat),
    (Text.ascii "method_id", jsonNumber msg.methodId.toNat),
    (Text.ascii "client_id", jsonNumber msg.clientId.toNat),
    (Text.ascii "session_id", jsonNumber msg.sessionId.toNat),
    (Text.ascii "message_type", jsonNumber msg.messageType.byte.toNat),
    (Text.ascii "return_code", jsonNumber msg.returnCode.byte.toNat),
    (Text.ascii "payload", .array (msg.payload.map fun b => jsonNumber b.toNat))]

theorem derives_jsonNumber (value : Nat) :
    Json.Derives (.value (jsonNumber value)) (Text.numeral 10 value) :=
  .number (Json.isNumber_of_isInteger (Json.isInteger_numeral value))

/-- One member with its comma, in front of the members that follow. -/
theorem derives_jsonMember {literal : String} {name rest : Text} {value : Nat}
    {members : List (Text × Json.Value)} (hname : name.all Json.isVerbatim = true)
    (hliteral : Text.ascii literal = Json.quote :: (name ++ [Json.quote]) ++ [Json.colon])
    (h : Json.Derives (.members members) rest) :
    Json.Derives (.members ((name, jsonNumber value) :: members))
      (jsonMember literal value ++ rest) := by
  have hmember := Json.derives_member hname (derives_jsonNumber value)
  have htext : jsonMember literal value ++ rest =
      (Json.quote :: (name ++ [Json.quote]) ++ Json.colon :: Text.numeral 10 value) ++
        Json.comma :: rest := by
    have hcomma : Text.ascii "," = [Json.comma] := by decide
    rw [jsonMember, hliteral, hcomma]
    simp only [List.append_assoc, List.cons_append, List.nil_append]
  rw [htext]
  exact .member hmember h

theorem derives_jsonBytes (b : UInt8) (rest : Bytes) :
    Json.Derives (.elements ((b :: rest).map fun b => jsonNumber b.toNat))
      (jsonBytes (b :: rest)) := by
  induction rest generalizing b with
  | nil =>
      rw [jsonBytes_singleton]
      exact (derives_jsonNumber b.toNat).bare
  | cons c rest ih =>
      rw [jsonBytes_cons_cons]
      exact .element (derives_jsonNumber b.toNat).bare (ih c)

theorem derives_jsonArray (payload : Bytes) :
    Json.Derives (.value (.array (payload.map fun b => jsonNumber b.toNat)))
      (Json.openBracket :: (jsonBytes payload ++ [Json.closeBracket])) := by
  cases payload with
  | nil => exact .emptyArray Json.Space.nil
  | cons b rest => exact .array (derives_jsonBytes b rest)

/-- The members between the braces. -/
def jsonBody (msg : Message) : Text :=
  jsonMember "\"service_id\":" msg.serviceId.toNat ++
    (jsonMember "\"method_id\":" msg.methodId.toNat ++
    (jsonMember "\"client_id\":" msg.clientId.toNat ++
    (jsonMember "\"session_id\":" msg.sessionId.toNat ++
    (jsonMember "\"message_type\":" msg.messageType.byte.toNat ++
    (jsonMember "\"return_code\":" msg.returnCode.byte.toNat ++
    (Text.ascii "\"payload\":[" ++ (jsonBytes msg.payload ++ [Json.closeBracket])))))))

theorem payloadToJson_eq_jsonBody (msg : Message) :
    payloadToJson msg = Json.openBrace :: (jsonBody msg ++ [Json.closeBrace]) := by
  have hopen : Text.ascii "\x7b" = [Json.openBrace] := by decide
  have hclose : Text.ascii "]\x7d" = [Json.closeBracket] ++ [Json.closeBrace] := by decide
  simp only [payloadToJson, jsonBody, hopen, hclose, List.append_assoc, List.cons_append,
    List.nil_append]

theorem derives_jsonBody (msg : Message) :
    Json.Derives (.members (jsonMembers msg)) (jsonBody msg) := by
  have hpayload : Json.Derives (.members [(Text.ascii "payload", _)]) _ :=
    Json.derives_member (by decide) (derives_jsonArray msg.payload)
  apply derives_jsonMember (by decide) (by decide)
  apply derives_jsonMember (by decide) (by decide)
  apply derives_jsonMember (by decide) (by decide)
  apply derives_jsonMember (by decide) (by decide)
  apply derives_jsonMember (by decide) (by decide)
  apply derives_jsonMember (by decide) (by decide)
  exact hpayload

/-- `payload_to_json` tells any two messages apart, and what it prints is one JSON
object with the seven members. -/
theorem json_envelope_lossless :
    Function.Injective payloadToJson ∧
      ∀ msg, Json.Document (.object (jsonMembers msg)) (payloadToJson msg) := by
  refine ⟨payloadToJson_injective, fun msg => ?_⟩
  rw [payloadToJson_eq_jsonBody]
  exact (Json.Derives.object (derives_jsonBody msg)).bare

end SomeipGateway
