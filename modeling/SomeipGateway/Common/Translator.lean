import SomeipGateway.Common.GatewayBase

/-! `MessageTranslator`: the textual pieces every gateway shares. -/
namespace SomeipGateway

open Lib

structure ExternalMessage where
  topicOrKey : Text := []
  payload : Bytes := []
  sourceServiceId : UInt16 := 0
  sourceMethodId : UInt16 := 0
  sourceInstanceId : UInt16 := 0
  isRequest : Bool := false
  isNotification : Bool := false
  correlationId : Text := []
deriving DecidableEq

/-- `format_service_id`: `0x` and the id as four hexadecimal digits. -/
def formatServiceId (id : UInt16) : Text :=
  Text.ascii "0x" ++ Text.padded 4 16 id.toNat

def buildTopic (topicRoot : Text) (serviceId instanceId methodOrEventId : UInt16) : Text :=
  topicRoot ++ Text.ascii "/" ++ formatServiceId serviceId ++ Text.ascii "/" ++
    formatServiceId instanceId ++ Text.ascii "/" ++ formatServiceId methodOrEventId

def correlationText (msg : Message) : Text :=
  Text.padded 4 16 msg.clientId.toNat ++ Text.ascii "-" ++
    Text.padded 4 16 msg.sessionId.toNat

def jsonMember (name : String) (value : Nat) : Text :=
  Text.ascii name ++ Text.numeral 10 value ++ Text.ascii ","

def jsonBytes (payload : Bytes) : Text :=
  (Text.ascii ",").intercalate (payload.map fun b => Text.numeral 10 b.toNat)

def payloadToJson (msg : Message) : Bytes :=
  Text.ascii "\x7b" ++
    jsonMember "\"service_id\":" msg.serviceId.toNat ++
    jsonMember "\"method_id\":" msg.methodId.toNat ++
    jsonMember "\"client_id\":" msg.clientId.toNat ++
    jsonMember "\"session_id\":" msg.sessionId.toNat ++
    jsonMember "\"message_type\":" msg.messageType.byte.toNat ++
    jsonMember "\"return_code\":" msg.returnCode.byte.toNat ++
    Text.ascii "\"payload\":[" ++ jsonBytes msg.payload ++ Text.ascii "]\x7d"

/-- `json_to_payload` hands the bytes back as they are. -/
def jsonToPayload (jsonData : Bytes) : Bytes := jsonData

/-! ### The length of a JSON payload -/

theorem jsonBytes_singleton (b : UInt8) : jsonBytes [b] = Text.numeral 10 b.toNat := by
  simp [jsonBytes, List.intercalate]

theorem jsonBytes_cons_cons (b c : UInt8) (rest : Bytes) :
    jsonBytes (b :: c :: rest) =
      Text.numeral 10 b.toNat ++ ','.toUInt8 :: jsonBytes (c :: rest) := rfl

/-- A byte takes one to three digits. -/
theorem length_numeral_byte (b : UInt8) :
    0 < (Text.numeral 10 b.toNat).length ∧ (Text.numeral 10 b.toNat).length ≤ 3 := by
  have hb : b.toNat < 10 ^ 3 := Nat.lt_of_lt_of_le b.toNat_lt (by decide)
  exact ⟨Text.length_numeral_pos 10 b.toNat, Text.length_numeral_le (by decide) 2 b.toNat hb⟩

theorem length_jsonBytes (payload : Bytes) :
    payload.length ≤ (jsonBytes payload).length ∧
      (jsonBytes payload).length ≤ 4 * payload.length := by
  induction payload with
  | nil => exact ⟨Nat.le_refl 0, Nat.le_refl 0⟩
  | cons b rest ih =>
      have hdigits := length_numeral_byte b
      cases rest with
      | nil =>
          rw [jsonBytes_singleton]
          simp only [List.length_cons, List.length_nil]
          omega
      | cons c rest =>
          rw [jsonBytes_cons_cons, List.length_append]
          simp only [List.length_cons] at ih ⊢
          omega

theorem length_jsonMember (name : String) {value : Nat} (hvalue : value < 10 ^ 5) :
    (jsonMember name value).length ≤ (Text.ascii name).length + 6 := by
  have hdigits := Text.length_numeral_le (by decide) 4 value hvalue
  have hcomma : (Text.ascii ",").length = 1 := rfl
  rw [jsonMember, List.length_append, List.length_append, hcomma]
  omega

/-- The text of a message is longer than its payload, and by no more than a
constant and four characters for each byte. -/
theorem length_payloadToJson (msg : Message) :
    msg.payload.length < (payloadToJson msg).length ∧
      (payloadToJson msg).length ≤ 4 * msg.payload.length + 200 := by
  have hbytes := length_jsonBytes msg.payload
  have hword (id : UInt16) : id.toNat < 10 ^ 5 := Nat.lt_of_lt_of_le id.toNat_lt (by decide)
  have hbyte (b : UInt8) : b.toNat < 10 ^ 5 := Nat.lt_of_lt_of_le b.toNat_lt (by decide)
  have hmember (name : String) (value : Nat) (hvalue : value < 10 ^ 5)
      (hname : (Text.ascii name).length ≤ 16) : (jsonMember name value).length ≤ 22 := by
    have hlength := length_jsonMember name hvalue
    omega
  have hservice := hmember "\"service_id\":" _ (hword msg.serviceId) (by decide)
  have hmethod := hmember "\"method_id\":" _ (hword msg.methodId) (by decide)
  have hclient := hmember "\"client_id\":" _ (hword msg.clientId) (by decide)
  have hsession := hmember "\"session_id\":" _ (hword msg.sessionId) (by decide)
  have htype := hmember "\"message_type\":" _ (hbyte msg.messageType.byte) (by decide)
  have hcode := hmember "\"return_code\":" _ (hbyte msg.returnCode.byte) (by decide)
  have hopen : (Text.ascii "\x7b").length = 1 := rfl
  have hpayload : (Text.ascii "\"payload\":[").length = 11 := rfl
  have hclose : (Text.ascii "]\x7d").length = 2 := rfl
  simp only [payloadToJson, List.length_append, hopen, hpayload, hclose]
  omega

/-- An id is printed as six characters, none of them a slash. -/
theorem formatServiceId_eq (id : UInt16) :
    formatServiceId id =
      ['0'.toUInt8, 'x'.toUInt8, Text.digit (id.toNat / 4096),
        Text.digit (id.toNat / 256 % 16), Text.digit (id.toNat / 16 % 16),
        Text.digit (id.toNat % 16)] := by
  rw [formatServiceId, Text.padded_hex4]
  rfl

theorem forall_mem_formatServiceId {p : UInt8 → Prop} (hmarker : p 'x'.toUInt8)
    (hdigit : ∀ d < 16, p (Text.digit d)) (id : UInt16) : ∀ c ∈ formatServiceId id, p c := by
  have hid : id.toNat < 65536 := id.toNat_lt
  intro c hc
  rw [formatServiceId_eq] at hc
  simp only [List.mem_cons, List.not_mem_nil, or_false] at hc
  rcases hc with rfl | rfl | rfl | rfl | rfl | rfl
  · exact hdigit 0 (by omega)
  · exact hmarker
  all_goals exact hdigit _ (by omega)

theorem formatServiceId_injective {left right : UInt16}
    (h : formatServiceId left = formatServiceId right) : left = right :=
  Text.padded_hex4_injective (List.append_cancel_left h)

@[simp] theorem length_formatServiceId (id : UInt16) : (formatServiceId id).length = 6 := by
  simp [formatServiceId_eq]

/-! ### Ids at the end of a name -/

/-- Ids as they stand in a name, each behind a slash. -/
def idPath (ids : List UInt16) : Text :=
  ids.flatMap fun id => '/'.toUInt8 :: formatServiceId id

theorem idPath_cons (id : UInt16) (ids : List UInt16) :
    idPath (id :: ids) = ('/'.toUInt8 :: formatServiceId id) ++ idPath ids := rfl

theorem length_idPath (ids : List UInt16) : (idPath ids).length = 7 * ids.length := by
  induction ids with
  | nil => rfl
  | cons id ids ih =>
      rw [idPath_cons, List.length_append, ih, List.length_cons, length_formatServiceId,
        List.length_cons]
      omega

theorem idPath_injective {left right : List UInt16} (h : idPath left = idPath right) :
    left = right := by
  induction left generalizing right with
  | nil =>
      have hlength := congrArg List.length h
      rw [length_idPath, length_idPath, List.length_nil] at hlength
      exact (List.eq_nil_of_length_eq_zero (by omega)).symm
  | cons id ids ih =>
      cases right with
      | nil =>
          have hlength := congrArg List.length h
          rw [length_idPath, length_idPath, List.length_cons, List.length_nil] at hlength
          omega
      | cons id' ids' =>
          rw [idPath_cons, idPath_cons] at h
          have hwidth : ('/'.toUInt8 :: formatServiceId id).length =
              ('/'.toUInt8 :: formatServiceId id').length := by
            simp only [List.length_cons, length_formatServiceId]
          obtain ⟨hfirst, hrest⟩ := List.append_inj h hwidth
          rw [formatServiceId_injective (List.cons.inj hfirst).2, ih hrest]

/-- Behind any two texts equally many ids are told apart from the end. -/
theorem append_idPath_injective {stem stem' : Text} {ids ids' : List UInt16}
    (h : stem ++ idPath ids = stem' ++ idPath ids') (hcount : ids.length = ids'.length) :
    stem = stem' ∧ ids = ids' := by
  have hlength : (idPath ids).length = (idPath ids').length := by
    rw [length_idPath, length_idPath, hcount]
  obtain ⟨hstem, hids⟩ := List.append_inj' h hlength
  exact ⟨hstem, idPath_injective hids⟩

theorem buildTopic_eq (topicRoot : Text) (serviceId instanceId methodOrEventId : UInt16) :
    buildTopic topicRoot serviceId instanceId methodOrEventId =
      topicRoot ++ idPath [serviceId, instanceId, methodOrEventId] := by
  simp [buildTopic, idPath, Text.ascii]

theorem buildTopic_injective {topicRoot topicRoot' : Text}
    {serviceId serviceId' instanceId instanceId' methodOrEventId methodOrEventId' : UInt16}
    (h : buildTopic topicRoot serviceId instanceId methodOrEventId =
      buildTopic topicRoot' serviceId' instanceId' methodOrEventId') :
    topicRoot = topicRoot' ∧ serviceId = serviceId' ∧ instanceId = instanceId' ∧
      methodOrEventId = methodOrEventId' := by
  rw [buildTopic_eq, buildTopic_eq] at h
  obtain ⟨hroot, hids⟩ := append_idPath_injective h rfl
  simp only [List.cons.injEq, and_true] at hids
  exact ⟨hroot, hids.1, hids.2.1, hids.2.2⟩

end SomeipGateway
