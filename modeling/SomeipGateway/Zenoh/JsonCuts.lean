import SomeipGateway.Zenoh.Json

/-! Initial parts of the JSON envelope. The array loop ends at the closing bracket
and at the end of the text alike, so a cut inside the array goes unnoticed. -/
namespace SomeipGateway.Zenoh

open Lib

/-- Everything in front of the first element of the array. -/
def jsonFront (msg : Message) : Text := jsonHeader msg ++ payloadMarker

/-! ### The array -/

/-- A number at the very end, whole or cut, is one more byte. -/
theorem returns_of_digits {digits : Text} (b : UInt8) (h : digits <+: Text.numeral 10 b.toNat)
    (bytes : Bytes) :
    ∃ got, Loop.Returns decodeJsonBody (digits, bytes) (.ok (some (bytes ++ got))) ∧
      got.length ≤ 1 ∧ (got = [b] ↔ digits = Text.numeral 10 b.toNat) := by
  have hdone (bytes : Bytes) : Loop.Returns decodeJsonBody ([], bytes) (.ok (some bytes)) :=
    .done rfl
  by_cases hnone : digits = []
  · subst hnone
    refine ⟨[], ?_, Nat.zero_le 1, ?_⟩
    · rw [List.append_nil]
      exact hdone bytes
    · exact iff_of_false (by simp) (Text.numeral_ne_nil 10 b.toNat).symm
  · have hb : b.toNat < 256 := b.toNat_lt
    have hvalue : Text.decimalValue digits ≤ b.toNat := by
      by_cases hwhole : digits = Text.numeral 10 b.toNat
      · rw [hwhole, Text.decimalValue_numeral]
      · exact (Text.decimalValue_cut_lt b.toNat h hwhole hnone).le
    have hrun : DigitRun digits [] := by
      refine ⟨hnone, fun c hc => Text.isDigit_of_mem_numeral (h.subset hc), ?_⟩
      intro c hc
      cases hc
    have hround := (decodeJsonBody_run hrun bytes).2 (by omega)
    rw [List.append_nil] at hround
    refine ⟨[UInt8.ofNat (Text.decimalValue digits)], .next hround (hdone _), Nat.le_refl 1, ?_⟩
    constructor
    · intro hsame
      by_contra hcut
      have hlt := Text.decimalValue_cut_lt b.toNat h hcut hnone
      have hnat := congrArg UInt8.toNat (List.singleton_inj.mp hsame)
      rw [UInt8.toNat_ofNat'] at hnat
      omega
    · intro hwhole
      rw [hwhole, Text.decimalValue_numeral, UInt8.ofNat_toNat]

/-- Every initial part of an array's text is read to its end; the bytes are those
of the array exactly if the part is the whole. -/
theorem returns_of_cut (payload : Bytes) {text : Text} (h : text <+: jsonBytes payload)
    (bytes : Bytes) :
    ∃ got, Loop.Returns decodeJsonBody (text, bytes) (.ok (some (bytes ++ got))) ∧
      (got = payload ↔ text = jsonBytes payload) := by
  induction payload generalizing text bytes with
  | nil =>
      have hnil : text = [] := List.prefix_nil.mp h
      subst hnil
      refine ⟨[], ?_, iff_of_true rfl rfl⟩
      rw [List.append_nil]
      exact .done rfl
  | cons b rest ih =>
      cases rest with
      | nil =>
          rw [jsonBytes_singleton] at h ⊢
          obtain ⟨got, hreturns, -, hwhole⟩ := returns_of_digits b h bytes
          exact ⟨got, hreturns, hwhole⟩
      | cons next rest =>
          rw [jsonBytes_cons_cons] at h ⊢
          by_cases hinside : text <+: Text.numeral 10 b.toNat
          · -- the cut is in the first number, or right behind it
            obtain ⟨got, hreturns, hfew, -⟩ := returns_of_digits b hinside bytes
            refine ⟨got, hreturns, iff_of_false ?_ ?_⟩
            · rintro rfl
              simp at hfew
            · rintro rfl
              have hlength := hinside.length_le
              simp at hlength
          · obtain ⟨later, rfl⟩ :=
              (List.prefix_or_prefix_of_prefix h (List.prefix_append _ _)).resolve_left hinside
            rw [List.prefix_append_right_inj] at h
            rcases List.prefix_cons_iff.mp h with rfl | ⟨tail, rfl, htail⟩
            · rw [List.append_nil] at hinside
              exact absurd (List.prefix_refl _) hinside
            · obtain ⟨got, hreturns, hwhole⟩ := ih htail (bytes ++ [b])
              rw [List.append_assoc, List.singleton_append] at hreturns
              have hskip : decodeJsonBody (','.toUInt8 :: tail, bytes ++ [b]) =
                  .inl (tail, bytes ++ [b]) := rfl
              refine ⟨b :: got, ?_, ?_⟩
              · exact .next (decodeJsonBody_numeral b _ tail bytes (by decide))
                  (.next hskip hreturns)
              · rw [List.cons_inj_right, List.append_cancel_left_eq, List.cons_inj_right]
                exact hwhole

/-! ### The envelope -/

theorem payloadToJson_front (msg : Message) :
    payloadToJson msg = jsonFront msg ++ (jsonBytes msg.payload ++ Text.ascii "]\x7d") := by
  rw [payloadToJson_eq, jsonFront, List.append_assoc]

theorem length_jsonFront (msg : Message) :
    (jsonFront msg).length = (jsonHeader msg).length + 11 := by
  rw [jsonFront, List.length_append]
  rfl

theorem find_cut {msg : Message} {text : Text} (h : text <+: payloadToJson msg) :
    Text.find payloadMarker text =
      if (jsonFront msg).length ≤ text.length then some (jsonHeader msg).length else none := by
  have hfind := find_payloadToJson msg
  obtain ⟨rest, hrest⟩ := h
  rw [← hrest] at hfind
  rw [Text.find_of_find_append hfind, length_jsonFront]
  rfl

/-- Before the bracket that opens the array there is nothing to be found. -/
theorem decodeJsonEnvelope_before_array {msg : Message} {text : Text}
    (h : text <+: payloadToJson msg) (hshort : text.length < (jsonFront msg).length)
    (outMsg : Message) : decodeJsonEnvelope text outMsg = .ok (false, outMsg) := by
  have hfind := find_cut h
  rw [if_neg (Nat.not_le.mpr hshort)] at hfind
  simp only [decodeJsonEnvelope, hfind]

theorem decodeJsonEnvelope_array {msg : Message} {array : Text}
    (h : jsonFront msg ++ array <+: payloadToJson msg) {bytes : Bytes}
    (hreturns : Loop.Returns decodeJsonBody (array, []) (.ok (some bytes))) (outMsg : Message) :
    decodeJsonEnvelope (jsonFront msg ++ array) outMsg =
      .ok (true, { outMsg with payload := bytes }) := by
  have hfind := find_cut h
  rw [if_pos (by simp)] at hfind
  have hdrop : (jsonFront msg ++ array).drop ((jsonHeader msg).length + 11) = array := by
    rw [← length_jsonFront, List.drop_left]
  simp only [decodeJsonEnvelope, hfind, hdrop, decodeJsonArray_eq hreturns]

/-- Refused, or read as the message's payload. -/
def RefusedOrRight (msg : Message) (text : Text) : Prop :=
  ∀ outMsg, ∃ answer decoded, decodeJsonEnvelope text outMsg = .ok (answer, decoded) ∧
    (answer = false ∨ decoded.payload = msg.payload)

/-- From the opening bracket on the reader accepts, and is right exactly if the
last element is there. -/
theorem refusedOrRight_array_iff {msg : Message} {array : Text}
    (h : jsonFront msg ++ array <+: payloadToJson msg) :
    RefusedOrRight msg (jsonFront msg ++ array) ↔
      (jsonBytes msg.payload).length ≤ array.length := by
  have hread {bytes : Bytes}
      (hreturns : Loop.Returns decodeJsonBody (array, []) (.ok (some bytes))) :
      RefusedOrRight msg (jsonFront msg ++ array) ↔ bytes = msg.payload := by
    constructor
    · intro hright
      obtain ⟨answer, decoded, hdecode, hanswer⟩ := hright {}
      rw [decodeJsonEnvelope_array h hreturns] at hdecode
      cases hdecode
      exact hanswer.resolve_left (by decide)
    · intro hsame outMsg
      exact ⟨true, _, decodeJsonEnvelope_array h hreturns outMsg, .inr hsame⟩
  have harray := h
  rw [payloadToJson_front, List.prefix_append_right_inj] at harray
  rcases List.prefix_or_prefix_of_prefix harray (List.prefix_append _ _) with hinside | hbehind
  · obtain ⟨got, hreturns, hwhole⟩ := returns_of_cut msg.payload hinside []
    rw [hread hreturns, List.nil_append, hwhole]
    constructor
    · rintro rfl
      exact Nat.le_refl _
    · exact hinside.eq_of_length_le
  · -- the end of the text and the closing bracket end the loop alike
    obtain ⟨tail, rfl⟩ := hbehind
    refine iff_of_true ?_ (by simp)
    rw [List.prefix_append_right_inj] at harray
    rcases List.prefix_cons_iff.mp harray with rfl | ⟨after, rfl, -⟩
    · rw [List.append_nil] at hread ⊢
      obtain ⟨got, hreturns, hwhole⟩ := returns_of_cut msg.payload (List.prefix_refl _) []
      exact (hread hreturns).mpr (hwhole.mpr rfl)
    · exact (hread (decodeJsonBody_returns msg.payload [] after)).mpr rfl

/-- For every message and every initial part of its JSON: it is refused or gives
the message's payload, exactly if it ends before the bracket that opens the array
or not before the last element's last digit. -/
theorem json_cut_payload_iff (msg : Message) (text : Text) (h : text <+: payloadToJson msg) :
    RefusedOrRight msg text ↔
      text.length < (jsonFront msg).length ∨
        (jsonFront msg ++ jsonBytes msg.payload).length ≤ text.length := by
  by_cases hshort : text.length < (jsonFront msg).length
  · refine iff_of_true (fun outMsg => ?_) (.inl hshort)
    exact ⟨false, outMsg, decodeJsonEnvelope_before_array h hshort outMsg, .inl rfl⟩
  · have hfront : jsonFront msg <+: payloadToJson msg := by
      rw [payloadToJson_front]
      exact List.prefix_append _ _
    obtain ⟨array, rfl⟩ := List.prefix_of_prefix_length_le hfront h (Nat.le_of_not_lt hshort)
    rw [or_iff_right hshort, List.length_append, List.length_append, Nat.add_le_add_iff_left]
    exact refusedOrRight_array_iff h

def wheelSpeeds : Message where
  serviceId := 0x1234
  methodId := 0x8001
  messageType := .notification
  payload := [12, 200]

/-- Cut before the array it is refused, and this is no damage. -/
theorem wheelSpeeds_cut_early : RefusedOrRight wheelSpeeds (jsonHeader wheelSpeeds) := by
  have hcut : jsonHeader wheelSpeeds <+: payloadToJson wheelSpeeds := by
    rw [payloadToJson_eq]
    exact List.prefix_append _ _
  refine (json_cut_payload_iff wheelSpeeds _ hcut).mpr (.inl ?_)
  rw [length_jsonFront]
  omega

/-- Cut inside the second number, 12 and 200 are read as 12 and 20. -/
theorem wheelSpeeds_cut_in_number :
    ¬ ∀ (msg : Message) (text : Text), text <+: payloadToJson msg → RefusedOrRight msg text := by
  intro h
  have hcut : jsonFront wheelSpeeds ++ Text.ascii "12,20" <+: payloadToJson wheelSpeeds := by
    rw [payloadToJson_front, List.prefix_append_right_inj]
    decide
  have hlength := (refusedOrRight_array_iff hcut).mp (h wheelSpeeds _ hcut)
  exact absurd hlength (by decide)

end SomeipGateway.Zenoh
