import SomeipGateway.Dbus.Gateway
import SomeipGateway.Lib.Path

/-! The names under which the services appear on the bus, against the rules of
the D-Bus specification for names. The ids stand alone between two dots, so that
most of them begin with a digit. -/
namespace SomeipGateway.Dbus

open Lib

def dot : UInt8 := '.'.toUInt8

def isLetter (c : UInt8) : Bool :=
  ('A'.toUInt8 ≤ c && c ≤ 'Z'.toUInt8) || ('a'.toUInt8 ≤ c && c ≤ 'z'.toUInt8)

/-- What an element may consist of; bus names may have hyphens. -/
def isNameChar (hyphens : Bool) (c : UInt8) : Bool :=
  isLetter c || Text.isDigit c || c == '_'.toUInt8 || (hyphens && c == '-'.toUInt8)

structure ValidElement (hyphens : Bool) (element : Text) : Prop where
  nonempty : element ≠ []
  chars : ∀ c ∈ element, isNameChar hyphens c = true
  first : ∀ c ∈ element.head?, Text.isDigit c = false

structure ValidName (hyphens : Bool) (name : Text) : Prop where
  several : 2 ≤ (name.splitOn dot).length
  elements : ∀ element ∈ name.splitOn dot, ValidElement hyphens element
  short : name.length ≤ 255

def WellKnownName : Text → Prop := ValidName true

def InterfaceName : Text → Prop := ValidName false

/-! ### Elements -/

theorem isNameChar_digit (hyphens : Bool) {n : Nat} (h : n < 16) :
    isNameChar hyphens (Text.digit n) = true := by
  revert n
  cases hyphens <;> decide

theorem isDigit_digit {n : Nat} (h : n < 16) : Text.isDigit (Text.digit n) = false ↔ 10 ≤ n := by
  revert n
  decide

theorem toHex4_chars (hyphens : Bool) (v : UInt16) :
    ∀ c ∈ toHex4 v, isNameChar hyphens c = true := by
  have hv : v.toNat < 65536 := v.toNat_lt
  rw [toHex4, Text.padded_hex4]
  intro c hc
  simp only [List.mem_cons, List.not_mem_nil, or_false] at hc
  rcases hc with rfl | rfl | rfl | rfl <;> exact isNameChar_digit hyphens (by omega)

/-- An id is an element of a name exactly if it begins with a letter. -/
theorem validElement_toHex4 (hyphens : Bool) (v : UInt16) :
    ValidElement hyphens (toHex4 v) ↔ 0xA000 ≤ v := by
  have hv : v.toNat < 65536 := v.toNat_lt
  have hhead : (toHex4 v).head? = some (Text.digit (v.toNat / 4096)) := by
    rw [toHex4, Text.padded_hex4]
    rfl
  have hletter := isDigit_digit (n := v.toNat / 4096) (by omega)
  rw [UInt16.le_iff_toNat_le, show (0xA000 : UInt16).toNat = 10 * 4096 from rfl,
    ← Nat.le_div_iff_mul_le (by decide), ← hletter]
  constructor
  · intro h
    exact h.first _ hhead
  · intro h
    refine ⟨?_, toHex4_chars hyphens v, ?_⟩
    · intro hnil
      rw [hnil] at hhead
      cases hhead
    · intro c hc
      rw [hhead] at hc
      cases hc
      exact h

theorem toHex4_dot (v : UInt16) : dot ∉ toHex4 v := by
  intro hdot
  exact absurd (toHex4_chars true v dot hdot) (by decide)

theorem length_toHex4 (v : UInt16) : (toHex4 v).length = 4 := by
  rw [toHex4, Text.padded_hex4]
  rfl

/-! ### Names -/

theorem ValidName.ends {hyphens : Bool} {name : Text} (h : ValidName hyphens name)
    (hne : name ≠ []) : name.getLast hne ≠ dot := by
  intro hlast
  -- a dot at the end leaves an empty element behind it
  have hsplit : name.splitOn dot = name.dropLast.splitOn dot ++ [[]] := by
    conv_lhs => rw [← List.dropLast_append_getLast hne, hlast]
    exact List.splitOn_append_cons_self name.dropLast []
  have hempty := h.elements [] (by simp [hsplit])
  exact hempty.nonempty rfl

theorem ValidName.ne_nil {hyphens : Bool} {name : Text} (h : ValidName hyphens name) :
    name ≠ [] := by
  rintro rfl
  exact absurd h.several (by simp)

/-- Trailing dots are taken off, and nothing else of a valid name. -/
theorem normalizeBusPrefix_dots {base : Text} (h : WellKnownName base) (dots : Nat) :
    normalizeBusPrefix (base ++ List.replicate dots dot) = base := by
  have hne := ValidName.ne_nil h
  have hends : base.getLast? ≠ some dot := by
    rw [List.getLast?_eq_getLast_of_ne_nil hne]
    exact fun hlast => ValidName.ends h hne (Option.some.inj hlast)
  have hdropped : (base ++ List.replicate dots dot).rdropWhile (· == '.'.toUInt8) = base :=
    (Path.trimEnd_replicate dot base dots).trans (Path.trimEnd_eq_self hends)
  simp [normalizeBusPrefix, hdropped, hne]

theorem validElement_literal {hyphens : Bool} {element : Text} (hne : element ≠ [])
    (hall : element.all isLetter = true) : ValidElement hyphens element := by
  have hletters := List.all_eq_true.mp hall
  refine ⟨hne, fun c hc => ?_, fun c hc => ?_⟩
  · simp [isNameChar, hletters c hc]
  · by_contra hdigit
    have hletter := hletters c (List.mem_of_mem_head? hc)
    simp only [Bool.not_eq_false, Text.isDigit, Bool.and_eq_true, decide_eq_true_eq,
      UInt8.le_iff_toNat_le] at hdigit
    simp only [isLetter, Bool.or_eq_true, Bool.and_eq_true, decide_eq_true_eq,
      UInt8.le_iff_toNat_le] at hletter
    have hnine : '9'.toUInt8.toNat = 57 := by decide
    have hA : 'A'.toUInt8.toNat = 65 := by decide
    have ha : 'a'.toUInt8.toNat = 97 := by decide
    omega

theorem ValidElement.dot_notMem {hyphens : Bool} {element : Text}
    (h : ValidElement hyphens element) : dot ∉ element := by
  intro hdot
  have hchar := h.chars dot hdot
  revert hchar
  cases hyphens <;> decide

/-- A name whose elements are known is valid exactly if they are. -/
theorem validName_iff {hyphens : Bool} {name : Text} {elements : List Text}
    (hsplit : name.splitOn dot = elements) (hseveral : 2 ≤ elements.length)
    (hshort : name.length ≤ 255) :
    ValidName hyphens name ↔ ∀ element ∈ elements, ValidElement hyphens element := by
  subst hsplit
  exact ⟨fun h => h.elements, fun h => ⟨hseveral, h, hshort⟩⟩

/-! ### The gateway's names -/

theorem splitOn_busName (base : Text) (serviceId instanceId : UInt16) :
    (base ++ Text.ascii ".svc." ++ toHex4 serviceId ++ Text.ascii ".inst." ++
        toHex4 instanceId).splitOn dot =
      base.splitOn dot ++
        [Text.ascii "svc", toHex4 serviceId, Text.ascii "inst", toHex4 instanceId] := by
  have hsvc : Text.ascii ".svc." = dot :: (Text.ascii "svc" ++ dot :: []) := by decide
  have hinst : Text.ascii ".inst." = dot :: (Text.ascii "inst" ++ dot :: []) := by decide
  have hsvcDot : dot ∉ Text.ascii "svc" := by decide
  have hinstDot : dot ∉ Text.ascii "inst" := by decide
  simp only [hsvc, hinst, List.append_assoc, List.cons_append, List.nil_append]
  rw [List.splitOn_append_cons_self, List.splitOn_append_cons_self_of_not_mem hsvcDot,
    List.splitOn_append_cons_self_of_not_mem (toHex4_dot serviceId),
    List.splitOn_append_cons_self_of_not_mem hinstDot,
    List.splitOn_eq_singleton (toHex4_dot instanceId)]

theorem wellKnownName_iff {base : Text} (h : WellKnownName base) (hlength : base.length ≤ 200)
    (serviceId instanceId : UInt16) :
    WellKnownName (base ++ Text.ascii ".svc." ++ toHex4 serviceId ++ Text.ascii ".inst." ++
        toHex4 instanceId) ↔ 0xA000 ≤ serviceId ∧ 0xA000 ≤ instanceId := by
  have hsvc : ValidElement true (Text.ascii "svc") := validElement_literal (by decide) (by decide)
  have hinst : ValidElement true (Text.ascii "inst") := validElement_literal (by decide) (by decide)
  have hshort : (base ++ Text.ascii ".svc." ++ toHex4 serviceId ++ Text.ascii ".inst." ++
      toHex4 instanceId).length ≤ 255 := by
    have hsvcLength : (Text.ascii ".svc.").length = 5 := by decide
    have hinstLength : (Text.ascii ".inst.").length = 6 := by decide
    simp only [List.length_append, length_toHex4, hsvcLength, hinstLength]
    omega
  rw [WellKnownName, validName_iff (splitOn_busName base serviceId instanceId) (by simp) hshort,
    ← validElement_toHex4 true serviceId, ← validElement_toHex4 true instanceId,
    List.forall_mem_append]
  simp only [List.forall_mem_cons, List.not_mem_nil, hsvc, hinst]
  constructor
  · rintro ⟨-, -, hservice, -, hinstance, -⟩
    exact ⟨hservice, hinstance⟩
  · rintro ⟨hservice, hinstance⟩
    exact ⟨h.elements, trivial, hservice, trivial, hinstance, fun _ hnone => hnone.elim⟩

theorem interfaceName_iff (serviceId : UInt16) :
    InterfaceName (buildInterfaceName serviceId) ↔ 0xA000 ≤ serviceId := by
  have hcom : ValidElement false (Text.ascii "com") := validElement_literal (by decide) (by decide)
  have hopensomeip : ValidElement false (Text.ascii "opensomeip") :=
    validElement_literal (by decide) (by decide)
  have hService : ValidElement false (Text.ascii "Service") :=
    validElement_literal (by decide) (by decide)
  have hsplit : (buildInterfaceName serviceId).splitOn dot =
      [Text.ascii "com", Text.ascii "opensomeip", Text.ascii "Service", toHex4 serviceId] := by
    have hliteral : Text.ascii "com.opensomeip.Service." = Text.ascii "com" ++
        dot :: (Text.ascii "opensomeip" ++ dot :: (Text.ascii "Service" ++ dot :: [])) := by decide
    simp only [buildInterfaceName, hliteral, List.append_assoc, List.cons_append, List.nil_append]
    rw [List.splitOn_append_cons_self_of_not_mem hcom.dot_notMem,
      List.splitOn_append_cons_self_of_not_mem hopensomeip.dot_notMem,
      List.splitOn_append_cons_self_of_not_mem hService.dot_notMem,
      List.splitOn_eq_singleton (toHex4_dot serviceId)]
  have hshort : (buildInterfaceName serviceId).length ≤ 255 := by
    have hliteral : (Text.ascii "com.opensomeip.Service.").length = 23 := by decide
    rw [buildInterfaceName, List.length_append, length_toHex4, hliteral]
    decide
  rw [InterfaceName, validName_iff hsplit (by simp) hshort, ← validElement_toHex4 false serviceId]
  simp [hcom, hopensomeip, hService]

/-- For every valid prefix, with any number of dots behind it, and all ids: both
names are valid exactly if both ids begin with a hexadecimal letter. -/
theorem names_valid_iff (config : DbusConfig) {base : Text} (hbase : WellKnownName base)
    (hlength : base.length ≤ 200) (dots : Nat)
    (hconfig : config.busNamePrefix = base ++ List.replicate dots dot)
    (serviceId instanceId : UInt16) :
    (WellKnownName (buildBusName config serviceId instanceId) ∧
        InterfaceName (buildInterfaceName serviceId)) ↔
      0xA000 ≤ serviceId ∧ 0xA000 ≤ instanceId := by
  rw [interfaceName_iff, buildBusName, hconfig, normalizeBusPrefix_dots hbase,
    wellKnownName_iff hbase hlength]
  exact ⟨fun h => h.1, fun h => ⟨h, h.1⟩⟩

theorem wellKnownName_example : WellKnownName (Text.ascii "com.example") := by
  have hcom : ValidElement true (Text.ascii "com") := validElement_literal (by decide) (by decide)
  have hexample : ValidElement true (Text.ascii "example") :=
    validElement_literal (by decide) (by decide)
  have hsplit : (Text.ascii "com.example").splitOn dot =
      [Text.ascii "com", Text.ascii "example"] := by
    have hliteral : Text.ascii "com.example" = Text.ascii "com" ++ dot :: Text.ascii "example" := by
      decide
    rw [hliteral, List.splitOn_append_cons_self_of_not_mem hcom.dot_notMem,
      List.splitOn_eq_singleton hexample.dot_notMem]
  rw [WellKnownName, validName_iff hsplit (by simp) (by decide)]
  simp [hcom, hexample]

theorem names_valid_abcd :
    WellKnownName (buildBusName { busNamePrefix := Text.ascii "com.example.." } 0xABCD 0xF001) ∧
      InterfaceName (buildInterfaceName 0xABCD) :=
  (names_valid_iff _ wellKnownName_example (by decide) 2 (by decide) 0xABCD 0xF001).mpr
    ⟨by decide, by decide⟩

/-- The name of the gateway's own test has elements that begin with a digit. -/
theorem names_of_1234_invalid :
    ¬ ∀ (config : DbusConfig) (base : Text) (dots : Nat) (serviceId instanceId : UInt16),
      WellKnownName base → base.length ≤ 200 →
      config.busNamePrefix = base ++ List.replicate dots dot →
      WellKnownName (buildBusName config serviceId instanceId) ∧
        InterfaceName (buildInterfaceName serviceId) := by
  intro h
  have hvalid := h { busNamePrefix := Text.ascii "com.example" } (Text.ascii "com.example") 0
    0x1234 0x0001 wellKnownName_example (by decide) (by decide)
  exact absurd ((interfaceName_iff 0x1234).mp hvalid.2) (by decide)

end SomeipGateway.Dbus
