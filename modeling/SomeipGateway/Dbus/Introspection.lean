import SomeipGateway.Common.Config
import SomeipGateway.Dbus.Names
import SomeipGateway.Lib.Xml

/-! The introspection data that `DbusTranslator` writes, against the XML grammar
and the vtable that the gateway registers. The names of the argument types come
from the caller and may be any text. -/
namespace SomeipGateway.Dbus

open Lib

def someipTypeToDbusSignature (someipType : Text) : Text :=
  let t := someipType.map toLower
  if t = Text.ascii "bool" ∨ t = Text.ascii "boolean" then Text.ascii "b"
  else if t = Text.ascii "uint8" ∨ t = Text.ascii "u8" then Text.ascii "y"
  else if t = Text.ascii "uint16" ∨ t = Text.ascii "u16" then Text.ascii "q"
  else if t = Text.ascii "uint32" ∨ t = Text.ascii "u32" then Text.ascii "u"
  else if t = Text.ascii "uint64" ∨ t = Text.ascii "u64" then Text.ascii "t"
  else if t = Text.ascii "int16" ∨ t = Text.ascii "i16" then Text.ascii "n"
  else if t = Text.ascii "int32" ∨ t = Text.ascii "i32" then Text.ascii "i"
  else if t = Text.ascii "int64" ∨ t = Text.ascii "i64" then Text.ascii "x"
  else if t = Text.ascii "float" ∨ t = Text.ascii "float32" then Text.ascii "d"
  else if t = Text.ascii "double" ∨ t = Text.ascii "float64" then Text.ascii "d"
  else if t = Text.ascii "string" ∨ t = Text.ascii "utf8" then Text.ascii "s"
  else Text.ascii "ay"

def buildSignatureFromSomeipTypes (someipTypes : List Text) : Text :=
  someipTypes.flatMap someipTypeToDbusSignature

def layoutComment (argSig : Text) : Text :=
  if argSig.isEmpty then []
  else
    Text.ascii "    <!-- opensomeip typed SOME/IP layout (D-Bus wire uses opaque ay): " ++ argSig ++
      Text.ascii " -->\n"

def invokeRpcXml : Text :=
  Text.ascii "    <method name=\"InvokeRpc\">\n" ++
    Text.ascii "      <arg type=\"q\" name=\"method_id\" direction=\"in\"/>\n" ++
    Text.ascii "      <arg type=\"ay\" name=\"payload\" direction=\"in\"/>\n" ++
    Text.ascii "      <arg type=\"ay\" name=\"return_payload\" direction=\"out\"/>\n" ++
    Text.ascii "    </method>\n"

def signalsXml : Text :=
  Text.ascii "    <signal name=\"SomeipNotification\">\n" ++
    Text.ascii "      <arg type=\"q\" name=\"method_or_event_id\"/>\n" ++
    Text.ascii "      <arg type=\"ay\" name=\"payload\"/>\n" ++
    Text.ascii "    </signal>\n" ++
    Text.ascii "    <signal name=\"SomeipRequest\">\n" ++
    Text.ascii "      <arg type=\"q\" name=\"method_id\"/>\n" ++
    Text.ascii "      <arg type=\"ay\" name=\"payload\"/>\n" ++
    Text.ascii "    </signal>\n"

def doctype : Text :=
  Text.ascii "<!DOCTYPE node PUBLIC \"-//freedesktop//DTD D-Bus Object Introspection 1.0//EN\"" ++
    Text.ascii " \"http://www.freedesktop.org/standards/dbus/1.0/introspect.dtd\">"

def generateIntrospectionXml (serviceId : UInt16) (methodArgTypes : List Text)
    (includeSignal : Bool) : Text :=
  doctype ++ Text.ascii "<node>\n" ++ Text.ascii "  <interface name=\"" ++
    buildInterfaceName serviceId ++ Text.ascii "\">\n" ++
    layoutComment (buildSignatureFromSomeipTypes methodArgTypes) ++ invokeRpcXml ++
    (if includeSignal then signalsXml else []) ++ Text.ascii "  </interface>\n</node>\n"

/-! ### Signatures -/

/-- The type codes that stand alone. -/
def basicTypes : Text := Text.ascii "ybnqiuxtdsogvh"

/-- One complete type, as far as arrays go. -/
inductive CompleteType : Text → Prop where
  | basic {c : UInt8} (h : c ∈ basicTypes) : CompleteType [c]
  | array {type : Text} (h : CompleteType type) : CompleteType ('a'.toUInt8 :: type)

/-- The complete types that a signature consists of. -/
def Consists (signature : Text) (types : List Text) : Prop :=
  (∀ type ∈ types, CompleteType type) ∧ types.flatten = signature

/-- A complete type ends where no other one does. -/
theorem CompleteType.append_inj {type type' rest rest' : Text} (h : CompleteType type)
    (h' : CompleteType type') (hsame : type ++ rest = type' ++ rest') :
    type = type' ∧ rest = rest' := by
  induction h generalizing type' with
  | basic hc =>
      cases h' with
      | basic hc' =>
          obtain ⟨rfl, rfl⟩ := List.cons.inj hsame
          exact ⟨rfl, rfl⟩
      | array h' =>
          rw [(List.cons.inj hsame).1] at hc
          exact absurd hc (by decide)
  | array h ih =>
      cases h' with
      | basic hc' =>
          rw [← (List.cons.inj hsame).1] at hc'
          exact absurd hc' (by decide)
      | array h' =>
          obtain ⟨rfl, rfl⟩ := ih h' (List.cons.inj hsame).2
          exact ⟨rfl, rfl⟩

theorem CompleteType.ne_nil {type : Text} (h : CompleteType type) : type ≠ [] := by
  cases h with
  | basic h => exact List.cons_ne_nil _ _
  | array h => exact List.cons_ne_nil _ _

theorem Consists.unique {signature : Text} {types types' : List Text}
    (h : Consists signature types) (h' : Consists signature types') : types = types' := by
  obtain ⟨hcomplete, rfl⟩ := h
  obtain ⟨hcomplete', hflatten⟩ := h'
  induction types generalizing types' with
  | nil =>
      cases types' with
      | nil => rfl
      | cons type' rest' =>
          have hne := (hcomplete' type' List.mem_cons_self).ne_nil
          simp [hne] at hflatten
  | cons type rest ih =>
      cases types' with
      | nil =>
          have hne := (hcomplete type List.mem_cons_self).ne_nil
          simp [hne] at hflatten
      | cons type' rest' =>
          rw [List.flatten_cons, List.flatten_cons] at hflatten
          obtain ⟨rfl, hrest⟩ := (hcomplete' type' List.mem_cons_self).append_inj
            (hcomplete type List.mem_cons_self) hflatten
          rw [ih (fun other hother => hcomplete other (List.mem_cons_of_mem _ hother))
            (fun other hother => hcomplete' other (List.mem_cons_of_mem _ hother)) hrest]

/-- Every type name, known or not, becomes one complete type. -/
theorem someipTypeToDbusSignature_complete (someipType : Text) :
    CompleteType (someipTypeToDbusSignature someipType) := by
  unfold someipTypeToDbusSignature
  iterate 11 refine iteInduction (fun _ => .basic (by decide)) fun _ => ?_
  exact .array (.basic (by decide))

theorem buildSignature_consists (someipTypes : List Text) :
    Consists (buildSignatureFromSomeipTypes someipTypes)
      (someipTypes.map someipTypeToDbusSignature) := by
  constructor
  · intro type htype
    obtain ⟨someipType, -, rfl⟩ := List.mem_map.mp htype
    exact someipTypeToDbusSignature_complete someipType
  · rw [buildSignatureFromSomeipTypes, List.flatMap_def]

theorem CompleteType.letters {type : Text} (h : CompleteType type) :
    ∀ c ∈ type, 0x20 ≤ c ∧ c ≠ '-'.toUInt8 := by
  have hbasic : basicTypes.all (fun c => 0x20 ≤ c && c != '-'.toUInt8) = true := by decide
  induction h with
  | basic h =>
      intro c hc
      rw [List.mem_singleton] at hc
      have hthis := List.all_eq_true.mp hbasic _ h
      simpa [hc] using hthis
  | array h ih =>
      intro c hc
      rcases List.mem_cons.mp hc with rfl | hc
      · decide
      · exact ih c hc

theorem buildSignature_letters (someipTypes : List Text) :
    ∀ c ∈ buildSignatureFromSomeipTypes someipTypes, 0x20 ≤ c ∧ c ≠ '-'.toUInt8 := by
  intro c hc
  obtain ⟨someipType, -, hc⟩ := List.mem_flatMap.mp hc
  exact (someipTypeToDbusSignature_complete someipType).letters c hc

/-! ### What the document says -/

/-- A row of an `sd_bus_vtable`. -/
inductive VtableEntry where
  | method (member signature result : Text)
  | signal (member signature : Text)
deriving DecidableEq

def dbusGatewayVtable : List VtableEntry :=
  [.method (Text.ascii "InvokeRpc") (Text.ascii "qay") (Text.ascii "ay"),
    .signal (Text.ascii "SomeipNotification") (Text.ascii "qay"),
    .signal (Text.ascii "SomeipRequest") (Text.ascii "qay")]

def VtableEntry.isMethod : VtableEntry → Bool
  | .method _ _ _ => true
  | .signal _ _ => false

/-- The types of the arguments of a member, joined; a direction that is not given
is the one a member has by default. -/
def argumentTypes (default direction : Text) (member : Xml.Node) : Text :=
  member.children.flatMap fun arg =>
    if arg.name = Text.ascii "arg" ∧
        (arg.attribute (Text.ascii "direction")).getD default = direction then
      (arg.attribute (Text.ascii "type")).getD []
    else []

def readMember (node : Xml.Node) : Option VtableEntry :=
  let name := (node.attribute (Text.ascii "name")).getD []
  if node.name = Text.ascii "method" then
    some (.method name (argumentTypes (Text.ascii "in") (Text.ascii "in") node)
      (argumentTypes (Text.ascii "in") (Text.ascii "out") node))
  else if node.name = Text.ascii "signal" then
    some (.signal name (argumentTypes (Text.ascii "out") (Text.ascii "out") node))
  else none

/-- What a client learns from introspection data: the interfaces and their members. -/
def readInterfaces (root : Xml.Node) : List (Text × List VtableEntry) :=
  (root.children.filter fun node => node.name = Text.ascii "interface").map fun node =>
    ((node.attribute (Text.ascii "name")).getD [], node.children.filterMap readMember)

def argAttributes (arg : List (String × String)) : List (Text × Text) :=
  arg.map fun pair => (Text.ascii pair.1, Text.ascii pair.2)

/-- A member of the interface, with the attributes of its arguments. -/
structure MemberXml where
  kind : String
  name : String
  args : List (List (String × String))

def MemberXml.node (member : MemberXml) : Xml.Node :=
  .element (Text.ascii member.kind) [(Text.ascii "name", Text.ascii member.name)]
    (member.args.map fun arg => .element (Text.ascii "arg") (argAttributes arg) [])

def invokeRpc : MemberXml where
  kind := "method"
  name := "InvokeRpc"
  args := [[("type", "q"), ("name", "method_id"), ("direction", "in")],
    [("type", "ay"), ("name", "payload"), ("direction", "in")],
    [("type", "ay"), ("name", "return_payload"), ("direction", "out")]]

def signals : List MemberXml :=
  [{ kind := "signal", name := "SomeipNotification"
     args := [[("type", "q"), ("name", "method_or_event_id")],
       [("type", "ay"), ("name", "payload")]] },
    { kind := "signal", name := "SomeipRequest"
      args := [[("type", "q"), ("name", "method_id")], [("type", "ay"), ("name", "payload")]] }]

def memberNodes (includeSignal : Bool) : List Xml.Node :=
  invokeRpc.node :: if includeSignal then signals.map MemberXml.node else []

theorem memberNodes_read (includeSignal : Bool) :
    (memberNodes includeSignal).filterMap readMember =
      dbusGatewayVtable.filter fun entry => entry.isMethod || includeSignal := by
  cases includeSignal with
  | true => decide
  | false => decide

/-! ### The document -/

def MemberXml.argsText (member : MemberXml) : Text :=
  member.args.flatMap fun arg =>
    Text.ascii "\n      " ++ (Text.ascii "<" ++ Text.ascii "arg" ++
      Xml.attributesText (argAttributes arg) ++ Text.ascii "/>")

def MemberXml.text (member : MemberXml) : Text :=
  Text.ascii "    " ++
    (Text.ascii "<" ++ Text.ascii member.kind ++
      Xml.attributesText [(Text.ascii "name", Text.ascii member.name)] ++ Text.ascii ">" ++
      (member.argsText ++ Text.ascii "\n    ") ++ Text.ascii "</" ++ Text.ascii member.kind ++
      Text.ascii ">" ++ Text.ascii "\n")

def MemberXml.check (member : MemberXml) : Bool :=
  Xml.isName (Text.ascii member.kind) &&
    Xml.checkAttributes [(Text.ascii "name", Text.ascii member.name)] &&
    member.args.all fun arg => Xml.checkAttributes (argAttributes arg)

theorem content_args {args : List (List (String × String))}
    (h : args.all (fun arg => Xml.checkAttributes (argAttributes arg)) = true) :
    Xml.Content (args.map fun arg => .element (Text.ascii "arg") (argAttributes arg) [])
      (args.flatMap fun arg => Text.ascii "\n      " ++ (Text.ascii "<" ++ Text.ascii "arg" ++
        Xml.attributesText (argAttributes arg) ++ Text.ascii "/>")) := by
  induction args with
  | nil => exact .nil
  | cons arg rest ih =>
      rw [List.all_cons, Bool.and_eq_true] at h
      have hleaf := Xml.Content.leaf (show Xml.isName (Text.ascii "arg") = true by decide) h.1
      have hline := (Xml.Content.spaces (Text.ascii "\n      ") (by decide)).append hleaf
      rw [List.map_cons, List.flatMap_cons]
      exact hline.append (ih h.2)

theorem content_members {members : List MemberXml} (h : members.all MemberXml.check = true) :
    Xml.Content (members.map MemberXml.node) (members.flatMap MemberXml.text) := by
  induction members with
  | nil => exact .nil
  | cons member rest ih =>
      simp only [List.all_cons, MemberXml.check, Bool.and_eq_true] at h
      obtain ⟨⟨⟨hkind, hname⟩, hargs⟩, hrest⟩ := h
      have hbody := (content_args hargs).append
        (Xml.Content.spaces (Text.ascii "\n    ") (by decide))
      rw [List.append_nil] at hbody
      have htag := (Xml.Content.tag hkind hname hbody).append
        (Xml.Content.spaces (Text.ascii "\n") (by decide))
      have hline := (Xml.Content.spaces (Text.ascii "    ") (by decide)).append htag
      rw [List.map_cons, List.flatMap_cons]
      exact hline.append (ih hrest)

def membersXml (includeSignal : Bool) : Text :=
  invokeRpcXml ++ if includeSignal then signalsXml else []

theorem content_membersXml (includeSignal : Bool) :
    Xml.Content (memberNodes includeSignal) (membersXml includeSignal) := by
  have hinvoke : invokeRpcXml = [invokeRpc].flatMap MemberXml.text := by decide +kernel
  have hsignals : signalsXml = signals.flatMap MemberXml.text := by decide +kernel
  have hfirst : Xml.Content ([invokeRpc].map MemberXml.node) invokeRpcXml := by
    rw [hinvoke]
    exact content_members (by decide)
  cases includeSignal with
  | true =>
      have hrest : Xml.Content (signals.map MemberXml.node) signalsXml := by
        rw [hsignals]
        exact content_members (by decide)
      exact hfirst.append hrest
  | false => exact hfirst.append .nil

theorem content_layoutComment (someipTypes : List Text) :
    Xml.Content [] (layoutComment (buildSignatureFromSomeipTypes someipTypes)) := by
  unfold layoutComment
  split_ifs
  · exact .nil
  · have hwords : Xml.isCommentBody (Text.ascii
        " opensomeip typed SOME/IP layout (D-Bus wire uses opaque ay): ") = true := by
      decide +kernel
    have hletters : ∀ c ∈ buildSignatureFromSomeipTypes someipTypes ++ Text.ascii " ",
        0x20 ≤ c ∧ c ≠ '-'.toUInt8 := by
      intro c hc
      rcases List.mem_append.mp hc with hc | hc
      · exact buildSignature_letters someipTypes c hc
      · rw [List.mem_singleton.mp hc]
        decide
    have hbody := Xml.isCommentBody_append hwords hletters
    have hcomment := (Xml.Content.spaces (Text.ascii "    ") (by decide)).append
      (.comment hbody (.spaces (Text.ascii "\n") (by decide)))
    have hbefore : Text.ascii
        "    <!-- opensomeip typed SOME/IP layout (D-Bus wire uses opaque ay): " =
      Text.ascii "    " ++ (Text.ascii "<!--" ++ Text.ascii
        " opensomeip typed SOME/IP layout (D-Bus wire uses opaque ay): ") := by decide +kernel
    have hafter : Text.ascii " -->\n" =
        Text.ascii " " ++ (Text.ascii "-->" ++ Text.ascii "\n") := by decide
    rw [hbefore, hafter]
    simpa only [List.append_assoc, List.nil_append] using hcomment

/-- The data that the document of a service stands for. -/
def introspectionRoot (serviceId : UInt16) (includeSignal : Bool) : Xml.Node :=
  .element (Text.ascii "node") []
    [.element (Text.ascii "interface") [(Text.ascii "name", buildInterfaceName serviceId)]
      (memberNodes includeSignal)]

theorem isPlainValue_interfaceName (serviceId : UInt16) :
    Xml.isPlainValue (buildInterfaceName serviceId) = true := by
  have hv : serviceId.toNat < 65536 := serviceId.toNat_lt
  have hdigit : ∀ n < 16, Xml.isPlainValue [Text.digit n] = true := by decide
  have hdigits : Xml.isPlainValue (toHex4 serviceId) = true := by
    rw [toHex4, Text.padded_hex4, Xml.isPlainValue, List.all_eq_true]
    intro c hc
    simp only [List.mem_cons, List.not_mem_nil, or_false] at hc
    rcases hc with rfl | rfl | rfl | rfl <;>
      exact List.all_eq_true.mp (hdigit _ (by omega)) _ List.mem_cons_self
  unfold buildInterfaceName Xml.isPlainValue at *
  rw [List.all_append, hdigits]
  decide

theorem document_introspection (serviceId : UInt16) (someipTypes : List Text)
    (includeSignal : Bool) :
    Xml.Document (introspectionRoot serviceId includeSignal)
      (generateIntrospectionXml serviceId someipTypes includeSignal) := by
  have hmembers := (content_layoutComment someipTypes).append (content_membersXml includeSignal)
  have hinner := ((Xml.Content.spaces (Text.ascii "\n") (by decide)).append hmembers).append
    (Xml.Content.spaces (Text.ascii "  ") (by decide))
  rw [List.nil_append, List.nil_append, List.append_nil] at hinner
  have hname : Xml.checkAttributes [(Text.ascii "name", buildInterfaceName serviceId)] = true := by
    rw [Xml.checkAttributes, isPlainValue_interfaceName]
    decide
  have hinterface := Xml.Content.tag
    (show Xml.isName (Text.ascii "interface") = true by decide) hname hinner
  have hbody := ((Xml.Content.spaces (Text.ascii "\n  ") (by decide)).append hinterface).append
    (Xml.Content.spaces (Text.ascii "\n") (by decide))
  have hnode := (Xml.Content.tag (show Xml.isName (Text.ascii "node") = true by decide)
    (show Xml.checkAttributes [] = true by decide) hbody).append
    (Xml.Content.spaces (Text.ascii "\n") (by decide))
  have hdocument := Xml.Document.mk (introspectionRoot serviceId includeSignal)
    (Text.ascii "-//freedesktop//DTD D-Bus Object Introspection 1.0//EN")
    (Text.ascii "http://www.freedesktop.org/standards/dbus/1.0/introspect.dtd")
    (by decide +kernel) (by decide +kernel) hnode
  -- the same bytes, cut at the tags
  have hdoctype : doctype = Text.ascii "<!DOCTYPE " ++ (Text.ascii "node" ++
      (Text.ascii " PUBLIC \"" ++
      (Text.ascii "-//freedesktop//DTD D-Bus Object Introspection 1.0//EN" ++
      (Text.ascii "\" \"" ++
      (Text.ascii "http://www.freedesktop.org/standards/dbus/1.0/introspect.dtd" ++
      Text.ascii "\">"))))) := by decide +kernel
  have hnodeTag : Text.ascii "<node>\n" = Text.ascii "<" ++ (Text.ascii "node" ++
      (Text.ascii ">" ++ Text.ascii "\n")) := by decide
  have hindent : Text.ascii "\n  " = Text.ascii "\n" ++ Text.ascii "  " := by decide
  have hinterfaceTag : Text.ascii "  <interface name=\"" = Text.ascii "  " ++ (Text.ascii "<" ++
      (Text.ascii "interface" ++ (Text.ascii " " ++ (Text.ascii "name" ++
      Text.ascii "=\"")))) := by decide +kernel
  have hquote : Text.ascii "\">\n" = Text.ascii "\"" ++ (Text.ascii ">" ++ Text.ascii "\n") := by
    decide
  have hend : Text.ascii "  </interface>\n</node>\n" = Text.ascii "  " ++ (Text.ascii "</" ++
      (Text.ascii "interface" ++ (Text.ascii ">" ++ (Text.ascii "\n" ++ (Text.ascii "</" ++
      (Text.ascii "node" ++ (Text.ascii ">" ++ Text.ascii "\n"))))))) := by decide +kernel
  unfold generateIntrospectionXml
  rw [hdoctype, hnodeTag, hinterfaceTag, hquote, hend]
  simpa only [Xml.attributesText, List.flatMap_cons, List.flatMap_nil, List.append_assoc,
    List.append_nil, List.nil_append, hindent, membersXml, introspectionRoot, Xml.Node.name]
    using hdocument

/-- Whatever names the caller gives the argument types: the data is a well-formed
document, it describes the members of the registered vtable under the service's
own interface, and the layout it mentions has one complete type for each argument. -/
theorem introspection_describes_vtable (serviceId : UInt16) (someipTypes : List Text)
    (includeSignal : Bool) :
    (∃ root, Xml.Document root (generateIntrospectionXml serviceId someipTypes includeSignal) ∧
      readInterfaces root = [(buildInterfaceName serviceId,
        dbusGatewayVtable.filter fun entry => entry.isMethod || includeSignal)]) ∧
      ∀ types, Consists (buildSignatureFromSomeipTypes someipTypes) types ↔
        types = someipTypes.map someipTypeToDbusSignature := by
  refine ⟨⟨introspectionRoot serviceId includeSignal, ?_, ?_⟩, fun types => ⟨fun h => ?_, ?_⟩⟩
  · exact document_introspection serviceId someipTypes includeSignal
  · rw [← memberNodes_read]
    rfl
  · exact h.unique (buildSignature_consists someipTypes)
  · rintro rfl
    exact buildSignature_consists someipTypes

end SomeipGateway.Dbus
