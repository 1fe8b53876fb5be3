import SomeipGateway.Lib.Text

/-! Well-formed XML as far as elements, attributes, comments and white space go.
White space and comments say nothing; what is left of a document is its elements. -/
namespace Lib.Xml

inductive Node where
  | element (name : Text) (attributes : List (Text × Text)) (children : List Node)

def Node.name : Node → Text
  | .element name _ _ => name

def Node.attribute (key : Text) : Node → Option Text
  | .element _ attributes _ => attributes.lookup key

def Node.children : Node → List Node
  | .element _ _ children => children

def isSpace (c : UInt8) : Bool := c == 0x20 || c == 0x09 || c == 0x0a || c == 0x0d

def isNameStart (c : UInt8) : Bool :=
  ('a'.toUInt8 ≤ c && c ≤ 'z'.toUInt8) || ('A'.toUInt8 ≤ c && c ≤ 'Z'.toUInt8) ||
    c == '_'.toUInt8

def isNameChar (c : UInt8) : Bool :=
  isNameStart c || Text.isDigit c || c == '-'.toUInt8 || c == '.'.toUInt8

/-- The names of the ASCII range, without the colon of the namespaces. -/
def isName : Text → Bool
  | [] => false
  | first :: rest => isNameStart first && rest.all isNameChar

/-- A value as it stands between double quotes, where nothing is escaped. -/
def isPlainValue (value : Text) : Bool :=
  value.all fun c => 0x20 ≤ c && c != '"'.toUInt8 && c != '<'.toUInt8 && c != '&'.toUInt8

/-- No two hyphens in a row, and none before the two that end the comment. -/
def isCommentBody (body : Text) : Bool :=
  body.all (fun c => 0x20 ≤ c || isSpace c) && Text.avoids '-'.toUInt8 '-'.toUInt8 body

inductive Attributes : List (Text × Text) → Text → Prop where
  | nil : Attributes [] []
  | cons {name value : Text} {attributes : List (Text × Text)} {text : Text}
      (hname : isName name = true) (hvalue : isPlainValue value = true)
      (hnew : attributes.lookup name = none) (rest : Attributes attributes text) :
      Attributes ((name, value) :: attributes)
        (Text.ascii " " ++ name ++ Text.ascii "=\"" ++ value ++ Text.ascii "\"" ++ text)

/-- The text between two tags, with the elements in it. -/
inductive Content : List Node → Text → Prop where
  | nil : Content [] []
  | space {c : UInt8} {nodes : List Node} {text : Text} (h : isSpace c = true)
      (rest : Content nodes text) : Content nodes (c :: text)
  | comment {body : Text} {nodes : List Node} {text : Text} (h : isCommentBody body = true)
      (rest : Content nodes text) :
      Content nodes (Text.ascii "<!--" ++ body ++ Text.ascii "-->" ++ text)
  | empty {name : Text} {attributes : List (Text × Text)} {nodes : List Node}
      {within text : Text} (hname : isName name = true) (h : Attributes attributes within)
      (rest : Content nodes text) :
      Content (.element name attributes [] :: nodes)
        (Text.ascii "<" ++ name ++ within ++ Text.ascii "/>" ++ text)
  | element {name : Text} {attributes : List (Text × Text)} {children nodes : List Node}
      {within inner text : Text} (hname : isName name = true) (h : Attributes attributes within)
      (body : Content children inner) (rest : Content nodes text) :
      Content (.element name attributes children :: nodes)
        (Text.ascii "<" ++ name ++ within ++ Text.ascii ">" ++ inner ++ Text.ascii "</" ++ name ++
          Text.ascii ">" ++ text)

/-- A document type with the name of the root and two literals, then the root. -/
inductive Document : Node → Text → Prop where
  | mk (root : Node) (publicId systemId : Text) {text : Text}
      (hpublic : isPlainValue publicId = true) (hsystem : isPlainValue systemId = true)
      (body : Content [root] text) :
      Document root (Text.ascii "<!DOCTYPE " ++ root.name ++ Text.ascii " PUBLIC \"" ++ publicId ++
        Text.ascii "\" \"" ++ systemId ++ Text.ascii "\">" ++ text)

/-! ### Building content -/

theorem Content.append {first second : List Node} {left right : Text} (hfirst : Content first left)
    (hsecond : Content second right) : Content (first ++ second) (left ++ right) := by
  induction hfirst with
  | nil => exact hsecond
  | space h rest ih => exact .space h ih
  | comment h rest ih =>
      rw [List.append_assoc]
      exact .comment h ih
  | empty hname h rest ih =>
      rw [List.append_assoc]
      exact .empty hname h ih
  | element hname h body rest _ ih =>
      rw [List.append_assoc]
      exact .element hname h body ih

theorem Content.spaces (text : Text) (h : text.all isSpace = true) : Content [] text := by
  induction text with
  | nil => exact .nil
  | cons c rest ih =>
      rw [List.all_cons, Bool.and_eq_true] at h
      exact .space h.1 (ih h.2)

def attributesText (attributes : List (Text × Text)) : Text :=
  attributes.flatMap fun pair =>
    Text.ascii " " ++ pair.1 ++ Text.ascii "=\"" ++ pair.2 ++ Text.ascii "\""

/-- Attributes that can stand in one tag. -/
def checkAttributes : List (Text × Text) → Bool
  | [] => true
  | (name, value) :: rest =>
      isName name && isPlainValue value && (rest.lookup name).isNone && checkAttributes rest

theorem attributes_of_check {attributes : List (Text × Text)}
    (h : checkAttributes attributes = true) :
    Attributes attributes (attributesText attributes) := by
  induction attributes with
  | nil => exact .nil
  | cons pair rest ih =>
      obtain ⟨name, value⟩ := pair
      simp only [checkAttributes, Bool.and_eq_true, Option.isNone_iff_eq_none] at h
      rw [attributesText, List.flatMap_cons]
      exact .cons h.1.1.1 h.1.1.2 h.1.2 (ih h.2)

/-- An element without content. -/
theorem Content.leaf {name : Text} {attributes : List (Text × Text)} (hname : isName name = true)
    (h : checkAttributes attributes = true) :
    Content [.element name attributes []]
      (Text.ascii "<" ++ name ++ attributesText attributes ++ Text.ascii "/>") := by
  have hleaf := Content.empty hname (attributes_of_check h) .nil
  rwa [List.append_nil] at hleaf

/-- An element around content. -/
theorem Content.tag {name : Text} {attributes : List (Text × Text)} {children : List Node}
    {inner : Text} (hname : isName name = true) (h : checkAttributes attributes = true)
    (body : Content children inner) :
    Content [.element name attributes children]
      (Text.ascii "<" ++ name ++ attributesText attributes ++ Text.ascii ">" ++ inner ++
        Text.ascii "</" ++ name ++ Text.ascii ">") := by
  have htag := Content.element hname (attributes_of_check h) body .nil
  rwa [List.append_nil] at htag

theorem avoids_append {first second : UInt8} {left right : Text}
    (hleft : Text.avoids first second left = true)
    (hright : Text.avoids first second right = true) :
    Text.avoids first second (left ++ right) = true := by
  induction left with
  | nil => exact hright
  | cons c tail ih =>
      cases tail with
      | nil =>
          have hc : c ≠ first := by simpa [Text.avoids] using hleft
          cases right with
          | nil => exact hleft
          | cons d rest => simpa [Text.avoids, hc] using hright
      | cons d tail =>
          simp only [Text.avoids, List.cons_append, Bool.and_eq_true] at hleft ih ⊢
          exact ⟨hleft.1, ih hleft.2⟩

theorem avoids_of_notMem {first second : UInt8} {text : Text} (h : first ∉ text) :
    Text.avoids first second text = true := by
  induction text with
  | nil => rfl
  | cons c tail ih =>
      have hc : c ≠ first := by
        rintro rfl
        exact h List.mem_cons_self
      have htail := ih fun hmem => h (List.mem_cons_of_mem c hmem)
      cases tail with
      | nil => simpa [Text.avoids] using hc
      | cons d rest => simpa [Text.avoids, hc] using htail

/-- More of a comment, as long as it brings no hyphen of its own. -/
theorem isCommentBody_append {left right : Text} (hleft : isCommentBody left = true)
    (hright : ∀ c ∈ right, 0x20 ≤ c ∧ c ≠ '-'.toUInt8) :
    isCommentBody (left ++ right) = true := by
  unfold isCommentBody at hleft ⊢
  rw [Bool.and_eq_true] at hleft ⊢
  constructor
  · rw [List.all_append, hleft.1, Bool.true_and, List.all_eq_true]
    intro c hc
    simp [(hright c hc).1]
  · apply avoids_append hleft.2
    exact avoids_of_notMem fun hmem => (hright _ hmem).2 rfl

end Lib.Xml
