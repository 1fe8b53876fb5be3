import Mathlib.Data.List.DropRight
import SomeipGateway.Lib.Text

/-! Texts whose elements are separated by slashes, and the words over letters,
digits and the underscore that such elements are often confined to. -/
namespace Lib.Path

def slash : UInt8 := '/'.toUInt8

def elements (path : Text) : List Text := path.splitOn slash

def isWordChar (c : UInt8) : Bool :=
  ('A'.toUInt8 ≤ c && c ≤ 'Z'.toUInt8) || ('a'.toUInt8 ≤ c && c ≤ 'z'.toUInt8) ||
    Text.isDigit c || c == '_'.toUInt8

def isWord (element : Text) : Bool := !element.isEmpty && element.all isWordChar

/-- Words with a single slash between each two of them. -/
def hasWords (path : Text) : Bool := (elements path).all isWord

/-- The elements that are not empty. -/
def pieces (path : Text) : List Text := (elements path).filter fun element => !element.isEmpty

/-- The runs of characters other than the slash, in order and each as long as it
can be: a run ends with the path or in front of a slash. -/
inductive Runs : Text → List Text → Prop
  | done : Runs [] []
  | skip {path : Text} {runs : List Text} (rest : Runs path runs) : Runs (slash :: path) runs
  | run {run path : Text} {runs : List Text} (nonempty : run ≠ []) (inside : slash ∉ run)
      (stops : path = [] ∨ path.head? = some slash) (rest : Runs path runs) :
      Runs (run ++ path) (run :: runs)

/-- Without the characters `c` at its end. -/
def trimEnd (c : UInt8) (text : Text) : Text := text.rdropWhile (· == c)

theorem elements_append (left right : Text) :
    elements (left ++ slash :: right) = elements left ++ elements right :=
  List.splitOn_append_cons_self left right

theorem elements_of_notMem {path : Text} (h : slash ∉ path) : elements path = [path] :=
  List.splitOn_eq_singleton h

theorem intercalate_elements (path : Text) : [slash].intercalate (elements path) = path :=
  List.intercalate_splitOn slash

theorem mem_intercalate {separator element : Text} {elements : List Text} {c : UInt8}
    (hc : c ∈ element) (h : element ∈ elements) : c ∈ separator.intercalate elements := by
  induction elements with
  | nil => exact absurd h List.not_mem_nil
  | cons first rest ih =>
      cases rest with
      | nil =>
          rw [List.intercalate_singleton, ← List.mem_singleton.mp h]
          exact hc
      | cons second rest =>
          rw [List.intercalate_cons_cons, List.mem_append]
          rcases List.mem_cons.mp h with rfl | hrest
          · exact .inl (List.mem_append_left _ hc)
          · exact .inr (ih hrest)

theorem mem_of_mem_elements {path element : Text} {c : UInt8} (hc : c ∈ element)
    (h : element ∈ elements path) : c ∈ path := by
  rw [← intercalate_elements path]
  exact mem_intercalate hc h

theorem intercalate_append {separator : Text} {left right : List Text} (hleft : left ≠ [])
    (hright : right ≠ []) :
    separator.intercalate (left ++ right) =
      separator.intercalate left ++ separator ++ separator.intercalate right := by
  induction left with
  | nil => exact absurd rfl hleft
  | cons first rest ih =>
      cases rest with
      | nil =>
          rw [List.singleton_append, List.intercalate_cons_of_ne_nil hright,
            List.intercalate_singleton]
      | cons second rest =>
          rw [List.cons_append, List.cons_append, List.intercalate_cons_cons,
            List.intercalate_cons_cons, ← List.cons_append, ih (List.cons_ne_nil _ _)]
          simp only [List.append_assoc]

/-- A path begins with the elements of another where it is that path, or goes on
behind it with a slash. -/
theorem elements_prefix_iff (stem path : Text) :
    elements stem <+: elements path ↔ path = stem ∨ stem ++ [slash] <+: path := by
  constructor
  · rintro ⟨rest, hrest⟩
    have hpath := intercalate_elements path
    rw [← hrest] at hpath
    by_cases hnone : rest = []
    · rw [hnone, List.append_nil, intercalate_elements] at hpath
      exact .inl hpath.symm
    · have hstem : elements stem ≠ [] := List.splitOn_ne_nil slash stem
      rw [intercalate_append hstem hnone, intercalate_elements] at hpath
      exact .inr ⟨_, hpath⟩
  · rintro (rfl | ⟨rest, rfl⟩)
    · exact List.prefix_rfl
    · rw [List.append_assoc, List.singleton_append, elements_append]
      exact List.prefix_append _ _

/-! ### Elements that are not empty -/

theorem pieces_slash (path : Text) : pieces (slash :: path) = pieces path := by
  rw [pieces, ← List.nil_append (slash :: path), elements_append]
  rfl

theorem pieces_of_notMem {run : Text} (hne : run ≠ []) (hrun : slash ∉ run) :
    pieces run = [run] := by
  rw [pieces, elements_of_notMem hrun]
  simp [hne]

theorem pieces_run_append {run path : Text} (hne : run ≠ []) (hrun : slash ∉ run)
    (hstops : path = [] ∨ path.head? = some slash) : pieces (run ++ path) = run :: pieces path := by
  rcases hstops with rfl | hslash
  · rw [List.append_nil, pieces_of_notMem hne hrun]
    rfl
  · obtain ⟨rest, rfl⟩ : ∃ rest, path = slash :: rest := by
      cases path with
      | nil => cases hslash
      | cons c rest => exact ⟨rest, by rw [Option.some.inj hslash]⟩
    rw [pieces_slash, pieces, elements_append, List.filter_append]
    exact congrArg (· ++ pieces rest) (pieces_of_notMem hne hrun)

/-- A path is a run, which may be empty, and what begins with the next slash. -/
theorem cut_at_slash (path : Text) :
    slash ∉ path.takeWhile (· != slash) ∧
      (path.dropWhile (· != slash) = [] ∨ (path.dropWhile (· != slash)).head? = some slash) := by
  constructor
  · intro hslash
    have hkept := List.mem_takeWhile_imp hslash
    exact absurd hkept (by simp)
  · have hhead := List.head?_dropWhile_not (· != slash) path
    cases hrest : path.dropWhile (· != slash) with
    | nil => exact .inl rfl
    | cons c rest =>
        rw [hrest] at hhead
        right
        simpa using hhead

theorem pieces_cut (path : Text) :
    pieces path =
      (if (path.takeWhile (· != slash)).isEmpty then [] else [path.takeWhile (· != slash)]) ++
        pieces (path.dropWhile (· != slash)) := by
  obtain ⟨hrun, hstops⟩ := cut_at_slash path
  have hpath := List.takeWhile_append_dropWhile (p := (· != slash)) (l := path)
  by_cases hne : path.takeWhile (· != slash) = []
  · rw [hne, List.nil_append] at hpath
    rw [hne, hpath]
    rfl
  · rw [if_neg (by simpa using hne), List.singleton_append, ← pieces_run_append hne hrun hstops,
      hpath]

theorem pieces_dropWhile (path : Text) : pieces (path.dropWhile (· == slash)) = pieces path := by
  induction path with
  | nil => rfl
  | cons c path ih =>
      by_cases hc : c = slash
      · rw [hc, pieces_slash, List.dropWhile_cons_of_pos (by simp)]
        exact ih
      · rw [List.dropWhile_cons_of_neg (by simpa using hc)]

theorem Runs.eq_pieces {path : Text} {runs : List Text} (h : Runs path runs) :
    runs = pieces path := by
  induction h with
  | done => rfl
  | skip rest ih => rw [ih, pieces_slash]
  | run nonempty inside stops rest ih => rw [ih, pieces_run_append nonempty inside stops]

theorem runs_pieces (path : Text) : Runs path (pieces path) := by
  -- each run and each slash leaves less of the path
  induction hlength : path.length using Nat.strong_induction_on generalizing path with
  | _ length ih =>
      cases path with
      | nil => exact .done
      | cons c rest =>
          by_cases hc : c = slash
          · rw [hc, pieces_slash]
            exact .skip (ih rest.length (by simp [← hlength]) rest rfl)
          · obtain ⟨hrun, hstops⟩ := cut_at_slash (c :: rest)
            have hpath := List.takeWhile_append_dropWhile (p := (· != slash)) (l := c :: rest)
            have hne : (c :: rest).takeWhile (· != slash) ≠ [] := by simp [hc]
            have hshorter : ((c :: rest).dropWhile (· != slash)).length < length := by
              have hsum := congrArg List.length hpath
              have hpos := List.length_pos_iff.mpr hne
              rw [List.length_append] at hsum
              omega
            rw [← hpath, pieces_run_append hne hrun hstops]
            exact .run hne hrun hstops (ih _ hshorter _ rfl)

/-- The runs of a path are its elements that are not empty. -/
theorem runs_iff_eq_pieces (path : Text) (runs : List Text) :
    Runs path runs ↔ runs = pieces path := by
  constructor
  · exact Runs.eq_pieces
  · rintro rfl
    exact runs_pieces path

/-! ### Words -/

theorem isWordChar_digit : ∀ n < 16, isWordChar (Text.digit n) = true := by decide

theorem slash_notMem_of_word {element : Text} (h : isWord element = true) : slash ∉ element := by
  intro hslash
  rw [isWord, Bool.and_eq_true] at h
  exact absurd (List.all_eq_true.mp h.2 slash hslash) (by decide)

theorem hasWords_append (left right : Text) :
    hasWords (left ++ slash :: right) = (hasWords left && hasWords right) := by
  rw [hasWords, elements_append, List.all_append]
  rfl

theorem hasWords_of_word {element : Text} (h : isWord element = true) :
    hasWords element = true := by
  rw [hasWords, elements_of_notMem (slash_notMem_of_word h), List.all_cons, List.all_nil, h]
  rfl

theorem hasWords_nil : hasWords [] = false := by decide

/-- Words end with a character of a word. -/
theorem hasWords_concat_slash (path : Text) : hasWords (path ++ [slash]) = false := by
  rw [hasWords_append, hasWords_nil, Bool.and_false]

theorem trimEnd_replicate (c : UInt8) (text : Text) (count : Nat) :
    trimEnd c (text ++ List.replicate count c) = trimEnd c text := by
  induction count with
  | zero => rw [List.replicate_zero, List.append_nil]
  | succ count ih =>
      rw [List.replicate_succ', ← List.append_assoc, trimEnd,
        List.rdropWhile_concat_pos _ _ _ (by simp)]
      exact ih

theorem trimEnd_eq_self {c : UInt8} {text : Text} (h : text.getLast? ≠ some c) :
    trimEnd c text = text := by
  rw [trimEnd, List.rdropWhile_eq_self_iff]
  intro hne hlast
  apply h
  rw [List.getLast?_eq_getLast_of_ne_nil hne, eq_of_beq hlast]

theorem trimEnd_getLast? (c : UInt8) (text : Text) : (trimEnd c text).getLast? ≠ some c := by
  intro hlast
  have hne : trimEnd c text ≠ [] := by
    intro hnil
    rw [hnil] at hlast
    cases hlast
  have hkept := List.rdropWhile_last_not (· == c) text hne
  rw [List.getLast?_eq_getLast_of_ne_nil hne] at hlast
  exact hkept (beq_iff_eq.mpr (Option.some.inj hlast))

end Lib.Path
