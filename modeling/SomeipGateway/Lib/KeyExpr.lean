import Mathlib.Data.List.Infix
import SomeipGateway.Lib.Path

/-! Key expressions: paths in which `*` stands for any one chunk and `**` for any
sequence of chunks. -/
namespace Lib.KeyExpr

def anyChunk : Text := Text.ascii "*"
def anyChunks : Text := Text.ascii "**"

def coversChunks : List Text → List Text → Bool
  | [], key => key.isEmpty
  | chunk :: pattern, key =>
      if chunk == anyChunks then key.tails.any (coversChunks pattern)
      else
        match key with
        | [] => false
        | first :: rest => (chunk == anyChunk || chunk == first) && coversChunks pattern rest

def covers (pattern key : Text) : Bool :=
  coversChunks (Path.elements pattern) (Path.elements key)

def IsLiteral (chunk : Text) : Prop := chunk ≠ anyChunk ∧ chunk ≠ anyChunks

theorem coversChunks_nil (key : List Text) : coversChunks [anyChunks] key = true := by
  have hnil : [] ∈ key.tails := (List.mem_tails [] key).mpr List.nil_suffix
  exact List.any_eq_true.mpr ⟨[], hnil, rfl⟩

/-- Literal chunks and a final `**` cover the keys that begin with these chunks. -/
theorem coversChunks_final {literals : List Text} (h : ∀ chunk ∈ literals, IsLiteral chunk)
    (key : List Text) :
    coversChunks (literals ++ [anyChunks]) key = true ↔ literals <+: key := by
  induction literals generalizing key with
  | nil => simp [coversChunks_nil]
  | cons chunk literals ih =>
      have hchunk := h chunk List.mem_cons_self
      have hrest := ih fun other hother => h other (List.mem_cons_of_mem _ hother)
      cases key with
      | nil => simp [coversChunks, hchunk.2]
      | cons first rest =>
          simp [coversChunks, hchunk.1, hchunk.2, hrest, List.cons_prefix_cons]

/-- The same on texts. -/
theorem covers_final {stem : Text} (h : '*'.toUInt8 ∉ stem) (key : Text) :
    covers (stem ++ Text.ascii "/**") key = true ↔
      key = stem ∨ stem ++ Text.ascii "/" <+: key := by
  have hpattern : Path.elements (stem ++ Text.ascii "/**") = Path.elements stem ++ [anyChunks] :=
    Path.elements_append stem anyChunks
  have hliteral : ∀ chunk ∈ Path.elements stem, IsLiteral chunk := by
    intro chunk hchunk
    constructor
    · rintro rfl
      exact h (Path.mem_of_mem_elements (by decide) hchunk)
    · rintro rfl
      exact h (Path.mem_of_mem_elements (by decide) hchunk)
  rw [covers, hpattern, coversChunks_final hliteral]
  exact Path.elements_prefix_iff stem key

/-- Literal chunks cover themselves only. -/
theorem coversChunks_literal {literals : List Text} (h : ∀ chunk ∈ literals, IsLiteral chunk)
    (key : List Text) : coversChunks literals key = true ↔ literals = key := by
  induction literals generalizing key with
  | nil => cases key <;> simp [coversChunks]
  | cons chunk literals ih =>
      have hchunk := h chunk List.mem_cons_self
      have hrest := ih fun other hother => h other (List.mem_cons_of_mem _ hother)
      cases key with
      | nil => simp [coversChunks, hchunk.2]
      | cons first rest => simp [coversChunks, hchunk.1, hchunk.2, hrest]

theorem covers_literal {path : Text} (h : '*'.toUInt8 ∉ path) (key : Text) :
    covers path key = true ↔ path = key := by
  have hliteral : ∀ chunk ∈ Path.elements path, IsLiteral chunk := by
    intro chunk hchunk
    constructor
    · rintro rfl
      exact h (Path.mem_of_mem_elements (by decide) hchunk)
    · rintro rfl
      exact h (Path.mem_of_mem_elements (by decide) hchunk)
  rw [covers, coversChunks_literal hliteral]
  constructor
  · intro helements
    rw [← Path.intercalate_elements path, helements, Path.intercalate_elements]
  · rintro rfl
    rfl

end Lib.KeyExpr
