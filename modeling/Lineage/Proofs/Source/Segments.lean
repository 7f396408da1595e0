/-
Imports and files, segment by segment.

Whether an import points at a file is decided on texts: the file's path is the target, or it ends
with a slash and the target.  The segments of a path joined by slashes are the path again, and a
slash separates the segments before it from those behind it (`segments_append_slash`).  So the test
on texts is a test on lists of segments (`segments_suffix_iff`), and a match begins where a folder
ends, never inside a segment (`exists_isFolder_iff`).  The main statement is
`importReferences_iff_segments`.
-/
import Lineage.Proofs.Source.Normalize

namespace Lineage.Source

/-! ### Segments of a path -/

/-- The parts of a path between its slashes. -/
def segments (path : List Char) : List (List Char) :=
  path.splitOn '/'

lemma segments_ne_nil (path : List Char) : segments path ≠ [] :=
  List.splitOn_ne_nil _ _

lemma intercalate_segments (path : List Char) : ['/'].intercalate (segments path) = path :=
  List.intercalate_splitOn '/'

lemma segments_append_slash (folder rest : List Char) :
    segments (folder ++ '/' :: rest) = segments folder ++ segments rest :=
  List.splitOn_append_cons_self folder rest

lemma segments_of_notMem {path : List Char} (h : '/' ∉ path) : segments path = [path] :=
  List.splitOn_eq_singleton h

/-- Two runs of segments are joined by one more slash. -/
lemma intercalate_append {run rest : List (List Char)} (hrun : run ≠ []) (hrest : rest ≠ []) :
    ['/'].intercalate (run ++ rest) =
      ['/'].intercalate run ++ '/' :: ['/'].intercalate rest := by
  induction run with
  | nil => exact absurd rfl hrun
  | cons segment run ih =>
      have hmore : run ++ rest ≠ [] := List.append_ne_nil_of_right_ne_nil run hrest
      rw [List.cons_append, List.intercalate_cons_of_ne_nil hmore]
      cases run with
      | nil => simp
      | cons next run =>
          rw [ih (List.cons_ne_nil next run), List.intercalate_cons_cons]
          simp only [List.append_assoc, List.cons_append]

/-- The segments of one path end those of another if the paths are the same, or if the other one
ends with a slash and the first one. -/
lemma segments_suffix_iff {short long : List Char} :
    segments short <:+ segments long ↔ long = short ∨ ('/' :: short) <:+ long := by
  constructor
  · rintro ⟨run, hrun⟩
    by_cases hnil : run = []
    · left
      rw [← intercalate_segments long, ← hrun, hnil, List.nil_append, intercalate_segments]
    · right
      refine ⟨['/'].intercalate run, ?_⟩
      calc ['/'].intercalate run ++ '/' :: short
          = ['/'].intercalate run ++ '/' :: ['/'].intercalate (segments short) := by
            rw [intercalate_segments]
        _ = ['/'].intercalate (run ++ segments short) :=
            (intercalate_append hnil (segments_ne_nil short)).symm
        _ = long := by rw [hrun, intercalate_segments]
  · rintro (rfl | ⟨folder, rfl⟩)
    · exact List.suffix_rfl
    · rw [segments_append_slash]
      exact List.suffix_append _ _

/-- Before the end of a path that begins behind a slash, or is the whole of it, is a folder. -/
lemma exists_isFolder_iff {short long : List Char} :
    (∃ folder, IsFolder folder ∧ long = folder ++ short) ↔
      long = short ∨ ('/' :: short) <:+ long := by
  constructor
  · rintro ⟨folder, hfolder, rfl⟩
    rcases isFolder_iff.1 hfolder with rfl | ⟨parent, rfl⟩
    · exact Or.inl (List.nil_append short)
    · exact Or.inr ⟨parent, by simp⟩
  · rintro (rfl | ⟨parent, rfl⟩)
    · exact ⟨[], Or.inl rfl, (List.nil_append long).symm⟩
    · exact ⟨parent ++ ['/'], Or.inr List.getLast?_concat, by simp⟩

/-! ### Matches -/

lemma importReferences_eq_true_iff {source file : String} :
    importReferences source file = true ↔
      source ≠ "" ∧ file ≠ "" ∧ importTarget source.toList ≠ [] ∧
        (normalize file.toList = importTarget source.toList ∨
          ('/' :: importTarget source.toList) <:+ normalize file.toList) := by
  have hempty : (source.isEmpty || file.isEmpty) = true ↔ source = "" ∨ file = "" := by
    rw [Bool.or_eq_true, String.isEmpty_iff, String.isEmpty_iff]
  rw [importReferences]
  split
  case isTrue h =>
    rcases hempty.1 h with rfl | rfl
    · simp
    · simp
  case isFalse h =>
    rw [hempty, not_or] at h
    simp only [Bool.and_eq_true, Bool.or_eq_true, Bool.not_eq_true', List.isEmpty_eq_false_iff,
      beq_iff_eq, List.isSuffixOf_iff_suffix, h.1, h.2, ne_eq, not_false_eq_true, true_and]

/-- **Imports match segment by segment.**  An import points at a file exactly if neither text is
empty, the target is not empty either, and the segments of the target are the last segments of the
file's path; in other words, the path is that of some folder and then the target. -/
theorem importReferences_iff_segments (source file : String) :
    (importReferences source file = true ↔
      source ≠ "" ∧ file ≠ "" ∧ importTarget source.toList ≠ [] ∧
        segments (importTarget source.toList) <:+ segments (normalize file.toList)) ∧
    (importReferences source file = true ↔
      source ≠ "" ∧ file ≠ "" ∧ importTarget source.toList ≠ [] ∧
        ∃ folder, IsFolder folder ∧
          normalize file.toList = folder ++ importTarget source.toList) := by
  rw [segments_suffix_iff, exists_isFolder_iff]
  exact ⟨importReferences_eq_true_iff, importReferences_eq_true_iff⟩

end Lineage.Source
