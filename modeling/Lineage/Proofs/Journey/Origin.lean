/-
The atom that a file and a name mean.

The paths of one file may be rooted differently; one of them then ends the other.  Such paths have
the same base name (`Rerooted.baseName_eq`), and the search accepts the base name alone, so the base
name is all that it goes by (`isSource_iff_baseName`).  It takes the first atom that has it, and a
namesake from another folder that comes earlier in the list hides the atom that was meant
(`origin_hidden`).  The main statement, `origin_found_iff`, says exactly when the atom that is found
is the one that was meant.
-/
import Lineage.Journey.Trace
import Lineage.Proofs.Schema.RoundTrip

namespace Lineage.Journey

/-! ### Paths of one file -/

/-- Two paths of one file: they are the same, or one is the end of the other, behind a slash. -/
def Rerooted (path other : List Char) : Prop :=
  other = path ∨ ('/' :: path) <:+ other ∨ ('/' :: other) <:+ path

instance (path other : List Char) : Decidable (Rerooted path other) :=
  inferInstanceAs (Decidable (_ ∨ _ ∨ _))

lemma endsPath_eq_true_iff {short long : List Char} :
    endsPath short long = true ↔ long = short ∨ ('/' :: short) <:+ long := by
  rw [endsPath, Bool.or_eq_true, beq_iff_eq, List.isSuffixOf_iff_suffix]

/-- The folder of a path does not matter for its base name. -/
lemma baseName_append_slash (folder rest : List Char) :
    baseName (folder ++ '/' :: rest) = baseName rest := by
  have hstop : ('/' :: folder.reverse).takeWhile (fun c => decide (c ≠ '/')) = [] := rfl
  rw [baseName, baseName, List.reverse_append, List.reverse_cons, List.append_assoc,
    List.singleton_append, List.takeWhile_append, hstop, List.append_nil]
  split
  case isTrue hall =>
    -- without a slash in `rest`, the slash before it stops the search
    have hbefore := List.takeWhile_prefix (l := rest.reverse) fun c => decide (c ≠ '/')
    rw [hbefore.eq_of_length hall]
  case isFalse => rfl

lemma Rerooted.baseName_eq {path other : List Char} (h : Rerooted path other) :
    baseName other = baseName path := by
  rcases h with rfl | ⟨folder, rfl⟩ | ⟨folder, rfl⟩
  · rfl
  · exact baseName_append_slash folder path
  · exact (baseName_append_slash folder other).symm

/-- Of the tests on two paths, the one on their base names decides. -/
lemma mayBeSame_eq_true_iff {path other : List Char} :
    mayBeSame path other = true ↔ baseName other = baseName path := by
  rw [mayBeSame, Bool.or_eq_true, Bool.or_eq_true, endsPath_eq_true_iff, endsPath_eq_true_iff,
    beq_iff_eq]
  constructor
  · rintro (((heq | hends) | (heq | hends)) | hbase)
    · exact congrArg baseName heq
    · exact Rerooted.baseName_eq (Or.inr (Or.inl hends))
    · exact congrArg baseName heq.symm
    · exact Rerooted.baseName_eq (Or.inr (Or.inr hends))
    · exact hbase
  · exact Or.inr

/-! ### Atoms of a name -/

/-- An atom of the given name in the given file. -/
def IsOrigin (file name : String) (a : Atom) : Prop :=
  a.name = name ∧ Rerooted (filePath file) (filePath a.filePath)

instance (file name : String) : DecidablePred (IsOrigin file name) :=
  fun _ => inferInstanceAs (Decidable (_ ∧ _))

/-- An atom of the given name in another file, which has the base name of the given one. -/
def IsNamesake (file name : String) (a : Atom) : Prop :=
  a.name = name ∧ baseName (filePath a.filePath) = baseName (filePath file) ∧
    ¬ Rerooted (filePath file) (filePath a.filePath)

instance (file name : String) : DecidablePred (IsNamesake file name) :=
  fun _ => inferInstanceAs (Decidable (_ ∧ _ ∧ _))

variable {file name : String}

lemma isSource_iff_baseName {a : Atom} :
    isSource file name a = true ↔
      a.name = name ∧ baseName (filePath a.filePath) = baseName (filePath file) := by
  rw [isSource, Bool.and_eq_true, decide_eq_true_eq, mayBeSame_eq_true_iff]

lemma isSource_iff {a : Atom} :
    isSource file name a = true ↔ IsOrigin file name a ∨ IsNamesake file name a := by
  rw [isSource_iff_baseName]
  constructor
  · rintro ⟨hname, hbase⟩
    by_cases hpath : Rerooted (filePath file) (filePath a.filePath)
    · exact Or.inl ⟨hname, hpath⟩
    · exact Or.inr ⟨hname, hbase, hpath⟩
  · rintro (⟨hname, hpath⟩ | ⟨hname, hbase, -⟩)
    · exact ⟨hname, hpath.baseName_eq⟩
    · exact ⟨hname, hbase⟩

lemma IsNamesake.not_isOrigin {a : Atom} (h : IsNamesake file name a) : ¬ IsOrigin file name a :=
  fun horigin => h.2.2 horigin.2

/-- The search goes by the base name alone. -/
lemma findSource?_eq_find? (atoms : List Atom) (file name : String) :
    findSource? atoms file name = atoms.find? fun a =>
      a.name = name ∧ baseName (filePath a.filePath) = baseName (filePath file) := by
  rw [findSource?]
  congr 1
  funext a
  rw [Bool.eq_iff_iff, isSource_iff_baseName, decide_eq_true_eq]

/-- **When the atom that was meant is found.**  The search finds the first atom of the name whose
file has the base name of the given one.  If the list has atoms of the name in the given file, it
finds one of them exactly if each namesake of another file comes behind such an atom in the list. -/
theorem origin_found_iff (atoms : List Atom) (file name : String) :
    (findSource? atoms file name = atoms.find? fun a =>
      a.name = name ∧ baseName (filePath a.filePath) = baseName (filePath file)) ∧
    ((∃ a ∈ atoms, IsOrigin file name a) →
      ∃ found ∈ atoms, findSource? atoms file name = some found ∧
        (IsOrigin file name found ∨ IsNamesake file name found) ∧
        (IsOrigin file name found ↔
          ∀ (i : Nat) (b : Atom), atoms[i]? = some b → IsNamesake file name b →
            ∃ j < i, ∃ a, atoms[j]? = some a ∧ IsOrigin file name a)) := by
  refine ⟨findSource?_eq_find? atoms file name, ?_⟩
  rintro ⟨a, hmem, ha⟩
  have hsome : (findSource? atoms file name).isSome :=
    List.find?_isSome.2 ⟨a, hmem, isSource_iff.2 (Or.inl ha)⟩
  obtain ⟨found, hfind⟩ := Option.isSome_iff_exists.1 hsome
  obtain ⟨hsource, k, hk, hfound, hfirst⟩ := List.find?_eq_some_iff_getElem.1 hfind
  have hplace : atoms[k]? = some found := List.getElem?_eq_some_iff.2 ⟨hk, hfound⟩
  -- no atom before the one that is found would do
  have hearlier : ∀ (j : Nat) (b : Atom), atoms[j]? = some b → j < k →
      ¬ (IsOrigin file name b ∨ IsNamesake file name b) := by
    intro j b hb hjk hwould
    obtain ⟨hj, rfl⟩ := List.getElem?_eq_some_iff.1 hb
    have hnot := hfirst j hjk
    rw [isSource_iff.2 hwould] at hnot
    cases hnot
  refine ⟨found, List.mem_of_getElem? hplace, hfind, isSource_iff.1 hsource, ?_, ?_⟩
  · intro horigin i b hb hnamesake
    rcases Nat.lt_trichotomy i k with hik | rfl | hki
    · exact absurd (Or.inr hnamesake) (hearlier i b hb hik)
    · rw [hplace, Option.some.injEq] at hb
      subst hb
      exact absurd horigin hnamesake.not_isOrigin
    · exact ⟨k, hki, found, hplace, horigin⟩
  · intro hbehind
    rcases isSource_iff.1 hsource with horigin | hnamesake
    · exact horigin
    · obtain ⟨j, hjk, b, hb, horigin⟩ := hbehind k found hplace hnamesake
      exact absurd (Or.inl horigin) (hearlier j b hb hjk)

/-- Two functions of one name, in files of one base name. -/
def twoFolders : List Atom :=
  [Atom.ofRequired "lib/util.js::parse" "parse" "lib/util.js",
    Atom.ofRequired "src/util.js::parse" "parse" "src/util.js"]

/-- The earlier one hides the other, also from a path that leads to the other only. -/
theorem origin_hidden :
    (∃ a ∈ twoFolders, IsOrigin "/repo/src/util.js" "parse" a) ∧
      ∃ found, findSource? twoFolders "/repo/src/util.js" "parse" = some found ∧
        found.id = "lib/util.js::parse" ∧ ¬ IsOrigin "/repo/src/util.js" "parse" found := by
  exact ⟨by decide +kernel, _, rfl, rfl, by decide +kernel⟩

/-- In the other order it is found. -/
theorem origin_found_iff_reversed :
    (∃ a ∈ twoFolders.reverse, IsOrigin "/repo/src/util.js" "parse" a) ∧
      ∃ found ∈ twoFolders.reverse,
        findSource? twoFolders.reverse "/repo/src/util.js" "parse" = some found ∧
        IsOrigin "/repo/src/util.js" "parse" found := by
  have horigin : ∃ a ∈ twoFolders.reverse, IsOrigin "/repo/src/util.js" "parse" a := by
    decide +kernel
  obtain ⟨found, hmem, hfind, -, hiff⟩ :=
    (origin_found_iff twoFolders.reverse "/repo/src/util.js" "parse").2 horigin
  refine ⟨horigin, found, hmem, hfind, hiff.2 fun i b hb hnamesake => ?_⟩
  cases i with
  | zero =>
      cases hb
      exact absurd hnamesake (by decide +kernel)
  | succ i => exact ⟨0, i.succ_pos, _, rfl, by decide +kernel⟩

end Lineage.Journey
