/-
Imports and files under other spellings.

One more step to this folder or to the parent folder, with either separator, before an import that
does not begin with a blank leaves its target as it is (`importTarget_step_append`); so do any
number of them (`importTarget_steps_append`).  And a path with the extension of a source file has
the same form under any of them (`normalize_append_extension`).  The main statement is
`importReferences_respelled`.
-/
import Lineage.Proofs.Source.OwnImport
import Lineage.Proofs.Text.Trim

namespace Lineage.Source

open Text

/-! ### Relative prefixes -/

/-- The steps to this folder and to the parent folder, with either separator. -/
def relativeSteps : List String := ["./", "../", ".\\", "..\\"]

lemma substitute_step : ∀ step ∈ relativeSteps,
    substitute '\\' '/' step.toList = ['.', '/'] ∨
      substitute '\\' '/' step.toList = ['.', '.', '/'] := by
  decide +kernel

lemma head?_step : ∀ step ∈ relativeSteps, step.toList.head? = some '.' := by
  decide +kernel

lemma head?_substitute_any_isBlank {cs : List Char} (h : cs.head?.any isBlank = false) :
    (substitute '\\' '/' cs).head?.any isBlank = false := by
  cases cs with
  | nil => rfl
  | cons c cs =>
      rw [substitute, List.map_cons, List.head?_cons, Option.any_some]
      split
      · exact (isPlain_slash '/' List.mem_cons_self).1
      · exact h

/-- A step before a text that does not begin with a blank is put into form by itself. -/
lemma slashed_step_append {step : String} (hstep : step ∈ relativeSteps) {cs : List Char}
    (hcs : cs.head?.any isBlank = false) :
    slashed (step.toList ++ cs) = substitute '\\' '/' step.toList ++ slashed cs := by
  have hslash : isBlank '/' = false := (isPlain_slash '/' List.mem_cons_self).1
  have hpoint : isBlank '.' = false := by decide
  rw [slashed, slashed, substitute_append, trim, trim,
    dropWhile_of_head (head?_substitute_any_isBlank hcs)]
  rcases substitute_step step hstep with heq | heq
  · rw [heq, dropWhile_of_head (by simpa using hpoint)]
    exact trimEnd_append_cons hslash ['.'] _
  · rw [heq, dropWhile_of_head (by simpa using hpoint)]
    exact trimEnd_append_cons hslash ['.', '.'] _

lemma dropRelative_step_append {step : String} (hstep : step ∈ relativeSteps) (cs : List Char) :
    dropRelative (substitute '\\' '/' step.toList ++ cs) = dropRelative cs := by
  rcases substitute_step step hstep with heq | heq
  · rw [heq, List.cons_append, List.cons_append, List.nil_append, dropRelative]
  · rw [heq, List.cons_append, List.cons_append, List.cons_append, List.nil_append, dropRelative]

/-- One more step before an import leaves its target as it is. -/
lemma importTarget_step_append {step : String} (hstep : step ∈ relativeSteps) {cs : List Char}
    (hcs : cs.head?.any isBlank = false) :
    importTarget (step.toList ++ cs) = importTarget cs := by
  rw [importTarget, slashed_step_append hstep hcs, dropRelative_step_append hstep, importTarget]

/-- Any number of steps before an import leaves its target as it is. -/
lemma importTarget_steps_append {steps : List String}
    (hsteps : ∀ step ∈ steps, step ∈ relativeSteps) {cs : List Char}
    (hcs : cs.head?.any isBlank = false) :
    importTarget (steps.flatMap String.toList ++ cs) = importTarget cs := by
  -- each step is taken off before a text that begins with a point or is the import itself
  have hrun : ((steps.flatMap String.toList ++ cs).head?.any isBlank = false) ∧
      importTarget (steps.flatMap String.toList ++ cs) = importTarget cs := by
    induction steps with
    | nil => exact ⟨hcs, rfl⟩
    | cons step steps ih =>
        obtain ⟨hstep, hsteps⟩ := List.forall_mem_cons.1 hsteps
        obtain ⟨hhead, htarget⟩ := ih hsteps
        rw [List.flatMap_cons, List.append_assoc]
        refine ⟨?_, (importTarget_step_append hstep hhead).trans htarget⟩
        rw [List.head?_append, head?_step step hstep, Option.some_or]
        decide
  exact hrun.2

/-! ### Extensions -/

/-- A path has one form under all extensions. -/
lemma normalize_append_extension (path : List Char) {extension : String}
    (h : extension ∈ extensions) :
    normalize (path ++ extension.toList) =
      dropEnding folderFiles ((substitute '\\' '/' path).dropWhile isBlank) := by
  have hne : extension.toList ≠ [] := List.ne_nil_of_mem (dot_mem_extension extension h)
  rw [normalize, slashed_append_plain path (isPlain_extension extension h) hne,
    dropEnding_append h (extensions_free extension h)]

/-! ### Matches -/

/-- Whether an import points at a file depends on the target and on the path in the form that is
compared; the empty import has no target. -/
lemma importReferences_congr {source source' file file' : String}
    (htarget : importTarget source.toList = importTarget source'.toList)
    (hempty : file = "" ↔ file' = "")
    (hfile : normalize file.toList = normalize file'.toList) :
    importReferences source file = importReferences source' file' := by
  have hsource : ∀ {s : String}, importTarget s.toList ≠ [] → s ≠ "" := by
    rintro s htarget rfl
    exact htarget (by decide)
  rw [Bool.eq_iff_iff, importReferences_eq_true_iff, importReferences_eq_true_iff, ne_eq file,
    hempty, hfile]
  constructor
  · rintro ⟨-, hne, htarget_ne, hmatch⟩
    rw [htarget] at htarget_ne hmatch
    exact ⟨hsource htarget_ne, hne, htarget_ne, hmatch⟩
  · rintro ⟨-, hne, htarget_ne, hmatch⟩
    rw [← htarget] at htarget_ne hmatch
    exact ⟨hsource htarget_ne, hne, htarget_ne, hmatch⟩

/-- **Relative prefixes and extensions do not count.**  With any steps to this folder and to the
parent folder before it, an import that does not begin with a blank points at the same files; and
every import that points at a path with one extension of a source file points at the path with any
other one. -/
theorem importReferences_respelled :
    (∀ (steps : List String) (source file : String), (∀ step ∈ steps, step ∈ relativeSteps) →
      source.toList.head?.any isBlank = false →
        importReferences (String.join steps ++ source) file = importReferences source file) ∧
    (∀ source path extension extension' : String, extension ∈ extensions →
      extension' ∈ extensions →
        importReferences source (path ++ extension) =
          importReferences source (path ++ extension')) := by
  constructor
  · intro steps source file hsteps hsource
    refine importReferences_congr ?_ Iff.rfl rfl
    rw [String.toList_append, String.toList_join]
    exact importTarget_steps_append hsteps hsource
  · intro source path extension extension' h h'
    have hne : ∀ e ∈ extensions, path ++ e ≠ "" := by
      intro e he hempty
      have hmem := dot_mem_extension e he
      rw [(String.append_eq_empty_iff.1 hempty).2] at hmem
      exact List.not_mem_nil hmem
    refine importReferences_congr rfl (iff_of_false (hne _ h) (hne _ h')) ?_
    rw [String.toList_append, String.toList_append, normalize_append_extension _ h,
      normalize_append_extension _ h']

/-- Three steps with both separators before an import, and a file with an extension whose last
letters are those of another one. -/
theorem importReferences_respelled_mixed :
    ((∀ step ∈ ["../", "..\\", "./"], step ∈ relativeSteps) ∧
        "lib\\math".toList.head?.any isBlank = false ∧ ".js" ∈ extensions ∧ ".mjs" ∈ extensions) ∧
      importReferences (String.join ["../", "..\\", "./"] ++ "lib\\math") "src/lib/math.js" =
        importReferences "lib\\math" "src/lib/math.js" ∧
      importReferences "lib\\math" ("src/lib/math" ++ ".js") =
        importReferences "lib\\math" ("src/lib/math" ++ ".mjs") ∧
      importReferences "lib\\math" "src/lib/math.js" = true := by
  have hsteps : ∀ step ∈ ["../", "..\\", "./"], step ∈ relativeSteps := by decide +kernel
  have hsource : "lib\\math".toList.head?.any isBlank = false := by decide +kernel
  have hjs : ".js" ∈ extensions := by decide +kernel
  have hmjs : ".mjs" ∈ extensions := by decide +kernel
  exact ⟨⟨hsteps, hsource, hjs, hmjs⟩, importReferences_respelled.1 _ _ _ hsteps hsource,
    importReferences_respelled.2 _ _ _ _ hjs hmjs, by decide +kernel⟩

end Lineage.Source
