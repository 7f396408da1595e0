/-
A file and the import that names it.

A file is imported from its own folder by its name without the extension.  The name is read as a
module first: its dots become slashes, or what looks like an extension is dropped, so a dotted name
does not lead back to the file (`not_suffix_normalize_undotted`).  And a file that stands for its
folder is compared by the folder's path (`dropEnding_of_isIndex`), so its name leads to it only
where the folder is called the same.  All other names lead to their files; the main statement is
`importReferences_own_iff`.
-/
import Lineage.Proofs.Source.Segments

namespace Lineage.Source

open Text

/-- The name of a file without its extension: not empty, without blanks and separators, and not
beginning with a dot. -/
structure IsStem (stem : List Char) : Prop where
  ne_nil : stem ≠ []
  not_hidden : stem.head? ≠ some '.'
  plain : IsPlain stem
  slash_notMem : '/' ∉ stem

instance (stem : List Char) : Decidable (IsStem stem) :=
  decidable_of_iff (stem ≠ [] ∧ stem.head? ≠ some '.' ∧ IsPlain stem ∧ '/' ∉ stem)
    ⟨fun ⟨hne, hhidden, hplain, hslash⟩ => ⟨hne, hhidden, hplain, hslash⟩,
      fun h => ⟨h.ne_nil, h.not_hidden, h.plain, h.slash_notMem⟩⟩

/-! ### Endings of paths -/

lemma extensions_free : ∀ ending ∈ extensions, ∀ e ∈ extensions,
    e.toList <:+ ending.toList ∨ ending.toList <:+ e.toList → e = ending := by
  decide +kernel

lemma folderFiles_free : ∀ ending ∈ folderFiles, ∀ e ∈ folderFiles,
    e.toList <:+ ending.toList ∨ ending.toList <:+ e.toList → e = ending := by
  decide +kernel

lemma dot_mem_extension : ∀ extension ∈ extensions, '.' ∈ extension.toList := by
  decide +kernel

lemma slash_mem_folderFile : ∀ file ∈ folderFiles, '/' ∈ file.toList := by
  decide +kernel

lemma isPlain_extension : ∀ extension ∈ extensions, IsPlain extension.toList := by
  decide +kernel

/-- The name of a file that stands for its folder. -/
def IsIndex (stem : List Char) : Prop :=
  '/' :: stem ∈ folderFiles.map String.toList

instance : DecidablePred IsIndex :=
  fun _ => inferInstanceAs (Decidable (_ ∈ _))

lemma IsIndex.notMem {stem : List Char} (h : IsIndex stem) : '/' ∉ stem ∧ '.' ∉ stem := by
  have hnames : ∀ file ∈ folderFiles.map String.toList, '/' ∉ file.tail ∧ '.' ∉ file.tail := by
    decide +kernel
  exact hnames ('/' :: stem) h

lemma exists_isIndex {file : String} (h : file ∈ folderFiles) :
    ∃ stem, file.toList = '/' :: stem ∧ IsIndex stem := by
  have hslash : ∀ file ∈ folderFiles, file.toList.head? = some '/' := by decide +kernel
  obtain ⟨stem, hstem⟩ := List.head?_eq_some_iff.1 (hslash file h)
  refine ⟨stem, hstem, ?_⟩
  rw [IsIndex, ← hstem]
  exact List.mem_map_of_mem h

/-! ### The target of the import -/

lemma dropRelative_of_head {cs : List Char} (h : cs.head? ≠ some '.') : dropRelative cs = cs := by
  cases cs with
  | nil => rfl
  | cons c cs =>
      have hc : c ≠ '.' := fun heq => h (congrArg some heq)
      rw [dropRelative] <;> simp [hc]

lemma importTarget_own {stem : List Char} (h : IsStem stem) :
    importTarget ('.' :: '/' :: stem) = normalize (undotted stem) := by
  have hplain : IsPlain ('.' :: '/' :: stem) :=
    IsPlain.append (by decide +kernel : IsPlain ['.', '/']) h.plain
  have hhead : stem.dropWhile (· == '.') = stem := by
    cases stem with
    | nil => rfl
    | cons c stem =>
        have hc : c ≠ '.' := fun heq => h.not_hidden (congrArg some heq)
        rw [List.dropWhile_cons_of_neg (by simpa using hc)]
  rw [importTarget, slashed_of_isPlain hplain, dropRelative, dropRelative_of_head h.not_hidden,
    hhead]

/-- A name without a dot is the target. -/
lemma normalize_undotted_of_notMem {stem : List Char} (h : IsStem stem) (hdot : '.' ∉ stem) :
    normalize (undotted stem) = stem := by
  have hundotted : undotted stem = stem := by
    rw [undotted]
    split
    · exact substitute_of_notMem hdot
    · rfl
  rw [hundotted, normalize, slashed_of_isPlain h.plain, dropEnding_of_notMem dot_mem_extension hdot,
    dropEnding_of_notMem slash_mem_folderFile h.slash_notMem]

/-- A dotted name does not end the target: its dots have become slashes, or its extension has been
dropped. -/
lemma not_suffix_normalize_undotted {stem : List Char} (h : IsStem stem) (hdot : '.' ∈ stem) :
    ¬ stem <:+ normalize (undotted stem) := by
  intro hsuffix
  cases hextension : hasExtension stem with
  | false =>
      have hundotted : undotted stem = substitute '.' '/' stem := by
        rw [undotted, if_pos]
        simpa [hextension] using h.slash_notMem
      rw [hundotted, normalize, slashed_of_isPlain (h.plain.substitute isPlain_slash)] at hsuffix
      have hpart := (dropEnding_prefix_self folderFiles _).trans
        (dropEnding_prefix_self extensions (substitute '.' '/' stem))
      exact notMem_substitute (by decide) stem (hpart.subset (hsuffix.subset hdot))
  | true =>
      obtain ⟨extension, hmem, hends⟩ := List.any_eq_true.1 hextension
      obtain ⟨name, hname⟩ := List.isSuffixOf_iff_suffix.1 hends
      have hundotted : undotted stem = stem := by
        rw [undotted, if_neg]
        simp [hextension]
      have hslash : '/' ∉ name := fun hmem => h.slash_notMem (hname ▸ List.mem_append_left _ hmem)
      rw [hundotted, normalize, slashed_of_isPlain h.plain, ← hname,
        dropEnding_append hmem (extensions_free extension hmem),
        dropEnding_of_notMem slash_mem_folderFile hslash] at hsuffix
      have hlength := hsuffix.length_le
      have hpositive := List.length_pos_of_mem (dot_mem_extension extension hmem)
      rw [List.length_append] at hlength
      omega

/-! ### The path of the file -/

lemma segments_folder_append {folder name : List Char} (hfolder : IsFolder folder)
    (hname : '/' ∉ name) : segments (folder ++ name) = (segments folder).dropLast ++ [name] := by
  rcases isFolder_iff.1 hfolder with rfl | ⟨parent, rfl⟩
  · exact segments_of_notMem hname
  · rw [List.append_assoc, List.singleton_append, segments_append_slash, segments_append_slash,
      segments_of_notMem hname, segments_of_notMem List.not_mem_nil, List.dropLast_concat]

/-- A path whose segments are the last of some that end with a name ends with that name. -/
lemma suffix_of_segments_suffix {path name : List Char} {run : List (List Char)}
    (hname : '/' ∉ name) (h : segments path <:+ run ++ [name]) : name <:+ path := by
  rcases List.suffix_concat_iff.1 h with hnil | ⟨init, hinit, -⟩
  · exact absurd hnil (segments_ne_nil path)
  · have hlast : segments name <:+ segments path := by
      rw [segments_of_notMem hname, hinit]
      exact List.suffix_append init [name]
    rcases segments_suffix_iff.1 hlast with rfl | hends
    · exact List.suffix_rfl
    · exact (List.suffix_cons '/' name).trans hends

lemma normalize_own {folder stem : List Char} {extension : String} (hfolder : IsFolder folder)
    (hstem : IsStem stem) (hextension : extension ∈ extensions) :
    normalize (folder ++ stem ++ extension.toList) =
      dropEnding folderFiles (slashed folder ++ stem) := by
  have hplain := hstem.plain.append (isPlain_extension extension hextension)
  rw [normalize, List.append_assoc, slashed_append hfolder hplain, ← List.append_assoc,
    dropEnding_append hextension (extensions_free extension hextension)]

/-- A file that stands for its folder has the path of the folder. -/
lemma dropEnding_of_isIndex {stem : List Char} (h : IsIndex stem) (parent : List Char) :
    dropEnding folderFiles (parent ++ '/' :: stem) = parent := by
  obtain ⟨file, hfile, hstem⟩ := List.mem_map.1 h
  rw [← hstem, dropEnding_append hfile (folderFiles_free file hfile)]

/-- Any other file has its own path, without the extension. -/
lemma dropEnding_of_not_isIndex {folder stem : List Char} (hfolder : IsFolder folder)
    (hslash : '/' ∉ stem) (h : ¬ IsIndex stem) :
    dropEnding folderFiles (folder ++ stem) = folder ++ stem := by
  refine dropEnding_of_forall fun file hfile hsuffix => h ?_
  obtain ⟨name, hname, hindex⟩ := exists_isIndex hfile
  have hends : segments name <:+ segments (folder ++ stem) :=
    segments_suffix_iff.2 (Or.inr (hname ▸ hsuffix))
  rw [segments_of_notMem hindex.notMem.1, segments_folder_append hfolder hslash] at hends
  rcases List.suffix_concat_iff.1 hends with hnil | ⟨init, hinit, -⟩
  · cases hnil
  · have hlast : name = stem := by simpa using congrArg List.getLast? hinit
    exact hlast ▸ hindex

/-! ### The import and the file -/

lemma isFolder_slashed {folder : List Char} (h : IsFolder folder) :
    IsFolder (slashed folder) ∧ (slashed folder = [] ↔ folder = []) := by
  rcases isFolder_iff.1 h with rfl | ⟨parent, rfl⟩
  · exact ⟨Or.inl rfl, Iff.rfl⟩
  · rw [slashed_parent_slash]
    exact ⟨Or.inr List.getLast?_concat, by simp⟩

/-- A dotted name never leads to its file. -/
lemma not_segments_suffix_of_mem {folder stem : List Char} (hfolder : IsFolder folder)
    (hstem : IsStem stem) (hdot : '.' ∈ stem) :
    ¬ segments (normalize (undotted stem)) <:+
      segments (dropEnding folderFiles (folder ++ stem)) := by
  have hindex : ¬ IsIndex stem := fun h => h.notMem.2 hdot
  rw [dropEnding_of_not_isIndex hfolder hstem.slash_notMem hindex,
    segments_folder_append hfolder hstem.slash_notMem]
  intro hends
  exact not_suffix_normalize_undotted hstem hdot
    (suffix_of_segments_suffix hstem.slash_notMem hends)

/-- A name is the last segment of its file's path, unless the file stands for its folder; then it is
if the folder has the name. -/
lemma segments_suffix_own_iff {folder stem : List Char} (hfolder : IsFolder folder)
    (hslash : '/' ∉ stem) :
    segments stem <:+ segments (dropEnding folderFiles (folder ++ stem)) ↔
      (IsIndex stem → folder = [] ∨ [stem, []] <:+ segments folder) := by
  rw [segments_of_notMem hslash]
  by_cases hindex : IsIndex stem
  · rcases isFolder_iff.1 hfolder with rfl | ⟨parent, rfl⟩
    · rw [List.nil_append, dropEnding_of_notMem slash_mem_folderFile hslash,
        segments_of_notMem hslash]
      exact ⟨fun _ _ => Or.inl rfl, fun _ => List.suffix_rfl⟩
    · rw [List.append_assoc, List.singleton_append, dropEnding_of_isIndex hindex,
        segments_append_slash, segments_of_notMem List.not_mem_nil]
      have hcut : [stem] ++ [[]] <:+ segments parent ++ [[]] ↔ [stem] <:+ segments parent :=
        List.suffix_append_self_iff
      rw [List.singleton_append] at hcut
      rw [hcut]
      exact ⟨fun h _ => Or.inr h, fun h => (h hindex).resolve_left (List.concat_ne_nil _ _)⟩
  · rw [dropEnding_of_not_isIndex hfolder hslash hindex, segments_folder_append hfolder hslash]
    exact ⟨fun _ h => absurd h hindex, fun _ => List.suffix_append _ _⟩

/-- **When a file's own import points at it.**  An import from the file's folder, by its name
without the extension, points at the file exactly if the name has no dot and, where it is that of a
file which stands for its folder, there is no folder or the folder is called the same. -/
theorem importReferences_own_iff (folder stem extension : String)
    (hfolder : IsFolder folder.toList) (hstem : IsStem stem.toList)
    (hextension : extension ∈ extensions) :
    importReferences ("./" ++ stem) (folder ++ stem ++ extension) = true ↔
      '.' ∉ stem.toList ∧
        (IsIndex stem.toList →
          folder = "" ∨ [stem.toList, []] <:+ segments (slashed folder.toList)) := by
  have hsource : ("./" ++ stem).toList = '.' :: '/' :: stem.toList := String.toList_append
  have hfile : (folder ++ stem ++ extension).toList =
      folder.toList ++ stem.toList ++ extension.toList := by
    rw [String.toList_append, String.toList_append]
  obtain ⟨hslashed, hnil⟩ := isFolder_slashed hfolder
  rw [importReferences_eq_true_iff, ← segments_suffix_iff, hsource, hfile, importTarget_own hstem,
    normalize_own hfolder hstem hextension]
  by_cases hdot : '.' ∈ stem.toList
  · exact ⟨fun h => absurd h.2.2.2 (not_segments_suffix_of_mem hslashed hstem hdot),
      fun h => absurd hdot h.1⟩
  · have hstem_ne : stem ≠ "" := fun h => hstem.ne_nil (String.toList_eq_nil_iff.2 h)
    have hsource_ne : "./" ++ stem ≠ "" := fun h => hstem_ne (String.append_eq_empty_iff.1 h).2
    have hfile_ne : folder ++ stem ++ extension ≠ "" := fun h =>
      hstem_ne (String.append_eq_empty_iff.1 (String.append_eq_empty_iff.1 h).1).2
    rw [normalize_undotted_of_notMem hstem hdot,
      segments_suffix_own_iff hslashed hstem.slash_notMem, hnil, String.toList_eq_nil_iff]
    exact ⟨fun h => ⟨hdot, h.2.2.2⟩, fun h => ⟨hsource_ne, hfile_ne, hstem.ne_nil, h.2⟩⟩

/-- A file is found by its name, and a file that stands for its folder where the folder has its
name. -/
theorem importReferences_own_iff_math :
    IsFolder "src/".toList ∧ IsStem "math".toList ∧ IsFolder "lib/index/".toList ∧
      IsStem "index".toList ∧ ".ts" ∈ extensions ∧
      importReferences "./math" "src/math.ts" = true ∧
      importReferences "./index" "lib/index/index.ts" = true := by
  have hsrc : IsFolder "src/".toList := by decide +kernel
  have hmath : IsStem "math".toList := by decide +kernel
  have hlib : IsFolder "lib/index/".toList := by decide +kernel
  have hindex : IsStem "index".toList := by decide +kernel
  have hts : ".ts" ∈ extensions := by decide +kernel
  refine ⟨hsrc, hmath, hlib, hindex, hts, ?_, ?_⟩
  · exact (importReferences_own_iff "src/" "math" ".ts" hsrc hmath hts).2 (by decide +kernel)
  · exact (importReferences_own_iff "lib/index/" "index" ".ts" hlib hindex hts).2
      (by decide +kernel)

/-- A dotted name, one that looks like a file name, and the file that stands for a folder: their
imports miss them. -/
theorem importReferences_own_missed :
    (IsFolder "src/".toList ∧ ".ts" ∈ extensions) ∧
      (IsStem "user.service".toList ∧
        importReferences "./user.service" "src/user.service.ts" = false) ∧
      (IsStem "chart.js".toList ∧ importReferences "./chart.js" "src/chart.js.ts" = false) ∧
      (IsStem "index".toList ∧ importReferences "./index" "src/index.ts" = false) := by
  decide +kernel

end Lineage.Source
