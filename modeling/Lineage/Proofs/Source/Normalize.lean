/-
Paths in the form that is compared.

What normalizing does to a path is said part by part.  Behind a folder, a text without blanks and
backslashes stays as it is, whatever becomes of the folder (`slashed_append`).  Of endings of which
none ends another, the one that a text has is dropped (`dropEnding_append`); a text that lacks a
character of every ending keeps them all (`dropEnding_of_notMem`).
-/
import Lineage.Proofs.Text.Trim
import Lineage.Source.ModulePath

namespace Lineage.Text

lemma substitute_append (old new : Char) (xs ys : List Char) :
    substitute old new (xs ++ ys) = substitute old new xs ++ substitute old new ys :=
  List.map_append

lemma substitute_of_notMem {old new : Char} {cs : List Char} (h : old ∉ cs) :
    substitute old new cs = cs := by
  refine (List.map_congr_left fun c hc => if_neg ?_).trans (List.map_id cs)
  rintro rfl
  exact h hc

lemma notMem_substitute {old new : Char} (h : old ≠ new) (cs : List Char) :
    old ∉ substitute old new cs := by
  intro hmem
  obtain ⟨c, -, hc⟩ := List.mem_map.1 hmem
  split at hc
  · exact h hc.symm
  · next hne => exact hne hc

/-- Trimming at the front does not reach a text without characters of the class. -/
lemma dropWhile_append_of_forall {p : Char → Bool} {ys : List Char} (h : ∀ c ∈ ys, p c = false)
    (xs : List Char) : (xs ++ ys).dropWhile p = xs.dropWhile p ++ ys := by
  rw [List.dropWhile_append]
  split
  · next hempty =>
      rw [List.isEmpty_iff.1 hempty, List.nil_append]
      cases ys with
      | nil => rfl
      | cons c ys => rw [List.dropWhile_cons_of_neg (by simp [h c List.mem_cons_self])]
  · rfl

end Lineage.Text

namespace Lineage.Source

open Text

/-! ### Slashes and blanks -/

/-- A text without blanks and backslashes. -/
def IsPlain (cs : List Char) : Prop :=
  ∀ c ∈ cs, isBlank c = false ∧ c ≠ '\\'

-- by the members of the text, not by all characters
instance : DecidablePred IsPlain :=
  fun cs => List.decidableBAll (fun c => isBlank c = false ∧ c ≠ '\\') cs

/-- The path of a folder: nothing, or a path that ends with a slash. -/
def IsFolder (path : List Char) : Prop :=
  path = [] ∨ path.getLast? = some '/'

instance : DecidablePred IsFolder :=
  fun _ => inferInstanceAs (Decidable (_ ∨ _))

lemma isFolder_iff {path : List Char} :
    IsFolder path ↔ path = [] ∨ ∃ parent, path = parent ++ ['/'] := by
  rw [IsFolder, List.getLast?_eq_some_iff]

lemma IsPlain.append {xs ys : List Char} (hxs : IsPlain xs) (hys : IsPlain ys) :
    IsPlain (xs ++ ys) := by
  intro c hc
  rcases List.mem_append.1 hc with hc | hc
  · exact hxs c hc
  · exact hys c hc

lemma IsPlain.substitute {cs : List Char} (h : IsPlain cs) {old new : Char}
    (hnew : IsPlain [new]) : IsPlain (substitute old new cs) := by
  intro c hc
  obtain ⟨b, hb, rfl⟩ := List.mem_map.1 hc
  split
  · exact hnew new List.mem_cons_self
  · exact h b hb

/-- A plain text at the end of a path stays as it is. -/
lemma slashed_append_plain (path : List Char) {cs : List Char} (hcs : IsPlain cs) (hne : cs ≠ []) :
    slashed (path ++ cs) = (substitute '\\' '/' path).dropWhile isBlank ++ cs := by
  have hsubstitute : substitute '\\' '/' cs = cs :=
    substitute_of_notMem fun hmem => (hcs '\\' hmem).2 rfl
  obtain ⟨init, last, rfl⟩ := (List.eq_nil_or_concat cs).resolve_left hne
  have hlast : isBlank last = false := (hcs last (by simp)).1
  rw [slashed, trim, substitute_append, hsubstitute,
    dropWhile_append_of_forall fun c hc => (hcs c hc).1, List.concat_eq_append,
    ← List.append_assoc, trimEnd_append_cons hlast, trimEnd]

lemma isPlain_slash : IsPlain ['/'] := by decide +kernel

/-- The path of a folder is put into form by itself, and stays the path of a folder. -/
lemma slashed_parent_slash (parent : List Char) :
    slashed (parent ++ ['/']) = (substitute '\\' '/' parent).dropWhile isBlank ++ ['/'] :=
  slashed_append_plain parent isPlain_slash (List.cons_ne_nil _ _)

/-- Behind a folder, a plain text stays as it is. -/
lemma slashed_append {folder cs : List Char} (hfolder : IsFolder folder) (hcs : IsPlain cs) :
    slashed (folder ++ cs) = slashed folder ++ cs := by
  by_cases hne : cs = []
  · rw [hne, List.append_nil, List.append_nil]
  · rw [slashed_append_plain folder hcs hne]
    rcases isFolder_iff.1 hfolder with rfl | ⟨parent, rfl⟩
    · rfl
    · rw [slashed_parent_slash, substitute_append, substitute_of_notMem (by decide : '\\' ∉ ['/']),
        dropWhile_append_of_forall fun c hc => (isPlain_slash c hc).1]

lemma slashed_of_isPlain {cs : List Char} (h : IsPlain cs) : slashed cs = cs :=
  slashed_append (Or.inl rfl : IsFolder []) h

/-! ### Endings -/

lemma before?_append (cs word : List Char) : before? word (cs ++ word) = some cs := by
  rw [before?, if_pos (List.isSuffixOf_iff_suffix.2 (List.suffix_append cs word))]
  simp

lemma before?_eq_none {word cs : List Char} (h : ¬ word <:+ cs) : before? word cs = none :=
  if_neg fun hsuffix => h (List.isSuffixOf_iff_suffix.1 hsuffix)

lemma dropEnding_of_forall {endings : List String} {cs : List Char}
    (h : ∀ ending ∈ endings, ¬ ending.toList <:+ cs) : dropEnding endings cs = cs := by
  have hnone : (endings.findSome? fun ending => before? ending.toList cs) = none :=
    List.findSome?_eq_none_iff.2 fun ending hending => before?_eq_none (h ending hending)
  rw [dropEnding, hnone, Option.getD_none]

/-- A text without a character that every ending has keeps its end. -/
lemma dropEnding_of_notMem {endings : List String} {mark : Char} {cs : List Char}
    (hmark : ∀ ending ∈ endings, mark ∈ ending.toList) (h : mark ∉ cs) :
    dropEnding endings cs = cs :=
  dropEnding_of_forall fun ending hending hsuffix =>
    h (hsuffix.subset (hmark ending hending))

/-- Of endings of which none ends another, the one that the text has is dropped. -/
lemma dropEnding_append {endings : List String} {ending : String} (h : ending ∈ endings)
    (hfree : ∀ e ∈ endings, e.toList <:+ ending.toList ∨ ending.toList <:+ e.toList → e = ending)
    (cs : List Char) : dropEnding endings (cs ++ ending.toList) = cs := by
  have hown : ∀ e ∈ endings, before? e.toList (cs ++ ending.toList) =
      if e = ending then some cs else none := by
    intro e he
    split
    · next heq => rw [heq, before?_append]
    · next hne =>
        refine before?_eq_none fun hsuffix => hne (hfree e he ?_)
        exact List.suffix_or_suffix_of_suffix hsuffix (List.suffix_append cs ending.toList)
  have hsome : (endings.findSome? fun e => before? e.toList (cs ++ ending.toList)).isSome := by
    rw [List.findSome?_isSome_iff]
    exact ⟨ending, h, by rw [before?_append]; rfl⟩
  obtain ⟨rest, hrest⟩ := Option.isSome_iff_exists.1 hsome
  obtain ⟨e, he, hbefore⟩ := List.exists_of_findSome?_eq_some hrest
  have hcs : rest = cs := by
    rw [hown e he] at hbefore
    split at hbefore
    · exact (Option.some.inj hbefore).symm
    · cases hbefore
  rw [dropEnding, hrest, Option.getD_some, hcs]

/-- Dropping an ending leaves a part from the beginning. -/
lemma dropEnding_prefix_self (endings : List String) (cs : List Char) :
    dropEnding endings cs <+: cs := by
  cases hfind : endings.findSome? fun e => before? e.toList cs with
  | none =>
      rw [dropEnding, hfind]
      exact List.prefix_rfl
  | some rest =>
      obtain ⟨e, -, hbefore⟩ := List.exists_of_findSome?_eq_some hfind
      rw [dropEnding, hfind, Option.getD_some]
      rw [before?] at hbefore
      split at hbefore
      · cases hbefore
        exact List.take_prefix _ _
      · cases hbefore

end Lineage.Source
