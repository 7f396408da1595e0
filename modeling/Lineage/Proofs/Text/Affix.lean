/-
Parts of a text: what follows a word, and runs of a class of characters at the beginning.
-/
import Mathlib.Data.List.TakeWhile
import Mathlib.Tactic.Lemma
import Lineage.Text.Basic

namespace Lineage.Text

lemma after?_eq_some_iff {word cs rest : List Char} :
    after? word cs = some rest ↔ cs = word ++ rest := by
  induction word generalizing cs with
  | nil => simp [after?]
  | cons w word ih =>
      cases cs with
      | nil => simp [after?]
      | cons c cs =>
          rw [after?]
          split
          · next heq => rw [ih, heq, List.cons_append, List.cons.injEq, and_iff_right rfl]
          · next hne => simp [Ne.symm hne]

lemma dropWhile_of_head {p : Char → Bool} {cs : List Char} (h : cs.head?.any p = false) :
    cs.dropWhile p = cs := by
  cases cs with
  | nil => rfl
  | cons c cs => exact List.dropWhile_cons_of_neg (by simpa using h)

lemma head?_dropWhile {p : Char → Bool} (cs : List Char) :
    (cs.dropWhile p).head?.any p = false := by
  have hhead := List.head?_dropWhile_not p cs
  cases hdrop : (cs.dropWhile p).head? with
  | none => rfl
  | some c =>
      rw [hdrop] at hhead
      exact hhead

/-- A run of a class reaches as far as the next character outside the class. -/
lemma takeWhile_append_of_head {p : Char → Bool} {run rest : List Char}
    (hrun : ∀ c ∈ run, p c = true) (hrest : rest.head?.any p = false) :
    (run ++ rest).takeWhile p = run ∧ (run ++ rest).dropWhile p = rest := by
  have hdrop : (run ++ rest).dropWhile p = rest := by
    rw [List.dropWhile_append_of_pos hrun, dropWhile_of_head hrest]
  have hsplit : (run ++ rest).takeWhile p ++ rest = run ++ rest :=
    calc (run ++ rest).takeWhile p ++ rest
        = (run ++ rest).takeWhile p ++ (run ++ rest).dropWhile p := by rw [hdrop]
      _ = run ++ rest := List.takeWhile_append_dropWhile
  exact ⟨List.append_cancel_right hsplit, hdrop⟩

/-- What is left behind a run of a class begins with a character outside the class. -/
lemma dropWhile_eq_cons_iff {p : Char → Bool} {c : Char} (hc : p c = false) {cs rest : List Char} :
    cs.dropWhile p = c :: rest ↔ ∃ run, (∀ d ∈ run, p d = true) ∧ cs = run ++ c :: rest := by
  constructor
  · intro h
    refine ⟨cs.takeWhile p, fun d hd => List.mem_takeWhile_imp hd, ?_⟩
    rw [← h, List.takeWhile_append_dropWhile]
  · rintro ⟨run, hrun, rfl⟩
    rw [List.dropWhile_append_of_pos hrun, List.dropWhile_cons_of_neg (by simp [hc])]

/-- Of words of which none begins another, the one that the text begins with is found. -/
lemma findSome?_after?_eq_some_iff {words : List String}
    (hfree : ∀ w ∈ words, ∀ w' ∈ words, w.toList <+: w'.toList → w = w') {cs rest : List Char} :
    (words.findSome? fun w => after? w.toList cs) = some rest ↔
      ∃ w ∈ words, cs = w.toList ++ rest := by
  constructor
  · intro h
    obtain ⟨w, hw, hafter⟩ := List.exists_of_findSome?_eq_some h
    exact ⟨w, hw, after?_eq_some_iff.1 hafter⟩
  · rintro ⟨w, hw, rfl⟩
    have hsome : (words.findSome? fun e => after? e.toList (w.toList ++ rest)).isSome := by
      rw [List.findSome?_isSome_iff]
      exact ⟨w, hw, by rw [after?_eq_some_iff.2 rfl]; rfl⟩
    obtain ⟨rest', hrest'⟩ := Option.isSome_iff_exists.1 hsome
    obtain ⟨w', hw', hafter⟩ := List.exists_of_findSome?_eq_some hrest'
    have hsplit : w.toList ++ rest = w'.toList ++ rest' := after?_eq_some_iff.1 hafter
    have hsame : w = w' := by
      rcases List.prefix_or_prefix_of_prefix (List.prefix_append w.toList rest)
        (hsplit ▸ List.prefix_append w'.toList rest') with h | h
      · exact hfree w hw w' hw' h
      · exact (hfree w' hw' w hw h).symm
    subst hsame
    rw [hrest', List.append_cancel_left hsplit]

end Lineage.Text
