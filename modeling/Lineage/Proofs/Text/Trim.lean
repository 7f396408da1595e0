/-
Trimming.

Trimming at the end is what the library does from the right (`trimEnd_eq_rdropWhile`).  A trimmed
text is told by what is left out: characters of the class before it and behind it, while it neither
begins nor ends with one (`trim_eq_iff`).
-/
import Mathlib.Data.List.DropRight
import Lineage.Proofs.Text.Affix
import Lineage.Text.Basic

namespace Lineage.Text

variable {p : Char → Bool}

lemma trimEnd_eq_rdropWhile (p : Char → Bool) (cs : List Char) :
    trimEnd p cs = cs.rdropWhile p := by
  induction cs with
  | nil => rfl
  | cons c cs ih =>
      rw [trimEnd, ih, List.rdropWhile, List.rdropWhile, List.reverse_cons, List.dropWhile_append]
      split
      · next hnil =>
          rw [List.reverse_eq_nil_iff] at hnil
          rw [hnil, List.isEmpty_nil, if_pos rfl]
          by_cases hc : p c = true <;> simp [hc]
      · next hne =>
          rw [List.reverse_eq_nil_iff] at hne
          rw [if_neg (by simpa using hne), List.reverse_append]
          rfl

/-- Trimming at the end does not reach beyond a character outside the class. -/
lemma trimEnd_append_cons {c : Char} (hc : p c = false) (xs ys : List Char) :
    trimEnd p (xs ++ c :: ys) = xs ++ c :: trimEnd p ys := by
  induction xs with
  | nil =>
      rw [List.nil_append, List.nil_append, trimEnd]
      split
      · next hnil => rw [hnil, if_neg (by simp [hc])]
      · rfl
  | cons b xs ih =>
      rw [List.cons_append, trimEnd, ih]
      split
      · next hnil => exact absurd hnil (by simp)
      · rfl

/-- `kept` is the text without the characters of the class at its ends. -/
def IsTrimmed (p : Char → Bool) (cs kept : List Char) : Prop :=
  ∃ left right, cs = left ++ (kept ++ right) ∧ (∀ c ∈ left, p c = true) ∧
    (∀ c ∈ right, p c = true) ∧ kept.head?.any p = false ∧ kept.getLast?.any p = false

lemma isTrimmed_trim (p : Char → Bool) (cs : List Char) : IsTrimmed p cs (trim p cs) := by
  have hkept : trim p cs = (cs.dropWhile p).rdropWhile p := trimEnd_eq_rdropWhile p _
  refine ⟨cs.takeWhile p, (cs.dropWhile p).rtakeWhile p, ?_, fun c hc => List.mem_takeWhile_imp hc,
    fun c hc => List.mem_rtakeWhile_imp hc, ?_, ?_⟩
  · rw [hkept, List.rdropWhile_append_rtakeWhile, List.takeWhile_append_dropWhile]
  · -- what is left begins as it did before its end was trimmed
    have hbegins : (trim p cs) <+: cs.dropWhile p := hkept ▸ List.rdropWhile_prefix p _
    cases htrim : trim p cs with
    | nil => rfl
    | cons c kept =>
        rw [htrim] at hbegins
        obtain ⟨rest, hrest⟩ := hbegins
        have hhead := head?_dropWhile (p := p) cs
        rw [← hrest] at hhead
        exact hhead
  · rw [hkept, List.rdropWhile, List.getLast?_reverse]
    exact head?_dropWhile _

lemma IsTrimmed.trim_eq {cs kept : List Char} (h : IsTrimmed p cs kept) : trim p cs = kept := by
  obtain ⟨left, right, rfl, hleft, hright, hhead, hlast⟩ := h
  rw [trim, trimEnd_eq_rdropWhile, List.dropWhile_append_of_pos hleft]
  cases kept with
  | nil =>
      rw [List.nil_append, List.dropWhile_eq_nil_iff.2 hright]
      rfl
  | cons c kept =>
      have hfront : (c :: kept ++ right).dropWhile p = c :: kept ++ right := dropWhile_of_head hhead
      have hback : (c :: kept).reverse.dropWhile p = (c :: kept).reverse := by
        refine dropWhile_of_head ?_
        rw [List.head?_reverse]
        exact hlast
      have hright' : ∀ c ∈ right.reverse, p c = true := fun c hc => hright c (List.mem_reverse.1 hc)
      rw [hfront, List.rdropWhile, List.reverse_append, List.dropWhile_append_of_pos hright', hback,
        List.reverse_reverse]

/-- **Trimming leaves out exactly the characters of the class at both ends.** -/
lemma trim_eq_iff {cs kept : List Char} : trim p cs = kept ↔ IsTrimmed p cs kept :=
  ⟨fun h => h ▸ isTrimmed_trim p cs, IsTrimmed.trim_eq⟩

end Lineage.Text
