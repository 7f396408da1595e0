/-
Stricter searches for duplicates, and searches of longer lists.

A search leaves out atoms before it pairs them and pairs afterwards, and it sorts last.  Leaving out
atoms is leaving out their pairs (`pairs_filter_score`), and what is left out before the sort may as
well be left out after it (`mergeSort_filter`): a stricter search is a selection from the reports of
the first one.  Atoms that are added anywhere in the list only add pairs (`pairs_sublist`), and the
sort keeps the others in their order (`mergeSort_sublist`).  The main statement,
`find_narrowed_and_extended`, says both.
-/
import Lineage.Proofs.Dna.Duplicates

namespace Lineage.Duplicate

/-! ### Sorting a part of a list -/

section Sorting

variable {α : Type} {le : α → α → Bool}
  (htrans : ∀ a b c, le a b = true → le b c = true → le a c = true)
  (htotal : ∀ a b, (le a b || le b a) = true)

include htrans htotal

/-- A first member is sorted behind those that must come before it, and before all others. -/
lemma mergeSort_cons_eq_filter (a : α) (l : List α) :
    (a :: l).mergeSort le =
      (l.mergeSort le).filter (fun b => !le a b) ++ a :: (l.mergeSort le).filter (le a) := by
  obtain ⟨l₁, l₂, hcons, hrest, hbefore⟩ := List.mergeSort_cons htrans htotal a l
  have hsorted := List.pairwise_mergeSort htrans htotal (a :: l)
  rw [hcons, List.pairwise_append] at hsorted
  have hbehind : ∀ b ∈ l₂, le a b = true := (List.pairwise_cons.1 hsorted.2.1).1
  have hleft : (l₁ ++ l₂).filter (fun b => !le a b) = l₁ := by
    rw [List.filter_append, List.filter_eq_self.2 hbefore, List.append_right_eq_self,
      List.filter_eq_nil_iff]
    intro b hb
    simp [hbehind b hb]
  have hright : (l₁ ++ l₂).filter (le a) = l₂ := by
    rw [List.filter_append, List.filter_eq_self.2 hbehind, List.append_left_eq_self,
      List.filter_eq_nil_iff]
    intro b hb
    simpa using hbefore b hb
  rw [hcons, hrest, hleft, hright]

/-- A part of a list is sorted as it stands in the sorted list. -/
lemma mergeSort_sublist {l m : List α} (h : l.Sublist m) :
    (l.mergeSort le).Sublist (m.mergeSort le) := by
  induction h with
  | slnil => exact .refl _
  | @cons l m a _ ih =>
      obtain ⟨m₁, m₂, hcons, hrest, -⟩ := List.mergeSort_cons htrans htotal a m
      rw [hrest] at ih
      rw [hcons]
      exact ih.middle a
  | @cons_cons l m a _ ih =>
      -- what comes before the first member in the part comes before it in the list
      rw [mergeSort_cons_eq_filter htrans htotal a l, mergeSort_cons_eq_filter htrans htotal a m]
      exact (ih.filter _).append ((ih.filter _).cons_cons a)

/-- Leaving out members before sorting and after it is the same. -/
lemma mergeSort_filter (p : α → Bool) (l : List α) :
    (l.filter p).mergeSort le = (l.mergeSort le).filter p := by
  have hself : ((l.filter p).mergeSort le).filter p = (l.filter p).mergeSort le := by
    rw [List.filter_eq_self]
    intro a ha
    exact (List.mem_filter.1 (List.mem_mergeSort.1 ha)).2
  have hkept : ((l.filter p).mergeSort le).Sublist ((l.mergeSort le).filter p) := by
    rw [← hself]
    exact (mergeSort_sublist htrans htotal List.filter_sublist).filter p
  apply hkept.eq_of_length
  rw [List.length_mergeSort]
  exact ((List.mergeSort_perm l le).filter p).length_eq.symm

end Sorting

/-! ### Pairs of a part of a list -/

lemma pairs_sublist {l m : List (String × Dna)} (h : l.Sublist m) :
    (pairs l).Sublist (pairs m) := by
  induction h with
  | slnil => exact .refl _
  | @cons l m a _ ih =>
      rw [pairs]
      exact ih.trans (List.sublist_append_right _ _)
  | @cons_cons l m a h ih =>
      rw [pairs, pairs]
      exact (h.map (ofPair a)).append ih

/-- The pairs of those that score high enough are the pairs of which both do. -/
lemma pairs_filter_score (least : Int) (l : List (String × Dna)) :
    pairs (l.filter fun found => least ≤ found.2.duplicabilityScore) =
      (pairs l).filter fun d => least ≤ d.firstDuplicability ∧ least ≤ d.secondDuplicability := by
  induction l with
  | nil => rfl
  | cons a l ih =>
      rw [pairs, List.filter_append, ← ih, List.filter_map]
      by_cases ha : least ≤ a.2.duplicabilityScore
      · rw [List.filter_cons_of_pos (by simpa using ha), pairs]
        congr 2
        refine List.filter_congr fun b _ => ?_
        rw [Function.comp_apply, decide_eq_decide]
        exact (and_iff_right ha).symm
      · have hnone : (l.filter ((fun d : Duplicate => decide (least ≤ d.firstDuplicability ∧
            least ≤ d.secondDuplicability)) ∘ ofPair a)) = [] := by
          rw [List.filter_eq_nil_iff]
          intro b _
          simp [ofPair, ha]
        rw [List.filter_cons_of_neg (by simpa using ha), hnone]
        rfl

/-! ### Searches -/

/-- A report that meets a filter: similar enough, and of atoms that both score high enough. -/
def Filter.Meets (f : Filter) (d : Duplicate) : Prop :=
  f.threshold.le d.similarity.toNumber = true ∧
    f.minDuplicability ≤ d.firstDuplicability ∧ f.minDuplicability ≤ d.secondDuplicability

instance (f : Filter) : DecidablePred f.Meets :=
  fun _ => inferInstanceAs (Decidable (_ ∧ _ ∧ _))

lemma freshEligible_sublist (f : Filter) {atoms larger : List Atom} (h : atoms.Sublist larger) :
    (DnaCache.freshEligible f atoms).Sublist (DnaCache.freshEligible f larger) :=
  ((h.filter _).map _).filter _

lemma freshEligible_of_le {f g : Filter} (h : f.minDuplicability ≤ g.minDuplicability)
    (atoms : List Atom) :
    DnaCache.freshEligible g atoms = (DnaCache.freshEligible f atoms).filter
      fun found => g.minDuplicability ≤ found.2.duplicabilityScore := by
  rw [DnaCache.freshEligible, DnaCache.freshEligible, List.filter_filter]
  refine List.filter_congr fun found _ => ?_
  rw [← Bool.decide_and, decide_eq_decide]
  exact (and_iff_left_of_imp h.trans).symm

lemma ofEligible_sublist (f : Filter) {l m : List (String × Dna)} (h : l.Sublist m) :
    (ofEligible f l).Sublist (ofEligible f m) :=
  mergeSort_sublist (key_trans fun d : Duplicate => d.similarity.count) (key_total _)
    ((pairs_sublist h).filter _)

/-- A stricter filter selects from the reports that the first one lets pass. -/
lemma ofEligible_filter_score {f g : Filter} (h : f.threshold.le g.threshold = true)
    (l : List (String × Dna)) :
    ofEligible g (l.filter fun found => g.minDuplicability ≤ found.2.duplicabilityScore) =
      (ofEligible f l).filter (g.Meets ·) := by
  obtain ⟨hf, hg⟩ := Number.ne_nan_of_le h
  rw [ofEligible, ofEligible,
    ← mergeSort_filter (key_trans fun d : Duplicate => d.similarity.count) (key_total _),
    pairs_filter_score, List.filter_filter, List.filter_filter]
  congr 1
  refine List.filter_congr fun d _ => ?_
  rw [admits_eq_le hf, admits_eq_le hg, Bool.eq_iff_iff]
  simp only [Bool.and_eq_true, decide_eq_true_eq]
  constructor
  · rintro ⟨hsimilar, hscores⟩
    exact ⟨⟨hsimilar, hscores⟩, Number.le_trans h hsimilar⟩
  · rintro ⟨⟨hsimilar, hscores⟩, -⟩
    exact ⟨hsimilar, hscores⟩

/-- **A stricter search only selects, and a longer list only adds.**  With a threshold and a least
score that are no lower, a search reports exactly those of the first search's reports that meet
them, in the same order.  With atoms added to the list, at its end or anywhere in it, the reports
stay in their order among the new ones. -/
theorem find_narrowed_and_extended (f : Filter) (atoms : List Atom) (cache cache' : DnaCache)
    (hcache : cache.Sound) (hcache' : cache'.Sound) :
    (∀ g : Filter, f.threshold.le g.threshold = true → f.minDuplicability ≤ g.minDuplicability →
      (find g cache' atoms).value.1 = (find f cache atoms).value.1.filter (g.Meets ·)) ∧
    ∀ larger : List Atom, atoms.Sublist larger →
      (find f cache atoms).value.1.Sublist (find f cache' larger).value.1 := by
  constructor
  · intro g hthreshold hscore
    rw [(hcache'.find g atoms).1, (hcache.find f atoms).1, freshEligible_of_le hscore,
      ofEligible_filter_score hthreshold]
  · intro larger hlarger
    rw [(hcache.find f atoms).1, (hcache'.find f larger).1]
    exact ofEligible_sublist f (freshEligible_sublist f hlarger)

/-- A clone of `loadUser` with a fingerprint of its own. -/
def loadOrder : Atom := sketchAtom "loadOrder" "c.js" (forwarding "id" "user" ["read", "call"])

/-- The filter that asks for full similarity. -/
def fullFilter : Filter := ⟨.int 1, 60⟩

def clonePair : Duplicate :=
  ofPair (loadUser.id, Dna.extract loadUser) (loadOrder.id, Dna.extract loadOrder)

def copyPair : Duplicate :=
  ofPair (loadUser.id, Dna.extract loadUser) (loadUser.id, Dna.extract loadUser)

/-- The clones are still found when a copy is added; full similarity leaves them out and keeps the
copies. -/
theorem find_narrowed_and_extended_clones :
    DnaCache.empty.Sound ∧ Filter.standard.threshold.le fullFilter.threshold = true ∧
      Filter.standard.minDuplicability ≤ fullFilter.minDuplicability ∧
      clonePair ∈ (find .standard .empty [loadUser, loadOrder]).value.1 ∧
      clonePair ∈ (find .standard .empty [loadUser, loadOrder, loadUser]).value.1 ∧
      clonePair ∉ (find fullFilter .empty [loadUser, loadOrder, loadUser]).value.1 ∧
      copyPair ∈ (find fullFilter .empty [loadUser, loadOrder, loadUser]).value.1 := by
  have hthreshold : Filter.standard.threshold.le fullFilter.threshold = true := by decide +kernel
  have hscore : Filter.standard.minDuplicability ≤ fullFilter.minDuplicability := by decide
  have hshape := Dna.Layer.structuralRecord_eq_iff.1
    (rfl : Dna.Layer.structuralRecord (forwarding "id" "user" ["read", "call"]) = _)
  have hclones := Dna.sameForm_of_sameShape (rfl : loadUser.dataFlow = some _)
    (rfl : loadOrder.dataFlow = some _) hshape
  have hcopies := Dna.sameForm_of_sameShape (rfl : loadUser.dataFlow = some _)
    (rfl : loadUser.dataFlow = some _) hshape
  have hninety : clonePair.similarity = ⟨90⟩ :=
    hclones.similarity_eq.trans (if_neg (by decide +kernel))
  have hhundred : copyPair.similarity = ⟨100⟩ := hcopies.similarity_eq.trans (if_pos rfl)
  have hfound : clonePair ∈ (find .standard .empty [loadUser, loadOrder]).value.1 :=
    clone_mem_find (i := 0) (j := 1) rfl rfl hshape DnaCache.sound_empty (by decide +kernel)
      (by decide +kernel) (by decide +kernel) rfl rfl (by decide)
  have hcopied : copyPair ∈ (find .standard .empty [loadUser, loadOrder, loadUser]).value.1 :=
    clone_mem_find (i := 0) (j := 2) rfl rfl hshape DnaCache.sound_empty (by decide +kernel)
      (by decide +kernel) (by decide +kernel) rfl rfl (by decide)
  have hlonger := (find_narrowed_and_extended .standard [loadUser, loadOrder] .empty .empty
    DnaCache.sound_empty DnaCache.sound_empty).2 [loadUser, loadOrder, loadUser] (by simp)
  have hstrict := (find_narrowed_and_extended .standard [loadUser, loadOrder, loadUser] .empty
    .empty DnaCache.sound_empty DnaCache.sound_empty).1 fullFilter hthreshold hscore
  refine ⟨DnaCache.sound_empty, hthreshold, hscore, hfound, hlonger.subset hfound, ?_, ?_⟩
  · rw [hstrict, List.mem_filter, decide_eq_true_eq]
    rintro ⟨-, hsimilar, -⟩
    rw [hninety] at hsimilar
    exact absurd hsimilar (by decide +kernel)
  · rw [hstrict, List.mem_filter, decide_eq_true_eq]
    refine ⟨hcopied, ?_, by decide +kernel, by decide +kernel⟩
    rw [hhundred]
    decide +kernel

end Lineage.Duplicate
