/-
What a search for duplicates finds.

A search keeps the atoms that are eligible, goes through their pairs and sorts the ones that are
similar enough.  Seen from the list that was searched, it goes through the pairs of places in it, in
lexicographic order, and takes those that are wanted (`pairs_freshEligible`): nothing depends on how
the places of eligible and other atoms are mixed, or on atoms that share an id.  The sort is stable
(`pairwise_mergeSort_of_key`).  The main statement, `find_exact_sorted_stable`, says which pairs a
search reports and in which order.
-/
import Mathlib.Data.List.FinRange
import Mathlib.Data.List.ProdSigma
import Lineage.Proofs.Dna.Clones

namespace Lineage.Duplicate

/-! ### Pairs of places -/

section Places

variable {ι : Type}

/-- What is kept of both lists is kept of their pairs. -/
lemma product_filter (l m : List ι) (e : ι → Bool) :
    l.filter e ×ˢ m.filter e = (l ×ˢ m).filter fun p => e p.1 && e p.2 := by
  induction l with
  | nil => rfl
  | cons i l ih =>
      rw [List.product_cons, List.filter_append, ← ih, List.filter_map]
      cases hi : e i with
      | false => simp [hi, Function.comp_def]
      | true => simp [hi, Function.comp_def, List.product_cons]

variable [LinearOrder ι]

/-- The pairs of ascending lists come in lexicographic order. -/
lemma pairwise_product {l m : List ι} (hl : l.Pairwise (· < ·)) (hm : m.Pairwise (· < ·)) :
    (l ×ˢ m).Pairwise (Prod.Lex (· < ·) (· < ·)) := by
  refine List.pairwise_flatMap.2 ⟨fun i _ => ?_, hl.imp fun {i k} hik => ?_⟩
  · exact List.pairwise_map.2 (hm.imp fun hjk => Prod.Lex.right i hjk)
  · intro p hp q hq
    obtain ⟨j, -, rfl⟩ := List.mem_map.1 hp
    obtain ⟨n, -, rfl⟩ := List.mem_map.1 hq
    exact Prod.Lex.left j n hik

/-- The pairs of the members at ascending places are those of the places, the smaller one first. -/
lemma pairs_map {l : List ι} (hl : l.Pairwise (· < ·)) (g : ι → String × Dna) :
    pairs (l.map g) =
      ((l ×ˢ l).filter fun p => p.1 < p.2).map fun p => ofPair (g p.1) (g p.2) := by
  induction l with
  | nil => rfl
  | cons i l ih =>
      obtain ⟨hi, hl⟩ := List.pairwise_cons.1 hl
      -- the first place is below all others, so of its pairs only the one with itself is left out
      have hfirst : ((i :: l).map (Prod.mk i)).filter (fun p => p.1 < p.2) = l.map (Prod.mk i) := by
        rw [List.map_cons, List.filter_cons_of_neg (by simp), List.filter_eq_self]
        intro p hp
        obtain ⟨j, hj, rfl⟩ := List.mem_map.1 hp
        simpa using hi j hj
      have hothers : (l ×ˢ (i :: l)).filter (fun p => p.1 < p.2) =
          (l ×ˢ l).filter fun p => p.1 < p.2 := by
        have hnone : ∀ j ∈ l, ((i :: l).map (Prod.mk j)).filter (fun p => p.1 < p.2) =
            (l.map (Prod.mk j)).filter fun p => p.1 < p.2 := by
          intro j hj
          rw [List.map_cons, List.filter_cons_of_neg (by simpa using (hi j hj).le)]
        exact List.filter_flatMap.trans ((List.flatMap_congr hnone).trans List.filter_flatMap.symm)
      rw [List.map_cons, pairs, ih hl, List.product_cons, List.filter_append, hfirst, hothers,
        List.map_append, List.map_map, List.map_map]
      rfl

end Places

/-! ### Sorting -/

lemma key_trans {α : Type} (key : α → Nat) (a b c : α) (hab : decide (key b ≤ key a) = true)
    (hbc : decide (key c ≤ key b) = true) : decide (key c ≤ key a) = true := by
  simp only [decide_eq_true_eq] at hab hbc ⊢
  omega

lemma key_total {α : Type} (key : α → Nat) (a b : α) :
    (decide (key b ≤ key a) || decide (key a ≤ key b)) = true := by
  simp only [Bool.or_eq_true, decide_eq_true_eq]
  omega

/-- Sorting by a key, the greatest first, keeps the order that the list had between members with the
same key. -/
lemma pairwise_mergeSort_of_key {α : Type} {l : List α} {R : α → α → Prop} (hl : l.Pairwise R)
    (key : α → Nat) :
    (l.mergeSort fun a b => key b ≤ key a).Pairwise fun a b =>
      key b < key a ∨ key a = key b ∧ R a b := by
  induction l with
  | nil => simp
  | cons a l ih =>
      obtain ⟨ha, hl⟩ := List.pairwise_cons.1 hl
      obtain ⟨l₁, l₂, hcons, hrest, hbefore⟩ :=
        List.mergeSort_cons (key_trans key) (key_total key) a l
      have hsorted := List.pairwise_mergeSort (key_trans key) (key_total key) (a :: l)
      have ih := ih hl
      have hmem : ∀ b ∈ l₁ ++ l₂, b ∈ l := by
        intro b hb
        rw [← hrest] at hb
        exact List.mem_mergeSort.1 hb
      rw [hrest, List.pairwise_append] at ih
      rw [hcons, List.pairwise_append] at hsorted
      obtain ⟨ih₁, ih₂, ih₁₂⟩ := ih
      obtain ⟨-, hsorted₂, -⟩ := hsorted
      rw [hcons]
      refine List.pairwise_append.2 ⟨ih₁, List.pairwise_cons.2 ⟨fun b hb => ?_, ih₂⟩, ?_⟩
      · -- what comes after the first member has no greater key, and came after it in the list
        have hle : key b ≤ key a := by simpa using (List.pairwise_cons.1 hsorted₂).1 b hb
        have hab : R a b := ha b (hmem b (List.mem_append_right l₁ hb))
        rcases Nat.lt_or_eq_of_le hle with hlt | heq
        · exact Or.inl hlt
        · exact Or.inr ⟨heq.symm, hab⟩
      · intro b hb c hc
        rcases List.mem_cons.1 hc with rfl | hc
        · -- what comes before it has a greater key
          have hlt : key c < key b := by simpa using hbefore b hb
          exact Or.inl hlt
        · exact ih₁₂ b hb c hc

/-! ### Wanted pairs -/

variable {f : Filter}

/-- An atom takes part in a search: it has a sketch and scores high enough. -/
def Eligible (f : Filter) (a : Atom) : Prop :=
  a.dataFlow.isSome ∧ f.minDuplicability ≤ (Dna.extract a).duplicabilityScore

instance (f : Filter) : DecidablePred (Eligible f) :=
  fun a => inferInstanceAs (Decidable (a.dataFlow.isSome ∧ _))

/-- The report on the atoms at two places. -/
def reportAt (atoms : List Atom) (p : Fin atoms.length × Fin atoms.length) : Duplicate where
  firstId := atoms[p.1].id
  secondId := atoms[p.2].id
  similarity := (Dna.extract atoms[p.1]).similarity (Dna.extract atoms[p.2])
  firstDuplicability := (Dna.extract atoms[p.1]).duplicabilityScore
  secondDuplicability := (Dna.extract atoms[p.2]).duplicabilityScore

/-- Two places, the earlier one first, with eligible atoms that are at least as similar as the
threshold asks. -/
def Wanted (f : Filter) (atoms : List Atom) (p : Fin atoms.length × Fin atoms.length) : Prop :=
  p.1 < p.2 ∧ Eligible f atoms[p.1] ∧ Eligible f atoms[p.2] ∧
    f.threshold.le (reportAt atoms p).similarity.toNumber = true

instance (f : Filter) (atoms : List Atom) : DecidablePred (Wanted f atoms) :=
  fun p => inferInstanceAs (Decidable (p.1 < p.2 ∧ _ ∧ _ ∧ _))

/-- The wanted pairs of places, in lexicographic order. -/
def wantedPlaces (f : Filter) (atoms : List Atom) : List (Fin atoms.length × Fin atoms.length) :=
  (List.finRange atoms.length ×ˢ List.finRange atoms.length).filter (Wanted f atoms ·)

lemma pairwise_wantedPlaces (f : Filter) (atoms : List Atom) :
    (wantedPlaces f atoms).Pairwise (Prod.Lex (· < ·) (· < ·)) :=
  (pairwise_product (List.pairwise_lt_finRange _) (List.pairwise_lt_finRange _)).filter _

lemma admits_eq_le (hf : f.threshold ≠ .real .nan) (similarity : Hundredths) :
    f.admits similarity = f.threshold.le similarity.toNumber :=
  (Number.le_eq_not_lt (Number.isSome_place? hf)
    (Number.isSome_place? similarity.toNumber_ne_nan)).symm

lemma freshEligible_eq (f : Filter) (atoms : List Atom) :
    DnaCache.freshEligible f atoms =
      ((List.finRange atoms.length).filter (Eligible f atoms[·])).map
        fun i => (atoms[i].id, Dna.extract atoms[i]) := by
  have hfresh : DnaCache.freshEligible f atoms =
      (atoms.filter (Eligible f ·)).map fun a => (a.id, Dna.extract a) := by
    rw [DnaCache.freshEligible, List.filter_map, List.filter_filter]
    refine congrArg (List.map _) (List.filter_congr fun a _ => ?_)
    rw [Bool.eq_iff_iff]
    simp only [Function.comp_apply, Bool.and_eq_true, decide_eq_true_eq]
    exact and_comm
  have hatoms : atoms = (List.finRange atoms.length).map (atoms[·]) :=
    (List.map_getElem_finRange atoms).symm
  rw [hfresh]
  nth_rewrite 1 [hatoms]
  rw [List.filter_map, List.map_map]
  rfl

/-- The pairs that a search keeps are the reports on the wanted places, in their order. -/
lemma pairs_freshEligible (hf : f.threshold ≠ .real .nan) (atoms : List Atom) :
    (pairs (DnaCache.freshEligible f atoms)).filter (fun d => f.admits d.similarity) =
      (wantedPlaces f atoms).map (reportAt atoms) := by
  have hsorted : ((List.finRange atoms.length).filter (Eligible f atoms[·])).Pairwise (· < ·) :=
    (List.pairwise_lt_finRange _).filter _
  rw [freshEligible_eq, pairs_map hsorted, product_filter, List.filter_filter, List.filter_map,
    List.filter_filter, wantedPlaces]
  refine congrArg (List.map (reportAt atoms)) (List.filter_congr fun p _ => ?_)
  rw [Bool.eq_iff_iff]
  simp only [Function.comp_apply, admits_eq_le hf, Bool.and_eq_true, decide_eq_true_eq]
  constructor
  · rintro ⟨hsimilar, hlt, hfirst, hsecond⟩
    exact ⟨hlt, hfirst, hsecond, hsimilar⟩
  · rintro ⟨hlt, hfirst, hsecond, hsimilar⟩
    exact ⟨hsimilar, hlt, hfirst, hsecond⟩

/-- **A search is exact, sorted and stable.**  Where the threshold is a number, the reports are
those on the wanted places, each pair of places once; they are sorted by similarity, the most
similar first, and equally similar ones are in the lexicographic order of their places. -/
theorem find_exact_sorted_stable (f : Filter) (cache : DnaCache) (atoms : List Atom)
    (hcache : cache.Sound) (hf : f.threshold ≠ .real .nan) :
    ∃ order : List (Fin atoms.length × Fin atoms.length),
      order.Perm (wantedPlaces f atoms) ∧
      (find f cache atoms).value.1 = order.map (reportAt atoms) ∧
      order.Pairwise fun p q =>
        (reportAt atoms q).similarity.count < (reportAt atoms p).similarity.count ∨
          (reportAt atoms p).similarity.count = (reportAt atoms q).similarity.count ∧
            Prod.Lex (· < ·) (· < ·) p q := by
  refine ⟨(wantedPlaces f atoms).mergeSort fun p q =>
      (reportAt atoms q).similarity.count ≤ (reportAt atoms p).similarity.count,
    List.mergeSort_perm _ _, ?_,
    pairwise_mergeSort_of_key (pairwise_wantedPlaces f atoms)
      fun p => (reportAt atoms p).similarity.count⟩
  rw [(hcache.find f atoms).1, ofEligible, pairs_freshEligible hf]
  refine (List.map_mergeSort ?_).symm
  intro p _ q _
  rfl

/-- A function, one without a sketch, and the first function again. -/
def copiedAtoms : List Atom := [loadUser, Atom.ofRequired "c.js::noted" "noted" "c.js", loadUser]

/-- The two places of the function that stands there twice. -/
def copiedPlaces : Fin copiedAtoms.length × Fin copiedAtoms.length :=
  (⟨0, by decide⟩, ⟨2, by decide⟩)

/-- They make the only pair that is reported. -/
theorem find_exact_sorted_stable_copied :
    Filter.standard.threshold ≠ .real .nan ∧
      (find .standard .empty copiedAtoms).value.1 = [reportAt copiedAtoms copiedPlaces] ∧
      (reportAt copiedAtoms copiedPlaces).similarity = ⟨100⟩ := by
  have hnumber : Filter.standard.threshold ≠ .real .nan := by decide +kernel
  have hform : Dna.SameForm (Dna.extract loadUser) (Dna.extract loadUser) :=
    ⟨rfl, rfl, rfl, rfl, rfl, rfl, rfl, rfl⟩
  have hsimilarity : (reportAt copiedAtoms copiedPlaces).similarity = ⟨100⟩ :=
    hform.similarity_eq.trans (if_pos rfl)
  have hwanted : ∀ p, Wanted .standard copiedAtoms p ↔ p = copiedPlaces := by
    -- the places alone rule out the others, so that no hash is computed
    have honly : ∀ i j : Fin copiedAtoms.length, i < j → Eligible .standard copiedAtoms[i] →
        Eligible .standard copiedAtoms[j] → (i, j) = copiedPlaces := by decide +kernel
    refine fun p => ⟨fun h => honly p.1 p.2 h.1 h.2.1 h.2.2.1, ?_⟩
    rintro rfl
    refine ⟨by decide, by decide +kernel, by decide +kernel, ?_⟩
    rw [hsimilarity]
    decide +kernel
  have hplaces : wantedPlaces .standard copiedAtoms = [copiedPlaces] := by
    simp only [wantedPlaces, hwanted]
    decide
  obtain ⟨order, hperm, hfind, -⟩ := find_exact_sorted_stable .standard .empty copiedAtoms
    DnaCache.sound_empty hnumber
  rw [hplaces, List.perm_singleton] at hperm
  subst hperm
  exact ⟨hnumber, hfind, hsimilarity⟩

end Lineage.Duplicate
