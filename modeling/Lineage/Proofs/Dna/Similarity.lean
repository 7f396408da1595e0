/-
The similarity of DNAs.

Each of four parts of a DNA earns its full weight where two DNAs have it in common, and some earn
less where something weaker agrees.  No part earns more than its weight, and only what is equal
earns all of it, so a mix of partial credits never makes up for a difference.  The weights are
hundredths.  Added up in double precision their sum may miss the exact one by a little, and rounding
to whole hundredths mends this for every combination of credits (`rounded_summed`).
-/
import Mathlib.Algebra.GroupWithZero.Nat
import Mathlib.Tactic.Lemma
import Lineage.Dna.Basic

namespace Lineage.Dna

/-! ### Credits -/

section Credit

variable {same near same' near' : Prop} [Decidable same] [Decidable near] [Decidable same']
  [Decidable near']

/-- What a part of a comparison earns: all of its weight where the part is the same, and a share of
it where it is near. -/
def credit (same near : Prop) [Decidable same] [Decidable near] (weight share : Nat) : Nat :=
  if same then weight else if near then share else 0

lemma credit_congr (hsame : same ↔ same') (hnear : near ↔ near') (weight share : Nat) :
    credit same near weight share = credit same' near' weight share := by
  simp only [credit, hsame, hnear]

/-- No part earns more than its weight, and only what is the same earns all of it. -/
lemma credit_le_and_eq_iff (same near : Prop) [Decidable same] [Decidable near] {weight share : Nat}
    (h : share < weight) :
    credit same near weight share ≤ weight ∧ (credit same near weight share = weight ↔ same) := by
  unfold credit
  by_cases hsame : same
  · simp [hsame]
  · simp only [hsame, if_false, iff_false]
    split <;> omega

lemma credit_mem (weight share : Nat) : credit same near weight share ∈ [weight, share, 0] := by
  unfold credit
  split
  · simp
  · split <;> simp

end Credit

/-- What the parts of two DNAs earn, in hundredths: their structure, their pattern, their sequence
of operations and their fingerprint. -/
def credits (a b : Dna) : List Nat :=
  [credit (a.structuralHash = b.structuralHash) (a.flowType = b.flowType) 40 15,
    credit (a.patternHash = b.patternHash)
      (a.operationSequence.length = b.operationSequence.length) 30 10,
    credit (a.operationSequence = b.operationSequence)
      (a.operationSequence.length = b.operationSequence.length) 20 10,
    credit (a.semanticFingerprint = b.semanticFingerprint) False 10 0]

lemma similarity_eq_min (a b : Dna) : a.similarity b = ⟨min 100 (credits a b).sum⟩ := by
  simp [similarity, credits, credit, Nat.add_assoc]

lemma credits_comm (a b : Dna) : credits a b = credits b a := by
  have hlength : a.operationSequence.length = b.operationSequence.length ↔
      b.operationSequence.length = a.operationSequence.length := eq_comm
  unfold credits
  rw [credit_congr (@eq_comm _ a.structuralHash _) (@eq_comm _ a.flowType _) 40 15,
    credit_congr (@eq_comm _ a.patternHash _) hlength 30 10,
    credit_congr (@eq_comm _ a.operationSequence _) hlength 20 10,
    credit_congr (@eq_comm _ a.semanticFingerprint _) Iff.rfl 10 0]

/-- Together the parts earn a hundred at most, and that only where all of them are the same. -/
lemma sum_credits (a b : Dna) :
    (credits a b).sum ≤ 100 ∧
      ((credits a b).sum = 100 ↔ a.structuralHash = b.structuralHash ∧
        a.patternHash = b.patternHash ∧ a.operationSequence = b.operationSequence ∧
        a.semanticFingerprint = b.semanticFingerprint) := by
  obtain ⟨hshape, hshape_iff⟩ := credit_le_and_eq_iff (a.structuralHash = b.structuralHash)
    (a.flowType = b.flowType) (by decide : 15 < 40)
  obtain ⟨hpattern, hpattern_iff⟩ := credit_le_and_eq_iff (a.patternHash = b.patternHash)
    (a.operationSequence.length = b.operationSequence.length) (by decide : 10 < 30)
  obtain ⟨hsequence, hsequence_iff⟩ := credit_le_and_eq_iff
    (a.operationSequence = b.operationSequence)
    (a.operationSequence.length = b.operationSequence.length) (by decide : 10 < 20)
  obtain ⟨hmeaning, hmeaning_iff⟩ := credit_le_and_eq_iff
    (a.semanticFingerprint = b.semanticFingerprint) False (by decide : 0 < 10)
  simp only [credits, List.sum_cons, List.sum_nil]
  refine ⟨by omega, ?_, ?_⟩
  · -- whatever falls short in one part, the others cannot make up for
    intro hfull
    exact ⟨hshape_iff.1 (by omega), hpattern_iff.1 (by omega), hsequence_iff.1 (by omega),
      hmeaning_iff.1 (by omega)⟩
  · rintro ⟨hsame_shape, hsame_pattern, hsame_sequence, hsame_meaning⟩
    have hshape_full := hshape_iff.2 hsame_shape
    have hpattern_full := hpattern_iff.2 hsame_pattern
    have hsequence_full := hsequence_iff.2 hsame_sequence
    have hmeaning_full := hmeaning_iff.2 hsame_meaning
    omega

lemma count_similarity (a b : Dna) : (a.similarity b).count = (credits a b).sum := by
  rw [similarity_eq_min]
  exact Nat.min_eq_right (sum_credits a b).1

/-! ### Double precision -/

/-- The sum of credits in double precision, from the first part on; a part that earns nothing adds
nothing. -/
def summed (credits : List Nat) : Double :=
  (credits.filter (· ≠ 0)).foldl (fun sum n => sum.add (Hundredths.toDouble ⟨n⟩)) (Double.ofInt 0)

/-- A sum to whole hundredths, and one where it is more. -/
def rounded (sum : Double) : Double :=
  (if sum.lt (Double.ofInt 1) then sum else Double.ofInt 1).roundHundredths

/-- Whatever the parts earn, their sum in double precision is nearest to the exact sum. -/
lemma rounded_summed :
    ∀ shape ∈ [40, 15, 0], ∀ pattern ∈ [30, 10, 0], ∀ sequence ∈ [20, 10, 0],
      ∀ meaning ∈ [10, 0, 0], rounded (summed [shape, pattern, sequence, meaning]) =
        Hundredths.toDouble ⟨shape + pattern + sequence + meaning⟩ := by
  decide +kernel

lemma toDouble_similarity (a b : Dna) :
    (a.similarity b).toDouble = rounded (summed (credits a b)) := by
  have hsum : a.similarity b = ⟨(credits a b).sum⟩ := by
    rw [← count_similarity]
  rw [hsum]
  unfold credits
  rw [rounded_summed _ (credit_mem 40 15) _ (credit_mem 30 10) _ (credit_mem 20 10) _
    (credit_mem 10 0)]
  simp [Nat.add_assoc]

/-- Of the scores up to one, only the full score is the number one. -/
lemma toDouble_eq_one_iff {n : Nat} (h : n ≤ 100) :
    (Hundredths.mk n).toDouble = Double.ofInt 1 ↔ n = 100 := by
  have hall : ∀ n ∈ List.range 101,
      (Hundredths.mk n).toDouble = Double.ofInt 1 ↔ n = 100 := by decide +kernel
  exact hall n (List.mem_range.2 (by omega))

/-- **The similarity of DNAs is a similarity**, whatever the DNAs are.  It does not depend on which
comes first; it is what adding up the weights in double precision and rounding gives, a whole number
of hundredths from zero to one; and it is one exactly where the DNAs have their structure, their
pattern, their operations and their fingerprint in common. -/
theorem similarity_symm_and_full_iff (a b : Dna) :
    a.similarity b = b.similarity a ∧
    (a.similarity b).toDouble = rounded (summed (credits a b)) ∧
    (∃ n ≤ 100, (a.similarity b).toDouble = Double.ofRatio false n 100) ∧
    ((a.similarity b).toDouble = Double.ofInt 1 ↔ a.structuralHash = b.structuralHash ∧
      a.patternHash = b.patternHash ∧ a.operationSequence = b.operationSequence ∧
      a.semanticFingerprint = b.semanticFingerprint) := by
  obtain ⟨hle, hfull⟩ := sum_credits a b
  rw [← count_similarity] at hle hfull
  refine ⟨?_, toDouble_similarity a b, ⟨(a.similarity b).count, hle, rfl⟩, ?_⟩
  · rw [similarity_eq_min, similarity_eq_min, credits_comm]
  · rw [← hfull]
    exact toDouble_eq_one_iff hle

end Lineage.Dna
