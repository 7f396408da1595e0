/-
Which DNAs pass for consistent.

A DNA may come from elsewhere than an extraction, so each of its parts is tested.  A hash is tested
for its length, and as one line of hexadecimal digits; a line may end with its line feed, and the
line feed counts in the length.  So what passes for a hash is one, or has a line feed in place of
its last digit (`hashDefect_eq_nil_iff`).  All other tests are exact, and the main statement,
`isConsistent_iff_inOrder`, says which DNAs pass, and which of those that pass are well formed.
-/
import Lineage.Proofs.Dna.Consistency
import Lineage.Proofs.Text.Affix

namespace Lineage.Dna

open Layer (hashLength patternHashLength)

/-! ### Hashes -/

/-- A text of `length` characters, each of them one of 0 to 9 and a to f. -/
def IsHexText (length : Nat) (value : String) : Prop :=
  value.length = length ∧ ∀ c ∈ value.toList, c ∈ "0123456789abcdef".toList

/-- A text that passes for a hash of the given length: one that is, or one with a line feed in place
of the last digit. -/
def PassesForHash (length : Nat) (value : String) : Prop :=
  IsHexText length value ∨
    ∃ digits, IsHexText (length - 1) digits ∧ value = digits ++ "\n"

lemma isHexDigit_iff {c : Char} : isHexDigit c = true ↔ c ∈ "0123456789abcdef".toList := by
  constructor
  · have hcodes : ∀ n < 103, isHexDigit (Char.ofNat n) = true →
        Char.ofNat n ∈ "0123456789abcdef".toList := by decide
    intro h
    have hlt : c.toNat < 103 := by
      simp only [isHexDigit, Bool.or_eq_true, Bool.and_eq_true, decide_eq_true_eq] at h
      omega
    have hc := hcodes c.toNat hlt
    rw [Char.ofNat_toNat] at hc
    exact hc h
  · intro h
    have hdigits : "0123456789abcdef".toList.all isHexDigit = true := by decide
    exact List.all_eq_true.1 hdigits c h

lemma isHexText_iff_isHash {length : Nat} {value : String} :
    IsHexText length value ↔ IsHash length value := by
  simp only [IsHexText, IsHash, isHexDigit_iff]

/-- A line of hexadecimal digits, without its line feed or with it. -/
lemma isHexLine_iff {cs : List Char} :
    isHexLine cs = true ↔ ∃ digits, digits ≠ [] ∧ (∀ c ∈ digits, isHexDigit c = true) ∧
      (cs = digits ∨ cs = digits ++ ['\n']) := by
  have hfeed : isHexDigit '\n' = false := by decide
  constructor
  · intro h
    simp only [isHexLine, Bool.and_eq_true, Bool.or_eq_true, List.isEmpty_iff, beq_iff_eq] at h
    obtain ⟨hhead, hrest⟩ := h
    refine ⟨cs.takeWhile isHexDigit, ?_, fun c hc => List.mem_takeWhile_imp hc, ?_⟩
    · cases cs with
      | nil => simp at hhead
      | cons c cs => simpa using hhead
    · have hsplit := List.takeWhile_append_dropWhile (p := isHexDigit) (l := cs)
      rcases hrest with hrest | hrest
      · rw [hrest, List.append_nil] at hsplit
        exact Or.inl hsplit.symm
      · rw [hrest] at hsplit
        exact Or.inr hsplit.symm
  · rintro ⟨digits, hne, hdigits, rfl | rfl⟩
    · exact isHexLine_of_forall hne hdigits
    · obtain ⟨c, rest, rfl⟩ := List.exists_cons_of_ne_nil hne
      have hdrop : (c :: rest ++ ['\n']).dropWhile isHexDigit = ['\n'] :=
        (Text.takeWhile_append_of_head hdigits (by simpa using hfeed)).2
      rw [isHexLine, hdrop]
      simpa using hdigits c List.mem_cons_self

/-- What passes the test for a hash. -/
lemma hashDefect_eq_nil_iff {length : Nat} (hlength : 2 ≤ length) (field value : String) :
    hashDefect field length value = [] ↔ PassesForHash length value := by
  have htest : hashDefect field length value = [] ↔
      value.length = length ∧ isHexLine value.toList = true := by
    rw [hashDefect]
    split
    · next h => exact iff_of_true rfl h
    · next h => exact iff_of_false (List.cons_ne_nil _ _) h
  rw [htest, isHexLine_iff, PassesForHash]
  simp only [isHexText_iff_isHash]
  constructor
  · rintro ⟨hvalue, digits, -, hdigits, heq | heq⟩
    · exact Or.inl ⟨hvalue, heq ▸ hdigits⟩
    · have hcount : digits.length + 1 = length := by
        rw [← hvalue, ← String.length_toList, heq, List.length_append, List.length_singleton]
      refine Or.inr ⟨String.ofList digits, ⟨?_, ?_⟩, ?_⟩
      · rw [String.length_ofList]
        omega
      · rwa [String.toList_ofList]
      · rw [← String.toList_inj, String.toList_append, String.toList_ofList, heq]
        rfl
  · rintro (⟨hvalue, hdigits⟩ | ⟨digits, ⟨hcount, hdigits⟩, rfl⟩)
    · refine ⟨hvalue, value.toList, ?_, hdigits, Or.inl rfl⟩
      rw [← List.length_pos_iff, String.length_toList]
      omega
    · refine ⟨?_, digits.toList, ?_, hdigits, Or.inr (String.toList_append ..)⟩
      · have hfeed : "\n".length = 1 := rfl
        rw [String.length_append, hcount, hfeed]
        omega
      · rw [← List.length_pos_iff, String.length_toList]
        omega

/-- The test for a hash that must not be empty lets the same texts pass. -/
lemma requiredHashDefect_eq_nil_iff (field value : String) :
    requiredHashDefect field value = [] ↔ PassesForHash hashLength value := by
  rw [← hashDefect_eq_nil_iff (by decide) field, requiredHashDefect]
  split
  · next hempty =>
      rw [String.isEmpty_iff.1 hempty]
      exact iff_of_false (List.cons_ne_nil _ _) (List.cons_ne_nil _ _)
  · rfl

/-- A line feed is what tells the texts that pass for a hash from hashes. -/
lemma isHexText_iff_passesForHash {length : Nat} {value : String} :
    IsHexText length value ↔ PassesForHash length value ∧ '\n' ∉ value.toList := by
  constructor
  · intro h
    refine ⟨Or.inl h, fun hfeed => ?_⟩
    exact absurd (h.2 _ hfeed) (by decide)
  · rintro ⟨h | ⟨digits, -, rfl⟩, hfeed⟩
    · exact h
    · rw [String.toList_append] at hfeed
      exact absurd (List.mem_append_right _ (List.mem_singleton_self _)) hfeed

/-! ### All parts of a DNA -/

/-- The hashes of a DNA, each with the length that it should have. -/
def hashes (d : Dna) : List (Nat × String) :=
  [(16, d.structuralHash), (16, d.contextualHash), (16, d.semanticHash), (16, d.id),
    (12, d.patternHash)]

/-- The DNA is in order, but perhaps for its hashes: the scores are in their ranges, the counts are
counts, the fingerprint has three parts, and there is an operation for receiving, if there is an
input, one for each step, and at most one for each output. -/
structure InOrder (d : Dna) : Prop where
  complexity : 1 ≤ d.complexityScore ∧ d.complexityScore ≤ 10
  duplicability : 0 ≤ d.duplicabilityScore ∧ d.duplicabilityScore ≤ 100
  counts : 0 ≤ d.inputCount ∧ 0 ≤ d.outputCount ∧ 0 ≤ d.transformationCount
  fingerprint : d.semanticFingerprint.toList.count ':' = 2
  sequence :
    d.transformationCount + (if d.inputCount ≠ 0 then 1 else 0) ≤ d.operationSequence.length ∧
      d.operationSequence.length ≤
        d.transformationCount + (if d.inputCount ≠ 0 then 1 else 0) + d.outputCount

/-- The DNA is well formed: it is in order, and its hashes are hexadecimal digits, as many as they
should be. -/
def WellFormed (d : Dna) : Prop :=
  d.InOrder ∧ ∀ hash ∈ d.hashes, IsHexText hash.1 hash.2

lemma demand_eq_nil_iff {condition : Bool} {defect : Defect} :
    demand condition defect = [] ↔ condition = true := by
  cases condition <;> simp [demand]

/-- Nothing is wrong with a DNA exactly if it is in order and its hashes pass for hashes. -/
lemma isConsistent_iff (d : Dna) :
    d.isConsistent = true ↔ d.InOrder ∧ ∀ hash ∈ d.hashes, PassesForHash hash.1 hash.2 := by
  have hleast : d.leastOperations =
      d.transformationCount + (if d.inputCount ≠ 0 then 1 else 0) := by
    rw [leastOperations, ite_not]
  have hpattern : hashDefect "pattern_hash" patternHashLength d.patternHash = [] ↔
      PassesForHash patternHashLength d.patternHash :=
    hashDefect_eq_nil_iff (by decide) "pattern_hash" d.patternHash
  simp only [isConsistent, defects, List.isEmpty_iff, List.append_eq_nil_iff,
    requiredHashDefect_eq_nil_iff, hpattern, demand_eq_nil_iff, Bool.and_eq_true,
    decide_eq_true_eq, beq_iff_eq, hleast]
  constructor
  · rintro ⟨⟨⟨⟨⟨⟨⟨⟨⟨hs, hc⟩, hm⟩, hi⟩, hp⟩, hcx⟩, hdup⟩, ⟨hin, hout⟩, htr⟩, hfp⟩, hseq⟩
    refine ⟨⟨hcx, hdup, ⟨hin, hout, htr⟩, hfp, hseq⟩, ?_⟩
    simp only [hashes, List.forall_mem_cons]
    exact ⟨hs, hc, hm, hi, hp, fun _ h => absurd h List.not_mem_nil⟩
  · rintro ⟨⟨hcx, hdup, ⟨hin, hout, htr⟩, hfp, hseq⟩, hhashes⟩
    simp only [hashes, List.forall_mem_cons] at hhashes
    obtain ⟨hs, hc, hm, hi, hp, -⟩ := hhashes
    exact ⟨⟨⟨⟨⟨⟨⟨⟨⟨hs, hc⟩, hm⟩, hi⟩, hp⟩, hcx⟩, hdup⟩, ⟨hin, hout⟩, htr⟩, hfp⟩, hseq⟩

/-- **What passes for consistent.**  A DNA passes exactly if it is in order and each of its hashes
is one, or has a line feed in place of its last digit.  So the well-formed DNAs are those that pass
and have no line feed in any of their hashes. -/
theorem isConsistent_iff_inOrder (d : Dna) :
    (d.isConsistent = true ↔ d.InOrder ∧ ∀ hash ∈ d.hashes, PassesForHash hash.1 hash.2) ∧
      (d.WellFormed ↔ d.isConsistent = true ∧ ∀ hash ∈ d.hashes, '\n' ∉ hash.2.toList) := by
  refine ⟨isConsistent_iff d, ?_⟩
  rw [WellFormed, isConsistent_iff d, and_assoc]
  refine and_congr_right fun _ => ?_
  simp only [isHexText_iff_passesForHash, forall_and]

/-- The DNA of an atom without a sketch, but for the last digit of its structural hash. -/
def fedHash : Dna := { fallback with structuralHash := "000000000000000\n" }

/-- It passes, and is not well formed. -/
theorem line_feed_passes :
    fedHash.isConsistent = true ∧ ¬ fedHash.WellFormed := by
  refine ⟨by decide +kernel, fun h => ?_⟩
  have hhash : IsHexText 16 "000000000000000\n" := h.2 _ List.mem_cons_self
  exact (isHexText_iff_passesForHash.1 hhash).2 (by decide)

end Lineage.Dna
