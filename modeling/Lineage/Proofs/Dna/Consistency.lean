/-
Extracted DNAs are consistent.

The hashes of an extracted DNA are beginnings of digests, its scores are brought into their ranges,
its counts are lengths, and its operations are one for each step, one for the input and at most one
for each output.  So nothing can be wrong with it but its fingerprint, and that has a colon too many
exactly if an analysis brought it; the main statement is `extract_consistent_unless_colon`.
-/
import Mathlib.Data.List.TakeWhile
import Lineage.Dna.Consistency
import Lineage.Proofs.Dna.Fingerprint
import Lineage.Proofs.Schema.RoundTrip
import Lineage.Proofs.Text.Hex

namespace Lineage.Dna

open Layer (hash hashLength patternHashLength)

/-! ### Hashes -/

/-- A text of `length` hexadecimal digits. -/
def IsHash (length : Nat) (value : String) : Prop :=
  value.length = length ∧ ∀ c ∈ value.toList, isHexDigit c = true

lemma isHexLine_of_forall {cs : List Char} (hne : cs ≠ []) (h : ∀ c ∈ cs, isHexDigit c = true) :
    isHexLine cs = true := by
  obtain ⟨c, rest, rfl⟩ := List.exists_cons_of_ne_nil hne
  rw [isHexLine, List.dropWhile_eq_nil_iff.2 h]
  simpa using h c List.mem_cons_self

lemma IsHash.hashDefect_eq_nil {length : Nat} {value : String} (h : IsHash length value)
    (hlength : length ≠ 0) (field : String) : hashDefect field length value = [] := by
  have hne : value.toList ≠ [] := by
    intro hnil
    rw [String.toList_eq_nil_iff] at hnil
    rw [hnil] at h
    exact hlength h.1.symm
  rw [hashDefect, if_pos ⟨h.1, isHexLine_of_forall hne h.2⟩]

lemma IsHash.requiredHashDefect_eq_nil {value : String} (h : IsHash hashLength value)
    (field : String) : requiredHashDefect field value = [] := by
  have hempty : ¬value.isEmpty = true := by
    intro hempty
    rw [String.isEmpty_iff] at hempty
    rw [hempty] at h
    exact absurd h.1 (by decide)
  rw [requiredHashDefect, if_neg hempty]
  exact h.hashDefect_eq_nil (by decide) field

/-- The beginning of a digest is a hash. -/
lemma isHash_hash {length : Nat} (hlength : length ≤ 64) (record : Json) :
    IsHash length (hash length record) := by
  have hdigits : ∀ value < 16, isHexDigit (Text.hexDigit value) = true := by decide
  rw [Layer.hash, IsHash, String.length_ofList, String.toList_ofList, List.length_take,
    Sha256.length_digest]
  refine ⟨Nat.min_eq_left hlength, fun c hc => ?_⟩
  obtain ⟨value, hvalue, rfl⟩ := Sha256.exists_hexDigit_of_mem_digest (List.mem_of_mem_take hc)
  exact hdigits value hvalue

lemma isHash_zeros (length : Nat) : IsHash length (String.ofList (List.replicate length '0')) := by
  rw [IsHash, String.length_ofList, String.toList_ofList, List.length_replicate]
  refine ⟨rfl, fun c hc => ?_⟩
  rw [List.eq_of_mem_replicate hc]
  rfl

/-! ### Everything but the fingerprint -/

/-- The DNA is in order, but perhaps for its fingerprint. -/
structure WellMade (d : Dna) : Prop where
  structuralHash : IsHash hashLength d.structuralHash
  contextualHash : IsHash hashLength d.contextualHash
  semanticHash : IsHash hashLength d.semanticHash
  id : IsHash hashLength d.id
  patternHash : IsHash patternHashLength d.patternHash
  complexity : 1 ≤ d.complexityScore ∧ d.complexityScore ≤ 10
  duplicability : 0 ≤ d.duplicabilityScore ∧ d.duplicabilityScore ≤ 100
  counts : 0 ≤ d.inputCount ∧ 0 ≤ d.outputCount ∧ 0 ≤ d.transformationCount
  sequence : d.leastOperations ≤ d.operationSequence.length ∧
    d.operationSequence.length ≤ d.leastOperations + d.outputCount

lemma WellMade.defects_eq {d : Dna} (h : d.WellMade) :
    d.defects =
      demand (d.semanticFingerprint.toList.count ':' == 2)
        (.fingerprint d.semanticFingerprint) := by
  simp [defects, h.structuralHash.requiredHashDefect_eq_nil,
    h.contextualHash.requiredHashDefect_eq_nil, h.semanticHash.requiredHashDefect_eq_nil,
    h.id.requiredHashDefect_eq_nil, h.patternHash.hashDefect_eq_nil (by decide), demand,
    h.complexity, h.duplicability, h.counts, h.sequence]

lemma wellMade_fallback : fallback.WellMade where
  structuralHash := isHash_zeros hashLength
  contextualHash := isHash_zeros hashLength
  semanticHash := isHash_zeros hashLength
  id := isHash_hash (by decide) _
  patternHash := isHash_zeros patternHashLength
  complexity := by decide
  duplicability := by decide
  counts := by decide
  sequence := by decide

lemma Score.clamp_bounds {low high : Int} (h : low ≤ high) (n : Int) :
    low ≤ clamp low high n ∧ clamp low high n ≤ high := by
  rw [clamp]
  omega

/-- There is an operation for the input, where there is one, and for each step; and an output has
one at most. -/
lemma exists_length_operationSequence (d : DataFlow) :
    ∃ given ≤ d.outputs.length, d.operationSequence.length =
      d.transformations.length + (if d.inputs.length = 0 then 0 else 1) + given := by
  have hreceive : (if d.inputs.isEmpty then [] else ["receive"] : List String).length =
      if d.inputs.length = 0 then 0 else 1 := by
    cases d.inputs <;> rfl
  have hsteps : d.operationNames.length = d.transformations.length := List.length_map _
  rw [DataFlow.operationSequence, List.length_append, List.length_append, hreceive, hsteps,
    Nat.add_comm d.transformations.length]
  exact ⟨_, List.length_filterMap_le _ d.outputs, rfl⟩

lemma wellMade_ofDataFlow (a : Atom) (d : DataFlow) : (ofDataFlow a d).WellMade where
  structuralHash := isHash_hash (by decide) _
  contextualHash := isHash_hash (by decide) _
  semanticHash := isHash_hash (by decide) _
  id := isHash_hash (by decide) _
  patternHash := isHash_hash (by decide) _
  complexity := Score.clamp_bounds (by decide) _
  duplicability := Score.clamp_bounds (by decide) _
  counts := ⟨Int.natCast_nonneg _, Int.natCast_nonneg _, Int.natCast_nonneg _⟩
  sequence := by
    obtain ⟨given, hgiven, hlength⟩ := exists_length_operationSequence d
    simp only [leastOperations, ofDataFlow, hlength]
    by_cases hinputs : d.inputs.length = 0
    · simp only [Int.natCast_eq_zero, hinputs, if_true]
      omega
    · simp only [Int.natCast_eq_zero, hinputs, if_false]
      omega

/-! ### Extraction -/

lemma wellMade_extract (a : Atom) : (extract a).WellMade := by
  rw [extract]
  cases a.dataFlow with
  | none => exact wellMade_fallback
  | some d => exact wellMade_ofDataFlow a d

lemma count_colon_extract_eq_two_iff (a : Atom) :
    (extract a).semanticFingerprint.toList.count ':' = 2 ↔
      ¬(a.dataFlow.isSome = true ∧ BringsColon a) := by
  rw [extract]
  cases a.dataFlow with
  | none =>
      have hblank : blankFingerprint.toList.count ':' = 2 := by decide
      exact iff_of_true hblank fun h => Bool.noConfusion h.1
  | some d =>
      rw [Option.isSome_some, eq_self, true_and]
      exact count_colon_fingerprint_eq_two_iff a _

/-- **Extraction gives consistent DNAs.**  Only an analysis with a colon in its verb, its domain or
its entity spoils one, and then the fingerprint is all that is wrong with it. -/
theorem extract_consistent_unless_colon (a : Atom) :
    (¬(a.dataFlow.isSome = true ∧ BringsColon a) →
      (extract a).isConsistent = true ∧ (extract a).defects = []) ∧
    (a.dataFlow.isSome = true ∧ BringsColon a →
      (extract a).isConsistent = false ∧
        (extract a).defects = [.fingerprint (extract a).semanticFingerprint]) := by
  have hdefects := (wellMade_extract a).defects_eq
  have hcount := count_colon_extract_eq_two_iff a
  constructor
  · intro hclean
    have hnone : (extract a).defects = [] := by
      rw [hdefects, demand, if_pos (beq_iff_eq.2 (hcount.2 hclean))]
    exact ⟨List.isEmpty_iff.2 hnone, hnone⟩
  · intro hcolon
    have hne : ¬((extract a).semanticFingerprint.toList.count ':' == 2) = true := by
      rw [beq_iff_eq, hcount]
      exact not_not_intro hcolon
    have hone : (extract a).defects = [.fingerprint (extract a).semanticFingerprint] := by
      rw [hdefects, demand, if_neg hne]
    exact ⟨by rw [isConsistent, hone]; rfl, hone⟩

/-- A function with an empty sketch, and an analysis that names the given verb. -/
def analysedAtom (verb : String) : Atom :=
  { Atom.ofRequired "f" "f" "" with
    dataFlow := some ⟨[], [], []⟩
    semantic := some ⟨some verb, none, none⟩ }

/-- A verb with a colon spoils the DNA, one without does not. -/
theorem extract_consistent_unless_colon_verb :
    (extract (analysedAtom "read")).defects = [] ∧
      (extract (analysedAtom "a:b")).defects = [.fingerprint "a:b:core:unknown"] := by
  constructor
  · refine ((extract_consistent_unless_colon (analysedAtom "read")).1 ?_).2
    rintro ⟨-, m, verb, hm, hverb, -, -, hcolon⟩
    obtain rfl := Option.some.inj hm
    obtain rfl := Option.some.inj hverb
    rcases hcolon with hcolon | ⟨_, hdomain, -⟩ | ⟨_, hentity, -⟩
    · exact absurd hcolon (by decide)
    · cases hdomain
    · cases hentity
  · have hbrings : BringsColon (analysedAtom "a:b") :=
      ⟨_, "a:b", rfl, rfl, by decide, by decide, Or.inl (by decide)⟩
    exact ((extract_consistent_unless_colon (analysedAtom "a:b")).2 ⟨rfl, hbrings⟩).2

end Lineage.Dna
