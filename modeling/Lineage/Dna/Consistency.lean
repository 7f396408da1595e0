/-
Whether a DNA is consistent in itself.
-/
import Lineage.Dna.Extract
import Lineage.Text.Quoted

namespace Lineage.Dna

open Layer (hashLength patternHashLength)

/-- What may be wrong with a DNA. -/
inductive Defect where
  | missing (field : String)
  | malformed (field : String) (length : Nat) (value : String)
  | complexity (score : Int)
  | duplicability (score : Int)
  | negativeCount
  | fingerprint (value : String)
  | sequence
deriving DecidableEq, Repr

namespace Defect

/-- A text in quotes. -/
def inQuotes (s : String) : String := String.ofList (Text.quoted s.toList)

/-- The defect in words. -/
def message : Defect → String
  | missing field => s!"missing {field}"
  | malformed field length value => s!"{field} must be {length} hex chars, got {inQuotes value}"
  | complexity score => s!"complexity_score out of range: {score}"
  | duplicability score => s!"duplicability_score out of range: {score}"
  | negativeCount => "negative element count"
  | fingerprint value => s!"semantic_fingerprint is not verb:domain:entity: {inQuotes value}"
  | sequence => "operation_sequence does not match element counts"

end Defect

/-- What may be worth a remark. -/
inductive Remark where
  | noDataFlow
  | unclassified
deriving DecidableEq, Repr

namespace Remark

/-- The remark in words. -/
def message : Remark → String
  | noDataFlow => "fallback DNA: atom has no data-flow sketch"
  | unclassified => "flow type could not be classified"

end Remark

/-- A hexadecimal digit with a small letter. -/
def isHexDigit (c : Char) : Bool :=
  (48 ≤ c.toNat && c.toNat ≤ 57) || (97 ≤ c.toNat && c.toNat ≤ 102)

/-- Whether the text is one line of hexadecimal digits, at least one; the line may have its line
feed. -/
def isHexLine (cs : List Char) : Bool :=
  let digits := cs.dropWhile isHexDigit
  cs.head?.any isHexDigit && (digits.isEmpty || digits == ['\n'])

/-- What is wrong with a hash of the given length. -/
def hashDefect (field : String) (length : Nat) (value : String) : List Defect :=
  if value.length = length ∧ isHexLine value.toList then []
  else [.malformed field length value]

/-- What is wrong with a hash that must not be empty. -/
def requiredHashDefect (field : String) (value : String) : List Defect :=
  if value.isEmpty then [.missing field] else hashDefect field hashLength value

/-- `defect`, unless the condition holds. -/
def demand (condition : Bool) (defect : Defect) : List Defect :=
  if condition then [] else [defect]

/-- The least number of operations that the counts allow: one for receiving, where there is an
input, and one for each step. -/
def leastOperations (d : Dna) : Int :=
  d.transformationCount + if d.inputCount = 0 then 0 else 1

/-- What is wrong with a DNA, in order. -/
def defects (d : Dna) : List Defect :=
  requiredHashDefect "structural_hash" d.structuralHash ++
    requiredHashDefect "contextual_hash" d.contextualHash ++
    requiredHashDefect "semantic_hash" d.semanticHash ++
    requiredHashDefect "id" d.id ++
    hashDefect "pattern_hash" patternHashLength d.patternHash ++
    demand (1 ≤ d.complexityScore && d.complexityScore ≤ 10) (.complexity d.complexityScore) ++
    demand (0 ≤ d.duplicabilityScore && d.duplicabilityScore ≤ 100)
      (.duplicability d.duplicabilityScore) ++
    demand (0 ≤ d.inputCount && 0 ≤ d.outputCount && 0 ≤ d.transformationCount) .negativeCount ++
    demand (d.semanticFingerprint.toList.count ':' == 2) (.fingerprint d.semanticFingerprint) ++
    demand (d.leastOperations ≤ d.operationSequence.length &&
      d.operationSequence.length ≤ d.leastOperations + d.outputCount) .sequence

/-- What is worth a remark. -/
def remarks (d : Dna) : List Remark :=
  if d.structuralHash = blankHash then [.noDataFlow]
  else if d.flowType = .unknown then [.unclassified]
  else []

/-- Whether nothing is wrong with a DNA. -/
def isConsistent (d : Dna) : Bool := d.defects.isEmpty

end Lineage.Dna
