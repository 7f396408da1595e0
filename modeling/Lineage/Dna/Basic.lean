/-
The DNA of an atom: a layered fingerprint of what it does; and how similar two DNAs are.
-/
import Lineage.Dna.FlowType

namespace Lineage

/-- The layered fingerprint of an atom.  The structural hash covers the shape of the data flow, the
contextual hash adds what kind of function it is, and the semantic hash adds its name and size; the
pattern hash covers the sequence of operations alone. -/
structure Dna where
  structuralHash : String
  contextualHash : String
  semanticHash : String
  patternHash : String
  flowType : FlowType
  operationSequence : List String
  complexityScore : Int
  inputCount : Int
  outputCount : Int
  transformationCount : Int
  semanticFingerprint : String
  duplicabilityScore : Int
  id : String
deriving DecidableEq, Repr

namespace Dna

/-- The record of a DNA. -/
def fields (d : Dna) : List (String × Json) :=
  [("id", .str d.id), ("structuralHash", .str d.structuralHash),
    ("contextualHash", .str d.contextualHash), ("semanticHash", .str d.semanticHash),
    ("patternHash", .str d.patternHash), ("flowType", .str d.flowType.name),
    ("operationSequence", .list .str d.operationSequence),
    ("complexityScore", .int d.complexityScore), ("inputCount", .int d.inputCount),
    ("outputCount", .int d.outputCount), ("transformationCount", .int d.transformationCount),
    ("semanticFingerprint", .str d.semanticFingerprint),
    ("duplicabilityScore", .int d.duplicabilityScore)]

/-- The record of a DNA, as a value. -/
def toJson (d : Dna) : Json := .obj d.fields

end Dna

end Lineage

namespace Lineage.Dna

/-- How similar two DNAs are, in hundredths.  Equal structure counts forty, equal patterns thirty,
equal sequences twenty and equal fingerprints ten.  Where the structures differ, an equal kind of
flow counts fifteen; where the patterns or the sequences differ, an equal number of operations
counts ten for each. -/
def similarity (a b : Dna) : Hundredths :=
  let sameLength := a.operationSequence.length = b.operationSequence.length
  let shape :=
    if a.structuralHash = b.structuralHash then 40 else if a.flowType = b.flowType then 15 else 0
  let pattern := if a.patternHash = b.patternHash then 30 else if sameLength then 10 else 0
  let sequence :=
    if a.operationSequence = b.operationSequence then 20 else if sameLength then 10 else 0
  let meaning := if a.semanticFingerprint = b.semanticFingerprint then 10 else 0
  ⟨min 100 (shape + pattern + sequence + meaning)⟩

end Lineage.Dna
