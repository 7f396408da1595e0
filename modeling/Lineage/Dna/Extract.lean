/-
The DNA of an atom, from its data-flow sketch, with its scores: how complex the data flow is, and
how telling a duplicate of the atom would be.
-/
import Lineage.Dna.Basic
import Lineage.Dna.Fingerprint
import Lineage.Dna.Layer

namespace Lineage.Dna.Score

/-- A number brought into the range from `low` to `high`. -/
def clamp (low high n : Int) : Int := max low (min high n)

/-- The complexity of a data flow, from one to ten.  In tenths, a parameter and an output count
five, a step eight and a side effect twenty; the sum is rounded, a half upwards. -/
def complexity (d : DataFlow) : Int :=
  let tenths : Nat := 10 + 5 * d.inputs.length + 8 * d.transformations.length +
    5 * d.outputs.length + if d.hasSideEffect then 20 else 0
  clamp 1 10 ((tenths + 5) / 10 : Nat)

/-- The callbacks that set a test up or tear it down. -/
def setupCallbacks : List String := ["beforeEach", "afterEach"]

/-- The names of constructors. -/
def constructorNames : List String := ["constructor", "__init__"]

/-- Whether a name reads like that of an accessor: `get`, `set` or `is`, and then a capital letter
or a low line. -/
def isAccessorName (name : String) : Bool :=
  ["get", "set", "is"].any fun verb =>
    match Text.after? verb.toList name.toList with
    | some (c :: _) => Source.isCapital c || c == '_'
    | _ => false

/-- `n` if the condition holds, and nothing otherwise. -/
def weight (condition : Bool) (n : Int) : Int := if condition then n else 0

/-- How telling a duplicate of the atom would be, from zero to a hundred.  Test scaffolding, small
methods, accessors and constructors repeat by nature and score low; exported interfaces and larger
bodies score high. -/
def duplicability (a : Atom) (d : DataFlow) : Int :=
  let words := purposeWords a.purpose
  let isSetup := a.testCallbackType.any setupCallbacks.contains
  clamp 0 100 (100
    - weight a.isTestCallback 60
    - weight (a.isTestCallback && isSetup) 20
    - weight (isGiven a.className && a.complexity == 1 && a.linesOfCode ≤ 5) 40
    - weight (isAccessorName a.name && a.complexity ≤ 1 && a.linesOfCode ≤ 3) 50
    - weight (constructorNames.contains a.name && a.complexity ≤ 2 && a.linesOfCode ≤ 5) 45
    - weight (words.contains "test" && words.contains "helper") 35
    + weight (a.isExported && words.contains "api") 15
    + weight (5 ≤ a.complexity) 10
    + weight (20 < a.linesOfCode) 15
    + weight d.hasSideEffect 10)

end Lineage.Dna.Score

namespace Lineage

/-- Receiving the input, then each step, then giving out each output; a thrown error is no step. -/
def DataFlow.operationSequence (d : DataFlow) : List String :=
  (if d.inputs.isEmpty then [] else ["receive"]) ++ d.operationNames ++
    d.outputs.filterMap fun o =>
      match o.kind with
      | .sideEffect => some "emit"
      | .returned => some "return"
      | .thrown => none

namespace Dna

open Layer (hashLength patternHashLength)

/-- The hash that stands for an absent structure. -/
def blankHash : String := String.ofList (List.replicate hashLength '0')

/-- The pattern hash that stands for an absent structure. -/
def blankPatternHash : String := String.ofList (List.replicate patternHashLength '0')

/-- The fingerprint that stands for an absent structure. -/
def blankFingerprint : String := "unknown:unknown:unknown"

/-- The DNA of every atom without a data-flow sketch. -/
def fallback : Dna where
  structuralHash := blankHash
  contextualHash := blankHash
  semanticHash := blankHash
  patternHash := blankPatternHash
  flowType := .unknown
  operationSequence := []
  complexityScore := 1
  inputCount := 0
  outputCount := 0
  transformationCount := 0
  semanticFingerprint := blankFingerprint
  duplicabilityScore := 0
  id := Layer.id blankHash blankPatternHash blankFingerprint

/-- The DNA of an atom with the given sketch. -/
def ofDataFlow (a : Atom) (d : DataFlow) : Dna :=
  let flow := FlowType.classify d
  let semanticFingerprint := fingerprint a flow
  let structural := Layer.structural d
  let contextual := Layer.contextual a structural
  let semantic := Layer.semantic a contextual semanticFingerprint
  let pattern := Layer.pattern d
  { structuralHash := structural
    contextualHash := contextual
    semanticHash := semantic
    patternHash := pattern
    flowType := flow
    operationSequence := d.operationSequence
    complexityScore := Score.complexity d
    inputCount := d.inputs.length
    outputCount := d.outputs.length
    transformationCount := d.transformations.length
    semanticFingerprint
    duplicabilityScore := Score.duplicability a d
    id := Layer.id semantic pattern semanticFingerprint }

/-- The DNA of an atom. -/
def extract (a : Atom) : Dna :=
  match a.dataFlow with
  | none => fallback
  | some d => ofDataFlow a d

end Dna

end Lineage
