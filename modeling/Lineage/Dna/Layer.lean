/-
The layers of a DNA: its hashes.

Each is the beginning of the SHA-256 digest of a record's text, written without blanks and with its
names in alphabetical order.
-/
import Lineage.Atom.Basic
import Lineage.Sha256
import Lineage.Text.Basic

namespace Lineage.Dna.Layer

/-- How many digits a hash has. -/
def hashLength : Nat := 16

/-- How many digits a pattern hash has. -/
def patternHashLength : Nat := 12

/-- The first `length` digits of a record's digest. -/
def hash (length : Nat) (record : Json) : String :=
  String.ofList ((Sha256.digest record.compact).take length)

/-! ### The records -/

/-- An ascending list with one more member, unless it is there. -/
def insertSorted (x : String) : List String → List String
  | [] => [x]
  | y :: ys =>
      if x = y then y :: ys
      else if x < y then x :: y :: ys
      else y :: insertSorted x ys

/-- The members of a list in ascending order, each once. -/
def sortedSet (xs : List String) : List String := xs.foldr insertSorted []

/-- The shape of a parameter: how it binds, and the set of the ways it is used. -/
def inputRecord (p : Parameter) : Json :=
  .obj [("type", .str p.shape.name),
    ("usagePattern", .list .str (sortedSet (p.usages.map Usage.kind)))]

/-- The shape of a step: what it does, and to how many things. -/
def transformationRecord (t : Transformation) : Json :=
  .obj [("arity", .int t.sources.length), ("operation", .opt .str t.operation)]

/-- The shape of an output: its kind. -/
def outputRecord (o : Output) : Json :=
  .obj [("hasSideEffect", .bool (o.kind = .sideEffect)), ("type", .str o.kind.tag)]

/-- The shape of a data flow, without any names. -/
def structuralRecord (d : DataFlow) : Json :=
  .obj [("inputs", .list inputRecord d.inputs), ("outputs", .list outputRecord d.outputs),
    ("transformations", .list transformationRecord d.transformations)]

/-- What kind of function an atom is, on top of its structure. -/
def contextualRecord (a : Atom) (structuralHash : String) : Json :=
  .obj [("archetype", .opt .str (a.archetype.bind Archetype.kind)),
    ("className", .opt .str a.className), ("isAsync", .bool a.isAsync),
    ("isExported", .bool a.isExported), ("isTestCallback", .bool a.isTestCallback),
    ("purpose", .opt .str a.purpose),
    ("severity", .opt Severity.toJson (a.archetype.bind Archetype.severity)),
    ("structural", .str structuralHash), ("testCallbackType", .opt .str a.testCallbackType)]

/-- What an atom is called and how large it is, on top of its context. -/
def semanticRecord (a : Atom) (contextualHash fingerprint : String) : Json :=
  .obj [("complexity", .int a.complexity), ("contextual", .str contextualHash),
    ("linesOfCode", .int a.linesOfCode), ("name", .str a.name),
    ("semanticFingerprint", .str fingerprint)]

/-- The operations of a data flow in one text. -/
def patternText (d : DataFlow) : String :=
  String.ofList (Text.join ['-', '>'] (d.operationNames.map String.toList))

/-! ### The hashes -/

/-- The hash of a data flow's shape. -/
def structural (d : DataFlow) : String :=
  hash hashLength (structuralRecord d)

/-- The hash of an atom's context. -/
def contextual (a : Atom) (structuralHash : String) : String :=
  hash hashLength (contextualRecord a structuralHash)

/-- The hash of an atom's meaning. -/
def semantic (a : Atom) (contextualHash fingerprint : String) : String :=
  hash hashLength (semanticRecord a contextualHash fingerprint)

/-- The hash of the sequence of operations. -/
def pattern (d : DataFlow) : String :=
  hash patternHashLength (.str (patternText d))

/-- The id of a DNA with the given hashes and fingerprint. -/
def id (semanticHash patternHash fingerprint : String) : String :=
  hash hashLength (.list .str [semanticHash, patternHash, fingerprint])

end Lineage.Dna.Layer
