/-
The data-flow sketch of a function: what goes in, what is done with it, and what comes out.
-/
import Lineage.Atom.Output
import Lineage.Atom.Parameter

namespace Lineage

open Schema

/-- A text that is there and not empty. -/
def isGiven : Option String → Bool
  | some s => s ≠ ""
  | none => false

/-- `a` if it is given, and `b` otherwise. -/
def given (a b : Option String) : Option String :=
  if isGiven a then a else b

/-- `a` if it is given, and the text `s` otherwise. -/
def givenOr (a : Option String) (s : String) : String :=
  match given a (some s) with
  | some t => t
  | none => s

/-- A thing that a step produces. -/
structure Product where
  name : String
deriving DecidableEq, Repr

namespace Product

/-- A product from its record. -/
def ofJson : Json → Checked Product :=
  record fun fields => Product.mk <$> required fields "name" [] text

/-- The record of a product. -/
def toJson (p : Product) : Json :=
  .obj [("name", .str p.name)]

end Product

/-- One step inside a function body that makes data from data. -/
structure Transformation where
  /-- The name that it writes. -/
  binding : Option String
  /-- The names that it reads. -/
  sources : List String
  operation : Option String
  /-- What it produces, where that is told instead of the name it writes. -/
  output : Option Product
  line : Option Int
deriving DecidableEq, Repr

namespace Transformation

/-- The names a step reads: a list of them, a single one, or none. -/
def sourcesOfJson : Json → Checked (List String)
  | .null => pure []
  | .str s => pure [s]
  | v => list text v

/-- A step from its record. -/
def ofJson : Json → Checked Transformation :=
  record fun fields => Transformation.mk
    <$> optional fields ["to"] none (nullable text)
    <*> optional fields ["from", "from_"] [] sourcesOfJson
    <*> optional fields ["operation", "type"] none (nullable text)
    <*> optional fields ["output"] none (nullable Product.ofJson)
    <*> optional fields ["line"] none (nullable whole)

/-- The record of a step. -/
def toJson (t : Transformation) : Json :=
  .obj [("to", .opt .str t.binding), ("from", .list .str t.sources),
    ("operation", .opt .str t.operation), ("output", .opt Product.toJson t.output),
    ("line", .opt .int t.line)]

/-- The name of the binding that a step writes. -/
def target (t : Transformation) : Option String :=
  given t.binding (t.output.map Product.name)

/-- The name of what a step does. -/
def operationName (t : Transformation) : String :=
  givenOr t.operation "transform"

end Transformation

/-- The data-flow sketch of a function. -/
structure DataFlow where
  inputs : List Parameter
  outputs : List Output
  transformations : List Transformation
deriving DecidableEq, Repr

namespace DataFlow

/-- A sketch from its record. -/
def ofJson : Json → Checked DataFlow :=
  record fun fields => DataFlow.mk
    <$> optional fields ["inputs"] [] (list Parameter.ofJson)
    <*> optional fields ["outputs"] [] (list Output.ofJson)
    <*> optional fields ["transformations"] [] (list Transformation.ofJson)

/-- The record of a sketch. -/
def toJson (d : DataFlow) : Json :=
  .obj [("inputs", .list Parameter.toJson d.inputs), ("outputs", .list Output.toJson d.outputs),
    ("transformations", .list Transformation.toJson d.transformations)]

/-- Whether some output is of the given kind. -/
def has (kind : OutputKind) (d : DataFlow) : Bool :=
  d.outputs.any fun o => o.kind = kind

/-- Whether a value is returned. -/
def hasReturn (d : DataFlow) : Bool := d.has .returned

/-- Whether there is a side effect. -/
def hasSideEffect (d : DataFlow) : Bool := d.has .sideEffect

/-- The names of the steps, in order. -/
def operationNames (d : DataFlow) : List String :=
  d.transformations.map Transformation.operationName

end DataFlow

end Lineage
