/-
The kind of flow that a data-flow sketch shows.
-/
import Lineage.Atom.DataFlow
import Lineage.Text.Quoted

namespace Lineage

/-- What a function does with its data, from reading to giving back. -/
inductive FlowType where
  | guard
  | readTransformPersistReturn
  | readTransformReturn
  | readPersistReturn
  | readPersist
  | transformReturn
  | readReturn
  | sideEffectOnly
  | passthrough
  | unknown
deriving DecidableEq, Repr

namespace FlowType

/-- The name of a kind of flow. -/
def name : FlowType → String
  | guard => "guard"
  | readTransformPersistReturn => "read-transform-persist-return"
  | readTransformReturn => "read-transform-return"
  | readPersistReturn => "read-persist-return"
  | readPersist => "read-persist"
  | transformReturn => "transform-return"
  | readReturn => "read-return"
  | sideEffectOnly => "side-effect-only"
  | passthrough => "passthrough"
  | unknown => "unknown"

/-- All kinds of flow. -/
def all : List FlowType :=
  [guard, readTransformPersistReturn, readTransformReturn, readPersistReturn, readPersist,
   transformReturn, readReturn, sideEffectOnly, passthrough, unknown]

/-- The kind of flow of a name. -/
def ofName? (s : String) : Option FlowType :=
  all.find? fun flow => flow.name = s

/-- What is said of a text that names no kind of flow. -/
def refusal (s : String) : String :=
  String.ofList (Text.quoted s.toList) ++ " is not a valid FlowType"

/-- The domain that a kind of flow suggests: data where something is read, logic where it is only
transformed. -/
def domain : FlowType → String
  | readTransformPersistReturn => "data"
  | readTransformReturn => "data"
  | readPersistReturn => "data"
  | readPersist => "data"
  | readReturn => "data"
  | transformReturn => "logic"
  | _ => "core"

/-! ### Classification -/

/-- The operations that read. -/
def readOperations : List String :=
  ["property_access", "array_index_access", "function_call", "await_function_call", "instantiation"]

/-- The operations that make new data. -/
def transformOperations : List String :=
  ["binary_operation", "unary_operation", "template_literal", "conditional", "object_literal",
   "array_literal"]

/-- The operations that write. -/
def writeOperations : List String :=
  ["mutation", "update", "property_assignment", "array_mutation", "object_mutation"]

/-- Whether some step of the sketch is one of `operations`. -/
def performs (operations : List String) (d : DataFlow) : Bool :=
  d.transformations.any fun t => t.operation.any operations.contains

/-- The kind of flow of a sketch.  The cases are tried in order. -/
def classify (d : DataFlow) : FlowType :=
  let reads := performs readOperations d
  let transforms := performs transformOperations d
  let writes := performs writeOperations d || d.hasSideEffect
  let returns := d.hasReturn
  let onlyThrows := d.has .thrown && !returns
  if onlyThrows && !writes then guard
  else if reads && transforms && writes && returns then readTransformPersistReturn
  else if reads && transforms && returns then readTransformReturn
  else if reads && writes && returns then readPersistReturn
  else if reads && writes then readPersist
  else if transforms && returns then transformReturn
  else if reads && returns then readReturn
  else if writes then sideEffectOnly
  else if returns then passthrough
  else unknown

end FlowType

end Lineage
