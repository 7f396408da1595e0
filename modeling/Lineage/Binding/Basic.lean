/-
The arguments of a call, bound to the parameters of its callee.

Arguments and parameters are paired by position; what has no partner is left out.  A call with an
argument that cannot be read is not bound at all, and the first such argument tells why.
-/
import Lineage.Atom.Basic
import Lineage.Binding.Transform

namespace Lineage

/-! ### One argument and its parameter -/

/-- An argument bound to a parameter. -/
structure Binding where
  /-- The position at which the two were paired. -/
  position : Nat
  /-- The argument as source text. -/
  code : String
  argumentKind : String
  /-- The local binding that the argument reads from. -/
  var : Option String
  parameterName : String
  parameterShape : Shape
  /-- The position that the parameter says it has. -/
  parameterPosition : Int
  transform : Transform
  confidence : Hundredths
deriving Repr

namespace Binding

/-- How sure the binding of an argument to a parameter is, in hundredths.  Fifty at first, thirty
more for equal data types, twenty more for a property of an object and ten more for equal names;
twenty less where a spread or a pattern is involved. -/
def confidenceOf (a : Argument) (p : Parameter) : Hundredths :=
  let sameType := isGiven a.dataType && isGiven p.dataType && a.dataType == p.dataType
  let gain := 50 + (if sameType then 30 else 0) + (if a.isMember then 20 else 0) +
    (if a.name = some p.name then 10 else 0)
  let loss := if a.isSpread || p.shape.isPattern then 20 else 0
  ⟨min 100 (gain - loss)⟩

/-- The binding of an argument to the parameter at its position. -/
def of (position : Nat) (a : Argument) (p : Parameter) : Binding where
  position
  code := a.render
  argumentKind := a.kind
  var := a.rootVariable
  parameterName := p.name
  parameterShape := p.shape
  parameterPosition := p.position
  transform := Transform.detect a p
  confidence := confidenceOf a p

/-- The record of a binding. -/
def toJson (b : Binding) : Json :=
  .obj [("position", .int b.position),
    ("argument", .obj [("code", .str b.code), ("type", .str b.argumentKind),
      ("variable", .opt .str b.var)]),
    ("parameter", .obj [("name", .str b.parameterName), ("type", .str b.parameterShape.name),
      ("position", .int b.parameterPosition)]),
    ("transform", b.transform.toJson), ("confidence", .score b.confidence)]

/-- The bindings of arguments and parameters from position `i` on. -/
def pairFrom (i : Nat) : List Argument → List Parameter → List Binding
  | a :: args, p :: params => of i a p :: pairFrom (i + 1) args params
  | _, _ => []

end Binding

/-! ### Reading the arguments of a call -/

/-- Why the arguments of a call cannot be read. -/
inductive ArgumentFault where
  | notObject (position : Nat) (found : Json)
  | malformed (position : Nat) (count : Nat)
deriving Repr

namespace ArgumentFault

/-- What a value that is no object is called. -/
def typeName : Json → String
  | .null => "NoneType"
  | .bool _ => "bool"
  | .num (.int _) => "int"
  | .num (.real _) => "float"
  | .str _ => "str"
  | .arr _ => "list"
  | .obj _ => "dict"

/-- The fault in words. -/
def message : ArgumentFault → String
  | notObject position found =>
      s!"Argument {position} is {typeName found}, expected an object"
  | malformed position count => s!"Argument {position} is malformed: {count} error(s)"

end ArgumentFault

/-- The argument at a position. -/
def Argument.read (position : Nat) (v : Json) : Except ArgumentFault Argument :=
  match v with
  | .obj fields =>
      match Argument.ofJson (.obj fields) with
      | .valid a => .ok a
      | .invalid _ others => .error (.malformed position (others.length + 1))
  | v => .error (.notObject position v)

/-- The arguments from position `i` on, or the first fault. -/
def Argument.readFrom (i : Nat) : List Json → Except ArgumentFault (List Argument)
  | [] => .ok []
  | v :: rest => do
      let a ← Argument.read i v
      let as ← Argument.readFrom (i + 1) rest
      .ok (a :: as)

/-! ### A whole call -/

/-- The bindings of a call, with what is worth knowing about its two sides. -/
structure CallBinding where
  caller : String
  callee : String
  callSite : Int
  bindings : List Binding
  totalArgs : Nat
  totalParams : Nat
  hasSpread : Bool
  hasDestructuring : Bool
  /-- Whether the arguments could not be read. -/
  failed : Bool
deriving Repr

namespace CallBinding

/-- The bindings of the arguments of a call to the parameters of its callee. -/
def bind (caller callee : Atom) (call : CallSite) : Except ArgumentFault CallBinding := do
  let args ← Argument.readFrom 0 call.arguments
  let params := callee.parameters
  .ok
    { caller := caller.name
      callee := callee.name
      callSite := call.line
      bindings := Binding.pairFrom 0 args params
      totalArgs := args.length
      totalParams := params.length
      hasSpread := args.any Argument.isSpread
      hasDestructuring := params.any fun p => p.shape.isPattern
      failed := false }

/-- What stands in for the bindings of a call whose arguments cannot be read. -/
def failure (caller callee : Atom) (call : CallSite) : CallBinding where
  caller := caller.name
  callee := callee.name
  callSite := call.line
  bindings := []
  totalArgs := 0
  totalParams := 0
  hasSpread := false
  hasDestructuring := false
  failed := true

/-- The record of the bindings of a call. -/
def toJson (b : CallBinding) : Json :=
  .obj [("caller", .str b.caller), ("callee", .str b.callee), ("callSite", .int b.callSite),
    ("mappings", .list Binding.toJson b.bindings), ("totalArgs", .int b.totalArgs),
    ("totalParams", .int b.totalParams), ("hasSpread", .bool b.hasSpread),
    ("hasDestructuring", .bool b.hasDestructuring), ("error", .bool b.failed)]

end CallBinding

end Lineage
