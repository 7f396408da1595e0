/-
Calls inside a function, and the arguments they pass.

A call site keeps its arguments as they came; one is read as an `Argument` only when it is bound to
a parameter.
-/
import Lineage.Atom.DataFlow
import Lineage.Json.Printer

namespace Lineage

open Schema

/-- One argument expression. -/
structure Argument where
  /-- The kind of expression. -/
  kind : String
  name : Option String
  /-- The local variable that it reads. -/
  var : Option String
  /-- Its source text. -/
  code : Option String
  /-- The object of a property access. -/
  objectName : Option String
  /-- The property of a property access. -/
  propertyName : Option String
  /-- The function of a call. -/
  callee : Option String
  /-- The value of a literal. -/
  value : Json
  /-- What a spread spreads. -/
  argument : Option String
  dataType : Option String
deriving Repr

namespace Argument

/-- A name, given as such or as a node that has it. -/
def nodeName (v : Json) : Checked (Option String) :=
  nullable text (unwrap "name" v)

/-- An argument from its record. -/
def ofJson : Json → Checked Argument :=
  record fun fields => Argument.mk
    <$> required fields "type" [] text
    <*> optional fields ["name"] none (nullable text)
    <*> optional fields ["variable"] none (nullable text)
    <*> optional fields ["code"] none (nullable text)
    <*> optional fields ["object", "objectName", "object_name"] none nodeName
    <*> optional fields ["property", "propertyName", "property_name"] none nodeName
    <*> optional fields ["callee"] none nodeName
    <*> optional fields ["value"] .null any
    <*> optional fields ["argument"] none nodeName
    <*> optional fields ["dataType", "data_type"] none (nullable text)

/-- The record of an argument. -/
def toJson (a : Argument) : Json :=
  .obj [("type", .str a.kind), ("name", .opt .str a.name), ("variable", .opt .str a.var),
    ("code", .opt .str a.code), ("objectName", .opt .str a.objectName),
    ("propertyName", .opt .str a.propertyName), ("callee", .opt .str a.callee), ("value", a.value),
    ("argument", .opt .str a.argument), ("dataType", .opt .str a.dataType)]

/-- A plain name. -/
def isIdentifier (a : Argument) : Bool := a.kind = "Identifier"

/-- A property of an object. -/
def isMember (a : Argument) : Bool := a.kind = "MemberExpression"

/-- The result of another call. -/
def isCall (a : Argument) : Bool := a.kind = "CallExpression"

/-- A constant. -/
def isLiteral (a : Argument) : Bool := a.kind = "Literal"

/-- A list spread over the parameters. -/
def isSpread (a : Argument) : Bool := a.kind = "SpreadElement" || a.kind = "spread"

/-- What a spread takes its items from. -/
def spreadSource (a : Argument) : Option String :=
  given a.argument (given a.name a.var)

/-- The text before the first point, or all of it. -/
def beforePoint (s : String) : String :=
  String.ofList (s.toList.takeWhile (· ≠ '.'))

/-- The local binding that the argument reads from, if any. -/
def rootVariable (a : Argument) : Option String :=
  if a.isIdentifier then given a.name a.var
  else if a.isMember then
    if isGiven a.objectName then a.objectName.map beforePoint else a.var
  else if a.isSpread then a.spreadSource
  else a.var

/-- The argument as source text. -/
def render (a : Argument) : String :=
  if isGiven a.code then givenOr a.code ""
  else if a.isMember then givenOr a.objectName "?" ++ "." ++ givenOr a.propertyName "?"
  else if a.isCall then givenOr a.callee "?" ++ "()"
  else if a.isLiteral then a.value.spaced
  else if a.isSpread then "..." ++ givenOr a.spreadSource "?"
  else givenOr a.name (givenOr a.var "")

end Argument

/-- A call, by the name it is written with, and its arguments as they came. -/
structure CallSite where
  name : String
  line : Int
  args : Option (List Json)
deriving Repr

namespace CallSite

/-- A call from its record. -/
def ofJson : Json → Checked CallSite :=
  record fun fields => CallSite.mk
    <$> required fields "name" [] text
    <*> optional fields ["line"] 0 whole
    <*> optional fields ["args"] none (nullable (list any))

/-- The record of a call. -/
def toJson (c : CallSite) : Json :=
  .obj [("name", .str c.name), ("line", .int c.line), ("args", .opt .arr c.args)]

/-- The arguments; none where the call has no list of them. -/
def arguments (c : CallSite) : List Json := c.args.getD []

end CallSite

end Lineage
