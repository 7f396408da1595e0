/-
What happens to a value on its way from an argument into a parameter.
-/
import Lineage.Atom.Call
import Lineage.Json.Printer

namespace Lineage

/-- How an argument relates to its parameter. -/
inductive Transform where
  | propertyAccess (source : Option String) (property : Option String)
  | directPass (var : Option String)
  | callResult (call : Option String)
  | literal (value : Json)
  | spread (source : Option String)
  | unknown (argumentKind : Option String)
deriving Repr

namespace Transform

/-- The kind of a transform. -/
def kind : Transform → String
  | propertyAccess _ _ => "PROPERTY_ACCESS"
  | directPass _ => "DIRECT_PASS"
  | callResult _ => "CALL_RESULT"
  | literal _ => "LITERAL"
  | spread _ => "SPREAD"
  | unknown _ => "UNKNOWN"

/-- Whether the value is passed under the name it already has. -/
def isDirect : Transform → Bool
  | directPass _ => true
  | _ => false

/-- A name as a description shows it. -/
def nameText (name : Option String) : String := name.getD "None"

/-- The transform in words. -/
def description : Transform → String
  | propertyAccess source property =>
      s!"Extracts property '{nameText property}' from '{nameText source}'"
  | directPass var => s!"Passes '{nameText var}' through unchanged"
  | callResult call => s!"Passes the result of {nameText call}()"
  | literal value => "Passes literal " ++ String.ofList value.display
  | spread source => s!"Spreads '{nameText source}' across parameters"
  | unknown argumentKind => "Unclassified argument (" ++ givenOr argumentKind "no type" ++ ")"

/-- What is particular to a transform. -/
def details : Transform → List (String × Json)
  | propertyAccess source property =>
      [("from", .opt .str source), ("property", .opt .str property)]
  | directPass var => [("variable", .opt .str var)]
  | callResult call => [("call", .opt .str call)]
  | literal value => [("value", value)]
  | spread source => [("source", .opt .str source)]
  | unknown argumentKind => [("argumentType", .opt .str argumentKind)]

/-- The record of a transform. -/
def toJson (t : Transform) : Json :=
  .obj (("type", .str t.kind) :: t.details ++ [("description", .str t.description)])

/-- How an argument relates to a parameter.  A property of an object is one even where its name is
that of the parameter; then the names decide, and then the kind of the argument. -/
def detect (a : Argument) (p : Parameter) : Transform :=
  if a.isMember then propertyAccess a.objectName a.propertyName
  else if a.name = some p.name ∨ a.var = some p.name then directPass (some p.name)
  else if a.isCall then callResult a.callee
  else if a.isLiteral then literal a.value
  else if a.isSpread then spread a.spreadSource
  else unknown (some a.kind)

end Transform

end Lineage
