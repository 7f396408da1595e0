/-
Parameters of a function, and what its body does with them.
-/
import Lineage.Schema.Field

namespace Lineage

open Schema

/-- One use of a parameter. -/
structure Usage where
  kind : String
  line : Option Int
deriving DecidableEq, Repr

namespace Usage

/-- A use from its record. -/
def ofJson : Json → Checked Usage :=
  record fun fields => Usage.mk
    <$> required fields "type" [] text
    <*> optional fields ["line"] none (nullable whole)

/-- The record of a use. -/
def toJson (u : Usage) : Json :=
  .obj [("type", .str u.kind), ("line", .opt .int u.line)]

end Usage

/-- How a parameter binds its argument. -/
inductive Shape where
  | simple
  | objectPattern
  | arrayPattern
  | rest
deriving DecidableEq, Repr

namespace Shape

/-- The shape's name in a record. -/
def name : Shape → String
  | simple => "simple"
  | objectPattern => "destructured-object"
  | arrayPattern => "destructured-array"
  | rest => "rest"

/-- All shapes. -/
def all : List Shape := [simple, objectPattern, arrayPattern, rest]

/-- A shape from its name; a bare `destructured` is an object pattern. -/
def ofJson : Json → Checked Shape
  | .str "destructured" => pure objectPattern
  | .str s =>
      match all.find? fun shape => shape.name = s with
      | some shape => pure shape
      | none => Checked.refuse .notVariant
  | _ => Checked.refuse .notVariant

/-- Whether the argument is taken apart. -/
def isPattern : Shape → Bool
  | objectPattern => true
  | arrayPattern => true
  | _ => false

end Shape

/-- A parameter, possibly a pattern. -/
structure Parameter where
  name : String
  shape : Shape
  /-- The position that the extraction gave it. -/
  position : Int
  hasDefault : Bool
  /-- The properties that a pattern takes out. -/
  properties : Option (List String)
  usages : List Usage
  dataType : Option String
deriving DecidableEq, Repr

namespace Parameter

/-- A parameter from its record. -/
def ofJson : Json → Checked Parameter :=
  record fun fields => Parameter.mk
    <$> required fields "name" [] text
    <*> optional fields ["type"] .simple Shape.ofJson
    <*> optional fields ["position"] 0 whole
    <*> optional fields ["hasDefault", "has_default"] false truth
    <*> optional fields ["properties"] none (nullable (list text))
    <*> optional fields ["usages"] [] (list Usage.ofJson)
    <*> optional fields ["dataType", "data_type"] none (nullable text)

/-- The record of a parameter. -/
def toJson (p : Parameter) : Json :=
  .obj [("name", .str p.name), ("type", .str p.shape.name), ("position", .int p.position),
    ("hasDefault", .bool p.hasDefault), ("properties", .opt (.list .str) p.properties),
    ("usages", .list Usage.toJson p.usages), ("dataType", .opt .str p.dataType)]

end Parameter

end Lineage
