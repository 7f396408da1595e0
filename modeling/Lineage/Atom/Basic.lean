/-
Atoms: the functions and methods that an analysis is about, each as it was extracted from its file.
-/
import Lineage.Atom.Call

namespace Lineage

open Schema

/-- An import of a file. -/
structure Import where
  source : String
  specifiers : List String
deriving DecidableEq, Repr

namespace Import

/-- An import from its record. -/
def ofJson : Json → Checked Import :=
  record fun fields => Import.mk
    <$> required fields "source" [] text
    <*> optional fields ["specifiers"] [] (list text)

/-- The record of an import. -/
def toJson (i : Import) : Json :=
  .obj [("source", .str i.source), ("specifiers", .list .str i.specifiers)]

end Import

/-- How severe an archetype is, on a scale or in a word. -/
inductive Severity where
  | level (n : Int)
  | word (s : String)
deriving DecidableEq, Repr

namespace Severity

/-- A severity from its record.  A text is a word; anything else must be a whole number, and where
it is not, both readings are reported. -/
def ofJson : Json → Checked Severity
  | .str s => pure (word s)
  | v =>
      match whole v with
      | .valid n => pure (level n)
      | refused =>
          (fun _ _ => level 0) <$> refused.within (.key "int") <*> (text v).within (.key "str")

/-- The record of a severity. -/
def toJson : Severity → Json
  | level n => .int n
  | word s => .str s

end Severity

/-- What a function is an example of. -/
structure Archetype where
  kind : Option String
  severity : Option Severity
deriving DecidableEq, Repr

namespace Archetype

/-- An archetype from its record. -/
def ofJson : Json → Checked Archetype :=
  record fun fields => Archetype.mk
    <$> optional fields ["type"] none (nullable text)
    <*> optional fields ["severity"] none (nullable Severity.ofJson)

/-- The record of an archetype. -/
def toJson (a : Archetype) : Json :=
  .obj [("type", .opt .str a.kind), ("severity", .opt Severity.toJson a.severity)]

end Archetype

/-- What a function does, to what, and in which domain. -/
structure Meaning where
  verb : Option String
  domain : Option String
  entity : Option String
deriving DecidableEq, Repr

namespace Meaning

/-- A meaning from its record. -/
def ofJson : Json → Checked Meaning :=
  record fun fields => Meaning.mk
    <$> optional fields ["verb"] none (nullable text)
    <*> optional fields ["domain"] none (nullable text)
    <*> optional fields ["entity"] none (nullable text)

/-- The record of a meaning. -/
def toJson (m : Meaning) : Json :=
  .obj [("verb", .opt .str m.verb), ("domain", .opt .str m.domain), ("entity", .opt .str m.entity)]

end Meaning

/-- A function or method. -/
structure Atom where
  /-- The id, which nothing keeps two atoms from sharing. -/
  id : String
  /-- The name it is called by. -/
  name : String
  /-- The file it lives in, with slashes or backslashes. -/
  filePath : String
  /-- The line of the file on which its code begins. -/
  line : Int
  isExported : Bool
  isAsync : Bool
  /-- The imports of its file. -/
  imports : List Import
  /-- The calls in its body, in order. -/
  calls : List CallSite
  /-- The data-flow sketch, if the extraction made one. -/
  dataFlow : Option DataFlow
  archetype : Option Archetype
  /-- What it is for, in words joined by low lines or hyphens. -/
  purpose : Option String
  complexity : Int
  linesOfCode : Int
  isTestCallback : Bool
  /-- Which callback of a test it is. -/
  testCallbackType : Option String
  /-- The class of a method. -/
  className : Option String
  /-- What an analysis found that it does. -/
  semantic : Option Meaning
  /-- The text of its code. -/
  code : String
deriving Repr

namespace Atom

/-- A purpose, given as such or as the type of an analysis record. -/
def purposeOfJson (v : Json) : Checked (Option String) :=
  nullable text (unwrap "type" v)

/-- An atom from its record. -/
def ofJson : Json → Checked Atom :=
  record fun fields => Atom.mk
    <$> required fields "id" [] text
    <*> required fields "name" [] text
    <*> required fields "filePath" ["file_path"] text
    <*> optional fields ["line"] 1 whole
    <*> optional fields ["isExported", "is_exported"] false truth
    <*> optional fields ["isAsync", "is_async"] false truth
    <*> optional fields ["imports"] [] (list Import.ofJson)
    <*> optional fields ["calls"] [] (list CallSite.ofJson)
    <*> optional fields ["dataFlow", "data_flow"] none (nullable DataFlow.ofJson)
    <*> optional fields ["archetype"] none (nullable Archetype.ofJson)
    <*> optional fields ["purpose"] none purposeOfJson
    <*> optional fields ["complexity"] 1 whole
    <*> optional fields ["linesOfCode", "lines_of_code"] 0 whole
    <*> optional fields ["isTestCallback", "is_test_callback"] false truth
    <*> optional fields ["testCallbackType", "test_callback_type"] none (nullable text)
    <*> optional fields ["className", "class_name"] none (nullable text)
    <*> optional fields ["semantic"] none (nullable Meaning.ofJson)
    <*> optional fields ["code"] "" text

/-- The record of an atom. -/
def toJson (a : Atom) : Json :=
  .obj [("id", .str a.id), ("name", .str a.name), ("filePath", .str a.filePath),
    ("line", .int a.line), ("isExported", .bool a.isExported), ("isAsync", .bool a.isAsync),
    ("imports", .list Import.toJson a.imports), ("calls", .list CallSite.toJson a.calls),
    ("dataFlow", .opt DataFlow.toJson a.dataFlow),
    ("archetype", .opt Archetype.toJson a.archetype), ("purpose", .opt .str a.purpose),
    ("complexity", .int a.complexity), ("linesOfCode", .int a.linesOfCode),
    ("isTestCallback", .bool a.isTestCallback),
    ("testCallbackType", .opt .str a.testCallbackType), ("className", .opt .str a.className),
    ("semantic", .opt Meaning.toJson a.semantic), ("code", .str a.code)]

/-- The parameters, of which an atom without a sketch has none. -/
def parameters (a : Atom) : List Parameter :=
  match a.dataFlow with
  | some d => d.inputs
  | none => []

end Atom

end Lineage
