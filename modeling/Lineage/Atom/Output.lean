/-
The ways in which a function gives something back: a returned value, a thrown error, a side effect.
-/
import Lineage.Schema.Field

namespace Lineage

open Schema

/-- The kinds of output. -/
inductive OutputKind where
  | returned
  | thrown
  | sideEffect
deriving DecidableEq, Repr

namespace OutputKind

/-- The kind's tag in a record. -/
def tag : OutputKind → String
  | returned => "return"
  | thrown => "throw"
  | sideEffect => "side_effect"

/-- All kinds. -/
def all : List OutputKind := [returned, thrown, sideEffect]

/-- The kind of a tag. -/
def ofTag? (s : String) : Option OutputKind :=
  all.find? fun kind => kind.tag = s

/-- The check that a tag, where there is one, is the tag of `kind`. -/
def expect (kind : OutputKind) : Json → Checked Unit
  | .str s => if s = kind.tag then pure () else Checked.refuse .notLiteral
  | _ => Checked.refuse .notLiteral

end OutputKind

/-- A returned value. -/
structure ReturnOutput where
  value : Option String
  line : Option Int
deriving DecidableEq, Repr

namespace ReturnOutput

/-- A returned value from its record. -/
def ofJson : Json → Checked ReturnOutput :=
  record fun fields => (fun _ => ReturnOutput.mk)
    <$> optional fields ["type"] () (OutputKind.expect .returned)
    <*> optional fields ["value"] none (nullable text)
    <*> optional fields ["line"] none (nullable whole)

/-- The record of a returned value. -/
def toJson (o : ReturnOutput) : Json :=
  .obj [("type", .str OutputKind.returned.tag), ("value", .opt .str o.value),
    ("line", .opt .int o.line)]

end ReturnOutput

/-- A thrown error. -/
structure ThrowOutput where
  errorType : Option String
  line : Option Int
deriving DecidableEq, Repr

namespace ThrowOutput

/-- A thrown error from its record. -/
def ofJson : Json → Checked ThrowOutput :=
  record fun fields => (fun _ => ThrowOutput.mk)
    <$> optional fields ["type"] () (OutputKind.expect .thrown)
    <*> optional fields ["errorType", "error_type"] none (nullable text)
    <*> optional fields ["line"] none (nullable whole)

/-- The record of a thrown error. -/
def toJson (o : ThrowOutput) : Json :=
  .obj [("type", .str OutputKind.thrown.tag), ("errorType", .opt .str o.errorType),
    ("line", .opt .int o.line)]

end ThrowOutput

/-- A side effect. -/
structure SideEffectOutput where
  target : Option String
  operation : Option String
  line : Option Int
deriving DecidableEq, Repr

namespace SideEffectOutput

/-- A side effect from its record. -/
def ofJson : Json → Checked SideEffectOutput :=
  record fun fields => (fun _ => SideEffectOutput.mk)
    <$> optional fields ["type"] () (OutputKind.expect .sideEffect)
    <*> optional fields ["target"] none (nullable text)
    <*> optional fields ["operation"] none (nullable text)
    <*> optional fields ["line"] none (nullable whole)

/-- The record of a side effect. -/
def toJson (o : SideEffectOutput) : Json :=
  .obj [("type", .str OutputKind.sideEffect.tag), ("target", .opt .str o.target),
    ("operation", .opt .str o.operation), ("line", .opt .int o.line)]

end SideEffectOutput

/-- An output of any kind. -/
inductive Output where
  | returned (o : ReturnOutput)
  | thrown (o : ThrowOutput)
  | sideEffect (o : SideEffectOutput)
deriving DecidableEq, Repr

namespace Output

/-- The kind of an output. -/
def kind : Output → OutputKind
  | returned _ => .returned
  | thrown _ => .thrown
  | sideEffect _ => .sideEffect

/-- An output of a given kind from its record. -/
def ofJsonAs : OutputKind → Json → Checked Output
  | .returned, v => returned <$> ReturnOutput.ofJson v
  | .thrown, v => thrown <$> ThrowOutput.ofJson v
  | .sideEffect, v => sideEffect <$> SideEffectOutput.ofJson v

/-- An output from its record, whose tag tells the kind.  The tag is a step of the path to what is
wrong inside. -/
def ofJson : Json → Checked Output
  | .obj fields =>
      match fields.lookup "type" with
      | none => Checked.refuse .noTag
      | some (.str s) =>
          match OutputKind.ofTag? s with
          | none => Checked.refuse .unknownTag
          | some kind => (ofJsonAs kind (.obj fields)).within (.key kind.tag)
      | some _ => Checked.refuse .unknownTag
  | _ => Checked.refuse .notTagged

/-- The record of an output. -/
def toJson : Output → Json
  | returned o => o.toJson
  | thrown o => o.toJson
  | sideEffect o => o.toJson

end Output

end Lineage
