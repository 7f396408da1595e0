/-
Checks of texts, whole numbers, truth values, lists and values that may be null, and of the fields
of an object.

Whole numbers and truth values are read generously: a truth value counts as one or zero, a
double-precision number without a fraction as the whole number it is, and texts are read as
numerals or as words for yes and no.

A field may come under several names.  The first of its names that the object has decides, even if
its value is null; the other fields of the object are ignored.
-/
import Lineage.Json.Basic
import Lineage.Number.Numeral
import Lineage.Schema.Checked

namespace Lineage.Schema

/-! ### Values -/

open Checked (refuse)

/-- A text. -/
def text : Json → Checked String
  | .str s => pure s
  | _ => refuse .notString

/-- Numbers of this size and beyond do not fit a machine word. -/
def wordLimit : Int := Nat.pow 2 63

/-- The whole number that a double-precision number is. -/
def wholeReal (x : Double) : Checked Int :=
  if !x.isFinite then refuse .notFinite
  else
    match x.toInt? with
    | none => refuse .hasFraction
    | some n => if n.natAbs < wordLimit.natAbs then pure n else refuse .outOfRange

/-- A whole number. -/
def whole : Json → Checked Int
  | .num (.int n) => pure n
  | .num (.real x) => wholeReal x
  | .bool b => pure (if b then 1 else 0)
  | .str s =>
      match Numeral.whole? s.toList with
      | some n => if (Number.int n).exceeds Number.digitLimit then refuse .outOfRange else pure n
      | none => refuse .notNumeral
  | _ => refuse .notWhole

/-- The truth value of a number that fits a machine word. -/
def truthOfWhole (n : Int) : Checked Bool :=
  if n = 0 then pure false
  else if n = 1 then pure true
  else refuse .notTruthWord

/-- The words for yes. -/
def yesWords : List String := ["1", "true", "t", "yes", "y", "on"]

/-- The words for no. -/
def noWords : List String := ["0", "false", "f", "no", "n", "off"]

/-- A truth value. -/
def truth : Json → Checked Bool
  | .bool b => pure b
  | .num (.int n) =>
      if -wordLimit ≤ n ∧ n < wordLimit then truthOfWhole n else refuse .notBoolean
  | .num (.real x) =>
      match x.toInt? with
      | some n => if n.natAbs < wordLimit.natAbs then truthOfWhole n else refuse .notBoolean
      | none => refuse .notBoolean
  | .str s =>
      let word := String.ofList (s.toList.map Char.toLower)
      if yesWords.contains word then pure true
      else if noWords.contains word then pure false
      else refuse .notTruthWord
  | _ => refuse .notBoolean

/-- A value that may be null. -/
def nullable (check : Json → Checked α) : Json → Checked (Option α)
  | .null => pure none
  | v => some <$> check v

/-- A list. -/
def list (check : Json → Checked α) : Json → Checked (List α)
  | .arr items => Checked.each check items
  | _ => refuse .notList

/-- Any value. -/
def any (v : Json) : Checked Json := pure v

/-! ### Fields -/

/-- The first of `names` that the object has, with its value. -/
def find? (fields : List (String × Json)) (names : List String) : Option (String × Json) :=
  names.findSome? fun name => (fields.lookup name).map (name, ·)

/-- The check of a field that must be there.  A missing field is reported under its preferred
name. -/
def required (fields : List (String × Json)) (name : String) (others : List String)
    (check : Json → Checked α) : Checked α :=
  match find? fields (name :: others) with
  | none => .invalid ⟨[.key name], .missing⟩ []
  | some (key, v) => (check v).within (.key key)

/-- The check of a field that has a value of its own where it is missing. -/
def optional (fields : List (String × Json)) (names : List String) (absent : α)
    (check : Json → Checked α) : Checked α :=
  match find? fields names with
  | none => pure absent
  | some (key, v) => (check v).within (.key key)

/-- The entry `key` of an object, null if it has none; any other value as it is. -/
def unwrap (key : String) : Json → Json
  | .obj fields => (fields.lookup key).getD .null
  | v => v

/-- The check of a record: its fields, if it is an object. -/
def record (check : List (String × Json) → Checked α) : Json → Checked α
  | .obj fields => check fields
  | _ => Checked.refuse .notObject

end Lineage.Schema
