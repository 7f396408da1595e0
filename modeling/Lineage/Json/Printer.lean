/-
Writing JSON text, and values as messages show them.

Only printable ASCII is written: every other character of a string becomes an escape, the ones
beyond the basic plane a pair of them.  There are two layouts on one line, with and without blanks
after the delimiters, and one over several lines.

A message shows strings in quotes, `True`, `False` and `None` for the constants, and a blank after
each delimiter.
-/
import Lineage.Json.Basic
import Lineage.Text.Basic
import Lineage.Text.Quoted

namespace Lineage.Json

/-- A numeric escape. -/
def unitEscape (n : Nat) : List Char :=
  '\\' :: 'u' :: Text.hex 4 n

/-- One character inside a string. -/
def escapeChar (c : Char) : List Char :=
  if c = '"' then ['\\', '"']
  else if c = '\\' then ['\\', '\\']
  else if c = '\n' then ['\\', 'n']
  else if c = '\r' then ['\\', 'r']
  else if c = '\t' then ['\\', 't']
  else if c = '\x08' then ['\\', 'b']
  else if c = '\x0c' then ['\\', 'f']
  else if 0x20 ≤ c.toNat && c.toNat ≤ 0x7e then [c]
  else if c.toNat < 0x10000 then unitEscape c.toNat
  else
    unitEscape (0xd800 + (c.toNat - 0x10000) / 0x400) ++
      unitEscape (0xdc00 + (c.toNat - 0x10000) % 0x400)

/-- A string with its quotes. -/
def stringText (s : String) : List Char :=
  '"' :: s.toList.flatMap escapeChar ++ ['"']

/-- A double-precision number. -/
def realText : Double → List Char
  | .nan => "NaN".toList
  | .inf false => "Infinity".toList
  | .inf true => "-Infinity".toList
  | x => x.text

/-- A number. -/
def numberText : Number → List Char
  | .int n => intText n
  | .real x => realText x

/-- How the items of a value on one line are set apart. -/
structure Layout where
  comma : List Char
  colon : List Char

namespace Layout

/-- No blanks. -/
def compact : Layout := ⟨[','], [':']⟩

/-- A blank after each delimiter. -/
def spaced : Layout := ⟨[',', ' '], [':', ' ']⟩

end Layout

mutual

/-- A value on one line. -/
def inline (l : Layout) : Json → List Char
  | null => "null".toList
  | bool true => "true".toList
  | bool false => "false".toList
  | num n => numberText n
  | str s => stringText s
  | arr items => '[' :: inlineItems l items ++ [']']
  | obj fields => '\x7b' :: inlineFields l fields ++ ['\x7d']

/-- The items of an array on one line. -/
def inlineItems (l : Layout) : List Json → List Char
  | [] => []
  | [item] => inline l item
  | item :: items => inline l item ++ l.comma ++ inlineItems l items

/-- The fields of an object on one line. -/
def inlineFields (l : Layout) : List (String × Json) → List Char
  | [] => []
  | [(key, item)] => stringText key ++ l.colon ++ inline l item
  | (key, item) :: fields =>
      stringText key ++ l.colon ++ inline l item ++ l.comma ++ inlineFields l fields

end

/-- A new line, indented by `depth` steps of two. -/
def newLine (depth : Nat) : List Char :=
  '\n' :: List.replicate (2 * depth) ' '

mutual

/-- A value over several lines, at the given depth. -/
def indented (depth : Nat) : Json → List Char
  | arr [] => ['[', ']']
  | arr (item :: items) =>
      '[' :: indentedItems (depth + 1) (item :: items) ++ newLine depth ++ [']']
  | obj [] => ['\x7b', '\x7d']
  | obj (field :: fields) =>
      '\x7b' :: indentedFields (depth + 1) (field :: fields) ++ newLine depth ++ ['\x7d']
  | v => inline .spaced v

/-- The items of an array, each on a new line. -/
def indentedItems (depth : Nat) : List Json → List Char
  | [] => []
  | [item] => newLine depth ++ indented depth item
  | item :: items => newLine depth ++ indented depth item ++ ',' :: indentedItems depth items

/-- The fields of an object, each on a new line. -/
def indentedFields (depth : Nat) : List (String × Json) → List Char
  | [] => []
  | [(key, item)] => newLine depth ++ stringText key ++ ':' :: ' ' :: indented depth item
  | (key, item) :: fields =>
      newLine depth ++ stringText key ++ ':' :: ' ' :: indented depth item ++
        ',' :: indentedFields depth fields

end

/-- The text without blanks. -/
def compact (v : Json) : String := String.ofList (inline .compact v)

/-- The text on one line. -/
def spaced (v : Json) : String := String.ofList (inline .spaced v)

/-- The text over several lines. -/
def pretty (v : Json) : String := String.ofList (indented 0 v)

/-! ### Values in messages -/

mutual

/-- A value as a message shows it. -/
def display : Json → List Char
  | null => "None".toList
  | bool true => "True".toList
  | bool false => "False".toList
  | num (.int n) => intText n
  | num (.real x) => x.text
  | str s => Text.quoted s.toList
  | arr items => '[' :: displayItems items ++ [']']
  | obj fields => '\x7b' :: displayFields fields ++ ['\x7d']

/-- The items of an array. -/
def displayItems : List Json → List Char
  | [] => []
  | [item] => display item
  | item :: items => display item ++ ',' :: ' ' :: displayItems items

/-- The fields of an object. -/
def displayFields : List (String × Json) → List Char
  | [] => []
  | [(key, item)] => Text.quoted key.toList ++ ':' :: ' ' :: display item
  | (key, item) :: fields =>
      Text.quoted key.toList ++ ':' :: ' ' :: display item ++ ',' :: ' ' :: displayFields fields

end

end Lineage.Json
