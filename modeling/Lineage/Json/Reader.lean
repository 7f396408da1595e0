/-
Reading JSON text.

The reader takes the format with three liberties: `NaN`, `Infinity` and `-Infinity` are numbers, a
name that comes twice in an object has its last value, and half of a surrogate pair that stands
alone, which is no character, is replaced by one.  What it refuses it refuses at a place: a fault
carries what was found wrong and the text from there on, from which the line, the column and the
offset are computed.  A whole number with too many digits is no fault of the text; the reader gives
up where it meets one.
-/
import Lineage.Json.Basic
import Lineage.Text.Basic

namespace Lineage.Json

/-- What may be wrong with a text. -/
inductive Complaint where
  | noValue
  | noComma
  | noColon
  | noName
  | openString
  | controlCharacter
  | badEscape
  | badUnicodeEscape
  | extraData
  | byteOrderMark
deriving DecidableEq, Repr

/-- A complaint, and the text from its place on. -/
structure ReadFault where
  complaint : Complaint
  rest : List Char
deriving DecidableEq, Repr

/-- Why a value cannot be had from a text: the text is at fault, or a whole number in it has too
many digits. -/
inductive ReadError where
  | fault (f : ReadFault)
  | overlong
deriving DecidableEq, Repr

namespace Complaint

/-- The complaint in words. -/
def message : Complaint → String
  | noValue => "Expecting value"
  | noComma => "Expecting ',' delimiter"
  | noColon => "Expecting ':' delimiter"
  | noName => "Expecting property name enclosed in double quotes"
  | openString => "Unterminated string starting at"
  | controlCharacter => "Invalid control character at"
  | badEscape => "Invalid \\escape"
  | badUnicodeEscape => "Invalid \\uXXXX escape"
  | extraData => "Extra data"
  | byteOrderMark => "Unexpected UTF-8 BOM (decode using utf-8-sig)"

end Complaint

namespace ReadFault

/-- The fault in words, with its place in `text`: line and column from one, offset from zero. -/
def message (text : List Char) (fault : ReadFault) : String :=
  let offset := text.length - fault.rest.length
  let before := text.take offset
  let line := before.count '\n' + 1
  let column := (before.reverse.takeWhile (· ≠ '\n')).length + 1
  s!"{fault.complaint.message}: line {line} column {column} (char {offset})"

end ReadFault

/-! ### Blanks, literals and numbers -/

/-- The characters that may stand between the parts of a text. -/
def isSeparator (c : Char) : Bool :=
  c == ' ' || c == '\t' || c == '\n' || c == '\r'

/-- The text without the separators that it begins with. -/
def skip (cs : List Char) : List Char :=
  cs.dropWhile isSeparator

/-- A decimal digit of the format. -/
def isDigit (c : Char) : Bool :=
  48 ≤ c.toNat && c.toNat ≤ 57

/-- The whole number that decimal digits stand for. -/
def digitsValue (cs : List Char) : Nat :=
  cs.foldl (fun n c => 10 * n + (c.toNat - 48)) 0

/-- The digits that a whole part may begin with: a zero alone, or any number that does not begin
with one. -/
def wholePart? : List Char → Option (List Char × List Char)
  | '0' :: rest => some (['0'], rest)
  | cs =>
      let digits := cs.takeWhile isDigit
      if digits.isEmpty then none else some (digits, cs.dropWhile isDigit)

/-- The digits after a point; no digits and nothing taken where there is no fraction. -/
def fraction : List Char → List Char × List Char
  | '.' :: rest =>
      let digits := rest.takeWhile isDigit
      if digits.isEmpty then ([], '.' :: rest) else (digits, rest.dropWhile isDigit)
  | cs => ([], cs)

/-- The value of an exponent part, if there is a whole one. -/
def exponent? : List Char → Option (Int × List Char)
  | [] => none
  | mark :: rest =>
      if mark = 'e' || mark = 'E' then
        let (negative, rest) :=
          match rest with
          | '-' :: rest => (true, rest)
          | '+' :: rest => (false, rest)
          | rest => (false, rest)
        let digits := rest.takeWhile isDigit
        if digits.isEmpty then none
        else
          let n : Int := digitsValue digits
          some (if negative then -n else n, rest.dropWhile isDigit)
      else none

/-- A number without its sign.  It is a whole number unless it has a fraction or an exponent. -/
def unsigned? (negative : Bool) (cs : List Char) : Option (Number × List Char) := do
  let (whole, rest) ← wholePart? cs
  let (places, rest) := fraction rest
  let decimal (e : Int) : Number :=
    .real (Double.ofDecimal negative (digitsValue (whole ++ places)) (e - places.length))
  match places, exponent? rest with
  | [], none =>
      let n : Int := digitsValue whole
      some (.int (if negative then -n else n), rest)
  | _, none => some (decimal 0, rest)
  | _, some (e, rest) => some (decimal e, rest)

/-- A number, with its sign. -/
def number? : List Char → Option (Number × List Char)
  | '-' :: rest => unsigned? true rest
  | cs => unsigned? false cs

/-- The words that are values. -/
def literals : List (String × Json) :=
  [("null", null), ("true", bool true), ("false", bool false), ("NaN", real .nan),
    ("Infinity", real (.inf false)), ("-Infinity", real (.inf true))]

/-- A literal at the beginning of a text. -/
def literal? (cs : List Char) : Option (Json × List Char) :=
  literals.findSome? fun (word, v) => (Text.after? word.toList cs).map (v, ·)

/-- A literal or a number at the beginning of a text; a whole number has at most `limit` digits. -/
def simple (limit : Nat) (cs : List Char) : Except ReadError (Json × List Char) :=
  match literal? cs with
  | some found => .ok found
  | none =>
      match number? cs with
      | some (n, rest) => if n.exceeds limit then .error .overlong else .ok (num n, rest)
      | none => .error (.fault ⟨.noValue, cs⟩)

/-! ### Strings -/

/-- The character that a one-letter escape stands for. -/
def escaped? : Char → Option Char
  | '"' => some '"'
  | '\\' => some '\\'
  | '/' => some '/'
  | 'b' => some '\x08'
  | 'f' => some '\x0c'
  | 'n' => some '\n'
  | 'r' => some '\r'
  | 't' => some '\t'
  | _ => none

/-- The value of four hexadecimal digits. -/
def hexUnit? (a b c d : Char) : Option Nat := do
  let a ← Text.hexValue? a
  let b ← Text.hexValue? b
  let c ← Text.hexValue? c
  let d ← Text.hexValue? d
  some (4096 * a + 256 * b + 16 * c + d)

/-- The code units of a string up to its closing quote, and what follows it.  `opening` is the text
from the opening quote on.  A numeric escape is refused also where the text ends with it. -/
def stringUnits (opening : List Char) : List Char → Except ReadFault (List Nat × List Char)
  | [] => .error ⟨.openString, opening⟩
  | '"' :: rest => .ok ([], rest)
  | ['\\'] => .error ⟨.openString, opening⟩
  | '\\' :: 'u' :: a :: b :: c :: d :: rest =>
      match hexUnit? a b c d, rest with
      | none, _ => .error ⟨.badUnicodeEscape, 'u' :: a :: b :: c :: d :: rest⟩
      | _, [] => .error ⟨.badUnicodeEscape, ['u', a, b, c, d]⟩
      | some unit, rest => do
          let (units, rest) ← stringUnits opening rest
          .ok (unit :: units, rest)
  | '\\' :: 'u' :: rest => .error ⟨.badUnicodeEscape, 'u' :: rest⟩
  | '\\' :: c :: rest =>
      match escaped? c with
      | none => .error ⟨.badEscape, '\\' :: c :: rest⟩
      | some c => do
          let (units, rest) ← stringUnits opening rest
          .ok (c.toNat :: units, rest)
  | c :: rest =>
      if c.toNat < 0x20 then .error ⟨.controlCharacter, c :: rest⟩
      else do
        let (units, rest) ← stringUnits opening rest
        .ok (c.toNat :: units, rest)

/-- Whether a unit is the first half of a surrogate pair. -/
def isHighHalf (n : Nat) : Bool := 0xd800 ≤ n && n < 0xdc00

/-- Whether a unit is the second half of a surrogate pair. -/
def isLowHalf (n : Nat) : Bool := 0xdc00 ≤ n && n < 0xe000

/-- The character for one unit; a half on its own is replaced. -/
def unitChar (n : Nat) : Char :=
  if isHighHalf n || isLowHalf n then '\ufffd' else Char.ofNat n

/-- Code units as characters, the halves of surrogate pairs joined. -/
def joinUnits : List Nat → List Char
  | [] => []
  | [n] => [unitChar n]
  | n :: m :: rest =>
      if isHighHalf n && isLowHalf m then
        Char.ofNat (0x10000 + 0x400 * (n - 0xd800) + (m - 0xdc00)) :: joinUnits rest
      else unitChar n :: joinUnits (m :: rest)

/-- A string after its opening quote; `opening` is the text from that quote on. -/
def string (opening rest : List Char) : Except ReadError (String × List Char) :=
  match stringUnits opening rest with
  | .ok (units, rest) => .ok (String.ofList (joinUnits units), rest)
  | .error f => .error (.fault f)

/-! ### Arrays and objects -/

/-- What follows an opening mark: the closing mark, and what is read is empty; or the items. -/
def afterOpening (close : Char) (empty items : List Char → Except ReadError α) (cs : List Char) :
    Except ReadError α :=
  match skip cs with
  | [] => items []
  | c :: rest => if c = close then empty rest else items (c :: rest)

/-- What follows an item: the closing mark, and nothing more is read; or a comma and more items. -/
def afterItem (close : Char) (done more : List Char → Except ReadError α) (cs : List Char) :
    Except ReadError α :=
  match skip cs with
  | [] => .error (.fault ⟨.noComma, []⟩)
  | c :: rest =>
      if c = close then done rest
      else if c = ',' then more (skip rest)
      else .error (.fault ⟨.noComma, c :: rest⟩)

/-- What follows the name of a field: a colon and the item. -/
def afterName (item : List Char → Except ReadError α) (cs : List Char) : Except ReadError α :=
  match skip cs with
  | [] => .error (.fault ⟨.noColon, []⟩)
  | c :: rest => if c = ':' then item (skip rest) else .error (.fault ⟨.noColon, c :: rest⟩)

/-! ### Values -/

mutual

/-- One value at the beginning of a text, its whole numbers of at most `limit` digits.  Each nested
call has one less of `fuel`, and spends it on a character of the text or on the step from a list to
its item. -/
def value (limit : Nat) : (fuel : Nat) → List Char → Except ReadError (Json × List Char)
  | 0, cs => .error (.fault ⟨.noValue, cs⟩)
  | fuel + 1, cs =>
      match cs with
      | '"' :: rest => do
          let (s, rest) ← string cs rest
          .ok (str s, rest)
      | '\x7b' :: rest =>
          rest |> afterOpening '\x7d' (fun rest => .ok (obj [], rest)) fun rest => do
            let (fields, rest) ← members limit fuel [] rest
            .ok (obj fields, rest)
      | '[' :: rest =>
          rest |> afterOpening ']' (fun rest => .ok (arr [], rest)) fun rest => do
            let (items, rest) ← elements limit fuel rest
            .ok (arr items, rest)
      | cs => simple limit cs

/-- The items of an array up to its closing bracket. -/
def elements (limit : Nat) : (fuel : Nat) → List Char → Except ReadError (List Json × List Char)
  | 0, cs => .error (.fault ⟨.noValue, cs⟩)
  | fuel + 1, cs => do
      let (item, rest) ← value limit fuel cs
      rest |> afterItem ']' (fun rest => .ok ([item], rest)) fun rest => do
        let (items, rest) ← elements limit fuel rest
        .ok (item :: items, rest)

/-- The fields of an object up to its closing brace, added to those read before. -/
def members (limit : Nat) : (fuel : Nat) → List (String × Json) → List Char →
    Except ReadError (List (String × Json) × List Char)
  | 0, _, cs => .error (.fault ⟨.noName, cs⟩)
  | fuel + 1, fields, cs =>
      match cs with
      | '"' :: rest => do
          let (key, rest) ← string cs rest
          rest |> afterName fun rest => do
            let (item, rest) ← value limit fuel rest
            let fields := Assoc.insert key item fields
            rest |> afterItem '\x7d' (fun rest => .ok (fields, rest)) (members limit fuel fields)
      | cs => .error (.fault ⟨.noName, cs⟩)

end

/-- The value, if nothing but separators follows it. -/
def alone (v : Json) (rest : List Char) : Except ReadError Json :=
  match skip rest with
  | [] => .ok v
  | rest => .error (.fault ⟨.extraData, rest⟩)

/-- The value that a whole text holds, its whole numbers of at most `limit` digits. -/
def readWithin (limit : Nat) (text : List Char) : Except ReadError Json :=
  match text with
  | '\ufeff' :: _ => .error (.fault ⟨.byteOrderMark, text⟩)
  | _ => do
      let (v, rest) ← value limit (2 * text.length + 2) (skip text)
      alone v rest

/-- The value that a whole text holds. -/
def read (text : List Char) : Except ReadError Json :=
  readWithin Number.digitLimit text

end Lineage.Json
