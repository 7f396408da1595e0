/-
The commands, how they are given, and the settings they use.

A command is a name, arguments in a fixed order, and options anywhere among them.  An option with a
value takes the next word, whatever it is, or the text after an equals sign; of an option given
twice the last counts.  Two dashes alone end the options.

Whole numbers are written as in records.  Other numbers are read with the white space around them
left out or, where that does not help, with their low lines left out instead; a number with both is
refused.
-/
import Lineage.Dna.Duplicates
import Lineage.Number.Double
import Lineage.Number.Numeral
import Lineage.Store.Tree

namespace Lineage.Command

/-! ### Numbers -/

open Numeral

/-- A whole number. -/
def whole? (s : String) : Option Int :=
  (Numeral.whole? s.toList).filter fun n => !(Number.int n).exceeds Number.digitLimit

/-- The value of an exponent part: nothing, or a mark, a sign and digits. -/
def exponent? : List Char → Option Int
  | [] => some 0
  | _ :: rest =>
      let (negative, digits) := takeSign rest
      if !digits.isEmpty && digits.all isDigit then some (signed negative (digitsValue digits))
      else none

/-- A decimal number without its sign: digits, a point and digits, and an exponent; there must be a
digit on one side of the point. -/
def decimal? (negative : Bool) (cs : List Char) : Option Double := do
  let isMark (c : Char) : Bool := c == 'e' || c == 'E'
  let significand := cs.takeWhile fun c => !isMark c
  let e ← exponent? (cs.dropWhile fun c => !isMark c)
  let before := significand.takeWhile (· ≠ '.')
  let after := (significand.dropWhile (· ≠ '.')).drop 1
  let digits := before ++ after
  if !digits.isEmpty && digits.all isDigit then
    some (Double.ofDecimal negative (digitsValue digits) (e - after.length))
  else none

/-- A double-precision number with nothing around it, infinities and not-a-number included. -/
def plainReal? (cs : List Char) : Option Double :=
  let (negative, body) := takeSign cs
  let word := String.ofList (body.map Char.toLower)
  if word = "inf" ∨ word = "infinity" then some (.inf negative)
  else if word = "nan" then some .nan
  else decimal? negative body

/-- A double-precision number. -/
def real? (s : String) : Option Double :=
  let cs := s.toList
  match plainReal? (Text.trim Text.isWhiteSpace cs) with
  | some x => some x
  | none => if isSeparated cs then plainReal? (cs.filter (· ≠ '_')) else none

end Lineage.Command

namespace Lineage

/-! ### Settings -/

/-- Where an analysis keeps its files, and the limits it uses where none are given. -/
structure Settings where
  baseDir : Path
  journeyMaxDepth : Int
  duplicateThreshold : Number
  minDuplicability : Int
deriving Repr

namespace Settings

/-- The settings of a user with the given home folder. -/
def standard (home : Path) : Settings where
  baseDir := home.child ".atomflow"
  journeyMaxDepth := 5
  duplicateThreshold := Duplicate.Filter.standard.threshold
  minDuplicability := Duplicate.Filter.standard.minDuplicability

/-- The folder of the event log. -/
def logDir (s : Settings) : Path := s.baseDir.child "logs"

/-- A tree with the folders of an analysis. -/
def ensureFolders (s : Settings) (t : Tree) : Tree :=
  (t.makeFolder s.baseDir).makeFolder s.logDir

end Settings

/-! ### Commands -/

/-- A command with its arguments and options. -/
inductive Command where
  | dna (file : String) (atom : Option String) (json : Bool)
  | edges (file : String) (json : Bool)
  | trace (file atomId var : String) (maxDepth : Option Int) (json : Bool)
  | duplicates (file : String) (threshold : Option Double) (minScore : Option Int) (json : Bool)
deriving Repr

namespace Command

/-- The file that a command reads. -/
def file : Command → String
  | dna file _ _ => file
  | edges file _ => file
  | trace file _ _ _ _ => file
  | duplicates file _ _ _ => file

/-! ### Words -/

/-- The words of a command: its arguments in order, and the options given, the latest first; a
switch has no value. -/
structure Words where
  arguments : List String
  options : List (String × Option String)

namespace Words

/-- The words with one more argument, in front. -/
def withArgument (w : Words) (argument : String) : Words :=
  { w with arguments := argument :: w.arguments }

/-- The words with one more option, given before the others. -/
def withOption (w : Words) (name : String) (value : Option String) : Words :=
  { w with options := w.options ++ [(name, value)] }

/-- Whether a switch is given. -/
def has (w : Words) (name : String) : Bool :=
  w.options.any fun option => option.1 = name

/-- The value of an option. -/
def value? (w : Words) (name : String) : Option String :=
  (w.options.lookup name).bind id

end Words

/-- Whether a word is an option: a dash and more. -/
def isOption (word : String) : Bool :=
  match word.toList with
  | '-' :: _ :: _ => true
  | _ => false

/-- The name of an option, and the text after an equals sign if there is one. -/
def splitOption (word : String) : String × Option String :=
  let cs := word.toList
  let name := String.ofList (cs.takeWhile (· ≠ '='))
  match cs.dropWhile (· ≠ '=') with
  | [] => (name, none)
  | _ :: value => (name, some (String.ofList value))

/-- The words of a command; `options` tells of each option whether it takes a value.  There is no
answer where an option is unknown, lacks its value or has one that it does not take. -/
def words? (options : List (String × Bool)) : List String → Option Words
  | [] => some ⟨[], []⟩
  | word :: rest =>
      if word = "--" then some ⟨rest, []⟩
      else if isOption word then
        let (name, given) := splitOption word
        match options.lookup name, given, rest with
        | some true, some value, rest =>
            (words? options rest).map (·.withOption name (some value))
        | some true, none, value :: rest =>
            (words? options rest).map (·.withOption name (some value))
        | some false, none, rest => (words? options rest).map (·.withOption name none)
        | _, _, _ => none
      else (words? options rest).map (·.withArgument word)

/-! ### Commands -/

/-- The value of an option that may be left out; what cannot be read is refused. -/
def optionValue? (read : String → Option α) : Option String → Option (Option α)
  | none => some none
  | some s => (read s).map some

/-- The switch for data in place of a display. -/
def jsonSwitch : String × Bool := ("--json", false)

/-- The command of a name with the given words. -/
def ofWords? (name : String) (rest : List String) : Option Command :=
  match name with
  | "dna" => do
      let w ← words? [("--atom", true), jsonSwitch] rest
      match w.arguments with
      | [file] => some (dna file (w.value? "--atom") (w.has "--json"))
      | _ => none
  | "edges" => do
      let w ← words? [jsonSwitch] rest
      match w.arguments with
      | [file] => some (edges file (w.has "--json"))
      | _ => none
  | "trace" => do
      let w ← words? [("--max-depth", true), jsonSwitch] rest
      let maxDepth ← optionValue? whole? (w.value? "--max-depth")
      match w.arguments with
      | [file, atomId, var] => some (trace file atomId var maxDepth (w.has "--json"))
      | _ => none
  | "duplicates" => do
      let w ← words? [("--threshold", true), ("--min-score", true), jsonSwitch] rest
      let threshold ← optionValue? real? (w.value? "--threshold")
      let minScore ← optionValue? whole? (w.value? "--min-score")
      match w.arguments with
      | [file] => some (duplicates file threshold minScore (w.has "--json"))
      | _ => none
  | _ => none

/-- The command that the words of a command line give; none where they are not a proper one. -/
def parse? : List String → Option Command
  | "--" :: name :: rest => ofWords? name rest
  | name :: rest => ofWords? name rest
  | [] => none

end Command

end Lineage
