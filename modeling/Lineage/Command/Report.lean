/-
What a command prints: lines of markup and tables of it, and how a plain console shows them.

Markup stands in square brackets.  What must not be read as markup is escaped by a backslash before
the bracket, and the backslashes that already stand there are doubled.
-/
import Lineage.EventLog
import Lineage.Store.Load

namespace Lineage.Command

/-! ### Markup -/

/-- A character that markup may begin with. -/
def opensTag (c : Char) : Bool :=
  (97 ≤ c.toNat && c.toNat ≤ 122) || c == '#' || c == '/' || c == '@'

/-- Whether what follows an opening bracket makes it markup: one of the opening characters, and a
closing bracket before any other opening one. -/
def isTag : List Char → Bool
  | [] => false
  | c :: rest => opensTag c && (rest.dropWhile fun c => c ≠ ']' ∧ c ≠ '[').head? == some ']'

/-- A text with its markup escaped, after `pending` backslashes. -/
def escapeFrom (pending : Nat) : List Char → List Char
  | [] => List.replicate pending '\\'
  | c :: rest =>
      if c = '\\' then escapeFrom (pending + 1) rest
      else if c = '[' && isTag rest then
        List.replicate (2 * pending + 1) '\\' ++ '[' :: escapeFrom 0 rest
      else List.replicate pending '\\' ++ c :: escapeFrom 0 rest

/-- Whether a text ends in exactly one backslash. -/
def endsInOneBackslash (cs : List Char) : Bool :=
  (cs.reverse.takeWhile (· == '\\')).length == 1

/-- A text that the console shows as it is. -/
def escapeChars (cs : List Char) : List Char :=
  let escaped := escapeFrom 0 cs
  if endsInOneBackslash escaped then escaped ++ ['\\'] else escaped

/-- A text that the console shows as it is. -/
def escape (s : String) : String := String.ofList (escapeChars s.toList)

end Lineage.Command

namespace Lineage

/-! ### Reports -/

/-- To which side the cells of a column are set. -/
inductive Side where
  | left
  | right
deriving DecidableEq, Repr

/-- The name of a side. -/
def Side.name : Side → String
  | left => "left"
  | right => "right"

/-- A table with a title, and a header and a side for each column. -/
structure Table where
  title : String
  columns : List (String × Side)
  rows : List (List String)
deriving DecidableEq, Repr

/-- One thing printed. -/
inductive Printed where
  | line (markup : String)
  | table (t : Table)
deriving DecidableEq, Repr

/-- What a command leaves: its exit code, the data it writes, what it prints, and the events for the
log.  A command whose file stops the load stops with it. -/
structure Report where
  exitCode : Nat
  output : String
  printed : List Printed
  events : List Event
  stopped : Option LoadStop
deriving Repr

namespace Report

/-- The report of a command that could not do its work. -/
def failure (printed : List Printed) : Report := ⟨1, "", printed, [], none⟩

/-- The report of a command that writes data. -/
def ofData (event : Event) (v : Json) : Report := ⟨0, v.pretty ++ "\n", [], [event], none⟩

/-- The report of a command that prints. -/
def ofPrinted (event : Event) (printed : List Printed) : Report := ⟨0, "", printed, [event], none⟩

end Report

end Lineage

namespace Lineage.Command

/-! ### A plain console -/

/-- The text that markup shows, after `pending` backslashes; `inTag` tells whether the markup begins
inside a tag.  Before a bracket that opens a tag two backslashes show one, and an odd one more keeps
the bracket from opening it. -/
def plainFrom (pending : Nat) (inTag : Bool) : List Char → List Char
  | [] => List.replicate pending '\\'
  | c :: rest =>
      if inTag then plainFrom 0 (c ≠ ']') rest
      else if c = '\\' then plainFrom (pending + 1) false rest
      else if c = '[' && isTag rest then
        List.replicate (pending / 2) '\\' ++
          if pending % 2 = 1 then '[' :: plainFrom 0 false rest else plainFrom 0 true rest
      else List.replicate pending '\\' ++ c :: plainFrom 0 false rest

/-- The text that markup shows. -/
def plain (markup : String) : String :=
  String.ofList (plainFrom 0 false markup.toList)

/-- A text filled up with blanks to a width. -/
def fill (side : Side) (width : Nat) (s : String) : String :=
  let blanks := String.ofList (List.replicate (width - s.length) ' ')
  match side with
  | .left => s ++ blanks
  | .right => blanks ++ s

/-- The lines of a table: its title, its headers and its rows. -/
def tableLines (t : Table) : List String :=
  let rows := t.rows.map fun row => row.map plain
  let widths := t.columns.mapIdx fun i (header, _) =>
    rows.foldl (fun width row => max width (row.getD i "").length) header.length
  let lineOf (cells : List String) : String :=
    "  ".intercalate (((t.columns.zip widths).zip cells).map fun (((_, side), width), cell) =>
      fill side width cell)
  t.title :: lineOf (t.columns.map (·.1)) :: rows.map lineOf

/-- The lines that something printed shows. -/
def printedLines : Printed → List String
  | .line markup => [plain markup]
  | .table t => tableLines t

end Lineage.Command
