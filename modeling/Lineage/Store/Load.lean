/-
Loading atoms from a file.

The file holds a list of atom records, or an object with such a list.  Either every record is an
atom, or the first that is not is reported and nothing is loaded.  A file that cannot be read as
text, and one with a whole number of too many digits, stop the load without such a report.
-/
import Lineage.Atom.Basic
import Lineage.Json.Reader
import Lineage.Store.Tree

namespace Lineage

/-- Why atoms cannot be loaded. -/
inductive LoadError where
  | notFound
  | notJson (fault : String)
  | notList
  | invalidAtom (index : Nat) (count : Nat)
deriving DecidableEq, Repr

namespace LoadError

/-- The error in words, for a file whose path has the given text. -/
def message (path : String) : LoadError → String
  | notFound => s!"Atoms file not found: {path}"
  | notJson fault => s!"Atoms file is not valid JSON: {path} ({fault})"
  | notList => s!"Expected a list of atoms in {path}"
  | invalidAtom index count => s!"Atom #{index} in {path} is invalid: {count} error(s)"

end LoadError

/-- What stops a load: the file cannot be read as text, or a whole number in it has too many
digits. -/
inductive LoadStop where
  | unreadable (error : FileError)
  | overlong
deriving DecidableEq, Repr

/-- What stops a load, in words. -/
def LoadStop.message : LoadStop → String
  | unreadable error => error.message
  | overlong => s!"it holds a whole number of more than {Number.digitLimit} digits"

/-- How a load may fail: it is stopped, or what the file holds is refused. -/
inductive LoadFailure where
  | stopped (stop : LoadStop)
  | refused (error : LoadError)
deriving DecidableEq, Repr

namespace Atom

/-- The atoms of a list of records, of which the first has the number `i`. -/
def readFrom (i : Nat) : List Json → Except LoadError (List Atom)
  | [] => .ok []
  | v :: rest =>
      match ofJson v with
      | .valid a => do
          let atoms ← readFrom (i + 1) rest
          .ok (a :: atoms)
      | .invalid _ others => .error (.invalidAtom i (others.length + 1))

/-- The list that a file's value holds: an object has it under `atoms`, and none if it has no such
field. -/
def listOf (v : Json) : Json :=
  match v with
  | .obj fields => (fields.lookup "atoms").getD (.arr [])
  | v => v

/-- The atoms that a file's value holds. -/
def readAll (v : Json) : Except LoadError (List Atom) :=
  match listOf v with
  | .arr items => readFrom 0 items
  | _ => .error .notList

/-- The atoms that a file's text holds. -/
def readText (s : String) : Except LoadFailure (List Atom) :=
  match Json.read s.toList with
  | .ok v => (readAll v).mapError .refused
  | .error (.fault f) => .error (.refused (.notJson (f.message s.toList)))
  | .error .overlong => .error (.stopped .overlong)

/-- The atoms of a file, given its text or why it cannot be had. -/
def load : Except FileError String → Except LoadFailure (List Atom)
  | .ok s => readText s
  | .error .notFound => .error (.refused .notFound)
  | .error error => .error (.stopped (.unreadable error))

end Atom

end Lineage
