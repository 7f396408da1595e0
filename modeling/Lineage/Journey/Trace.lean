/-
The journey of a variable through the calls between files.

It begins at the atom that a file and a name mean, if that atom knows the variable.  From an atom
the walk follows every edge and every binding whose argument is the variable; behind the edge the
variable has the name of the parameter.  The walk is depth first and goes on from each atom at most
once: at the first arrival that the depth limit allows.
-/
import Lineage.Atom.Basic
import Lineage.Edge.Basic
import Lineage.Text.Basic

namespace Lineage.Journey

/-! ### Where a journey begins -/

open Text

/-- A file path with slashes for backslashes. -/
def filePath (s : String) : List Char := substitute '\\' '/' s.toList

/-- The last segment of a path. -/
def baseName (path : List Char) : List Char :=
  (path.reverse.takeWhile (· ≠ '/')).reverse

/-- Whether `short` is the whole of `long`, or its last segments. -/
def endsPath (short long : List Char) : Bool :=
  long == short || ('/' :: short).isSuffixOf long

/-- Whether two paths may be the same file: one ends the other, or they share the file name. -/
def mayBeSame (path other : List Char) : Bool :=
  endsPath path other || endsPath other path || baseName other == baseName path

/-- Whether an atom has the given name, and its file may be the given one. -/
def isSource (file name : String) (a : Atom) : Bool :=
  a.name = name && mayBeSame (filePath file) (filePath a.filePath)

/-- The first atom of the given name whose file may be the given one. -/
def findSource? (atoms : List Atom) (file name : String) : Option Atom :=
  atoms.find? (isSource file name)

/-- Whether a raw argument has the variable as its variable or its name. -/
def argumentNames (var : String) (arg : Json) : Bool :=
  let has (key : String) : Bool :=
    match arg.field? key with
    | some (.str s) => s = var
    | _ => false
  has "variable" || has "name"

/-- Whether the variable is a parameter of the atom or an argument of one of its calls. -/
def knowsVariable (a : Atom) (var : String) : Bool :=
  a.parameters.any (fun p => p.name = var) ||
    a.calls.any fun call => call.arguments.any (argumentNames var)

end Lineage.Journey

namespace Lineage

/-! ### The walk -/

/-- One hop of a variable from a caller to a callee in another file. -/
structure Hop where
  /-- How many hops it is from the start, counted from one. -/
  depth : Int
  callerId : String
  callerName : String
  callerFile : String
  calleeId : String
  calleeName : String
  calleeFile : String
  /-- The line of the call. -/
  callSite : Int
  /-- The name that the variable has in the caller. -/
  variableIn : String
  /-- The name that it has in the callee. -/
  parameterIn : String
  transform : Option Transform
  confidence : Double
deriving Repr

/-- A hop of a trace, with the ids of the callers from the start down to its own. -/
structure JourneyStep where
  hop : Hop
  path : List String
deriving Repr

namespace Journey

/-- The edges and bindings by which a variable leaves an atom for a known atom, in order. -/
def exits (edges : EdgeMap) (known : List (String × Atom)) (id var : String) :
    List (Edge × Binding) :=
  (edges.leaving id).flatMap fun e =>
    if (Assoc.find? e.calleeId known).isSome then
      (e.binding.bindings.filter fun b => b.var = some var ∨ b.code = var).map (e, ·)
    else []

/-- The name that the variable has behind a binding. -/
def parameterName (b : Binding) : String :=
  if b.parameterName = "" then s!"param{b.position}" else b.parameterName

/-- The step over an edge by one of its bindings. -/
def step (known : List (String × Atom)) (var : String) (depth : Nat) (path : List String) (e : Edge)
    (b : Binding) : JourneyStep where
  hop :=
    { depth
      callerId := e.callerId
      callerName := ((Assoc.find? e.callerId known).map Atom.name).getD e.callerId
      callerFile := e.callerFile
      calleeId := e.calleeId
      calleeName := e.calleeName
      calleeFile := e.calleeFile
      callSite := e.callSite
      variableIn := var
      parameterIn := parameterName b
      transform := some b.transform
      confidence := e.confidence.toDouble }
  path := path ++ [e.callerId]

/-- The steps by which a variable leaves an atom, in order. -/
def stepsFrom (edges : EdgeMap) (known : List (String × Atom)) (id var : String) (depth : Nat)
    (path : List String) : List JourneyStep :=
  (exits edges known id var).map fun (e, b) => step known var depth path e b

/-- Each of the steps, with the steps behind it right after it.  `onward` gives the steps behind a
step and the atoms visited by then, from those visited before. -/
def expand (onward : JourneyStep → List String → List String × List JourneyStep) :
    List JourneyStep → List String → List String × List JourneyStep
  | [], visited => (visited, [])
  | s :: rest, visited =>
      let (visited, behind) := onward s visited
      let (visited, others) := expand onward rest visited
      (visited, s :: behind ++ others)

/-- The walk from an atom, `room` levels deep at most: the atoms visited by its end, and its
steps. -/
def walk (edges : EdgeMap) (known : List (String × Atom)) :
    (room : Nat) → (id var : String) → (depth : Nat) → (path visited : List String) →
      List String × List JourneyStep
  | 0, _, _, _, _, visited => (visited, [])
  | room + 1, id, var, depth, path, visited =>
      if visited.contains id then (visited, [])
      else
        expand
          (fun s => walk edges known room s.hop.calleeId s.hop.parameterIn (depth + 1) s.path)
          (stepsFrom edges known id var depth path) (id :: visited)

/-- The journey of a variable from an atom, `maxDepth` hops deep at most. -/
def trace (edges : EdgeMap) (known : List (String × Atom)) (start var : String) (maxDepth : Int) :
    List JourneyStep :=
  (walk edges known maxDepth.toNat start var 1 [] []).2

end Journey

end Lineage
