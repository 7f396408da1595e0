/-
Edges between files: calls whose callee is known and lives in another file than the caller.

A call is resolved by name, through an index that is made once for a list of atoms.  Of several
candidates one that an import of the caller points at is taken first, then the only exported one,
then the first.
-/
import Lineage.Assoc
import Lineage.Binding.Basic
import Lineage.Notice
import Lineage.Source.ModulePath

namespace Lineage

/-- The atoms of each name, in the order in which they came. -/
abbrev NameIndex := List (String × List Atom)

namespace NameIndex

/-- The index of a list of atoms. -/
def ofAtoms (atoms : List Atom) : NameIndex :=
  atoms.foldl (fun index a => Assoc.append a.name [a] index) []

/-- The atoms of a name. -/
def named (index : NameIndex) (name : String) : List Atom :=
  (Assoc.find? name index).getD []

end NameIndex

/-- A resolved call from one file into another. -/
structure Edge where
  callerId : String
  calleeId : String
  /-- The line of the call. -/
  callSite : Int
  callerFile : String
  calleeFile : String
  calleeName : String
  binding : CallBinding
  confidence : Hundredths
deriving Repr

namespace Edge

/-- The record of an edge. -/
def toJson (e : Edge) : Json :=
  .obj [("callerId", .str e.callerId), ("calleeId", .str e.calleeId), ("callSite", .int e.callSite),
    ("callerFile", .str e.callerFile), ("calleeFile", .str e.calleeFile),
    ("calleeName", .str e.calleeName), ("mapping", e.binding.toJson),
    ("confidence", .score e.confidence)]

/-! ### Choosing the callee -/

/-- The atoms that a call may mean: those of its name that live in another file than the caller. -/
def candidates (index : NameIndex) (caller : Atom) (call : CallSite) : List Atom :=
  (index.named call.name).filter fun a => a.filePath ≠ caller.filePath

/-- Whether some import of the caller points at the file of the callee. -/
def isImported (caller callee : Atom) : Bool :=
  caller.imports.any fun i => Source.importReferences i.source callee.filePath

/-- The candidate that a call means: an imported one, else the only exported one, else the first. -/
def choose (caller first : Atom) (others : List Atom) : Noted Atom :=
  match (first :: others).find? (isImported caller) with
  | some a => .plain a
  | none =>
      match (first :: others).filter Atom.isExported with
      | [a] => .plain a
      | _ =>
          if others.isEmpty then .plain first
          else ⟨first, [.ambiguousCall caller.id (others.length + 1) first.id]⟩

/-! ### Building the edge -/

/-- How sure an edge is, in hundredths: fifty at first, twenty more for a call with arguments, and
fifteen more each for an exported and for an imported callee. -/
def confidenceOf (caller callee : Atom) (call : CallSite) : Hundredths :=
  ⟨min 100 (50 + (if call.arguments.isEmpty then 0 else 20) +
    (if callee.isExported then 15 else 0) + (if isImported caller callee then 15 else 0))⟩

/-- The bindings of a call, or what stands in for them. -/
def bindingOf (caller callee : Atom) (call : CallSite) : Noted CallBinding :=
  match CallBinding.bind caller callee call with
  | .ok binding => .plain binding
  | .error fault =>
      ⟨CallBinding.failure caller callee call,
        [.bindingFailed caller.id callee.id call.line fault.message]⟩

/-- The edge of a call to its callee. -/
def build (caller callee : Atom) (call : CallSite) : Noted Edge := do
  let binding ← bindingOf caller callee call
  return ⟨caller.id, callee.id, call.line, caller.filePath, callee.filePath, callee.name, binding,
    confidenceOf caller callee call⟩

/-- The edge of a call, if there is a candidate for it. -/
def ofCall (index : NameIndex) (caller : Atom) (call : CallSite) : Noted (Option Edge) :=
  match candidates index caller call with
  | [] => .plain none
  | first :: others => do
      let callee ← choose caller first others
      let edge ← build caller callee call
      return some edge

/-- The edges of the calls of one atom, in the order of the calls. -/
def fromCalls (index : NameIndex) (caller : Atom) : List CallSite → Noted (List Edge)
  | [] => .plain []
  | call :: calls => do
      let edge ← ofCall index caller call
      let rest ← fromCalls index caller calls
      return edge.toList ++ rest

/-- The edges that leave an atom. -/
def leaving (atoms : List Atom) (caller : Atom) : Noted (List Edge) :=
  fromCalls (.ofAtoms atoms) caller caller.calls

/-- The edges that leave the atoms of `callers`, in their order. -/
def leavingAll (index : NameIndex) : List Atom → Noted (List Edge)
  | [] => .plain []
  | caller :: callers => do
      let edges ← fromCalls index caller caller.calls
      let rest ← leavingAll index callers
      return edges ++ rest

/-- All edges between the atoms. -/
def all (atoms : List Atom) : Noted (List Edge) := leavingAll (.ofAtoms atoms) atoms

end Edge

/-! ### Edges by the atom they leave -/

/-- The edges that leave each atom id; an id without edges does not occur. -/
abbrev EdgeMap := List (String × List Edge)

namespace EdgeMap

/-- The edges that leave an id. -/
def leaving (m : EdgeMap) (id : String) : List Edge :=
  (Assoc.find? id m).getD []

/-- The map with the edges that leave the atoms of `callers` added. -/
def addAll (index : NameIndex) (m : EdgeMap) : List Atom → EdgeMap
  | [] => m
  | caller :: callers =>
      let edges := (Edge.fromCalls index caller caller.calls).value
      addAll index (if edges.isEmpty then m else Assoc.append caller.id edges m) callers

/-- The map of all edges between the atoms. -/
def ofAtoms (atoms : List Atom) : EdgeMap := addAll (.ofAtoms atoms) [] atoms

end EdgeMap

/-- The atoms by their ids; of atoms with one id the last counts. -/
def Atom.index (atoms : List Atom) : List (String × Atom) :=
  Assoc.ofList (atoms.map fun a => (a.id, a))

end Lineage
