/-
The data flow of a whole call: its bindings, what becomes of the result, and the steps of the caller
that made the arguments.
-/
import Lineage.Binding.ReturnUse

namespace Lineage

/-- A step of the caller that made an argument, and the callee that takes it. -/
structure ChainLink where
  source : String
  target : String
  via : String
deriving DecidableEq, Repr

/-- The record of a link. -/
def ChainLink.toJson (l : ChainLink) : Json :=
  .obj [("from", .str l.source), ("to", .str l.target), ("via", .str l.via)]

/-- The data flow of a call. -/
structure CallAnalysis where
  binding : CallBinding
  returnUse : ReturnUse
  chains : List ChainLink
deriving Repr

namespace CallAnalysis

/-- The link for an argument that the caller reads from `name`: the first of its steps that writes
the name. -/
def link? (caller callee : Atom) (name : String) : Option ChainLink := do
  let d ← caller.dataFlow
  let step ← d.transformations.find? fun t => t.target = some name
  return ⟨caller.name ++ "." ++ step.operationName, callee.name ++ ".input", name⟩

/-- The links for the arguments of a call. -/
def chainsOf (caller callee : Atom) (bindings : List Binding) : List ChainLink :=
  bindings.filterMap fun b =>
    match b.var with
    | some name => if name = "" then none else link? caller callee name
    | none => none

/-- The data flow of a call. -/
def analyze (caller callee : Atom) (call : CallSite) : Except ArgumentFault CallAnalysis := do
  let binding ← CallBinding.bind caller callee call
  .ok ⟨binding, ReturnUse.track caller callee call, chainsOf caller callee binding.bindings⟩

/-- The bindings that change their value in some way. -/
def changing (a : CallAnalysis) : List Binding :=
  a.binding.bindings.filter fun b => !b.transform.isDirect

/-- Whether the call transforms data: a step of the caller made an argument, or a binding changes
its value. -/
def hasTransformation (a : CallAnalysis) : Bool :=
  !a.chains.isEmpty || !a.changing.isEmpty

/-- How much goes on: one for each binding that changes its value, one if the result is used, and
one for each line that uses it. -/
def complexity (a : CallAnalysis) : Nat :=
  a.changing.length + (if a.returnUse.isUsed then 1 else 0) + a.returnUse.usages.length

/-- The record of an analysis: its links and its summary. -/
def toJson (a : CallAnalysis) : Json :=
  .obj [("chains", .list ChainLink.toJson a.chains),
    ("summary", .obj [("hasDataTransformation", .bool a.hasTransformation),
      ("hasReturnUsage", .bool a.returnUse.isUsed), ("chainComplexity", .int a.complexity)])]

end CallAnalysis

end Lineage
