/-
Whether and where a caller uses what its callee returns.
-/
import Lineage.Binding.Basic
import Lineage.Source.Declaration

namespace Lineage

/-- Why a returned value is not used. -/
inductive Unused where
  | noReturn
  | assigned
  | notReferenced
deriving DecidableEq, Repr

/-- The code of a reason. -/
def Unused.code : Unused → String
  | noReturn => "no_return"
  | assigned => "assigned_unused"
  | notReferenced => "not_referenced"

/-- What becomes of a returned value. -/
inductive ReturnUse where
  /-- It is bound to a name, which these lines mention. -/
  | assigned (name : String) (usages : List (Int × String))
  /-- The callee is mentioned without such a binding. -/
  | direct
  /-- There is nothing to use, or the callee is not mentioned. -/
  | none (reason : Unused)
deriving DecidableEq, Repr

namespace ReturnUse

/-- Whether the value is used. -/
def isUsed : ReturnUse → Bool
  | assigned _ usages => !usages.isEmpty
  | direct => true
  | none _ => false

/-- Why the value is not used. -/
def reason? : ReturnUse → Option Unused
  | assigned _ usages => if usages.isEmpty then some .assigned else Option.none
  | direct => Option.none
  | none reason => some reason

/-- The way in which the value is taken up. -/
def usageType? : ReturnUse → Option String
  | assigned _ _ => some "assigned"
  | direct => some "direct"
  | none _ => Option.none

/-- The name that the value is bound to. -/
def assignedTo? : ReturnUse → Option String
  | assigned name _ => some name
  | _ => Option.none

/-- The lines that mention the name, with their numbers. -/
def usages : ReturnUse → List (Int × String)
  | assigned _ usages => usages
  | _ => []

/-- What becomes of the value that a call returns.  The binding is looked for from the line of the
call on, and its mentions after that line. -/
def track (caller callee : Atom) (call : CallSite) : ReturnUse :=
  if callee.dataFlow.any DataFlow.hasReturn then
    let offset := max (call.line - caller.line) 0
    match Source.resultBinding? caller.code callee.name offset with
    | some name =>
        assigned name ((Source.usagesAfter caller.code name offset).map fun (i, text) =>
          (caller.line + i, text))
    | Option.none =>
        if Text.occursIn callee.name.toList caller.code.toList then direct
        else none .notReferenced
  else none .noReturn

/-- The record of a use. -/
def toJson (u : ReturnUse) : Json :=
  .obj [("isUsed", .bool u.isUsed), ("reason", .opt (.str ·.code) u.reason?),
    ("usageType", .opt .str u.usageType?), ("assignedTo", .opt .str u.assignedTo?),
    ("usages", .list (fun (line, text) => .arr [.int line, .str text]) u.usages)]

end ReturnUse

end Lineage
