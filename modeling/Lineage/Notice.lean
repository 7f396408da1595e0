/-
Notices: remarks for whoever follows an analysis, apart from its result.
-/
namespace Lineage

/-- What an analysis remarks on. -/
inductive Notice where
  | atomChanged (id : String)
  | ambiguousCall (caller : String) (candidates : Nat) (chosen : String)
  | bindingFailed (caller callee : String) (line : Int) (reason : String)
deriving DecidableEq, Repr

namespace Notice

/-- The notice in words, with its level. -/
def message : Notice → String
  | atomChanged id => s!"DEBUG Atom {id} changed since last extraction, recomputing DNA"
  | ambiguousCall caller candidates chosen =>
      s!"DEBUG Ambiguous call from {caller}: {candidates} candidates, using {chosen}"
  | bindingFailed caller callee line reason =>
      s!"WARNING Argument mapping failed for {caller} -> {callee} at line {line}: {reason}"

end Notice

/-- A result, and the notices on the way to it, in order. -/
structure Noted (α : Type) where
  value : α
  notices : List Notice
deriving Repr

namespace Noted

/-- A result without notices. -/
def plain (value : α) : Noted α := ⟨value, []⟩

/-- The result changed by `f`. -/
def map (f : α → β) (n : Noted α) : Noted β := ⟨f n.value, n.notices⟩

/-- One step after another, with the notices of both. -/
def bind (n : Noted α) (f : α → Noted β) : Noted β :=
  let m := f n.value
  ⟨m.value, n.notices ++ m.notices⟩

instance : Monad Noted where
  pure := plain
  bind := bind

-- the value of a step after another, whatever either remarks on
variable {α β : Type}

@[simp] theorem value_plain (a : α) : (plain a).value = a := rfl

@[simp] theorem value_pure (a : α) : (pure a : Noted α).value = a := rfl

@[simp] theorem value_map (f : α → β) (n : Noted α) : (n.map f).value = f n.value := rfl

@[simp] theorem value_bind (n : Noted α) (f : α → Noted β) :
    (n >>= f).value = (f n.value).value := rfl

end Noted

end Lineage
