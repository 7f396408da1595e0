/-
Checking a value against what is expected of it.

A check does not stop at the first fault: it reports every one, each with the path to its place and
its cause, in the order in which the parts are declared.  Checks of parts are combined by `<*>`,
which keeps the faults of both sides.
-/
namespace Lineage

/-- One step towards a place inside a value. -/
inductive Step where
  | key (name : String)
  | index (i : Nat)
deriving DecidableEq, Repr

/-- Why a value is refused. -/
inductive Cause where
  | missing
  | notObject
  | notTagged
  | noTag
  | unknownTag
  | notString
  | notList
  | notWhole
  | notFinite
  | hasFraction
  | outOfRange
  | notNumeral
  | notBoolean
  | notTruthWord
  | notVariant
  | notLiteral
deriving DecidableEq, Repr

namespace Cause

/-- The code of a cause in reports. -/
def code : Cause → String
  | missing => "missing"
  | notObject => "model_type"
  | notTagged => "model_attributes_type"
  | noTag => "union_tag_not_found"
  | unknownTag => "union_tag_invalid"
  | notString => "string_type"
  | notList => "list_type"
  | notWhole => "int_type"
  | notFinite => "finite_number"
  | hasFraction => "int_from_float"
  | outOfRange => "int_parsing_size"
  | notNumeral => "int_parsing"
  | notBoolean => "bool_type"
  | notTruthWord => "bool_parsing"
  | notVariant => "enum"
  | notLiteral => "literal_error"

end Cause

/-- A cause, and the path to the place it concerns. -/
structure Fault where
  path : List Step
  cause : Cause
deriving DecidableEq, Repr

namespace Fault

/-- The fault seen from one level further out. -/
def within (step : Step) (fault : Fault) : Fault :=
  { fault with path := step :: fault.path }

/-- How many faults the check of a `subject` found. -/
def tally (subject : String) (count : Nat) : String :=
  if count = 1 then s!"1 validation error for {subject}"
  else s!"{count} validation errors for {subject}"

end Fault

/-- The outcome of a check: the value found, or the faults, of which there is at least one. -/
inductive Checked (α : Type) where
  | valid (value : α)
  | invalid (first : Fault) (others : List Fault)
deriving Repr

namespace Checked

/-- Refusal of the value at hand. -/
def refuse (cause : Cause) : Checked α :=
  invalid ⟨[], cause⟩ []

/-- The faults found. -/
def faults : Checked α → List Fault
  | valid _ => []
  | invalid first others => first :: others

/-- The value found. -/
def toOption : Checked α → Option α
  | valid a => some a
  | invalid _ _ => none

/-- The outcome with `f` applied to the value. -/
def map (f : α → β) : Checked α → Checked β
  | valid a => valid (f a)
  | invalid first others => invalid first others

/-- Two outcomes in one, with the faults of the first before those of the second. -/
def seq : Checked (α → β) → Checked α → Checked β
  | valid f, valid a => valid (f a)
  | valid _, invalid first others => invalid first others
  | invalid first others, c => invalid first (others ++ c.faults)

instance : Functor Checked where
  map := map

instance : Applicative Checked where
  pure := valid
  seq f c := seq f (c ())

/-- The outcome seen from one level further out. -/
def within (step : Step) : Checked α → Checked α
  | valid a => valid a
  | invalid first others => invalid (first.within step) (others.map (Fault.within step))

/-- Checks of the items of a list, counted from `i`. -/
def eachFrom (check : β → Checked α) (i : Nat) : List β → Checked (List α)
  | [] => valid []
  | b :: bs => List.cons <$> (check b).within (.index i) <*> eachFrom check (i + 1) bs

/-- Checks of the items of a list. -/
def each (check : β → Checked α) (items : List β) : Checked (List α) :=
  eachFrom check 0 items

end Checked

end Lineage
