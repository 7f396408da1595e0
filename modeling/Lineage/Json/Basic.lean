/-
Values of the JSON data format.

An object keeps its fields in the order in which their names first came, and holds each name once:
writing a name again replaces its value and leaves its place.
-/
import Lineage.Assoc
import Lineage.Number.Basic

namespace Lineage

/-- A JSON value. -/
inductive Json where
  | null
  | bool (b : Bool)
  | num (n : Number)
  | str (s : String)
  | arr (items : List Json)
  | obj (fields : List (String × Json))
deriving Inhabited, Repr

namespace Json

/-! ### Equality -/

mutual

/-- Whether two values are the same. -/
def same : Json → Json → Bool
  | null, null => true
  | bool a, bool b => a = b
  | num m, num n => m = n
  | str s, str t => s = t
  | arr vs, arr ws => sameItems vs ws
  | obj vs, obj ws => sameFields vs ws
  | _, _ => false

/-- Whether two arrays have the same items. -/
def sameItems : List Json → List Json → Bool
  | [], [] => true
  | v :: vs, w :: ws => same v w && sameItems vs ws
  | _, _ => false

/-- Whether two objects have the same fields. -/
def sameFields : List (String × Json) → List (String × Json) → Bool
  | [], [] => true
  | (key, v) :: vs, (key', w) :: ws => key = key' && same v w && sameFields vs ws
  | _, _ => false

end

mutual

theorem same_iff : (v w : Json) → (same v w = true ↔ v = w)
  | arr vs, w => by cases w <;> simp [same, sameItems_iff vs]
  | obj vs, w => by cases w <;> simp [same, sameFields_iff vs]
  | null, w | bool _, w | num _, w | str _, w => by cases w <;> simp [same]

theorem sameItems_iff : (vs ws : List Json) → (sameItems vs ws = true ↔ vs = ws)
  | [], ws => by cases ws <;> simp [sameItems]
  | v :: vs, ws => by cases ws <;> simp [sameItems, same_iff v, sameItems_iff vs]

theorem sameFields_iff : (vs ws : List (String × Json)) → (sameFields vs ws = true ↔ vs = ws)
  | [], ws => by cases ws <;> simp [sameFields]
  | (key, v) :: vs, ws => by
      cases ws <;> simp [sameFields, same_iff v, sameFields_iff vs, Prod.ext_iff, and_assoc]

end

instance : DecidableEq Json := fun v w => decidable_of_iff (same v w = true) (same_iff v w)

/-! ### Making and taking apart -/

/-- A whole number. -/
def int (n : Int) : Json := num (.int n)

/-- A double-precision number. -/
def real (x : Double) : Json := num (.real x)

/-- A score. -/
def score (h : Hundredths) : Json := num h.toNumber

/-- A value that may be absent, written as null. -/
def opt (write : α → Json) : Option α → Json
  | none => null
  | some a => write a

/-- A list, item by item. -/
def list (write : α → Json) (items : List α) : Json :=
  arr (items.map write)

/-- The value of a field. -/
def field? (key : String) : Json → Option Json
  | obj fields => fields.lookup key
  | _ => none

/-- Fields with all of `updates` set, one after the other. -/
def putAll (fields updates : List (String × Json)) : List (String × Json) :=
  updates.foldl (fun acc update => Assoc.insert update.1 update.2 acc) fields

end Json

end Lineage
