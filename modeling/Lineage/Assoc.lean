/-
Tables in the order in which their keys first came.

A table is a list of pairs in which each key stands once.  Setting a key that is there replaces its
value and leaves its place; setting a new key puts it at the end.
-/
namespace Lineage.Assoc

variable {κ α : Type} [DecidableEq κ]

/-- The table with `key` set to `value`. -/
def insert (key : κ) (value : α) : List (κ × α) → List (κ × α)
  | [] => [(key, value)]
  | (k, v) :: rest => if k = key then (k, value) :: rest else (k, v) :: insert key value rest

/-- The value of a key. -/
def find? (key : κ) : List (κ × α) → Option α
  | [] => none
  | (k, v) :: rest => if k = key then some v else find? key rest

/-- The table without `key`. -/
def erase (key : κ) (table : List (κ × α)) : List (κ × α) :=
  table.filter fun entry => entry.1 ≠ key

/-- The table with `items` added to the end of what `key` holds, which is nothing at first. -/
def append (key : κ) (items : List α) : List (κ × List α) → List (κ × List α)
  | [] => [(key, items)]
  | (k, v) :: rest =>
      if k = key then (k, v ++ items) :: rest else (k, v) :: append key items rest

/-- The table of the pairs of a list; of two pairs with one key the later gives the value. -/
def ofList (pairs : List (κ × α)) : List (κ × α) :=
  pairs.foldl (fun table pair => insert pair.1 pair.2 table) []

/-- The distinct members of a list, each where it first came. -/
def distinct : List κ → List κ
  | [] => []
  | k :: rest => k :: (distinct rest).filter (· ≠ k)

end Lineage.Assoc
