/-
Numbers as data files hold them: whole numbers of any size, and double-precision numbers.  The two
kinds are kept apart even where they have the same value.

Similarities and confidences are sums of fixed weights, each a whole number of hundredths, so they
are kept as whole numbers and become double-precision numbers only when they are compared with one
or written.
-/
import Lineage.Number.Decimal

namespace Lineage

/-- A whole number of any size, or a double-precision number. -/
inductive Number where
  | int (n : Int)
  | real (x : Double)
deriving DecidableEq, Repr, Inhabited

/-- The text of a whole number. -/
def intText (n : Int) : List Char :=
  Double.signText (n < 0) ++ Nat.toDigits 10 n.natAbs

namespace Number

/-- The most decimal digits that a whole number may have in a text that is read. -/
def digitLimit : Nat := 4300

/-- Whether a number is a whole one of more than `limit` decimal digits. -/
def exceeds (limit : Nat) : Number → Bool
  | int n => limit < (Nat.toDigits 10 n.natAbs).length
  | real _ => false

/-- Where a number lies. -/
def place? : Number → Option Place
  | int n => some (.at (n * Double.unitsPerOne))
  | real x => x.place?

/-- Strictly less than, by exact value; false wherever something is not a number. -/
def lt (x y : Number) : Bool :=
  match x.place?, y.place? with
  | some p, some q => p.lt q
  | _, _ => false

end Number

/-! ### Scores -/

/-- A score of `count` hundredths. -/
structure Hundredths where
  count : Nat
deriving DecidableEq, Repr, Inhabited

namespace Hundredths

/-- The nearest double-precision number. -/
def toDouble (h : Hundredths) : Double :=
  Double.ofRatio false h.count 100

/-- The score as a number of a data file. -/
def toNumber (h : Hundredths) : Number :=
  .real h.toDouble

/-- The score with two places. -/
def text (h : Hundredths) : String :=
  String.ofList (Double.hundredthsText h.count)

end Hundredths

end Lineage
