/-
Double-precision numbers, as exact values.

A finite number is a sign, a significand below `2 ^ 53` and a binary exponent; the significand is at
least `2 ^ 52` unless the exponent is the least one.  Every operation computes the exact result, as
a ratio of whole numbers, and rounds it once: to the nearest number, a tie going to the even
significand.  Comparison is exact: a finite number is a whole number of units of `2 ^ -1074`, and
whole numbers are compared.
-/
namespace Lineage

/-- A double-precision number; a finite one is `mant * 2 ^ exp`, with its sign. -/
inductive Double where
  | nan
  | inf (negative : Bool)
  | finite (negative : Bool) (mant : Nat) (exp : Int)
deriving DecidableEq, Repr, Inhabited

/-- A place on the number line, extended at both ends; `at n` is `n` units of `2 ^ -1074`. -/
inductive Place where
  | below
  | at (units : Int)
  | above
deriving DecidableEq, Repr

namespace Place

/-- Strictly to the left of. -/
def lt : Place → Place → Bool
  | below, below => false
  | below, _ => true
  | .at m, .at n => m < n
  | .at _, above => true
  | _, _ => false

end Place

namespace Double

/-! ### Rounding a ratio -/

/-- The exponent of the smallest numbers. -/
def minExp : Int := -1074

/-- The exponent of the largest numbers. -/
def maxExp : Int := 971

/-- How many units make one. -/
def unitsPerOne : Nat := Nat.pow 2 1074

/-- `num / den` to the nearest whole number, a tie going to the even one. -/
def roundDiv (num den : Nat) : Nat :=
  let q := num / den
  let r := num % den
  if 2 * r < den then q
  else if den < 2 * r then q + 1
  else if q % 2 = 0 then q
  else q + 1

/-- `num / den` divided by `2 ^ e`, as a ratio of whole numbers again. -/
def scale (num den : Nat) (e : Int) : Nat × Nat :=
  if 0 ≤ e then (num, den * Nat.pow 2 e.toNat) else (num * Nat.pow 2 (-e).toNat, den)

/-- The largest `e` with `2 ^ e ≤ num / den`, for a positive ratio. -/
def floorLog2 (num den : Nat) : Int :=
  let e : Int := (num.log2 : Int) - (den.log2 : Int)
  let (n, d) := scale num den e
  if d ≤ n then e else e - 1

/-- A number from a rounded significand of at most `2 ^ 53`; beyond the largest exponent it is
infinite. -/
def pack (negative : Bool) (mant : Nat) (exp : Int) : Double :=
  let (mant, exp) := if mant = Nat.pow 2 53 then (Nat.pow 2 52, exp + 1) else (mant, exp)
  if maxExp < exp then inf negative else finite negative mant exp

/-- The number nearest `num / den`, or its negative. -/
def ofRatio (negative : Bool) (num den : Nat) : Double :=
  if num = 0 then finite negative 0 minExp
  else
    let exp := max minExp (floorLog2 num den - 52)
    let (n, d) := scale num den exp
    pack negative (roundDiv n d) exp

/-- The number nearest a whole number. -/
def ofInt (n : Int) : Double :=
  ofRatio (n < 0) n.natAbs 1

/-- The number nearest `digits * 10 ^ exp10`, or its negative.  A decimal exponent far outside the
range settles the answer at once. -/
def ofDecimal (negative : Bool) (digits : Nat) (exp10 : Int) : Double :=
  if digits = 0 then ofRatio negative 0 1
  else
    let width : Int := ((Nat.toDigits 10 digits).length : Int) + exp10
    if 400 < width then inf negative
    else if width < -400 then ofRatio negative 0 1
    else if 0 ≤ exp10 then ofRatio negative (digits * Nat.pow 10 exp10.toNat) 1
    else ofRatio negative digits (Nat.pow 10 (-exp10).toNat)

/-! ### Exact values -/

/-- The size of a finite number in units of `2 ^ -1074`. -/
def units (mant : Nat) (exp : Int) : Nat :=
  mant * Nat.pow 2 (exp - minExp).toNat

/-- Where a number lies; what is not a number lies nowhere. -/
def place? : Double → Option Place
  | nan => none
  | inf true => some .below
  | inf false => some .above
  | finite negative mant exp =>
      some (.at (if negative then -(units mant exp : Int) else (units mant exp : Int)))

/-- Whether the number is finite. -/
def isFinite : Double → Bool
  | finite _ _ _ => true
  | _ => false

/-- The whole number that a finite number is, if it is one. -/
def toInt? : Double → Option Int
  | finite negative mant exp =>
      let n := units mant exp
      if n % unitsPerOne = 0 then
        let n : Int := (n / unitsPerOne : Nat)
        some (if negative then -n else n)
      else none
  | _ => none

/-! ### Arithmetic -/

/-- The number nearest `n` units. -/
def ofUnits (n : Int) : Double :=
  ofRatio (n < 0) n.natAbs unitsPerOne

/-- Addition.  Two finite numbers that cancel give the positive zero. -/
def add : Double → Double → Double
  | nan, _ => nan
  | _, nan => nan
  | inf a, inf b => if a = b then inf a else nan
  | inf a, _ => inf a
  | _, inf b => inf b
  | finite s₁ m₁ e₁, finite s₂ m₂ e₂ =>
      let a : Int := if s₁ then -(units m₁ e₁ : Int) else (units m₁ e₁ : Int)
      let b : Int := if s₂ then -(units m₂ e₂ : Int) else (units m₂ e₂ : Int)
      if a + b = 0 then ofRatio (s₁ && s₂) 0 1 else ofUnits (a + b)

/-- Division by a positive whole number. -/
def divNat : Double → Nat → Double
  | finite negative mant exp, n => ofRatio negative (units mant exp) (unitsPerOne * n)
  | x, _ => x

/-- The size of a finite number in hundredths, a tie going to the even one. -/
def hundredths (mant : Nat) (exp : Int) : Nat :=
  roundDiv (units mant exp * 100) unitsPerOne

/-- The number nearest the whole hundredth that lies nearest. -/
def roundHundredths : Double → Double
  | finite negative mant exp => ofRatio negative (hundredths mant exp) 100
  | x => x

/-- Strictly less than; false wherever something is not a number. -/
def lt (x y : Double) : Bool :=
  match x.place?, y.place? with
  | some p, some q => p.lt q
  | _, _ => false

end Double

end Lineage
