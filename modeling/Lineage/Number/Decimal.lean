/-
Decimal texts of double-precision numbers.

The ordinary text has the fewest digits that read back as the same number, the nearest ones among
those, and keeps a point: positional from `10 ^ -4` up to, but not including, `10 ^ 16`, and with an
exponent elsewhere.  The fixed text has two places.
-/
import Lineage.Number.Double

namespace Lineage

namespace Double

/-! ### Fewest digits -/

/-- `10 ^ k` in quarters of the unit `2 ^ exp`, as a ratio of whole numbers. -/
def gridStep (exp k : Int) : Nat × Nat :=
  let e := exp - 2
  (Nat.pow 10 k.toNat * Nat.pow 2 (-e).toNat, Nat.pow 10 (-k).toNat * Nat.pow 2 e.toNat)

/-- The multiple of `10 ^ k` nearest `mant * 2 ^ exp` among those that round to it, if there is one;
of two that are equally near, the even one.  The numbers that round to it reach half a unit up, and
half a unit or, below a power of two, a quarter of one down; both ends are included when the
significand is even. -/
def nearestOnGrid? (mant : Nat) (exp k : Int) : Option Nat :=
  let (a, b) := gridStep exp k
  let low := if mant = Nat.pow 2 52 ∧ minExp < exp then 4 * mant - 1 else 4 * mant - 2
  let high := 4 * mant + 2
  let fits (d : Nat) : Bool :=
    if mant % 2 = 0 then low * b ≤ d * a && d * a ≤ high * b
    else low * b < d * a && d * a < high * b
  let d := 4 * mant * b / a
  match fits d, fits (d + 1) with
  | true, true =>
      let down := 4 * mant * b - d * a
      let up := (d + 1) * a - 4 * mant * b
      some (if down < up ∨ (down = up ∧ d % 2 = 0) then d else d + 1)
  | true, false => some d
  | false, true => some (d + 1)
  | false, false => none

/-- The first hit on ever finer grids, from `10 ^ k` down: the digits and the exponent. -/
def searchGrids (mant : Nat) (exp : Int) : (grids : Nat) → (k : Int) → Nat × Int
  | 0, k => (0, k)
  | grids + 1, k =>
      match nearestOnGrid? mant exp k with
      | some (d + 1) => (d + 1, k)
      | _ => searchGrids mant exp grids (k - 1)

/-- The fewest digits that read back as `mant * 2 ^ exp`, with their decimal exponent. -/
def shortest (mant : Nat) (exp : Int) : Nat × Int :=
  let whole := units mant exp / unitsPerOne
  searchGrids mant exp 700 (Nat.toDigits 10 whole).length

/-! ### Layout -/

/-- The exponents that are written out, without an exponent part: from `least` to below `limit`. -/
structure PositionalRange where
  least : Int
  limit : Int

/-- Numbers from `10 ^ -4` up to `10 ^ 16` are written out. -/
def positional : PositionalRange := ⟨-4, 16⟩

/-- An exponent part: a sign and at least two digits. -/
def exponentText (e : Int) : List Char :=
  let digits := Nat.toDigits 10 e.natAbs
  let padded := if digits.length < 2 then '0' :: digits else digits
  'e' :: (if e < 0 then '-' else '+') :: padded

/-- Digits with their point, for a number whose leading digit stands for `10 ^ e`. -/
def layOut (digits : List Char) (e : Int) : List Char :=
  if positional.least ≤ e ∧ e < positional.limit then
    if e < 0 then '0' :: '.' :: List.replicate (-e - 1).toNat '0' ++ digits
    else
      let whole := e.toNat + 1
      if digits.length ≤ whole then
        digits ++ List.replicate (whole - digits.length) '0' ++ ['.', '0']
      else digits.take whole ++ '.' :: digits.drop whole
  else
    match digits with
    | [d] => d :: exponentText e
    | d :: more => d :: '.' :: more ++ exponentText e
    | [] => []

/-- The size of a finite number, in the fewest digits. -/
def magnitudeText (mant : Nat) (exp : Int) : List Char :=
  if mant = 0 then ['0', '.', '0']
  else
    let (d, k) := shortest mant exp
    let digits := Nat.toDigits 10 d
    layOut digits ((digits.length : Int) + k - 1)

/-- A minus sign, where there is one. -/
def signText (negative : Bool) : List Char :=
  if negative then ['-'] else []

/-- The ordinary text of a number. -/
def text : Double → List Char
  | nan => "nan".toList
  | inf negative => signText negative ++ "inf".toList
  | finite negative mant exp => signText negative ++ magnitudeText mant exp

/-- The text of so many hundredths, with two places. -/
def hundredthsText (n : Nat) : List Char :=
  Nat.toDigits 10 (n / 100) ++ '.' :: [Nat.digitChar (n % 100 / 10), Nat.digitChar (n % 10)]

/-- The text with two places, a tie going to the even hundredth. -/
def fixedText : Double → List Char
  | nan => "nan".toList
  | inf negative => signText negative ++ "inf".toList
  | finite negative mant exp => signText negative ++ hundredthsText (hundredths mant exp)

end Double

end Lineage
