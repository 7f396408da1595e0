/-
Whole numbers written in digits, as people write them: white space around the number, a sign, zeros
in front, low lines that set digits apart, and a fraction of nothing but zeros.

The zeros in front are dropped before anything else is looked at, and with them every low line among
them.  What is left after them may begin with a minus sign of its own, unless the number has a sign
in front of its zeros that already makes it negative.
-/
import Lineage.Text.Basic

namespace Lineage.Numeral

/-- A decimal digit. -/
def isDigit (c : Char) : Bool :=
  48 ≤ c.toNat && c.toNat ≤ 57

/-- Whether every low line stands between two other characters; `afterOther` tells whether one
stands before the text. -/
def separatedFrom (afterOther : Bool) : List Char → Bool
  | [] => afterOther
  | c :: cs => if c = '_' then afterOther && separatedFrom false cs else separatedFrom true cs

/-- Whether the text is not empty and every low line in it stands between two other characters. -/
def isSeparated (cs : List Char) : Bool :=
  separatedFrom false cs

/-- The whole number that the digits of a text stand for. -/
def digitsValue (cs : List Char) : Nat :=
  (cs.filter isDigit).foldl (fun n c => 10 * n + (c.toNat - 48)) 0

/-- A sign and what follows it. -/
def takeSign : List Char → Bool × List Char
  | '-' :: rest => (true, rest)
  | '+' :: rest => (false, rest)
  | rest => (false, rest)

/-- `n` or its negative. -/
def signed (negative : Bool) (n : Nat) : Int :=
  if negative then -(n : Int) else n

/-! ### Zeros in front and behind -/

/-- The text that follows zeros and low lines, of which the latest is `last`.  Where a number ends
with them, at a point or at the end of the text, the latest is kept. -/
def afterZeros? (last : Char) : List Char → Option (List Char)
  | [] => some [last]
  | c :: rest =>
      if c = '0' || c = '_' then afterZeros? c rest
      else if isDigit c || c = '-' then some (c :: rest)
      else if c = '.' then some (last :: c :: rest)
      else none

/-- A text that begins with a digit, without the zeros in front of its number. -/
def dropZeros? : List Char → Option (List Char)
  | [] => none
  | c :: rest =>
      if c = '0' then afterZeros? c rest
      else if isDigit c then some (c :: rest)
      else none

/-- Whether the text is a point and zeros, at least one. -/
def isZeroFraction : List Char → Bool
  | '.' :: zeros => !zeros.isEmpty && zeros.all (· == '0')
  | _ => false

/-- A text without the zeros after its point, if there is nothing else after it. -/
def dropFraction (cs : List Char) : List Char :=
  if isZeroFraction (cs.dropWhile (· ≠ '.')) then cs.takeWhile (· ≠ '.') else cs

/-! ### Whole numbers -/

/-- Whether the text is a zero alone, or digits that begin with another one. -/
def isPlain : List Char → Bool
  | [] => false
  | c :: rest => if c = '0' then rest.isEmpty else (c :: rest).all isDigit

/-- The whole number that plain digits stand for, after a minus sign or not. -/
def plain? : List Char → Option Int
  | '-' :: digits => if isPlain digits then some (signed true (digitsValue digits)) else none
  | digits => if isPlain digits then some (signed false (digitsValue digits)) else none

/-- The whole number that a text stands for. -/
def whole? (cs : List Char) : Option Int := do
  let (negative, body) := takeSign (Text.trim Text.isWhiteSpace cs)
  let number := dropFraction (← dropZeros? body)
  let digits := number.filter (· ≠ '_')
  if isSeparated number then plain? (if negative then '-' :: digits else digits) else none

end Lineage.Numeral
