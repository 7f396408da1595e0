/-
Texts as lists of characters: classes of characters, hexadecimal digits, parts of a text, blanks
and lines.

Two classes of blanks are in use.  A blank is what separates words in source text: the white space
of every script together with the four information separators.  White space proper, which may
surround a number, leaves the separators out.

A line ends at any of the line and paragraph separators; a carriage return and a line feed together
end one line.  The separators belong to no line, and a separator at the very end opens no further
line.
-/
namespace Lineage.Text

/-! ### Classes of characters -/

/-- Whether `c` lies in one of the ranges, which are inclusive at both ends and ascend, so that the
search stops at the first range that begins beyond `c`. -/
def inRanges : List (Nat × Nat) → Nat → Bool
  | [], _ => false
  | (first, last) :: rest, c =>
      if c < first then false else if c ≤ last then true else inRanges rest c

/-! ### Hexadecimal digits -/

/-- The digit for a value below sixteen. -/
def hexDigit (n : Nat) : Char :=
  if n < 10 then Char.ofNat (48 + n) else Char.ofNat (87 + n)

/-- The last `width` hexadecimal digits of `n`. -/
def hex : (width : Nat) → (n : Nat) → List Char
  | 0, _ => []
  | width + 1, n => hex width (n / 16) ++ [hexDigit (n % 16)]

/-- The value of a hexadecimal digit, in either case. -/
def hexValue? (c : Char) : Option Nat :=
  let n := c.toNat
  if 48 ≤ n && n ≤ 57 then some (n - 48)
  else if 97 ≤ n && n ≤ 102 then some (n - 87)
  else if 65 ≤ n && n ≤ 70 then some (n - 55)
  else none

/-! ### Parts of a text -/

/-- What follows `word`, if the text begins with it. -/
def after? : (word cs : List Char) → Option (List Char)
  | [], cs => some cs
  | w :: ws, c :: cs => if w = c then after? ws cs else none
  | _ :: _, [] => none

/-- What precedes `word`, if the text ends with it. -/
def before? (word cs : List Char) : Option (List Char) :=
  if word.isSuffixOf cs then some (cs.take (cs.length - word.length)) else none

/-- The text with every `old` replaced by `new`. -/
def substitute (old new : Char) (cs : List Char) : List Char :=
  cs.map fun c => if c = old then new else c

/-- The pieces between the occurrences of `mark`; there is one more piece than there are marks. -/
def pieces (mark : Char) : List Char → List (List Char)
  | [] => [[]]
  | c :: cs =>
      if c = mark then [] :: pieces mark cs
      else
        match pieces mark cs with
        | [] => [[c]]
        | piece :: more => (c :: piece) :: more

/-- Pieces put together, with `mark` between each two. -/
def join (mark : List Char) : List (List Char) → List Char
  | [] => []
  | [piece] => piece
  | piece :: more => piece ++ mark ++ join mark more

/-- Whether `word` occurs in the text. -/
def occursIn (word : List Char) : List Char → Bool
  | [] => word.isEmpty
  | c :: cs => word.isPrefixOf (c :: cs) || occursIn word cs

/-! ### Blanks -/

/-- The blanks: white space and the information separators. -/
def blankRanges : List (Nat × Nat) :=
  [(0x9, 0xd), (0x1c, 0x20), (0x85, 0x85), (0xa0, 0xa0), (0x1680, 0x1680), (0x2000, 0x200a),
   (0x2028, 0x2029), (0x202f, 0x202f), (0x205f, 0x205f), (0x3000, 0x3000)]

/-- White space of every script, or an information separator. -/
def isBlank (c : Char) : Bool :=
  inRanges blankRanges c.toNat

/-- White space of every script. -/
def isWhiteSpace (c : Char) : Bool :=
  isBlank c && !(0x1c ≤ c.toNat && c.toNat ≤ 0x1f)

/-- `cs` without the characters of the class `p` at its end. -/
def trimEnd (p : Char → Bool) : List Char → List Char
  | [] => []
  | c :: cs =>
      match trimEnd p cs with
      | [] => if p c then [] else [c]
      | kept => c :: kept

/-- `cs` without the characters of the class `p` at both ends. -/
def trim (p : Char → Bool) (cs : List Char) : List Char :=
  trimEnd p (cs.dropWhile p)

/-! ### Lines -/

/-- The characters that end a line. -/
def isLineBreak (c : Char) : Bool :=
  let n := c.toNat
  (0xa ≤ n && n ≤ 0xd) || (0x1c ≤ n && n ≤ 0x1e) || n == 0x85 || n == 0x2028 || n == 0x2029

/-- The lines of a text, without their separators. -/
def lines : List Char → List (List Char)
  | [] => []
  | '\r' :: '\n' :: rest => [] :: lines rest
  | c :: rest =>
      if isLineBreak c then [] :: lines rest
      else
        match lines rest with
        | [] => [[c]]
        | line :: more => (c :: line) :: more

/-- The lines from number `start` on.  A negative number counts from the end, and what lies outside
the text is left out. -/
def linesFrom (start : Int) (all : List (List Char)) : List (List Char) :=
  if 0 ≤ start then all.drop start.toNat
  else all.drop (all.length - (-start).toNat)

/-- Lines put together again, a line feed between each two. -/
def joinLines (all : List (List Char)) : List Char := join ['\n'] all

end Lineage.Text
