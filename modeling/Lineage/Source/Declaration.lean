/-
Declarations that bind the result of a call, and the lines that mention a name.

Such a declaration reads: `const`, `let` or `var`; blanks; a name; `=`; perhaps `await` and blanks;
any number of names each followed by a point; the callee; an opening parenthesis.  Blanks may stand
around the equals sign and before the parenthesis.  The callee is taken literally, whatever it is,
so it may itself begin with blanks or hold points: all readings are tried.
-/
import Lineage.Text.Basic
import Lineage.Text.Word

namespace Lineage.Source

open Text

/-- A character of a name. -/
def isNameChar (c : Char) : Bool := isWord c || c == '$'

/-- A character that a declared name may begin with. -/
def isNameStart (c : Char) : Bool :=
  (65 ≤ c.toNat && c.toNat ≤ 90) || (97 ≤ c.toNat && c.toNat ≤ 122) || c == '_' || c == '$'

/-- The words that open a declaration. -/
def declarators : List String := ["const", "let", "var"]

/-- Whether the text is the callee, blanks and an opening parenthesis, and then anything. -/
def isCallOf (callee cs : List Char) : Bool :=
  match after? callee cs with
  | some rest => (rest.dropWhile isBlank).head? == some '('
  | none => false

/-- Whether the text is any number of names, each with a point after it, and then a call of the
callee.  `inName` tells whether a part of a name stands before the text. -/
def isQualifiedCall (callee : List Char) (inName : Bool) (cs : List Char) : Bool :=
  (!inName && isCallOf callee cs) ||
    match cs with
    | [] => false
    | c :: rest =>
        if isNameChar c then isQualifiedCall callee true rest
        else c == '.' && inName && isQualifiedCall callee false rest

/-- The text, without its first blank, without its first two, and so on. -/
def withoutBlanks : List Char → List (List Char)
  | [] => [[]]
  | c :: cs => (c :: cs) :: if isBlank c then withoutBlanks cs else []

/-- Whether the text after an equals sign is a call of the callee, awaited or not. -/
def isInitializer (callee cs : List Char) : Bool :=
  (withoutBlanks cs).any fun start =>
    isQualifiedCall callee false start ||
      match after? "await".toList start with
      | some rest => (withoutBlanks rest).tail.any (isQualifiedCall callee false)
      | none => false

/-- The name and what follows it, if the text is blanks, at least one, and a name. -/
def declaredName? (cs : List Char) : Option (List Char × List Char) :=
  if cs.head?.any isBlank then
    match cs.dropWhile isBlank with
    | c :: rest =>
        if isNameStart c then some (c :: rest.takeWhile isNameChar, rest.dropWhile isNameChar)
        else none
    | [] => none
  else none

/-- The name that is declared where the text begins, if the result of the callee is bound to it. -/
def declarationAt? (callee cs : List Char) : Option (List Char) := do
  let rest ← declarators.findSome? fun word => after? word.toList cs
  let (name, rest) ← declaredName? rest
  match rest.dropWhile isBlank with
  | '=' :: init => if isInitializer callee init then some name else none
  | _ => none

/-- The first name in the text that the result of the callee is bound to.  `before` is the character
before the text; a declaration does not begin inside a word. -/
def firstDeclaration? (callee : List Char) (before : Option Char) : List Char → Option (List Char)
  | [] => none
  | c :: cs =>
      let here := if before.any isWord then none else declarationAt? callee (c :: cs)
      match here with
      | some name => some name
      | none => firstDeclaration? callee (some c) cs

/-- The first name that the result of the callee is bound to in the lines of `source` from number
`start` on. -/
def resultBinding? (source callee : String) (start : Int) : Option String :=
  if source.isEmpty || callee.isEmpty then none
  else
    let text := joinLines (linesFrom start (lines source.toList))
    (firstDeclaration? callee.toList none text).map String.ofList

/-! ### Mentions -/

/-- Whether no name reaches across this neighbour. -/
def isEdge : Option Char → Bool
  | none => true
  | some c => !isNameChar c

/-- Whether the name occurs in the text as a whole, neither the character before it nor the one
after it being part of a name.  `before` is the character before the text. -/
def mentionsFrom (name : List Char) (before : Option Char) (cs : List Char) : Bool :=
  (isEdge before &&
      match after? name cs with
      | some rest => isEdge rest.head?
      | none => false) ||
    match cs with
    | [] => false
    | c :: rest => mentionsFrom name (some c) rest

/-- Whether a line mentions the name. -/
def mentions (name line : List Char) : Bool :=
  mentionsFrom name none line

/-- Lines with their numbers, from `i`. -/
def numberFrom (i : Nat) : List α → List (Nat × α)
  | [] => []
  | a :: rest => (i, a) :: numberFrom (i + 1) rest

/-- The lines of `source` after number `last` that mention the name, with their numbers and without
the blanks around them. -/
def usagesAfter (source name : String) (last : Int) : List (Nat × String) :=
  ((numberFrom 0 (lines source.toList)).filter fun (i, line) =>
      last < i && mentions name.toList line).map fun (i, line) =>
    (i, String.ofList (trim isBlank line))

end Lineage.Source
