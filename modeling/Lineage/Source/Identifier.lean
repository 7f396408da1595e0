/-
The words of an identifier, and the verb that a function name begins with.

A word is a run of capitals, or small letters and digits that one capital may precede.  Whether two
neighbouring characters belong to one word is decided by them and the character after them: the
last capital of a run goes with the small letters that follow it.  Everything but ASCII letters and
digits stands between words.
-/
import Lineage.Text.Casing

namespace Lineage.Source

/-! ### Words -/

/-- A capital letter. -/
def isCapital (c : Char) : Bool := 65 ≤ c.toNat && c.toNat ≤ 90

/-- A small letter. -/
def isSmall (c : Char) : Bool := 97 ≤ c.toNat && c.toNat ≤ 122

/-- A small letter or a digit. -/
def isBody (c : Char) : Bool := isSmall c || (48 ≤ c.toNat && c.toNat ≤ 57)

/-- Whether `x` and the character `y` after it belong to one word, when `rest` follows them. -/
def together (x y : Char) (rest : List Char) : Bool :=
  if isCapital x then
    isSmall y || (isCapital y && !(rest.head?.any isSmall))
  else isBody x && isBody y

/-- `c` put before the first word. -/
def extend (c : Char) : List (List Char) → List (List Char)
  | [] => [[c]]
  | word :: more => (c :: word) :: more

/-- The words of a text. -/
def wordsOf : List Char → List (List Char)
  | [] => []
  | c :: rest =>
      if isCapital c || isBody c then
        match rest with
        | [] => [[c]]
        | next :: more =>
            if together c next more then extend c (wordsOf (next :: more))
            else [c] :: wordsOf (next :: more)
      else wordsOf rest

/-- The words of an identifier. -/
def splitIdentifier (name : String) : List String :=
  (wordsOf name.toList).map String.ofList

/-! ### Verbs -/

/-- The verbs that are looked for. -/
def verbs : List String :=
  ["get", "fetch", "load", "read", "find", "search", "query", "list", "create", "build", "make",
   "generate", "init", "initialize", "add", "insert", "save", "store", "write", "set", "update",
   "modify", "delete", "remove", "clear", "reset", "validate", "check", "verify", "is", "has",
   "can", "should", "parse", "format", "transform", "convert", "normalize", "map", "filter",
   "reduce", "sort", "merge", "compute", "calculate", "handle", "process", "render"]

/-- The longer of two verbs, the first of them if they are equally long. -/
def longer : Option String → String → Option String
  | none, verb => some verb
  | some best, verb => if best.length < verb.length then some verb else some best

/-- The longest verb that the name begins with, in small letters. -/
def matchVerb (name : String) : Option String :=
  let lowered := Text.lower name.toList
  (verbs.filter fun verb => verb.toList.isPrefixOf lowered).foldl longer none

end Lineage.Source
