/-
File paths, and a folder with all that is in it.

A path is its segments, after a root if it is absolute.  Empty segments and single points mean
nothing and are dropped; two points stay, because where they lead depends on the files.

Every file and folder is listed with the segments that lead to it.  Two points in a path lead to the
parent folder of a folder that must be there; what lies outside the tree is a folder about which
nothing more is known.
-/
import Lineage.Assoc
import Lineage.Text.Basic

namespace Lineage

/-! ### Paths -/

/-- A path: its root, empty for a relative path, and its segments. -/
structure Path where
  root : String
  segments : List String
deriving DecidableEq, Repr

namespace Path

/-- The root of a path's text: exactly two slashes are a root of their own. -/
def rootOf : List Char → String
  | ['/', '/'] => "//"
  | '/' :: '/' :: c :: _ => if c = '/' then "/" else "//"
  | '/' :: _ => "/"
  | _ => ""

/-- A path from its text. -/
def ofText (s : String) : Path where
  root := rootOf s.toList
  segments :=
    ((Text.pieces '/' s.toList).map String.ofList).filter fun segment =>
      segment ≠ "" ∧ segment ≠ "."

/-- The text of a path; the empty path is a single point. -/
def text (p : Path) : String :=
  if p.root = "" ∧ p.segments = [] then "." else p.root ++ "/".intercalate p.segments

/-- A path inside a folder. -/
def child (p : Path) (segment : String) : Path :=
  { p with segments := p.segments ++ [segment] }

end Path

/-! ### Files and folders -/

/-- What a file or folder is. -/
inductive Node where
  | text (s : String)
  | bytes (b : ByteArray)
  | folder

/-- The files and folders below a folder, by the segments that lead to them. -/
abbrev Tree := List (List String × Node)

/-- Why a file cannot be read. -/
inductive FileError where
  | notFound
  | isFolder
  | notFolder
  | notText
deriving DecidableEq, Repr

/-- The error in words. -/
def FileError.message : FileError → String
  | notFound => "there is no such file"
  | isFolder => "it is a folder"
  | notFolder => "a file stands where the path needs a folder"
  | notText => "it is not UTF-8 text"

namespace Tree

/-- A place that a path leads to: something in the tree, or a folder outside it. -/
inductive Spot where
  | file (node : Node)
  | folder (segments : List String)
  | outside

/-- The folder that two points lead to. -/
def parent : Spot → Spot
  | .folder [] => .outside
  | .folder segments => .folder segments.dropLast
  | spot => spot

/-- The place that a name leads to. -/
def enter (t : Tree) (name : String) : Spot → Except FileError Spot
  | .folder segments =>
      match Assoc.find? (segments ++ [name]) t with
      | none => .error .notFound
      | some .folder => .ok (.folder (segments ++ [name]))
      | some node => .ok (.file node)
  | .outside => .error .notFound
  | .file _ => .error .notFolder

/-- The place that segments lead to from a place. -/
def follow (t : Tree) : List String → Spot → Except FileError Spot
  | [], spot => .ok spot
  | _ :: _, .file _ => .error .notFolder
  | ".." :: rest, spot => follow t rest (parent spot)
  | name :: rest, spot => do
      let next ← enter t name spot
      follow t rest next

/-- The place where a path begins. -/
def startOf (p : Path) : Spot :=
  if p.root = "" then .folder [] else .outside

/-- A text with every line break of two kinds, and of both together, turned into a line feed. -/
def unifyBreaks : List Char → List Char
  | [] => []
  | '\r' :: '\n' :: rest => '\n' :: unifyBreaks rest
  | '\r' :: rest => '\n' :: unifyBreaks rest
  | c :: rest => c :: unifyBreaks rest

/-- The text that bytes stand for. -/
def decode (b : ByteArray) : Except FileError String :=
  match String.fromUTF8? b with
  | some s => .ok s
  | none => .error .notText

/-- The text of the file that a path leads to, its line breaks unified. -/
def readText (t : Tree) (p : Path) : Except FileError String := do
  match ← follow t p.segments (startOf p) with
  | .file (.text s) => .ok (String.ofList (unifyBreaks s.toList))
  | .file (.bytes b) => do
      let s ← decode b
      .ok (String.ofList (unifyBreaks s.toList))
  | _ => .error .isFolder

/-- The tree with the folders on the way of `segments` added, from a folder or from outside. -/
def makeFolders (t : Tree) : List String → Spot → Tree
  | [], _ => t
  | ".." :: rest, spot => makeFolders t rest (parent spot)
  | name :: rest, .folder segments =>
      let here := segments ++ [name]
      match Assoc.find? here t with
      | none => makeFolders (t ++ [(here, .folder)]) rest (.folder here)
      | some .folder => makeFolders t rest (.folder here)
      | some _ => t
  | _ :: rest, spot => makeFolders t rest spot

/-- The tree with a folder, and all folders above it. -/
def makeFolder (t : Tree) (p : Path) : Tree :=
  makeFolders t p.segments (startOf p)

/-- The tree with a file or folder at a path, and all folders above it. -/
def place (t : Tree) (p : Path) (node : Node) : Tree :=
  let above := makeFolder t { p with segments := p.segments.dropLast }
  Assoc.insert p.segments node above

/-- The texts of all paths in the tree, in ascending order. -/
def listing (t : Tree) : List String :=
  (t.map fun entry => "/".intercalate entry.1).mergeSort fun a b => a ≤ b

end Tree

end Lineage
