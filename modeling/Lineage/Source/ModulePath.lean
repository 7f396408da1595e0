/-
Whether an import points at a file.

Both sides are put into one form first: slashes for backslashes, no blanks around, no extension, and
the folder in place of its index file.  An import then points at a file if its segments end the
file's path.
-/
import Lineage.Text.Basic

namespace Lineage.Source

open Text

/-- The extensions of source files. -/
def extensions : List String := [".js", ".jsx", ".ts", ".tsx", ".mjs", ".cjs", ".py"]

/-- The files that stand for their folder. -/
def folderFiles : List String := ["/index", "/__init__"]

/-- Slashes for backslashes, and no blanks around. -/
def slashed (cs : List Char) : List Char :=
  trim isBlank (substitute '\\' '/' cs)

/-- The text without the first of `endings` that it has. -/
def dropEnding (endings : List String) (cs : List Char) : List Char :=
  (endings.findSome? fun ending => before? ending.toList cs).getD cs

/-- A path in the form that is compared. -/
def normalize (cs : List Char) : List Char :=
  dropEnding folderFiles (dropEnding extensions (slashed cs))

/-- A path without the steps to this folder and to the parent folder that it begins with. -/
def dropRelative : List Char → List Char
  | '.' :: '/' :: rest => dropRelative rest
  | '.' :: '.' :: '/' :: rest => dropRelative rest
  | cs => cs

/-- Whether the text has the extension of a source file. -/
def hasExtension (cs : List Char) : Bool :=
  extensions.any fun extension => extension.toList.isSuffixOf cs

/-- A dotted module name as a path; a path or a file name as it is. -/
def undotted (cs : List Char) : List Char :=
  if !cs.contains '/' && !hasExtension cs then substitute '.' '/' cs else cs

/-- What an import points at, in the form that is compared. -/
def importTarget (cs : List Char) : List Char :=
  normalize (undotted ((dropRelative (slashed cs)).dropWhile (· == '.')))

/-- Whether the import `source` points at the file. -/
def importReferences (source filePath : String) : Bool :=
  if source.isEmpty || filePath.isEmpty then false
  else
    let target := importTarget source.toList
    let file := normalize filePath.toList
    !target.isEmpty && (file == target || ('/' :: target).isSuffixOf file)

end Lineage.Source
