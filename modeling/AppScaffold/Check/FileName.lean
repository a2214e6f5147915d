import AppScaffold.Check.Findings

/-!
# File names

Which names may be joined onto a directory without leaving it, and how an arbitrary name becomes
one of letters, digits, points, hyphens and underscores.
-/

set_option autoImplicit false

namespace AppScaffold.Check

def isSeparator (c : Char) : Bool := c == '/' || c == '\\'

def fileNameFault? (name : String) : Option String :=
  let cs := name.toList
  if cs.any isSeparator then some "Path separators are not allowed"
  else if name == "." || Text.contains name ".." then some "Path traversal detected"
  else if cs.contains '\x00' then some "NUL bytes are not allowed"
  else none

def fileName (name : String) : Findings :=
  (((({} : Findings).required "filename" name).maxLength "filename" name 255).custom "filename"
    (fileNameFault? name))

def isPlain (c : Char) : Bool := c.isAlphanum || c == '.' || c == '-' || c == '_'

def baseName (cs : List Char) : List Char := (cs.reverse.takeWhile (!isSeparator ·)).reverse

def cleanName (cs : List Char) : List Char :=
  ((baseName cs).map fun c => if isPlain c then c else '_').dropWhile (· == '.')

/-- A name of plain characters that does not start with a point; `upload` when nothing is left. -/
def sanitizeFileName (name : String) : String :=
  match cleanName name.toList with
  | [] => "upload"
  | cs => String.ofList cs

end AppScaffold.Check
