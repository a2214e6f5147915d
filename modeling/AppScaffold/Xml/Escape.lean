/-!
# Text inside XML

How a value is written between double quotes or as element text, how a string resource is
written, and how text is put inside a comment.
-/

set_option autoImplicit false

namespace AppScaffold.Xml

def escapeChar : Char → List Char
  | '&' => ['&', 'a', 'm', 'p', ';']
  | '<' => ['&', 'l', 't', ';']
  | '>' => ['&', 'g', 't', ';']
  | '"' => ['&', 'q', 'u', 'o', 't', ';']
  | c => [c]

def escapeChars (cs : List Char) : List Char := cs.flatMap escapeChar

/-- A value for a double-quoted attribute or for element text. -/
def escape (s : String) : String := String.ofList (escapeChars s.toList)

def guardApostrophes (cs : List Char) : List Char :=
  cs.flatMap fun c => if c == '\'' then ['\\', '\''] else [c]

/-- The text of a string resource: escaped, and with no bare apostrophe. -/
def resourceText (s : String) : String :=
  String.ofList (guardApostrophes (escapeChars s.toList))

/-- Parts each pair of hyphens, from left to right and without overlap. -/
def partHyphens : List Char → List Char
  | '-' :: '-' :: cs => '-' :: ' ' :: '-' :: partHyphens cs
  | c :: cs => c :: partHyphens cs
  | [] => []

def commentText (s : String) : String := String.ofList (partHyphens s.toList)

end AppScaffold.Xml
