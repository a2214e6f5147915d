import AppScaffold.Xml.Markup

/-!
# Reading documents

A plain reader of XML, independent of how documents are written here. `Mode.step` takes one
character at a time and finds tokens: start tags with their attributes, tags that close
themselves, end tags, comments, instructions and text. `Node.assemble` builds the forest and
refuses tags that do not pair. Two hyphens in a row may stand only at the end of a comment, and of
the entities `&amp;`, `&lt;`, `&gt;` and `&quot;` are known. Namespaces, declarations of types and
the uniqueness of attribute names are no matter of this reader.
-/

set_option autoImplicit false

namespace AppScaffold.Xml

inductive Token where
  | instruction (text : String)
  | comment (text : String)
  | startTag (tag : String) (attributes : List Attribute)
  | emptyTag (tag : String) (attributes : List Attribute)
  | endTag (tag : String)
  | text (text : String)
deriving DecidableEq, Repr

/-- Puts characters in the place of the four entities; any other `&` is refused. -/
def decode? : List Char → Option (List Char)
  | '&' :: 'a' :: 'm' :: 'p' :: ';' :: cs => (decode? cs).map ('&' :: ·)
  | '&' :: 'l' :: 't' :: ';' :: cs => (decode? cs).map ('<' :: ·)
  | '&' :: 'g' :: 't' :: ';' :: cs => (decode? cs).map ('>' :: ·)
  | '&' :: 'q' :: 'u' :: 'o' :: 't' :: ';' :: cs => (decode? cs).map ('"' :: ·)
  | c :: cs => if c = '&' then none else (decode? cs).map (c :: ·)
  | [] => some []

def isSpace (c : Char) : Bool := c == ' ' || c == '\t' || c == '\r' || c == '\n'

def isNameStart (c : Char) : Bool := c.isAlpha || c == '_' || c == ':'

def isNameChar (c : Char) : Bool := c.isAlphanum || c == '_' || c == ':' || c == '-' || c == '.'

/-- Where the reader stands, with what it has seen of the current token. -/
inductive Mode where
  | text (seen : List Char)
  | opening
  | bang
  | bangHyphen
  | comment (seen : List Char)
  | commentHyphen (seen : List Char)
  | commentEnd (seen : List Char)
  | instruction (seen : List Char)
  | instructionEnd (seen : List Char)
  | endTag (tag : List Char)
  | startTag (tag : List Char)
  | inside (tag : List Char) (attributes : List Attribute) (spaced : Bool)
  | slash (tag : List Char) (attributes : List Attribute)
  | name (tag : List Char) (attributes : List Attribute) (key : List Char)
  | equals (tag : List Char) (attributes : List Attribute) (key : List Char)
  | value (tag : List Char) (attributes : List Attribute) (key seen : List Char)
deriving DecidableEq, Repr

namespace Mode

/-- The text between two tags; white space alone is no token. -/
def flush (seen : List Char) : Option (List Token) :=
  if seen.all isSpace then some []
  else (decode? seen).map fun cs => [.text (String.ofList cs)]

/-- What may follow the name of a tag or one of its attributes. A name needs space before it. -/
def stepInside (tag : List Char) (attributes : List Attribute) (spaced : Bool) (c : Char) :
    Option (Mode × List Token) :=
  if isSpace c then some (.inside tag attributes true, [])
  else if c = '/' then some (.slash tag attributes, [])
  else if c = '>' then some (.text [], [.startTag (String.ofList tag) attributes])
  else if spaced && isNameStart c then some (.name tag attributes [c], [])
  else none

def step : Mode → Char → Option (Mode × List Token)
  | .text seen, c =>
    if c = '<' then (flush seen).map (.opening, ·) else some (.text (seen ++ [c]), [])
  | .opening, c =>
    if c = '!' then some (.bang, [])
    else if c = '?' then some (.instruction [], [])
    else if c = '/' then some (.endTag [], [])
    else if isNameStart c then some (.startTag [c], [])
    else none
  | .bang, c => if c = '-' then some (.bangHyphen, []) else none
  | .bangHyphen, c => if c = '-' then some (.comment [], []) else none
  | .comment seen, c =>
    if c = '-' then some (.commentHyphen seen, []) else some (.comment (seen ++ [c]), [])
  | .commentHyphen seen, c =>
    if c = '-' then some (.commentEnd seen, []) else some (.comment (seen ++ ['-', c]), [])
  | .commentEnd seen, c =>
    if c = '>' then some (.text [], [.comment (String.ofList seen)]) else none
  | .instruction seen, c =>
    if c = '?' then some (.instructionEnd seen, []) else some (.instruction (seen ++ [c]), [])
  | .instructionEnd seen, c =>
    if c = '>' then some (.text [], [.instruction (String.ofList seen)])
    else if c = '?' then some (.instructionEnd (seen ++ ['?']), [])
    else some (.instruction (seen ++ ['?', c]), [])
  | .endTag tag, c =>
    if isNameChar c then some (.endTag (tag ++ [c]), [])
    else if c = '>' ∧ tag ≠ [] then some (.text [], [.endTag (String.ofList tag)])
    else none
  | .startTag tag, c =>
    if isNameChar c then some (.startTag (tag ++ [c]), []) else stepInside tag [] false c
  | .inside tag attributes spaced, c => stepInside tag attributes spaced c
  | .slash tag attributes, c =>
    if c = '>' then some (.text [], [.emptyTag (String.ofList tag) attributes]) else none
  | .name tag attributes key, c =>
    if isNameChar c then some (.name tag attributes (key ++ [c]), [])
    else if c = '=' then some (.equals tag attributes key, [])
    else none
  | .equals tag attributes key, c =>
    if c = '"' then some (.value tag attributes key [], []) else none
  | .value tag attributes key seen, c =>
    if c = '"' then
      (decode? seen).map fun v =>
        (.inside tag (attributes ++ [⟨String.ofList key, String.ofList v⟩]) false, [])
    else if c = '<' then none
    else some (.value tag attributes key (seen ++ [c]), [])

/-- Reads characters; gives the mode after them and the tokens that they end. -/
def steps : Mode → List Char → Option (Mode × List Token)
  | m, [] => some (m, [])
  | m, c :: cs =>
    match m.step c with
    | none => none
    | some (next, found) => (next.steps cs).map fun r => (r.1, found ++ r.2)

/-- A document ends outside of its tags. -/
def finish : Mode × List Token → Option (List Token)
  | (.text seen, found) => (flush seen).map (found ++ ·)
  | _ => none

end Mode

def Token.ofText? (s : String) : Option (List Token) :=
  ((Mode.text []).steps s.toList).bind Mode.finish

inductive Node where
  | text (text : String)
  | comment (text : String)
  | element (tag : String) (attributes : List Attribute) (children : List Node)
deriving Repr

/-- An element that is still open, with what comes before it. -/
structure Frame where
  tag : String
  attributes : List Attribute
  before : List Node

namespace Node

/-- Builds a forest; `done` are the nodes so far inside the innermost open element. -/
def assemble : List Frame → List Node → List Token → Option (List Node)
  | [], done, [] => some done
  | _ :: _, _, [] => none
  | stack, done, .instruction _ :: rest => assemble stack done rest
  | stack, done, .comment s :: rest => assemble stack (done ++ [.comment s]) rest
  | stack, done, .text s :: rest => assemble stack (done ++ [.text s]) rest
  | stack, done, .emptyTag tag attributes :: rest =>
    assemble stack (done ++ [.element tag attributes []]) rest
  | stack, done, .startTag tag attributes :: rest =>
    assemble (⟨tag, attributes, done⟩ :: stack) [] rest
  | [], _, .endTag _ :: _ => none
  | f :: stack, done, .endTag tag :: rest =>
    if f.tag = tag then assemble stack (f.before ++ [.element tag f.attributes done]) rest
    else none

/-- The forest of a document, when all its tags pair. -/
def ofText? (s : String) : Option (List Node) := (Token.ofText? s).bind (assemble [] [])

end Node

end AppScaffold.Xml
