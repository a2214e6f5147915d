import AppScaffold.Text.Split
import AppScaffold.Xml.Escape

/-!
# Markup in the layout of resource files

Elements with one attribute a line, comments on a line of their own, and their nesting. `Markup`
holds what a document says; `Markup.print` holds how it is written.
-/

set_option autoImplicit false

namespace AppScaffold.Xml

def prolog : String := "<?xml version=\"1.0\" encoding=\"utf-8\"?>\n"

def indent (level : Nat) : String := Text.repeated level "    "

/-- An attribute by its full name, with the value it stands for. -/
structure Attribute where
  name : String
  value : String
deriving DecidableEq, Repr

def android (name value : String) : Attribute := ⟨"android:" ++ name, value⟩

/-- An `android` attribute that is there only when it has a value. -/
def android? (name : String) (value : Option String) : List Attribute :=
  match value with
  | some v => [android name v]
  | none => []

/-- A start tag up to and without its closing angle bracket. -/
def startTag (level : Nat) (tag : String) (attributes : List Attribute) : String :=
  indent level ++ "<" ++ tag ++ "\n" ++
    String.join (attributes.map fun a =>
      indent level ++ indent 1 ++ a.name ++ "=\"" ++ escape a.value ++ "\"\n")

/-- Ends a start tag as an element without a body. -/
def selfClose (level : Nat) : String := indent level ++ "/>\n\n"

/-- Ends a start tag whose body follows. -/
def openBody (level : Nat) : String := indent level ++ ">\n\n"

def closeTag (level : Nat) (tag : String) : String := indent level ++ "</" ++ tag ++ ">\n\n"

def comment (level : Nat) (text : String) : String :=
  indent level ++ "<!-- " ++ commentText text ++ " -->\n"

inductive Markup where
  | comment (text : String)
  | leaf (tag : String) (attributes : List Attribute)
  | group (tag : String) (attributes : List Attribute) (body : List Markup)
deriving Repr

mutual

def Markup.print (level : Nat) : Markup → String
  | .comment text => Xml.comment level text
  | .leaf tag attributes => startTag level tag attributes ++ selfClose level
  | .group tag attributes body =>
    startTag level tag attributes ++ openBody level ++ Markup.printAll (level + 1) body ++
      closeTag level tag

def Markup.printAll (level : Nat) : List Markup → String
  | [] => ""
  | m :: rest => m.print level ++ Markup.printAll level rest

end

end AppScaffold.Xml
