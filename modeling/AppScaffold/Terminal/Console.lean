import AppScaffold.Text.Split

/-!
# Console output

Status lines with coloured marks. Errors and warnings go to the error stream and everything else
to the output. A quiet console shows errors only.
-/

set_option autoImplicit false

namespace AppScaffold.Terminal

/-- A way to show text, by the codes that start and end it. -/
structure Style where
  start : String
  finish : String
deriving DecidableEq, Repr

namespace Style

def colour (n : Nat) : Style := ⟨"\x1b[" ++ Nat.repr n ++ "m", "\x1b[39m"⟩

def red : Style := colour 31

def green : Style := colour 32

def yellow : Style := colour 33

def blue : Style := colour 34

def bold : Style := ⟨"\x1b[1m", "\x1b[0m"⟩

def dimmed : Style := ⟨"\x1b[2m", "\x1b[0m"⟩

def apply (s : Style) (text : String) : String := s.start ++ text ++ s.finish

end Style

/-- What was printed, and whether the console is quiet. -/
structure Console where
  quiet : Bool := false
  output : String := ""
  errors : String := ""
deriving DecidableEq, Repr, Inhabited

namespace Console

def print (c : Console) (text : String) : Console := { c with output := c.output ++ text }

def printLine (c : Console) (line : String) : Console := c.print (line ++ "\n")

def printError (c : Console) (line : String) : Console :=
  { c with errors := c.errors ++ line ++ "\n" }

def unlessQuiet (c : Console) (f : Console → Console) : Console := if c.quiet then c else f c

def success (c : Console) (message : String) : Console :=
  c.unlessQuiet (·.printLine (Style.green.apply "✓" ++ " " ++ message))

def error (c : Console) (message : String) : Console :=
  c.printError (Style.red.apply "✗" ++ " " ++ message)

def warning (c : Console) (message : String) : Console :=
  c.unlessQuiet (·.printError (Style.yellow.apply "⚠" ++ " " ++ message))

def info (c : Console) (message : String) : Console :=
  c.unlessQuiet (·.printLine (Style.blue.apply "ℹ" ++ " " ++ message))

def keyWidth : Nat := 14

def padded (width : Nat) (text : String) : String :=
  text ++ Text.repeated (width - text.length) " "

def keyValue (c : Console) (key value : String) : Console :=
  c.unlessQuiet (·.printLine
    ("  " ++ Style.dimmed.apply (padded keyWidth (key ++ ":")) ++ " " ++ value))

/-- A title over a rule of the same length. -/
def header (c : Console) (title : String) : Console :=
  c.unlessQuiet fun c =>
    ((c.printLine "").printLine (Style.bold.apply title)).printLine
      (Text.repeated title.length "─")

end Console

end AppScaffold.Terminal
