import AppScaffold.Host.Path
import AppScaffold.Keyed.Basic

/-!
# Environment variables

The variables that a program runs with, and what paths take from them.
-/

set_option autoImplicit false

namespace AppScaffold.Host

abbrev Environment := List (String × String)

namespace Environment

def get? (env : Environment) (name : String) : Option String := env.lookup name

def set (env : Environment) (name value : String) : Environment := Keyed.insert name value env

def unset (env : Environment) (name : String) : Environment := env.filter (·.1 != name)

def temporaryDir (env : Environment) : String := (env.get? "TMPDIR").getD "/tmp"

def searchPath (env : Environment) : List String :=
  match env.get? "PATH" with
  | some path => Text.splitOn ':' path
  | none => []

end Environment

end AppScaffold.Host
