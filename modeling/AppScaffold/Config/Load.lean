import AppScaffold.Config.Reading
import AppScaffold.Host.Files

/-!
# Loading settings

Settings from a file that is named, or from the first of the usual files that is there, or the
usual settings. The environment has the last word on the port.
-/

set_option autoImplicit false

namespace AppScaffold.Config

open Host (Environment Files)
open Report (Error)

structure Loaded where
  settings : Settings
  path : Option String := none
deriving DecidableEq, Repr, Inhabited

/-- The files that are looked for, the first choice first. -/
def usualFiles : List String := [".zeroapp.toml", "zeroapp.toml", ".config/zeroapp.toml"]

def Settings.ofFile (fs : Files) (env : Environment) (path : String) : Except Error Settings := do
  let text ← (fs.readText path).mapError fun f =>
    f.toError.withContext ("Failed to read config file " ++ path)
  (Settings.ofText env text).mapError (·.withContext ("Failed to parse config file " ++ path))

/-- Loads settings; a file that is named has to be there. -/
def load (fs : Files) (env : Environment) (named : Option String) : Except Error Loaded := do
  let path ← match named with
    | some p => if fs.exists? p then pure (some p) else throw (.configNotFound p)
    | none => pure (usualFiles.find? fs.exists?)
  let settings ← match path with
    | some p => Settings.ofFile fs env p
    | none => pure (.usual env)
  return ⟨← settings.withPort env, path⟩

end AppScaffold.Config
