import AppScaffold.Health.Report
import AppScaffold.Host.Process
import AppScaffold.Text.Space

/-!
# Health checks

Checks of programs and directories. A check may leave traces in the files, such as a directory
that it made.
-/

set_option autoImplicit false

namespace AppScaffold.Health

open Host (Files Environment Launcher Path.join)

abbrev Check := StateM Files CheckResult

/-- What a program says about its version: the first line of its output. -/
def versionText (f : Host.Finished) : String :=
  Text.trimmed ((Text.lines f.combined).head?.getD "")

/-- Whether a program is there. One that is `required` and missing is unhealthy, one that is not
required degrades only. With an argument the program is asked for its version. -/
def commandCheck (launcher : Launcher) (env : Environment) (command : String)
    (versionArgument : Option String) (required : Bool) : Check := do
  match (← get).which? env command with
  | none =>
    return if required then
      { name := command, status := .unhealthy, message := some (command ++ " is not installed") }
    else
      { name := command
        status := .degraded
        message := some (command ++ " is not installed (optional)") }
  | some path =>
    let found := ({ name := command, status := .healthy } : CheckResult).withDetail "path" path
    match versionArgument with
    | none => return found
    | some argument =>
      let (result, fs) := launcher.run (← get) env command [argument]
      set fs
      match result with
      | .ok finished =>
        return if finished.success then found.withDetail "version" (versionText finished) else found
      | .error _ => return found

/-- Whether a directory is there or can be made, and takes a file named `probe`. -/
def directoryCheck (path probe : String) : Check := do
  let name := "dir:" ++ path
  let unhealthy (message : String) : CheckResult :=
    { name := name, status := .unhealthy, message := some message }
  let (made, fs) := (← get).createDirs path
  set fs
  match made with
  | .error f => return unhealthy ("Cannot create directory: " ++ f.message)
  | .ok () =>
    let file := Path.join path probe
    match fs.write file "ok".toUTF8 with
    | .error f => return unhealthy ("Directory is not writable: " ++ f.message)
    | .ok fs =>
      set ((fs.removeFile file).toOption.getD fs)
      return ({ name := name, status := .healthy } : CheckResult).withDetail "path" path

def probeName (unique : String) : String := ".zeroapp-probe-" ++ unique

/-- What building needs: the key tool, if it is there, and directories to write to. -/
def builderChecks (launcher : Launcher) (env : Environment) (unique : String) (dirs : List String) :
    List Check :=
  commandCheck launcher env "keytool" none false ::
    dirs.map fun dir => directoryCheck dir (probeName unique)

def runChecks : List Check → StateM Files (List CheckResult)
  | [] => return []
  | check :: rest => do
    let result ← check
    return result :: (← runChecks rest)

end AppScaffold.Health
