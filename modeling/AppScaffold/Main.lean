import AppScaffold.CommandLine.Run

/-!
# The program

Reads the files that the arguments name, runs the command on them, and writes what the command
changed. Other programs are not run from here, so a keystore is always a placeholder.
-/

set_option autoImplicit false

namespace AppScaffold.Main

open Host (Environment Files Launcher)

def variableNames : List String :=
  ["HOME", "PORT", "TMPDIR", "USER", CommandLine.configVariable, CommandLine.passwordVariable]

def readEnvironment : IO Environment :=
  variableNames.foldlM (fun (env : Environment) name => do
    match ← IO.getEnv name with
    | some value => return env.set name value
    | none => return env) []

def namedPaths (env : Environment) (args : List String) : List String :=
  let parts := args.flatMap fun a =>
    match Text.cut? '=' a.toList with
    | some (_, value) => [a, .ofList value]
    | none => [a]
  parts ++ (env.get? CommandLine.configVariable).toList ++ Config.usualFiles

def readFile (fs : Files) (path : String) : IO Files := do
  try
    let contents ← IO.FS.readBinFile path
    let fs := match Host.Path.parent? path with
      | some above => (fs.createDirs above).2
      | none => fs
    return (fs.write path contents).toOption.getD fs
  catch _ => return fs

partial def writeNew (old new : Host.Node) (path : String) : IO Unit := do
  match new with
  | .dir children =>
    IO.FS.createDirAll (if path.isEmpty then "/" else path)
    for (name, child) in children do
      writeNew ((old.at? [name]).getD Host.Node.emptyDir) child (path ++ "/" ++ name)
  | .file contents _ =>
    let known := match old with
      | .file before _ => before == contents
      | _ => false
    if !known then IO.FS.writeBinFile path contents
  | .link _ => pure ()

def noPrograms : Launcher := fun fs _ _ _ => (.error .notFound, fs)

def run (args : List String) : IO Nat := do
  let env ← readEnvironment
  let here := (← IO.currentDir).toString
  let start : Files := { workingDir := (Text.splitOn '/' here).filter (· != "") }
  let files ← (namedPaths env args).foldlM readFile (start.createDirs here).2
  let milliseconds ← IO.monoMsNow
  let unique := Text.hexDigits (← IO.rand 0x10000000 0xFFFFFFFF)
  let (status, session) := CommandLine.run
    { environment := env
      launcher := noPrograms
      stamp := ⟨milliseconds, .ofList unique⟩ } files args
  writeNew files.root session.files.root ""
  (← IO.getStdout).putStr session.console.output
  (← IO.getStderr).putStr session.console.errors
  return status

end AppScaffold.Main

def main (args : List String) : IO UInt32 := do
  return (← AppScaffold.Main.run args).toUInt32
