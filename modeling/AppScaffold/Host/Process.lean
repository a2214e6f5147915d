import AppScaffold.Host.Environment
import AppScaffold.Host.Files
import AppScaffold.Text.Utf8

/-!
# Running programs

What a program leaves behind when it ends, where programs are looked for, and the type of
whatever runs them. Nothing here says what any program does.
-/

set_option autoImplicit false

namespace AppScaffold.Host

/-- How a program ended: by itself with a status, or by a signal. -/
inductive Ending where
  | exited (status : Nat)
  | killed (signal : Nat)
deriving DecidableEq, Repr, Inhabited

structure Finished where
  ending : Ending := .exited 0
  output : ByteArray := .empty
  errors : ByteArray := .empty
deriving Inhabited

namespace Finished

def success (f : Finished) : Bool := f.ending == .exited 0

/-- The exit status, and -1 after a signal. -/
def exitCode (f : Finished) : Int :=
  match f.ending with
  | .exited n => n
  | .killed _ => -1

def outputText (f : Finished) : String := Text.decodeLossy f.output

def errorText (f : Finished) : String := Text.decodeLossy f.errors

/-- Output and errors, on lines of their own if there are both. -/
def combined (f : Finished) : String :=
  if f.errorText.isEmpty then f.outputText
  else if f.outputText.isEmpty then f.errorText
  else f.outputText ++ "\n" ++ f.errorText

end Finished

/-- Whatever runs a program on files with variables and arguments. A program that cannot be
started is a system error; one that ran may have changed the files. -/
abbrev Launcher := Files → Environment → String → List String → Except SystemError Finished × Files

/-- Runs a program whose name and arguments can be passed on. -/
def Launcher.run (launcher : Launcher) (fs : Files) (env : Environment) (program : String)
    (args : List String) : Except Failure Finished × Files :=
  if (program :: args).any (·.toList.contains '\x00') then (.error .nulInArgument, fs)
  else
    match launcher fs env program args with
    | (.ok finished, fs) => (.ok finished, fs)
    | (.error e, fs) => (.error (.system e), fs)

def startError (program : String) (f : Failure) : Report.Error :=
  { code := .processError
    message := "Failed to execute " ++ program ++ ": " ++ f.message
    sources := [f.message] }

namespace Files

def isExecutable (fs : Files) (path : String) : Bool :=
  match fs.node? path with
  | some (.file _ executable) => executable
  | _ => false

def absolute (fs : Files) (path : String) : String :=
  if Path.isAbsolute path then path
  else Path.join ("/" ++ Text.joinWith "/" fs.workingDir) path

/-- The path of a program: its own one if it names a directory, else the first one that is found
in the directories for programs. -/
def which? (fs : Files) (env : Environment) (program : String) : Option String :=
  if 1 < (Path.components program).length then
    let path := fs.absolute program
    if fs.isExecutable path then some path else none
  else (env.searchPath.map fun dir => Path.join dir program).find? fs.isExecutable

end Files

end AppScaffold.Host
