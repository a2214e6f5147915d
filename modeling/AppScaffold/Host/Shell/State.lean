import AppScaffold.Host.Process
import AppScaffold.Host.Shell.Command
import AppScaffold.Host.Shell.Glob

/-!
# The state of a shell

What a running script knows and has said, where its output goes, and how parameters become values
and the fields of a command.
-/

set_option autoImplicit false

namespace AppScaffold.Host.Shell

/-- Where output goes: into one of the texts that are being collected, into a file or nowhere. -/
inductive Sink where
  | collected (index : Nat)
  | file (path : String)
  | nowhere
deriving DecidableEq, Repr, Inhabited

/-- Shells differ in a few messages and in what `echo` does. -/
inductive Dialect where
  | plain
  | extended
deriving DecidableEq, Repr, Inhabited

structure State where
  files : Files
  dialect : Dialect := .plain
  name : String
  arguments : List String
  values : Environment
  exported : List String
  functions : List (String × Command) := []
  /-- Variables that keep their value. -/
  fixed : List String := []
  /-- In a function, the variables that get their old value back after it. -/
  saved : Option (List (String × Option String)) := none
  status : Nat := 0
  /-- The status of the last script whose output became a value. -/
  outputStatus : Nat := 0
  loops : Nat := 0
  line : Nat := 1
  sinks : List (Nat × Sink) := [(1, .collected 0), (2, .collected 1)]
  input : ByteArray := .empty
  /-- The texts that are being collected: output, errors, then what goes from one command to
  another. -/
  collected : List ByteArray := [.empty, .empty]
  stopsOnError : Bool := false
  stopsOnMissing : Bool := false
  traces : Bool := false
  /-- A command that feeds another one and fails makes both fail. -/
  countsAllOfPipe : Bool := false
  /-- Words are no patterns for the names of files. -/
  plainNames : Bool := false
  /-- What is carried out at the end, by 0, and when a signal comes, by its number. -/
  traps : List (Nat × String) := []
  /-- Signals whose actions wait for the end of a command. -/
  pending : List Nat := []

/-- How a script goes on after a command. -/
inductive Flow where
  | goOn
  | exit
  | killed (signal : Nat)
  | leave (loops : Nat)
  /-- Leaves all but the last of so many loops and goes on with that. -/
  | again (loops : Nat)
  | return
deriving DecidableEq, Repr, Inhabited

abbrev Step := State × Flow

namespace State

def withStatus (s : State) (status : Nat) : Step := ({ s with status := status }, .goOn)

/-! ## Output -/

def emitTo (s : State) (sink : Sink) (bytes : ByteArray) : State :=
  match sink with
  | .collected n => { s with collected := s.collected.modify n (· ++ bytes) }
  | .nowhere => s
  | .file path =>
    match s.files.read path with
    | .ok old =>
      match s.files.write path (old ++ bytes) with
      | .ok fs => { s with files := fs }
      | .error _ => s
    | .error _ => s

def emit (s : State) (descriptor : Nat) (bytes : ByteArray) : State :=
  s.emitTo ((s.sinks.lookup descriptor).getD .nowhere) bytes

def print (s : State) (text : String) : State := s.emit 1 text.toUTF8

def complain (s : State) (message : String) : State :=
  let place := match s.dialect with
    | .plain => ": " ++ Nat.repr s.line ++ ": "
    | .extended => ": line " ++ Nat.repr s.line ++ ": "
  s.emit 2 (s.name ++ place ++ message ++ "\n").toUTF8

/-- A message after which the script does not go on. -/
def fail (s : State) (message : String) : Step :=
  ({ s.complain message with status := 2 }, .exit)

/-- A message of a command that only fails itself. -/
def refuse (s : State) (message : String) : Step := (s.complain message).withStatus 2

/-- The state after commands that concern nobody else: what they wrote and read, and their
status. -/
def after (s inner : State) : State :=
  { s with
    files := { inner.files with workingDir := s.files.workingDir }
    input := inner.input
    collected := inner.collected
    status := inner.status }

def openText (s : State) : State × Nat :=
  ({ s with collected := s.collected ++ [.empty] }, s.collected.length)

def closeText (s : State) : State × ByteArray :=
  ({ s with collected := s.collected.dropLast }, (s.collected.getLast?).getD .empty)

/-! ## Parameters -/

def processId : Nat := 4242

def workingPath (s : State) : String := "/" ++ Text.joinWith "/" s.files.workingDir

/-- The value of a parameter; all arguments are one text here. -/
def parameter? (s : State) (name : String) : Option String :=
  match name with
  | "#" => some (Nat.repr s.arguments.length)
  | "?" => some (Nat.repr s.status)
  | "$" => some (Nat.repr processId)
  | "0" => some s.name
  | "-" => some ((if s.stopsOnError then "e" else "") ++ (if s.traces then "x" else "") ++
      if s.stopsOnMissing then "u" else "")
  | "!" => none
  | "@" | "*" =>
    let separator := ((s.values.get? "IFS").getD " ").toList.take 1
    if s.arguments.isEmpty then none
    else some (Text.joinWith (String.ofList separator) s.arguments)
  | _ =>
    match name.toNat? with
    | some n => s.arguments[n - 1]?
    | none =>
      match s.values.get? name with
      | some value => some value
      | none =>
        match name with
        | "PWD" => some s.workingPath
        | "IFS" => some " \t\n"
        | "OPTIND" => some "1"
        | _ => none

def parameter (s : State) (name : String) : String := (s.parameter? name).getD ""

def assign (s : State) (name value : String) : State :=
  { s with values := s.values.set name value }

def unassign (s : State) (name : String) : State :=
  { s with values := s.values.filter (·.1 != name) }

def fixed? (s : State) (names : List String) : Option String := names.find? s.fixed.contains

/-- Gives the values that belong to a function their old values back. -/
def restore (s : State) (outside : Option (List (String × Option String))) : State :=
  let back := (s.saved.getD []).foldl (fun (s : State) v =>
    match v.2 with
    | some value => s.assign v.1 value
    | none => s.unassign v.1) s
  { back with saved := outside }

def environment (s : State) : Environment := s.values.filter fun v => s.exported.contains v.1

/-! ## Fields -/

/-- A part of a word once its value is known. What is not quoted may be a pattern. -/
inductive Part where
  | literal (cs : List Char) (quoted : Bool)
  /-- A value, which is split into fields unless it is quoted. -/
  | value (cs : List Char) (quoted : Bool)
  | arguments (quoted : Bool)
deriving Repr, Inhabited

/-- What stands in braces behind a parameter is split like a value. -/
def Part.asValue : Part → Part
  | .literal cs false => .value cs false
  | p => p

/-- Fields being put together: the finished ones, and the open one if there is one. -/
abbrev Fields := List Glob.Source × Option Glob.Source

def Fields.append (f : Fields) (text : Glob.Source) : Fields := (f.1, some (f.2.getD [] ++ text))

def Fields.close (f : Fields) : Fields :=
  match f.2 with
  | some open_ => (f.1 ++ [open_], none)
  | none => f

/-- Adds text that is split at the characters of a set, of which blanks count together. -/
def Fields.split (separators : List Char) (f : Fields) (text : List Char) : Fields :=
  text.foldl (fun f c =>
    if !separators.contains c then f.append [(c, false)]
    else if isGap c then f.close
    else (f.append []).close) f
where
  isGap (c : Char) : Bool := c == ' ' || c == '\t' || c == '\n'

def quote (text : String) : Glob.Source := text.toList.map (·, true)

/-- Adds texts that stay fields of their own. -/
def Fields.spread (f : Fields) : List String → Fields
  | [] => f
  | [a] => f.append (quote a)
  | a :: rest => Fields.spread (f.append (quote a)).close rest

def separators (s : State) : List Char := (s.parameter "IFS").toList

/-- The fields that the parts of a word come to. Where all arguments stand alone in quotes and
there are none, there is no field. -/
def fields (s : State) (parts : List Part) : List String :=
  match parts with
  | [.literal [] true, .arguments true] => s.arguments
  | parts =>
    let f := parts.foldl (fun (f : Fields) (p : Part) =>
      match p with
      | .literal cs quoted => f.append (cs.map (·, quoted))
      | .value cs true => f.append (cs.map (·, true))
      | .value cs false => f.split s.separators cs
      | .arguments true => f.spread s.arguments
      | .arguments false =>
        s.arguments.foldl (fun f a => Fields.close (f.split s.separators a.toList)) f) ([], none)
    f.close.1.flatMap fun field =>
      if s.plainNames then [Glob.text field] else Glob.paths s.files field

def allArguments (s : State) : String :=
  Text.joinWith (String.ofList (s.separators.take 1)) s.arguments

def pattern (s : State) (parts : List Part) : Glob.Source :=
  parts.flatMap fun p => match p with
    | .literal cs quoted => cs.map (·, quoted)
    | .value cs quoted => cs.map (·, quoted)
    | .arguments quoted => s.allArguments.toList.map (·, quoted)

def text (s : State) (parts : List Part) : String := Glob.text (s.pattern parts)

/-! ## Redirections -/

def creationText (f : Failure) : String :=
  match f with
  | .system e =>
    if e == .notFound || e == .notDirectory then "Directory nonexistent" else e.text
  | f => f.message

def openingText (f : Failure) : String :=
  match f with
  | .system e => if e == .notFound || e == .notDirectory then "No such file" else e.text
  | f => f.message

def withSink (s : State) (descriptor : Nat) (sink : Sink) : State :=
  { s with sinks := (descriptor, sink) :: s.sinks.filter (·.1 != descriptor) }

/-- The device that takes everything and gives nothing. -/
def emptyDevice : String := "/dev/null"

/-- Sends a descriptor to a file; the flag says whether that could be done. -/
def openOutput (s : State) (descriptor : Nat) (append : Bool) (path : String) : State × Bool :=
  if path == emptyDevice then (s.withSink descriptor .nowhere, true)
  else if path == "/dev/stdout" then
    (s.withSink descriptor ((s.sinks.lookup 1).getD .nowhere), true)
  else if path == "/dev/stderr" then
    (s.withSink descriptor ((s.sinks.lookup 2).getD .nowhere), true)
  else
    let kept := if append then (s.files.read path).toOption.getD .empty else .empty
    match s.files.write path kept with
    | .ok fs => (({ s with files := fs } : State).withSink descriptor (.file path), true)
    | .error f => (s.complain ("cannot create " ++ path ++ ": " ++ creationText f), false)

def openInput (s : State) (path : String) : State × Bool :=
  if path == emptyDevice then ({ s with input := .empty }, true)
  else
    match s.files.read path with
    | .ok contents => ({ s with input := contents }, true)
    | .error f => (s.complain ("cannot open " ++ path ++ ": " ++ openingText f), false)

/-- Sends a descriptor where another one leads; none if the text names no descriptor. -/
def joinDescriptor (s : State) (descriptor : Nat) (source : String) : Option (State × Bool) :=
  if source == "-" then some (s.withSink descriptor .nowhere, true)
  else
    match source.toList with
    | [c] =>
      if !c.isDigit then none
      else if c == '0' then some (s, true)
      else
        match s.sinks.lookup (c.toNat - '0'.toNat) with
        | some sink => some (s.withSink descriptor sink, true)
        | none => some (s.complain (source ++ ": Bad file descriptor"), false)
    | _ => none

end State

end AppScaffold.Host.Shell
