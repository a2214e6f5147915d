import AppScaffold.Host.Shell.Printing
import AppScaffold.Host.Shell.State
import AppScaffold.Host.Shell.Test

/-!
# Commands of the shell

The commands that the shell carries out itself and that start nothing else.
-/

set_option autoImplicit false

namespace AppScaffold.Host.Shell.State

def count? (s : String) : Option Nat :=
  let cs := s.toList
  let n := cs.foldl (fun n d => n * 10 + (d.toNat - '0'.toNat)) 0
  if cs.isEmpty || !cs.all Char.isDigit || 0x7FFFFFFF < n then none else some n

def counted (s : State) (command : String) (usual : Nat) (args : List String)
    (f : Nat → Step) : Step :=
  match args with
  | [] => f usual
  | a :: _ =>
    match count? a with
    | some n => f n
    | none => s.fail (command ++ ": Illegal number: " ++ a)

def signals : List (String × Nat) := [
  ("HUP", 1), ("INT", 2), ("QUIT", 3), ("ILL", 4), ("TRAP", 5), ("ABRT", 6), ("BUS", 7),
  ("FPE", 8), ("KILL", 9), ("USR1", 10), ("SEGV", 11), ("USR2", 12), ("PIPE", 13), ("ALRM", 14),
  ("TERM", 15), ("CHLD", 17), ("CONT", 18), ("URG", 23), ("WINCH", 28)]

/-- Signals that nobody notices. -/
def idleSignals : List Nat := [0, 17, 18, 23, 28]

def signal? (s : String) : Option Nat :=
  match count? s with
  | some n => if n < 65 then some n else none
  | none => signals.lookup s.toUpper

def signalText (signal : Nat) : Option String :=
  [(1, "Hangup"), (3, "Quit"), (4, "Illegal instruction"), (5, "Trace/breakpoint trap"),
    (6, "Aborted"), (7, "Bus error"), (8, "Floating point exception"), (9, "Killed"),
    (10, "User defined signal 1"), (11, "Segmentation fault"), (12, "User defined signal 2"),
    (14, "Alarm clock"), (15, "Terminated")].lookup signal

def killUsage : String :=
  "kill: Usage: kill [-s sigspec | -signum | -sigspec] [pid | job]... or\nkill -l [exitstatus]"

/-- What a signal to the script does: nothing if it is ignored, and an action may wait for it. -/
def receive (s : State) (signal : Nat) : Step :=
  match if signal == 9 then none else s.traps.lookup signal with
  | some "" => s.withStatus 0
  | some _ => { s with pending := s.pending ++ [signal] }.withStatus 0
  | none => if idleSignals.contains signal then s.withStatus 0 else (s, .killed signal)

/-- Sends a signal to processes; all but the script itself are out of reach. -/
def sendSignal (s : State) (signal : Nat) : List String → Step
  | [] => (s, .goOn)
  | target :: rest =>
    match count? target with
    | none =>
      s.refuse ("kill: " ++ match target.toList with
        | '%' :: _ => "No such job: " ++ target
        | '-' :: rest => "Illegal number: " ++ String.ofList rest
        | _ => "Illegal number: " ++ target)
    | some n =>
      if n == processId then
        match s.receive signal with
        | (s, .goOn) => s.sendSignal signal rest
        | stopped => stopped
      else ((s.complain "kill: No such process\n").withStatus 1).1.sendSignal signal rest

def listSignals (s : State) (args : List String) : Step :=
  match args with
  | [] => (s.print (String.join ("0\n" :: signals.map (·.1 ++ "\n")))).withStatus 0
  | a :: _ =>
    match count? a with
    | none => s.refuse ("kill: Illegal number: " ++ a)
    | some n =>
      match signals.find? (·.2 == if 128 < n then n - 128 else n) with
      | some (name, _) => (s.print (name ++ "\n")).withStatus 0
      | none => s.refuse ("kill: invalid signal number or exit status: " ++ a)

def kill (s : State) (args : List String) : Step :=
  let send (signal : Nat) (targets : List String) : Step :=
    if targets.isEmpty then s.refuse killUsage else (s.withStatus 0).1.sendSignal signal targets
  let named (name : String) (targets : List String) : Step :=
    match signal? name with
    | some n => send n targets
    | none => s.refuse ("kill: invalid signal number or name: " ++ name)
  match args with
  | [] => s.refuse killUsage
  | a :: rest =>
    match a.toList with
    | '-' :: name =>
      match signal? (.ofList name), name with
      | some n, _ => send n rest
      | none, ['-'] => send 15 rest
      | none, ['l'] => s.listSignals rest
      | none, ['s'] =>
        match rest with
        | [] => s.refuse "kill: No arg for -s option"
        | name :: rest => named name rest
      | none, 's' :: name => named (.ofList name) rest
      | none, c :: _ => s.refuse ("kill: Illegal option -" ++ String.singleton c)
      | none, [] => s.refuse "kill: Illegal number: -"
    | _ => send 15 args

/-- The next line of a text, the text after it, and whether a line end closes it. A backslash takes
the meaning off the next character unless `raw` holds; the flags say which characters lost it. -/
def cutLine (raw : Bool) : List Char → List (Char × Bool) × List Char × Bool
  | [] => ([], [], false)
  | '\n' :: rest => ([], rest, true)
  | c :: rest =>
    let push (c : Char) (quoted : Bool) (read : List (Char × Bool) × List Char × Bool) :=
      ((c, quoted) :: read.1, read.2)
    if c == '\\' && !raw then
      match rest with
      | [] => ([], [], false)
      | '\n' :: rest => cutLine raw rest
      | d :: rest => push d true (cutLine raw rest)
    else push c false (cutLine raw rest)

/-- Gives the fields of a line to names; the last name takes what is left. Blanks count together,
other separators each for itself. -/
def giveFields (separators : List Char) : List String → List (Char × Bool) → List (String × String)
  | [], _ => []
  | names, cs =>
    let isBlank (c : Char × Bool) : Bool :=
      !c.2 && separators.contains c.1 && (c.1 == ' ' || c.1 == '\t' || c.1 == '\n')
    let separates (c : Char × Bool) : Bool := !c.2 && separators.contains c.1
    let text (cs : List (Char × Bool)) : String := .ofList (cs.map (·.1))
    let cs := cs.dropWhile isBlank
    match names with
    | [] => []
    | [name] => [(name, text (cs.reverse.dropWhile isBlank).reverse)]
    | name :: names =>
      let field := cs.takeWhile (!separates ·)
      let rest := (cs.drop field.length).dropWhile isBlank
      let rest := match rest with
        | c :: rest => if separates c then rest else c :: rest
        | [] => []
      (name, text field) :: giveFields separators names rest

def namesToRead : List String → Bool × List String
  | "-p" :: _ :: rest => namesToRead rest
  | "--" :: rest => (false, rest)
  | a :: rest =>
    if Text.startsWith a "-" then
      let (raw, names) := namesToRead rest
      (raw || a.toList.contains 'r', names)
    else (false, a :: rest)
  | [] => (false, [])

def read (s : State) (args : List String) : Step :=
  let (raw, names) := namesToRead args
  if names.isEmpty then s.refuse "read: arg count"
  else
    let (line, rest, closed) := cutLine raw (Text.decodeLossy s.input).toList
    let s := { s with input := (String.ofList rest).toUTF8 }
    match names.find? (!isName ·), s.fixed? names with
    | some name, _ => s.refuse ("read: " ++ name ++ ": bad variable name")
    | none, some name => s.refuse ("read: " ++ name ++ ": is read only")
    | none, none =>
      let s := (giveFields s.separators names line).foldl (fun s v => s.assign v.1 v.2) s
      s.withStatus (if closed then 0 else 1)

def declare (s : State) (command : String) (mark : State → String → State) : List String → Step
  | [] => s.withStatus 0
  | a :: rest =>
    let (name, value) := match Text.cut? '=' a.toList with
      | some (name, value) => (String.ofList name, some (String.ofList value))
      | none => (a, none)
    if !isName name then s.fail (command ++ ": " ++ name ++ ": bad variable name")
    else
      match value with
      | none => (mark s name).declare command mark rest
      | some value =>
        if s.fixed.contains name then s.fail (command ++ ": " ++ name ++ ": is read only")
        else ((mark s name).assign name value).declare command mark rest

def inQuotes (text : String) : String :=
  "'" ++ String.join (text.toList.map fun c => if c == '\'' then "'\"'\"'" else .singleton c) ++ "'"

/-- Prints names and values the way a script would set them. -/
def listNames (s : State) (command : String) (names : List String) : Step :=
  let names := names.eraseDups.mergeSort fun a b => decide (a ≤ b)
  let lines := names.map fun name =>
    command ++ " " ++ name ++ (match s.values.get? name with
      | some value => "=" ++ inQuotes value
      | none => "") ++ "\n"
  (s.print (String.join lines)).withStatus 0

def export_ (s : State) (args : List String) : Step :=
  match args.filter (· != "-p") with
  | [] => s.listNames "export" s.exported
  | names => s.declare "export" (fun s name => { s with exported := name :: s.exported }) names

/-- Marks names as keeping their values. -/
def fix (s : State) (args : List String) : Step :=
  match args.filter (· != "-p") with
  | [] => s.listNames "readonly" s.fixed
  | names => s.declare "readonly" (fun s name => { s with fixed := name :: s.fixed }) names

/-- Marks names as belonging to the function that is being carried out. -/
def local_ (s : State) (args : List String) : Step :=
  match s.saved with
  | none => s.fail "local: not in a function"
  | some _ => s.declare "local" (fun s name =>
      { s with saved := s.saved.map fun vs =>
          if vs.any (·.1 == name) then vs else (name, s.values.get? name) :: vs }) args

def unset (s : State) (args : List String) : Step :=
  let names := args.filter fun a => a != "-v" && a != "-f" && a != "--"
  if args.head? == some "-f" then
    { s with functions := s.functions.filter fun f => !names.contains f.1 }.withStatus 0
  else
    match names.find? (!isName ·), s.fixed? names with
    | some name, _ => s.fail ("unset: " ++ name ++ ": bad variable name")
    | none, some name => s.fail ("unset: " ++ name ++ ": is read only")
    | none, none => (names.foldl unassign s).withStatus 0

def changeDir (s : State) (args : List String) : Step :=
  let target := match args with
    | [] => s.parameter "HOME"
    | "-" :: _ => (s.parameter? "OLDPWD").getD "/"
    | a :: _ => a
  if target.isEmpty then s.withStatus 0
  else
    match s.files.find true target with
    | .ok ⟨location, some (.dir _), _⟩ =>
      let before := s.workingPath
      let s := { s with files := { s.files with workingDir := location } }.assign "OLDPWD" before
      (if args.head? == some "-" then s.print (s.workingPath ++ "\n") else s).withStatus 0
    | _ => s.refuse ("cd: can't cd to " ++ target)

def optionNames : List (String × Char) := [
  ("allexport", 'a'), ("errexit", 'e'), ("noclobber", 'C'), ("noexec", 'n'), ("noglob", 'f'),
  ("nounset", 'u'), ("verbose", 'v'), ("xtrace", 'x'), ("ignoreeof", 'I'), ("interactive", 'i'),
  ("monitor", 'm'), ("stdin", 's'), ("vi", 'V'), ("emacs", 'E'), ("notify", 'b'), ("nolog", 'l'),
  ("debug", 'd')]

/-- More options, which only one dialect has. -/
def extendedNames : List (String × Char) := [
  ("pipefail", 'P'), ("posix", 'y'), ("errtrace", 'E'), ("functrace", 'T'), ("braceexpand", 'B'),
  ("hashall", 'h'), ("histexpand", 'H'), ("keyword", 'k'), ("privileged", 'p'), ("onecmd", 't')]

def knownOptions (s : State) : List (String × Char) :=
  match s.dialect with
  | .plain => optionNames
  | .extended => optionNames ++ extendedNames

/-- Switches an option of the script on or off; most of them change nothing here. -/
def switch (s : State) (on : Bool) (letter : Char) : State :=
  if letter == 'e' then { s with stopsOnError := on }
  else if letter == 'u' then { s with stopsOnMissing := on }
  else if letter == 'x' then { s with traces := on }
  else if letter == 'f' then { s with plainNames := on }
  else if letter == 'P' then { s with countsAllOfPipe := on }
  else s

def switchAll (s : State) (on : Bool) (letters : List Char) : Except String State :=
  match letters.find? fun c => !s.knownOptions.any (·.2 == c) with
  | some c => .error ("Illegal option -" ++ String.singleton c)
  | none => .ok (letters.foldl (fun s c => s.switch on c) s)

def switchNamed (s : State) (on : Bool) (name : String) : Except String State :=
  match s.knownOptions.lookup name with
  | some c => .ok (s.switch on c)
  | none => .error ("Illegal option -o " ++ name)

/-- Options of the script, and what stands behind them, if anything does. The letter `o` has the
name of an option follow. -/
def readOptions (s : State) : List String → Except String (State × Option (List String))
  | [] => .ok (s, none)
  | "--" :: rest => .ok (s, some rest)
  | "-" :: rest => .ok (s, if rest.isEmpty then none else some rest)
  | a :: rest =>
    match a.toList with
    | sign :: cs =>
      if sign != '-' && sign != '+' then .ok (s, some (a :: rest))
      else
        match s.switchAll (sign == '-') (cs.filter (· != 'o')), cs.contains 'o', rest with
        | .error e, _, _ => .error e
        | .ok s, true, name :: rest =>
          match s.switchNamed (sign == '-') name with
          | .ok s => s.readOptions rest
          | .error e => .error e
        | .ok s, _, rest => s.readOptions rest
    | [] => .ok (s, some (a :: rest))

def setOptions (s : State) (args : List String) : Step :=
  match s.readOptions args with
  | .ok (s, none) => s.withStatus 0
  | .ok (s, some arguments) => { s with arguments := arguments }.withStatus 0
  | .error message => s.fail ("set: " ++ message)

/-- Has an action wait for signals, or nothing; 0 is the end of the script. -/
def setTraps (s : State) (action : Option String) : List String → Step
  | [] => s.withStatus 0
  | name :: rest =>
    match if name.toUpper == "EXIT" then some 0 else signal? name with
    | none => (s.emit 2 ("trap: " ++ name ++ ": bad trap\n").toUTF8).withStatus 1
    | some n =>
      let others := s.traps.filter (·.1 != n)
      let traps := match action with
        | none => others
        | some text => if text == "-" then others else (n, text) :: others
      State.setTraps { s with traps := traps } action rest

def listTraps (s : State) : Step :=
  let line (t : Nat × String) : String :=
    let name := if t.1 == 0 then "EXIT"
      else ((signals.find? (·.2 == t.1)).map (·.1)).getD (Nat.repr t.1)
    "trap -- " ++ inQuotes t.2 ++ " " ++ name ++ "\n"
  let sorted := s.traps.mergeSort fun a b => decide (a.1 ≤ b.1)
  (s.print (String.join (sorted.map line))).withStatus 0

/-- A first argument that is a number is no action. -/
def trap (s : State) (args : List String) : Step :=
  match args with
  | [] => s.listTraps
  | [_] => s.setTraps none args
  | action :: names =>
    if (count? action).isSome then s.setTraps none args else s.setTraps (some action) names

def test (s : State) (command : String) (args : List String) : Step :=
  match Test.holds s.files args with
  | .ok b => s.withStatus (if b then 0 else 1)
  | .error f => s.refuse (command ++ ": " ++ f.message)

def print_ (s : State) (args : List String) : Step :=
  let args := match args with
    | "--" :: rest => rest
    | args => args
  match args with
  | [] => s.refuse "printf: usage: printf format [arg ...]"
  | format :: args =>
    let printed := printf (args.length + 1) format args
    let s := s.emit 1 printed.bytes
    let s := printed.complaints.foldl (fun s c => s.complain ("printf: " ++ c)) s
    s.withStatus (if printed.failed then 2 else if printed.complaints.isEmpty then 0 else 1)

def builtinNames : List String := specialNames ++ [
  "[", "alias", "bg", "cd", "chdir", "command", "echo", "false", "fg", "getopts", "hash", "jobs",
  "kill", "local", "printf", "pwd", "read", "test", "true", "type", "ulimit", "umask", "unalias",
  "wait"]

/-- What a name stands for at the start of a command, in words. -/
def describe (s : State) (name : String) : String × Bool :=
  if reservedWords.contains name then (name ++ " is a shell keyword", true)
  else if (s.functions.lookup name).isSome then (name ++ " is a shell function", true)
  else if specialNames.contains name then (name ++ " is a special shell builtin", true)
  else if builtinNames.contains name then (name ++ " is a shell builtin", true)
  else
    match s.files.which? s.values name with
    | some path => (name ++ " is " ++ path, true)
    | none => (name ++ ": not found", false)

def describeAll (s : State) (names : List String) : Step :=
  let texts := names.map s.describe
  (s.print (String.join (texts.map (·.1 ++ "\n")))).withStatus
    (if texts.all (·.2) then 0 else 127)

def locate (s : State) (name : String) : Step :=
  if reservedWords.contains name || builtinNames.contains name ||
      (s.functions.lookup name).isSome then
    (s.print (name ++ "\n")).withStatus 0
  else
    match s.files.which? s.values name with
    | some path => (s.print (path ++ "\n")).withStatus 0
    | none => s.withStatus 127

def leaveLoops (s : State) (command : String) (args : List String) (flow : Nat → Flow) : Step :=
  s.counted command 1 args fun n =>
    if n == 0 then s.fail (command ++ ": Illegal number: 0")
    else if s.loops == 0 then s.withStatus 0
    else ({ s with status := 0 }, flow (min n s.loops))

/-- What the shell does for a command by itself. -/
def builtin? (s : State) (words : List String) : Option Step :=
  match words with
  | ":" :: _ => some (s.withStatus 0)
  | "true" :: _ => some (s.withStatus 0)
  | "false" :: _ => some (s.withStatus 1)
  | "echo" :: args =>
    let bytes := match s.dialect with
      | .plain => plainEcho args
      | .extended => extendedEcho args
    some ((s.emit 1 bytes).withStatus 0)
  | "printf" :: args => some (s.print_ args)
  | "test" :: args => some (s.test "test" args)
  | "[" :: args =>
    some (if args.getLast? == some "]" then s.test "[" args.dropLast
      else s.refuse ("[: " ++ TestFault.missingBracket.message))
  | "shift" :: args => some (s.counted "shift" 1 args fun n =>
    if s.arguments.length < n then s.fail "shift: can't shift that many"
    else { s with arguments := s.arguments.drop n }.withStatus 0)
  | "kill" :: args => some (s.kill args)
  | "exit" :: args => some (s.counted "exit" s.status args fun n =>
    ({ s with status := n % 256 }, .exit))
  | "return" :: args => some (s.counted "return" s.status args fun n =>
    ({ s with status := n % 256 }, .return))
  | "break" :: args => some (s.leaveLoops "break" args .leave)
  | "continue" :: args => some (s.leaveLoops "continue" args .again)
  | "pwd" :: _ => some ((s.print (s.workingPath ++ "\n")).withStatus 0)
  | "cd" :: args => some (s.changeDir (args.filter fun a => a != "--" && a != "-P" && a != "-L"))
  | "read" :: args => some (s.read args)
  | "export" :: args => some (s.export_ args)
  | "readonly" :: args => some (s.fix args)
  | "local" :: args => some (s.local_ args)
  | "unset" :: args => some (s.unset args)
  | "set" :: args => some (s.setOptions args)
  | "trap" :: args => some (s.trap (if args.head? == some "--" then args.drop 1 else args))
  | "umask" :: [] => some ((s.print "0022\n").withStatus 0)
  | "umask" :: mode :: _ =>
    some (if mode == "-S" then (s.print "u=rwx,g=rx,o=rx\n").withStatus 0
      else if mode.toList.all isOctal then s.withStatus 0
      else s.refuse ("umask: Illegal mode: " ++ mode))
  | "hash" :: names =>
    let missing := names.filter fun n => n != "-r" && !(s.describe n).2
    let said := missing.foldl (fun s n => s.complain ("hash: " ++ n ++ ": not found")) s
    some (said.withStatus (if missing.isEmpty then 0 else 1))
  | "wait" :: jobs => some (s.withStatus (if jobs.isEmpty then 0 else 127))
  | name :: _ =>
    if ["alias", "getopts", "jobs", "times", "ulimit", "unalias"].contains name then
      some (s.withStatus 0)
    else none
  | [] => none

end AppScaffold.Host.Shell.State
