import AppScaffold.Host.Shell.Builtin
import AppScaffold.Host.Tools

/-!
# Programs

The programs that a machine comes with, scripts, and what starting either of them does. The
contents of a file say whether it is a program, a script or neither.
-/

set_option autoImplicit false

namespace AppScaffold.Host

open Shell (Change Command Dialect Expression Flow Piece Redirect Script State Step Word)
open Shell.State (Part)

/-- What the file of a program starts with; its name follows. -/
def programMark : String := "\x7fELF"

def programFile (name : String) : Node := .file (programMark ++ name).toUTF8 true

def programNames : List String := ["bash", "dash", "env", "sh"] ++ Tools.byName.map (·.1)

/-- The directories of a machine on which nothing was done yet. -/
def systemTree : Node :=
  .dir [
    ("bin", .link "usr/bin"),
    ("home", .emptyDir),
    ("tmp", .emptyDir),
    ("usr", .dir [("bin", .dir ((Keyed.ofList (programNames.map fun n => (n, programFile n)))))])]

inductive Kind where
  | program (name : String)
  /-- A script, with its interpreter and an argument for that. -/
  | script (interpreter : String) (argument : Option String)
  | other

def isBlank (c : Char) : Bool := c == ' ' || c == '\t'

def kindOf (contents : ByteArray) : Kind :=
  let cs := (Text.decodeLossy contents).toList
  match Text.dropLiteral? programMark.toList cs, cs with
  | some name, _ => .program (.ofList name)
  | none, '#' :: '!' :: rest =>
    let line := ((rest.takeWhile (· != '\n')).dropWhile isBlank).reverse.dropWhile isBlank
    let line := line.reverse
    let interpreter := line.takeWhile (!isBlank ·)
    let argument := (line.dropWhile (!isBlank ·)).dropWhile isBlank
    if interpreter.isEmpty then .other
    else .script (.ofList interpreter) (if argument.isEmpty then none else some (.ofList argument))
  | none, _ => .other

/-- Where a program is looked for, the one to run first. -/
def candidates (env : Environment) (program : String) : List String :=
  if program.toList.contains '/' then [program]
  else if program.isEmpty then []
  else
    let dirs := match env.get? "PATH" with
      | some _ => env.searchPath
      | none => ["/bin", "/usr/bin"]
    dirs.map fun dir => Path.join dir program

def executable (fs : Files) (path : String) : Except SystemError ByteArray :=
  match fs.find true path with
  | .error (.system e) => .error e
  | .error _ => .error .invalidArgument
  | .ok found =>
    match found.node with
    | none => .error .notFound
    | some (.file contents true) => .ok contents
    | some _ => .error .accessDenied

/-- The first candidate that can be run. Of the errors, being denied one counts for more than what
is wrong with the last. -/
def firstExecutable (fs : Files) : SystemError → List String →
    Except SystemError (String × ByteArray)
  | e, [] => .error e
  | e, path :: rest =>
    match executable fs path with
    | .ok contents => .ok (path, contents)
    | .error found => firstExecutable fs (if e == .accessDenied then e else found) rest

/-- A program to start: its name or path, its arguments and its input. -/
structure Call where
  program : String
  args : List String
  input : ByteArray := .empty

def splitSettings (env : Environment) : List String → Environment × List String
  | [] => (env, [])
  | "-i" :: rest => splitSettings [] rest
  | "-u" :: name :: rest => splitSettings (env.filter (·.1 != name)) rest
  | "--" :: rest => splitSettings env rest
  | "-S" :: line :: rest =>
    (env, (Text.splitOn ' ' line).filter (· != "") ++ rest)
  | a :: rest =>
    match Text.cut? '=' a.toList with
    | some (name, value) => splitSettings (env.set (.ofList name) (.ofList value)) rest
    | none => (env, a :: rest)

/-- Whether the letter `c` is among the options, and the arguments without it. -/
def takeCommandOption : List String → Bool × List String
  | "-o" :: name :: rest =>
    let (found, rest) := takeCommandOption rest
    (found, "-o" :: name :: rest)
  | a :: rest =>
    match a.toList with
    | '-' :: c :: cs =>
      if c == '-' then (false, a :: rest)
      else
        let (found, rest) := takeCommandOption rest
        let others := (c :: cs).filter (· != 'c')
        (found || others.length ≤ cs.length,
          if others.isEmpty then rest else String.ofList ('-' :: others) :: rest)
    | _ => (false, a :: rest)
  | [] => (false, [])

/-- The bytes of a script's output as the value of a word: line ends behind it and NULs go. -/
def outputValue (bytes : ByteArray) : List Char :=
  let cs := (Text.decodeLossy bytes).toList.filter (· != '\x00')
  (cs.reverse.dropWhile (· == '\n')).reverse

def startMessage (s : State) (program : String) (e : SystemError) : String × Nat :=
  if program.isEmpty then (": Permission denied", 127)
  else if e == .accessDenied then (program ++ ": Permission denied", 126)
  else
    match s.dialect with
    | .plain => (program ++ ": not found", 127)
    | .extended =>
      (program ++ if program.toList.contains '/' then ": No such file or directory"
        else ": command not found", 127)

mutual

def launch (fuel : Nat) (fs : Files) (env : Environment) (call : Call) :
    Except SystemError Finished × Files :=
  match fuel with
  | 0 => (.error .tooManyLinks, fs)
  | fuel + 1 =>
    match firstExecutable fs .notFound (candidates env call.program) with
    | .error e => (.error e, fs)
    | .ok (path, contents) =>
      match kindOf contents with
      | .other => (.error .badExecutable, fs)
      | .script interpreter argument =>
        launch fuel fs env
          { call with program := interpreter, args := argument.toList ++ path :: call.args }
      | .program "env" =>
        let (settings, args) := splitSettings env call.args
        match args with
        | [] =>
          let text := String.join (settings.map fun v => v.1 ++ "=" ++ v.2 ++ "\n")
          (.ok { output := text.toUTF8 }, fs)
        | program :: args =>
          match launch fuel fs settings { call with program := program, args := args } with
          | (.error e, fs) =>
            let text := call.program ++ ": '" ++ program ++ "': " ++ e.text ++ "\n"
            let status := if e == .notFound then 127 else 126
            (.ok { ending := .exited status, errors := text.toUTF8 }, fs)
          | done => done
      | .program name =>
        match Tools.byName.lookup name with
        | some tool =>
          let (finished, fs) := tool ⟨call.program, fs, env, call.input, call.args⟩
          (.ok finished, fs)
        | none =>
          let dialect := if name == "bash" then Dialect.extended else .plain
          let (finished, fs) := runShell fuel fs env dialect call
          (.ok finished, fs)

def runShell (fuel : Nat) (fs : Files) (env : Environment) (dialect : Dialect) (call : Call) :
    Finished × Files :=
  match fuel with
  | 0 => ({ ending := .killed 9 }, fs)
  | fuel + 1 =>
    let initial : State :=
      { files := fs, dialect := dialect, name := call.program, arguments := [], values := env
        exported := env.map (·.1), input := call.input }
    let refused (message : String) : Finished × Files :=
      ({ ending := .exited 2, errors := (call.program ++ ": 0: " ++ message ++ "\n").toUTF8 }, fs)
    let start (s : State) (text : String) : Finished × Files :=
      let (s, flow) := close fuel (runText fuel false s "" text)
      ({ ending := match flow with
          | .killed n => .killed n
          | _ => .exited s.status
         output := (s.collected[0]?).getD .empty
         errors := (s.collected[1]?).getD .empty },
        { s.files with workingDir := fs.workingDir })
    let (isCommand, args) := takeCommandOption call.args
    match initial.readOptions args with
    | .error message => refused message
    | .ok (s, rest) =>
      match isCommand, rest.getD [] with
      | true, [] => refused "-c requires an argument"
      | true, text :: rest =>
        start { s with name := rest.headD call.program, arguments := rest.drop 1 } text
      | false, [] => start { s with input := .empty } (Text.decodeLossy call.input)
      | false, path :: rest =>
        if args.contains "-s" then
          start { s with arguments := path :: rest, input := .empty } (Text.decodeLossy call.input)
        else
          match fs.read path with
          | .ok contents =>
            start { s with name := path, arguments := rest } (Text.decodeLossy contents)
          | .error f => refused ("cannot open " ++ path ++ ": " ++ State.openingText f)

/-- Carries out what is to be done at the end of a script. -/
def close (fuel : Nat) (step : Step) : Step :=
  match fuel with
  | 0 => step
  | fuel + 1 =>
    match step.1.traps.lookup 0, step with
    | _, (s, .killed n) => (s, .killed n)
    | none, step => step
    | some action, (s, _) =>
      match runText fuel false { s with traps := s.traps.filter (·.1 != 0) } "" action with
      | (after, .goOn) => ({ after with status := s.status }, .exit)
      | stopped => stopped

/-- Carries out commands that concern nobody else: what they change is lost but for files, input
and output, and their end is only theirs. -/
def aside (fuel : Nat) (s : State) (f : State → Step) : Step :=
  match fuel with
  | 0 => (s, .exit)
  | fuel + 1 =>
    match close fuel (f { s with traps := s.traps.filter (·.2.isEmpty) }) with
    | (inner, .killed n) => (s.after inner, .killed n)
    | (inner, _) => (s.after inner, .goOn)

def settle (fuel : Nat) (step : Step) : Step :=
  match fuel with
  | 0 => step
  | fuel + 1 =>
    match step with
    | (s, .goOn) =>
      s.pending.foldl (fun (step : Step) n =>
        match step with
        | (s, .goOn) =>
          match runText fuel false s "" ((s.traps.lookup n).getD "") with
          | (after, .goOn) => ({ after with status := s.status }, .goOn)
          | stopped => stopped
        | stopped => stopped) ({ s with pending := [] }, .goOn)
    | step => step

/-- Carries out the lines of a script, up to the one that makes no sense. -/
def runText (fuel : Nat) (tested : Bool) (s : State) (about text : String) : Step :=
  match fuel with
  | 0 => (s, .exit)
  | fuel + 1 =>
    let script := Script.ofText text
    let step := script.lines.foldl (fun (step : Step) line =>
      match step with
      | (s, .goOn) => execute fuel tested line s
      | stopped => stopped) (s, .goOn)
    match step, script.fault with
    | (s, .goOn), some fault => State.fail { s with line := fault.line } (about ++ fault.message)
    | step, _ => step

/-- Works out the parts of a word; none if that ends the script. -/
def expand (fuel : Nat) (s : State) (w : Word) : State × Option (List Part) :=
  match fuel with
  | 0 => (s, none)
  | fuel + 1 =>
    w.foldl (fun (done : State × Option (List Part)) p =>
      match done with
      | (s, none) => (s, none)
      | (s, some parts) =>
        match expandPiece fuel s p with
        | (s, none) => (s, none)
        | (s, some more) => (s, some (parts ++ more))) (s, some [])

def expandPiece (fuel : Nat) (s : State) (p : Piece) : State × Option (List Part) :=
  match fuel with
  | 0 => (s, none)
  | fuel + 1 =>
    let value (s : State) (text : String) (quoted : Bool) : State × Option (List Part) :=
      (s, some [.value text.toList quoted])
    let failed (s : State) (message : String) : State × Option (List Part) :=
      (s.complain message, none)
    match p with
    | .literal text quoted => (s, some [.literal text quoted])
    | .parameter "@" quoted => (s, some [.arguments quoted])
    | .parameter "*" false => (s, some [.arguments false])
    | .parameter name quoted =>
      match s.parameter? name with
      | some text => value s text quoted
      | none =>
        if s.stopsOnMissing && name != "*" && name != "!" then
          failed s (name ++ match s.dialect with
            | .plain => ": parameter not set"
            | .extended => ": unbound variable")
        else value s "" quoted
    | .size name quoted => value s (Nat.repr (s.parameter name).length) quoted
    | .senseless => failed s "Bad substitution"
    | .output script quoted =>
      let (inner, index) := s.openText
      let (after, flow) := aside fuel inner fun inner =>
        runText fuel false (inner.withSink 1 (.collected index)) "" script
      let status := match flow with
        | .killed n => 128 + n
        | _ => after.status
      let (s, bytes) :=
        ({ after with status := s.status, outputStatus := status } : State).closeText
      (s, some [.value (outputValue bytes) quoted])
    | .sum expression quoted =>
      match expand fuel s expression with
      | (s, none) => (s, none)
      | (s, some parts) =>
        let text := s.text parts
        match (Expression.ofText text).bind fun e => e.eval s.values with
        | .ok (n, values) => value { s with values := values } (toString n) quoted
        | .error fault => failed s (fault.message text)
    | .changed name change emptyCounts word quoted =>
      let current := s.parameter? name
      let there := match current with
        | some text => !(emptyCounts && text.isEmpty)
        | none => false
      let held : State × Option (List Part) := value s (current.getD "") quoted
      let worked (f : State → List Part → State × Option (List Part)) :
          State × Option (List Part) :=
        match expand fuel s word with
        | (s, none) => (s, none)
        | (s, some parts) => f s parts
      match change with
      | .orElse => if there then held else worked fun s parts => (s, some (parts.map .asValue))
      | .instead =>
        if there then worked fun s parts => (s, some (parts.map .asValue)) else value s "" quoted
      | .orAssign =>
        if there then held
        else worked fun s parts =>
          let text := s.text parts
          value (s.assign name text) text quoted
      | .orFail =>
        if there then held
        else worked fun s parts =>
          let text := s.text parts
          let usual := if emptyCounts then "parameter not set or null" else "parameter not set"
          failed s (name ++ ": " ++ if text.isEmpty then usual else text)
      | .dropStart longest => worked fun s parts =>
        let pattern := Shell.Glob.ofSource (s.pattern parts)
        (s, some [.value (Shell.Glob.dropStart longest pattern (current.getD "").toList) quoted])
      | .dropEnd longest => worked fun s parts =>
        let pattern := Shell.Glob.ofSource (s.pattern parts)
        (s, some [.value (Shell.Glob.dropEnd longest pattern (current.getD "").toList) quoted])

def expandEach {α : Type} (fuel : Nat) (s : State) (f : State → List Part → List α)
    (words : List Word) : State × Option (List α) :=
  match fuel with
  | 0 => (s, none)
  | fuel + 1 =>
    words.foldl (fun (done : State × Option (List α)) w =>
      match done with
      | (s, none) => (s, none)
      | (s, some values) =>
        match expand fuel s w with
        | (s, none) => (s, none)
        | (s, some parts) => (s, some (values ++ f s parts))) (s, some [])

/-- Sets up redirections from left to right. The flag says whether all could be done; none if the
script ends. -/
def redirect (fuel : Nat) (s : State) (redirects : List Redirect) : State × Option Bool :=
  match fuel with
  | 0 => (s, none)
  | fuel + 1 =>
    redirects.foldl (fun (done : State × Option Bool) r =>
      match done with
      | (s, some true) =>
        let target (w : Word) (f : State → String → State × Bool) : State × Option Bool :=
          match expand fuel s w with
          | (s, none) => (s, none)
          | (s, some parts) =>
            let (s, fine) := f s (s.text parts)
            (s, some fine)
        match r with
        | .toFile d append w => target w fun s path => s.openOutput d append path
        | .toDescriptor d w =>
          match expand fuel s w with
          | (s, none) => (s, none)
          | (s, some parts) =>
            match s.joinDescriptor d (s.text parts) with
            | some (s, fine) => (s, some fine)
            | none => (s.complain "Syntax error: Bad fd number", none)
        | .fromFile _ w => target w fun s path => s.openInput path
        | .document _ w => target w fun s text => ({ s with input := text.toUTF8 }, true)
      | stopped => stopped) (s, some true)

/-- Carries out what stands in a redirected place, and leads everything back after it. If the place
cannot be had, that ends the script or not. -/
def within (fuel : Nat) (s : State) (ends : Bool) (redirects : List Redirect)
    (f : State → Step) : Step :=
  match fuel with
  | 0 => (s, .exit)
  | fuel + 1 =>
    let restored (inner : State) : State :=
      let takesInput := redirects.any fun r => r matches .fromFile _ _ | .document _ _
      { inner with sinks := s.sinks, input := if takesInput then s.input else inner.input }
    match redirect fuel s redirects with
    | (inner, none) => ({ restored inner with status := 2 }, .exit)
    | (inner, some false) =>
      ({ restored inner with status := 2 }, if ends then .exit else .goOn)
    | (inner, some true) =>
      let (inner, flow) := f inner
      (restored inner, flow)

def runProgram (fuel : Nat) (s : State) (env : Environment) (about program : String)
    (args : List String) : Step :=
  match fuel with
  | 0 => (s, .exit)
  | fuel + 1 =>
    let call : Call := ⟨program, args, s.input⟩
    let reads := Tools.readsInput.contains ((Path.fileName? program).getD program)
    let finish (s : State) (fs : Files) (finished : Finished) : Step :=
      let s := { s with files := fs, input := if reads then .empty else s.input }
      let s := (s.emit 1 finished.output).emit 2 finished.errors
      match finished.ending with
      | .exited n => s.withStatus n
      | .killed n =>
        let text := match State.signalText n with
          | some text => text ++ "\n"
          | none => ""
        (s.emit 2 text.toUTF8).withStatus (128 + n)
    let launched :=
      if (env.get? "PATH").isNone && !program.toList.contains '/' then (.error .notFound, s.files)
      else launch fuel s.files env call
    match launched with
    | (.ok finished, fs) => finish s fs finished
    | (.error e, fs) =>
      if e == .badExecutable then
        match firstExecutable fs .notFound (candidates env program) with
        | .ok (path, _) =>
          let (finished, fs) := runShell fuel fs env .plain ⟨"sh", path :: args, s.input⟩
          finish s fs finished
        | .error _ => s.withStatus 126
      else
        let (message, status) := startMessage s program e
        ({ s with files := fs }.complain (about ++ message)).withStatus status

def runWords (fuel : Nat) (tested : Bool) (s : State) (assignments : List (String × String))
    (words : List String) : Step :=
  match fuel with
  | 0 => (s, .exit)
  | fuel + 1 =>
    let assigned (s : State) : State := assignments.foldl (fun s a => s.assign a.1 a.2) s
    let env := assignments.foldl (fun (env : Environment) a => env.set a.1 a.2) s.environment
    -- the assignments before a command last as long as the command
    let back (step : Step) : Step :=
      (assignments.foldl (fun (after : State) a =>
        match s.values.get? a.1 with
        | some value => after.assign a.1 value
        | none => after.unassign a.1) step.1, step.2)
    match words with
    | [] => (assigned s).withStatus s.outputStatus
    | name :: args =>
      match s.functions.lookup name with
      | some body =>
        let inside := { assigned s with arguments := args, loops := 0, saved := some [] }
        let (inner, flow) := execute fuel tested body inside
        back ({ inner.restore s.saved with arguments := s.arguments, loops := s.loops },
          if flow == .return then .goOn else flow)
      | none =>
        match name, args with
        | "eval", args => runText fuel tested (assigned s) "eval: " (Text.joinWith " " args)
        | "exec", [] => (assigned s, .goOn)
        | "exec", program :: args =>
          let (s, flow) := runProgram fuel s env "exec: " program args
          (s, if flow == .goOn then .exit else flow)
        | "command", "-v" :: name :: _ => s.locate name
        | "command", "-V" :: names => s.describeAll names
        | "command", "-p" :: args => runWords fuel tested s assignments ("command" :: args)
        | "command", [] => s.withStatus 0
        | "command", args =>
          let (after, flow) := runWords fuel tested { s with functions := [] } assignments args
          ({ after with functions := s.functions }, flow)
        | "type", names => s.describeAll names
        | ".", [] => s.withStatus 0
        | ".", path :: _ =>
          let found := if path.toList.contains '/' then some path
            else s.environment.searchPath.findSome? fun dir =>
              if s.files.isFile (Path.join dir path) then some (Path.join dir path) else none
          match found with
          | none => s.fail (".: " ++ path ++ ": not found")
          | some path =>
            match s.files.read path with
            | .ok contents =>
              match runText fuel tested s "" (Text.decodeLossy contents) with
              | (s, .return) => (s, .goOn)
              | step => step
            | .error f => s.fail (".: cannot open " ++ path ++ ": " ++ State.openingText f)
        | name, args =>
          match (assigned s).builtin? (name :: args) with
          | some step => if Shell.specialNames.contains name then step else back step
          | none => runProgram fuel s env "" name args

/-- Carries out a command. A failure of what is `tested` does not end the script. -/
def execute (fuel : Nat) (tested : Bool) (c : Command) (s : State) : Step :=
  match fuel with
  | 0 => (s, .exit)
  | fuel + 1 =>
    let checked (step : Step) : Step :=
      match step with
      | (s, .goOn) => if s.stopsOnError && !tested && s.status != 0 then (s, .exit) else (s, .goOn)
      | step => step
    match c with
    | .simple line assignments words redirects =>
      let s := { s with line := line, outputStatus := 0 }
      match expandEach fuel s (fun s parts => s.fields parts) words with
      | (s, none) => ({ s with status := 2 }, .exit)
      | (s, some fields) =>
        let errors := (s.sinks.lookup 2).getD .nowhere
        let carryOut (s : State) : Step :=
          let step := assignments.foldl (fun (done : State × Option (List (String × String))) a =>
            match done with
            | (s, none) => (s, none)
            | (s, some values) =>
              match expand fuel s a.2 with
              | (s, none) => (s, none)
              | (s, some parts) => (s, some (values ++ [(a.1, s.text parts)]))) (s, some [])
          match step with
          | (s, none) => ({ s with status := 2 }, .exit)
          | (s, some values) =>
            match s.fixed? (values.map (·.1)) with
            | some name => s.fail (name ++ ": is read only")
            | none =>
              let told := Text.joinWith " " (values.map (fun a => a.1 ++ "=" ++ a.2) ++ fields)
              let s := if s.traces && told != "" then
                  s.emitTo errors ("+ " ++ told ++ "\n").toUTF8
                else s
              runWords fuel tested s values fields
        if fields == ["exec"] then
          match redirect fuel s redirects with
          | (s, some true) => s.withStatus 0
          | (s, _) => ({ s with status := 2 }, .exit)
        else
          let ends := Shell.specialNames.contains (fields.headD "")
          checked (settle fuel (within fuel s ends redirects carryOut))
    | .sequence a b =>
      match execute fuel tested a s with
      | (s, .goOn) => execute fuel tested b s
      | stopped => stopped
    | .both a b =>
      match execute fuel true a s with
      | (s, .goOn) => if s.status == 0 then execute fuel tested b s else (s, .goOn)
      | stopped => stopped
    | .either a b =>
      match execute fuel true a s with
      | (s, .goOn) => if s.status == 0 then (s, .goOn) else execute fuel tested b s
      | stopped => stopped
    | .negated a =>
      match execute fuel true a s with
      | (s, .goOn) => s.withStatus (if s.status == 0 then 1 else 0)
      | stopped => stopped
    | .pipe a b =>
      let (inner, index) := s.openText
      let (inner, flow) := aside fuel inner fun inner =>
        execute fuel true a (inner.withSink 1 (.collected index))
      let (after, bytes) := inner.closeText
      match flow with
      | .killed n => (after, .killed n)
      | _ =>
        let (done, flow) := aside fuel { after with input := bytes } (execute fuel tested b)
        let status := if s.countsAllOfPipe && done.status == 0 then after.status else done.status
        checked ({ done with input := after.input, status := status }, flow)
    | .loop line name words body =>
      let s := { s with line := line }
      let values := match words with
        | some ws => expandEach fuel s (fun s parts => s.fields parts) ws
        | none => (s, some s.arguments)
      match values with
      | (s, none) => ({ s with status := 2 }, .exit)
      | (s, some values) =>
        if s.fixed.contains name && !values.isEmpty then s.fail (name ++ ": is read only")
        else
          let (after, flow) :=
            iterate fuel tested name body values { s with status := 0, loops := s.loops + 1 }
          ({ after with loops := s.loops }, flow)
    | .repeated wanted condition body =>
      let (after, flow) :=
        repeatWhile fuel tested wanted condition body 0 { s with loops := s.loops + 1 }
      ({ after with loops := s.loops }, flow)
    | .choice condition accepted rejected =>
      match execute fuel true condition s, rejected with
      | (s, .goOn), rejected =>
        if s.status == 0 then execute fuel tested accepted s
        else
          match rejected with
          | some c => execute fuel tested c s
          | none => s.withStatus 0
      | stopped, _ => stopped
    | .cases line word branches =>
      match expand fuel { s with line := line } word with
      | (s, none) => ({ s with status := 2 }, .exit)
      | (s, some parts) => choose fuel tested (s.text parts).toList branches s
    | .redirected line body redirects =>
      within fuel { s with line := line } false redirects (execute fuel tested body)
    | .apart body => checked (aside fuel s (execute fuel tested body))
    | .aside body =>
      let (after, flow) := aside fuel { s with input := .empty } (execute fuel true body)
      ({ after with status := 0, input := s.input }, flow)
    | .function name body =>
      { s with functions := (name, body) :: s.functions.filter (·.1 != name) }.withStatus 0

def iterate (fuel : Nat) (tested : Bool) (name : String) (body : Command) (values : List String)
    (s : State) : Step :=
  match fuel with
  | 0 => (s, .exit)
  | fuel + 1 =>
    match values with
    | [] => (s, .goOn)
    | value :: values =>
      match execute fuel tested body (s.assign name value) with
      | (s, .goOn) => iterate fuel tested name body values s
      | (s, .leave n) => (s, if n ≤ 1 then .goOn else .leave (n - 1))
      | (s, .again n) =>
        if n ≤ 1 then iterate fuel tested name body values s else (s, .again (n - 1))
      | stopped => stopped

/-- Carries out a body as long as a condition comes out as wanted; the status is that of the last
body. -/
def repeatWhile (fuel : Nat) (tested wanted : Bool) (condition body : Command) (status : Nat)
    (s : State) : Step :=
  match fuel with
  | 0 => (s, .exit)
  | fuel + 1 =>
    match execute fuel true condition s with
    | (s, .goOn) =>
      if (s.status == 0) != wanted then s.withStatus status
      else
        match execute fuel tested body s with
        | (s, .goOn) => repeatWhile fuel tested wanted condition body s.status s
        | (s, .leave n) => (s, if n ≤ 1 then .goOn else .leave (n - 1))
        | (s, .again n) =>
          if n ≤ 1 then repeatWhile fuel tested wanted condition body s.status s
          else (s, .again (n - 1))
        | stopped => stopped
    | stopped => stopped

def choose (fuel : Nat) (tested : Bool) (cs : List Char)
    (branches : List (List Word × Option Command)) (s : State) : Step :=
  match fuel with
  | 0 => (s, .exit)
  | fuel + 1 =>
    match branches with
    | [] => s.withStatus 0
    | (patterns, body) :: rest =>
      match expandEach fuel s (fun s parts => [Shell.Glob.ofSource (s.pattern parts)]) patterns with
      | (s, none) => ({ s with status := 2 }, .exit)
      | (s, some ps) =>
        if ps.any fun p => Shell.Glob.fits p cs then
          match body with
          | some c => execute fuel tested c s
          | none => s.withStatus 0
        else choose fuel tested cs rest s

end

/-- How deep programs start each other, how deep commands stand inside each other, and how often
loops run, all together at most. -/
def launchDepth : Nat := 1000000

def machineLauncher : Launcher := fun fs env program args =>
  launch launchDepth fs env ⟨program, args, .empty⟩

end AppScaffold.Host
