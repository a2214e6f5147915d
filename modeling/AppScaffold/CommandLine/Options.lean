import AppScaffold.Text.Split

/-!
# Options

How arguments split into options with their values, positional arguments, and a command with
arguments of its own. An option is given at most once.
-/

set_option autoImplicit false

namespace AppScaffold.CommandLine

/-- Why no command is run. -/
inductive Stop where
  | misuse
  | help
  | version
deriving DecidableEq, Repr, Inhabited

inductive Takes where
  | nothing
  | text
  /-- A text that is not empty. -/
  | path
  /-- A number of 16 bits. -/
  | port
deriving DecidableEq, Repr, Inhabited

structure OptionSpec where
  name : String
  letter : Option Char := none
  takes : Takes := .nothing
deriving DecidableEq, Repr, Inhabited

structure Grammar where
  options : List OptionSpec
  /-- How many positional arguments there are; they are paths. -/
  positional : Nat := 0
  commands : List String := []
deriving Repr

/-- Arguments as they were given. Options that take nothing have the empty value. -/
structure Given where
  options : List (String × String) := []
  positional : List String := []
  /-- The command and what follows it. -/
  command : Option (String × List String) := none
deriving DecidableEq, Repr, Inhabited

namespace Given

def value? (g : Given) (name : String) : Option String := g.options.lookup name

def has (g : Given) (name : String) : Bool := (g.value? name).isSome

end Given

def integer? (s : String) : Option Int :=
  let natural (cs : List Char) : Option Int :=
    if cs.isEmpty || !cs.all Char.isDigit then none
    else some (cs.foldl (fun n c => 10 * n + (c.toNat - 48)) 0 : Nat)
  match s.toList with
  | '+' :: cs => natural cs
  | '-' :: cs => (natural cs).map (- ·)
  | cs => natural cs

def port? (s : String) : Option Nat := do
  let n ← integer? s
  if 0 ≤ n && n ≤ 65535 then return n.toNat else none

def Takes.admits : Takes → String → Bool
  | .nothing, _ => false
  | .text, _ => true
  | .path, s => !s.isEmpty
  | .port, s => (port? s).isSome

namespace Grammar

def helpOption : OptionSpec := { name := "help", letter := some 'h' }

def versionOption : OptionSpec := { name := "version", letter := some 'V' }

def all (g : Grammar) : List OptionSpec := g.options ++ [helpOption, versionOption]

def byName? (g : Grammar) (name : String) : Option OptionSpec := g.all.find? (·.name == name)

def byLetter? (g : Grammar) (letter : Char) : Option OptionSpec :=
  g.all.find? (·.letter == some letter)

def set (o : OptionSpec) (value : String) (given : Given) : Except Stop Given :=
  if given.has o.name || !o.takes.admits value then .error .misuse
  else .ok { given with options := given.options ++ [(o.name, value)] }

def setFlag (o : OptionSpec) (given : Given) : Except Stop Given :=
  if o == helpOption then .error .help
  else if o == versionOption then .error .version
  else if given.has o.name then .error .misuse
  else .ok { given with options := given.options ++ [(o.name, "")] }

/-- What an argument was: complete, or an option whose value comes next. -/
abbrev Taken := Except Stop (Given × Option OptionSpec)

/-- The name of an option after two hyphens, with a value after an equals sign or without. -/
def readLong (g : Grammar) (text : List Char) (given : Given) : Taken :=
  let (name, value) := match Text.cut? '=' text with
    | some (name, value) => (name, some (String.ofList value))
    | none => (text, none)
  match g.byName? (.ofList name) with
  | none => .error .misuse
  | some o =>
    match o.takes, value with
    | .nothing, some _ => .error .misuse
    | .nothing, none => (setFlag o given).map (·, none)
    | _, some value => (set o value given).map (·, none)
    | _, none => .ok (given, some o)

/-- Letters of options after one hyphen; what follows a letter that takes a value is its value. -/
def readLetters (g : Grammar) : List Char → Given → Taken
  | [], given => .ok (given, none)
  | letter :: rest, given =>
    match g.byLetter? letter with
    | none => .error .misuse
    | some o =>
      match o.takes, rest with
      | .nothing, rest => do g.readLetters rest (← setFlag o given)
      | _, [] => .ok (given, some o)
      | _, '=' :: value => (set o (.ofList value) given).map (·, none)
      | _, value => (set o (.ofList value) given).map (·, none)

def readPositional (g : Grammar) (arg : String) (given : Given) : Except Stop Given :=
  if given.positional.length < g.positional && Takes.path.admits arg then
    .ok { given with positional := given.positional ++ [arg] }
  else .error .misuse

/-- Reads arguments up to a command. `waiting` is an option whose value comes next; behind two
hyphens everything is positional. -/
def read (g : Grammar) (waiting : Option OptionSpec) (literal : Bool) (given : Given) :
    List String → Except Stop Given
  | [] => if waiting.isSome then .error .misuse else .ok given
  | arg :: rest =>
    match arg.toList, waiting, literal with
    | '-' :: '-' :: _, some _, false => .error .misuse
    | '-' :: _ :: _, some _, false => .error .misuse
    | _, some o, _ => do g.read none literal (← set o arg given) rest
    | ['-', '-'], none, false => g.read none true given rest
    | '-' :: '-' :: text, none, false => do
      let (given, waiting) ← g.readLong text given
      g.read waiting false given rest
    | '-' :: letter :: letters, none, false => do
      let (given, waiting) ← g.readLetters (letter :: letters) given
      g.read waiting false given rest
    | _, none, _ =>
      if !literal && g.commands.contains arg then .ok { given with command := some (arg, rest) }
      else do g.read none literal (← g.readPositional arg given) rest

def ofArguments (g : Grammar) (args : List String) : Except Stop Given := g.read none false {} args

end Grammar

end AppScaffold.CommandLine
