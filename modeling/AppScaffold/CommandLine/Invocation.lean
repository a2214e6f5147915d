import AppScaffold.CommandLine.Options
import AppScaffold.Host.Environment

/-!
# Invocations

What is asked for on the command line: a command, and options that go before or after its name.
What is not given there may come from variables.
-/

set_option autoImplicit false

namespace AppScaffold.CommandLine

open Host (Environment)

inductive Command where
  | serve (host : Option String) (port : Option Nat)
  | generate (project out : String)
  | build (project : String) (password : Option String)
  /-- Prints a screen, or the manifest. -/
  | render (project : String) (screen : Option String)
  | doctor (json : Bool)
deriving DecidableEq, Repr, Inhabited

structure Invocation where
  config : Option String := none
  verbose : Bool := false
  quiet : Bool := false
  noColour : Bool := false
  command : Command
deriving DecidableEq, Repr, Inhabited

def commonOptions : List OptionSpec := [
  { name := "config", letter := some 'c', takes := .path },
  { name := "verbose", letter := some 'v' },
  { name := "quiet", letter := some 'q' },
  { name := "no-color" }]

def commandGrammars : List (String × Grammar) := [
  ("serve", { options := [
    { name := "host", takes := .text }, { name := "port", letter := some 'p', takes := .port }] }),
  ("generate", {
    options := [{ name := "out", letter := some 'o', takes := .path }], positional := 1 }),
  ("build", { options := [{ name := "password", takes := .text }], positional := 1 }),
  ("render", {
    options := [{ name := "screen", letter := some 's', takes := .text }], positional := 1 }),
  ("doctor", { options := [{ name := "json" }] })]

def mainGrammar : Grammar :=
  { options := commonOptions, commands := commandGrammars.map (·.1) ++ ["help"] }

def configVariable : String := "ZEROAPP_CONFIG"

def passwordVariable : String := "ZEROAPP_KEYSTORE_PASSWORD"

def project? (g : Given) : Except Stop String :=
  match g.positional with
  | [path] => .ok path
  | _ => .error .misuse

def commandOf (env : Environment) (name : String) (g : Given) : Except Stop Command :=
  match name with
  | "serve" => .ok (.serve (g.value? "host") ((g.value? "port").bind port?))
  | "generate" => do
    match g.value? "out" with
    | some out => return .generate (← project? g) out
    | none => .error .misuse
  | "build" => do
    return .build (← project? g) (g.value? "password" <|> env.get? passwordVariable)
  | "render" => do return .render (← project? g) (g.value? "screen")
  | _ => .ok (.doctor (g.has "json"))

def helpTopic (names : List String) : Stop :=
  match names with
  | [] => .help
  | [name] => if mainGrammar.commands.contains name then .help else .misuse
  | _ => .misuse

/-- The invocation that arguments stand for. What is given behind the command's name counts for
more than what is given before. -/
def Invocation.ofArguments (env : Environment) (args : List String) : Except Stop Invocation := do
  let outer ← mainGrammar.ofArguments args
  match outer.command with
  | none => throw .misuse
  | some ("help", names) => throw (helpTopic names)
  | some (name, rest) =>
    match commandGrammars.lookup name with
    | none => throw .misuse
    | some grammar =>
      let inner ← { grammar with options := grammar.options ++ commonOptions }.ofArguments rest
      -- a place that does not give the file takes the variable, which has to be a path then
      let preset := env.get? configVariable
      let missing := !inner.has "config" || !outer.has "config"
      if missing && preset.any (!Takes.path.admits ·) then throw .misuse
      let command ← commandOf env name inner
      let either (option : String) : Bool := inner.has option || outer.has option
      return {
        config := inner.value? "config" <|> outer.value? "config" <|> preset
        verbose := either "verbose"
        quiet := either "quiet"
        noColour := either "no-color"
        command := command }

end AppScaffold.CommandLine
