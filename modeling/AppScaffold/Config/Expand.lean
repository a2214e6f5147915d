import AppScaffold.Host.Environment
import AppScaffold.Text.Alphanumeric

/-!
# Expanding paths

A configured path may name environment variables and may start with a tilde for the home
directory. When a variable is missing the path stays as it is written.
-/

set_option autoImplicit false

namespace AppScaffold.Config

open Host (Environment)

def isNameChar (c : Char) : Bool := Text.isAlphanumeric c || c == '_'

/-- The home directory of an account without a `HOME`. -/
def accountHome : String := "/root"

def homeDir (env : Environment) : String :=
  match env.get? "HOME" with
  | some home => if home.isEmpty then accountHome else home
  | none => accountHome

def splitDefault (body : List Char) : List Char × Option (List Char) :=
  go [] body
where
  go (name : List Char) : List Char → List Char × Option (List Char)
    | ':' :: '-' :: rest =>
      if name.isEmpty then (body, none) else (name.reverse, some rest)
    | c :: rest => go (c :: name) rest
    | [] => (body, none)

/-- What stands for a name in braces; nothing when the variable has to be there and is not. A
variable that is set to nothing is there. -/
def bracedValue? (env : Environment) (body : List Char) : Option (List Char) :=
  let (name, fallback) := splitDefault body
  ((env.get? (String.ofList name)).map String.toList).or fallback

def expandVariables? (env : Environment) : Nat → List Char → Option (List Char)
  | 0, _ => none
  | fuel + 1, cs =>
    match cs with
    | [] => some []
    | '$' :: '{' :: rest =>
      match Text.cut? '}' rest with
      | none => (expandVariables? env fuel rest).map ('$' :: '{' :: ·)
      | some (body, rest) => do
        let value ← bracedValue? env body
        return value ++ (← expandVariables? env fuel rest)
    | '$' :: '$' :: rest => (expandVariables? env fuel rest).map ('$' :: ·)
    | '$' :: rest =>
      let name := rest.takeWhile isNameChar
      if name.isEmpty then (expandVariables? env fuel rest).map ('$' :: ·)
      else do
        let value ← env.get? (String.ofList name)
        return value.toList ++ (← expandVariables? env fuel (rest.dropWhile isNameChar))
    | c :: rest => (expandVariables? env fuel rest).map (c :: ·)

def expandTilde (env : Environment) (cs : List Char) : List Char :=
  match cs with
  | ['~'] => (homeDir env).toList
  | '~' :: '/' :: rest => (homeDir env).toList ++ '/' :: rest
  | cs => cs

/-- The path that a configured path stands for. A tilde that comes out of a variable is none. -/
def expand (env : Environment) (path : String) : String :=
  let cs := path.toList
  match expandVariables? env (cs.length + 1) cs with
  | none => path
  | some expanded =>
    if cs.head? != some '~' && expanded.head? == some '~' then String.ofList expanded
    else String.ofList (expandTilde env expanded)

end AppScaffold.Config
