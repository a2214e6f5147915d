import AppScaffold.Host.Process
import AppScaffold.Host.Shell.Arithmetic

/-!
# Conditions of the shell

What `test` says about texts, numbers and files.
-/

set_option autoImplicit false

namespace AppScaffold.Host.Shell

inductive TestFault where
  | missingBracket
  | unexpectedOperator (word : String)
  | expectedArgument (operator : String)
  | expectedParenthesis
  | illegalNumber (word : String)
deriving DecidableEq, Repr, Inhabited

def TestFault.message : TestFault → String
  | .missingBracket => "missing ]"
  | .unexpectedOperator word => word ++ ": unexpected operator"
  | .expectedArgument operator => operator ++ ": argument expected"
  | .expectedParenthesis => "closing paren expected"
  | .illegalNumber word => "Illegal number: " ++ word

namespace Test

/-- A number in decimal digits, perhaps with a sign and with blanks around it. -/
def number (s : String) : Except TestFault Int :=
  let isGap (c : Char) : Bool := c == ' ' || c == '\t' || c == '\n'
  let cs := ((s.toList.dropWhile isGap).reverse.dropWhile isGap).reverse
  let (negative, ds) := match cs with
    | '-' :: ds => (true, ds)
    | '+' :: ds => (false, ds)
    | ds => (false, ds)
  if ds.isEmpty || !ds.all Char.isDigit then .error (.illegalNumber s)
  else
    let n : Int := (ds.foldl (fun n d => n * 10 + (d.toNat - '0'.toNat)) 0 : Nat)
    .ok (if negative then -n else n)

def compare (f : Int → Int → Bool) (a b : String) : Except TestFault Bool := do
  return f (← number a) (← number b)

def binary? (op : String) : Option (String → String → Except TestFault Bool) :=
  match op with
  | "=" => some fun a b => .ok (a == b)
  | "!=" => some fun a b => .ok (a != b)
  | "<" => some fun a b => .ok (a < b)
  | ">" => some fun a b => .ok (b < a)
  | "-eq" => some (compare fun a b => a == b)
  | "-ne" => some (compare fun a b => a != b)
  | "-gt" => some (compare fun a b => b < a)
  | "-ge" => some (compare fun a b => b ≤ a)
  | "-lt" => some (compare fun a b => a < b)
  | "-le" => some (compare fun a b => a ≤ b)
  | "-ef" => some fun a b => .ok (a == b)
  | "-nt" => some fun _ _ => .ok false
  | "-ot" => some fun _ _ => .ok false
  | _ => none

def isLink (fs : Files) (path : String) : Bool :=
  match fs.find false path with
  | .ok found => found.node.any fun n => (n matches .link _)
  | .error _ => false

def unary? (fs : Files) (op : String) : Option (String → Bool) :=
  match op with
  | "-n" => some fun a => !a.isEmpty
  | "-z" => some fun a => a.isEmpty
  | "-e" => some fs.exists?
  | "-f" => some fs.isFile
  | "-d" => some fs.isDir
  | "-r" => some fs.exists?
  | "-w" => some fs.exists?
  | "-x" => some fun a => fs.isExecutable a || fs.isDir a
  | "-s" => some fun a => fs.isDir a || ((fs.read a).toOption.any fun b => b.size != 0)
  | "-h" => some (isLink fs)
  | "-L" => some (isLink fs)
  | "-O" => some fs.exists?
  | "-G" => some fs.exists?
  | "-t" | "-p" | "-S" | "-b" | "-c" | "-u" | "-g" | "-k" => some fun _ => false
  | _ => none

abbrev Read := Except TestFault (Bool × List String)

mutual

def either (fs : Files) : Nat → List String → Read
  | 0, _ => .error .expectedParenthesis
  | fuel + 1, words => do
    let (a, rest) ← both fs fuel words
    match rest with
    | "-o" :: rest => do
      let (b, rest) ← either fs fuel rest
      return (a || b, rest)
    | rest => return (a, rest)

def both (fs : Files) : Nat → List String → Read
  | 0, _ => .error .expectedParenthesis
  | fuel + 1, words => do
    let (a, rest) ← negated fs fuel words
    match rest with
    | "-a" :: rest => do
      let (b, rest) ← both fs fuel rest
      return (a && b, rest)
    | rest => return (a, rest)

def negated (fs : Files) : Nat → List String → Read
  | 0, _ => .error .expectedParenthesis
  | fuel + 1, words =>
    match words with
    | "!" :: w :: rest => do
      let (a, rest) ← negated fs fuel (w :: rest)
      return (!a, rest)
    | words => primary fs fuel words

def primary (fs : Files) : Nat → List String → Read
  | 0, _ => .error .expectedParenthesis
  | fuel + 1, words =>
    match words with
    | [] => .ok (false, [])
    | [a] => .ok (!a.isEmpty, [])
    | a :: b :: rest =>
      match binary? b, rest with
      | some f, c :: rest => (f a c).map (·, rest)
      | _, _ =>
        if a == "(" then do
          let (x, rest) ← either fs fuel (b :: rest)
          match rest with
          | ")" :: rest => .ok (x, rest)
          | _ => .error .expectedParenthesis
        else
          match unary? fs a with
          | some f => .ok (f b, rest)
          | none =>
            match binary? b with
            | some _ => .error (.expectedArgument b)
            | none => .ok (!a.isEmpty, b :: rest)

end

/-- Whether the condition in these words holds. If it ends before they do, the word that it ends
with is at fault. -/
def holds (fs : Files) (words : List String) : Except TestFault Bool := do
  let (x, rest) ← either fs (4 * words.length + 4) words
  match rest with
  | [] => return x
  | rest => throw (.unexpectedOperator ((words[words.length - rest.length - 1]?).getD ""))

end Test

end AppScaffold.Host.Shell
