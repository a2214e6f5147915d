import AppScaffold.Host.Shell.Word

/-!
# Tokens of the shell

A script as words, redirections and marks, each on its line. The list ends with the end of the
script, or with what keeps the rest from being read.
-/

set_option autoImplicit false

namespace AppScaffold.Host.Shell

inductive Token where
  | word (w : Word)
  | redirect (descriptor : Option Nat) (mark : String)
  /-- Input that stands in the script itself. -/
  | document (descriptor : Option Nat) (body : Word)
  | mark (text : String)
  | stop
  | broken (message : String)
deriving Repr, Inhabited

structure PlacedToken where
  line : Nat
  token : Token
deriving Repr, Inhabited

/-- Words that have a meaning of their own where a command may start. -/
def reservedWords : List String :=
  ["!", "case", "do", "done", "elif", "else", "esac", "fi", "for", "if", "in", "then", "until",
    "while", "\x7b", "\x7d"]

namespace Token

def isMark (t : Token) (text : String) : Bool :=
  match t with
  | .mark m => m == text
  | _ => false

/-- The word as it stands, if nothing in it is quoted or worked out. -/
def plain? : Token → Option String
  | .word w => Shell.plain? w
  | _ => none

def name (t : Token) : String :=
  match t with
  | .word w =>
    match Shell.plain? w with
    | some s => if reservedWords.contains s then "\"" ++ s ++ "\"" else "word"
    | none => "word"
  | .redirect _ _ => "redirection"
  | .document _ _ => "redirection"
  | .mark "\n" => "newline"
  | .mark m => "\"" ++ m ++ "\""
  | .stop => "end of file"
  | .broken message => message

end Token

/-! ## Documents in a script -/

def documentText (stripTabs : Bool) (close : List Char) : Nat → List Char → List Char × List Char
  | 0, cs => (cs, [])
  | fuel + 1, cs =>
    let cs := if stripTabs then cs.dropWhile (· == '\t') else cs
    let line := cs.takeWhile (· != '\n')
    match cs.drop line.length with
    | [] => if line == close then ([], []) else (line, [])
    | _ :: rest =>
      if line == close then ([], rest)
      else
        let (text, rest) := documentText stripTabs close fuel rest
        (line ++ '\n' :: text, rest)

/-- The body of a document whose mark stands before `cs`, and the text without it; none if no word
follows the mark. The body is taken as it stands if the word that closes it is quoted. -/
def readDocumentBody (stripTabs : Bool) (cs : List Char) :
    Except WordFault (Option (Word × List Char)) := do
  let cs := cs.dropWhile fun c => c == ' ' || c == '\t'
  let (close, rest) ← readWord cs
  match literalText? close with
  | none => return none
  | some closeText =>
    if rest.length == cs.length then return none
    let line := rest.takeWhile (· != '\n')
    let after := (rest.drop line.length).drop 1
    let (text, left) := documentText stripTabs closeText (after.length + 1) after
    let body ← if (plain? close).isSome then readDocument text else .ok [.literal text true]
    return some (body, line ++ '\n' :: left)

/-! ## Tokens -/

def newLines (cs : List Char) : Nat := cs.count '\n'

/-- The marks of the language, the longer mark first. -/
def marks : List String := [";;", "&&", "||", ";", "&", "|", "(", ")"]

def readMark (cs : List Char) : Option (String × List Char) :=
  marks.findSome? fun m => (Text.dropLiteral? m.toList cs).map (m, ·)

def readRedirection (cs : List Char) : Option (String × List Char) :=
  [">>", ">&", ">|", ">", "<&", "<<-", "<<", "<"].findSome? fun m =>
    (Text.dropLiteral? m.toList cs).map (m, ·)

/-- The tokens of a text that starts on this line; so many lines were taken out of the text after
the line. -/
def readTokens : Nat → Nat → Nat → List Char → List PlacedToken
  | 0, line, _, _ => [⟨line, .stop⟩]
  | fuel + 1, line, taken, cs =>
    let redirection (d : Option Nat) (cs : List Char) : Option (List PlacedToken) := do
      let (mark, rest) ← readRedirection cs
      if mark == "<<" || mark == "<<-" then
        match readDocumentBody (mark == "<<-") rest with
        | .ok (some (body, left)) =>
          some (⟨line, .document d body⟩ ::
            readTokens fuel line (taken + (newLines rest - newLines left)) left)
        | .ok none => some (⟨line, .redirect d mark⟩ :: readTokens fuel line taken rest)
        | .error fault => some [⟨line + 1, .broken fault.message⟩]
      else some (⟨line, .redirect d mark⟩ :: readTokens fuel line taken rest)
    let other (cs : List Char) : List PlacedToken :=
      match readMark cs with
      | some (mark, rest) => ⟨line, .mark mark⟩ :: readTokens fuel line taken rest
      | none =>
        match readWord cs with
        | .error fault => [⟨line + newLines cs, .broken fault.message⟩]
        | .ok (w, rest) =>
          let passed := newLines (cs.take (cs.length - rest.length))
          ⟨line + passed, .word w⟩ :: readTokens fuel (line + passed) taken rest
    match cs with
    | [] => [⟨line, .stop⟩]
    | ' ' :: rest => readTokens fuel line taken rest
    | '\t' :: rest => readTokens fuel line taken rest
    | '\\' :: '\n' :: rest => readTokens fuel (line + 1) taken rest
    | '#' :: rest => readTokens fuel line taken (rest.dropWhile (· != '\n'))
    | '\n' :: rest => ⟨line, .mark "\n"⟩ :: readTokens fuel (line + 1 + taken) 0 rest
    | c :: rest =>
      let numbered := if c.isDigit then redirection (some (c.toNat - '0'.toNat)) rest else none
      match numbered with
      | some ts => ts
      | none => (redirection none cs).getD (other cs)

def tokens (s : String) : List PlacedToken := readTokens (s.length + 1) 1 0 s.toList

end AppScaffold.Host.Shell
