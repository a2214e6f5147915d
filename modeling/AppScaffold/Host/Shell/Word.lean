import AppScaffold.Host.Shell.Arithmetic

/-!
# Words of the shell

Words are texts with quotes, parameters and values that are worked out when a command runs: what
another script prints, and sums. `readPieces` reads them up to the end that their place gives them.
-/

set_option autoImplicit false

namespace AppScaffold.Host.Shell

/-- What a parameter in braces does with the word behind its name. -/
inductive Change where
  /-- The word stands in for a value that is missing. -/
  | orElse
  /-- The same, and the word becomes the value. -/
  | orAssign
  /-- A missing value ends the script, with the word as the message. -/
  | orFail
  /-- The word stands in for a value that is there. -/
  | instead
  /-- The word is a pattern for what is taken off the start or the end of the value. -/
  | dropStart (longest : Bool)
  | dropEnd (longest : Bool)
deriving DecidableEq, Repr, Inhabited

/-- A piece of a word. What is quoted is never split. -/
inductive Piece where
  | literal (text : List Char) (quoted : Bool)
  | parameter (name : String) (quoted : Bool)
  /-- An empty value counts as a missing one if `emptyCounts` says so. -/
  | changed (name : String) (change : Change) (emptyCounts : Bool) (word : List Piece)
      (quoted : Bool)
  | size (name : String) (quoted : Bool)
  /-- What a script prints. -/
  | output (script : String) (quoted : Bool)
  /-- Braces around what is no parameter; this is noticed only when the command runs. -/
  | senseless
  | sum (expression : List Piece) (quoted : Bool)
deriving Repr, Inhabited

abbrev Word := List Piece

inductive WordFault where
  | openQuote
  | openBraces
  | openSum
  | openBackquote
  | openScript
deriving DecidableEq, Repr, Inhabited

def WordFault.message : WordFault → String
  | .openQuote => "Syntax error: Unterminated quoted string"
  | .openBraces => "Syntax error: Missing '\x7d'"
  | .openSum => "Syntax error: Missing '))'"
  | .openBackquote => "Syntax error: EOF in backquote substitution"
  | .openScript => "Syntax error: end of file unexpected (expecting \")\")"

/-- Where the pieces of a word end. -/
inductive WordEnd where
  /-- At a blank or a mark of the language, outside quotes. -/
  | bare
  | quote
  | brace
  /-- At two closing parentheses; so many others are open. -/
  | sum (depth : Nat)
  | text
deriving DecidableEq, Repr

/-- What is missing if the text ends here instead. -/
def WordEnd.missing? (place : WordEnd) (quoted : Bool) : Option WordFault :=
  match place with
  | .bare | .text => none
  | .quote => some .openQuote
  | .brace => some (if quoted then .openQuote else .openBraces)
  | .sum _ => some .openSum

def backquote : Char := '\x60'

def endsWord (c : Char) : Bool :=
  c == ' ' || c == '\t' || c == '\n' || c == ';' || c == '&' || c == '|' || c == '<' || c == '>' ||
    c == '(' || c == ')'

def readScript (escaped : Bool) (quote : Option Char) (depth : Nat) :
    List Char → Except WordFault (List Char × List Char)
  | [] => .error (if quote.isSome then .openQuote else .openScript)
  | c :: rest =>
    let keep (escaped : Bool) (quote : Option Char) (depth : Nat) :=
      (readScript escaped quote depth rest).map fun (text, rest) => (c :: text, rest)
    if escaped then keep false quote depth
    else if c == '\\' && quote != some '\'' then keep true quote depth
    else
      match quote with
      | some q => keep false (if c == q then none else quote) depth
      | none =>
        if c == '\'' || c == '"' then keep false (some c) depth
        else if c == '(' then keep false none (depth + 1)
        else if c != ')' then keep false none depth
        else if depth == 0 then .ok ([], rest)
        else keep false none (depth - 1)

/-- The text of a script between back quotes; a backslash before a special character goes. -/
def readBackquoted : List Char → Except WordFault (List Char × List Char)
  | [] => .error .openBackquote
  | '\\' :: c :: rest => do
    let (text, rest) ← readBackquoted rest
    if c == backquote || c == '\\' || c == '$' then return (c :: text, rest)
    else return ('\\' :: c :: text, rest)
  | c :: rest =>
    if c == backquote then .ok ([], rest)
    else (readBackquoted rest).map fun (text, rest) => (c :: text, rest)

def readName (cs : List Char) : Option (String × List Char) :=
  match cs with
  | [] => none
  | c :: rest =>
    if isNameStart c then some (.ofList (cs.takeWhile isNameChar), cs.dropWhile isNameChar)
    else if c.isDigit then some (.ofList (cs.takeWhile Char.isDigit), cs.dropWhile Char.isDigit)
    else if ['@', '*', '#', '?', '-', '$', '!'].contains c then some (.ofList [c], rest)
    else none

/-- What stands behind the name of a parameter in braces: the change and whether an empty value
counts as a missing one. -/
def readChange (cs : List Char) : Option (Change × Bool × List Char) :=
  let plain (emptyCounts : Bool) : List Char → Option (Change × Bool × List Char)
    | '-' :: rest => some (.orElse, emptyCounts, rest)
    | '=' :: rest => some (.orAssign, emptyCounts, rest)
    | '?' :: rest => some (.orFail, emptyCounts, rest)
    | '+' :: rest => some (.instead, emptyCounts, rest)
    | _ => none
  match cs with
  | ':' :: rest => plain true rest
  | '#' :: '#' :: rest => some (.dropStart true, false, rest)
  | '#' :: rest => some (.dropStart false, false, rest)
  | '%' :: '%' :: rest => some (.dropEnd true, false, rest)
  | '%' :: rest => some (.dropEnd false, false, rest)
  | rest => plain false rest

/-- Whether a backslash takes the special meaning off a character inside double quotes. -/
def isEscapable (place : WordEnd) (c : Char) : Bool :=
  c == '\\' || c == '$' || c == backquote || (c == '"' && place != .text) ||
    (c == '\x7d' && place == .brace)

abbrev ReadPieces := Except WordFault (Word × List Char)

mutual

/-- The pieces of a word up to its end; what ends it is consumed unless the word is bare. -/
def readPieces : Nat → Bool → WordEnd → List Char → ReadPieces
  | 0, _, _, _ => .error .openQuote
  | fuel + 1, quoted, place, cs =>
    let push (p : Piece) (place : WordEnd) (rest : List Char) : ReadPieces :=
      (readPieces fuel quoted place rest).map fun (w, rest) => (p :: w, rest)
    match cs with
    | [] =>
      match place.missing? quoted with
      | none => .ok ([], [])
      | some fault => .error fault
    | '\\' :: '\n' :: rest => readPieces fuel quoted place rest
    | '\\' :: c :: rest =>
      if !quoted || isEscapable place c then push (.literal [c] true) place rest
      else push (.literal ['\\', c] quoted) place rest
    | '$' :: rest => do
      let (p, rest) ← readDollar fuel quoted rest
      push p place rest
    | c :: rest =>
      if c == backquote then do
        let (script, rest) ← readBackquoted rest
        push (.output (.ofList script) quoted) place rest
      else if c == '\'' && !quoted then
        let text := rest.takeWhile (· != '\'')
        if text.length < rest.length then
          push (.literal text true) place (rest.drop (text.length + 1))
        else .error .openQuote
      else
        match place with
        | .bare =>
          if endsWord c then .ok ([], cs)
          else if c == '"' then inner fuel quoted place rest
          else push (.literal [c] quoted) place rest
        | .quote => if c == '"' then .ok ([], rest) else push (.literal [c] quoted) place rest
        | .brace =>
          if c == '\x7d' then .ok ([], rest)
          else if c == '"' then inner fuel quoted place rest
          else push (.literal [c] quoted) place rest
        | .sum depth =>
          if c == '(' then push (.literal [c] quoted) (.sum (depth + 1)) rest
          else if c != ')' then push (.literal [c] quoted) place rest
          else if depth != 0 then push (.literal [c] quoted) (.sum (depth - 1)) rest
          else match rest with
            | ')' :: rest => .ok ([], rest)
            | rest => push (.literal [c] quoted) place rest
        | .text => push (.literal [c] quoted) place rest

/-- A part in double quotes, and the pieces after it. -/
def inner : Nat → Bool → WordEnd → List Char → ReadPieces
  | 0, _, _, _ => .error .openQuote
  | fuel + 1, quoted, place, cs => do
    let (part, rest) ← readPieces fuel true .quote cs
    let (w, rest) ← readPieces fuel quoted place rest
    return (.literal [] true :: part ++ w, rest)

def readDollar : Nat → Bool → List Char → Except WordFault (Piece × List Char)
  | 0, _, _ => .error .openQuote
  | fuel + 1, quoted, cs =>
    match cs with
    | '(' :: '(' :: rest => do
      let (w, rest) ← readPieces fuel true (.sum 0) rest
      return (.sum w quoted, rest)
    | '(' :: rest => do
      let (script, rest) ← readScript false none 0 rest
      return (.output (.ofList script) quoted, rest)
    | '\x7b' :: rest => readBraces fuel quoted rest
    | c :: rest =>
      if isNameStart c then
        .ok (.parameter (.ofList (cs.takeWhile isNameChar)) quoted, cs.dropWhile isNameChar)
      else if c.isDigit || ['@', '*', '#', '?', '-', '$', '!'].contains c then
        .ok (.parameter (.ofList [c]) quoted, rest)
      else .ok (.literal ['$'] quoted, cs)
    | [] => .ok (.literal ['$'] quoted, [])

def readBraces : Nat → Bool → List Char → Except WordFault (Piece × List Char)
  | 0, _, _ => .error .openQuote
  | fuel + 1, quoted, cs =>
    let senseless : Except WordFault (Piece × List Char) :=
      (readPieces fuel quoted .brace cs).map fun (_, rest) => (.senseless, rest)
    match cs with
    | '#' :: '\x7d' :: rest => .ok (.parameter "#" quoted, rest)
    | '#' :: rest =>
      match readName rest with
      | some (name, '\x7d' :: rest) => .ok (.size name quoted, rest)
      | _ => senseless
    | cs =>
      match readName cs with
      | none => senseless
      | some (name, '\x7d' :: rest) => .ok (.parameter name quoted, rest)
      | some (name, rest) =>
        match readChange rest with
        | none => senseless
        | some (change, emptyCounts, rest) => do
          let isPattern := match change with
            | .dropStart _ | .dropEnd _ => true
            | _ => false
          let (word, rest) ← readPieces fuel (quoted && !isPattern) .brace rest
          return (.changed name change emptyCounts word quoted, rest)

end

def wordFuel (cs : List Char) : Nat := 3 * cs.length + 3

/-- A word outside quotes, up to the character that ends it. A tilde at its start stands for the
home directory. -/
def readWord (cs : List Char) : ReadPieces :=
  match cs with
  | '~' :: rest =>
    if rest.head?.all fun c => c == '/' || endsWord c then
      (readPieces (wordFuel rest) false .bare rest).map fun (w, rest) =>
        (.parameter "HOME" true :: w, rest)
    else readPieces (wordFuel cs) false .bare cs
  | cs => readPieces (wordFuel cs) false .bare cs

/-- A text in which parameters and scripts stand for their values. Quotes mean nothing here. -/
def readDocument (cs : List Char) : Except WordFault Word :=
  match readPieces (wordFuel cs) true .text cs with
  | .ok (w, _) => .ok w
  | .error .openQuote => .error .openBraces
  | .error fault => .error fault

def plain? (w : Word) : Option String :=
  (w.foldlM (fun (acc : List Char) (p : Piece) => match p with
    | .literal text false => some (acc ++ text)
    | _ => none) []).map String.ofList

/-- The characters of a word in which nothing is worked out, with or without quotes. -/
def literalText? (w : Word) : Option (List Char) :=
  w.foldlM (fun (acc : List Char) (p : Piece) => match p with
    | .literal text _ => some (acc ++ text)
    | _ => none) []

end AppScaffold.Host.Shell
