import AppScaffold.Host.Shell.Token

/-!
# Shell commands

The part of the shell language that small tools are written in: simple commands with redirections,
pipelines, lists, loops, conditions, choices among patterns, and functions. A script is read line
by line: the lines before one that makes no sense stay commands.
-/

set_option autoImplicit false

namespace AppScaffold.Host.Shell

inductive Redirect where
  /-- Output to a file that is emptied first unless `append` holds. -/
  | toFile (descriptor : Nat) (append : Bool) (target : Word)
  /-- To or from where another descriptor leads. -/
  | toDescriptor (descriptor : Nat) (source : Word)
  | fromFile (descriptor : Nat) (target : Word)
  | document (descriptor : Nat) (body : Word)
deriving Repr, Inhabited

inductive Command where
  | simple (line : Nat) (assignments : List (String × Word)) (words : List Word)
      (redirects : List Redirect)
  | sequence (first second : Command)
  | both (first second : Command)
  | either (first second : Command)
  | negated (body : Command)
  | pipe (first second : Command)
  /-- The words are the arguments of the script if none are given. -/
  | loop (line : Nat) (variableName : String) (words : Option (List Word)) (body : Command)
  /-- The body as long as the condition comes out as `wanted`. -/
  | repeated (wanted : Bool) (condition body : Command)
  | choice (condition accepted : Command) (rejected : Option Command)
  | cases (line : Nat) (word : Word) (branches : List (List Word × Option Command))
  | redirected (line : Nat) (body : Command) (redirects : List Redirect)
  /-- Commands whose exit and whose variables concern nobody else. -/
  | apart (body : Command)
  /-- The same, and its status is not waited for. -/
  | aside (body : Command)
  | function (name : String) (body : Command)
deriving Repr, Inhabited

/-- Why a line makes no sense. -/
structure SyntaxFault where
  line : Nat
  message : String
deriving DecidableEq, Repr, Inhabited

/-- A script: its lines, and the fault after them if there is one. -/
structure Script where
  lines : List Command := []
  fault : Option SyntaxFault := none
deriving Repr, Inhabited

/-! ## Reading commands -/

abbrev Tokens := List PlacedToken

/-- A command and the tokens after it. -/
abbrev ReadCommand := Except SyntaxFault (Command × Tokens)

def unexpected (ts : Tokens) (expecting : Option String) : SyntaxFault :=
  match ts with
  | ⟨line, .broken message⟩ :: _ => ⟨line, message⟩
  | ⟨line, t⟩ :: _ =>
    let hint := match expecting with
      | some e => " (expecting \"" ++ e ++ "\")"
      | none => ""
    ⟨line, "Syntax error: " ++ t.name ++ " unexpected" ++ hint⟩
  | [] => ⟨1, "Syntax error: end of file unexpected"⟩

def expectingWord (ts : Tokens) : SyntaxFault :=
  let fault := unexpected ts none
  { fault with message := fault.message ++ " (expecting word)" }

def lineOf (ts : Tokens) : Nat := (ts.head?.map (·.line)).getD 1

def startsWith (s : String) (ts : Tokens) : Bool := ts.head?.any (·.token.plain? == some s)

def startsWithStop (ts : Tokens) : Bool := ts.head?.all fun t => t.token matches .stop

def startsWithMark (s : String) (ts : Tokens) : Bool := ts.head?.any (·.token.isMark s)

def startsWithWord (ts : Tokens) : Bool := ts.head?.any fun t => t.token matches .word _

/-- The tokens with a first word that has no meaning of its own. -/
def asWord (ts : Tokens) : Tokens :=
  match ts with
  | ⟨line, .word w⟩ :: rest => ⟨line, .word (.literal [] true :: w)⟩ :: rest
  | ts => ts

def skipLines (ts : Tokens) : Tokens := ts.dropWhile (·.token.isMark "\n")

def expect (s : String) (ts : Tokens) : Except SyntaxFault Tokens :=
  if startsWith s ts then .ok (ts.drop 1) else .error (unexpected ts (some s))

def expectMark (s : String) (ts : Tokens) : Except SyntaxFault Tokens :=
  if startsWithMark s ts then .ok (ts.drop 1) else .error (unexpected ts (some s))

def endsList (ts : Tokens) : Bool :=
  match ts with
  | [] => true
  | ⟨_, .stop⟩ :: _ => true
  | ⟨_, .mark m⟩ :: _ => m == ")" || m == ";;"
  | ⟨_, t⟩ :: _ =>
    match t.plain? with
    | some s => ["do", "done", "then", "else", "elif", "fi", "esac", "\x7d"].contains s
    | none => false

def isName (s : String) : Bool :=
  match s.toList with
  | c :: cs => isNameStart c && cs.all isNameChar
  | [] => false

/-- A value of which every part between colons may start with a tilde, for the home directory. -/
def withHome (atStart : Bool) : Word → Word
  | [] => []
  | .literal [c] false :: rest =>
    let ends := match rest with
      | [] => true
      | .literal [d] false :: _ => d == '/' || d == ':'
      | _ => false
    if atStart && c == '~' && ends then .parameter "HOME" true :: withHome false rest
    else .literal [c] false :: withHome (c == ':') rest
  | p :: rest => p :: withHome false rest

def assignment? (w : Word) : Option (String × Word) :=
  let rec split (name : List Char) : Word → Option (String × Word)
    | .literal ['='] false :: rest =>
      if name.isEmpty then none else some (.ofList name.reverse, withHome true rest)
    | .literal [c] false :: rest =>
      if (if name.isEmpty then isNameStart c else isNameChar c) then split (c :: name) rest
      else none
    | _ => none
  split [] w

def readRedirect (ts : Tokens) : Except SyntaxFault (Option (Redirect × Tokens)) :=
  match ts with
  | ⟨_, .document d body⟩ :: rest => .ok (some (.document (d.getD 0) body, rest))
  | ⟨_, .redirect d mark⟩ :: ⟨_, .word w⟩ :: rest =>
    let r : Redirect := match mark with
      | "<" => .fromFile (d.getD 0) w
      | "<&" => .toDescriptor (d.getD 0) w
      | ">&" => .toDescriptor (d.getD 1) w
      | ">>" => .toFile (d.getD 1) true w
      | _ => .toFile (d.getD 1) false w
    .ok (some (r, rest))
  | ⟨_, .redirect _ _⟩ :: rest => .error (unexpected rest none)
  | _ => .ok none

def readRedirects : Nat → Tokens → Except SyntaxFault (List Redirect × Tokens)
  | 0, ts => .ok ([], ts)
  | fuel + 1, ts => do
    match ← readRedirect ts with
    | none => .ok ([], ts)
    | some (r, rest) => do
      let (rs, rest) ← readRedirects fuel rest
      return (r :: rs, rest)

def readWords : Tokens → List Word × Tokens
  | ⟨_, .word w⟩ :: rest =>
    let (ws, rest) := readWords rest
    (w :: ws, rest)
  | ts => ([], ts)

/-- Words and redirections of a simple command, in any order. -/
def readSimple : Nat → Tokens → Except SyntaxFault ((List Word × List Redirect) × Tokens)
  | 0, ts => .ok (([], []), ts)
  | fuel + 1, ts =>
    match ts with
    | ⟨_, .word w⟩ :: rest => do
      let ((ws, rs), rest) ← readSimple fuel rest
      return ((w :: ws, rs), rest)
    | ts => do
      match ← readRedirect ts with
      | none => .ok (([], []), ts)
      | some (r, rest) => do
        let ((ws, rs), rest) ← readSimple fuel rest
        return ((ws, r :: rs), rest)

/-- Parts the assignments at the start from the words after them. -/
def splitAssignments : List Word → List (String × Word) × List Word
  | [] => ([], [])
  | w :: ws =>
    match assignment? w with
    | some a =>
      let (as, ws) := splitAssignments ws
      (a :: as, ws)
    | none => ([], w :: ws)

def readPatterns : Nat → Tokens → Except SyntaxFault (List Word × Tokens)
  | 0, ts => .error (unexpected ts none)
  | fuel + 1, ts =>
    match ts with
    | ⟨_, .word w⟩ :: rest =>
      if startsWithMark "|" rest then do
        let (ws, rest) ← readPatterns fuel (rest.drop 1)
        return (w :: ws, rest)
      else do return ([w], ← expectMark ")" rest)
    | ts => .error (unexpected (if startsWithStop ts then ts else ts.drop 1) (some ")"))

/-- Commands that no function can take the place of. -/
def specialNames : List String := [
  ".", ":", "break", "continue", "eval", "exec", "exit", "export", "readonly", "return", "set",
  "shift", "times", "trap", "unset"]

mutual

/-- A list of commands: the whole of a line, or in a compound command as far as it goes. Where the
script ends there is none, and whoever asks for the list misses what has to follow it. -/
def readList (fuel : Nat) (wholeLine : Bool) (ts : Tokens) : ReadCommand :=
  match fuel with
  | 0 => .error (unexpected ts none)
  | fuel + 1 => do
    let ts := if wholeLine then ts else skipLines ts
    if startsWithStop ts then return (.simple (lineOf ts) [] [] [], ts)
    let (c, rest) ← readChain fuel ts
    readListRest fuel wholeLine c rest

def readListRest (fuel : Nat) (wholeLine : Bool) (c : Command) (ts : Tokens) :
    ReadCommand :=
  match fuel with
  | 0 => .error (unexpected ts none)
  | fuel + 1 =>
    let goOn (c : Command) (rest : Tokens) : ReadCommand :=
      let rest := if wholeLine then rest else skipLines rest
      let done := if wholeLine then startsWithStop rest || startsWithMark "\n" rest
        else endsList rest
      if done then .ok (c, rest)
      else do
        let (d, rest) ← readChain fuel rest
        let (d, rest) ← readListRest fuel wholeLine d rest
        return (.sequence c d, rest)
    match ts with
    | ⟨_, .mark ";"⟩ :: rest => goOn c rest
    | ⟨_, .mark "&"⟩ :: rest => goOn (.aside c) rest
    | ⟨_, .mark "\n"⟩ :: rest => if wholeLine then .ok (c, ts) else goOn c rest
    | _ =>
      if wholeLine && !startsWithStop ts then .error (unexpected ts none) else .ok (c, ts)

/-- Commands joined by `&&` and `||`, from left to right. -/
def readChain (fuel : Nat) (ts : Tokens) : ReadCommand :=
  match fuel with
  | 0 => .error (unexpected ts none)
  | fuel + 1 => do
    let (c, rest) ← readPipeline fuel ts
    readChainRest fuel c rest

def readChainRest (fuel : Nat) (c : Command) (ts : Tokens) : ReadCommand :=
  match fuel with
  | 0 => .error (unexpected ts none)
  | fuel + 1 =>
    let next (join : Command → Command → Command) (rest : Tokens) : ReadCommand := do
      let (d, rest) ← readPipeline fuel (skipLines rest)
      readChainRest fuel (join c d) rest
    match ts with
    | ⟨_, .mark "&&"⟩ :: rest => next .both rest
    | ⟨_, .mark "||"⟩ :: rest => next .either rest
    | _ => .ok (c, ts)

/-- Commands joined by `|`, perhaps with the opposite of their status. -/
def readPipeline (fuel : Nat) (ts : Tokens) : ReadCommand :=
  match fuel with
  | 0 => .error (unexpected ts none)
  | fuel + 1 =>
    if startsWith "!" ts then do
      let (c, rest) ← readPipes fuel (ts.drop 1)
      return (.negated c, rest)
    else readPipes fuel ts

def readPipes (fuel : Nat) (ts : Tokens) : ReadCommand :=
  match fuel with
  | 0 => .error (unexpected ts none)
  | fuel + 1 => do
    let (c, rest) ← readCommand fuel ts
    if startsWithMark "|" rest then
      let (d, rest) ← readPipes fuel (skipLines (rest.drop 1))
      return (.pipe c d, rest)
    else return (c, rest)

def readCommand (fuel : Nat) (ts : Tokens) : ReadCommand :=
  match fuel with
  | 0 => .error (unexpected ts none)
  | fuel + 1 =>
    let line := lineOf ts
    let body (ts : Tokens) : ReadCommand := readList fuel false ts
    let finish (c : Command) (ts : Tokens) : ReadCommand := do
      let (rs, rest) ← readRedirects (ts.length + 1) ts
      return (if rs.isEmpty then c else .redirected line c rs, rest)
    let plain := ts.head?.bind (·.token.plain?)
    match plain with
    | some "\x7b" => do
      let (c, rest) ← body (ts.drop 1)
      finish c (← expect "\x7d" rest)
    | some "if" => do
      let (c, rest) ← readCondition fuel (ts.drop 1)
      finish c rest
    | some "while" => do
      let (c, rest) ← readRepeated fuel true (ts.drop 1)
      finish c rest
    | some "until" => do
      let (c, rest) ← readRepeated fuel false (ts.drop 1)
      finish c rest
    | some "for" => do
      match (ts.drop 1).head?.bind (·.token.plain?) with
      | none => throw ⟨lineOf (ts.drop 1), "Syntax error: Bad for loop variable"⟩
      | some name =>
        if !isName name then throw ⟨line, "Syntax error: Bad for loop variable"⟩
        let rest := skipLines (ts.drop 2)
        let (words, rest) ←
          if startsWith "in" rest then
            let (ws, rest) := readWords (rest.drop 1)
            if startsWithMark "\n" rest || startsWithMark ";" rest then
              pure (some ws, rest.drop 1)
            else throw (unexpected rest none)
          else pure (none, if startsWithMark ";" rest then rest.drop 1 else rest)
        let (c, rest) ← body (← expect "do" (skipLines rest))
        finish (.loop line name words c) (← expect "done" rest)
    | some "case" => do
      match ts.drop 1 with
      | ⟨_, .word w⟩ :: rest => do
        let (branches, rest) ← readBranches fuel (skipLines (← expect "in" (skipLines rest)))
        finish (.cases line w branches) rest
      | rest => throw (expectingWord rest)
    | _ =>
      if startsWithMark "(" ts then do
        let (c, rest) ← body (ts.drop 1)
        finish (.apart c) (← expectMark ")" rest)
      else if plain.any fun s => reservedWords.contains s && s != "in" then
        .error (unexpected ts none)
      else if startsWithMark "(" (ts.drop 1) && startsWithWord ts then do
        let rest ← expectMark ")" (asWord (ts.drop 2))
        let name := plain.getD ""
        if !isName name || specialNames.contains name then
          throw ⟨line, "Syntax error: Bad function name"⟩
        let (c, rest) ← readCommand fuel (skipLines rest)
        return (.function name c, rest)
      else do
        let ((ws, rs), rest) ← readSimple (ts.length + 1) ts
        let (assignments, words) := splitAssignments ws
        if ws.isEmpty && rs.isEmpty then throw (unexpected ts none)
        return (.simple line assignments words rs, rest)

def readCondition (fuel : Nat) (ts : Tokens) : ReadCommand :=
  match fuel with
  | 0 => .error (unexpected ts none)
  | fuel + 1 => do
    let (condition, rest) ← readList fuel false ts
    let (accepted, rest) ← readList fuel false (← expect "then" rest)
    if startsWith "elif" rest then
      let (rejected, rest) ← readCondition fuel (rest.drop 1)
      return (.choice condition accepted (some rejected), rest)
    else if startsWith "else" rest then
      let (rejected, rest) ← readList fuel false (rest.drop 1)
      return (.choice condition accepted (some rejected), ← expect "fi" rest)
    else return (.choice condition accepted none, ← expect "fi" rest)

def readRepeated (fuel : Nat) (wanted : Bool) (ts : Tokens) : ReadCommand :=
  match fuel with
  | 0 => .error (unexpected ts none)
  | fuel + 1 => do
    let (condition, rest) ← readList fuel false ts
    let (c, rest) ← readList fuel false (← expect "do" rest)
    return (.repeated wanted condition c, ← expect "done" rest)

def readBranches (fuel : Nat) (ts : Tokens) :
    Except SyntaxFault ((List (List Word × Option Command)) × Tokens) :=
  match fuel with
  | 0 => .error (unexpected ts none)
  | fuel + 1 =>
    if startsWith "esac" ts then .ok ([], ts.drop 1)
    else do
      let ts := if startsWithMark "(" ts then ts.drop 1 else ts
      let (patterns, rest) ← readPatterns (ts.length + 1) ts
      let rest := skipLines rest
      let (c, rest) ←
        if endsList rest then pure (none, rest)
        else do
          let (c, rest) ← readList fuel false rest
          pure (some c, rest)
      if startsWithMark ";;" rest then
        let (more, rest) ← readBranches fuel (skipLines (rest.drop 1))
        return ((patterns, c) :: more, rest)
      else if startsWith "esac" rest then return ([(patterns, c)], rest.drop 1)
      else throw (unexpected rest (some ";;"))

end

def readScriptLines : Nat → Tokens → Script
  | 0, ts => { fault := some (unexpected ts none) }
  | fuel + 1, ts =>
    match skipLines ts with
    | [] => {}
    | [⟨_, .stop⟩] => {}
    | ts =>
      match readList (16 * ts.length + 16) true ts with
      | .error fault => { fault := some fault }
      | .ok (c, rest) =>
        let more := readScriptLines fuel rest
        { more with lines := c :: more.lines }

namespace Script

def ofText (s : String) : Script :=
  let ts := tokens s
  readScriptLines (ts.length + 1) ts

end Script

end AppScaffold.Host.Shell
