import AppScaffold.Host.Environment

/-!
# Arithmetic of the shell

Expressions over integers of 64 bits, with variables and assignments to them. Truth is any number
but zero.
-/

set_option autoImplicit false

namespace AppScaffold.Host.Shell

inductive ArithmeticFault where
  | expectingPrimary
  | expectingColon
  | expectingClose
  | expectingEnd
  | divisionByZero
  | illegalNumber (value : String)
deriving DecidableEq, Repr, Inhabited

def ArithmeticFault.message (expression : String) (f : ArithmeticFault) : String :=
  let about (what : String) : String :=
    "arithmetic expression: " ++ what ++ ": \"" ++ expression ++ "\""
  match f with
  | .expectingPrimary => about "expecting primary"
  | .expectingColon => about "expecting ':'"
  | .expectingClose => about "expecting ')'"
  | .expectingEnd => about "expecting EOF"
  | .divisionByZero => about "division by zero"
  | .illegalNumber value => "Illegal number: " ++ value

inductive Operator where
  | add | sub | mul | div | rem
  | shiftLeft | shiftRight
  | less | lessEqual | greater | greaterEqual | equal | notEqual
  | bitAnd | bitXor | bitOr
  | both | either
deriving DecidableEq, Repr, Inhabited

def Operator.strength : Operator → Nat
  | .mul | .div | .rem => 10
  | .add | .sub => 9
  | .shiftLeft | .shiftRight => 8
  | .less | .lessEqual | .greater | .greaterEqual => 7
  | .equal | .notEqual => 6
  | .bitAnd => 5
  | .bitXor => 4
  | .bitOr => 3
  | .both => 2
  | .either => 1

inductive Sign where
  | plus | minus | invert | negate
deriving DecidableEq, Repr, Inhabited

inductive Expression where
  | number (n : Int)
  | variableOf (name : String)
  | signed (sign : Sign) (e : Expression)
  | binary (op : Operator) (a b : Expression)
  | choice (condition accepted rejected : Expression)
  /-- The new value is the operator applied to the old one and the expression, if there is one. -/
  | assign (name : String) (op : Option Operator) (e : Expression)
deriving Repr, Inhabited

/-! ## Values -/

/-- The integer of 64 bits that a result wraps around to. -/
def wrapped (n : Int) : Int := Int.bmod n 0x10000000000000000

def ofTruth (b : Bool) : Int := if b then 1 else 0

def bitwise (f : UInt64 → UInt64 → UInt64) (a b : Int) : Int :=
  wrapped (f (UInt64.ofInt a) (UInt64.ofInt b)).toNat

def Operator.apply (op : Operator) (a b : Int) : Except ArithmeticFault Int :=
  match op with
  | .add => .ok (wrapped (a + b))
  | .sub => .ok (wrapped (a - b))
  | .mul => .ok (wrapped (a * b))
  | .div => if b == 0 then .error .divisionByZero else .ok (wrapped (a.tdiv b))
  | .rem => if b == 0 then .error .divisionByZero else .ok (a.tmod b)
  | .shiftLeft => .ok (wrapped (a * Nat.pow 2 (b % 64).toNat))
  | .shiftRight => .ok (a.fdiv (Nat.pow 2 (b % 64).toNat))
  | .less => .ok (ofTruth (a < b))
  | .lessEqual => .ok (ofTruth (a ≤ b))
  | .greater => .ok (ofTruth (b < a))
  | .greaterEqual => .ok (ofTruth (b ≤ a))
  | .equal => .ok (ofTruth (a == b))
  | .notEqual => .ok (ofTruth (a != b))
  | .bitAnd => .ok (bitwise (· &&& ·) a b)
  | .bitXor => .ok (bitwise (· ^^^ ·) a b)
  | .bitOr => .ok (bitwise (· ||| ·) a b)
  | .both => .ok (ofTruth (a != 0 && b != 0))
  | .either => .ok (ofTruth (a != 0 || b != 0))

def Sign.apply (sign : Sign) (a : Int) : Int :=
  match sign with
  | .plus => a
  | .minus => wrapped (-a)
  | .invert => -a - 1
  | .negate => ofTruth (a == 0)

def digit? (base : Nat) (c : Char) : Option Nat :=
  let n :=
    if c.isDigit then c.toNat - '0'.toNat
    else if 'a' ≤ c && c ≤ 'f' then c.toNat - 'a'.toNat + 10
    else if 'A' ≤ c && c ≤ 'F' then c.toNat - 'A'.toNat + 10
    else base
  if n < base then some n else none

/-- A number in the base that its start gives: hexadecimal, octal or decimal. -/
def constant? (cs : List Char) : Option Nat :=
  let value (base : Nat) (ds : List Char) : Option Nat :=
    ds.foldlM (fun n d => (digit? base d).map (n * base + ·)) 0
  match cs with
  | [] => none
  | '0' :: 'x' :: c :: ds => value 16 (c :: ds)
  | '0' :: 'X' :: c :: ds => value 16 (c :: ds)
  | '0' :: ds => value 8 ds
  | ds => value 10 ds

/-- The number that the value of a variable is; nothing is zero. -/
def variableNumber (value : String) : Except ArithmeticFault Int :=
  let isGap (c : Char) : Bool := c == ' ' || c == '\t' || c == '\n'
  let cs := ((value.toList.dropWhile isGap).reverse.dropWhile isGap).reverse
  let (negative, ds) := match cs with
    | '-' :: ds => (true, ds)
    | '+' :: ds => (false, ds)
    | ds => (false, ds)
  if cs.isEmpty then .ok 0
  else
    match constant? ds with
    | some n => .ok (wrapped (if negative then -n else n))
    | none => .error (.illegalNumber value)

/-- The value of an expression, and the variables after its assignments. -/
def Expression.eval (vars : Environment) :
    Expression → Except ArithmeticFault (Int × Environment)
  | .number n => .ok (n, vars)
  | .variableOf name => do
    return (← variableNumber ((vars.get? name).getD ""), vars)
  | .signed sign e => do
    let (a, vars) ← e.eval vars
    return (sign.apply a, vars)
  | .binary op a b => do
    let (x, vars) ← a.eval vars
    if (op == .both && x == 0) || (op == .either && x != 0) then
      return (ofTruth (x != 0), vars)
    let (y, vars) ← b.eval vars
    return (← op.apply x y, vars)
  | .choice condition accepted rejected => do
    let (x, vars) ← condition.eval vars
    if x != 0 then accepted.eval vars else rejected.eval vars
  | .assign name op e => do
    let (y, vars) ← e.eval vars
    let z ← match op with
      | none => .ok y
      | some op => do op.apply (← variableNumber ((vars.get? name).getD "")) y
    return (z, vars.set name (toString z))

/-! ## Reading expressions -/

def isNameStart (c : Char) : Bool := c.isAlpha || c == '_'

def isNameChar (c : Char) : Bool := c.isAlphanum || c == '_'

def skipGaps (cs : List Char) : List Char :=
  cs.dropWhile fun c => c == ' ' || c == '\t' || c == '\n'

/-- Operators by their marks, the longer mark first. -/
def operatorMarks : List (String × Operator) := [
  ("<<", .shiftLeft), (">>", .shiftRight), ("<=", .lessEqual), (">=", .greaterEqual),
  ("==", .equal), ("!=", .notEqual), ("&&", .both), ("||", .either), ("+", .add), ("-", .sub),
  ("*", .mul), ("/", .div), ("%", .rem), ("<", .less), (">", .greater), ("&", .bitAnd),
  ("^", .bitXor), ("|", .bitOr)]

def readOperator (cs : List Char) : Option (Operator × List Char) :=
  operatorMarks.findSome? fun (mark, op) =>
    (Text.dropLiteral? mark.toList cs).map (op, ·)

def readAssignment (cs : List Char) : Option (Option Operator × List Char) :=
  match cs with
  | '=' :: '=' :: _ => none
  | '=' :: rest => some (none, rest)
  | cs => do
    let (op, rest) ← readOperator cs
    let plain := !([.less, .greater, .both, .either, .lessEqual, .greaterEqual, .equal,
      .notEqual].contains op)
    match rest with
    | '=' :: rest => if plain then some (some op, rest) else none
    | _ => none

/-- What reading comes to: a value and the characters after it. -/
abbrev ReadExpression := Except ArithmeticFault (Expression × List Char)

mutual

def readExpression : Nat → List Char → ReadExpression
  | 0, _ => .error .expectingPrimary
  | fuel + 1, cs =>
    let cs := skipGaps cs
    let name := cs.takeWhile isNameChar
    match (cs.head?.any isNameStart), readAssignment (skipGaps (cs.drop name.length)) with
    | true, some (op, rest) => do
      let (e, rest) ← readExpression fuel rest
      return (.assign (.ofList name) op e, rest)
    | _, _ => do
      let (condition, rest) ← readBinary fuel 1 cs
      match skipGaps rest with
      | '?' :: rest => do
        let (accepted, rest) ← readExpression fuel rest
        match skipGaps rest with
        | ':' :: rest => do
          let (rejected, rest) ← readExpression fuel rest
          return (.choice condition accepted rejected, rest)
        | _ => .error .expectingColon
      | rest => .ok (condition, rest)

/-- An operand and the operators after it that bind at least so tightly. -/
def readBinary : Nat → Nat → List Char → ReadExpression
  | 0, _, _ => .error .expectingPrimary
  | fuel + 1, strength, cs => do
    let (a, rest) ← readPrimary fuel cs
    readOperands fuel strength a rest

def readOperands : Nat → Nat → Expression → List Char → ReadExpression
  | 0, _, _, _ => .error .expectingPrimary
  | fuel + 1, strength, a, cs =>
    match readOperator (skipGaps cs) with
    | some (op, rest) =>
      if op.strength < strength then .ok (a, cs)
      else do
        let (b, rest) ← readBinary fuel (op.strength + 1) rest
        readOperands fuel strength (.binary op a b) rest
    | none => .ok (a, cs)

def readPrimary : Nat → List Char → ReadExpression
  | 0, _ => .error .expectingPrimary
  | fuel + 1, cs =>
    let signed (sign : Sign) (rest : List Char) : ReadExpression := do
      let (e, rest) ← readPrimary fuel rest
      return (.signed sign e, rest)
    match skipGaps cs with
    | '(' :: rest => do
      let (e, rest) ← readExpression fuel rest
      match skipGaps rest with
      | ')' :: rest => .ok (e, rest)
      | _ => .error .expectingClose
    | '+' :: rest => signed .plus rest
    | '-' :: rest => signed .minus rest
    | '~' :: rest => signed .invert rest
    | '!' :: rest => signed .negate rest
    | cs =>
      let word := cs.takeWhile isNameChar
      let rest := cs.drop word.length
      if cs.head?.any isNameStart then .ok (.variableOf (.ofList word), rest)
      else
        let lengths := (List.range (word.length + 1)).reverse
        match lengths.find? fun n => (constant? (word.take n)).isSome with
        | some n => .ok (.number (wrapped ((constant? (word.take n)).getD 0)), cs.drop n)
        | none => .error .expectingPrimary

end

/-- The expression that a text writes; an empty text is zero. -/
def Expression.ofText (s : String) : Except ArithmeticFault Expression :=
  let cs := skipGaps s.toList
  if cs.isEmpty then .ok (.number 0)
  else
    match readExpression (4 * cs.length + 8) cs with
    | .ok (e, rest) => if (skipGaps rest).isEmpty then .ok e else .error .expectingEnd
    | .error f => .error f

end AppScaffold.Host.Shell
