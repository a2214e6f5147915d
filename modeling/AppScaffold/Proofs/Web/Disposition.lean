import AppScaffold.Web.MediaType

/-!
# Dispositions

A reader of the header that says how a response is to be used: a type, and parameters whose values
are tokens or stand between quotes. Between quotes a backslash takes the character behind it along,
so that a value may hold quotes.
-/

set_option autoImplicit false

namespace AppScaffold.Web

structure Disposition where
  type : String
  parameters : List (String × String)
deriving DecidableEq, Repr

namespace Disposition

open MediaType (isTokenChar isQuotable)

/-- A value between quotes, from behind the first one, and the rest. -/
def readQuoted? : List Char → Option (List Char × List Char)
  | [] => none
  | '"' :: rest => some ([], rest)
  | '\\' :: c :: rest => (readQuoted? rest).map fun (value, rest) => (c :: value, rest)
  | c :: rest =>
    if isQuotable c && c != '\\' then
      (readQuoted? rest).map fun (value, rest) => (c :: value, rest)
    else none

def readValue? : List Char → Option (List Char × List Char)
  | '"' :: rest => readQuoted? rest
  | cs =>
    if (cs.takeWhile isTokenChar).isEmpty then none
    else some (cs.takeWhile isTokenChar, cs.dropWhile isTokenChar)

def readParameter? (cs : List Char) : Option ((String × String) × List Char) :=
  match cs.takeWhile isTokenChar, cs.dropWhile isTokenChar with
  | [], _ => none
  | name, '=' :: rest =>
    (readValue? rest).map fun (value, rest) => ((.ofList name, .ofList value), rest)
  | _, _ => none

/-- Parameters, each behind a semicolon; `fuel` bounds their number. -/
def readParameters? : Nat → List Char → Option (List (String × String))
  | 0, _ => none
  | fuel + 1, cs =>
    match cs.dropWhile (· == ' ') with
    | [] => some []
    | ';' :: rest => do
      let (parameter, rest) ← readParameter? (rest.dropWhile (· == ' '))
      return parameter :: (← readParameters? fuel rest)
    | _ => none

def ofText? (s : String) : Option Disposition :=
  let type := s.toList.takeWhile isTokenChar
  if type.isEmpty then none
  else
    (readParameters? (s.toList.length + 1) (s.toList.dropWhile isTokenChar)).map
      fun parameters => ⟨.ofList type, parameters⟩

section Tokens

variable {token rest : List Char} {c : Char}

end Tokens

example : ofText? "attachment; filename=\"a\\\"b\"; size=3" =
    some ⟨"attachment", [("filename", "a\"b"), ("size", "3")]⟩ := by decide

end Disposition

end AppScaffold.Web
