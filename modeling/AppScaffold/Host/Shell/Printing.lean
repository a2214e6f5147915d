import AppScaffold.Host.Shell.Arithmetic
import AppScaffold.Text.Split

/-!
# Printing by the shell

Escapes in texts, and formats into which arguments are put.
-/

set_option autoImplicit false

namespace AppScaffold.Host.Shell

/-! ## Escapes -/

def octalValue (ds : List Char) : Nat := ds.foldl (fun n d => n * 8 + (d.toNat - '0'.toNat)) 0

def isOctal (c : Char) : Bool := '0' ≤ c && c ≤ '7'

def simpleEscape? : Char → Option Char
  | 'a' => some '\x07'
  | 'b' => some '\x08'
  | 'f' => some '\x0c'
  | 'n' => some '\n'
  | 'r' => some '\r'
  | 't' => some '\t'
  | 'v' => some '\x0b'
  | '\\' => some '\\'
  | _ => none

/-- The bytes of a text with escapes; an octal number stands for one byte, behind a needed zero if
`zero` holds. The flag says that the output is to end here. -/
def unescape (zero : Bool) : Nat → List Char → ByteArray × Bool
  | 0, _ => (.empty, false)
  | fuel + 1, cs =>
    let push (bytes : ByteArray) (rest : List Char) : ByteArray × Bool :=
      let (more, stop) := unescape zero fuel rest
      (bytes ++ more, stop)
    let octal (most : Nat) (rest : List Char) : ByteArray × Bool :=
      let ds := (rest.take most).takeWhile isOctal
      push (ByteArray.mk #[(octalValue ds).toUInt8]) (rest.drop ds.length)
    match cs with
    | [] => (.empty, false)
    | '\\' :: 'c' :: rest => if zero then (.empty, true) else push "\\c".toUTF8 rest
    | '\\' :: '0' :: rest => if zero then octal 3 rest else octal 3 ('0' :: rest)
    | '\\' :: c :: rest =>
      match simpleEscape? c with
      | some e => push (String.singleton e).toUTF8 rest
      | none =>
        if isOctal c && !zero then octal 3 (c :: rest)
        else push ("\\" ++ String.singleton c).toUTF8 rest
    | c :: rest => push (String.singleton c).toUTF8 rest

/-- The words with blanks between them and a line end behind, unless they are to be `bare`. -/
def writeWords (bare escapes : Bool) (words : List String) : ByteArray :=
  let text := Text.joinWith " " words
  let (bytes, stop) :=
    if escapes then unescape true (text.length + 1) text.toList else (text.toUTF8, false)
  if bare || stop then bytes else bytes ++ "\n".toUTF8

/-- Prints words; escapes always count, and `-n` in front leaves the line end out. -/
def plainEcho : List String → ByteArray
  | "-n" :: words => writeWords true true words
  | words => writeWords false true words

/-- Prints words; escapes count after `-e` up to `-E`, and `-n` leaves the line end out. -/
def extendedEcho (args : List String) : ByteArray :=
  let options := args.takeWhile fun a =>
    match a.toList with
    | '-' :: c :: cs => (c :: cs).all ['n', 'e', 'E'].contains
    | _ => false
  let letters := options.flatMap String.toList
  let escapes := (letters.filter fun c => c == 'e' || c == 'E').getLast? == some 'e'
  writeWords (letters.contains 'n') escapes (args.drop options.length)

/-! ## Formats -/

/-- What stands between the percent sign and the letter of a conversion. -/
structure Layout where
  left : Bool := false
  zeros : Bool := false
  plus : Bool := false
  blank : Bool := false
  width : Nat := 0
  precision : Option Nat := none
deriving DecidableEq, Repr, Inhabited

namespace Layout

/-- Sets a flag; a character that is none leaves the layout as it is. -/
def withFlag (l : Layout) (c : Char) : Layout :=
  if c == '-' then { l with left := true }
  else if c == '0' then { l with zeros := true }
  else if c == '+' then { l with plus := true }
  else if c == ' ' then { l with blank := true }
  else l

def pad (l : Layout) (bytes : ByteArray) : ByteArray :=
  let gap := (String.ofList (List.replicate (l.width - bytes.size) ' ')).toUTF8
  if l.left then bytes ++ gap else gap ++ bytes

def writeText (l : Layout) (bytes : ByteArray) : ByteArray :=
  l.pad (match l.precision with
    | some n => bytes.extract 0 n
    | none => bytes)

def writeNumber (l : Layout) (sign digits : String) : ByteArray :=
  let least := match l.precision with
    | some n => n
    | none => if l.zeros && !l.left then l.width - sign.length else 0
  let zeros := String.ofList (List.replicate (least - digits.length) '0')
  l.pad (sign ++ zeros ++ digits).toUTF8

end Layout

/-- What printing comes to: bytes, the arguments that are left, and what is said about arguments
that are no numbers. -/
structure Printed where
  bytes : ByteArray := .empty
  left : List String := []
  complaints : List String := []
  failed : Bool := false
  /-- The output is to end here. -/
  stop : Bool := false

def numberOf (arg : String) : Int × Option String :=
  match arg.toList with
  | [] => (0, none)
  | q :: rest =>
    if q == '\'' || q == '"' then ((rest.head?.map fun c => (c.toNat : Int)).getD 0, none)
    else
      let (negative, ds) := match q :: rest with
        | '-' :: ds => (true, ds)
        | '+' :: ds => (false, ds)
        | ds => (false, ds)
      let good := (List.range (ds.length + 1)).reverse.find? fun n => (constant? (ds.take n)).isSome
      match good with
      | none => (0, some (arg ++ ": expected numeric value"))
      | some n =>
        let value : Int := ((constant? (ds.take n)).getD 0 : Nat)
        (if negative then -value else value,
          if n == ds.length then none else some (arg ++ ": not completely converted"))

def digitsIn (base : Nat) (upper : Bool) (n : Nat) : String :=
  let s := String.ofList (Nat.toDigits base n)
  if upper then s.toUpper else s

/-- One conversion of an argument; the flag says that the output ends with it, if the letter makes
sense at all. -/
def convert (l : Layout) (kind : Char) (arg : String) : ByteArray × List String × Bool :=
  let signed (digits : Nat → String) : ByteArray × List String × Bool :=
    let (n, complaint) := numberOf arg
    let sign := if n < 0 then "-" else if l.plus then "+" else if l.blank then " " else ""
    (l.writeNumber sign (digits n.natAbs), complaint.toList, false)
  let unsigned (digits : Nat → String) : ByteArray × List String × Bool :=
    let (n, complaint) := numberOf arg
    (l.writeNumber "" (digits (n % 0x10000000000000000).toNat), complaint.toList, false)
  match kind with
  | 's' => (l.writeText arg.toUTF8, [], false)
  | 'b' =>
    let (bytes, stop) := unescape true (arg.length + 1) arg.toList
    (l.writeText bytes, [], stop)
  | 'c' => (l.pad (arg.toUTF8.extract 0 1), [], false)
  | 'd' => signed Nat.repr
  | 'i' => signed Nat.repr
  | 'u' => unsigned Nat.repr
  | 'x' => unsigned (digitsIn 16 false)
  | 'X' => unsigned (digitsIn 16 true)
  | 'o' => unsigned (digitsIn 8 false)
  | _ => (.empty, [], true)

/-- A width or a precision: digits, or a star for the next argument. -/
def readMeasure (cs : List Char) (args : List String) : Nat × List Char × List String :=
  match cs with
  | '*' :: rest => ((numberOf (args.headD "")).1.toNat, rest, args.drop 1)
  | cs =>
    let ds := cs.takeWhile Char.isDigit
    (ds.foldl (fun n d => n * 10 + (d.toNat - '0'.toNat)) 0, cs.drop ds.length, args)

def formatOnce : Nat → List Char → List String → Printed
  | 0, _, args => { left := args }
  | fuel + 1, cs, args =>
    let andThen (bytes : ByteArray) (complaints : List String) (rest : List Char)
        (args : List String) : Printed :=
      let more := formatOnce fuel rest args
      { more with bytes := bytes ++ more.bytes, complaints := complaints ++ more.complaints }
    match cs with
    | [] => { left := args }
    | '%' :: '%' :: rest => andThen "%".toUTF8 [] rest args
    | '%' :: rest =>
      let flags := rest.takeWhile fun c => ['-', '0', '+', ' ', '#'].contains c
      let layout := flags.foldl Layout.withFlag {}
      let (width, rest, args) := readMeasure (rest.drop flags.length) args
      let (precision, rest, args) := match rest with
        | '.' :: rest =>
          let (n, rest, args) := readMeasure rest args
          (some n, rest, args)
        | rest => (none, rest, args)
      match rest with
      | [] => { complaints := ["missing format character"], failed := true, stop := true }
      | kind :: rest =>
        let layout := { layout with width := width, precision := precision }
        let (bytes, complaints, stop) := convert layout kind (args.headD "")
        if stop && kind == 'b' then { bytes := bytes, stop := true }
        else if stop then
          let directive := String.ofList (cs.take (cs.length - rest.length))
          { complaints := [directive ++ ": invalid directive"], failed := true, stop := true }
        else andThen bytes complaints rest (args.drop 1)
    | cs =>
      let plain := match cs with
        | c :: rest => c :: rest.takeWhile (· != '%')
        | [] => []
      let (bytes, stop) := unescape false (plain.length + 1) plain
      if stop then { bytes := bytes, left := [], stop := true }
      else andThen bytes [] (cs.drop plain.length) args

/-- A format is used again until it has taken all arguments. -/
def printf : Nat → String → List String → Printed
  | 0, _, _ => {}
  | fuel + 1, format, args =>
    let cs := format.toList
    let once := formatOnce (cs.length + 1) cs args
    if once.stop || once.left.isEmpty || once.left.length == args.length then once
    else
      let more := printf fuel format once.left
      { more with
        bytes := once.bytes ++ more.bytes, complaints := once.complaints ++ more.complaints }

end AppScaffold.Host.Shell
