import AppScaffold.Host.Shell.Printing
import AppScaffold.Host.Process
import AppScaffold.Host.Shell.Test

/-!
# Small tools

The programs of a machine that work on texts and files and start no other program.
-/

set_option autoImplicit false

namespace AppScaffold.Host.Tools

structure Job where
  /-- What the tool was called by. -/
  name : String
  files : Files
  environment : Environment
  input : ByteArray
  args : List String

/-- A tool ends, and may have changed the files. -/
abbrev Tool := Job → Finished × Files

def Job.print (j : Job) (output : ByteArray) : Finished × Files :=
  ({ ending := .exited 0, output := output }, j.files)

def Job.printText (j : Job) (output : String) : Finished × Files := j.print output.toUTF8

def Job.says (j : Job) (message : String) : ByteArray := (j.name ++ ": " ++ message ++ "\n").toUTF8

def Job.refuse (j : Job) (status : Nat) (message : String) : Finished × Files :=
  ({ ending := .exited status, errors := j.says message }, j.files)

def reason (f : Failure) : String :=
  match f with
  | .system e => e.text
  | f => f.message

def Job.options (j : Job) : List String × List String :=
  j.args.partition fun a => Text.startsWith a "-" && a != "-"

/-- What is to be read: the files that are named, or the input. -/
def Job.sources (j : Job) (paths : List String) : List (String × Except Failure ByteArray) :=
  if paths.isEmpty then [("-", .ok j.input)]
  else paths.map fun p =>
    (p, if p == "-" then .ok j.input
      else if p == "/dev/null" then .ok .empty
      else j.files.read p)

/-- Prints what comes of each source, and complains about those that cannot be read. -/
def Job.perSource (j : Job) (complaint : String → String → String) (paths : List String)
    (f : ByteArray → ByteArray) : Finished × Files :=
  let (out, errors) := (j.sources paths).foldl (fun (out, errors) (path, contents) =>
    match contents with
    | .ok bytes => (out ++ f bytes, errors)
    | .error e => (out, errors ++ j.says (complaint path (reason e))))
    (ByteArray.empty, ByteArray.empty)
  ({ ending := .exited (if errors.size == 0 then 0 else 1)
     output := out, errors := errors }, j.files)

/-- What most tools say about a path. -/
def plainly (path reason : String) : String := path ++ ": " ++ reason

def Job.misused (j : Job) (message : String) : Finished × Files :=
  j.refuse 1 (message ++ "\nTry '" ++ j.name ++ " --help' for more information.")

/-- Does what is wanted for the paths, of which there has to be one. -/
def Job.needing (j : Job) (what : String) (paths : List String)
    (f : List String → Finished × Files) : Finished × Files :=
  if paths.isEmpty then j.misused ("missing " ++ what) else f paths

/-- Applies a change for each path and collects what is said about those that fail. -/
def Job.changeEach (j : Job) (change : Files → String → Except Failure Files)
    (complaint : String → String → String) (paths : List String) : Finished × Files :=
  let (fs, errors) := paths.foldl (fun (fs, errors) path =>
    match change fs path with
    | .ok fs => (fs, errors)
    | .error f => (fs, errors ++ j.says (complaint path (reason f))))
    (j.files, ByteArray.empty)
  ({ ending := .exited (if errors.size == 0 then 0 else 1), errors := errors }, fs)

/-! ## Lines -/

def byteLines (bytes : ByteArray) : List (List UInt8) :=
  let pieces := (split [] [] bytes.toList).reverse
  if pieces.getLast? == some [] then pieces.dropLast else pieces
where
  split (done : List (List UInt8)) (line : List UInt8) : List UInt8 → List (List UInt8)
    | [] => line.reverse :: done
    | b :: rest =>
      if b == 10 then split ((b :: line).reverse :: done) [] rest else split done (b :: line) rest

def ofLines (lines : List (List UInt8)) : ByteArray := ⟨lines.flatten.toArray⟩

/-- How much of a text is wanted: so many lines or bytes, counted from the other end if `back`
holds. -/
structure Extent where
  ofBytes : Bool := false
  count : Nat := 10
  back : Bool := false

/-- The extent that an option with this letter asks for, where a sign before the count may turn it
around. -/
def extent (sign letter : Char) (count : String) : Except String Extent :=
  let ofBytes := letter == 'c'
  let (back, ds) := match count.toList with
    | '+' :: ds => (sign == '+', ds)
    | '-' :: ds => (sign == '-', ds)
    | ds => (false, ds)
  match (String.ofList ds).toNat? with
  | some n => .ok ⟨ofBytes, n, back⟩
  | none =>
    .error ("invalid number of " ++ (if ofBytes then "bytes" else "lines") ++ ": '" ++ count ++ "'")

def readExtent (sign : Char) (given : Extent) : List String → Except String (Extent × List String)
  | [] => .ok (given, [])
  | "-n" :: n :: rest => do readExtent sign (← extent sign 'n' n) rest
  | "-c" :: n :: rest => do readExtent sign (← extent sign 'c' n) rest
  | a :: rest =>
    match a.toList with
    | '-' :: 'n' :: d :: ds => do readExtent sign (← extent sign 'n' (.ofList (d :: ds))) rest
    | '-' :: 'c' :: d :: ds => do readExtent sign (← extent sign 'c' (.ofList (d :: ds))) rest
    | '-' :: d :: ds =>
      if d.isDigit then do readExtent sign (← extent sign 'n' (.ofList (d :: ds))) rest
      else readExtent sign given rest
    | _ => do
      let (given, paths) ← readExtent sign given rest
      return (given, a :: paths)

def cutOut (sign : Char) (f : Extent → ByteArray → ByteArray) (j : Job) :
    Finished × Files :=
  match readExtent sign {} j.args with
  | .error message => j.refuse 1 message
  | .ok (extent, paths) =>
    let complaint (path reason : String) : String :=
      if j.files.isDir path then "error reading '" ++ path ++ "': " ++ reason
      else "cannot open '" ++ path ++ "' for reading: " ++ reason
    j.perSource complaint paths (f extent)

def head : Tool := cutOut '-' fun extent bytes =>
  let kept (all : Nat) : Nat := if extent.back then all - extent.count else extent.count
  if extent.ofBytes then bytes.extract 0 (kept bytes.size)
  else
    let lines := byteLines bytes
    ofLines (lines.take (kept lines.length))

def tail : Tool := cutOut '+' fun extent bytes =>
  let dropped (all : Nat) : Nat := if extent.back then extent.count - 1 else all - extent.count
  if extent.ofBytes then bytes.extract (dropped bytes.size) bytes.size
  else
    let lines := byteLines bytes
    ofLines (lines.drop (dropped lines.length))

def wc (j : Job) : Finished × Files :=
  let (options, paths) := j.options
  let wants (letter : Char) : Bool := options.isEmpty || options.any (·.toList.contains letter)
  let several := options.isEmpty || 2 < (String.join options).length
  let counts (bytes : ByteArray) : List Nat :=
    let lines := bytes.toList.count 10
    let words := ((Text.splitBy (fun c => c == ' ' || c == '\n' || c == '\t')
      (Text.decodeLossy bytes).toList).filter (!·.isEmpty)).length
    (if wants 'l' then [lines] else []) ++ (if wants 'w' then [words] else []) ++
      (if wants 'c' then [bytes.size] else [])
  let width := if several && paths.isEmpty then 7 else 0
  let column (n : Nat) : String :=
    let ds := Nat.repr n
    String.ofList (List.replicate (width - ds.length) ' ') ++ ds
  let write (path : String) (bytes : ByteArray) : String :=
    Text.joinWith " " ((counts bytes).map column ++ if path == "-" then [] else [path]) ++ "\n"
  j.perSource plainly paths fun bytes =>
    (write ((paths.head?).getD "-") bytes).toUTF8

def seq (j : Job) : Finished × Files :=
  let print (first step last : Int) : Finished × Files :=
    let count : Nat :=
      if step == 0 then 0 else if 0 < step then ((last - first) / step + 1).toNat
      else ((first - last) / (-step) + 1).toNat
    j.printText (String.join ((List.range count).map fun (i : Nat) =>
      toString (first + step * (i : Int)) ++ "\n"))
  match j.args.find? (·.toInt?.isNone), j.args.map fun a => a.toInt?.getD 0 with
  | some a, _ => j.misused ("invalid floating point argument: '" ++ a ++ "'")
  | none, [] => j.misused "missing operand"
  | none, [last] => print 1 1 last
  | none, [first, last] => print first 1 last
  | none, [first, step, last] => print first step last
  | none, _ => j.misused ("extra operand '" ++ (j.args[3]?).getD "" ++ "'")

/-! ## Files -/

def mkdir (j : Job) : Finished × Files :=
  let (options, paths) := j.options
  let makeAll (fs : Files) (path : String) : Except Failure Files :=
    match fs.createDirs path with
    | (.ok (), fs) => .ok fs
    | (.error f, _) => .error f
  j.needing "operand" paths <|
    j.changeEach (if options.contains "-p" then makeAll else Files.createDir)
      (fun p t => "cannot create directory '" ++ p ++ "': " ++ t)

def touch (j : Job) : Finished × Files :=
  j.needing "file operand" j.options.2 <|
    j.changeEach (fun fs p => if fs.exists? p then .ok fs else fs.write p .empty)
      (fun p t => "cannot touch '" ++ p ++ "': " ++ t)

def removeTree (fs : Files) (path : String) : Except Failure Files := do
  let found ← fs.find false path
  match found.node with
  | none => .error (.system .notFound)
  | some _ => fs.replaceRoot (fs.root.remove found.location)

def rm (j : Job) : Finished × Files :=
  let (options, paths) := j.options
  let has (letter : Char) : Bool := options.any (·.toList.contains letter)
  let remove := if has 'r' || has 'R' then removeTree else Files.removeFile
  let removeEach := j.changeEach (fun fs p =>
      match fs.find false p, has 'f' with
      | .ok ⟨_, none, _⟩, true => .ok fs
      | .error _, true => .ok fs
      | _, _ => remove fs p)
    (fun p t => "cannot remove '" ++ p ++ "': " ++ t)
  if has 'f' then removeEach paths else j.needing "operand" paths removeEach

def rmdir (j : Job) : Finished × Files :=
  j.needing "operand" j.options.2 <| j.changeEach (fun fs p =>
      match fs.node? p with
      | some (.dir []) => removeTree fs p
      | some (.dir _) => .error (.system ⟨39⟩)
      | some _ => .error (.system .notDirectory)
      | none => .error (.system .notFound))
    (fun p t => "failed to remove '" ++ p ++ "': " ++ t)

/-- Where a file goes that is put to a target: into it, if that is a directory. -/
def placeIn (fs : Files) (source target : String) : String :=
  if fs.isDir target then Path.join target ((Path.fileName? source).getD source) else target

/-- Puts files to a target, the last of the paths. A change is told the file and its new
path. -/
def Job.changeInto (j : Job) (wholeTrees : Bool) (paths : List String)
    (change : Files → String → String → Except Failure Files) : Finished × Files :=
  match paths.reverse with
  | [] => j.misused "missing file operand"
  | [path] => j.misused ("missing destination file operand after '" ++ path ++ "'")
  | target :: sources =>
    if 1 < sources.length && !j.files.isDir target then
      j.refuse 1 ("target '" ++ target ++ "'" ++
        if j.files.exists? target then " is not a directory" else ": No such file or directory")
    else
      let complaint (path reason : String) : String :=
        if !wholeTrees && j.files.isDir path then
          "-r not specified; omitting directory '" ++ path ++ "'"
        else if j.files.exists? path then
          "cannot create regular file '" ++ placeIn j.files path target ++ "': " ++ reason
        else "cannot stat '" ++ path ++ "': " ++ reason
      j.changeEach (fun fs source => change fs source (placeIn fs source target)) complaint
        sources.reverse

def copyTree (fs : Files) (source target : String) : Except Failure Files := do
  let from_ ← fs.find true source
  let to_ ← fs.find false target
  match from_.node with
  | none => .error (.system .notFound)
  | some node => fs.replaceRoot (Node.put node to_.location fs.root)

def cp (j : Job) : Finished × Files :=
  let (options, paths) := j.options
  let wholeTrees := options.any fun o => o.toList.any fun c => c == 'r' || c == 'R' || c == 'a'
  j.changeInto wholeTrees paths (if wholeTrees then copyTree else Files.copy)

def mv (j : Job) : Finished × Files :=
  j.changeInto true j.options.2 fun fs source target => do
    let from_ ← fs.find false source
    let to_ ← fs.find false target
    match from_.node with
    | none => .error (.system .notFound)
    | some node => do
      let fs ← fs.replaceRoot (fs.root.remove from_.location)
      fs.replaceRoot (Node.put node to_.location fs.root)

def ln (j : Job) : Finished × Files :=
  let (options, paths) := j.options
  let has (letter : Char) : Bool := options.any (·.toList.contains letter)
  let link (target path : String) : Finished × Files :=
    j.changeEach (fun fs _ => do
        let path := placeIn fs target path
        let found ← fs.find false path
        if found.node.isSome && !has 'f' then .error (.system .alreadyExists)
        else if has 's' then fs.replaceRoot (Node.put (.link target) found.location fs.root)
        else fs.copy target path)
      (fun p t => "failed to create " ++ (if has 's' then "symbolic link '" else "hard link '")
        ++ p ++ "': " ++ t) [path]
  match paths with
  | [target, path] => link target path
  | [target] => link target "."
  | [] => j.misused "missing file operand"
  | _ => j.refuse 1 "too many operands"

def chmod (j : Job) : Finished × Files :=
  match j.args.filter (· != "-R") with
  | [] => j.misused "missing operand"
  | [mode] => j.misused ("missing operand after '" ++ mode ++ "'")
  | mode :: paths =>
    let digits := mode.toList.all Shell.isOctal
    let letters := mode.toList.all fun c => "ugoarwxXst+-=,".toList.contains c
    let marks := if digits then mode.toList.any (fun c => (c.toNat - '0'.toNat) % 2 == 1)
      else mode.toList.contains 'x' && !mode.toList.contains '-'
    let keeps := !digits && !mode.toList.contains 'x' && !mode.toList.contains '='
    if !digits && (!letters || !mode.toList.any fun c => "+-=".toList.contains c) then
      j.misused ("invalid mode: '" ++ mode ++ "'")
    else j.changeEach (fun fs p => do
        let found ← fs.find true p
        match found.node with
        | some (.file contents before) =>
          let marked := if keeps then before else marks
          fs.replaceRoot (Node.put (.file contents marked) found.location fs.root)
        | some _ => .ok fs
        | none => .error (.system .notFound))
      (fun p t => "cannot access '" ++ p ++ "': " ++ t) paths

def ls (j : Job) : Finished × Files :=
  let (options, paths) := j.options
  let all := options.any fun o => o.toList.contains 'a' || o.toList.contains 'A'
  let paths := if paths.isEmpty then ["."] else paths
  let (out, errors) := paths.foldl (fun (out, errors) path =>
    match j.files.node? path with
    | some (.dir children) =>
      let names := (children.map (·.1)).filter fun n => all || !Text.startsWith n "."
      (out ++ String.join (names.map (· ++ "\n")), errors)
    | some _ => (out ++ path ++ "\n", errors)
    | none =>
      (out, errors ++ j.says ("cannot access '" ++ path ++ "': No such file or directory")))
    ("", ByteArray.empty)
  ({ ending := .exited (if errors.size == 0 then 0 else 2)
     output := out.toUTF8, errors := errors }, j.files)

def tee (j : Job) : Finished × Files :=
  let (options, paths) := j.options
  let (finished, fs) := j.changeEach (fun fs p =>
      let old := if options.contains "-a" then (fs.read p).toOption.getD .empty else .empty
      fs.write p (old ++ j.input))
    plainly paths
  ({ finished with output := j.input }, fs)

/-! ## Texts -/

def basename (j : Job) : Finished × Files :=
  match j.args with
  | [] => j.misused "missing operand"
  | path :: rest =>
    let name := (Path.fileName? path).getD (if Path.isAbsolute path then "/" else path)
    let ending := (rest.headD "").toList
    let cs := name.toList
    let stem := match Text.dropLiteral? ending.reverse cs.reverse with
      | some stem => if stem.isEmpty then cs else stem.reverse
      | none => cs
    j.printText (String.ofList stem ++ "\n")

def dirname (j : Job) : Finished × Files :=
  match j.args with
  | [] => j.misused "missing operand"
  | path :: _ =>
    let above := match Path.parent? path with
      | some "" => "."
      | some above => above
      | none => if Path.isAbsolute path then "/" else "."
    j.printText (above ++ "\n")

def echo (j : Job) : Finished × Files := j.print (Shell.extendedEcho j.args)

def printf (j : Job) : Finished × Files :=
  match j.args with
  | [] => j.misused "missing operand"
  | format :: args =>
    let printed := Shell.printf (args.length + 1) format args
    let errors := printed.complaints.foldl (fun errors c => errors ++ j.says c) ByteArray.empty
    ({ ending := .exited (if printed.complaints.isEmpty then 0 else 1)
       output := printed.bytes, errors := errors }, j.files)

def test (j : Job) : Finished × Files :=
  match Shell.Test.holds j.files j.args with
  | .ok b => ({ ending := .exited (if b then 0 else 1) }, j.files)
  | .error f => j.refuse 2 f.message

def printenv (j : Job) : Finished × Files :=
  match j.args with
  | [] => j.printText (String.join (j.environment.map fun v => v.1 ++ "=" ++ v.2 ++ "\n"))
  | names =>
    let values := names.filterMap j.environment.get?
    ({ ending := .exited (if values.length == names.length then 0 else 1)
       output := (String.join (values.map (· ++ "\n"))).toUTF8 }, j.files)

/-- The set of characters that an argument of `tr` writes: ranges and escapes. -/
def charSet : Nat → List Char → List Char
  | 0, _ => []
  | _ + 1, [] => []
  | fuel + 1, '\\' :: c :: rest =>
    let ds := (c :: rest).takeWhile Shell.isOctal
    if ds.isEmpty then ((Shell.simpleEscape? c).getD c) :: charSet fuel rest
    else
      let ds := ds.take 3
      Char.ofNat (Shell.octalValue ds) :: charSet fuel ((c :: rest).drop ds.length)
  | fuel + 1, low :: '-' :: high :: rest =>
    (List.range (high.toNat + 1 - low.toNat)).map (fun i => Char.ofNat (low.toNat + i)) ++
      charSet fuel rest
  | fuel + 1, c :: rest => c :: charSet fuel rest

def tr (j : Job) : Finished × Files :=
  let set (s : String) : List UInt8 :=
    (charSet (s.length + 1) s.toList).map fun c => c.toNat.toUInt8
  match j.args with
  | ["-d", a] =>
    let drop := set a
    j.print ⟨(j.input.toList.filter (!drop.contains ·)).toArray⟩
  | [a, b] =>
    let from_ := set a
    let to_ := set b
    j.print ⟨(j.input.toList.map fun c =>
      match from_.idxOf? c with
      | some i => (to_[i]?.orElse fun _ => to_.getLast?).getD c
      | none => c).toArray⟩
  | [a] => j.misused ("missing operand after '" ++ a ++
      "'\nTwo strings must be given when translating.")
  | _ => j.misused "missing operand"

def sort (j : Job) : Finished × Files :=
  let (options, paths) := j.options
  let sorting (bytes : ByteArray) : ByteArray :=
    let lines := (byteLines bytes).map fun l => if l.getLast? == some 10 then l else l ++ [10]
    let sorted := lines.mergeSort fun a b => decide (a ≤ b)
    let sorted := if options.contains "-u" then sorted.eraseReps else sorted
    ofLines (if options.contains "-r" then sorted.reverse else sorted)
  let (finished, fs) := j.perSource (fun p t => "cannot read: " ++ p ++ ": " ++ t) paths sorting
  (if finished.success then finished else { finished with ending := .exited 2 }, fs)

def uniq (j : Job) : Finished × Files :=
  j.perSource plainly j.options.2 fun bytes => ofLines (byteLines bytes).eraseReps

/-- Waits no time at all, for any time that makes sense. -/
def sleep (j : Job) : Finished × Files :=
  let isTime (a : String) : Bool :=
    let cs := a.toList
    let number := if ['s', 'm', 'h', 'd'].contains (cs.getLast?.getD ' ') then cs.dropLast else cs
    let whole := number.takeWhile Char.isDigit
    match number.drop whole.length with
    | [] => !whole.isEmpty
    | '.' :: part => (!whole.isEmpty || !part.isEmpty) && part.all Char.isDigit
    | _ => a == "inf" || a == "infinity"
  j.needing "operand" j.args fun times =>
    match times.find? (!isTime ·) with
    | some a => j.misused ("invalid time interval '" ++ a ++ "'")
    | none => (({} : Finished), j.files)

def id (j : Job) : Finished × Files :=
  let letters := j.options.1.flatMap String.toList
  j.printText (if letters.contains 'n' then "root\n"
    else if letters.contains 'u' || letters.contains 'g' then "0\n"
    else "uid=0(root) gid=0(root) groups=0(root)\n")

def which (j : Job) : Finished × Files :=
  let paths := j.options.2.map (j.files.which? j.environment)
  ({ ending := .exited (if paths.all Option.isSome && !paths.isEmpty then 0 else 1)
     output := (String.join (paths.map fun p => match p with
       | some p => p ++ "\n"
       | none => "")).toUTF8 }, j.files)

/-! ## All tools -/

def quiet (status : Nat) : Tool := fun j => ({ ending := .exited status }, j.files)

def cat (j : Job) : Finished × Files := j.perSource plainly j.options.2 fun bytes => bytes

def saying (text : String) : Tool := fun j => j.printText (text ++ "\n")

def pwd (j : Job) : Finished × Files :=
  j.printText ("/" ++ Text.joinWith "/" j.files.workingDir ++ "\n")

def tac (j : Job) : Finished × Files :=
  j.perSource (fun p t => "failed to open '" ++ p ++ "' for reading: " ++ t) j.options.2
    fun bytes => ofLines (byteLines bytes).reverse

def byName : List (String × Tool) := [
  ("[", fun j => test { j with args := j.args.dropLast }), ("basename", basename), ("cat", cat),
  ("chmod", chmod), ("cp", cp), ("dirname", dirname), ("echo", echo), ("false", quiet 1),
  ("head", head), ("hostname", saying "localhost"), ("id", id), ("ln", ln), ("ls", ls),
  ("mkdir", mkdir), ("mv", mv), ("printenv", printenv), ("printf", printf), ("pwd", pwd),
  ("rm", rm), ("rmdir", rmdir), ("seq", seq), ("sleep", sleep), ("sort", sort), ("tac", tac),
  ("tail", tail), ("tee", tee), ("test", test), ("touch", touch), ("tr", tr), ("true", quiet 0),
  ("uname", saying "Linux"), ("uniq", uniq), ("wc", wc), ("which", which),
  ("whoami", saying "root")]

/-- The tools that take their input if they are given no file. -/
def readsInput : List String :=
  ["bash", "cat", "dash", "head", "sh", "sort", "tac", "tail", "tee", "tr", "uniq", "wc"]

end AppScaffold.Host.Tools
