import AppScaffold.Host.Node
import AppScaffold.Host.Path
import AppScaffold.Host.SystemError

/-!
# File systems

A tree seen from a working directory. Paths are followed through symbolic links, and every
operation fails for the reasons for which the system refuses it.
-/

set_option autoImplicit false

namespace AppScaffold.Host

inductive Failure where
  | system (e : SystemError)
  | nulInPath
  | notText
  | noParent
  | notRegular
  /-- The name or an argument of a program holds a NUL. -/
  | nulInArgument
deriving DecidableEq, Repr, Inhabited

namespace Failure

def message : Failure → String
  | .system e => e.message
  | .nulInPath => "file name contained an unexpected NUL byte"
  | .notText => "stream did not contain valid UTF-8"
  | .noParent => "failed to create whole tree"
  | .notRegular => "the source path is neither a regular file nor a symlink to a regular file"
  | .nulInArgument => "nul byte found in provided data"

def code : Failure → Report.Code
  | .system e => e.code
  | _ => .ioError

def toError (f : Failure) : Report.Error :=
  { code := f.code, message := f.message, sources := [f.message] }

end Failure

structure Files where
  root : Node := .emptyDir
  workingDir : Location := []
deriving Inhabited

/-- What a path leads to: a location, and the node there if there is one. -/
structure Found where
  location : Location
  node : Option Node
  /-- The path ends in a way that only a directory can have. -/
  asDir : Bool
deriving Inhabited

namespace Files

/-- The greatest number of links on the way to a file. -/
def maxLinks : Nat := 40

def maxNameLength : Nat := 255

def maxPathLength : Nat := 4095

/-- The names of a path; the second part says that only a directory will do. -/
def names (path : String) : List String × Bool :=
  let pieces := Path.pieces path
  let last := pieces.getLast?
  (pieces.filter fun p => p != "" && p != ".", last == some "" || last == some ".")

/-- Follows names from a location on. A link in the last place is followed if `follow` says so. -/
def descend (root : Node) (follow : Bool) : Nat → Nat → Location → List String → Bool →
    Except SystemError Found
  | 0, _, _, _, _ => .error .tooManyLinks
  | _ + 1, _, here, [], asDir => .ok ⟨here, root.at? here, asDir⟩
  | fuel + 1, links, here, name :: rest, asDir =>
    if maxNameLength < name.utf8ByteSize then .error .nameTooLong
    else if name == ".." then descend root follow fuel links here.dropLast rest asDir
    else
      let next := here ++ [name]
      match root.at? next with
      | none => if rest.isEmpty then .ok ⟨next, none, asDir⟩ else .error .notFound
      | some (.dir children) =>
        if rest.isEmpty then .ok ⟨next, some (.dir children), asDir⟩
        else descend root follow fuel links next rest asDir
      | some (.file contents executable) =>
        if rest.isEmpty && !asDir then .ok ⟨next, some (.file contents executable), asDir⟩
        else .error .notDirectory
      | some (.link target) =>
        if rest.isEmpty && !follow && !asDir then .ok ⟨next, some (.link target), asDir⟩
        else if links == 0 then .error .tooManyLinks
        else if target.isEmpty then .error .notFound
        else
          let (targetNames, targetDir) := names target
          let start := if Path.isAbsolute target then [] else here
          descend root follow fuel (links - 1) start (targetNames ++ rest)
            (asDir || (rest.isEmpty && targetDir))

def find (fs : Files) (follow : Bool) (path : String) : Except Failure Found :=
  if path.toList.contains '\x00' then .error .nulInPath
  else if path.isEmpty then .error (.system .notFound)
  else if maxPathLength < path.utf8ByteSize then .error (.system .nameTooLong)
  else
    let (ns, asDir) := names path
    let start := if Path.isAbsolute path then [] else fs.workingDir
    -- each link adds at most the names of one path
    let fuel := (maxLinks + 1) * (maxPathLength + 1)
    (descend fs.root follow fuel maxLinks start ns asDir).mapError .system

def node? (fs : Files) (path : String) : Option Node :=
  match fs.find true path with
  | .ok found => found.node
  | .error _ => none

def exists? (fs : Files) (path : String) : Bool := (fs.node? path).isSome

def isDir (fs : Files) (path : String) : Bool := (fs.node? path).any Node.isDir

def isFile (fs : Files) (path : String) : Bool := (fs.node? path).any Node.isFile

def replaceRoot (fs : Files) (root : Option Node) : Except Failure Files :=
  match root with
  | some r => .ok { fs with root := r }
  | none => .error (.system .notFound)

def read (fs : Files) (path : String) : Except Failure ByteArray := do
  match (← fs.find true path).node with
  | none => .error (.system .notFound)
  | some (.file contents _) => .ok contents
  | some _ => .error (.system .isDirectory)

def readText (fs : Files) (path : String) : Except Failure String := do
  match String.fromUTF8? (← fs.read path) with
  | some s => .ok s
  | none => .error .notText

def write (fs : Files) (path : String) (contents : ByteArray) : Except Failure Files := do
  let found ← fs.find true path
  match found.node with
  | some (.file _ executable) =>
    fs.replaceRoot (Node.put (.file contents executable) found.location fs.root)
  | some _ => .error (.system .isDirectory)
  | none =>
    if found.asDir then .error (.system .isDirectory)
    else fs.replaceRoot (Node.put (.file contents false) found.location fs.root)

def createDir (fs : Files) (path : String) : Except Failure Files := do
  let found ← fs.find false path
  match found.node with
  | some _ => .error (.system .alreadyExists)
  | none => fs.replaceRoot (Node.put .emptyDir found.location fs.root)

/-- Makes a directory after those above it; `fuel` bounds how many there are. What was made before
a failure stays. -/
def createDirsFrom : Nat → String → Files → Except Failure Unit × Files
  | 0, _, fs => (.error .noParent, fs)
  | fuel + 1, path, fs =>
    if path.isEmpty then (.ok (), fs)
    else
      match fs.createDir path with
      | .ok fs => (.ok (), fs)
      | .error e =>
        if e == .system .notFound then
          match Path.parent? path with
          | none => (.error .noParent, fs)
          | some above =>
            match createDirsFrom fuel above fs with
            | (.error e, fs) => (.error e, fs)
            | (.ok (), fs) =>
              match fs.createDir path with
              | .ok fs => (.ok (), fs)
              | .error e => (if fs.isDir path then .ok () else .error e, fs)
        else (if fs.isDir path then .ok () else .error e, fs)

def createDirs (fs : Files) (path : String) : Except Failure Unit × Files :=
  createDirsFrom (path.length + 1) path fs

def removeFile (fs : Files) (path : String) : Except Failure Files := do
  let found ← fs.find false path
  match found.node with
  | none => .error (.system .notFound)
  | some (.dir _) => .error (.system .isDirectory)
  | some _ => fs.replaceRoot (fs.root.remove found.location)

/-- Copies a regular file with its contents and its mode. A file copied onto itself is emptied. -/
def copy (fs : Files) (source target : String) : Except Failure Files := do
  let from_ ← fs.find true source
  match from_.node with
  | none => .error (.system .notFound)
  | some (.file contents executable) => do
    let to_ ← fs.find true target
    let contents := if to_.location == from_.location then .empty else contents
    let fs ← fs.write target contents
    fs.replaceRoot (Node.put (.file contents executable) to_.location fs.root)
  | some _ => .error .notRegular

end Files

end AppScaffold.Host
