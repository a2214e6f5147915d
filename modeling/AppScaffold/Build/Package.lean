import AppScaffold.Archive.Zip
import AppScaffold.Host.FileTask

/-!
# Packaging

A directory becomes an archive: its regular files by relative path, depth first and siblings by
name, then the entries that are given. Links are neither followed nor stored, and the archive does
not hold itself.
-/

set_option autoImplicit false

namespace AppScaffold.Build

open Host (FileTask Files Failure Item Location Path.join Path.components Path.parent?)
open Report (Error)

structure Summary where
  path : String
  entries : Nat
  bytes : Nat
  digest : String
deriving DecidableEq, Repr, Inhabited

def packagingError (target reason : String) : Error :=
  { code := .packagingError, message := "Failed to write " ++ target ++ ": " ++ reason }

def entryName (l : Location) : String := Text.joinWith "/" l

/-- The files of a directory that go into an archive at `target`. -/
def packagedFiles (keep : Location → Item → Bool) (root target : String) (n : Host.Node) :
    List Archive.Entry :=
  let own (l : Location) : Bool :=
    Path.components (l.foldl Path.join root) == Path.components target
  ((n.walk keep).filter fun f => !own f.1).map fun f => ⟨entryName f.1, f.2, 0o644⟩

def duplicateName (name : String) : String := "invalid Zip archive: Duplicate filename: " ++ name

def openTarget (target : String) : FileTask Unit := do
  match Path.parent? target with
  | some above => FileTask.createDirs above Failure.toError
  | none => pure ()
  FileTask.write target .empty Failure.toError

/-- Packs what passes of the directory `root` into the archive `target`. -/
def packageWhere (keep : Location → Item → Bool) (extra : List (String × String))
    (root target : String) : FileTask Summary := do
  if !(← FileTask.look (·.isDir root)) then throw (.fileNotFound root)
  openTarget target
  let files ← FileTask.look fun fs => ((fs.node? root).map (packagedFiles keep root target)).getD []
  let extra := extra.map fun e => (⟨e.1, e.2.toUTF8, 0o644⟩ : Archive.Entry)
  let (archive, clash) := Archive.addAll [] (files ++ extra)
  let bytes := archive.encode
  FileTask.write target bytes Failure.toError
  match clash with
  | some name => throw (packagingError target (duplicateName name))
  | none => return ⟨target, archive.length, bytes.size, Archive.sha256 bytes⟩

def byName (keep : String → Bool → Bool) (l : Location) (a : Item) : Bool :=
  keep (l.getLast?.getD "") a.isDir

def packageDirectory (keep : String → Bool → Bool) (extra : List (String × String))
    (root target : String) : FileTask Summary :=
  packageWhere (byName keep) extra root target

def packageNote : String :=
  "This is a mock APK file created by ZeroApp Builder for demonstration purposes."

def packageProject (dir target : String) : FileTask Summary :=
  packageDirectory (fun _ _ => true) [("README.txt", packageNote)] dir target

def sourceNote : String :=
  "# ZeroApp Builder\n\n" ++
  "A zero-cost app creation platform that allows building and publishing Android apps to the " ++
  "Play Store.\n\n" ++
  "## Getting Started\n\n" ++
  "1. Build the server: `cargo build --release`\n" ++
  "2. Start it: `zeroapp serve`\n" ++
  "3. Open your browser to: `http://localhost:5000`\n"

def excludedDirs : List String := ["target", "node_modules", "tmp"]

def endsWith (s ending : String) : Bool :=
  (Text.dropLiteral? ending.toList.reverse s.toList.reverse).isSome

/-- Hidden files, packages and the directories of builds stay out of a source download. -/
def isSource (name : String) (isDir : Bool) : Bool :=
  !Text.startsWith name "." && !(isDir && excludedDirs.contains name) && !endsWith name ".apk"

def packageSource (dir target : String) : FileTask Summary :=
  packageDirectory isSource [("README.md", sourceNote)] dir target

end AppScaffold.Build
