import AppScaffold.Host.FileTask
import AppScaffold.Render.Project

/-!
# Writing projects

The documents of a rendered project go to files below a directory, one after the other.
-/

set_option autoImplicit false

namespace AppScaffold.Build

open Host (FileTask Path.join Path.parent?)

def writeFile (dir : String) (f : Render.GeneratedFile) : FileTask String := do
  let path := Path.join dir f.path
  match Path.parent? path with
  | some above => FileTask.createDirs above (FileTask.during ("creating " ++ above))
  | none => pure ()
  FileTask.write path f.contents.toUTF8 (FileTask.during ("writing " ++ path))
  return path

def writeFiles (dir : String) : List Render.GeneratedFile → FileTask (List String)
  | [] => return []
  | f :: rest => do
    let path ← writeFile dir f
    return path :: (← writeFiles dir rest)

/-- Writes a project below a directory; the paths come in the order of writing. -/
def writeProject (dir : String) (r : Render.RenderedProject) : FileTask (List String) :=
  writeFiles dir r.files

end AppScaffold.Build
