import AppScaffold.Host.Process

/-!
# Tasks

Work on files that may fail. What was done before a failure stays done.
-/

set_option autoImplicit false

namespace AppScaffold.Host

abbrev FileTask (α : Type) := ExceptT Report.Error (StateM Files) α

namespace FileTask

def look {α : Type} (f : Files → α) : FileTask α := do return f (← get)

/-- Changes the files, or fails with the error that the failure stands for. -/
def change (op : Files → Except Failure Files) (wrap : Failure → Report.Error) : FileTask Unit := do
  match op (← get) with
  | .ok fs => set fs
  | .error f => throw (wrap f)

def createDirs (path : String) (wrap : Failure → Report.Error) : FileTask Unit := do
  let (result, fs) := (← get).createDirs path
  set fs
  match result with
  | .ok () => pure ()
  | .error f => throw (wrap f)

def write (path : String) (contents : ByteArray) (wrap : Failure → Report.Error) : FileTask Unit :=
  change (fun fs => fs.write path contents) wrap

def read (path : String) (wrap : Failure → Report.Error) : FileTask ByteArray := do
  match (← get).read path with
  | .ok contents => return contents
  | .error f => throw (wrap f)

def during (what : String) (f : Failure) : Report.Error := f.toError.withContext what

end FileTask

end AppScaffold.Host
