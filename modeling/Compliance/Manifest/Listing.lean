import Compliance.Manifest.Command
import Compliance.Manifest.Records
import Compliance.Text.Utf8
import Compliance.Work.World

/-!
Getting the manifest of a repository: the command is run in the folder of the repository, and what
it prints is read. The command must end well and must not complain.
-/

namespace Compliance.Manifest

def listed (c : Command) (output : Host.Output) : Except Failure (List Dependency) :=
  let complaints := Text.trim (Text.textOfBytes output.complaints)
  if !output.ending.isSuccess then
    .error (.of (.manifestFailed c.shown output.ending.text complaints))
  else if complaints ≠ "" then .error (.of (.manifestComplained c.shown complaints))
  else (parse (Text.textOfBytes output.written)).mapError fun e => .of (.manifestMalformed e)

def repository (path : String) : Action Host.Location := do
  let w ← get
  match w.tree.findFolder? w.folder path with
  | some location => return location
  | none => Action.fail (.repositoryMissing path)

def list (path : String) (c : Command) : Action (List Dependency) := do
  let location ← repository path
  Action.note (.readingManifest c.shown path)
  match ← modifyGet (·.startProgram ⟨location, c.program, c.args⟩) with
  | .error fault => Action.fail (.manifestNotStarted c.shown fault)
  | .ok output => Action.ofExcept (listed c output)

end Compliance.Manifest
