import Compliance.GitHub.Client
import Compliance.License.Fetch
import Compliance.Dependency
import Compliance.Submission.Library
import Compliance.Work.Batch

/-!
From the dependencies of a manifest to the libraries that are submitted. A version that is only a
branch is made definite by the day of the commit, if the module is on GitHub; otherwise the name of
the branch has to do. The module of system calls is never submitted.
-/

namespace Compliance.Submission

def targets (dependencies : List Dependency) : List Dependency :=
  dependencies.filter (·.root ≠ License.systemCalls)

def branch? (version : String) : Option String := Text.after? "branch " version

def repository? (root : String) : Option String := Text.after? "github.com/" root

def resolveVersion (github : GitHub.Client) (d : Dependency) : Job (Except Failure String) := do
  match branch? d.version with
  | none => return .ok d.version
  | some branch =>
    match repository? d.root with
    | none => return .ok branch
    | some repository =>
      match ← github.commitDate repository d.revision with
      | .error failure => return .error failure
      | .ok date => return .ok (branch ++ "_" ++ date)

def libraryJob (github : GitHub.Client) (d : Dependency) : Job (Except Failure Library) := do
  let r := Coordinates.ofPath d.root
  match ← resolveVersion github d with
  | .error failure => return .error (failure.under ("バージョンの解決に失敗: " ++ d.root))
  | .ok version =>
    writeNotice (.resolved r.owner r.name version)
    return .ok ⟨r, version⟩

/-- All values of a list, or the first failure in it. -/
def collect {α : Type} : List (Except Failure α) → Except Failure (List α)
  | [] => .ok []
  | .error failure :: _ => .error failure
  | .ok a :: rest => (collect rest).map (a :: ·)

/-- The libraries for all dependencies that are submitted. All of them are looked up even if one
fails. -/
def libraries (github : GitHub.Client) (workers : Nat) (dependencies : List Dependency)
    (w : World) : Except Failure (List Library) × World :=
  let done := Batch.run workers ((targets dependencies).map (libraryJob github)) w
  (collect done.1, done.2)

end Compliance.Submission
