import Compliance.Dependency
import Compliance.Work.Job

/-!
The folder in which licenses are kept, each in a file of its own that is named for the repository.
-/

namespace Compliance.License

structure Store where
  folder : String
  deriving DecidableEq, Repr

namespace Store

def pathFor (s : Store) (r : Coordinates) : String := Host.Path.join s.folder r.fileName

/-- Opens the store in a folder, which is made if it is not there. -/
def openAt (folder : String) : Action Store :=
  .under ("ライセンスディレクトリの作成に失敗: " ++ folder) do
    Action.ofHost (·.makeFolders folder)
    return ⟨folder⟩

def contains (s : Store) (r : Coordinates) : Job Bool := lookForFile (s.pathFor r)

def write (s : Store) (r : Coordinates) (text : String) : Job (Except Failure Unit) := do
  match ← storeText (s.pathFor r) text with
  | .ok () => return .ok ()
  | .error fault =>
    return .error ⟨["ライセンスファイルの書き込みに失敗: " ++ s.pathFor r], .host fault⟩

end Store

end Compliance.License
