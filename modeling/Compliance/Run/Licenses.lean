import Compliance.License.Table
import Compliance.Run.Common

/-!
The run that fetches and stores the licenses of all dependencies. It is a success only if every
license is there in the end.
-/

namespace Compliance.Run

def concludeLicenses (report : License.Report) : Action Status := do
  if report.allResolved then
    Action.print "完了しました。"
    return .success
  else
    Action.print "ERROR: 一部のライセンスが見つかりませんでした。"
    Action.note (.unresolved (report.unresolved.map (·.root)))
    return .failure

def fetchLicenses (o : CommandLine.Licenses) (ds : List Dependency) : Action License.Report := do
  let store ← License.Store.openAt o.folder
  let github ← Action.ofExcept (githubClient o.common)
  modifyGet (License.fetchAll github store o.stalePolicy o.common.workers ds)

def handOut (o : CommandLine.Licenses) (report : License.Report) : Action Status := do
  printTable report.table?
  publish report.json o.printJson o.jsonFile
  concludeLicenses report

/-- The run behind the listing of the dependencies. -/
def licensesFrom (o : CommandLine.Licenses) (ds : List Dependency) : Action Status := do
  Action.note (.manifestRead ds.length)
  if ds.isEmpty then
    Action.print nothingToDo
    return .success
  else handOut o (← fetchLicenses o ds)

def runLicenses (o : CommandLine.Licenses) : Action Status := do
  Action.print "> Goの依存関係を取得し、ライセンスを保存します..."
  licensesFrom o (← dependencies o.repository o.common)

end Compliance.Run
