import Compliance.CommandLine.Options
import Compliance.Manifest.Listing

/-!
What the runs of both programs share: how they end, how the dependencies are listed, how a client
is made and how JSON is handed out.
-/

namespace Compliance.Run

/-- How a run ends that did not give up. -/
inductive Status
  | success
  | failure
  deriving DecidableEq, Repr

def Status.code : Status → UInt8
  | .success => 0
  | .failure => 1

def nothingToDo : String := "依存関係がありません。処理は不要です。"

def dependencies (repository : String) (c : CommandLine.Common) : Action (List Dependency) := do
  let command ← Action.ofExcept c.manifestCommand
  Manifest.list repository command

def httpClient (s : Http.Settings) : Except Failure Http.Client :=
  (Http.Client.make s).mapError fun e => ⟨["HTTPクライアントの初期化に失敗しました"], .http e⟩

def githubClient (c : CommandLine.Common) : Except Failure GitHub.Client :=
  (httpClient c.settings).map fun http => .make http c.githubAddress c.githubToken

def printTable : Option String → Action Unit
  | some table => Action.print table
  | none => return ()

def writeJson (json path : String) : Action Unit := do
  .under ("JSONファイルの書き込みに失敗: " ++ path) (Action.ofHost (·.writeFile path json))
  Action.print ("JSONを" ++ path ++ "に書き出しました。")

/-- Hands out a value as JSON, to a file if one is given and in print if that is asked for. -/
def publish (v : Json.Value) (inPrint : Bool) (file : Option String) : Action Unit := do
  match file with
  | some path => writeJson v.pretty path
  | none => pure ()
  if inPrint then Action.print ("JSON出力:\n" ++ v.pretty)

end Compliance.Run
