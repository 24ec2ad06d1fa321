import Compliance.Host.Fault
import Compliance.Http.Error
import Compliance.Json.Fault

/-!
Why a run gives up. A failure is a cause under the headings of what was being done, the outermost
heading first; a cause may itself be a chain of reasons.
-/

namespace Compliance

inductive Cause
  | repositoryMissing (path : String)
  | manifestNotStarted (command : String) (fault : Host.Fault)
  | manifestFailed (command status complaints : String)
  | manifestComplained (command complaints : String)
  | manifestMalformed (error : Json.Error)
  | commitDate (repository revision reason : String)
  | answerMalformed (error : Json.Error)
  | rejected (status : Http.Status)
  | settingMissing (name : String)
  | commandEmpty
  | http (error : Http.Error)
  | host (fault : Host.Fault)
  deriving DecidableEq, Repr

namespace Cause

def text : Cause → String
  | repositoryMissing path => "リポジトリのディレクトリが存在しません: " ++ path
  | manifestNotStarted command fault =>
    "`" ++ command ++ "` を起動できませんでした: " ++ fault.message
  | manifestFailed command status complaints =>
    "`" ++ command ++ "` が失敗しました (" ++ status ++ "): " ++ complaints
  | manifestComplained command complaints =>
    "`" ++ command ++ "` が標準エラーに出力しました: " ++ complaints
  | manifestMalformed error => "依存関係マニフェストの解析に失敗しました: " ++ error.message
  | commitDate repository revision reason =>
    "コミット日付を取得できませんでした (" ++ repository ++ "@" ++ revision ++ "): " ++ reason
  | answerMalformed error => "WhiteSourceのレスポンスを解析できませんでした: " ++ error.message
  | rejected status => "WhiteSourceが送信を拒否しました: HTTP " ++ toString status
  | settingMissing name => "環境変数 " ++ name ++ " が設定されていません"
  | commandEmpty => "--dep-command が空です"
  | http error => error.headline
  | host fault => fault.message

/-- A cause with the reasons behind it. Some causes name the reason behind them in their own text
and have it behind them as well. -/
def chain (c : Cause) : List String :=
  match c with
  | manifestNotStarted _ fault => [c.text, fault.message]
  | manifestMalformed error => [c.text, error.message]
  | answerMalformed error => [c.text, error.message]
  | http error => error.chain
  | _ => [c.text]

end Cause

structure Failure where
  headings : List String
  cause : Cause
  deriving DecidableEq, Repr

namespace Failure

def of (c : Cause) : Failure := ⟨[], c⟩

def under (heading : String) (f : Failure) : Failure := ⟨heading :: f.headings, f.cause⟩

def message (f : Failure) : String := ": ".intercalate (f.headings ++ f.cause.chain)

end Failure

end Compliance
