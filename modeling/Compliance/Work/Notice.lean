import Compliance.Duration
import Compliance.Http.Message
import Compliance.License.Outcome
import Compliance.Text.Quoted

/-!
What is written to the log. Every notice has a level, a target that says which part of the program
it comes from, and a text made of a sentence and of named values behind it.
-/

namespace Compliance

inductive Level
  | error
  | warn
  | info
  | debug
  deriving DecidableEq, Repr

namespace Level

def text : Level → String
  | error => "ERROR"
  | warn => "WARN"
  | info => "INFO"
  | debug => "DEBUG"

def rank : Level → Nat
  | error => 1
  | warn => 2
  | info => 3
  | debug => 4

end Level

inductive Notice
  | readingManifest (command folder : String)
  | manifestRead (count : Nat)
  | retryAfterStatus (status : Http.Status) (attempt : Nat) (pause : Duration)
  | retryAfterError (error : String) (attempt : Nat) (pause : Duration)
  | rateLimited (slug : String) (status : Http.Status)
  | outcome (slug : String) (o : License.Outcome)
  | resolved (owner name version : String)
  | replyNotJson (status : Http.Status) (body : String)
  | unresolved (modules : List String)
  deriving DecidableEq, Repr

namespace Notice

def level : Notice → Level
  | readingManifest _ _ => .debug
  | manifestRead _ => .debug
  | retryAfterStatus _ _ _ => .warn
  | retryAfterError _ _ _ => .warn
  | rateLimited _ _ => .warn
  | outcome _ o => if o.isResolved then .info else .warn
  | resolved _ _ _ => .info
  | replyNotJson _ _ => .error
  | unresolved _ => .info

def target : Notice → String
  | readingManifest _ _ => "godep_scout::manifest"
  | manifestRead _ => "godep_scout::run"
  | retryAfterStatus _ _ _ => "godep_scout::http"
  | retryAfterError _ _ _ => "godep_scout::http"
  | rateLimited _ _ => "godep_scout::licenses"
  | outcome _ _ => "godep_scout::licenses"
  | resolved _ _ _ => "godep_scout::whitesource"
  | replyNotJson _ _ => "godep_scout::whitesource"
  | unresolved _ => "godep_scout::run"

def sentence : Notice → String
  | readingManifest _ _ => "マニフェストを取得"
  | manifestRead _ => "マニフェストを読み込みました"
  | retryAfterStatus _ _ _ => "サーバーエラーのため再試行します"
  | retryAfterError _ _ _ => "通信エラーのため再試行します"
  | rateLimited slug status =>
    slug ++ ": HTTP " ++ status.text ++ " のため既存ファイルを使用します (レート制限の可能性)"
  | outcome slug o => slug ++ ": " ++ o.describe
  | resolved owner name version => owner ++ " " ++ name ++ " " ++ version
  | replyNotJson _ _ => "WhiteSourceのレスポンスがJSONではありません"
  | unresolved _ => "ライセンス未取得"

def fields : Notice → List (String × String)
  | readingManifest command folder => [("command", command), ("dir", folder)]
  | manifestRead count => [("count", toString count)]
  | retryAfterStatus status attempt pause =>
    [("status", status.text), ("attempt", toString attempt), ("delay", pause.text)]
  | retryAfterError error attempt pause =>
    [("error", error), ("attempt", toString attempt), ("delay", pause.text)]
  | replyNotJson status body => [("status", status.text), ("body", body)]
  | unresolved modules => [("modules", Text.quotedList modules)]
  | _ => []

/-- The names of the values of a notice, of which its sentence is one. -/
def names (n : Notice) : List String := "message" :: n.fields.map (·.1)

def fieldsText (n : Notice) : String :=
  String.join (n.fields.map fun f => " " ++ f.1 ++ "=" ++ f.2)

def line (n : Notice) : String := n.level.text ++ " " ++ n.sentence ++ n.fieldsText

/-- The line of a notice as it is shown on a terminal: its sentence cannot command the terminal. -/
def shownLine (n : Notice) : String :=
  n.level.text ++ " " ++ Text.shielded n.sentence ++ n.fieldsText

end Notice

end Compliance
