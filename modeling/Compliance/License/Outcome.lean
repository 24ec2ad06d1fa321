import Compliance.Json.Writer

/-!
What became of one license: fetched and stored, kept from an earlier fetch, not to be had, or lost
to a fault. The first two count as resolved.
-/

namespace Compliance.License

inductive Outcome
  | retrieved
  | onDisk (status : Nat)
  | missing (status : Nat)
  | failed (reason : String)
  deriving DecidableEq, Repr

namespace Outcome

def isResolved : Outcome → Bool
  | retrieved => true
  | onDisk _ => true
  | missing _ => false
  | failed _ => false

def label : Outcome → String
  | retrieved => "retrieved"
  | onDisk _ => "on disk"
  | missing _ => "missing"
  | failed _ => "failed"

def describe : Outcome → String
  | retrieved => "GitHubから取得しました。"
  | onDisk _ => "既存のファイルを使用します。"
  | missing status => "ライセンスが見つかりません (HTTP " ++ toString status ++ ")"
  | failed reason => "取得に失敗しました: " ++ reason

def tag : Outcome → String
  | retrieved => "retrieved"
  | onDisk _ => "on_disk"
  | missing _ => "missing"
  | failed _ => "failed"

/-- The members by which an outcome is written in JSON: its word, and its status or its reason. -/
def members (o : Outcome) : List (String × Json.Value) :=
  ("status", .string o.tag) ::
    match o with
    | retrieved => []
    | onDisk status => [("http_status", .number (.integer status))]
    | missing status => [("http_status", .number (.integer status))]
    | failed reason => [("error", .string reason)]

def json (o : Outcome) : Json.Value := .object o.members

end Outcome

end Compliance.License
