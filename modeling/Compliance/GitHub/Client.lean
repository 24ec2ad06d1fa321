import Compliance.Dependency
import Compliance.GitHub.CommitDate
import Compliance.Http.Client

/-!
Asking GitHub for licenses and for the days of commits. A token that is not blank goes with every
request. The slashes at the end of the address of the interface do not count.
-/

namespace Compliance.GitHub

def publicAddress : String := "https://api.github.com"

structure Client where
  http : Http.Client
  address : String
  token : Option String
  deriving DecidableEq, Repr

def withoutSlashes (s : String) : String :=
  String.ofList (s.toList.reverse.dropWhile (· == '/')).reverse

/-- A blank token is none. -/
def Client.make (http : Http.Client) (address : String) (token : Option String) : Client :=
  ⟨http, withoutSlashes address, token.filter (!Text.isAllBlank ·)⟩

def Client.credentials (c : Client) : List (String × String) :=
  match c.token with
  | some token => [("authorization", "Bearer " ++ token)]
  | none => []

def Client.licenseDraft (c : Client) (r : Coordinates) : Http.Draft where
  method := .get
  address := c.address ++ "/repos/" ++ Http.percentEncode r.owner ++ "/" ++
    Http.percentEncode r.name ++ "/license"
  headers := ("accept", "application/vnd.github.VERSION.raw") :: c.credentials
  body := ""

def Client.commitDraft (c : Client) (repository revision : String) : Http.Draft where
  method := .get
  address := c.address ++ "/repos/" ++ repository ++ "/commits/" ++ Http.percentEncode revision
  headers := ("user-agent", "esg-usa-bot_ci") :: c.credentials
  body := ""

/-- The text of a license, or the status of an answer that brings none. -/
inductive Fetched
  | found (text : String)
  | unavailable (status : Http.Status)
  deriving DecidableEq, Repr

def fetched (r : Coordinates) (answer : Http.Response) : Except Failure Fetched :=
  if answer.status = 200 then
    match answer.text with
    | .ok text => .ok (.found text)
    | .error e => .error ⟨["ライセンス本文の読み込みに失敗: " ++ r.slug], .http e⟩
  else .ok (.unavailable answer.status)

def Client.fetchLicense (c : Client) (r : Coordinates) : Job (Except Failure Fetched) := do
  match ← c.http.sendWithRetry (c.licenseDraft r) with
  | .error e => return .error ⟨["GitHubリクエストに失敗しました: " ++ r.slug], .http e⟩
  | .ok answer => return fetched r answer

/-- What an answer to the request for a commit brings. Its status does not matter. -/
def committed (repository revision : String) (answer : Http.Response) : Except Failure String :=
  match answer.text with
  | .error e =>
    .error ⟨["コミット情報の読み込みに失敗: " ++ repository ++ "@" ++ revision], .http e⟩
  | .ok text =>
    match GitHub.commitDate text with
    | .ok date => .ok date
    | .error fault => .error (.of (.commitDate repository revision fault.text))

def Client.commitDate (c : Client) (repository revision : String) :
    Job (Except Failure String) := do
  match ← c.http.sendWithRetry (c.commitDraft repository revision) with
  | .error e =>
    return .error
      ⟨["GitHubリクエストに失敗しました: " ++ repository ++ "@" ++ revision], .http e⟩
  | .ok answer => return committed repository revision answer

end Compliance.GitHub
