import Compliance.Http.Client
import Compliance.Json.Reader

/-!
Posting a form and reading the answer. The answer is JSON, and a member `data` that is a text of
JSON by itself is replaced by its value.
-/

namespace Compliance.Submission

def publicAddress : String := "https://saas.whitesourcesoftware.com/agent"

/-- A value whose member `data`, if it is a text of JSON, is replaced by what it says. -/
def expandData (v : Json.Value) : Json.Value :=
  match (v.member? "data").bind (·.string?) with
  | none => v
  | some text =>
    match Json.read text with
    | .ok data => v.replaceMember "data" data
    | .error _ => v

def readAnswer (body : String) : Except Json.Error Json.Value := (Json.read body).map expandData

structure Answer where
  status : Http.Status
  body : Json.Value

def draft (address : String) (form : List (String × String)) : Http.Draft where
  method := .post
  address := address
  headers := [("charset", "utf-8"), ("content-type", "application/x-www-form-urlencoded")]
  body := Http.Form.encode form

/-- Posts a form. The request is sent once only, since a second one might submit the same again. -/
def submit (client : Http.Client) (address : String) (form : List (String × String)) :
    Job (Except Failure Answer) := do
  match ← client.send (draft address form) with
  | .error e => return .error ⟨["WhiteSourceへの送信に失敗しました: " ++ address], .http e⟩
  | .ok response =>
    match response.text with
    | .error e => return .error ⟨["WhiteSourceのレスポンス読み込みに失敗しました"], .http e⟩
    | .ok text =>
      match readAnswer text with
      | .ok body => return .ok ⟨response.status, body⟩
      | .error e =>
        writeNotice (.replyNotJson response.status text)
        return .error (.of (.answerMalformed e))

end Compliance.Submission
