import Compliance.Run.Common
import Compliance.Submission.Version

/-!
The run that submits the libraries a repository depends on. With a dry run the payload is printed
and nothing is sent. Otherwise all tokens must be there, and one form is posted.
-/

namespace Compliance.Run

/-- A token that must be given and must not be blank. -/
def required (name : String) (value : Option String) : Except Failure String :=
  match value.filter (!Text.isAllBlank ·) with
  | some v => .ok v
  | none => .error (.of (.settingMissing name))

def tokens (o : CommandLine.Submission) : Except Failure (Submission.Tokens × String) := do
  let organisation ← required "WHITESOURCE_ORG_TOKEN" o.organisationToken
  let product ← required "WHITESOURCE_PRODUCT_TOKEN" o.productToken
  let project ← required "WHITESOURCE_PROJECT_TOKEN" o.projectToken
  return (⟨organisation, product⟩, project)

def dryRun (o : CommandLine.Submission) (libraries : List Submission.Library) : Action Status := do
  Action.print "> --dry-run のため送信しません。ペイロード:"
  Action.print (Submission.Payload.mk (o.projectToken.getD "") libraries).json.pretty
  return .success

def post (o : CommandLine.Submission) (libraries : List Submission.Library) : Action Status := do
  let (tokens, project) ← Action.ofExcept (tokens o)
  Action.print ""
  Action.print "> WhiteSourceへ依存関係を送信中..."
  let form := Submission.form ⟨project, libraries⟩ tokens (← get).clock
  let client ← Action.ofExcept (httpClient o.common.settings)
  let answer ← Action.tryJob (Submission.submit client o.address form)
  Action.print answer.body.pretty
  if answer.status.isSuccess then return .success else Action.fail (.rejected answer.status)

/-- The run behind the listing of the dependencies. -/
def submissionFrom (o : CommandLine.Submission) (ds : List Dependency) : Action Status := do
  if (Submission.targets ds).isEmpty then
    Action.print nothingToDo
    return .success
  else
    let github ← Action.ofExcept (githubClient o.common)
    let libraries ← Action.ofExcept (← modifyGet (Submission.libraries github o.common.workers ds))
    printTable (Submission.Library.table? libraries)
    if o.dryRun then dryRun o libraries else post o libraries

def runSubmission (o : CommandLine.Submission) : Action Status := do
  Action.print "> Gopkg.lockをWhiteSource APIのペイロードに変換します..."
  submissionFrom o (← dependencies o.repository o.common)

end Compliance.Run
