import Compliance.Calendar
import Compliance.Json.Reader

/-!
The day of a commit, as the answer to a question about the commit tells it. The answer gives a time
in text form; the day is what stands in it before the first `T`, and is kept as it is written.
-/

namespace Compliance.GitHub

inductive CommitDateFault
  | notJson (error : Json.Error)
  | absent
  | malformed (timestamp : String) (fault : Calendar.Fault)
  deriving DecidableEq, Repr

def CommitDateFault.text : CommitDateFault → String
  | .notJson error => error.message
  | .absent => "commit.author.date がありません"
  | .malformed timestamp fault => "日付の形式が不正です (" ++ timestamp ++ "): " ++ fault.text

def timestamp? (answer : Json.Value) : Option String := do
  let commit ← answer.member? "commit"
  let author ← commit.member? "author"
  let date ← author.member? "date"
  date.string?

/-- What stands before the first `T` of a time. -/
def dayOf (timestamp : String) : String :=
  String.ofList (timestamp.toList.takeWhile (· ≠ 'T'))

def commitDate (answer : String) : Except CommitDateFault String := do
  let value ← (Json.read answer).mapError .notJson
  match timestamp? value with
  | none => throw .absent
  | some timestamp =>
    match Calendar.parse (dayOf timestamp) with
    | .error fault => throw (.malformed timestamp fault)
    | .ok _ => return dayOf timestamp

end Compliance.GitHub
