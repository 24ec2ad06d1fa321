import Compliance.License.Report
import Compliance.Text.Table

/-!
The report as a table for the reader.
-/

namespace Compliance.License

/-- A text of which at most sixty characters are shown. -/
def shorten (text : String) : String :=
  if text.length ≤ 60 then text else String.ofList (text.toList.take 60) ++ "..."

def Outcome.detail : Outcome → String
  | .retrieved => "-"
  | .onDisk status => "HTTP " ++ toString status
  | .missing status => "HTTP " ++ toString status
  | .failed reason => shorten reason

def Entry.row (e : Entry) : Text.Row :=
  [e.root, e.owner ++ "--" ++ e.name, e.outcome.label, e.outcome.detail]

def Report.table? (r : Report) : Option String :=
  if r.entries = [] then none
  else some (Text.table ["Module", "License File", "Status", "Detail"] (r.entries.map Entry.row))

end Compliance.License
