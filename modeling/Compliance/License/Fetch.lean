import Compliance.GitHub.Client
import Compliance.License.Report
import Compliance.License.Store
import Compliance.Work.Batch

/-!
Fetching the licenses of all dependencies. A license that GitHub brings is stored. If GitHub
answers otherwise, a policy says whether a file from an earlier run will do; if there is no answer
at all the outcome is a failure, whatever was stored before.
-/

namespace Compliance.License

/-- Whether a license that was stored before stands in for one that is not to be had. -/
inductive StalePolicy
  | accept
  | reject
  deriving DecidableEq, Repr

/-- The module of system calls, which is not on GitHub under its own name. -/
def systemCalls : String := "golang.org/x/sys"

def coordinatesOf (root : String) : Coordinates :=
  .ofPath (if root = systemCalls then "github.com/golang/sys" else root)

/-- The statuses by which GitHub says that it was asked too often. -/
def isRateLimit (status : Http.Status) : Bool := status == 403 || status == 429

def fallback (store : Store) (policy : StalePolicy) (r : Coordinates) (status : Http.Status) :
    Job Outcome := do
  match policy with
  | .reject => return .missing status
  | .accept =>
    if ← store.contains r then
      if isRateLimit status then writeNotice (.rateLimited r.slug status)
      return .onDisk status
    else return .missing status

def obtain (github : GitHub.Client) (store : Store) (policy : StalePolicy) (r : Coordinates) :
    Job Outcome := do
  match ← github.fetchLicense r with
  | .error failure => return .failed failure.message
  | .ok (.unavailable status) => fallback store policy r status
  | .ok (.found text) =>
    match ← store.write r text with
    | .ok () => return .retrieved
    | .error failure => return .failed failure.message

/-- The whole job for one dependency: the outcome is noted down and entered. -/
def entryJob (github : GitHub.Client) (store : Store) (policy : StalePolicy) (d : Dependency) :
    Job Entry := do
  let r := coordinatesOf d.root
  let outcome ← obtain github store policy r
  writeNotice (.outcome r.slug outcome)
  return ⟨d.root, r.owner, r.name, outcome⟩

def fetchAll (github : GitHub.Client) (store : Store) (policy : StalePolicy) (workers : Nat)
    (dependencies : List Dependency) (w : World) : Report × World :=
  let done := Batch.run workers (dependencies.map (entryJob github store policy)) w
  (⟨done.1⟩, done.2)

end Compliance.License
