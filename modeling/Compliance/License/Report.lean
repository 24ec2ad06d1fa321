import Compliance.License.Outcome

/-!
The report of a run over all licenses: one entry for each dependency, in the order of the manifest.
-/

namespace Compliance.License

/-- The outcome for one dependency. `root` is the path of the module, the owner and the name are
those of the repository that was asked. -/
structure Entry where
  root : String
  owner : String
  name : String
  outcome : Outcome
  deriving DecidableEq, Repr

def Entry.json (e : Entry) : Json.Value :=
  .object ([("module", .string e.root), ("owner", .string e.owner), ("name", .string e.name)] ++
    e.outcome.members)

structure Report where
  entries : List Entry
  deriving DecidableEq, Repr

namespace Report

def unresolved (r : Report) : List Entry := r.entries.filter (!·.outcome.isResolved)

def allResolved (r : Report) : Bool := r.unresolved.isEmpty

def json (r : Report) : Json.Value := .object [("entries", .array (r.entries.map Entry.json))]

theorem allResolved_iff (r : Report) :
    r.allResolved = true ↔ ∀ e ∈ r.entries, e.outcome.isResolved = true := by
  simp [allResolved, unresolved]

end Report

end Compliance.License
