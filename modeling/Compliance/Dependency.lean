import Compliance.Text.Blank

/-!
A dependency as the manifest lists it, and the owner and the name of its repository, taken from the
path of the module. A path has an owner when it has three segments or more, and the name is always
the last segment, so what stands between the owner and the name is not part of the coordinates.
-/

namespace Compliance

/-- The root of a project, the revision that is used and the version it is known by. The version is
`branch ` and a name where no release is used. -/
structure Dependency where
  root : String
  revision : String
  version : String
  deriving DecidableEq, Repr, Inhabited

structure Coordinates where
  owner : String
  name : String
  deriving DecidableEq, Repr

namespace Coordinates

def ofPath (path : String) : Coordinates :=
  match Text.splitAt '/' path with
  | [] => ⟨"", ""⟩
  | [name] => ⟨"", name⟩
  | [_, name] => ⟨"", name⟩
  | _ :: owner :: segment :: segments => ⟨owner, (segment :: segments).getLast (by simp)⟩

def slug (c : Coordinates) : String := c.owner ++ "/" ++ c.name

def fileName (c : Coordinates) : String := c.owner ++ "--" ++ c.name

end Coordinates

end Compliance
