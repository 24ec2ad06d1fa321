import Compliance.Text.Blank

/-!
Paths as text. A path is cut at its slashes into names, of which the empty ones do not count. A
path that begins with a slash starts at the root, every other one at the folder it is used in.
-/

namespace Compliance.Host.Path

def names (path : String) : List String := (Text.splitAt '/' path).filter (· ≠ "")

def isAbsolute (path : String) : Bool := path.toList.head? == some '/'

def endsInSlash (path : String) : Bool := path.toList.getLast? == some '/'

/-- The path of an entry below a folder. An absolute entry stands for itself, and no slash is added
to an empty folder path or to one that has a slash at its end. -/
def join (folder entry : String) : String :=
  if isAbsolute entry then entry
  else if folder = "" ∨ endsInSlash folder then folder ++ entry
  else folder ++ "/" ++ entry

def ofNames (absolute : Bool) (names : List String) : String :=
  (if absolute then "/" else "") ++ "/".intercalate names

/-- The names of a path without those that stay where they are. Only at the front of a path that is
not absolute is such a name kept. -/
def settled (path : String) : List String :=
  match isAbsolute path, names path with
  | false, "." :: rest => "." :: rest.filter (· ≠ ".")
  | _, all => all.filter (· ≠ ".")

/-- The folders above the entry with the given names, the nearest first, without the root and the
folder that the path starts in. -/
def above (absolute : Bool) (names : List String) : List String :=
  (List.range (names.length - 1)).reverse.map fun n => ofNames absolute (names.take (n + 1))

def parents (path : String) : List String := above (isAbsolute path) (settled path)

end Compliance.Host.Path
