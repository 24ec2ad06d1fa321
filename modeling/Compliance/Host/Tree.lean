import Compliance.Host.Fault
import Compliance.Host.Path

/-!
The files of the host. Every entry has one location, the list of names that lead to it from the
root, and is a folder or a file with its text. Finding an entry goes through a path name by name.
An entry is made or changed only by `writeFile` and by making folders, and none is ever removed.
-/

namespace Compliance.Host

/-- The names that lead to an entry from the root. -/
abbrev Location := List String

inductive Node
  | folder
  | file (text : String)
  deriving DecidableEq, Repr

structure Tree where
  entries : List (Location × Node)
  deriving DecidableEq, Repr

namespace Tree

def empty : Tree := ⟨[]⟩

/-- What stands at a location. The root is always a folder. -/
def node? (t : Tree) (l : Location) : Option Node :=
  if l = [] then some .folder else t.entries.lookup l

def put (t : Tree) (l : Location) (n : Node) : Tree :=
  if (t.entries.lookup l).isSome then ⟨t.entries.map fun e => if e.1 = l then (l, n) else e⟩
  else ⟨t.entries ++ [(l, n)]⟩

/-- The longest name that an entry may have, in bytes. -/
def longestName : Nat := 255

def pathLimit : Nat := 4096

def checkPath (path : String) : Except Fault Unit :=
  if path.toList.contains '\x00' then .error .nulInPath
  else if path = "" then .error .noEntry
  else if pathLimit ≤ path.utf8ByteSize then .error .nameTooLong
  else .ok ()

/-- A location that must hold a folder. -/
def asFolder (t : Tree) (l : Location) : Except Fault Unit :=
  match t.node? l with
  | some .folder => .ok ()
  | some (.file _) => .error .notFolder
  | none => .error .noEntry

def enter (t : Tree) (here : Location) (name : String) : Except Fault Location := do
  t.asFolder here
  if name = "." then return here
  else if name = ".." then return here.dropLast
  else if longestName < name.utf8ByteSize then throw .nameTooLong
  else
    match t.node? (here ++ [name]) with
    | some _ => return here ++ [name]
    | none => throw .noEntry

def start (cwd : Location) (path : String) : Location := if Path.isAbsolute path then [] else cwd

def find (t : Tree) (cwd : Location) (path : String) : Except Fault Location := do
  checkPath path
  let l ← (Path.names path).foldlM t.enter (start cwd path)
  if Path.endsInSlash path then t.asFolder l
  return l

def findFolder? (t : Tree) (cwd : Location) (path : String) : Option Location :=
  (t.find cwd path).toOption.filter fun l => t.node? l == some .folder

def isFolder (t : Tree) (cwd : Location) (path : String) : Bool := (t.findFolder? cwd path).isSome

def isFile (t : Tree) (cwd : Location) (path : String) : Bool :=
  match t.find cwd path with
  | .ok l => (t.node? l).any fun n => n != .folder
  | .error _ => false

/-- The place for a new entry: its folder, which exists, and its name, or nothing where a path ends
in no name of its own. -/
def place (t : Tree) (cwd : Location) (path : String) :
    Except Fault (Location × Option String) := do
  checkPath path
  let folder ← (Path.names path).dropLast.foldlM t.enter (start cwd path)
  t.asFolder folder
  match (Path.names path).getLast? with
  | none => return (folder, none)
  | some name => return (folder, if name = "." ∨ name = ".." then none else some name)

/-- The tree with a text written to a file, which is made if it is not there. -/
def writeFile (t : Tree) (cwd : Location) (path text : String) : Except Fault Tree := do
  match ← t.place cwd path with
  | (_, none) => throw .isFolder
  | (folder, some name) =>
    if Path.endsInSlash path then throw .isFolder
    else if longestName < name.utf8ByteSize then throw .nameTooLong
    else if t.node? (folder ++ [name]) = some .folder then throw .isFolder
    else return t.put (folder ++ [name]) (.file text)

def makeFolder (t : Tree) (cwd : Location) (path : String) : Except Fault Tree := do
  match ← t.place cwd path with
  | (_, none) => throw .entryExists
  | (folder, some name) =>
    if longestName < name.utf8ByteSize then throw .nameTooLong
    else if (t.node? (folder ++ [name])).isSome then throw .entryExists
    else return t.put (folder ++ [name]) .folder

/-- Makes the first of several folders. Where its place is missing the ones after it, which lie
above it, are made first. A folder that is there already is no fault; the folders that were made
before a fault stay. -/
def makeFoldersFrom (t : Tree) (cwd : Location) : List String → Except Fault Unit × Tree
  | [] => (.ok (), t)
  | path :: above =>
    match t.makeFolder cwd path with
    | .ok t => (.ok (), t)
    | .error .noEntry =>
      match t.makeFoldersFrom cwd above with
      | (.error f, t) => (.error f, t)
      | (.ok (), t) =>
        match t.makeFolder cwd path with
        | .ok t => (.ok (), t)
        | .error f => (if t.isFolder cwd path then .ok () else .error f, t)
    | .error f => (if t.isFolder cwd path then .ok () else .error f, t)

/-- Makes the folder of a path with all folders above it. The empty path asks for nothing. -/
def makeFolders (t : Tree) (cwd : Location) (path : String) : Except Fault Unit × Tree :=
  if path = "" then (.ok (), t) else t.makeFoldersFrom cwd (path :: Path.parents path)

@[simp] theorem node?_root (t : Tree) : t.node? [] = some .folder := by simp [node?]

end Tree

end Compliance.Host
