import Compliance.Http.Url

/-!
Paths of URLs as they are read. Dot segments are resolved while the path is read, and characters
that may not stand in a path are percent-encoded. A segment that names a drive is never left by
going up.
-/

namespace Compliance.Http.Url

def isEscapedInFragment (c : Char) : Bool :=
  c == ' ' || c == '"' || c == '<' || c == '>' || c == '\x60'

def isEscapedInPath (c : Char) : Bool :=
  isEscapedInFragment c || c == '#' || c == '?' || c == '\x7b' || c == '\x7d'

/-- A slash; in URLs of a known scheme a backslash is one too. -/
def isSlash (kind : Kind) (c : Char) : Bool := c == '/' || (kind ≠ .other && c == '\\')

def isDot (segment : List Char) : Bool :=
  let s := segment.map Char.toLower
  s == ['.'] || s == ['%', '2', 'e']

def isDoubleDot (segment : List Char) : Bool :=
  let s := segment.map Char.toLower
  s == ['.', '.'] || s == ['.', '%', '2', 'e'] || s == ['%', '2', 'e', '.'] ||
    s == ['%', '2', 'e', '%', '2', 'e']

def isDrive : List Char → Bool
  | [a, b] => a.isAlpha && (b == ':' || b == '|')
  | _ => false

/-- The place one level above, except that a drive is not left. -/
def levelUp (above : List String) : List String :=
  if above.getLast?.any fun s => isDrive s.toList then above else above.dropLast

/-- A segment as it is written. The drive at the top of a file path is written with a colon. -/
def written (kind : Kind) (above : List String) (segment : List Char) : String :=
  String.ofList
    (if kind = .file ∧ above = [] ∧ isDrive segment then segment.take 1 ++ [':']
    else escapeChars isEscapedInPath segment)

/-- Goes along segments from a place in the path. A dot segment at the end leaves an empty one. -/
def resolve (kind : Kind) (above : List String) : List (List Char) → List String
  | [] => above
  | [s] =>
    if isDoubleDot s then levelUp above ++ [""]
    else if isDot s then above ++ [""]
    else above ++ [written kind above s]
  | s :: rest =>
    if isDoubleDot s then resolve kind (levelUp above) rest
    else if isDot s then resolve kind above rest
    else resolve kind (above ++ [written kind above s]) rest

def withoutEmptyTop (names : List String) : List String :=
  match names.dropWhile (· = "") with
  | [] => [""]
  | names => names

end Compliance.Http.Url
