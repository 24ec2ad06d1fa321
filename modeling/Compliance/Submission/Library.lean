import Compliance.Dependency
import Compliance.Json.Writer
import Compliance.Text.Table

/-!
A library as it is submitted, the payload that holds all of them, and the form in which it is posted:
eight pairs in a fixed order, of which the last holds the payload as a JSON array with one element.
-/

namespace Compliance.Submission

structure Library where
  coordinates : Coordinates
  version : String
  deriving DecidableEq, Repr

namespace Library

def fileName (l : Library) : String := l.coordinates.name ++ "-" ++ l.version

def identifier (l : Library) : String :=
  l.coordinates.owner ++ ":" ++ l.coordinates.name ++ ":" ++ l.version

def fields (l : Library) : List (String × String) :=
  [("filename", l.fileName), ("name", l.coordinates.name), ("groupId", l.coordinates.owner),
    ("artifactId", l.coordinates.name), ("version", l.version), ("sha1", ""),
    ("dependencyType", "SOURCE_LIBRARY"), ("coordinates", l.identifier)]

def json (l : Library) : Json.Value := .ofStrings l.fields

/-- A library as a row of a table. An owner that is not known is shown as a hyphen. -/
def row (l : Library) : Text.Row :=
  [if l.coordinates.owner = "" then "-" else l.coordinates.owner, l.coordinates.name, l.version]

def table? (ls : List Library) : Option String :=
  if ls = [] then none else some (Text.table ["Group", "Name", "Version"] (ls.map row))

end Library

structure Payload where
  projectToken : String
  libraries : List Library
  deriving DecidableEq, Repr

def Payload.json (p : Payload) : Json.Value :=
  .object [("projectToken", .string p.projectToken),
    ("dependencies", .array (p.libraries.map Library.json))]

structure Tokens where
  organisation : String
  product : String
  deriving DecidableEq, Repr

/-- The pairs of the form, at a time in milliseconds. -/
def form (p : Payload) (tokens : Tokens) (time : Int) : List (String × String) :=
  [("type", "UPDATE"), ("agent", "generic"), ("agentVersion", "2.4.1"), ("pluginVersion", "1.0"),
    ("token", tokens.organisation), ("product", tokens.product), ("timeStamp", toString time),
    ("diff", (Json.Value.array [p.json]).compact)]

end Compliance.Submission
