import Compliance.Json.Reader
import Compliance.Json.Skip
import Compliance.Dependency
import Compliance.Text.Quoted

/-!
Reading the records of a manifest: one list, each element of which is an object with the members
`ProjectRoot`, `Revision` and `Version`, or a list of these three in this order. The last two may be
absent and are empty then. Other members of an object are passed over.
-/

namespace Compliance.Manifest

open Json

def Found.ofNumber : Number → Found
  | .integer n => .integer n
  | .float x => .float (floatText x)

/-- The fault of a value that is not of the kind asked for. A list or an object is at fault before
its bracket, any other value after its end. -/
def wrongType (expected : Expected) (s : List Char) : Fault :=
  let after {α : Type} (found : α → Found) : {r : List Char} → Except Fault (Taken α r) → Fault
    | _, .error f => f
    | _, .ok t => .before (.wrongType (found t.value) expected) t.rest
  match s with
  | 'n' :: r => after (fun _ => .null) (word ['u', 'l', 'l'] r)
  | 't' :: r => after (fun _ => .bool true) (word ['r', 'u', 'e'] r)
  | 'f' :: r => after (fun _ => .bool false) (word ['a', 'l', 's', 'e'] r)
  | '-' :: r => after Found.ofNumber (number true r)
  | '"' :: r => after (fun cs => .string (Text.quoted (String.ofList cs))) (stringBody r)
  | '[' :: _ => .before (.wrongType .list expected) s
  | '{' :: _ => .before (.wrongType .object expected) s
  | c :: _ =>
    if c.isDigit then after Found.ofNumber (number false s) else .here .expectedValue s
  | [] => .here .endInValue []

def text : Reader String := fun s =>
  match next s with
  | .ended => .error (.here .endInValue [])
  | .char '"' r lt => (stringBody r).map fun t => (t.map String.ofList).behind lt
  | .char c r _ => .error (wrongType .string (c :: r))

/-- Whether a further element of a record in list form follows, and where it starts. -/
def nextElement (s : List Char) : Except Fault (Option (Taken Unit s)) :=
  match next s with
  | .ended => .error (.here .endInList [])
  | .char ']' _ _ => .ok none
  | .char ',' r lt =>
    match skipSpace r with
    | [] => .error (.here .endInValue [])
    | ']' :: q => .error (.here .trailingComma (']' :: q))
    | _ => .ok (some (.upTo lt ()))
  | .char c r _ => .error (.here .expectedListEnd (c :: r))

def elementText : Reader String := fun s =>
  match nextElement s with
  | .error f => .error f
  | .ok none => .ok (.here "" s)
  | .ok (some t) => (text t.rest).map t.followedBy

def endOfRecord : Reader Unit := fun s =>
  match next s with
  | .ended => .error (.here .endInList [])
  | .char ']' _ lt => .ok (.upTo lt ())
  | .char ',' r _ =>
    match skipSpace r with
    | ']' :: q => .error (.here .trailingComma (']' :: q))
    | q => .error (.here .trailingCharacters q)
  | .char c r _ => .error (.here .trailingCharacters (c :: r))

def listRecord : Reader Dependency := fun s =>
  match skipSpace s with
  | [] => .error (.here .endInList [])
  | ']' :: r => .error (.before .emptyRecord r)
  | _ =>
    match text s with
    | .error f => .error f
    | .ok root =>
      match elementText root.rest with
      | .error f => .error f
      | .ok revision =>
        match elementText revision.rest with
        | .error f => .error f
        | .ok version =>
          match endOfRecord version.rest with
          | .error f => .error f
          | .ok t =>
            .ok (((root.followedBy (revision.followedBy (version.followedBy t)))).map fun _ =>
              ⟨root.value, revision.value, version.value⟩)

/-- The members of a record that were read so far. -/
structure Partial where
  root : Option String
  revision : Option String
  version : Option String
  deriving DecidableEq, Repr

inductive Field where
  | root
  | revision
  | version
  deriving DecidableEq, Repr

def Field.name : Field → String
  | .root => "ProjectRoot"
  | .revision => "Revision"
  | .version => "Version"

def Field.ofName? (name : String) : Option Field :=
  if name = "ProjectRoot" then some .root
  else if name = "Revision" then some .revision
  else if name = "Version" then some .version
  else none

def Partial.get? (p : Partial) : Field → Option String
  | .root => p.root
  | .revision => p.revision
  | .version => p.version

def Partial.set (p : Partial) (v : String) : Field → Partial
  | .root => { p with root := some v }
  | .revision => { p with revision := some v }
  | .version => { p with version := some v }

/-- The record of the members that were read; it must have a root. -/
def Partial.finish? (p : Partial) : Option Dependency :=
  p.root.map fun root => ⟨root, p.revision.getD "", p.version.getD ""⟩

def colon : Reader Unit := fun s =>
  match next s with
  | .ended => .error (.here .endInObject [])
  | .char ':' _ lt => .ok (.upTo lt ())
  | .char c r _ => .error (.here .expectedColon (c :: r))

/-- The name of a member that is given a second time is at fault after the space behind it, and
after the brace if the object ends there. -/
def duplicate (field : Field) (s : List Char) : Fault :=
  match skipSpace s with
  | '}' :: r => .before (.duplicateField field.name) r
  | r => .before (.duplicateField field.name) r

/-- The value of a member, after its name: kept if the name is one of the three, passed over if not. -/
def memberValue (p : Partial) (name : String) : Reader Partial := fun s =>
  match Field.ofName? name with
  | some field =>
    if (p.get? field).isSome then .error (duplicate field s)
    else
      match colon s with
      | .error f => .error f
      | .ok t => (text t.rest).map fun v => t.followedBy (v.map (p.set · field))
  | none =>
    match colon s with
    | .error f => .error f
    | .ok t => (skipValue t.rest).map fun v => t.followedBy (v.map fun _ => p)

def recordMembers (p : Partial) (s : List Char) : Except Fault (Taken Dependency s) :=
  match stringBody s with
  | .error f => .error f
  | .ok k =>
    match memberValue p (String.ofList k.value) k.rest with
    | .error f => .error f
    | .ok v =>
      match (k.followedBy v).next with
      | .ended => .error (.here .endInObject [])
      | .char '}' r lt =>
        match v.value.finish? with
        | some d => .ok (.upTo lt d)
        | none => .error (.before (.missingField Field.root.name) r)
      | .char ',' r hr =>
        match next r with
        | .ended => .error (.here .endInValue [])
        | .char '"' q hq =>
          match recordMembers v.value q with
          | .error f => .error f
          | .ok t => .ok ((t.behind hq).behind hr)
        | .char '}' q _ => .error (.here .trailingComma ('}' :: q))
        | .char c q _ => .error (.here .nameNotString (c :: q))
      | .char c r _ => .error (.here .expectedObjectEnd (c :: r))
termination_by s.length

def objectRecord : Reader Dependency := fun s =>
  match next s with
  | .ended => .error (.here .endInObject [])
  | .char '}' r _ => .error (.before (.missingField Field.root.name) r)
  | .char '"' r lt => (recordMembers ⟨none, none, none⟩ r).map (.behind lt)
  | .char c r _ => .error (.here .nameNotString (c :: r))

def record : Reader Dependency := fun s =>
  match next s with
  | .ended => .error (.here .endInValue [])
  | .char '[' r lt => (listRecord r).map (.behind lt)
  | .char '{' r lt => (objectRecord r).map (.behind lt)
  | .char c r _ => .error (wrongType .record (c :: r))

/-- At least one record, and those after it, to the bracket of the list. -/
def moreRecords (s : List Char) : Except Fault (Taken (List Dependency) s) :=
  match record s with
  | .error f => .error f
  | .ok d =>
    match d.next with
    | .ended => .error (.here .endInList [])
    | .char ']' _ lt => .ok (.upTo lt [d.value])
    | .char ',' r lt =>
      match skipSpace r with
      | [] => .error (.here .endInValue [])
      | ']' :: q => .error (.here .trailingComma (']' :: q))
      | _ =>
        match moreRecords r with
        | .error f => .error f
        | .ok t => .ok ((t.map (d.value :: ·)).behind lt)
    | .char c r _ => .error (.here .expectedListEnd (c :: r))
termination_by s.length

def records : Reader (List Dependency) := fun s =>
  match next s with
  | .ended => .error (.here .endInValue [])
  | .char '[' r lt =>
    match next r with
    | .ended => .error (.here .endInList [])
    | .char ']' _ hq => .ok ((Taken.upTo hq []).behind lt)
    | _ => (moreRecords r).map (.behind lt)
  | .char c r _ => .error (wrongType .sequence (c :: r))

/-- The records of a manifest text. Blanks at both ends of the text are left out first, and places
in it are counted without them. -/
def parse (manifest : String) : Except Json.Error (List Dependency) :=
  readWith records (Text.trimList manifest.toList)

end Compliance.Manifest
