/-!
JSON values. The members of an object stand in the order in which they are written. A value that
was read from a text has them in the order of their names, each name once.
-/

namespace Compliance.Json

/-- A number is kept whole when it is written as an integer in the range of 64-bit words, signed
below zero and unsigned from zero on; every other number is a double. -/
inductive Number where
  | integer (n : Int)
  | float (x : Float)

inductive Value where
  | null
  | bool (b : Bool)
  | number (n : Number)
  | string (s : String)
  | array (items : List Value)
  | object (members : List (String × Value))

namespace Value

/-- Puts a member at its place in the order of names; a member of the same name gives way. -/
def insertMember (name : String) (v : Value) : List (String × Value) → List (String × Value)
  | [] => [(name, v)]
  | (k, w) :: rest =>
    if name < k then (name, v) :: (k, w) :: rest
    else if name = k then (name, v) :: rest
    else (k, w) :: insertMember name v rest

/-- The object with the given members: of several of one name the last counts. -/
def ofMembers (members : List (String × Value)) : Value :=
  .object (members.foldl (fun ms m => insertMember m.1 m.2 ms) [])

def member? (name : String) : Value → Option Value
  | .object members => members.lookup name
  | _ => none

def string? : Value → Option String
  | .string s => some s
  | _ => none

/-- The value with one member set anew; a value without that member is left as it is. -/
def replaceMember (target : Value) (name : String) (v : Value) : Value :=
  match target with
  | .object members => .object (members.map fun m => if m.1 = name then (m.1, v) else m)
  | other => other

def ofStrings (members : List (String × String)) : Value :=
  .object (members.map fun m => (m.1, .string m.2))

end Value

end Compliance.Json
