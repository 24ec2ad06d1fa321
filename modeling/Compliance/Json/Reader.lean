import Compliance.Json.Literal
import Compliance.Json.Number

/-!
Reading JSON values. Lists and objects may nest up to a limit; a comma must be followed by another
element or member. An object keeps the last of several members of one name.
-/

namespace Compliance.Json

/-- One less than this many lists and objects may enclose one another. -/
def depthLimit : Nat := 128

mutual

/-- A value, after any space, at a given number of levels below the limit. -/
def value (depth : Nat) (s : List Char) : Except Fault (Taken Value s) :=
  match next s with
  | .ended => .error (.here .endInValue [])
  | .char 'n' r lt => (word ['u', 'l', 'l'] r).map fun t => (t.map fun _ => .null).behind lt
  | .char 't' r lt => (word ['r', 'u', 'e'] r).map fun t => (t.map fun _ => .bool true).behind lt
  | .char 'f' r lt =>
    (word ['a', 'l', 's', 'e'] r).map fun t => (t.map fun _ => .bool false).behind lt
  | .char '"' r lt =>
    (stringBody r).map fun t => (t.map fun cs => .string (String.ofList cs)).behind lt
  | .char '-' r lt => (number true r).map fun t => (t.map .number).behind lt
  | .char '[' r lt =>
    if depth ≤ 1 then .error (.here .tooDeep ('[' :: r))
    else
      match items (depth - 1) r with
      | .error f => .error f
      | .ok t => .ok ((t.map .array).behind lt)
  | .char '{' r lt =>
    if depth ≤ 1 then .error (.here .tooDeep ('{' :: r))
    else
      match members (depth - 1) r with
      | .error f => .error f
      | .ok t => .ok ((t.map Value.ofMembers).behind lt)
  | .char c r lt =>
    if c.isDigit then (number false (c :: r)).map fun t => (t.map .number).behindSpace lt
    else .error (.here .expectedValue (c :: r))
termination_by 4 * s.length

def items (depth : Nat) (s : List Char) : Except Fault (Taken (List Value) s) :=
  match next s with
  | .ended => .error (.here .endInList [])
  | .char ']' _ lt => .ok (.upTo lt [])
  | _ => moreItems depth s
termination_by 4 * s.length + 2

def moreItems (depth : Nat) (s : List Char) : Except Fault (Taken (List Value) s) :=
  match value depth s with
  | .error f => .error f
  | .ok v =>
    match v.next with
    | .ended => .error (.here .endInList [])
    | .char ']' _ lt => .ok (.upTo lt [v.value])
    | .char ',' r lt =>
      match next r with
      | .ended => .error (.here .endInValue [])
      | .char ']' q _ => .error (.here .trailingComma (']' :: q))
      | _ =>
        match moreItems depth r with
        | .error f => .error f
        | .ok t => .ok ((t.map (v.value :: ·)).behind lt)
    | .char c r _ => .error (.here .expectedListEnd (c :: r))
termination_by 4 * s.length + 1

/-- The members of an object, after its brace, in the order in which they stand. -/
def members (depth : Nat) (s : List Char) : Except Fault (Taken (List (String × Value)) s) :=
  match next s with
  | .ended => .error (.here .endInObject [])
  | .char '}' _ lt => .ok (.upTo lt [])
  | .char '"' r lt =>
    match moreMembers depth r with
    | .error f => .error f
    | .ok t => .ok (t.behind lt)
  | .char c r _ => .error (.here .nameNotString (c :: r))
termination_by 4 * s.length + 2

def moreMembers (depth : Nat) (s : List Char) : Except Fault (Taken (List (String × Value)) s) :=
  match stringBody s with
  | .error f => .error f
  | .ok k =>
    match k.next with
    | .ended => .error (.here .endInObject [])
    | .char ':' q hq =>
      match value depth q with
      | .error f => .error f
      | .ok v =>
        match v.next with
        | .ended => .error (.here .endInObject [])
        | .char '}' _ lt => .ok ((Taken.upTo lt [(String.ofList k.value, v.value)]).behind hq)
        | .char ',' r hr =>
          match next r with
          | .ended => .error (.here .endInValue [])
          | .char '"' p hp =>
            match moreMembers depth p with
            | .error f => .error f
            | .ok t =>
              .ok ((((t.map ((String.ofList k.value, v.value) :: ·)).behind hp).behind hr).behind hq)
          | .char '}' p _ => .error (.here .trailingComma ('}' :: p))
          | .char c p _ => .error (.here .nameNotString (c :: p))
        | .char c r _ => .error (.here .expectedObjectEnd (c :: r))
    | .char c q _ => .error (.here .expectedColon (c :: q))
termination_by 4 * s.length + 1

end

def endOfText {α : Type} {s : List Char} (t : Taken α s) : Except Fault α :=
  match skipSpace t.rest with
  | [] => .ok t.value
  | rest => .error (.here .trailingCharacters rest)

def readWith {α : Type} (reader : Reader α) (text : List Char) : Except Error α :=
  match reader text with
  | .error f => .error (f.locate text)
  | .ok t =>
    match endOfText t with
    | .error f => .error (f.locate text)
    | .ok v => .ok v

def read (text : String) : Except Error Value := readWith (value depthLimit) text.toList

end Compliance.Json
