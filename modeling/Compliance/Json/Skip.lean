import Compliance.Json.Literal
import Compliance.Json.Number

/-!
Getting past a JSON value without keeping it. Only the grammar is checked here: values may nest to
any depth, numbers may have any size, and escapes need not form characters.
-/

namespace Compliance.Json

def skipExponentDigits : Reader Unit
  | [] => .error (.before .invalidNumber [])
  | c :: cs =>
    if c.isDigit then .ok (((skipDigits cs).map fun _ => ()).cons c)
    else .error (.here .invalidNumber (c :: cs))

def skipExponent : Reader Unit
  | '+' :: cs => (skipExponentDigits cs).map (.cons '+')
  | '-' :: cs => (skipExponentDigits cs).map (.cons '-')
  | cs => skipExponentDigits cs

def skipAfterFraction : Reader Unit
  | 'e' :: cs => (skipExponent cs).map (.cons 'e')
  | 'E' :: cs => (skipExponent cs).map (.cons 'E')
  | cs => .ok (.here () cs)

def skipAfterInteger : Reader Unit
  | '.' :: cs =>
    let t := skipDigits cs
    if t.value = 0 then .error (.here .invalidNumber t.rest)
    else (skipAfterFraction t.rest).map fun u => (t.followedBy u).cons '.'
  | cs => skipAfterFraction cs

def skipNumber : Reader Unit
  | [] => .error (.before .invalidNumber [])
  | '0' :: cs =>
    if cs.head?.any Char.isDigit then .error (.here .invalidNumber cs)
    else (skipAfterInteger cs).map (.cons '0')
  | c :: cs =>
    if c.isDigit then
      let t := skipDigits cs
      (skipAfterInteger t.rest).map fun u => (t.followedBy u).cons c
    else .error (.here .invalidNumber (c :: cs))

mutual

def skipValue (s : List Char) : Except Fault (Taken Unit s) :=
  match next s with
  | .ended => .error (.here .endInValue [])
  | .char 'n' r lt => (word ['u', 'l', 'l'] r).map (.behind lt)
  | .char 't' r lt => (word ['r', 'u', 'e'] r).map (.behind lt)
  | .char 'f' r lt => (word ['a', 'l', 's', 'e'] r).map (.behind lt)
  | .char '"' r lt => (skipString r).map (.behind lt)
  | .char '-' r lt => (skipNumber r).map (.behind lt)
  | .char '[' r lt => (skipItems r).map (.behind lt)
  | .char '{' r lt => (skipMembers r).map (.behind lt)
  | .char c r lt =>
    if c.isDigit then (skipNumber (c :: r)).map (.behindSpace lt)
    else .error (.here .expectedValue (c :: r))
termination_by 4 * s.length

def skipItems (s : List Char) : Except Fault (Taken Unit s) :=
  match next s with
  | .ended => .error (.here .endInList [])
  | .char ']' _ lt => .ok (.upTo lt ())
  | _ => skipMoreItems s
termination_by 4 * s.length + 2

def skipMoreItems (s : List Char) : Except Fault (Taken Unit s) :=
  match skipValue s with
  | .error f => .error f
  | .ok v =>
    match v.next with
    | .ended => .error (.here .endInList [])
    | .char ']' _ lt => .ok (.upTo lt ())
    | .char ',' r lt => (skipMoreItems r).map (.behind lt)
    | .char c r _ => .error (.here .expectedListEnd (c :: r))
termination_by 4 * s.length + 1

def skipMembers (s : List Char) : Except Fault (Taken Unit s) :=
  match next s with
  | .ended => .error (.here .endInObject [])
  | .char '}' _ lt => .ok (.upTo lt ())
  | _ => skipMoreMembers s
termination_by 4 * s.length + 2

def skipMoreMembers (s : List Char) : Except Fault (Taken Unit s) :=
  match next s with
  | .ended => .error (.here .endInObject [])
  | .char '"' p hp =>
    match skipString p with
    | .error f => .error f
    | .ok k =>
      match k.next with
      | .ended => .error (.here .endInObject [])
      | .char ':' q hq =>
        match skipValue q with
        | .error f => .error f
        | .ok v =>
          match v.next with
          | .ended => .error (.here .endInObject [])
          | .char '}' _ lt => .ok (((Taken.upTo lt ()).behind hq).behind hp)
          | .char ',' r lt =>
            (skipMoreMembers r).map fun t => ((t.behind lt).behind hq).behind hp
          | .char c r _ => .error (.here .expectedObjectEnd (c :: r))
      | .char c q _ => .error (.here .expectedColon (c :: q))
  | .char c p _ => .error (.here .nameNotString (c :: p))
termination_by 4 * s.length + 1

end

end Compliance.Json
