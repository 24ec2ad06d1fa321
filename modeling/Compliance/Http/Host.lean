import Compliance.Http.Address
import Compliance.Http.Domain
import Compliance.Text.Utf8

/-!
The host that a URL names: a domain or an address.
-/

namespace Compliance.Http

inductive Host
  | name (s : String)
  | four (address : Nat)
  | eight (pieces : List Nat)
  deriving DecidableEq, Repr

inductive UrlFault
  | noScheme
  | emptyHost
  | malformedDomain
  | forbiddenInHost
  | malformedFour
  | malformedEight
  | malformedPort
  deriving DecidableEq, Repr

namespace Host

def text : Host → String
  | name s => s
  | four n => Address.fourText n
  | eight ns => "[" ++ Address.eightText ns ++ "]"

def isForbidden (c : Char) : Bool :=
  c == '\x00' || c == '\t' || c == '\n' || c == '\r' || " #/:<>?@[\\]^|".toList.contains c

def ofBrackets (cs : List Char) : Except UrlFault Host :=
  if cs.length < 2 ∨ cs.getLast? ≠ some ']' then .error .malformedEight
  else
    match Address.eight? (cs.drop 1).dropLast with
    | some ns => .ok (.eight ns)
    | none => .error .malformedEight

def ofDomain (cs : List Char) : Except UrlFault Host :=
  if cs.head? = some '[' then ofBrackets cs
  else
    match Domain.sentName? (Text.decodeBytes (percentBytes cs)) with
    | none => .error .malformedDomain
    | some [] => .error .emptyHost
    | some domain =>
      if Address.isFour domain then
        match Address.four? domain with
        | some n => .ok (.four n)
        | none => .error .malformedFour
      else .ok (.name (String.ofList domain))

/-- The host of a URL of any other scheme, of which no more is known than where it ends. -/
def ofText (cs : List Char) : Except UrlFault Host :=
  if cs.head? = some '[' then ofBrackets cs
  else if cs.any isForbidden then .error .forbiddenInHost
  else .ok (.name (String.ofList (escapeChars (fun _ => false) cs)))

end Host

end Compliance.Http
