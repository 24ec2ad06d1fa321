import Compliance.Text.Blank
import Compliance.Text.Character

/-!
What may stand on a command line. A program takes some values by position, and options by name;
an option is a switch or has a value of some kind. An option that is not given may be taken from a
variable of the environment.
-/

namespace Compliance.CommandLine

inductive Fault
  | unknownArgument
  | invalidValue
  | malformedNumber
  | givenTwice
  | unexpectedValue
  | missingArgument
  | helpWanted
  | versionWanted
  deriving DecidableEq, Repr

/-- The kinds of values. A number is below a limit, and may be allowed a minus sign before zero. -/
inductive Kind
  | text
  | path
  | number (limit : Nat) (signed : Bool)
  | choice (words : List String)
  deriving DecidableEq, Repr

def number? (limit : Nat) (signed : Bool) (s : String) : Option Nat :=
  let n? :=
    match signed, s.toList with
    | true, '-' :: '+' :: _ => none
    | true, '-' :: digits => (Text.natural? digits).filter (· = 0)
    | _, cs => Text.natural? cs
  n?.filter (· < limit)

def Kind.check : Kind → String → Except Fault Unit
  | .text, _ => .ok ()
  | .path, s => if s = "" then .error .invalidValue else .ok ()
  | .number limit signed, s =>
    if (number? limit signed s).isSome then .ok () else .error .malformedNumber
  | .choice words, s => if words.contains s then .ok () else .error .invalidValue

structure Slot where
  name : String
  kind : Kind
  deriving DecidableEq, Repr

/-- The names by which values are given; `fallbacks` has variables for names of options. -/
structure Grammar where
  positions : List Slot
  options : List Slot
  switches : List String
  fallbacks : List (String × String)
  deriving DecidableEq, Repr

/-- The values that a command line gives, each with its name. A switch has an empty value. -/
abbrev Values := List (String × String)

abbrev Environment := List (String × String)

end Compliance.CommandLine
