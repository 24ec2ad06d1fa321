import Compliance.CommandLine.Grammar

/-!
Reading a command line from left to right. A value that was just given is looked at only when the
next argument has been recognised, or at the end; so an argument that is not known at all is
reported before a wrong value in front of it.
-/

namespace Compliance.CommandLine

structure Pending where
  slot : Slot
  value : Option String
  deriving DecidableEq, Repr

/-- How far a command line has been read. `free` holds the positions without a value yet, and after
`ended` no argument is an option. -/
structure State where
  values : Values
  pending : Option Pending
  free : List Slot
  ended : Bool
  deriving DecidableEq, Repr

namespace State

/-- Enters a value, which must be the first of its name and of the right kind. -/
def enter (s : State) (slot : Slot) (value : String) : Except Fault State := do
  if (s.values.lookup slot.name).isSome then throw .givenTwice
  slot.kind.check value
  return { s with values := s.values ++ [(slot.name, value)] }

def settle (s : State) : Except Fault State :=
  match s.pending with
  | none => .ok s
  | some ⟨_, none⟩ => .error .invalidValue
  | some ⟨slot, some value⟩ => { s with pending := none }.enter slot value

def takePosition (s : State) (arg : String) : Except Fault State :=
  match s.free with
  | [] => .error .unknownArgument
  | slot :: free => do
    let s ← s.settle
    return { s with pending := some ⟨slot, some arg⟩, free := free }

def takeValue (s : State) (arg : String) : Except Fault State :=
  match s.pending with
  | some ⟨slot, none⟩ => .ok { s with pending := some ⟨slot, some arg⟩ }
  | _ => s.takePosition arg

def takeOption (g : Grammar) (s : State) (name : String) (value : Option String) :
    Except Fault State :=
  match g.options.find? (·.name = name), value with
  | some slot, some value => do (← s.settle).enter slot value
  | some slot, none => do return { ← s.settle with pending := some ⟨slot, none⟩ }
  | none, value =>
    if name = "help" ∨ name = "version" ∨ g.switches.contains name then
      if value.isSome then .error .unexpectedValue
      else do
        let s ← s.settle
        if name = "help" then throw .helpWanted
        else if name = "version" then throw .versionWanted
        else s.enter ⟨name, .text⟩ ""
    else .error .unknownArgument

/-- Letters behind a single hyphen. Either of the two that are known ends the reading. -/
def takeLetters (s : State) : List Char → Except Fault State
  | 'h' :: _ => do
    let _ ← s.settle
    throw .helpWanted
  | 'V' :: _ => do
    let _ ← s.settle
    throw .versionWanted
  | _ => .error .unknownArgument

def take (g : Grammar) (s : State) (arg : String) : Except Fault State :=
  if s.ended then s.takePosition arg
  else
    match arg.toList with
    | ['-', '-'] => .ok { s with ended := true }
    | '-' :: '-' :: cs =>
      let value := (cs.dropWhile (· ≠ '=')).drop 1
      s.takeOption g (String.ofList (cs.takeWhile (· ≠ '=')))
        (if cs.contains '=' then some (String.ofList value) else none)
    | '-' :: c :: cs => s.takeLetters (c :: cs)
    | _ => s.takeValue arg

end State

def fromEnvironment (g : Grammar) (env : Environment) (values : Values) : Values :=
  values ++ g.fallbacks.filterMap fun v =>
    if (values.lookup v.1).isSome then none else (env.lookup v.2).map ((v.1, ·))

/-- Reads a command line. Only at the end is it seen whether every position has a value. -/
def read (g : Grammar) (env : Environment) (args : List String) : Except Fault Values := do
  let s ← args.foldlM (State.take g) ⟨[], none, g.positions, false⟩
  let s ← s.settle
  if s.free ≠ [] then throw .missingArgument
  return fromEnvironment g env s.values

end Compliance.CommandLine
