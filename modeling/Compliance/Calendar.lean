import Compliance.Text.Blank
import Compliance.Text.Character

/-!
Calendar days written as year, month and day with hyphens between them. Reading is lenient about
the number of digits and about blanks in front of a number, and says what is wrong with a text that
names no day.
-/

namespace Compliance.Calendar

structure Date where
  year : Int
  month : Nat
  day : Nat
  deriving DecidableEq, Repr

def isLeap (year : Int) : Bool := year % 4 == 0 && (year % 100 != 0 || year % 400 == 0)

def daysInMonth (year : Int) (month : Nat) : Nat :=
  if month = 2 then if isLeap year then 29 else 28
  else if month = 4 ∨ month = 6 ∨ month = 9 ∨ month = 11 then 30
  else 31

def firstYear : Int := -262143

def lastYear : Int := 262142

def Date.isValid (d : Date) : Bool :=
  firstYear ≤ d.year && d.year ≤ lastYear && 1 ≤ d.month && d.month ≤ 12 && 1 ≤ d.day &&
    d.day ≤ daysInMonth d.year d.month

inductive Fault
  | tooShort
  | invalid
  | outOfRange
  | trailing
  deriving DecidableEq, Repr

def Fault.text : Fault → String
  | .tooShort => "premature end of input"
  | .invalid => "input contains invalid characters"
  | .outOfRange => "input is out of range"
  | .trailing => "trailing input"

/-- Reads digits, at most `limit` of them if there is a limit. The number must fit into a signed
word of 64 bits. -/
def number (limit : Option Nat) (cs : List Char) : Except Fault (Nat × List Char) :=
  let run := cs.takeWhile Char.isDigit
  let digits := limit.elim run run.take
  if digits = [] then .error (if cs = [] then .tooShort else .invalid)
  else
    let n := Text.numeral digits
    if UInt64.size / 2 ≤ n then .error .outOfRange else .ok (n, cs.drop digits.length)

def skipBlanks (cs : List Char) : List Char := cs.dropWhile Text.isBlank

/-- Reads a year. With a sign it has as many digits as there are, without one four at most. It must
fit into a signed word of 32 bits. -/
def year (cs : List Char) : Except Fault (Int × List Char) := do
  let (y, rest) ← match skipBlanks cs with
    | '-' :: ds => (number none ds).map fun r => (-(r.1 : Int), r.2)
    | '+' :: ds => (number none ds).map fun r => ((r.1 : Int), r.2)
    | ds => (number (some 4) ds).map fun r => ((r.1 : Int), r.2)
  if -2147483648 ≤ y ∧ y ≤ 2147483647 then return (y, rest) else throw .outOfRange

/-- Reads a month or a day, which is at least one and at most `last`. -/
def part (last : Nat) (cs : List Char) : Except Fault (Nat × List Char) := do
  let (n, rest) ← number (some 2) (skipBlanks cs)
  if 1 ≤ n ∧ n ≤ last then return (n, rest) else throw .outOfRange

def hyphen : List Char → Except Fault (List Char)
  | [] => .error .tooShort
  | '-' :: rest => .ok rest
  | _ => .error .invalid

def parse (s : String) : Except Fault Date := do
  let (y, rest) ← year s.toList
  let rest ← hyphen rest
  let (m, rest) ← part 12 rest
  let rest ← hyphen rest
  let (d, rest) ← part 31 rest
  if rest ≠ [] then throw .trailing
  if Date.isValid ⟨y, m, d⟩ then return ⟨y, m, d⟩ else throw .outOfRange

end Compliance.Calendar
