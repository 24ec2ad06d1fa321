import Compliance.Json.Fault
import Compliance.Json.Value
import Compliance.Decimal.Shortest

/-!
Reading and writing numbers. The digits of a number go into one whole number below 2^64, the
significand, and what does not fit only moves the decimal point. The double is then the significand
times or divided by one power of ten, which is within a rounding or two of the decimal but not
always the nearest double; a number that becomes infinite is refused.
-/

namespace Compliance.Json

def digitValue (c : Char) : Nat := c.toNat - '0'.toNat

def significandBound : Nat := UInt64.size

/-- Appends digits to a significand while it stays below the bound: the significand, the number of
digits appended, and the rest, which may start with the digit that did not fit. -/
def extend (m : Nat) : (s : List Char) → Nat × Taken Nat s
  | [] => (m, .here 0 [])
  | c :: cs =>
    if c.isDigit ∧ m * 10 + digitValue c < significandBound then
      let (m, t) := extend (m * 10 + digitValue c) cs
      (m, (t.map (· + 1)).cons c)
    else (m, .here 0 (c :: cs))

def skipDigits : (s : List Char) → Taken Nat s
  | [] => .here 0 []
  | c :: cs =>
    if c.isDigit then ((skipDigits cs).map (· + 1)).cons c
    else .here 0 (c :: cs)

def pow10 (n : Nat) : Float := Float.ofScientific 1 false n

/-- Divides by `10 ^ k`, by at most `10 ^ 308` at a time. -/
def scaleDown (x : Float) (k : Nat) : Float :=
  if k ≤ 308 then x / pow10 k
  else if x == 0 then x
  else scaleDown (x / pow10 308) (k - 308)
termination_by k

def scale? (m : Nat) (exponent : Int) : Option Float :=
  let x := m.toUInt64.toFloat
  if exponent < 0 then some (scaleDown x (-exponent).toNat)
  else if exponent ≤ 308 then
    let y := x * pow10 exponent.toNat
    if y.isInf then none else some y
  else if x == 0 then some x
  else none

def signed (negative : Bool) (x : Float) : Float := if negative then -x else x

def floatOf (negative : Bool) (m : Nat) (exponent : Int) {s : List Char} (t : Taken Unit s) :
    Except Fault (Taken Number s) :=
  match scale? m exponent with
  | some x => .ok (t.map fun _ => .float (signed negative x))
  | none => .error (.before .numberOutOfRange t.rest)

/-- Exponents stay within 32-bit words, and a sum that leaves them stops at the end. -/
def clampExponent (e : Int) : Int := max (-2147483648) (min e 2147483647)

/-- Appends digits to an exponent; nothing when it leaves the range, with the text after the digit
at which it does. -/
def extendExponent (e : Nat) : (s : List Char) → Option Nat × Taken Unit s
  | [] => (some e, .here () [])
  | c :: cs =>
    if c.isDigit then
      if e * 10 + digitValue c < UInt32.size / 2 then
        let (e, t) := extendExponent (e * 10 + digitValue c) cs
        (e, t.cons c)
      else (none, (Taken.here () cs).cons c)
    else (some e, .here () (c :: cs))

def exponentDigits (negative : Bool) (m : Nat) (start : Int) (down : Bool) : Reader Number
  | [] => .error (.before .endInValue [])
  | c :: cs =>
    if c.isDigit then
      match extendExponent (digitValue c) cs with
      | (some e, t) =>
        floatOf negative m (clampExponent (if down then start - e else start + e))
          (t.cons c)
      | (none, t) =>
        if m ≠ 0 ∧ down = false then .error (.before .numberOutOfRange t.rest)
        else
          .ok ((t.followedBy ((skipDigits t.rest).map fun _ => .float (signed negative 0))).cons c)
    else .error (.here .invalidNumber (c :: cs))

def exponent (negative : Bool) (m : Nat) (start : Int) : Reader Number
  | '+' :: cs => (exponentDigits negative m start false cs).map (.cons '+')
  | '-' :: cs => (exponentDigits negative m start true cs).map (.cons '-')
  | cs => exponentDigits negative m start false cs

def afterFraction (negative : Bool) (m : Nat) (exp : Int) : Reader Number
  | 'e' :: cs => (exponent negative m exp cs).map (.cons 'e')
  | 'E' :: cs => (exponent negative m exp cs).map (.cons 'E')
  | cs => floatOf negative m exp (.here () cs)

/-- What follows the decimal point. Digits that no longer fit are dropped. -/
def fraction (negative : Bool) (m : Nat) (exp : Int) : Reader Number := fun s =>
  match extend m s with
  | (m, t) =>
    let r := skipDigits t.rest
    if t.value = 0 ∧ r.value = 0 then
      match t.rest with
      | [] => .error (.before .endInValue [])
      | cs => .error (.here .invalidNumber cs)
    else
      (afterFraction negative m (exp - t.value) r.rest).map fun u => t.followedBy (r.followedBy u)

/-- The value of an integer literal: whole if it fits, and `-0` is no integer. -/
def wholeNumber (negative : Bool) (m : Nat) : Number :=
  if negative then
    if 0 < m ∧ m ≤ UInt64.size / 2 then .integer (-m) else .float (-m.toUInt64.toFloat)
  else .integer m

/-- What follows the digits before the decimal point, `dropped` of which did not fit. -/
def afterInteger (negative : Bool) (m dropped : Nat) : Reader Number
  | '.' :: cs => (fraction negative m dropped cs).map (.cons '.')
  | 'e' :: cs => (exponent negative m dropped cs).map (.cons 'e')
  | 'E' :: cs => (exponent negative m dropped cs).map (.cons 'E')
  | cs =>
    if dropped = 0 then .ok (.here (wholeNumber negative m) cs)
    else floatOf negative m dropped (.here () cs)

/-- A number after its sign. No digit may follow a leading zero. -/
def number (negative : Bool) : Reader Number
  | [] => .error (.before .endInValue [])
  | '0' :: cs =>
    if cs.head?.any Char.isDigit then .error (.here .invalidNumber cs)
    else (afterInteger negative 0 0 cs).map (.cons '0')
  | c :: cs =>
    if c.isDigit then
      match extend (digitValue c) cs with
      | (m, t) =>
        let r := skipDigits t.rest
        (afterInteger negative m r.value r.rest).map fun u =>
          (t.followedBy (r.followedBy u)).cons c
    else .error (.here .invalidNumber (c :: cs))

/-! ### Writing -/

/-- Doubles from 10^-5 up to 10^16 are written positionally, with at least one digit after the
point; the others with one digit before the point and a signed exponent. -/
def floatDigits (d : Decimal.Digits) : String :=
  let digits := toString d.digits
  let count : Int := digits.length
  if -5 < d.point ∧ d.point ≤ 0 then
    "0." ++ String.ofList (List.replicate (-d.point).toNat '0') ++ digits
  else if 0 < d.point ∧ d.point ≤ 16 then
    if count ≤ d.point then
      digits ++ String.ofList (List.replicate (d.point - count).toNat '0') ++ ".0"
    else
      String.ofList (digits.toList.take d.point.toNat) ++ "." ++
        String.ofList (digits.toList.drop d.point.toNat)
  else
    let e := d.point - 1
    let lead := String.ofList (digits.toList.take 1)
    let tail := String.ofList (digits.toList.drop 1)
    lead ++ (if tail.isEmpty then "" else "." ++ tail) ++ "e" ++ (if e < 0 then "-" else "+") ++
      toString e.natAbs

def floatText (x : Float) : String :=
  let bits := x.toBits.toNat
  (if bits ≥ UInt64.size / 2 then "-" else "") ++
    floatDigits (Decimal.Binary.ofBits (bits % (UInt64.size / 2))).shortest

def Number.text : Number → String
  | .integer n => toString n
  | .float x => floatText x

end Compliance.Json
