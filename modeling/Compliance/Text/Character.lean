/-!
Characters: classes of them by the ranges of their code points, and digits with the numbers that
they stand for.
-/

namespace Compliance.Text

def isWithin (low high : Nat) (c : Char) : Bool := low ≤ c.toNat && c.toNat ≤ high

def inRanges (table : Array (Nat × Nat)) (n : Nat) : Bool :=
  table.any fun r => r.1 ≤ n && n ≤ r.2

/-! ### Digits -/

def hexValue? (c : Char) : Option Nat :=
  if '0' ≤ c ∧ c ≤ '9' then some (c.toNat - '0'.toNat)
  else if 'a' ≤ c ∧ c ≤ 'f' then some (c.toNat - 'a'.toNat + 10)
  else if 'A' ≤ c ∧ c ≤ 'F' then some (c.toNat - 'A'.toNat + 10)
  else none

def hexText (n : Nat) : String := String.ofList (Nat.toDigits 16 n)

/-- The number that decimal digits stand for, of which there may be none. -/
def numeral (ds : List Char) : Nat := Nat.ofDigitChars 10 ds 0

/-- The number that a text of decimal digits stands for; a plus sign may precede them. -/
def natural? (cs : List Char) : Option Nat :=
  let digits := if cs.head? = some '+' then cs.drop 1 else cs
  if digits ≠ [] ∧ digits.all Char.isDigit then some (numeral digits) else none

end Compliance.Text
