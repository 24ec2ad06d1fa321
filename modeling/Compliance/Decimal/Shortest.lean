/-!
The fewest decimal digits that read back as a given double. A double is a whole number times a
power of two, and the reals that are read as it form an interval around it. On the grid of decimals
with `n` digits only the two neighbours of the value can be its nearest points, so the first `n`
for which one of them lies in the interval gives the digits; the nearer one is taken, of two
equally near ones the even one.
-/

namespace Compliance.Decimal

/-- A positive double as `mantissa * 2 ^ exponent`. -/
structure Binary where
  mantissa : Nat
  exponent : Int
  deriving DecidableEq, Repr

/-- A decimal `0.DIGITS * 10 ^ point`, the digits being those of a whole number. -/
structure Digits where
  digits : Nat
  point : Int
  deriving DecidableEq, Repr

def leadingBit : Nat := 4503599627370496

def Binary.ofBits (bits : Nat) : Binary :=
  let fraction : Nat := bits % leadingBit
  let biased : Nat := bits / leadingBit % 2048
  if biased = 0 then ⟨fraction, -1074⟩ else ⟨fraction + leadingBit, (biased : Int) - 1075⟩

/-- The value and the ends of its interval as numerators over one denominator. Below a power of two
the doubles lie twice as dense, so the lower end is nearer there. -/
structure Interval where
  low : Nat
  value : Nat
  high : Nat
  den : Nat
  closed : Bool
  deriving DecidableEq, Repr

def Binary.interval (b : Binary) : Interval :=
  let gap := if b.mantissa = leadingBit ∧ b.exponent ≠ -1074 then 1 else 2
  let up := (b.exponent - 2).toNat
  let down := (2 - b.exponent).toNat
  { low := (4 * b.mantissa - gap) * Nat.pow 2 up
    value := 4 * b.mantissa * Nat.pow 2 up
    high := (4 * b.mantissa + 2) * Nat.pow 2 up
    den := Nat.pow 2 down
    closed := b.mantissa % 2 = 0 }

def Interval.inUnits (i : Interval) (k : Int) : Interval :=
  let f := Nat.pow 10 (-k).toNat
  { i with
    low := i.low * f
    value := i.value * f
    high := i.high * f
    den := i.den * Nat.pow 10 k.toNat }

def Interval.holds (i : Interval) (n : Nat) : Bool :=
  if i.closed then i.low ≤ n * i.den && n * i.den ≤ i.high
  else i.low < n * i.den && n * i.den < i.high

/-- Of the two whole numbers of units around the value the one that reads back, the nearer first. -/
def Interval.nearest? (i : Interval) : Option Nat :=
  let below := i.value / i.den
  let rest := i.value % i.den
  let belowFirst := 2 * rest < i.den || (2 * rest == i.den && below % 2 == 0)
  let first := if belowFirst then below else below + 1
  let second := if belowFirst then below + 1 else below
  if i.holds first then some first else if i.holds second then some second else none

def digitCount (n : Nat) : Nat := (Nat.toDigits 10 n).length

/-- The `p` for which the value lies between `10 ^ (p - 1)`, included, and `10 ^ p`. -/
def Interval.point (i : Interval) : Int :=
  if i.den ≤ i.value then digitCount (i.value / i.den)
  else
    let inverse := i.den / i.value
    let zeros := digitCount inverse
    if i.den = i.value * Nat.pow 10 (zeros - 1) then 2 - (zeros : Int) else 1 - (zeros : Int)

def dropZeros : Nat → Nat → Nat
  | 0, n => n
  | fuel + 1, n => if n % 10 = 0 then dropZeros fuel (n / 10) else n

/-- Seventeen digits always read back, so the search ends by then. -/
def Binary.shortest (b : Binary) : Digits :=
  if b.mantissa = 0 then ⟨0, 1⟩
  else
    let i := b.interval
    let p := i.point
    let found := (List.range 17).findSome? fun n =>
      let k : Int := p - ((n : Nat) + 1 : Nat)
      (i.inUnits k).nearest?.map fun d => (⟨dropZeros 17 d, digitCount d + k⟩ : Digits)
    found.getD ⟨0, 1⟩

end Compliance.Decimal
