/-!
Spans of time in whole nanoseconds. The longest span has as many seconds as a 64-bit word can
count; a product beyond it is cut down to it.
-/

namespace Compliance

structure Duration where
  nanos : Nat
  deriving DecidableEq, Repr

namespace Duration

def second : Nat := 1000000000

def ofSeconds (n : Nat) : Duration := ⟨n * second⟩

def ofMillis (n : Nat) : Duration := ⟨n * 1000000⟩

def ofMicros (n : Nat) : Duration := ⟨n * 1000⟩

/-- The largest number of a 64-bit word in seconds, and all but one nanosecond of another. -/
def longest : Duration := ⟨UInt64.size * second - 1⟩

def times (d : Duration) (n : Nat) : Duration := ⟨min (d.nanos * n) longest.nanos⟩

def shorter (d e : Duration) : Duration := ⟨min d.nanos e.nanos⟩

/-- The decimals of `part / unit`, without zeros at the end; `unit` is a power of ten. -/
def decimals (part unit : Nat) : List Char :=
  let digits := (Nat.toDigits 10 (unit + part)).drop 1
  (digits.reverse.dropWhile (· == '0')).reverse

def inUnit (nanos unit : Nat) (name : String) : String :=
  let rest := decimals (nanos % unit) unit
  toString (nanos / unit) ++ (if rest = [] then "" else "." ++ String.ofList rest) ++ name

def text (d : Duration) : String :=
  if second ≤ d.nanos then inUnit d.nanos second "s"
  else if 1000000 ≤ d.nanos then inUnit d.nanos 1000000 "ms"
  else if 1000 ≤ d.nanos then inUnit d.nanos 1000 "µs"
  else toString d.nanos ++ "ns"

end Duration

end Compliance
