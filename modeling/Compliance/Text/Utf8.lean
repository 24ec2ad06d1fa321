/-!
Bytes as UTF-8 text. Reading never fails: a byte sequence that is no UTF-8 gives U+FFFD once for
each longest start of a character in it, and once for each byte that starts none.
-/

namespace Compliance.Text

def bytesOf (cs : List Char) : List UInt8 := cs.flatMap String.utf8EncodeChar

/-- The range of the second byte and the number of bytes after the first, by the first byte. -/
def leadRange (b : UInt8) : Option (Nat × UInt8 × UInt8) :=
  if 0xC2 ≤ b && b ≤ 0xDF then some (1, 0x80, 0xBF)
  else if b == 0xE0 then some (2, 0xA0, 0xBF)
  else if b == 0xED then some (2, 0x80, 0x9F)
  else if 0xE1 ≤ b && b ≤ 0xEF then some (2, 0x80, 0xBF)
  else if b == 0xF0 then some (3, 0x90, 0xBF)
  else if 0xF1 ≤ b && b ≤ 0xF3 then some (3, 0x80, 0xBF)
  else if b == 0xF4 then some (3, 0x80, 0x8F)
  else none

/-- The bits that the first byte of a character of `n + 1` bytes gives. -/
def leadBits (n : Nat) (b : UInt8) : Nat :=
  match n with
  | 1 => b.toNat % 32
  | 2 => b.toNat % 16
  | _ => b.toNat % 8

/-- Takes up to `n` more bytes, the first of them within `low` and `high` and the others within the
range of tails; gives the bits read, how many bytes were taken and whether all were there. -/
def takeTails : Nat → UInt8 → UInt8 → Nat → List UInt8 → Nat × Nat × Bool
  | 0, _, _, bits, _ => (bits, 0, true)
  | _ + 1, _, _, bits, [] => (bits, 0, false)
  | n + 1, low, high, bits, b :: bs =>
    if low ≤ b && b ≤ high then
      let (bits, taken, whole) := takeTails n 0x80 0xBF (bits * 64 + b.toNat % 64) bs
      (bits, taken + 1, whole)
    else (bits, 0, false)

/-- The character that a byte and those after it stand for, and how many of those after it belong
to it. -/
def firstChar (b : UInt8) (bs : List UInt8) : Char × Nat :=
  if b < 0x80 then (Char.ofNat b.toNat, 0)
  else
    match leadRange b with
    | none => ('\uFFFD', 0)
    | some (n, low, high) =>
      match takeTails n low high (leadBits n b) bs with
      | (bits, taken, true) => (Char.ofNat bits, taken)
      | (_, taken, false) => ('\uFFFD', taken)

/-- The text of a byte sequence, with U+FFFD for what is no UTF-8. -/
def decodeBytes : List UInt8 → List Char
  | [] => []
  | b :: bs =>
    (firstChar b bs).1 :: decodeBytes (bs.drop (firstChar b bs).2)
termination_by bs => bs.length
decreasing_by
  rw [List.length_drop, List.length_cons]
  omega

def textOfBytes (bs : List UInt8) : String := String.ofList (decodeBytes bs)

end Compliance.Text
