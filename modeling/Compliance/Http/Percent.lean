import Compliance.Text.Utf8
import Compliance.Text.Blank
import Compliance.Text.Character

/-!
Bytes written as a percent sign and two hexadecimal digits. Which bytes stand for themselves is up
to the place a text is written to: a segment of a path keeps the unreserved characters only, a form
has a set of its own and a plus sign for a space.
-/

namespace Compliance.Http

export Text (hexValue?)

def upperHex (n : Nat) : Char := n.digitChar.toUpper

def percentByte (b : UInt8) : List Char :=
  ['%', upperHex (b.toNat / 16), upperHex (b.toNat % 16)]

/-- Bytes as text: those that `keep` holds of stand for themselves. -/
def escapeBytes (keep : UInt8 → Bool) (bs : List UInt8) : List Char :=
  bs.flatMap fun b => if keep b then [Char.ofNat b.toNat] else percentByte b

/-- Writes the bytes of the characters that `escaped` holds of as percent signs and digits, and
those of controls and of all characters that are not ASCII. -/
def escapeChars (escaped : Char → Bool) (cs : List Char) : List Char :=
  cs.flatMap fun c =>
    if c.toNat < 0x20 || 0x7F ≤ c.toNat || escaped c then (Text.bytesOf [c]).flatMap percentByte
    else [c]

def isAlphanumeric (b : UInt8) : Bool :=
  (0x30 ≤ b && b ≤ 0x39) || (0x41 ≤ b && b ≤ 0x5A) || (0x61 ≤ b && b ≤ 0x7A)

/-- Letters, digits and the four signs that mean nothing anywhere in a URL. -/
def isUnreserved (b : UInt8) : Bool :=
  isAlphanumeric b || b == 0x2D || b == 0x2E || b == 0x5F || b == 0x7E

def percentEncode (s : String) : String :=
  String.ofList (escapeBytes isUnreserved (Text.bytesOf s.toList))

/-- The bytes of a text in which a percent sign with two digits stands for a byte. -/
def percentBytes : List Char → List UInt8
  | [] => []
  | '%' :: a :: b :: rest =>
    match hexValue? a, hexValue? b with
    | some x, some y => UInt8.ofNat (16 * x + y) :: percentBytes rest
    | _, _ => Text.bytesOf ['%'] ++ percentBytes (a :: b :: rest)
  | c :: rest => Text.bytesOf [c] ++ percentBytes rest
termination_by s => s.length

def percentDecode (s : String) : String := Text.textOfBytes (percentBytes s.toList)

namespace Form

def isKept (b : UInt8) : Bool :=
  isAlphanumeric b || b == 0x2A || b == 0x2D || b == 0x2E || b == 0x5F

def encodeByte (b : UInt8) : List Char :=
  if b = 0x20 then ['+'] else if isKept b then [Char.ofNat b.toNat] else percentByte b

def encodeText (s : String) : List Char := (Text.bytesOf s.toList).flatMap encodeByte

def encodePair (p : String × String) : List Char := encodeText p.1 ++ '=' :: encodeText p.2

def encode (pairs : List (String × String)) : String :=
  String.ofList (List.intercalate ['&'] (pairs.map encodePair))

def decodeText (cs : List Char) : String :=
  Text.textOfBytes (percentBytes (cs.map fun c => if c = '+' then ' ' else c))

def decodePair (cs : List Char) : String × String :=
  (decodeText (cs.takeWhile (· ≠ '=')), decodeText ((cs.dropWhile (· ≠ '=')).drop 1))

/-- The pairs of a form; empty pieces between the ampersands are none. -/
def decode (s : String) : List (String × String) :=
  ((Text.pieces (· == '&') s.toList).filter (· ≠ [])).map decodePair

end Form

end Compliance.Http
