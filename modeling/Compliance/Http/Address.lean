import Compliance.Http.Percent
import Compliance.Text.Quoted

/-!
Numeric addresses of hosts. An address of four bytes is written with dots; where it is read, a part
may be hexadecimal or octal, and the last part may stand for several bytes. An address of eight
pieces is written with colons, with the longest run of zeros left out.
-/

namespace Compliance.Http.Address

/-! ### Four bytes -/

/-- The number of one part: hexadecimal after `0x`, octal after `0`. -/
def part? (cs : List Char) : Option Nat :=
  let numeral (base : Nat) (ds : List Char) : Option Nat :=
    ds.foldlM (fun n c => (hexValue? c).bind fun d => if d < base then some (base * n + d) else none) 0
  match cs with
  | [] => none
  | '0' :: 'x' :: ds => numeral 16 ds
  | '0' :: 'X' :: ds => numeral 16 ds
  | '0' :: d :: ds => numeral 8 (d :: ds)
  | ds => numeral 10 ds

/-- The parts of a name between its dots, without an empty one at the end. -/
def parts (name : List Char) : List (List Char) :=
  let ps := Text.pieces (· == '.') name
  if 1 < ps.length ∧ ps.getLast? = some [] then ps.dropLast else ps

/-- A name that must be an address of four bytes, since its last part is a number. -/
def isFour (name : List Char) : Bool :=
  match (parts name).getLast? with
  | some last => (last ≠ [] && last.all Char.isDigit) || (part? last).isSome
  | none => false

def four? (name : List Char) : Option Nat :=
  match (parts name).mapM part? with
  | none => none
  | some ns =>
    let last := ns.getLast?.getD 0
    if ns.length ≤ 4 ∧ (ns.dropLast.all (· < 256)) ∧ last < Nat.pow 256 (5 - ns.length) then
      some (ns.dropLast.zipIdx.foldl (fun n p => n + p.1 * Nat.pow 256 (3 - p.2)) last)
    else none

def fourText (n : Nat) : String :=
  ".".intercalate ([3, 2, 1, 0].map fun i => toString (n / Nat.pow 256 i % 256))

/-! ### Eight pieces -/

def piece? (cs : List Char) : Option Nat :=
  if cs.length = 0 ∨ 4 < cs.length then none
  else cs.foldlM (fun n c => (hexValue? c).map (16 * n + ·)) 0

/-- A byte in decimal digits, the first of which is not a needless zero. -/
def byte? (cs : List Char) : Option Nat :=
  if cs = [] ∨ 3 < cs.length ∨ !cs.all Char.isDigit ∨ (cs.head? = some '0' ∧ 1 < cs.length) then none
  else
    let n := Text.numeral cs
    if n < 256 then some n else none

def dotted? (cs : List Char) : Option (List Nat) :=
  match (Text.pieces (· == '.') cs).mapM byte? with
  | some [a, b, c, d] => some [256 * a + b, 256 * c + d]
  | _ => none

/-- Pieces between colons. Only the last may be written as bytes, where `mayEndInBytes` holds. -/
def pieces? (mayEndInBytes : Bool) : List (List Char) → Option (List Nat)
  | [] => some []
  | [cs] =>
    if mayEndInBytes ∧ cs.contains '.' then dotted? cs else (piece? cs).map ([·])
  | cs :: rest => do
    let n ← piece? cs
    let ns ← pieces? mayEndInBytes rest
    return n :: ns

def group? (mayEndInBytes : Bool) (cs : List Char) : Option (List Nat) :=
  if cs = [] then some [] else pieces? mayEndInBytes (Text.pieces (· == ':') cs)

def splitAtGap : List Char → Option (List Char × List Char)
  | ':' :: ':' :: rest => some ([], rest)
  | c :: rest => (splitAtGap rest).map fun r => (c :: r.1, r.2)
  | [] => none

/-- The eight pieces that a text stands for. Two colons in a row stand for at least one zero. -/
def eight? (cs : List Char) : Option (List Nat) :=
  match splitAtGap cs with
  | none =>
    match group? true cs with
    | some ns => if ns.length = 8 then some ns else none
    | none => none
  | some (left, right) =>
    match group? false left, group? true right with
    | some ns, some ms =>
      if ns.length + ms.length ≤ 7 then
        some (ns ++ List.replicate (8 - ns.length - ms.length) 0 ++ ms)
      else none
    | _, _ => none

def zeroRuns : List Nat → List Nat
  | [] => []
  | n :: ns => ((n :: ns).takeWhile (· = 0)).length :: zeroRuns ns

def piecesText (ns : List Nat) : String := ":".intercalate (ns.map Text.hexText)

def eightText (ns : List Nat) : String :=
  let runs := zeroRuns ns
  let longest := runs.foldl max 0
  if longest < 2 then piecesText ns
  else
    let i := runs.findIdx (· = longest)
    piecesText (ns.take i) ++ "::" ++ piecesText (ns.drop (i + longest))

end Compliance.Http.Address
