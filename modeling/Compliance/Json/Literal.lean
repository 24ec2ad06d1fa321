import Compliance.Json.Fault
import Compliance.Text.Character

/-!
The words and the strings of JSON. A string is read in one of two ways: with its characters
decoded, where escapes above U+FFFF must come in pairs, or only to get past it, where an escape
needs its four digits and no more.
-/

namespace Compliance.Json

open Text (hexValue?)

def word : List Char → Reader Unit
  | [], s => .ok (.here () s)
  | _ :: _, [] => .error (.before .endInValue [])
  | w :: ws, c :: cs =>
    if c = w then (word ws cs).map (.cons c)
    else .error (.here .expectedWord (c :: cs))

/-- Four hexadecimal digits. They are looked for in the next four bytes, so a text that has fewer
bytes left ends too early, whatever they are. -/
def fourHex : Reader Nat := fun s =>
  match s with
  | a :: b :: c :: d :: rest =>
    match hexValue? a, hexValue? b, hexValue? c, hexValue? d with
    | some x, some y, some z, some w =>
      .ok ((((Taken.here (((x * 16 + y) * 16 + z) * 16 + w) rest).cons d).cons c).cons b |>.cons a)
    | _, _, _, _ => .error ⟨.invalidEscape, s, 4⟩
  | _ =>
    if byteSize s < 4 then .error (.before .endInString []) else .error ⟨.invalidEscape, s, 4⟩

/-- The character after a backslash, unless it begins an escape by number. -/
def shortEscape? : Char → Option Char
  | '"' => some '"'
  | '\\' => some '\\'
  | '/' => some '/'
  | 'b' => some '\x08'
  | 'f' => some '\x0c'
  | 'n' => some '\n'
  | 'r' => some '\r'
  | 't' => some '\t'
  | _ => none

def isHighSurrogate (n : Nat) : Bool := 0xD800 ≤ n && n ≤ 0xDBFF

def isLowSurrogate (n : Nat) : Bool := 0xDC00 ≤ n && n ≤ 0xDFFF

def joinSurrogates (high low : Nat) : Char :=
  Char.ofNat ((high - 0xD800) * 0x400 + (low - 0xDC00) + 0x10000)

def lowHalf (high : Nat) : Reader Char
  | [] => .error (.before .endInString [])
  | '\\' :: 'u' :: rest =>
    match fourHex rest with
    | .error f => .error f
    | .ok t =>
      if isLowSurrogate t.value then .ok (((t.map (joinSurrogates high)).cons 'u').cons '\\')
      else .error (.before .loneSurrogate t.rest)
  | '\\' :: [] => .error (.before .endInString [])
  | '\\' :: rest => .error (.here .endOfEscape rest)
  | rest => .error (.here .endOfEscape rest)

def escape : Reader Char
  | [] => .error (.before .endInString [])
  | 'u' :: rest =>
    match fourHex rest with
    | .error f => .error f
    | .ok t =>
      if isLowSurrogate t.value then .error (.before .loneSurrogate t.rest)
      else if isHighSurrogate t.value then
        match lowHalf t.value t.rest with
        | .error f => .error f
        | .ok u => .ok ((t.followedBy u).cons 'u')
      else .ok ((t.map Char.ofNat).cons 'u')
  | c :: rest =>
    match shortEscape? c with
    | some d => .ok ((Taken.here d rest).cons c)
    | none => .error (.here .invalidEscape (c :: rest))

def stringBody (s : List Char) : Except Fault (Taken (List Char) s) :=
  match s with
  | [] => .error (.before .endInString [])
  | '"' :: rest => .ok ((Taken.here [] rest).cons '"')
  | '\\' :: rest =>
    match escape rest with
    | .error f => .error f
    | .ok e =>
      have := e.le
      match stringBody e.rest with
      | .error f => .error f
      | .ok t => .ok ((e.followedBy (t.map (e.value :: ·))).cons '\\')
  | c :: rest =>
    if c < ' ' then .error (.here .controlCharacter (c :: rest))
    else
      match stringBody rest with
      | .error f => .error f
      | .ok t => .ok ((t.map (c :: ·)).cons c)
termination_by s.length

def skipEscape : Reader Unit
  | [] => .error (.before .endInString [])
  | 'u' :: rest => (fourHex rest).map fun t => (t.map fun _ => ()).cons 'u'
  | c :: rest =>
    if (shortEscape? c).isSome then .ok ((Taken.here () rest).cons c)
    else .error (.here .invalidEscape (c :: rest))

/-- Gets past a string after its opening quote. A control character in it counts as not read. -/
def skipString (s : List Char) : Except Fault (Taken Unit s) :=
  match s with
  | [] => .error (.before .endInString [])
  | '"' :: rest => .ok ((Taken.here () rest).cons '"')
  | '\\' :: rest =>
    match skipEscape rest with
    | .error f => .error f
    | .ok e =>
      have := e.le
      match skipString e.rest with
      | .error f => .error f
      | .ok t => .ok ((e.followedBy t).cons '\\')
  | c :: rest =>
    if c < ' ' then .error (.before .controlCharacter (c :: rest))
    else
      match skipString rest with
      | .error f => .error f
      | .ok t => .ok (t.cons c)
termination_by s.length

end Compliance.Json
