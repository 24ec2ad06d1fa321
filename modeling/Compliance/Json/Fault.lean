import Compliance.Text.Blank

/-!
Why a text is not the JSON that was asked for, and where. A reader reports the part of the text
that is left at the point of the fault, and how many bytes it had looked at beyond it; the line
and the column follow from the whole text, the column being a count of bytes.
-/

namespace Compliance.Json

inductive Found where
  | null
  | bool (b : Bool)
  | integer (n : Int)
  | float (digits : String)
  | string (quoted : String)
  | list
  | object
  deriving DecidableEq, Repr

inductive Expected where
  | sequence
  | record
  | string
  deriving DecidableEq, Repr

inductive Cause where
  | endInValue
  | endInList
  | endInObject
  | endInString
  | expectedValue
  | expectedWord
  | expectedListEnd
  | expectedObjectEnd
  | expectedColon
  | nameNotString
  | trailingComma
  | trailingCharacters
  | invalidNumber
  | numberOutOfRange
  | invalidEscape
  | loneSurrogate
  | endOfEscape
  | controlCharacter
  | tooDeep
  | wrongType (found : Found) (expected : Expected)
  | duplicateField (name : String)
  | missingField (name : String)
  | emptyRecord
  deriving DecidableEq, Repr

def Found.text : Found → String
  | .null => "null"
  | .bool b => "boolean `" ++ (if b then "true" else "false") ++ "`"
  | .integer n => "integer `" ++ toString n ++ "`"
  | .float digits => "floating point `" ++ digits ++ "`"
  | .string quoted => "string " ++ quoted
  | .list => "sequence"
  | .object => "map"

def Expected.text : Expected → String
  | .sequence => "a sequence"
  | .record => "struct DependencyRecord"
  | .string => "a string"

def Cause.text : Cause → String
  | .endInValue => "EOF while parsing a value"
  | .endInList => "EOF while parsing a list"
  | .endInObject => "EOF while parsing an object"
  | .endInString => "EOF while parsing a string"
  | .expectedValue => "expected value"
  | .expectedWord => "expected ident"
  | .expectedListEnd => "expected `,` or `]`"
  | .expectedObjectEnd => "expected `,` or `\x7d`"
  | .expectedColon => "expected `:`"
  | .nameNotString => "key must be a string"
  | .trailingComma => "trailing comma"
  | .trailingCharacters => "trailing characters"
  | .invalidNumber => "invalid number"
  | .numberOutOfRange => "number out of range"
  | .invalidEscape => "invalid escape"
  | .loneSurrogate => "lone leading surrogate in hex escape"
  | .endOfEscape => "unexpected end of hex escape"
  | .controlCharacter => "control character (\\u0000-\\u001F) found while parsing a string"
  | .tooDeep => "recursion limit exceeded"
  | .wrongType found expected => "invalid type: " ++ found.text ++ ", expected " ++ expected.text
  | .duplicateField name => "duplicate field `" ++ name ++ "`"
  | .missingField name => "missing field `" ++ name ++ "`"
  | .emptyRecord => "invalid length 0, expected struct DependencyRecord with 3 elements"

/-- A fault as a reader sees it: what is left of the text, and the bytes of it that count as read. -/
structure Fault where
  cause : Cause
  rest : List Char
  ahead : Nat
  deriving DecidableEq, Repr

/-- The next byte is at fault. It counts as read, at the end of the text there is none. -/
def Fault.here (cause : Cause) (rest : List Char) : Fault := ⟨cause, rest, 1⟩

/-- What was read last is at fault. -/
def Fault.before (cause : Cause) (rest : List Char) : Fault := ⟨cause, rest, 0⟩

def byteSize : List Char → Nat
  | [] => 0
  | c :: cs => c.utf8Size + byteSize cs

/-- The line and the column after the first `n` bytes of a text, counted on from a line and a
column. A line feed ends a line once all of it was read. -/
def locate (line column : Nat) : List Char → Nat → Nat × Nat
  | [], _ => (line, column)
  | _, 0 => (line, column)
  | c :: cs, n + 1 =>
    if c = '\n' then locate (line + 1) 0 cs n
    else locate line (column + min c.utf8Size (n + 1)) cs (n + 1 - c.utf8Size)

structure Error where
  cause : Cause
  line : Nat
  column : Nat
  deriving DecidableEq, Repr

def Error.message (e : Error) : String :=
  e.cause.text ++ " at line " ++ toString e.line ++ " column " ++ toString e.column

def Fault.locate (text : List Char) (f : Fault) : Error :=
  let at_ := Json.locate 1 0 text (byteSize text - byteSize f.rest + f.ahead)
  ⟨f.cause, at_.1, at_.2⟩

/-- What a reader takes from the front of a text `s`: a value, and the rest of the text, which is
no longer than `s`. -/
structure Taken (α : Type) (s : List Char) where
  value : α
  rest : List Char
  le : rest.length ≤ s.length

namespace Taken

variable {α β : Type} {s r : List Char}

def here (a : α) (s : List Char) : Taken α s := ⟨a, s, Nat.le_refl _⟩

def upTo (lt : r.length < s.length) (a : α) : Taken α s := ⟨a, r, Nat.le_of_lt lt⟩

def map (f : α → β) (t : Taken α s) : Taken β s := ⟨f t.value, t.rest, t.le⟩

def cons (c : Char) (t : Taken α s) : Taken α (c :: s) :=
  ⟨t.value, t.rest, Nat.le_succ_of_le t.le⟩

/-- What is taken after something else, seen from the start of both. -/
def followedBy (t : Taken α s) (u : Taken β t.rest) : Taken β s :=
  ⟨u.value, u.rest, Nat.le_trans u.le t.le⟩

/-- What is taken from a shorter text, seen from a longer one. -/
def behind (lt : r.length < s.length) (t : Taken α r) : Taken α s :=
  ⟨t.value, t.rest, Nat.le_trans t.le (Nat.le_of_lt lt)⟩

def behindSpace {c : Char} (lt : r.length < s.length) (t : Taken α (c :: r)) : Taken α s :=
  ⟨t.value, t.rest, Nat.le_trans t.le lt⟩

@[simp] theorem here_value (a : α) (s : List Char) : (here a s).value = a := rfl

@[simp] theorem here_rest (a : α) (s : List Char) : (here a s).rest = s := rfl

@[simp] theorem upTo_value (lt : r.length < s.length) (a : α) : (upTo lt a).value = a := rfl

@[simp] theorem upTo_rest (lt : r.length < s.length) (a : α) : (upTo lt a).rest = r := rfl

@[simp] theorem map_value (f : α → β) (t : Taken α s) : (t.map f).value = f t.value := rfl

@[simp] theorem map_rest (f : α → β) (t : Taken α s) : (t.map f).rest = t.rest := rfl

@[simp] theorem cons_value (c : Char) (t : Taken α s) : (t.cons c).value = t.value := rfl

@[simp] theorem cons_rest (c : Char) (t : Taken α s) : (t.cons c).rest = t.rest := rfl

@[simp] theorem followedBy_value (t : Taken α s) (u : Taken β t.rest) :
    (t.followedBy u).value = u.value := rfl

@[simp] theorem followedBy_rest (t : Taken α s) (u : Taken β t.rest) :
    (t.followedBy u).rest = u.rest := rfl

@[simp] theorem behind_value (lt : r.length < s.length) (t : Taken α r) :
    (t.behind lt).value = t.value := rfl

@[simp] theorem behind_rest (lt : r.length < s.length) (t : Taken α r) :
    (t.behind lt).rest = t.rest := rfl

@[simp] theorem behindSpace_value {c : Char} (lt : r.length < s.length) (t : Taken α (c :: r)) :
    (t.behindSpace lt).value = t.value := rfl

@[simp] theorem behindSpace_rest {c : Char} (lt : r.length < s.length) (t : Taken α (c :: r)) :
    (t.behindSpace lt).rest = t.rest := rfl

end Taken

abbrev Reader (α : Type) := (s : List Char) → Except Fault (Taken α s)

/-- The blanks of JSON are four characters only. -/
def isSpace (c : Char) : Bool := c == ' ' || c == '\n' || c == '\t' || c == '\r'

def skipSpace (s : List Char) : List Char := s.dropWhile isSpace

theorem skipSpace_length (s : List Char) : (skipSpace s).length ≤ s.length :=
  (List.dropWhile_suffix isSpace).length_le

theorem length_lt_of_skipSpace {s r : List Char} {c : Char} (h : skipSpace s = c :: r) :
    r.length < s.length := by
  have hs := skipSpace_length s
  rw [h, List.length_cons] at hs
  exact hs

/-- What stands next in a text, after any space: nothing, or a character and the text behind it. -/
inductive Next (s : List Char) where
  | ended
  | char (c : Char) (rest : List Char) (lt : rest.length < s.length)

def next (s : List Char) : Next s :=
  match h : skipSpace s with
  | [] => .ended
  | c :: rest => .char c rest (length_lt_of_skipSpace h)

def Taken.next {α : Type} {s : List Char} (t : Taken α s) : Next s :=
  match Json.next t.rest with
  | .ended => .ended
  | .char c rest lt => .char c rest (Nat.lt_of_lt_of_le lt t.le)

theorem next_eq_ended {s : List Char} : next s = .ended ↔ skipSpace s = [] := by
  unfold next
  split <;> rename_i h <;> simp [h]

theorem next_eq_char {s r : List Char} {c : Char} {lt : r.length < s.length} :
    next s = .char c r lt ↔ skipSpace s = c :: r := by
  unfold next
  split <;> rename_i h <;> simp [h]

end Compliance.Json
