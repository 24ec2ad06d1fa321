import Compliance.Text.Columns
import Compliance.Text.Joining
import Compliance.Text.Picture

/-!
The number of columns that a text takes on a terminal. It is the sum over its characters, except
where characters are drawn as one: a line break of two characters, pictures joined or chosen by a
selector, and the ligatures of some scripts. A text is measured from its end, since what follows a
character decides what it joins with.
-/

namespace Compliance.Text

inductive Selector
  | picture
  | text
  | fullWidth
  deriving DecidableEq, Repr

/-- What begins a ligature that the characters before it may complete. -/
inductive Ligature
  | lamed
  | ya
  | vowelYa
  | berber
  | joinedBerber
  | tone
  | orkhon
  | coengLetter
  | vowelE
  | vowelAi
  deriving DecidableEq, Repr

/-- What a text begins with, as far as a character before it may join with it. -/
inductive Start
  | plain
  | lineFeed
  | skinTone
  | flagLetter
  | flagLetters
  | picture
  /-- A joiner and a picture. -/
  | joinedPicture
  /-- A keycap, a joiner and a picture. -/
  | joinedKeycap
  /-- Flag letters, a joiner and a picture: `complete` says that every letter has a partner. -/
  | joinedFlag (first complete : Bool)
  /-- Tags that end in a joiner and a picture, so many digits in front of so many letters. -/
  | joinedTags (digits letters : Nat)
  | alef
  | ligature (l : Ligature) (joined : Bool)
  deriving DecidableEq, Repr

/-- What follows a character: the start of a text, and a selector in front of it. -/
structure Following where
  start : Start
  selector : Option Selector
  deriving DecidableEq, Repr

def joiner : Char := '\u200D'

def keycap : Char := '\u20E3'

/-- Marks and the joiner, which do not part a ligature. -/
def isLigatureMark (c : Char) : Bool :=
  c = '\u034F' || isWithin 0x17B4 0x17B5 c || isWithin 0x180B 0x180D c || c = '\u180F' ||
    isWithin 0xFE00 0xFE0F c || isWithin 0xE0100 0xE01EF c

/-! ### Classes of letters that join -/

def isAlef (c : Char) : Bool :=
  inRanges #[(0x622, 0x623), (0x625, 0x625), (0x627, 0x627), (0x671, 0x673), (0x675, 0x675),
    (0x773, 0x774), (0x870, 0x882)] c.toNat

def isLam (c : Char) : Bool :=
  inRanges #[(0x644, 0x644), (0x6B5, 0x6B8), (0x76A, 0x76A), (0x8A6, 0x8A6), (0x8C7, 0x8C7)] c.toNat

/-- Khmer letters with a form below the line. -/
def isCoengLetter (c : Char) : Bool :=
  inRanges #[(0x1780, 0x1782), (0x1784, 0x1787), (0x1789, 0x178C), (0x178E, 0x1793),
    (0x1795, 0x1798), (0x179B, 0x179D), (0x17A0, 0x17A0), (0x17A2, 0x17A2), (0x17A7, 0x17A7),
    (0x17AB, 0x17AC), (0x17AF, 0x17AF)] c.toNat

def isBerber (c : Char) : Bool := isWithin 0x2D31 0x2D65 c || c = '\u2D6F'

def isQuote (c : Char) : Bool := isWithin 0x2018 0x2019 c || isWithin 0x201C 0x201D c

/-! ### One character before a text -/

def startOf (c : Char) : Start :=
  if c = '\n' then .lineFeed
  else if isAlef c then .alef
  else if c = '\u05DC' then .ligature .lamed false
  else if isCoengLetter c then .ligature .coengLetter false
  else if c = '\u1A10' then .ligature .ya false
  else if isBerber c then .ligature .berber false
  else if isWithin 0xA4FC 0xA4FD c then .ligature .tone false
  else if isWithin 0x10C03 0x10C03 c then .ligature .orkhon false
  else if isWithin 0x16D67 0x16D67 c then .ligature .vowelE false
  else if isWithin 0x16D68 0x16D68 c then .ligature .vowelAi false
  else if isFlagLetter c then .flagLetter
  else if isSkinTone c then .skinTone
  else if isPicture c then .picture
  else .plain

def Ligature.grow (l : Ligature) (joined : Bool) (c : Char) : Option (Int × Start) :=
  match l with
  | .lamed => if joined ∧ c = '\u05D0' then some (0, .plain) else none
  | .coengLetter => if c = '\u17D2' then some (-1, .plain) else none
  | .ya => if joined ∧ c = '\u1A17' then some (0, .ligature .vowelYa true) else none
  | .vowelYa => if c = '\u1A15' then some (0, .plain) else none
  | .berber =>
    if c = '\u2D7F' then some (1, .ligature .joinedBerber true)
    else if joined ∧ isBerber c then some (0, .plain)
    else none
  | .joinedBerber => if isBerber c then some (-1, .plain) else none
  | .tone => if isWithin 0xA4F8 0xA4FB c then some (0, .plain) else none
  | .orkhon => if joined ∧ isWithin 0x10C32 0x10C32 c then some (0, .plain) else none
  | .vowelE =>
    if isWithin 0x16D63 0x16D63 c || isWithin 0x16D69 0x16D69 c then some (0, .plain)
    else if isWithin 0x16D67 0x16D67 c then some (0, .ligature .vowelAi false)
    else if isWithin 0x16D68 0x16D68 c then some (1, .ligature .vowelE false)
    else none
  | .vowelAi => if isWithin 0x16D63 0x16D63 c then some (0, .plain) else none

/-- The columns that a character adds to a text that it joins with, and what they begin together. -/
def Start.join (s : Start) (c : Char) : Option (Int × Start) :=
  match s with
  | .plain => none
  | .joinedKeycap => none
  | .lineFeed => if c = '\r' then some (0, .plain) else none
  | .picture => if c = joiner then some (0, .joinedPicture) else none
  | .skinTone =>
    if takesTone c then some (0, .picture)
    else if c = joiner then some (0, .joinedPicture)
    else none
  | .flagLetter => if isFlagLetter c then some (1, .flagLetters) else none
  | .flagLetters =>
    if isFlagLetter c then some (1, .flagLetters)
    else if c = joiner then some (0, .joinedPicture)
    else none
  | .joinedPicture =>
    if c = keycap then some (0, .joinedKeycap)
    else if isFlagLetter c then some (1, .joinedFlag true false)
    else if isSkinTone c then some (0, .skinTone)
    else if isWithin 0xE007F 0xE007F c then some (0, .joinedTags 0 0)
    else if isPicture c then some (0, .picture)
    else none
  | .joinedFlag first complete =>
    if isFlagLetter c then some (if complete then 3 else -1, .joinedFlag false !complete)
    else if c = joiner ∧ ¬first then some (0, .joinedPicture)
    else none
  | .joinedTags digits letters =>
    if isWithin 0xE0061 0xE007A c ∧ digits = 0 ∧ letters < 6 then some (0, .joinedTags 0 (letters + 1))
    else if isWithin 0xE0030 0xE0039 c ∧ digits < 3 ∧ letters ≤ 4 then
      some (0, .joinedTags (digits + 1) letters)
    else if isWithin 0x1F3F4 0x1F3F4 c ∧ (digits = 3 ∨ (digits = 0 ∧ 3 ≤ letters)) then
      some (0, .picture)
    else none
  | .alef =>
    if isLam c then some (0, .plain)
    else if isTransparent c ∧ columns c = 0 then some (0, .alef)
    else none
  | .ligature l joined =>
    if c = joiner then some (0, .ligature l true)
    else if isLigatureMark c then some (0, .ligature l joined)
    else l.grow joined c

def selectorOf? (c : Char) : Option Selector :=
  if c = '\uFE0F' then some .picture
  else if c = '\uFE0E' then some .text
  else if c = '\uFE01' then some .fullWidth
  else none

/-- What is left of a start behind a selector: letters still join across it, and pictures of which
this selector is a part. -/
def Start.behind (s : Start) (sel : Selector) : Start :=
  match s with
  | .alef => s
  | .ligature _ _ => s
  | .joinedPicture => if sel = .picture then s else .plain
  | .joinedKeycap => if sel = .picture then s else .plain
  | _ => .plain

/-- The columns of a character to which a selector applies. A picture that is joined to the next one
takes no columns of its own. -/
def Following.select (f : Following) (c : Char) : Option (Int × Start) :=
  match f.selector with
  | some .picture =>
    if isSelectable c then
      some (if f.start = .joinedPicture ∨ f.start = .joinedKeycap then 0 else 2, .picture)
    else none
  | some .text => if narrowsToText c then some (1, .plain) else none
  | some .fullWidth => if isQuote c then some (2, .plain) else none
  | none => none

def Following.passed (f : Following) : Start :=
  match f.selector, f.start with
  | some _, .joinedPicture => .plain
  | some _, .joinedKeycap => .plain
  | _, s => s

/-- The columns that a character adds to a text, and what they begin together. -/
def Following.before (f : Following) (c : Char) : Int × Following :=
  match f.select c with
  | some (n, s) => (n, ⟨s, none⟩)
  | none =>
    match selectorOf? c with
    | some sel => (0, ⟨f.passed.behind sel, some sel⟩)
    | none =>
      match f.passed.join c with
      | some (n, s) => (n, ⟨s, none⟩)
      | none => (columns c, ⟨startOf c, none⟩)

def measure (cs : List Char) : Int × Following :=
  cs.foldr
    (fun c rest =>
      let r := rest.2.before c
      (rest.1 + r.1, r.2))
    (0, ⟨.plain, none⟩)

def width (s : String) : Nat := (measure s.toList).1.toNat

end Compliance.Text
