import Compliance.Http.Domain.Mapping
import Compliance.Http.Domain.Punycode
import Compliance.Text.Direction
import Compliance.Text.Joining
import Compliance.Text.Normal

/-!
Names of domains in all scripts. A name is read leniently: letters of either case, wide letters and
the like stand for their plain forms. It is sent with plain characters only: a label, which is a part
between dots, that holds more than these is sent in a form that begins with `xn--`.
-/

namespace Compliance.Http.Domain

/-! ### Labels -/

def encodedStart : List Char := "xn--".toList

def isEncoded (label : List Char) : Bool := encodedStart.isPrefixOf label

/-- The class of the marks that take the vowel from the letter before them. -/
def viramaClass : Nat := 9

/-- Whether a character that tells how letters are drawn has an effect where it stands: behind a
virama, or, if it parts letters, between two that would connect. `before` is in reverse order. -/
def hasEffect (before : List Char) (c : Char) (after : List Char) : Bool :=
  before.head?.any (Text.combiningClass · == viramaClass) ||
    (c == '\u200C' &&
      (before.dropWhile Text.isTransparent).head?.any Text.connectsForward &&
      (after.dropWhile Text.isTransparent).head?.any Text.connectsBackward)

def controlsHaveEffect (before : List Char) : List Char → Bool
  | [] => true
  | c :: cs =>
    (!isJoinControl c || hasEffect before c cs) && controlsHaveEffect (c :: before) cs

/-- A label that may be part of a name: it does not begin with a mark. -/
def isSound (label : List Char) : Bool :=
  !label.head?.any Text.isMark && label.all isPlain && controlsHaveEffect [] label

/-- The label that an encoded one stands for. It cannot stand for plain characters alone, nor for a
label that is not in composed form or begins like an encoded one. -/
def decoded? (label : List Char) : Option (List Char) :=
  match Punycode.decode? (label.drop encodedStart.length) with
  | none => none
  | some cs =>
    if cs.all Punycode.isPlain || isEncoded cs || Text.composed cs ≠ cs then none else some cs

def shown? (label : List Char) : Option (List Char) := do
  let cs ← if isEncoded label then decoded? label else some label
  if isSound cs then some cs else none

def sent (label : List Char) : List Char :=
  if label.all Punycode.isPlain then label else encodedStart ++ Punycode.encode label

/-! ### Names -/

def isReserved (c : Char) : Bool :=
  c.toNat ≤ 0x20 || c.toNat == 0x7F || "%#/:<>?@[\\]^|".toList.contains c

def labels? (cs : List Char) : Option (List (List Char)) :=
  (cs.mapM meaning?).map fun ms => Text.pieces (· == '.') (Text.composed ms.flatten)

/-- Whether labels can stand beside each other without changing their order. -/
def areDirected (labels : List (List Char)) : Bool :=
  !labels.any (·.any Text.isLeftward) || labels.all Text.isDirected

def sentName? (cs : List Char) : Option (List Char) := do
  let labels ← labels? cs
  let shown ← labels.mapM shown?
  if areDirected shown then
    let name := List.intercalate ['.'] (labels.map sent)
    if name.any isReserved then none else some name
  else none

end Compliance.Http.Domain
