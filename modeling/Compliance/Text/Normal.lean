import Compliance.Text.Composition

/-!
The composed form of a text, in which equal texts are written in the same way: every character is
taken apart, marks are put in the order of their classes, and what makes one character is put
together again.
-/

namespace Compliance.Text

/-- The parts of a character, of its first part, and so on, down to a depth. -/
def partsWithin : Nat → Char → List Char
  | 0, c => [c]
  | n + 1, c =>
    match parts? c with
    | some (a, b) => partsWithin n a ++ [b]
    | none => [c]

/-- No character is taken apart more often than this. -/
def deepest : Nat := 3

def takenApart (cs : List Char) : List Char := cs.flatMap (partsWithin deepest)

/-- Puts a mark in front of a text, behind the marks of lower classes that it begins with. -/
def placeMark (c : Char) : List Char → List Char
  | [] => [c]
  | d :: ds =>
    if combiningClass d ≠ 0 ∧ combiningClass d < combiningClass c then d :: placeMark c ds
    else c :: d :: ds

def ordered (cs : List Char) : List Char := cs.foldr placeMark []

/-- Puts together what can be. `starter` is the last character that is no mark, and `marks` are
those behind it that it did not take in, the last one first. -/
def putTogether (starter : Option Char) (marks : List Char) : List Char → List Char
  | [] => starter.toList ++ marks.reverse
  | c :: cs =>
    match starter with
    | none =>
      if combiningClass c = 0 then putTogether (some c) [] cs else c :: putTogether none [] cs
    | some s =>
      let free := marks.head?.all fun m => combiningClass m < combiningClass c
      match if free then whole? s c else none with
      | some w => putTogether (some w) marks cs
      | none =>
        if combiningClass c = 0 then s :: marks.reverse ++ putTogether (some c) [] cs
        else putTogether (some s) (c :: marks) cs

def composed (cs : List Char) : List Char := putTogether none [] (ordered (takenApart cs))

end Compliance.Text
