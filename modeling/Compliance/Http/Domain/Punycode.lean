/-!
Punycode: a label with letters of any script, written with letters, digits and hyphens. The plain
characters come first; then follow numbers, of which each tells the next character to insert and its
place, counted from the one before. Numbers are written with the least digit first; the value at
which a digit is the last one is adapted to the numbers already written.
-/

namespace Compliance.Http.Domain.Punycode

def base : Nat := 36

def firstCode : Nat := 128

def firstBias : Nat := 72

def isPlain (c : Char) : Bool := c.toNat < firstCode

/-! ### Digits -/

def digit (n : Nat) : Char :=
  if n < 26 then Char.ofNat ('a'.toNat + n) else Char.ofNat ('0'.toNat + (n - 26))

def digitValue? (c : Char) : Option Nat :=
  if 'a' ≤ c ∧ c ≤ 'z' then some (c.toNat - 'a'.toNat)
  else if 'A' ≤ c ∧ c ≤ 'Z' then some (c.toNat - 'A'.toNat)
  else if '0' ≤ c ∧ c ≤ '9' then some (c.toNat - '0'.toNat + 26)
  else none

/-- A digit below this is the last one. `place` counts from one. -/
def threshold (place bias : Nat) : Nat := min 26 (max 1 (base * place - bias))

theorem one_le_threshold (place bias : Nat) : 1 ≤ threshold place bias := by
  simp only [threshold]
  omega

def placesOf (delta : Nat) : Nat × Nat :=
  if 455 < delta then
    let r := placesOf (delta / 35)
    (r.1, r.2 + base)
  else (delta, 0)
termination_by delta
decreasing_by omega

/-- The bias after a number, when there are so many characters. -/
def adapted (delta count : Nat) (isFirst : Bool) : Nat :=
  let half := if isFirst then delta / 700 else delta / 2
  let r := placesOf (half + half / count)
  r.2 + base * r.1 / (r.1 + 38)

/-! ### Reading -/

def number? (bias : Nat) (place weight : Nat) : List Char → Option (Nat × List Char)
  | [] => none
  | c :: cs =>
    match digitValue? c with
    | none => none
    | some d =>
      if d < threshold place bias then some (d * weight, cs)
      else
        (number? bias (place + 1) (weight * (base - threshold place bias)) cs).map fun r =>
          (d * weight + r.1, r.2)

theorem length_of_number? {bias place weight : Nat} {cs rest : List Char} {n : Nat}
    (h : number? bias place weight cs = some (n, rest)) : rest.length < cs.length := by
  induction cs generalizing place weight n with
  | nil => simp [number?] at h
  | cons c cs ih =>
    simp only [number?] at h
    split at h
    · simp at h
    · split at h
      · simp only [Option.some.injEq, Prod.mk.injEq] at h
        simp [← h.2]
      · obtain ⟨r, hr, hrest⟩ := Option.map_eq_some_iff.1 h
        simp only [Prod.mk.injEq] at hrest
        have := ih (n := r.1) (by rw [hr, ← hrest.2])
        simp only [List.length_cons]
        omega

def char? (n : Nat) : Option Char :=
  if n < 0xD800 ∨ (0xDFFF < n ∧ n < 0x110000) then some (Char.ofNat n) else none

/-- Inserts the characters that the numbers of a text tell. `code` is the last code point inserted,
and `place` the place behind it. -/
def inserted (label : List Char) (code place bias : Nat) (isFirst : Bool) (cs : List Char) :
    Option (List Char) :=
  match _h : cs with
  | [] => some label
  | _ :: _ =>
    match _hr : number? bias 1 1 cs with
    | none => none
    | some (delta, rest) =>
      let count := label.length + 1
      match char? (code + (place + delta) / count) with
      | none => none
      | some c =>
        let i := (place + delta) % count
        inserted (label.take i ++ c :: label.drop i) c.toNat (i + 1)
          (adapted delta count isFirst) false rest
termination_by cs.length
decreasing_by
  have := length_of_number? _hr
  simpa [_h] using this

/-- The label that a text stands for. The plain characters end at the last hyphen; a hyphen with
nothing before it ends none, and is not a digit either. -/
def decode? (cs : List Char) : Option (List Char) :=
  let numbers := (cs.reverse.takeWhile (· ≠ '-')).reverse
  let plain := cs.take (cs.length - numbers.length - 1)
  if plain.isEmpty then inserted [] firstCode 0 firstBias true cs
  else if plain.all isPlain then inserted plain firstCode 0 firstBias true numbers
  else none

/-! ### Writing -/

def digits (bias place : Nat) (n : Nat) : List Char :=
  if n < threshold place bias then [digit n]
  else
    digit (threshold place bias +
        (n - threshold place bias) % (base - threshold place bias)) ::
      digits bias (place + 1) ((n - threshold place bias) / (base - threshold place bias))
termination_by n
decreasing_by
  have h := one_le_threshold place bias
  exact Nat.lt_of_le_of_lt (Nat.div_le_self _ _) (by omega)

/-- What is known after some of the characters of a label were written: the text, how much was
passed over since, how many characters are there, and the bias. -/
structure Progress where
  text : List Char
  delta : Nat
  count : Nat
  bias : Nat
  isFirst : Bool

def Progress.pass (p : Progress) (code : Nat) (c : Char) : Progress :=
  if c.toNat < code then { p with delta := p.delta + 1 }
  else if c.toNat = code then
    ⟨p.text ++ digits p.bias 1 p.delta, 0, p.count + 1, adapted p.delta (p.count + 1) p.isFirst,
      false⟩
  else p

/-- Writes the characters of each code point in turn. `code` is the first one not yet written. -/
def Progress.write (label : List Char) : List Nat → Nat → Progress → List Char
  | [], _, p => p.text
  | n :: ns, code, p =>
    let p := label.foldl (fun p c => p.pass n c) { p with delta := p.delta + (n - code) * (p.count + 1) }
    Progress.write label ns (n + 1) { p with delta := p.delta + 1 }

def insertNumber (n : Nat) : List Nat → List Nat
  | [] => [n]
  | m :: ms => if n < m then n :: m :: ms else if n = m then m :: ms else m :: insertNumber n ms

def codes (label : List Char) : List Nat :=
  ((label.filter (!isPlain ·)).map Char.toNat).foldr insertNumber []

def encode (label : List Char) : List Char :=
  let plain := label.filter isPlain
  let start := if plain = [] then [] else plain ++ ['-']
  Progress.write label (codes label) firstCode ⟨start, 0, plain.length, firstBias, true⟩

end Compliance.Http.Domain.Punycode
