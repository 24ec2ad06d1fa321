import Compliance.Json.Literal
import Compliance.Json.Number
import Compliance.Proofs.Text.Digits

/-!
The grammar of JSON (RFC 8259) over lists of characters, apart from any reader. A string is
described twice: by the escapes that may stand in it, and by the characters that it spells, which
is more, since an escape above U+FFFF only spells a character together with its other half.
-/

namespace Compliance.Json

open Text (IsDigits hexValue?)

def IsSpace (s : List Char) : Prop := ∀ c ∈ s, isSpace c = true

/-! ### Strings -/

inductive HexNumeral : List Char → Nat → Prop
  | mk {a b c d : Char} {x y z w : Nat} (ha : hexValue? a = some x) (hb : hexValue? b = some y)
      (hc : hexValue? c = some z) (hd : hexValue? d = some w) :
      HexNumeral [a, b, c, d] (((x * 16 + y) * 16 + z) * 16 + w)

inductive IsEscape : List Char → Prop
  | short {c d : Char} (h : shortEscape? c = some d) : IsEscape [c]
  | number {ds : List Char} {n : Nat} (h : HexNumeral ds n) : IsEscape ('u' :: ds)

inductive IsBody : List Char → Prop
  | nil : IsBody []
  | plain {c : Char} {s : List Char} (quote : c ≠ '"') (slash : c ≠ '\\') (control : ¬ c < ' ')
      (more : IsBody s) : IsBody (c :: s)
  | escaped {e s : List Char} (escape : IsEscape e) (more : IsBody s) : IsBody ('\\' :: (e ++ s))

inductive SpelledEscape : List Char → Char → Prop
  | short {c d : Char} (h : shortEscape? c = some d) : SpelledEscape [c] d
  | number {ds : List Char} {n : Nat} (h : HexNumeral ds n) (low : isLowSurrogate n = false)
      (high : isHighSurrogate n = false) : SpelledEscape ('u' :: ds) (Char.ofNat n)
  | pair {hs ls : List Char} {high low : Nat} (hhigh : HexNumeral hs high)
      (hlow : HexNumeral ls low) (isHigh : isHighSurrogate high = true)
      (isLow : isLowSurrogate low = true) :
      SpelledEscape ('u' :: (hs ++ '\\' :: 'u' :: ls)) (joinSurrogates high low)

inductive Spelled : List Char → List Char → Prop
  | nil : Spelled [] []
  | plain {c : Char} {s cs : List Char} (quote : c ≠ '"') (slash : c ≠ '\\') (control : ¬ c < ' ')
      (more : Spelled s cs) : Spelled (c :: s) (c :: cs)
  | escaped {c : Char} {e s cs : List Char} (escape : SpelledEscape e c) (more : Spelled s cs) :
      Spelled ('\\' :: (e ++ s)) (c :: cs)

def quote (s : List Char) : List Char := '"' :: (s ++ ['"'])

theorem quote_append (s rest : List Char) : quote s ++ rest = '"' :: (s ++ '"' :: rest) := by
  rw [quote, List.cons_append, List.append_assoc, List.singleton_append]

theorem quote_inj {s t : List Char} : quote s = quote t ↔ s = t := by
  rw [quote, quote, List.cons_inj_right, List.append_left_inj]

inductive Quoted : List Char → String → Prop
  | mk {s cs : List Char} (h : Spelled s cs) : Quoted (quote s) (String.ofList cs)

theorem IsBody.append {s t : List Char} (hs : IsBody s) (ht : IsBody t) : IsBody (s ++ t) := by
  induction hs with
  | nil => exact ht
  | plain quote slash control _ ih => exact .plain quote slash control ih
  | escaped escape _ ih =>
    rw [List.cons_append, List.append_assoc]
    exact .escaped escape ih

theorem SpelledEscape.isBody {e : List Char} {c : Char} (h : SpelledEscape e c) :
    IsBody ('\\' :: e) := by
  cases h with
  | short h =>
    have hbody := IsBody.escaped (.short h) .nil
    rwa [List.append_nil] at hbody
  | number h =>
    have hbody := IsBody.escaped (.number h) .nil
    rwa [List.append_nil] at hbody
  | pair hhigh hlow =>
    have hsecond := IsBody.escaped (.number hlow) .nil
    rw [List.append_nil] at hsecond
    exact .escaped (.number hhigh) hsecond

/-- What spells characters is well formed. -/
theorem Spelled.isBody {s cs : List Char} (h : Spelled s cs) : IsBody s := by
  induction h with
  | nil => exact .nil
  | plain quote slash control _ ih => exact .plain quote slash control ih
  | escaped escape _ ih =>
    rw [← List.cons_append]
    exact escape.isBody.append ih

/-! ### Numbers -/

/-- The digits before the point, of which none follows a leading zero. -/
inductive IsInteger : List Char → Prop
  | zero : IsInteger ['0']
  | digits {c : Char} {cs : List Char} (first : c.isDigit = true) (nonzero : c ≠ '0')
      (more : ∀ d ∈ cs, d.isDigit = true) : IsInteger (c :: cs)

inductive IsFraction : List Char → Prop
  | none : IsFraction []
  | digits {ds : List Char} (h : IsDigits ds) : IsFraction ('.' :: ds)

inductive IsExponent : List Char → Prop
  | none : IsExponent []
  | digits {e : Char} {sign ds : List Char} (he : e = 'e' ∨ e = 'E')
      (hsign : sign = [] ∨ sign = ['+'] ∨ sign = ['-']) (hds : IsDigits ds) :
      IsExponent (e :: (sign ++ ds))

inductive IsNumber : List Char → Prop
  | mk {i f e : List Char} (integer : IsInteger i) (fraction : IsFraction f)
      (exponent : IsExponent e) : IsNumber (i ++ (f ++ e))

/-! ### Lists and objects -/

/-- At least one part, with commas between the parts and space around them. -/
inductive Separated : List (List Char) → List Char → Prop
  | last {a p b : List Char} (before : IsSpace a) (behind : IsSpace b) :
      Separated [p] (a ++ (p ++ b))
  | cons {a p b s : List Char} {ps : List (List Char)} (before : IsSpace a) (behind : IsSpace b)
      (more : Separated ps s) : Separated (p :: ps) (a ++ (p ++ (b ++ ',' :: s)))

theorem IsSpace.append {s t : List Char} (hs : IsSpace s) (ht : IsSpace t) : IsSpace (s ++ t) :=
  fun c hc => (List.mem_append.1 hc).elim (hs c) (ht c)

/-- More space may stand in front of the first part. -/
theorem Separated.space_append {a s : List Char} {ps : List (List Char)} (ha : IsSpace a)
    (h : Separated ps s) : Separated ps (a ++ s) := by
  cases h with
  | last before behind =>
    rw [← List.append_assoc]
    exact .last (ha.append before) behind
  | cons before behind more =>
    rw [← List.append_assoc]
    exact .cons (ha.append before) behind more

/-- The parts of a list or an object, of which there may be none. -/
inductive Listed : List (List Char) → List Char → Prop
  | nil {s : List Char} (h : IsSpace s) : Listed [] s
  | parts {ps : List (List Char)} {s : List Char} (h : Separated ps s) : Listed ps s

theorem Listed.separated {ps : List (List Char)} {s : List Char} (h : Listed ps s) (hps : ps ≠ []) :
    Separated ps s := by
  cases h with
  | nil => exact absurd rfl hps
  | parts h => exact h

/-- Parts can be listed whatever they are. -/
theorem exists_listed (ps : List (List Char)) : ∃ s, Listed ps s := by
  have hspace : IsSpace [] := nofun
  have hmore : ∀ (ps : List (List Char)) (p : List Char), ∃ s, Separated (p :: ps) s := by
    intro ps
    induction ps with
    | nil => exact fun p => ⟨_, .last hspace hspace⟩
    | cons q ps ih =>
      intro p
      obtain ⟨s, hs⟩ := ih q
      exact ⟨_, .cons hspace hspace hs⟩
  cases ps with
  | nil => exact ⟨[], .nil hspace⟩
  | cons p ps =>
    obtain ⟨s, hs⟩ := hmore ps p
    exact ⟨s, .parts hs⟩

/-- A member of an object: its name without the quotes, the space at the colon and its value. -/
structure Member where
  name : List Char
  before : List Char
  behind : List Char
  value : List Char
  spaceBefore : IsSpace before
  spaceBehind : IsSpace behind

def Member.text (m : Member) : List Char :=
  quote m.name ++ (m.before ++ ':' :: (m.behind ++ m.value))

theorem Member.text_append (m : Member) (rest : List Char) :
    m.text ++ rest =
      '"' :: (m.name ++ '"' :: (m.before ++ ':' :: (m.behind ++ (m.value ++ rest)))) := by
  rw [Member.text, List.append_assoc, quote_append, List.append_assoc, List.cons_append,
    List.append_assoc]

/-- A value. Its numbers may have any size, its strings need not spell characters, its objects may
give a name more than once, and it may nest to any depth. -/
inductive IsValue : List Char → Prop
  | null : IsValue ['n', 'u', 'l', 'l']
  | true : IsValue ['t', 'r', 'u', 'e']
  | false : IsValue ['f', 'a', 'l', 's', 'e']
  | string {s : List Char} (h : IsBody s) : IsValue (quote s)
  | number {s : List Char} (h : IsNumber s) : IsValue s
  | negative {s : List Char} (h : IsNumber s) : IsValue ('-' :: s)
  | list {ps : List (List Char)} {s : List Char} (values : ∀ p ∈ ps, IsValue p)
      (h : Listed ps s) : IsValue ('[' :: (s ++ [']']))
  | object {ms : List Member} {s : List Char} (names : ∀ m ∈ ms, IsBody m.name)
      (values : ∀ m ∈ ms, IsValue m.value) (h : Listed (ms.map Member.text) s) :
      IsValue ('{' :: (s ++ ['}']))

theorem Quoted.isValue {s : List Char} {text : String} (h : Quoted s text) : IsValue s := by
  cases h with
  | mk h => exact .string h.isBody

end Compliance.Json
