import Compliance.Proofs.Json.Numeral

/-!
What a number says, from its parts: the digits that fit make the significand, those that do not and
those behind the point move the exponent, and the exponent that is written is added to it. A number
that is written as an integer that fits is whole, and every other one is a double, unless it is out
of range. The reader of numbers takes exactly what the parts say.
-/

namespace Compliance.Json

open Text (EndsDigits IsDigits)

/-! ### What the parts say -/

/-- The digits before the point: their significand, and how many of them it does not hold. -/
inductive IntegerSays : List Char → Nat → Nat → Prop
  | zero : IntegerSays ['0'] 0 0
  | digits {c : Char} {cs : List Char} (first : c.isDigit = true) (nonzero : c ≠ '0')
      (more : ∀ d ∈ cs, d.isDigit = true) :
      IntegerSays (c :: cs) (extend (digitValue c) cs).1 (extend (digitValue c) cs).2.rest.length

/-- The digits behind the point, after a significand: the significand with them, and how many of
them it holds. -/
inductive FractionSays (m : Nat) : List Char → Nat → Nat → Prop
  | none : FractionSays m [] m 0
  | digits {ds : List Char} (h : IsDigits ds) :
      FractionSays m ('.' :: ds) (extend m ds).1 (extend m ds).2.value

/-- A significand times a power of ten, of which the exponent is moved up or down. An exponent that
leaves its range leaves nothing of the number, or nothing of its bounds. -/
def moved? (m : Nat) (start : Int) (down : Bool) (k : Nat) : Option Float :=
  if k < UInt32.size / 2 then scale? m (clampExponent (if down then start - k else start + k))
  else if m ≠ 0 ∧ down = false then none
  else some 0

inductive ExponentSays (m : Nat) (start : Int) : List Char → Float → Prop
  | none {x : Float} (h : scale? m start = some x) : ExponentSays m start [] x
  | digits {e : Char} {sign ds : List Char} {x : Float} (he : e = 'e' ∨ e = 'E')
      (hsign : sign = [] ∨ sign = ['+'] ∨ sign = ['-']) (hds : IsDigits ds)
      (h : moved? m start (sign = ['-']) (Nat.ofDigitChars 10 ds 0) = some x) :
      ExponentSays m start (e :: (sign ++ ds)) x

inductive NumberSays (negative : Bool) : List Char → Number → Prop
  | whole {i : List Char} {m : Nat} (integer : IntegerSays i m 0) :
      NumberSays negative i (wholeNumber negative m)
  | double {i f e : List Char} {m dropped m' held : Nat} {x : Float}
      (integer : IntegerSays i m dropped) (fraction : FractionSays m f m' held)
      (exponent : ExponentSays m' (dropped - held) e x)
      (broken : dropped ≠ 0 ∨ f ≠ [] ∨ e ≠ []) :
      NumberSays negative (i ++ (f ++ e)) (.float (signed negative x))

theorem IntegerSays.isInteger {i : List Char} {m dropped : Nat} (h : IntegerSays i m dropped) :
    IsInteger i := by
  cases h with
  | zero => exact .zero
  | digits first nonzero more => exact .digits first nonzero more

theorem FractionSays.isFraction {f : List Char} {m m' held : Nat} (h : FractionSays m f m' held) :
    IsFraction f := by
  cases h with
  | none => exact .none
  | digits h => exact .digits h

theorem ExponentSays.isExponent {e : List Char} {m : Nat} {start : Int} {x : Float}
    (h : ExponentSays m start e x) : IsExponent e := by
  cases h with
  | none => exact .none
  | digits he hsign hds => exact .digits he hsign hds

/-- What says a number is one. -/
theorem NumberSays.isNumber {negative : Bool} {s : List Char} {n : Number}
    (h : NumberSays negative s n) : IsNumber s := by
  cases h with
  | @whole i m integer =>
    have hnumber := IsNumber.mk integer.isInteger .none .none
    rwa [List.append_nil, List.append_nil] at hnumber
  | double integer fraction exponent =>
    exact .mk integer.isInteger fraction.isFraction exponent.isExponent

/-! ### Digits -/

variable {s rest ds : List Char}

/-- Where a reader only goes on from another one, it takes what the other one takes. -/
theorem reads_map {α : Type} {r : List Char} {x : Except Fault (Taken α r)}
    {f : Taken α r → Taken α s} {a : α} (hf : ∀ t, (f t).value = t.value ∧ (f t).rest = t.rest) :
    Reads (x.map f) a rest ↔ Reads x a rest := by
  constructor
  · rintro ⟨u, hu, rfl, rfl⟩
    obtain ⟨t, rfl, rfl⟩ := map_eq_ok.1 hu
    exact ⟨t, rfl, (hf t).1.symm, (hf t).2.symm⟩
  · rintro ⟨t, rfl, rfl, rfl⟩
    exact ⟨f t, rfl, hf t⟩

theorem reads_cons {α : Type} {c : Char} {x : Except Fault (Taken α s)} {a : α} :
    Reads (x.map (Taken.cons c)) a rest ↔ Reads x a rest :=
  reads_map fun _ => ⟨rfl, rfl⟩

theorem reads_followedBy {α β γ : Type} {t : Taken α s} {u : Taken β t.rest}
    {x : Except Fault (Taken γ u.rest)} {a : γ} :
    Reads (x.map fun v => t.followedBy (u.followedBy v)) a rest ↔ Reads x a rest :=
  reads_map fun _ => ⟨rfl, rfl⟩

/-- Digits are appended up to their end at most. -/
theorem extend_append (hds : ∀ c ∈ ds, c.isDigit = true) (hrest : EndsDigits rest) (m : Nat) :
    (extend m (ds ++ rest)).1 = (extend m ds).1 ∧
      (extend m (ds ++ rest)).2.value = (extend m ds).2.value ∧
      (extend m (ds ++ rest)).2.rest = (extend m ds).2.rest ++ rest := by
  induction ds generalizing m with
  | nil =>
    cases rest with
    | nil => exact ⟨rfl, rfl, rfl⟩
    | cons c cs =>
      have hc : ¬ (c.isDigit ∧ m * 10 + digitValue c < significandBound) :=
        fun h => Bool.eq_false_iff.1 hrest h.1
      have hstop : extend m (c :: cs) = (m, .here 0 (c :: cs)) := by rw [extend, if_neg hc]
      rw [List.nil_append, hstop]
      exact ⟨rfl, rfl, rfl⟩
  | cons c cs ih =>
    obtain ⟨hc, hcs⟩ := List.forall_mem_cons.1 hds
    rw [List.cons_append, extend, extend]
    by_cases hfits : c.isDigit ∧ m * 10 + digitValue c < significandBound
    · rw [if_pos hfits, if_pos hfits]
      obtain ⟨hm, hcount, hleft⟩ := ih hcs (m * 10 + digitValue c)
      exact ⟨hm, congrArg (· + 1) hcount, hleft⟩
    · rw [if_neg hfits, if_neg hfits]
      exact ⟨rfl, rfl, rfl⟩

/-- Digits are appended or left. -/
theorem extend_split (m : Nat) (s : List Char) :
    (extend m s).2.rest <:+ s ∧ (extend m s).2.value + (extend m s).2.rest.length = s.length := by
  induction s generalizing m with
  | nil => exact ⟨List.suffix_refl _, rfl⟩
  | cons c cs ih =>
    rw [extend]
    split
    · obtain ⟨hsuffix, hcount⟩ := ih (m * 10 + digitValue c)
      refine ⟨hsuffix.trans (List.suffix_cons c cs), ?_⟩
      simp only [Taken.cons_value, Taken.map_value, Taken.cons_rest, Taken.map_rest,
        List.length_cons]
      omega
    · exact ⟨List.suffix_refl _, Nat.zero_add _⟩

/-- The digits that are left behind a significand are passed over. -/
theorem skipDigits_extend (hds : ∀ c ∈ ds, c.isDigit = true) (hrest : EndsDigits rest) (m : Nat) :
    (skipDigits (extend m (ds ++ rest)).2.rest).rest = rest ∧
      (skipDigits (extend m (ds ++ rest)).2.rest).value = (extend m ds).2.rest.length := by
  have hleft : ∀ c ∈ (extend m ds).2.rest, c.isDigit = true := fun c hc =>
    hds c ((extend_split m ds).1.mem hc)
  rw [(extend_append hds hrest m).2.2]
  exact skipDigits_append hleft hrest

/-! ### Exponents -/

theorem ofDigitChars_first (c : Char) (cs : List Char) :
    Nat.ofDigitChars 10 (c :: cs) 0 = Nat.ofDigitChars 10 cs (digitValue c) := by
  rw [Nat.ofDigitChars_cons, Nat.mul_zero, Nat.zero_add]
  rfl

/-- An exponent is read as the number that its digits give, unless that is too large. -/
theorem extendExponent_append {e : Nat} (hds : ∀ c ∈ ds, c.isDigit = true)
    (hrest : EndsDigits rest) (he : e < UInt32.size / 2) :
    (Nat.ofDigitChars 10 ds e < UInt32.size / 2 ∧
        (extendExponent e (ds ++ rest)).1 = some (Nat.ofDigitChars 10 ds e) ∧
        (extendExponent e (ds ++ rest)).2.rest = rest) ∨
      (UInt32.size / 2 ≤ Nat.ofDigitChars 10 ds e ∧
        (extendExponent e (ds ++ rest)).1 = none ∧
        (skipDigits (extendExponent e (ds ++ rest)).2.rest).rest = rest) := by
  induction ds generalizing e with
  | nil =>
    refine .inl ⟨he, ?_⟩
    cases rest with
    | nil => exact ⟨rfl, rfl⟩
    | cons c cs =>
      have hc : ¬ c.isDigit = true := Bool.eq_false_iff.1 hrest
      rw [List.nil_append, extendExponent, if_neg hc]
      exact ⟨rfl, rfl⟩
  | cons c cs ih =>
    obtain ⟨hc, hcs⟩ := List.forall_mem_cons.1 hds
    have hstep : Nat.ofDigitChars 10 (c :: cs) e =
        Nat.ofDigitChars 10 cs (e * 10 + digitValue c) := by
      rw [Nat.ofDigitChars_cons, Nat.mul_comm e 10]
      rfl
    rw [hstep, List.cons_append, extendExponent, if_pos hc]
    by_cases hfits : e * 10 + digitValue c < UInt32.size / 2
    · rw [if_pos hfits]
      exact ih hcs hfits
    · rw [if_neg hfits]
      exact .inr ⟨Nat.le_trans (Nat.le_of_not_lt hfits) (le_ofDigitChars cs _), rfl,
        (skipDigits_append hcs hrest).1⟩

theorem digitValue_lt {c : Char} (h : c.isDigit = true) : digitValue c < 10 := by
  have hle : c.toNat ≤ 57 := (Text.toNat_of_isDigit h).2
  have hzero : '0'.toNat = 48 := rfl
  unfold digitValue
  omega

variable {negative down : Bool} {m : Nat} {start : Int} {n : Number} {r : List Char}

theorem reads_floatOf {t : Taken Unit s} :
    Reads (floatOf negative m start t) n r ↔
      r = t.rest ∧ ∃ x, scale? m start = some x ∧ n = .float (signed negative x) := by
  unfold floatOf
  cases hx : scale? m start with
  | none => exact ⟨fun h => absurd h not_reads_error, fun ⟨_, _, hx, _⟩ => by cases hx⟩
  | some x =>
    rw [reads_ok]
    constructor
    · rintro ⟨rfl, rfl⟩
      exact ⟨rfl, x, rfl, rfl⟩
    · rintro ⟨rfl, y, hy, rfl⟩
      cases hy
      exact ⟨rfl, rfl⟩

/-- The digits of an exponent are read up to their end, and moved by what they give. -/
theorem reads_exponentDigits (hds : IsDigits ds) (hrest : EndsDigits rest) :
    Reads (exponentDigits negative m start down (ds ++ rest)) n r ↔
      r = rest ∧ ∃ x, moved? m start down (Nat.ofDigitChars 10 ds 0) = some x ∧
        n = .float (signed negative x) := by
  obtain ⟨c, cs, rfl, hc, hcs⟩ := hds.exists_cons
  have hfirst : digitValue c < UInt32.size / 2 :=
    Nat.lt_trans (digitValue_lt hc) (by decide)
  have htaken := extendExponent_append hcs hrest hfirst
  rw [List.cons_append, exponentDigits, if_pos hc, ofDigitChars_first]
  generalize extendExponent (digitValue c) (cs ++ rest) = taken at htaken ⊢
  obtain ⟨e, t⟩ := taken
  rcases htaken with ⟨hsmall, rfl, hleft⟩ | ⟨hlarge, rfl, hleft⟩
  · rw [moved?, if_pos hsmall]
    exact reads_floatOf.trans (by rw [Taken.cons_rest, hleft])
  · rw [moved?, if_neg (Nat.not_lt.2 hlarge)]
    dsimp only
    split
    · exact ⟨fun h => absurd h not_reads_error, fun ⟨_, _, hx, _⟩ => by cases hx⟩
    · rw [reads_ok]
      constructor
      · rintro ⟨rfl, rfl⟩
        exact ⟨hleft, 0, rfl, rfl⟩
      · rintro ⟨rfl, x, hx, rfl⟩
        cases hx
        exact ⟨rfl, hleft⟩

theorem not_reads_exponentDigits (h : EndsDigits s) :
    ¬ Reads (exponentDigits negative m start down s) n r := by
  cases s with
  | nil => exact not_reads_error
  | cons c cs =>
    have hc : ¬ c.isDigit = true := Bool.eq_false_iff.1 h
    rw [exponentDigits, if_neg hc]
    exact not_reads_error

theorem exists_of_exponentDigits
    (h : Reads (exponentDigits negative m start down s) n rest) :
    ∃ ds x, s = ds ++ rest ∧ IsDigits ds ∧
      moved? m start down (Nat.ofDigitChars 10 ds 0) = some x ∧
      n = .float (signed negative x) := by
  obtain ⟨ds, left, rfl, hds, hleft⟩ := Text.exists_digits s
  rcases eq_or_ne ds [] with rfl | hne
  · exact absurd h (not_reads_exponentDigits hleft)
  · obtain ⟨rfl, x, hx, hn⟩ := (reads_exponentDigits ⟨hne, hds⟩ hleft).1 h
    exact ⟨ds, x, rfl, ⟨hne, hds⟩, hx, hn⟩

theorem exists_of_exponent (h : Reads (exponent negative m start s) n rest) :
    ∃ sign ds x, s = sign ++ (ds ++ rest) ∧ (sign = [] ∨ sign = ['+'] ∨ sign = ['-']) ∧
      IsDigits ds ∧ moved? m start (sign = ['-']) (Nat.ofDigitChars 10 ds 0) = some x ∧
      n = .float (signed negative x) := by
  unfold exponent at h
  split at h
  · obtain ⟨ds, x, rfl, hds, hx, hn⟩ := exists_of_exponentDigits (reads_cons.1 h)
    exact ⟨['+'], ds, x, rfl, .inr (.inl rfl), hds, hx, hn⟩
  · obtain ⟨ds, x, rfl, hds, hx, hn⟩ := exists_of_exponentDigits (reads_cons.1 h)
    exact ⟨['-'], ds, x, rfl, .inr (.inr rfl), hds, hx, hn⟩
  · obtain ⟨ds, x, rfl, hds, hx, hn⟩ := exists_of_exponentDigits h
    exact ⟨[], ds, x, rfl, .inl rfl, hds, hx, hn⟩

theorem exponent_append {sign : List Char} {x : Float}
    (hsign : sign = [] ∨ sign = ['+'] ∨ sign = ['-']) (hds : IsDigits ds) (hrest : EndsDigits rest)
    (hx : moved? m start (sign = ['-']) (Nat.ofDigitChars 10 ds 0) = some x) :
    Reads (exponent negative m start (sign ++ (ds ++ rest))) (.float (signed negative x)) rest := by
  have hread : ∀ {down : Bool}, moved? m start down (Nat.ofDigitChars 10 ds 0) = some x →
      Reads (exponentDigits negative m start down (ds ++ rest)) (.float (signed negative x)) rest :=
    fun hx => (reads_exponentDigits hds hrest).2 ⟨rfl, x, hx, rfl⟩
  rcases hsign with rfl | rfl | rfl
  · obtain ⟨c, cs, rfl, hc, -⟩ := hds.exists_cons
    rw [List.nil_append, List.cons_append, exponent]
    · exact hread hx
    · rintro cs' heq
      cases heq
      cases hc
    · rintro cs' heq
      cases heq
      cases hc
  · exact reads_cons.2 (hread hx)
  · exact reads_cons.2 (hread hx)

theorem exists_of_afterFraction (h : Reads (afterFraction negative m start s) n rest) :
    ∃ e x, s = e ++ rest ∧ ExponentSays m start e x ∧ n = .float (signed negative x) := by
  unfold afterFraction at h
  split at h
  · obtain ⟨sign, ds, x, rfl, hsign, hds, hx, hn⟩ := exists_of_exponent (reads_cons.1 h)
    refine ⟨'e' :: (sign ++ ds), x, ?_, .digits (.inl rfl) hsign hds hx, hn⟩
    rw [List.cons_append, List.append_assoc]
  · obtain ⟨sign, ds, x, rfl, hsign, hds, hx, hn⟩ := exists_of_exponent (reads_cons.1 h)
    refine ⟨'E' :: (sign ++ ds), x, ?_, .digits (.inr rfl) hsign hds hx, hn⟩
    rw [List.cons_append, List.append_assoc]
  · obtain ⟨rfl, x, hx, hn⟩ := reads_floatOf.1 h
    exact ⟨[], x, rfl, .none hx, hn⟩

theorem afterFraction_append {e : List Char} {x : Float} (he : ExponentSays m start e x)
    (hrest : EndsNumber rest) :
    Reads (afterFraction negative m start (e ++ rest)) (.float (signed negative x)) rest := by
  cases he with
  | none hx =>
    rw [List.nil_append]
    unfold afterFraction
    split
    · exact absurd rfl hrest.2.2.1
    · exact absurd rfl hrest.2.2.2
    · exact reads_floatOf.2 ⟨rfl, x, hx, rfl⟩
  | digits he hsign hds hx =>
    rw [List.cons_append, List.append_assoc]
    rcases he with rfl | rfl
    · exact reads_cons.2 (exponent_append hsign hds hrest.endsDigits hx)
    · exact reads_cons.2 (exponent_append hsign hds hrest.endsDigits hx)

/-! ### Numbers -/

/-- The digits behind the point are read up to their end. -/
theorem reads_fraction (hds : ∀ c ∈ ds, c.isDigit = true) (hrest : EndsDigits rest) :
    Reads (fraction negative m start (ds ++ rest)) n r ↔
      ds ≠ [] ∧
        Reads (afterFraction negative (extend m ds).1 (start - (extend m ds).2.value) rest) n r := by
  obtain ⟨hm, hcount, -⟩ := extend_append hds hrest m
  obtain ⟨hleft, hdropped⟩ := skipDigits_extend hds hrest m
  have hnone : (extend m ds).2.value = 0 ∧ (extend m ds).2.rest.length = 0 ↔ ds = [] := by
    rw [← List.length_eq_zero_iff, ← (extend_split m ds).2]
    omega
  unfold fraction
  generalize extend m (ds ++ rest) = taken at hm hcount hleft hdropped ⊢
  obtain ⟨m', t⟩ := taken
  dsimp only at hm hcount hleft hdropped ⊢
  rw [hcount, hdropped, hm]
  by_cases hds : ds = []
  · rw [if_pos (hnone.2 hds)]
    refine ⟨fun h => ?_, fun h => absurd hds h.1⟩
    split at h <;> exact absurd h not_reads_error
  · rw [if_neg fun h => hds (hnone.1 h), reads_followedBy, hleft]
    exact ⟨fun h => ⟨hds, h⟩, fun h => h.2⟩

theorem exists_of_fraction (h : Reads (fraction negative m start s) n rest) :
    ∃ ds e x, s = ds ++ (e ++ rest) ∧ IsDigits ds ∧
      ExponentSays (extend m ds).1 (start - (extend m ds).2.value) e x ∧
      n = .float (signed negative x) := by
  obtain ⟨ds, left, rfl, hds, hleft⟩ := Text.exists_digits s
  obtain ⟨hne, h⟩ := (reads_fraction hds hleft).1 h
  obtain ⟨e, x, rfl, he, hn⟩ := exists_of_afterFraction h
  exact ⟨ds, e, x, rfl, ⟨hne, hds⟩, he, hn⟩

variable {dropped : Nat}

/-- Whatever stands before it, what is read behind the digits of an integer completes a number. -/
theorem exists_of_afterInteger (h : Reads (afterInteger negative m dropped s) n rest) :
    ∃ t, s = t ++ rest ∧ ∀ i, IntegerSays i m dropped → NumberSays negative (i ++ t) n := by
  have hstart : (dropped : Int) - (0 : Nat) = dropped := by omega
  unfold afterInteger at h
  split at h
  · obtain ⟨ds, e, x, rfl, hds, he, rfl⟩ := exists_of_fraction (reads_cons.1 h)
    refine ⟨'.' :: ds ++ e, by simp, fun i hi => ?_⟩
    exact .double hi (.digits hds) he (.inr (.inl (List.cons_ne_nil _ _)))
  · obtain ⟨sign, ds, x, rfl, hsign, hds, hx, rfl⟩ := exists_of_exponent (reads_cons.1 h)
    refine ⟨'e' :: (sign ++ ds), by simp, fun i hi => ?_⟩
    exact .double hi .none (hstart ▸ .digits (.inl rfl) hsign hds hx)
      (.inr (.inr (List.cons_ne_nil _ _)))
  · obtain ⟨sign, ds, x, rfl, hsign, hds, hx, rfl⟩ := exists_of_exponent (reads_cons.1 h)
    refine ⟨'E' :: (sign ++ ds), by simp, fun i hi => ?_⟩
    exact .double hi .none (hstart ▸ .digits (.inr rfl) hsign hds hx)
      (.inr (.inr (List.cons_ne_nil _ _)))
  · split at h
    · rename_i hdropped
      obtain ⟨rfl, rfl⟩ := reads_ok.1 h
      refine ⟨[], rfl, fun i hi => ?_⟩
      rw [List.append_nil]
      exact .whole (hdropped ▸ hi)
    · rename_i hdropped
      obtain ⟨rfl, x, hx, rfl⟩ := reads_floatOf.1 h
      refine ⟨[], rfl, fun i hi => ?_⟩
      exact .double hi .none (.none (hstart ▸ hx)) (.inl hdropped)

theorem afterInteger_append {f e : List Char} {m' held : Nat} {x : Float}
    (hf : FractionSays m f m' held) (he : ExponentSays m' (dropped - held) e x)
    (hbroken : dropped ≠ 0 ∨ f ≠ [] ∨ e ≠ []) (hrest : EndsNumber rest) :
    Reads (afterInteger negative m dropped (f ++ (e ++ rest))) (.float (signed negative x)) rest := by
  cases hf with
  | digits hds =>
    have hends : EndsDigits (e ++ rest) := endsDigits_exponent he.isExponent hrest
    rw [List.cons_append, afterInteger]
    exact reads_cons.2 ((reads_fraction hds.2 hends).2 ⟨hds.1, afterFraction_append he hrest⟩)
  | none =>
    have hstart : (dropped : Int) - (0 : Nat) = dropped := by omega
    rw [hstart] at he
    cases he with
    | none hx =>
      have hdropped : dropped ≠ 0 := by simpa using hbroken
      rw [List.nil_append, List.nil_append]
      unfold afterInteger
      split
      · exact absurd rfl hrest.2.1
      · exact absurd rfl hrest.2.2.1
      · exact absurd rfl hrest.2.2.2
      · rw [if_neg hdropped]
        exact reads_floatOf.2 ⟨rfl, x, hx, rfl⟩
    | digits he hsign hds hx =>
      rw [List.nil_append, List.cons_append, List.append_assoc]
      rcases he with rfl | rfl
      · exact reads_cons.2 (exponent_append hsign hds hrest.endsDigits hx)
      · exact reads_cons.2 (exponent_append hsign hds hrest.endsDigits hx)

/-- The digits of a number are read up to their end. -/
theorem reads_number_digits {c : Char} (hc : c.isDigit = true) (hzero : c ≠ '0')
    (hds : ∀ d ∈ ds, d.isDigit = true) (hrest : EndsDigits rest) :
    Reads (number negative (c :: (ds ++ rest))) n r ↔
      Reads (afterInteger negative (extend (digitValue c) ds).1
        (extend (digitValue c) ds).2.rest.length rest) n r := by
  obtain ⟨hm, -, -⟩ := extend_append hds hrest (digitValue c)
  obtain ⟨hleft, hdropped⟩ := skipDigits_extend hds hrest (digitValue c)
  rw [number]
  · rw [if_pos hc]
    generalize extend (digitValue c) (ds ++ rest) = taken at hm hleft hdropped ⊢
    obtain ⟨m', t⟩ := taken
    dsimp only at hm hleft hdropped ⊢
    rw [hm, hdropped]
    refine Iff.trans (reads_map fun _ => ⟨rfl, rfl⟩) ?_
    rw [hleft]
  · exact hzero

theorem exists_of_number (h : Reads (number negative s) n rest) :
    ∃ t, s = t ++ rest ∧ NumberSays negative t n := by
  cases s with
  | nil => exact absurd h not_reads_error
  | cons c cs =>
    by_cases hzero : c = '0'
    · subst hzero
      rw [number] at h
      split at h
      · exact absurd h not_reads_error
      · obtain ⟨t, rfl, hsaid⟩ := exists_of_afterInteger (reads_cons.1 h)
        exact ⟨['0'] ++ t, rfl, hsaid _ .zero⟩
    · by_cases hc : c.isDigit = true
      · obtain ⟨ds, left, rfl, hds, hleft⟩ := Text.exists_digits cs
        obtain ⟨t, rfl, hsaid⟩ :=
          exists_of_afterInteger ((reads_number_digits hc hzero hds hleft).1 h)
        exact ⟨c :: ds ++ t, by simp, hsaid _ (.digits hc hzero hds)⟩
      · rw [number] at h
        · rw [if_neg hc] at h
          exact absurd h not_reads_error
        · exact hzero

/-- What follows the digits of an integer is read behind them. -/
theorem number_append {i : List Char} (hi : IntegerSays i m dropped) (hrest : EndsDigits rest)
    (h : Reads (afterInteger negative m dropped rest) n r) :
    Reads (number negative (i ++ rest)) n r := by
  cases hi with
  | zero =>
    rw [List.singleton_append, number, if_neg (Bool.eq_false_iff.1 hrest)]
    exact reads_cons.2 h
  | digits first nonzero more =>
    rw [List.cons_append]
    exact (reads_number_digits first nonzero more hrest).2 h

/-- A number is read as what it says, whatever follows it that does not belong to it. -/
theorem number_said {t : List Char} (ht : NumberSays negative t n) (hrest : EndsNumber rest) :
    Reads (number negative (t ++ rest)) n rest := by
  cases ht with
  | whole integer =>
    refine number_append integer hrest.endsDigits ?_
    rw [afterInteger_of_endsNumber negative _ hrest]
    exact ⟨_, rfl, rfl, rfl⟩
  | double integer fraction exponent broken =>
    rw [List.append_assoc, List.append_assoc]
    refine number_append integer ?_ (afterInteger_append fraction exponent broken hrest)
    exact endsDigits_fraction fraction.isFraction exponent.isExponent hrest

end Compliance.Json
