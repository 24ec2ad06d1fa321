import Compliance.Proofs.Json.Text
import Compliance.Proofs.Text.Digits

/-!
Reading back a whole number. The digits of a number below the bound of significands all fit, so the
reader takes them up to the end of the number and finds nothing to scale.
-/

namespace Compliance.Json

/-- The text does not go on with what could belong to a number. -/
def EndsNumber : List Char → Prop
  | [] => True
  | c :: _ => c.isDigit = false ∧ c ≠ '.' ∧ c ≠ 'e' ∧ c ≠ 'E'

def Number.IsWord : Number → Prop
  | .integer n => -(UInt64.size / 2 : Int) ≤ n ∧ n < UInt64.size
  | .float _ => False

/-! ### Digits -/

theorem isSpace_of_isDigit {c : Char} (h : c.isDigit = true) : isSpace c = false := by
  have hne : ∀ d, d.isDigit = false → c ≠ d := fun _ => Text.ne_of_isDigit h
  simp [isSpace, hne ' ' (by decide), hne '\n' (by decide), hne '\t' (by decide),
    hne '\r' (by decide)]

theorem skipDigits_of_endsNumber {rest : List Char} (h : EndsNumber rest) :
    skipDigits rest = .here 0 rest := by
  cases rest with
  | nil => rw [skipDigits]
  | cons c cs =>
    rw [skipDigits, h.1]
    rfl

/-- Digits only add to what was read before them. -/
theorem le_ofDigitChars (cs : List Char) (m : Nat) : m ≤ Nat.ofDigitChars 10 cs m := by
  rw [Nat.ofDigitChars_eq_ofDigitChars_zero]
  exact Nat.le_add_right_of_le (Nat.le_mul_of_pos_left m (Nat.pow_pos (by decide)))

/-- Digits that fit are all appended. -/
theorem extend_digits {cs rest : List Char} {m : Nat} (hdigits : ∀ c ∈ cs, c.isDigit = true)
    (hfits : Nat.ofDigitChars 10 cs m < significandBound) (hrest : EndsNumber rest) :
    (extend m (cs ++ rest)).1 = Nat.ofDigitChars 10 cs m ∧
      (extend m (cs ++ rest)).2.rest = rest := by
  -- No digit is refused: the number up to it is no larger than the whole one, which fits.
  induction cs generalizing m with
  | nil =>
    cases rest with
    | nil => exact ⟨rfl, rfl⟩
    | cons c cs =>
      rw [List.nil_append, extend, if_neg (by simp [hrest.1])]
      exact ⟨rfl, rfl⟩
  | cons c cs ih =>
    obtain ⟨hc, hcs⟩ := List.forall_mem_cons.1 hdigits
    have hstep : Nat.ofDigitChars 10 (c :: cs) m =
        Nat.ofDigitChars 10 cs (m * 10 + digitValue c) := by
      rw [Nat.ofDigitChars_cons, Nat.mul_comm m 10]
      rfl
    rw [hstep] at hfits ⊢
    have hnow : m * 10 + digitValue c < significandBound :=
      Nat.lt_of_le_of_lt (le_ofDigitChars cs _) hfits
    obtain ⟨hvalue, hleft⟩ := ih hcs hfits
    rw [List.cons_append, extend, if_pos ⟨hc, hnow⟩]
    exact ⟨hvalue, hleft⟩

theorem digitChar_ne_zero : ∀ n < 10, 0 < n → n.digitChar ≠ '0' := by decide

theorem head_toDigits {n : Nat} (h : 0 < n) : (Nat.toDigits 10 n).head? ≠ some '0' := by
  -- The digits of a number of more than one digit begin as those of its tenth part do.
  induction n using Nat.strongRecOn with
  | ind n ih =>
    by_cases hsmall : n < 10
    · rw [Nat.toDigits_of_lt_base hsmall]
      exact fun heq => digitChar_ne_zero n hsmall h (Option.some.inj heq)
    · have hq := ih (n / 10) (by omega) (by omega)
      rw [Nat.toDigits_of_base_le (by omega) (by omega)]
      rw [List.head?_append, Option.or_of_isSome]
      · exact hq
      · exact List.isSome_head?.2 Nat.toDigits_ne_nil

/-! ### Whole numbers -/

theorem afterInteger_of_endsNumber (negative : Bool) (m : Nat) {rest : List Char}
    (h : EndsNumber rest) :
    afterInteger negative m 0 rest = .ok (.here (wholeNumber negative m) rest) := by
  unfold afterInteger
  split
  · exact absurd rfl h.2.1
  · exact absurd rfl h.2.2.1
  · exact absurd rfl h.2.2.2
  · rfl

/-- The digits of a number that fits are read as that number. -/
theorem number_toDigits (negative : Bool) {n : Nat} (h : n < significandBound) {rest : List Char}
    (hrest : EndsNumber rest) :
    Reads (number negative (Nat.toDigits 10 n ++ rest)) (wholeNumber negative n) rest := by
  rcases Nat.eq_zero_or_pos n with rfl | hn
  · have hnext : rest.head?.any Char.isDigit = false := by
      cases rest with
      | nil => rfl
      | cons c cs => exact hrest.1
    rw [Nat.toDigits_zero, List.singleton_append, number, hnext, if_neg (by decide),
      afterInteger_of_endsNumber negative 0 hrest]
    exact ⟨_, rfl, rfl, rfl⟩
  · obtain ⟨c, cs, hcs, hc, hmore⟩ := (Text.isDigits_toDigits n).exists_cons
    have hzero : c ≠ '0' := fun hc0 => head_toDigits hn (by rw [hcs, hc0]; rfl)
    have hvalue : Nat.ofDigitChars 10 cs (digitValue c) = n := by
      have hall := Nat.ofDigitChars_ten_toDigits (n := n)
      rw [hcs, Nat.ofDigitChars_cons, Nat.mul_zero, Nat.zero_add] at hall
      exact hall
    obtain ⟨hm, hr⟩ := extend_digits hmore (hvalue ▸ h) hrest
    rw [hvalue] at hm
    rw [hcs, List.cons_append, number]
    · rw [if_pos hc]
      generalize extend (digitValue c) (cs ++ rest) = taken at hm hr ⊢
      obtain ⟨m, v, r, le⟩ := taken
      obtain rfl : m = n := hm
      obtain rfl : r = rest := hr
      have hskipped := skipDigits_of_endsNumber hrest
      dsimp only
      generalize skipDigits r = skipped at hskipped ⊢
      subst hskipped
      show Reads ((afterInteger negative m 0 r).map _) _ _
      rw [afterInteger_of_endsNumber negative m hrest]
      exact ⟨_, rfl, rfl, rfl⟩
    · exact hzero

end Compliance.Json
