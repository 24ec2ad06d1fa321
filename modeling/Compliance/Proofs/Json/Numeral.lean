import Compliance.Json.Skip
import Compliance.Proofs.Except
import Compliance.Proofs.Json.Number
import Compliance.Proofs.Json.Spelling
import Mathlib.Data.List.TakeWhile

/-!
What passes over a number against the grammar: it passes over every number, whatever its size, and
over nothing else. What stands behind the number must not be part of one, since digits are taken as
far as they go.
-/

namespace Compliance.Json

open Text (EndsDigits IsDigits)

variable {s rest : List Char}

/-- Where a reader only goes on from another one, it leaves what the other one leaves. -/
theorem Reads.map {r : List Char} {x : Except Fault (Taken Unit r)}
    {f : Taken Unit r → Taken Unit s} (h : Reads x () rest) (hf : ∀ t, (f t).rest = t.rest) :
    Reads (x.map f) () rest := by
  obtain ⟨t, rfl, -, rfl⟩ := h
  exact ⟨f t, rfl, rfl, hf t⟩

theorem Reads.of_map {r : List Char} {x : Except Fault (Taken Unit r)}
    {f : Taken Unit r → Taken Unit s} (h : Reads (x.map f) () rest)
    (hf : ∀ t, (f t).rest = t.rest) : Reads x () rest := by
  obtain ⟨u, hu, -, rfl⟩ := h
  obtain ⟨t, rfl, rfl⟩ := map_eq_ok.1 hu
  exact ⟨t, rfl, rfl, (hf t).symm⟩

/-! ### Numbers -/

theorem EndsNumber.endsDigits (h : EndsNumber s) : EndsDigits s := by
  cases s with
  | nil => rfl
  | cons c cs => exact h.1

theorem skipDigits_rest (s : List Char) : (skipDigits s).rest = s.dropWhile Char.isDigit := by
  induction s with
  | nil => rfl
  | cons c cs ih =>
    rw [skipDigits]
    by_cases hc : c.isDigit = true
    · rw [if_pos hc, List.dropWhile_cons_of_pos hc]
      exact ih
    · rw [if_neg hc, List.dropWhile_cons_of_neg hc]
      rfl

theorem skipDigits_value (s : List Char) : (skipDigits s).value = (s.takeWhile Char.isDigit).length := by
  induction s with
  | nil => rfl
  | cons c cs ih =>
    rw [skipDigits]
    by_cases hc : c.isDigit = true
    · rw [if_pos hc, List.takeWhile_cons_of_pos hc]
      exact congrArg (· + 1) ih
    · rw [if_neg hc, List.takeWhile_cons_of_neg hc]
      rfl

theorem skipDigits_append {ds : List Char} (hds : ∀ c ∈ ds, c.isDigit = true)
    (hrest : EndsDigits rest) :
    (skipDigits (ds ++ rest)).rest = rest ∧ (skipDigits (ds ++ rest)).value = ds.length := by
  rw [skipDigits_rest, skipDigits_value, Text.dropWhile_digits hds hrest,
    Text.takeWhile_digits hds hrest]
  exact ⟨rfl, rfl⟩

/-- The digits in front of a text are those that are passed over. -/
theorem exists_of_skipDigits (s : List Char) :
    ∃ ds, s = ds ++ (skipDigits s).rest ∧ (∀ c ∈ ds, c.isDigit = true) ∧
      (skipDigits s).value = ds.length := by
  obtain ⟨ds, rest, rfl, hds, hrest⟩ := Text.exists_digits s
  obtain ⟨hleft, hcount⟩ := skipDigits_append hds hrest
  exact ⟨ds, congrArg (ds ++ ·) hleft.symm, hds, hcount⟩

theorem exists_of_skipExponentDigits (h : Reads (skipExponentDigits s) () rest) :
    ∃ ds, s = ds ++ rest ∧ IsDigits ds := by
  unfold skipExponentDigits at h
  split at h
  · exact absurd h not_reads_error
  · rename_i c cs
    split at h
    · rename_i hc
      obtain ⟨-, rfl⟩ := reads_ok.1 h
      obtain ⟨ds, hcs, hds, -⟩ := exists_of_skipDigits cs
      exact ⟨c :: ds, congrArg (c :: ·) hcs, List.cons_ne_nil c ds,
        List.forall_mem_cons.2 ⟨hc, hds⟩⟩
    · exact absurd h not_reads_error

theorem skipExponentDigits_append {ds : List Char} (hds : IsDigits ds) (hrest : EndsDigits rest) :
    Reads (skipExponentDigits (ds ++ rest)) () rest := by
  obtain ⟨c, cs, rfl, hc, hcs⟩ := hds.exists_cons
  rw [List.cons_append, skipExponentDigits, if_pos hc]
  exact ⟨_, rfl, rfl, (skipDigits_append hcs hrest).1⟩

theorem exists_of_skipExponent (h : Reads (skipExponent s) () rest) :
    ∃ sign ds, s = sign ++ (ds ++ rest) ∧ (sign = [] ∨ sign = ['+'] ∨ sign = ['-']) ∧
      IsDigits ds := by
  unfold skipExponent at h
  split at h
  · obtain ⟨ds, rfl, hds⟩ := exists_of_skipExponentDigits (h.of_map fun _ => rfl)
    exact ⟨['+'], ds, rfl, .inr (.inl rfl), hds⟩
  · obtain ⟨ds, rfl, hds⟩ := exists_of_skipExponentDigits (h.of_map fun _ => rfl)
    exact ⟨['-'], ds, rfl, .inr (.inr rfl), hds⟩
  · obtain ⟨ds, rfl, hds⟩ := exists_of_skipExponentDigits h
    exact ⟨[], ds, rfl, .inl rfl, hds⟩

theorem skipExponent_append {sign ds : List Char} (hsign : sign = [] ∨ sign = ['+'] ∨ sign = ['-'])
    (hds : IsDigits ds) (hrest : EndsDigits rest) :
    Reads (skipExponent (sign ++ (ds ++ rest))) () rest := by
  have hread := skipExponentDigits_append hds hrest
  rcases hsign with rfl | rfl | rfl
  · obtain ⟨c, cs, rfl, hc, -⟩ := hds.exists_cons
    rw [List.nil_append, List.cons_append, skipExponent]
    · exact hread
    · rintro cs' heq
      cases heq
      cases hc
    · rintro cs' heq
      cases heq
      cases hc
  · exact hread.map fun _ => rfl
  · exact hread.map fun _ => rfl

theorem exists_of_skipAfterFraction (h : Reads (skipAfterFraction s) () rest) :
    ∃ e, s = e ++ rest ∧ IsExponent e := by
  unfold skipAfterFraction at h
  split at h
  · obtain ⟨sign, ds, rfl, hsign, hds⟩ := exists_of_skipExponent (h.of_map fun _ => rfl)
    refine ⟨'e' :: (sign ++ ds), ?_, .digits (.inl rfl) hsign hds⟩
    rw [List.cons_append, List.append_assoc]
  · obtain ⟨sign, ds, rfl, hsign, hds⟩ := exists_of_skipExponent (h.of_map fun _ => rfl)
    refine ⟨'E' :: (sign ++ ds), ?_, .digits (.inr rfl) hsign hds⟩
    rw [List.cons_append, List.append_assoc]
  · obtain ⟨-, rfl⟩ := reads_ok.1 h
    exact ⟨[], rfl, .none⟩

theorem skipAfterFraction_append {e : List Char} (he : IsExponent e) (hrest : EndsNumber rest) :
    Reads (skipAfterFraction (e ++ rest)) () rest := by
  cases he with
  | none =>
    rw [List.nil_append]
    unfold skipAfterFraction
    split
    · exact absurd rfl hrest.2.2.1
    · exact absurd rfl hrest.2.2.2
    · exact ⟨_, rfl, rfl, rfl⟩
  | digits he hsign hds =>
    rw [List.cons_append, List.append_assoc]
    rcases he with rfl | rfl
    · exact (skipExponent_append hsign hds hrest.endsDigits).map fun _ => rfl
    · exact (skipExponent_append hsign hds hrest.endsDigits).map fun _ => rfl

theorem exists_of_skipAfterInteger (h : Reads (skipAfterInteger s) () rest) :
    ∃ f e, s = f ++ (e ++ rest) ∧ IsFraction f ∧ IsExponent e := by
  unfold skipAfterInteger at h
  split at h
  · rename_i cs
    dsimp only at h
    split at h
    · exact absurd h not_reads_error
    · rename_i hcount
      obtain ⟨e, he, hexponent⟩ := exists_of_skipAfterFraction (h.of_map fun _ => rfl)
      obtain ⟨ds, hcs, hds, hlength⟩ := exists_of_skipDigits cs
      rw [he] at hcs
      rw [hlength] at hcount
      exact ⟨'.' :: ds, e, congrArg ('.' :: ·) hcs,
        .digits ⟨fun hnil => hcount (congrArg List.length hnil), hds⟩, hexponent⟩
  · obtain ⟨e, rfl, hexponent⟩ := exists_of_skipAfterFraction h
    exact ⟨[], e, rfl, .none, hexponent⟩

theorem endsDigits_exponent {e : List Char} (he : IsExponent e) (hrest : EndsNumber rest) :
    EndsDigits (e ++ rest) := by
  cases he with
  | none => exact hrest.endsDigits
  | digits he => rcases he with rfl | rfl <;> rfl

theorem endsDigits_fraction {f e : List Char} (hf : IsFraction f) (he : IsExponent e)
    (hrest : EndsNumber rest) : EndsDigits (f ++ (e ++ rest)) := by
  cases hf with
  | none =>
    rw [List.nil_append]
    exact endsDigits_exponent he hrest
  | digits h => rfl

/-- Without a point the number goes on with its exponent. -/
theorem skipAfterInteger_eq (h : s.head? ≠ some '.') :
    skipAfterInteger s = skipAfterFraction s := by
  unfold skipAfterInteger
  split
  · exact absurd rfl h
  · rfl

theorem head?_exponent {e : List Char} (he : IsExponent e) (hrest : EndsNumber rest) :
    (e ++ rest).head? ≠ some '.' := by
  cases he with
  | none =>
    cases rest with
    | nil => exact nofun
    | cons c cs => exact fun heq => hrest.2.1 (Option.some.inj heq)
  | digits he =>
    rcases he with rfl | rfl <;> rintro ⟨⟩

theorem skipAfterInteger_append {f e : List Char} (hf : IsFraction f) (he : IsExponent e)
    (hrest : EndsNumber rest) : Reads (skipAfterInteger (f ++ (e ++ rest))) () rest := by
  have hread := skipAfterFraction_append he hrest
  cases hf with
  | none =>
    rw [List.nil_append, skipAfterInteger_eq (head?_exponent he hrest)]
    exact hread
  | @digits ds hds =>
    obtain ⟨hleft, hcount⟩ := skipDigits_append hds.2 (endsDigits_exponent he hrest)
    rw [← hleft] at hread
    rw [List.cons_append, skipAfterInteger, hcount,
      if_neg fun hnil => hds.1 (List.length_eq_zero_iff.1 hnil)]
    exact hread.map fun _ => rfl

/-- A number begins with a digit. -/
theorem IsNumber.exists_digit {n : List Char} (h : IsNumber n) :
    ∃ c cs, n = c :: cs ∧ c.isDigit = true := by
  obtain ⟨hi, hf, he⟩ := h
  cases hi with
  | zero => exact ⟨'0', _, rfl, rfl⟩
  | digits first nonzero more => exact ⟨_, _, rfl, first⟩

theorem exists_of_skipNumber (h : Reads (skipNumber s) () rest) :
    ∃ n, s = n ++ rest ∧ IsNumber n := by
  unfold skipNumber at h
  split at h
  · exact absurd h not_reads_error
  · split at h
    · exact absurd h not_reads_error
    · obtain ⟨f, e, rfl, hf, he⟩ := exists_of_skipAfterInteger (h.of_map fun _ => rfl)
      refine ⟨['0'] ++ (f ++ e), ?_, .mk .zero hf he⟩
      simp
  · rename_i c cs hzero
    split at h
    · rename_i hc
      dsimp only at h
      obtain ⟨f, e, hleft, hf, he⟩ := exists_of_skipAfterInteger (h.of_map fun _ => rfl)
      obtain ⟨ds, hcs, hds, -⟩ := exists_of_skipDigits cs
      rw [hleft] at hcs
      refine ⟨c :: ds ++ (f ++ e), ?_, .mk (.digits hc hzero hds) hf he⟩
      rw [hcs]
      simp
    · exact absurd h not_reads_error

theorem skipNumber_append {n : List Char} (hn : IsNumber n) (hrest : EndsNumber rest) :
    Reads (skipNumber (n ++ rest)) () rest := by
  obtain ⟨hi, hf, he⟩ := hn
  have hread := skipAfterInteger_append hf he hrest
  have hends := endsDigits_fraction hf he hrest
  rw [List.append_assoc, List.append_assoc]
  cases hi with
  | zero =>
    rw [List.singleton_append, skipNumber, if_neg (Bool.eq_false_iff.1 hends)]
    exact hread.map fun _ => rfl
  | digits first nonzero more =>
    rw [List.cons_append, skipNumber]
    · rw [if_pos first]
      rw [← (skipDigits_append more hends).1] at hread
      exact hread.map fun _ => rfl
    · exact nonzero

end Compliance.Json
