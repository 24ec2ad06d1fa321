import Compliance.Text.Blank
import Compliance.Text.Character
import Mathlib.Data.List.TakeWhile

/-!
Texts of digits. Readers of numbers take the digits at the front of a text as far as they go, so what
they take is known where the rest does not go on with one.
-/

namespace Compliance.Text

def IsDigits (s : List Char) : Prop := s ≠ [] ∧ ∀ c ∈ s, c.isDigit = true

/-- The text does not go on with a digit. -/
def EndsDigits (s : List Char) : Prop := s.head?.any Char.isDigit = false

variable {c d : Char} {ds rest : List Char}

theorem toNat_of_isDigit (h : c.isDigit = true) : 48 ≤ c.toNat ∧ c.toNat ≤ 57 := by
  simp only [Char.isDigit, Bool.and_eq_true, decide_eq_true_eq] at h
  exact h

theorem ne_of_isDigit (hc : c.isDigit = true) (hd : d.isDigit = false) : c ≠ d := by
  rintro rfl
  rw [hc] at hd
  cases hd

theorem isBlank_of_isDigit (h : c.isDigit = true) : isBlank c = false := by
  obtain ⟨hlow, hhigh⟩ := toNat_of_isDigit h
  simp only [isBlank, Bool.or_eq_false_iff, Bool.and_eq_false_iff, decide_eq_false_iff_not,
    beq_eq_false_iff_ne]
  omega

theorem IsDigits.exists_cons (h : IsDigits ds) :
    ∃ c cs, ds = c :: cs ∧ c.isDigit = true ∧ ∀ d ∈ cs, d.isDigit = true := by
  obtain ⟨hne, hall⟩ := h
  obtain ⟨c, cs, rfl⟩ := List.exists_cons_of_ne_nil hne
  exact ⟨c, cs, rfl, List.forall_mem_cons.1 hall⟩

theorem isDigits_toDigits (n : Nat) : IsDigits (Nat.toDigits 10 n) :=
  ⟨Nat.toDigits_ne_nil, fun _ hd => Nat.isDigit_of_mem_toDigits (by decide) (by decide) hd⟩

/-- Every text begins with its digits. -/
theorem exists_digits (s : List Char) :
    ∃ ds rest, s = ds ++ rest ∧ (∀ c ∈ ds, c.isDigit = true) ∧ EndsDigits rest := by
  refine ⟨s.takeWhile Char.isDigit, s.dropWhile Char.isDigit,
    List.takeWhile_append_dropWhile.symm, fun c hc => List.mem_takeWhile_imp hc, ?_⟩
  rw [EndsDigits]
  cases hs : s.dropWhile Char.isDigit with
  | nil => rfl
  | cons c cs =>
    have hhead := List.head?_dropWhile_not Char.isDigit s
    rw [hs] at hhead
    simpa using hhead

theorem takeWhile_digits (hds : ∀ c ∈ ds, c.isDigit = true) (hrest : EndsDigits rest) :
    (ds ++ rest).takeWhile Char.isDigit = ds := by
  rw [List.takeWhile_append_of_pos hds]
  cases rest with
  | nil => exact List.append_nil ds
  | cons c cs =>
    have hc : ¬ c.isDigit = true := Bool.eq_false_iff.1 hrest
    rw [List.takeWhile_cons_of_neg hc, List.append_nil]

theorem dropWhile_digits (hds : ∀ c ∈ ds, c.isDigit = true) (hrest : EndsDigits rest) :
    (ds ++ rest).dropWhile Char.isDigit = rest := by
  rw [List.dropWhile_append_of_pos hds]
  cases rest with
  | nil => rfl
  | cons c cs =>
    have hc : ¬ c.isDigit = true := Bool.eq_false_iff.1 hrest
    exact List.dropWhile_cons_of_neg hc

end Compliance.Text
