import Compliance.Json.Literal
import Compliance.Json.Writer

/-!
Reading back a string. Each character is written as itself or as an escape, and either is read as
that character, whatever follows it; so a string is read back from what was written for it.
-/

namespace Compliance.Json

open Text (hexValue?)

/-- A reader takes a value from the front of a text and leaves a rest. -/
def Reads {α : Type} {s : List Char} (x : Except Fault (Taken α s)) (a : α) (rest : List Char) :
    Prop :=
  ∃ t, x = .ok t ∧ t.value = a ∧ t.rest = rest

/-! ### Single characters -/

theorem stringBody_end (rest : List Char) : Reads (stringBody ('"' :: rest)) [] rest := by
  rw [stringBody]
  exact ⟨_, rfl, rfl, rfl⟩

/-- A character that stands for itself. -/
theorem stringBody_cons {c : Char} {s cs rest : List Char} (hquote : c ≠ '"') (hslash : c ≠ '\\')
    (hcontrol : ¬ c < ' ') (h : Reads (stringBody s) cs rest) :
    Reads (stringBody (c :: s)) (c :: cs) rest := by
  obtain ⟨t, ht, rfl, rfl⟩ := h
  rw [stringBody]
  · rw [if_neg hcontrol, ht]
    exact ⟨_, rfl, rfl, rfl⟩
  · exact hquote
  · exact hslash

/-- A character that is written as an escape. -/
theorem stringBody_escape {c : Char} {s more cs rest : List Char} (hc : Reads (escape s) c more)
    (h : Reads (stringBody more) cs rest) : Reads (stringBody ('\\' :: s)) (c :: cs) rest := by
  obtain ⟨e, he, rfl, rfl⟩ := hc
  obtain ⟨t, ht, rfl, rfl⟩ := h
  rw [stringBody, he]
  simp only [ht]
  exact ⟨_, rfl, rfl, rfl⟩

theorem escape_short {c d : Char} (hc : c ≠ 'u') (h : shortEscape? c = some d) (rest : List Char) :
    Reads (escape (c :: rest)) d rest := by
  rw [escape]
  · rw [h]
    exact ⟨_, rfl, rfl, rfl⟩
  · exact hc

theorem hexValue?_digitChar : ∀ n < 16, hexValue? n.digitChar = some n := by decide

/-- An escape by number, for a control. -/
theorem escape_control {n : Nat} (h : n < 0x20) (rest : List Char) :
    Reads (escape ('u' :: '0' :: '0' :: (n / 16).digitChar :: (n % 16).digitChar :: rest))
      (Char.ofNat n) rest := by
  have hhigh : hexValue? (n / 16).digitChar = some (n / 16) := hexValue?_digitChar _ (by omega)
  have hlow : hexValue? (n % 16).digitChar = some (n % 16) := hexValue?_digitChar _ (by omega)
  have hzero : hexValue? '0' = some 0 := by decide
  have hsum : ((0 * 16 + 0) * 16 + n / 16) * 16 + n % 16 = n := by omega
  -- A control is no half of a pair, so that nothing more is read for it.
  have hnot : isLowSurrogate n = false ∧ isHighSurrogate n = false := by
    simp only [isLowSurrogate, isHighSurrogate, Bool.and_eq_false_iff, decide_eq_false_iff_not]
    omega
  obtain ⟨t, ht, hvalue, hrest⟩ :
      Reads (fourHex ('0' :: '0' :: (n / 16).digitChar :: (n % 16).digitChar :: rest)) n rest := by
    rw [fourHex]
    simp only [hzero, hhigh, hlow]
    exact ⟨_, rfl, hsum, rfl⟩
  rw [escape, ht]
  simp only [hvalue, hnot]
  exact ⟨_, rfl, congrArg Char.ofNat hvalue, hrest⟩

/-- A character is written as a short escape, as an escape by number or as itself. -/
theorem writtenChar_cases (c : Char) :
    (∃ d, d ≠ 'u' ∧ shortEscape? d = some c ∧ writtenChar c = ['\\', d]) ∨
      (c.toNat < 0x20 ∧ writtenChar c =
        ['\\', 'u', '0', '0', (c.toNat / 16).digitChar, (c.toNat % 16).digitChar]) ∨
      (c ≠ '"' ∧ c ≠ '\\' ∧ ¬ c < ' ' ∧ writtenChar c = [c]) := by
  unfold writtenChar
  by_cases hquote : c = '"'
  · exact .inl ⟨'"', by decide, by rw [hquote]; rfl, if_pos hquote⟩
  rw [if_neg hquote]
  by_cases hslash : c = '\\'
  · exact .inl ⟨'\\', by decide, by rw [hslash]; rfl, if_pos hslash⟩
  rw [if_neg hslash]
  by_cases hback : c = '\x08'
  · exact .inl ⟨'b', by decide, by rw [hback]; rfl, if_pos hback⟩
  rw [if_neg hback]
  by_cases hfeed : c = '\x0c'
  · exact .inl ⟨'f', by decide, by rw [hfeed]; rfl, if_pos hfeed⟩
  rw [if_neg hfeed]
  by_cases hline : c = '\n'
  · exact .inl ⟨'n', by decide, by rw [hline]; rfl, if_pos hline⟩
  rw [if_neg hline]
  by_cases hreturn : c = '\r'
  · exact .inl ⟨'r', by decide, by rw [hreturn]; rfl, if_pos hreturn⟩
  rw [if_neg hreturn]
  by_cases htab : c = '\t'
  · exact .inl ⟨'t', by decide, by rw [htab]; rfl, if_pos htab⟩
  rw [if_neg htab]
  by_cases hcontrol : c < ' '
  · exact .inr (.inl ⟨hcontrol, if_pos hcontrol⟩)
  · exact .inr (.inr ⟨hquote, hslash, hcontrol, if_neg hcontrol⟩)

/-- What is written for a character is read as that character. -/
theorem stringBody_writtenChar (c : Char) {s cs rest : List Char}
    (h : Reads (stringBody s) cs rest) :
    Reads (stringBody (writtenChar c ++ s)) (c :: cs) rest := by
  rcases writtenChar_cases c with ⟨d, hd, hshort, hwritten⟩ | ⟨hsmall, hwritten⟩ |
    ⟨hquote, hslash, hcontrol, hwritten⟩
  · rw [hwritten]
    exact stringBody_escape (escape_short hd hshort s) h
  · have hescape := escape_control hsmall s
    rw [Char.ofNat_toNat] at hescape
    rw [hwritten]
    exact stringBody_escape hescape h
  · rw [hwritten]
    exact stringBody_cons hquote hslash hcontrol h

/-! ### Whole strings -/

/-- A string is read back, from behind its opening quote. -/
theorem stringBody_written (cs rest : List Char) :
    Reads (stringBody (cs.flatMap writtenChar ++ '"' :: rest)) cs rest := by
  induction cs with
  | nil => exact stringBody_end rest
  | cons c cs ih =>
    rw [List.flatMap_cons, List.append_assoc]
    exact stringBody_writtenChar c ih

end Compliance.Json
