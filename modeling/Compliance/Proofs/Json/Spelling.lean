import Compliance.Proofs.Json.Grammar
import Compliance.Proofs.Json.Text

/-!
The readers of strings against the grammar: from behind the opening quote of a string, each takes
exactly what may stand there. A text therefore spells at most one string.
-/

namespace Compliance.Json

variable {s rest : List Char}

theorem not_reads_error {α : Type} {f : Fault} {a : α} :
    ¬ Reads (.error f : Except Fault (Taken α s)) a rest := by
  rintro ⟨t, ht, -, -⟩
  cases ht

theorem reads_ok {α : Type} {t : Taken α s} {a : α} :
    Reads (.ok t) a rest ↔ t.value = a ∧ t.rest = rest := by
  constructor
  · rintro ⟨u, hu, hvalue, hrest⟩
    cases hu
    exact ⟨hvalue, hrest⟩
  · rintro ⟨hvalue, hrest⟩
    exact ⟨t, rfl, hvalue, hrest⟩

/-! ### Escapes -/

theorem reads_fourHex {n : Nat} :
    Reads (fourHex s) n rest ↔ ∃ ds, s = ds ++ rest ∧ HexNumeral ds n := by
  constructor
  · intro h
    unfold fourHex at h
    split at h
    · split at h
      · rename_i ha hb hc hd
        obtain ⟨rfl, rfl⟩ := reads_ok.1 h
        exact ⟨_, rfl, .mk ha hb hc hd⟩
      · exact absurd h not_reads_error
    · split at h <;> exact absurd h not_reads_error
  · rintro ⟨ds, rfl, hds⟩
    cases hds with
    | mk ha hb hc hd =>
      show Reads (fourHex (_ :: _ :: _ :: _ :: rest)) _ _
      rw [fourHex]
      simp only [ha, hb, hc, hd]
      exact ⟨_, rfl, rfl, rfl⟩

theorem reads_lowHalf {high : Nat} {c : Char} :
    Reads (lowHalf high s) c rest ↔ ∃ ls low, s = '\\' :: 'u' :: (ls ++ rest) ∧ HexNumeral ls low ∧
      isLowSurrogate low = true ∧ c = joinSurrogates high low := by
  constructor
  · intro h
    unfold lowHalf at h
    split at h
    · exact absurd h not_reads_error
    · split at h
      · exact absurd h not_reads_error
      · rename_i t ht
        split at h
        · rename_i hlow
          obtain ⟨hvalue, hrest⟩ := reads_ok.1 h
          simp only [Taken.cons_value, Taken.map_value] at hvalue
          obtain ⟨ls, hls, hnumeral⟩ := reads_fourHex.1 ⟨t, ht, rfl, hrest⟩
          exact ⟨ls, t.value, congrArg ('\\' :: 'u' :: ·) hls, hnumeral, hlow, hvalue.symm⟩
        · exact absurd h not_reads_error
    · exact absurd h not_reads_error
    · exact absurd h not_reads_error
    · exact absurd h not_reads_error
  · rintro ⟨ls, low, rfl, hnumeral, hlow, hc⟩
    obtain ⟨t, ht, hvalue, hrest⟩ : Reads (fourHex (ls ++ rest)) low rest :=
      reads_fourHex.2 ⟨ls, rfl, hnumeral⟩
    rw [lowHalf, ht]
    simp only [hvalue, hlow]
    refine ⟨_, rfl, ?_, hrest⟩
    simp only [Taken.cons_value, Taken.map_value, hvalue, hc]

theorem not_isLowSurrogate_of_high {n : Nat} (h : isHighSurrogate n = true) :
    isLowSurrogate n = false := by
  simp only [isHighSurrogate, isLowSurrogate, Bool.and_eq_true, decide_eq_true_eq,
    Bool.and_eq_false_iff, decide_eq_false_iff_not] at h ⊢
  omega

theorem ne_u_of_shortEscape {c d : Char} (h : shortEscape? c = some d) : c ≠ 'u' := by
  rintro rfl
  cases h

/-- An escape by number for the first half of a pair goes on with the other half. -/
theorem escape_pair {high : Nat} {c : Char} {more : List Char} (h : Reads (fourHex s) high more)
    (isHigh : isHighSurrogate high = true) (hlow : Reads (lowHalf high more) c rest) :
    Reads (escape ('u' :: s)) c rest := by
  obtain ⟨t, ht, rfl, rfl⟩ := h
  obtain ⟨u, hu, rfl, rfl⟩ := hlow
  rw [escape, ht]
  simp only [not_isLowSurrogate_of_high isHigh, isHigh, hu]
  exact ⟨_, rfl, rfl, rfl⟩

theorem reads_escape {c : Char} :
    Reads (escape s) c rest ↔ ∃ e, s = e ++ rest ∧ SpelledEscape e c := by
  constructor
  · intro h
    unfold escape at h
    split at h
    · exact absurd h not_reads_error
    · split at h
      · exact absurd h not_reads_error
      · rename_i t ht
        split at h
        · exact absurd h not_reads_error
        · rename_i hlow
          split at h
          · rename_i hhigh
            split at h
            · exact absurd h not_reads_error
            · rename_i u hu
              obtain ⟨hvalue, hrest⟩ := reads_ok.1 h
              obtain ⟨ls, low, hls, hnumeral', hlow', hc⟩ := reads_lowHalf.1 ⟨u, hu, hvalue, hrest⟩
              obtain ⟨ds, hds, hnumeral⟩ := reads_fourHex.1 ⟨t, ht, rfl, hls⟩
              refine ⟨'u' :: (ds ++ '\\' :: 'u' :: ls), ?_,
                hc ▸ .pair hnumeral hnumeral' hhigh hlow'⟩
              rw [hds]
              simp
          · rename_i hhigh
            obtain ⟨hvalue, hrest⟩ := reads_ok.1 h
            obtain ⟨ds, hds, hnumeral⟩ := reads_fourHex.1 ⟨t, ht, rfl, hrest⟩
            exact ⟨'u' :: ds, congrArg ('u' :: ·) hds,
              hvalue ▸ .number hnumeral (Bool.eq_false_iff.2 hlow)
                (Bool.eq_false_iff.2 hhigh)⟩
    · split at h
      · rename_i hshort
        obtain ⟨rfl, rfl⟩ := reads_ok.1 h
        exact ⟨_, rfl, .short hshort⟩
      · exact absurd h not_reads_error
  · rintro ⟨e, rfl, he⟩
    cases he with
    | short h => exact escape_short (ne_u_of_shortEscape h) h rest
    | @number ds n h low high =>
      obtain ⟨t, ht, hvalue, hrest⟩ : Reads (fourHex (ds ++ rest)) n rest :=
        reads_fourHex.2 ⟨ds, rfl, h⟩
      rw [List.cons_append, escape, ht]
      simp only [hvalue, low, high]
      exact ⟨_, rfl, congrArg Char.ofNat hvalue, hrest⟩
    | @pair hs ls high low hhigh hlow isHigh isLow =>
      rw [List.cons_append, List.append_assoc]
      exact escape_pair (reads_fourHex.2 ⟨hs, rfl, hhigh⟩) isHigh
        (reads_lowHalf.2 ⟨ls, low, rfl, hlow, isLow, rfl⟩)

theorem reads_skipEscape :
    Reads (skipEscape s) () rest ↔ ∃ e, s = e ++ rest ∧ IsEscape e := by
  constructor
  · intro h
    unfold skipEscape at h
    split at h
    · exact absurd h not_reads_error
    · rename_i r
      cases ht : fourHex r with
      | error f =>
        rw [ht] at h
        exact absurd h not_reads_error
      | ok t =>
        rw [ht] at h
        obtain ⟨ds, hds, hnumeral⟩ := reads_fourHex.1 ⟨t, ht, rfl, (reads_ok.1 h).2⟩
        exact ⟨'u' :: ds, congrArg ('u' :: ·) hds, .number hnumeral⟩
    · split at h
      · rename_i hshort
        obtain ⟨d, hd⟩ := Option.isSome_iff_exists.1 hshort
        obtain ⟨-, rfl⟩ := reads_ok.1 h
        exact ⟨_, rfl, .short hd⟩
      · exact absurd h not_reads_error
  · rintro ⟨e, rfl, he⟩
    cases he with
    | short h =>
      rw [List.singleton_append, skipEscape]
      · rw [h]
        exact ⟨_, rfl, rfl, rfl⟩
      · exact ne_u_of_shortEscape h
    | @number ds n h =>
      obtain ⟨t, ht, -, hrest⟩ : Reads (fourHex (ds ++ rest)) n rest :=
        reads_fourHex.2 ⟨ds, rfl, h⟩
      rw [List.cons_append, skipEscape, ht]
      exact ⟨_, rfl, rfl, hrest⟩

/-! ### Strings -/

/-- A string is read exactly if its characters are spelled. -/
theorem reads_stringBody {cs : List Char} :
    Reads (stringBody s) cs rest ↔ ∃ body, s = body ++ '"' :: rest ∧ Spelled body cs := by
  constructor
  · intro h
    fun_induction stringBody s generalizing cs with
    | case1 => exact absurd h not_reads_error
    | case2 r =>
      obtain ⟨rfl, rfl⟩ := reads_ok.1 h
      exact ⟨[], rfl, .nil⟩
    | case3 => exact absurd h not_reads_error
    | case4 => exact absurd h not_reads_error
    | case5 r e he _ t ht ih =>
      obtain ⟨hvalue, hrest⟩ := reads_ok.1 h
      obtain ⟨body, hbody, hmore⟩ := ih ⟨t, ht, rfl, hrest⟩
      obtain ⟨text, htext, hspelled⟩ := reads_escape.1 ⟨e, he, rfl, hbody⟩
      subst hvalue
      refine ⟨'\\' :: (text ++ body), ?_, .escaped hspelled hmore⟩
      rw [htext]
      simp
    | case6 => exact absurd h not_reads_error
    | case7 => exact absurd h not_reads_error
    | case8 c r hquote hslash hcontrol t ht ih =>
      obtain ⟨hvalue, hrest⟩ := reads_ok.1 h
      obtain ⟨body, hbody, hmore⟩ := ih ⟨t, ht, rfl, hrest⟩
      subst hvalue
      exact ⟨c :: body, congrArg (c :: ·) hbody, .plain hquote hslash hcontrol hmore⟩
  · rintro ⟨body, rfl, h⟩
    induction h with
    | nil => exact stringBody_end rest
    | plain quote slash control _ ih => exact stringBody_cons quote slash control ih
    | escaped escape _ ih =>
      rw [List.cons_append, List.append_assoc]
      exact stringBody_escape (reads_escape.2 ⟨_, rfl, escape⟩) ih

theorem skipString_escape {more : List Char} (he : Reads (skipEscape s) () more)
    (h : Reads (skipString more) () rest) : Reads (skipString ('\\' :: s)) () rest := by
  obtain ⟨t, ht, -, rfl⟩ := he
  obtain ⟨u, hu, -, rfl⟩ := h
  rw [skipString, ht]
  simp only [hu]
  exact ⟨_, rfl, rfl, rfl⟩

/-- A string is passed over exactly if it is well formed. -/
theorem reads_skipString :
    Reads (skipString s) () rest ↔ ∃ body, s = body ++ '"' :: rest ∧ IsBody body := by
  constructor
  · intro h
    fun_induction skipString s with
    | case1 => exact absurd h not_reads_error
    | case2 r =>
      obtain ⟨-, rfl⟩ := reads_ok.1 h
      exact ⟨[], rfl, .nil⟩
    | case3 => exact absurd h not_reads_error
    | case4 => exact absurd h not_reads_error
    | case5 r e he _ t ht ih =>
      obtain ⟨body, hbody, hmore⟩ := ih ⟨t, ht, rfl, (reads_ok.1 h).2⟩
      obtain ⟨text, htext, hescape⟩ := reads_skipEscape.1 ⟨e, he, rfl, hbody⟩
      refine ⟨'\\' :: (text ++ body), ?_, .escaped hescape hmore⟩
      rw [htext]
      simp
    | case6 => exact absurd h not_reads_error
    | case7 => exact absurd h not_reads_error
    | case8 c r hquote hslash hcontrol t ht ih =>
      obtain ⟨body, hbody, hmore⟩ := ih ⟨t, ht, rfl, (reads_ok.1 h).2⟩
      exact ⟨c :: body, congrArg (c :: ·) hbody, .plain hquote hslash hcontrol hmore⟩
  · rintro ⟨body, rfl, h⟩
    induction h with
    | nil =>
      rw [List.nil_append, skipString]
      exact ⟨_, rfl, rfl, rfl⟩
    | plain quote slash control _ ih =>
      obtain ⟨t, ht, -, hrest⟩ := ih
      rw [List.cons_append, skipString]
      · rw [if_neg control, ht]
        exact ⟨_, rfl, rfl, hrest⟩
      · exact quote
      · exact slash
    | escaped escape _ ih =>
      rw [List.cons_append, List.append_assoc]
      exact skipString_escape (reads_skipEscape.2 ⟨_, rfl, escape⟩) ih

/-- A text spells one string only. -/
theorem Spelled.unique {s cs ds : List Char} (hc : Spelled s cs) (hd : Spelled s ds) : cs = ds := by
  have hreads : ∀ {es}, Spelled s es → Reads (stringBody (s ++ ['"'])) es [] := fun h =>
    reads_stringBody.2 ⟨s, rfl, h⟩
  obtain ⟨t, ht, hcs, -⟩ := hreads hc
  obtain ⟨u, hu, hds, -⟩ := hreads hd
  cases ht.symm.trans hu
  exact hcs.symm.trans hds

theorem Quoted.unique {s : List Char} {a b : String} (ha : Quoted s a) (hb : Quoted s b) :
    a = b := by
  obtain ⟨hc⟩ := ha
  generalize ht : quote _ = t at hb
  obtain ⟨hd⟩ := hb
  rw [quote_inj] at ht
  subst ht
  rw [hc.unique hd]

end Compliance.Json
