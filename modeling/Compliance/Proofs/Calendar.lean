import Compliance.Calendar
import Compliance.Proofs.Except
import Compliance.Proofs.Text.Digits
import Compliance.Proofs.Text.Pieces

/-!
What the reader of calendar days takes for a day: more than the ten characters of the usual form,
since blanks may stand in front of each number, a number may have fewer digits, and a year may have a
sign and then any number of digits.
-/

namespace Compliance.Calendar

open Text (EndsDigits IsBlanks IsDigits numeral)

/-- A year has four digits at most, or a sign and any number of them. -/
inductive SpellsYear : List Char → Int → Prop
  | unsigned {ds : List Char} (h : IsDigits ds) (short : ds.length ≤ 4) :
      SpellsYear ds (numeral ds)
  | plus {ds : List Char} (h : IsDigits ds) : SpellsYear ('+' :: ds) (numeral ds)
  | minus {ds : List Char} (h : IsDigits ds) : SpellsYear ('-' :: ds) (-numeral ds)

/-- A month or a day has two digits at most. -/
inductive SpellsPart : List Char → Nat → Prop
  | mk {ds : List Char} (h : IsDigits ds) (short : ds.length ≤ 2) : SpellsPart ds (numeral ds)

inductive Spells : List Char → Date → Prop
  | mk {a y b m c d : List Char} {year : Int} {month day : Nat} (beforeYear : IsBlanks a)
      (hyear : SpellsYear y year) (beforeMonth : IsBlanks b) (hmonth : SpellsPart m month)
      (beforeDay : IsBlanks c) (hday : SpellsPart d day) :
      Spells (a ++ (y ++ '-' :: (b ++ (m ++ '-' :: (c ++ d))))) ⟨year, month, day⟩

def IsCanonical (s : List Char) : Prop :=
  ∃ y m d, IsDigits y ∧ IsDigits m ∧ IsDigits d ∧ y.length = 4 ∧ m.length = 2 ∧ d.length = 2 ∧
    s = y ++ '-' :: (m ++ '-' :: d)

/-! ### Numbers -/

variable {cs rest ds a : List Char} {n last : Nat} {limit : Option Nat}

theorem exists_of_number (h : number limit cs = .ok (n, rest)) :
    ∃ ds, cs = ds ++ rest ∧ IsDigits ds ∧ (∀ l, limit = some l → ds.length ≤ l) ∧
      n = numeral ds := by
  unfold number at h
  have hrun : cs.takeWhile Char.isDigit <+: cs := List.takeWhile_prefix _
  have hdigits : ∀ c ∈ cs.takeWhile Char.isDigit, c.isDigit = true := fun c hc =>
    List.mem_takeWhile_imp hc
  generalize cs.takeWhile Char.isDigit = run at h hrun hdigits
  dsimp only at h
  have htaken : (limit.elim run fun l => run.take l) <+: run ∧
      ∀ l, limit = some l → (limit.elim run fun l => run.take l).length ≤ l := by
    cases limit with
    | none => exact ⟨List.prefix_refl run, nofun⟩
    | some l =>
      refine ⟨List.take_prefix l run, fun l' hl => ?_⟩
      cases hl
      exact List.length_take_le l run
  generalize (limit.elim run fun l => run.take l) = digits at h htaken
  split at h
  · cases h
  · rename_i hne
    split at h
    · cases h
    · cases h
      refine ⟨digits, ?_, ⟨hne, fun c hc => hdigits c (htaken.1.mem hc)⟩, htaken.2, rfl⟩
      exact (List.prefix_iff_eq_append.1 (htaken.1.trans hrun)).symm

theorem number_append (hds : IsDigits ds) (hlimit : ∀ l, limit = some l → ds.length ≤ l)
    (hrest : EndsDigits rest) (hn : numeral ds < UInt64.size / 2) :
    number limit (ds ++ rest) = .ok (numeral ds, rest) := by
  have htaken : limit.elim ds ds.take = ds := by
    cases limit with
    | none => rfl
    | some l => exact List.take_of_length_le (hlimit l rfl)
  unfold number
  rw [Text.takeWhile_digits hds.2 hrest]
  dsimp only
  rw [htaken, if_neg hds.1, List.drop_left]
  exact if_neg (Nat.not_le.2 hn)

/-! ### Blanks -/

theorem exists_blanks (cs : List Char) : ∃ a, IsBlanks a ∧ cs = a ++ skipBlanks cs :=
  ⟨cs.takeWhile Text.isBlank, fun _ hc => List.mem_takeWhile_imp hc,
    List.takeWhile_append_dropWhile.symm⟩

theorem skipBlanks_append {c : Char} (ha : IsBlanks a) (hc : Text.isBlank c = false)
    (cs : List Char) : skipBlanks (a ++ c :: cs) = c :: cs := by
  rw [skipBlanks, List.dropWhile_append_of_pos ha, List.dropWhile_cons_of_neg (by simp [hc])]

/-- Digits are left behind blanks. -/
theorem skipBlanks_digits (ha : IsBlanks a) (hds : IsDigits ds) (rest : List Char) :
    skipBlanks (a ++ (ds ++ rest)) = ds ++ rest := by
  obtain ⟨c, cs, rfl, hc, -⟩ := hds.exists_cons
  exact skipBlanks_append ha (Text.isBlank_of_isDigit hc) _

/-! ### The parts of a day -/

theorem exists_of_part (h : part last cs = .ok (n, rest)) :
    ∃ a t, cs = a ++ (t ++ rest) ∧ IsBlanks a ∧ SpellsPart t n ∧ 1 ≤ n ∧ n ≤ last := by
  unfold part at h
  obtain ⟨⟨k, left⟩, hnumber, h⟩ := bind_eq_ok.1 h
  dsimp only at h
  split at h
  · rename_i hrange
    cases pure_eq_ok.1 h
    obtain ⟨a, ha, hcs⟩ := exists_blanks cs
    obtain ⟨ds, hskip, hds, hlimit, rfl⟩ := exists_of_number hnumber
    rw [hskip] at hcs
    exact ⟨a, ds, hcs, ha, .mk hds (hlimit 2 rfl), hrange⟩
  · cases h

theorem part_append {t : List Char} (ha : IsBlanks a) (ht : SpellsPart t n) (hone : 1 ≤ n)
    (hlast : n ≤ last) (hbound : last ≤ 31) (hrest : EndsDigits rest) :
    part last (a ++ (t ++ rest)) = .ok (n, rest) := by
  obtain ⟨hds, hshort⟩ := ht
  have hlimit : ∀ l, some 2 = some l → t.length ≤ l := fun l hl => by
    cases hl
    exact hshort
  have hsmall : numeral t < UInt64.size / 2 :=
    Nat.lt_of_le_of_lt (Nat.le_trans hlast hbound) (by decide)
  refine bind_eq_ok.2 ⟨(numeral t, rest), ?_, if_pos ⟨hone, hlast⟩⟩
  rw [skipBlanks_digits ha hds, number_append hds hlimit hrest hsmall]

def bareYear (cs : List Char) : Except Fault (Int × List Char) :=
  match cs with
  | '-' :: ds => (number none ds).map fun r => (-(r.1 : Int), r.2)
  | '+' :: ds => (number none ds).map fun r => ((r.1 : Int), r.2)
  | ds => (number (some 4) ds).map fun r => ((r.1 : Int), r.2)

theorem bareYear_of_unsigned (hminus : ∀ ds, cs ≠ '-' :: ds) (hplus : ∀ ds, cs ≠ '+' :: ds) :
    bareYear cs = (number (some 4) cs).map fun r => ((r.1 : Int), r.2) := by
  unfold bareYear
  split
  · exact absurd rfl (hminus _)
  · exact absurd rfl (hplus _)
  · rfl

theorem year_eq (cs : List Char) :
    year cs = bareYear (skipBlanks cs) >>= fun r =>
      if -2147483648 ≤ r.1 ∧ r.1 ≤ 2147483647 then pure (r.1, r.2) else throw .outOfRange := by
  unfold year
  generalize skipBlanks cs = s
  split
  · rfl
  · rfl
  · rename_i hminus hplus
    rw [bareYear_of_unsigned hminus hplus]

theorem exists_of_year {y : Int} (h : year cs = .ok (y, rest)) :
    ∃ a t, cs = a ++ (t ++ rest) ∧ IsBlanks a ∧ SpellsYear t y := by
  rw [year_eq] at h
  obtain ⟨⟨k, left⟩, hnumber, h⟩ := bind_eq_ok.1 h
  unfold bareYear at hnumber
  dsimp only at h
  split at h
  · cases pure_eq_ok.1 h
    obtain ⟨a, ha, hcs⟩ := exists_blanks cs
    split at hnumber
    · rename_i ds hskip
      obtain ⟨⟨n, left⟩, hn, hpair⟩ := map_eq_ok.1 hnumber
      cases hpair
      obtain ⟨ds, rfl, hds, -, rfl⟩ := exists_of_number hn
      exact ⟨a, '-' :: ds, by rw [hskip] at hcs; exact hcs, ha, .minus hds⟩
    · rename_i ds hskip
      obtain ⟨⟨n, left⟩, hn, hpair⟩ := map_eq_ok.1 hnumber
      cases hpair
      obtain ⟨ds, rfl, hds, -, rfl⟩ := exists_of_number hn
      exact ⟨a, '+' :: ds, by rw [hskip] at hcs; exact hcs, ha, .plus hds⟩
    · obtain ⟨⟨n, left⟩, hn, hpair⟩ := map_eq_ok.1 hnumber
      cases hpair
      obtain ⟨ds, hskip, hds, hlimit, rfl⟩ := exists_of_number hn
      exact ⟨a, ds, by rw [hskip] at hcs; exact hcs, ha, .unsigned hds (hlimit 4 rfl)⟩
  · cases h

theorem year_append {y : Int} {t : List Char} (ha : IsBlanks a) (ht : SpellsYear t y)
    (hfirst : firstYear ≤ y) (hlast : y ≤ lastYear) (hrest : EndsDigits rest) :
    year (a ++ (t ++ rest)) = .ok (y, rest) := by
  have hrange : -2147483648 ≤ y ∧ y ≤ 2147483647 := by
    simp only [firstYear, lastYear] at hfirst hlast
    omega
  have hsize : UInt64.size / 2 = 9223372036854775808 := rfl
  have hsmall : ∀ ds, (numeral ds : Int) = y ∨ -(numeral ds : Int) = y →
      numeral ds < UInt64.size / 2 := fun ds hy => by omega
  rw [year_eq]
  refine bind_eq_ok.2 ⟨(y, rest), ?_, if_pos hrange⟩
  unfold bareYear
  cases ht with
  | minus hds =>
    rw [List.cons_append, skipBlanks_append ha (by decide)]
    refine map_eq_ok.2 ⟨_, number_append hds nofun hrest (hsmall _ (.inr rfl)), rfl⟩
  | plus hds =>
    rw [List.cons_append, skipBlanks_append ha (by decide)]
    refine map_eq_ok.2 ⟨_, number_append hds nofun hrest (hsmall _ (.inl rfl)), rfl⟩
  | unsigned hds hshort =>
    have hlimit : ∀ l, some 4 = some l → t.length ≤ l := fun l hl => by
      cases hl
      exact hshort
    rw [skipBlanks_digits ha hds]
    have hread := number_append hds hlimit hrest (hsmall _ (.inl rfl))
    obtain ⟨c, cs, rfl, hc, -⟩ := hds.exists_cons
    rw [List.cons_append] at hread ⊢
    split
    · rename_i heq
      cases heq
      cases hc
    · rename_i heq
      cases heq
      cases hc
    · exact map_eq_ok.2 ⟨_, hread, rfl⟩

theorem hyphen_eq_ok : hyphen cs = .ok rest ↔ cs = '-' :: rest := by
  unfold hyphen
  split
  · exact ⟨nofun, nofun⟩
  · exact ⟨fun h => by rw [Except.ok.inj h], fun h => by cases h; rfl⟩
  · rename_i hne
    exact ⟨nofun, fun h => absurd h (hne rest)⟩

/-! ### Days -/

theorem isValid_iff {date : Date} : date.isValid = true ↔
    firstYear ≤ date.year ∧ date.year ≤ lastYear ∧ 1 ≤ date.month ∧ date.month ≤ 12 ∧
      1 ≤ date.day ∧ date.day ≤ daysInMonth date.year date.month := by
  simp only [Date.isValid, Bool.and_eq_true, decide_eq_true_eq, and_assoc]

theorem daysInMonth_le (year : Int) (month : Nat) : daysInMonth year month ≤ 31 := by
  unfold daysInMonth
  split_ifs <;> decide

/-- A text is read as a day exactly if it spells that day and the day exists. -/
theorem parse_eq_ok {s : String} {date : Date} :
    parse s = .ok date ↔ Spells s.toList date ∧ date.isValid = true := by
  constructor
  · intro h
    unfold parse at h
    obtain ⟨⟨y, afterYear⟩, hyear, h⟩ := bind_eq_ok.1 h
    obtain ⟨beforeMonth, hfirst, h⟩ := bind_eq_ok.1 h
    obtain ⟨⟨m, afterMonth⟩, hmonth, h⟩ := bind_eq_ok.1 h
    obtain ⟨beforeDay, hsecond, h⟩ := bind_eq_ok.1 h
    obtain ⟨⟨d, rest⟩, hday, h⟩ := bind_eq_ok.1 h
    obtain ⟨hrest, hdate⟩ := check_eq_ok.1 h
    obtain rfl := not_not.1 hrest
    split at hdate
    · rename_i hvalid
      cases pure_eq_ok.1 hdate
      obtain ⟨a, t, hs, ha, ht⟩ := exists_of_year hyear
      obtain rfl := hyphen_eq_ok.1 hfirst
      obtain ⟨b, u, rfl, hb, hu, -, -⟩ := exists_of_part hmonth
      obtain rfl := hyphen_eq_ok.1 hsecond
      obtain ⟨c, v, rfl, hc, hv, -, -⟩ := exists_of_part hday
      rw [List.append_nil] at hs
      rw [hs]
      exact ⟨.mk ha ht hb hu hc hv, hvalid⟩
    · cases hdate
  · rintro ⟨hspells, hvalid⟩
    generalize hs : s.toList = cs at hspells
    obtain ⟨ha, hy, hb, hm, hc, hd⟩ := hspells
    obtain ⟨hfirst, hlast, hone, htwelve, hfirstDay, hlastDay⟩ := isValid_iff.1 hvalid
    have hend : ∀ r, EndsDigits ('-' :: r) := fun r => rfl
    have hday := part_append hc hd hfirstDay (Nat.le_trans hlastDay (daysInMonth_le _ _))
      (Nat.le_refl 31) (show EndsDigits [] from rfl)
    rw [List.append_nil] at hday
    unfold parse
    rw [hs]
    refine bind_eq_ok.2 ⟨_, year_append ha hy hfirst hlast (hend _), ?_⟩
    refine bind_eq_ok.2 ⟨_, hyphen_eq_ok.2 rfl, ?_⟩
    refine bind_eq_ok.2 ⟨_, part_append hb hm hone htwelve (by decide) (hend _), ?_⟩
    refine bind_eq_ok.2 ⟨_, hyphen_eq_ok.2 rfl, ?_⟩
    refine bind_eq_ok.2 ⟨_, hday, ?_⟩
    exact check_eq_ok.2 ⟨not_not.2 rfl, if_pos hvalid⟩

/-! ### The usual form -/

variable {s : List Char}

theorem IsCanonical.plain (h : IsCanonical s) :
    s.length = 10 ∧ (∀ c ∈ s, Text.isBlank c = false) ∧ s.head? ≠ some '+' ∧
      s.head? ≠ some '-' := by
  obtain ⟨y, m, d, hy, hm, hd, hylength, hmlength, hdlength, rfl⟩ := h
  have hblank : ∀ {ds : List Char}, IsDigits ds → ∀ c ∈ ds, Text.isBlank c = false :=
    fun hds c hc => Text.isBlank_of_isDigit (hds.2 c hc)
  have hhyphen : Text.isBlank '-' = false := by decide
  refine ⟨?_, ?_, ?_⟩
  · simp only [List.length_append, List.length_cons]
    omega
  · rw [List.forall_mem_append, List.forall_mem_cons, List.forall_mem_append, List.forall_mem_cons]
    exact ⟨hblank hy, hhyphen, hblank hm, hhyphen, hblank hd⟩
  · obtain ⟨c, cs, rfl, hc, -⟩ := hy.exists_cons
    have hplus : c ≠ '+' := Text.ne_of_isDigit hc (by decide)
    have hminus : c ≠ '-' := Text.ne_of_isDigit hc (by decide)
    exact ⟨fun h => hplus (Option.some.inj h), fun h => hminus (Option.some.inj h)⟩

theorem eq_nil_of_blanks (ha : IsBlanks a) (h : ∀ c ∈ a, Text.isBlank c = false) : a = [] :=
  List.eq_nil_iff_forall_not_mem.2 fun c hc => Bool.eq_false_iff.1 (h c hc) (ha c hc)

/-- What is read as a day has the usual form unless it is shorter or longer, holds a blank or begins
with a sign. -/
theorem Spells.isCanonical_iff {date : Date} (h : Spells s date) :
    IsCanonical s ↔ s.length = 10 ∧ (∀ c ∈ s, Text.isBlank c = false) ∧ s.head? ≠ some '+' ∧
      s.head? ≠ some '-' := by
  refine ⟨IsCanonical.plain, fun ⟨hlength, hblank, hplus, hminus⟩ => ?_⟩
  obtain ⟨ha, hy, hb, hm, hc, hd⟩ := h
  simp only [List.forall_mem_append, List.forall_mem_cons] at hblank
  obtain ⟨hblankA, -, -, hblankB, -, -, hblankC, -⟩ := hblank
  obtain rfl := eq_nil_of_blanks ha hblankA
  obtain rfl := eq_nil_of_blanks hb hblankB
  obtain rfl := eq_nil_of_blanks hc hblankC
  obtain ⟨hmdigits, hmshort⟩ := hm
  obtain ⟨hddigits, hdshort⟩ := hd
  cases hy with
  | unsigned hydigits hyshort =>
    -- Ten characters are only reached if each number has all the digits it may have.
    simp only [List.nil_append, List.length_append, List.length_cons] at hlength
    exact ⟨_, _, _, hydigits, hmdigits, hddigits, by omega, by omega, by omega, by simp⟩
  | plus => exact absurd rfl hplus
  | minus => exact absurd rfl hminus

end Compliance.Calendar
