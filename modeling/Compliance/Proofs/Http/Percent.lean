import Compliance.Http.Url.Path
import Compliance.Proofs.Http.Form

/-!
Percent signs in the segments of a path. A text loses bytes when it is decoded exactly if a percent
sign in it stands before two hexadecimal digits; what is written for a path decodes to the same
bytes as before, and a text that was encoded to its own.
-/

namespace Compliance.Http

def IsLiteral (cs : List Char) : Prop :=
  ∀ a b, ['%', a, b] <:+: cs → hexValue? a = none ∨ hexValue? b = none

variable {c : Char} {cs rest : List Char}

/-- What holds of all numbers below a bound holds of all characters below it. -/
theorem of_forall_ofNat (P : Char → Prop) {n : Nat} (h : ∀ m < n, P (Char.ofNat m))
    (hc : c.toNat < n) : P c := by
  have hofNat := h c.toNat hc
  rwa [Char.ofNat_toNat] at hofNat

/-! ### What is lost -/

theorem length_bytesOf_pos (c : Char) : 0 < (Text.bytesOf [c]).length := by
  obtain ⟨b, bs, hbytes, -⟩ := Text.firstChar_utf8EncodeChar c []
  rw [Text.bytesOf_cons, hbytes]
  exact Nat.succ_pos _

theorem bytesOf_append (cs ds : List Char) :
    Text.bytesOf (cs ++ ds) = Text.bytesOf cs ++ Text.bytesOf ds :=
  List.flatMap_append

theorem bytesOf_cons_eq (c : Char) (cs : List Char) :
    Text.bytesOf (c :: cs) = Text.bytesOf [c] ++ Text.bytesOf cs :=
  bytesOf_append [c] cs

theorem length_bytesOf_cons (c : Char) (cs : List Char) :
    (Text.bytesOf cs).length < (Text.bytesOf (c :: cs)).length := by
  have hpos := length_bytesOf_pos c
  rw [bytesOf_cons_eq, List.length_append]
  omega

/-- Each character that is left out costs at least a byte. -/
theorem length_bytesOf_of_sublist {cs ds : List Char} (h : cs.Sublist ds) :
    (Text.bytesOf cs).length + ds.length ≤ (Text.bytesOf ds).length + cs.length := by
  induction h with
  | slnil => exact Nat.le_refl _
  | @cons cs ds c _ ih =>
    have hcons := length_bytesOf_cons c ds
    rw [List.length_cons]
    omega
  | @cons_cons cs ds c _ ih =>
    rw [bytesOf_cons_eq c cs, bytesOf_cons_eq c ds, List.length_append, List.length_append,
      List.length_cons, List.length_cons]
    omega

theorem bytesOf_inj {cs ds : List Char} : Text.bytesOf cs = Text.bytesOf ds ↔ cs = ds := by
  refine ⟨fun h => ?_, congrArg _⟩
  rw [← Text.decodeBytes_bytesOf cs, h, Text.decodeBytes_bytesOf]

theorem length_percentBytes_le (cs : List Char) :
    (percentBytes cs).length ≤ (Text.bytesOf cs).length := by
  fun_induction percentBytes cs with
  | case1 => exact Nat.zero_le _
  | case2 a b rest x y hb ha ih =>
    have hpercent := length_bytesOf_cons '%' (a :: b :: rest)
    have ha := length_bytesOf_cons a (b :: rest)
    have hb := length_bytesOf_cons b rest
    rw [List.length_cons]
    omega
  | case3 a b rest _ ih =>
    rw [bytesOf_cons_eq '%' (a :: b :: rest), List.length_append, List.length_append]
    omega
  | case4 c rest _ ih =>
    rw [bytesOf_cons_eq c rest, List.length_append, List.length_append]
    omega

theorem IsLiteral.tail (h : IsLiteral (c :: cs)) : IsLiteral cs := fun a b hinfix =>
  h a b (List.infix_cons hinfix)

theorem percentBytes_of_isLiteral (h : IsLiteral cs) : percentBytes cs = Text.bytesOf cs := by
  fun_induction percentBytes cs with
  | case1 => rfl
  | case2 a b rest x y hb ha ih =>
    have hnot := h a b ⟨[], rest, rfl⟩
    rw [ha, hb] at hnot
    exact absurd hnot (by simp)
  | case3 a b rest _ ih => rw [ih h.tail, ← bytesOf_cons_eq]
  | case4 c rest _ ih => rw [ih h.tail, ← bytesOf_cons_eq]

/-- A text of which nothing is lost has nothing in it that stands for a byte. -/
theorem isLiteral_of_length_le (h : (Text.bytesOf cs).length ≤ (percentBytes cs).length) :
    IsLiteral cs := by
  fun_induction percentBytes cs with
  | case1 => exact fun a b hinfix => absurd (List.eq_nil_of_infix_nil hinfix) nofun
  | case2 a b rest x y hb ha ih =>
    have hpercent := length_bytesOf_cons '%' (a :: b :: rest)
    have ha := length_bytesOf_cons a (b :: rest)
    have hb := length_bytesOf_cons b rest
    have hrest := length_percentBytes_le rest
    rw [List.length_cons] at h
    omega
  | case3 a b rest hnot ih =>
    rw [bytesOf_cons_eq '%' (a :: b :: rest), List.length_append, List.length_append] at h
    intro a' b' hinfix
    rcases List.infix_cons_iff.1 hinfix with ⟨more, hmore⟩ | hinfix
    · cases hmore
      cases hx : hexValue? a with
      | none => exact .inl rfl
      | some x =>
        cases hy : hexValue? b with
        | none => exact .inr rfl
        | some y => exact absurd hy (hnot x y hx)
    · exact ih (by omega) a' b' hinfix
  | case4 c rest hnot ih =>
    rw [bytesOf_cons_eq c rest, List.length_append, List.length_append] at h
    intro a' b' hinfix
    rcases List.infix_cons_iff.1 hinfix with ⟨more, hmore⟩ | hinfix
    · cases hmore
      exact absurd rfl (hnot a' b' more rfl)
    · exact ih (by omega) a' b' hinfix

/-! ### What is written for a path -/

def StartsByte (cs : List Char) : Prop :=
  ∃ a b rest, cs = a :: b :: rest ∧ (hexValue? a).isSome ∧ (hexValue? b).isSome

/-- A percent sign that stands before no byte stands for itself. -/
theorem percentBytes_percent (h : ¬ StartsByte cs) :
    percentBytes ('%' :: cs) = Text.bytesOf ['%'] ++ percentBytes cs := by
  rw [percentBytes.eq_def]
  split
  · rename_i heq
    cases heq
  · rename_i a b rest heq
    cases heq
    split
    · rename_i x y hx hy
      exact absurd ⟨a, b, rest, rfl, by rw [hx]; rfl, by rw [hy]; rfl⟩ h
    · rfl
  · rename_i heq
    cases heq
    rfl

/-- A byte that is written out stands for itself, whatever follows. -/
theorem percentBytes_flatMap (bs : List UInt8) (rest : List Char) :
    percentBytes (bs.flatMap percentByte ++ rest) = bs ++ percentBytes rest := by
  induction bs with
  | nil => rfl
  | cons b bs ih =>
    rw [List.flatMap_cons, List.append_assoc, percentBytes_percentByte, ih, List.cons_append]

def isWrittenOut (escaped : Char → Bool) (c : Char) : Bool :=
  c.toNat < 0x20 || 0x7F ≤ c.toNat || escaped c

theorem escapeChars_cons (escaped : Char → Bool) (c : Char) (cs : List Char) :
    escapeChars escaped (c :: cs) =
      (if isWrittenOut escaped c then (Text.bytesOf [c]).flatMap percentByte else [c]) ++
        escapeChars escaped cs := rfl

variable {escaped : Char → Bool}

/-- What is written out begins with a percent sign. -/
theorem exists_writtenOut (c : Char) (rest : List Char) :
    ∃ more, (Text.bytesOf [c]).flatMap percentByte ++ rest = '%' :: more := by
  obtain ⟨b, bs, hbytes, -⟩ := Text.firstChar_utf8EncodeChar c []
  rw [Text.bytesOf_cons, hbytes]
  exact ⟨_, rfl⟩

/-- Digits are not written out, and nothing that is written out begins with one. -/
theorem startsByte_escapeChars (h : StartsByte (escapeChars escaped cs)) : StartsByte cs := by
  have hpercent : ∀ {a : Char} {rest more : List Char}, (hexValue? a).isSome →
      a :: rest ≠ '%' :: more := by
    rintro a rest more ha ⟨⟩
    cases ha
  obtain ⟨a, b, rest, heq, ha, hb⟩ := h
  cases cs with
  | nil => cases heq
  | cons c cs =>
    rw [escapeChars_cons] at heq
    by_cases hc : isWrittenOut escaped c = true
    · rw [if_pos hc] at heq
      obtain ⟨more, hmore⟩ := exists_writtenOut c (escapeChars escaped cs)
      exact absurd (heq.symm.trans hmore) (hpercent ha)
    · rw [if_neg hc] at heq
      obtain ⟨rfl, hcs⟩ := List.cons.inj heq
      cases cs with
      | nil => cases hcs
      | cons d ds =>
        rw [escapeChars_cons] at hcs
        by_cases hd : isWrittenOut escaped d = true
        · rw [if_pos hd] at hcs
          obtain ⟨more, hmore⟩ := exists_writtenOut d (escapeChars escaped ds)
          exact absurd (hcs.symm.trans hmore) (hpercent hb)
        · rw [if_neg hd] at hcs
          obtain ⟨rfl, -⟩ := List.cons.inj hcs
          exact ⟨c, d, ds, rfl, ha, hb⟩

theorem toNat_lt_of_hexValue? (h : (hexValue? c).isSome) : c.toNat < 0x67 := by
  unfold hexValue? at h
  split at h
  · rename_i hc
    exact Nat.lt_of_le_of_lt (show c.toNat ≤ '9'.toNat from hc.2) (by decide)
  · split at h
    · rename_i hc
      exact Nat.lt_of_le_of_lt (show c.toNat ≤ 'f'.toNat from hc.2) (by decide)
    · split at h
      · rename_i hc
        exact Nat.lt_of_le_of_lt (show c.toNat ≤ 'F'.toNat from hc.2) (by decide)
      · cases h

/-- A percent sign and digits are left as they are. -/
def KeepsBytes (escaped : Char → Bool) : Prop :=
  ∀ c, (c = '%' ∨ (hexValue? c).isSome) → isWrittenOut escaped c = false

/-- What is written for a text decodes to the same bytes as the text. -/
theorem percentBytes_escapeChars (hkeeps : KeepsBytes escaped) (cs : List Char) :
    percentBytes (escapeChars escaped cs) = percentBytes cs := by
  have hkept : ∀ {c}, (c = '%' ∨ (hexValue? c).isSome) → ∀ ds,
      escapeChars escaped (c :: ds) = c :: escapeChars escaped ds := fun hc ds => by
    rw [escapeChars_cons, hkeeps _ hc]
    rfl
  fun_induction percentBytes cs with
  | case1 => rw [escapeChars, List.flatMap_nil, percentBytes]
  | case2 a b rest x y hb ha ih =>
    rw [hkept (.inl rfl), hkept (.inr (by rw [ha]; rfl)), hkept (.inr (by rw [hb]; rfl)),
      percentBytes]
    simp only [ha, hb, ih]
  | case3 a b rest hnot ih =>
    have hstarts : ¬ StartsByte (a :: b :: rest) := by
      rintro ⟨_, _, _, ⟨⟩, ha, hb⟩
      obtain ⟨x, hx⟩ := Option.isSome_iff_exists.1 ha
      obtain ⟨y, hy⟩ := Option.isSome_iff_exists.1 hb
      exact hnot x y hx hy
    rw [hkept (.inl rfl), percentBytes_percent fun h => hstarts (startsByte_escapeChars h), ih]
  | case4 c rest hnot ih =>
    by_cases hc : c = '%'
    · subst hc
      have hstarts : ¬ StartsByte rest := by
        rintro ⟨a, b, more, rfl, -, -⟩
        exact hnot a b more rfl rfl
      rw [hkept (.inl rfl), percentBytes_percent fun h => hstarts (startsByte_escapeChars h), ih]
    · rw [escapeChars_cons]
      by_cases hout : isWrittenOut escaped c = true
      · rw [if_pos hout, percentBytes_flatMap, ih]
      · rw [if_neg hout, List.singleton_append, percentBytes_cons hc, ih]

/-! ### What is encoded -/

def isPlainChar (c : Char) : Bool :=
  c.isAlphanum || c == '-' || c == '.' || c == '_' || c == '~'

theorem ne_of_isPlainChar {d : Char} (h : isPlainChar c = true) (hd : isPlainChar d = false) :
    c ≠ d := by
  rintro rfl
  rw [h] at hd
  cases hd

theorem toNat_lt_of_isPlainChar (h : isPlainChar c = true) : c.toNat < 0x7F := by
  have hle : ∀ {d : Char}, c.val ≤ d.val → d.toNat < 0x7F → c.toNat < 0x7F := fun h hd =>
    Nat.lt_of_le_of_lt h hd
  have heq : ∀ {d : Char}, (c == d) = true → d.toNat < 0x7F → c.toNat < 0x7F := fun h hd =>
    beq_iff_eq.1 h ▸ hd
  simp only [isPlainChar, Bool.or_eq_true] at h
  rcases h with (((hletter | h) | h) | h) | h
  · rcases Bool.or_eq_true_iff.1 hletter with halpha | hdigit
    · rcases Bool.or_eq_true_iff.1 halpha with hupper | hlower
      · exact hle (of_decide_eq_true hupper).2 (by decide)
      · exact hle (of_decide_eq_true (Bool.and_eq_true_iff.1 hlower).2) (by decide)
    · exact hle (of_decide_eq_true (Bool.and_eq_true_iff.1 hdigit).2) (by decide)
  · exact heq h (by decide)
  · exact heq h (by decide)
  · exact heq h (by decide)
  · exact heq h (by decide)

theorem isPlainChar_ofNat : ∀ n < 256, isUnreserved (UInt8.ofNat n) = true →
    n < 0x80 ∧ isPlainChar (Char.ofNat n) = true := by
  decide +kernel

theorem isPlainChar_of_isUnreserved {b : UInt8} (h : isUnreserved b = true) :
    b.toNat < 0x80 ∧ isPlainChar (Char.ofNat b.toNat) = true :=
  isPlainChar_ofNat b.toNat b.toNat_lt (by rwa [UInt8.ofNat_toNat])

theorem isPlainChar_upperHex : ∀ n < 16, isPlainChar (upperHex n) = true := by decide

theorem toList_percentEncode (s : String) :
    (percentEncode s).toList = escapeBytes isUnreserved (Text.bytesOf s.toList) :=
  String.toList_ofList

/-- A text is read as it was before it was encoded. -/
theorem percentBytes_percentEncode (s : String) :
    percentBytes (percentEncode s).toList = Text.bytesOf s.toList := by
  rw [toList_percentEncode, escapeBytes]
  induction Text.bytesOf s.toList with
  | nil => rw [List.flatMap_nil, percentBytes]
  | cons b bs ih =>
    rw [List.flatMap_cons]
    by_cases hb : isUnreserved b = true
    · obtain ⟨hascii, hplain⟩ := isPlainChar_of_isUnreserved hb
      rw [if_pos hb, List.singleton_append,
        percentBytes_cons (ne_of_isPlainChar hplain (by decide)), bytesOf_ofNat hascii, ih,
        UInt8.ofNat_toNat, List.singleton_append]
    · rw [if_neg hb, percentBytes_percentByte, ih]

/-- What is encoded is made of plain characters and percent signs. -/
theorem of_mem_percentEncode {s : String} (h : c ∈ (percentEncode s).toList) :
    c = '%' ∨ isPlainChar c = true := by
  rw [toList_percentEncode, escapeBytes] at h
  obtain ⟨b, -, hc⟩ := List.mem_flatMap.1 h
  by_cases hb : isUnreserved b = true
  · rw [if_pos hb] at hc
    obtain rfl := List.mem_singleton.1 hc
    exact .inr (isPlainChar_of_isUnreserved hb).2
  · have hlt : b.toNat < 256 := b.toNat_lt
    rw [if_neg hb] at hc
    simp only [percentByte, List.mem_cons, List.not_mem_nil, or_false] at hc
    rcases hc with rfl | rfl | rfl
    · exact .inl rfl
    · exact .inr (isPlainChar_upperHex _ (by omega))
    · exact .inr (isPlainChar_upperHex _ (by omega))

/-- No character of an encoded text is one that has a meaning in a URL. -/
theorem ne_of_mem_percentEncode {s : String} {d : Char} (h : c ∈ (percentEncode s).toList)
    (hd : d ≠ '%') (hplain : isPlainChar d = false) : c ≠ d := by
  rcases of_mem_percentEncode h with rfl | hc
  · exact hd.symm
  · exact ne_of_isPlainChar hc hplain

end Compliance.Http
