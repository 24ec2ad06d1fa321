import Compliance.Http.Url.Reader
import Compliance.Proofs.Http.Percent
import Mathlib.Algebra.Ring.Nat

/-!
How a path is resolved. Segments that are no dot segments are all kept, each written so that it
decodes as before. A dot segment costs the path at least one segment: if segments weigh one more
than the bytes they decode to, then a path weighs less than what it was read from as soon as there
is a dot segment in it.
-/

namespace Compliance

namespace Text

/-- There is one piece more than there are characters to cut at. -/
theorem length_pieces (sep : Char → Bool) (cs : List Char) :
    (pieces sep cs).length = cs.countP sep + 1 := by
  induction cs with
  | nil => rfl
  | cons c cs ih =>
    by_cases hc : sep c = true
    · rw [pieces, if_pos hc, List.length_cons, ih, List.countP_cons_of_pos hc]
    · obtain ⟨p, ps, hp⟩ := List.exists_cons_of_ne_nil (pieces_ne_nil sep cs)
      rw [hp, List.length_cons] at ih
      rw [pieces, if_neg hc, hp, List.length_cons, ih, List.countP_cons_of_neg hc]

end Text

namespace Http

/-! ### Weights -/

/-- The weight of a segment: one, and one for each byte that it decodes to. -/
def weigh (segment : List Char) : Nat := 1 + (percentBytes segment).length

def weightOf (segments : List (List Char)) : Nat := (segments.map weigh).sum

def pathWeight (names : List String) : Nat := weightOf (names.map String.toList)

/-- The weight that the segments of a text have if none of its bytes is lost. -/
theorem sum_length_pieces {sep : Char → Bool} (hsep : ∀ c, sep c = true → c.toNat < 0x80)
    (cs : List Char) :
    ((Text.pieces sep cs).map fun p => 1 + (Text.bytesOf p).length).sum =
      (Text.bytesOf cs).length + 1 := by
  induction cs with
  | nil => rfl
  | cons c cs ih =>
    rw [bytesOf_cons_eq, List.length_append, Text.pieces]
    by_cases hc : sep c = true
    · have hone : (Text.bytesOf [c]).length = 1 := by
        rw [← Char.ofNat_toNat c, bytesOf_ofNat (hsep c hc)]
        rfl
      rw [if_pos hc, List.map_cons, List.sum_cons, ih, hone]
      show 1 + 0 + _ = _
      omega
    · obtain ⟨p, ps, hp⟩ := List.exists_cons_of_ne_nil (Text.pieces_ne_nil sep cs)
      rw [if_neg hc, hp]
      rw [hp, List.map_cons, List.sum_cons] at ih
      simp only [List.map_cons, List.sum_cons, bytesOf_cons_eq c p, List.length_append]
      omega

theorem weightOf_cons (s : List Char) (ss : List (List Char)) :
    weightOf (s :: ss) = weigh s + weightOf ss := by
  rw [weightOf, List.map_cons, List.sum_cons, weightOf]

theorem weightOf_append (ss ts : List (List Char)) :
    weightOf (ss ++ ts) = weightOf ss + weightOf ts := by
  rw [weightOf, List.map_append, List.sum_append, weightOf, weightOf]

/-- Segments weigh no more than the bytes they are written with. -/
theorem weightOf_le (ss : List (List Char)) :
    weightOf ss ≤ (ss.map fun s => 1 + (Text.bytesOf s).length).sum := by
  induction ss with
  | nil => exact Nat.le_refl _
  | cons s ss ih =>
    have hs := length_percentBytes_le s
    rw [weightOf_cons, List.map_cons, List.sum_cons, weigh]
    omega

/-- Segments that weigh as much as they can are literal. -/
theorem isLiteral_of_weight {ss : List (List Char)}
    (h : (ss.map fun s => 1 + (Text.bytesOf s).length).sum ≤ weightOf ss) :
    ∀ s ∈ ss, IsLiteral s := by
  induction ss with
  | nil => exact nofun
  | cons s ss ih =>
    have hs := length_percentBytes_le s
    have hss := weightOf_le ss
    rw [weightOf_cons, List.map_cons, List.sum_cons, weigh] at h
    exact List.forall_mem_cons.2 ⟨isLiteral_of_length_le (by omega), ih (by omega)⟩

theorem pathWeight_append (above below : List String) :
    pathWeight (above ++ below) = pathWeight above + pathWeight below := by
  rw [pathWeight, List.map_append, weightOf_append, pathWeight, pathWeight]

namespace Url

/-! ### Dot segments -/

/-- A segment that is not written into the path. -/
def isDotted (s : List Char) : Bool := isDot s || isDoubleDot s

/-- Only a letter becomes another character. -/
theorem cases_toLower {c d : Char} (h : c.toLower = d) :
    c = d ∨ ∃ n < 0x5B, 0x41 ≤ n ∧ c = Char.ofNat n := by
  unfold Char.toLower at h
  split at h
  · rename_i hupper
    exact .inr ⟨c.toNat, Nat.lt_succ_of_le hupper.2, hupper.1, (Char.ofNat_toNat c).symm⟩
  · exact .inl h

theorem toLower_upper : ∀ n < 0x5B, 0x41 ≤ n → (Char.ofNat n).toLower ≠ '.' ∧
    (Char.ofNat n).toLower ≠ '%' ∧ (Char.ofNat n).toLower ≠ '2' ∧
      ((Char.ofNat n).toLower = 'e' → Char.ofNat n = 'E') := by
  decide

theorem eq_dot_of_toLower {c : Char} (h : c.toLower = '.') : c = '.' := by
  rcases cases_toLower h with hc | ⟨n, hn, hlow, rfl⟩
  · exact hc
  · exact absurd h (toLower_upper n hn hlow).1

/-- The three characters that stand for a dot. -/
theorem percentBytes_dot {a b c : Char} (ha : a.toLower = '%') (hb : b.toLower = '2')
    (hc : c.toLower = 'e') (rest : List Char) :
    percentBytes (a :: b :: c :: rest) = 0x2E :: percentBytes rest := by
  have ha : a = '%' := (cases_toLower ha).elim id fun ⟨n, hn, hlow, heq⟩ =>
    absurd (heq ▸ ha) (toLower_upper n hn hlow).2.1
  have hb : b = '2' := (cases_toLower hb).elim id fun ⟨n, hn, hlow, heq⟩ =>
    absurd (heq ▸ hb) (toLower_upper n hn hlow).2.2.1
  have hc : c = 'e' ∨ c = 'E' := (cases_toLower hc).imp id fun ⟨n, hn, hlow, heq⟩ =>
    heq ▸ (toLower_upper n hn hlow).2.2.2 (heq ▸ hc)
  rw [ha, hb]
  rcases hc with rfl | rfl
  · rw [percentBytes]
    rfl
  · rw [percentBytes]
    rfl

/-- A dot segment decodes to one dot or two of them, however it is written. -/
theorem percentBytes_of_isDotted {s : List Char} (h : isDotted s = true) :
    percentBytes s = [0x2E] ∨ percentBytes s = [0x2E, 0x2E] := by
  have hdot : ∀ {c rest}, Char.toLower c = '.' →
      percentBytes (c :: rest) = 0x2E :: percentBytes rest := fun {c rest} hc => by
    rw [eq_dot_of_toLower hc, percentBytes_cons (by decide)]
    rfl
  have hnil : percentBytes [] = [] := by rw [percentBytes]
  simp only [isDotted, isDot, isDoubleDot, Bool.or_eq_true, beq_iff_eq, List.map_eq_cons_iff,
    List.map_eq_nil_iff] at h
  rcases h with (⟨a, _, rfl, ha, rfl⟩ | ⟨a, _, rfl, ha, b, _, rfl, hb, c, _, rfl, hc, rfl⟩) |
    (((⟨a, _, rfl, ha, b, _, rfl, hb, rfl⟩ |
      ⟨d, _, rfl, hd, a, _, rfl, ha, b, _, rfl, hb, c, _, rfl, hc, rfl⟩) |
      ⟨a, _, rfl, ha, b, _, rfl, hb, c, _, rfl, hc, d, _, rfl, hd, rfl⟩) |
      ⟨a, _, rfl, ha, b, _, rfl, hb, c, _, rfl, hc, a', _, rfl, ha', b', _, rfl, hb', c', _, rfl,
        hc', rfl⟩)
  · exact .inl (by rw [hdot ha, hnil])
  · exact .inl (by rw [percentBytes_dot ha hb hc, hnil])
  · exact .inr (by rw [hdot ha, hdot hb, hnil])
  · exact .inr (by rw [hdot hd, percentBytes_dot ha hb hc, hnil])
  · exact .inr (by rw [percentBytes_dot ha hb hc, hdot hd, hnil])
  · exact .inr (by rw [percentBytes_dot ha hb hc, percentBytes_dot ha' hb' hc', hnil])

def kept (segment : List Char) : String := String.ofList (escapeChars isEscapedInPath segment)

theorem written_web (above : List String) (segment : List Char) :
    written .web above segment = kept segment := by
  rw [written, if_neg (by simp)]
  rfl

theorem isWrittenOut_ofNat : ∀ n < 0x67, (hexValue? (Char.ofNat n)).isSome →
    isWrittenOut isEscapedInPath (Char.ofNat n) = false := by
  decide

theorem keepsBytes_isEscapedInPath : KeepsBytes isEscapedInPath := by
  rintro c (rfl | hc)
  · rfl
  · exact of_forall_ofNat (fun c => (hexValue? c).isSome → isWrittenOut isEscapedInPath c = false)
      isWrittenOut_ofNat (toNat_lt_of_hexValue? hc) hc

/-- A segment decodes as it did before it was written. -/
theorem percentBytes_kept (segment : List Char) :
    percentBytes (kept segment).toList = percentBytes segment := by
  rw [kept, String.toList_ofList, percentBytes_escapeChars keepsBytes_isEscapedInPath]

theorem pathWeight_kept (segment : List Char) : pathWeight [kept segment] = weigh segment := by
  show 1 + (percentBytes (kept segment).toList).length + 0 = _
  rw [percentBytes_kept, weigh, Nat.add_zero]

/-! ### Resolving -/

def settled (above : List String) (s : List Char) : List String :=
  if isDoubleDot s then levelUp above else if isDot s then above else above ++ [kept s]

theorem settled_of_undotted {above : List String} {s : List Char} (h : isDotted s = false) :
    settled above s = above ++ [kept s] := by
  obtain ⟨hdot, hdouble⟩ := Bool.or_eq_false_iff.1 h
  rw [settled, hdouble, hdot]
  rfl

theorem resolve_cons (above : List String) (s t : List Char) (ts : List (List Char)) :
    resolve .web above (s :: t :: ts) = resolve .web (settled above s) (t :: ts) := by
  rw [resolve, settled, written_web]
  · split
    · rfl
    · split <;> rfl
  · exact nofun

/-- A dot segment at the end leaves an empty one. -/
theorem resolve_singleton (above : List String) (s : List Char) :
    resolve .web above [s] = settled above s ++ if isDotted s then [""] else [] := by
  rw [resolve, settled, isDotted, written_web]
  cases isDoubleDot s <;> cases isDot s <;> simp

/-- Without dot segments all segments are kept. -/
theorem resolve_of_undotted {above : List String} {ss : List (List Char)}
    (h : ∀ s ∈ ss, isDotted s = false) : resolve .web above ss = above ++ ss.map kept := by
  induction ss generalizing above with
  | nil => rw [resolve, List.map_nil, List.append_nil]
  | cons s ss ih =>
    obtain ⟨hs, hss⟩ := List.forall_mem_cons.1 h
    cases ss with
    | nil =>
      rw [resolve_singleton, settled_of_undotted hs, hs, List.map_singleton]
      exact List.append_nil _
    | cons t ts =>
      rw [resolve_cons, ih hss, settled_of_undotted hs, List.append_assoc]
      rfl

theorem pathWeight_levelUp_le (above : List String) :
    pathWeight (levelUp above) ≤ pathWeight above := by
  rw [levelUp]
  split
  · exact Nat.le_refl _
  · rcases List.eq_nil_or_concat above with rfl | ⟨names, s, rfl⟩
    · exact Nat.le_refl _
    · rw [List.concat_eq_append, List.dropLast_concat, pathWeight_append]
      exact Nat.le_add_right _ _

/-- A dot segment weighs more than the empty segment that it may leave. -/
theorem one_lt_weigh_of_isDotted {s : List Char} (h : isDotted s = true) : 1 < weigh s := by
  rw [weigh]
  rcases percentBytes_of_isDotted h with hbytes | hbytes <;> rw [hbytes] <;> decide

/-- A segment adds its weight to the path, and a dot segment nothing. -/
theorem pathWeight_settled (above : List String) (s : List Char) :
    pathWeight (settled above s) ≤ pathWeight above + if isDotted s then 0 else weigh s := by
  rw [settled, isDotted]
  cases hdouble : isDoubleDot s with
  | true =>
    rw [Bool.or_true]
    exact pathWeight_levelUp_le above
  | false =>
    cases hdot : isDot s with
    | true => exact Nat.le_refl _
    | false =>
      show pathWeight (above ++ [kept s]) ≤ pathWeight above + weigh s
      rw [pathWeight_append, pathWeight_kept]

theorem pathWeight_empty : pathWeight [""] = 1 := by
  show 1 + (percentBytes []).length + 0 = 1
  rw [percentBytes]
  rfl

/-- A path weighs at most what it was read from, and less if there was a dot segment in it. -/
theorem pathWeight_resolve (above : List String) (ss : List (List Char)) :
    pathWeight (resolve .web above ss) + (if ss.any isDotted then 1 else 0) ≤
      pathWeight above + weightOf ss := by
  induction ss generalizing above with
  | nil => exact Nat.le_refl _
  | cons s ss ih =>
    have hstep := pathWeight_settled above s
    rw [List.any_cons, weightOf_cons]
    cases ss with
    | nil =>
      rw [resolve_singleton, pathWeight_append, List.any_nil, Bool.or_false]
      cases hs : isDotted s with
      | true =>
        have hweigh := one_lt_weigh_of_isDotted hs
        rw [hs] at hstep
        simp only [if_true, pathWeight_empty] at hstep ⊢
        omega
      | false =>
        rw [hs] at hstep
        exact hstep
    | cons t ts =>
      have hmore := ih (settled above s)
      rw [resolve_cons]
      cases hs : isDotted s with
      | true =>
        have hweigh := one_lt_weigh_of_isDotted hs
        rw [hs] at hstep
        simp only [Bool.true_or, if_true] at hstep ⊢
        omega
      | false =>
        rw [hs] at hstep
        simp only [Bool.false_or, Bool.false_eq_true, if_false] at hstep ⊢
        omega

end Url

end Http

end Compliance
