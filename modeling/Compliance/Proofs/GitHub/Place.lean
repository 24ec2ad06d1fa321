import Compliance.GitHub.Client
import Compliance.Proofs.Http.Url

/-!
Addresses of an interface: a scheme, an authority and a path of plain segments, with slashes at the
end or without. What is written behind such an address is read as written: the segments of the path
stand as they are, and neither a query nor a fragment begins in them.
-/

namespace Compliance

namespace Http.Url

/-! ### Segments that are kept as they are -/

def IsPlainSegment (s : String) : Prop :=
  s ≠ "" ∧ s ≠ "." ∧ s ≠ ".." ∧ ∀ c ∈ s.toList, isPlainChar c = true

variable {s : List Char}

/-- A text without a percent sign is literal. -/
theorem isLiteral_of_notMem (h : '%' ∉ s) : IsLiteral s := by
  rintro a b ⟨front, back, rfl⟩
  exact absurd (by simp) h

/-- A literal segment is a dot segment only if it looks like one. -/
theorem eq_of_isDotted (hs : IsLiteral s) (h : isDotted s = true) : s = ['.'] ∨ s = ['.', '.'] := by
  rw [← bytesOf_inj, ← bytesOf_inj, ← percentBytes_of_isLiteral hs]
  exact percentBytes_of_isDotted h

theorem isDotted_of_plain {t : String} (h : IsPlainSegment t) : isDotted t.toList = false := by
  obtain ⟨-, hdot, hdouble, hplain⟩ := h
  have hliteral : IsLiteral t.toList := isLiteral_of_notMem fun hmem =>
    ne_of_isPlainChar (hplain _ hmem) (by decide) rfl
  refine Bool.eq_false_iff.2 fun hdotted => ?_
  rcases eq_of_isDotted hliteral hdotted with ht | ht
  · exact hdot (String.toList_inj.1 ht)
  · exact hdouble (String.toList_inj.1 ht)

theorem isWrittenOut_of_plain {c : Char} (h : isPlainChar c = true) :
    isWrittenOut isEscapedInPath c = false := by
  have hall : ∀ n < 0x7F, isPlainChar (Char.ofNat n) = true →
      isWrittenOut isEscapedInPath (Char.ofNat n) = false := by decide
  exact of_forall_ofNat
    (fun c => isPlainChar c = true → isWrittenOut isEscapedInPath c = false) hall
    (toNat_lt_of_isPlainChar h) h

/-- Characters that are not written out stand as they are. -/
theorem escapeChars_eq_self {cs : List Char}
    (h : ∀ c ∈ cs, isWrittenOut isEscapedInPath c = false) :
    escapeChars isEscapedInPath cs = cs := by
  induction cs with
  | nil => rfl
  | cons c cs ih =>
    obtain ⟨hc, hcs⟩ := List.forall_mem_cons.1 h
    rw [escapeChars_cons, hc, ih hcs]
    rfl

theorem kept_of_plain {t : String} (h : ∀ c ∈ t.toList, isPlainChar c = true) :
    kept t.toList = t := by
  rw [kept, escapeChars_eq_self fun c hc => isWrittenOut_of_plain (h c hc), String.ofList_toList]

theorem not_control_of_plain {c : Char} (h : isPlainChar c = true) :
    isControlOrSpace c = false := by
  have hnone : ∀ n < 0x21, isPlainChar (Char.ofNat n) = false := by decide
  refine decide_eq_false fun hle => ?_
  rw [of_forall_ofNat (isPlainChar · = false) hnone (Nat.lt_succ_of_le hle)] at h
  cases h

end Http.Url

namespace GitHub

open Http Http.Url

/-! ### Addresses -/

/-- The address of an interface: a scheme, an authority and a path of plain segments. -/
structure Place where
  scheme : List Char
  authority : List Char
  path : List String
  letter : scheme.head?.any Char.isAlpha = true
  schemeChars : ∀ c ∈ scheme, isSchemeChar c = true
  told : authority ≠ []
  authorityChars : ∀ c ∈ authority, isAuthorityChar c = true
  plain : ∀ s ∈ path, IsPlainSegment s

def Place.schemeName (p : Place) : String := String.ofList (p.scheme.map Char.toLower)

def Place.base (p : Place) : List Char :=
  p.scheme ++ ':' :: '/' :: '/' :: (p.authority ++ p.path.flatMap fun s => '/' :: s.toList)

/-- The address with a number of slashes at its end. -/
def Place.text (p : Place) (slashes : Nat) : String :=
  String.ofList (p.base ++ List.replicate slashes '/')

/-! ### The path that is read -/

variable {path : List String} {rest : List Char}

def trail : List String → List Char → List Char
  | [], rest => rest
  | s :: ss, rest => s.toList ++ '/' :: trail ss rest

theorem flatMap_trail (path : List String) (rest : List Char) :
    (path.flatMap fun s => '/' :: s.toList) ++ '/' :: rest = '/' :: trail path rest := by
  induction path with
  | nil => rfl
  | cons s ss ih =>
    rw [List.flatMap_cons, List.append_assoc, ih]
    rfl

theorem unbroken_trail (hplain : ∀ s ∈ path, IsPlainSegment s) :
    unbroken (trail path rest) = trail path (unbroken rest) := by
  induction path with
  | nil => rfl
  | cons s ss ih =>
    obtain ⟨hs, hss⟩ := List.forall_mem_cons.1 hplain
    have hkept : unbroken s.toList = s.toList :=
      unbroken_of_not_control fun c hc => not_control_of_plain (hs.2.2.2 c hc)
    rw [trail, unbroken_append, hkept, unbroken_cons (by decide), ih hss]
    rfl

theorem pieces_trail (hplain : ∀ s ∈ path, IsPlainSegment s) :
    Text.pieces (isSlash .web) (trail path rest) =
      path.map String.toList ++ Text.pieces (isSlash .web) rest := by
  induction path with
  | nil => rfl
  | cons s ss ih =>
    obtain ⟨hs, hss⟩ := List.forall_mem_cons.1 hplain
    have hslash : ∀ c ∈ s.toList, isSlash .web c = false := fun c hc => by
      have hc := hs.2.2.2 c hc
      have hforward : c ≠ '/' := ne_of_isPlainChar hc (by decide)
      have hbackward : c ≠ '\\' := ne_of_isPlainChar hc (by decide)
      simp [isSlash, hforward, hbackward]
    rw [trail, Text.pieces_append_cons (by decide), Text.pieces_of_forall hslash, ih hss]
    rfl

theorem isTail_trail (hplain : ∀ s ∈ path, IsPlainSegment s) :
    (∀ c ∈ trail path rest, isTail c = false) ↔ ∀ c ∈ rest, isTail c = false := by
  induction path with
  | nil => rfl
  | cons s ss ih =>
    obtain ⟨hs, hss⟩ := List.forall_mem_cons.1 hplain
    have htail : ∀ c ∈ s.toList, isTail c = false := fun c hc => by
      have hc := hs.2.2.2 c hc
      have hquery : c ≠ '?' := ne_of_isPlainChar hc (by decide)
      have hhash : c ≠ '#' := ne_of_isPlainChar hc (by decide)
      simp [isTail, hquery, hhash]
    have hslash : isTail '/' = false := by decide
    rw [trail, List.forall_mem_append, List.forall_mem_cons, ih hss]
    exact ⟨fun h => h.2.2, fun h => ⟨htail, hslash, h⟩⟩

theorem exists_concat {s : List Char} (h : s ≠ []) : ∃ front d, s = front ++ [d] :=
  ⟨_, _, (List.dropLast_concat_getLast h).symm⟩

/-- The address does not end with a slash by itself. -/
theorem Place.exists_base (p : Place) : ∃ front d, p.base = front ++ [d] ∧ d ≠ '/' := by
  have hplain := p.plain
  rw [base]
  rcases List.eq_nil_or_concat p.path with hpath | ⟨ss, s, hpath⟩
  · obtain ⟨front, d, hauthority⟩ := exists_concat p.told
    have hd : d ≠ '/' := by
      rintro rfl
      exact absurd (p.authorityChars '/' (by rw [hauthority]; simp)) (by decide)
    exact ⟨p.scheme ++ ':' :: '/' :: '/' :: front, d, by simp [hpath, hauthority], hd⟩
  · rw [List.concat_eq_append] at hpath
    obtain ⟨hnonempty, -, -, hchars⟩ := hplain s (by rw [hpath]; simp)
    obtain ⟨front, d, hs⟩ := exists_concat fun h => hnonempty (String.toList_inj.1 h)
    have hd : d ≠ '/' := ne_of_isPlainChar (hchars d (by rw [hs]; simp)) (by decide)
    exact ⟨p.scheme ++ ':' :: '/' :: '/' :: (p.authority ++
      ((ss.flatMap fun s => '/' :: s.toList) ++ '/' :: front)), d, by simp [hpath, hs], hd⟩

/-- The slashes at the end of an address do not count. -/
theorem withoutSlashes_text (p : Place) (slashes : Nat) :
    withoutSlashes (p.text slashes) = String.ofList p.base := by
  obtain ⟨front, d, hbase, hd⟩ := p.exists_base
  have hslashes : ∀ c ∈ List.replicate slashes '/', (c == '/') = true := fun c hc => by
    rw [List.eq_of_mem_replicate hc]
    rfl
  have hdrop : (d :: front.reverse).dropWhile (fun c => c == '/') = d :: front.reverse :=
    List.dropWhile_cons_of_neg (by simpa using hd)
  rw [withoutSlashes, Place.text, String.toList_ofList, hbase, List.reverse_append,
    List.reverse_replicate, List.dropWhile_append_of_pos hslashes, List.reverse_append,
    List.reverse_singleton, List.singleton_append, hdrop, List.reverse_cons, List.reverse_reverse]

/-- The text of an address with a path behind it. -/
theorem Place.base_append (p : Place) (rest : List Char) :
    p.base ++ '/' :: rest =
      p.scheme ++ ':' :: '/' :: '/' :: (p.authority ++ '/' :: trail p.path rest) := by
  rw [base, List.append_assoc, List.cons_append, List.cons_append, List.cons_append,
    List.append_assoc, flatMap_trail]

theorem endsVisibly_trail (path : List String) (h : EndsVisibly ('/' :: rest)) :
    EndsVisibly ('/' :: trail path rest) := by
  rw [← flatMap_trail]
  exact h.append _

/-- A URL below the address is one of the server that is named by it, and its path is read from
what is written. -/
theorem Place.parse_append (p : Place) (hkind : kindOf p.schemeName = .web)
    (hend : EndsVisibly ('/' :: rest)) :
    Url.parse (String.ofList (p.base ++ '/' :: rest)) =
      (server p.schemeName p.authority).map (·.setPath [] (trail p.path (unbroken rest))) := by
  rw [base_append, parse_slash hkind p.letter p.schemeChars p.told p.authorityChars
    (endsVisibly_trail p.path hend), unbroken_trail p.plain, schemeName]

/-- What can be asked for below the address is below a server of a web scheme. -/
theorem Place.exists_of_parse {p : Place} {u : Url} (hend : EndsVisibly ('/' :: rest))
    (h : Url.parse (String.ofList (p.base ++ '/' :: rest)) = .ok u) (hu : u.isHttp = true) :
    ∃ v, server p.schemeName p.authority = .ok v ∧ kindOf v.scheme = .web ∧
      u = v.setPath [] (trail p.path (unbroken rest)) := by
  have hscheme : u.scheme = p.schemeName := by
    rw [base_append] at h
    exact scheme_of_parse p.letter p.schemeChars p.authorityChars
      (endsVisibly_trail p.path hend) h
  have hkind : kindOf p.schemeName = .web := hscheme ▸ kindOf_of_isHttp hu
  rw [p.parse_append hkind hend] at h
  obtain ⟨v, hv, rfl⟩ := map_eq_ok.1 h
  exact ⟨v, hv, by rw [scheme_of_server hv, hkind], rfl⟩

end GitHub

end Compliance
