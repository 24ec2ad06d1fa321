import Compliance.Proofs.GitHub.Asking
import Compliance.Proofs.GitHub.Place
import Compliance.Submission.Version
import Mathlib.Data.List.Forall2

/-!
What is asked for when a commit is looked up. The revision is encoded and the repository is not, so
the path that is asked for names both only as long as nothing in them has a meaning in a URL. That
is not only enough but needed: a path that lost anything on the way weighs too little to name both.
-/

namespace Compliance

namespace GitHub

open Http Http.Url

/-! ### What is asked for -/

def StandsFor (segment text : String) : Prop :=
  percentBytes segment.toList = Text.bytesOf text.toList

/-- Segments name a revision of a repository below a path: those behind the path stand for the
parts of the repository and for the revision. -/
def Names (path : List String) (repository revision : String) (segments : List String) : Prop :=
  ∃ names last, segments = path ++ "repos" :: (names ++ ["commits", last]) ∧
    List.Forall₂ StandsFor names (Text.splitAt '/' repository) ∧ StandsFor last revision

def AsksFor (path : List String) (repository revision : String) (u : Url) : Prop :=
  u.query = none ∧ u.fragment = none ∧
    ∃ segments, u.path = .segments segments ∧ Names path repository revision segments

/-- Nothing in a repository or a revision has a meaning in a URL. -/
structure IsInert (repository revision : String) : Prop where
  chars : ∀ c ∈ repository.toList, c ∉ ['?', '#', '\\', '\t', '\n', '\r']
  segments : ∀ s ∈ Text.splitAt '/' repository, s ≠ "." ∧ s ≠ ".." ∧ IsLiteral s.toList
  revision : revision ≠ "." ∧ revision ≠ ".."

/-! ### What is written -/

def asking (repository : List Char) (revision : String) : List Char :=
  "repos".toList ++ '/' :: (repository ++ '/' :: ("commits".toList ++
    '/' :: (percentEncode revision).toList))

def writtenSegments (path : List String) (repository : List Char) (revision : String) :
    List (List Char) :=
  path.map String.toList ++ "repos".toList :: (Text.pieces (isSlash .web) repository ++
    ["commits".toList, (percentEncode revision).toList])

theorem not_control_of_mem_percentEncode {s : String} {c : Char}
    (h : c ∈ (percentEncode s).toList) : isControlOrSpace c = false := by
  rcases of_mem_percentEncode h with rfl | hplain
  · rfl
  · exact not_control_of_plain hplain

/-- Nothing that is encoded is dropped. -/
theorem unbroken_percentEncode (s : String) :
    unbroken (percentEncode s).toList = (percentEncode s).toList :=
  unbroken_of_not_control fun _ hc => not_control_of_mem_percentEncode hc

/-- No query and no fragment begins in what is encoded. -/
theorem isTail_percentEncode (s : String) : ∀ c ∈ (percentEncode s).toList, isTail c = false := by
  intro c hc
  have hquery : c ≠ '?' := ne_of_mem_percentEncode hc (by decide) (by decide)
  have hhash : c ≠ '#' := ne_of_mem_percentEncode hc (by decide) (by decide)
  simp [isTail, hquery, hhash]

theorem unbroken_asking (repository : List Char) (revision : String) :
    unbroken (asking repository revision) = asking (unbroken repository) revision := by
  rw [asking, unbroken_append, unbroken_cons (by decide), unbroken_append,
    unbroken_cons (by decide), unbroken_append, unbroken_cons (by decide), unbroken_percentEncode,
    asking]
  rfl

/-- The text ends with the revision, or with the slash in front of it. -/
theorem endsVisibly_asking (repository : List Char) (revision : String) :
    EndsVisibly ('/' :: asking repository revision) := by
  have hend : EndsVisibly ('/' :: (percentEncode revision).toList) :=
    endsVisibly_of_not_control (List.cons_ne_nil _ _) <| List.forall_mem_cons.2
      ⟨by decide, fun c hc => not_control_of_mem_percentEncode hc⟩
  have hwhole := hend.append ('/' :: ("repos".toList ++ '/' :: (repository ++
    '/' :: "commits".toList)))
  rw [asking]
  simpa using hwhole

/-- A part of the text that is made of plain characters and percent signs is one piece. -/
theorem pieces_percentEncode (s : String) :
    Text.pieces (isSlash .web) (percentEncode s).toList = [(percentEncode s).toList] := by
  refine Text.pieces_of_forall fun c hc => ?_
  have hforward : c ≠ '/' := ne_of_mem_percentEncode hc (by decide) (by decide)
  have hbackward : c ≠ '\\' := ne_of_mem_percentEncode hc (by decide) (by decide)
  simp [isSlash, hforward, hbackward]

theorem pieces_asking (path : List String) (hplain : ∀ s ∈ path, IsPlainSegment s)
    (repository : List Char) (revision : String) :
    Text.pieces (isSlash .web) (trail path (asking repository revision)) =
      writtenSegments path repository revision := by
  have hrepos : Text.pieces (isSlash .web) "repos".toList = ["repos".toList] := by decide
  have hcommits : Text.pieces (isSlash .web) "commits".toList = ["commits".toList] := by decide
  rw [pieces_trail hplain, asking, Text.pieces_append_cons (by decide),
    Text.pieces_append_cons (by decide), Text.pieces_append_cons (by decide), hrepos, hcommits,
    pieces_percentEncode]
  rfl

/-- A query or a fragment can only begin in the repository. -/
theorem isTail_asking (repository : List Char) (revision : String) :
    (∀ c ∈ asking repository revision, isTail c = false) ↔ ∀ c ∈ repository, isTail c = false := by
  have hrepos : ∀ c ∈ "repos".toList, isTail c = false := by simp [isTail]
  have hcommits : ∀ c ∈ "commits".toList, isTail c = false := by simp [isTail]
  have hslash : isTail '/' = false := by decide
  rw [asking, List.forall_mem_append, List.forall_mem_cons, List.forall_mem_append,
    List.forall_mem_cons, List.forall_mem_append, List.forall_mem_cons]
  exact ⟨fun h => h.2.2.1, fun h => ⟨hrepos, hslash, h, hslash, hcommits, hslash, isTail_percentEncode revision⟩⟩

/-- What a URL asks for is said of the segments that are written, unless a query or a fragment
begins among them. -/
theorem asksFor_iff {v : Url} (hkind : kindOf v.scheme = .web) {path : List String}
    (hplain : ∀ s ∈ path, IsPlainSegment s) (written : List Char) (repository revision : String) :
    AsksFor path repository revision (v.setPath [] (trail path (asking written revision))) ↔
      (∀ c ∈ written, isTail c = false) ∧
        Names path repository revision
          (resolve .web [] (writtenSegments path written revision)) := by
  rw [AsksFor, ← and_assoc, setPath_tail, isTail_trail hplain, isTail_asking]
  refine and_congr_right fun htail => ?_
  have hall : ∀ c ∈ trail path (asking written revision), (!isTail c) = true := fun c hc => by
    rw [(isTail_trail hplain).2 ((isTail_asking written revision).2 htail) c hc]
    rfl
  rw [setPath_path hkind, List.takeWhile_eq_self_iff.2 hall, pieces_asking path hplain]
  exact ⟨fun ⟨segments, hsegments, h⟩ => by cases hsegments; exact h, fun h => ⟨_, rfl, h⟩⟩

theorem asksFor_withoutUser {path : List String} {repository revision : String} {u : Url} :
    AsksFor path repository revision u.withoutUser ↔ AsksFor path repository revision u := by
  rw [AsksFor, AsksFor, withoutUser_query, withoutUser_fragment, withoutUser_path]

/-! ### Nothing is lost if nothing has a meaning -/

variable {path : List String} {repository revision : String}

theorem undotted_of_revision (h : revision ≠ "." ∧ revision ≠ "..") :
    isDotted (percentEncode revision).toList = false := by
  refine Bool.eq_false_iff.2 fun hdotted => ?_
  have hbytes := percentBytes_of_isDotted hdotted
  rw [percentBytes_percentEncode] at hbytes
  rcases hbytes with hdot | hdouble
  · exact h.1 (String.toList_inj.1 (bytesOf_inj.1 (hdot.trans (by rfl))))
  · exact h.2 (String.toList_inj.1 (bytesOf_inj.1 (hdouble.trans (by rfl))))

/-- Without backslashes a text is cut at its slashes only. -/
theorem pieces_isSlash {cs : List Char} (h : '\\' ∉ cs) :
    Text.pieces (isSlash .web) cs = Text.pieces (· == '/') cs := by
  induction cs with
  | nil => rfl
  | cons c cs ih =>
    rw [List.mem_cons, not_or] at h
    have hsame : isSlash .web c = (c == '/') := by simp [isSlash, Ne.symm h.1]
    rw [Text.pieces, Text.pieces, hsame, ih h.2]

theorem map_kept_of_plain (h : ∀ s ∈ path, IsPlainSegment s) :
    (path.map String.toList).map kept = path := by
  have hsame : ∀ s ∈ path, kept s.toList = s := fun s hs => kept_of_plain (h s hs).2.2.2
  rw [List.map_map]
  exact (List.map_congr_left hsame).trans (List.map_id path)

/-- Segments that are all kept stand for what was written. -/
theorem resolve_writtenSegments (hplain : ∀ s ∈ path, IsPlainSegment s) {written : List Char}
    (h : ∀ s ∈ writtenSegments path written revision, isDotted s = false) :
    resolve .web [] (writtenSegments path written revision) =
      path ++ "repos" :: ((Text.pieces (isSlash .web) written).map kept ++
        ["commits", kept (percentEncode revision).toList]) := by
  rw [resolve_of_undotted h, writtenSegments, List.map_append, map_kept_of_plain hplain,
    List.map_cons, List.map_append]
  rfl

/-- A repository and a revision in which nothing has a meaning are named by what is written. -/
theorem names_of_isInert (hplain : ∀ s ∈ path, IsPlainSegment s)
    (h : IsInert repository revision) :
    Names path repository revision
      (resolve .web [] (writtenSegments path (unbroken repository.toList) revision)) := by
  have hbreaks : unbroken repository.toList = repository.toList :=
    List.filter_eq_self.2 fun c hc => by
      have hchars := h.chars c hc
      simp only [List.mem_cons, not_or] at hchars
      exact decide_eq_true ⟨hchars.2.2.2.1, hchars.2.2.2.2.1, hchars.2.2.2.2.2.1⟩
  have hbackslash : '\\' ∉ repository.toList := fun hmem => h.chars _ hmem (by simp)
  have hpieces := pieces_isSlash hbackslash
  have hliteral : ∀ p ∈ Text.pieces (isSlash .web) repository.toList, IsLiteral p := by
    intro p hp
    rw [hpieces] at hp
    simpa using (h.segments _ (List.mem_map_of_mem hp)).2.2
  have hparts : ∀ p ∈ Text.pieces (isSlash .web) repository.toList, isDotted p = false := by
    intro p hp
    have hp' := hp
    rw [hpieces] at hp'
    obtain ⟨hdot, hdouble, -⟩ := h.segments _ (List.mem_map_of_mem hp')
    refine Bool.eq_false_iff.2 fun hdotted => ?_
    rcases eq_of_isDotted (hliteral p hp) hdotted with rfl | rfl
    · exact hdot rfl
    · exact hdouble rfl
  have hundotted : ∀ s ∈ writtenSegments path repository.toList revision, isDotted s = false := by
    rw [writtenSegments, List.forall_mem_append, List.forall_mem_cons, List.forall_mem_append,
      List.forall_mem_cons, List.forall_mem_singleton]
    refine ⟨fun s hs => ?_, by decide, hparts, by decide, undotted_of_revision h.revision⟩
    obtain ⟨t, ht, rfl⟩ := List.mem_map.1 hs
    exact isDotted_of_plain (hplain t ht)
  rw [hbreaks]
  refine ⟨_, _, resolve_writtenSegments hplain hundotted, ?_, ?_⟩
  · rw [Text.splitAt, ← hpieces, List.forall₂_map_left_iff, List.forall₂_map_right_iff,
      List.forall₂_same]
    intro p hp
    rw [StandsFor, percentBytes_kept, String.toList_ofList,
      percentBytes_of_isLiteral (hliteral p hp)]
  · rw [StandsFor, percentBytes_kept, percentBytes_percentEncode]

/-! ### Nothing has a meaning if nothing is lost -/

theorem pathWeight_cons (s : String) (ss : List String) :
    pathWeight (s :: ss) = weigh s.toList + pathWeight ss :=
  weightOf_cons s.toList (ss.map String.toList)

/-- What stands for the parts of a text weighs as much as it has bytes, and one more. -/
theorem pathWeight_of_standsFor {names : List String}
    (h : List.Forall₂ StandsFor names (Text.splitAt '/' repository)) :
    pathWeight names = (Text.bytesOf repository.toList).length + 1 := by
  have hslash : ∀ c : Char, (c == '/') = true → c.toNat < 0x80 := by
    intro c hc
    rw [beq_iff_eq.1 hc]
    decide
  rw [← sum_length_pieces hslash]
  rw [Text.splitAt, List.forall₂_map_right_iff] at h
  generalize Text.pieces _ repository.toList = parts at h ⊢
  induction h with
  | nil => rfl
  | cons hn _ ih =>
    rw [StandsFor, String.toList_ofList] at hn
    rw [pathWeight_cons, weigh, hn, ih, List.map_cons, List.sum_cons]

theorem pathWeight_of_names {segments : List String}
    (h : Names path repository revision segments) :
    pathWeight segments = pathWeight path + weigh "repos".toList +
      ((Text.bytesOf repository.toList).length + 1) + weigh "commits".toList +
        weigh (percentEncode revision).toList := by
  obtain ⟨names, last, rfl, hnames, hlast⟩ := h
  have hrevision : weigh last.toList = weigh (percentEncode revision).toList := by
    rw [weigh, weigh, hlast, percentBytes_percentEncode]
  have hnil : pathWeight [] = 0 := rfl
  rw [pathWeight_append, pathWeight_cons, pathWeight_append, pathWeight_of_standsFor hnames,
    pathWeight_cons, pathWeight_cons, hrevision, hnil]
  omega

theorem weightOf_writtenSegments (path : List String) (written : List Char) (revision : String) :
    weightOf (writtenSegments path written revision) = pathWeight path + weigh "repos".toList +
      weightOf (Text.pieces (isSlash .web) written) + weigh "commits".toList +
        weigh (percentEncode revision).toList := by
  have hnil : weightOf [] = 0 := rfl
  rw [writtenSegments, weightOf_append, weightOf_cons, weightOf_append, weightOf_cons,
    weightOf_cons, hnil, pathWeight]
  omega

/-- If what is written names a repository and a revision, then no byte of them is lost. -/
theorem whole_of_names
    (h : Names path repository revision
      (resolve .web [] (writtenSegments path (unbroken repository.toList) revision))) :
    unbroken repository.toList = repository.toList ∧
      (∀ s ∈ writtenSegments path repository.toList revision, isDotted s = false) ∧
        ∀ p ∈ Text.pieces (isSlash .web) repository.toList, IsLiteral p := by
  have hslash : ∀ c : Char, isSlash .web c = true → c.toNat < 0x80 := by
    intro c hc
    simp only [isSlash, Bool.or_eq_true, Bool.and_eq_true, beq_iff_eq] at hc
    rcases hc with rfl | ⟨-, rfl⟩ <;> decide
  -- The weights of the pieces lie between those of all bytes and of the bytes that are left.
  have hweight := pathWeight_resolve [] (writtenSegments path (unbroken repository.toList) revision)
  rw [pathWeight_of_names h, weightOf_writtenSegments] at hweight
  have hnil : pathWeight [] = 0 := rfl
  have hpieces := weightOf_le (Text.pieces (isSlash .web) (unbroken repository.toList))
  have hsum := sum_length_pieces hslash (unbroken repository.toList)
  have hbytes := length_bytesOf_unbroken_le repository.toList
  have hwhole : unbroken repository.toList = repository.toList := unbroken_eq_self (by omega)
  rw [hwhole] at hweight hpieces hsum
  refine ⟨hwhole, ?_, isLiteral_of_weight (by omega)⟩
  cases hany : (writtenSegments path repository.toList revision).any isDotted with
  | true =>
    rw [hany, if_pos rfl] at hweight
    omega
  | false => simpa using List.any_eq_false.1 hany

theorem countP_isSlash (cs : List Char) :
    cs.countP (isSlash .web) = cs.countP (· == '/') + cs.countP (· == '\\') := by
  induction cs with
  | nil => rfl
  | cons c cs ih =>
    by_cases hforward : c = '/'
    · subst hforward
      rw [List.countP_cons_of_pos (by decide), List.countP_cons_of_pos (by decide),
        List.countP_cons_of_neg (by decide), ih]
      omega
    · have hnot : (c == '/') = false := beq_eq_false_iff_ne.2 hforward
      have hsame : isSlash .web c = (c == '\\') := by simp [isSlash, hforward]
      rw [List.countP_cons, List.countP_cons, List.countP_cons, hsame, hnot, ih,
        if_neg Bool.false_ne_true]
      omega

/-- Where there are as many names as segments no backslash has cut the repository. -/
theorem backslash_notMem_of_names (hplain : ∀ s ∈ path, IsPlainSegment s)
    (hundotted : ∀ s ∈ writtenSegments path repository.toList revision, isDotted s = false)
    (h : Names path repository revision
      (resolve .web [] (writtenSegments path repository.toList revision))) :
    '\\' ∉ repository.toList := by
  obtain ⟨names, last, hsegments, hnames, -⟩ := h
  rw [resolve_writtenSegments hplain hundotted] at hsegments
  have hlength := congrArg List.length hsegments
  have hparts := hnames.length_eq
  simp only [List.length_append, List.length_cons, List.length_nil, List.length_map,
    Text.length_pieces, countP_isSlash] at hlength
  rw [Text.splitAt, List.length_map, Text.length_pieces] at hparts
  intro hmem
  have hpos : 0 < repository.toList.countP (· == '\\') := List.countP_pos_iff.2 ⟨_, hmem, rfl⟩
  omega

/-- Nothing has a meaning in a repository and a revision that are named by what is written. -/
theorem isInert_of_names (hplain : ∀ s ∈ path, IsPlainSegment s)
    (htail : ∀ c ∈ unbroken repository.toList, isTail c = false)
    (h : Names path repository revision
      (resolve .web [] (writtenSegments path (unbroken repository.toList) revision))) :
    IsInert repository revision := by
  obtain ⟨hwhole, hundotted, hliteral⟩ := whole_of_names h
  rw [hwhole] at h htail
  have hbackslash := backslash_notMem_of_names hplain hundotted h
  have hpieces := pieces_isSlash hbackslash
  rw [writtenSegments, List.forall_mem_append, List.forall_mem_cons, List.forall_mem_append,
    List.forall_mem_cons, List.forall_mem_singleton] at hundotted
  obtain ⟨-, -, hparts, -, hrevision⟩ := hundotted
  refine ⟨fun c hc => ?_, fun s hs => ?_, ?_⟩
  · rw [← hwhole] at hc
    obtain ⟨htab, hfeed, hreturn⟩ := ne_break_of_mem_unbroken hc
    rw [hwhole] at hc
    have htail := htail c hc
    simp only [isTail, Bool.or_eq_false_iff, beq_eq_false_iff_ne] at htail
    have hback : c ≠ '\\' := fun heq => hbackslash (heq ▸ hc)
    simp [htail, hback, htab, hfeed, hreturn]
  · obtain ⟨p, hp, rfl⟩ := List.mem_map.1 hs
    rw [← hpieces] at hp
    have hundotted := hparts p hp
    refine ⟨?_, ?_, by simpa using hliteral p hp⟩ <;>
    · intro heq
      obtain rfl : p = _ := by simpa using congrArg String.toList heq
      cases hundotted
  · refine ⟨?_, ?_⟩ <;>
    · rintro rfl
      exact absurd hrevision (by decide)

end GitHub

end Compliance
