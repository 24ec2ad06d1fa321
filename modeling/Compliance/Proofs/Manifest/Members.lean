import Compliance.Proofs.Manifest.Forms

/-!
The members of a record in object form. What the members read so far and those to come give to each
field is the same throughout, and a field has room for one text only; so a reader that keeps what it
has read so far agrees with counting the members of a name.
-/

namespace Compliance.Manifest

open Json

structure Entry extends Member where
  key : String
  spelled : Spelled name key.toList

def valuesOf (key : String) (es : List Entry) : List (List Char) :=
  (es.filter fun e => e.key = key).map fun e => e.value

variable {s rest : List Char} {d : Dependency} {p p' : Partial}

/-! ### What the members give -/

/-- The members bring the record from one state to another: to each field, what was there before
and what they give to it is what is there then, and a field has room for one text. -/
def Adds (p : Partial) (es : List Entry) (p' : Partial) : Prop :=
  ∀ f : Field, ∃ texts, List.Forall₂ Quoted (valuesOf f.name es) texts ∧
    (p.get? f).toList ++ texts = (p'.get? f).toList

theorem Partial.ext_get? {p p' : Partial} (h : ∀ f, p.get? f = p'.get? f) : p = p' := by
  obtain ⟨root, revision, version⟩ := p
  obtain ⟨root', revision', version'⟩ := p'
  have hroot : root = root' := h .root
  have hrevision : revision = revision' := h .revision
  have hversion : version = version' := h .version
  rw [hroot, hrevision, hversion]

theorem Partial.get?_set (p : Partial) (v : String) (f g : Field) :
    (p.set v f).get? g = if g = f then some v else p.get? g := by
  cases f <;> cases g <;> rfl

theorem ofName?_name (f : Field) : Field.ofName? f.name = some f := by
  cases f <;> decide

theorem ofName?_eq_some {name : String} {f : Field} :
    Field.ofName? name = some f ↔ name = f.name := by
  constructor
  · intro h
    unfold Field.ofName? at h
    split at h
    · rename_i heq
      cases h
      exact heq
    · split at h
      · rename_i heq
        cases h
        exact heq
      · split at h
        · rename_i heq
          cases h
          exact heq
        · cases h
  · rintro rfl
    exact ofName?_name f

theorem valuesOf_cons (key : String) (e : Entry) (es : List Entry) :
    valuesOf key (e :: es) =
      if e.key = key then e.value :: valuesOf key es else valuesOf key es := by
  rw [valuesOf, List.filter_cons]
  by_cases h : e.key = key
  · simp [h, valuesOf]
  · simp [h, valuesOf]

theorem adds_nil : Adds p [] p' ↔ p = p' := by
  constructor
  · intro h
    refine Partial.ext_get? fun f => ?_
    obtain ⟨texts, htexts, hsum⟩ := h f
    obtain rfl := List.forall₂_nil_left_iff.1 htexts
    rw [List.append_nil] at hsum
    exact Option.ext fun x => by rw [← Option.mem_toList, hsum, Option.mem_toList]
  · rintro rfl f
    exact ⟨[], .nil, List.append_nil _⟩

theorem adds_other {e : Entry} {es : List Entry} (he : Field.ofName? e.key = none) :
    Adds p (e :: es) p' ↔ Adds p es p' := by
  refine forall_congr' fun f => ?_
  have hne : e.key ≠ f.name := fun heq => by rw [ofName?_eq_some.2 heq] at he; cases he
  rw [valuesOf_cons, if_neg hne]

/-- A field that is given must be free, and holds its text from then on. -/
theorem adds_known {e : Entry} {es : List Entry} {f : Field} (he : e.key = f.name) :
    Adds p (e :: es) p' ↔
      p.get? f = none ∧ ∃ x, Quoted e.value x ∧ Adds (p.set x f) es p' := by
  have hname : ∀ g : Field, e.key = g.name ↔ g = f := fun g => by
    rw [← ofName?_eq_some, he, ofName?_name, Option.some_inj]
    exact eq_comm
  constructor
  · intro h
    obtain ⟨texts, htexts, hsum⟩ := h f
    rw [valuesOf_cons, if_pos he] at htexts
    obtain ⟨x, xs, hx, hxs, rfl⟩ := List.forall₂_cons_left_iff.1 htexts
    -- A field has room for one text, so that nothing was there and nothing is to come.
    have hlength : (p.get? f).toList.length + (xs.length + 1) ≤ 1 := by
      rw [← List.length_cons, ← List.length_append, hsum]
      exact Option.length_toList_le
    have hfree : p.get? f = none := Option.length_toList_eq_zero_iff.1 (by omega)
    obtain rfl : xs = [] := List.eq_nil_of_length_eq_zero (by omega)
    refine ⟨hfree, x, hx, fun g => ?_⟩
    rw [Partial.get?_set]
    by_cases hg : g = f
    · subst hg
      rw [hfree] at hsum
      rw [if_pos rfl]
      exact ⟨[], hxs, hsum⟩
    · obtain ⟨texts, htexts, hsum⟩ := h g
      rw [valuesOf_cons, if_neg fun heq => hg ((hname g).1 heq)] at htexts
      rw [if_neg hg]
      exact ⟨texts, htexts, hsum⟩
  · rintro ⟨hfree, x, hx, h⟩ g
    obtain ⟨texts, htexts, hsum⟩ := h g
    rw [valuesOf_cons]
    rw [Partial.get?_set] at hsum
    by_cases hg : g = f
    · subst hg
      rw [if_pos he]
      rw [if_pos rfl] at hsum
      exact ⟨x :: texts, .cons hx htexts, by rw [hfree]; exact hsum⟩
    · rw [if_neg fun heq => hg ((hname g).1 heq)]
      rw [if_neg hg] at hsum
      exact ⟨texts, htexts, hsum⟩

/-! ### What the reader does with them -/

/-- The value of a member is read only where the member may be added. -/
theorem exists_of_memberValue {key : String} {p₁ : Partial}
    (h : Reads (memberValue p key s) p₁ rest) :
    ∃ before behind value, IsSpace before ∧ IsSpace behind ∧ IsValue value ∧
      s = before ++ ':' :: (behind ++ (value ++ rest)) ∧
      ∀ (e : Entry) (es : List Entry) (p' : Partial), e.key = key → e.value = value →
        Adds p₁ es p' → Adds p (e :: es) p' := by
  cases hname : Field.ofName? key with
  | none =>
    obtain ⟨q, hcolon, hskip, rfl⟩ := (reads_memberValue_other hname).1 h
    obtain ⟨before, hbefore, rfl⟩ := exists_space hcolon
    obtain ⟨behind, v, hbehind, hv, rfl⟩ := isPassed_of_skipValue hskip
    refine ⟨before, behind, v, hbefore, hbehind, hv, rfl, ?_⟩
    rintro e es p' rfl - hadds
    exact (adds_other hname).2 hadds
  | some f =>
    obtain ⟨hfree, q, x, hcolon, htext, rfl⟩ := (reads_memberValue_known hname).1 h
    obtain ⟨before, hbefore, rfl⟩ := exists_space hcolon
    obtain ⟨behind, v, hbehind, hx, rfl⟩ := reads_text.1 htext
    refine ⟨before, behind, v, hbefore, hbehind, hx.isValue, rfl, ?_⟩
    rintro e es p' rfl rfl hadds
    exact (adds_known (ofName?_eq_some.1 hname)).2 ⟨hfree, x, hx, hadds⟩

/-- The value of a member that may be added is read. -/
theorem memberValue_of_adds {e : Entry} {es : List Entry} (hvalue : IsValue e.value)
    (hadds : Adds p (e :: es) p') (hrest : EndsNumber rest) :
    ∃ p₁, Reads (memberValue p e.key (e.before ++ ':' :: (e.behind ++ (e.value ++ rest)))) p₁ rest ∧
      Adds p₁ es p' := by
  have hcolon : skipSpace (e.before ++ ':' :: (e.behind ++ (e.value ++ rest))) =
      ':' :: (e.behind ++ (e.value ++ rest)) :=
    skipSpace_append_cons e.spaceBefore (by decide) _
  cases hname : Field.ofName? e.key with
  | none =>
    have hskip : Reads (skipValue (e.behind ++ (e.value ++ rest))) () rest :=
      isSkipped_of_isValue hvalue e.behind rest e.spaceBehind hrest
    exact ⟨p, (reads_memberValue_other hname).2 ⟨_, hcolon, hskip, rfl⟩, (adds_other hname).1 hadds⟩
  | some f =>
    obtain ⟨hfree, x, hx, hmore⟩ := (adds_known (ofName?_eq_some.1 hname)).1 hadds
    have htext : Reads (text (e.behind ++ (e.value ++ rest))) x rest :=
      reads_text.2 ⟨e.behind, e.value, e.spaceBehind, hx, rfl⟩
    exact ⟨p.set x f, (reads_memberValue_known hname).2 ⟨hfree, _, x, hcolon, htext, rfl⟩, hmore⟩

/-- The members of a record, from behind the quote of the first one to behind the brace. -/
theorem exists_of_recordMembers (h : Reads (recordMembers p s) d rest) :
    ∃ (es : List Entry) (body : List Char) (p' : Partial), '"' :: s = body ++ '}' :: rest ∧
      Separated (es.map fun e => e.text) body ∧ (∀ e ∈ es, IsValue e.value) ∧ Adds p es p' ∧
      p'.finish? = some d := by
  induction hn : s.length using Nat.strongRecOn generalizing s p with
  | ind n ih =>
    subst hn
    obtain ⟨key, more, p₁, q, hkey, hvalue, hmore⟩ := reads_recordMembers.1 h
    obtain ⟨name, rfl, hspelled⟩ := reads_stringBody.1 hkey
    obtain ⟨before, behind, v, hbefore, hbehind, hv, rfl, hadds⟩ := exists_of_memberValue hvalue
    let e : Entry := ⟨⟨name, before, behind, v, hbefore, hbehind⟩, String.ofList key, by simpa⟩
    rcases hmore with ⟨hclose, hfinish⟩ | ⟨r, r', hcomma, hquote, hread⟩
    · obtain ⟨b, hb, rfl⟩ := exists_space hclose
      have hparts : Separated [e.text] ([] ++ (e.text ++ b)) := .last (by simp [IsSpace]) hb
      refine ⟨[e], e.text ++ b, p₁, ?_, hparts, ?_, hadds e [] p₁ rfl rfl (adds_nil.2 rfl), hfinish⟩
      · rw [List.append_assoc, Member.text_append]
      · rintro _ he
        rwa [List.mem_singleton.1 he]
    · obtain ⟨b, hb, rfl⟩ := exists_space hcomma
      obtain ⟨a, ha, rfl⟩ := exists_space hquote
      have hlt : r'.length < (name ++ '"' :: (before ++ ':' :: (behind ++ (v ++
          (b ++ ',' :: (a ++ '"' :: r')))))).length := by
        simp only [List.length_append, List.length_cons]
        omega
      obtain ⟨es, body, p', hbody, hes, hvalues, hmore, hfinish⟩ := ih _ hlt hread rfl
      have hparts : Separated (e.text :: es.map fun e => e.text)
          ([] ++ (e.text ++ (b ++ ',' :: (a ++ body)))) :=
        .cons (by simp [IsSpace]) hb (hes.space_append ha)
      refine ⟨e :: es, e.text ++ (b ++ ',' :: (a ++ body)), p', ?_, hparts,
        List.forall_mem_cons.2 ⟨hv, hvalues⟩, hadds e es p' rfl rfl hmore, hfinish⟩
      rw [hbody, List.append_assoc, Member.text_append]
      simp [e]

/-- The members of a record are read if they may be added. -/
theorem recordMembers_of_separated {es : List Entry} {body : List Char}
    (h : Separated (es.map fun e => e.text) body) (hvalues : ∀ e ∈ es, IsValue e.value)
    (hadds : Adds p es p') (hfinish : p'.finish? = some d) (rest : List Char) :
    ∃ r, skipSpace (body ++ '}' :: rest) = '"' :: r ∧ Reads (recordMembers p r) d rest := by
  generalize hps : es.map (fun e => e.text) = ps at h
  induction h generalizing es p with
  | @last a q b ha hb =>
    obtain ⟨e, rfl, rfl⟩ := List.map_eq_singleton_iff.1 hps
    have hends : EndsNumber (b ++ '}' :: rest) :=
      hb.endsNumber_append (endsNumber_cons (by decide) rest)
    obtain ⟨p₁, hread, hmore⟩ :=
      memberValue_of_adds (hvalues e (List.mem_singleton_self e)) hadds hends
    obtain rfl := adds_nil.1 hmore
    rw [List.append_assoc, List.append_assoc, Member.text_append]
    refine ⟨_, skipSpace_append_cons ha (by decide) _, reads_recordMembers.2
      ⟨e.key.toList, _, p₁, _, reads_stringBody.2 ⟨e.name, rfl, e.spelled⟩, ?_,
        .inl ⟨skipSpace_append_cons hb (by decide) rest, hfinish⟩⟩⟩
    rw [String.ofList_toList]
    exact hread
  | @cons a q b s ps ha hb _ ih =>
    obtain ⟨e, es, rfl, rfl, rfl⟩ := List.map_eq_cons_iff.1 hps
    obtain ⟨hvalue, hvalues⟩ := List.forall_mem_cons.1 hvalues
    have hends : EndsNumber (b ++ ',' :: (s ++ '}' :: rest)) :=
      hb.endsNumber_append (endsNumber_cons (by decide) _)
    obtain ⟨p₁, hread, hmore⟩ := memberValue_of_adds hvalue hadds hends
    obtain ⟨r, hquote, hnext⟩ := ih hvalues hmore rfl
    rw [List.append_assoc, List.append_assoc, Member.text_append, List.append_assoc,
      List.cons_append]
    refine ⟨_, skipSpace_append_cons ha (by decide) _, reads_recordMembers.2
      ⟨e.key.toList, _, p₁, _, reads_stringBody.2 ⟨e.name, rfl, e.spelled⟩, ?_,
        .inr ⟨_, r, skipSpace_append_cons hb (by decide) _, hquote, hnext⟩⟩⟩
    rw [String.ofList_toList]
    exact hread

end Compliance.Manifest
