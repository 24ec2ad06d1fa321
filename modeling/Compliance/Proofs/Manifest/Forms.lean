import Compliance.Manifest.Records
import Compliance.Proofs.Json.Skipping
import Mathlib.Data.List.Forall2

/-!
What the reader of a manifest does with a record in either form: the strings of a list, and the
members of an object one after another, each with what it gives to the record.
-/

namespace Compliance.Manifest

open Json

variable {s rest : List Char} {d : Dependency} {p p' : Partial}

/-! ### Strings -/

/-- A string stands next, behind space. -/
theorem reads_text {x : String} :
    Reads (text s) x rest ↔ ∃ a q, IsSpace a ∧ Quoted q x ∧ s = a ++ (q ++ rest) := by
  rw [text]
  constructor
  · intro h
    split at h
    · exact absurd h not_reads_error
    · rename_i hnext
      obtain ⟨a, ha, hs⟩ := exists_space (next_eq_char.1 hnext)
      obtain ⟨u, hu, rfl, hrest⟩ := h
      obtain ⟨t, ht, rfl⟩ := map_eq_ok.1 hu
      obtain ⟨body, hbody, hspelled⟩ := reads_stringBody.1 ⟨t, ht, rfl, hrest⟩
      refine ⟨a, quote body, ha, .mk hspelled, ?_⟩
      rw [quote_append, hs, hbody]
    · exact absurd h not_reads_error
  · rintro ⟨a, _, ha, @⟨body, cs, hspelled⟩, rfl⟩
    rw [quote_append]
    have hs : skipSpace (a ++ '"' :: (body ++ '"' :: rest)) = '"' :: (body ++ '"' :: rest) :=
      skipSpace_append_cons ha (by decide) _
    obtain ⟨lt, hnext⟩ := exists_next hs
    obtain ⟨t, ht, hvalue, hrest⟩ := reads_stringBody.2 ⟨body, rfl, hspelled⟩
    rw [hnext]
    exact ⟨_, congrArg (Except.map _) ht, congrArg String.ofList hvalue, hrest⟩

/-- A string does not begin with a bracket. -/
theorem exists_next_of_text {x : String} (h : Reads (text s) x rest) :
    ∃ r, skipSpace s = '"' :: r := by
  obtain ⟨a, q, ha, ⟨hspelled⟩, rfl⟩ := reads_text.1 h
  rw [quote_append]
  exact ⟨_, skipSpace_append_cons ha (by decide) _⟩

/-! ### Records in list form -/

theorem nextElement_eq_none :
    nextElement s = .ok none ↔ ∃ r, skipSpace s = ']' :: r := by
  rw [nextElement]
  constructor
  · intro h
    split at h
    · cases h
    · rename_i hnext
      exact ⟨_, next_eq_char.1 hnext⟩
    · split at h <;> cases h
    · cases h
  · rintro ⟨r, h⟩
    obtain ⟨lt, hnext⟩ := exists_next h
    rw [hnext]
    rfl

theorem skipSpace_of_nextElement {t : Taken Unit s} (h : nextElement s = .ok (some t)) :
    skipSpace s = ',' :: t.rest := by
  rw [nextElement] at h
  split at h
  · cases h
  · cases h
  · rename_i hnext
    split at h
    · cases h
    · cases h
    · cases h
      exact next_eq_char.1 hnext
  · cases h

/-- A further element follows a comma behind which the list does not end. -/
theorem exists_nextElement {r q : List Char} {c : Char} (h : skipSpace s = ',' :: r)
    (hr : skipSpace r = c :: q) (hc : c ≠ ']') :
    ∃ t, nextElement s = .ok (some t) ∧ t.rest = r := by
  obtain ⟨lt, hnext⟩ := exists_next h
  rw [nextElement, hnext]
  simp only [hr]
  split
  · rename_i heq; cases heq
  · rename_i heq; cases heq; exact absurd rfl hc
  · exact ⟨_, rfl, rfl⟩

theorem reads_elementText {x : String} : Reads (elementText s) x rest ↔
    (x = "" ∧ s = rest ∧ ∃ r, skipSpace s = ']' :: r) ∨
      ∃ r, skipSpace s = ',' :: r ∧ Reads (text r) x rest := by
  rw [elementText]
  constructor
  · intro h
    split at h
    · exact absurd h not_reads_error
    · rename_i hnone
      obtain ⟨rfl, rfl⟩ := reads_ok.1 h
      exact .inl ⟨rfl, rfl, nextElement_eq_none.1 hnone⟩
    · rename_i t ht
      obtain ⟨u, hu, rfl, rfl⟩ := h
      obtain ⟨v, hv, rfl⟩ := map_eq_ok.1 hu
      exact .inr ⟨t.rest, skipSpace_of_nextElement ht, v, hv, rfl, rfl⟩
  · rintro (⟨rfl, rfl, hend⟩ | ⟨r, hcomma, htext⟩)
    · rw [nextElement_eq_none.2 hend]
      exact ⟨_, rfl, rfl, rfl⟩
    · obtain ⟨q, hr⟩ := exists_next_of_text htext
      obtain ⟨t, ht, rfl⟩ := exists_nextElement hcomma hr (by decide)
      obtain ⟨u, hu, rfl, rfl⟩ := htext
      rw [ht]
      exact ⟨_, congrArg (Except.map _) hu, rfl, rfl⟩

theorem reads_endOfRecord : Reads (endOfRecord s) () rest ↔ skipSpace s = ']' :: rest := by
  rw [endOfRecord]
  constructor
  · intro h
    split at h
    · exact absurd h not_reads_error
    · rename_i hnext
      obtain ⟨-, rfl⟩ := reads_ok.1 h
      exact next_eq_char.1 hnext
    · split at h <;> exact absurd h not_reads_error
    · exact absurd h not_reads_error
  · intro h
    obtain ⟨lt, hnext⟩ := exists_next h
    rw [hnext]
    exact ⟨_, rfl, rfl, rfl⟩

theorem reads_listRecord : Reads (listRecord s) d rest ↔
    ∃ m n q, Reads (text s) d.root m ∧ Reads (elementText m) d.revision n ∧
      Reads (elementText n) d.version q ∧ skipSpace q = ']' :: rest := by
  rw [listRecord]
  constructor
  · intro h
    split at h
    · exact absurd h not_reads_error
    · exact absurd h not_reads_error
    · split at h
      · exact absurd h not_reads_error
      · rename_i t ht
        split at h
        · exact absurd h not_reads_error
        · rename_i u hu
          split at h
          · exact absurd h not_reads_error
          · rename_i v hv
            split at h
            · exact absurd h not_reads_error
            · rename_i e he
              obtain ⟨rfl, rfl⟩ := reads_ok.1 h
              exact ⟨t.rest, u.rest, v.rest, ⟨t, ht, rfl, rfl⟩, ⟨u, hu, rfl, rfl⟩,
                ⟨v, hv, rfl, rfl⟩, reads_endOfRecord.1 ⟨e, he, rfl, rfl⟩⟩
  · rintro ⟨m, n, q, htext, hrevision, hversion, hend⟩
    obtain ⟨r, hs⟩ := exists_next_of_text htext
    obtain ⟨t, ht, hroot, rfl⟩ := htext
    obtain ⟨u, hu, hrev, rfl⟩ := hrevision
    obtain ⟨v, hv, hver, rfl⟩ := hversion
    obtain ⟨e, he, -, hleft⟩ := reads_endOfRecord.2 hend
    simp only [hs, ht, hu, hv, he]
    refine ⟨_, rfl, ?_, hleft⟩
    simp [hroot, hrev, hver]

/-- Up to a number of further strings follow, each behind a comma, and then the bracket. -/
inductive Follows : Nat → List Char → List String → List Char → Prop
  | last {k : Nat} {s rest : List Char} (h : skipSpace s = ']' :: rest) : Follows k s [] rest
  | cons {k : Nat} {s r m rest : List Char} {x : String} {xs : List String}
      (comma : skipSpace s = ',' :: r) (first : Reads (text r) x m) (more : Follows k m xs rest) :
      Follows (k + 1) s (x :: xs) rest

theorem reads_listRecord_iff : Reads (listRecord s) d rest ↔
    ∃ root m more, Reads (text s) root m ∧ Follows 2 m more rest ∧
      d = ⟨root, more[0]?.getD "", more[1]?.getD ""⟩ := by
  rw [reads_listRecord]
  obtain ⟨root, revision, version⟩ := d
  constructor
  · rintro ⟨m, n, q, hroot, hrevision, hversion, hend⟩
    refine ⟨root, m, ?_⟩
    rcases reads_elementText.1 hrevision with ⟨rfl, rfl, r, hclose⟩ | ⟨r, hcomma, hfirst⟩
    · -- Without a second element there is no third one either.
      rcases reads_elementText.1 hversion with ⟨rfl, rfl, -, -⟩ | ⟨r', hcomma, -⟩
      · exact ⟨[], hroot, .last hend, rfl⟩
      · rw [hclose] at hcomma
        cases hcomma
    · rcases reads_elementText.1 hversion with ⟨rfl, rfl, -, -⟩ | ⟨r', hcomma', hsecond⟩
      · exact ⟨[revision], hroot, .cons hcomma hfirst (.last hend), rfl⟩
      · exact ⟨[revision, version], hroot, .cons hcomma hfirst (.cons hcomma' hsecond (.last hend)),
          rfl⟩
  · rintro ⟨_, m, more, hroot, hmore, ⟨⟩⟩
    cases hmore with
    | last hend =>
      have hnone : Reads (elementText m) "" m := reads_elementText.2 (.inl ⟨rfl, rfl, _, hend⟩)
      exact ⟨m, m, m, hroot, hnone, hnone, hend⟩
    | @cons _ _ _ n _ revision _ comma first more =>
      have hfirst : Reads (elementText m) revision n := reads_elementText.2 (.inr ⟨_, comma, first⟩)
      cases more with
      | last hend =>
        have hnone : Reads (elementText n) "" n := reads_elementText.2 (.inl ⟨rfl, rfl, _, hend⟩)
        exact ⟨m, n, n, hroot, hfirst, hnone, hend⟩
      | cons comma' second more =>
        cases more with
        | last hend =>
          exact ⟨m, n, _, hroot, hfirst, reads_elementText.2 (.inr ⟨_, comma', second⟩), hend⟩

/-- The strings of a list, from behind its bracket to behind the other one. -/
theorem follows_iff {k : Nat} {x : String} {xs : List String} :
    (∃ m, Reads (text s) x m ∧ Follows k m xs rest) ↔
      ∃ ps body, s = body ++ ']' :: rest ∧ Separated ps body ∧
        List.Forall₂ Quoted ps (x :: xs) ∧ xs.length ≤ k := by
  constructor
  · rintro ⟨m, htext, hmore⟩
    induction hmore generalizing s x with
    | last h =>
      obtain ⟨a, q, ha, hq, rfl⟩ := reads_text.1 htext
      obtain ⟨b, hb, rfl⟩ := exists_space h
      exact ⟨[q], a ++ (q ++ b), by simp, .last ha hb, .cons hq .nil, Nat.zero_le _⟩
    | cons comma first _ ih =>
      obtain ⟨a, q, ha, hq, rfl⟩ := reads_text.1 htext
      obtain ⟨b, hb, rfl⟩ := exists_space comma
      obtain ⟨ps, body, rfl, hps, htexts, hfew⟩ := ih first
      exact ⟨q :: ps, a ++ (q ++ (b ++ ',' :: body)), by simp, .cons ha hb hps, .cons hq htexts,
        Nat.succ_le_succ hfew⟩
  · rintro ⟨ps, body, rfl, hps, htexts, hfew⟩
    induction hps generalizing x xs k with
    | @last a p b ha hb =>
      obtain ⟨hq, hnil⟩ := List.forall₂_cons.1 htexts
      obtain rfl := List.forall₂_nil_left_iff.1 hnil
      refine ⟨b ++ ']' :: rest, reads_text.2 ⟨a, p, ha, hq, by simp⟩, .last ?_⟩
      exact skipSpace_append_cons hb (by decide) rest
    | @cons a p b s ps ha hb hps ih =>
      obtain ⟨hq, hmore⟩ := List.forall₂_cons.1 htexts
      -- The parts behind a comma are not none.
      obtain ⟨y, ys, rfl⟩ : ∃ y ys, xs = y :: ys := by
        cases hps <;> cases hmore <;> exact ⟨_, _, rfl⟩
      cases k with
      | zero => cases hfew
      | succ k =>
        obtain ⟨m, hfirst, hfollows⟩ := ih hmore (Nat.le_of_succ_le_succ hfew)
        refine ⟨b ++ ',' :: (s ++ ']' :: rest), reads_text.2 ⟨a, p, ha, hq, by simp⟩,
          .cons ?_ hfirst hfollows⟩
        exact skipSpace_append_cons hb (by decide) _

/-! ### Records in object form -/

theorem reads_colon : Reads (colon s) () rest ↔ skipSpace s = ':' :: rest := by
  rw [colon]
  constructor
  · intro h
    split at h
    · exact absurd h not_reads_error
    · rename_i hnext
      obtain ⟨-, rfl⟩ := reads_ok.1 h
      exact next_eq_char.1 hnext
    · exact absurd h not_reads_error
  · intro h
    obtain ⟨lt, hnext⟩ := exists_next h
    rw [hnext]
    exact ⟨_, rfl, rfl, rfl⟩

theorem reads_memberValue_known {name : String} {f : Field} (hname : Field.ofName? name = some f) :
    Reads (memberValue p name s) p' rest ↔ p.get? f = none ∧
      ∃ q x, skipSpace s = ':' :: q ∧ Reads (text q) x rest ∧ p' = p.set x f := by
  rw [memberValue, hname]
  constructor
  · intro h
    dsimp only at h
    split at h
    · exact absurd h not_reads_error
    · rename_i hnone
      split at h
      · exact absurd h not_reads_error
      · rename_i t ht
        obtain ⟨u, hu, rfl, rfl⟩ := h
        obtain ⟨v, hv, rfl⟩ := map_eq_ok.1 hu
        exact ⟨Option.not_isSome_iff_eq_none.1 hnone, t.rest, v.value,
          reads_colon.1 ⟨t, ht, rfl, rfl⟩, ⟨v, hv, rfl, rfl⟩, rfl⟩
  · rintro ⟨hnone, q, x, hcolon, htext, rfl⟩
    obtain ⟨t, ht, -, rfl⟩ := reads_colon.2 hcolon
    obtain ⟨v, hv, rfl, rfl⟩ := htext
    simp only [hnone, ht]
    exact ⟨_, congrArg (Except.map _) hv, rfl, rfl⟩

theorem reads_memberValue_other {name : String} (hname : Field.ofName? name = none) :
    Reads (memberValue p name s) p' rest ↔
      ∃ q, skipSpace s = ':' :: q ∧ Reads (skipValue q) () rest ∧ p' = p := by
  rw [memberValue, hname]
  constructor
  · intro h
    dsimp only at h
    split at h
    · exact absurd h not_reads_error
    · rename_i t ht
      obtain ⟨u, hu, rfl, rfl⟩ := h
      obtain ⟨v, hv, rfl⟩ := map_eq_ok.1 hu
      exact ⟨t.rest, reads_colon.1 ⟨t, ht, rfl, rfl⟩, ⟨v, hv, rfl, rfl⟩, rfl⟩
  · rintro ⟨q, hcolon, hskip, rfl⟩
    obtain ⟨t, ht, -, rfl⟩ := reads_colon.2 hcolon
    obtain ⟨v, hv, -, rfl⟩ := hskip
    simp only [ht]
    exact ⟨_, congrArg (Except.map _) hv, rfl, rfl⟩

theorem reads_recordMembers : Reads (recordMembers p s) d rest ↔
    ∃ key more p' q, Reads (stringBody s) key more ∧
      Reads (memberValue p (String.ofList key) more) p' q ∧
      ((skipSpace q = '}' :: rest ∧ p'.finish? = some d) ∨
        ∃ r r', skipSpace q = ',' :: r ∧ skipSpace r = '"' :: r' ∧
          Reads (recordMembers p' r') d rest) := by
  rw [recordMembers]
  constructor
  · intro h
    split at h
    · exact absurd h not_reads_error
    · rename_i k hk
      split at h
      · exact absurd h not_reads_error
      · rename_i v hv
        refine ⟨k.value, k.rest, v.value, v.rest, ⟨k, hk, rfl, rfl⟩, ⟨v, hv, rfl, rfl⟩, ?_⟩
        split at h
        · exact absurd h not_reads_error
        · rename_i hnext
          split at h
          · rename_i hfinish
            obtain ⟨rfl, rfl⟩ := reads_ok.1 h
            have hclose := Taken.next_eq_char hnext
            exact .inl ⟨hclose, hfinish⟩
          · exact absurd h not_reads_error
        · rename_i hnext
          split at h
          · exact absurd h not_reads_error
          · rename_i hquote
            split at h
            · exact absurd h not_reads_error
            · rename_i t ht
              obtain ⟨rfl, rfl⟩ := reads_ok.1 h
              have hcomma := Taken.next_eq_char hnext
              exact .inr ⟨_, _, hcomma, next_eq_char.1 hquote, t, ht, rfl, rfl⟩
          · exact absurd h not_reads_error
          · exact absurd h not_reads_error
        · exact absurd h not_reads_error
  · rintro ⟨_, _, _, _, ⟨k, hk, rfl, rfl⟩, ⟨v, hv, rfl, rfl⟩, hmore⟩
    rw [hk]
    simp only [hv]
    rcases hmore with ⟨hclose, hfinish⟩ | ⟨r, r', hcomma, hquote, t, ht, rfl, rfl⟩
    · obtain ⟨lt, hnext⟩ : ∃ lt, (k.followedBy v).next = .char '}' rest lt :=
        Taken.exists_next hclose
      simp only [hnext, hfinish]
      exact ⟨_, rfl, rfl, rfl⟩
    · obtain ⟨lt, hnext⟩ : ∃ lt, (k.followedBy v).next = .char ',' r lt :=
        Taken.exists_next hcomma
      obtain ⟨lt', hnext'⟩ := exists_next hquote
      simp only [hnext, hnext', ht]
      exact ⟨_, rfl, rfl, rfl⟩

theorem reads_objectRecord : Reads (objectRecord s) d rest ↔
    ∃ r, skipSpace s = '"' :: r ∧ Reads (recordMembers ⟨none, none, none⟩ r) d rest := by
  rw [objectRecord]
  constructor
  · intro h
    split at h
    · exact absurd h not_reads_error
    · exact absurd h not_reads_error
    · rename_i hquote
      obtain ⟨u, hu, rfl, rfl⟩ := h
      obtain ⟨t, ht, rfl⟩ := map_eq_ok.1 hu
      exact ⟨_, next_eq_char.1 hquote, t, ht, rfl, rfl⟩
    · exact absurd h not_reads_error
  · rintro ⟨r, hquote, t, ht, rfl, rfl⟩
    obtain ⟨lt, hnext⟩ := exists_next hquote
    rw [hnext]
    exact ⟨_, congrArg (Except.map _) ht, rfl, rfl⟩

end Compliance.Manifest
