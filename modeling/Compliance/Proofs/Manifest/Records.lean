import Compliance.Proofs.Manifest.Members
import Compliance.Proofs.Run.Listing

/-!
The records of a manifest against a grammar of their own, which knows nothing of the reader: a
manifest is read exactly if it is one by the grammar, and then as the records that it holds.
-/

namespace Compliance.Manifest

open Json

/-! ### The grammar -/

/-- An element of a manifest, and the dependency it stands for. In object form exactly one member
gives the root, and at most one each the revision and the version; what the other members hold is
of no account. In list form there are up to three strings, in this order. -/
inductive IsRecord : List Char → Dependency → Prop
  | object {es : List Entry} {s : List Char} {root : String} {revision version : Option String}
      (members : Listed (es.map fun e => e.text) s) (values : ∀ e ∈ es, IsValue e.value)
      (hroot : List.Forall₂ Quoted (valuesOf "ProjectRoot" es) [root])
      (hrevision : List.Forall₂ Quoted (valuesOf "Revision" es) revision.toList)
      (hversion : List.Forall₂ Quoted (valuesOf "Version" es) version.toList) :
      IsRecord ('{' :: (s ++ ['}'])) ⟨root, revision.getD "", version.getD ""⟩
  | list {ps : List (List Char)} {s : List Char} {root : String} {more : List String}
      (elements : Listed ps s) (texts : List.Forall₂ Quoted ps (root :: more))
      (few : more.length ≤ 2) :
      IsRecord ('[' :: (s ++ [']'])) ⟨root, more[0]?.getD "", more[1]?.getD ""⟩

/-- One list, all of whose elements are records, and nothing but space around it. -/
def IsManifest (s : List Char) (ds : List Dependency) : Prop :=
  ∃ a ps body b, IsSpace a ∧ IsSpace b ∧ s = a ++ '[' :: (body ++ ']' :: b) ∧ Listed ps body ∧
    List.Forall₂ IsRecord ps ds

variable {s rest : List Char} {d : Dependency}

/-! ### Records -/

theorem adds_iff {es : List Entry} {root revision version : Option String} :
    Adds ⟨none, none, none⟩ es ⟨root, revision, version⟩ ↔
      List.Forall₂ Quoted (valuesOf "ProjectRoot" es) root.toList ∧
        List.Forall₂ Quoted (valuesOf "Revision" es) revision.toList ∧
          List.Forall₂ Quoted (valuesOf "Version" es) version.toList := by
  have hfield : ∀ {key : String} {o : Option String}, (∃ texts,
      List.Forall₂ Quoted (valuesOf key es) texts ∧ [] ++ texts = o.toList) ↔
        List.Forall₂ Quoted (valuesOf key es) o.toList := fun {key o} =>
    ⟨fun ⟨_, h, heq⟩ => heq ▸ h, fun h => ⟨_, h, rfl⟩⟩
  constructor
  · intro h
    exact ⟨hfield.1 (h .root), hfield.1 (h .revision), hfield.1 (h .version)⟩
  · rintro ⟨hroot, hrevision, hversion⟩ f
    cases f with
    | root => exact hfield.2 hroot
    | revision => exact hfield.2 hrevision
    | version => exact hfield.2 hversion

theorem exists_of_objectRecord (h : Reads (objectRecord s) d rest) :
    ∃ body, s = body ++ '}' :: rest ∧ IsRecord ('{' :: (body ++ ['}'])) d := by
  obtain ⟨r, hquote, hread⟩ := reads_objectRecord.1 h
  obtain ⟨a, ha, rfl⟩ := exists_space hquote
  obtain ⟨es, body, ⟨_, revision, version⟩, hbody, hes, hvalues, hadds, hfinish⟩ :=
    exists_of_recordMembers hread
  obtain ⟨root, rfl, rfl⟩ := Option.map_eq_some_iff.1 hfinish
  obtain ⟨hroot, hrevision, hversion⟩ := adds_iff.1 hadds
  refine ⟨a ++ body, by rw [hbody, List.append_assoc], ?_⟩
  exact .object (.parts (hes.space_append ha)) hvalues hroot hrevision hversion

theorem exists_of_listRecord (h : Reads (listRecord s) d rest) :
    ∃ body, s = body ++ ']' :: rest ∧ IsRecord ('[' :: (body ++ [']'])) d := by
  obtain ⟨root, m, more, hroot, hmore, rfl⟩ := reads_listRecord_iff.1 h
  obtain ⟨ps, body, rfl, hps, htexts, hfew⟩ := follows_iff.1 ⟨m, hroot, hmore⟩
  exact ⟨body, rfl, .list (.parts hps) htexts hfew⟩

theorem objectRecord_of_members {es : List Entry} {body : List Char} {root : String}
    {revision version : Option String} (members : Listed (es.map fun e => e.text) body)
    (values : ∀ e ∈ es, IsValue e.value)
    (hroot : List.Forall₂ Quoted (valuesOf "ProjectRoot" es) [root])
    (hrevision : List.Forall₂ Quoted (valuesOf "Revision" es) revision.toList)
    (hversion : List.Forall₂ Quoted (valuesOf "Version" es) version.toList) (rest : List Char) :
    Reads (objectRecord (body ++ '}' :: rest))
      ⟨root, revision.getD "", version.getD ""⟩ rest := by
  have hne : es ≠ [] := by
    rintro rfl
    cases hroot
  have hadds : Adds ⟨none, none, none⟩ es ⟨some root, revision, version⟩ :=
    adds_iff.2 ⟨hroot, hrevision, hversion⟩
  obtain ⟨r, hquote, hread⟩ := recordMembers_of_separated
    (members.separated fun h => hne (List.map_eq_nil_iff.1 h)) values hadds rfl rest
  exact reads_objectRecord.2 ⟨r, hquote, hread⟩

theorem listRecord_of_elements {ps : List (List Char)} {body : List Char} {root : String}
    {more : List String} (elements : Listed ps body) (texts : List.Forall₂ Quoted ps (root :: more))
    (few : more.length ≤ 2) (rest : List Char) :
    Reads (listRecord (body ++ ']' :: rest)) ⟨root, more[0]?.getD "", more[1]?.getD ""⟩ rest := by
  have hne : ps ≠ [] := by
    rintro rfl
    cases texts
  obtain ⟨m, hroot, hmore⟩ := follows_iff.2 ⟨ps, body, rfl, elements.separated hne, texts, few⟩
  exact reads_listRecord_iff.2 ⟨root, m, more, hroot, hmore, rfl⟩

/-- A record stands next, behind space. -/
theorem reads_record : Reads (record s) d rest ↔
    ∃ a q, IsSpace a ∧ IsRecord q d ∧ s = a ++ (q ++ rest) := by
  rw [record]
  constructor
  · intro h
    split at h
    · exact absurd h not_reads_error
    · rename_i hnext
      obtain ⟨a, ha, hs⟩ := exists_space (next_eq_char.1 hnext)
      obtain ⟨u, hu, rfl, hrest⟩ := h
      obtain ⟨t, ht, rfl⟩ := map_eq_ok.1 hu
      obtain ⟨body, hbody, hrecord⟩ := exists_of_listRecord ⟨t, ht, rfl, hrest⟩
      exact ⟨a, _, ha, hrecord, by rw [hs, hbody]; simp⟩
    · rename_i hnext
      obtain ⟨a, ha, hs⟩ := exists_space (next_eq_char.1 hnext)
      obtain ⟨u, hu, rfl, hrest⟩ := h
      obtain ⟨t, ht, rfl⟩ := map_eq_ok.1 hu
      obtain ⟨body, hbody, hrecord⟩ := exists_of_objectRecord ⟨t, ht, rfl, hrest⟩
      exact ⟨a, _, ha, hrecord, by rw [hs, hbody]; simp⟩
    · exact absurd h not_reads_error
  · rintro ⟨a, q, ha, hq, rfl⟩
    cases hq with
    | @object es body root revision version members values hroot hrevision hversion =>
      obtain ⟨t, ht, hd, hrest⟩ :=
        objectRecord_of_members members values hroot hrevision hversion rest
      have hs : skipSpace (a ++ '{' :: (body ++ '}' :: rest)) = '{' :: (body ++ '}' :: rest) :=
        skipSpace_append_cons ha (by decide) _
      obtain ⟨lt, hnext⟩ := exists_next hs
      rw [List.cons_append, List.append_assoc, List.singleton_append, hnext]
      exact ⟨_, congrArg (Except.map _) ht, hd, hrest⟩
    | @list ps body root more elements texts few =>
      obtain ⟨t, ht, hd, hrest⟩ := listRecord_of_elements elements texts few rest
      have hs : skipSpace (a ++ '[' :: (body ++ ']' :: rest)) = '[' :: (body ++ ']' :: rest) :=
        skipSpace_append_cons ha (by decide) _
      obtain ⟨lt, hnext⟩ := exists_next hs
      rw [List.cons_append, List.append_assoc, List.singleton_append, hnext]
      exact ⟨_, congrArg (Except.map _) ht, hd, hrest⟩

/-- A record does not begin as the list ends. -/
theorem exists_next_of_record (h : Reads (record s) d rest) :
    ∃ c r, skipSpace s = c :: r ∧ c ≠ ']' := by
  obtain ⟨a, q, ha, hq, rfl⟩ := reads_record.1 h
  cases hq with
  | object => exact ⟨'{', _, skipSpace_append_cons ha (by decide) _, by decide⟩
  | list => exact ⟨'[', _, skipSpace_append_cons ha (by decide) _, by decide⟩

/-! ### Manifests -/

theorem exists_next_of_moreRecords {ds : List Dependency} (h : Reads (moreRecords s) ds rest) :
    ∃ c r, skipSpace s = c :: r ∧ c ≠ ']' := by
  rw [moreRecords] at h
  cases hd : record s with
  | error f =>
    rw [hd] at h
    exact absurd h not_reads_error
  | ok d => exact exists_next_of_record ⟨d, hd, rfl, rfl⟩

theorem reads_moreRecords {ds : List Dependency} : Reads (moreRecords s) ds rest ↔
    ∃ d more, Reads (record s) d more ∧ ((skipSpace more = ']' :: rest ∧ ds = [d]) ∨
      ∃ r es, skipSpace more = ',' :: r ∧ Reads (moreRecords r) es rest ∧ ds = d :: es) := by
  rw [moreRecords]
  constructor
  · intro h
    split at h
    · exact absurd h not_reads_error
    · rename_i u hu
      refine ⟨u.value, u.rest, ⟨u, hu, rfl, rfl⟩, ?_⟩
      split at h
      · exact absurd h not_reads_error
      · rename_i hnext
        obtain ⟨rfl, rfl⟩ := reads_ok.1 h
        exact .inl ⟨Taken.next_eq_char hnext, rfl⟩
      · rename_i hnext
        split at h
        · exact absurd h not_reads_error
        · exact absurd h not_reads_error
        · split at h
          · exact absurd h not_reads_error
          · rename_i t ht
            obtain ⟨rfl, rfl⟩ := reads_ok.1 h
            exact .inr ⟨_, t.value, Taken.next_eq_char hnext, ⟨t, ht, rfl, rfl⟩, rfl⟩
      · exact absurd h not_reads_error
  · rintro ⟨d, more, ⟨u, hu, rfl, rfl⟩, ⟨hclose, rfl⟩ | ⟨r, es, hcomma, hmore, rfl⟩⟩
    · obtain ⟨lt, hnext⟩ := Taken.exists_next hclose
      rw [hu]
      simp only [hnext]
      exact ⟨_, rfl, rfl, rfl⟩
    · obtain ⟨lt, hnext⟩ := Taken.exists_next hcomma
      obtain ⟨c, q, hr, hc⟩ := exists_next_of_moreRecords hmore
      obtain ⟨t, ht, rfl, rfl⟩ := hmore
      rw [hu]
      simp only [hnext, hr]
      split
      · rename_i heq; cases heq
      · rename_i heq; cases heq; exact absurd rfl hc
      · simp only [ht]
        exact ⟨_, rfl, rfl, rfl⟩

/-- The records of a list, from behind its bracket to behind the other one. -/
theorem reads_moreRecords_iff {ds : List Dependency} : Reads (moreRecords s) ds rest ↔
    ∃ ps body, s = body ++ ']' :: rest ∧ Separated ps body ∧ List.Forall₂ IsRecord ps ds := by
  constructor
  · intro h
    induction hn : s.length using Nat.strongRecOn generalizing s ds with
    | ind n ih =>
      subst hn
      obtain ⟨d, more, hd, hmore⟩ := reads_moreRecords.1 h
      obtain ⟨a, q, ha, hq, rfl⟩ := reads_record.1 hd
      rcases hmore with ⟨hclose, rfl⟩ | ⟨r, es, hcomma, hread, rfl⟩
      · obtain ⟨b, hb, rfl⟩ := exists_space hclose
        exact ⟨[q], a ++ (q ++ b), by simp, .last ha hb, .cons hq .nil⟩
      · obtain ⟨b, hb, rfl⟩ := exists_space hcomma
        have hlt : r.length < (a ++ (q ++ (b ++ ',' :: r))).length := by
          simp only [List.length_append, List.length_cons]
          omega
        obtain ⟨ps, body, rfl, hps, hrecords⟩ := ih _ hlt hread rfl
        exact ⟨q :: ps, a ++ (q ++ (b ++ ',' :: body)), by simp, .cons ha hb hps,
          .cons hq hrecords⟩
  · rintro ⟨ps, body, rfl, hps, hrecords⟩
    induction hps generalizing ds with
    | @last a q b ha hb =>
      obtain ⟨d, ds, hq, hnil, rfl⟩ := List.forall₂_cons_left_iff.1 hrecords
      obtain rfl := List.forall₂_nil_left_iff.1 hnil
      refine reads_moreRecords.2 ⟨d, b ++ ']' :: rest, reads_record.2 ⟨a, q, ha, hq, by simp⟩,
        .inl ⟨?_, rfl⟩⟩
      exact skipSpace_append_cons hb (by decide) rest
    | @cons a q b s ps ha hb _ ih =>
      obtain ⟨d, ds, hq, hmore, rfl⟩ := List.forall₂_cons_left_iff.1 hrecords
      refine reads_moreRecords.2 ⟨d, b ++ ',' :: (s ++ ']' :: rest),
        reads_record.2 ⟨a, q, ha, hq, by simp⟩, .inr ⟨_, ds, ?_, ih hmore, rfl⟩⟩
      exact skipSpace_append_cons hb (by decide) _

theorem reads_records {ds : List Dependency} : Reads (records s) ds rest ↔
    ∃ r, skipSpace s = '[' :: r ∧
      ((skipSpace r = ']' :: rest ∧ ds = []) ∨ Reads (moreRecords r) ds rest) := by
  rw [records]
  constructor
  · intro h
    split at h
    · exact absurd h not_reads_error
    · rename_i r lt hnext
      refine ⟨r, next_eq_char.1 hnext, ?_⟩
      split at h
      · exact absurd h not_reads_error
      · rename_i hclose
        obtain ⟨rfl, rfl⟩ := reads_ok.1 h
        exact .inl ⟨next_eq_char.1 hclose, rfl⟩
      · obtain ⟨u, hu, rfl, rfl⟩ := h
        obtain ⟨t, ht, rfl⟩ := map_eq_ok.1 hu
        exact .inr ⟨t, ht, rfl, rfl⟩
    · exact absurd h not_reads_error
  · rintro ⟨r, hopen, hmore⟩
    obtain ⟨lt, hnext⟩ := exists_next hopen
    rw [hnext]
    rcases hmore with ⟨hclose, rfl⟩ | hmore
    · obtain ⟨lt', hnext'⟩ := exists_next hclose
      simp only [hnext']
      exact ⟨_, rfl, rfl, rfl⟩
    · obtain ⟨c, q, hr, hc⟩ := exists_next_of_moreRecords hmore
      obtain ⟨lt', hnext'⟩ := exists_next hr
      obtain ⟨t, ht, rfl, rfl⟩ := hmore
      simp only [hnext']
      split
      · rename_i heq; cases heq
      · rename_i heq; cases heq; exact absurd rfl hc
      · exact ⟨_, congrArg (Except.map _) ht, rfl, rfl⟩

/-- A list of records stands next, behind space. -/
theorem reads_records_iff {ds : List Dependency} : Reads (records s) ds rest ↔
    ∃ a ps body, IsSpace a ∧ s = a ++ '[' :: (body ++ ']' :: rest) ∧ Listed ps body ∧
      List.Forall₂ IsRecord ps ds := by
  rw [reads_records]
  constructor
  · rintro ⟨r, hopen, ⟨hclose, rfl⟩ | hmore⟩
    · obtain ⟨a, ha, rfl⟩ := exists_space hopen
      obtain ⟨b, hb, rfl⟩ := exists_space hclose
      exact ⟨a, [], b, ha, rfl, .nil hb, .nil⟩
    · obtain ⟨a, ha, rfl⟩ := exists_space hopen
      obtain ⟨ps, body, rfl, hps, hrecords⟩ := reads_moreRecords_iff.1 hmore
      exact ⟨a, ps, body, ha, rfl, .parts hps, hrecords⟩
  · rintro ⟨a, ps, body, ha, rfl, hps, hrecords⟩
    refine ⟨body ++ ']' :: rest, skipSpace_append_cons ha (by decide) _, ?_⟩
    cases hps with
    | nil hbody =>
      exact .inl ⟨skipSpace_append_cons hbody (by decide) rest,
        List.forall₂_nil_left_iff.1 hrecords⟩
    | parts hps => exact .inr (reads_moreRecords_iff.2 ⟨ps, body, rfl, hps, hrecords⟩)

theorem parse_eq_ok {manifest : String} {ds : List Dependency} :
    parse manifest = .ok ds ↔ IsManifest (Text.trimList manifest.toList) ds := by
  rw [parse, readWith_eq_ok]
  constructor
  · rintro ⟨b, hread, hb⟩
    obtain ⟨a, ps, body, ha, hs, hps, hrecords⟩ := reads_records_iff.1 hread
    exact ⟨a, ps, body, b, ha, hb, hs, hps, hrecords⟩
  · rintro ⟨a, ps, body, b, ha, hb, hs, hps, hrecords⟩
    exact ⟨b, reads_records_iff.2 ⟨a, ps, body, ha, hs, hps, hrecords⟩, hb⟩

/-- A text without its blank ends is read exactly if it is a manifest, and then all of its records
come out, in their order. Any other text is refused as a whole, and so is the command that wrote
it. -/
theorem records_exact (manifest : String) :
    (∀ ds, parse manifest = .ok ds ↔ IsManifest (Text.trimList manifest.toList) ds) ∧
      ((¬ ∃ ds, IsManifest (Text.trimList manifest.toList) ds) →
        ∃ e, parse manifest = .error e ∧ ∀ (c : Command) (output : Host.Output),
          output.ending = .exited 0 →
          Text.isAllBlank (Text.textOfBytes output.complaints) = true →
          Text.textOfBytes output.written = manifest →
          listed c output = .error (.of (.manifestMalformed e))) := by
  refine ⟨fun ds => parse_eq_ok, fun hno => ?_⟩
  cases hparse : parse manifest with
  | ok ds => exact absurd ⟨ds, parse_eq_ok.1 hparse⟩ hno
  | error e =>
    refine ⟨e, rfl, ?_⟩
    rintro c output hend hquiet rfl
    rw [listed_of_quiet hend hquiet, hparse]
    rfl

/-- Names and texts are decoded, what other members hold is passed over, and a record may be a list
of strings; but a root that is given twice spoils the whole list. -/
theorem records_exact_dep :
    IsManifest (Text.trimList ("\u3000[\x7b\"Locked\": [1.50e+3, \x7b\"\\ud800\": [[]]\x7d], " ++
        "\"Project\\u0052oot\": \"a\\/b\"\x7d, [\"c\", \"1\"] ]\n").toList)
      [⟨"a/b", "", ""⟩, ⟨"c", "1", ""⟩] ∧
    ¬ ∃ ds, IsManifest (Text.trimList ("[\x7b\"ProjectRoot\": \"a\"\x7d, " ++
        "\x7b\"ProjectRoot\": \"b\", \"ProjectRoot\": \"c\"\x7d]").toList) ds := by
  refine ⟨((records_exact _).1 _).1 (toOption_eq_some.1 (by decide +kernel)), ?_⟩
  rintro ⟨ds, hds⟩
  have hparse := toOption_eq_some.2 (((records_exact _).1 ds).2 hds)
  rw [show (parse _).toOption = none by decide +kernel] at hparse
  cases hparse

end Compliance.Manifest
