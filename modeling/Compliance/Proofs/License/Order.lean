import Compliance.Proofs.License.Session

/-!
Whether the order of the jobs of a call matters, where each request has one answer. What a job
reports and what it writes depends on nothing but the answers and the files of the beginning, as long
as no file belongs to two repositories that are at odds over it: one with a license that is not what
the other one brings or counts on. None does where the hyphens between an owner and a name can be
told from those of the owner.
-/

namespace Compliance.License

open Host

/-- A call but for its dependencies, where each request has one answer: how it is made, the answers,
and the files and the folder that it begins with. -/
structure Setting where
  github : GitHub.Client
  store : Store
  policy : StalePolicy
  answer : Http.Request → Http.Reply
  tree : Tree
  folder : Location

namespace Setting

/-- The world is one of the setting. Its turns are open, and so is all that was done before. -/
structure Holds (s : Setting) (w : World) : Prop where
  answers : w.AnswersBy s.answer
  tree : w.tree = s.tree
  folder : w.folder = s.folder

def license (s : Setting) (r : Coordinates) : Except Failure GitHub.Fetched :=
  (s.github.fetchLicense r).resultBy s.answer

def kept? (s : Setting) (r : Coordinates) : Option String :=
  s.tree.textAt? s.folder (s.store.pathFor r)

def written (s : Setting) (r : Coordinates) (text : String) : Except Fault Unit :=
  (s.tree.writeFile s.folder (s.store.pathFor r) text).map fun _ => ()

abbrev jobs (s : Setting) (ds : List Dependency) : List (Job Entry) :=
  ds.map (entryJob s.github s.store s.policy)

def call (s : Setting) (workers : Nat) (ds : List Dependency) (w : World) : Report × World :=
  fetchAll s.github s.store s.policy workers ds w

/-- The order of the jobs does not matter, and nothing stands in for the license of another
repository. -/
structure OrderFree (s : Setting) (ds : List Dependency) : Prop where
  /-- The report and the files are the same for all numbers of workers and all turns. -/
  same : ∀ workers workers' w w', s.Holds w → s.Holds w' →
    (s.call workers ds w).1 = (s.call workers' ds w').1 ∧
      ∀ l, (s.call workers ds w).2.tree.node? l = (s.call workers' ds w').2.tree.node? l
  /-- The file of a retrieved entry holds what was answered for the repository of that entry. -/
  own : ∀ workers w, s.Holds w → ∀ entry ∈ (s.call workers ds w).1.entries,
    entry.outcome = .retrieved → ∃ text, s.license entry.repository = .ok (.found text) ∧
      (s.call workers ds w).2.textAt? (s.store.pathFor entry.repository) = some text
  /-- The file that an entry falls back on is the one of the beginning. -/
  stale : ∀ workers w, s.Holds w → ∀ entry ∈ (s.call workers ds w).1.entries,
    ∀ status, entry.outcome = .onDisk status →
      (s.call workers ds w).2.textAt? (s.store.pathFor entry.repository) =
        s.kept? entry.repository

/-- A license that is found and can be written is the one that another repository with the same file
brings, or the one that it falls back on. -/
def Agrees (s : Setting) (text : String) (r : Coordinates) : Prop :=
  match s.license r with
  | .ok (.found text') => text' = text
  | .ok (.unavailable _) => s.policy = .accept → s.kept? r = some text
  | .error _ => True

def Apart (s : Setting) (ds : List Dependency) : Prop :=
  ∀ d ∈ ds, ∀ e ∈ ds, (coordinatesOf d.root).fileName = (coordinatesOf e.root).fileName →
    ∀ text, s.license (coordinatesOf d.root) = .ok (.found text) →
      s.written (coordinatesOf d.root) text = .ok () → s.Agrees text (coordinatesOf e.root)

def outcome (s : Setting) (r : Coordinates) : Except Failure GitHub.Fetched → Outcome
  | .error failure => .failed failure.message
  | .ok (.found text) =>
    match s.written r text with
    | .ok () => .retrieved
    | .error fault =>
      .failed (Failure.mk ["ライセンスファイルの書き込みに失敗: " ++ s.store.pathFor r]
        (.host fault)).message
  | .ok (.unavailable status) =>
    if s.policy = .accept ∧ (s.kept? r).isSome then .onDisk status else .missing status

def entry (s : Setting) (d : Dependency) : Entry :=
  let r := coordinatesOf d.root
  ⟨d.root, r.owner, r.name, s.outcome r (s.license r)⟩

theorem written_eq (s : Setting) {r : Coordinates} (hr : Path.IsEntry r.fileName)
    (text : String) :
    s.written r text = (s.tree.entryFor s.folder s.store.folder r.fileName).map fun _ => () := by
  rw [written, Store.pathFor, Tree.writeFile_join _ _ _ _ hr]
  cases s.tree.entryFor s.folder s.store.folder r.fileName <;> rfl

/-- What was settled is the outcome if what came back from the files fits those of the beginning. -/
theorem outcome_eq_of_settled {s : Setting} {r : Coordinates} {x : Except Failure GitHub.Fetched}
    {es : List Event} {o : Outcome} (h : Settled s.store s.policy r x es o)
    (hwrote : ∀ text result, .wrote (s.store.pathFor r) text result ∈ es →
      result = s.written r text)
    (hlooked : ∀ b, .looked (s.store.pathFor r) b ∈ es → b = (s.kept? r).isSome) :
    o = s.outcome r x := by
  unfold outcome
  cases h with
  | lost failure => rfl
  | kept text =>
    have hok : s.written r text = .ok () := (hwrote text _ List.mem_cons_self).symm
    simp only [hok]
  | refused text fault =>
    have hfault : s.written r text = .error fault := (hwrote text _ List.mem_cons_self).symm
    simp only [hfault]
  | unasked status h => simp [h]
  | absent status h =>
    have hnone : (s.kept? r).isSome = false := (hlooked false List.mem_cons_self).symm
    simp [hnone]
  | present status h =>
    have hsome : (s.kept? r).isSome = true := (hlooked true List.mem_cons_self).symm
    simp [h, hsome]

/-! ### One order of the jobs -/

section

variable {s : Setting} {ds : List Dependency} {w u : World} {t : Trace} {entries : List Entry}
  (hs : s.Holds w)
  (h : Batch.Interleaving (s.jobs ds) w t entries u)
include hs h

/-- Each entry is settled by events of its own job, from what the server answers. -/
theorem settled_of_entry {i : Nat} {entry : Entry} (hentry : entries[i]? = some entry) :
    ∃ d filed, ds[i]? = some d ∧ entry = ⟨d.root, (coordinatesOf d.root).owner,
        (coordinatesOf d.root).name, entry.outcome⟩ ∧ entry.repository = coordinatesOf d.root ∧
      Settled s.store s.policy (coordinatesOf d.root) (s.license (coordinatesOf d.root)) filed
        entry.outcome ∧ ∀ e : Event, e.isOnFile = true → ((i, e) ∈ t ↔ e ∈ filed) := by
  obtain ⟨d, hd, hentered⟩ := entered_of_entry h hentry
  generalize hown : t.own i = es at hentered
  cases hentered with
  | intro hasked hsettled =>
    rename_i asked filed x o
    have hmem : ∀ e ∈ asked ++ filed, (i, e) ∈ t := fun e he =>
      Trace.mem_own.1 (hown ▸ List.mem_append_left _ he)
    have hx : x = s.license (coordinatesOf d.root) := by
      refine (GitHub.talks_fetchLicense s.github _).eq_resultBy hasked fun q r hq => ?_
      have hstep := hmem _ (List.mem_append_left _ hq)
      exact hs.answers.reply_eq h.brought (List.mem_map_of_mem hstep)
    refine ⟨d, filed, hd, rfl, rfl, hx ▸ hsettled, fun e hfile => ⟨fun he => ?_, fun he => ?_⟩⟩
    · exact mem_filed hasked hfile (hown ▸ Trace.mem_own.2 he)
    · exact hmem e (List.mem_append_right _ he)

theorem written_of_wrote {r : Coordinates} (hr : Path.IsEntry r.fileName) {text : String}
    {result : Except Fault Unit} (he : .wrote (s.store.pathFor r) text result ∈ t.events) :
    result = s.written r text := by
  rw [written_eq s hr, ← hs.tree, ← hs.folder]
  exact World.result_of_wrote hr h.brought (isIn_of_interleaving h) he

/-- A text that was written was found, for a dependency with that file. -/
theorem found_of_wrote {path text : String} (he : .wrote path text (.ok ()) ∈ t.events) :
    ∃ d ∈ ds, path = s.store.pathFor (coordinatesOf d.root) ∧
      s.license (coordinatesOf d.root) = .ok (.found text) ∧
      s.written (coordinatesOf d.root) text = .ok () := by
  obtain ⟨⟨i, e⟩, hstep, rfl⟩ := List.mem_map.1 he
  obtain ⟨_, entry, _, hentry, _, _⟩ := entered_of_step h hstep
  obtain ⟨d, filed, hd, _, _, hsettled, hfiled⟩ := settled_of_entry hs h hentry
  obtain ⟨rfl, hfound, _⟩ := hsettled.of_wrote ((hfiled _ rfl).1 hstep)
  exact ⟨d, List.mem_of_getElem? hd, rfl, hfound,
    (written_of_wrote hs h (isEntry_coordinatesOf d.root) he).symm⟩

/-- On the way the file of a repository holds the text of the beginning, or one that was found for a
dependency with that file. -/
theorem textAt?_cases {fs gs : List Event} (hsplit : t.events = fs ++ gs) {r : Coordinates}
    (hr : Path.IsEntry r.fileName) :
    (w.afterAll fs).textAt? (s.store.pathFor r) = s.kept? r ∨
      ∃ d ∈ ds, ∃ text, (coordinatesOf d.root).fileName = r.fileName ∧
        s.license (coordinatesOf d.root) = .ok (.found text) ∧
        s.written (coordinatesOf d.root) text = .ok () ∧
        (w.afterAll fs).textAt? (s.store.pathFor r) = some text := by
  have hin := isIn_of_interleaving h
  have hb := h.brought
  rw [hsplit] at hin hb
  have htext : (w.afterAll fs).textAt? (s.store.pathFor r) =
      (Event.lastPut? (s.store.pathFor r) fs).or (s.kept? r) := by
    rw [kept?, ← hs.tree, ← hs.folder]
    exact World.textAt?_afterAll hr (World.bringsAll_append.1 hb).1 fun e he =>
      hin e (List.mem_append_left _ he)
  cases hlast : Event.lastPut? (s.store.pathFor r) fs with
  | none => exact .inl (by rw [htext, hlast, Option.none_or])
  | some text =>
    have hmem : Event.wrote (s.store.pathFor r) text (.ok ()) ∈ t.events := by
      rw [hsplit]
      exact List.mem_append_left _ (Event.mem_of_lastPut? hlast)
    obtain ⟨d, hd, hpath, hfound, hwritten⟩ := found_of_wrote hs h hmem
    have hfile := Path.join_inj hr (isEntry_coordinatesOf d.root) hpath
    exact .inr ⟨d, hd, text, hfile.symm, hfound, hwritten, by rw [htext, hlast, Option.some_or]⟩

variable (hapart : s.Apart ds)
include hapart

theorem looked_eq {i : Nat} {d : Dependency} (hd : d ∈ ds) {status : Http.Status} {b : Bool}
    (hpolicy : s.policy = .accept)
    (hx : s.license (coordinatesOf d.root) = .ok (.unavailable status))
    (he : (i, .looked (s.store.pathFor (coordinatesOf d.root)) b) ∈ t) :
    b = (s.kept? (coordinatesOf d.root)).isSome := by
  have hr := isEntry_coordinatesOf d.root
  obtain ⟨fs, gs, hsplit, hbrings⟩ := World.brings_of_mem h.brought (List.mem_map_of_mem he)
  have hseen : (w.afterAll fs).isFile (s.store.pathFor (coordinatesOf d.root)) = b := hbrings
  rw [← hseen, World.isFile_eq]
  rcases textAt?_cases hs h hsplit hr with hkept | ⟨d', hd', text, hfile, hfound, hwritten, htext⟩
  · rw [hkept]
  · have hagrees := hapart d' hd' d hd hfile text hfound hwritten
    simp only [Agrees, hx] at hagrees
    rw [htext, hagrees hpolicy]

theorem entries_eq : entries = ds.map s.entry := by
  have hlength : entries.length = ds.length := by simpa using h.length
  refine List.ext_getElem (by simp [hlength]) fun i hi _ => ?_
  obtain ⟨d, filed, hd, hentry, _, hsettled, hfiled⟩ :=
    settled_of_entry hs h (List.getElem?_eq_getElem hi)
  have houtcome := outcome_eq_of_settled hsettled
    (fun text result he => written_of_wrote hs h (isEntry_coordinatesOf d.root)
      (List.mem_map_of_mem ((hfiled _ rfl).2 he)))
    (fun b he => by
      obtain ⟨_, hpolicy, status, hx⟩ := hsettled.of_looked he
      exact looked_eq hs h hapart (List.mem_of_getElem? hd) hpolicy hx ((hfiled _ rfl).2 he))
  obtain ⟨_, hdi⟩ := List.getElem?_eq_some_iff.1 hd
  rw [hentry, houtcome, List.getElem_map, hdi]
  rfl

/-- The file of a retrieved entry holds the text that was found for its repository. -/
theorem textAt?_of_retrieved {entry : Entry} (hmem : entry ∈ entries)
    (hretrieved : entry.outcome = .retrieved) :
    ∃ text, s.license entry.repository = .ok (.found text) ∧
      s.written entry.repository text = .ok () ∧
      u.textAt? (s.store.pathFor entry.repository) = some text := by
  obtain ⟨i, hi⟩ := List.mem_iff_getElem?.1 hmem
  obtain ⟨d, filed, hd, _, hrepository, hsettled, hfiled⟩ := settled_of_entry hs h hi
  have hr := isEntry_coordinatesOf d.root
  rw [hretrieved] at hsettled
  obtain ⟨text, hwrote⟩ := hsettled.wrote_of_retrieved
  obtain ⟨_, hfound, _⟩ := hsettled.of_wrote hwrote
  have hevent : Event.wrote (s.store.pathFor (coordinatesOf d.root)) text (.ok ()) ∈ t.events :=
    List.mem_map_of_mem ((hfiled _ rfl).2 hwrote)
  have hwritten := (written_of_wrote hs h hr hevent).symm
  rw [hrepository]
  refine ⟨text, hfound, hwritten, ?_⟩
  cases hlast : Event.lastPut? (s.store.pathFor (coordinatesOf d.root)) t.events with
  | none => exact absurd hevent (Event.lastPut?_eq_none.1 hlast text)
  | some text' =>
    obtain ⟨d', hd', hpath, hfound', _⟩ := found_of_wrote hs h (Event.mem_of_lastPut? hlast)
    have hfile := Path.join_inj hr (isEntry_coordinatesOf d'.root) hpath
    have hagrees := hapart d (List.mem_of_getElem? hd) d' hd' hfile text hfound hwritten
    simp only [Agrees, hfound'] at hagrees
    rw [← h.left, Store.pathFor, World.textAt?_afterAll hr h.brought (isIn_of_interleaving h),
      ← Store.pathFor, hlast, Option.some_or, hagrees]

theorem textAt?_of_onDisk {entry : Entry} (hmem : entry ∈ entries) {status : Nat}
    (hstatus : entry.outcome = .onDisk status) :
    u.textAt? (s.store.pathFor entry.repository) = s.kept? entry.repository := by
  obtain ⟨i, hi⟩ := List.mem_iff_getElem?.1 hmem
  obtain ⟨d, filed, hd, _, hrepository, hsettled, hfiled⟩ := settled_of_entry hs h hi
  rw [hstatus] at hsettled
  obtain ⟨_, hpolicy, _, hx⟩ := hsettled.of_looked hsettled.looked_of_onDisk
  rw [hrepository, ← h.left]
  rcases textAt?_cases hs h (List.append_nil _).symm (isEntry_coordinatesOf d.root) with
    hkept | ⟨d', hd', text, hfile, hfound, hwritten, htext⟩
  · exact hkept
  · have hagrees := hapart d' hd' d (List.mem_of_getElem? hd) hfile text hfound hwritten
    simp only [Agrees, hx] at hagrees
    rw [htext, hagrees hpolicy]

/-- The file of a retrieved entry stands at a place that is known in the beginning. -/
theorem node?_of_retrieved {entry : Entry} (hmem : entry ∈ entries)
    (hretrieved : entry.outcome = .retrieved) :
    ∃ base text, s.tree.walk s.folder s.store.folder = .ok base ∧
      s.license entry.repository = .ok (.found text) ∧
      u.tree.find w.folder (s.store.pathFor entry.repository) =
        .ok (base ++ [entry.repository.fileName]) ∧
      u.tree.node? (base ++ [entry.repository.fileName]) = some (.file text) := by
  have hr := isEntry_repository h hmem
  obtain ⟨text, hfound, hwritten, htext⟩ := textAt?_of_retrieved hs h hapart hmem hretrieved
  have hkeeps : w.tree.Keeps u.tree := (faithful_of_interleaving h).keeps
  rw [written_eq s hr] at hwritten
  obtain ⟨_, hentryFor, _⟩ := map_eq_ok.1 hwritten
  obtain ⟨_, base, hbase, _, _⟩ := Tree.entryFor_eq_ok.1 hentryFor
  have hfolder : u.folder = w.folder := by rw [← h.left, World.folder_afterAll]
  rw [World.textAt?, hfolder, Store.pathFor] at htext
  have hwalk : w.tree.walk w.folder s.store.folder = .ok base := by rw [hs.tree, hs.folder, hbase]
  obtain ⟨hfind, hnode⟩ := Tree.find_of_textAt? hkeeps hr hwalk htext
  exact ⟨base, text, hbase, hfound, hfind, hnode⟩

end

/-! ### All orders of the jobs -/

variable {s : Setting} {ds : List Dependency}

theorem call_interleaving (s : Setting) (workers : Nat) (ds : List Dependency) (w : World) :
    ∃ t, Batch.Interleaving (s.jobs ds) w t
      (s.call workers ds w).1.entries (s.call workers ds w).2 :=
  Batch.run_interleaving workers _ w

/-- What stands at the end of one order stands at the end of every other. -/
theorem node?_eq_of_apart (hapart : s.Apart ds) {w w' u u' : World} {t t' : Trace}
    {entries entries' : List Entry} (hs : s.Holds w) (hs' : s.Holds w')
    (h : Batch.Interleaving (s.jobs ds) w t entries u)
    (h' : Batch.Interleaving (s.jobs ds) w' t' entries' u')
    (l : Location) : u.tree.node? l = u'.tree.node? l := by
  have hentries : entries' = entries :=
    (entries_eq hs' h' hapart).trans (entries_eq hs h hapart).symm
  subst hentries
  -- Either a retrieved license stands at `l`, the same at the end of both orders, or none of the
  -- two has written there.
  by_cases hl : ∃ entry ∈ entries', entry.outcome = .retrieved ∧
      u.tree.find w.folder (s.store.pathFor entry.repository) = .ok l
  · obtain ⟨entry, hmem, hretrieved, hfind⟩ := hl
    obtain ⟨base, text, hbase, hfound, hfind₀, hnode⟩ :=
      node?_of_retrieved hs h hapart hmem hretrieved
    obtain ⟨base', text', hbase', hfound', _, hnode'⟩ :=
      node?_of_retrieved hs' h' hapart hmem hretrieved
    obtain rfl := Except.ok.inj (hbase.symm.trans hbase')
    obtain rfl : text = text' := by simpa using hfound.symm.trans hfound'
    obtain rfl := Except.ok.inj (hfind.symm.trans hfind₀)
    rw [hnode, hnode']
  · have hrest : ∀ entry ∈ entries', entry.outcome = .retrieved →
        u.tree.find w.folder (s.store.pathFor entry.repository) ≠ .ok l :=
      fun entry hmem hretrieved hfind => hl ⟨entry, hmem, hretrieved, hfind⟩
    have hrest' : ∀ entry ∈ entries', entry.outcome = .retrieved →
        u'.tree.find w'.folder (s.store.pathFor entry.repository) ≠ .ok l := by
      intro entry hmem hretrieved hfind
      obtain ⟨base, _, hbase, _, hfind₀, _⟩ := node?_of_retrieved hs h hapart hmem hretrieved
      obtain ⟨base', _, hbase', _, hfind₁, _⟩ := node?_of_retrieved hs' h' hapart hmem hretrieved
      obtain rfl := Except.ok.inj (hbase.symm.trans hbase')
      obtain rfl := Except.ok.inj (hfind.symm.trans hfind₁)
      exact hrest entry hmem hretrieved hfind₀
    rw [(faithful_of_interleaving h).rest l hrest, (faithful_of_interleaving h').rest l hrest',
      hs.tree, hs'.tree]

theorem orderFree_of_apart (hapart : s.Apart ds) : s.OrderFree ds where
  same := by
    intro workers workers' w w' hs hs'
    obtain ⟨t, h⟩ := s.call_interleaving workers ds w
    obtain ⟨t', h'⟩ := s.call_interleaving workers' ds w'
    have hentries := (entries_eq hs h hapart).trans (entries_eq hs' h' hapart).symm
    exact ⟨congrArg Report.mk hentries, node?_eq_of_apart hapart hs hs' h h'⟩
  own := by
    intro workers w hs entry hmem hretrieved
    obtain ⟨t, h⟩ := s.call_interleaving workers ds w
    obtain ⟨text, hfound, _, htext⟩ := textAt?_of_retrieved hs h hapart hmem hretrieved
    exact ⟨text, hfound, htext⟩
  stale := by
    intro workers w hs entry hmem status hstatus
    obtain ⟨t, h⟩ := s.call_interleaving workers ds w
    exact textAt?_of_onDisk hs h hapart hmem hstatus

/-! ### Repositories at odds -/

def world (s : Setting) : World :=
  { World.quiet with network := fun _ => s.answer, tree := s.tree, folder := s.folder }

theorem holds_withTurns (s : Setting) (turns : List Nat) : s.Holds (s.world.withTurns turns) :=
  ⟨fun _ _ => rfl, rfl, rfl⟩

theorem holds_world (s : Setting) : s.Holds s.world := ⟨fun _ _ => rfl, rfl, rfl⟩

theorem getElem?_jobs {i : Nat} {d : Dependency} (hd : ds[i]? = some d) :
    (s.jobs ds)[i]? = some (entryJob s.github s.store s.policy d) := by
  rw [List.getElem?_map, hd, Option.map_some]

/-- Every order of the jobs is that of a call. -/
theorem exists_call {t : Trace} {entries : List Entry} {u : World}
    (h : Batch.Interleaving (s.jobs ds) s.world t entries u) :
    ∃ workers turns, s.call workers ds (s.world.withTurns turns) =
      (⟨entries⟩, u.withTurns turns) := by
  obtain ⟨turns, hrun⟩ := Batch.exists_turns h
  refine ⟨(s.jobs ds).length, turns, ?_⟩
  unfold call fetchAll
  rw [hrun]

/-- One job can do all its steps before the others begin, as if it were alone. -/
theorem exists_first {i : Nat} {d : Dependency} (hd : ds[i]? = some d) :
    ∃ (es : List Event) (rest : Trace) (entry : Entry) (entries : List Entry) (v u : World),
      Batch.Interleaving (s.jobs [d]) s.world (es.map (0, ·))
        [entry] v ∧
      Batch.Interleaving (s.jobs ds) s.world
        (es.map (i, ·) ++ rest) entries u := by
  obtain ⟨es, hes, hb, _⟩ := (entryJob s.github s.store s.policy d).run_ends s.world
  have hd₀ : [d][0]? = some d := rfl
  have halone := (Batch.Reaches.start _ s.world).advance (getElem?_jobs hd₀) hes hb
  obtain ⟨rest, entries, u, h⟩ :=
    Batch.exists_interleaving ((Batch.Reaches.start _ s.world).advance (getElem?_jobs hd) hes hb)
  exact ⟨es, rest, _, entries, _, u, halone, h⟩

variable {w u : World} {t : Trace} {entries : List Entry}

/-- A license that is found and can be written is retrieved in every order. -/
theorem retrieved_of_found (hs : s.Holds w)
    (h : Batch.Interleaving (s.jobs ds) w t entries u)
    {i : Nat} {d : Dependency} {entry : Entry} {text : String} (hd : ds[i]? = some d)
    (hentry : entries[i]? = some entry)
    (hfound : s.license (coordinatesOf d.root) = .ok (.found text))
    (hwritten : s.written (coordinatesOf d.root) text = .ok ()) :
    entry.outcome = .retrieved ∧ entry.repository = coordinatesOf d.root ∧
      (i, .wrote (s.store.pathFor (coordinatesOf d.root)) text (.ok ())) ∈ t := by
  obtain ⟨d', filed, hd', _, hrepository, hsettled, hfiled⟩ := settled_of_entry hs h hentry
  obtain rfl := Option.some.inj (hd.symm.trans hd')
  generalize ho : entry.outcome = o at hsettled
  rw [hfound] at hsettled
  cases hsettled with
  | kept => exact ⟨rfl, hrepository, (hfiled _ rfl).2 List.mem_cons_self⟩
  | refused text fault =>
    have hmem := List.mem_map_of_mem (f := (·.2)) ((hfiled _ rfl).2 List.mem_cons_self)
    have hresult := written_of_wrote hs h (isEntry_coordinatesOf d.root) hmem
    rw [hwritten] at hresult
    cases hresult

/-- The job that does all its steps first is done when another one looks for its file. -/
theorem onDisk_of_first {i j : Nat} {d e : Dependency} {es : List Event} {rest : Trace}
    {text : String} {status : Http.Status} {entry : Entry}
    (h : Batch.Interleaving (s.jobs ds) s.world
      (es.map (i, ·) ++ rest) entries u)
    (hwrote : .wrote (s.store.pathFor (coordinatesOf d.root)) text (.ok ()) ∈ es)
    (hfile : (coordinatesOf d.root).fileName = (coordinatesOf e.root).fileName)
    (hij : i ≠ j) (he : ds[j]? = some e) (hentry : entries[j]? = some entry)
    (hpolicy : s.policy = .accept)
    (hx : s.license (coordinatesOf e.root) = .ok (.unavailable status)) :
    entry.outcome = .onDisk status := by
  obtain ⟨e', filed, he', _, _, hsettled, hfiled⟩ := settled_of_entry s.holds_world h hentry
  obtain rfl := Option.some.inj (he.symm.trans he')
  have hr := isEntry_coordinatesOf e.root
  have hin := isIn_of_interleaving h
  have hb := h.brought
  rw [Trace.events_append, Trace.events_tagged] at hin hb
  obtain ⟨hfirst, hthen⟩ := World.bringsAll_append.1 hb
  have hthere : ((s.world.afterAll es).textAt?
      (s.store.pathFor (coordinatesOf e.root))).isSome := by
    rw [Store.pathFor, World.textAt?_afterAll hr hfirst fun f hf => hin f (by simp [hf])]
    cases hlast : Event.lastPut? (Path.join s.store.folder (coordinatesOf e.root).fileName) es with
    | none =>
      rw [Store.pathFor, hfile] at hwrote
      exact absurd hwrote (Event.lastPut?_eq_none.1 hlast text)
    | some text => rfl
  rw [hx] at hsettled
  generalize entry.outcome = o at hsettled
  cases hsettled with
  | unasked _ hreject => simp [hpolicy] at hreject
  | present => rfl
  | absent _ _ =>
    -- The look comes after all events of the first job, which left a file.
    have hlooked := (hfiled _ rfl).2 List.mem_cons_self
    rcases List.mem_append.1 hlooked with hlooked | hlooked
    · obtain ⟨_, _, heq⟩ := List.mem_map.1 hlooked
      exact absurd (congrArg Prod.fst heq) hij
    · have hmem := List.mem_map_of_mem (f := (·.2)) hlooked
      have hseen := World.seen_of_isSome hr hthen (fun f hf => hin f (by simp [hf])) hthere hmem
      cases hseen

/-! ### Where the order does not matter -/

section

variable (hfree : s.OrderFree ds) (h : Batch.Interleaving (s.jobs ds) s.world t entries u)
include hfree h

theorem OrderFree.textAt?_of_found {i : Nat} {d : Dependency} {text : String}
    (hd : ds[i]? = some d) (hfound : s.license (coordinatesOf d.root) = .ok (.found text))
    (hwritten : s.written (coordinatesOf d.root) text = .ok ()) :
    u.textAt? (s.store.pathFor (coordinatesOf d.root)) = some text := by
  obtain ⟨workers, turns, hcall⟩ := exists_call h
  have hown := hfree.own workers _ (s.holds_withTurns turns)
  rw [hcall] at hown
  obtain ⟨entry, hentry, _⟩ := h.exists_result (getElem?_jobs hd)
  obtain ⟨hretrieved, hrepository, _⟩ :=
    retrieved_of_found s.holds_world h hd hentry hfound hwritten
  obtain ⟨text', hfound', htext⟩ := hown entry (List.mem_of_getElem? hentry) hretrieved
  rw [hrepository] at hfound' htext
  obtain rfl : text = text' := by simpa using hfound.symm.trans hfound'
  exact htext

theorem OrderFree.textAt?_of_onDisk {i : Nat} {d : Dependency} {entry : Entry}
    {status : Http.Status} (hd : ds[i]? = some d) (hentry : entries[i]? = some entry)
    (hstatus : entry.outcome = .onDisk status) :
    u.textAt? (s.store.pathFor (coordinatesOf d.root)) = s.kept? (coordinatesOf d.root) := by
  obtain ⟨workers, turns, hcall⟩ := exists_call h
  have hstale := hfree.stale workers _ (s.holds_withTurns turns)
  rw [hcall] at hstale
  obtain ⟨d', _, hd', _, hrepository, _, _⟩ := settled_of_entry s.holds_world h hentry
  obtain rfl := Option.some.inj (hd.symm.trans hd')
  rw [← hrepository]
  exact hstale entry (List.mem_of_getElem? hentry) status hstatus

end

/-- Where the order does not matter no two dependencies are at odds. -/
theorem apart_of_orderFree (hfree : s.OrderFree ds) : s.Apart ds := by
  intro d hd e he hfile text hfound hwritten
  obtain ⟨i, hi⟩ := List.mem_iff_getElem?.1 hd
  obtain ⟨j, hj⟩ := List.mem_iff_getElem?.1 he
  -- In the order in which `d` goes first the file holds its license at the end.
  obtain ⟨es, rest, entry, entries, _, u, halone, h⟩ := exists_first (s := s) hi
  have htext := hfree.textAt?_of_found h hi hfound hwritten
  rw [Store.pathFor, hfile, ← Store.pathFor] at htext
  have hr := isEntry_coordinatesOf d.root
  unfold Agrees
  split
  · rename_i text' hfound'
    have hwritten' : s.written (coordinatesOf e.root) text' = .ok () := by
      rw [written_eq s (isEntry_coordinatesOf e.root), ← hfile, ← written_eq s hr text, hwritten]
    have htext' := hfree.textAt?_of_found h hj hfound' hwritten'
    exact Option.some.inj (htext'.symm.trans htext)
  · rename_i status hx
    intro hpolicy
    have hi₀ : [d][0]? = some d := rfl
    have hentry : [entry][0]? = some entry := rfl
    obtain ⟨_, _, hstep⟩ := retrieved_of_found s.holds_world halone hi₀ hentry hfound hwritten
    have hwrote := Trace.mem_own.2 hstep
    rw [Trace.own_tagged_self] at hwrote
    have hij : i ≠ j := by
      rintro rfl
      obtain rfl := Option.some.inj (hi.symm.trans hj)
      simp [hfound] at hx
    obtain ⟨other, hother, _⟩ := h.exists_result (getElem?_jobs hj)
    have hondisk := onDisk_of_first h hwrote hfile hij hj hother hpolicy hx
    rw [← hfree.textAt?_of_onDisk h hj hother hondisk]
    exact htext
  · trivial

/-- The order of the jobs does not matter exactly if no two dependencies are at odds over a file. -/
theorem orderFree_iff_apart (s : Setting) (ds : List Dependency) : s.OrderFree ds ↔ s.Apart ds :=
  ⟨apart_of_orderFree, orderFree_of_apart⟩

/-- Two repositories with one file, each with a license of its own. -/
def atOdds : Setting where
  github := ⟨⟨.standard⟩, "http://[::1]", none⟩
  store := ⟨"lic"⟩
  policy := .accept
  answer q :=
    .answer ⟨200, none, if q.url.target = "/repos/a--b/c/license" then [0x58] else [0x59], true⟩
  tree := ⟨[(["lic"], .folder)]⟩
  folder := []

/-- Which license stands in the file of both at the end is up to the turns. -/
theorem not_orderFree_atOdds :
    ¬ atOdds.OrderFree [⟨"github.com/a--b/c", "", ""⟩, ⟨"github.com/a/b--c", "", ""⟩] := by
  intro hfree
  have hsame := (hfree.same 1 1 _ _ (holds_withTurns _ []) (holds_withTurns _ [1, 1, 1])).2
    ["lic", "a--b--c"]
  revert hsame
  decide +kernel

/-- Dependencies are not at odds if different repositories have different files. -/
theorem apart_of_fileName_inj {s : Setting} {ds : List Dependency}
    (h : ∀ d ∈ ds, ∀ e ∈ ds, (coordinatesOf d.root).fileName = (coordinatesOf e.root).fileName →
      coordinatesOf d.root = coordinatesOf e.root) : s.Apart ds := by
  intro d hd e he hfile text hfound _
  rw [Agrees, ← h d hd e he hfile, hfound]

/-- The order does not matter where no owner holds two hyphens in a row or ends in one. -/
theorem orderFree_of_tidyOwners {s : Setting} {ds : List Dependency}
    (h : ∀ d ∈ ds, (coordinatesOf d.root).HasTidyOwner) : s.OrderFree ds :=
  orderFree_of_apart <| apart_of_fileName_inj fun d hd e he =>
    Coordinates.fileName_inj (h d hd) (h e he)

end Setting

end Compliance.License
