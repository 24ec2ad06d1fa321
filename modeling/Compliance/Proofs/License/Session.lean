import Compliance.Proofs.License.Entry
import Compliance.Proofs.Work.Interleaving

/-!
Calls of `fetchAll` on one folder, one after another, with whatever happens around them. What a call
writes is what was served for an entry that it reports as retrieved, and nothing that stands in a
folder ever goes away; so a license that was retrieved once is never missing again.
-/

namespace Compliance.License

open Host

def Entry.repository (e : Entry) : Coordinates := ⟨e.owner, e.name⟩

/-! ### One call -/

section

variable {github : GitHub.Client} {store : Store} {policy : StalePolicy} {ds : List Dependency}
  {w u : World} {t : Trace} {entries : List Entry}

theorem Entered.repository_eq {d : Dependency} {es : List Event} {entry : Entry}
    (h : Entered github store policy d es entry) : entry.repository = coordinatesOf d.root := by
  cases h
  rfl

variable (h : Batch.Interleaving (ds.map (entryJob github store policy)) w t entries u)
include h

theorem entered_of_entry {i : Nat} {entry : Entry} (hentry : entries[i]? = some entry) :
    ∃ d, ds[i]? = some d ∧ Entered github store policy d (t.own i) entry := by
  obtain ⟨j, hj, hends⟩ := h.exists_job hentry
  rw [List.getElem?_map] at hj
  obtain ⟨d, hd, rfl⟩ := Option.map_eq_some_iff.1 hj
  exact ⟨d, hd, entered_of_ends hends⟩

/-- A step of a trace belongs to one of the entries. -/
theorem entered_of_step {i : Nat} {e : Event} (he : (i, e) ∈ t) :
    ∃ d entry, ds[i]? = some d ∧ entries[i]? = some entry ∧
      Entered github store policy d (t.own i) entry ∧ e ∈ t.own i := by
  obtain ⟨_, entry, _, hentry, _, hown⟩ := h.exists_of_step he
  obtain ⟨d, hd, hentered⟩ := entered_of_entry h hentry
  exact ⟨d, entry, hd, hentry, hentered, hown⟩

theorem isIn_of_interleaving : ∀ e ∈ t.events, e.IsIn store.folder := by
  intro e he
  obtain ⟨⟨i, f⟩, hstep, rfl⟩ := List.mem_map.1 he
  obtain ⟨_, _, _, _, hentered, hown⟩ := entered_of_step h hstep
  exact hentered.isIn f hown

/-- A write that was not refused belongs to an entry that is reported as retrieved. -/
theorem retrieved_of_wrote {i : Nat} {path text : String}
    (he : (i, .wrote path text (.ok ())) ∈ t) :
    ∃ entry, entries[i]? = some entry ∧ entry.outcome = .retrieved ∧
      path = store.pathFor entry.repository ∧ GitHub.Serves (t.own i) text := by
  obtain ⟨d, entry, _, hentry, hentered, hown⟩ := entered_of_step h he
  obtain ⟨hpath, hretrieved, hserves⟩ := hentered.of_wrote hown
  exact ⟨entry, hentry, hretrieved, hentered.repository_eq ▸ hpath, hserves⟩

theorem isEntry_repository {entry : Entry} (hentry : entry ∈ entries) :
    Path.IsEntry entry.repository.fileName := by
  obtain ⟨i, hi⟩ := List.mem_iff_getElem?.1 hentry
  obtain ⟨d, _, hentered⟩ := entered_of_entry h hi
  rw [hentered.repository_eq]
  exact isEntry_coordinatesOf d.root

end

/-- What a call may do to files, by its trace: `w` and `u` are the worlds before and after it. -/
structure Faithful (store : Store) (w : World) (t : Trace) (report : Report) (u : World) :
    Prop where
  /-- What a step changes is at the path of an entry that is reported as retrieved, and the step is
  of the job for that entry. -/
  changed : ∀ (before after : Trace) (i : Nat) (e : Event), t = before ++ (i, e) :: after →
    ∀ l, ((w.afterAll before.events).after e).tree.node? l ≠
        (w.afterAll before.events).tree.node? l →
      ∃ entry, report.entries[i]? = some entry ∧ entry.outcome = .retrieved ∧
        ((w.afterAll before.events).after e).tree.find w.folder
          (store.pathFor entry.repository) = .ok l
  /-- The file of a retrieved entry holds what was served for a retrieved entry of that file. -/
  holds : ∀ entry ∈ report.entries, entry.outcome = .retrieved →
    ∃ i other text, report.entries[i]? = some other ∧ other.outcome = .retrieved ∧
      other.repository.fileName = entry.repository.fileName ∧ GitHub.Serves (t.own i) text ∧
      u.textAt? (store.pathFor entry.repository) = some text
  /-- Everywhere else stands what stood there before. -/
  rest : ∀ l, (∀ entry ∈ report.entries, entry.outcome = .retrieved →
      u.tree.find w.folder (store.pathFor entry.repository) ≠ .ok l) →
    u.tree.node? l = w.tree.node? l
  /-- Folders stay folders and files stay files. -/
  keeps : w.tree.Keeps u.tree

section

variable {github : GitHub.Client} {store : Store} {policy : StalePolicy} {ds : List Dependency}
  {w u : World} {t : Trace} {entries : List Entry}

/-- Whatever the order of its steps, a call is faithful. -/
theorem faithful_of_interleaving
    (h : Batch.Interleaving (ds.map (entryJob github store policy)) w t entries u) :
    Faithful store w t ⟨entries⟩ u where
  changed := by
    rintro before after i e rfl l hl
    have hin := isIn_of_interleaving h
    have hb := h.brought
    rw [Trace.events_append, World.bringsAll_append] at hb
    rcases World.tree_after hb.2.1 (hin e (by simp)) with ⟨hsame, _⟩ | ⟨name, text, hname, rfl, hw⟩
    · exact absurd (by rw [hsame]) hl
    · obtain ⟨entry, hentry, hretrieved, hpath, _⟩ :=
        retrieved_of_wrote h (List.mem_append_right _ List.mem_cons_self)
      refine ⟨entry, hentry, hretrieved, ?_⟩
      rw [World.folder_afterAll] at hw
      rcases Tree.node?_of_writeFile hname hw l with hsame | ⟨hfind, _⟩
      · exact absurd hsame hl
      · exact hpath ▸ hfind
  holds := by
    intro entry hmem hretrieved
    have hin := isIn_of_interleaving h
    have hname := isEntry_repository h hmem
    obtain ⟨i, hentry⟩ := List.mem_iff_getElem?.1 hmem
    obtain ⟨d, _, hentered⟩ := entered_of_entry h hentry
    obtain ⟨text₀, hwrote⟩ := hentered.wrote_of_retrieved hretrieved
    rw [← hentered.repository_eq] at hwrote
    -- The job of the entry has written its file, but the last to do so may be that of another one.
    cases hlast : Event.lastPut? (store.pathFor entry.repository) t.events with
    | none =>
      exact absurd (Trace.mem_events_of_mem_own hwrote) (Event.lastPut?_eq_none.1 hlast text₀)
    | some text =>
      obtain ⟨⟨j, f⟩, hstep, rfl⟩ := List.mem_map.1 (Event.mem_of_lastPut? hlast)
      obtain ⟨other, hother, hothers, hpath, hserves⟩ := retrieved_of_wrote h hstep
      have hfile := Path.join_inj hname
        (isEntry_repository h (List.mem_of_getElem? hother)) hpath
      refine ⟨j, other, text, hother, hothers, hfile.symm, hserves, ?_⟩
      rw [← h.left, Store.pathFor, World.textAt?_afterAll hname h.brought hin]
      rw [Store.pathFor] at hlast
      rw [hlast, Option.some_or]
  rest := by
    intro l hl
    rw [← h.left] at hl ⊢
    rcases World.node?_afterAll h.brought (isIn_of_interleaving h) l with
      hsame | ⟨name, text, _, hmem, hfind⟩
    · exact hsame
    · obtain ⟨⟨i, f⟩, hstep, rfl⟩ := List.mem_map.1 hmem
      obtain ⟨entry, hentry, hretrieved, hpath, _⟩ := retrieved_of_wrote h hstep
      exact absurd (hpath ▸ hfind) (hl entry (List.mem_of_getElem? hentry) hretrieved)
  keeps := h.left ▸ World.keeps_afterAll h.brought (isIn_of_interleaving h)

end

/-! ### Many calls -/

structure Call where
  github : GitHub.Client
  policy : StalePolicy
  workers : Nat
  dependencies : List Dependency
  around : World

structure Visit where
  call : Call
  before : World
  report : Report
  after : World

def Call.make (c : Call) (store : Store) (cwd : Location) (tree : Tree) : Visit :=
  let before := { c.around with tree := tree, folder := cwd }
  let r := fetchAll c.github store c.policy c.workers c.dependencies before
  ⟨c, before, r.1, r.2⟩

/-- Makes calls one after another, each on the files that those before it left. -/
def session (store : Store) (cwd : Location) : Tree → List Call → List Visit
  | _, [] => []
  | tree, c :: calls =>
    let v := c.make store cwd tree
    v :: session store cwd v.after.tree calls

def Visit.IsFaithful (store : Store) (v : Visit) : Prop :=
  ∃ t, Batch.Interleaving
      (v.call.dependencies.map (entryJob v.call.github store v.call.policy)) v.before t
      v.report.entries v.after ∧
    Faithful store v.before t v.report v.after

/-- Where a license was retrieved it is not missing later, if licenses from earlier runs will do. -/
def Visit.Remembered (v later : Visit) : Prop :=
  later.call.policy = .accept →
    ∀ entry ∈ v.report.entries, entry.outcome = .retrieved →
      ∀ entry' ∈ later.report.entries,
        entry'.repository.fileName = entry.repository.fileName →
        ∀ status, entry'.outcome ≠ .missing status

variable {store : Store} {cwd : Location}

theorem isFaithful_make (c : Call) (store : Store) (cwd : Location) (tree : Tree) :
    (c.make store cwd tree).IsFaithful store := by
  obtain ⟨t, h⟩ := Batch.run_interleaving c.workers
    (c.dependencies.map (entryJob c.github store c.policy))
    { c.around with tree := tree, folder := cwd }
  exact ⟨t, h, faithful_of_interleaving h⟩

/-- The files of the beginning are there at each call. -/
theorem keeps_of_mem_session {calls : List Call} {tree : Tree} {v : Visit}
    (hv : v ∈ session store cwd tree calls) :
    tree.Keeps v.before.tree ∧ v.before.folder = cwd ∧ v.IsFaithful store := by
  induction calls generalizing tree with
  | nil => cases hv
  | cons c calls ih =>
    have hfaithful := isFaithful_make c store cwd tree
    rcases List.mem_cons.1 hv with rfl | hv
    · exact ⟨.refl _, rfl, hfaithful⟩
    · obtain ⟨_, _, hfirst⟩ := hfaithful
      obtain ⟨hkeeps, hrest⟩ := ih hv
      exact ⟨hfirst.keeps.trans hkeeps, hrest⟩

/-- A call on files of which one is that of a repository does not miss the license of it. -/
theorem not_missing_of_isSome {v : Visit} {tree : Tree} {entry : Entry} {status : Nat}
    (hpolicy : v.call.policy = .accept) (hfaithful : v.IsFaithful store)
    (hkeeps : tree.Keeps v.before.tree) (hentry : entry ∈ v.report.entries)
    (hfile : (tree.textAt? v.before.folder (store.pathFor entry.repository)).isSome) :
    entry.outcome ≠ .missing status := by
  intro hmissing
  obtain ⟨t, h, _⟩ := hfaithful
  have hin := isIn_of_interleaving h
  have hname := isEntry_repository h hentry
  obtain ⟨i, hi⟩ := List.mem_iff_getElem?.1 hentry
  obtain ⟨d, _, hentered⟩ := entered_of_entry h hi
  have hlooked := hentered.looked_of_missing hpolicy hmissing
  rw [← hentered.repository_eq] at hlooked
  have hthere := Tree.isSome_textAt?_of_keeps hkeeps hname hfile
  exact Bool.noConfusion
    (World.seen_of_isSome hname h.brought hin hthere (Trace.mem_events_of_mem_own hlooked))

theorem remembered_of_keeps {v later : Visit} (hv : v.IsFaithful store)
    (hlater : later.IsFaithful store) (hfolder : later.before.folder = v.before.folder)
    (hkeeps : v.after.tree.Keeps later.before.tree) : v.Remembered later := by
  intro hpolicy entry hentry hretrieved entry' hentry' hfile status
  obtain ⟨t, h, hfaithful⟩ := hv
  obtain ⟨_, _, text, _, _, _, _, htext⟩ := hfaithful.holds entry hentry hretrieved
  refine not_missing_of_isSome hpolicy hlater hkeeps hentry' ?_
  rw [Store.pathFor, hfile, hfolder, ← World.folder_afterAll v.before t.events, h.left]
  exact Option.isSome_iff_exists.2 ⟨text, htext⟩

/-- Every call is faithful, and what was retrieved in one is not missing in a later one. -/
theorem session_faithful (store : Store) (cwd : Location) (tree : Tree) (calls : List Call) :
    (∀ v ∈ session store cwd tree calls, v.IsFaithful store) ∧
      (session store cwd tree calls).Pairwise Visit.Remembered := by
  refine ⟨fun v hv => (keeps_of_mem_session hv).2.2, ?_⟩
  induction calls generalizing tree with
  | nil => exact .nil
  | cons c calls ih =>
    refine List.pairwise_cons.2 ⟨fun later hlater => ?_, ih _⟩
    obtain ⟨hkeeps, hfolder, hfaithful⟩ := keeps_of_mem_session hlater
    exact remembered_of_keeps (isFaithful_make c store cwd tree) hfaithful hfolder hkeeps

end Compliance.License
