import Compliance.Proofs.License.Session

/-!
How far a call reaches. Whatever the root of a dependency is made of, the path of its file is that of
the folder with one name behind it, which can neither lead out of the folder nor further into it. So
a call reads and writes nothing but what stands right below the folder.
-/

namespace Compliance

def Event.path? : Event → Option String
  | .wrote path _ _ => some path
  | .looked path _ => some path
  | _ => none

theorem Event.isOnFile_of_path? {e : Event} {path : String} (h : e.path? = some path) :
    e.isOnFile = true := by
  cases e with
  | wrote => rfl
  | looked => rfl
  | _ => cases h

/-! ### One name behind a path -/

namespace Host.Path

/-- A path that leads to an entry of a folder: it is the path of the folder with one name behind it,
whether or not a slash has to be put in between. -/
structure IsChild (folder name path : String) : Prop where
  entry : IsEntry name
  relative : isAbsolute name = false
  joined : path = folder ++ name ∨ path = folder ++ "/" ++ name
  names : names path = Path.names folder ++ [name]
  absolute : isAbsolute path = isAbsolute folder

theorem isChild_join (folder : String) {name : String} (h : IsEntry name) :
    IsChild folder name (join folder name) where
  entry := h
  relative := isAbsolute_entry h
  joined := by
    unfold join
    rw [isAbsolute_entry h]
    simp only [Bool.false_eq_true, if_false]
    split
    · exact .inl rfl
    · exact .inr rfl
  names := names_join folder h
  absolute := isAbsolute_join folder h

end Host.Path

/-! ### What is read there -/

namespace Host.Tree

/-- In both trees a path leads to the same folder, or to none for the same reason, and the same stands
in it under a name. -/
def SameBelow (cwd : Location) (folder name : String) (t t' : Tree) : Prop :=
  t'.walk cwd folder = t.walk cwd folder ∧
    ∀ base, t.walk cwd folder = .ok base → t'.node? (base ++ [name]) = t.node? (base ++ [name])

variable {t t' : Tree} {cwd : Location} {folder name : String}

theorem SameBelow.entryFor_eq (h : SameBelow cwd folder name t t') :
    t'.entryFor cwd folder name = t.entryFor cwd folder name := by
  obtain ⟨hwalk, hnode⟩ := h
  unfold entryFor
  rw [hwalk]
  cases hbase : t.walk cwd folder with
  | error fault => rfl
  | ok base =>
    simp only [bind, Except.bind]
    rw [hnode base hbase]

theorem SameBelow.textAt?_eq (h : SameBelow cwd folder name t t') (hname : Path.IsEntry name) :
    t'.textAt? cwd (Path.join folder name) = t.textAt? cwd (Path.join folder name) := by
  obtain ⟨hwalk, hnode⟩ := h
  ext text
  rw [textAt?_join_eq_some hname, textAt?_join_eq_some hname, hwalk]
  refine and_congr_right fun _ => exists_congr fun base => and_congr_right fun hbase => ?_
  rw [hnode base hbase]

end Host.Tree

namespace World

open Host

/-- What comes back to an event at an entry of a folder is decided by what stands there. -/
theorem brings_of_sameBelow {w : World} {tree : Tree} {folder name path : String} {e : Event}
    (hname : Path.IsEntry name) (hpath : e.path? = some path) (hjoin : path = Path.join folder name)
    (h : Tree.SameBelow w.folder folder name w.tree tree) (hb : w.Brings e) :
    { w with tree := tree }.Brings e := by
  cases e with
  | wrote p text result =>
    obtain rfl : p = path := Option.some.inj hpath
    subst hjoin
    show ({ w with tree := tree }.writeFile (Path.join folder name) text).1 = result
    have hbefore : (w.writeFile (Path.join folder name) text).1 = result := hb
    rw [writeFile_join_fst _ _ _ hname] at hbefore ⊢
    rw [← hbefore]
    exact congrArg _ h.entryFor_eq
  | looked p found =>
    obtain rfl : p = path := Option.some.inj hpath
    subst hjoin
    show { w with tree := tree }.isFile (Path.join folder name) = found
    have hbefore : w.isFile (Path.join folder name) = found := hb
    rw [isFile_eq] at hbefore ⊢
    rw [← hbefore]
    exact congrArg Option.isSome (h.textAt?_eq hname)
  | _ => cases hpath

end World

namespace License

open Host

/-! ### The path of a job -/

variable {github : GitHub.Client} {store : Store} {policy : StalePolicy} {d : Dependency}
  {e : Event} {es : List Event} {path : String}

theorem Settled.path_eq {r : Coordinates} {x : Except Failure GitHub.Fetched} {o : Outcome}
    (h : Settled store policy r x es o) (he : e ∈ es) (hpath : e.path? = some path) :
    path = store.pathFor r := by
  cases h with
  | lost => cases he
  | unasked => cases he
  | kept | refused | absent =>
    obtain rfl := List.mem_singleton.1 he
    exact (Option.some.inj hpath).symm
  | present status =>
    rcases List.mem_cons.1 he with rfl | he
    · exact (Option.some.inj hpath).symm
    · split at he
      · obtain rfl := List.mem_singleton.1 he
        cases hpath
      · cases he

theorem Entered.path_eq {entry : Entry} (h : Entered github store policy d es entry) (he : e ∈ es)
    (hpath : e.path? = some path) : path = store.pathFor (coordinatesOf d.root) := by
  cases h with
  | intro hasked hsettled =>
    exact hsettled.path_eq (mem_filed hasked (Event.isOnFile_of_path? hpath) he) hpath

/-! ### The files of a call -/

def IsBelow (store : Store) (w : World) (r : Coordinates) (l : Location) : Prop :=
  ∃ base, w.tree.walk w.folder store.folder = .ok base ∧ l = base ++ [r.fileName]

/-- All that a call has to do with files is right below its folder: `w` and `u` are the worlds before
and after it. -/
structure Confined (store : Store) (ds : List Dependency) (w : World) (t : Trace) (u : World) :
    Prop where
  /-- A job reads and writes at one path. -/
  path : ∀ i e path, (i, e) ∈ t → e.path? = some path →
    ∃ d, ds[i]? = some d ∧ path = store.pathFor (coordinatesOf d.root)
  /-- Whenever it is followed, that path leads right below the folder, or nowhere. -/
  leads : ∀ (before after : Trace), t = before ++ after → ∀ d ∈ ds, ∀ l,
    (w.afterAll before.events).tree.find w.folder (store.pathFor (coordinatesOf d.root)) = .ok l →
      IsBelow store w (coordinatesOf d.root) l
  /-- A step reads nothing else: in any tree with the same folder and the same under the name of the
  file, the same comes back to it. -/
  reads : ∀ (before after : Trace) i e path, t = before ++ (i, e) :: after →
    e.path? = some path → ∃ d, ds[i]? = some d ∧ ∀ tree,
      Tree.SameBelow w.folder store.folder (coordinatesOf d.root).fileName
        (w.afterAll before.events).tree tree →
      { w.afterAll before.events with tree := tree }.Brings e
  /-- A step changes nothing else. -/
  writes : ∀ (before after : Trace) i e, t = before ++ (i, e) :: after → ∀ l,
    ((w.afterAll before.events).after e).tree.node? l ≠
        (w.afterAll before.events).tree.node? l →
      ∃ d, ds[i]? = some d ∧ IsBelow store w (coordinatesOf d.root) l
  /-- So everything else stays as it was. -/
  rest : ∀ l, (∀ d ∈ ds, ¬ IsBelow store w (coordinatesOf d.root) l) →
    u.tree.node? l = w.tree.node? l

section

variable {ds : List Dependency} {w u : World} {t : Trace} {entries : List Entry}
  (h : Batch.Interleaving (ds.map (entryJob github store policy)) w t entries u)
include h

theorem path_of_step {i : Nat} (he : (i, e) ∈ t) (hpath : e.path? = some path) :
    ∃ d, ds[i]? = some d ∧ path = store.pathFor (coordinatesOf d.root) := by
  obtain ⟨d, _, hd, _, hentered, hown⟩ := entered_of_step h he
  exact ⟨d, hd, hentered.path_eq hown hpath⟩

theorem isBelow_of_find {before after : Trace} (ht : t = before ++ after) (d : Dependency)
    {l : Location} (hl : (w.afterAll before.events).tree.find w.folder
      (store.pathFor (coordinatesOf d.root)) = .ok l) :
    IsBelow store w (coordinatesOf d.root) l := by
  have hin := isIn_of_interleaving h
  have hb := h.brought
  rw [ht, Trace.events_append] at hin hb
  obtain ⟨_, base, hbase, _, rfl⟩ :=
    (Tree.find_join_eq_ok (isEntry_coordinatesOf d.root)).1 hl
  refine ⟨base, ?_, rfl⟩
  exact World.walk_of_afterAll (World.bringsAll_append.1 hb).1
    (fun f hf => hin f (List.mem_append_left _ hf)) hbase

theorem brings_of_step {before after : Trace} {i : Nat} (ht : t = before ++ (i, e) :: after) :
    (w.afterAll before.events).Brings e := by
  have hb := h.brought
  rw [ht, Trace.events_append, World.bringsAll_append] at hb
  exact hb.2.1

theorem isBelow_of_changed {before after : Trace} {i : Nat} (ht : t = before ++ (i, e) :: after)
    {l : Location} (hl : ((w.afterAll before.events).after e).tree.node? l ≠
      (w.afterAll before.events).tree.node? l) :
    ∃ d, ds[i]? = some d ∧ IsBelow store w (coordinatesOf d.root) l := by
  have hmem : (i, e) ∈ t := ht ▸ List.mem_append_right _ List.mem_cons_self
  have hin : e.IsIn store.folder := isIn_of_interleaving h e (List.mem_map_of_mem hmem)
  rcases World.tree_after (brings_of_step h ht) hin with ⟨hsame, _⟩ |
    ⟨name, text, hname, heq, hwritten⟩
  · exact absurd (by rw [hsame]) hl
  · rcases Tree.node?_of_writeFile hname hwritten l with hsame | ⟨hfind, _⟩
    · exact absurd hsame hl
    · -- The path leads there after the step, which is before the steps that come then.
      have hpath : e.path? = some (Path.join store.folder name) := by rw [heq]; rfl
      obtain ⟨d, hd, hjoin⟩ := path_of_step h hmem hpath
      have hbehind : t = (before ++ [(i, e)]) ++ after := by simpa using ht
      refine ⟨d, hd, isBelow_of_find h hbehind d ?_⟩
      rw [World.folder_afterAll] at hfind
      rw [← hjoin, Trace.events_append, World.afterAll_append]
      exact hfind

theorem confined_of_interleaving : Confined store ds w t u where
  path i e path he hpath := path_of_step h he hpath
  leads before after ht d _ l hl := isBelow_of_find h ht d hl
  reads before after i e path ht hpath := by
    have hmem : (i, e) ∈ t := ht ▸ List.mem_append_right _ List.mem_cons_self
    obtain ⟨d, hd, hjoin⟩ := path_of_step h hmem hpath
    refine ⟨d, hd, fun tree htree => ?_⟩
    rw [← World.folder_afterAll w before.events] at htree
    exact World.brings_of_sameBelow (isEntry_coordinatesOf d.root) hpath hjoin htree
      (brings_of_step h ht)
  writes before after i e ht l hl := isBelow_of_changed h ht hl
  rest l hl := by
    rw [← h.left]
    rcases World.node?_afterAll h.brought (isIn_of_interleaving h) l with
      hsame | ⟨name, text, hname, hmem, hfind⟩
    · exact hsame
    · obtain ⟨⟨i, f⟩, hstep, rfl⟩ := List.mem_map.1 hmem
      obtain ⟨d, hd, hjoin⟩ := path_of_step h hstep rfl
      refine absurd ?_ (hl d (List.mem_of_getElem? hd))
      rw [hjoin] at hfind
      exact isBelow_of_find h (List.append_nil t).symm d hfind

end

/-- Whatever a root is made of, its file has a name of its own behind the path of the folder; and
whatever is listed, whatever the servers answer and in whatever order the jobs take their steps, a
call stays right below the folder. -/
theorem call_confined (github : GitHub.Client) (store : Store) (policy : StalePolicy)
    (workers : Nat) (ds : List Dependency) (w : World) :
    (∀ root, Path.IsChild store.folder (coordinatesOf root).fileName
        (store.pathFor (coordinatesOf root))) ∧
      ∃ t, Batch.Interleaving (ds.map (entryJob github store policy)) w t
          (fetchAll github store policy workers ds w).1.entries
          (fetchAll github store policy workers ds w).2 ∧
        Confined store ds w t (fetchAll github store policy workers ds w).2 := by
  refine ⟨fun root => Path.isChild_join store.folder (isEntry_coordinatesOf root), ?_⟩
  obtain ⟨t, h⟩ := Batch.run_interleaving workers (ds.map (entryJob github store policy)) w
  exact ⟨t, h, confined_of_interleaving h⟩

/-- A root that climbs up, or has no name at its end, has a file in the folder all the same. -/
example : (Store.mk "/srv/lic").pathFor (coordinatesOf "a/../../../etc/") = "/srv/lic/..--" := by
  decide +kernel

end License

end Compliance
