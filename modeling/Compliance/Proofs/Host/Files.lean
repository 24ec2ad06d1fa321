import Compliance.Host.Tree
import Compliance.Proofs.Except
import Compliance.Proofs.Text.Pieces

/-!
Files by their locations. A file that is written stands at one location and nothing else moves, so
every folder stays one and every file stays one. A path into a folder therefore keeps leading to the
same location, and what it takes to write there or to find a file there is a question about that
location alone.
-/

namespace Compliance.Host

/-! ### Paths -/

namespace Path

/-- A name that stands for an entry of its own. -/
structure IsEntry (name : String) : Prop where
  ne_empty : name ≠ ""
  noSlash : '/' ∉ name.toList
  ne_dot : name ≠ "."
  ne_dots : name ≠ ".."

theorem names_append_slash (a b : String) : names (a ++ "/" ++ b) = names a ++ names b := by
  have h : (a ++ "/" ++ b).toList = a.toList ++ '/' :: b.toList := by simp
  have hcut : Text.pieces (· == '/') (a.toList ++ '/' :: b.toList) =
      Text.pieces (· == '/') a.toList ++ Text.pieces (· == '/') b.toList :=
    Text.pieces_append_cons (by decide) _ _
  simp only [names, Text.splitAt, h, hcut, List.map_append, List.filter_append]

theorem names_entry {name : String} (h : IsEntry name) : names name = [name] := by
  have hpieces : Text.pieces (· == '/') name.toList = [name.toList] :=
    Text.pieces_of_forall fun c hc => by
      simpa using fun heq : c = '/' => h.noSlash (heq ▸ hc)
  simp [names, Text.splitAt, hpieces, h.ne_empty]

theorem isAbsolute_entry {name : String} (h : IsEntry name) : isAbsolute name = false := by
  have hhead : name.toList.head? ≠ some '/' := fun heq => h.noSlash (List.mem_of_head? heq)
  simpa [isAbsolute] using hhead

theorem endsInSlash_iff {path : String} : endsInSlash path = true ↔ ∃ a, path = a ++ "/" := by
  simp only [endsInSlash, beq_iff_eq, List.getLast?_eq_some_iff]
  constructor
  · rintro ⟨cs, hcs⟩
    exact ⟨String.ofList cs, String.toList_inj.1 (by simp [hcs])⟩
  · rintro ⟨a, rfl⟩
    exact ⟨a.toList, by simp⟩

/-- An entry of a folder is one name behind those of the folder. -/
theorem names_join (folder : String) {name : String} (h : IsEntry name) :
    names (join folder name) = names folder ++ [name] := by
  unfold join
  rw [isAbsolute_entry h]
  simp only [Bool.false_eq_true, if_false]
  split
  · rename_i hfolder
    rcases hfolder with rfl | hslash
    · rw [String.empty_append, names_entry h]
      rfl
    · -- The piece behind the last slash of the folder is empty, and no name.
      obtain ⟨a, rfl⟩ := endsInSlash_iff.1 hslash
      rw [names_append_slash, names_entry h]
      have hnone := names_append_slash a ""
      rw [String.append_empty] at hnone
      rw [hnone]
      simp [names, Text.splitAt, Text.pieces]
  · rw [names_append_slash, names_entry h]

theorem join_inj {folder a b : String} (ha : IsEntry a) (hb : IsEntry b)
    (h : join folder a = join folder b) : a = b := by
  have hnames : names folder ++ [a] = names folder ++ [b] := by
    rw [← names_join folder ha, ← names_join folder hb, h]
  simpa using hnames

theorem isAbsolute_join (folder : String) {name : String} (h : IsEntry name) :
    isAbsolute (join folder name) = isAbsolute folder := by
  have hname := isAbsolute_entry h
  unfold join
  rw [hname]
  simp only [Bool.false_eq_true, if_false]
  by_cases hfolder : folder = ""
  · subst hfolder
    simpa using hname.trans (by decide)
  · have hne : folder.toList ≠ [] := by simpa using hfolder
    obtain ⟨c, cs, hcs⟩ := List.exists_cons_of_ne_nil hne
    split <;> simp [isAbsolute, hcs]

theorem endsInSlash_join (folder : String) {name : String} (h : IsEntry name) :
    endsInSlash (join folder name) = false := by
  have hlast : name.toList.getLast? ≠ some '/' := fun heq =>
    h.noSlash (List.mem_of_getLast? heq)
  have hend (s : String) : endsInSlash (s ++ name) = false := by
    simpa [endsInSlash, h.ne_empty] using hlast
  unfold join
  rw [isAbsolute_entry h]
  simp only [Bool.false_eq_true, if_false]
  split
  · exact hend folder
  · exact hend (folder ++ "/")

end Path

/-! ### Locations -/

namespace Tree

theorem lookup_replaced (es : List (Location × Node)) (l m : Location) (n : Node) :
    (es.map fun e => if e.1 = l then (l, n) else e).lookup m =
      if m = l ∧ (es.lookup l).isSome then some n else es.lookup m := by
  induction es with
  | nil => simp
  | cons e es ih =>
    obtain ⟨k, x⟩ := e
    rw [List.map_cons, List.lookup_cons, List.lookup_cons, List.lookup_cons]
    by_cases hk : k = l <;> by_cases hm : m = k <;> by_cases hl : m = l <;> grind

theorem lookup_put (t : Tree) (l m : Location) (n : Node) :
    (t.put l n).entries.lookup m = if m = l then some n else t.entries.lookup m := by
  unfold put
  split
  · rename_i h
    rw [lookup_replaced]
    simp [h]
  · rename_i h
    have hnone : t.entries.lookup l = none := Option.not_isSome_iff_eq_none.1 h
    rw [List.lookup_append, List.lookup_cons, List.lookup_nil]
    by_cases hm : m = l
    · subst hm
      simp [hnone]
    · simp [hm, beq_eq_false_iff_ne.2 hm]

/-- What stands anywhere after a node was put somewhere below the root. -/
theorem node?_put (t : Tree) {l : Location} (hl : l ≠ []) (n : Node) (m : Location) :
    (t.put l n).node? m = if m = l then some n else t.node? m := by
  by_cases hm : m = []
  · subst hm
    simp [Ne.symm hl]
  · simp only [node?, hm, if_false, lookup_put]

/-- Every entry of a tree is in another one as well, a folder as a folder and a file as a file. -/
def Keeps (t u : Tree) : Prop :=
  ∀ l n, t.node? l = some n → ∃ n', u.node? l = some n' ∧ (n' = .folder ↔ n = .folder)

theorem Keeps.refl (t : Tree) : t.Keeps t := fun _ n h => ⟨n, h, .rfl⟩

theorem Keeps.trans {t u v : Tree} (h : t.Keeps u) (h' : u.Keeps v) : t.Keeps v := by
  intro l n hn
  obtain ⟨n', hn', hiff⟩ := h l n hn
  obtain ⟨n'', hn'', hiff'⟩ := h' l n' hn'
  exact ⟨n'', hn'', hiff'.trans hiff⟩

theorem Keeps.folder {t u : Tree} (h : t.Keeps u) {l : Location} (hl : t.node? l = some .folder) :
    u.node? l = some .folder := by
  obtain ⟨n, hn, hiff⟩ := h l _ hl
  exact hiff.2 rfl ▸ hn

theorem Keeps.file {t u : Tree} (h : t.Keeps u) {l : Location} {text : String}
    (hl : t.node? l = some (.file text)) : ∃ text', u.node? l = some (.file text') := by
  obtain ⟨n, hn, hiff⟩ := h l _ hl
  cases n with
  | folder => exact absurd (hiff.1 rfl) (by simp)
  | file text' => exact ⟨text', hn⟩

/-- Where no folder stands a file can be put, and everything else stays. -/
theorem keeps_put {t : Tree} {l : Location} (hl : l ≠ []) (h : t.node? l ≠ some .folder)
    (text : String) : t.Keeps (t.put l (.file text)) := by
  intro m n hn
  rw [node?_put t hl]
  by_cases hm : m = l
  · subst hm
    refine ⟨_, if_pos rfl, ?_⟩
    have hne : n ≠ .folder := fun heq => h (heq ▸ hn)
    simp [hne]
  · exact ⟨n, by rw [if_neg hm, hn], .rfl⟩

theorem asFolder_eq_ok {t : Tree} {l : Location} :
    t.asFolder l = .ok () ↔ t.node? l = some .folder := by
  unfold asFolder
  split <;> simp_all

/-! ### The entries of a folder -/

def walk (t : Tree) (cwd : Location) (path : String) : Except Fault Location := do
  let l ← (Path.names path).foldlM t.enter (start cwd path)
  t.asFolder l
  return l

theorem enter_of_keeps {t u : Tree} (h : t.Keeps u) {here l : Location} {name : String}
    (ht : t.enter here name = .ok l) : u.enter here name = .ok l := by
  unfold enter at ht ⊢
  obtain ⟨_, hfolder, ht⟩ := bind_eq_ok.1 ht
  refine bind_eq_ok.2 ⟨(), asFolder_eq_ok.2 (h.folder (asFolder_eq_ok.1 hfolder)), ?_⟩
  -- Only a name that stands for an entry of its own is looked for in the tree.
  by_cases hdot : name = "."
  · rwa [if_pos hdot] at ht ⊢
  rw [if_neg hdot] at ht ⊢
  by_cases hdots : name = ".."
  · rwa [if_pos hdots] at ht ⊢
  rw [if_neg hdots] at ht ⊢
  obtain ⟨hlong, ht⟩ := refusal_eq_ok.1 ht
  apply refusal_eq_ok.2
  refine ⟨hlong, ?_⟩
  cases hn : t.node? (here ++ [name]) with
  | none =>
    rw [hn] at ht
    cases ht
  | some n =>
    obtain ⟨n', hn', _⟩ := h _ n hn
    rw [hn] at ht
    rw [hn']
    exact ht

theorem walk_eq_ok {t : Tree} {cwd l : Location} {path : String} :
    t.walk cwd path = .ok l ↔
      (Path.names path).foldlM t.enter (start cwd path) = .ok l ∧ t.node? l = some .folder := by
  unfold walk
  constructor
  · intro h
    obtain ⟨m, hm, h⟩ := bind_eq_ok.1 h
    obtain ⟨_, hfolder, h⟩ := bind_eq_ok.1 h
    obtain rfl := pure_eq_ok.1 h
    exact ⟨hm, asFolder_eq_ok.1 hfolder⟩
  · rintro ⟨hl, hfolder⟩
    exact bind_eq_ok.2 ⟨l, hl, bind_eq_ok.2 ⟨(), asFolder_eq_ok.2 hfolder, rfl⟩⟩

/-- Names keep leading to where they lead. -/
theorem foldlM_enter_of_keeps {t u : Tree} (h : t.Keeps u) {names : List String}
    {here l : Location} (ht : names.foldlM t.enter here = .ok l) :
    names.foldlM u.enter here = .ok l := by
  induction names generalizing here with
  | nil => exact ht
  | cons name names ih =>
    rw [List.foldlM_cons] at ht ⊢
    obtain ⟨next, hnext, ht⟩ := bind_eq_ok.1 ht
    exact bind_eq_ok.2 ⟨next, enter_of_keeps h hnext, ih ht⟩

/-- A path keeps leading to the folder that it leads to. -/
theorem walk_of_keeps {t u : Tree} (h : t.Keeps u) {cwd l : Location} {path : String}
    (ht : t.walk cwd path = .ok l) : u.walk cwd path = .ok l := by
  obtain ⟨hl, hfolder⟩ := walk_eq_ok.1 ht
  exact walk_eq_ok.2 ⟨foldlM_enter_of_keeps h hl, h.folder hfolder⟩

def Askable (folder name : String) : Prop :=
  checkPath (Path.join folder name) = .ok () ∧ ¬ longestName < name.utf8ByteSize

variable {name : String}

theorem start_join (cwd : Location) (folder : String) (h : Path.IsEntry name) :
    start cwd (Path.join folder name) = start cwd folder := by
  simp only [start, Path.isAbsolute_join folder h]

theorem enter_eq_ok {t : Tree} {here l : Location} (hdot : name ≠ ".") (hdots : name ≠ "..") :
    t.enter here name = .ok l ↔ t.node? here = some .folder ∧ ¬ longestName < name.utf8ByteSize ∧
      (t.node? (here ++ [name])).isSome ∧ l = here ++ [name] := by
  unfold enter
  rw [if_neg hdot, if_neg hdots]
  constructor
  · intro hl
    obtain ⟨_, hfolder, hl⟩ := bind_eq_ok.1 hl
    obtain ⟨hlong, hl⟩ := refusal_eq_ok.1 hl
    refine ⟨asFolder_eq_ok.1 hfolder, hlong, ?_⟩
    cases hn : t.node? (here ++ [name]) with
    | none =>
      rw [hn] at hl
      cases hl
    | some n =>
      rw [hn] at hl
      exact ⟨rfl, (pure_eq_ok.1 hl).symm⟩
  · rintro ⟨hfolder, hlong, hsome, rfl⟩
    refine bind_eq_ok.2 ⟨(), asFolder_eq_ok.2 hfolder, refusal_eq_ok.2 ⟨hlong, ?_⟩⟩
    obtain ⟨n, hn⟩ := Option.isSome_iff_exists.1 hsome
    rw [hn]
    rfl

/-- An entry of a folder is found where it stands. -/
theorem find_join_eq_ok {t : Tree} {cwd m : Location} {folder : String} (h : Path.IsEntry name) :
    t.find cwd (Path.join folder name) = .ok m ↔
      Askable folder name ∧ ∃ l, t.walk cwd folder = .ok l ∧
        (t.node? (l ++ [name])).isSome ∧ m = l ++ [name] := by
  unfold find Askable
  rw [Path.names_join folder h, start_join cwd folder h, Path.endsInSlash_join folder h]
  constructor
  · intro hm
    obtain ⟨_, hcheck, hm⟩ := bind_eq_ok.1 hm
    obtain ⟨m', hm', hm⟩ := bind_eq_ok.1 hm
    obtain rfl := pure_eq_ok.1 hm
    rw [List.foldlM_append] at hm'
    obtain ⟨l, hl, hm'⟩ := bind_eq_ok.1 hm'
    rw [List.foldlM_cons] at hm'
    obtain ⟨m'', hm'', hm'⟩ := bind_eq_ok.1 hm'
    obtain rfl := pure_eq_ok.1 hm'
    obtain ⟨hfolder, hlong, hsome, rfl⟩ := (enter_eq_ok h.ne_dot h.ne_dots).1 hm''
    exact ⟨⟨hcheck, hlong⟩, l, walk_eq_ok.2 ⟨hl, hfolder⟩, hsome, rfl⟩
  · rintro ⟨⟨hcheck, hlong⟩, l, hwalk, hsome, rfl⟩
    obtain ⟨hl, hfolder⟩ := walk_eq_ok.1 hwalk
    have henter := (enter_eq_ok h.ne_dot h.ne_dots).2 ⟨hfolder, hlong, hsome, rfl⟩
    refine bind_eq_ok.2 ⟨(), hcheck, bind_eq_ok.2 ⟨l ++ [name], ?_, rfl⟩⟩
    rw [List.foldlM_append]
    refine bind_eq_ok.2 ⟨l, hl, ?_⟩
    rw [List.foldlM_cons]
    exact bind_eq_ok.2 ⟨_, henter, rfl⟩

/-- The location at which a file can be put as an entry of a folder, also where one stands. -/
def entryFor (t : Tree) (cwd : Location) (folder name : String) : Except Fault Location := do
  checkPath (Path.join folder name)
  let l ← t.walk cwd folder
  if longestName < name.utf8ByteSize then throw .nameTooLong
  else if t.node? (l ++ [name]) = some .folder then throw .isFolder
  else return l ++ [name]

theorem entryFor_eq_ok {t : Tree} {cwd m : Location} {folder : String} :
    t.entryFor cwd folder name = .ok m ↔
      Askable folder name ∧ ∃ l, t.walk cwd folder = .ok l ∧
        t.node? (l ++ [name]) ≠ some .folder ∧ m = l ++ [name] := by
  unfold entryFor Askable
  constructor
  · intro hm
    obtain ⟨_, hcheck, hm⟩ := bind_eq_ok.1 hm
    obtain ⟨l, hl, hm⟩ := bind_eq_ok.1 hm
    obtain ⟨hlong, hm⟩ := refusal_eq_ok.1 hm
    obtain ⟨hfree, hm⟩ := refusal_eq_ok.1 hm
    exact ⟨⟨hcheck, hlong⟩, l, hl, hfree, (pure_eq_ok.1 hm).symm⟩
  · rintro ⟨⟨hcheck, hlong⟩, l, hl, hfree, rfl⟩
    refine bind_eq_ok.2 ⟨(), hcheck, bind_eq_ok.2 ⟨l, hl, ?_⟩⟩
    exact refusal_eq_ok.2 ⟨hlong, refusal_eq_ok.2 ⟨hfree, rfl⟩⟩

/-- What it takes to write an entry has nothing to do with the text. -/
theorem writeFile_join (t : Tree) (cwd : Location) (folder text : String)
    (h : Path.IsEntry name) :
    t.writeFile cwd (Path.join folder name) text =
      (t.entryFor cwd folder name).map fun l => t.put l (.file text) := by
  unfold writeFile place entryFor walk
  rw [Path.names_join folder h, start_join cwd folder h, Path.endsInSlash_join folder h,
    List.dropLast_concat, List.getLast?_concat]
  cases checkPath (Path.join folder name) with
  | error f => rfl
  | ok _ =>
    cases (Path.names folder).foldlM t.enter (start cwd folder) with
    | error f => rfl
    | ok l =>
      cases hf : t.asFolder l with
      | error f =>
        simp only [hf, bind, Except.bind]
        rfl
      | ok _ =>
        simp only [hf, h.ne_dot, h.ne_dots, or_self, if_false, Bool.false_eq_true, bind,
          Except.bind, pure, Except.pure]
        split
        · rfl
        · split <;> rfl

/-- Writing an entry of a folder puts a file at one location. -/
theorem writeFile_join_eq_ok {t u : Tree} {cwd : Location} {folder text : String}
    (h : Path.IsEntry name) :
    t.writeFile cwd (Path.join folder name) text = .ok u ↔
      Askable folder name ∧ ∃ l, t.walk cwd folder = .ok l ∧
        t.node? (l ++ [name]) ≠ some .folder ∧ u = t.put (l ++ [name]) (.file text) := by
  rw [writeFile_join t cwd folder text h, map_eq_ok]
  constructor
  · rintro ⟨m, hm, rfl⟩
    obtain ⟨hask, l, hl, hfree, rfl⟩ := entryFor_eq_ok.1 hm
    exact ⟨hask, l, hl, hfree, rfl⟩
  · rintro ⟨hask, l, hl, hfree, rfl⟩
    exact ⟨_, entryFor_eq_ok.2 ⟨hask, l, hl, hfree, rfl⟩, rfl⟩

def textAt? (t : Tree) (cwd : Location) (path : String) : Option String :=
  match t.find cwd path with
  | .error _ => none
  | .ok l =>
    match t.node? l with
    | some (.file text) => some text
    | _ => none

theorem textAt?_join_eq_some {t : Tree} {cwd : Location} {folder text : String}
    (h : Path.IsEntry name) :
    t.textAt? cwd (Path.join folder name) = some text ↔
      Askable folder name ∧ ∃ l, t.walk cwd folder = .ok l ∧
        t.node? (l ++ [name]) = some (.file text) := by
  unfold textAt?
  constructor
  · intro htext
    cases hfind : t.find cwd (Path.join folder name) with
    | error f => simp [hfind] at htext
    | ok m =>
      obtain ⟨hask, l, hl, _, rfl⟩ := (find_join_eq_ok h).1 hfind
      simp only [hfind] at htext
      split at htext
      · rename_i text' hn
        obtain rfl := Option.some.inj htext
        exact ⟨hask, l, hl, hn⟩
      · contradiction
  · rintro ⟨hask, l, hl, hn⟩
    have hfind : t.find cwd (Path.join folder name) = .ok (l ++ [name]) :=
      (find_join_eq_ok h).2 ⟨hask, l, hl, by simp [hn], rfl⟩
    simp [hfind, hn]

/-- The file at a path that goes through a folder stands where the folder stood before. -/
theorem find_of_textAt? {t u : Tree} {cwd l : Location} {folder text : String} (h : t.Keeps u)
    (hname : Path.IsEntry name) (hl : t.walk cwd folder = .ok l)
    (htext : u.textAt? cwd (Path.join folder name) = some text) :
    u.find cwd (Path.join folder name) = .ok (l ++ [name]) ∧
      u.node? (l ++ [name]) = some (.file text) := by
  obtain ⟨hask, m, hm, hn⟩ := (textAt?_join_eq_some hname).1 htext
  obtain rfl : l = m := Except.ok.inj ((walk_of_keeps h hl).symm.trans hm)
  exact ⟨(find_join_eq_ok hname).2 ⟨hask, l, hm, by simp [hn], rfl⟩, hn⟩

theorem isFile_eq (t : Tree) (cwd : Location) (path : String) :
    t.isFile cwd path = (t.textAt? cwd path).isSome := by
  unfold isFile textAt?
  cases t.find cwd path with
  | error f => rfl
  | ok l =>
    show (t.node? l).any _ = Option.isSome (match t.node? l with | some (.file text) => _ | _ => _)
    cases t.node? l with
    | none => rfl
    | some n => cases n <;> rfl

/-! ### After a write -/

variable {t u : Tree} {cwd l : Location} {folder other text : String}

theorem find_of_keeps (h : t.Keeps u) (hname : Path.IsEntry name)
    (hl : t.find cwd (Path.join folder name) = .ok l) :
    u.find cwd (Path.join folder name) = .ok l := by
  obtain ⟨hask, m, hm, hsome, rfl⟩ := (find_join_eq_ok hname).1 hl
  obtain ⟨n, hn⟩ := Option.isSome_iff_exists.1 hsome
  obtain ⟨n', hn', _⟩ := h _ n hn
  exact (find_join_eq_ok hname).2 ⟨hask, m, walk_of_keeps h hm, by simp [hn'], rfl⟩

/-- Where a file is found there is one ever after. -/
theorem isSome_textAt?_of_keeps (h : t.Keeps u) (hname : Path.IsEntry name)
    (ht : (t.textAt? cwd (Path.join folder name)).isSome) :
    (u.textAt? cwd (Path.join folder name)).isSome := by
  obtain ⟨text, htext⟩ := Option.isSome_iff_exists.1 ht
  obtain ⟨hask, l, hl, hn⟩ := (textAt?_join_eq_some hname).1 htext
  obtain ⟨text', hn'⟩ := h.file hn
  exact Option.isSome_iff_exists.2
    ⟨text', (textAt?_join_eq_some hname).2 ⟨hask, l, walk_of_keeps h hl, hn'⟩⟩

theorem keeps_of_writeFile (hother : Path.IsEntry other)
    (h : t.writeFile cwd (Path.join folder other) text = .ok u) : t.Keeps u := by
  obtain ⟨_, l, _, hfree, rfl⟩ := (writeFile_join_eq_ok hother).1 h
  exact keeps_put (by simp) hfree text

/-- One location is written, and the path leads to it. -/
theorem node?_of_writeFile (hother : Path.IsEntry other)
    (h : t.writeFile cwd (Path.join folder other) text = .ok u) (m : Location) :
    u.node? m = t.node? m ∨
      u.find cwd (Path.join folder other) = .ok m ∧ u.node? m = some (.file text) := by
  have hkeeps := keeps_of_writeFile hother h
  obtain ⟨hask, l, hl, _, rfl⟩ := (writeFile_join_eq_ok hother).1 h
  have hput := node?_put t (l := l ++ [other]) (by simp) (.file text)
  by_cases hm : m = l ++ [other]
  · refine .inr ⟨(find_join_eq_ok hother).2 ⟨hask, l, walk_of_keeps hkeeps hl, ?_, hm⟩, ?_⟩
    · simp [hput]
    · rw [hput, if_pos hm]
  · exact .inl (by rw [hput, if_neg hm])

/-- A write gives its text to one entry of the folder and leaves the texts of the others. -/
theorem textAt?_of_writeFile (hother : Path.IsEntry other) (hname : Path.IsEntry name)
    (h : t.writeFile cwd (Path.join folder other) text = .ok u) :
    u.textAt? cwd (Path.join folder name) =
      if name = other then some text else t.textAt? cwd (Path.join folder name) := by
  have hkeeps := keeps_of_writeFile hother h
  obtain ⟨hask, l, hl, _, rfl⟩ := (writeFile_join_eq_ok hother).1 h
  have hwalk := walk_of_keeps hkeeps hl
  have hput := node?_put t (l := l ++ [other]) (by simp) (.file text)
  by_cases heq : name = other
  · subst heq
    rw [if_pos rfl]
    exact (textAt?_join_eq_some hname).2 ⟨hask, l, hwalk, by rw [hput, if_pos rfl]⟩
  · rw [if_neg heq]
    ext text'
    rw [textAt?_join_eq_some hname, textAt?_join_eq_some hname, hwalk, hl]
    have hne (m : Location) : m ++ [name] ≠ l ++ [other] := fun h => by simp_all
    simp only [hput, hne, if_false]

/-- A write changes nothing about where files can be put, or why they cannot. -/
theorem entryFor_of_writeFile (hother : Path.IsEntry other)
    (h : t.writeFile cwd (Path.join folder other) text = .ok u) :
    u.entryFor cwd folder name = t.entryFor cwd folder name := by
  have hkeeps := keeps_of_writeFile hother h
  obtain ⟨_, l, hl, hfree, rfl⟩ := (writeFile_join_eq_ok hother).1 h
  have hput := node?_put t (l := l ++ [other]) (by simp) (.file text)
  have hfolder : (t.put (l ++ [other]) (.file text)).node? (l ++ [name]) = some .folder ↔
      t.node? (l ++ [name]) = some .folder := by
    rw [hput]
    by_cases heq : name = other
    · subst heq
      simpa using hfree
    · simp [heq]
  unfold entryFor
  rw [walk_of_keeps hkeeps hl, hl]
  simp only [bind, Except.bind, hfolder]

/-! ### Any path -/

theorem place_eq_ok {path : String} :
    t.place cwd path = .ok (l, some name) ↔ checkPath path = .ok () ∧
      (Path.names path).dropLast.foldlM t.enter (start cwd path) = .ok l ∧
      t.node? l = some .folder ∧ (Path.names path).getLast? = some name ∧
      name ≠ "." ∧ name ≠ ".." := by
  unfold place
  constructor
  · intro h
    obtain ⟨_, hcheck, h⟩ := bind_eq_ok.1 h
    obtain ⟨m, hm, h⟩ := bind_eq_ok.1 h
    obtain ⟨_, hfolder, h⟩ := bind_eq_ok.1 h
    split at h
    · cases pure_eq_ok.1 h
    · rename_i last hlast
      have hplace := pure_eq_ok.1 h
      by_cases hdots : last = "." ∨ last = ".."
      · rw [if_pos hdots] at hplace
        cases hplace
      · rw [if_neg hdots] at hplace
        obtain ⟨rfl, hname⟩ := Prod.mk.inj hplace
        obtain rfl := Option.some.inj hname
        exact ⟨hcheck, hm, asFolder_eq_ok.1 hfolder, hlast, not_or.1 hdots⟩
  · rintro ⟨hcheck, hl, hfolder, hlast, hdot, hdots⟩
    refine bind_eq_ok.2 ⟨(), hcheck, bind_eq_ok.2 ⟨l, hl, ?_⟩⟩
    refine bind_eq_ok.2 ⟨(), asFolder_eq_ok.2 hfolder, ?_⟩
    rw [hlast]
    exact pure_eq_ok.2 (by rw [if_neg (not_or.2 ⟨hdot, hdots⟩)])

theorem writeFile_eq_ok {path : String} :
    t.writeFile cwd path text = .ok u ↔ ∃ l name, t.place cwd path = .ok (l, some name) ∧
      Path.endsInSlash path = false ∧ ¬ longestName < name.utf8ByteSize ∧
      t.node? (l ++ [name]) ≠ some .folder ∧ u = t.put (l ++ [name]) (.file text) := by
  unfold writeFile
  constructor
  · intro h
    obtain ⟨⟨l, last⟩, hplace, h⟩ := bind_eq_ok.1 h
    cases last with
    | none => cases h
    | some name =>
      obtain ⟨hslash, h⟩ := refusal_eq_ok.1 h
      obtain ⟨hlong, h⟩ := refusal_eq_ok.1 h
      obtain ⟨hfree, h⟩ := refusal_eq_ok.1 h
      exact ⟨l, name, hplace, Bool.eq_false_iff.2 hslash, hlong, hfree, (pure_eq_ok.1 h).symm⟩
  · rintro ⟨l, name, hplace, hslash, hlong, hfree, rfl⟩
    refine bind_eq_ok.2 ⟨_, hplace, refusal_eq_ok.2 ⟨Bool.eq_false_iff.1 hslash, ?_⟩⟩
    exact refusal_eq_ok.2 ⟨hlong, refusal_eq_ok.2 ⟨hfree, rfl⟩⟩

/-- What is written to a path is found by it. -/
theorem textAt?_self_of_writeFile {path : String} (h : t.writeFile cwd path text = .ok u) :
    u.textAt? cwd path = some text := by
  obtain ⟨l, name, hplace, hslash, hlong, hfree, rfl⟩ := writeFile_eq_ok.1 h
  obtain ⟨hcheck, hl, hfolder, hlast, hdot, hdots⟩ := place_eq_ok.1 hplace
  have hne : l ++ [name] ≠ [] := by simp
  have hkeeps : t.Keeps (t.put (l ++ [name]) (.file text)) := keeps_put hne hfree text
  have hnode : (t.put (l ++ [name]) (.file text)).node? (l ++ [name]) = some (.file text) := by
    rw [node?_put t hne, if_pos rfl]
  have henter : (t.put (l ++ [name]) (.file text)).enter l name = .ok (l ++ [name]) :=
    (enter_eq_ok hdot hdots).2 ⟨hkeeps.folder hfolder, hlong, by simp [hnode], rfl⟩
  have hfind : (t.put (l ++ [name]) (.file text)).find cwd path = .ok (l ++ [name]) := by
    obtain ⟨names, hnames⟩ := List.getLast?_eq_some_iff.1 hlast
    rw [hnames, List.dropLast_concat] at hl
    unfold find
    rw [hslash, hnames]
    refine bind_eq_ok.2 ⟨(), hcheck, bind_eq_ok.2 ⟨l ++ [name], ?_, rfl⟩⟩
    rw [List.foldlM_append]
    refine bind_eq_ok.2 ⟨l, foldlM_enter_of_keeps hkeeps hl, ?_⟩
    rw [List.foldlM_cons]
    exact bind_eq_ok.2 ⟨_, henter, rfl⟩
  rw [textAt?, hfind]
  simp only [hnode]

end Tree

end Compliance.Host
