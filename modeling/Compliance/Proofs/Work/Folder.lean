import Compliance.Proofs.Host.Files
import Compliance.Proofs.Work.Talk

/-!
Events on the entries of one folder. Whatever their order, of the texts that are written to an entry
the last one stays, and which writes are refused is settled before the first of them.
-/

namespace Compliance

open Host

namespace Event

/-- All that an event does to files it does to entries of a folder. -/
def IsIn (folder : String) : Event → Prop
  | .wrote path _ _ => ∃ name, Path.IsEntry name ∧ path = Path.join folder name
  | .looked path _ => ∃ name, Path.IsEntry name ∧ path = Path.join folder name
  | _ => True

theorem isIn_of_isOnFile_eq {e : Event} (folder : String) (h : e.isOnFile = false) :
    e.IsIn folder := by
  cases e with
  | wrote path text r => cases h
  | looked path b => cases h
  | _ => trivial

def put? (path : String) : Event → Option String
  | .wrote p text (.ok ()) => if p = path then some text else none
  | _ => none

def lastPut? (path : String) : List Event → Option String
  | [] => none
  | e :: es => (lastPut? path es).or (e.put? path)

theorem put?_eq_some {path text : String} {e : Event} :
    e.put? path = some text ↔ e = .wrote path text (.ok ()) := by
  constructor
  · intro h
    unfold put? at h
    split at h
    · rename_i p t
      by_cases hp : p = path
      · subst hp
        obtain rfl : t = text := by simpa using h
        rfl
      · simp [hp] at h
    · cases h
  · rintro rfl
    simp [put?]

theorem mem_of_lastPut? {path text : String} {es : List Event}
    (h : lastPut? path es = some text) : Event.wrote path text (.ok ()) ∈ es := by
  induction es with
  | nil => cases h
  | cons e es ih =>
    rcases Option.or_eq_some_iff.1 h with hes | ⟨_, he⟩
    · exact List.mem_cons_of_mem _ (ih hes)
    · rw [put?_eq_some.1 he]
      exact List.mem_cons_self

theorem lastPut?_eq_none {path : String} {es : List Event} :
    lastPut? path es = none ↔ ∀ text, Event.wrote path text (.ok ()) ∉ es := by
  induction es with
  | nil => simp [lastPut?]
  | cons e es ih =>
    have he : e.put? path = none ↔ ∀ text, Event.wrote path text (.ok ()) ≠ e := by
      rw [Option.eq_none_iff_forall_ne_some]
      exact forall_congr' fun text => not_congr (put?_eq_some.trans eq_comm)
    simp only [lastPut?, Option.or_eq_none_iff, ih, he, List.mem_cons, not_or, forall_and]
    exact and_comm

end Event

namespace World

def textAt? (w : World) (path : String) : Option String := w.tree.textAt? w.folder path

theorem isFile_eq (w : World) (path : String) : w.isFile path = (w.textAt? path).isSome :=
  w.tree.isFile_eq w.folder path

theorem textAt?_of_written {w : World} {path text : String}
    (h : (w.writeFile path text).1 = .ok ()) :
    (w.writeFile path text).2.textAt? path = some text := by
  rw [writeFile_fst, map_eq_ok] at h
  obtain ⟨t, ht, -⟩ := h
  unfold writeFile
  rw [ht]
  exact Tree.textAt?_self_of_writeFile ht

/-- What comes back for a write to an entry is what it takes to write there. -/
theorem writeFile_join_fst (w : World) (folder text : String) {name : String}
    (hname : Path.IsEntry name) :
    (w.writeFile (Path.join folder name) text).1 =
      (w.tree.entryFor w.folder folder name).map fun _ => () := by
  unfold writeFile
  rw [Tree.writeFile_join _ _ _ _ hname]
  cases w.tree.entryFor w.folder folder name <;> rfl

/-- The files are changed by a write that is not refused, and by nothing else. -/
theorem tree_after {w : World} {e : Event} {folder : String} (hb : w.Brings e)
    (he : e.IsIn folder) :
    ((w.after e).tree = w.tree ∧ ∀ path, e.put? path = none) ∨
      ∃ name text, Path.IsEntry name ∧ e = .wrote (Path.join folder name) text (.ok ()) ∧
        w.tree.writeFile w.folder (Path.join folder name) text = .ok (w.after e).tree := by
  cases e with
  | wrote path text r =>
    obtain ⟨name, hname, rfl⟩ := he
    obtain rfl : (w.writeFile (Path.join folder name) text).1 = r := hb
    cases h : w.tree.writeFile w.folder (Path.join folder name) text with
    | error f => exact .inl ⟨by simp [after, writeFile, h], by simp [Event.put?, writeFile, h]⟩
    | ok t =>
      exact .inr ⟨name, text, hname, by simp [writeFile, h], by simp [after, writeFile, h]⟩
  | _ => exact .inl ⟨rfl, fun _ => rfl⟩

variable {w : World} {folder name : String} {e : Event} {es : List Event}

theorem keeps_after (hb : w.Brings e) (he : e.IsIn folder) : w.tree.Keeps (w.after e).tree := by
  rcases tree_after hb he with ⟨h, _⟩ | ⟨_, _, hother, _, h⟩
  · rw [h]
    exact .refl _
  · exact Tree.keeps_of_writeFile hother h

theorem textAt?_after (hname : Path.IsEntry name) (hb : w.Brings e) (he : e.IsIn folder) :
    (w.after e).textAt? (Path.join folder name) =
      (e.put? (Path.join folder name)).or (w.textAt? (Path.join folder name)) := by
  unfold textAt?
  rw [folder_after]
  rcases tree_after hb he with ⟨h, hnone⟩ | ⟨other, text, hother, rfl, h⟩
  · rw [h, hnone, Option.none_or]
  · rw [Tree.textAt?_of_writeFile hother hname h]
    by_cases heq : name = other
    · subst heq
      simp [Event.put?]
    · have hne : Path.join folder other ≠ Path.join folder name := fun hjoin =>
        heq (Path.join_inj hname hother hjoin.symm)
      simp [Event.put?, heq, hne]

/-- Where a file can be put does not change. -/
theorem entryFor_after (hb : w.Brings e) (he : e.IsIn folder) :
    (w.after e).tree.entryFor w.folder folder name = w.tree.entryFor w.folder folder name := by
  rcases tree_after hb he with ⟨h, _⟩ | ⟨_, _, hother, _, h⟩
  · rw [h]
  · exact Tree.entryFor_of_writeFile hother h

/-- A write to an entry of a folder does not bring the folder about. -/
theorem walk_of_after (hb : w.Brings e) (he : e.IsIn folder) {base : Location}
    (h : (w.after e).tree.walk w.folder folder = .ok base) :
    w.tree.walk w.folder folder = .ok base := by
  rcases tree_after hb he with ⟨hsame, _⟩ | ⟨_, _, hother, _, hwritten⟩
  · rwa [hsame] at h
  · obtain ⟨_, l, hl, _⟩ := (Tree.writeFile_join_eq_ok hother).1 hwritten
    have hkept := Tree.walk_of_keeps (Tree.keeps_of_writeFile hother hwritten) hl
    obtain rfl : l = base := Except.ok.inj (hkept.symm.trans h)
    exact hl

/-! ### Many events -/

theorem keeps_afterAll (hb : w.BringsAll es) (hin : ∀ e ∈ es, e.IsIn folder) :
    w.tree.Keeps (w.afterAll es).tree := by
  induction es generalizing w with
  | nil => exact .refl _
  | cons e es ih =>
    have hfirst := keeps_after hb.1 (hin e List.mem_cons_self)
    exact hfirst.trans (ih hb.2 fun f hf => hin f (List.mem_cons_of_mem _ hf))

/-- The text of an entry is the one that was written last. -/
theorem textAt?_afterAll (hname : Path.IsEntry name) (hb : w.BringsAll es)
    (hin : ∀ e ∈ es, e.IsIn folder) :
    (w.afterAll es).textAt? (Path.join folder name) =
      (Event.lastPut? (Path.join folder name) es).or (w.textAt? (Path.join folder name)) := by
  induction es generalizing w with
  | nil => rfl
  | cons e es ih =>
    rw [afterAll_cons, ih hb.2 fun f hf => hin f (List.mem_cons_of_mem _ hf),
      textAt?_after hname hb.1 (hin e List.mem_cons_self), Event.lastPut?, Option.or_assoc]

/-- Where a path leads to a folder in the end it led there in the beginning. -/
theorem walk_of_afterAll (hb : w.BringsAll es) (hin : ∀ e ∈ es, e.IsIn folder) {base : Location}
    (h : (w.afterAll es).tree.walk w.folder folder = .ok base) :
    w.tree.walk w.folder folder = .ok base := by
  induction es generalizing w with
  | nil => exact h
  | cons e es ih =>
    have hrest := ih hb.2 fun f hf => hin f (List.mem_cons_of_mem _ hf)
    rw [folder_after] at hrest
    exact walk_of_after hb.1 (hin e List.mem_cons_self) (hrest h)

theorem entryFor_afterAll (hb : w.BringsAll es) (hin : ∀ e ∈ es, e.IsIn folder) :
    (w.afterAll es).tree.entryFor w.folder folder name =
      w.tree.entryFor w.folder folder name := by
  induction es generalizing w with
  | nil => rfl
  | cons e es ih =>
    have hrest := ih hb.2 fun f hf => hin f (List.mem_cons_of_mem _ hf)
    rw [folder_after] at hrest
    rw [afterAll_cons, hrest, entryFor_after hb.1 (hin e List.mem_cons_self)]

/-- What comes back for a write does not depend on the text, nor on the writes before it. -/
theorem result_of_wrote (hname : Path.IsEntry name) (hb : w.BringsAll es)
    (hin : ∀ e ∈ es, e.IsIn folder) {text : String} {r : Except Fault Unit}
    (h : .wrote (Path.join folder name) text r ∈ es) :
    r = (w.tree.entryFor w.folder folder name).map fun _ => () := by
  obtain ⟨fs, gs, rfl, hbrings⟩ := brings_of_mem hb h
  have hresult : ((w.afterAll fs).writeFile (Path.join folder name) text).1 = r := hbrings
  rw [← hresult, writeFile_join_fst _ _ _ hname, folder_afterAll,
    entryFor_afterAll (bringsAll_append.1 hb).1 fun e he => hin e (by simp [he])]

/-- A file that is there is seen. -/
theorem seen_of_isSome (hname : Path.IsEntry name) (hb : w.BringsAll es)
    (hin : ∀ e ∈ es, e.IsIn folder) (hfile : (w.textAt? (Path.join folder name)).isSome)
    {b : Bool} (h : .looked (Path.join folder name) b ∈ es) : b = true := by
  obtain ⟨fs, gs, rfl, hbrings⟩ := brings_of_mem hb h
  have hkeeps : w.tree.Keeps (w.afterAll fs).tree :=
    keeps_afterAll (bringsAll_append.1 hb).1 fun e he => hin e (by simp [he])
  have hthere := Tree.isSome_textAt?_of_keeps hkeeps hname hfile
  have hseen : (w.afterAll fs).isFile (Path.join folder name) = b := hbrings
  rw [isFile_eq, textAt?, folder_afterAll, hthere] at hseen
  exact hseen.symm

/-- What stands at a location stays, unless a write was not refused to which the path leads. -/
theorem node?_afterAll (hb : w.BringsAll es) (hin : ∀ e ∈ es, e.IsIn folder) (l : Location) :
    (w.afterAll es).tree.node? l = w.tree.node? l ∨
      ∃ name text, Path.IsEntry name ∧ .wrote (Path.join folder name) text (.ok ()) ∈ es ∧
        (w.afterAll es).tree.find w.folder (Path.join folder name) = .ok l := by
  induction es generalizing w with
  | nil => exact .inl rfl
  | cons e es ih =>
    have hin' : ∀ f ∈ es, f.IsIn folder := fun f hf => hin f (List.mem_cons_of_mem _ hf)
    have hrest := ih hb.2 hin'
    rw [folder_after] at hrest
    -- What a later write puts there counts, else what the first event does.
    rcases hrest with hsame | ⟨name, text, hname, hmem, hfind⟩
    · rcases tree_after hb.1 (hin e List.mem_cons_self) with ⟨h, _⟩ | ⟨name, text, hname, rfl, h⟩
      · exact .inl (by rw [afterAll_cons, hsame, h])
      · rcases Tree.node?_of_writeFile hname h l with hl | ⟨hfind, _⟩
        · exact .inl (by rw [afterAll_cons, hsame, hl])
        · have hkeeps := keeps_afterAll hb.2 hin'
          exact .inr ⟨name, text, hname, List.mem_cons_self,
            Tree.find_of_keeps hkeeps hname hfind⟩
    · exact .inr ⟨name, text, hname, List.mem_cons_of_mem _ hmem, hfind⟩

end World

end Compliance
