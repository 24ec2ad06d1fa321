import Compliance.Work.Job

/-!
What the steps of a job bring about, told apart from the job and from the world: a job goes a path
of events, and a world brings about events. Running a job is both at once. A path says nothing of
what stands between its events, so it is also what one job does among others.
-/

namespace Compliance

/-- What one step of a job brings about, with what came back for it. -/
inductive Event
  | sent (q : Http.Request) (r : Http.Reply)
  | noted (n : Notice)
  | paused (d : Duration)
  | wrote (path text : String) (result : Except Host.Fault Unit)
  | looked (path : String) (found : Bool)

namespace Job

variable {α β : Type}

/-- One step of a job, whatever comes back for it. -/
inductive Steps : Job α → Event → Job α → Prop
  | send (q : Http.Request) (next : Http.Reply → Job α) (r : Http.Reply) :
      Steps (.send q next) (.sent q r) (next r)
  | note (n : Notice) (next : Job α) : Steps (.note n next) (.noted n) next
  | pause (d : Duration) (next : Job α) : Steps (.pause d next) (.paused d) next
  | write (path text : String) (next : Except Host.Fault Unit → Job α)
      (r : Except Host.Fault Unit) : Steps (.write path text next) (.wrote path text r) (next r)
  | look (path : String) (next : Bool → Job α) (b : Bool) :
      Steps (.look path next) (.looked path b) (next b)

inductive Path : Job α → List Event → Job α → Prop
  | nil (j : Job α) : Path j [] j
  | cons {j k l : Job α} {e : Event} {es : List Event} (first : Steps j e k)
      (rest : Path k es l) : Path j (e :: es) l

abbrev Ends (j : Job α) (es : List Event) (a : α) : Prop := j.Path es (.done a)

theorem Path.trans {j k l : Job α} {es fs : List Event} (h : j.Path es k) (h' : k.Path fs l) :
    j.Path (es ++ fs) l := by
  induction h with
  | nil => exact h'
  | cons first _ ih => exact .cons first (ih h')

theorem Steps.not_done {j k : Job α} {e : Event} (h : j.Steps e k) : j.isDone = false := by
  cases h <;> rfl

theorem Steps.path {j k : Job α} {e : Event} (h : j.Steps e k) : j.Path [e] k :=
  .cons h (.nil k)

/-! ### The paths of each kind of job -/

@[simp] theorem pure_eq_done (a : α) : (pure a : Job α) = .done a := rfl

@[simp] theorem bind_eq (j : Job α) (f : α → Job β) : j >>= f = j.bind f := rfl

@[simp] theorem ends_done {a b : α} {es : List Event} :
    (Job.done a).Ends es b ↔ es = [] ∧ b = a := by
  constructor
  · intro h
    cases h with
    | nil => exact ⟨rfl, rfl⟩
    | cons first _ => cases first
  · rintro ⟨rfl, rfl⟩
    exact .nil _

theorem ends_send {q : Http.Request} {next : Http.Reply → Job α} {es : List Event} {a : α} :
    (Job.send q next).Ends es a ↔ ∃ r fs, es = .sent q r :: fs ∧ (next r).Ends fs a := by
  constructor
  · intro h
    cases h with
    | cons first rest =>
      cases first with
      | send _ _ r => exact ⟨r, _, rfl, rest⟩
  · rintro ⟨r, fs, rfl, h⟩
    exact .cons (.send q next r) h

theorem ends_note {n : Notice} {next : Job α} {es : List Event} {a : α} :
    (Job.note n next).Ends es a ↔ ∃ fs, es = .noted n :: fs ∧ next.Ends fs a := by
  constructor
  · intro h
    cases h with
    | cons first rest =>
      cases first with
      | note => exact ⟨_, rfl, rest⟩
  · rintro ⟨fs, rfl, h⟩
    exact .cons (.note n next) h

theorem ends_pause {d : Duration} {next : Job α} {es : List Event} {a : α} :
    (Job.pause d next).Ends es a ↔ ∃ fs, es = .paused d :: fs ∧ next.Ends fs a := by
  constructor
  · intro h
    cases h with
    | cons first rest =>
      cases first with
      | pause => exact ⟨_, rfl, rest⟩
  · rintro ⟨fs, rfl, h⟩
    exact .cons (.pause d next) h

theorem ends_write {path text : String} {next : Except Host.Fault Unit → Job α}
    {es : List Event} {a : α} :
    (Job.write path text next).Ends es a ↔
      ∃ r fs, es = .wrote path text r :: fs ∧ (next r).Ends fs a := by
  constructor
  · intro h
    cases h with
    | cons first rest =>
      cases first with
      | write _ _ _ r => exact ⟨r, _, rfl, rest⟩
  · rintro ⟨r, fs, rfl, h⟩
    exact .cons (.write path text next r) h

theorem ends_look {path : String} {next : Bool → Job α} {es : List Event} {a : α} :
    (Job.look path next).Ends es a ↔
      ∃ b fs, es = .looked path b :: fs ∧ (next b).Ends fs a := by
  constructor
  · intro h
    cases h with
    | cons first rest =>
      cases first with
      | look _ _ b => exact ⟨b, _, rfl, rest⟩
  · rintro ⟨b, fs, rfl, h⟩
    exact .cons (.look path next b) h

theorem Steps.bind {j k : Job α} {e : Event} (h : j.Steps e k) (f : α → Job β) :
    (j.bind f).Steps e (k.bind f) := by
  cases h <;> constructor

theorem Path.bind {j k : Job α} {es : List Event} (h : j.Path es k) (f : α → Job β) :
    (j.bind f).Path es (k.bind f) := by
  induction h with
  | nil => exact .nil _
  | cons first _ ih => exact .cons (first.bind f) ih

/-- A step of a job that goes on with another one is a step of the first, unless that is done. -/
theorem Steps.of_bind {j : Job α} {f : α → Job β} {e : Event} {l : Job β}
    (h : (j.bind f).Steps e l) : (∃ a, j = .done a) ∨ ∃ k, j.Steps e k ∧ l = k.bind f := by
  cases j with
  | done a => exact .inl ⟨a, rfl⟩
  | send q next =>
    cases h with
    | send _ _ r => exact .inr ⟨next r, .send q next r, rfl⟩
  | note n next =>
    cases h with
    | note => exact .inr ⟨next, .note n next, rfl⟩
  | pause d next =>
    cases h with
    | pause => exact .inr ⟨next, .pause d next, rfl⟩
  | write path text next =>
    cases h with
    | write _ _ _ r => exact .inr ⟨next r, .write path text next r, rfl⟩
  | look path next =>
    cases h with
    | look _ _ b => exact .inr ⟨next b, .look path next b, rfl⟩

/-- A job that goes on with another one ends where that one does. -/
theorem ends_bind {j : Job α} {f : α → Job β} {es : List Event} {b : β} :
    (j.bind f).Ends es b ↔
      ∃ fs a gs, es = fs ++ gs ∧ j.Ends fs a ∧ (f a).Ends gs b := by
  constructor
  · intro h
    unfold Ends at h
    generalize hx : j.bind f = x at h
    generalize hy : Job.done b = y at h
    -- By induction on the path: `j` is what is left of the first job as long as that goes on.
    induction h generalizing j with
    | nil =>
      subst hy
      cases j with
      | done a =>
        have hf : f a = .done b := hx
        exact ⟨[], a, [], rfl, .nil _, hf ▸ .nil _⟩
      | _ => simp [Job.bind] at hx
    | cons first rest ih =>
      subst hx hy
      obtain ⟨a, rfl⟩ | ⟨k, hk, rfl⟩ := first.of_bind
      · exact ⟨[], a, _, rfl, .nil _, .cons first rest⟩
      · obtain ⟨fs, a, gs, rfl, hfs, hgs⟩ := ih rfl rfl
        exact ⟨_ :: fs, a, gs, rfl, .cons hk hfs, hgs⟩
  · rintro ⟨fs, a, gs, rfl, hfs, hgs⟩
    exact (hfs.bind f).trans hgs

end Job

/-! ### What the world does -/

namespace Event

def exchange? : Event → Option (Http.Request × Http.Reply)
  | .sent q r => some (q, r)
  | _ => none

def exchanges (es : List Event) : Http.History := es.filterMap exchange?

@[simp] theorem exchanges_nil : exchanges [] = [] := rfl

@[simp] theorem exchanges_append (es fs : List Event) :
    exchanges (es ++ fs) = exchanges es ++ exchanges fs :=
  List.filterMap_append

theorem mem_exchanges {es : List Event} {q : Http.Request} {r : Http.Reply} :
    (q, r) ∈ exchanges es ↔ Event.sent q r ∈ es := by
  simp only [exchanges, List.mem_filterMap]
  constructor
  · rintro ⟨e, he, h⟩
    cases e <;> simp [exchange?] at h
    obtain ⟨rfl, rfl⟩ := h
    exact he
  · intro h
    exact ⟨_, h, rfl⟩

def notice? : Event → Option Notice
  | .noted n => some n
  | _ => none

def notices (es : List Event) : List Notice := es.filterMap notice?

@[simp] theorem notices_nil : notices [] = [] := rfl

@[simp] theorem notices_append (es fs : List Event) :
    notices (es ++ fs) = notices es ++ notices fs :=
  List.filterMap_append

end Event

namespace World

def after (w : World) : Event → World
  | .sent q r => { w with history := w.history ++ [(q, r)] }
  | .noted n => w.note n
  | .paused d => w.pause d
  | .wrote path text _ => (w.writeFile path text).2
  | .looked _ _ => w

def Brings (w : World) : Event → Prop
  | .sent q r => w.network w.history q = r
  | .wrote path text r => (w.writeFile path text).1 = r
  | .looked path b => w.isFile path = b
  | .noted _ => True
  | .paused _ => True

def afterAll (w : World) (es : List Event) : World := es.foldl World.after w

/-- Each of the events comes out of the world that those before it left. -/
def BringsAll : World → List Event → Prop
  | _, [] => True
  | w, e :: es => w.Brings e ∧ BringsAll (w.after e) es

@[simp] theorem afterAll_nil (w : World) : w.afterAll [] = w := rfl

@[simp] theorem afterAll_cons (w : World) (e : Event) (es : List Event) :
    w.afterAll (e :: es) = (w.after e).afterAll es := rfl

theorem afterAll_append (w : World) (es fs : List Event) :
    w.afterAll (es ++ fs) = (w.afterAll es).afterAll fs :=
  List.foldl_append

theorem bringsAll_append {w : World} {es fs : List Event} :
    w.BringsAll (es ++ fs) ↔ w.BringsAll es ∧ (w.afterAll es).BringsAll fs := by
  induction es generalizing w with
  | nil => simp [BringsAll]
  | cons e es ih => simp [BringsAll, ih, and_assoc]

/-- Each of the events comes out of a world that some of them led to. -/
theorem brings_of_mem {w : World} {e : Event} {es : List Event} (hb : w.BringsAll es)
    (he : e ∈ es) : ∃ fs gs, es = fs ++ e :: gs ∧ (w.afterAll fs).Brings e := by
  obtain ⟨fs, gs, rfl⟩ := List.append_of_mem he
  exact ⟨fs, gs, rfl, (bringsAll_append.1 hb).2.1⟩

theorem writeFile_snd (w : World) (path text : String) :
    (w.writeFile path text).2 = { w with tree := (w.writeFile path text).2.tree } := by
  unfold writeFile
  split <;> rfl

theorem writeFile_fst (w : World) (path text : String) :
    (w.writeFile path text).1 = (w.tree.writeFile w.folder path text).map fun _ => () := by
  unfold writeFile
  cases w.tree.writeFile w.folder path text <;> rfl

/-- No event changes what is given from outside. -/
@[simp] theorem network_after (w : World) (e : Event) : (w.after e).network = w.network := by
  cases e with
  | wrote path text r => rw [after, writeFile_snd]
  | _ => rfl

@[simp] theorem folder_after (w : World) (e : Event) : (w.after e).folder = w.folder := by
  cases e with
  | wrote path text r => rw [after, writeFile_snd]
  | _ => rfl

@[simp] theorem starts_after (w : World) (e : Event) : (w.after e).starts = w.starts := by
  cases e with
  | wrote path text r => rw [after, writeFile_snd]
  | _ => rfl

theorem history_after (w : World) (e : Event) :
    (w.after e).history = w.history ++ Event.exchanges [e] := by
  cases e with
  | wrote path text r =>
    rw [after, writeFile_snd]
    exact (List.append_nil _).symm
  | sent q r => rfl
  | _ => exact (List.append_nil _).symm

@[simp] theorem network_afterAll (w : World) (es : List Event) :
    (w.afterAll es).network = w.network := by
  induction es generalizing w with
  | nil => rfl
  | cons e es ih => simp [ih]

@[simp] theorem folder_afterAll (w : World) (es : List Event) :
    (w.afterAll es).folder = w.folder := by
  induction es generalizing w with
  | nil => rfl
  | cons e es ih => simp [ih]

/-- No event starts a program. -/
@[simp] theorem starts_afterAll (w : World) (es : List Event) :
    (w.afterAll es).starts = w.starts := by
  induction es generalizing w with
  | nil => rfl
  | cons e es ih => simp [ih]

def withTurns (w : World) (turns : List Nat) : World := { w with turns := turns }

theorem after_withTurns (w : World) (e : Event) (turns : List Nat) :
    (w.withTurns turns).after e = (w.after e).withTurns turns := by
  cases e with
  | wrote path text r =>
    simp only [after, writeFile, withTurns]
    cases w.tree.writeFile w.folder path text <;> rfl
  | _ => rfl

theorem brings_withTurns {w : World} {e : Event} {turns : List Nat} :
    (w.withTurns turns).Brings e ↔ w.Brings e := by
  cases e with
  | wrote path text r =>
    simp only [Brings, writeFile, withTurns]
    cases w.tree.writeFile w.folder path text <;> rfl
  | _ => rfl

theorem afterAll_withTurns (w : World) (es : List Event) (turns : List Nat) :
    (w.withTurns turns).afterAll es = (w.afterAll es).withTurns turns := by
  induction es generalizing w with
  | nil => rfl
  | cons e es ih => rw [afterAll_cons, after_withTurns, ih, afterAll_cons]

theorem bringsAll_withTurns {w : World} {es : List Event} {turns : List Nat} :
    (w.withTurns turns).BringsAll es ↔ w.BringsAll es := by
  induction es generalizing w with
  | nil => rfl
  | cons e es ih =>
    simp only [BringsAll, brings_withTurns, after_withTurns, ih]

/-- The requests that are sent are all that the history gets. -/
theorem history_afterAll (w : World) (es : List Event) :
    (w.afterAll es).history = w.history ++ Event.exchanges es := by
  induction es generalizing w with
  | nil => simp
  | cons e es ih =>
    rw [afterAll_cons, ih, history_after, List.append_assoc, ← Event.exchanges_append]
    rfl

end World

/-! ### Running -/

namespace Job

variable {α : Type}

/-- A job that is not done takes a step, which the world brings about. -/
theorem step_cases (j : Job α) (w : World) :
    (∃ a, j = .done a ∧ j.step w = (j, w)) ∨
      ∃ e k, j.Steps e k ∧ w.Brings e ∧ j.step w = (k, w.after e) := by
  cases j with
  | done a => exact .inl ⟨a, rfl, rfl⟩
  | send q next => exact .inr ⟨_, _, .send q next (w.network w.history q), rfl, rfl⟩
  | note n next => exact .inr ⟨_, _, .note n next, trivial, rfl⟩
  | pause d next => exact .inr ⟨_, _, .pause d next, trivial, rfl⟩
  | write path text next =>
    exact .inr ⟨_, _, .write path text next (w.writeFile path text).1, rfl, rfl⟩
  | look path next => exact .inr ⟨_, _, .look path next (w.isFile path), rfl, rfl⟩

/-- The step of a job is the one whose event the world brings about. -/
theorem Steps.step_eq {j k : Job α} {e : Event} {w : World} (h : j.Steps e k) (hb : w.Brings e) :
    j.step w = (k, w.after e) := by
  cases h with
  | send q next r => exact hb ▸ rfl
  | note n next => rfl
  | pause d next => rfl
  | write path text next r => exact hb ▸ rfl
  | look path next b => exact hb ▸ rfl

/-- A job that is run comes to its end by the events that the world brings about. -/
theorem run_ends (j : Job α) (w : World) :
    ∃ es, j.Ends es (j.run w).1 ∧ w.BringsAll es ∧ w.afterAll es = (j.run w).2 := by
  induction j generalizing w with
  | done a => exact ⟨[], .nil _, trivial, rfl⟩
  | send q next ih =>
    obtain ⟨es, hes, hb, ha⟩ := ih (w.network w.history q) (w.exchange q).2
    exact ⟨_ :: es, .cons (.send q next _) hes, ⟨rfl, hb⟩, ha⟩
  | note n next ih =>
    obtain ⟨es, hes, hb, ha⟩ := ih (w.note n)
    exact ⟨_ :: es, .cons (.note n next) hes, ⟨trivial, hb⟩, ha⟩
  | pause d next ih =>
    obtain ⟨es, hes, hb, ha⟩ := ih (w.pause d)
    exact ⟨_ :: es, .cons (.pause d next) hes, ⟨trivial, hb⟩, ha⟩
  | write path text next ih =>
    obtain ⟨es, hes, hb, ha⟩ := ih (w.writeFile path text).1 (w.writeFile path text).2
    exact ⟨_ :: es, .cons (.write path text next _) hes, ⟨rfl, hb⟩, ha⟩
  | look path next ih =>
    obtain ⟨es, hes, hb, ha⟩ := ih (w.isFile path) w
    exact ⟨_ :: es, .cons (.look path next _) hes, ⟨rfl, hb⟩, ha⟩

/-- A job starts no program. -/
theorem starts_run (j : Job α) (w : World) : (j.run w).2.starts = w.starts := by
  obtain ⟨es, _, _, hafter⟩ := j.run_ends w
  rw [← hafter, World.starts_afterAll]

end Job

end Compliance
