import Compliance.Proofs.Work.Event

/-!
Jobs that only talk to servers. Such a job neither writes nor looks for a file, so it has nothing in
common with other jobs but the servers; and if the answers depend on nothing but the requests, it
comes to one end only.
-/

namespace Compliance

def Event.isOnFile : Event → Bool
  | .wrote _ _ _ => true
  | .looked _ _ => true
  | _ => false

namespace Job

variable {α β : Type} {P : Http.Request → Prop}

/-- A job that touches no file, and whose requests are all of one kind. -/
def Talks (P : Http.Request → Prop) : Job α → Prop
  | .done _ => True
  | .send q next => P q ∧ ∀ r, Talks P (next r)
  | .note _ next => Talks P next
  | .pause _ next => Talks P next
  | .write _ _ _ => False
  | .look _ _ => False

theorem Talks.mono {Q : Http.Request → Prop} (h : ∀ q, P q → Q q) {j : Job α} (hj : j.Talks P) :
    j.Talks Q := by
  induction j with
  | done a => trivial
  | send q next ih => exact ⟨h q hj.1, fun r => ih r (hj.2 r)⟩
  | note n next ih => exact ih hj
  | pause d next ih => exact ih hj
  | write path text next => exact hj.elim
  | look path next => exact hj.elim

theorem Talks.bind {j : Job α} {f : α → Job β} (hj : j.Talks P) (hf : ∀ a, (f a).Talks P) :
    (j.bind f).Talks P := by
  induction j with
  | done a => exact hf a
  | send q next ih => exact ⟨hj.1, fun r => ih r (hj.2 r)⟩
  | note n next ih => exact ih hj
  | pause d next ih => exact ih hj
  | write path text next => exact hj.elim
  | look path next => exact hj.elim

theorem Talks.step {j k : Job α} {e : Event} (hj : j.Talks P) (h : j.Steps e k) :
    k.Talks P ∧ e.isOnFile = false := by
  cases h with
  | send q next r => exact ⟨hj.2 r, rfl⟩
  | note n next => exact ⟨hj, rfl⟩
  | pause d next => exact ⟨hj, rfl⟩
  | write path text next r => exact hj.elim
  | look path next b => exact hj.elim

/-- The events of a job that only talks are not on files. -/
theorem Talks.isOnFile_eq {j k : Job α} {es : List Event} (hj : j.Talks P) (h : j.Path es k) :
    ∀ e ∈ es, e.isOnFile = false := by
  induction h with
  | nil => simp
  | cons first _ ih =>
    obtain ⟨hk, he⟩ := hj.step first
    intro e hmem
    rcases List.mem_cons.1 hmem with rfl | hmem
    · exact he
    · exact ih hk e hmem

/-- The requests of a job that only talks are of its kind. -/
theorem Talks.sent {j k : Job α} {es : List Event} (hj : j.Talks P) (h : j.Path es k)
    {q : Http.Request} {r : Http.Reply} (hq : Event.sent q r ∈ es) : P q := by
  induction h with
  | nil => simp at hq
  | cons first _ ih =>
    rcases List.mem_cons.1 hq with heq | hmem
    · subst heq
      cases first
      exact hj.1
    · exact ih (hj.step first).1 hmem

end Job

/-! ### Answers that depend on nothing but the request -/

variable {α : Type} {P : Http.Request → Prop} {answer : Http.Request → Http.Reply}

def World.Answers (w : World) (P : Http.Request → Prop) (answer : Http.Request → Http.Reply) :
    Prop :=
  ∀ history q, P q → w.network history q = answer q

theorem World.Answers.reply_eq {w : World} (hw : w.Answers P answer) {es : List Event}
    (hb : w.BringsAll es) {q : Http.Request} {r : Http.Reply} (h : .sent q r ∈ es) (hq : P q) :
    r = answer q := by
  obtain ⟨fs, _, _, hbrings⟩ := World.brings_of_mem hb h
  have hreply : (w.afterAll fs).network (w.afterAll fs).history q = r := hbrings
  rw [World.network_afterAll, hw _ q hq] at hreply
  exact hreply.symm

/-- The network gives one reply to a request, whenever it is sent. -/
def World.AnswersBy (w : World) (answer : Http.Request → Http.Reply) : Prop :=
  ∀ history q, w.network history q = answer q

theorem World.AnswersBy.reply_eq {w : World} (hw : w.AnswersBy answer) {es : List Event}
    (hb : w.BringsAll es) {q : Http.Request} {r : Http.Reply} (h : .sent q r ∈ es) :
    r = answer q := by
  have hall : w.Answers (fun _ => True) answer := fun history q _ => hw history q
  exact hall.reply_eq hb h trivial

namespace Job

/-- A job that only talks has one path to its end if each request has one reply. -/
theorem Talks.unique {j : Job α} (hj : j.Talks P) {es fs : List Event} {a b : α}
    (he : j.Ends es a) (hf : j.Ends fs b) (hes : ∀ q r, .sent q r ∈ es → r = answer q)
    (hfs : ∀ q r, .sent q r ∈ fs → r = answer q) : es = fs ∧ a = b := by
  induction j generalizing es fs with
  | done c =>
    obtain ⟨rfl, rfl⟩ := ends_done.1 he
    obtain ⟨rfl, rfl⟩ := ends_done.1 hf
    exact ⟨rfl, rfl⟩
  | send q next ih =>
    obtain ⟨r, es, rfl, hrest⟩ := ends_send.1 he
    obtain ⟨r', fs, rfl, hrest'⟩ := ends_send.1 hf
    obtain rfl := hes q r List.mem_cons_self
    obtain rfl := hfs q r' List.mem_cons_self
    obtain ⟨rfl, rfl⟩ := ih _ (hj.2 _) hrest hrest'
      (fun q r h => hes q r (List.mem_cons_of_mem _ h))
      (fun q r h => hfs q r (List.mem_cons_of_mem _ h))
    exact ⟨rfl, rfl⟩
  | note n next ih =>
    obtain ⟨es, rfl, hrest⟩ := ends_note.1 he
    obtain ⟨fs, rfl, hrest'⟩ := ends_note.1 hf
    obtain ⟨rfl, rfl⟩ := ih hj hrest hrest'
      (fun q r h => hes q r (List.mem_cons_of_mem _ h))
      (fun q r h => hfs q r (List.mem_cons_of_mem _ h))
    exact ⟨rfl, rfl⟩
  | pause d next ih =>
    obtain ⟨es, rfl, hrest⟩ := ends_pause.1 he
    obtain ⟨fs, rfl, hrest'⟩ := ends_pause.1 hf
    obtain ⟨rfl, rfl⟩ := ih hj hrest hrest'
      (fun q r h => hes q r (List.mem_cons_of_mem _ h))
      (fun q r h => hfs q r (List.mem_cons_of_mem _ h))
    exact ⟨rfl, rfl⟩
  | write path text next => exact hj.elim
  | look path next => exact hj.elim

def resultBy (answer : Http.Request → Http.Reply) (j : Job α) : α :=
  (j.run { World.quiet with network := fun _ => answer }).1

/-- A job that only talks comes to one end where each request has one reply. -/
theorem Talks.eq_resultBy {j : Job α} (hj : j.Talks P) {es : List Event} {a : α}
    (h : j.Ends es a) (hes : ∀ q r, .sent q r ∈ es → r = answer q) : a = j.resultBy answer := by
  have hquiet : World.AnswersBy { World.quiet with network := fun _ => answer } answer :=
    fun _ _ => rfl
  obtain ⟨fs, hfs, hb, -⟩ := j.run_ends { World.quiet with network := fun _ => answer }
  exact (hj.unique h hfs hes fun q r hr => hquiet.reply_eq hb hr).2

end Job

end Compliance
