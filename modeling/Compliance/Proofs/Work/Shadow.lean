import Compliance.Proofs.Work.Alike
import Compliance.Proofs.Work.Event

/-!
Jobs that do more than others, but nothing that counts. A job shadows another one if it takes the same
steps and, once it has begun, may look for files and write notices in between. Such steps change
nothing but what is noted down, so whatever turns a batch of jobs takes, a batch of the jobs that they
shadow takes the same but for some that are left out, and the other way round some can be put in; and
what was sent, the files and the results are the same, or related as they are for single jobs.
-/

namespace Compliance

/-! ### Worlds -/

namespace World

/-- Two worlds that differ in nothing but what was noted down and in the turns of workers. -/
def SameDeeds (w w' : World) : Prop :=
  ∃ notices turns, w' = { w with notices := notices, turns := turns }

structure Abreast {α β : Type} (Q : α → β → Prop) (r : α × World) (r' : β × World) : Prop where
  result : Q r.1 r'.1
  deeds : r.2.SameDeeds r'.2

variable {w w' : World}

theorem SameDeeds.refl (w : World) : w.SameDeeds w := ⟨w.notices, w.turns, rfl⟩

theorem SameDeeds.withTurns (hw : w.SameDeeds w') (turns turns' : List Nat) :
    (w.withTurns turns).SameDeeds (w'.withTurns turns') := by
  obtain ⟨notices, _, rfl⟩ := hw
  exact ⟨notices, turns', rfl⟩

theorem SameDeeds.aside (hw : w.SameDeeds w') (n : Notice) : (w.note n).SameDeeds w' := by
  obtain ⟨notices, turns, rfl⟩ := hw
  exact ⟨notices, turns, rfl⟩

theorem SameDeeds.note (hw : w.SameDeeds w') (n n' : Notice) :
    (w.note n).SameDeeds (w'.note n') := by
  obtain ⟨notices, turns, rfl⟩ := hw
  exact ⟨notices ++ [n'], turns, rfl⟩

theorem SameDeeds.pause (hw : w.SameDeeds w') (d : Duration) :
    (w.pause d).SameDeeds (w'.pause d) := by
  obtain ⟨notices, turns, rfl⟩ := hw
  exact ⟨notices, turns, rfl⟩

theorem SameDeeds.exchange (hw : w.SameDeeds w') (q : Http.Request) :
    Abreast Eq (w.exchange q) (w'.exchange q) := by
  obtain ⟨notices, turns, rfl⟩ := hw
  exact ⟨rfl, notices, turns, rfl⟩

theorem SameDeeds.writeFile (hw : w.SameDeeds w') (path text : String) :
    Abreast Eq (w.writeFile path text) (w'.writeFile path text) := by
  obtain ⟨notices, turns, rfl⟩ := hw
  unfold World.writeFile
  dsimp only
  split
  · exact ⟨rfl, notices, turns, rfl⟩
  · exact ⟨rfl, notices, turns, rfl⟩

theorem SameDeeds.isFile_eq (hw : w.SameDeeds w') (path : String) :
    w.isFile path = w'.isFile path := by
  obtain ⟨notices, turns, rfl⟩ := hw
  rfl

end World

/-! ### Jobs -/

namespace Job

variable {α β γ δ : Type} {P : α → β → Prop} {Q : γ → δ → Prop}

/-- The first job takes the steps of the second one, and before a step it may look for files and write
notices, if it is free to do so. It comes to its end with it, by a related result. -/
inductive Shadows (P : α → β → Prop) : Bool → Job α → Job β → Prop
  | done {free : Bool} {a : α} {b : β} (h : P a b) : Shadows P free (.done a) (.done b)
  | send {free : Bool} (q : Http.Request) {next : Http.Reply → Job α} {next' : Http.Reply → Job β}
      (rest : ∀ r, Shadows P true (next r) (next' r)) :
      Shadows P free (.send q next) (.send q next')
  | note {free : Bool} (n n' : Notice) {next : Job α} {next' : Job β}
      (rest : Shadows P true next next') : Shadows P free (.note n next) (.note n' next')
  | pause {free : Bool} (d : Duration) {next : Job α} {next' : Job β}
      (rest : Shadows P true next next') : Shadows P free (.pause d next) (.pause d next')
  | write {free : Bool} (path text : String) {next : Except Host.Fault Unit → Job α}
      {next' : Except Host.Fault Unit → Job β} (rest : ∀ r, Shadows P true (next r) (next' r)) :
      Shadows P free (.write path text next) (.write path text next')
  | look {free : Bool} (path : String) {next : Bool → Job α} {next' : Bool → Job β}
      (rest : ∀ b, Shadows P true (next b) (next' b)) :
      Shadows P free (.look path next) (.look path next')
  | lookAside (path : String) {next : Bool → Job α} {k : Job β} (more : k.isDone = false)
      (rest : ∀ b, Shadows P true (next b) k) : Shadows P true (.look path next) k
  | noteAside (n : Notice) {next : Job α} {k : Job β} (more : k.isDone = false)
      (rest : Shadows P true next k) : Shadows P true (.note n next) k

theorem Shadows.isDone_eq {free : Bool} {j : Job α} {k : Job β} (h : j.Shadows P free k) :
    j.isDone = k.isDone := by
  cases h with
  | lookAside path more rest => exact more.symm
  | noteAside n more rest => exact more.symm
  | _ => rfl

theorem isDone_bind {k : Job β} (h : k.isDone = false) (g : β → Job δ) :
    (k.bind g).isDone = false := by
  cases k with
  | done b => cases h
  | _ => rfl

theorem bind_assoc (j : Job α) (f : α → Job β) (g : β → Job γ) :
    (j.bind f).bind g = j.bind fun a => (f a).bind g := by
  induction j with
  | done a => rfl
  | send q next ih => exact congrArg (Job.send q) (funext ih)
  | note n next ih => exact congrArg (Job.note n) ih
  | pause d next ih => exact congrArg (Job.pause d) ih
  | write path text next ih => exact congrArg (Job.write path text) (funext ih)
  | look path next ih => exact congrArg (Job.look path) (funext ih)

/-- Jobs that go on with others. Where there is no step before that, what they go on with must not be
free either. -/
theorem Shadows.bind {free : Bool} {j : Job α} {k : Job β} {f : α → Job γ} {g : β → Job δ}
    (h : j.Shadows P free k) (hnext : ∀ a b, P a b → (f a).Shadows Q true (g b))
    (hfirst : ∀ a b, j = .done a → k = .done b → P a b → (f a).Shadows Q free (g b)) :
    (j.bind f).Shadows Q free (k.bind g) := by
  induction h with
  | done h => exact hfirst _ _ rfl rfl h
  | send q _ ih => exact .send q fun r => ih r fun a b _ _ => hnext a b
  | note n n' _ ih => exact .note n n' (ih fun a b _ _ => hnext a b)
  | pause d _ ih => exact .pause d (ih fun a b _ _ => hnext a b)
  | write path text _ ih => exact .write path text fun r => ih r fun a b _ _ => hnext a b
  | look path _ ih => exact .look path fun r => ih r fun a b _ _ => hnext a b
  | lookAside path more _ ih =>
    exact .lookAside path (isDone_bind more g) fun r => ih r fun a b _ _ => hnext a b
  | noteAside n more _ ih =>
    exact .noteAside n (isDone_bind more g) (ih fun a b _ _ => hnext a b)

/-- What holds of a job if it holds of what each step leaves of it, for as long as it takes steps,
holds of every job. -/
theorem step_induction {C : Job α → Prop}
    (step : ∀ j : Job α, (j.isDone = false → ∀ w, C (j.step w).1) → C j) (j : Job α) : C j := by
  induction j with
  | done a => exact step _ fun h => nomatch h
  | send q next ih => exact step _ fun _ w => ih _
  | note n next ih => exact step _ fun _ w => ih
  | pause d next ih => exact step _ fun _ w => ih
  | write path text next ih => exact step _ fun _ w => ih _
  | look path next ih => exact step _ fun _ w => ih _

theorem Shadows.refl (j : Job α) (free : Bool) : j.Shadows Eq free j := by
  induction j generalizing free with
  | done a => exact .done rfl
  | send q next ih => exact .send q fun r => ih r true
  | note n next ih => exact .note n n (ih true)
  | pause d next ih => exact .pause d (ih true)
  | write path text next ih => exact .write path text fun r => ih r true
  | look path next ih => exact .look path fun b => ih b true

variable {free : Bool} {j : Job α} {k : Job β} {w w' : World}

/-- A job takes a step with the one that it shadows, or one of those that do not count. -/
theorem Shadows.step (h : j.Shadows P free k) (hw : w.SameDeeds w') :
    World.Abreast (Job.Shadows P true) (j.step w) (k.step w') ∨
      free = true ∧ j.isDone = false ∧
        World.Abreast (Job.Shadows P true) (j.step w) (k, w') := by
  cases h with
  | done h => exact .inl ⟨.done h, hw⟩
  | @send _ q next next' rest =>
    obtain ⟨hreply, hafter⟩ := hw.exchange q
    refine .inl ⟨?_, hafter⟩
    show (next (w.exchange q).1).Shadows P true (next' (w'.exchange q).1)
    rw [← hreply]
    exact rest _
  | note n n' rest => exact .inl ⟨rest, hw.note n n'⟩
  | pause d rest => exact .inl ⟨rest, hw.pause d⟩
  | @write _ path text next next' rest =>
    obtain ⟨hresult, hafter⟩ := hw.writeFile path text
    refine .inl ⟨?_, hafter⟩
    show (next (w.writeFile path text).1).Shadows P true (next' (w'.writeFile path text).1)
    rw [← hresult]
    exact rest _
  | @look _ path next next' rest =>
    refine .inl ⟨?_, hw⟩
    show (next (w.isFile path)).Shadows P true (next' (w'.isFile path))
    rw [← hw.isFile_eq path]
    exact rest _
  | lookAside path _ rest => exact .inr ⟨rfl, rfl, rest _, hw⟩
  | noteAside n _ rest => exact .inr ⟨rfl, rfl, rest, hw.aside n⟩

/-- Without a break both jobs come to related results. -/
theorem Shadows.run (h : j.Shadows P free k) (hw : w.SameDeeds w') :
    World.Abreast P (j.run w) (k.run w') := by
  induction h generalizing w w' with
  | done h => exact ⟨h, hw⟩
  | @send _ q next next' _ ih =>
    obtain ⟨hreply, hafter⟩ := hw.exchange q
    show World.Abreast P ((next (w.exchange q).1).run (w.exchange q).2)
      ((next' (w'.exchange q).1).run (w'.exchange q).2)
    rw [← hreply]
    exact ih _ hafter
  | note n n' _ ih => exact ih (hw.note n n')
  | pause d _ ih => exact ih (hw.pause d)
  | @write _ path text next next' _ ih =>
    obtain ⟨hresult, hafter⟩ := hw.writeFile path text
    show World.Abreast P ((next (w.writeFile path text).1).run (w.writeFile path text).2)
      ((next' (w'.writeFile path text).1).run (w'.writeFile path text).2)
    rw [← hresult]
    exact ih _ hafter
  | @look _ path next next' _ ih =>
    show World.Abreast P ((next (w.isFile path)).run w) ((next' (w'.isFile path)).run w')
    rw [← hw.isFile_eq path]
    exact ih _ hw
  | lookAside path _ _ ih => exact ih _ hw
  | noteAside n _ _ ih => exact ih (hw.aside n)

/-- The turns of the world have nothing to do with what a step does. -/
theorem step_withTurns (j : Job α) (w : World) (turns : List Nat) :
    j.step (w.withTurns turns) = ((j.step w).1, (j.step w).2.withTurns turns) := by
  rcases j.step_cases w with ⟨a, rfl, _⟩ | ⟨e, k, he, hb, _⟩
  · rfl
  · rw [he.step_eq hb, he.step_eq (World.brings_withTurns.2 hb), World.after_withTurns]

end Job

/-! ### Batches -/

namespace Assignment

variable {α β : Type} {P : α → β → Prop} {a : Assignment α} {b : Assignment β} {w w' : World}

/-- A job that shadows another one, with both of which a worker has begun or with neither. From its
first step on it is free. -/
def Shadows (P : α → β → Prop) (a : Assignment α) (b : Assignment β) : Prop :=
  a.job.Shadows P a.begun b.job ∧ a.begun = b.begun

theorem Shadows.inStep (h : a.Shadows P b) : a.InStep b := ⟨h.1.isDone_eq, h.2⟩

theorem Shadows.finish (h : a.Shadows P b) (hw : w.SameDeeds w') :
    World.Abreast (Assignment.Shadows P) (a.finish w) (b.finish w') := by
  obtain ⟨hjobs, hbegun⟩ := h
  unfold Assignment.finish
  rw [hbegun] at hjobs ⊢
  cases hb : b.begun with
  | false =>
    rw [hb] at hjobs hbegun
    refine ⟨⟨?_, ?_⟩, hw⟩
    · rw [if_neg Bool.false_ne_true, if_neg Bool.false_ne_true, hbegun]
      exact hjobs
    · exact hbegun.trans hb.symm
  | true =>
    obtain ⟨hresult, hafter⟩ := hjobs.run hw
    exact ⟨⟨.done hresult, rfl⟩, hafter⟩

end Assignment

namespace Batch

variable {α β : Type} {P : α → β → Prop} {as : List (Assignment α)} {bs : List (Assignment β)}
  {w w' : World}

/-- Batches in which each job shadows the one in its place, in worlds with the same deeds. -/
abbrev Shadows (P : α → β → Prop) (r : List (Assignment α) × World)
    (r' : List (Assignment β) × World) : Prop :=
  World.Abreast (List.Forall₂ (Assignment.Shadows P)) r r'

/-- A turn is taken by both batches, or by the first one for a step that does not count. -/
theorem turn_shadows (workers : Nat) (h : List.Forall₂ (Assignment.Shadows P) as bs) (i : Nat)
    (hw : w.SameDeeds w') :
    Shadows P (turn workers as i w) (turn workers bs i w') ∨
      ∃ a, as[i]? = some a ∧ a.job.isDone = false ∧
        (turn workers as i w).1[i]? = some ⟨(a.job.step w).1, true⟩ ∧
        Shadows P (turn workers as i w) (bs, w') := by
  unfold turn
  rcases forall₂_getElem? h i with ⟨hnone, hnone'⟩ | ⟨a, b, ha, hb, hab⟩
  · rw [hnone, hnone']
    exact .inl ⟨h, hw⟩
  · rw [ha, hb]
    dsimp only
    rw [mayStep_eq workers (h.imp fun _ _ => Assignment.Shadows.inStep) hab.inStep]
    cases mayStep workers bs b with
    | false => exact .inl ⟨h, hw⟩
    | true =>
      rcases hab.1.step hw with ⟨hjobs, hafter⟩ | ⟨hfree, hmore, hjobs, hafter⟩
      · exact .inl ⟨forall₂_set h ⟨hjobs, rfl⟩ i, hafter⟩
      · refine .inr ⟨a, rfl, hmore, ?_, ?_, hafter⟩
        · exact List.getElem?_set_self (List.getElem?_eq_some_iff.1 ha).1
        · -- The other batch stays as it is, which is to have `b` in its place.
          obtain ⟨hi, rfl⟩ := List.getElem?_eq_some_iff.1 hb
          have hset : List.Forall₂ (Assignment.Shadows P)
              (as.set i ⟨(a.job.step w).1, true⟩) (bs.set i bs[i]) :=
            forall₂_set h ⟨hjobs, hfree.symm.trans hab.2⟩ i
          rw [List.set_getElem_self] at hset
          exact hset

theorem turn_withTurns (workers : Nat) (as : List (Assignment α)) (i : Nat) (w : World)
    (turns : List Nat) : turn workers as i (w.withTurns turns) =
      ((turn workers as i w).1, (turn workers as i w).2.withTurns turns) := by
  unfold turn
  cases as[i]? with
  | none => rfl
  | some a =>
    dsimp only
    cases mayStep workers as a with
    | false => rfl
    | true => simp [Assignment.step, Job.step_withTurns]

theorem play_withTurns (workers : Nat) (played : List Nat) (as : List (Assignment α)) (w : World)
    (turns : List Nat) : play workers played as (w.withTurns turns) =
      ((play workers played as w).1, (play workers played as w).2.withTurns turns) := by
  induction played generalizing as w with
  | nil => rfl
  | cons i played ih =>
    simp only [play, turn_withTurns, ih]

theorem play_append (workers : Nat) (turns turns' : List Nat) (as : List (Assignment α))
    (w : World) : play workers (turns ++ turns') as w =
      play workers turns' (play workers turns as w).1 (play workers turns as w).2 := by
  induction turns generalizing as w with
  | nil => rfl
  | cons i turns ih => exact ih _ _

/-- Turns of the first batch without those for steps that do not count. -/
theorem exists_turns_of_play (workers : Nat) (turns : List Nat)
    (h : List.Forall₂ (Assignment.Shadows P) as bs) (hw : w.SameDeeds w') :
    ∃ turns', turns'.Sublist turns ∧
      Shadows P (play workers turns as w) (play workers turns' bs w') := by
  induction turns generalizing as bs w w' with
  | nil => exact ⟨[], .slnil, h, hw⟩
  | cons i turns ih =>
    rcases turn_shadows workers h i hw with ⟨hturn, hafter⟩ | ⟨_, _, _, _, hturn, hafter⟩
    · obtain ⟨turns', hsub, hplay⟩ := ih hturn hafter
      exact ⟨i :: turns', hsub.cons_cons i, hplay⟩
    · obtain ⟨turns', hsub, hplay⟩ := ih hturn hafter
      exact ⟨turns', hsub.cons i, hplay⟩

/-- A turn of the second batch, with turns of the same job put before it. -/
theorem exists_turns_of_turn (workers i : Nat) (j : Job α) :
    ∀ {as : List (Assignment α)} {w : World}, (∀ a, as[i]? = some a → a.job = j) →
      List.Forall₂ (Assignment.Shadows P) as bs → w.SameDeeds w' →
      ∃ n, Shadows P (play workers (List.replicate (n + 1) i) as w) (turn workers bs i w') := by
  induction j using Job.step_induction with
  | step j ih =>
    intro as w hj h hw
    rcases turn_shadows workers h i hw with hboth | ⟨a, ha, hmore, hnext, hturn, hafter⟩
    · exact ⟨0, hboth⟩
    · obtain rfl := hj a ha
      obtain ⟨n, hn⟩ := ih hmore w
        (fun b hb => by rw [← Option.some.inj (hnext.symm.trans hb)]) hturn hafter
      exact ⟨n + 1, hn⟩

/-- Turns of the second batch with some that are put in for steps that do not count. -/
theorem exists_turns_of_play_shadowed (workers : Nat) (turns' : List Nat)
    (h : List.Forall₂ (Assignment.Shadows P) as bs) (hw : w.SameDeeds w') :
    ∃ turns, turns'.Sublist turns ∧
      Shadows P (play workers turns as w) (play workers turns' bs w') := by
  induction turns' generalizing as bs w w' with
  | nil => exact ⟨[], .slnil, h, hw⟩
  | cons i turns' ih =>
    have hturn : ∃ n, Shadows P (play workers (List.replicate (n + 1) i) as w)
        (turn workers bs i w') := by
      rcases turn_shadows workers h i hw with hboth | ⟨a, ha, _⟩
      · exact ⟨0, hboth⟩
      · exact exists_turns_of_turn workers i a.job
          (fun b hb => congrArg _ (Option.some.inj (hb.symm.trans ha))) h hw
    obtain ⟨n, hbatches, hafter⟩ := hturn
    obtain ⟨turns, hsub, hplay⟩ := ih hbatches hafter
    refine ⟨List.replicate (n + 1) i ++ turns, ?_, ?_⟩
    · exact (hsub.trans (List.sublist_append_right _ _)).cons_cons i
    · rw [play_append]
      exact hplay

variable {jobs : List (Job α)} {jobs' : List (Job β)}

theorem shadows_ofJob (h : List.Forall₂ (Job.Shadows P false) jobs jobs') :
    List.Forall₂ (Assignment.Shadows P) (jobs.map .ofJob) (jobs'.map .ofJob) :=
  List.forall₂_map_left_iff.2 (List.forall₂_map_right_iff.2 (h.imp fun _ _ hjob => ⟨hjob, rfl⟩))

/-- What is left to do after the turns comes to related results. -/
theorem run_abreast (workers : Nat) {turns turns' : List Nat}
    (h : Shadows P (play (max 1 workers) turns (jobs.map .ofJob) w)
      (play (max 1 workers) turns' (jobs'.map .ofJob) w')) :
    World.Abreast (List.Forall₂ P) (run workers jobs (w.withTurns turns))
      (run workers jobs' (w'.withTurns turns')) := by
  obtain ⟨hplayed, hbefore⟩ := h
  obtain ⟨hsettled, hbetween⟩ := along_related
    (fun a b _ _ (hab : a.Shadows P b) hw => ⟨(hab.finish hw).result, (hab.finish hw).deeds⟩)
    hplayed (hbefore.withTurns turns turns')
  obtain ⟨hresults, hend⟩ := along_related
    (fun a b _ _ (hab : a.Shadows P b) hw => ⟨(hab.1.run hw).result, (hab.1.run hw).deeds⟩)
    hsettled hbetween
  unfold run
  rw [play_withTurns, play_withTurns]
  exact ⟨hresults, hend⟩

/-- However the steps of a batch follow one another, those of a batch that it shadows can follow one
another so that both come to related results and the same deeds. -/
theorem exists_run_shadowed (workers : Nat) (h : List.Forall₂ (Job.Shadows P false) jobs jobs')
    (w : World) (turns : List Nat) :
    ∃ turns', turns'.Sublist turns ∧
      World.Abreast (List.Forall₂ P) (run workers jobs (w.withTurns turns))
        (run workers jobs' (w.withTurns turns')) := by
  obtain ⟨turns', hsub, hplay⟩ := exists_turns_of_play (max 1 workers) turns (shadows_ofJob h)
    (World.SameDeeds.refl w)
  exact ⟨turns', hsub, run_abreast workers hplay⟩

/-- However the steps of the batch that is shadowed follow one another, there are such steps of the
other. -/
theorem exists_run_shadowing (workers : Nat) (h : List.Forall₂ (Job.Shadows P false) jobs jobs')
    (w : World) (turns' : List Nat) :
    ∃ turns, turns'.Sublist turns ∧
      World.Abreast (List.Forall₂ P) (run workers jobs (w.withTurns turns))
        (run workers jobs' (w.withTurns turns')) := by
  obtain ⟨turns, hsub, hplay⟩ := exists_turns_of_play_shadowed (max 1 workers) turns'
    (shadows_ofJob h) (World.SameDeeds.refl w)
  exact ⟨turns, hsub, run_abreast workers hplay⟩

end Batch

end Compliance
