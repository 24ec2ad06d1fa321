import Compliance.Proofs.Work.Action
import Compliance.Work.Batch
import Mathlib.Data.List.Forall2

/-!
Two runs side by side. Some requests are alike, and a network is blind if it cannot tell alike ones
apart. If two jobs take the same steps but for requests that are alike, then behind a blind network
they come to the same result and leave worlds that differ in nothing but such requests; and so do
batches of such jobs, turn by turn, and actions that are made of them.
-/

namespace Compliance

variable {R : Http.Request → Http.Request → Prop}

/-! ### Worlds -/

def Http.History.Alike (R : Http.Request → Http.Request → Prop) (h h' : Http.History) : Prop :=
  List.Forall₂ (fun p p' => R p.1 p'.1 ∧ p.2 = p'.2) h h'

/-- The network makes no difference between alike requests after alike histories. -/
def Http.Network.IsBlind (R : Http.Request → Http.Request → Prop) (n : Http.Network) : Prop :=
  ∀ h h' q q', Http.History.Alike R h h' → R q q' → n h q = n h' q'

theorem Http.History.Alike.concat {h h' : Http.History} (hh : h.Alike R h') {q q' : Http.Request}
    (hq : R q q') (r : Http.Reply) : Http.History.Alike R (h ++ [(q, r)]) (h' ++ [(q', r)]) := by
  induction hh with
  | nil => exact .cons ⟨hq, rfl⟩ .nil
  | cons hp _ ih => exact .cons hp ih

namespace World

def Alike (R : Http.Request → Http.Request → Prop) (w w' : World) : Prop :=
  w.network.IsBlind R ∧ ∃ h, w.history.Alike R h ∧ w' = { w with history := h }

structure Agree {α : Type} (R : Http.Request → Http.Request → Prop) (Q : α → α → Prop)
    (r r' : α × World) : Prop where
  result : Q r.1 r'.1
  after : r.2.Alike R r'.2

variable {w w' : World}

theorem Alike.print (hw : w.Alike R w') (text : String) :
    (w.print text).Alike R (w'.print text) := by
  obtain ⟨hblind, h, hh, rfl⟩ := hw
  exact ⟨hblind, h, hh, rfl⟩

theorem Alike.note (hw : w.Alike R w') (n : Notice) : (w.note n).Alike R (w'.note n) := by
  obtain ⟨hblind, h, hh, rfl⟩ := hw
  exact ⟨hblind, h, hh, rfl⟩

theorem Alike.pause (hw : w.Alike R w') (d : Duration) : (w.pause d).Alike R (w'.pause d) := by
  obtain ⟨hblind, h, hh, rfl⟩ := hw
  exact ⟨hblind, h, hh, rfl⟩

/-- Alike requests bring the same reply. -/
theorem Alike.exchange (hw : w.Alike R w') {q q' : Http.Request} (hq : R q q') :
    Agree R Eq (w.exchange q) (w'.exchange q') := by
  obtain ⟨hblind, h, hh, rfl⟩ := hw
  have hreply : w.network w.history q = w.network h q' := hblind _ _ _ _ hh hq
  refine ⟨hreply, hblind, h ++ [(q', w.network w.history q)], hh.concat hq _, ?_⟩
  rw [hreply]
  rfl

theorem Alike.startProgram (hw : w.Alike R w') (s : Host.Start) :
    Agree R Eq (w.startProgram s) (w'.startProgram s) := by
  obtain ⟨hblind, h, hh, rfl⟩ := hw
  exact ⟨rfl, hblind, h, hh, rfl⟩

theorem Alike.writeFile (hw : w.Alike R w') (path text : String) :
    Agree R Eq (w.writeFile path text) (w'.writeFile path text) := by
  obtain ⟨hblind, h, hh, rfl⟩ := hw
  unfold World.writeFile
  dsimp only
  split
  · exact ⟨rfl, hblind, h, hh, rfl⟩
  · exact ⟨rfl, hblind, h, hh, rfl⟩

theorem Alike.makeFolders (hw : w.Alike R w') (path : String) :
    Agree R Eq (w.makeFolders path) (w'.makeFolders path) := by
  obtain ⟨hblind, h, hh, rfl⟩ := hw
  exact ⟨rfl, hblind, h, hh, rfl⟩

theorem Alike.isFile_eq (hw : w.Alike R w') (path : String) : w.isFile path = w'.isFile path := by
  obtain ⟨-, h, -, rfl⟩ := hw
  rfl

theorem Alike.turns_eq (hw : w.Alike R w') : w.turns = w'.turns := by
  obtain ⟨-, h, -, rfl⟩ := hw
  rfl

theorem Alike.clock_eq (hw : w.Alike R w') : w.clock = w'.clock := by
  obtain ⟨-, h, -, rfl⟩ := hw
  rfl

end World

/-! ### Jobs -/

namespace Job

variable {α β : Type}

inductive Alike (R : Http.Request → Http.Request → Prop) : Job α → Job α → Prop
  | done (a : α) : Alike R (.done a) (.done a)
  | send {q q' : Http.Request} {next next' : Http.Reply → Job α} (asked : R q q')
      (rest : ∀ r, Alike R (next r) (next' r)) : Alike R (.send q next) (.send q' next')
  | note (n : Notice) {next next' : Job α} (rest : Alike R next next') :
      Alike R (.note n next) (.note n next')
  | pause (d : Duration) {next next' : Job α} (rest : Alike R next next') :
      Alike R (.pause d next) (.pause d next')
  | write (path text : String) {next next' : Except Host.Fault Unit → Job α}
      (rest : ∀ r, Alike R (next r) (next' r)) :
      Alike R (.write path text next) (.write path text next')
  | look (path : String) {next next' : Bool → Job α} (rest : ∀ b, Alike R (next b) (next' b)) :
      Alike R (.look path next) (.look path next')

variable {j k : Job α} {w w' : World}

theorem Alike.refl (hR : ∀ q, R q q) (j : Job α) : j.Alike R j := by
  induction j with
  | done a => exact .done a
  | send q next ih => exact .send (hR q) ih
  | note n next ih => exact .note n ih
  | pause d next ih => exact .pause d ih
  | write path text next ih => exact .write path text ih
  | look path next ih => exact .look path ih

theorem Alike.bind {f g : α → Job β} (h : j.Alike R k) (hfg : ∀ a, (f a).Alike R (g a)) :
    (j.bind f).Alike R (k.bind g) := by
  induction h with
  | done a => exact hfg a
  | send asked _ ih => exact .send asked ih
  | note n _ ih => exact .note n ih
  | pause d _ ih => exact .pause d ih
  | write path text _ ih => exact .write path text ih
  | look path _ ih => exact .look path ih

theorem Alike.isDone_eq (h : j.Alike R k) : j.isDone = k.isDone := by
  cases h <;> rfl

/-- One step leaves jobs and worlds alike. -/
theorem Alike.step (h : j.Alike R k) (hw : w.Alike R w') :
    World.Agree R (Job.Alike R) (j.step w) (k.step w') := by
  cases h with
  | done a => exact ⟨.done a, hw⟩
  | @send q q' next next' asked rest =>
    obtain ⟨hreply, hafter⟩ := hw.exchange asked
    refine ⟨?_, hafter⟩
    show (next (w.exchange q).1).Alike R (next' (w'.exchange q').1)
    rw [← hreply]
    exact rest _
  | note n rest => exact ⟨rest, hw.note n⟩
  | pause d rest => exact ⟨rest, hw.pause d⟩
  | @write path text next next' rest =>
    obtain ⟨hresult, hafter⟩ := hw.writeFile path text
    refine ⟨?_, hafter⟩
    show (next (w.writeFile path text).1).Alike R (next' (w'.writeFile path text).1)
    rw [← hresult]
    exact rest _
  | @look path next next' rest =>
    refine ⟨?_, hw⟩
    show (next (w.isFile path)).Alike R (next' (w'.isFile path))
    rw [← hw.isFile_eq path]
    exact rest _

/-- Jobs that are alike come to the same result. -/
theorem Alike.run (h : j.Alike R k) (hw : w.Alike R w') :
    World.Agree R Eq (j.run w) (k.run w') := by
  induction h generalizing w w' with
  | done a => exact ⟨rfl, hw⟩
  | @send q q' next next' asked _ ih =>
    obtain ⟨hreply, hafter⟩ := hw.exchange asked
    show World.Agree R Eq ((next (w.exchange q).1).run (w.exchange q).2)
      ((next' (w'.exchange q').1).run (w'.exchange q').2)
    rw [← hreply]
    exact ih _ hafter
  | note n _ ih => exact ih (hw.note n)
  | pause d _ ih => exact ih (hw.pause d)
  | @write path text next next' _ ih =>
    obtain ⟨hresult, hafter⟩ := hw.writeFile path text
    show World.Agree R Eq ((next (w.writeFile path text).1).run (w.writeFile path text).2)
      ((next' (w'.writeFile path text).1).run (w'.writeFile path text).2)
    rw [← hresult]
    exact ih _ hafter
  | @look path next next' _ ih =>
    show World.Agree R Eq ((next (w.isFile path)).run w) ((next' (w'.isFile path)).run w')
    rw [← hw.isFile_eq path]
    exact ih _ hw

end Job

/-! ### Batches -/

section

variable {α β γ : Type} {P : α → β → Prop} {as : List α} {bs : List β}

theorem forall₂_getElem? (h : List.Forall₂ P as bs) (i : Nat) :
    (as[i]? = none ∧ bs[i]? = none) ∨ ∃ a b, as[i]? = some a ∧ bs[i]? = some b ∧ P a b := by
  induction h generalizing i with
  | nil => exact .inl ⟨rfl, rfl⟩
  | @cons a b as bs hab _ ih =>
    cases i with
    | zero => exact .inr ⟨a, b, rfl, rfl, hab⟩
    | succ i => exact ih i

theorem forall₂_set (h : List.Forall₂ P as bs) {a : α} {b : β} (hab : P a b) (i : Nat) :
    List.Forall₂ P (as.set i a) (bs.set i b) := by
  induction h generalizing i with
  | nil => exact .nil
  | @cons c d as bs hcd hrest ih =>
    cases i with
    | zero => exact .cons hab hrest
    | succ i => exact .cons hcd (ih i)

/-- Two lists that are gone through side by side, in worlds that stay related. -/
theorem Batch.along_related {δ : Type} {W : World → World → Prop} {Q : γ → δ → Prop}
    {f : α → World → γ × World} {g : β → World → δ × World}
    (hstep : ∀ a b w w', P a b → W w w' → Q (f a w).1 (g b w').1 ∧ W (f a w).2 (g b w').2)
    (h : List.Forall₂ P as bs) {w w' : World} (hw : W w w') :
    List.Forall₂ Q (along f as w).1 (along g bs w').1 ∧ W (along f as w).2 (along g bs w').2 := by
  induction h generalizing w w' with
  | nil => exact ⟨.nil, hw⟩
  | cons hab _ ih =>
    obtain ⟨hfirst, hnext⟩ := hstep _ _ _ _ hab hw
    obtain ⟨hrest, hend⟩ := ih hnext
    exact ⟨.cons hfirst hrest, hend⟩

theorem Batch.along_alike {Q : γ → γ → Prop} {f : α → World → γ × World}
    {g : β → World → γ × World}
    (hstep : ∀ a b w w', P a b → w.Alike R w' →
      World.Agree R Q (f a w) (g b w'))
    (h : List.Forall₂ P as bs) {w w' : World} (hw : w.Alike R w') :
    World.Agree R (List.Forall₂ Q) (along f as w) (along g bs w') := by
  obtain ⟨hresults, hafter⟩ := along_related
    (fun a b w w' hab hw => ⟨(hstep a b w w' hab hw).result, (hstep a b w w' hab hw).after⟩) h hw
  exact ⟨hresults, hafter⟩

end

namespace Assignment

/-- Both jobs are done or neither is, and a worker has begun with both of them or with neither. -/
structure InStep {α β : Type} (a : Assignment α) (b : Assignment β) : Prop where
  isDone_eq : a.job.isDone = b.job.isDone
  begun_eq : a.begun = b.begun

theorem InStep.isUnderWay_eq {α β : Type} {a : Assignment α} {b : Assignment β}
    (h : a.InStep b) : a.isUnderWay = b.isUnderWay := by
  rw [isUnderWay, isUnderWay, h.isDone_eq, h.begun_eq]

variable {α : Type} {a b : Assignment α} {w w' : World}

def Alike (R : Http.Request → Http.Request → Prop) (a b : Assignment α) : Prop :=
  a.job.Alike R b.job ∧ a.begun = b.begun

theorem Alike.inStep (h : a.Alike R b) : a.InStep b := ⟨h.1.isDone_eq, h.2⟩

theorem Alike.step (h : a.Alike R b) (hw : w.Alike R w') :
    World.Agree R (Assignment.Alike R) (a.step w) (b.step w') := by
  obtain ⟨hjobs, hafter⟩ := h.1.step hw
  exact ⟨⟨hjobs, rfl⟩, hafter⟩

theorem Alike.finish (h : a.Alike R b) (hw : w.Alike R w') :
    World.Agree R (Assignment.Alike R) (a.finish w) (b.finish w') := by
  unfold Assignment.finish
  rw [h.2]
  cases b.begun with
  | false => exact ⟨h, hw⟩
  | true =>
    obtain ⟨hresult, hafter⟩ := h.1.run hw
    refine ⟨⟨?_, rfl⟩, hafter⟩
    show (Job.done (a.job.run w).1).Alike R (.done (b.job.run w').1)
    rw [hresult]
    exact .done _

end Assignment

namespace Batch

/-- Batches in step keep the same number of workers busy. -/
theorem busy_eq {α β : Type} {as : List (Assignment α)} {bs : List (Assignment β)}
    (h : List.Forall₂ Assignment.InStep as bs) : busy as = busy bs := by
  induction h with
  | nil => rfl
  | cons hab _ ih =>
    unfold busy at ih ⊢
    rw [List.countP_cons, List.countP_cons, ih, hab.isUnderWay_eq]

theorem mayStep_eq {α β : Type} (workers : Nat) {as : List (Assignment α)}
    {bs : List (Assignment β)} (h : List.Forall₂ Assignment.InStep as bs) {a : Assignment α}
    {b : Assignment β} (hab : a.InStep b) : mayStep workers as a = mayStep workers bs b := by
  rw [mayStep, mayStep, hab.isUnderWay_eq, hab.begun_eq, busy_eq h]

variable {α : Type} {as bs : List (Assignment α)} {w w' : World}

theorem turn_alike (workers : Nat) (h : List.Forall₂ (Assignment.Alike R) as bs) (i : Nat)
    (hw : w.Alike R w') :
    World.Agree R (List.Forall₂ (Assignment.Alike R)) (turn workers as i w)
      (turn workers bs i w') := by
  unfold turn
  rcases forall₂_getElem? h i with ⟨hnone, hnone'⟩ | ⟨a, b, ha, hb, hab⟩
  · rw [hnone, hnone']
    exact ⟨h, hw⟩
  · rw [ha, hb]
    dsimp only
    rw [mayStep_eq workers (h.imp fun _ _ => Assignment.Alike.inStep) hab.inStep]
    cases mayStep workers bs b with
    | false => exact ⟨h, hw⟩
    | true =>
      obtain ⟨hstep, hafter⟩ := hab.step hw
      exact ⟨forall₂_set h hstep i, hafter⟩

theorem play_alike (workers : Nat) (turns : List Nat)
    (h : List.Forall₂ (Assignment.Alike R) as bs) (hw : w.Alike R w') :
    World.Agree R (List.Forall₂ (Assignment.Alike R)) (play workers turns as w)
      (play workers turns bs w') := by
  induction turns generalizing as bs w w' with
  | nil => exact ⟨h, hw⟩
  | cons i turns ih =>
    obtain ⟨hturn, hafter⟩ := turn_alike workers h i hw
    exact ih hturn hafter

/-- Batches of jobs that are alike come to the same results. -/
theorem run_agree (workers : Nat) {jobs jobs' : List (Job α)}
    (h : List.Forall₂ (Job.Alike R) jobs jobs') (hw : w.Alike R w') :
    World.Agree R Eq (run workers jobs w) (run workers jobs' w') := by
  have hassigned : List.Forall₂ (Assignment.Alike R) (jobs.map .ofJob) (jobs'.map .ofJob) :=
    List.forall₂_map_left_iff.2 (List.forall₂_map_right_iff.2 (h.imp fun _ _ hjob => ⟨hjob, rfl⟩))
  obtain ⟨hplayed, hbefore⟩ := play_alike (max 1 workers) w.turns hassigned hw
  obtain ⟨hsettled, hbetween⟩ := along_alike (fun _ _ _ _ hab hw => hab.finish hw) hplayed hbefore
  have hresults := along_alike (fun _ _ _ _ (hab : Assignment.Alike R _ _) hw => hab.1.run hw)
    hsettled hbetween
  rw [List.forall₂_eq_eq_eq] at hresults
  unfold run
  rw [← hw.turns_eq]
  exact ⟨hresults.1, hresults.2⟩

/-- Batches of one job for each member of a list. -/
theorem run_map_agree (workers : Nat) {β : Type} {f g : β → Job α}
    (h : ∀ b, (f b).Alike R (g b)) (bs : List β) (hw : w.Alike R w') :
    World.Agree R Eq (run workers (bs.map f) w) (run workers (bs.map g) w') := by
  have hjobs : List.Forall₂ (Job.Alike R) (bs.map f) (bs.map g) :=
    List.forall₂_map_left_iff.2 (List.forall₂_map_right_iff.2
      (List.forall₂_same.2 fun b _ => h b))
  exact run_agree workers hjobs hw

end Batch

/-! ### Actions -/

namespace Action

variable {α β : Type}

def Alike (R : Http.Request → Http.Request → Prop) (a b : Action α) : Prop :=
  ∀ w w', w.Alike R w' → World.Agree R Eq (a.run w) (b.run w')

theorem Alike.bind {a b : Action α} {f g : α → Action β} (h : a.Alike R b)
    (hfg : ∀ x, (f x).Alike R (g x)) : (a >>= f).Alike R (b >>= g) := by
  intro w w' hw
  obtain ⟨hresult, hafter⟩ := h w w' hw
  rw [run_bind, run_bind]
  generalize a.run w = r at hresult hafter
  generalize b.run w' = s at hresult hafter
  obtain ⟨x, u⟩ := r
  obtain ⟨y, v⟩ := s
  obtain rfl : x = y := hresult
  cases x with
  | error e => exact ⟨rfl, hafter⟩
  | ok x => exact hfg x u v hafter

theorem alike_pure (a : α) : (pure a : Action α).Alike R (pure a) := fun _ _ hw => ⟨rfl, hw⟩

theorem alike_fail (c : Cause) : (fail c : Action α).Alike R (fail c) := fun _ _ hw => ⟨rfl, hw⟩

theorem alike_print (text : String) : (print text).Alike R (print text) :=
  fun _ _ hw => ⟨rfl, hw.print text⟩

theorem alike_note (n : Notice) : (note n).Alike R (note n) := fun _ _ hw => ⟨rfl, hw.note n⟩

theorem alike_ofExcept (x : Except Failure α) : (ofExcept x).Alike R (ofExcept x) :=
  fun w w' hw => by
    rw [run_ofExcept, run_ofExcept]
    exact ⟨rfl, hw⟩

/-- Two values may be handed on where what follows makes no difference between them. -/
theorem alike_ok_bind {x y : α} {f g : α → Action β} (h : (f x).Alike R (g y)) :
    (ofExcept (.ok x) >>= f).Alike R (ofExcept (.ok y) >>= g) := fun w w' hw => by
  rw [run_bind_ok (run_ofExcept _ w), run_bind_ok (run_ofExcept _ w')]
  exact h w w' hw

theorem alike_error_bind (e : Failure) (f g : α → Action β) :
    (ofExcept (.error e) >>= f).Alike R (ofExcept (.error e) >>= g) := fun w w' hw => by
  rw [run_bind_error (run_ofExcept _ w), run_bind_error (run_ofExcept _ w')]
  exact ⟨rfl, hw⟩

theorem alike_modifyGet {f g : World → α × World}
    (h : ∀ w w', w.Alike R w' → World.Agree R Eq (f w) (g w')) :
    (modifyGet f : Action α).Alike R (modifyGet g) := fun w w' hw => by
  obtain ⟨hresult, hafter⟩ := h w w' hw
  rw [run_modifyGet, run_modifyGet, hresult]
  exact ⟨rfl, hafter⟩

/-- What an action reads of the world is the same in both. -/
theorem alike_get {f : World → Action β} {g : World → Action β}
    (h : ∀ w w', w.Alike R w' → (f w).Alike R (g w')) :
    (get >>= f : Action β).Alike R (get >>= g) := fun w w' hw => by
  rw [run_bind_ok (run_get w), run_bind_ok (run_get w')]
  exact h w w' hw w w' hw

theorem Alike.under {a b : Action α} (h : a.Alike R b) (heading : String) :
    (a.under heading).Alike R (b.under heading) := fun w w' hw => by
  obtain ⟨hresult, hafter⟩ := h w w' hw
  rw [run_under, run_under, hresult]
  exact ⟨rfl, hafter⟩

theorem alike_ofHost {f : World → Except Host.Fault α × World}
    (h : ∀ w w', w.Alike R w' → World.Agree R Eq (f w) (f w')) :
    (ofHost f).Alike R (ofHost f) := by
  refine (alike_modifyGet h).bind fun r => ?_
  cases r with
  | ok a => exact alike_pure a
  | error e => exact alike_fail _

theorem alike_tryJob {j k : Job (Except Failure α)} (h : j.Alike R k) :
    (tryJob j).Alike R (tryJob k) := fun w w' hw => by
  rw [run_tryJob, run_tryJob]
  exact h.run hw

end Action

end Compliance
