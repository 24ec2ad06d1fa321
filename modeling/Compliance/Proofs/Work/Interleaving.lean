import Compliance.Proofs.Work.Talk
import Compliance.Work.Batch

/-!
A batch as an interleaving. The steps of its jobs are written down in the order in which they are
taken, each with the number of its job. Of such a trace the world sees the events, and each job goes
the path of its own ones. Every run of a batch has a trace, and with enough workers every trace is
that of a run, so that what holds of all turns holds of all orders of steps.
-/

namespace Compliance

/-- Events in the order in which they come about, each with the number of the job that it is of. -/
abbrev Trace := List (Nat × Event)

namespace Trace

def events (t : Trace) : List Event := t.map (·.2)

def own (t : Trace) (i : Nat) : List Event :=
  t.filterMap fun s => if s.1 = i then some s.2 else none

@[simp] theorem events_nil : events [] = [] := rfl

@[simp] theorem events_append (t u : Trace) : (t ++ u).events = t.events ++ u.events :=
  List.map_append

@[simp] theorem events_cons (s : Nat × Event) (t : Trace) : events (s :: t) = s.2 :: t.events := rfl

@[simp] theorem events_tagged (i : Nat) (es : List Event) : events (es.map (i, ·)) = es := by
  simp [events, Function.comp_def]

@[simp] theorem own_append (t u : Trace) (i : Nat) : (t ++ u).own i = t.own i ++ u.own i :=
  List.filterMap_append

theorem own_cons (k : Nat) (e : Event) (t : Trace) (i : Nat) :
    own ((k, e) :: t) i = if k = i then e :: t.own i else t.own i := by
  by_cases h : k = i
  · simp [own, h]
  · simp [own, h]

theorem own_tagged_self (i : Nat) (es : List Event) : own (es.map (i, ·)) i = es := by
  induction es with
  | nil => rfl
  | cons e es ih => rw [List.map_cons, own_cons, if_pos rfl, ih]

theorem own_tagged_of_ne {i k : Nat} (h : k ≠ i) (es : List Event) :
    own (es.map (k, ·)) i = [] := by
  induction es with
  | nil => rfl
  | cons e es ih => rw [List.map_cons, own_cons, if_neg h, ih]

theorem mem_own {t : Trace} {i : Nat} {e : Event} : e ∈ t.own i ↔ (i, e) ∈ t := by
  simp only [own, List.mem_filterMap]
  constructor
  · rintro ⟨⟨k, f⟩, hs, h⟩
    by_cases hk : k = i
    · subst hk
      simp only [if_true, Option.some.injEq] at h
      exact h ▸ hs
    · simp [hk] at h
  · intro h
    exact ⟨(i, e), h, by simp⟩

theorem mem_events_of_mem_own {t : Trace} {i : Nat} {e : Event} (h : e ∈ t.own i) :
    e ∈ t.events :=
  List.mem_map.2 ⟨(i, e), mem_own.1 h, rfl⟩

end Trace

namespace Batch

variable {α : Type}

/-- How far some jobs have come by a trace: each has gone the path of its own events, and the world
has brought about all of them. -/
structure Reaches (jobs : List (Job α)) (w : World) (t : Trace) (ks : List (Job α)) (u : World) :
    Prop where
  length : ks.length = jobs.length
  path : ∀ {i : Nat} {j k : Job α}, jobs[i]? = some j → ks[i]? = some k → j.Path (t.own i) k
  owned : ∀ s ∈ t, s.1 < jobs.length
  brought : w.BringsAll t.events
  left : w.afterAll t.events = u

/-- A trace by which all jobs come to their ends. -/
abbrev Interleaving (jobs : List (Job α)) (w : World) (t : Trace) (results : List α) (u : World) :
    Prop :=
  Reaches jobs w t (results.map .done) u

namespace Reaches

variable {jobs ks : List (Job α)} {w u : World} {t : Trace}

theorem start (jobs : List (Job α)) (w : World) : Reaches jobs w [] jobs w where
  length := rfl
  path hj hk := by
    obtain rfl := Option.some.inj (hj.symm.trans hk)
    exact .nil _
  owned := by simp
  brought := trivial
  left := rfl

/-- One job goes on. -/
theorem advance (h : Reaches jobs w t ks u) {i : Nat} {k l : Job α} {es : List Event}
    (hk : ks[i]? = some k) (hes : k.Path es l) (hb : u.BringsAll es) :
    Reaches jobs w (t ++ es.map (i, ·)) (ks.set i l) (u.afterAll es) where
  length := by simp [h.length]
  path {m j k'} hj hk' := by
    rw [Trace.own_append]
    by_cases hm : i = m
    · subst hm
      rw [Trace.own_tagged_self]
      have hl : l = k' := by simpa [List.getElem?_set_self', hk] using hk'
      exact hl ▸ (h.path hj hk).trans hes
    · rw [Trace.own_tagged_of_ne hm, List.append_nil]
      exact h.path hj (by simpa [List.getElem?_set_ne hm] using hk')
  owned s hs := by
    rcases List.mem_append.1 hs with hs | hs
    · exact h.owned s hs
    · obtain ⟨e, _, rfl⟩ := List.mem_map.1 hs
      have := (List.getElem?_eq_some_iff.1 hk).1
      exact h.length ▸ this
  brought := by
    rw [Trace.events_append, World.bringsAll_append, Trace.events_tagged, h.left]
    exact ⟨h.brought, hb⟩
  left := by rw [Trace.events_append, World.afterAll_append, Trace.events_tagged, h.left]

end Reaches

variable {jobs : List (Job α)} {w u : World} {t : Trace}

/-- A turn takes one step of one job, or none. -/
theorem reaches_turn (workers i : Nat) {as : List (Assignment α)}
    (h : Reaches jobs w t (as.map Assignment.job) u) :
    ∃ t', Reaches jobs w t' ((turn workers as i u).1.map Assignment.job)
      (turn workers as i u).2 := by
  unfold turn
  split
  · exact ⟨t, h⟩
  · rename_i a ha
    split
    · have hk : (as.map Assignment.job)[i]? = some a.job := by simp [ha]
      obtain ⟨b, hb, hs⟩ | ⟨e, k, he, hbr, hs⟩ := a.job.step_cases u
      · refine ⟨t, ?_⟩
        simpa [Assignment.step, hs, List.map_set] using
          h.advance hk (.nil _) trivial
      · refine ⟨t ++ [(i, e)], ?_⟩
        simpa [Assignment.step, hs, List.map_set] using h.advance hk he.path ⟨hbr, trivial⟩
    · exact ⟨t, h⟩

theorem reaches_play (workers : Nat) (turns : List Nat) {as : List (Assignment α)}
    (h : Reaches jobs w t (as.map Assignment.job) u) :
    ∃ t', Reaches jobs w t' ((play workers turns as u).1.map Assignment.job)
      (play workers turns as u).2 := by
  induction turns generalizing as u t with
  | nil => exact ⟨t, h⟩
  | cons i turns ih =>
    obtain ⟨t', h'⟩ := reaches_turn workers i h
    exact ih h'

/-- Going through jobs that are each taken some way further. -/
theorem reaches_along {β γ : Type} {f : β → World → γ × World} {before : β → Job α}
    (behind : γ → Job α)
    (hf : ∀ b v, ∃ es, (before b).Path es (behind (f b v).1) ∧ v.BringsAll es ∧
      v.afterAll es = (f b v).2)
    (ready : List (Job α)) (bs : List β)
    (h : Reaches jobs w t (ready ++ bs.map before) u) :
    ∃ rest, Reaches jobs w (t ++ rest) (ready ++ (along f bs u).1.map behind)
      (along f bs u).2 := by
  induction bs generalizing ready u t with
  | nil => exact ⟨[], by simpa [along] using h⟩
  | cons b bs ih =>
    obtain ⟨es, hes, hb, ha⟩ := hf b u
    have hk : (ready ++ (b :: bs).map before)[ready.length]? = some (before b) := by simp
    have h' := h.advance hk hes hb
    rw [ha] at h'
    obtain ⟨rest, hrest⟩ := ih (ready ++ [behind (f b u).1]) (by simpa using h')
    exact ⟨es.map (ready.length, ·) ++ rest, by simpa [along] using hrest⟩

theorem finish_path (a : Assignment α) (v : World) :
    ∃ es, a.job.Path es (a.finish v).1.job ∧ v.BringsAll es ∧ v.afterAll es = (a.finish v).2 := by
  unfold Assignment.finish
  split
  · exact a.job.run_ends v
  · exact ⟨[], .nil _, trivial, rfl⟩

/-- A batch runs by a trace in which each job comes to its end. -/
theorem run_interleaving (workers : Nat) (jobs : List (Job α)) (w : World) :
    ∃ t, Interleaving jobs w t (run workers jobs w).1 (run workers jobs w).2 := by
  have hjobs : (jobs.map Assignment.ofJob).map Assignment.job = jobs := by
    simp [Function.comp_def, Assignment.ofJob]
  obtain ⟨t₁, h₁⟩ := reaches_play (max 1 workers) w.turns
    (hjobs.symm ▸ Reaches.start jobs w : Reaches jobs w [] ((jobs.map .ofJob).map _) w)
  obtain ⟨t₂, h₂⟩ := reaches_along Assignment.job finish_path [] _ h₁
  obtain ⟨t₃, h₃⟩ := reaches_along Job.done (fun a v => a.job.run_ends v) [] _ h₂
  exact ⟨_, h₃⟩

/-- A batch starts no program. -/
theorem starts_run (workers : Nat) (jobs : List (Job α)) (w : World) :
    (run workers jobs w).2.starts = w.starts := by
  obtain ⟨t, h⟩ := run_interleaving workers jobs w
  rw [← h.left, World.starts_afterAll]

/-- Jobs that have come some way can all be brought to their ends. -/
theorem exists_interleaving {ks : List (Job α)} (h : Reaches jobs w t ks u) :
    ∃ rest results v, Interleaving jobs w (t ++ rest) results v := by
  obtain ⟨rest, hrest⟩ := reaches_along Job.done (fun k v => k.run_ends v) [] ks
    (by simpa using h : Reaches jobs w t ([] ++ ks.map id) u)
  exact ⟨rest, _, _, hrest⟩

namespace Interleaving

variable {results : List α} (h : Interleaving jobs w t results u)
include h

/-- Each job ends with the result in its place. -/
theorem exists_result {i : Nat} {j : Job α} (hj : jobs[i]? = some j) :
    ∃ x, results[i]? = some x ∧ j.Ends (t.own i) x := by
  have hlength : results.length = jobs.length := by simpa using h.length
  have hi : i < results.length := hlength ▸ (List.getElem?_eq_some_iff.1 hj).1
  have hx : results[i]? = some results[i] := List.getElem?_eq_getElem hi
  exact ⟨_, hx, h.path hj (by simp [hx])⟩

theorem exists_job {i : Nat} {x : α} (hx : results[i]? = some x) :
    ∃ j, jobs[i]? = some j ∧ j.Ends (t.own i) x := by
  have hlength : results.length = jobs.length := by simpa using h.length
  have hi : i < jobs.length := hlength ▸ (List.getElem?_eq_some_iff.1 hx).1
  have hj : jobs[i]? = some jobs[i] := List.getElem?_eq_getElem hi
  exact ⟨_, hj, h.path hj (by simp [hx])⟩

/-- A step of a trace is one of a job that ends with a result. -/
theorem exists_of_step {i : Nat} {e : Event} (he : (i, e) ∈ t) :
    ∃ j x, jobs[i]? = some j ∧ results[i]? = some x ∧ j.Ends (t.own i) x ∧ e ∈ t.own i := by
  have hj : jobs[i]? = some _ := List.getElem?_eq_getElem (h.owned _ he)
  obtain ⟨x, hx, hends⟩ := h.exists_result hj
  exact ⟨_, x, hj, hx, hends, Trace.mem_own.2 he⟩

end Interleaving

/-- What jobs that only talk send is all of their kind. -/
theorem sent_of_talks {P : Http.Request → Prop} {results : List α}
    (hjobs : ∀ j ∈ jobs, j.Talks P) (h : Interleaving jobs w t results u) {q : Http.Request}
    {r : Http.Reply} (hq : .sent q r ∈ t.events) : P q := by
  obtain ⟨⟨i, e⟩, hstep, rfl⟩ := List.mem_map.1 hq
  obtain ⟨j, _, hj, _, hends, hown⟩ := h.exists_of_step hstep
  exact (hjobs j (List.mem_of_getElem? hj)).sent hends hown

/-! ### Every trace is that of a run -/

/-- With a worker for each job, a turn of a job that can take a step takes it. -/
theorem turn_eq {workers i : Nat} {as : List (Assignment α)} {a : Assignment α} {e : Event}
    {k : Job α} (hw : as.length ≤ workers) (ha : as[i]? = some a) (he : a.job.Steps e k)
    (hb : u.Brings e) : turn workers as i u = (as.set i ⟨k, true⟩, u.after e) := by
  have hdone : a.job.isDone = false := he.not_done
  have hmay : mayStep workers as a = true := by
    cases hbegun : a.begun with
    | true => simp [mayStep, Assignment.isUnderWay, hbegun, hdone]
    | false =>
      have hidle : ¬ a.isUnderWay = true := by simp [Assignment.isUnderWay, hbegun]
      have hlt : busy as < as.length := by
        refine Nat.lt_of_le_of_ne List.countP_le_length fun heq => hidle ?_
        exact List.countP_eq_length.1 heq a (List.mem_of_getElem? ha)
      simp [mayStep, hbegun, Nat.lt_of_lt_of_le hlt hw]
  simp [turn, ha, hmay, Assignment.step, he.step_eq hb]

/-- Turns that follow a trace take its steps. -/
theorem play_eq {workers : Nat} (t : Trace) {as : List (Assignment α)} {ks : List (Job α)}
    (hw : as.length ≤ workers) (h : Reaches (as.map Assignment.job) u t ks w) :
    (play workers (t.map (·.1)) as u).1.map Assignment.job = ks ∧
      (play workers (t.map (·.1)) as u).2 = w := by
  induction t generalizing as u with
  | nil =>
    -- No job has gone anywhere.
    refine ⟨List.ext_getElem? fun i => ?_, h.left⟩
    show (as.map Assignment.job)[i]? = ks[i]?
    cases hk : ks[i]? with
    | none => simpa [h.length] using hk
    | some k =>
      have hi : i < (as.map Assignment.job).length :=
        h.length ▸ (List.getElem?_eq_some_iff.1 hk).1
      have hp := h.path (List.getElem?_eq_getElem hi) hk
      cases hp
      exact List.getElem?_eq_getElem hi
  | cons s t ih =>
    obtain ⟨i, e⟩ := s
    have hi : i < as.length := by simpa using h.owned (i, e) (by simp)
    have hi' : i < ks.length := by simpa [h.length] using hi
    have ha : as[i]? = some as[i] := List.getElem?_eq_getElem hi
    have hj : (as.map Assignment.job)[i]? = some as[i].job := by simp [ha]
    have hp := h.path hj (List.getElem?_eq_getElem hi')
    rw [Trace.own_cons, if_pos rfl] at hp
    obtain ⟨he, hes⟩ := h.brought
    cases hp with
    | cons first rest =>
      rename_i k
      have hturn := turn_eq hw ha first he
      -- What is left of the trace is one of the jobs as they are after this step.
      have hrest : Reaches ((as.set i ⟨k, true⟩).map Assignment.job) (u.after e) t ks w := by
        refine ⟨by simpa using h.length, ?_, ?_, hes, h.left⟩
        · intro m j l hj hl
          by_cases hm : i = m
          · subst hm
            obtain rfl : k = j := by simpa [List.getElem?_set_self', hi] using hj
            obtain rfl : ks[i] = l := by simpa [hi'] using hl
            exact rest
          · have hpath := h.path (by simpa [List.getElem?_set_ne hm] using hj) hl
            rwa [Trace.own_cons, if_neg hm] at hpath
        · intro s hs
          simpa using h.owned s (List.mem_cons_of_mem _ hs)
      simpa [play, hturn] using ih (by simpa using hw) hrest

/-- Nothing happens on the way through things that are done. -/
theorem along_of_done {β γ : Type} {f : β → World → γ × World} {g : β → γ} {bs : List β}
    (h : ∀ b ∈ bs, ∀ v, f b v = (g b, v)) (v : World) : along f bs v = (bs.map g, v) := by
  induction bs with
  | nil => rfl
  | cons b bs ih =>
    simp [along, h b (by simp), ih fun c hc => h c (List.mem_cons_of_mem _ hc)]

/-- With a worker for each job, every trace by which all jobs come to their ends is taken by the run
whose turns follow it. -/
theorem run_of_interleaving {workers : Nat} {results : List α} (hw : jobs.length ≤ workers)
    (h : Interleaving jobs w t results u) (hturns : w.turns = t.map (·.1)) :
    run workers jobs w = (results, u) := by
  have hjobs : (jobs.map Assignment.ofJob).map Assignment.job = jobs := by
    simp [Function.comp_def, Assignment.ofJob]
  have hmax : (jobs.map Assignment.ofJob).length ≤ max 1 workers := by
    simpa using Nat.le_trans hw (Nat.le_max_right 1 workers)
  obtain ⟨hplay, hleft⟩ := play_eq t hmax (hjobs.symm ▸ h)
  rw [← hturns] at hplay hleft
  generalize hp : play (max 1 workers) w.turns (jobs.map Assignment.ofJob) w = p at hplay hleft
  -- The turns have brought all jobs to their ends, so that what comes after them does nothing.
  have hdone : ∀ a ∈ p.1, ∃ x ∈ results, Job.done x = a.job := by
    intro a ha
    have hmem : a.job ∈ results.map Job.done := hplay ▸ List.mem_map_of_mem ha
    simpa using hmem
  have hfinish : along Assignment.finish p.1 p.2 = (p.1, p.2) := by
    rw [along_of_done (g := id)]
    · simp
    · intro a ha v
      obtain ⟨x, _, hx⟩ := hdone a ha
      obtain ⟨j, begun⟩ := a
      obtain rfl : Job.done x = j := hx
      cases begun <;> rfl
  have hrun : along (fun a => a.job.run) p.1 p.2 = (results, p.2) := by
    rw [along_of_done (g := fun a => (a.job.run w).1)]
    · congr 1
      calc
        p.1.map (fun a => (a.job.run w).1)
            = (p.1.map Assignment.job).map (fun j => (j.run w).1) := by
          simp [Function.comp_def]
        _ = results := by
          rw [hplay, List.map_map]
          exact List.map_id results
    · intro a ha v
      obtain ⟨x, _, hx⟩ := hdone a ha
      simp [← hx, Job.run]
  simp only [run, hp, hfinish, hrun]
  rw [hleft]

/-- The turns of the world have nothing to do with what its jobs can do. -/
theorem Reaches.withTurns {ks : List (Job α)} (h : Reaches jobs w t ks u) (turns : List Nat) :
    Reaches jobs (w.withTurns turns) t ks (u.withTurns turns) where
  length := h.length
  path := h.path
  owned := h.owned
  brought := World.bringsAll_withTurns.2 h.brought
  left := by rw [World.afterAll_withTurns, h.left]

/-- Every order in which the steps of some jobs can be taken is that of a run. -/
theorem exists_turns {results : List α} (h : Interleaving jobs w t results u) :
    ∃ turns, run jobs.length jobs (w.withTurns turns) = (results, u.withTurns turns) :=
  ⟨t.map (·.1), run_of_interleaving (Nat.le_refl _) (h.withTurns _) rfl⟩

end Batch

end Compliance
