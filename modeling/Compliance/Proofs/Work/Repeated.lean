import Compliance.Proofs.Work.Interleaving
import Mathlib.Data.List.Basic

/-!
The same batch in two worlds. Where the replies to what a batch sends depend on nothing but the
requests, each of its jobs goes one path only; so two runs come to the same results, and whatever
the turns and the numbers of workers are, what happens in one of them is what happens in the other
in some other order.
-/

namespace Compliance

/-! ### Traces job by job -/

namespace Trace

/-- One more event of one job is one more event of all. -/
theorem perm_flatMap_own {k n : Nat} (hk : k < n) (e : Event) (t : Trace) :
    ((List.range n).flatMap (own ((k, e) :: t))).Perm (e :: (List.range n).flatMap t.own) := by
  induction n with
  | zero => exact absurd hk (Nat.not_lt_zero k)
  | succ n ih =>
    rw [List.range_succ, List.flatMap_append, List.flatMap_append, List.flatMap_singleton,
      List.flatMap_singleton, own_cons]
    rcases Nat.lt_succ_iff_lt_or_eq.1 hk with hk | rfl
    · rw [if_neg (Nat.ne_of_lt hk)]
      exact (ih hk).append_right _
    · have hbelow : ∀ i ∈ List.range k, own ((k, e) :: t) i = t.own i := fun i hi => by
        rw [own_cons, if_neg (Nat.ne_of_gt (List.mem_range.1 hi))]
      rw [if_pos rfl, List.flatMap_congr hbelow]
      exact List.perm_middle

/-- The events of a trace are those of its jobs. -/
theorem perm_own {t : Trace} {n : Nat} (h : ∀ s ∈ t, s.1 < n) :
    t.events.Perm ((List.range n).flatMap t.own) := by
  induction t with
  | nil =>
    have hnone : (List.range n).flatMap (own []) = [] := List.flatMap_eq_nil_iff.2 fun _ _ => rfl
    rw [hnone, events_nil]
  | cons s t ih =>
    obtain ⟨hs, ht⟩ := List.forall_mem_cons.1 h
    exact ((ih ht).cons s.2).trans (perm_flatMap_own hs s.2 t).symm

end Trace

/-! ### Batches -/

namespace Batch

variable {α : Type} {P : Http.Request → Prop} {answer : Http.Request → Http.Reply}

/-- A batch whose jobs only talk comes to the same results in two worlds that give the same replies
to it, and the same happens in both, in whatever order. -/
theorem run_repeated {jobs : List (Job α)} (hjobs : ∀ j ∈ jobs, j.Talks P) {w w' : World}
    (hw : w.Answers P answer) (hw' : w'.Answers P answer) (workers workers' : Nat) :
    (run workers jobs w).1 = (run workers' jobs w').1 ∧ ∃ es es' : List Event, es.Perm es' ∧
      (∀ q r, .sent q r ∈ es → P q) ∧ (run workers jobs w).2 = w.afterAll es ∧
        (run workers' jobs w').2 = w'.afterAll es' := by
  obtain ⟨t, h⟩ := run_interleaving workers jobs w
  obtain ⟨t', h'⟩ := run_interleaving workers' jobs w'
  have hsame : ∀ {i : Nat} {j : Job α}, jobs[i]? = some j → ∃ a, (run workers jobs w).1[i]? =
      some a ∧ (run workers' jobs w').1[i]? = some a ∧ t.own i = t'.own i := fun {i j} hj => by
    obtain ⟨a, ha, hends⟩ := h.exists_result hj
    obtain ⟨b, hb, hends'⟩ := h'.exists_result hj
    have htalks : j.Talks P := hjobs j (List.mem_of_getElem? hj)
    obtain ⟨hown, rfl⟩ := htalks.unique hends hends'
      (fun q r hq => hw.reply_eq h.brought (Trace.mem_events_of_mem_own hq)
        (htalks.sent hends hq))
      (fun q r hq => hw'.reply_eq h'.brought (Trace.mem_events_of_mem_own hq)
        (htalks.sent hends' hq))
    exact ⟨a, ha, hb, hown⟩
  refine ⟨List.ext_getElem? fun i => ?_, t.events, t'.events, ?_, fun q r hq => ?_, h.left.symm,
    h'.left.symm⟩
  · by_cases hi : i < jobs.length
    · obtain ⟨a, ha, hb, -⟩ := hsame (List.getElem?_eq_getElem hi)
      rw [ha, hb]
    · have hlength : jobs.length ≤ i := Nat.le_of_not_lt hi
      rw [List.getElem?_eq_none (by rwa [length_run]),
        List.getElem?_eq_none (by rwa [length_run])]
  · have hown : ∀ i ∈ List.range jobs.length, t.own i = t'.own i := fun i hi => by
      obtain ⟨_, _, _, hown⟩ := hsame (List.getElem?_eq_getElem (List.mem_range.1 hi))
      exact hown
    have hperm := Trace.perm_own h.owned
    rw [List.flatMap_congr hown] at hperm
    exact hperm.trans (Trace.perm_own h'.owned).symm
  · exact sent_of_talks hjobs h hq

end Batch

end Compliance
