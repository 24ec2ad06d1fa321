import Compliance.Work.Job

/-!
Running actions. A run hands the world on from one part of an action to the next, and the first
failure ends it; what was done before it stays done. An action is silent if it sends nothing.
-/

namespace Compliance.Action

variable {α β : Type}

theorem run_bind (a : Action α) (f : α → Action β) (w : World) :
    (a >>= f).run w =
      match a.run w with
      | (.ok x, u) => (f x).run u
      | (.error e, u) => (.error e, u) := by
  unfold ExceptT.run
  simp only [bind, ExceptT.bind, ExceptT.mk, StateT.bind, ExceptT.bindCont]
  cases a w with
  | mk x u => cases x <;> rfl

theorem run_bind_ok {a : Action α} {f : α → Action β} {w u : World} {x : α}
    (h : a.run w = (.ok x, u)) : (a >>= f).run w = (f x).run u := by
  rw [run_bind, h]

theorem run_bind_error {a : Action α} {f : α → Action β} {w u : World} {e : Failure}
    (h : a.run w = (.error e, u)) : (a >>= f).run w = (.error e, u) := by
  rw [run_bind, h]

@[simp] theorem run_pure (a : α) (w : World) : (pure a : Action α).run w = (.ok a, w) := rfl

@[simp] theorem run_get (w : World) : (get : Action World).run w = (.ok w, w) := rfl

@[simp] theorem run_modifyGet (f : World → α × World) (w : World) :
    (modifyGet f : Action α).run w = (.ok (f w).1, (f w).2) := rfl

@[simp] theorem run_print (text : String) (w : World) :
    (print text).run w = (.ok (), w.print text) := rfl

@[simp] theorem run_note (n : Notice) (w : World) : (note n).run w = (.ok (), w.note n) := rfl

@[simp] theorem run_fail (c : Cause) (w : World) :
    (fail c : Action α).run w = (.error (.of c), w) := rfl

@[simp] theorem run_ofExcept (x : Except Failure α) (w : World) :
    (ofExcept x).run w = (x, w) := by
  cases x <;> rfl

@[simp] theorem run_tryJob (j : Job (Except Failure α)) (w : World) :
    (tryJob j).run w = j.run w := by
  have hjob : (doJob j).run w = (.ok (j.run w).1, (j.run w).2) := rfl
  rw [tryJob, run_bind_ok hjob, run_ofExcept]

theorem run_under (heading : String) (a : Action α) (w : World) :
    (under heading a).run w = ((a.run w).1.mapError (·.under heading), (a.run w).2) := rfl

theorem run_ofHost_ok {f : World → Except Host.Fault α × World} {w : World} {a : α}
    (h : (f w).1 = .ok a) : (ofHost f).run w = (.ok a, (f w).2) := by
  rw [ofHost, run_bind_ok (run_modifyGet f w), h, run_pure]

theorem run_ofHost_error {f : World → Except Host.Fault α × World} {w : World} {e : Host.Fault}
    (h : (f w).1 = .error e) : (ofHost f).run w = (.error (.of (.host e)), (f w).2) := by
  rw [ofHost, run_bind_ok (run_modifyGet f w), h, run_fail]

/-! ### What an action leaves as it is -/

section

variable {γ : Type} {f : World → γ}

/-- The action leaves a part of the world as it is, also where it gives up. -/
def Leaves (f : World → γ) (a : Action α) : Prop := ∀ w, f (a.run w).2 = f w

theorem Leaves.bind {a : Action α} {g : α → Action β} (ha : a.Leaves f)
    (hg : ∀ x, (g x).Leaves f) : (a >>= g).Leaves f := by
  intro w
  have hw : f (a.run w).2 = f w := ha w
  rw [run_bind]
  generalize a.run w = r at hw
  obtain ⟨x, u⟩ := r
  cases x with
  | error e => exact hw
  | ok x => exact (hg x u).trans hw

theorem leaves_pure (a : α) : (pure a : Action α).Leaves f := fun _ => rfl

theorem leaves_fail (c : Cause) : (fail c : Action α).Leaves f := fun _ => rfl

theorem leaves_get : (get : Action World).Leaves f := fun _ => rfl

theorem leaves_modifyGet {g : World → α × World} (h : ∀ w, f (g w).2 = f w) :
    (modifyGet g : Action α).Leaves f := h

theorem leaves_ofExcept (x : Except Failure α) : (ofExcept x).Leaves f := fun w => by
  rw [run_ofExcept]

theorem Leaves.under {a : Action α} (h : a.Leaves f) (heading : String) :
    (a.under heading).Leaves f := fun w => by
  rw [run_under]
  exact h w

theorem leaves_ofHost {g : World → Except Host.Fault α × World} (h : ∀ w, f (g w).2 = f w) :
    (ofHost g).Leaves f := by
  refine (leaves_modifyGet h).bind fun r => ?_
  cases r with
  | ok a => exact leaves_pure a
  | error e => exact leaves_fail _

theorem leaves_tryJob {j : Job (Except Failure α)} (h : ∀ w, f (j.run w).2 = f w) :
    (tryJob j).Leaves f := fun w => by
  rw [run_tryJob]
  exact h w

end

def IsSilent (a : Action α) : Prop := ∀ w, (a.run w).2.history = w.history

theorem IsSilent.bind {a : Action α} {f : α → Action β} (ha : a.IsSilent)
    (hf : ∀ x, (f x).IsSilent) : (a >>= f).IsSilent :=
  Leaves.bind ha hf

theorem isSilent_pure (a : α) : (pure a : Action α).IsSilent := leaves_pure a

theorem isSilent_fail (c : Cause) : (fail c : Action α).IsSilent := leaves_fail c

theorem isSilent_note (n : Notice) : (note n).IsSilent := fun _ => rfl

theorem isSilent_get : (get : Action World).IsSilent := leaves_get

theorem isSilent_startProgram (s : Host.Start) :
    (modifyGet (·.startProgram s) : Action _).IsSilent := fun _ => rfl

theorem isSilent_ofExcept (x : Except Failure α) : (ofExcept x).IsSilent := leaves_ofExcept x

end Compliance.Action
