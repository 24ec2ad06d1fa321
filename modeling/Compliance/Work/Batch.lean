import Compliance.Work.Job

/-!
A batch of jobs that several workers share. The turns of the world say whose step comes next: a
turn is lost if the job it names is done, or if it has not begun and all workers are busy. When the
turns are used up the jobs under way are finished and then the others done, each without a break.
Every order in which the steps of the jobs can follow one another is thus the order of some turns.
The results stand in the order of the jobs, whatever the turns.
-/

namespace Compliance

structure Assignment (α : Type) where
  job : Job α
  begun : Bool

namespace Assignment

variable {α : Type}

def ofJob (j : Job α) : Assignment α := ⟨j, false⟩

def isUnderWay (a : Assignment α) : Bool := a.begun && !a.job.isDone

def step (a : Assignment α) (w : World) : Assignment α × World :=
  let r := a.job.step w
  (⟨r.1, true⟩, r.2)

def finish (a : Assignment α) (w : World) : Assignment α × World :=
  if a.begun then
    let r := a.job.run w
    (⟨.done r.1, true⟩, r.2)
  else (a, w)

end Assignment

namespace Batch

variable {α : Type}

def busy (as : List (Assignment α)) : Nat := as.countP Assignment.isUnderWay

/-- One step of one job may come next. -/
def mayStep (workers : Nat) (as : List (Assignment α)) (a : Assignment α) : Bool :=
  a.isUnderWay || (!a.begun && decide (busy as < workers))

def turn (workers : Nat) (as : List (Assignment α)) (i : Nat) (w : World) :
    List (Assignment α) × World :=
  match as[i]? with
  | none => (as, w)
  | some a =>
    if mayStep workers as a then
      let r := a.step w
      (as.set i r.1, r.2)
    else (as, w)

def play (workers : Nat) : List Nat → List (Assignment α) → World → List (Assignment α) × World
  | [], as, w => (as, w)
  | i :: turns, as, w =>
    let r := turn workers as i w
    play workers turns r.1 r.2

/-- Goes through a list while the world is handed on. -/
def along {β γ : Type} (f : β → World → γ × World) : List β → World → List γ × World
  | [], w => ([], w)
  | b :: bs, w =>
    let r := f b w
    let s := along f bs r.2
    (r.1 :: s.1, s.2)

/-- Does all jobs of a batch with a number of workers, of which there is one at least. -/
def run (workers : Nat) (jobs : List (Job α)) (w : World) : List α × World :=
  let played := play (max 1 workers) w.turns (jobs.map .ofJob) w
  let settled := along Assignment.finish played.1 played.2
  along (fun a => a.job.run) settled.1 settled.2

theorem length_along {β γ : Type} (f : β → World → γ × World) (bs : List β) (w : World) :
    (along f bs w).1.length = bs.length := by
  induction bs generalizing w with
  | nil => rfl
  | cons b bs ih => simp [along, ih]

theorem length_turn (workers : Nat) (as : List (Assignment α)) (i : Nat) (w : World) :
    (turn workers as i w).1.length = as.length := by
  unfold turn
  split
  · rfl
  · split <;> simp

theorem length_play (workers : Nat) (turns : List Nat) (as : List (Assignment α)) (w : World) :
    (play workers turns as w).1.length = as.length := by
  induction turns generalizing as w with
  | nil => rfl
  | cons i turns ih => simp [play, ih, length_turn]

/-- There is one result for each job. -/
theorem length_run (workers : Nat) (jobs : List (Job α)) (w : World) :
    (run workers jobs w).1.length = jobs.length := by
  simp [run, length_along, length_play]

end Batch

end Compliance
