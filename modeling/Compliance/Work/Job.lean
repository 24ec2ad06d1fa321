import Compliance.Work.World

/-!
Jobs that workers do side by side. A job is done step by step: a request is sent, a notice is
written, time passes, a file is written or looked for. Between two steps of one job there may be
steps of others, so what a job does next depends on nothing but what its own steps brought.
-/

namespace Compliance

inductive Job (α : Type)
  | done (a : α)
  | send (q : Http.Request) (next : Http.Reply → Job α)
  | note (n : Notice) (next : Job α)
  | pause (d : Duration) (next : Job α)
  | write (path text : String) (next : Except Host.Fault Unit → Job α)
  | look (path : String) (next : Bool → Job α)

namespace Job

variable {α β : Type}

def bind : Job α → (α → Job β) → Job β
  | .done a, f => f a
  | .send q next, f => .send q fun r => (next r).bind f
  | .note n next, f => .note n (next.bind f)
  | .pause d next, f => .pause d (next.bind f)
  | .write path text next, f => .write path text fun r => (next r).bind f
  | .look path next, f => .look path fun b => (next b).bind f

instance : Monad Job where
  pure := .done
  bind := .bind

def isDone : Job α → Bool
  | .done _ => true
  | _ => false

/-- One step of a job; a job that is done stays as it is. -/
def step : Job α → World → Job α × World
  | .done a, w => (.done a, w)
  | .send q next, w =>
    let r := w.exchange q
    (next r.1, r.2)
  | .note n next, w => (next, w.note n)
  | .pause d next, w => (next, w.pause d)
  | .write path text next, w =>
    let r := w.writeFile path text
    (next r.1, r.2)
  | .look path next, w => (next (w.isFile path), w)

def run : Job α → World → α × World
  | .done a, w => (a, w)
  | .send q next, w =>
    let r := w.exchange q
    (next r.1).run r.2
  | .note n next, w => next.run (w.note n)
  | .pause d next, w => next.run (w.pause d)
  | .write path text next, w =>
    let r := w.writeFile path text
    (next r.1).run r.2
  | .look path next, w => (next (w.isFile path)).run w

end Job

def sendRequest (q : Http.Request) : Job Http.Reply := .send q .done

def writeNotice (n : Notice) : Job Unit := .note n (.done ())

def waitFor (d : Duration) : Job Unit := .pause d (.done ())

def storeText (path text : String) : Job (Except Host.Fault Unit) := .write path text .done

def lookForFile (path : String) : Job Bool := .look path .done

def Action.doJob {α : Type} (j : Job α) : Action α := modifyGet j.run

/-- A job whose failure ends the action. -/
def Action.tryJob {α : Type} (j : Job (Except Failure α)) : Action α := do
  Action.ofExcept (← Action.doJob j)

end Compliance
