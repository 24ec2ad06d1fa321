import Compliance.Host.Program
import Compliance.Http.Server
import Compliance.Work.Failure
import Compliance.Work.Notice

/-!
Everything outside the program that it can see or change. What the network answers, what becomes of
programs, how the steps of workers follow one another and what time it is are given from outside;
the files are changed, and the rest is a record of what was done, each list with the oldest first.
-/

namespace Compliance

structure World where
  network : Http.Network
  programs : Host.Programs
  turns : List Nat
  clock : Int
  tree : Host.Tree
  folder : Host.Location
  history : Http.History
  starts : List (Host.Start × Except Host.Fault Host.Output)
  notices : List Notice
  printed : List String
  pauses : List Duration

namespace World

/-- A world in which nothing has been done. Programs are all missing, nothing is connected, and
workers take their steps one after the other. -/
def quiet : World where
  network := .unreachable
  programs := fun _ => .error .noEntry
  turns := []
  clock := 0
  tree := .empty
  folder := []
  history := []
  starts := []
  notices := []
  printed := []
  pauses := []

def exchange (w : World) (q : Http.Request) : Http.Reply × World :=
  let r := w.network w.history q
  (r, { w with history := w.history ++ [(q, r)] })

def startProgram (w : World) (s : Host.Start) : Except Host.Fault Host.Output × World :=
  let r := w.programs.start s
  (r, { w with starts := w.starts ++ [(s, r)] })

def note (w : World) (n : Notice) : World := { w with notices := w.notices ++ [n] }

def print (w : World) (text : String) : World := { w with printed := w.printed ++ [text] }

def pause (w : World) (d : Duration) : World := { w with pauses := w.pauses ++ [d] }

def writeFile (w : World) (path text : String) : Except Host.Fault Unit × World :=
  match w.tree.writeFile w.folder path text with
  | .ok t => (.ok (), { w with tree := t })
  | .error f => (.error f, w)

def makeFolders (w : World) (path : String) : Except Host.Fault Unit × World :=
  let r := w.tree.makeFolders w.folder path
  (r.1, { w with tree := r.2 })

def isFile (w : World) (path : String) : Bool := w.tree.isFile w.folder path

def output (w : World) : String := String.join (w.printed.map (· ++ "\n"))

/-- The requests that reached a server. -/
def received (w : World) : List Http.Request := w.history.received

def started (w : World) : List Host.Start := (w.starts.filter (·.2.isOk)).map (·.1)

end World

/-- An action on the world, which may give up. What was done before that stays done. -/
abbrev Action (α : Type) := ExceptT Failure (StateM World) α

namespace Action

def fail {α : Type} (c : Cause) : Action α := throw (.of c)

def under {α : Type} (heading : String) (a : Action α) : Action α :=
  ExceptT.mk do return (← a.run).mapError (·.under heading)

def ofExcept {α : Type} (x : Except Failure α) : Action α := liftExcept x

def print (text : String) : Action Unit := modify (·.print text)

def note (n : Notice) : Action Unit := modify (·.note n)

/-- A change of the world that the host may refuse. -/
def ofHost {α : Type} (f : World → Except Host.Fault α × World) : Action α := do
  match ← modifyGet f with
  | .ok a => return a
  | .error e => fail (.host e)

end Action

end Compliance
