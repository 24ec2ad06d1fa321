import Compliance.Http.Message

/-!
A server that answers from a script, and two kinds of network: one in which every server can be
reached, and one without any connection. A route of the script has a list of replies, which are
given one after another, the last one for ever.
-/

namespace Compliance.Http

structure Route where
  method : String
  target : String
  replies : List Reply
  deriving DecidableEq, Repr

namespace Route

def isFor (r : Route) (q : Request) : Bool :=
  r.method == q.method.text && r.target == q.url.target

/-- The reply to the request that comes after `n` others on the same route. -/
def reply? (r : Route) (n : Nat) : Option Reply := r.replies[min n (r.replies.length - 1)]?

end Route

def Response.unknown : Response := ⟨404, none, [], true⟩

def History.count (h : History) (q : Request) : Nat :=
  h.received.countP fun p => p.method == q.method && p.url.target == q.url.target

/-- A network with one server, at a host and a port. Nobody listens anywhere else. -/
def Network.scripted (authority : String) (routes : List Route) : Network := fun h q =>
  if q.url.authority ≠ authority then .lost (.unconnected .connectionRefused)
  else
    match (routes.find? (·.isFor q)).bind (·.reply? (h.count q)) with
    | some r => r
    | none => .answer .unknown

def Network.unreachable : Network := fun _ _ => .lost (.unconnected .networkUnreachable)

end Compliance.Http
