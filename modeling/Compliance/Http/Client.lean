import Compliance.Http.Url.Reader
import Compliance.Text.Utf8
import Compliance.Work.Job

/-!
The client sends requests and follows the answers that point elsewhere, up to a number of times.
With retries it sends a request again as long as the server fails, does not listen or stays silent;
any other outcome, good or bad, is final. The pause in between doubles with every attempt up to a
limit; the power of two and the product are cut down where a machine word ends.
-/

namespace Compliance.Http

structure Settings where
  userAgent : String
  timeout : Duration
  retries : Nat
  retryDelay : Duration
  deriving DecidableEq, Repr

def Settings.standard : Settings := ⟨"esg-usa-bot", .ofSeconds 30, 2, .ofMillis 500⟩

/-- A request that was not yet looked at: its address may be no URL and its headers no headers. -/
structure Draft where
  method : Method
  address : String
  headers : List (String × String)
  body : String
  deriving DecidableEq, Repr

def isHeaderChar (c : Char) : Bool := c == '\t' || (0x20 ≤ c.toNat && c.toNat ≠ 0x7F)

def isHeaderValue (s : String) : Bool := s.toList.all isHeaderChar

/-- A list of headers with one more, unless it has one of that name. -/
def withDefault (name value : String) (headers : List (String × String)) :
    List (String × String) :=
  if (headers.lookup name).isSome then headers else headers ++ [(name, value)]

def Url.asked (u : Url) : Except Error Url :=
  if !u.isHttp then .error (.schemeNotAllowed u.text)
  else if !u.isSendable then .error (.unsendable u.text)
  else .ok u

/-- The request of a draft. An address that names no host is found before a wrong header, and a URL
that cannot be asked for last. The user that an address names is not part of the URL. -/
def Draft.request (d : Draft) (settings : Settings) : Except Error Request := do
  let url ← (Url.parse d.address).mapError .malformedUrl
  if !url.hasHost then throw (.schemeNotAllowed url.text)
  if !d.headers.all fun h => isHeaderValue h.2 then throw .malformedHeader
  let url ← url.withoutUser.asked
  let headers := withDefault "accept" "*/*" (withDefault "user-agent" settings.userAgent d.headers)
  return ⟨d.method, url, headers, d.body, settings.timeout⟩

/-! ### Answers that point elsewhere -/

def Status.isRedirect (s : Status) : Bool :=
  s == 301 || s == 302 || s == 303 || s == 307 || s == 308

/-- The statuses after which the other URL is only read from. -/
def Status.isToBeRead (s : Status) : Bool := s == 301 || s == 302 || s == 303

/-- The request with which a redirect is followed. A host that was not asked before does not learn
who the client is. -/
def Request.onward (q : Request) (status : Status) (url : Url) : Request :=
  let sameHost := q.url.host == url.host && q.url.knownPort == url.knownPort
  let headers := if sameHost then q.headers else q.headers.filter (·.1 ≠ "authorization")
  if status.isToBeRead then
    ⟨.get, url, headers.filter (·.1 ≠ "content-type"), "", q.patience⟩
  else { q with url := url, headers := headers }

def Response.next? (r : Response) (url : Url) : Option Url :=
  if r.status.isRedirect then r.location.bind fun l => (url.join l).toOption else none

def redirectLimit : Nat := 10

def Request.follow : (left : Nat) → Request → Job (Except Error Response)
  | 0, q => do
    match ← sendRequest q with
    | .lost loss => return .error (.unanswered q.url.text loss)
    | .answer r =>
      match r.next? q.url with
      | none => return .ok r
      | some _ => return .error (.tooManyRedirects q.url.text)
  | left + 1, q => do
    match ← sendRequest q with
    | .lost loss => return .error (.unanswered q.url.text loss)
    | .answer r =>
      match r.next? q.url with
      | none => return .ok r
      | some url =>
        match url.asked with
        | .ok url => (q.onward r.status url).follow left
        | .error e => return .error e

/-! ### Sending again -/

def longestPause : Duration := .ofSeconds 10

/-- The powers of two, cut down to the largest number of 32 bits. -/
def doublings (attempt : Nat) : Nat :=
  if attempt < 32 then Nat.pow 2 attempt else UInt32.size - 1

/-- The pause after an attempt; attempts are counted from zero. -/
def backoff (base : Duration) (attempt : Nat) : Duration :=
  (base.times (doublings attempt)).shorter longestPause

abbrev Outcome := Except Error Response

def isTransient : Outcome → Bool
  | .ok r => r.status.isServerError
  | .error e => e.isTransient

def retryNotice (attempt : Nat) (pause : Duration) : Outcome → Notice
  | .ok r => .retryAfterStatus r.status attempt pause
  | .error e => .retryAfterError e.headline attempt pause

/-- Attempts from number `attempt` on, of which all but the first are repetitions: `left` of them
at most. -/
def retrying (base : Duration) (once : Job Outcome) (attempt : Nat) : (left : Nat) → Job Outcome
  | 0 => once
  | left + 1 => do
    let outcome ← once
    if isTransient outcome then
      let pause := backoff base attempt
      writeNotice (retryNotice attempt pause outcome)
      waitFor pause
      retrying base once (attempt + 1) left
    else return outcome

structure Client where
  settings : Settings
  deriving DecidableEq, Repr

namespace Client

def make (settings : Settings) : Except Error Client :=
  if isHeaderValue settings.userAgent then .ok ⟨settings⟩ else .error .malformedHeader

def send (c : Client) (d : Draft) : Job Outcome :=
  match d.request c.settings with
  | .error e => return .error e
  | .ok q => q.follow redirectLimit

def sendWithRetry (c : Client) (d : Draft) : Job Outcome :=
  retrying c.settings.retryDelay (c.send d) 0 c.settings.retries

end Client

def Response.text (r : Response) : Except Error String :=
  if r.complete then .ok (Text.textOfBytes r.body) else .error .bodyCutShort

end Compliance.Http
