import Compliance.Http.Url
import Compliance.Host.Fault
import Compliance.Duration

/-!
Requests and what comes back for them. A reply is an answer with a status, or the reason for which
there is no answer; the body of an answer may end too early.
-/

namespace Compliance.Http

inductive Method
  | get
  | post
  deriving DecidableEq, Repr

def Method.text : Method → String
  | .get => "GET"
  | .post => "POST"

/-- A request as it is sent. The names of its headers are in lower case; `patience` says how long
the client waits for an answer. -/
structure Request where
  method : Method
  url : Url
  headers : List (String × String)
  body : String
  patience : Duration
  deriving DecidableEq, Repr

abbrev Status := Nat

namespace Status

def isSuccess (s : Status) : Bool := 200 ≤ s && s < 300

def isServerError (s : Status) : Bool := 500 ≤ s && s < 600

def reasons : List (Status × String) :=
  [(100, "Continue"), (101, "Switching Protocols"), (102, "Processing"), (103, "Early Hints"),
    (200, "OK"), (201, "Created"), (202, "Accepted"), (203, "Non Authoritative Information"),
    (204, "No Content"), (205, "Reset Content"), (206, "Partial Content"), (207, "Multi-Status"),
    (208, "Already Reported"), (226, "IM Used"), (300, "Multiple Choices"),
    (301, "Moved Permanently"), (302, "Found"), (303, "See Other"), (304, "Not Modified"),
    (305, "Use Proxy"), (307, "Temporary Redirect"), (308, "Permanent Redirect"),
    (400, "Bad Request"), (401, "Unauthorized"), (402, "Payment Required"), (403, "Forbidden"),
    (404, "Not Found"), (405, "Method Not Allowed"), (406, "Not Acceptable"),
    (407, "Proxy Authentication Required"), (408, "Request Timeout"), (409, "Conflict"),
    (410, "Gone"), (411, "Length Required"), (412, "Precondition Failed"),
    (413, "Payload Too Large"), (414, "URI Too Long"), (415, "Unsupported Media Type"),
    (416, "Range Not Satisfiable"), (417, "Expectation Failed"), (418, "I'm a teapot"),
    (421, "Misdirected Request"), (422, "Unprocessable Entity"), (423, "Locked"),
    (424, "Failed Dependency"), (425, "Too Early"), (426, "Upgrade Required"),
    (428, "Precondition Required"), (429, "Too Many Requests"),
    (431, "Request Header Fields Too Large"), (451, "Unavailable For Legal Reasons"),
    (500, "Internal Server Error"), (501, "Not Implemented"), (502, "Bad Gateway"),
    (503, "Service Unavailable"), (504, "Gateway Timeout"), (505, "HTTP Version Not Supported"),
    (506, "Variant Also Negotiates"), (507, "Insufficient Storage"), (508, "Loop Detected"),
    (510, "Not Extended"), (511, "Network Authentication Required")]

/-- A status with its reason, whatever reason the answer gave. -/
def text (s : Status) : String :=
  toString s ++ " " ++ (reasons.lookup s).getD "<unknown status code>"

end Status

/-- An answer. `location` is where it sends the client on to, and `complete` says that its body
arrived as long as it was announced. -/
structure Response where
  status : Status
  location : Option String
  body : List UInt8
  complete : Bool
  deriving DecidableEq, Repr

inductive Loss
  | unconnected (fault : Host.Fault)
  | closed
  | timedOut
  deriving DecidableEq, Repr

inductive Reply
  | answer (response : Response)
  | lost (loss : Loss)
  deriving DecidableEq, Repr

/-- A request reaches a server unless no connection comes about. -/
def Reply.isReached : Reply → Bool
  | .lost (.unconnected _) => false
  | _ => true

/-- What a client has sent so far and what came back, the oldest first. -/
abbrev History := List (Request × Reply)

/-- A network gives a reply to each request, which may depend on what was sent before. -/
abbrev Network := History → Request → Reply

def History.received (h : History) : List Request :=
  (h.filter (·.2.isReached)).map (·.1)

end Compliance.Http
