import Compliance.Http.Message

/-!
Why a request has no usable answer. An error is a chain of reasons, of which the first says what
was being done and the last what went wrong.
-/

namespace Compliance.Http

def UrlFault.text : UrlFault → String
  | .noScheme => "relative URL without a base"
  | .emptyHost => "empty host"
  | .malformedDomain => "invalid international domain name"
  | .forbiddenInHost => "invalid domain character"
  | .malformedFour => "invalid IPv4 address"
  | .malformedEight => "invalid IPv6 address"
  | .malformedPort => "invalid port number"

inductive Error
  | malformedUrl (fault : UrlFault)
  | malformedHeader
  | schemeNotAllowed (url : String)
  | unsendable (url : String)
  | unanswered (url : String) (loss : Loss)
  | tooManyRedirects (url : String)
  | bodyCutShort
  deriving DecidableEq, Repr

def Loss.chain : Loss → List String
  | .unconnected fault => ["client error (Connect)", "tcp connect error", fault.message]
  | .closed => ["client error (SendRequest)", "connection closed before message completed"]
  | .timedOut => ["operation timed out"]

namespace Error

def headline : Error → String
  | malformedUrl _ => "builder error"
  | malformedHeader => "builder error"
  | schemeNotAllowed url => "builder error for url (" ++ url ++ ")"
  | unsendable url => "builder error for url (" ++ url ++ ")"
  | unanswered url _ => "error sending request for url (" ++ url ++ ")"
  | tooManyRedirects url => "error following redirect for url (" ++ url ++ ")"
  | bodyCutShort => "error decoding response body"

/-- All reasons, the outermost first. -/
def chain (e : Error) : List String :=
  e.headline ::
    match e with
    | malformedUrl fault => [fault.text]
    | malformedHeader => ["failed to parse header value"]
    | schemeNotAllowed _ => ["URL scheme is not allowed"]
    | unsendable _ => ["Parsed Url is not a valid Uri"]
    | unanswered _ loss => loss.chain
    | tooManyRedirects _ => ["too many redirects"]
    | bodyCutShort =>
      ["error reading a body from connection", "end of file before message length reached"]

/-- An error that may be gone when the request is sent again: no connection came about, or no
answer came in time. -/
def isTransient : Error → Bool
  | unanswered _ (.unconnected _) => true
  | unanswered _ .timedOut => true
  | _ => false

end Error

end Compliance.Http
