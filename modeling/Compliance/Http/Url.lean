import Compliance.Http.Host

/-!
URLs as values, and how they are written. A URL with a host has a path of segments below it; one
without has a path of segments or a text that is not divided. No segment goes up or stays where it
is.
-/

namespace Compliance.Http

inductive Path
  | segments (names : List String)
  | rootless (text : String)
  deriving DecidableEq, Repr

/-- User and password are written with percent signs. A host with an empty name is one that is not
told, although its place is there. -/
structure Url where
  scheme : String
  user : String
  password : Option String
  host : Option Host
  port : Option Nat
  path : Path
  query : Option String
  fragment : Option String
  deriving DecidableEq, Repr

namespace Url

/-! ### Schemes -/

/-- What is known of a scheme. URLs of a web scheme have a host, those of the file scheme may have
one, and those of any other scheme are not understood. -/
inductive Kind
  | web
  | file
  | other
  deriving DecidableEq, Repr

def knownPorts : List (String × Nat) :=
  [("http", 80), ("https", 443), ("ws", 80), ("wss", 443), ("ftp", 21)]

def kindOf (scheme : String) : Kind :=
  if scheme = "file" then .file
  else if (knownPorts.lookup scheme).isSome then .web
  else .other

def knownPort (u : Url) : Option Nat := u.port.or (knownPorts.lookup u.scheme)

/-! ### Writing -/

def pathText (u : Url) : String :=
  match u.path with
  | .segments names => String.join (names.map ("/" ++ ·))
  | .rootless s => s

def target (u : Url) : String := u.pathText ++ u.query.elim "" ("?" ++ ·)

def authority (u : Url) : String :=
  u.host.elim "" Host.text ++ u.port.elim "" fun p => ":" ++ toString p

def userText (u : Url) : String :=
  if u.user = "" ∧ u.password = none then ""
  else u.user ++ u.password.elim "" (":" ++ ·) ++ "@"

/-- What stands between the scheme and the path. A path that begins with an empty segment is told
apart from a host. -/
def beforePath (u : Url) : String :=
  match u.host, u.path with
  | some _, _ => "//" ++ u.userText ++ u.authority
  | none, .segments ("" :: _ :: _) => "/."
  | none, _ => ""

def text (u : Url) : String :=
  u.scheme ++ ":" ++ u.beforePath ++ u.target ++ u.fragment.elim "" ("#" ++ ·)

/-! ### Asking -/

def hasHost (u : Url) : Bool := u.host.isSome && u.host ≠ some (.name "")

def isHttp (u : Url) : Bool := u.scheme == "http" || u.scheme == "https"

/-- The URL without user and password. They are left where they are if they are no text. -/
def withoutUser (u : Url) : Url :=
  let isText (s : String) : Bool := Text.bytesOf (percentDecode s).toList = percentBytes s.toList
  if isText u.user && (u.user ≠ "" || u.password.any isText) then
    { u with user := "", password := none }
  else u

/-- Characters that a domain may hold and a request may not. -/
def isUnsendable (c : Char) : Bool := c == '"' || c == '\x60' || c == '\x7b' || c == '\x7d'

def tooLong : Nat := 65535

def isSendable (u : Url) : Bool :=
  !u.authority.toList.any isUnsendable && u.text.utf8ByteSize < tooLong

end Url

end Compliance.Http
