import Compliance.Http.Url.Path

/-!
URLs as they are read from a text. Reading is lenient: blanks at the ends and line breaks anywhere
are dropped, and characters that may not stand in a URL are percent-encoded.
-/

namespace Compliance.Http.Url

def isControlOrSpace (c : Char) : Bool := c.toNat ≤ 0x20

def clean (s : String) : List Char :=
  let inner := ((s.toList.dropWhile isControlOrSpace).reverse.dropWhile isControlOrSpace).reverse
  inner.filter fun c => c ≠ '\t' ∧ c ≠ '\n' ∧ c ≠ '\r'

/-! ### Query and fragment -/

def isEscapedInQuery (kind : Kind) (c : Char) : Bool :=
  c == ' ' || c == '"' || c == '#' || c == '<' || c == '>' || (kind ≠ .other && c == '\'')

def isTail (c : Char) : Bool := c == '?' || c == '#'

def setTail (u : Url) (cs : List Char) : Url :=
  let beforeHash := cs.takeWhile (· ≠ '#')
  let fragment := (cs.dropWhile (· ≠ '#')).drop 1
  { u with
    query := if beforeHash.head? = some '?' then
        some (String.ofList (escapeChars (isEscapedInQuery (kindOf u.scheme)) (beforeHash.drop 1)))
      else none
    fragment := if cs.contains '#' then
        some (String.ofList (escapeChars isEscapedInFragment fragment)) else none }

/-! ### The path -/

/-- Gives a URL its segments. File paths have no empty segments in front, and no host above a
drive. -/
def withSegments (u : Url) (names : List String) : Url :=
  if kindOf u.scheme = .file then
    { u with
      path := .segments (withoutEmptyTop names)
      host := if names.head?.any fun s => isDrive s.toList then some (.name "") else u.host }
  else { u with path := .segments names }

def setPath (u : Url) (above : List String) (cs : List Char) : Url :=
  let segments := Text.pieces (isSlash (kindOf u.scheme)) (cs.takeWhile (!isTail ·))
  (u.withSegments (resolve (kindOf u.scheme) above segments)).setTail (cs.dropWhile (!isTail ·))

def setWholePath (u : Url) (cs : List Char) : Url :=
  match cs with
  | c :: rest =>
    if isSlash (kindOf u.scheme) c then u.setPath [] rest
    else if kindOf u.scheme = .other ∧ isTail c then u.setTail cs
    else u.setPath [] cs
  | [] => if kindOf u.scheme = .other then u else u.setPath [] []

/-! ### User, host and port -/

def isEscapedInUser (c : Char) : Bool :=
  isEscapedInPath c || "/:;=@[\\]^|".toList.contains c

def userAndPassword (cs : List Char) : String × Option String :=
  let part (cs : List Char) := String.ofList (escapeChars isEscapedInUser cs)
  let password := (cs.dropWhile (· ≠ ':')).drop 1
  (part (cs.takeWhile (· ≠ ':')), if password = [] then none else some (part password))

/-- The part of a text that names a host: it ends at a colon that is not between brackets. -/
def hostPart (inBrackets : Bool) : List Char → List Char
  | [] => []
  | c :: cs =>
    if c = ':' ∧ ¬inBrackets then []
    else c :: hostPart (c = '[' || (inBrackets && c ≠ ']')) cs

/-- The port that digits name; the one that goes without saying is left out. -/
def portOf (scheme : String) (digits : List Char) : Except UrlFault (Option Nat) :=
  if !digits.all Char.isDigit then .error .malformedPort
  else
    let n := Text.numeral digits
    if 65535 < n then .error .malformedPort
    else if digits = [] ∨ knownPorts.lookup scheme = some n then .ok none
    else .ok (some n)

def hostOf (kind : Kind) (cs : List Char) (portFollows : Bool) : Except UrlFault Host :=
  if cs = [] then
    if kind = .web ∨ portFollows then .error .emptyHost else .ok (.name "")
  else if kind = .web then Host.ofDomain cs
  else Host.ofText cs

/-- The place of a user in front of the last `@` of an authority, and what follows. -/
def splitUser (authority : List Char) : Option (List Char) × List Char :=
  if authority.contains '@' then
    let place := (authority.reverse.takeWhile (· ≠ '@')).reverse
    (some (authority.take (authority.length - place.length - 1)), place)
  else (none, authority)

def ofAuthority (scheme : String) (cs : List Char) : Except UrlFault Url := do
  let kind := kindOf scheme
  let isEnd (c : Char) := isSlash kind c || isTail c
  let (user, place) := splitUser (cs.takeWhile (!isEnd ·))
  let rest := cs.dropWhile (!isEnd ·)
  if user = some [] ∧ place = [] ∧ rest ≠ [] then throw .emptyHost
  let (name, password) := userAndPassword (user.getD [])
  let part := hostPart false place
  let behind := place.drop part.length
  let h ← hostOf kind part (behind ≠ [])
  let p ← portOf scheme ((behind.drop 1).takeWhile (· ≠ '\\'))
  if h = .name "" ∧ (name ≠ "" ∨ password ≠ none) then throw .emptyHost
  return (Url.mk scheme name password h p (.segments []) none none).setWholePath
    ((behind.drop 1).dropWhile (· ≠ '\\') ++ rest)

/-! ### Schemes -/

def isSchemeChar (c : Char) : Bool :=
  c.isAlphanum || c == '+' || c == '-' || c == '.'

def scheme? (cs : List Char) : Option (String × List Char) :=
  match cs.dropWhile isSchemeChar with
  | ':' :: rest =>
    if (cs.head?).any Char.isAlpha then
      some (String.ofList ((cs.takeWhile isSchemeChar).map Char.toLower), rest)
    else none
  | _ => none

/-- A URL of which only the scheme and the place of a host are known. -/
def bare (scheme : String) (host : Option Host) : Url :=
  ⟨scheme, "", none, host, none, .segments [], none, none⟩

/-- Reads what follows the colon of a file URL. The host may be told behind two slashes; a drive
there is part of the path, and the own host is not told. -/
def ofFile (cs : List Char) : Except UrlFault Url :=
  let u := bare "file" (some (.name ""))
  match cs with
  | a :: b :: rest =>
    if isSlash .file a && isSlash .file b then
      let isEnd (c : Char) := isSlash .file c || isTail c
      let part := rest.takeWhile (!isEnd ·)
      if part = [] ∨ isDrive part then .ok (u.setPath [] rest)
      else
        (Host.ofDomain part).map fun h =>
          if h = .name "localhost" then u.setPath [] (rest.dropWhile (!isEnd ·))
          else ({ u with host := some h }).setWholePath (rest.dropWhile (!isEnd ·))
    else .ok (u.setPath [] (if isSlash .file a then b :: rest else cs))
  | [a] => .ok (u.setPath [] (if isSlash .file a then [] else cs))
  | [] => .ok (u.setPath [] [])

/-- Reads what follows the colon of a scheme that is not known: a host behind two slashes, a path
behind one, or a text without segments. -/
def ofOther (scheme : String) (cs : List Char) : Except UrlFault Url :=
  match cs with
  | '/' :: '/' :: rest => ofAuthority scheme rest
  | '/' :: rest => .ok ((bare scheme none).setPath [] rest)
  | _ =>
    let s := String.ofList (escapeChars (fun _ => false) (cs.takeWhile (!isTail ·)))
    .ok (({ bare scheme none with path := .rootless s }).setTail (cs.dropWhile (!isTail ·)))

/-- Reads what follows the colon of a scheme. URLs of a web scheme have a host whether two slashes
announce it or not. -/
def ofScheme (scheme : String) (rest : List Char) : Except UrlFault Url :=
  match kindOf scheme with
  | .web => ofAuthority scheme (rest.dropWhile (isSlash .web))
  | .file => ofFile rest
  | .other => ofOther scheme rest

def parse (s : String) : Except UrlFault Url :=
  match scheme? (clean s) with
  | none => .error .noScheme
  | some (scheme, rest) => ofScheme scheme rest

/-! ### Seen from another URL -/

/-- The URL that a text without a scheme stands for, seen from a URL of a web scheme. -/
def relative (base : Url) (cs : List Char) : Except UrlFault Url :=
  let slash := isSlash (kindOf base.scheme)
  let names := match base.path with
    | .segments names => names
    | .rootless _ => []
  match cs with
  | [] => .ok { base with fragment := none }
  | c :: rest =>
    if slash c ∧ (rest.head?).any slash then
      ofAuthority base.scheme
        (if cs.take 2 = ['/', '/'] then cs.drop 2 else cs.dropWhile slash)
    else if slash c then .ok (base.setPath [] rest)
    else if c = '?' then .ok (base.setTail cs)
    else if c = '#' then .ok { base.setTail cs with query := base.query }
    else .ok (base.setPath names.dropLast cs)

def join (base : Url) (s : String) : Except UrlFault Url :=
  match scheme? (clean s) with
  | none => base.relative (clean s)
  | some (scheme, rest) =>
    if scheme = base.scheme ∧ kindOf scheme = .web ∧
        ¬((rest.take 2).length = 2 ∧ (rest.take 2).all (isSlash .web)) then
      base.relative rest
    else ofScheme scheme rest

end Compliance.Http.Url
