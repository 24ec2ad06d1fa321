import Compliance.Text.Alphanumeric
import Compliance.Text.Blank
import Compliance.Work.Notice

/-!
Directives say up to which rank notices are shown. A directive has a target, then in brackets a span
and in braces within them the name of a value with or without the value asked for, and behind an
equals sign a level. All parts but one may be left out; without a level everything is shown. A filter
is a list of directives, of which the narrowest one that fits a notice decides; a filter of which a
part cannot be read is as good as none.
-/

namespace Compliance.Run

structure Directive where
  target : Option String
  span : Option String
  /-- The name that a notice must have a value for, and the value asked for. -/
  field : Option (String × Option String)
  rank : Nat
  deriving DecidableEq, Repr

def topRank : Nat := 5

/-- The rank that a level names, in any case or as a number. -/
def rank? (cs : List Char) : Option Nat :=
  match Text.natural? cs with
  | some n => if n ≤ topRank then some n else none
  | none =>
    [("off", 0), ("error", 1), ("warn", 2), ("info", 3), ("debug", 4), ("trace", 5)].lookup
      (String.ofList (cs.map Char.toLower))

def rankOrTop? (cs : List Char) : Option Nat :=
  if cs = [] then some topRank else rank? cs

def mayBegin (c : Char) : Bool := c == '-' || c == ':' || c == '_' || Text.isAlphanumeric c

def fieldOf (cs : List Char) : String × Option String :=
  let ps := (Text.pieces (· == '=') cs).map String.ofList
  (ps.headD "", ps[1]?)

/-! ### Reading

Where the parts of a directive meet is decided on the text without blanks around it, but the parts
are cut out of the whole text at the same places. So the text is read as a list of pairs: a
character of the trimmed text, and the one to keep. -/

abbrev Places := List (Char × Char)

/-- The trimmed text beside the whole one, and the characters of the whole one that are left over. -/
def places (cs : List Char) : Places × List Char :=
  let trimmed := Text.trimList cs
  (trimmed.zip cs, cs.drop trimmed.length)

def kept (ps : Places) : List Char := ps.map (·.2)

/-- What stands before the first character that `stop` holds of, that character, and the rest. -/
def cut (stop : Char → Bool) (ps : Places) : Option (List Char × Char × Places) :=
  match ps.dropWhile fun p => !stop p.1 with
  | [] => none
  | p :: rest => some (kept (ps.takeWhile fun p => !stop p.1), p.1, rest)

def Directive.withLevel (d : Directive) (ps : Places) (left : List Char) : Option Directive :=
  match ps with
  | [] => some d
  | (c, _) :: rest =>
    if c = '=' then (rankOrTop? (kept rest ++ left)).map fun r => { d with rank := r } else none

def Directive.withSpan (d : Directive) (ps : Places) (left : List Char) : Option Directive :=
  match cut (fun c => c == ']' || c == '\x7b') ps with
  | none => none
  | some (name, c, rest) =>
    if c = ']' then ({ d with span := some (String.ofList name) }).withLevel rest left
    else
      let d := if name = [] then d else { d with span := some (String.ofList name) }
      match cut (· == '\x7d') rest with
      | none => none
      | some (name, _, more) =>
        if name = [] then none
        else
          match more with
          | (']', _) :: more => ({ d with field := some (fieldOf name) }).withLevel more left
          | _ => none

/-- Reads a directive. A single word is a level, or else a target. -/
def Directive.read? (cs : List Char) : Option Directive :=
  let (ps, left) := places cs
  let d : Directive := ⟨none, none, none, topRank⟩
  match ps with
  | [] => none
  | (c, _) :: rest =>
    if c = '[' then d.withSpan rest left
    else if !mayBegin c then none
    else
      match cut (fun c => c == '=' || c == '[') ps with
      | none =>
        let word := kept ps ++ left
        match rank? word with
        | some r => some { d with rank := r }
        | none => some { d with target := some (String.ofList word) }
      | some (target, c, rest) =>
        let d := { d with target := some (String.ofList target) }
        if c = '=' then (rankOrTop? (kept rest ++ left)).map fun r => { d with rank := r }
        else d.withSpan rest left

/-! ### Choosing -/

/-- Directives that ask for a span or for a value say nothing about notices, which stand in no span
and are not looked at for their values. -/
def Directive.isForNotices (d : Directive) : Bool :=
  d.span.isNone && d.field.all (·.2.isNone)

def Directive.fits (d : Directive) (n : Notice) : Bool :=
  (d.target.all fun t => t.toList.isPrefixOf n.target.toList) &&
    d.field.all fun f => n.names.contains f.1

/-- By what directives are compared: the length of the target, whether a name is asked for, and that
name. -/
def Directive.size (d : Directive) : Nat × Nat × List Char :=
  (d.target.elim 0 (·.utf8ByteSize + 1), d.field.elim 0 fun _ => 1,
    d.field.elim [] (·.1.toList))

/-- Whether a directive is at least as narrow as another one that fits the same notice: it has the
longer target, or asks for a name, or for one that comes later in the alphabet. -/
def Directive.isNarrower (a b : Directive) : Bool :=
  if a.size.1 ≠ b.size.1 then b.size.1 < a.size.1
  else if a.size.2.1 ≠ b.size.2.1 then b.size.2.1 < a.size.2.1
  else !List.lex a.size.2.2 b.size.2.2 (fun x y => x.toNat < y.toNat)

/-- Of the directives that fit, the narrowest one counts; of two equals the later one. -/
def narrowest (ds : List Directive) : Option Directive :=
  ds.foldl (fun best d => match best with
    | some b => if d.isNarrower b then some d else some b
    | none => some d) none

def directives? (filter : String) : Option (List Directive) :=
  ((Text.pieces (· == ',') filter.toList).filter (· ≠ [])).mapM Directive.read?

/-- The rank up to which directives show a notice. Where there are none only errors are shown. -/
def rankFor (ds : List Directive) (n : Notice) : Nat :=
  if ds = [] then Level.error.rank
  else
    ((narrowest (ds.filter fun d => d.isForNotices && d.fits n)).map (·.rank)).getD 0

/-- Whether a notice is shown. A wish for details overrides the filter. -/
def isShown (debug : Bool) (filter : Option String) (n : Notice) : Bool :=
  if debug then n.level.rank ≤ Level.debug.rank
  else
    match filter.bind directives? with
    | some ds => n.level.rank ≤ rankFor ds n
    | none => n.level.rank ≤ Level.info.rank

end Compliance.Run
