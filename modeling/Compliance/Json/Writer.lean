import Compliance.Json.Number

/-!
Writing JSON values, on one line without spaces or over several lines with two spaces for each
level. Members are written in the order in which the value holds them. Of the characters of a
string only the quote, the backslash and the controls below space are escaped.
-/

namespace Compliance.Json

def writtenChar (c : Char) : List Char :=
  if c = '"' then ['\\', '"']
  else if c = '\\' then ['\\', '\\']
  else if c = '\x08' then ['\\', 'b']
  else if c = '\x0c' then ['\\', 'f']
  else if c = '\n' then ['\\', 'n']
  else if c = '\r' then ['\\', 'r']
  else if c = '\t' then ['\\', 't']
  else if c < ' ' then ['\\', 'u', '0', '0', (c.toNat / 16).digitChar, (c.toNat % 16).digitChar]
  else [c]

def writtenString (s : String) : List Char := '"' :: (s.toList.flatMap writtenChar ++ ['"'])

def writtenBool (b : Bool) : List Char := if b then ['t', 'r', 'u', 'e'] else ['f', 'a', 'l', 's', 'e']

mutual

def compactList : Value → List Char
  | .null => ['n', 'u', 'l', 'l']
  | .bool b => writtenBool b
  | .number n => n.text.toList
  | .string s => writtenString s
  | .array vs => '[' :: (compactItems vs ++ [']'])
  | .object ms => '{' :: (compactMembers ms ++ ['}'])

def compactItems : List Value → List Char
  | [] => []
  | [v] => compactList v
  | v :: vs => compactList v ++ ',' :: compactItems vs

def compactMembers : List (String × Value) → List Char
  | [] => []
  | [(k, v)] => writtenString k ++ ':' :: compactList v
  | (k, v) :: ms => writtenString k ++ ':' :: (compactList v ++ ',' :: compactMembers ms)

end

def newLine (level : Nat) : List Char := '\n' :: List.replicate (2 * level) ' '

mutual

def prettyList (level : Nat) : Value → List Char
  | .null => ['n', 'u', 'l', 'l']
  | .bool b => writtenBool b
  | .number n => n.text.toList
  | .string s => writtenString s
  | .array [] => ['[', ']']
  | .array (v :: vs) => '[' :: (prettyItems (level + 1) (v :: vs) ++ newLine level ++ [']'])
  | .object [] => ['{', '}']
  | .object (m :: ms) => '{' :: (prettyMembers (level + 1) (m :: ms) ++ newLine level ++ ['}'])

def prettyItems (level : Nat) : List Value → List Char
  | [] => []
  | [v] => newLine level ++ prettyList level v
  | v :: vs => newLine level ++ prettyList level v ++ ',' :: prettyItems level vs

def prettyMembers (level : Nat) : List (String × Value) → List Char
  | [] => []
  | [(k, v)] => newLine level ++ writtenString k ++ ':' :: ' ' :: prettyList level v
  | (k, v) :: ms =>
    newLine level ++ writtenString k ++ ':' :: ' ' :: (prettyList level v ++ ',' :: prettyMembers level ms)

end

def Value.compact (v : Value) : String := String.ofList (compactList v)

def Value.pretty (v : Value) : String := String.ofList (prettyList 0 v)

end Compliance.Json
