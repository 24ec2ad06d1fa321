import Compliance.Text.Extending
import Compliance.Text.Printable

/-!
Text for the eyes of a reader. In quoted text quotes and backslashes are escaped, the common controls
have short names, and every other character that would not be shown as itself stands as its number
in hexadecimal. Shielded text cannot command a terminal: the controls that terminals obey are written
as their numbers; line breaks, tabs and the controls without effect stay.
-/

namespace Compliance.Text

def quotedChar (c : Char) : String :=
  if c = '\x00' then "\\0"
  else if c = '\t' then "\\t"
  else if c = '\r' then "\\r"
  else if c = '\n' then "\\n"
  else if c = '"' then "\\\""
  else if c = '\\' then "\\\\"
  else if isExtending c || !isPrintable c then "\\u\x7b" ++ hexText c.toNat ++ "\x7d"
  else String.singleton c

def quoted (s : String) : String := "\"" ++ String.join (s.toList.map quotedChar) ++ "\""

def quotedList (xs : List String) : String := "[" ++ ", ".intercalate (xs.map quoted) ++ "]"

/-- One character of a shielded text. The bell, the backspace, the form feed, the escape, the delete
and the second block of controls are those that terminals obey. -/
def shieldedChar (c : Char) : String :=
  if c = '\x07' then "\\x07"
  else if c = '\x08' then "\\x08"
  else if c = '\x0C' then "\\x0c"
  else if c = '\x1B' then "\\x1b"
  else if c = '\x7F' then "\\x7f"
  else if isWithin 0x80 0x9F c then "\\u\x7b" ++ hexText c.toNat ++ "\x7d"
  else String.singleton c

def shielded (s : String) : String := String.join (s.toList.map shieldedChar)

end Compliance.Text
