import Compliance.Text.Blank

/-!
The command that prints the manifest: a program and its arguments, written as words on a line.
-/

namespace Compliance.Manifest

structure Command where
  program : String
  args : List String
  deriving DecidableEq, Repr

namespace Command

/-- The command that a line of words gives; a line without a word gives none. -/
def parse (line : String) : Option Command :=
  match Text.words line with
  | [] => none
  | program :: args => some ⟨program, args⟩

def shown (c : Command) : String := " ".intercalate (c.program :: c.args)

def standardLine : String := "dep status -json"

def standard : Command := ⟨"dep", ["status", "-json"]⟩

end Command

end Compliance.Manifest
