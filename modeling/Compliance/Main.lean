import Compliance.Run.Program

/-!
The command line. The first argument says which program is meant, the others are its own. The
manifest is read from the standard input, in the place of what the manifest command would print;
there is no connection, and what is stored is stored in memory only.
-/

namespace Compliance

def programNamed? : String → Option Run.Program
  | "licenses" => some .licenses
  | "submission" => some .submission
  | _ => none

def variableNames : List String :=
  "RUST_LOG" ::
    (CommandLine.licensesGrammar.fallbacks ++ CommandLine.submissionGrammar.fallbacks).map (·.2)

def Run.Program.repository? (p : Run.Program) (env : CommandLine.Environment)
    (args : List String) : Option String :=
  match p with
  | .licenses => (CommandLine.Licenses.read env args).toOption.map (·.repository)
  | .submission => (CommandLine.Submission.read env args).toOption.map (·.repository)

/-- A world in which the manifest command prints a given text, with a repository that is there. -/
def worldWith (manifest : String) (repository : Option String) : World :=
  { World.quiet with
    programs := fun _ => .ok ⟨Text.bytesOf manifest.toList, [], .exited 0⟩
    tree := (Host.Tree.empty.makeFolders [] (repository.getD "")).2 }

end Compliance

open Compliance in
def main (args : List String) : IO UInt32 := do
  match args with
  | [] => return 2
  | name :: args =>
    match programNamed? name with
    | none => return 2
    | some program =>
      let manifest ← (← IO.getStdin).readToEnd
      let env ← variableNames.filterMapM fun v => return (← IO.getEnv v).map ((v, ·))
      let (conclusion, w) := program.run env args (worldWith manifest (program.repository? env args))
      (← IO.getStdout).putStr w.output
      for line in conclusion.complaints env w do
        (← IO.getStderr).putStrLn line
      return conclusion.code.toUInt32
