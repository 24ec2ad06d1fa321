import Compliance.Run.Directive
import Compliance.Run.Licenses
import Compliance.Run.Submission

/-!
The two programs, from their arguments to the code with which they end. Notices and the reason for
giving up go to the error output.
-/

namespace Compliance.Run

inductive Program
  | licenses
  | submission
  deriving DecidableEq, Repr

/-- How a program ends: its arguments were no use, or it ran to an end or to a failure. -/
inductive Conclusion
  | misused (fault : CommandLine.Fault)
  | ran (debug : Bool) (result : Except Failure Status)

def Program.run (p : Program) (env : CommandLine.Environment) (args : List String) (w : World) :
    Conclusion × World :=
  match p with
  | .licenses =>
    match CommandLine.Licenses.read env args with
    | .error fault => (.misused fault, w)
    | .ok o =>
      let r := (runLicenses o).run w
      (.ran o.common.debug r.1, r.2)
  | .submission =>
    match CommandLine.Submission.read env args with
    | .error fault => (.misused fault, w)
    | .ok o =>
      let r := (runSubmission o).run w
      (.ran o.common.debug r.1, r.2)

namespace Conclusion

def code : Conclusion → UInt8
  | misused .helpWanted => 0
  | misused .versionWanted => 0
  | misused _ => 2
  | ran _ (.ok status) => status.code
  | ran _ (.error _) => 1

/-- What is written to the error output, given the filter of the environment. -/
def complaints (c : Conclusion) (env : CommandLine.Environment) (w : World) : List String :=
  match c with
  | misused _ => []
  | ran debug result =>
    (w.notices.filter (isShown debug (env.lookup "RUST_LOG"))).map Notice.shownLine ++
      match result with
      | .ok _ => []
      | .error failure => ["エラー: " ++ failure.message]

end Conclusion

end Compliance.Run
