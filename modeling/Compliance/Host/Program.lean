import Compliance.Host.Tree

/-!
Programs that the host can start: what one is asked to do, and what is left when it has ended.
-/

namespace Compliance.Host

structure Start where
  folder : Location
  program : String
  args : List String
  deriving DecidableEq, Repr

inductive Ending
  | exited (code : UInt8)
  | killed (signal : Nat)
  deriving DecidableEq, Repr

def signalNames : List (Nat × String) :=
  [(1, "SIGHUP"), (2, "SIGINT"), (3, "SIGQUIT"), (4, "SIGILL"), (5, "SIGTRAP"), (6, "SIGABRT"),
    (7, "SIGBUS"), (8, "SIGFPE"), (9, "SIGKILL"), (10, "SIGUSR1"), (11, "SIGSEGV"),
    (12, "SIGUSR2"), (13, "SIGPIPE"), (14, "SIGALRM"), (15, "SIGTERM"), (16, "SIGSTKFLT"),
    (17, "SIGCHLD"), (18, "SIGCONT"), (19, "SIGSTOP"), (20, "SIGTSTP"), (21, "SIGTTIN"),
    (22, "SIGTTOU"), (23, "SIGURG"), (24, "SIGXCPU"), (25, "SIGXFSZ"), (26, "SIGVTALRM"),
    (27, "SIGPROF"), (28, "SIGWINCH"), (29, "SIGIO"), (30, "SIGPWR"), (31, "SIGSYS")]

namespace Ending

def isSuccess (e : Ending) : Bool := e == .exited 0

def text : Ending → String
  | exited code => "exit status: " ++ toString code.toNat
  | killed signal =>
    "signal: " ++ toString signal ++
      ((signalNames.lookup signal).elim "" fun name => " (" ++ name ++ ")")

end Ending

structure Output where
  written : List UInt8
  complaints : List UInt8
  ending : Ending
  deriving DecidableEq, Repr

abbrev Programs := Start → Except Fault Output

/-- A text with a NUL can be no program name and no argument. -/
def Start.hasNul (s : Start) : Bool := (s.program :: s.args).any (·.toList.contains '\x00')

/-- A program whose name has a part that no entry can have. -/
def Start.isTooLong (s : Start) : Bool :=
  (Path.names s.program).any fun name => Tree.longestName < name.utf8ByteSize

def Programs.start (programs : Programs) (s : Start) : Except Fault Output :=
  if s.hasNul then .error .nulInArgument
  else if s.isTooLong then .error .nameTooLong
  else programs s

end Compliance.Host
