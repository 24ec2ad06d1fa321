/-!
The reasons for which the host refuses a request for a file, a program or a connection, and the
words in which it says so.
-/

namespace Compliance.Host

inductive Fault
  | notPermitted
  | noEntry
  | inputOutput
  | tooManyArguments
  | noProgramFormat
  | tryAgain
  | noMemory
  | noPermission
  | entryExists
  | notFolder
  | isFolder
  | tooManyOpen
  | programBusy
  | noSpace
  | readOnly
  | nameTooLong
  | tooManyLinks
  | networkUnreachable
  | connectionRefused
  | nulInPath
  | nulInArgument
  deriving DecidableEq, Repr

namespace Fault

/-- The number under which the host knows a reason. A text with a NUL never reaches the host. -/
def code? : Fault → Option Nat
  | notPermitted => some 1
  | noEntry => some 2
  | inputOutput => some 5
  | tooManyArguments => some 7
  | noProgramFormat => some 8
  | tryAgain => some 11
  | noMemory => some 12
  | noPermission => some 13
  | entryExists => some 17
  | notFolder => some 20
  | isFolder => some 21
  | tooManyOpen => some 24
  | programBusy => some 26
  | noSpace => some 28
  | readOnly => some 30
  | nameTooLong => some 36
  | tooManyLinks => some 40
  | networkUnreachable => some 101
  | connectionRefused => some 111
  | nulInPath => none
  | nulInArgument => none

def words : Fault → String
  | notPermitted => "Operation not permitted"
  | noEntry => "No such file or directory"
  | inputOutput => "Input/output error"
  | tooManyArguments => "Argument list too long"
  | noProgramFormat => "Exec format error"
  | tryAgain => "Resource temporarily unavailable"
  | noMemory => "Cannot allocate memory"
  | noPermission => "Permission denied"
  | entryExists => "File exists"
  | notFolder => "Not a directory"
  | isFolder => "Is a directory"
  | tooManyOpen => "Too many open files"
  | programBusy => "Text file busy"
  | noSpace => "No space left on device"
  | readOnly => "Read-only file system"
  | nameTooLong => "File name too long"
  | tooManyLinks => "Too many levels of symbolic links"
  | networkUnreachable => "Network is unreachable"
  | connectionRefused => "Connection refused"
  | nulInPath => "file name contained an unexpected NUL byte"
  | nulInArgument => "nul byte found in provided data"

def message (f : Fault) : String :=
  match f.code? with
  | some code => f.words ++ " (os error " ++ toString code ++ ")"
  | none => f.words

def numbered : List Fault :=
  [notPermitted, noEntry, inputOutput, tooManyArguments, noProgramFormat, tryAgain, noMemory,
    noPermission, entryExists, notFolder, isFolder, tooManyOpen, programBusy, noSpace, readOnly,
    nameTooLong, tooManyLinks, networkUnreachable, connectionRefused]

def ofCode? (code : Nat) : Option Fault := numbered.find? (·.code? == some code)

end Fault

end Compliance.Host
