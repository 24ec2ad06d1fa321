import Compliance.CommandLine.Reader
import Compliance.Http.Client
import Compliance.License.Fetch
import Compliance.Manifest.Command
import Compliance.Submission.Answer

/-!
The options of the two programs. What both have in common says how to get the manifest and how to
talk to servers.
-/

namespace Compliance.CommandLine

structure Common where
  githubToken : Option String
  githubAddress : String
  manifestLine : String
  workers : Nat
  timeoutSeconds : Nat
  retries : Nat
  retryDelayMillis : Nat
  debug : Bool
  deriving DecidableEq, Repr

structure Licenses where
  repository : String
  folder : String
  stalePolicy : License.StalePolicy
  jsonFile : Option String
  printJson : Bool
  common : Common
  deriving DecidableEq, Repr

structure Submission where
  repository : String
  dryRun : Bool
  projectToken : Option String
  organisationToken : Option String
  productToken : Option String
  address : String
  common : Common
  deriving DecidableEq, Repr

namespace Common

def settings (c : Common) : Http.Settings :=
  { Http.Settings.standard with
    timeout := .ofSeconds c.timeoutSeconds
    retries := c.retries
    retryDelay := .ofMillis c.retryDelayMillis }

def manifestCommand (c : Common) : Except Failure Manifest.Command :=
  match Manifest.Command.parse c.manifestLine with
  | some command => .ok command
  | none => .error (.of .commandEmpty)

end Common

/-! ### Names -/

def word : Kind := .number UInt64.size false

def halfWord : Kind := .number UInt32.size true

def commonOptions : List Slot :=
  [⟨"github-token", .text⟩, ⟨"github-api-url", .text⟩, ⟨"dep-command", .text⟩,
    ⟨"concurrency", word⟩, ⟨"timeout-secs", word⟩, ⟨"retries", halfWord⟩, ⟨"retry-delay-ms", word⟩]

def commonVariables : List (String × String) :=
  [("github-token", "CHANGELOG_GITHUB_TOKEN"), ("dep-command", "GODEP_SCOUT_DEP_COMMAND")]

def licensesGrammar : Grammar where
  positions := [⟨"REPO_DIR", .path⟩, ⟨"LICENSES_DIR", .path⟩]
  options := [⟨"stale-policy", .choice ["accept", "reject"]⟩, ⟨"json-output", .path⟩] ++
    commonOptions
  switches := ["print-json", "debug"]
  fallbacks := commonVariables

def submissionGrammar : Grammar where
  positions := [⟨"REPO_DIR", .path⟩]
  options := [⟨"project-token", .text⟩, ⟨"org-token", .text⟩, ⟨"product-token", .text⟩,
    ⟨"whitesource-url", .text⟩] ++ commonOptions
  switches := ["dry-run", "debug"]
  fallbacks := [("project-token", "WHITESOURCE_PROJECT_TOKEN"),
    ("org-token", "WHITESOURCE_ORG_TOKEN"), ("product-token", "WHITESOURCE_PRODUCT_TOKEN")] ++
    commonVariables

/-! ### Values -/

def numberOr (values : Values) (name : String) (limit : Nat) (signed : Bool) (default : Nat) : Nat :=
  ((values.lookup name).bind (number? limit signed)).getD default

def isGiven (values : Values) (name : String) : Bool := (values.lookup name).isSome

def Common.ofValues (values : Values) : Common where
  githubToken := values.lookup "github-token"
  githubAddress := (values.lookup "github-api-url").getD GitHub.publicAddress
  manifestLine := (values.lookup "dep-command").getD Manifest.Command.standardLine
  workers := numberOr values "concurrency" UInt64.size false 8
  timeoutSeconds := numberOr values "timeout-secs" UInt64.size false 30
  retries := numberOr values "retries" UInt32.size true 2
  retryDelayMillis := numberOr values "retry-delay-ms" UInt64.size false 500
  debug := isGiven values "debug"

def Licenses.ofValues (values : Values) : Licenses where
  repository := (values.lookup "REPO_DIR").getD ""
  folder := (values.lookup "LICENSES_DIR").getD ""
  stalePolicy := if values.lookup "stale-policy" = some "reject" then .reject else .accept
  jsonFile := values.lookup "json-output"
  printJson := isGiven values "print-json"
  common := .ofValues values

def Submission.ofValues (values : Values) : Submission where
  repository := (values.lookup "REPO_DIR").getD ""
  dryRun := isGiven values "dry-run"
  projectToken := values.lookup "project-token"
  organisationToken := values.lookup "org-token"
  productToken := values.lookup "product-token"
  address := (values.lookup "whitesource-url").getD Submission.publicAddress
  common := .ofValues values

def Licenses.read (env : Environment) (args : List String) : Except Fault Licenses :=
  (CommandLine.read licensesGrammar env args).map .ofValues

def Submission.read (env : Environment) (args : List String) : Except Fault Submission :=
  (CommandLine.read submissionGrammar env args).map .ofValues

end Compliance.CommandLine
