import Compliance.Calendar
import Compliance.CommandLine.Grammar
import Compliance.CommandLine.Options
import Compliance.CommandLine.Reader
import Compliance.Decimal.Shortest
import Compliance.Dependency
import Compliance.Duration
import Compliance.GitHub.Client
import Compliance.GitHub.CommitDate
import Compliance.Host.Fault
import Compliance.Host.Path
import Compliance.Host.Program
import Compliance.Host.Tree
import Compliance.Http.Address
import Compliance.Http.Client
import Compliance.Http.Domain
import Compliance.Http.Domain.Mapping
import Compliance.Http.Domain.Punycode
import Compliance.Http.Error
import Compliance.Http.Host
import Compliance.Http.Message
import Compliance.Http.Percent
import Compliance.Http.Server
import Compliance.Http.Url
import Compliance.Http.Url.Path
import Compliance.Http.Url.Reader
import Compliance.Json.Fault
import Compliance.Json.Literal
import Compliance.Json.Number
import Compliance.Json.Reader
import Compliance.Json.Skip
import Compliance.Json.Value
import Compliance.Json.Writer
import Compliance.License.Fetch
import Compliance.License.Outcome
import Compliance.License.Report
import Compliance.License.Store
import Compliance.License.Table
import Compliance.Main
import Compliance.Manifest.Command
import Compliance.Manifest.Listing
import Compliance.Manifest.Records
import Compliance.Run.Common
import Compliance.Run.Directive
import Compliance.Run.Licenses
import Compliance.Run.Program
import Compliance.Run.Submission
import Compliance.Submission.Answer
import Compliance.Submission.Library
import Compliance.Submission.Version
import Compliance.Text.Alphanumeric
import Compliance.Text.Blank
import Compliance.Text.Character
import Compliance.Text.Columns
import Compliance.Text.Composition
import Compliance.Text.Direction
import Compliance.Text.Extending
import Compliance.Text.Joining
import Compliance.Text.Normal
import Compliance.Text.Picture
import Compliance.Text.Printable
import Compliance.Text.Quoted
import Compliance.Text.Table
import Compliance.Text.Utf8
import Compliance.Text.Width
import Compliance.Work.Batch
import Compliance.Work.Failure
import Compliance.Work.Job
import Compliance.Work.Notice
import Compliance.Work.World
import Compliance.Proofs.Calendar
import Compliance.Proofs.Except
import Compliance.Proofs.GitHub.Asking
import Compliance.Proofs.GitHub.Place
import Compliance.Proofs.GitHub.Target
import Compliance.Proofs.Host.Files
import Compliance.Proofs.Http.Alike
import Compliance.Proofs.Http.Backoff
import Compliance.Proofs.Http.Form
import Compliance.Proofs.Http.Percent
import Compliance.Proofs.Http.Resolving
import Compliance.Proofs.Http.Retrying
import Compliance.Proofs.Http.Sending
import Compliance.Proofs.Http.Url
import Compliance.Proofs.Json.Compact
import Compliance.Proofs.Json.Grammar
import Compliance.Proofs.Json.Literal
import Compliance.Proofs.Json.Number
import Compliance.Proofs.Json.Numeral
import Compliance.Proofs.Json.Object
import Compliance.Proofs.Json.Pretty
import Compliance.Proofs.Json.Reading
import Compliance.Proofs.Json.Saying
import Compliance.Proofs.Json.Skipping
import Compliance.Proofs.Json.Spelling
import Compliance.Proofs.Json.Text
import Compliance.Proofs.License.Account
import Compliance.Proofs.License.Address
import Compliance.Proofs.License.Confinement
import Compliance.Proofs.License.Decoding
import Compliance.Proofs.License.Entry
import Compliance.Proofs.License.Order
import Compliance.Proofs.License.Policies
import Compliance.Proofs.License.Session
import Compliance.Proofs.Manifest.Command
import Compliance.Proofs.Manifest.Forms
import Compliance.Proofs.Manifest.Members
import Compliance.Proofs.Manifest.Records
import Compliance.Proofs.Run.Licenses
import Compliance.Proofs.Run.Listing
import Compliance.Proofs.Run.Preview
import Compliance.Proofs.Run.Publication
import Compliance.Proofs.Run.Secrecy
import Compliance.Proofs.Run.Secrets
import Compliance.Proofs.Run.Submission
import Compliance.Proofs.Submission.Answer
import Compliance.Proofs.Submission.Commit
import Compliance.Proofs.Submission.Day
import Compliance.Proofs.Submission.Form
import Compliance.Proofs.Submission.Libraries
import Compliance.Proofs.Text.Digits
import Compliance.Proofs.Text.Utf8
import Compliance.Proofs.Text.Words
import Compliance.Proofs.Work.Action
import Compliance.Proofs.Work.Alike
import Compliance.Proofs.Work.Event
import Compliance.Proofs.Work.Folder
import Compliance.Proofs.Work.Interleaving
import Compliance.Proofs.Work.Repeated
import Compliance.Proofs.Work.Shadow
