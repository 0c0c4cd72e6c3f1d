import Preflight.Captured
import Preflight.Check
import Preflight.CommandLine.Help
import Preflight.CommandLine.Options
import Preflight.CommandLine.Reader
import Preflight.CommandLine.Word
import Preflight.Config
import Preflight.Failure
import Preflight.FileTree
import Preflight.FileTree.Listing
import Preflight.FileTree.Lookup
import Preflight.FileTree.Manifest
import Preflight.Invoker
import Preflight.Machine
import Preflight.Main
import Preflight.Program
import Preflight.Proofs.Agreement
import Preflight.Proofs.Check
import Preflight.Proofs.CommandLine.Grammar
import Preflight.Proofs.CommandLine.Options
import Preflight.Proofs.CommandLine.Reader
import Preflight.Proofs.CommandLine.Rejection
import Preflight.Proofs.CommandLine.Word
import Preflight.Proofs.Events
import Preflight.Proofs.Field
import Preflight.Proofs.FileTree.Lookup
import Preflight.Proofs.FileTree.Spelling
import Preflight.Proofs.Interference
import Preflight.Proofs.Pattern
import Preflight.Proofs.Printable
import Preflight.Proofs.Program
import Preflight.Proofs.Rehearsal
import Preflight.Proofs.Report.Grammar
import Preflight.Proofs.Report.Json
import Preflight.Proofs.Reported
import Preflight.Proofs.Resolver
import Preflight.Proofs.Script
import Preflight.Proofs.Search
import Preflight.Proofs.SearchPath
import Preflight.Proofs.Sink
import Preflight.Proofs.Text.Utf8
import Preflight.Proofs.Token
import Preflight.Proofs.Verdict
import Preflight.Proofs.Version
import Preflight.Registry
import Preflight.Rehearsal
import Preflight.Report
import Preflight.Report.Json
import Preflight.Resolver
import Preflight.Script
import Preflight.Sink
import Preflight.Text.Blank
import Preflight.Text.Hidden
import Preflight.Text.Line
import Preflight.Text.Quoted
import Preflight.Text.Terminal
import Preflight.Text.Utf8
import Preflight.Trace
import Preflight.Verdict
import Preflight.Version
import Preflight.Proofs.Origin
