import ModuleHost.Boundary.Abi
import ModuleHost.Boundary.Handle
import ModuleHost.Boundary.HostCall
import ModuleHost.Cli.Arguments
import ModuleHost.Cli.Duration
import ModuleHost.Cli.Failure
import ModuleHost.Cli.Help
import ModuleHost.Cli.Pool
import ModuleHost.Cli.Run
import ModuleHost.Cli.Summary
import ModuleHost.Config.Basic
import ModuleHost.Config.Document
import ModuleHost.Config.Raw
import ModuleHost.Config.Store
import ModuleHost.Demo.Handler
import ModuleHost.Demo.Libraries
import ModuleHost.Demo.Routing
import ModuleHost.File.Library
import ModuleHost.File.Path
import ModuleHost.File.Tree
import ModuleHost.Instance.Error
import ModuleHost.Instance.Gate
import ModuleHost.Instance.State
import ModuleHost.Loader.Host
import ModuleHost.Loader.Linker
import ModuleHost.Loader.Registry
import ModuleHost.Log.Directive
import ModuleHost.Log.Filter
import ModuleHost.Log.Line
import ModuleHost.Log.Notice
import ModuleHost.Machine.Call
import ModuleHost.Machine.Context
import ModuleHost.Machine.Event
import ModuleHost.Machine.Hook
import ModuleHost.Machine.Opening
import ModuleHost.Machine.Shutdown
import ModuleHost.Machine.System
import ModuleHost.Machine.Visit
import ModuleHost.Main
import ModuleHost.Message.Header
import ModuleHost.Message.Request
import ModuleHost.Message.Response
import ModuleHost.Module.Code
import ModuleHost.Module.Handler
import ModuleHost.Module.Library
import ModuleHost.Module.Recorder
import ModuleHost.Module.Script
import ModuleHost.Module.View
import ModuleHost.Pattern.Atom
import ModuleHost.Pattern.Basic
import ModuleHost.Pattern.Bracket
import ModuleHost.Pattern.Mode
import ModuleHost.Program
import ModuleHost.Scenario.Outcome
import ModuleHost.Scenario.Play
import ModuleHost.Scenario.Step
import ModuleHost.Session.Play
import ModuleHost.Session.Step
import ModuleHost.Text.Blank
import ModuleHost.Text.Digits
import ModuleHost.Text.Json
import ModuleHost.Text.Letters
import ModuleHost.Text.Quoted
import ModuleHost.Text.Ranges
import ModuleHost.Text.Unprintable
import ModuleHost.Text.Utf8
import ModuleHost.Toml.Document
import ModuleHost.Toml.Reader
import ModuleHost.Toml.Scalar
import ModuleHost.Toml.Value
import ModuleHost.Proofs.Run
import ModuleHost.Proofs.Timeline
import ModuleHost.Proofs.Turn
import ModuleHost.Proofs.Context.Hold
import ModuleHost.Proofs.Instance.Books
import ModuleHost.Proofs.Context.Inner
import ModuleHost.Proofs.Context.Passage
import ModuleHost.Proofs.Instance.Calling
import ModuleHost.Proofs.Boundary.Remainder
import ModuleHost.Proofs.Boundary.Served
import ModuleHost.Proofs.Instance.Ending
import ModuleHost.Proofs.Instance.Drain
import ModuleHost.Proofs.Instance.Counters
import ModuleHost.Proofs.Instance.Fields
import ModuleHost.Proofs.Instance.Snapshot
import ModuleHost.Proofs.Context.State
import ModuleHost.Proofs.Context.Exclusion
import ModuleHost.Proofs.Instance.Account
import ModuleHost.Proofs.Instance.Lifecycle
import ModuleHost.Proofs.Instance.Verdict
import ModuleHost.Proofs.Boundary.Window
import ModuleHost.Proofs.Tenancy.Hooks
import ModuleHost.Proofs.Tenancy.Rule
import ModuleHost.Proofs.Tenancy.Turnover
import ModuleHost.Proofs.Tenancy.Slot
import ModuleHost.Proofs.Tenancy.Journey
import ModuleHost.Proofs.Tenancy.Dispatch
import ModuleHost.Proofs.Tenancy.Tenants
import ModuleHost.Proofs.Message.Headers
import ModuleHost.Proofs.Boundary.Injection
import ModuleHost.Proofs.Boundary.Direct
import ModuleHost.Proofs.Boundary.Transparency
import ModuleHost.Proofs.Containment.Contained
import ModuleHost.Proofs.Containment.Hooks
import ModuleHost.Proofs.Containment.Visits
import ModuleHost.Proofs.Containment.TwoRuns
import ModuleHost.Proofs.Instance.Refusal
import ModuleHost.Proofs.Boundary.Isolation
import ModuleHost.Proofs.Progress.Deadlock
import ModuleHost.Proofs.Loader.Registry
import ModuleHost.Proofs.Entry.Silent
import ModuleHost.Proofs.Entry.Dropped
import ModuleHost.Proofs.Cli.Settled
import ModuleHost.Proofs.Loader.Failure
import ModuleHost.Proofs.Message.History
import ModuleHost.Proofs.File.Names
import ModuleHost.Proofs.Loader.Naming
import ModuleHost.Proofs.Boundary.Output
import ModuleHost.Proofs.Context.Chronicle
import ModuleHost.Proofs.Context.Output
import ModuleHost.Proofs.Demo.Account
import ModuleHost.Proofs.Demo.Answers
import ModuleHost.Proofs.Demo.Transcript
import ModuleHost.Proofs.Demo.Forwarding
import ModuleHost.Proofs.Loader.Filenames
import ModuleHost.Proofs.File.Ancestors
import ModuleHost.Proofs.File.Following
import ModuleHost.Proofs.Entry.Lazy
import ModuleHost.Proofs.Config.Search
import ModuleHost.Proofs.Config.Saved
import ModuleHost.Proofs.Toml.Text
import ModuleHost.Proofs.Toml.Number
import ModuleHost.Proofs.Toml.Document
