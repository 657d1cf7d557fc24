import StreamSupervisor.Channel
import StreamSupervisor.Child.Wait
import StreamSupervisor.Event
import StreamSupervisor.Fault
import StreamSupervisor.Machine.Activity
import StreamSupervisor.Machine.Bytes
import StreamSupervisor.Machine.Excerpt
import StreamSupervisor.Machine.Execution
import StreamSupervisor.Machine.Files
import StreamSupervisor.Machine.Installation
import StreamSupervisor.Machine.Kernel
import StreamSupervisor.Machine.Numeral
import StreamSupervisor.Machine.Refusal
import StreamSupervisor.Machine.Signal
import StreamSupervisor.Machine.World
import StreamSupervisor.Program.Catalogue
import StreamSupervisor.Program.Host
import StreamSupervisor.Program.Manners
import StreamSupervisor.Program.Session
import StreamSupervisor.Program.Step
import StreamSupervisor.Program.Trial
import StreamSupervisor.Proofs.Channel.Alone
import StreamSupervisor.Proofs.Channel.Apart
import StreamSupervisor.Proofs.Channel.Key
import StreamSupervisor.Proofs.Channel.Race
import StreamSupervisor.Proofs.Child.Waiting
import StreamSupervisor.Proofs.Ending.Batch
import StreamSupervisor.Proofs.Ending.Course
import StreamSupervisor.Proofs.Ending.Independence
import StreamSupervisor.Proofs.Ending.Outcome
import StreamSupervisor.Proofs.Ending.Outline
import StreamSupervisor.Proofs.Ending.Reaping
import StreamSupervisor.Proofs.Ending.Tracker
import StreamSupervisor.Proofs.Ending.Wording
import StreamSupervisor.Proofs.Lock.Account
import StreamSupervisor.Proofs.Lock.Hold
import StreamSupervisor.Proofs.Lock.Line
import StreamSupervisor.Proofs.Lock.Progress
import StreamSupervisor.Proofs.Lock.Release
import StreamSupervisor.Proofs.Lock.Turn
import StreamSupervisor.Proofs.Log.Replay
import StreamSupervisor.Proofs.Program.Between
import StreamSupervisor.Proofs.Program.Host
import StreamSupervisor.Proofs.Program.Laws
import StreamSupervisor.Proofs.Program.ZeroCharacter
import StreamSupervisor.Proofs.Registry.Custody
import StreamSupervisor.Proofs.Registry.Privacy
import StreamSupervisor.Proofs.Registry.Reading
import StreamSupervisor.Proofs.Session.Moves
import StreamSupervisor.Proofs.Session.Numbers
import StreamSupervisor.Proofs.Shutdown.Finality
import StreamSupervisor.Proofs.Shutdown.Return
import StreamSupervisor.Proofs.Stream.Endpoints
import StreamSupervisor.Proofs.Stream.Playing
import StreamSupervisor.Proofs.Supervisor.Display
import StreamSupervisor.Proofs.Supervisor.Entries
import StreamSupervisor.Proofs.Supervisor.Failure
import StreamSupervisor.Proofs.Supervisor.Restart
import StreamSupervisor.Proofs.Supervisor.Service
import StreamSupervisor.Proofs.Supervisor.Success
import StreamSupervisor.Proofs.Supervisor.Sweep
import StreamSupervisor.Proofs.Token.Effect
import StreamSupervisor.Proofs.Token.Handover
import StreamSupervisor.Proofs.Token.Ownership
import StreamSupervisor.Registry.Ledger
import StreamSupervisor.Registry.Slots
import StreamSupervisor.Registry.Status
import StreamSupervisor.Session.Call
import StreamSupervisor.Session.Report
import StreamSupervisor.Session.State
import StreamSupervisor.Session.Step
import StreamSupervisor.Settings
import StreamSupervisor.Shell.Arithmetic
import StreamSupervisor.Shell.Braces
import StreamSupervisor.Shell.Builtin.Basic
import StreamSupervisor.Shell.Builtin.Jobs
import StreamSupervisor.Shell.Builtin.Names
import StreamSupervisor.Shell.Builtin.Places
import StreamSupervisor.Shell.Builtin.Usage
import StreamSupervisor.Shell.Builtin.Variables
import StreamSupervisor.Shell.Declaration
import StreamSupervisor.Shell.Evaluate
import StreamSupervisor.Shell.Expansion
import StreamSupervisor.Shell.Invocation
import StreamSupervisor.Shell.Lexicon
import StreamSupervisor.Shell.Options
import StreamSupervisor.Shell.Process
import StreamSupervisor.Shell.Reader
import StreamSupervisor.Shell.Redirect
import StreamSupervisor.Shell.Script
import StreamSupervisor.Shell.Shown
import StreamSupervisor.Shell.Simple
import StreamSupervisor.Shell.State
import StreamSupervisor.Shell.Tree
import StreamSupervisor.Stream.Arguments
import StreamSupervisor.Stream.Exit
import StreamSupervisor.Stream.Spec
import StreamSupervisor.Supervisor.Launcher
import StreamSupervisor.Supervisor.State
import StreamSupervisor.Supervisor.Trace
import StreamSupervisor.Supervisor.Transition
import StreamSupervisor.Text.Blank
import StreamSupervisor.Text.Glob
import StreamSupervisor.Text.Lookaround
import StreamSupervisor.Text.Quoting
import StreamSupervisor.Text.Regex
import StreamSupervisor.Text.Version
import StreamSupervisor.Tool.Amounts
import StreamSupervisor.Tool.Batches
import StreamSupervisor.Tool.Calendar
import StreamSupervisor.Tool.Characters
import StreamSupervisor.Tool.Columns
import StreamSupervisor.Tool.Condition
import StreamSupervisor.Tool.Counting
import StreamSupervisor.Tool.Dates
import StreamSupervisor.Tool.Decimal
import StreamSupervisor.Tool.Digest
import StreamSupervisor.Tool.Dump
import StreamSupervisor.Tool.Duration
import StreamSupervisor.Tool.Edit
import StreamSupervisor.Tool.Edit.Script
import StreamSupervisor.Tool.Encoding
import StreamSupervisor.Tool.Facts
import StreamSupervisor.Tool.Find
import StreamSupervisor.Tool.Format
import StreamSupervisor.Tool.Intake
import StreamSupervisor.Tool.Layout
import StreamSupervisor.Tool.Listing
import StreamSupervisor.Tool.Numbers
import StreamSupervisor.Tool.Options
import StreamSupervisor.Tool.Orders
import StreamSupervisor.Tool.Pages
import StreamSupervisor.Tool.Paths
import StreamSupervisor.Tool.Pieces
import StreamSupervisor.Tool.Records.Chance
import StreamSupervisor.Tool.Records.Pattern
import StreamSupervisor.Tool.Records.Reader
import StreamSupervisor.Tool.Records.Run
import StreamSupervisor.Tool.Records.Table
import StreamSupervisor.Tool.Records.Tree
import StreamSupervisor.Tool.Records.Value
import StreamSupervisor.Tool.Search
import StreamSupervisor.Tool.Sort
import StreamSupervisor.Tool.Starters
import StreamSupervisor.Tool.Streams
import StreamSupervisor.Tool.Surveys
import StreamSupervisor.Tool.Transfer
import StreamSupervisor.Tool.Wrappers
