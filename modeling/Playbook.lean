import Playbook.Activity
import Playbook.CommandLine.Arguments
import Playbook.CommandLine.Fault
import Playbook.CommandLine.Options
import Playbook.CommandLine.Report
import Playbook.CommandLine.Session
import Playbook.Cron.Field
import Playbook.Cron.Schedule
import Playbook.Decimal.Binary
import Playbook.Decimal.Count
import Playbook.Decimal.Literal
import Playbook.Decimal.Shortest
import Playbook.Decimal.Style
import Playbook.Engine
import Playbook.Expression.Builtin
import Playbook.Expression.Error
import Playbook.Expression.Evaluation
import Playbook.Expression.Operator
import Playbook.Expression.Parser
import Playbook.Expression.Syntax
import Playbook.Expression.Token
import Playbook.Failure
import Playbook.First
import Playbook.Handler.Actions
import Playbook.Handler.Basic
import Playbook.Handler.Builtin
import Playbook.Handler.CallExternal
import Playbook.Handler.Registry
import Playbook.Handler.StepRules
import Playbook.Handler.Triggers
import Playbook.Http.Message
import Playbook.Http.Url
import Playbook.Instant.Basic
import Playbook.Instant.Calendar
import Playbook.Instant.Stamp
import Playbook.Instant.Loose
import Playbook.Json.Numeral
import Playbook.Json.Printer
import Playbook.Json.Reader
import Playbook.Json.Record
import Playbook.Json.Value
import Playbook.Keyed
import Playbook.Knowledge
import Playbook.Main
import Playbook.Pattern.Basic
import Playbook.Pattern.CharSet
import Playbook.Pattern.Parser
import Playbook.Personality
import Playbook.Program.Basic
import Playbook.Program.Catalog
import Playbook.Program.Codec
import Playbook.Program.Document
import Playbook.Program.Folder
import Playbook.Program.Graph
import Playbook.Proofs.Graph.Acyclicity
import Playbook.Proofs.Graph.Reachability
import Playbook.Proofs.Program.Clean
import Playbook.Proofs.Program.Unreachable
import Playbook.Proofs.Run.Attempts
import Playbook.Proofs.Run.Completion
import Playbook.Proofs.Run.Confluence
import Playbook.Proofs.Run.Course
import Playbook.Proofs.Run.Foretold
import Playbook.Proofs.Run.Ledger
import Playbook.Proofs.Run.Move
import Playbook.Proofs.Run.Onward
import Playbook.Proofs.Run.Outcome
import Playbook.Proofs.Run.Outputs
import Playbook.Proofs.Run.Precedence
import Playbook.Proofs.Run.Readiness
import Playbook.Proofs.Run.Status
import Playbook.Proofs.Run.Termination
import Playbook.Proofs.Run.Verdict
import Playbook.Proofs.Run.Yield
import Playbook.Retention
import Playbook.Run.Context
import Playbook.Run.Dispatch
import Playbook.Run.Job
import Playbook.Run.Plan
import Playbook.Run.Result
import Playbook.Run.Scheduled
import Playbook.Run.Scheduler
import Playbook.Run.State
import Playbook.Run.Table
import Playbook.Run.Weight
import Playbook.Settings.Basic
import Playbook.Settings.Check
import Playbook.Settings.Codec
import Playbook.Settings.Document
import Playbook.Settings.Environment
import Playbook.Sum
import Playbook.Template
import Playbook.Text.Blank
import Playbook.Text.LetterCase
import Playbook.Text.LetterCase.Table
import Playbook.Text.Property
import Playbook.Text.Quoted
import Playbook.Toml.Document
import Playbook.Toml.Scalar
import Playbook.Toml.Value
import Playbook.Trace.Bus
import Playbook.Trace.Event
import Playbook.Trace.Recorder
import Playbook.Validation
import Playbook.Yaml.Cursor
import Playbook.Yaml.Document
import Playbook.Yaml.Node
import Playbook.Yaml.Scalar
import Playbook.Yaml.Token
import Playbook.Yaml.Value
import Playbook.Proofs.Run.Scheduling
import Playbook.Proofs.Run.Scan
import Playbook.Proofs.Run.Interruption
import Playbook.Proofs.Run.Cancellation
import Playbook.Proofs.Run.Provenance
import Playbook.Proofs.Run.Snapshot
import Playbook.Proofs.Run.Variables
import Playbook.Proofs.Run.Reason
import Playbook.Proofs.Run.Clock
import Playbook.Proofs.Run.Overrun
import Playbook.Proofs.Run.Deadline
import Playbook.Proofs.Run.Tale
import Playbook.Proofs.Run.Chronicle
import Playbook.Proofs.Run.Retries
import Playbook.Proofs.Run.Recording
import Playbook.Proofs.Run.Accounting
import Playbook.Proofs.Run.Timing
import Playbook.Proofs.Run.Concurrency
import Playbook.Proofs.Run.Punctuality
import Playbook.Proofs.Run.Layout
import Playbook.Proofs.Run.Summary
import Playbook.Proofs.Run.Marks
import Playbook.Proofs.Run.Grammar
import Playbook.Proofs.Expression.Grammar
import Playbook.Proofs.Expression.Soundness
import Playbook.Proofs.Expression.Completeness
import Playbook.Proofs.Expression.Blanks
import Playbook.Proofs.Expression.Failure
import Playbook.Proofs.Program.Rendering
import Playbook.Proofs.Run.Faults
import Playbook.Proofs.Graph.Cycles
import Playbook.Proofs.Expression.Reads
import Playbook.Proofs.Handler.Condition
import Playbook.Proofs.Decimal.Order
import Playbook.Proofs.Decimal.Exact
import Playbook.Proofs.Expression.Comparison
import Playbook.Proofs.Expression.Path
import Playbook.Proofs.Program.Sameness
import Playbook.Proofs.Program.Catalog
import Playbook.Proofs.Program.Publication
import Playbook.Proofs.Program.Loading
import Playbook.Proofs.Run.Table
import Playbook.Proofs.Run.Settling
import Playbook.Proofs.Engine
import Playbook.Proofs.Retention
import Playbook.Proofs.Run.Capacity
import Playbook.Proofs.Trace.Recorder
import Playbook.Proofs.Trace.Capacity
import Playbook.Proofs.Trace.Separation
import Playbook.Proofs.Trace.Following
import Playbook.Proofs.Decimal.Whole
import Playbook.Proofs.Expression.Encoding
import Playbook.Proofs.Template.Filling
import Playbook.Proofs.Program.RoundTrip
import Playbook.Proofs.Trace.File
import Playbook.Proofs.Program.Declared
import Playbook.Proofs.Expression.Nesting
import Playbook.Proofs.Expression.Spelling
import Playbook.Proofs.Instant.Reading
import Playbook.Proofs.Expression.Clock
import Playbook.Proofs.Run.Retaining
import Playbook.Proofs.Program.Repetition
import Playbook.Proofs.Handler.TriggerCheck
import Playbook.Proofs.Handler.ActionCheck
import Playbook.Proofs.Handler.Registration
import Playbook.Proofs.Handler.Window
import Playbook.Proofs.Knowledge
import Playbook.Proofs.Program.Discovery
import Playbook.Proofs.Activity
import Playbook.Proofs.Run.Execution
