import ScriptGateway.Config.Engine
import ScriptGateway.Config.Environment
import ScriptGateway.Config.Error
import ScriptGateway.Config.Executor
import ScriptGateway.Config.Gateway
import ScriptGateway.Config.Logging
import ScriptGateway.Config.Server
import ScriptGateway.Config.TimeSpan
import ScriptGateway.Decimal.Binary
import ScriptGateway.Decimal.DigitTable
import ScriptGateway.Decimal.Natural
import ScriptGateway.Decimal.Numeral
import ScriptGateway.Decimal.Shortest
import ScriptGateway.Engine.Activation
import ScriptGateway.Engine.Bridge
import ScriptGateway.Engine.Calls
import ScriptGateway.Engine.Error
import ScriptGateway.Engine.Extensions
import ScriptGateway.Engine.Lifecycle
import ScriptGateway.Engine.Mode
import ScriptGateway.Engine.Operators
import ScriptGateway.Executor.Error
import ScriptGateway.Executor.Machine
import ScriptGateway.Executor.Run
import ScriptGateway.Executor.WorkerHost
import ScriptGateway.Files.Path
import ScriptGateway.Files.Tree
import ScriptGateway.Gateway
import ScriptGateway.Http.Headers
import ScriptGateway.Http.Message
import ScriptGateway.Http.Target
import ScriptGateway.Http.Token
import ScriptGateway.Json.Printer
import ScriptGateway.Json.Reader
import ScriptGateway.Json.Value
import ScriptGateway.Log.Entry
import ScriptGateway.Log.Event
import ScriptGateway.Main
import ScriptGateway.Net.Address
import ScriptGateway.Pool.Error
import ScriptGateway.Pool.Machine
import ScriptGateway.Pool.Schedule
import ScriptGateway.Pool.Stats
import ScriptGateway.Pool.Timeline
import ScriptGateway.Project.Composer
import ScriptGateway.Project.Detection
import ScriptGateway.Project.Version
import ScriptGateway.Proofs.Config.TimeSpan
import ScriptGateway.Proofs.Config.Variables
import ScriptGateway.Proofs.Decimal.Natural
import ScriptGateway.Proofs.Decimal.Numeral
import ScriptGateway.Proofs.Decimal.Padded
import ScriptGateway.Proofs.Engine.Activation
import ScriptGateway.Proofs.Engine.Balance
import ScriptGateway.Proofs.Engine.Calls
import ScriptGateway.Proofs.Engine.DefaultHeaders
import ScriptGateway.Proofs.Engine.Exclusivity
import ScriptGateway.Proofs.Engine.Execution
import ScriptGateway.Proofs.Engine.Extensions
import ScriptGateway.Proofs.Engine.Loading
import ScriptGateway.Proofs.Engine.Operators
import ScriptGateway.Proofs.Engine.Reexecution
import ScriptGateway.Proofs.Engine.Refusal
import ScriptGateway.Proofs.Engine.Tracking
import ScriptGateway.Proofs.Executor.Cookies
import ScriptGateway.Proofs.Executor.Effect
import ScriptGateway.Proofs.Executor.Host
import ScriptGateway.Proofs.Executor.Isolation
import ScriptGateway.Proofs.Executor.Messages
import ScriptGateway.Proofs.Executor.Request
import ScriptGateway.Proofs.Executor.Shutdown
import ScriptGateway.Proofs.Executor.Slots
import ScriptGateway.Proofs.Files.Path
import ScriptGateway.Proofs.Files.Tree
import ScriptGateway.Proofs.Json.RoundTrip
import ScriptGateway.Proofs.LastValue
import ScriptGateway.Proofs.Log.Line
import ScriptGateway.Proofs.Pool.Accounting
import ScriptGateway.Proofs.Pool.Accounts
import ScriptGateway.Proofs.Pool.Answers
import ScriptGateway.Proofs.Pool.Counters
import ScriptGateway.Proofs.Pool.Delivery
import ScriptGateway.Proofs.Pool.Effect
import ScriptGateway.Proofs.Pool.ExactlyOnce
import ScriptGateway.Proofs.Pool.Handles
import ScriptGateway.Proofs.Pool.Ledger
import ScriptGateway.Proofs.Pool.Progress
import ScriptGateway.Proofs.Project.Constraint
import ScriptGateway.Proofs.Project.Selection
import ScriptGateway.Proofs.Script.FallbackPage
import ScriptGateway.Proofs.Script.Headers
import ScriptGateway.Proofs.Script.Reading
import ScriptGateway.Proofs.Script.Recording
import ScriptGateway.Proofs.Script.Rendering
import ScriptGateway.Proofs.Script.Reservation
import ScriptGateway.Proofs.Script.Trace
import ScriptGateway.Proofs.Site.Asset
import ScriptGateway.Proofs.Site.Dispatch
import ScriptGateway.Proofs.Site.Drain
import ScriptGateway.Proofs.Site.EntryPoint
import ScriptGateway.Proofs.Site.HeaderFields
import ScriptGateway.Proofs.Site.HeaderLine
import ScriptGateway.Proofs.Site.Reply
import ScriptGateway.Proofs.Site.RequestBody
import ScriptGateway.Proofs.Site.TargetViews
import ScriptGateway.Proofs.Site.Variables
import ScriptGateway.Proofs.Text.Ascii
import ScriptGateway.Proofs.Text.Html
import ScriptGateway.Proofs.Text.Percent
import ScriptGateway.Proofs.Text.Split
import ScriptGateway.Proofs.Text.Utf8
import ScriptGateway.Proofs.Time.Calendar
import ScriptGateway.Proofs.Time.Order
import ScriptGateway.Proofs.Time.Timestamp
import ScriptGateway.Script.Context
import ScriptGateway.Script.HeaderBlock
import ScriptGateway.Script.Host
import ScriptGateway.Script.Program
import ScriptGateway.Script.Request
import ScriptGateway.Script.Response
import ScriptGateway.Script.Session
import ScriptGateway.Site.Asset
import ScriptGateway.Site.Dispatch
import ScriptGateway.Site.Drain
import ScriptGateway.Site.Health
import ScriptGateway.Site.Reply
import ScriptGateway.Site.ScriptRequest
import ScriptGateway.Site.Site
import ScriptGateway.Text.Blank
import ScriptGateway.Text.CaseFold
import ScriptGateway.Text.CaseProperties
import ScriptGateway.Text.Html
import ScriptGateway.Text.Lowercase
import ScriptGateway.Text.LowercaseTable
import ScriptGateway.Text.Percent
import ScriptGateway.Text.Quoted
import ScriptGateway.Text.Ranges
import ScriptGateway.Text.Split
import ScriptGateway.Text.Utf8
import ScriptGateway.Text.VisibleTable
import ScriptGateway.Time.Duration
import ScriptGateway.Time.Timestamp
