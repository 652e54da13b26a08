import Fleet.Base64
import Fleet.Cli.Answer
import Fleet.Cli.Arguments
import Fleet.Cli.Batches
import Fleet.Cli.Contexts
import Fleet.Cli.Grammar
import Fleet.Cli.Launch
import Fleet.Cli.Listing
import Fleet.Cli.Run
import Fleet.Cli.Watching
import Fleet.Cluster.Api
import Fleet.Cluster.Batch
import Fleet.Cluster.Client
import Fleet.Cluster.Executable
import Fleet.Cluster.Link
import Fleet.Cluster.Registry
import Fleet.Cluster.Runner
import Fleet.Cluster.Script
import Fleet.Command
import Fleet.Console.Message
import Fleet.Console.Table
import Fleet.Decimal.Layout
import Fleet.Decimal.Reading
import Fleet.Decimal.Shortest
import Fleet.Dispatch.Pool
import Fleet.Dispatch.Run
import Fleet.Dispatch.Schedule
import Fleet.Double.Arithmetic
import Fleet.Double.Basic
import Fleet.Duration
import Fleet.Environment
import Fleet.Environment.File
import Fleet.Failure
import Fleet.Files.Tree
import Fleet.Json.Basic
import Fleet.Json.Number
import Fleet.Json.Parser
import Fleet.Json.Printer
import Fleet.Kubeconfig.Basic
import Fleet.Kubeconfig.Decode
import Fleet.Kubeconfig.Resolve
import Fleet.Kubeconfig.Source
import Fleet.Limiter
import Fleet.Main
import Fleet.Pem
import Fleet.Proofs.Cli.Additions
import Fleet.Proofs.Cli.Answer
import Fleet.Proofs.Cli.Contexts
import Fleet.Proofs.Cli.Identity
import Fleet.Proofs.Cli.Lines
import Fleet.Proofs.Cli.Listing
import Fleet.Proofs.Cli.Watching
import Fleet.Proofs.Cluster.Batch
import Fleet.Proofs.Cluster.Commands
import Fleet.Proofs.Cluster.History
import Fleet.Proofs.Cluster.Link
import Fleet.Proofs.Cluster.Listing
import Fleet.Proofs.Cluster.Names
import Fleet.Proofs.Cluster.Registry
import Fleet.Proofs.Cluster.Requests
import Fleet.Proofs.Cluster.Versions
import Fleet.Proofs.Command
import Fleet.Proofs.Command.Report
import Fleet.Proofs.Console.Lines
import Fleet.Proofs.Decimal.Numeral
import Fleet.Proofs.Dispatch.Batch
import Fleet.Proofs.Dispatch.Domination
import Fleet.Proofs.Dispatch.Greedy
import Fleet.Proofs.Dispatch.Invariant
import Fleet.Proofs.Dispatch.Rounds
import Fleet.Proofs.Dispatch.Steps
import Fleet.Proofs.Double.Exact
import Fleet.Proofs.Double.Rounding
import Fleet.Proofs.Except
import Fleet.Proofs.Files.Path
import Fleet.Proofs.Files.Tree
import Fleet.Proofs.Json.Fields
import Fleet.Proofs.Json.Printer
import Fleet.Proofs.Json.Written
import Fleet.Proofs.Kubeconfig.Merge
import Fleet.Proofs.Kubeconfig.Source
import Fleet.Proofs.Limiter
import Fleet.Proofs.Resource
import Fleet.Proofs.Retry
import Fleet.Proofs.Retry.Backoff
import Fleet.Proofs.Row
import Fleet.Proofs.Row.Order
import Fleet.Proofs.Selection
import Fleet.Proofs.Session
import Fleet.Proofs.Settings
import Fleet.Proofs.Supervisor.Backoff
import Fleet.Proofs.Supervisor.Course
import Fleet.Proofs.Supervisor.History
import Fleet.Proofs.Supervisor.Pace
import Fleet.Proofs.Supervisor.Series
import Fleet.Proofs.Supervisor.Signals
import Fleet.Proofs.Text.Blank
import Fleet.Proofs.Text.Bytes
import Fleet.Proofs.Text.Rows
import Fleet.Proofs.Text.Split
import Fleet.Proofs.Url.Path
import Fleet.Proofs.Url.Percent
import Fleet.Proofs.Watch.Beats
import Fleet.Proofs.Watch.Loop
import Fleet.Proofs.Watch.Passes
import Fleet.Resource
import Fleet.Retry
import Fleet.Row
import Fleet.Selection
import Fleet.Session
import Fleet.Settings.Basic
import Fleet.Settings.Decode
import Fleet.Shell.Program
import Fleet.Shell.Run
import Fleet.Shell.Token
import Fleet.Supervisor.Run
import Fleet.Supervisor.Signals
import Fleet.Supervisor.Tick
import Fleet.Text.Blank
import Fleet.Text.Quoted
import Fleet.Text.Reader
import Fleet.Text.Split
import Fleet.Text.Unseen
import Fleet.Text.Utf8
import Fleet.Text.Width
import Fleet.Time.Calendar
import Fleet.Time.Stamp
import Fleet.Toml.Document
import Fleet.Toml.Number
import Fleet.Toml.Quoted
import Fleet.Toml.Table
import Fleet.Toml.Value
import Fleet.Url.Address
import Fleet.Url.Basic
import Fleet.Url.Domain
import Fleet.Url.Parse
import Fleet.Url.Percent
import Fleet.Watch.Drive
import Fleet.Watch.Gate
import Fleet.Yaml.Node
import Fleet.Yaml.Printer
import Fleet.Yaml.Scalar
import Fleet.Yaml.Scan
import Fleet.Yaml.Token
import Fleet.Yaml.Value
